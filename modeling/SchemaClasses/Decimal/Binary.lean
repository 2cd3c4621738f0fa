/-!
# Binary fractions of 53 bits

A `Binary` is a number `mantissa * 2 ^ exponent` as a 64-bit floating point word holds it, sign apart.
`Binary.ofRatio` rounds a quotient to the nearest one, a tie to the even mantissa; products and quotients are exact
and rounded once. What lies beyond the largest such number has none.
-/

namespace SchemaClasses

/-- The number `mantissa * 2 ^ exponent`, with a mantissa below `2 ^ 53` and an exponent of at least `-1074`. -/
structure Binary where
  mantissa : Nat
  exponent : Int
deriving DecidableEq

namespace Binary

/-- The quotient rounded to a whole number, a tie to the even one. -/
def roundDiv (num den : Nat) : Nat :=
  let q := num / den
  let r := num % den
  if 2 * r < den then q else if den < 2 * r then q + 1 else q + q % 2

/-- The number `num / (den * 2 ^ e)` as a quotient of whole numbers. -/
def scaled (num den : Nat) (e : Int) : Nat × Nat := (num * Nat.pow 2 (-e).toNat, den * Nat.pow 2 e.toNat)

/-- The exponent at which the quotient has 53 bits before the point, or the least one. -/
def exponentOf (num den : Nat) : Int :=
  let e : Int := num.log2 - den.log2 - 53
  let (n, d) := scaled num den e
  max (if n / d < Nat.pow 2 53 then e else e + 1) (-1074)

/-- The nearest number to a quotient, if it is not too large. -/
def ofRatio (num den : Nat) : Option Binary :=
  if num = 0 then some ⟨0, -1074⟩
  else
    let e := exponentOf num den
    let (n, d) := scaled num den e
    let m := roundDiv n d
    let (m, e) := if m = Nat.pow 2 53 then (Nat.pow 2 52, e + 1) else (m, e)
    if e ≤ 971 then some ⟨m, e⟩ else none

/-- The nearest number to a whole number. -/
def ofNat (n : Nat) : Option Binary := ofRatio n 1

/-- The product, rounded. -/
def mul (a b : Binary) : Option Binary :=
  let (n, d) := scaled (a.mantissa * b.mantissa) 1 (-(a.exponent + b.exponent))
  ofRatio n d

/-- The quotient, rounded. -/
def div (a b : Binary) : Option Binary :=
  let (n, d) := scaled a.mantissa b.mantissa (-(a.exponent - b.exponent))
  ofRatio n d

/-- Whether a number is zero. -/
def isZero (a : Binary) : Bool := a.mantissa == 0

end Binary
end SchemaClasses
