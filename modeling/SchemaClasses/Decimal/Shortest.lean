import SchemaClasses.Decimal.Binary

/-!
# Shortest decimals

`Binary.shortest` is the decimal with the fewest digits that rounds to a given number. The numbers that round to it
form an interval; among the multiples of the powers of ten, the coarsest grid with a point in that interval is taken,
and on it the point nearest to the number (the even one of two that are equally near). `Binary.text` writes it.
-/

namespace SchemaClasses

/-- The number `digits * 10 ^ exponent`. -/
structure Decimal where
  digits : Nat
  exponent : Int
deriving DecidableEq

namespace Binary

/-- Whether `d` on the grid `10 ^ k` lies among the numbers that round to `a`; ends count for an even mantissa. -/
def reaches (a : Binary) (k : Int) (d : Nat) : Bool :=
  let (one, grid) := Binary.scaled (Nat.pow 10 (-k).toNat) (Nat.pow 10 k.toNat) (2 - a.exponent)
  let low := if a.mantissa = Nat.pow 2 52 ∧ a.exponent ≠ -1074 then 4 * a.mantissa - 1 else 4 * a.mantissa - 2
  let high := 4 * a.mantissa + 2
  if a.mantissa % 2 = 0 then low * one ≤ d * grid && d * grid ≤ high * one
  else low * one < d * grid && d * grid < high * one

/-- The point of the grid `10 ^ k` that rounds to `a` and is nearest to it, if one rounds to it. -/
def onGrid (a : Binary) (k : Int) : Option Nat :=
  let (one, grid) := Binary.scaled (Nat.pow 10 (-k).toNat) (Nat.pow 10 k.toNat) (2 - a.exponent)
  let value := 4 * a.mantissa * one
  let d := value / grid
  match a.reaches k d, a.reaches k (d + 1) with
  | false, false => none
  | true, false => some d
  | false, true => some (d + 1)
  | true, true => some (Binary.roundDiv value grid)

/-- The search for the coarsest grid, from `10 ^ k` down. -/
def searchGrid (a : Binary) : Nat → Int → Decimal
  | 0, _ => ⟨0, 0⟩
  | steps + 1, k =>
    match a.onGrid k with
    | some d => ⟨d, k⟩
    | none => a.searchGrid steps (k - 1)

/-- The shortest decimal that rounds to a number. -/
def shortest (a : Binary) : Decimal := if a.isZero then ⟨0, 0⟩ else a.searchGrid 700 310

/-- The text of a number: positional from `10 ^ -5` up to `10 ^ 16`, with one place at least, else with a signed
exponent behind `e`. -/
def text (a : Binary) : String :=
  let s := a.shortest
  let ds := Nat.toDigits 10 s.digits
  let point : Int := ds.length + s.exponent
  if a.isZero then "0.0"
  else if 0 ≤ s.exponent ∧ point ≤ 16 then
    String.ofList (ds ++ List.replicate s.exponent.toNat '0') ++ ".0"
  else if 0 < point ∧ point ≤ 16 then
    String.ofList (ds.take point.toNat) ++ "." ++ String.ofList (ds.drop point.toNat)
  else if -5 < point ∧ point ≤ 0 then
    "0." ++ String.ofList (List.replicate (-point).toNat '0' ++ ds)
  else
    let head := String.ofList (ds.take 1)
    let tail := if ds.length = 1 then "" else "." ++ String.ofList (ds.drop 1)
    let sign := if point - 1 < 0 then "-" else "+"
    head ++ tail ++ "e" ++ sign ++ toString (point - 1).natAbs

end Binary
end SchemaClasses
