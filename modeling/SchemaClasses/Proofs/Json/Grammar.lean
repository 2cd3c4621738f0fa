import SchemaClasses.Json.Decode
import SchemaClasses.Proofs.Outcome

/-!
# What JSON texts spell

The grammar of JSON, told without a reader: `Spells cs p rest` says that the text `cs` opens with the phrase `p` and
that `rest` stands behind it. A phrase is a value or what an array or object holds up to its closing bracket; blanks
may stand in front of a phrase and between its parts. `Spelled` says of a whole text what tree it spells. A tree that is
spelled has no faults (`Spelled.whole`).
-/

namespace SchemaClasses.Json

/-! ## Parts of a text -/

/-- Between the places `cs` and `rest` of a text stand blanks only. -/
def Blanks (cs rest : List Char) : Prop := ∃ bs, (∀ b ∈ bs, isBlank b = true) ∧ cs = bs ++ rest

/-- At least one digit, and nothing else. -/
def Digits (ds : List Char) : Prop := ds ≠ [] ∧ ∀ d ∈ ds, d.isDigit = true

/-- The digits before the fraction of a number: no zero stands in front of others. -/
def WholeDigits (ds : List Char) : Prop := Digits ds ∧ ∀ d ds', ds ≠ '0' :: d :: ds'

/-- The texts of a fraction, which may be left out. -/
inductive FractionText : Option (List Char) → List Char → Prop where
  | none : FractionText none []
  | some {ds : List Char} : Digits ds → FractionText (some ds) ('.' :: ds)

/-- The texts of the sign of an exponent. -/
inductive SignText : Bool → List Char → Prop where
  | none : SignText false []
  | plus : SignText false ['+']
  | minus : SignText true ['-']

/-- The texts of an exponent, which may be left out. -/
inductive ExponentText : Option (Bool × List Char) → List Char → Prop where
  | none : ExponentText none []
  | some {e : Char} {negative : Bool} {sign ds : List Char} : e = 'e' ∨ e = 'E' → SignText negative sign → Digits ds →
      ExponentText (some (negative, ds)) (e :: sign ++ ds)

/-- The texts of a number behind its sign. -/
structure NumeralText (n : Numeral) (cs : List Char) : Prop where
  whole : WholeDigits n.whole
  parts : ∃ fraction exponent, FractionText n.fraction fraction ∧ ExponentText n.exponent exponent ∧
    cs = n.whole ++ fraction ++ exponent

/-- The texts of the pieces of a string literal. -/
inductive PiecesText : List Piece → List Char → Prop where
  | nil : PiecesText [] []
  | char {c : Char} {ps : List Piece} {cs : List Char} : 32 ≤ c.toNat → c ≠ '"' → c ≠ '\\' → PiecesText ps cs →
      PiecesText (.char c :: ps) (c :: cs)
  | escape {e c : Char} {ps : List Piece} {cs : List Char} : unescape? e = some c → PiecesText ps cs →
      PiecesText (.char c :: ps) ('\\' :: e :: cs)
  | unit {a b c d : Char} {n : Nat} {ps : List Piece} {cs : List Char} : Text.ofHex? [a, b, c, d] = some n →
      PiecesText ps cs → PiecesText (.unit n :: ps) ('\\' :: 'u' :: a :: b :: c :: d :: cs)

/-- The text opens with a key and its colon, in front of the rest. -/
def KeyText (ps : List Piece) (cs rest : List Char) : Prop :=
  ∃ key colon, PiecesText ps key ∧ Blanks cs ('"' :: (key ++ '"' :: colon)) ∧ Blanks colon (':' :: rest)

/-! ## Phrases -/

/-- What a text can open with: a value, or the items or members up to a closing bracket. -/
inductive Phrase where
  | value (t : Tree)
  | items (ts : List Tree)
  | members (ms : List (Tree × Tree))

/-- The text opens with a phrase, in front of the rest. -/
inductive Spells : List Char → Phrase → List Char → Prop where
  | blank {b : Char} {cs rest : List Char} {t : Tree} : isBlank b = true → Spells cs (.value t) rest →
      Spells (b :: cs) (.value t) rest
  | null {rest : List Char} : Spells ('n' :: 'u' :: 'l' :: 'l' :: rest) (.value .null) rest
  | true {rest : List Char} : Spells ('t' :: 'r' :: 'u' :: 'e' :: rest) (.value (.bool true)) rest
  | false {rest : List Char} : Spells ('f' :: 'a' :: 'l' :: 's' :: 'e' :: rest) (.value (.bool false)) rest
  | positive {n : Numeral} {cs rest : List Char} : n.negative = false → NumeralText n cs →
      Spells (cs ++ rest) (.value (.number n)) rest
  | negative {n : Numeral} {cs rest : List Char} : n.negative = true → NumeralText n cs →
      Spells ('-' :: (cs ++ rest)) (.value (.number n)) rest
  | string {ps : List Piece} {cs rest : List Char} : PiecesText ps cs →
      Spells ('"' :: (cs ++ '"' :: rest)) (.value (.string ⟨ps, none⟩)) rest
  | emptyArray {cs rest : List Char} : Blanks cs (']' :: rest) → Spells ('[' :: cs) (.value (.array [] none)) rest
  | array {cs rest : List Char} {ts : List Tree} : Spells cs (.items ts) rest →
      Spells ('[' :: cs) (.value (.array ts none)) rest
  | emptyObject {cs rest : List Char} : Blanks cs ('\x7d' :: rest) →
      Spells ('\x7b' :: cs) (.value (.object [] none)) rest
  | object {cs rest : List Char} {ms : List (Tree × Tree)} : Spells cs (.members ms) rest →
      Spells ('\x7b' :: cs) (.value (.object ms none)) rest
  | lastItem {cs close rest : List Char} {t : Tree} : Spells cs (.value t) close → Blanks close (']' :: rest) →
      Spells cs (.items [t]) rest
  | item {cs comma next rest : List Char} {t : Tree} {ts : List Tree} : Spells cs (.value t) comma →
      Blanks comma (',' :: next) → Spells next (.items ts) rest → Spells cs (.items (t :: ts)) rest
  | lastMember {cs behind close rest : List Char} {ps : List Piece} {t : Tree} : KeyText ps cs behind →
      Spells behind (.value t) close → Blanks close ('\x7d' :: rest) →
      Spells cs (.members [(.string ⟨ps, none⟩, t)]) rest
  | member {cs behind comma next rest : List Char} {ps : List Piece} {t : Tree} {ms : List (Tree × Tree)} :
      KeyText ps cs behind → Spells behind (.value t) comma → Blanks comma (',' :: next) →
      Spells next (.members ms) rest → Spells cs (.members ((.string ⟨ps, none⟩, t) :: ms)) rest

/-- A whole text spells a tree; only blanks may follow it. -/
def Spelled (text : String) (t : Tree) : Prop := ∃ rest, Spells text.toList (.value t) rest ∧ Blanks rest []

/-! ## Whole trees -/

theorem checkFault_eq_ok_iff {fault : Option Fault} : checkFault fault = .ok () ↔ fault = none := by
  cases fault with
  | none => exact ⟨fun _ => rfl, fun _ => rfl⟩
  | some f => constructor <;> intro h <;> cases h

namespace Tree

/-- A tree without faults, in text that may be passed over. -/
def Whole (t : Tree) : Prop := skip t = .ok ()

/-- A key without faults. -/
def WholeKey (k : Tree) : Prop := ∃ s, k = .string s ∧ s.fault = none

theorem whole_string {s : Spelling} : (string s).Whole ↔ s.fault = none := by
  unfold Whole
  rw [skip]
  exact checkFault_eq_ok_iff

theorem skipItems_eq_ok_iff {ts : List Tree} : skipItems ts = .ok () ↔ ∀ t ∈ ts, t.Whole := by
  induction ts with
  | nil => simp [skipItems]
  | cons t ts ih =>
    rw [skipItems, Outcome.bind_eq_ok_iff, List.forall_mem_cons, ih]
    exact ⟨fun ⟨_, ht, hts⟩ => ⟨ht, hts⟩, fun ⟨ht, hts⟩ => ⟨(), ht, hts⟩⟩

theorem skipMembers_cons_eq_ok_iff {k t : Tree} {ms : List (Tree × Tree)} :
    skipMembers ((k, t) :: ms) = .ok () ↔ k.WholeKey ∧ t.Whole ∧ skipMembers ms = .ok () := by
  constructor
  · intro h
    cases k with
    | string s =>
      obtain ⟨_, hs, h⟩ := Outcome.bind_eq_ok_iff.1 h
      obtain ⟨_, ht, hms⟩ := Outcome.bind_eq_ok_iff.1 h
      exact ⟨⟨s, rfl, checkFault_eq_ok_iff.1 hs⟩, ht, hms⟩
    | _ => cases h
  · rintro ⟨⟨s, rfl, hs⟩, ht, hms⟩
    exact Outcome.bind_eq_ok_iff.2 ⟨(), checkFault_eq_ok_iff.2 hs, Outcome.bind_eq_ok_iff.2 ⟨(), ht, hms⟩⟩

theorem skipMembers_eq_ok_iff {ms : List (Tree × Tree)} :
    skipMembers ms = .ok () ↔ ∀ m ∈ ms, m.1.WholeKey ∧ m.2.Whole := by
  induction ms with
  | nil => simp [skipMembers]
  | cons m ms ih =>
    obtain ⟨k, t⟩ := m
    rw [skipMembers_cons_eq_ok_iff, List.forall_mem_cons, ih, and_assoc]

theorem whole_array {ts : List Tree} {fault : Option Fault} :
    (array ts fault).Whole ↔ (∀ t ∈ ts, t.Whole) ∧ fault = none := by
  rw [← checkFault_eq_ok_iff, ← skipItems_eq_ok_iff]
  unfold Whole
  rw [skip, Outcome.bind_eq_ok_iff]
  exact ⟨fun ⟨_, hts, hf⟩ => ⟨hts, hf⟩, fun ⟨hts, hf⟩ => ⟨(), hts, hf⟩⟩

theorem whole_object {ms : List (Tree × Tree)} {fault : Option Fault} :
    (object ms fault).Whole ↔ (∀ m ∈ ms, m.1.WholeKey ∧ m.2.Whole) ∧ fault = none := by
  rw [← checkFault_eq_ok_iff, ← skipMembers_eq_ok_iff]
  unfold Whole
  rw [skip, Outcome.bind_eq_ok_iff]
  exact ⟨fun ⟨_, hms, hf⟩ => ⟨hms, hf⟩, fun ⟨hms, hf⟩ => ⟨(), hms, hf⟩⟩

end Tree

/-- Nothing in a phrase is a fault. -/
def Phrase.Whole : Phrase → Prop
  | .value t => t.Whole
  | .items ts => ∀ t ∈ ts, t.Whole
  | .members ms => ∀ m ∈ ms, m.1.WholeKey ∧ m.2.Whole

/-- What a text spells has no faults. -/
theorem Spells.whole {cs rest : List Char} {p : Phrase} (h : Spells cs p rest) : p.Whole := by
  induction h with
  | blank _ _ ih => exact ih
  | null => rfl
  | true => rfl
  | false => rfl
  | positive => rfl
  | negative => rfl
  | string => rfl
  | emptyArray => rfl
  | array _ ih => exact Tree.whole_array.2 ⟨ih, rfl⟩
  | emptyObject => rfl
  | object _ ih => exact Tree.whole_object.2 ⟨ih, rfl⟩
  | lastItem _ _ ih => exact List.forall_mem_singleton.2 ih
  | item _ _ _ iht ihts => exact List.forall_mem_cons.2 ⟨iht, ihts⟩
  | lastMember _ _ _ ih => exact List.forall_mem_singleton.2 ⟨⟨_, rfl, rfl⟩, ih⟩
  | member _ _ _ _ iht ihms => exact List.forall_mem_cons.2 ⟨⟨⟨_, rfl, rfl⟩, iht⟩, ihms⟩

theorem Spelled.whole {text : String} {t : Tree} (h : Spelled text t) : t.Whole :=
  let ⟨_, hspells, _⟩ := h
  hspells.whole

end SchemaClasses.Json
