import SchemaClasses.Proofs.Json.Readers

/-!
# What is written is spelled

A text is `Written` for a tree if it spells the tree wherever it stands. The compact texts of values are: a string
literal for its pieces (`written_string`), an integer for its numeral (`written_integer`), and from them arrays and
objects (`written_array`, `written_object`). What is read of the pieces is the string (`literalText_ofText`), and what
is read of the numeral is the integer, if it has 64 bits (`value_ofInt`).
-/

namespace SchemaClasses.Json

/-- Wherever a text stands, it spells a tree. -/
def Written (text : String) (t : Tree) : Prop := ∀ rest, Spells (text.toList ++ rest) (.value t) rest

theorem blanks_refl (cs : List Char) : Blanks cs cs := ⟨[], List.forall_mem_nil _, rfl⟩

theorem Written.spelled {text : String} {t : Tree} (h : Written text t) : Spelled text t := by
  have hspells := h []
  rw [List.append_nil] at hspells
  exact ⟨[], hspells, blanks_refl []⟩

theorem written_bool (b : Bool) : Written (Value.bool b).compact (.bool b) := by
  intro rest
  cases b
  · exact .false
  · exact .true

/-! ## String literals -/

/-- The piece that a character is written as: a control without a letter of its own is numbered. -/
def pieceOf (c : Char) : Piece :=
  if c.toNat < 32 ∧ c ∉ ['\x08', '\t', '\n', '\x0c', '\r'] then .unit c.toNat else .char c

/-- The literal of a text, as spelled. -/
def Spelling.ofText (s : String) : Spelling := ⟨s.toList.map pieceOf, none⟩

/-- The tree of a text. -/
def Tree.text (s : String) : Tree := .string (.ofText s)

/-- A member with its key as a text. -/
def member (key : String) (t : Tree) : Tree × Tree := (.text key, t)

theorem ofHex?_control : ∀ n < 32, Text.ofHex? ['0', '0', Text.hexDigit (n / 16), Text.hexDigit (n % 16)] = some n := by
  decide

/-- What is written for a character spells its piece. -/
theorem piecesText_escape (c : Char) {ps : List Piece} {cs : List Char} (h : PiecesText ps cs) :
    PiecesText (pieceOf c :: ps) (escape c ++ cs) := by
  unfold escape
  split
  case h_8 hquote hslash hb ht hn hf hr =>
    have hletters : c ∉ ['\x08', '\t', '\n', '\x0c', '\r'] := by
      simp only [List.mem_cons, List.not_mem_nil, or_false, not_or]
      exact ⟨hb, ht, hn, hf, hr⟩
    by_cases hcontrol : c.toNat < 32
    · have hpiece : pieceOf c = .unit c.toNat := if_pos ⟨hcontrol, hletters⟩
      rw [if_pos hcontrol, hpiece]
      exact .unit (ofHex?_control _ hcontrol) h
    · have hpiece : pieceOf c = .char c := if_neg fun h => hcontrol h.1
      rw [if_neg hcontrol, hpiece]
      exact .char (Nat.not_lt.1 hcontrol) hquote hslash h
  all_goals exact .escape rfl h

theorem piecesText_quote (cs : List Char) : PiecesText (cs.map pieceOf) (cs.flatMap escape) := by
  induction cs with
  | nil => exact .nil
  | cons c cs ih =>
    rw [List.map_cons, List.flatMap_cons]
    exact piecesText_escape c ih

theorem charactersOf_pieceOf (c : Char) (ps : List Piece) :
    charactersOf none (pieceOf c :: ps) = (charactersOf none ps).map (c :: ·) := by
  unfold pieceOf
  split
  · rename_i hcontrol
    have hlow : isLow c.toNat = false := by simp [isLow]; omega
    have hhigh : isHigh c.toNat = false := by simp [isHigh]; omega
    rw [charactersOf.eq_def]
    simp only [hlow, hhigh, Char.ofNat_toNat, Bool.false_eq_true, if_false]
    rfl
  · rfl

/-- The literal of a text is read as the text. -/
theorem literalText_ofText (s : String) : literalText (Spelling.ofText s) = .ok s := by
  have hchars : ∀ cs : List Char, charactersOf none (cs.map pieceOf) = .ok cs := by
    intro cs
    induction cs with
    | nil => rfl
    | cons c cs ih =>
      rw [List.map_cons, charactersOf_pieceOf, ih]
      rfl
  unfold literalText Spelling.text Spelling.ofText
  rw [hchars]
  exact congrArg Except.ok (String.ofList_toList)

theorem memberKey_text (key : String) : memberKey (.text key) = .ok key := literalText_ofText key

theorem value_text (depth : Nat) (s : String) : value depth (.text s) = .ok (.string s) := by
  rw [Tree.text, value, literalText_ofText]
  rfl

theorem toList_quote (s : String) : (quote s).toList = '"' :: (s.toList.flatMap escape ++ ['"']) := String.toList_ofList

theorem written_string (s : String) : Written (Value.string s).compact (.text s) := by
  intro rest
  rw [Value.compact, toList_quote, List.cons_append, List.append_assoc]
  exact .string (piecesText_quote _)

/-! ## Numerals -/

/-- The numeral of an integer. -/
def Numeral.ofInt (n : Int) : Numeral := ⟨decide (n < 0), Nat.toDigits 10 n.natAbs, none, none⟩

/-- No zero stands in front of the digits of a number. -/
theorem toDigits_ne_zero_cons (n : Nat) : ∀ d ds, Nat.toDigits 10 n ≠ '0' :: d :: ds := by
  induction n using Nat.strongRecOn with
  | ind n ih =>
    intro d ds h
    rw [Nat.toDigits_eq_if (by decide)] at h
    split at h
    · exact List.cons_ne_nil d ds (List.cons.inj h).2.symm
    · rename_i hn
      obtain ⟨e, es, hdigits⟩ := List.exists_cons_of_ne_nil (Nat.toDigits_ne_nil (n := n / 10) (b := 10))
      rw [hdigits, List.cons_append] at h
      cases es with
      | nil =>
        -- A number whose only digit is zero is zero, but ten goes into `n`.
        have hvalue := Nat.ofDigitChars_ten_toDigits (n := n / 10)
        rw [hdigits, (List.cons.inj h).1] at hvalue
        have hzero : 0 = n / 10 := hvalue
        omega
      | cons e' es => exact ih (n / 10) (by omega) e' es (by rw [hdigits, (List.cons.inj h).1])

theorem wholeDigits_toDigits (n : Nat) : WholeDigits (Nat.toDigits 10 n) :=
  ⟨⟨Nat.toDigits_ne_nil, fun _ hd => Nat.isDigit_of_mem_toDigits (by decide) (by decide) hd⟩, toDigits_ne_zero_cons n⟩

theorem numeralText_ofInt (n : Int) : NumeralText (Numeral.ofInt n) (Nat.toDigits 10 n.natAbs) :=
  ⟨wholeDigits_toDigits _, [], [], .none, .none, by simp [Numeral.ofInt]⟩

theorem written_integer (n : Int) : Written (toString n) (.number (.ofInt n)) := by
  intro rest
  cases n with
  | ofNat m =>
    have htext : (toString (Int.ofNat m)).toList = Nat.toDigits 10 m := Nat.toList_repr
    rw [htext]
    exact .positive rfl (numeralText_ofInt (Int.ofNat m))
  | negSucc m =>
    have htext : (toString (Int.negSucc m)).toList = '-' :: Nat.toDigits 10 (m + 1) := by
      show ("-" ++ Nat.repr (m + 1)).toList = _
      rw [String.toList_append, Nat.toList_repr]
      rfl
    rw [htext, List.cons_append]
    exact .negative (decide_eq_true (Int.negSucc_lt_zero m)) (numeralText_ofInt (Int.negSucc m))

/-- Digits are taken up while the number stays in 64 bits. -/
theorem accumulate_eq {ds : List Char} : ∀ {n : Nat}, Nat.ofDigitChars 10 ds n < Nat.pow 2 64 →
    accumulate n ds = (Nat.ofDigitChars 10 ds n, 0) := by
  induction ds with
  | nil => intro n _; rfl
  | cons d ds ih =>
    intro n h
    rw [Nat.ofDigitChars_cons] at h ⊢
    have hle : 10 * n + (d.toNat - '0'.toNat) ≤ Nat.ofDigitChars 10 ds (10 * n + (d.toNat - '0'.toNat)) := by
      rw [Nat.ofDigitChars_eq_ofDigitChars_zero]
      exact Nat.le_add_right_of_le (Nat.le_mul_of_pos_left _ (Nat.pow_pos (by decide)))
    rw [accumulate]
    exact (if_pos (Nat.lt_of_le_of_lt hle h)).trans (ih h)

/-- The numeral of an integer of 64 bits is read as the integer. -/
theorem value_ofInt {n : Int} (hlow : -Int.pow 2 63 ≤ n) (hhigh : n < Int.pow 2 64) :
    (Numeral.ofInt n).value = some (.integer n) := by
  have hdigits : Nat.ofDigitChars 10 (Nat.toDigits 10 n.natAbs) 0 = n.natAbs := Nat.ofDigitChars_ten_toDigits
  have hint63 : Int.pow 2 63 = 9223372036854775808 := rfl
  have hint64 : Int.pow 2 64 = 18446744073709551616 := rfl
  have hnat63 : Nat.pow 2 63 = 9223372036854775808 := rfl
  have hnat64 : Nat.pow 2 64 = 18446744073709551616 := rfl
  have hfits : n.natAbs < Nat.pow 2 64 := by omega
  have hread : accumulate 0 (Nat.toDigits 10 n.natAbs) = (n.natAbs, 0) := by
    rw [accumulate_eq (by rw [hdigits]; exact hfits), hdigits]
  have hsign : decide (n < 0) = false ∨ (0 < n.natAbs ∧ n.natAbs ≤ Nat.pow 2 63) := by
    by_cases hn : n < 0
    · exact Or.inr (by omega)
    · exact Or.inl (decide_eq_false hn)
  have hinteger : (if decide (n < 0) = true then -(n.natAbs : Int) else (n.natAbs : Int)) = n := by
    split
    · rename_i hn
      have := of_decide_eq_true hn
      omega
    · rename_i hn
      have : ¬n < 0 := fun h => hn (decide_eq_true h)
      omega
  unfold Numeral.value Numeral.ofInt
  simp only [hread, hsign, hinteger, true_and, if_true]

/-! ## Arrays and objects -/

/-- Values and the trees that their texts spell. -/
abbrev ItemsWritten (vs : List Value) (ts : List Tree) : Prop := List.Forall₂ (fun v t => Written v.compact t) vs ts

/-- Members with their keys as written, and the trees that the texts of their values spell. -/
abbrev MembersWritten (es : List (String × Value)) (ms : List (Tree × Tree)) : Prop :=
  List.Forall₂ (fun e m => m.1 = .text e.1 ∧ Written e.2.compact m.2) es ms

/-- Two maps of one list are related where the images of each member are. -/
theorem forall₂_map {α β γ : Type} {r : β → γ → Prop} {f : α → β} {g : α → γ} (h : ∀ a, r (f a) (g a)) (l : List α) :
    List.Forall₂ r (l.map f) (l.map g) :=
  List.forall₂_map_left_iff.2 (List.forall₂_map_right_iff.2 (List.forall₂_same.2 fun a _ => h a))

theorem spells_items {v : Value} {vs : List Value} {t : Tree} {ts : List Tree} (hv : Written v.compact t)
    (h : ItemsWritten vs ts) (rest : List Char) :
    Spells ((",".intercalate (compactItems (v :: vs))).toList ++ ']' :: rest) (.items (t :: ts)) rest := by
  -- By induction on the items behind the first one: each of them has a comma in front of it.
  induction h generalizing v t with
  | nil => exact .lastItem (hv _) (blanks_refl _)
  | @cons v' t' vs ts hv' _ ih =>
    have hsplit : (",".intercalate (compactItems (v :: v' :: vs))).toList ++ ']' :: rest =
        v.compact.toList ++ ',' :: ((",".intercalate (compactItems (v' :: vs))).toList ++ ']' :: rest) := by
      simp [compactItems, String.intercalate_cons_cons]
    rw [hsplit]
    exact .item (hv _) (blanks_refl _) (ih hv')

theorem written_array {vs : List Value} {ts : List Tree} (h : ItemsWritten vs ts) :
    Written (Value.array vs).compact (.array ts none) := by
  intro rest
  cases h with
  | nil => exact .emptyArray (blanks_refl _)
  | cons hv hvs =>
    have hsplit : ∀ texts : List String, ("[" ++ ",".intercalate texts ++ "]").toList ++ rest =
        '[' :: ((",".intercalate texts).toList ++ ']' :: rest) := by simp
    rw [Value.compact, hsplit]
    exact .array (spells_items hv hvs rest)

/-- A key is written with its colon behind it. -/
theorem keyText_quote (key : String) (rest : List Char) :
    KeyText (Spelling.ofText key).pieces ((quote key).toList ++ ':' :: rest) rest := by
  refine ⟨_, ':' :: rest, piecesText_quote key.toList, ?_, blanks_refl _⟩
  rw [toList_quote, List.cons_append, List.append_assoc]
  exact blanks_refl _

theorem spells_members {e : String × Value} {es : List (String × Value)} {t : Tree} {ms : List (Tree × Tree)}
    (he : Written e.2.compact t) (h : MembersWritten es ms) (rest : List Char) :
    Spells ((",".intercalate (compactMembers (e :: es))).toList ++ '\x7d' :: rest)
      (.members (member e.1 t :: ms)) rest := by
  induction h generalizing e t with
  | nil =>
    have hsplit : (",".intercalate (compactMembers [e])).toList ++ '\x7d' :: rest =
        (quote e.1).toList ++ ':' :: (e.2.compact.toList ++ '\x7d' :: rest) := by simp [compactMembers]
    rw [hsplit]
    exact .lastMember (keyText_quote _ _) (he _) (blanks_refl _)
  | @cons e' m' es ms he' _ ih =>
    obtain ⟨key, t'⟩ := m'
    obtain ⟨rfl, ht'⟩ := he'
    have hsplit : (",".intercalate (compactMembers (e :: e' :: es))).toList ++ '\x7d' :: rest =
        (quote e.1).toList ++ ':' :: (e.2.compact.toList ++ ',' ::
          ((",".intercalate (compactMembers (e' :: es))).toList ++ '\x7d' :: rest)) := by
      simp [compactMembers, String.intercalate_cons_cons]
    rw [hsplit]
    exact .member (keyText_quote _ _) (he _) (blanks_refl _) (ih ht')

theorem written_object {es : List (String × Value)} {ms : List (Tree × Tree)} (h : MembersWritten es ms) :
    Written (Value.object es).compact (.object ms none) := by
  intro rest
  cases h with
  | nil => exact .emptyObject (blanks_refl _)
  | @cons e m es ms he hes =>
    obtain ⟨key, t⟩ := m
    obtain ⟨rfl, ht⟩ := he
    have hsplit : ∀ texts : List String, ("\x7b" ++ ",".intercalate texts ++ "\x7d").toList ++ rest =
        '\x7b' :: ((",".intercalate texts).toList ++ '\x7d' :: rest) := by simp
    rw [Value.compact, hsplit]
    exact .object (spells_members ht hes rest)

end SchemaClasses.Json
