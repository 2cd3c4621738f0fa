import SchemaClasses.Proofs.Json.Grammar

/-!
# Blanks, string literals and numbers in texts

The literals of the grammar and those that the reader finds are the same: a string literal up to its closing quote
(`readText_append`, `piecesText_of_readText`), and a number up to its last digit (`readNumber_append`,
`numeralText_of_readNumber`), so long as what stands behind it does not continue a number (`Stops`).
-/

namespace SchemaClasses.Json

/-! ## Blanks -/

theorem skipBlanks_cons {c : Char} (hc : isBlank c = false) (cs : List Char) : skipBlanks (c :: cs) = c :: cs :=
  List.dropWhile_cons_of_neg (by simp [hc])

theorem skipBlanks_blank {b : Char} (hb : isBlank b = true) (cs : List Char) : skipBlanks (b :: cs) = skipBlanks cs :=
  List.dropWhile_cons_of_pos hb

theorem Blanks.skipBlanks_eq {cs rest : List Char} (h : Blanks cs rest) : skipBlanks cs = skipBlanks rest := by
  obtain ⟨bs, hbs, rfl⟩ := h
  exact List.dropWhile_append_of_pos hbs

/-- Behind blanks the reader meets what is no blank. -/
theorem Blanks.skipBlanks_eq_cons {cs rest : List Char} {c : Char} (h : Blanks cs (c :: rest))
    (hc : isBlank c = false) : skipBlanks cs = c :: rest := h.skipBlanks_eq.trans (skipBlanks_cons hc rest)

theorem blanks_skipBlanks (cs : List Char) : Blanks cs (skipBlanks cs) :=
  ⟨cs.takeWhile isBlank, List.all_eq_true.1 List.all_takeWhile, List.takeWhile_append_dropWhile.symm⟩

theorem skipBlanks_idem (cs : List Char) : skipBlanks (skipBlanks cs) = skipBlanks cs :=
  (blanks_skipBlanks cs).skipBlanks_eq.symm

theorem blanks_of_skipBlanks_eq {cs rest : List Char} (h : skipBlanks cs = rest) : Blanks cs rest :=
  h ▸ blanks_skipBlanks cs

theorem Blanks.length_le {cs rest : List Char} (h : Blanks cs rest) : rest.length ≤ cs.length := by
  obtain ⟨bs, -, rfl⟩ := h
  simp

theorem Blanks.length_lt {cs rest : List Char} {c : Char} (h : Blanks cs (c :: rest)) : rest.length < cs.length :=
  h.length_le

/-! ## String literals -/

/-- The pieces of a literal are read up to the quote that closes it. -/
theorem readString_append {ps : List Piece} {cs : List Char} (h : PiecesText ps cs) (rest : List Char) :
    readString (cs ++ '"' :: rest) = (⟨ps, none⟩, rest) := by
  induction h with
  | nil => rfl
  | char hc hquote hslash _ ih =>
    simp [readString, hslash, ih, Nat.not_lt.2 hc]
  | @escape e c ps cs he _ ih =>
    have hu : e ≠ 'u' := by rintro rfl; cases he
    simp [readString, hu, he, ih]
  | unit hn _ ih => simp [readString, hn, ih]

/-- A literal without a fault is the text of its pieces and a quote. -/
theorem piecesText_of_readString {cs rest : List Char} {s : Spelling} (h : readString cs = (s, rest))
    (hs : s.fault = none) : ∃ text, PiecesText s.pieces text ∧ cs = text ++ '"' :: rest := by
  fun_induction readString cs generalizing s rest with
  | case2 cs => cases h; exact ⟨[], .nil, rfl⟩
  | case4 a b c d cs n hn s' rest' hread ih =>
    cases h
    obtain ⟨text, htext, rfl⟩ := ih hread hs
    exact ⟨_, .unit hn htext, rfl⟩
  | case7 e cs _ _ c hc s' rest' hread ih =>
    cases h
    obtain ⟨text, htext, rfl⟩ := ih hread hs
    exact ⟨_, .escape hc htext, rfl⟩
  | case10 c cs hquote hlast _ _ hslash h32 s' rest' hread ih =>
    cases h
    obtain ⟨text, htext, rfl⟩ := ih hread hs
    have hc : c ≠ '\\' := fun hc => by
      cases text with
      | nil => exact hslash '"' rest' hc rfl
      | cons e text => exact hslash e (text ++ '"' :: rest') hc rfl
    exact ⟨_, .char (Nat.not_lt.1 h32) hquote hc htext, rfl⟩
  | _ => cases h; cases hs

theorem readText_append {ps : List Piece} {cs : List Char} (h : PiecesText ps cs) (rest : List Char) :
    readText (cs ++ '"' :: rest) = (.string ⟨ps, none⟩, some rest) := by
  rw [readText, readString_append h]
  rfl

theorem piecesText_of_readText {cs : List Char} {t : Tree} {r : Option (List Char)} (h : readText cs = (t, r))
    (ht : t.Whole) : ∃ ps text rest, t = .string ⟨ps, none⟩ ∧ r = some rest ∧ PiecesText ps text ∧
      cs = text ++ '"' :: rest := by
  cases h
  have hfault := Tree.whole_string.1 ht
  obtain ⟨text, htext, hcs⟩ := piecesText_of_readString rfl hfault
  exact ⟨_, text, _, congrArg (fun f => Tree.string ⟨_, f⟩) hfault, by rw [hfault]; rfl, htext, hcs⟩

/-! ## Numbers -/

/-- The text does not go on with what could continue a number. -/
def Stops (rest : List Char) : Prop := ∀ c ∈ rest.head?, c.isDigit = false ∧ c ≠ '.' ∧ c ≠ 'e' ∧ c ≠ 'E'

theorem stop_of_isBlank {b : Char} (hb : isBlank b = true) :
    b.isDigit = false ∧ b ≠ '.' ∧ b ≠ 'e' ∧ b ≠ 'E' := by
  simp only [isBlank, Bool.or_eq_true, decide_eq_true_eq] at hb
  rcases hb with ((rfl | rfl) | rfl) | rfl <;> decide

theorem Blanks.stops {cs rest : List Char} (h : Blanks cs rest) (hrest : Stops rest) : Stops cs := by
  obtain ⟨bs, hbs, rfl⟩ := h
  cases bs with
  | nil => exact hrest
  | cons b bs =>
    intro c hc
    cases hc
    exact stop_of_isBlank (hbs b List.mem_cons_self)

theorem stops_of_blanks {cs rest : List Char} {c : Char} (h : Blanks cs (c :: rest))
    (hc : c.isDigit = false ∧ c ≠ '.' ∧ c ≠ 'e' ∧ c ≠ 'E') : Stops cs :=
  h.stops fun _ hd => Option.some.inj hd ▸ hc

theorem ne_of_isDigit {d c : Char} (hd : d.isDigit = true) (hc : c.isDigit = false) : d ≠ c := by
  rintro rfl
  rw [hd] at hc
  cases hc

theorem isBlank_of_isDigit {d : Char} (hd : d.isDigit = true) : isBlank d = false :=
  Bool.eq_false_iff.2 fun hblank => ne_of_isDigit hd (stop_of_isBlank hblank).1 rfl

theorem readDigits_append {ds : List Char} (hds : ∀ d ∈ ds, d.isDigit = true) {rest : List Char}
    (hrest : ∀ c ∈ rest.head?, c.isDigit = false) : readDigits (ds ++ rest) = (ds, rest) := by
  have hnone : rest.takeWhile Char.isDigit = [] ∧ rest.dropWhile Char.isDigit = rest := by
    cases rest with
    | nil => exact ⟨rfl, rfl⟩
    | cons c rest => simp [hrest c rfl]
  rw [readDigits, List.takeWhile_append_of_pos hds, List.dropWhile_append_of_pos hds, hnone.1, hnone.2, List.append_nil]

theorem digits_of_readDigits {cs ds rest : List Char} (h : readDigits cs = (ds, rest)) :
    (∀ d ∈ ds, d.isDigit = true) ∧ cs = ds ++ rest := by
  cases h
  exact ⟨List.all_eq_true.1 List.all_takeWhile, List.takeWhile_append_dropWhile.symm⟩

theorem Digits.readDigits {ds rest : List Char} (hds : Digits ds) (hrest : ∀ c ∈ rest.head?, c.isDigit = false) :
    ∃ d ds', ds = d :: ds' ∧ d.isDigit = true ∧ readDigits (d :: (ds' ++ rest)) = (d :: ds', rest) := by
  obtain ⟨hne, hds⟩ := hds
  obtain ⟨d, ds', rfl⟩ := List.exists_cons_of_ne_nil hne
  exact ⟨d, ds', rfl, hds d List.mem_cons_self, readDigits_append hds hrest⟩

theorem not_whole_lacksDigit {rest : List Char} {t : Tree} {r : Option (List Char)} (h : lacksDigit rest = (t, r)) :
    ¬t.Whole := by
  cases h
  cases rest <;> exact fun h => by cases h

theorem NumeralText.exists_digit {n : Numeral} {cs : List Char} (h : NumeralText n cs) :
    ∃ d cs', cs = d :: cs' ∧ d.isDigit = true := by
  obtain ⟨⟨⟨hne, hds⟩, -⟩, fraction, exponent, -, -, rfl⟩ := h
  obtain ⟨d, ds, hwhole⟩ := List.exists_cons_of_ne_nil hne
  rw [hwhole] at hds ⊢
  exact ⟨d, _, rfl, hds d List.mem_cons_self⟩

/-- The sign of an exponent, and the text behind it. -/
def readSign : List Char → Bool × List Char
  | '-' :: rest => (true, rest)
  | '+' :: rest => (false, rest)
  | rest => (false, rest)

theorem readSign_append {negative : Bool} {sign : List Char} (h : SignText negative sign) {d : Char}
    (hd : d.isDigit = true) (cs : List Char) : readSign (sign ++ d :: cs) = (negative, d :: cs) := by
  have hminus : d ≠ '-' := ne_of_isDigit hd rfl
  have hplus : d ≠ '+' := ne_of_isDigit hd rfl
  cases h <;> simp [readSign, hminus, hplus]

theorem signText_readSign (cs : List Char) : ∃ sign, SignText (readSign cs).1 sign ∧ cs = sign ++ (readSign cs).2 := by
  fun_cases readSign cs
  · exact ⟨_, .minus, rfl⟩
  · exact ⟨_, .plus, rfl⟩
  · exact ⟨_, .none, rfl⟩

theorem readExponent_cons {e : Char} (he : e = 'e' ∨ e = 'E') (n : Numeral) (cs : List Char) :
    readExponent n (e :: cs) =
      match readDigits (readSign cs).2 with
      | ([], rest) => lacksDigit rest
      | (ds, rest) => (.number { n with exponent := some ((readSign cs).1, ds) }, some rest) :=
  if_pos he

section Numbers

variable {b : Bool} {whole : List Char} {fraction : Option (List Char)} {exponent : Option (Bool × List Char)}

theorem readExponent_append {cs rest : List Char} (h : ExponentText exponent cs) (hrest : Stops rest) :
    readExponent ⟨b, whole, fraction, none⟩ (cs ++ rest) = (.number ⟨b, whole, fraction, exponent⟩, some rest) := by
  cases h with
  | none =>
    cases rest with
    | nil => rfl
    | cons c rest => simp [readExponent, hrest c rfl]
  | some he hsign hds =>
    obtain ⟨d, ds', rfl, hd, hread⟩ := hds.readDigits fun c hc => (hrest c hc).1
    rw [List.append_assoc, List.cons_append, readExponent_cons he, List.cons_append, readSign_append hsign hd, hread]

/-- What stands behind the digits of a fraction or of a whole number does not begin with a digit. -/
theorem ExponentText.head_not_digit {cs rest : List Char} (h : ExponentText exponent cs) (hrest : Stops rest) :
    ∀ c ∈ (cs ++ rest).head?, c.isDigit = false ∧ c ≠ '.' := by
  intro c hc
  cases h with
  | none => exact ⟨(hrest c hc).1, (hrest c hc).2.1⟩
  | some he =>
    cases hc
    rcases he with rfl | rfl <;> decide

theorem readFraction_append {ds cs rest : List Char} (hf : FractionText fraction ds) (he : ExponentText exponent cs)
    (hrest : Stops rest) :
    readFraction ⟨b, whole, none, none⟩ (ds ++ (cs ++ rest)) = (.number ⟨b, whole, fraction, exponent⟩, some rest) := by
  have hread : readExponent ⟨b, whole, fraction, none⟩ (cs ++ rest) =
      (.number ⟨b, whole, fraction, exponent⟩, some rest) := readExponent_append he hrest
  have hhead := he.head_not_digit hrest
  revert hread hhead
  generalize cs ++ rest = behind
  intro hread hhead
  cases hf with
  | none =>
    rw [List.nil_append, ← hread]
    cases behind with
    | nil => rfl
    | cons c behind => simp [readFraction, (hhead c rfl).2]
  | some hds =>
    obtain ⟨d, ds', rfl, -, hdigits⟩ := hds.readDigits fun c hc => (hhead c hc).1
    simp [readFraction, hdigits, hread]

/-- A number is read up to where it stops, digits before fraction before exponent. -/
theorem readNumber_append {n : Numeral} {cs rest : List Char} (hn : n.negative = b) (h : NumeralText n cs)
    (hrest : Stops rest) : readNumber b (cs ++ rest) = (.number n, some rest) := by
  obtain ⟨b', whole, fraction, exponent⟩ := n
  obtain rfl : b' = b := hn
  obtain ⟨⟨hdigits, hzero⟩, ds, es, hf, he, rfl⟩ := h
  have hread : readFraction ⟨b', whole, none, none⟩ (ds ++ (es ++ rest)) =
      (.number ⟨b', whole, fraction, exponent⟩, some rest) := readFraction_append hf he hrest
  have hhead : ∀ c ∈ (ds ++ (es ++ rest)).head?, c.isDigit = false := by
    cases hf with
    | none => exact fun c hc => (he.head_not_digit hrest c hc).1
    | some _ => intro c hc; cases hc; rfl
  obtain ⟨d, ds', rfl, hd, hread'⟩ := hdigits.readDigits hhead
  rw [List.append_assoc, List.append_assoc, readNumber, List.cons_append, hread']
  split
  · rename_i heq; cases heq
  · rename_i heq; cases heq; exact absurd rfl (hzero _ _)
  · rename_i heq; cases heq; exact hread

theorem exponentText_of_readExponent {cs : List Char} {t : Tree} {r : Option (List Char)}
    (h : readExponent ⟨b, whole, fraction, none⟩ cs = (t, r)) (ht : t.Whole) :
    ∃ exponent text rest, t = .number ⟨b, whole, fraction, exponent⟩ ∧ r = some rest ∧
      ExponentText exponent text ∧ cs = text ++ rest := by
  cases cs with
  | nil => cases h; exact ⟨none, [], [], rfl, rfl, .none, rfl⟩
  | cons e cs =>
    by_cases he : e = 'e' ∨ e = 'E'
    · rw [readExponent_cons he] at h
      obtain ⟨sign, hsign, hcs⟩ := signText_readSign cs
      split at h
      · exact absurd ht (not_whole_lacksDigit h)
      · rename_i ds rest hne hread
        obtain ⟨hds, hbehind⟩ := digits_of_readDigits hread
        rw [hbehind] at hcs
        cases h
        exact ⟨_, e :: sign ++ ds, rest, rfl, rfl, .some he hsign ⟨fun h => hne h, hds⟩,
          congrArg (e :: ·) (hcs.trans (List.append_assoc sign ds rest).symm)⟩
    · cases (if_neg he : readExponent _ (e :: cs) = _).symm.trans h
      exact ⟨none, [], e :: cs, rfl, rfl, .none, rfl⟩

theorem fractionText_of_readFraction {cs : List Char} {t : Tree} {r : Option (List Char)}
    (h : readFraction ⟨b, whole, none, none⟩ cs = (t, r)) (ht : t.Whole) :
    ∃ fraction exponent ds es rest, t = .number ⟨b, whole, fraction, exponent⟩ ∧ r = some rest ∧
      FractionText fraction ds ∧ ExponentText exponent es ∧ cs = ds ++ es ++ rest := by
  unfold readFraction at h
  split at h
  · split at h
    · exact absurd ht (not_whole_lacksDigit h)
    · rename_i ds rest hne hread
      obtain ⟨hds, rfl⟩ := digits_of_readDigits hread
      obtain ⟨exponent, es, rest, rfl, rfl, he, rfl⟩ := exponentText_of_readExponent h ht
      exact ⟨_, exponent, '.' :: ds, es, rest, rfl, rfl, .some ⟨fun h => hne h, hds⟩, he, by simp⟩
  · obtain ⟨exponent, es, rest, rfl, rfl, he, rfl⟩ := exponentText_of_readExponent h ht
    exact ⟨none, exponent, [], es, rest, rfl, rfl, .none, he, rfl⟩

/-- A number without a fault is a text of the number that is read. -/
theorem numeralText_of_readNumber {cs : List Char} {t : Tree} {r : Option (List Char)}
    (h : readNumber b cs = (t, r)) (ht : t.Whole) :
    ∃ n text rest, t = .number n ∧ r = some rest ∧ n.negative = b ∧ NumeralText n text ∧ cs = text ++ rest := by
  unfold readNumber at h
  split at h
  · exact absurd ht (not_whole_lacksDigit h)
  · cases h; cases ht
  · rename_i whole rest hne hzero hread
    obtain ⟨hds, rfl⟩ := digits_of_readDigits hread
    obtain ⟨fraction, exponent, ds, es, rest, rfl, rfl, hf, he, rfl⟩ := fractionText_of_readFraction h ht
    refine ⟨_, whole ++ ds ++ es, rest, rfl, rfl, rfl, ⟨⟨⟨fun h => hne h, hds⟩, ?_⟩, ds, es, hf, he, rfl⟩, by simp⟩
    rintro d ds' rfl
    exact hzero d ds' rfl

end Numbers

end SchemaClasses.Json
