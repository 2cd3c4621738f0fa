import Mathlib.Logic.Function.Defs
import SchemaClasses.Conversion.Property

/-!
# Literals are read back

A character is written in a literal in one of four ways (`Quoted.Writes`): as itself, by a letter or a mark behind a
backslash, or by two or four digits. `Quoted.encodeChar` writes each character in one of them
(`Quoted.writes_encodeChar`), and whatever stands behind, the reader gets this character and goes on
(`Quoted.Writes.decode_append`). So the body of a literal is read back as the text (`Quoted.encodes_encode`), and the
literal ends at its closing quote and nowhere before (`Quoted.Encodes.close?_eq`).

A text is its own body just where each of its characters stands for itself (`Quoted.encodes_self_iff`): what stands
behind a backslash is read as fewer characters than it has (`Quoted.length_lt_of_decode`).
-/

namespace SchemaClasses.Text

/-! ## Digits -/

theorem hexValue?_hexDigit : ∀ n < 16, hexValue? (hexDigit n) = some n := by decide

theorem ofHex?_hexDigit {n : Nat} (h : n < 256) : ofHex? [hexDigit (n / 16), hexDigit (n % 16)] = some n := by
  have hhigh := hexValue?_hexDigit (n / 16) (by omega)
  have hlow := hexValue?_hexDigit (n % 16) (by omega)
  simp only [ofHex?, List.foldl_cons, List.foldl_nil, Option.bind_some, hhigh, hlow, Option.map_some, Option.some.injEq]
  omega

theorem charOf?_toNat (c : Char) : charOf? c.toNat = some c := by
  have hvalid : c.toNat.isValidChar := c.valid
  unfold charOf?
  rw [dif_pos hvalid]
  rfl

namespace Quoted

/-! ## Bodies -/

/-- Whether a character stands for itself in a body. -/
def isPlain (c : Char) : Bool := c != '\\' && c != '\'' && !isLineBreak c

/-- Whether a character is a control of ASCII. -/
def isControl (c : Char) : Bool := c.toNat < 32 || c.toNat = 127

/-- A body in which each quote stands behind a backslash, and each backslash before another character. -/
inductive Closed : List Char → Prop
  | nil : Closed []
  | char {c : Char} {cs : List Char} (hquote : c ≠ '\'') (hslash : c ≠ '\\') (h : Closed cs) : Closed (c :: cs)
  | escape {c : Char} {cs : List Char} (h : Closed cs) : Closed ('\\' :: c :: cs)

/-- A body of one line that is read as a text. -/
structure Encodes (body text : List Char) : Prop where
  closed : Closed body
  oneLine : ∀ c ∈ body, isLineBreak c = false
  decode_eq : decode body = some text

/-- The body of the literal whose opening quote stands before a text, and what is behind its closing quote. -/
def close? : List Char → Option (List Char × List Char)
  | [] => none
  | '\'' :: cs => some ([], cs)
  | '\\' :: c :: cs => (close? cs).map fun p => ('\\' :: c :: p.1, p.2)
  | c :: cs => if isLineBreak c then none else (close? cs).map fun p => (c :: p.1, p.2)

theorem isPlain_iff {c : Char} : isPlain c = true ↔ c ≠ '\\' ∧ c ≠ '\'' ∧ isLineBreak c = false := by
  simp [isPlain, and_assoc]

/-- A body ends at the quote behind it, whatever comes then. -/
theorem Encodes.close?_eq {body text : List Char} (h : Encodes body text) (rest : List Char) :
    close? (body ++ '\'' :: rest) = some (body, rest) := by
  obtain ⟨hclosed, hline, -⟩ := h
  induction hclosed with
  | nil => rfl
  | @char c cs hquote hslash _ ih =>
    obtain ⟨hc, hcs⟩ := List.forall_mem_cons.1 hline
    rw [List.cons_append, close?, ih hcs, hc]
    · rfl
    · exact hquote
    · intro d ds he
      exact absurd he hslash
  | @escape c cs _ ih =>
    have hcs : ∀ d ∈ cs, isLineBreak d = false := fun d hd => hline d (by simp [hd])
    rw [List.cons_append, List.cons_append, close?, ih hcs]
    rfl

/-! ## Reading -/

theorem decode_plain {c : Char} (h : isPlain c = true) (cs : List Char) :
    decode (c :: cs) = (decode cs).map (c :: ·) := by
  obtain ⟨hslash, hquote, hline⟩ := isPlain_iff.1 h
  rw [decode.eq_def]
  split <;> simp_all

/-- A character behind a backslash that starts no number is read as what it stands for. -/
theorem decode_escape {e : Char} (h : isClosed e = false) (cs : List Char) :
    decode ('\\' :: e :: cs) = (decode cs).map (escapedChar e :: ·) := by
  rw [decode]
  · rw [h]
    rfl
  · rintro a b ds rfl
    exact absurd h (by decide)
  · rintro a b c d ds rfl
    exact absurd h (by decide)

theorem bind_bind_eq_map {c : Char} {o : Option Char} (h : o = some c) (read : Option (List Char)) :
    (do let c ← o; let rest ← read; return c :: rest) = read.map (c :: ·) := by
  rw [h]
  cases read <;> rfl

/-- Two digits behind `x` are read as the character they number. -/
theorem decode_byte {c a b : Char} (h : ofHex? [a, b] = some c.toNat) (cs : List Char) :
    decode ('\\' :: 'x' :: a :: b :: cs) = (decode cs).map (c :: ·) := by
  rw [decode]
  exact bind_bind_eq_map (by rw [h, Option.bind_some, charOf?_toNat]) _

/-- Four digits behind `u` are read as the character they number. -/
theorem decode_unit {c a b d e : Char} (h : ofHex? [a, b, d, e] = some c.toNat) (cs : List Char) :
    decode ('\\' :: 'u' :: a :: b :: d :: e :: cs) = (decode cs).map (c :: ·) := by
  rw [decode]
  exact bind_bind_eq_map (by rw [h, Option.bind_some, charOf?_toNat]) _

/-! ## Writing -/

/-- The ways to write a character. -/
inductive Writes (c : Char) : List Char → Prop
  | plain (h : isPlain c = true) (hcontrol : isControl c = false) : Writes c [c]
  | escape {e : Char} (h : isClosed e = false) (hcontrol : isControl e = false) (he : escapedChar e = c) :
    Writes c ['\\', e]
  | byte {a b : Char} (h : ofHex? [a, b] = some c.toNat) : Writes c ['\\', 'x', a, b]
  | unit {a b d e : Char} (h : ofHex? [a, b, d, e] = some c.toNat) : Writes c ['\\', 'u', a, b, d, e]

/-- Each character is written in one of the ways. -/
theorem writes_encodeChar (c : Char) : Writes c (encodeChar c) := by
  unfold encodeChar
  split
  case h_6 => exact .unit (by decide)
  case h_7 => exact .unit (by decide)
  case h_8 hslash hquote hbreak hreturn _ hline hparagraph =>
    split
    · rename_i hcontrol
      exact .byte (ofHex?_hexDigit (by omega))
    · rename_i hcontrol
      refine .plain (isPlain_iff.2 ⟨hslash, hquote, ?_⟩) (by simpa [isControl] using hcontrol)
      simp only [isLineBreak, Bool.or_eq_false_iff, decide_eq_false_iff_not]
      exact ⟨⟨⟨hbreak, hreturn⟩, hline⟩, hparagraph⟩
  all_goals exact .escape (by decide) (by decide) (by decide)

/-- A digit is no control and stands for itself. -/
theorem isPlain_of_hexValue? {c : Char} {n : Nat} (h : hexValue? c = some n) :
    isPlain c = true ∧ isControl c = false := by
  have hall : ∀ m < 128, hexValue? (Char.ofNat m) ≠ none →
      isPlain (Char.ofNat m) = true ∧ isControl (Char.ofNat m) = false := by decide +kernel
  have hascii : c.toNat < 128 := by
    have hle : ∀ {d : Char}, c ≤ d → c.toNat ≤ d.toNat := fun h => h
    unfold hexValue? at h
    split at h
    · rename_i hc
      exact Nat.lt_of_le_of_lt (hle hc.2) (by decide)
    · split at h
      · rename_i hc
        exact Nat.lt_of_le_of_lt (hle hc.2) (by decide)
      · split at h
        · rename_i hc
          exact Nat.lt_of_le_of_lt (hle hc.2) (by decide)
        · cases h
  have hc := hall c.toNat hascii
  rw [Char.ofNat_toNat] at hc
  exact hc (by simp [h])

theorem exists_value_of_ofHex? {ds : List Char} {n : Nat} (h : ofHex? ds = some n) :
    ∀ d ∈ ds, ∃ v, hexValue? d = some v := by
  suffices hfold : ∀ start : Option Nat,
      ds.foldl (fun n c => n.bind fun n => (hexValue? c).map (16 * n + ·)) start = some n →
        (∃ m, start = some m) ∧ ∀ d ∈ ds, ∃ v, hexValue? d = some v from (hfold _ h).2
  clear h
  induction ds with
  | nil =>
    intro start h
    exact ⟨⟨n, h⟩, by simp⟩
  | cons d ds ih =>
    intro start h
    obtain ⟨⟨m, hm⟩, hds⟩ := ih _ h
    obtain ⟨k, hk, hd⟩ := Option.bind_eq_some_iff.1 hm
    obtain ⟨v, hv, -⟩ := Option.map_eq_some_iff.1 hd
    exact ⟨⟨k, hk⟩, List.forall_mem_cons.2 ⟨⟨v, hv⟩, hds⟩⟩

/-- Digits are no controls and stand for themselves. -/
theorem isPlain_of_ofHex? {ds : List Char} {n : Nat} (h : ofHex? ds = some n) :
    ∀ d ∈ ds, isPlain d = true ∧ isControl d = false := by
  intro d hd
  obtain ⟨v, hv⟩ := exists_value_of_ofHex? h d hd
  exact isPlain_of_hexValue? hv

theorem Closed.append_plain {ds cs : List Char} (hds : ∀ d ∈ ds, isPlain d = true) (h : Closed cs) :
    Closed (ds ++ cs) := by
  induction ds with
  | nil => exact h
  | cons d ds ih =>
    obtain ⟨hd, hds⟩ := List.forall_mem_cons.1 hds
    obtain ⟨hslash, hquote, -⟩ := isPlain_iff.1 hd
    exact .char hquote hslash (ih hds)

namespace Writes

variable {c : Char} {w : List Char}

/-- What is written behind a character does not open its writing. -/
theorem closed_append (h : Writes c w) {cs : List Char} (hcs : Closed cs) : Closed (w ++ cs) := by
  cases h with
  | plain h _ =>
    obtain ⟨hslash, hquote, -⟩ := isPlain_iff.1 h
    exact .char hquote hslash hcs
  | escape _ _ _ => exact .escape hcs
  | byte h => exact .escape (Closed.append_plain (fun d hd => (isPlain_of_ofHex? h d hd).1) hcs)
  | unit h => exact .escape (Closed.append_plain (fun d hd => (isPlain_of_ofHex? h d hd).1) hcs)

/-- Neither line breaks nor controls are written. -/
theorem shows (h : Writes c w) : ∀ d ∈ w, isLineBreak d = false ∧ isControl d = false := by
  have hplain : ∀ {d : Char}, isPlain d = true ∧ isControl d = false → isLineBreak d = false ∧ isControl d = false :=
    fun h => ⟨(isPlain_iff.1 h.1).2.2, h.2⟩
  have hslash : isLineBreak '\\' = false ∧ isControl '\\' = false := by decide
  cases h with
  | plain h hcontrol => simpa using hplain ⟨h, hcontrol⟩
  | @escape e h hcontrol _ =>
    have hline : isLineBreak e = false := by
      rw [isClosed, Bool.or_eq_false_iff] at h
      exact h.2
    simpa using ⟨hslash, hline, hcontrol⟩
  | byte h =>
    refine List.forall_mem_cons.2 ⟨hslash, List.forall_mem_cons.2 ⟨by decide, fun d hd => ?_⟩⟩
    exact hplain (isPlain_of_ofHex? h d hd)
  | unit h =>
    refine List.forall_mem_cons.2 ⟨hslash, List.forall_mem_cons.2 ⟨by decide, fun d hd => ?_⟩⟩
    exact hplain (isPlain_of_ofHex? h d hd)

/-- A written character is read back, and reading goes on behind it. -/
theorem decode_append (h : Writes c w) (cs : List Char) : decode (w ++ cs) = (decode cs).map (c :: ·) := by
  cases h with
  | plain h _ => exact decode_plain h cs
  | escape h _ he => exact he ▸ decode_escape h cs
  | byte h => exact decode_byte h cs
  | unit h => exact decode_unit h cs

end Writes

/-! ## Literals -/

theorem encode_cons (c : Char) (cs : List Char) : encode (c :: cs) = encodeChar c ++ encode cs := List.flatMap_cons

/-- What is written of a text shows on one line. -/
theorem shows_encode (cs : List Char) : ∀ d ∈ encode cs, isLineBreak d = false ∧ isControl d = false := by
  intro d hd
  obtain ⟨c, -, hc⟩ := List.mem_flatMap.1 hd
  exact (writes_encodeChar c).shows d hc

/-- What is written of a text is a body of this text. -/
theorem encodes_encode (cs : List Char) : Encodes (encode cs) cs := by
  refine ⟨?_, fun d hd => (shows_encode cs d hd).1, ?_⟩
  · induction cs with
    | nil => exact .nil
    | cons c cs ih =>
      rw [encode_cons]
      exact (writes_encodeChar c).closed_append ih
  · induction cs with
    | nil => rfl
    | cons c cs ih =>
      rw [encode_cons, (writes_encodeChar c).decode_append, ih]
      rfl

end Quoted

theorem toList_quoted (s : String) : (quoted s).toList = '\'' :: (Quoted.encode s.toList ++ ['\'']) :=
  String.toList_ofList

/-- The text of a literal is known from the literal. -/
theorem quoted_injective : Function.Injective quoted := by
  intro s t h
  have hbody := congrArg String.toList h
  rw [toList_quoted, toList_quoted, List.cons.injEq, List.append_left_inj] at hbody
  have hs := (Quoted.encodes_encode s.toList).decode_eq
  rw [hbody.2, (Quoted.encodes_encode t.toList).decode_eq] at hs
  exact String.toList_inj.1 (Option.some.inj hs).symm

/-! ## Texts that are their own bodies -/

namespace Quoted

/-- What reading one character and then the rest gives has one character more than the rest. -/
theorem exists_rest_of_bind {o : Option Char} {read : Option (List Char)} {ds : List Char}
    (h : (do let c ← o; let rest ← read; return c :: rest) = some ds) :
    ∃ rest, read = some rest ∧ ds.length = rest.length + 1 := by
  cases o with
  | none => cases h
  | some c =>
    cases read with
    | none => cases h
    | some rest =>
      cases h
      exact ⟨rest, rfl, rfl⟩

/-- No body is read as more characters than it has, and one that starts with a backslash is read as fewer. -/
theorem length_of_decode {cs ds : List Char} (h : decode cs = some ds) :
    ds.length ≤ cs.length ∧ (cs.head? = some '\\' → ds.length < cs.length) := by
  fun_induction decode cs generalizing ds with
  | case1 =>
    cases h
    simp
  | case2 => cases h
  | case3 a b cs ih =>
    obtain ⟨rest, hrest, hlength⟩ := exists_rest_of_bind h
    obtain ⟨hle, -⟩ := ih hrest
    simp only [List.length_cons]
    omega
  | case4 a b c d cs ih =>
    obtain ⟨rest, hrest, hlength⟩ := exists_rest_of_bind h
    obtain ⟨hle, -⟩ := ih hrest
    simp only [List.length_cons]
    omega
  | case5 => cases h
  | case6 e cs _ _ _ ih =>
    obtain ⟨rest, hrest, rfl⟩ := Option.map_eq_some_iff.1 h
    obtain ⟨hle, -⟩ := ih hrest
    simp only [List.length_cons]
    omega
  | case7 => cases h
  | case8 c cs hlast _ _ hescape _ ih =>
    obtain ⟨rest, hrest, rfl⟩ := Option.map_eq_some_iff.1 h
    obtain ⟨hle, -⟩ := ih hrest
    have hslash : c ≠ '\\' := by
      rintro rfl
      cases cs with
      | nil => exact hlast rfl rfl
      | cons e cs => exact hescape e cs rfl rfl
    simp only [List.length_cons, List.head?_cons, Option.some.injEq]
    exact ⟨by omega, fun he => absurd he hslash⟩

/-- A body that is read as itself starts with a character that stands for itself. -/
theorem isPlain_of_decode_self {c : Char} {cs : List Char} (h : decode (c :: cs) = some (c :: cs)) :
    isPlain c = true := by
  have hslash : c ≠ '\\' := by
    rintro rfl
    exact absurd ((length_of_decode h).2 rfl) (by omega)
  refine isPlain_iff.2 ⟨hslash, ?_⟩
  rw [decode] at h
  · split at h
    · cases h
    · rename_i hends
      simpa using hends
  all_goals
    intros
    exact absurd (by assumption) hslash

/-- A text is its own body just where each of its characters stands for itself. -/
theorem encodes_self_iff {cs : List Char} : Encodes cs cs ↔ ∀ c ∈ cs, isPlain c = true := by
  constructor
  · rintro ⟨-, -, h⟩
    induction cs with
    | nil => simp
    | cons c cs ih =>
      have hc := isPlain_of_decode_self h
      rw [decode_plain hc, Option.map_eq_some_iff] at h
      obtain ⟨ds, hds, he⟩ := h
      cases he
      exact List.forall_mem_cons.2 ⟨hc, ih hds⟩
  · intro h
    refine ⟨?_, fun c hc => (isPlain_iff.1 (h c hc)).2.2, ?_⟩
    · simpa using Closed.append_plain h .nil
    · induction cs with
      | nil => rfl
      | cons c cs ih =>
        obtain ⟨hc, hcs⟩ := List.forall_mem_cons.1 h
        rw [decode_plain hc, ih hcs]
        rfl

end Quoted

/-! ## Literals of properties -/

/-- **Literals are read back**: the literal of a text is a body between two quotes, on one line and without controls. It
ends at the closing quote whatever comes behind it, and the body is read as the text; so no two texts have one literal. A
property of a text field with a default is initialized by the literal of this default. -/
theorem quoted_reads_back :
    (∀ s : String, ∃ body, (quoted s).toList = '\'' :: (body ++ ['\'']) ∧ Quoted.Encodes body s.toList ∧
      (∀ c ∈ body, Quoted.isControl c = false) ∧
      ∀ rest, Quoted.close? (body ++ '\'' :: rest) = some (body, rest)) ∧
    Function.Injective quoted ∧
    ∀ (swagger : Bool) (f : Field) (l : Literal), Shape.of f = .scalar .string → f.default = some (.literal l) →
      (f.toProperty swagger).initializer = some (quoted l.text) ∧
      ∃ before, (f.toProperty swagger).render = before ++ " = " ++ quoted l.text ++ ";" := by
  refine ⟨fun s => ?_, quoted_injective, fun swagger f l hshape hdefault => ?_⟩
  · have hencodes := Quoted.encodes_encode s.toList
    exact ⟨_, toList_quoted s, hencodes, fun c hc => (Quoted.shows_encode _ c hc).2, hencodes.close?_eq⟩
  · have hinit : (f.toProperty swagger).initializer = some (quoted l.text) := by
      show f.initializer = _
      unfold Field.initializer
      rw [hdefault, hshape]
      rfl
    refine ⟨hinit, ?_⟩
    unfold TypeScript.Property.render
    rw [hinit]
    exact ⟨_, rfl⟩

/-- A text field whose default holds a control before a digit, a quote and a backslash. -/
def bell : Field := ⟨"note", .scalar, "String", true, false, none, some (.literal (.string "\x07a'\\"))⟩

theorem quoted_reads_back_bell : (bell.toProperty false).initializer = some "'\\x07a\\'\\\\'" ∧
    (∃ before, (bell.toProperty false).render = before ++ " = " ++ "'\\x07a\\'\\\\'" ++ ";") ∧
    ∃ body, "'\\x07a\\'\\\\'".toList = '\'' :: (body ++ ['\'']) ∧ Quoted.decode body = some "\x07a'\\".toList := by
  obtain ⟨hbody, -, hfield⟩ := quoted_reads_back
  have hquoted : quoted "\x07a'\\" = "'\\x07a\\'\\\\'" := by decide
  obtain ⟨hinit, hrender⟩ := hfield false bell (.string "\x07a'\\") (by decide) rfl
  obtain ⟨body, hliteral, hencodes, -⟩ := hbody "\x07a'\\"
  rw [Literal.text, hquoted] at hinit hrender
  exact ⟨hinit, hrender, body, hquoted ▸ hliteral, hencodes.decode_eq⟩

end SchemaClasses.Text
