import SchemaClasses.Proofs.Schema.Defaults
import SchemaClasses.Proofs.Text.Quoted

/-!
# What properties start with

Of the defaults of fields only the literals become code: the expression that the property starts with
(`Field.default_classified`). The type of a scalar settles which expression it is (`Field.initializer_of_scalar`). Texts
are put between quotes where the type is the one of texts; as the default of a time or of bytes a text is the code
itself (`Field.texts_quoted_iff`). Integers of 64 bits keep all their digits on the way from the document to the code
(`Field.integers_exact`).
-/

namespace SchemaClasses

open TypeScript
open Json (Tree)
open Text.Quoted (Encodes isLineBreak)

/-! ## The code of a property -/

/-- The code of a property up to its type. -/
def TypeScript.Property.opening (p : Property) : String :=
  String.join (p.decorators.map fun d => "  " ++ d.render ++ "\n")
    ++ "  " ++ p.name ++ (if p.isOptional then "?" else "") ++ ": " ++ p.type

theorem TypeScript.Property.render_eq (p : Property) :
    p.render = p.opening ++ " = " ++ p.initializer.getD "undefined" ++ ";" := rfl

/-! ## Code that quotes a text -/

namespace Text

/-- Code of a literal that is read as a text, or of a call with such code as its first argument, whatever else it is
given. -/
inductive Quotes (text : List Char) : List Char → Prop
  | literal {body : List Char} (h : Quoted.Encodes body text) : Quotes text ('\'' :: (body ++ ['\'']))
  | call {callee code more : List Char} (h : Quotes text code) : Quotes text (callee ++ '(' :: (code ++ more ++ [')']))

/-- Such code is longer than the text. -/
theorem Quotes.length_lt {text code : List Char} (h : Quotes text code) : text.length < code.length := by
  induction h with
  | literal h =>
    have hle := (Quoted.length_of_decode h.decode_eq).1
    simp only [List.length_cons, List.length_append, List.length_nil]
    omega
  | call _ ih =>
    simp only [List.length_append, List.length_cons]
    omega

theorem quotes_quoted (d : String) : Quotes d.toList (quoted d).toList := by
  rw [toList_quoted]
  exact .literal (Quoted.encodes_encode _)

theorem oneLine_quoted (d : String) : ∀ c ∈ (quoted d).toList, Quoted.isLineBreak c = false := by
  have hquote : Quoted.isLineBreak '\'' = false := by decide
  rw [toList_quoted, List.forall_mem_cons, List.forall_mem_append, List.forall_mem_singleton]
  exact ⟨hquote, fun c hc => (Quoted.shows_encode _ c hc).1, hquote⟩

end Text

namespace Field

variable {f : Field}

/-! ## Literals -/

theorem initializer_of_literal {l : Literal} (h : f.default = some (.literal l)) :
    f.initializer = some ((Shape.of f).initializer l) := by
  unfold initializer
  rw [h]

theorem initializer_eq_none (h : ∀ l, f.default ≠ some (.literal l)) : f.initializer = none := by
  unfold initializer
  split
  · rename_i l hl
    exact absurd hl (h l)
  · rfl

/-- The type of a scalar that is no relation settles the expression of a literal. -/
theorem initializer_of_scalar {s : Scalar} {l : Literal} (hkind : f.kind = .scalar) (hrelation : f.relationName = none)
    (htype : Scalar.ofName? f.typeName = some s) (hdefault : f.default = some (.literal l)) :
    f.initializer = some ((Shape.scalar s).initializer l) := by
  have hshape : Shape.of f = .scalar s := by
    unfold Shape.of hasRelation
    rw [hrelation, hkind, htype]
    rfl
  rw [initializer_of_literal hdefault, hshape]

/-- **A default is told by the form of its value**: what stands under the key of a default settles whether the field is
read and which default it has, and nothing else of it. Whatever a field is, literals give its property an expression,
and without a literal the property starts as `undefined`. -/
theorem default_classified {depth : Nat} {before after : List (Tree × Tree)} {key t : Tree} {v : Json.Value}
    (h : DefaultAt depth before key after f) (hv : Json.value (depth + 1) t = .ok v) :
    f.default = none ∧
    (∀ g, Field.read depth (.object (before ++ (key, t) :: after) none) = .ok g ↔
      ∃ o, Default.StandsFor v o ∧ g = { f with default := o }) ∧
    ((∀ o, ¬Default.StandsFor v o) ↔ ∃ ms, v = .object ms ∧ ∀ function args, ¬Default.Calls ms function args) ∧
    ((∀ o, ¬Default.StandsFor v o) →
      Field.read depth (.object (before ++ (key, t) :: after) none) = .error (.noVariant "FieldDefault")) ∧
    ∀ (g : Field) (swagger : Bool),
      ((∃ code, (g.toProperty swagger).initializer = some code) ↔ ∃ l, g.default = some (.literal l)) ∧
      (∀ code, (g.toProperty swagger).initializer = some code →
        (g.toProperty swagger).render = (g.toProperty swagger).opening ++ " = " ++ code ++ ";") ∧
      ((∀ l, g.default ≠ some (.literal l)) →
        (g.toProperty swagger).render = (g.toProperty swagger).opening ++ " = " ++ "undefined" ++ ";") := by
  obtain ⟨hnone, hread⟩ := h.read_eq
  refine ⟨hnone, fun g => ?_, Default.not_standsFor_iff, fun hnot => ?_, fun g swagger => ⟨?_, fun code hcode => ?_,
    fun hliteral => ?_⟩⟩
  · rw [hread, Outcome.map_eq_ok_iff]
    simp only [Default.optional_read_eq_ok_iff hv]
  · rw [hread, Default.optional_read_eq_error hv hnot]
    rfl
  · constructor
    · rintro ⟨code, hcode⟩
      by_contra hnot
      have hinit : g.initializer = none := initializer_eq_none (not_exists.1 hnot)
      exact Option.some_ne_none code (hcode.symm.trans hinit)
    · rintro ⟨l, hl⟩
      exact ⟨_, initializer_of_literal hl⟩
  · rw [Property.render_eq, hcode]
    rfl
  · have hinit : (g.toProperty swagger).initializer = none := initializer_eq_none hliteral
    rw [Property.render_eq, hinit]
    rfl

/-- The name of a function and a list stand for a list if they are in an array, and for a call if they are under the
keys of one, next to another key; under a key that repeats they stand for nothing. -/
theorem default_classified_now :
    Field.read 0 (.object (plainMembers "at" "DateTime" ++
        [Json.member "default" (.array [.text "now", .array [] none] none)]) none) =
      .ok { plain "at" "DateTime" with default := some (.list [.string "now", .array []]) } ∧
    Field.read 0 (.object (plainMembers "at" "DateTime" ++
        [Json.member "default" (.object [Json.member "args" (.array [] none), Json.member "of" .null,
          Json.member "name" (.text "now")] none)]) none) =
      .ok { plain "at" "DateTime" with default := some (.call "now" []) } ∧
    Field.read 0 (.object (plainMembers "at" "DateTime" ++
        [Json.member "default" (.object [Json.member "name" (.text "now"), Json.member "name" (.text "now")] none)])
          none) =
      .error (.noVariant "FieldDefault") := by
  have hfield := defaultAt_plain (by decide : 0 < 127) "at" "DateTime"
  refine ⟨?_, ?_, ?_⟩
  · have hv : Json.value 1 (.array [.text "now", .array [] none] none) = .ok (.array [.string "now", .array []]) :=
      Json.value_array_eq_ok_iff.2 ⟨by decide, rfl, _, .cons (Json.value_text _ _) (.cons rfl .nil), rfl⟩
    exact ((default_classified hfield hv).2.1 _).2 ⟨_, .array _, rfl⟩
  · have hv : Json.value 1 (.object [Json.member "args" (.array [] none), Json.member "of" .null,
        Json.member "name" (.text "now")] none) =
        .ok (.object [("args", .array []), ("of", .null), ("name", .string "now")]) := by
      refine Json.value_object_eq_ok_iff.2 ⟨by decide, rfl,
        [("args", .array []), ("of", .null), ("name", .string "now")], ?_, rfl⟩
      exact .cons ⟨Json.memberKey_text _, rfl⟩ (.cons ⟨Json.memberKey_text _, rfl⟩
        (.cons ⟨Json.memberKey_text _, Json.value_text _ _⟩ .nil))
    have hcalls : Default.Calls [("args", .array []), ("of", .null), ("name", .string "now")] "now" [] :=
      ⟨by simp, by decide, by decide, Or.inl ⟨[], by simp, rfl⟩⟩
    exact ((default_classified hfield hv).2.1 _).2 ⟨_, .object hcalls, rfl⟩
  · have hv : Json.value 1 (.object [Json.member "name" (.text "now"), Json.member "name" (.text "now")] none) =
        .ok (.object [("name", .string "now"), ("name", .string "now")]) := by
      have hname := And.intro (Json.memberKey_text "name") (Json.value_text 2 "now")
      exact Json.value_object_eq_ok_iff.2 ⟨by decide, rfl, [("name", .string "now"), ("name", .string "now")],
        .cons hname (.cons hname .nil), rfl⟩
    obtain ⟨-, -, hnothing, herror, -⟩ := default_classified hfield hv
    refine herror (hnothing.2 ⟨_, rfl, fun function args hcalls => ?_⟩)
    exact absurd hcalls.nameOnce (by decide)

/-! ## Texts -/

/-- **Texts are quoted only as texts**: the default of a text field starts its property as a literal that is read as the
default. The default of a time or of bytes is the code itself, and no code of a literal or a call with one; the property
stays on one line only if the default does. -/
theorem texts_quoted_iff {d : String} (hkind : f.kind = .scalar) (hrelation : f.relationName = none)
    (htype : f.typeName ∈ ["String", "DateTime", "Bytes"]) (hdefault : f.default = some (.literal (.string d)))
    (swagger : Bool) :
    ∃ code, (f.toProperty swagger).initializer = some code ∧
      (f.toProperty swagger).render = (f.toProperty swagger).opening ++ " = " ++ code ++ ";" ∧
      (f.typeName = "String" → ∃ body, code.toList = '\'' :: (body ++ ['\'']) ∧ Encodes body d.toList) ∧
      (f.typeName ≠ "String" → code = d) ∧
      (Text.Quotes d.toList code.toList ↔ f.typeName = "String") ∧
      ((∀ c ∈ code.toList, isLineBreak c = false) ↔
        f.typeName = "String" ∨ ∀ c ∈ d.toList, isLineBreak c = false) := by
  have hcode : (f.toProperty swagger).initializer = some (if f.typeName = "String" then Text.quoted d else d) := by
    show f.initializer = _
    simp only [List.mem_cons, List.not_mem_nil, or_false] at htype
    rcases htype with htype | htype | htype
    · rw [initializer_of_scalar hkind hrelation (s := .string) (by rw [htype]; decide) hdefault, if_pos htype]
      rfl
    · rw [initializer_of_scalar hkind hrelation (s := .dateTime) (by rw [htype]; decide) hdefault, htype]
      rfl
    · rw [initializer_of_scalar hkind hrelation (s := .bytes) (by rw [htype]; decide) hdefault, htype]
      rfl
  refine ⟨_, hcode, by rw [Property.render_eq, hcode]; rfl, fun h => ?_, fun h => if_neg h, ?_, ?_⟩
  · rw [if_pos h]
    exact ⟨_, Text.toList_quoted d, Text.Quoted.encodes_encode _⟩
  · by_cases h : f.typeName = "String"
    · rw [if_pos h]
      exact iff_of_true (Text.quotes_quoted d) h
    · -- The code is the default itself, and code that quotes it would be longer.
      rw [if_neg h]
      exact iff_of_false (fun hquotes => Nat.lt_irrefl _ hquotes.length_lt) h
  · by_cases h : f.typeName = "String"
    · rw [if_pos h]
      exact iff_of_true (Text.oneLine_quoted d) (Or.inl h)
    · rw [if_neg h]
      exact (or_iff_right h).symm

/-- A field whose default is a time. -/
def createdAt : Field :=
  { plain "createdAt" "DateTime" with default := some (.literal (.string "2024-01-01T00:00:00.000Z")) }

theorem texts_quoted_iff_time :
    (createdAt.toProperty false).render = "  createdAt: Date = 2024-01-01T00:00:00.000Z;" ∧
      ¬Text.Quotes "2024-01-01T00:00:00.000Z".toList "2024-01-01T00:00:00.000Z".toList := by
  obtain ⟨code, -, hrender, -, hraw, hquotes, -⟩ :=
    texts_quoted_iff (f := createdAt) rfl rfl (by decide) rfl false
  obtain rfl := hraw (by decide)
  exact ⟨hrender.trans (by decide), fun h => absurd (hquotes.1 h) (by decide)⟩

/-- The default of a time is not quoted. -/
theorem texts_not_quoted :
    ¬∀ (f : Field) (d : String) (swagger : Bool), f.kind = .scalar → f.relationName = none →
      f.typeName ∈ ["String", "DateTime", "Bytes"] → f.default = some (.literal (.string d)) →
      ∃ code, (f.toProperty swagger).initializer = some code ∧ Text.Quotes d.toList code.toList := by
  intro h
  obtain ⟨code, hcode, hquotes⟩ := h createdAt _ false rfl rfl (by decide) rfl
  have hraw : (createdAt.toProperty false).initializer = some "2024-01-01T00:00:00.000Z" := rfl
  obtain rfl := Option.some.inj (hraw.symm.trans hcode)
  exact Nat.lt_irrefl _ hquotes.length_lt

/-! ## Integers -/

/-- **Integers are exact**: an integer that 64 bits can hold, with a sign or without, and that stands under the key of a
default as its numeral, is the default that is read, and the numeral is the code of a number. -/
theorem integers_exact {n : Int} (hlow : -Int.pow 2 63 ≤ n) (hhigh : n < Int.pow 2 64) {depth : Nat}
    {before after : List (Tree × Tree)} {key t : Tree} (h : DefaultAt depth before key after f)
    (ht : Json.Spelled (toString n) t) (hkind : f.kind = .scalar) (hrelation : f.relationName = none) :
    ∃ g, Field.read depth (.object (before ++ (key, t) :: after) none) = .ok g ∧
      g = { f with default := some (.literal (.number (.integer n))) } ∧
      (depth = 0 → ∀ text, Json.Spelled text (.object (before ++ (key, t) :: after) none) →
        Json.decode Field.read text = .ok g) ∧
      ∀ swagger,
        (f.typeName = "BigInt" → (g.toProperty swagger).initializer = some ("BigInt(" ++ toString n ++ ")")) ∧
        (f.typeName ∈ ["Int", "Float", "Decimal"] → (g.toProperty swagger).initializer = some (toString n)) := by
  obtain rfl : t = .number (.ofInt n) := ht.unique (Json.written_integer n).spelled
  have hv : Json.value (depth + 1) (.number (.ofInt n)) = .ok (.number (.integer n)) := by
    rw [Json.value, Json.numberValue, Json.value_ofInt hlow hhigh]
    rfl
  have hcode : ∀ {s : Scalar}, Scalar.ofName? f.typeName = some s →
      initializer { f with default := some (.literal (.number (.integer n))) } =
        some ((Shape.scalar s).initializer (.number (.integer n))) :=
    fun htype => initializer_of_scalar hkind hrelation htype rfl
  have hread : Field.read depth (.object (before ++ (key, .number (.ofInt n)) :: after) none) =
      .ok { f with default := some (.literal (.number (.integer n))) } := by
    rw [h.read_eq.2, (Default.optional_read_eq_ok_iff hv).2 (.number _)]
    rfl
  refine ⟨_, hread, rfl, ?_, fun swagger => ⟨fun htype => ?_, fun htype => ?_⟩⟩
  · rintro rfl text htext
    exact (Json.decode_eq_ok_iff stable_field.thorough).2 ⟨_, htext, hread⟩
  · exact hcode (s := .bigInt) (by rw [htype]; decide)
  · simp only [List.mem_cons, List.not_mem_nil, or_false] at htype
    rcases htype with htype | htype | htype
    · exact hcode (s := .int) (by rw [htype]; decide)
    · exact hcode (s := .float) (by rw [htype]; decide)
    · exact hcode (s := .decimal) (by rw [htype]; decide)

/-- The least and the greatest integer, each in the text of a field. -/
theorem integers_exact_limits :
    (∃ g, Json.decode Field.read ("\x7b\"name\":\"low\",\"kind\":\"scalar\",\"type\":\"BigInt\"," ++
        "\"isRequired\":true,\"default\":-9223372036854775808\x7d") = .ok g ∧
      (g.toProperty true).initializer = some "BigInt(-9223372036854775808)") ∧
    ∃ g, Json.decode Field.read ("\x7b\"name\":\"high\",\"kind\":\"scalar\",\"type\":\"Int\"," ++
        "\"isRequired\":true,\"default\":18446744073709551615\x7d") = .ok g ∧
      (g.toProperty true).initializer = some "18446744073709551615" := by
  constructor
  · obtain ⟨g, -, -, hdecode, hcode⟩ := integers_exact (n := -9223372036854775808) (by decide) (by decide)
      (defaultAt_plain (by decide : 0 < 127) "low" "BigInt") (Json.written_integer _).spelled rfl rfl
    have htext := (written_plain "low" "BigInt" (v := .number (.integer (-9223372036854775808)))
      (Json.written_integer _)).spelled
    exact ⟨g, hdecode rfl _ htext, (hcode true).1 rfl⟩
  · obtain ⟨g, -, -, hdecode, hcode⟩ := integers_exact (n := 18446744073709551615) (by decide) (by decide)
      (defaultAt_plain (by decide : 0 < 127) "high" "Int") (Json.written_integer _).spelled rfl rfl
    have htext := (written_plain "high" "Int" (v := .number (.integer 18446744073709551615))
      (Json.written_integer _)).spelled
    exact ⟨g, hdecode rfl _ htext, (hcode true).2 (by decide)⟩

end Field
end SchemaClasses
