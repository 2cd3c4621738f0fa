import SchemaClasses.Proofs.Json.Writing
import SchemaClasses.Proofs.Schema.Stability

/-!
# Defaults of fields

What stands under the key of a default is told by its form alone (`Default.StandsFor`): nothing by `null`, a list by an
array, a call by an object with the members of one (`Default.Calls`), and a literal by anything else but an object. This
is what the reader makes of it (`Default.optional_read_eq_ok_iff`), and an object without these members is refused
(`Default.optional_read_eq_error`). A field is read from an object with a default as it is read without one, but for the
default itself (`DefaultAt.read_eq`).
-/

namespace SchemaClasses

open Json (Tree)

/-! ## Members under one key -/

section Keys

variable {α : Type} {es : List (String × α)} {key : String} {a : α}

theorem length_filter_key : (es.filter (·.1 == key)).length = (es.map Prod.fst).count key := by
  rw [← List.countP_eq_length_filter, List.count, List.countP_map]
  rfl

theorem filter_key_eq_nil_iff : es.filter (·.1 == key) = [] ↔ key ∉ es.map Prod.fst := by
  rw [← List.length_eq_zero_iff, length_filter_key, List.count_eq_zero]

theorem filter_key_eq_singleton_iff :
    es.filter (·.1 == key) = [(key, a)] ↔ (key, a) ∈ es ∧ (es.map Prod.fst).count key = 1 := by
  rw [← length_filter_key]
  have hmem : (key, a) ∈ es.filter (·.1 == key) ↔ (key, a) ∈ es := by simp
  constructor
  · intro h
    exact ⟨hmem.1 (h ▸ List.mem_singleton_self _), by rw [h]; rfl⟩
  · rintro ⟨ha, hlength⟩
    obtain ⟨e, he⟩ := List.length_eq_one_iff.1 hlength
    rw [he] at hmem ⊢
    rw [List.mem_singleton.1 (hmem.2 ha)]

/-- The key of what is found under a key. -/
theorem eq_of_filter_key {e : String × α} (h : es.filter (·.1 == key) = [e]) : e.1 = key := by
  have he : e ∈ es.filter (·.1 == key) := h ▸ List.mem_singleton_self e
  exact beq_iff_eq.1 (List.mem_filter.1 he).2

end Keys

/-! ## Values -/

namespace Default

/-- The members of an object give a call: one text under `name`, and at most one array under `args`. -/
structure Calls (ms : List (String × Json.Value)) (function : String) (args : List Json.Value) : Prop where
  name : ("name", .string function) ∈ ms
  nameOnce : (ms.map Prod.fst).count "name" = 1
  argsOnce : (ms.map Prod.fst).count "args" ≤ 1
  args : (∃ items, ("args", .array items) ∈ ms ∧ args = items.map Json.Value.canonical) ∨
    ("args" ∉ ms.map Prod.fst ∧ args = [])

/-- What a value under the key of a default stands for. -/
inductive StandsFor : Json.Value → Option Default → Prop
  | null : StandsFor .null none
  | bool (b : Bool) : StandsFor (.bool b) (some (.literal (.bool b)))
  | number (n : Json.Number) : StandsFor (.number n) (some (.literal (.number n)))
  | string (s : String) : StandsFor (.string s) (some (.literal (.string s)))
  /-- The same items in the same order, each with the members of its objects sorted by key. -/
  | array (items : List Json.Value) : StandsFor (.array items) (some (.list (items.map Json.Value.canonical)))
  | object {ms : List (String × Json.Value)} {function : String} {args : List Json.Value}
    (h : Calls ms function args) : StandsFor (.object ms) (some (.call function args))

theorem calls_iff {ms : List (String × Json.Value)} {function : String} {args : List Json.Value} :
    Calls ms function args ↔ ms.filter (·.1 == "name") = [("name", .string function)] ∧
      ((∃ items, ms.filter (·.1 == "args") = [("args", .array items)] ∧ args = items.map Json.Value.canonical) ∨
        (ms.filter (·.1 == "args") = [] ∧ args = [])) := by
  simp only [filter_key_eq_singleton_iff, filter_key_eq_nil_iff]
  constructor
  · rintro ⟨hname, hnameOnce, hargsOnce, hargs⟩
    refine ⟨⟨hname, hnameOnce⟩, hargs.imp_left ?_⟩
    rintro ⟨items, hmem, hitems⟩
    have hpos : 0 < (ms.map Prod.fst).count "args" := List.count_pos_iff.2 (List.mem_map_of_mem hmem)
    exact ⟨items, ⟨hmem, by omega⟩, hitems⟩
  · rintro ⟨⟨hname, hnameOnce⟩, ⟨items, ⟨hmem, honce⟩, hitems⟩ | ⟨hnone, hargs⟩⟩
    · exact ⟨hname, hnameOnce, Nat.le_of_eq honce, Or.inl ⟨items, hmem, hitems⟩⟩
    · exact ⟨hname, hnameOnce, by rw [List.count_eq_zero_of_not_mem hnone]; exact Nat.zero_le 1, Or.inr ⟨hnone, hargs⟩⟩

theorem callOf?_eq_some_iff_calls {ms : List (String × Json.Value)} {d : Default} :
    callOf? ms = some d ↔ ∃ function args, Calls ms function args ∧ d = .call function args := by
  simp only [calls_iff]
  constructor
  · intro h
    unfold callOf? at h
    split at h
    · rename_i function hname hargs
      cases h
      obtain rfl := eq_of_filter_key hname
      exact ⟨function, [], ⟨hname, Or.inr ⟨hargs, rfl⟩⟩, rfl⟩
    · rename_i function _ items hname hargs
      cases h
      obtain rfl := eq_of_filter_key hname
      obtain rfl := eq_of_filter_key hargs
      exact ⟨function, _, ⟨hname, Or.inl ⟨items, hargs, Json.canonicalItems_eq_map items⟩⟩, rfl⟩
    · cases h
  · rintro ⟨function, args, ⟨hname, ⟨items, hargs, rfl⟩ | ⟨hargs, rfl⟩⟩, rfl⟩
    · unfold callOf?
      rw [hname, hargs, ← Json.canonicalItems_eq_map]
    · unfold callOf?
      rw [hname, hargs]

theorem standsFor_iff {v : Json.Value} {o : Option Default} :
    StandsFor v o ↔ (v = .null ∧ o = none) ∨ ∃ d, ofJson? v = some d ∧ o = some d := by
  constructor
  · intro h
    cases h with
    | null => exact Or.inl ⟨rfl, rfl⟩
    | bool b => exact Or.inr ⟨_, rfl, rfl⟩
    | number n => exact Or.inr ⟨_, rfl, rfl⟩
    | string s => exact Or.inr ⟨_, rfl, rfl⟩
    | array items => exact Or.inr ⟨_, by rw [ofJson?, Json.canonicalItems_eq_map], rfl⟩
    | object h => exact Or.inr ⟨_, callOf?_eq_some_iff_calls.2 ⟨_, _, h, rfl⟩, rfl⟩
  · rintro (⟨rfl, rfl⟩ | ⟨d, hd, rfl⟩)
    · exact .null
    · cases v with
      | null => cases hd
      | bool b => cases hd; exact .bool b
      | number n => cases hd; exact .number n
      | string s => cases hd; exact .string s
      | array items =>
        cases hd
        rw [Json.canonicalItems_eq_map]
        exact .array items
      | object ms =>
        obtain ⟨function, args, h, rfl⟩ := callOf?_eq_some_iff_calls.1 hd
        exact .object h

/-- Only objects that give no call stand for nothing. -/
theorem not_standsFor_iff {v : Json.Value} :
    (∀ o, ¬StandsFor v o) ↔ ∃ ms, v = .object ms ∧ ∀ function args, ¬Calls ms function args := by
  constructor
  · intro h
    cases v with
    | object ms => exact ⟨ms, rfl, fun function args hcalls => h _ (.object hcalls)⟩
    | null => exact absurd .null (h _)
    | bool b => exact absurd (.bool b) (h _)
    | number n => exact absurd (.number n) (h _)
    | string s => exact absurd (.string s) (h _)
    | array items => exact absurd (.array items) (h _)
  · rintro ⟨ms, rfl, hcalls⟩ o h
    cases h with
    | object h => exact hcalls _ _ h

section Read

variable {depth : Nat} {t : Tree} {v : Json.Value}

/-- What is read is what the value stands for. -/
theorem optional_read_eq_ok_iff (hv : Json.value depth t = .ok v) {o : Option Default} :
    Json.optional Default.read depth t = .ok o ↔ StandsFor v o := by
  have hread : ∀ d, Default.read depth t = .ok d ↔ ofJson? v = some d := by
    intro d
    rw [read_eq, hv]
    exact Outcome.elim_eq_ok_iff
  have hnull : t = .null ↔ v = .null := by
    constructor
    · rintro rfl
      exact (Except.ok.inj hv).symm
    · rintro rfl
      exact Json.eq_null_of_value hv
  simp only [Json.optional_eq_ok_iff, standsFor_iff, hread, ne_eq, hnull]
  refine or_congr_right (and_iff_right_of_imp ?_)
  rintro ⟨d, hd, -⟩ rfl
  cases hd

/-- A value that stands for nothing is of no kind of default. -/
theorem optional_read_eq_error (hv : Json.value depth t = .ok v) (h : ∀ o, ¬StandsFor v o) :
    Json.optional Default.read depth t = .error (.noVariant "FieldDefault") := by
  have hnone : ofJson? v = none :=
    Option.eq_none_iff_forall_ne_some.2 fun d hd => h _ (standsFor_iff.2 (Or.inr ⟨d, hd, rfl⟩))
  have hread : Default.read depth t = .error (.noVariant "FieldDefault") := by
    rw [read_eq, hv]
    exact congrArg (fun o => Option.elim o (Except.error _) Except.ok) hnone
  cases t with
  | null =>
    cases hv
    exact absurd .null (h none)
  | _ => exact congrArg (Except.map some) hread

end Read

end Default

/-! ## Fields with a default -/

/-- An object gives a field, and a default can stand among its members. -/
structure DefaultAt (depth : Nat) (before : List (Tree × Tree)) (key : Tree) (after : List (Tree × Tree)) (f : Field) :
    Prop where
  read : Field.read depth (.object (before ++ after) none) = .ok f
  key : Json.memberKey key = .ok "default"
  alone : ∀ m ∈ before ++ after, Json.memberKey m.1 ≠ .ok "default"

namespace DefaultAt

variable {depth : Nat} {before after : List (Tree × Tree)} {key : Tree} {f : Field}

/-- Only the default is settled by what stands under its key. -/
theorem read_eq (h : DefaultAt depth before key after f) : f.default = none ∧ ∀ t,
    Field.read depth (.object (before ++ (key, t) :: after) none) =
      (Json.optional Default.read (depth + 1) t).map fun o => { f with default := o } := by
  obtain ⟨slots, make, o, hmake, ho, rfl, hread⟩ := Json.record_last_field h.key h.alone h.read
  cases ho
  -- What makes the record is the constructor with the values of the six other fields, taken off one by one.
  obtain ⟨_, _, _, hrelation, rfl⟩ := Json.Fields.exists_of_finish hmake
  obtain ⟨_, _, _, hlist, rfl⟩ := Json.Fields.exists_of_finish hrelation
  obtain ⟨_, _, _, hrequired, rfl⟩ := Json.Fields.exists_of_finish hlist
  obtain ⟨_, _, _, htype, rfl⟩ := Json.Fields.exists_of_finish hrequired
  obtain ⟨_, _, _, hkind, rfl⟩ := Json.Fields.exists_of_finish htype
  obtain ⟨_, _, _, hname, rfl⟩ := Json.Fields.exists_of_finish hkind
  cases hname
  exact ⟨rfl, hread⟩

end DefaultAt

/-! ## Small fields -/

/-- A required scalar without a default. -/
def Field.plain (name type : String) : Field := ⟨name, .scalar, type, true, false, none, none⟩

/-- The members of a required scalar without a default. -/
def Field.plainMembers (name type : String) : List (Tree × Tree) :=
  [Json.member "name" (.text name), Json.member "kind" (.text "scalar"), Json.member "type" (.text type),
    Json.member "isRequired" (.bool true)]

theorem defaultAt_plain {depth : Nat} (hdepth : depth < 127) (name type : String) :
    DefaultAt depth (Field.plainMembers name type) (.text "default") [] (Field.plain name type) where
  read := by
    have htext : ∀ s, Json.text (depth + 1) (.text s) = .ok s := Json.literalText_ofText
    have hkind : Field.Kind.read (depth + 1) (.text "scalar") = .ok .scalar := by
      show Json.literalText (.ofText "scalar") >>= Field.Kind.named = _
      rw [Json.literalText_ofText]
      rfl
    unfold Field.read
    rw [List.append_nil, Json.record_object_eq hdepth]
    simp only [Field.plainMembers, Json.member, List.foldlM_cons, List.foldlM_nil, Json.Fields.place,
      Json.memberKey_text, Json.Fields.start, Json.Fields.required, Json.Fields.withDefault, Json.Fields.fill, htext,
      hkind]
    rfl
  key := Json.memberKey_text _
  alone := by simp [Field.plainMembers, Json.member, Json.memberKey_text]

/-- The text of a required scalar with a default spells its members and the default. -/
theorem written_plain (name type : String) {v : Json.Value} {t : Tree} (h : Json.Written v.compact t) :
    Json.Written (Json.Value.object [("name", .string name), ("kind", .string "scalar"), ("type", .string type),
        ("isRequired", .bool true), ("default", v)]).compact
      (.object (Field.plainMembers name type ++ [Json.member "default" t]) none) := by
  refine Json.written_object (.cons ⟨rfl, Json.written_string name⟩ (.cons ⟨rfl, Json.written_string "scalar"⟩ ?_))
  exact .cons ⟨rfl, Json.written_string type⟩ (.cons ⟨rfl, Json.written_bool true⟩ (.cons ⟨rfl, h⟩ .nil))

end SchemaClasses
