import SchemaClasses.Proofs.Schema.Parts
import SchemaClasses.Schema.Read

/-!
# Documents in other orders and with other members

Every reader of a document is stable: texts, truth values and kinds, the values that are judged by their form once they
are read (`stable_judged`), and from them the records up to the document itself (`stable_document`). So what is read
from a text is read from every text that spells the tree with members in another order, or with a member that names no
field (`Document.decode_stable`).
-/

namespace SchemaClasses

open Json (Reader Tree Permutes Spelled)

/-! ## Values told by their form -/

theorem stable_text : Stable .plain Json.text := .of_plain (Json.thorough_textAs _) (Json.permutes_textAs _)

theorem stable_flag : Stable .plain Json.flag := .of_plain Json.thorough_flag Json.permutes_flag

theorem Path.read_eq_ok_iff {depth : Nat} {t : Tree} {p : Path} :
    Path.read depth t = .ok p ↔ ∃ text, Json.textAs "path string" depth t = .ok text ∧ p = Path.mk text :=
  Outcome.map_eq_ok_iff

theorem stable_path : Stable .plain Path.read := by
  refine .of_plain (fun depth t p h => ?_) fun depth t t' p hperm ht' h => ?_
  · obtain ⟨text, htext, -⟩ := Path.read_eq_ok_iff.1 h
    exact Json.thorough_textAs _ htext
  · obtain ⟨text, htext, rfl⟩ := Path.read_eq_ok_iff.1 h
    exact Path.read_eq_ok_iff.2 ⟨text, Json.permutes_textAs _ hperm ht' htext, rfl⟩

/-- A kind is a name, or an object with the name as its one key. -/
theorem Field.Kind.read_eq_ok {depth : Nat} {t : Tree} {k : Field.Kind} (h : Field.Kind.read depth t = .ok k) :
    (∃ s, t = .string s ∧ t.Whole) ∨ ∃ key, t = .object [(key, .null)] none ∧ t.Whole := by
  cases t with
  | string s =>
    obtain ⟨name, hname, -⟩ := Outcome.bind_eq_ok_iff.1 h
    exact Or.inl ⟨s, rfl, Tree.whole_string.2 (Json.fault_of_literalText hname)⟩
  | object members fault =>
    obtain ⟨_, -, h⟩ := Outcome.bind_eq_ok_iff.1 h
    cases members with
    | nil =>
      obtain ⟨_, -, h⟩ := Outcome.bind_eq_ok_iff.1 h
      cases h
    | cons m more =>
      obtain ⟨key, t⟩ := m
      obtain ⟨name, hname, h⟩ := Outcome.bind_eq_ok_iff.1 h
      obtain ⟨kind, -, h⟩ := Outcome.bind_eq_ok_iff.1 h
      obtain ⟨rfl, rfl, rfl⟩ : t = .null ∧ more = [] ∧ fault = none := by
        dsimp only at h
        split at h
        · split at h
          · obtain ⟨_, hfault, -⟩ := Outcome.bind_eq_ok_iff.1 h
            exact ⟨rfl, List.isEmpty_iff.1 ‹_›, Json.checkFault_eq_ok_iff.1 hfault⟩
          · cases h
        · obtain ⟨_, hrefuse, -⟩ := Outcome.bind_eq_ok_iff.1 h
          exact absurd hrefuse Json.refuse_ne_ok
      obtain ⟨s, rfl, hs⟩ := Json.textAs_eq_ok_iff.1 hname
      refine Or.inr ⟨.string s, rfl, Tree.whole_object.2 ⟨List.forall_mem_singleton.2 ⟨?_, rfl⟩, rfl⟩⟩
      exact ⟨s, rfl, Json.fault_of_literalText hs⟩
  | _ => cases h

/-- One member has no other order, and nothing changes in `null`. -/
theorem eq_of_permutes_singleton {key t' : Tree} (h : Permutes (.object [(key, .null)] none) t') :
    t' = .object [(key, .null)] none := by
  generalize ht : Tree.object [(key, .null)] none = t at h
  cases h with
  | members _ hperm =>
    cases ht
    rw [List.singleton_perm.1 hperm]
  | item => cases ht
  | @member ms ms' k t t' h =>
    cases ms with
    | nil => cases ht; cases h
    | cons m ms => simp at ht

theorem stable_kind : Stable .plain Field.Kind.read := by
  refine .of_plain (fun depth t k h => ?_) fun depth t t' k hperm ht' h => ?_
  · rcases Field.Kind.read_eq_ok h with ⟨_, -, ht⟩ | ⟨_, -, ht⟩ <;> exact ht
  · rcases Field.Kind.read_eq_ok h with ⟨s, rfl, -⟩ | ⟨key, rfl, -⟩
    · cases hperm
    · rw [eq_of_permutes_singleton hperm]
      exact h

/-- A value that is judged by its form once it is read may have its members in any order. -/
theorem stable_judged {α : Type} {read : Reader α} {ofJson? : Json.Value → Option α} {e : Json.Error}
    (hread : ∀ depth t, read depth t = Json.value depth t >>= fun v => (ofJson? v).elim (.error e) .ok)
    (halike : ∀ {v v'}, Json.Alike v v' → ofJson? v = ofJson? v') : Stable .plain read := by
  have hjudged : ∀ depth t a, read depth t = .ok a ↔ ∃ v, Json.value depth t = .ok v ∧ ofJson? v = some a := by
    intro depth t a
    rw [hread, Outcome.bind_eq_ok_iff]
    exact exists_congr fun v => and_congr_right fun _ => Outcome.elim_eq_ok_iff
  refine .of_plain (fun depth t a h => ?_) fun depth t t' a hperm _ h => ?_
  · obtain ⟨v, hv, -⟩ := (hjudged depth t a).1 h
    exact Json.thorough_value hv
  · obtain ⟨v, hv, ha⟩ := (hjudged depth t a).1 h
    obtain ⟨v', hv', hvv'⟩ := Json.value_permutes hperm hv
    exact (hjudged depth t' a).2 ⟨v', hv', halike hvv' ▸ ha⟩

theorem Default.read_eq (depth : Nat) (t : Tree) : Default.read depth t =
    Json.value depth t >>= fun v => (ofJson? v).elim (.error (.noVariant "FieldDefault")) .ok := by
  refine bind_congr fun v => ?_
  cases Default.ofJson? v <;> rfl

theorem Setting.read_eq (depth : Nat) (t : Tree) : Setting.read depth t =
    Json.value depth t >>= fun v => (ofJson? v).elim (.error (.noVariant "ConfigValue")) .ok := by
  refine bind_congr fun v => ?_
  cases Setting.ofJson? v <;> rfl

/-- The members under a key, with canonical values. -/
def membersOf (key : String) (ms : List (String × Json.Value)) : List (String × Json.Value) :=
  (Json.canonicalMembers ms).filter (·.1 == key)

theorem membersOf_eq_map (key : String) (ms : List (String × Json.Value)) :
    membersOf key ms = (ms.filter (·.1 == key)).map fun m => (m.1, m.2.canonical) := by
  rw [membersOf, Json.canonicalMembers_eq_map, List.filter_map]
  rfl

theorem exists_of_canonical_singleton {ms : List (String × Json.Value)} {key : String} {w : Json.Value}
    (h : ms.map (fun m => (m.1, m.2.canonical)) = [(key, w)]) : ∃ v, ms = [(key, v)] ∧ v.canonical = w := by
  obtain ⟨⟨k, v⟩, rfl, hv⟩ := List.map_eq_singleton_iff.1 h
  cases hv
  exact ⟨v, rfl, rfl⟩

theorem canonical_eq_string_iff {v : Json.Value} {s : String} : v.canonical = .string s ↔ v = .string s := by
  cases v <;> simp [Json.Value.canonical]

theorem exists_of_canonical_array {v : Json.Value} {items : List Json.Value} (h : v.canonical = .array items) :
    ∃ vs, v = .array vs ∧ Json.canonicalItems vs = items := by
  cases v <;> simp [Json.Value.canonical] at h
  exact ⟨_, rfl, h⟩

/-- Members give a call if one text stands under `name` and at most one list under `args`. -/
theorem Default.callOf?_eq_some_iff {ms : List (String × Json.Value)} {d : Default} :
    Default.callOf? ms = some d ↔ ∃ k name, membersOf "name" ms = [(k, .string name)] ∧
      ((membersOf "args" ms = [] ∧ d = .call name []) ∨
        ∃ k' args, membersOf "args" ms = [(k', .array args)] ∧ d = .call name args) := by
  rw [membersOf_eq_map, membersOf_eq_map, callOf?]
  generalize ms.filter (·.1 == "name") = names, ms.filter (·.1 == "args") = args
  constructor
  · intro h
    split at h
    · rename_i k name
      cases h
      exact ⟨k, name, rfl, Or.inl ⟨rfl, rfl⟩⟩
    · rename_i k name k' args
      cases h
      exact ⟨k, name, rfl, Or.inr ⟨k', _, rfl, rfl⟩⟩
    · cases h
  · rintro ⟨k, name, hnames, h⟩
    obtain ⟨v, rfl, hv⟩ := exists_of_canonical_singleton hnames
    obtain rfl := canonical_eq_string_iff.1 hv
    rcases h with ⟨hargs, rfl⟩ | ⟨k', items, hargs, rfl⟩
    · rw [List.map_eq_nil_iff.1 hargs]
    · obtain ⟨w, rfl, hw⟩ := exists_of_canonical_singleton hargs
      obtain ⟨items', rfl, rfl⟩ := exists_of_canonical_array hw
      rfl

theorem eq_singleton_iff_of_perm {α : Type} {l l' : List α} (h : l.Perm l') {a : α} : l = [a] ↔ l' = [a] := by
  constructor
  · rintro rfl; exact List.singleton_perm.1 h |>.symm
  · rintro rfl; exact List.perm_singleton.1 h

theorem Default.callOf?_alike {ms ms' : List (String × Json.Value)}
    (h : (Json.canonicalMembers ms).Perm (Json.canonicalMembers ms')) : callOf? ms = callOf? ms' := by
  refine Option.ext fun d => ?_
  have hkey : ∀ key, (membersOf key ms).Perm (membersOf key ms') := fun key => h.filter _
  have hnil : membersOf "args" ms = [] ↔ membersOf "args" ms' = [] := by
    rw [← List.length_eq_zero_iff, (hkey _).length_eq, List.length_eq_zero_iff]
  simp only [callOf?_eq_some_iff, eq_singleton_iff_of_perm (hkey _), hnil]

theorem Default.ofJson?_alike {v v' : Json.Value} (h : Json.Alike v v') : ofJson? v = ofJson? v' := by
  cases h with
  | array h => exact congrArg (fun vs => some (Default.list vs)) h
  | object h _ => exact callOf?_alike h

/-- Whether a value is a text does not depend on the order of its members. -/
theorem Setting.stringOf?_canonical (v : Json.Value) : stringOf? v.canonical = stringOf? v := by
  cases v <;> simp [Json.Value.canonical, stringOf?]

theorem Setting.mapM_canonicalItems (vs : List Json.Value) :
    (Json.canonicalItems vs).mapM stringOf? = vs.mapM stringOf? := by
  rw [Json.canonicalItems_eq_map, List.mapM_map]
  exact congrArg (fun f => vs.mapM f) (funext stringOf?_canonical)

theorem Setting.ofJson?_alike {v v' : Json.Value} (h : Json.Alike v v') : ofJson? v = ofJson? v' := by
  cases h with
  | array h => rw [ofJson?, ofJson?, ← mapM_canonicalItems, h, mapM_canonicalItems]
  | object => rfl

theorem stable_default : Stable .plain Default.read := stable_judged Default.read_eq Default.ofJson?_alike

theorem stable_settings : Stable .plain Settings.read :=
  have hsetting : Stable .plain Setting.read := stable_judged Setting.read_eq Setting.ofJson?_alike
  .of_plain hsetting.thorough.dictionary (Json.permutes_dictionary hsetting.permuted)

/-! ## Records of a document -/

theorem stable_variable : Stable (.one .variable) EnvText.read :=
  stable_record <| declares_start.withDefault rfl stable_text.optional
    |>.withDefault rfl stable_text.optional

theorem stable_block : Stable (.one .block) Block.read :=
  stable_record <| declares_start.withDefault rfl stable_text
    |>.withDefault rfl stable_variable
    |>.withDefault rfl stable_variable.optional
    |>.withDefault rfl stable_settings

theorem stable_field : Stable (.one .field) Field.read :=
  stable_record <| declares_start.required rfl stable_text
    |>.required rfl stable_kind
    |>.required rfl stable_text
    |>.withDefault rfl stable_flag
    |>.withDefault rfl stable_flag
    |>.withDefault rfl stable_text.optional
    |>.withDefault rfl stable_default.optional

theorem stable_model : Stable (.one .model) Model.read :=
  stable_record <| declares_start.required rfl stable_text
    |>.withDefault rfl stable_field.sequence

theorem stable_enumeration : Stable (.one .enumeration) readEnum :=
  stable_record <| declares_start.required rfl stable_text

theorem stable_schema : Stable (.one .schema) Schema.read :=
  stable_record <| declares_start.withDefault rfl stable_model.sequence
    |>.withDefault rfl stable_enumeration.sequence

theorem stable_wrapper : Stable (.one .wrapper) Schema.readWrapped :=
  stable_record <| declares_start.required rfl stable_schema

theorem stable_document : Stable (.one .document) Document.read :=
  stable_record <| declares_start.required rfl stable_block
    |>.withDefault rfl stable_block.sequence
    |>.withDefault rfl stable_path.optional
    |>.required rfl stable_wrapper

/-- A document is read from every text that spells the same tree, that tree with the members of some object in another
order, or that tree with a member more that names no field of its record. -/
theorem Document.decode_stable {text : String} {d : Document} (h : Json.decode Document.read text = .ok d) :
    (∃ t, Spelled text t) ∧ ∀ {t t' : Tree} {text' : String}, Spelled text t →
      Permutes t t' ∨ Extends (.one .document) t t' → Spelled text' t' → Json.decode Document.read text' = .ok d := by
  rw [Json.decode_eq_ok_iff stable_document.thorough] at h
  obtain ⟨t₀, ht₀, hd⟩ := h
  refine ⟨⟨t₀, ht₀⟩, fun {t t' text'} ht hchange ht' => ?_⟩
  obtain rfl := ht₀.unique ht
  refine (Json.decode_eq_ok_iff stable_document.thorough).2 ⟨t', ht', ?_⟩
  rcases hchange with hperm | hext
  · exact stable_document.permuted hperm ht'.whole hd
  · exact stable_document.extended hext ht'.whole hd

/-- A key without escapes. -/
def plainKey (name : String) : Tree := .string ⟨name.toList.map .char, none⟩

/-- The members of the shortest text of a document, with these members in its schema. -/
def shortestMembers (schema : List (Tree × Tree)) : List (Tree × Tree) :=
  [(plainKey "generator", .object [] none),
    (plainKey "dmmf", .object [(plainKey "datamodel", .object schema none)] none)]

/-- The document of the shortest text. -/
def Document.shortest : Document := ⟨⟨"", .unset, none, .empty⟩, [], none, ⟨[], []⟩⟩

/-- A number out of range and half of a surrogate pair, which no reader accepts. -/
def outlandish : Tree :=
  .array [.number ⟨false, ['1'], none, some (false, ['9', '9', '9'])⟩, .string ⟨[.unit 0xD800], none⟩] none

theorem distinctKeys_shortestMembers : Json.DistinctKeys (shortestMembers []) := by
  have hgenerator : Json.memberKey (plainKey "generator") = .ok "generator" := rfl
  have hdmmf : Json.memberKey (plainKey "dmmf") = .ok "dmmf" := rfl
  refine List.pairwise_pair.2 fun key hkey hkey' => ?_
  have heq := (hgenerator.symm.trans hkey).trans (hdmmf.symm.trans hkey').symm
  exact absurd (Except.ok.inj heq) (by decide)

theorem extends_shortestMembers : Extends (.one .document) (.object (shortestMembers []) none)
    (.object (shortestMembers [(plainKey "types", outlandish)]) none) := by
  have hdmmf : Json.memberKey (plainKey "dmmf") = .ok "dmmf" := rfl
  have hdatamodel : Json.memberKey (plainKey "datamodel") = .ok "datamodel" := rfl
  have htypes : Json.memberKey (plainKey "types") = .ok "types" := rfl
  have hschema : Extends (.one .schema) (.object ([] ++ []) none)
      (.object ([] ++ [(plainKey "types", outlandish)]) none) := .insert htypes (by decide)
  have hwrapper : Extends (.one .wrapper) (.object ([] ++ [(plainKey "datamodel", _)]) none)
      (.object ([] ++ [(plainKey "datamodel", _)]) none) := .member hdatamodel List.mem_cons_self hschema
  have hdocument : ∀ m, Extends (.one .document) (.object ([m] ++ [(plainKey "dmmf", _)]) none)
      (.object ([m] ++ [(plainKey "dmmf", _)]) none) := fun _ => .member hdmmf (by simp [Part.members]) hwrapper
  exact hdocument _

/-- The shortest text, its members in the other order, and with a member in its schema that no reader would accept. -/
theorem Document.decode_stable_shortest :
    Json.decode Document.read
        "\x7b\"generator\": \x7b\x7d, \"dmmf\": \x7b\"datamodel\": \x7b\x7d\x7d\x7d" = .ok shortest ∧
      Json.decode Document.read
        "\x7b\"dmmf\": \x7b\"datamodel\": \x7b\x7d\x7d, \"generator\": \x7b\x7d\x7d" = .ok shortest ∧
      Json.decode Document.read
        "\x7b\"generator\":\x7b\x7d,\"dmmf\":\x7b\"datamodel\":\x7b\"types\":[1e999,\"\\ud800\"]\x7d\x7d\x7d" =
          .ok shortest := by
  have hspelled : Spelled "\x7b\"generator\": \x7b\x7d, \"dmmf\": \x7b\"datamodel\": \x7b\x7d\x7d\x7d"
      (.object (shortestMembers []) none) := Json.spelled_of_read_eq (by simp only [String.reduceToList]; rfl) rfl
  have hread : Document.read 0 (.object (shortestMembers []) none) = .ok shortest := rfl
  have hd := (Json.decode_eq_ok_iff stable_document.thorough).2 ⟨_, hspelled, hread⟩
  refine ⟨hd, ?_, ?_⟩
  · have hperm := Permutes.members distinctKeys_shortestMembers (List.reverse_perm _).symm
    exact (Document.decode_stable hd).2 hspelled (Or.inl hperm)
      (Json.spelled_of_read_eq (by simp only [String.reduceToList]; rfl) rfl)
  · exact (Document.decode_stable hd).2 hspelled (Or.inr extends_shortestMembers)
      (Json.spelled_of_read_eq (by simp only [String.reduceToList]; rfl) rfl)

end SchemaClasses
