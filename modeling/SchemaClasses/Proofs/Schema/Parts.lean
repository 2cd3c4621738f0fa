import SchemaClasses.Proofs.Json.Order

/-!
# The records of a document

A document is made of records (`Part`), and each key of a record holds a record, a list of records or something else
(`Part.Content`). A newer document may have members in these records whose keys name no field (`Extends`), and any
document may have the members of its objects in another order (`Permutes`). A reader is `Stable` if neither changes what
it reads, and the reader of a record is if those of its fields are (`stable_record`).
-/

namespace SchemaClasses

open Json (Reader Fields Tree Permutes Keeps Thorough)

/-! ## The parts of a document -/

/-- The records of a document. -/
inductive Part where
  | document
  | block
  | variable
  | wrapper
  | schema
  | model
  | field
  | enumeration

/-- What stands under a key of a record. -/
inductive Part.Content where
  | plain
  | one (p : Part)
  | many (p : Part)

/-- The keys of a record in their order, and what stands under them. -/
def Part.members : Part → List (String × Part.Content)
  | .document =>
    [("generator", .one .block), ("otherGenerators", .many .block), ("schemaPath", .plain), ("dmmf", .one .wrapper)]
  | .block => [("name", .plain), ("provider", .one .variable), ("output", .one .variable), ("config", .plain)]
  | .variable => [("value", .plain), ("fromEnvVar", .plain)]
  | .wrapper => [("datamodel", .one .schema)]
  | .schema => [("models", .many .model), ("enums", .many .enumeration)]
  | .model => [("name", .plain), ("fields", .many .field)]
  | .field =>
    [("name", .plain), ("kind", .plain), ("type", .plain), ("isRequired", .plain), ("isList", .plain),
      ("relationName", .plain), ("default", .plain)]
  | .enumeration => [("name", .plain)]

theorem Part.nodup_keys (p : Part) : (p.members.map Prod.fst).Nodup := by cases p <;> decide

/-- One more member stands in some record of what is read as such a content. The key is a text that names no field of
the record; the value may be anything that is spelled. A record that is written as an array has no keys, but records
may stand in it, by the number of their field. -/
inductive Extends : Part.Content → Tree → Tree → Prop where
  | insert {p : Part} {ms ms' : List (Tree × Tree)} {k t : Tree} {key : String} : Json.memberKey k = .ok key →
      key ∉ p.members.map Prod.fst → Extends (.one p) (.object (ms ++ ms') none) (.object (ms ++ (k, t) :: ms') none)
  | member {p : Part} {c : Part.Content} {ms ms' : List (Tree × Tree)} {k t t' : Tree} {key : String} :
      Json.memberKey k = .ok key → (key, c) ∈ p.members → Extends c t t' →
      Extends (.one p) (.object (ms ++ (k, t) :: ms') none) (.object (ms ++ (k, t') :: ms') none)
  | item {p : Part} {c : Part.Content} {ts ts' : List Tree} {t t' : Tree} {key : String} :
      p.members[ts.length]? = some (key, c) → Extends c t t' →
      Extends (.one p) (.array (ts ++ t :: ts') none) (.array (ts ++ t' :: ts') none)
  | entry {p : Part} {ts ts' : List Tree} {t t' : Tree} : Extends (.one p) t t' →
      Extends (.many p) (.array (ts ++ t :: ts') none) (.array (ts ++ t' :: ts') none)

/-! ## Stable readers -/

section Stable

variable {α : Type}

/-- A reader that accepts no faults and reads the same from members in another order and next to unknown members. -/
structure Stable (c : Part.Content) (read : Reader α) : Prop where
  thorough : Thorough read
  permuted : Keeps Permutes read
  extended : Keeps (Extends c) read

theorem sparesNull_extends (c : Part.Content) : Json.SparesNull (Extends c) := by
  intro t t' h
  cases h <;> exact ⟨nofun, nofun⟩

theorem keeps_plain (read : Reader α) : Keeps (Extends .plain) read := by
  intro depth t t' a h
  cases h

theorem Stable.of_plain {read : Reader α} (hthorough : Thorough read) (hpermutes : Keeps Permutes read) :
    Stable .plain read := ⟨hthorough, hpermutes, keeps_plain read⟩

theorem Stable.optional {c : Part.Content} {read : Reader α} (h : Stable c read) : Stable c (Json.optional read) where
  thorough := h.thorough.optional
  permuted := h.permuted.optional Json.sparesNull_permutes
  extended := h.extended.optional (sparesNull_extends c)

theorem Stable.sequence {p : Part} {read : Reader α} (h : Stable (.one p) read) :
    Stable (.many p) (Json.sequence read) where
  thorough := h.thorough.sequence
  permuted := Json.permutes_sequence h.permuted
  extended := by
    intro depth t t' as hext ht' hseq
    cases hext with
    | entry hext => exact Json.sequence_replace (fun _ => h.extended hext (Json.whole_of_item ht')) hseq

/-- The fields of a record are those of the part, each with a reader for what stands under it. -/
def Declares (p : Part) (fs : Fields α) : Prop :=
  fs.Each fun n key _ read => ∃ c, p.members[n]? = some (key, c) ∧ Stable c read

section Declarations

variable {p : Part} {c : Part.Content} {τ : Type} {before : Fields (τ → α)} {key : String} {read : Reader τ}

theorem declares_start {make : α} : Declares p (Fields.start make) := trivial

theorem Declares.required (h : Declares p before) (hkey : p.members[before.size]? = some (key, c))
    (hread : Stable c read) : Declares p (before.required key read) := ⟨h, c, hkey, hread⟩

theorem Declares.withDefault {fallback : τ} (h : Declares p before) (hkey : p.members[before.size]? = some (key, c))
    (hread : Stable c read) : Declares p (before.withDefault key fallback read) := ⟨h, c, hkey, hread⟩

end Declarations

theorem stable_record {name : String} {p : Part} {fs : Fields α} (hfs : Declares p fs) :
    Stable (.one p) (Json.record name fs) where
  thorough := Json.thorough_record (Fields.each_imp (fun _ _ _ _ ⟨_, _, h⟩ => h.thorough) hfs)
  permuted := Json.permutes_record (Fields.each_imp (fun _ _ _ _ ⟨_, _, h⟩ => h.permuted) hfs)
  extended := by
    intro depth t t' a hext ht' ha
    cases hext with
    | insert hkey hnew =>
      refine Json.record_insert hkey (Fields.has_eq_false_of_each ?_) (Json.whole_of_member ht') ha
      refine Fields.each_imp ?_ hfs
      rintro n key' τ read ⟨c, hc, -⟩ rfl
      exact hnew (List.mem_map_of_mem (List.mem_of_getElem? hc))
    | member hkey hmem hext =>
      have ht' := Json.whole_of_member ht'
      refine Json.record_replace (Fields.each_imp ?_ hfs) ht' ha
      rintro n key' τ read ⟨c, hc, h⟩ hkey' v
      -- What stands under a key of a part is settled by the key.
      cases hkey.symm.trans hkey'
      have hlookup := (OrderedMap.mem_iff_lookup p.nodup_keys).1 hmem
      have hlookup' := (OrderedMap.mem_iff_lookup p.nodup_keys).1 (List.mem_of_getElem? hc)
      cases hlookup.symm.trans hlookup'
      exact h.extended hext ht'
    | item hitem hext =>
      refine Json.record_replace_item (Fields.each_imp ?_ hfs) ha
      rintro n key' τ read ⟨c, hc, h⟩ rfl v
      cases hitem.symm.trans hc
      exact h.extended hext (Json.whole_of_item ht')

end Stable

end SchemaClasses
