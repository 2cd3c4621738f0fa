import SchemaClasses.Layout.Draft
import SchemaClasses.Proofs.Outcome
import SchemaClasses.Proofs.TypeScript.Imports

/-!
# Drafts and placed files

A draft imports what its class needs (`ClassDecl.Needs`, `Draft.brings_ofClass`), each symbol from the origin that the
class knows. Placing keeps the file and its class, and brings each symbol from the specifier of its origin
(`Draft.brings_place`).
-/

namespace SchemaClasses

open TypeScript

/-! ## Drafts of classes -/

/-- The specifier of the client module; no class that needs it is drafted where it is unknown. -/
def Client.specifier : Client → String
  | .known specifier => specifier
  | .unknown _ => ""

/-- A class needs a symbol from an origin: the class of a relation, an enum, the function that registers enums, or a
decorator. -/
inductive TypeScript.ClassDecl.Needs (client : String) (c : ClassDecl) : Origin → String → Prop
  | relation {t : String} (h : t ∈ c.relations.toList) : Needs client c (.model t) (Text.capitalize t)
  | enum {e : String} (h : e ∈ c.enums.toList) : Needs client c (.module client) e
  | registration {e : String} (h : e ∈ c.enums.toList) : Needs client c (.module graphqlModule) registerEnum
  | decorator {d : Decorator} (h : d ∈ c.usedDecorators) : Needs client c (.module d.module) d.name

namespace Draft

variable {client : Client} {directory : Path} {c : ClassDecl} {d : Draft}

/-- A drafted class without a known client module has no enums. -/
theorem enumImports_eq_ok_iff {is : List (Import Origin)} : enumImports client c = .ok is ↔
    (c.enums.toList = [] ∧ is = []) ∨ c.enums.toList ≠ [] ∧ (∃ specifier, client = .known specifier) ∧
      is = c.enums.toList.map (fun e => ⟨.module client.specifier, .ofList [e]⟩)
        ++ [⟨.module graphqlModule, .ofList [registerEnum]⟩] := by
  unfold enumImports
  by_cases h : c.enums.isEmpty = true
  · rw [if_pos h]
    have hnil := OrderedSet.isEmpty_iff.1 h
    constructor
    · intro hok; cases hok; exact Or.inl ⟨hnil, rfl⟩
    · rintro (⟨-, rfl⟩ | ⟨hne, -⟩)
      · rfl
      · exact absurd hnil hne
  · rw [if_neg h]
    have hne : c.enums.toList ≠ [] := fun hnil => h (OrderedSet.isEmpty_iff.2 hnil)
    cases client with
    | unknown reason =>
      constructor
      · intro hok; cases hok
      · rintro (⟨hnil, -⟩ | ⟨-, ⟨specifier, hs⟩, -⟩)
        · exact absurd hnil hne
        · cases hs
    | known specifier =>
      constructor
      · intro hok; cases hok; exact Or.inr ⟨hne, ⟨specifier, rfl⟩, rfl⟩
      · rintro (⟨hnil, -⟩ | ⟨-, -, rfl⟩)
        · exact absurd hnil hne
        · rfl

/-- The imports of enums are needed by these enums. -/
theorem listed_enumImports {is : List (Import Origin)} (h : enumImports client c = .ok is) {o : Origin} {x : String} :
    Imports.Listed is o x ↔ ∃ e ∈ c.enums.toList,
      (.module client.specifier = o ∧ e = x) ∨ (.module graphqlModule = o ∧ registerEnum = x) := by
  rcases enumImports_eq_ok_iff.1 h with ⟨hnil, rfl⟩ | ⟨hne, -, rfl⟩
  · rw [hnil]
    exact iff_of_false Imports.not_listed_nil (by simp)
  · have hregister : Imports.Listed [⟨.module graphqlModule, .ofList [registerEnum]⟩] o x ↔
        .module graphqlModule = o ∧ registerEnum = x := by
      simpa using Imports.listed_map_single (o := o) (x := x) [()] (fun _ => Origin.module graphqlModule)
        fun _ => registerEnum
    rw [Imports.listed_append, hregister, Imports.listed_map_single]
    obtain ⟨e, he⟩ := List.exists_mem_of_ne_nil _ hne
    constructor
    · rintro (⟨e, he, h⟩ | h)
      · exact ⟨e, he, Or.inl h⟩
      · exact ⟨e, he, Or.inr h⟩
    · rintro ⟨e, he, h | h⟩
      · exact Or.inl ⟨e, he, h⟩
      · exact Or.inr h

/-- What a draft is made of. -/
theorem ofClass_eq_ok_iff : ofClass client directory c = .ok d ↔ ∃ enums, enumImports client c = .ok enums ∧
    d = ⟨directory, fileName c.name, c, .ofList (relationImports c ++ enums ++ decoratorImports c)⟩ := by
  unfold ofClass
  rw [Outcome.bind_eq_ok_iff]
  constructor
  · rintro ⟨enums, he, h⟩
    cases h
    exact ⟨enums, Outcome.mapError_eq_ok_iff.1 he, rfl⟩
  · rintro ⟨enums, he, rfl⟩
    exact ⟨enums, Outcome.mapError_eq_ok_iff.2 he, rfl⟩

/-- A draft imports just what its class needs. -/
theorem brings_ofClass (h : ofClass client directory c = .ok d) {o : Origin} {x : String} :
    d.imports.Brings o x ↔ c.Needs client.specifier o x := by
  obtain ⟨enums, he, rfl⟩ := ofClass_eq_ok_iff.1 h
  show Imports.Brings (.ofList _) o x ↔ _
  rw [Imports.brings_ofList, Imports.listed_append, Imports.listed_append, listed_enumImports he, relationImports,
    decoratorImports, Imports.listed_map_single, Imports.listed_map_single]
  constructor
  · rintro ((⟨t, ht, rfl, rfl⟩ | ⟨e, he, ⟨rfl, rfl⟩ | ⟨rfl, rfl⟩⟩) | ⟨d, hd, rfl, rfl⟩)
    · exact .relation ht
    · exact .enum he
    · exact .registration he
    · exact .decorator hd
  · rintro (ht | he | he | hd)
    · exact Or.inl (Or.inl ⟨_, ht, rfl, rfl⟩)
    · exact Or.inl (Or.inr ⟨_, he, Or.inl ⟨rfl, rfl⟩⟩)
    · exact Or.inl (Or.inr ⟨_, he, Or.inr ⟨rfl, rfl⟩⟩)
    · exact Or.inr ⟨_, hd, rfl, rfl⟩

/-! ## Placing -/

variable {places : Dictionary Path} {f : SourceModule}

/-- The specifiers of the imports that are put to those before. -/
theorem brings_placeImports {done r : Imports String} {is : List (Import Origin)}
    (h : d.placeImports places done is = .ok r) {s x : String} :
    r.Brings s x ↔ done.Brings s x ∨ ∃ o, Imports.Listed is o x ∧ d.specifier? places o = .ok s := by
  -- By induction on the imports that are left, for any imports done before.
  induction is generalizing done with
  | nil =>
    cases h
    exact ⟨Or.inl, fun h => h.elim id fun ⟨o, ho, _⟩ => absurd ho Imports.not_listed_nil⟩
  | cons i is ih =>
    obtain ⟨target, ht, h⟩ := Outcome.bind_eq_ok_iff.1 h
    rw [ih h, Imports.brings_merge, or_assoc]
    refine or_congr_right ⟨?_, ?_⟩
    · rintro (⟨rfl, hx⟩ | ⟨o, ho, hs⟩)
      · exact ⟨i.origin, Imports.listed_cons.2 (Or.inl ⟨rfl, hx⟩), ht⟩
      · exact ⟨o, Imports.listed_cons.2 (Or.inr ho), hs⟩
    · rintro ⟨o, ho, hs⟩
      rcases Imports.listed_cons.1 ho with ⟨rfl, hx⟩ | ho
      · rw [ht] at hs
        cases hs
        exact Or.inl ⟨rfl, hx⟩
      · exact Or.inr ⟨o, ho, hs⟩

/-- A placed draft keeps its file and class. -/
theorem place_eq_ok_iff : d.place places = .ok f ↔
    ∃ imports, d.placeImports places OrderedMap.empty d.imports.toList = .ok imports ∧
      f = ⟨d.directory, d.name, d.decl, imports⟩ := by
  unfold place
  rw [Outcome.bind_eq_ok_iff]
  constructor
  · rintro ⟨imports, hi, h⟩
    cases h
    exact ⟨imports, hi, rfl⟩
  · rintro ⟨imports, hi, rfl⟩
    exact ⟨imports, hi, rfl⟩

/-- A placed draft brings each symbol from the specifier of its origin. -/
theorem brings_place (h : d.place places = .ok f) {s x : String} :
    f.imports.Brings s x ↔ ∃ o, d.imports.Brings o x ∧ d.specifier? places o = .ok s := by
  obtain ⟨imports, hi, rfl⟩ := place_eq_ok_iff.1 h
  rw [brings_placeImports hi]
  exact ⟨fun h => h.elim (fun h => absurd h Imports.not_brings_empty) id, Or.inr⟩

/-- Whatever a draft imports has a specifier once the draft is placed. -/
theorem exists_specifier_of_place (h : d.place places = .ok f) {o : Origin} {x : String} (ho : d.imports.Brings o x) :
    ∃ s, d.specifier? places o = .ok s := by
  obtain ⟨imports, hi, rfl⟩ := place_eq_ok_iff.1 h
  have hall : ∀ {done r : Imports String} {is : List (Import Origin)}, d.placeImports places done is = .ok r →
      ∀ i ∈ is, ∃ s, d.specifier? places i.origin = .ok s := by
    intro done r is h
    induction is generalizing done with
    | nil => intro i hi; cases hi
    | cons j is ih =>
      obtain ⟨target, ht, h⟩ := Outcome.bind_eq_ok_iff.1 h
      exact List.forall_mem_cons.2 ⟨⟨target, ht⟩, ih h⟩
  obtain ⟨i, hmem, rfl, -⟩ := ho
  exact hall hi i hmem

end Draft
end SchemaClasses
