import SchemaClasses.Proofs.Layout.Faults
import SchemaClasses.Proofs.TypeScript.Histories

/-!
# Placing drafts

Each origin of a draft has a specifier (`Draft.target?`) unless it is a class without a place. A draft is placed just
where all its imports are located, and else the first import that is not tells why (`Draft.place_eq`). Origins of one
specifier become one import: the specifiers come in the order of the origins (`Draft.origins_placed`), and each has the
symbols of all its origins (`Draft.symbolsOf_placed`).
-/

namespace SchemaClasses.Draft

open TypeScript Outcome

variable {d : Draft} {places : Dictionary Path} {o : Origin} {i : Import Origin}

/-! ## Specifiers of origins -/

/-- The specifier of an origin, if it has one: a module is its own, and to a class leads the way from the draft. -/
def target? (d : Draft) (places : Dictionary Path) : Origin → Option String
  | .module specifier => some specifier
  | .model name => (places.get? name).map d.path.specifier

/-- Why an origin of a draft has no specifier: it is a class without a place. -/
def fault? (d : Draft) (places : Dictionary Path) : Origin → Option GenerationError
  | .module _ => none
  | .model name => if places.get? name = none then some (.unknownModel d.path name) else none

/-- An import is from a module, or from a class with a place. -/
def Located (places : Dictionary Path) (i : Import Origin) : Prop :=
  ∀ name ∈ i.origin.model?, places.get? name ≠ none

instance : Decidable (Located places i) :=
  inferInstanceAs (Decidable (∀ name ∈ i.origin.model?, places.get? name ≠ none))

theorem specifier?_eq (d : Draft) (places : Dictionary Path) (o : Origin) :
    d.specifier? places o = orElse (d.fault? places o) ((d.target? places o).getD "") := by
  cases o with
  | module specifier => rfl
  | model name =>
    unfold specifier? fault? target?
    cases h : places.get? name <;> simp [h]

theorem fault?_eq_some_iff {e : GenerationError} : d.fault? places o = some e ↔
    ∃ name, o = .model name ∧ places.get? name = none ∧ e = .unknownModel d.path name := by
  cases o with
  | module specifier => simp [fault?]
  | model name => simp [fault?, eq_comm]

theorem fault?_eq_none_iff : d.fault? places i.origin = none ↔ Located places i := by
  unfold Located
  cases i.origin with
  | module specifier => simp [fault?, Origin.model?]
  | model name => simp [fault?, Origin.model?]

/-- A located import has a specifier. -/
theorem Located.target?_eq (h : Located places i) (d : Draft) :
    d.target? places i.origin = some ((d.target? places i.origin).getD "") := by
  cases ho : i.origin with
  | module specifier => rfl
  | model name =>
    obtain ⟨p, hp⟩ := Option.ne_none_iff_exists'.1 (h name (by rw [ho]; rfl))
    simp [target?, hp]

/-! ## Placed imports -/

/-- Imports with the specifiers of their origins. -/
def placed (d : Draft) (places : Dictionary Path) (is : List (Import Origin)) : List (Import String) :=
  is.map fun i => ⟨(d.target? places i.origin).getD "", i.names⟩

/-- A draft is placed, or the first import that is not located tells why it is not. -/
theorem place_eq (d : Draft) (places : Dictionary Path) : d.place places =
    orElse (d.imports.toList.findSome? fun i => d.fault? places i.origin)
      ⟨d.directory, d.name, d.decl, .ofList (d.placed places d.imports.toList)⟩ := by
  unfold place
  rw [placeImports_eq (d.specifier?_eq places)]
  cases d.imports.toList.findSome? fun i => d.fault? places i.origin <;> rfl

variable {is : List (Import Origin)}

theorem origins_placed (h : ∀ i ∈ is, Located places i) (d : Draft) :
    (d.placed places is).map Import.origin = is.filterMap fun i => d.target? places i.origin := by
  unfold placed
  rw [List.map_map, List.filterMap_congr fun i hi => (h i hi).target?_eq d]
  exact (congrFun List.filterMap_eq_map' is).symm

theorem symbolsOf_placed (h : ∀ i ∈ is, Located places i) (d : Draft) (s : String) :
    Imports.symbolsOf (d.placed places is) s =
      (is.filter fun i => d.target? places i.origin = some s).flatMap (·.names.toList) := by
  have hfilter : (is.filter fun i => d.target? places i.origin = some s) =
      is.filter fun i => (d.target? places i.origin).getD "" = s := by
    refine List.filter_congr fun i hi => ?_
    rw [(h i hi).target?_eq d]
    simp
  unfold Imports.symbolsOf placed
  rw [hfilter, List.filter_map, List.flatMap_map]
  rfl

/-- Placed imports bring each symbol from the specifier of its origin. -/
theorem listed_placed (h : ∀ i ∈ is, Located places i) (d : Draft) {s x : String} :
    Imports.Listed (d.placed places is) s x ↔
      ∃ i ∈ is, d.target? places i.origin = some s ∧ x ∈ i.names.toList := by
  rw [← Imports.mem_symbolsOf_iff, symbolsOf_placed h]
  simp only [List.mem_flatMap, List.mem_filter, decide_eq_true_eq, and_assoc]

/-- **Placing keeps every symbol**: a draft is not placed just where an import is of a class without a place, and the
first such import says so. Else the file keeps its directory, name and class, and its imports have distinct specifiers,
in the order in which the origins of the draft first have them; under each specifier are the symbols of all origins that
have it, in order and each once; and so every symbol of the draft is imported, from the specifier of its origin and no
other. -/
theorem place_keeps_symbols (d : Draft) (places : Dictionary Path) :
    (∀ e, d.place places = .error e ↔ ∃ before i after name, d.imports.toList = before ++ i :: after ∧
      (∀ j ∈ before, Located places j) ∧ i.origin = .model name ∧ places.get? name = none ∧
        e = .unknownModel d.path name) ∧
    ((∀ i ∈ d.imports.toList, Located places i) → ∃ imports : Imports String,
      d.place places = .ok ⟨d.directory, d.name, d.decl, imports⟩ ∧
      (imports.toList.map Import.origin).Nodup ∧
      imports.toList.map Import.origin =
        (d.imports.toList.filterMap fun i => d.target? places i.origin).eraseDups ∧
      (∀ j ∈ imports.toList, j.names.toList.Nodup ∧ j.names.toList =
        ((d.imports.toList.filter fun i => d.target? places i.origin = some j.origin).flatMap
          (·.names.toList)).eraseDups) ∧
      ∀ s x, imports.Brings s x ↔
        ∃ i ∈ d.imports.toList, d.target? places i.origin = some s ∧ x ∈ i.names.toList) := by
  rw [place_eq]
  refine ⟨fun e => ?_, fun hlocated => ?_⟩
  · rw [orElse_eq_error_iff, List.findSome?_eq_some_iff]
    simp only [fault?_eq_some_iff, fault?_eq_none_iff]
    constructor
    · rintro ⟨before, i, after, hsplit, ⟨name, ho, hnone, he⟩, hbefore⟩
      exact ⟨before, i, after, name, hsplit, hbefore, ho, hnone, he⟩
    · rintro ⟨before, i, after, name, hsplit, hbefore, ho, hnone, he⟩
      exact ⟨before, i, after, hsplit, ⟨name, ho, hnone, he⟩, hbefore⟩
  · have hfault : (d.imports.toList.findSome? fun i => d.fault? places i.origin) = none :=
      List.findSome?_eq_none_iff.2 fun i hi => fault?_eq_none_iff.2 (hlocated i hi)
    have horigins : (Imports.ofList (d.placed places d.imports.toList)).toList.map Import.origin =
        (d.imports.toList.filterMap fun i => d.target? places i.origin).eraseDups := by
      rw [Imports.map_origin_toList, Imports.keys_ofList, origins_placed hlocated]
    refine ⟨.ofList (d.placed places d.imports.toList), by rw [hfault, orElse_none], ?_, horigins, fun j hj => ?_,
      fun s x => ?_⟩
    · rw [horigins]
      exact OrderedSet.nodup_eraseDups _
    · rw [Imports.toList_ofList] at hj
      obtain ⟨s, -, rfl⟩ := List.mem_map.1 hj
      refine ⟨(OrderedSet.ofList _).nodup, ?_⟩
      rw [OrderedSet.toList_ofList, symbolsOf_placed hlocated]
    · rw [Imports.brings_ofList, listed_placed hlocated]

/-- A draft with two classes in one file, which a module has the specifier of. -/
def crowded : Draft where
  directory := ⟨"/out"⟩
  name := "post.ts"
  decl := .bare "Post"
  imports := .ofList [⟨.model "User", .ofList ["User", "Role"]⟩, ⟨.module "@nestjs/swagger", .ofList ["ApiProperty"]⟩,
    ⟨.module "./user", .ofList ["Role"]⟩, ⟨.model "Account", .ofList ["Account"]⟩]

/-- The place of one of the classes of `crowded`. -/
def userPlace : Dictionary Path := .ofList [("User", ⟨"/out/user.ts"⟩)]

/-- The places of both. -/
def sharedPlace : Dictionary Path := userPlace.insert "Account" ⟨"/out/user.ts"⟩

theorem place_keeps_symbols_crowded :
    crowded.place userPlace = .error (.unknownModel ⟨"/out/post.ts"⟩ "Account") ∧
      (∀ i ∈ crowded.imports.toList, Located sharedPlace i) ∧
      ∃ imports, crowded.place sharedPlace = .ok ⟨⟨"/out"⟩, "post.ts", .bare "Post", imports⟩ ∧
        imports.toList.map Import.origin = ["./user", "@nestjs/swagger"] ∧
        ∃ j ∈ imports.toList, j.origin = "./user" ∧ j.names.toList = ["User", "Role", "Account"] := by
  have hlocated : ∀ i ∈ crowded.imports.toList, Located sharedPlace i := by decide +kernel
  obtain ⟨imports, hok, -, horigins, hnames, hbrings⟩ := (place_keeps_symbols crowded sharedPlace).2 hlocated
  obtain ⟨j, hj, ho, -⟩ : imports.Brings "./user" "Account" :=
    (hbrings _ _).2 ⟨⟨.model "Account", .ofList ["Account"]⟩, .tail _ (.tail _ (.tail _ (.head _))), by decide +kernel⟩
  refine ⟨?_, hlocated, imports, hok, horigins.trans (by decide +kernel), j, hj, ho, ?_⟩
  · exact ((place_keeps_symbols crowded userPlace).1 _).2
      ⟨crowded.imports.toList.take 3, ⟨.model "Account", .ofList ["Account"]⟩, [], "Account", rfl, by decide +kernel, rfl,
        by decide +kernel, rfl⟩
  · rw [(hnames j hj).2, ho]
    decide +kernel

end SchemaClasses.Draft
