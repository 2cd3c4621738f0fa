import Mathlib.Data.List.Perm.Basic
import SchemaClasses.Proofs.Json.Records
import SchemaClasses.Proofs.Ordered.Lookup

/-!
# The order of members

`Permutes t t'`: some object of a tree has its members in another order, and no key of it repeats. Readers of lists,
dictionaries and records read the same where the readers they are made of do (`Keeps`), and of any value the same stays
that the writer could tell (`value_permutes`): the members of an object in one order or another, each with the same
canonical form.
-/

namespace SchemaClasses.Json

variable {α : Type}

/-! ## One change in a list -/

/-- What is said of one member of a list can be said of another in its place. -/
theorem forall₂_append_cons {β γ : Type} {r : β → γ → Prop} {l₁ l₂ : List β} {a : β} {bs : List γ}
    (h : List.Forall₂ r (l₁ ++ a :: l₂) bs) : ∃ bs₁ b bs₂, bs = bs₁ ++ b :: bs₂ ∧ r a b ∧
      ∀ {a' b'}, r a' b' → List.Forall₂ r (l₁ ++ a' :: l₂) (bs₁ ++ b' :: bs₂) := by
  induction l₁ generalizing bs with
  | nil =>
    cases h with
    | cons hab htail => exact ⟨[], _, _, rfl, hab, fun hab' => .cons hab' htail⟩
  | cons c l₁ ih =>
    cases h with
    | cons hc htail =>
      obtain ⟨bs₁, b, bs₂, rfl, hab, hrest⟩ := ih htail
      exact ⟨_ :: bs₁, b, bs₂, rfl, hab, fun hab' => .cons hc (hrest hab')⟩

/-! ## Readers that keep what they read -/

/-- A reader reads the same after any such change that leaves no fault. -/
def Keeps (r : Tree → Tree → Prop) (read : Reader α) : Prop :=
  ∀ ⦃depth t t' a⦄, r t t' → t'.Whole → read depth t = .ok a → read depth t' = .ok a

section Keeps

variable {r : Tree → Tree → Prop}

/-- A change that makes nothing of `null`, and nothing into it. -/
def SparesNull (r : Tree → Tree → Prop) : Prop := ∀ ⦃t t'⦄, r t t' → t ≠ .null ∧ t' ≠ .null

theorem Keeps.optional (hnull : SparesNull r) {read : Reader α} (hread : Keeps r read) : Keeps r (optional read) := by
  intro depth t t' o hr ht' h
  obtain ⟨hne, hne'⟩ := hnull hr
  rcases optional_eq_ok_iff.1 h with ⟨rfl, -⟩ | ⟨-, a, ha, rfl⟩
  · exact absurd rfl hne
  · exact optional_eq_ok_iff.2 (Or.inr ⟨hne', a, hread hr ht' ha, rfl⟩)

end Keeps

section Changes

variable {read : Reader α} {depth : Nat} {ts ts' : List Tree} {ms ms' : List (Tree × Tree)} {k t t' : Tree}

theorem whole_of_item (h : (Tree.array (ts ++ t :: ts') none).Whole) : t.Whole :=
  (Tree.whole_array.1 h).1 t (by simp)

theorem whole_of_member (h : (Tree.object (ms ++ (k, t) :: ms') none).Whole) : t.Whole :=
  ((Tree.whole_object.1 h).1 (k, t) (by simp)).2

theorem sequence_replace (hread : ∀ a, read (depth + 1) t = .ok a → read (depth + 1) t' = .ok a) {as : List α}
    (h : sequence read depth (.array (ts ++ t :: ts') none) = .ok as) :
    sequence read depth (.array (ts ++ t' :: ts') none) = .ok as := by
  obtain ⟨_, heq, hdepth, has⟩ := sequence_eq_ok_iff.1 h
  cases heq
  obtain ⟨as₁, a, as₂, rfl, ha, hrest⟩ := forall₂_append_cons has
  exact sequence_eq_ok_iff.2 ⟨_, rfl, hdepth, hrest (hread a ha)⟩

theorem dictionary_replace (hread : ∀ a, read (depth + 1) t = .ok a → read (depth + 1) t' = .ok a) {d : Dictionary α}
    (h : dictionary read depth (.object (ms ++ (k, t) :: ms') none) = .ok d) :
    dictionary read depth (.object (ms ++ (k, t') :: ms') none) = .ok d := by
  obtain ⟨_, es, heq, hdepth, hes, hd⟩ := dictionary_eq_ok_iff.1 h
  cases heq
  obtain ⟨es₁, e, es₂, rfl, he, hrest⟩ := forall₂_append_cons hes
  exact dictionary_eq_ok_iff.2 ⟨_, _, rfl, hdepth, hrest ⟨he.1, hread _ he.2⟩, hd⟩

end Changes

/-! ## Permuted members -/

/-- No key of the members repeats. -/
def DistinctKeys (ms : List (Tree × Tree)) : Prop :=
  ms.Pairwise fun m m' => ∀ key, memberKey m.1 = .ok key → memberKey m'.1 ≠ .ok key

/-- Somewhere in a tree the members of an object without repeated keys stand in another order. -/
inductive Permutes : Tree → Tree → Prop where
  | members {ms ms' : List (Tree × Tree)} : DistinctKeys ms → ms.Perm ms' →
      Permutes (.object ms none) (.object ms' none)
  | item {ts ts' : List Tree} {t t' : Tree} : Permutes t t' →
      Permutes (.array (ts ++ t :: ts') none) (.array (ts ++ t' :: ts') none)
  | member {ms ms' : List (Tree × Tree)} {k t t' : Tree} : Permutes t t' →
      Permutes (.object (ms ++ (k, t) :: ms') none) (.object (ms ++ (k, t') :: ms') none)

theorem sparesNull_permutes : SparesNull Permutes := by
  intro t t' h
  cases h <;> exact ⟨nofun, nofun⟩

theorem nodup_keys {read : Tree → Except Error α} {ms : List (Tree × Tree)} {es : List (String × α)}
    (hkeys : DistinctKeys ms) (h : MembersRead read ms es) : (es.map Prod.fst).Nodup := by
  have hmap : ms.map (fun m => memberKey m.1) = es.map fun e => .ok e.1 := by
    induction h with
    | nil => rfl
    | cons hm _ ih => rw [List.map_cons, List.map_cons, hm.1, ih hkeys.of_cons]
  have hpairs : (ms.map fun m => memberKey m.1).Pairwise fun x y => ∀ key, x = .ok key → y ≠ .ok key :=
    List.pairwise_map.2 hkeys
  rw [hmap] at hpairs
  exact List.pairwise_map.2 ((List.pairwise_map.1 hpairs).imp fun h heq => h _ rfl (congrArg Except.ok heq.symm))

/-- Members in another order give the same entries in another order. -/
theorem membersRead_perm {read : Tree → Except Error α} {ms ms' : List (Tree × Tree)} {es : List (String × α)}
    (hperm : ms.Perm ms') (h : MembersRead read ms es) : ∃ es', MembersRead read ms' es' ∧ es.Perm es' := by
  obtain ⟨es', hes', hperm'⟩ := List.perm_comp_forall₂ hperm.symm h
  exact ⟨es', hes', hperm'.symm⟩

section Readers

variable {read : Reader α}

theorem permutes_textAs (wanted : String) : Keeps Permutes (textAs wanted) := by
  intro depth t t' text h _ ht
  obtain ⟨s, rfl, -⟩ := textAs_eq_ok_iff.1 ht
  cases h

theorem permutes_flag : Keeps Permutes flag := by
  intro depth t t' b h _ ht
  obtain rfl := flag_eq_ok_iff.1 ht
  cases h

theorem permutes_sequence (hread : Keeps Permutes read) : Keeps Permutes (sequence read) := by
  intro depth t t' as h ht' hseq
  obtain ⟨_, rfl, -⟩ := sequence_eq_ok_iff.1 hseq
  cases h with
  | item h => exact sequence_replace (fun _ => hread h (whole_of_item ht')) hseq

theorem permutes_dictionary (hread : Keeps Permutes read) : Keeps Permutes (dictionary read) := by
  intro depth t t' d h ht' hd
  obtain ⟨_, es, rfl, hdepth, hes, rfl⟩ := dictionary_eq_ok_iff.1 hd
  cases h with
  | members hkeys hperm =>
    obtain ⟨es', hes', hperm'⟩ := membersRead_perm hperm hes
    exact dictionary_eq_ok_iff.2 ⟨_, es', rfl, hdepth, hes', Dictionary.ofList_perm hperm' (nodup_keys hkeys hes)⟩
  | member h => exact dictionary_replace (fun _ => hread h (whole_of_member ht')) hd

theorem permutes_record {name : String} {fs : Fields α} (hread : fs.Each fun _ _ _ read => Keeps Permutes read) :
    Keeps Permutes (record name fs) := by
  intro depth t t' a h ht' ha
  cases h with
  | members _ hperm => exact record_perm hperm ha
  | item h =>
    exact record_replace_item (Fields.each_imp (fun _ _ _ _ hread _ _ => hread h (whole_of_item ht')) hread) ha
  | member h =>
    have ht' := whole_of_member ht'
    exact record_replace (Fields.each_imp (fun _ _ _ _ hread _ _ => hread h ht') hread) ht' ha

end Readers

/-! ## Values with permuted members -/

/-- Values that differ in the order of members only, as far as their canonical forms tell. -/
inductive Alike : Value → Value → Prop where
  | array {vs vs' : List Value} : canonicalItems vs = canonicalItems vs' → Alike (.array vs) (.array vs')
  | object {ms ms' : List (String × Value)} : (canonicalMembers ms).Perm (canonicalMembers ms') →
      Dictionary.ofList (canonicalMembers ms) = Dictionary.ofList (canonicalMembers ms') →
      Alike (.object ms) (.object ms')

theorem Alike.canonical_eq {v v' : Value} (h : Alike v v') : v.canonical = v'.canonical := by
  cases h with
  | array h => rw [Value.canonical, Value.canonical, h]
  | object _ h => rw [Value.canonical, Value.canonical, h]

theorem canonicalItems_eq_map (vs : List Value) : canonicalItems vs = vs.map Value.canonical := by
  induction vs with
  | nil => rw [canonicalItems, List.map_nil]
  | cons v vs ih => rw [canonicalItems, ih, List.map_cons]

theorem canonicalMembers_eq_map (ms : List (String × Value)) :
    canonicalMembers ms = ms.map fun m => (m.1, m.2.canonical) := by
  induction ms with
  | nil => rw [canonicalMembers, List.map_nil]
  | cons m ms ih => rw [canonicalMembers, ih, List.map_cons]

/-- A value is read with its members in any order. -/
theorem value_permutes {t t' : Tree} (h : Permutes t t') {depth : Nat} {v : Value} (hv : value depth t = .ok v) :
    ∃ v', value depth t' = .ok v' ∧ Alike v v' := by
  induction h generalizing depth v with
  | members hkeys hperm =>
    obtain ⟨hdepth, -, vs, hvs, rfl⟩ := value_object_eq_ok_iff.1 hv
    obtain ⟨vs', hvs', hperm'⟩ := membersRead_perm hperm hvs
    refine ⟨_, value_object_eq_ok_iff.2 ⟨hdepth, rfl, vs', hvs', rfl⟩, ?_⟩
    have hcanonical : (canonicalMembers vs).Perm (canonicalMembers vs') := by
      rw [canonicalMembers_eq_map, canonicalMembers_eq_map]
      exact hperm'.map _
    refine .object hcanonical (Dictionary.ofList_perm hcanonical ?_)
    rw [canonicalMembers_eq_map, List.map_map]
    exact nodup_keys hkeys hvs
  | item _ ih =>
    obtain ⟨hdepth, -, _, hvs, rfl⟩ := value_array_eq_ok_iff.1 hv
    obtain ⟨vs₁, w, vs₂, rfl, hw, hrest⟩ := forall₂_append_cons hvs
    obtain ⟨w', hw', halike⟩ := ih hw
    refine ⟨_, value_array_eq_ok_iff.2 ⟨hdepth, rfl, _, hrest hw', rfl⟩, .array ?_⟩
    simp only [canonicalItems_eq_map, List.map_append, List.map_cons, halike.canonical_eq]
  | @member ms ms' k t t' _ ih =>
    obtain ⟨hdepth, -, _, hvs, rfl⟩ := value_object_eq_ok_iff.1 hv
    obtain ⟨vs₁, ⟨key, w⟩, vs₂, rfl, ⟨hkey, hw⟩, hrest⟩ := forall₂_append_cons hvs
    obtain ⟨w', hw', halike⟩ := ih hw
    have hcanonical : canonicalMembers (vs₁ ++ (key, w) :: vs₂) = canonicalMembers (vs₁ ++ (key, w') :: vs₂) := by
      simp only [canonicalMembers_eq_map, List.map_append, List.map_cons, halike.canonical_eq]
    have hvs' : MembersRead (value (depth + 1)) (ms ++ (k, t') :: ms') (vs₁ ++ (key, w') :: vs₂) := hrest ⟨hkey, hw'⟩
    refine ⟨_, value_object_eq_ok_iff.2 ⟨hdepth, rfl, _, hvs', rfl⟩, ?_⟩
    exact .object (hcanonical ▸ .refl _) (congrArg Dictionary.ofList hcanonical)

end SchemaClasses.Json
