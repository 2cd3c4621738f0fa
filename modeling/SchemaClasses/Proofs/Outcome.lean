import Mathlib.Data.List.Forall2

/-!
# Outcomes

A computation that may fail has a result just where each of its parts has one: `bind_eq_ok_iff` takes a sequence
apart, `mapM_nil_eq_ok_iff` and `mapM_cons_eq_ok_iff` a computation along a list. What they say of a whole list are
`mapM_eq_ok_iff`, `exists_of_mem_mapM`, `exists_mem_mapM` and `map_of_mapM`. Where it is known of each member whether
and why it fails, the computation along the list gives the first error or all results (`mapM_eq_findSome?`). Steps of
which any two neighbours can change places can be taken in any order (`foldlM_perm`).
-/

namespace SchemaClasses.Outcome

variable {ε α β γ : Type}

theorem bind_eq_ok_iff {x : Except ε α} {f : α → Except ε β} {b : β} :
    (x >>= f) = .ok b ↔ ∃ a, x = .ok a ∧ f a = .ok b := by
  cases x with
  | error e =>
    constructor
    · intro h; cases h
    · rintro ⟨a, h, -⟩; cases h
  | ok a =>
    constructor
    · intro h; exact ⟨a, rfl, h⟩
    · rintro ⟨a', h, h'⟩; cases h; exact h'

theorem mapError_eq_ok_iff {δ : Type} {x : Except ε α} {f : ε → δ} {a : α} : x.mapError f = .ok a ↔ x = .ok a := by
  cases x with
  | error e => constructor <;> intro h <;> cases h
  | ok b => constructor <;> intro h <;> cases h <;> rfl

theorem map_eq_ok_iff {x : Except ε α} {f : α → β} {b : β} : x.map f = .ok b ↔ ∃ a, x = .ok a ∧ b = f a := by
  cases x with
  | error e => simp [Except.map]
  | ok a => simp [Except.map, eq_comm]

theorem elim_eq_ok_iff {x : Option α} {e : ε} {a : α} : x.elim (Except.error e) Except.ok = .ok a ↔ x = some a := by
  cases x <;> simp

/-- Outcomes with one image have the same error or results with one image. -/
theorem map_eq_map {x y : Except ε α} {f : α → β} (h : x.map f = y.map f) :
    (∃ e, x = .error e ∧ y = .error e) ∨ ∃ a b, x = .ok a ∧ y = .ok b ∧ f a = f b := by
  cases x with
  | error e =>
    cases y with
    | error e' => cases h; exact Or.inl ⟨e, rfl, rfl⟩
    | ok b => cases h
  | ok a =>
    cases y with
    | error e' => cases h
    | ok b => exact Or.inr ⟨a, b, rfl, rfl, Except.ok.inj h⟩

variable {f : α → Except ε β}

theorem mapM_nil_eq_ok_iff {r : List β} : [].mapM f = .ok r ↔ r = [] := by
  rw [List.mapM_nil]
  constructor
  · intro h; cases h; rfl
  · rintro rfl; rfl

theorem mapM_cons_eq_ok_iff {a : α} {l : List α} {r : List β} :
    (a :: l).mapM f = .ok r ↔ ∃ b bs, r = b :: bs ∧ f a = .ok b ∧ l.mapM f = .ok bs := by
  rw [List.mapM_cons, bind_eq_ok_iff]
  constructor
  · rintro ⟨b, hb, h⟩
    obtain ⟨bs, hbs, h⟩ := bind_eq_ok_iff.1 h
    cases h
    exact ⟨b, bs, rfl, hb, hbs⟩
  · rintro ⟨b, bs, rfl, hb, hbs⟩
    exact ⟨b, hb, bind_eq_ok_iff.2 ⟨bs, hbs, rfl⟩⟩

variable {l : List α} {r : List β}

/-- A computation along a list has results just where each member has its own. -/
theorem mapM_eq_ok_iff : l.mapM f = .ok r ↔ List.Forall₂ (fun a b => f a = .ok b) l r := by
  induction l generalizing r with
  | nil => rw [mapM_nil_eq_ok_iff, List.forall₂_nil_left_iff]
  | cons a l ih =>
    rw [mapM_cons_eq_ok_iff, List.forall₂_cons_left_iff]
    constructor
    · rintro ⟨b, bs, rfl, hb, hbs⟩; exact ⟨b, bs, hb, ih.1 hbs, rfl⟩
    · rintro ⟨b, bs, hb, hbs, rfl⟩; exact ⟨b, bs, rfl, hb, ih.2 hbs⟩

/-- Every result along a list is the result of a member. -/
theorem exists_of_mem_mapM (h : l.mapM f = .ok r) {b : β} (hb : b ∈ r) : ∃ a ∈ l, f a = .ok b := by
  induction l generalizing r with
  | nil =>
    rw [mapM_nil_eq_ok_iff] at h
    subst h; cases hb
  | cons a l ih =>
    obtain ⟨b', bs, rfl, ha, hl⟩ := mapM_cons_eq_ok_iff.1 h
    rcases List.mem_cons.1 hb with rfl | hb
    · exact ⟨a, List.mem_cons_self, ha⟩
    · obtain ⟨a', ha', hf⟩ := ih hl hb
      exact ⟨a', List.mem_cons_of_mem _ ha', hf⟩

/-- Every member of a list has its result. -/
theorem exists_mem_mapM (h : l.mapM f = .ok r) {a : α} (ha : a ∈ l) : ∃ b ∈ r, f a = .ok b := by
  induction l generalizing r with
  | nil => cases ha
  | cons a' l ih =>
    obtain ⟨b, bs, rfl, hb, hl⟩ := mapM_cons_eq_ok_iff.1 h
    rcases List.mem_cons.1 ha with rfl | ha
    · exact ⟨b, List.mem_cons_self, hb⟩
    · obtain ⟨b', hb', hf⟩ := ih hl ha
      exact ⟨b', List.mem_cons_of_mem _ hb', hf⟩

/-- What each result keeps of its member, the results keep of the list. -/
theorem map_of_mapM {g : α → γ} {k : β → γ} (hk : ∀ a b, f a = .ok b → k b = g a) (h : l.mapM f = .ok r) :
    r.map k = l.map g := by
  induction l generalizing r with
  | nil =>
    rw [mapM_nil_eq_ok_iff] at h
    subst h; rfl
  | cons a l ih =>
    obtain ⟨b, bs, rfl, hb, hl⟩ := mapM_cons_eq_ok_iff.1 h
    rw [List.map_cons, List.map_cons, hk a b hb, ih hl]

theorem map_ok_inj {l l' : List α} : l.map (Except.ok : α → Except ε α) = l'.map .ok ↔ l = l' :=
  List.map_inj_right fun _ _ => Except.ok.inj

theorem error_not_mem_map_ok {l : List α} {e : ε} : Except.error e ∉ l.map Except.ok := by simp

/-! ## First errors -/

/-- The error if there is one, else the result. -/
def orElse (fault : Option ε) (a : α) : Except ε α := fault.elim (.ok a) .error

@[simp] theorem orElse_none (a : α) : orElse (none : Option ε) a = .ok a := rfl

@[simp] theorem orElse_some (e : ε) (a : α) : orElse (some e) a = .error e := rfl

theorem orElse_eq_error_iff {fault : Option ε} {a : α} {e : ε} : orElse fault a = .error e ↔ fault = some e := by
  cases fault <;> simp

theorem orElse_eq_ok_iff {fault : Option ε} {a b : α} : orElse fault a = .ok b ↔ fault = none ∧ b = a := by
  cases fault <;> simp [eq_comm]

/-- Along a list the first error counts, and without one there are all results. -/
theorem mapM_eq_findSome? {fault : α → Option ε} {g : α → β} (hf : ∀ a ∈ l, f a = orElse (fault a) (g a)) :
    l.mapM f = orElse (l.findSome? fault) (l.map g) := by
  induction l with
  | nil => rfl
  | cons a l ih =>
    obtain ⟨ha, hl⟩ := List.forall_mem_cons.1 hf
    rw [List.mapM_cons, ha, ih hl, List.findSome?_cons]
    cases fault a with
    | some e => rfl
    | none => cases l.findSome? fault <;> rfl

/-- A test along a list finds the first member that it holds of. -/
theorem findSome?_ite (p : α → Bool) (g : α → β) (l : List α) :
    (l.findSome? fun a => if p a then some (g a) else none) = (l.find? p).map g := by
  induction l with
  | nil => rfl
  | cons a l ih =>
    rw [List.findSome?_cons, List.find?_cons, ih]
    cases p a <;> rfl

/-- What is found along a list comes from the first member that has anything. -/
theorem findSome?_eq_some_iff_find? {f : α → Option β} {b : β} :
    l.findSome? f = some b ↔ ∃ a, l.find? (fun a => (f a).isSome) = some a ∧ f a = some b := by
  induction l with
  | nil => simp
  | cons a l ih =>
    rw [List.findSome?_cons, List.find?_cons]
    cases h : f a with
    | none => simpa using ih
    | some b' => simp [h]

/-! ## Steps that can change places -/

/-- Steps of which any two neighbours can change places can be taken in any order. -/
theorem foldlM_perm {f : β → α → Except ε β}
    (hf : ∀ {b a a' c d}, f b a = .ok c → f c a' = .ok d → ∃ c', f b a' = .ok c' ∧ f c' a = .ok d)
    {l l' : List α} (h : l.Perm l') : ∀ {b c : β}, l.foldlM f b = .ok c → l'.foldlM f b = .ok c := by
  induction h with
  | nil => exact id
  | cons a _ ih =>
    intro b c h
    rw [List.foldlM_cons, bind_eq_ok_iff] at h ⊢
    obtain ⟨d, hd, h⟩ := h
    exact ⟨d, hd, ih h⟩
  | swap a a' l =>
    intro b c h
    simp only [List.foldlM_cons, bind_eq_ok_iff] at h ⊢
    obtain ⟨d, hd, e, he, h⟩ := h
    obtain ⟨d', hd', he'⟩ := hf hd he
    exact ⟨d', hd', e, he', h⟩
  | trans _ _ ih ih' => exact fun h => ih' (ih h)

end SchemaClasses.Outcome
