import SchemaClasses.Proofs.Json.Readers

/-!
# Records in other orders and with other members

An object is read into a record member by member (`Fields.place`), and members can change places, for each fills a slot
of its own or none (`place_comm`, `record_perm`). A member whose key names no field is passed over (`record_insert`),
and one whose value is read as before is placed as before (`record_replace`). In the form of an array the same is told
of the item with the number of the field (`record_replace_item`). A member for the last field settles this field and
nothing else, if there is none before (`record_last_field`).
-/

namespace SchemaClasses.Json

variable {α : Type}

namespace Fields

/-! ## Fields -/

/-- What holds of the number, the key and the reader of each field. -/
def Each (P : Nat → String → (τ : Type) → Reader τ → Prop) {α : Type} : Fields α → Prop
  | .done _ => True
  | .field before key _ read => before.Each P ∧ P before.size key _ read

theorem each_imp {P Q : Nat → String → (τ : Type) → Reader τ → Prop} {fs : Fields α}
    (hPQ : ∀ n key τ read, P n key τ read → Q n key τ read) (h : fs.Each P) : fs.Each Q := by
  induction fs with
  | done => trivial
  | field before key fallback read ih => exact ⟨ih h.1, hPQ _ _ _ _ h.2⟩

theorem has_eq_false_of_each {key : String} {fs : Fields α} (h : fs.Each fun _ k _ _ => k ≠ key) :
    fs.has key = false := by
  induction fs with
  | done => rfl
  | field before k fallback read ih => simp [has, ih h.1, h.2]

/-! ## Members of an object -/

section Members

variable {fs : Fields α} {depth : Nat}

/-- The slots with one more member. -/
def place (fs : Fields α) (depth : Nat) (slots : fs.Slots) (m : Tree × Tree) : Except Error fs.Slots := do
  let key ← memberKey m.1
  if fs.has key then fs.fill depth key m.2 slots else (skip m.2).map fun _ => slots

theorem fillMembers_eq_foldlM (ms : List (Tree × Tree)) (slots : fs.Slots) :
    fs.fillMembers depth ms slots = ms.foldlM (fs.place depth) slots := by
  induction ms generalizing slots with
  | nil => rfl
  | cons m ms ih =>
    simp only [fillMembers, List.foldlM_cons, place, bind_assoc, ih]
    refine bind_congr fun key => ?_
    split <;> rfl

theorem place_eq_ok_iff {slots slots' : fs.Slots} {m : Tree × Tree} : fs.place depth slots m = .ok slots' ↔
    ∃ key, memberKey m.1 = .ok key ∧ ((fs.has key = true ∧ fs.fill depth key m.2 slots = .ok slots') ∨
      (fs.has key = false ∧ m.2.Whole ∧ slots' = slots)) := by
  unfold place
  rw [Outcome.bind_eq_ok_iff]
  refine exists_congr fun key => and_congr_right fun _ => ?_
  cases fs.has key with
  | true => simp
  | false =>
    rw [if_neg Bool.false_ne_true, Outcome.map_eq_ok_iff]
    constructor
    · rintro ⟨_, hskip, rfl⟩; exact Or.inr ⟨rfl, hskip, rfl⟩
    · rintro (⟨h, -⟩ | ⟨-, hskip, rfl⟩)
      · cases h
      · exact ⟨(), hskip, rfl⟩

section Fill

variable {τ : Type} {before : Fields (τ → α)} {k key : String} {fallback : Option τ} {read : Reader τ} {t : Tree}

theorem fill_self_eq_ok_iff {slots r : before.Slots × Option τ} :
    (field before k fallback read).fill depth k t slots = .ok r ↔
      slots.2 = none ∧ ∃ v, read depth t = .ok v ∧ r = (slots.1, some v) := by
  obtain ⟨slots, x⟩ := slots
  cases x with
  | some x =>
    have hfill : (field before k fallback read).fill depth k t (slots, some x) = .error (.duplicateField k) :=
      if_pos rfl
    refine (Eq.congr_left hfill).trans ?_
    simp
  | none =>
    have hfill : (field before k fallback read).fill depth k t (slots, none) =
        (read depth t).map fun v => (slots, some v) := if_pos rfl
    exact (Eq.congr_left hfill).trans (Outcome.map_eq_ok_iff.trans (and_iff_right rfl).symm)

theorem fill_of_ne_eq_ok_iff (hk : k ≠ key) {slots r : before.Slots × Option τ} :
    (field before k fallback read).fill depth key t slots = .ok r ↔
      ∃ slots', before.fill depth key t slots.1 = .ok slots' ∧ r = (slots', slots.2) := by
  obtain ⟨slots, x⟩ := slots
  have hfill : (field before k fallback read).fill depth key t (slots, x) =
      (before.fill depth key t slots).map fun slots => (slots, x) := if_neg hk
  exact (Eq.congr_left hfill).trans Outcome.map_eq_ok_iff

end Fill

theorem fill_comm {key key' : String} {t t' : Tree} {a b c : fs.Slots} (h : fs.fill depth key t a = .ok b)
    (h' : fs.fill depth key' t' b = .ok c) :
    ∃ b', fs.fill depth key' t' a = .ok b' ∧ fs.fill depth key t b' = .ok c := by
  induction fs with
  | done => cases h; cases h'; exact ⟨_, rfl, rfl⟩
  | field before k fallback read ih =>
    by_cases hk : k = key
    · subst hk
      obtain ⟨ha, v, hv, rfl⟩ := fill_self_eq_ok_iff.1 h
      by_cases hk' : k = key'
      · subst hk'
        obtain ⟨hb, -⟩ := fill_self_eq_ok_iff.1 h'
        cases hb
      · obtain ⟨slots, hslots, rfl⟩ := (fill_of_ne_eq_ok_iff hk').1 h'
        exact ⟨(slots, a.2), (fill_of_ne_eq_ok_iff hk').2 ⟨slots, hslots, rfl⟩,
          fill_self_eq_ok_iff.2 ⟨ha, v, hv, rfl⟩⟩
    · obtain ⟨slots, hslots, rfl⟩ := (fill_of_ne_eq_ok_iff hk).1 h
      by_cases hk' : k = key'
      · subst hk'
        obtain ⟨ha, v, hv, rfl⟩ := fill_self_eq_ok_iff.1 h'
        exact ⟨(a.1, some v), fill_self_eq_ok_iff.2 ⟨ha, v, hv, rfl⟩,
          (fill_of_ne_eq_ok_iff hk).2 ⟨slots, hslots, rfl⟩⟩
      · obtain ⟨slots', hslots', rfl⟩ := (fill_of_ne_eq_ok_iff hk').1 h'
        obtain ⟨between, hbetween, hlast⟩ := ih hslots hslots'
        exact ⟨(between, a.2), (fill_of_ne_eq_ok_iff hk').2 ⟨between, hbetween, rfl⟩,
          (fill_of_ne_eq_ok_iff hk).2 ⟨slots', hlast, rfl⟩⟩

theorem fill_replace {key : String} {t t' : Tree} {slots slots' : fs.Slots}
    (hread : fs.Each fun _ k _ read => k = key → ∀ v, read depth t = .ok v → read depth t' = .ok v)
    (h : fs.fill depth key t slots = .ok slots') : fs.fill depth key t' slots = .ok slots' := by
  induction fs with
  | done => exact h
  | field before k fallback read ih =>
    by_cases hk : k = key
    · subst hk
      obtain ⟨hslots, v, hv, rfl⟩ := fill_self_eq_ok_iff.1 h
      exact fill_self_eq_ok_iff.2 ⟨hslots, v, hread.2 rfl v hv, rfl⟩
    · obtain ⟨slots', hslots, rfl⟩ := (fill_of_ne_eq_ok_iff hk).1 h
      exact (fill_of_ne_eq_ok_iff hk).2 ⟨slots', ih hread.1 hslots, rfl⟩

theorem whole_of_fill {key : String} {t : Tree} {slots slots' : fs.Slots}
    (hread : fs.Each fun _ _ _ read => Thorough read) (hkey : fs.has key = true)
    (h : fs.fill depth key t slots = .ok slots') : t.Whole := by
  induction fs with
  | done => cases hkey
  | field before k fallback read ih =>
    by_cases hk : k = key
    · subst hk
      obtain ⟨-, v, hv, -⟩ := fill_self_eq_ok_iff.1 h
      exact hread.2 hv
    · obtain ⟨slots', hslots, -⟩ := (fill_of_ne_eq_ok_iff hk).1 h
      exact ih hread.1 (by simpa [has, hk] using hkey) hslots

/-- Two members can change places. -/
theorem place_comm {m m' : Tree × Tree} {a b c : fs.Slots} (h : fs.place depth a m = .ok b)
    (h' : fs.place depth b m' = .ok c) : ∃ b', fs.place depth a m' = .ok b' ∧ fs.place depth b' m = .ok c := by
  simp only [place_eq_ok_iff] at h h' ⊢
  obtain ⟨key, hkey, hm⟩ := h
  obtain ⟨key', hkey', hm'⟩ := h'
  rcases hm with ⟨hhas, hfill⟩ | ⟨hhas, hwhole, rfl⟩
  · rcases hm' with ⟨hhas', hfill'⟩ | ⟨hhas', hwhole', rfl⟩
    · obtain ⟨b', hb', hc⟩ := fill_comm hfill hfill'
      exact ⟨b', ⟨key', hkey', Or.inl ⟨hhas', hb'⟩⟩, key, hkey, Or.inl ⟨hhas, hc⟩⟩
    · exact ⟨a, ⟨key', hkey', Or.inr ⟨hhas', hwhole', rfl⟩⟩, key, hkey, Or.inl ⟨hhas, hfill⟩⟩
  · exact ⟨c, ⟨key', hkey', hm'⟩, key, hkey, Or.inr ⟨hhas, hwhole, rfl⟩⟩

theorem place_replace {k t t' : Tree} {slots slots' : fs.Slots}
    (hread : fs.Each fun _ key _ read => memberKey k = .ok key → ∀ v, read depth t = .ok v → read depth t' = .ok v)
    (ht' : t'.Whole) (h : fs.place depth slots (k, t) = .ok slots') : fs.place depth slots (k, t') = .ok slots' := by
  obtain ⟨key, hkey, hm⟩ := place_eq_ok_iff.1 h
  refine place_eq_ok_iff.2 ⟨key, hkey, ?_⟩
  rcases hm with ⟨hhas, hfill⟩ | ⟨hhas, -, rfl⟩
  · exact Or.inl ⟨hhas, fill_replace (each_imp (fun _ _ _ _ hread hk => hread (hk ▸ hkey)) hread) hfill⟩
  · exact Or.inr ⟨hhas, ht', rfl⟩

theorem whole_of_place {m : Tree × Tree} {slots slots' : fs.Slots}
    (hread : fs.Each fun _ _ _ read => Thorough read) (h : fs.place depth slots m = .ok slots') :
    m.1.WholeKey ∧ m.2.Whole := by
  obtain ⟨key, hkey, hm⟩ := place_eq_ok_iff.1 h
  refine ⟨wholeKey_of_memberKey hkey, ?_⟩
  rcases hm with ⟨hhas, hfill⟩ | ⟨-, hwhole, -⟩
  · exact whole_of_fill hread hhas hfill
  · exact hwhole

theorem whole_of_places {ms : List (Tree × Tree)} {slots slots' : fs.Slots}
    (hread : fs.Each fun _ _ _ read => Thorough read) (h : ms.foldlM (fs.place depth) slots = .ok slots') :
    ∀ m ∈ ms, m.1.WholeKey ∧ m.2.Whole := by
  induction ms generalizing slots with
  | nil => simp
  | cons m ms ih =>
    rw [List.foldlM_cons, Outcome.bind_eq_ok_iff] at h
    obtain ⟨between, hm, hms⟩ := h
    exact List.forall_mem_cons.2 ⟨whole_of_place hread hm, ih hms⟩

end Members

/-! ## Items of an array -/

section Items

variable {fs : Fields α} {wanted : String} {depth : Nat} {ts : List Tree}

/-- The last field takes the item that the fields before it leave, or its default if they leave none. -/
theorem fillItems_eq_ok_iff {τ : Type} {before : Fields (τ → α)} {key : String} {fallback : Option τ}
    {read : Reader τ} {r : (before.Slots × Option τ) × List Tree} :
    (field before key fallback read).fillItems wanted depth ts none = .ok r ↔
      ∃ slots rest, before.fillItems wanted depth ts none = .ok (slots, rest) ∧
        ((∃ t v, rest = t :: r.2 ∧ read depth t = .ok v ∧ r.1 = (slots, some v)) ∨
          (rest = [] ∧ fallback.isSome = true ∧ r = ((slots, none), []))) := by
  constructor
  · intro h
    obtain ⟨⟨slots, rest⟩, hbefore, h⟩ := Outcome.bind_eq_ok_iff.1 h
    refine ⟨slots, rest, hbefore, ?_⟩
    cases rest with
    | cons t rest =>
      obtain ⟨v, hv, h⟩ := Outcome.bind_eq_ok_iff.1 h
      cases h
      exact Or.inl ⟨t, v, rfl, hv, rfl⟩
    | nil =>
      cases fallback with
      | none => cases h
      | some a => cases h; exact Or.inr ⟨rfl, rfl, rfl⟩
  · rintro ⟨slots, rest, hbefore, h⟩
    refine Outcome.bind_eq_ok_iff.2 ⟨(slots, rest), hbefore, ?_⟩
    obtain ⟨slots', rest'⟩ := r
    rcases h with ⟨t, v, rfl, hv, hr⟩ | ⟨rfl, hfallback, hr⟩
    · cases hr
      exact Outcome.bind_eq_ok_iff.2 ⟨v, hv, rfl⟩
    · cases hr
      cases fallback with
      | none => cases hfallback
      | some a => rfl

/-- What the fields leave are the items behind their number. -/
theorem rest_of_fillItems {slots : fs.Slots} {rest : List Tree}
    (h : fs.fillItems wanted depth ts none = .ok (slots, rest)) : rest = ts.drop fs.size := by
  induction fs generalizing rest with
  | done => cases h; rfl
  | field before key fallback read ih =>
    obtain ⟨slots', rest', hbefore, hlast⟩ := fillItems_eq_ok_iff.1 h
    have hrest := ih hbefore
    rw [size, ← List.drop_drop, ← hrest]
    rcases hlast with ⟨t, v, rfl, -, -⟩ | ⟨rfl, -, hr⟩
    · rfl
    · cases hr; rfl

/-- Items that are read alike, number by number, fill the slots alike. -/
theorem fillItems_congr {ts' : List Tree} (hlength : ts'.length = ts.length) {slots : fs.Slots} {rest : List Tree}
    (hread : fs.Each fun n _ _ read => ∀ t t' v, ts[n]? = some t → ts'[n]? = some t' → read depth t = .ok v →
      read depth t' = .ok v)
    (h : fs.fillItems wanted depth ts none = .ok (slots, rest)) :
    fs.fillItems wanted depth ts' none = .ok (slots, ts'.drop fs.size) := by
  induction fs generalizing rest with
  | done => cases h; rfl
  | field before key fallback read ih =>
    obtain ⟨slots', rest', hbefore, hlast⟩ := fillItems_eq_ok_iff.1 h
    have hbefore' := ih hread.1 hbefore
    refine fillItems_eq_ok_iff.2 ⟨slots', _, hbefore', ?_⟩
    have hrest := rest_of_fillItems hbefore
    have hdrop : (ts'.drop before.size).length = rest'.length := by
      rw [hrest, List.length_drop, List.length_drop, hlength]
    rw [size, ← List.drop_drop]
    generalize hbehind : ts'.drop before.size = behind at hdrop ⊢
    rcases hlast with ⟨t, v, rfl, hv, hr⟩ | ⟨rfl, hfallback, hr⟩
    · cases behind with
      | nil => cases hdrop
      | cons t' behind =>
        refine Or.inl ⟨t', v, rfl, hread.2 t t' v ?_ ?_ hv, hr⟩
        · rw [← List.head?_drop, ← hrest]; rfl
        · rw [← List.head?_drop, hbehind]; rfl
    · obtain rfl := List.length_eq_zero_iff.1 hdrop
      cases hr
      exact Or.inr ⟨rfl, hfallback, rfl⟩

theorem whole_of_fillItems {slots : fs.Slots} {rest : List Tree} (hread : fs.Each fun _ _ _ read => Thorough read)
    (h : fs.fillItems wanted depth ts none = .ok (slots, rest)) (hrest : ∀ t ∈ rest, t.Whole) : ∀ t ∈ ts, t.Whole := by
  induction fs generalizing rest with
  | done => cases h; exact hrest
  | field before key fallback read ih =>
    obtain ⟨slots', rest', hbefore, hlast⟩ := fillItems_eq_ok_iff.1 h
    refine ih hread.1 hbefore ?_
    rcases hlast with ⟨t, v, rfl, hv, -⟩ | ⟨rfl, -, -⟩
    · exact List.forall_mem_cons.2 ⟨hread.2 hv, hrest⟩
    · simp

end Items

/-! ## The two forms of a record -/

/-- The slots that a tree fills, as an object or as an array. -/
inductive Filled (fs : Fields α) (name : String) (depth : Nat) : Tree → fs.Slots → Prop where
  | object {ms : List (Tree × Tree)} {slots : fs.Slots} : ms.foldlM (fs.place depth) fs.unread = .ok slots →
      Filled fs name depth (.object ms none) slots
  | array {ts : List Tree} {slots : fs.Slots} : fs.fillItems (fs.counted name) depth ts none = .ok (slots, []) →
      Filled fs name depth (.array ts none) slots

end Fields

section Records

variable {name : String} {fs : Fields α} {depth : Nat}

theorem record_eq_ok_iff {t : Tree} {a : α} : record name fs depth t = .ok a ↔
    depth < 127 ∧ ∃ slots, fs.Filled name (depth + 1) t slots ∧ fs.complete slots = .ok a := by
  rw [← openContainer_eq_ok_iff]
  constructor
  · intro h
    cases t with
    | object ms fault =>
      obtain ⟨_, hopen, h⟩ := Outcome.bind_eq_ok_iff.1 h
      obtain ⟨slots, hslots, h⟩ := Outcome.bind_eq_ok_iff.1 h
      obtain ⟨_, hfault, h⟩ := Outcome.bind_eq_ok_iff.1 h
      obtain rfl := checkFault_eq_ok_iff.1 hfault
      rw [Fields.fillMembers_eq_foldlM] at hslots
      exact ⟨hopen, slots, .object hslots, h⟩
    | array ts fault =>
      obtain ⟨_, hopen, h⟩ := Outcome.bind_eq_ok_iff.1 h
      obtain ⟨⟨slots, rest⟩, hslots, h⟩ := Outcome.bind_eq_ok_iff.1 h
      cases rest with
      | cons t rest => cases h
      | nil =>
        obtain ⟨_, hfault, h⟩ := Outcome.bind_eq_ok_iff.1 h
        obtain rfl := checkFault_eq_ok_iff.1 hfault
        exact ⟨hopen, slots, .array hslots, h⟩
    | _ => simp [record, refuse_ne_ok] at h
  · rintro ⟨hopen, slots, hslots, h⟩
    cases hslots with
    | object hslots =>
      rw [← Fields.fillMembers_eq_foldlM] at hslots
      exact Outcome.bind_eq_ok_iff.2 ⟨(), hopen, Outcome.bind_eq_ok_iff.2 ⟨slots, hslots, h⟩⟩
    | array hslots => exact Outcome.bind_eq_ok_iff.2 ⟨(), hopen, Outcome.bind_eq_ok_iff.2 ⟨(slots, []), hslots, h⟩⟩

theorem thorough_record (hread : fs.Each fun _ _ _ read => Thorough read) : Thorough (record name fs) := by
  intro depth t a h
  obtain ⟨-, slots, hslots, -⟩ := record_eq_ok_iff.1 h
  cases hslots with
  | object hslots => exact Tree.whole_object.2 ⟨Fields.whole_of_places hread hslots, rfl⟩
  | array hslots => exact Tree.whole_array.2 ⟨Fields.whole_of_fillItems hread hslots (List.forall_mem_nil _), rfl⟩

/-- The members of an object in another order give the same record. -/
theorem record_perm {ms ms' : List (Tree × Tree)} (hperm : ms.Perm ms') {a : α}
    (h : record name fs depth (.object ms none) = .ok a) : record name fs depth (.object ms' none) = .ok a := by
  obtain ⟨hdepth, slots, hslots, h⟩ := record_eq_ok_iff.1 h
  cases hslots with
  | object hslots =>
    have hslots' := Outcome.foldlM_perm (f := fs.place (depth + 1)) Fields.place_comm hperm hslots
    exact record_eq_ok_iff.2 ⟨hdepth, slots, .object hslots', h⟩

/-- A member whose key names no field is passed over. -/
theorem record_insert {ms ms' : List (Tree × Tree)} {k t : Tree} {key : String} (hkey : memberKey k = .ok key)
    (hfs : fs.has key = false) (ht : t.Whole) {a : α} (h : record name fs depth (.object (ms ++ ms') none) = .ok a) :
    record name fs depth (.object (ms ++ (k, t) :: ms') none) = .ok a := by
  obtain ⟨hdepth, slots, hslots, h⟩ := record_eq_ok_iff.1 h
  refine record_eq_ok_iff.2 ⟨hdepth, slots, .object ?_, h⟩
  cases hslots with
  | object hslots =>
    rw [List.foldlM_append, Outcome.bind_eq_ok_iff] at hslots ⊢
    obtain ⟨between, hms, hms'⟩ := hslots
    refine ⟨between, hms, ?_⟩
    rw [List.foldlM_cons, Outcome.bind_eq_ok_iff]
    exact ⟨between, Fields.place_eq_ok_iff.2 ⟨key, hkey, Or.inr ⟨hfs, ht, rfl⟩⟩, hms'⟩

/-- A member whose value is read as before counts as before. -/
theorem record_replace {ms ms' : List (Tree × Tree)} {k t t' : Tree}
    (hread : fs.Each fun _ key _ read => memberKey k = .ok key → ∀ v, read (depth + 1) t = .ok v →
      read (depth + 1) t' = .ok v)
    (ht' : t'.Whole) {a : α} (h : record name fs depth (.object (ms ++ (k, t) :: ms') none) = .ok a) :
    record name fs depth (.object (ms ++ (k, t') :: ms') none) = .ok a := by
  obtain ⟨hdepth, slots, hslots, h⟩ := record_eq_ok_iff.1 h
  refine record_eq_ok_iff.2 ⟨hdepth, slots, .object ?_, h⟩
  cases hslots with
  | object hslots =>
    rw [List.foldlM_append, Outcome.bind_eq_ok_iff] at hslots ⊢
    obtain ⟨between, hms, hms'⟩ := hslots
    refine ⟨between, hms, ?_⟩
    rw [List.foldlM_cons, Outcome.bind_eq_ok_iff] at hms' ⊢
    obtain ⟨between', hm, hms'⟩ := hms'
    exact ⟨between', Fields.place_replace hread ht' hm, hms'⟩

/-- An item that is read as before counts as before. -/
theorem record_replace_item {ts ts' : List Tree} {t t' : Tree}
    (hread : fs.Each fun n _ _ read => n = ts.length → ∀ v, read (depth + 1) t = .ok v → read (depth + 1) t' = .ok v)
    {a : α} (h : record name fs depth (.array (ts ++ t :: ts') none) = .ok a) :
    record name fs depth (.array (ts ++ t' :: ts') none) = .ok a := by
  obtain ⟨hdepth, slots, hslots, h⟩ := record_eq_ok_iff.1 h
  refine record_eq_ok_iff.2 ⟨hdepth, slots, .array ?_, h⟩
  cases hslots with
  | array hslots =>
    have hlength : (ts ++ t' :: ts').length = (ts ++ t :: ts').length := by
      rw [List.length_append, List.length_append, List.length_cons, List.length_cons]
    have hrest : (ts ++ t' :: ts').drop fs.size = [] := by
      have hle := List.drop_eq_nil_iff.1 (Fields.rest_of_fillItems hslots).symm
      exact List.drop_eq_nil_iff.2 (hlength ▸ hle)
    rw [← hrest]
    refine Fields.fillItems_congr hlength (Fields.each_imp (fun n key τ read hread => ?_) hread) hslots
    intro x x' v hx hx' hv
    rcases Nat.lt_trichotomy n ts.length with hn | rfl | hn
    · rw [List.getElem?_append_left hn] at hx hx'
      cases hx.symm.trans hx'
      exact hv
    · rw [List.getElem?_append_right (Nat.le_refl _), Nat.sub_self] at hx hx'
      cases hx
      cases hx'
      exact hread rfl v hv
    · obtain ⟨i, rfl⟩ := Nat.exists_eq_add_of_lt hn
      rw [List.getElem?_append_right (by omega), Nat.add_assoc, Nat.add_sub_cancel_left] at hx hx'
      cases hx.symm.trans hx'
      exact hv

end Records

/-! ## The last field -/

section LastField

variable {name : String} {τ : Type} {before : Fields (τ → α)} {key : String} {fallback : Option τ} {read : Reader τ}
  {depth : Nat}

namespace Fields

/-- The slots of the fields before the last one, and the slot of the last one. -/
def extend (slots : before.Slots) (x : Option τ) : (field before key fallback read).Slots := (slots, x)

/-- A member under another key leaves the last field as it is. -/
theorem place_of_ne {m : Tree × Tree} (hm : memberKey m.1 ≠ .ok key) (slots : before.Slots) (x : Option τ) :
    (field before key fallback read).place depth (extend slots x) m =
      (before.place depth slots m).map fun slots => extend slots x := by
  unfold place
  cases hkey : memberKey m.1 with
  | error e => rfl
  | ok other =>
    have hne : key ≠ other := by
      rintro rfl
      exact hm hkey
    have hhas : (field before key fallback read).has other = before.has other := by
      rw [has, beq_false_of_ne hne, Bool.false_or]
    show (if (field before key fallback read).has other then _ else _) =
      Except.map _ (if before.has other then _ else _)
    rw [hhas]
    split
    · exact if_neg hne
    · cases skip m.2 <;> rfl

theorem foldlM_place_of_ne {ms : List (Tree × Tree)} (hms : ∀ m ∈ ms, memberKey m.1 ≠ .ok key)
    (slots : before.Slots) (x : Option τ) :
    ms.foldlM ((field before key fallback read).place depth) (extend slots x) =
      (ms.foldlM (before.place depth) slots).map fun slots => extend slots x := by
  induction ms generalizing slots with
  | nil => rfl
  | cons m ms ih =>
    obtain ⟨hm, hms⟩ := List.forall_mem_cons.1 hms
    rw [List.foldlM_cons, List.foldlM_cons, place_of_ne hm]
    cases before.place depth slots m with
    | error e => rfl
    | ok slots => exact ih hms slots

/-- The first member under its key fills the last field. -/
theorem place_self {k t : Tree} (hkey : memberKey k = .ok key) (slots : before.Slots) :
    (field before key fallback read).place depth (extend slots none) (k, t) =
      (read depth t).map fun v => extend slots (some v) := by
  have hhas : (field before key fallback read).has key = true := by rw [has, beq_self_eq_true, Bool.true_or]
  unfold place
  rw [hkey]
  show (if (field before key fallback read).has key then _ else _) = _
  rw [if_pos hhas]
  exact if_pos rfl

/-- Among members under other keys, which fill the slots of the other fields, the one under its key fills the last. -/
theorem foldlM_place_last {ms ms' : List (Tree × Tree)} {k : Tree} (hkey : memberKey k = .ok key)
    (hms : ∀ m ∈ ms ++ ms', memberKey m.1 ≠ .ok key) {slots last : before.Slots}
    (h : (ms ++ ms').foldlM (before.place depth) slots = .ok last) (t : Tree) :
    (ms ++ (k, t) :: ms').foldlM ((field before key fallback read).place depth) (extend slots none) =
      (read depth t).map fun v => extend last (some v) := by
  rw [List.foldlM_append, Outcome.bind_eq_ok_iff] at h
  obtain ⟨between, hbetween, hlast⟩ := h
  rw [List.forall_mem_append] at hms
  rw [List.foldlM_append, foldlM_place_of_ne hms.1, hbetween]
  show ((k, t) :: ms').foldlM ((field before key fallback read).place depth) (extend between none) = _
  rw [List.foldlM_cons, place_self hkey]
  cases read depth t with
  | error e => rfl
  | ok v =>
    show ms'.foldlM ((field before key fallback read).place depth) (extend between (some v)) = _
    rw [foldlM_place_of_ne hms.2, hlast]
    rfl

/-- The record of the fields before the last one is made with the value of the last one, or with its default. -/
theorem finish_extend_eq_ok_iff {slots : before.Slots} {x : Option τ} {a : α} :
    (field before key fallback read).finish (extend slots x) = .ok a ↔
      ∃ make v, before.finish slots = .ok make ∧ x.or fallback = some v ∧ a = make v := by
  refine Outcome.bind_eq_ok_iff.trans (exists_congr fun make => ?_)
  cases x.or fallback with
  | none => simp
  | some v =>
    have hpure : (pure (make v) : Except String α) = .ok a ↔ a = make v :=
      ⟨fun h => (Except.ok.inj h).symm, fun h => h ▸ rfl⟩
    simp [hpure]

theorem exists_of_finish {slots : (field before key fallback read).Slots} {a : α}
    (h : (field before key fallback read).finish slots = .ok a) :
    ∃ (slots : before.Slots) (make : τ → α) (v : τ), before.finish slots = .ok make ∧ a = make v := by
  obtain ⟨slots, x⟩ := slots
  obtain ⟨make, v, hmake, -, ha⟩ := finish_extend_eq_ok_iff.1 h
  exact ⟨slots, make, v, hmake, ha⟩

end Fields

theorem record_object_eq {fs : Fields α} (hdepth : depth < 127) (ms : List (Tree × Tree)) :
    record name fs depth (.object ms none) = ms.foldlM (fs.place (depth + 1)) fs.unread >>= fs.complete := by
  have hrecord : record name fs depth (.object ms none) =
      (openContainer depth >>= fun _ => fs.fillMembers (depth + 1) ms fs.unread >>= fs.complete) := rfl
  rw [hrecord, openContainer_eq_ok_iff.2 hdepth, Fields.fillMembers_eq_foldlM]
  rfl

/-- An object without a member for the last field, which has a default, gives the same record with such a member, but
for what is read of this member. -/
theorem record_last_field {ms ms' : List (Tree × Tree)} {k : Tree} (hkey : memberKey k = .ok key)
    (hms : ∀ m ∈ ms ++ ms', memberKey m.1 ≠ .ok key) {a : α}
    (h : record name (.field before key fallback read) depth (.object (ms ++ ms') none) = .ok a) :
    ∃ slots make v, before.finish slots = .ok make ∧ fallback = some v ∧ a = make v ∧
      ∀ t, record name (.field before key fallback read) depth (.object (ms ++ (k, t) :: ms') none) =
        (read (depth + 1) t).map make := by
  obtain ⟨hdepth, slots, hslots, h⟩ := record_eq_ok_iff.1 h
  cases hslots with
  | object hslots =>
    -- The other members fill the same slots, whatever stands in the last one.
    have hplaced := (Fields.foldlM_place_of_ne hms before.unread none).symm.trans hslots
    obtain ⟨last, hlast, rfl⟩ := Outcome.map_eq_ok_iff.1 hplaced
    obtain ⟨make, v, hmake, hv, rfl⟩ := Fields.finish_extend_eq_ok_iff.1 (Outcome.mapError_eq_ok_iff.1 h)
    refine ⟨last, make, v, hmake, hv, rfl, fun t => ?_⟩
    have hfilled : (ms ++ (k, t) :: ms').foldlM ((Fields.field before key fallback read).place (depth + 1))
        (Fields.unread _) = (read (depth + 1) t).map fun w => Fields.extend last (some w) :=
      Fields.foldlM_place_last hkey hms hlast t
    rw [record_object_eq hdepth, hfilled]
    cases read (depth + 1) t with
    | error e => rfl
    | ok w => exact Outcome.mapError_eq_ok_iff.2 (Fields.finish_extend_eq_ok_iff.2 ⟨make, w, hmake, rfl, rfl⟩)

end LastField

end SchemaClasses.Json
