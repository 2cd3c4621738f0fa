import SchemaClasses.Proofs.Path.Canonical
import SchemaClasses.Proofs.Path.Siblings

/-!
# Ways between paths

The way from one list of components to another leaves out what both start with (`SharedStart`). Between descents from
one ground it goes up once for every name that is not shared and comes down by what is left of the target
(`exists_meet`); a relative path can stand on steps up of its own, and the target must not climb less than the
directory. So the way leads from the directory to its target (`foldl_push_way`), and no other canonical path that leads
there has fewer components (`length_way_le`). The way is reduced and its text has neither empty pieces nor dots
(`reduced_relative`, `mem_pieces_slashed`); below a directory it only goes down (`components_relative_of_append`), and
it is empty just between equal paths (`components_relative_eq_nil_iff`).
-/

namespace SchemaClasses.Path

/-! ## Shared starts -/

section SharedStart

variable {α : Type}

/-- The longest list that two lists both start with. -/
structure SharedStart (shared as bs : List α) : Prop where
  left : shared <+: as
  right : shared <+: bs
  longest : ∀ l, l <+: as → l <+: bs → l <+: shared

theorem SharedStart.cons {shared as bs : List α} (h : SharedStart shared as bs) (a : α) :
    SharedStart (a :: shared) (a :: as) (a :: bs) where
  left := List.prefix_cons_inj a |>.2 h.left
  right := List.prefix_cons_inj a |>.2 h.right
  longest l hl hl' := by
    cases l with
    | nil => exact List.nil_prefix
    | cons b l =>
      obtain ⟨hb, hl⟩ := List.cons_prefix_cons.1 hl
      obtain ⟨-, hl'⟩ := List.cons_prefix_cons.1 hl'
      exact List.cons_prefix_cons.2 ⟨hb, h.longest l hl hl'⟩

theorem SharedStart.nil_of_ne {a b : α} (h : a ≠ b) (as bs : List α) : SharedStart [] (a :: as) (b :: bs) where
  left := List.nil_prefix
  right := List.nil_prefix
  longest l hl hl' := by
    cases l with
    | nil => exact List.nil_prefix
    | cons c l =>
      obtain ⟨rfl, -⟩ := List.cons_prefix_cons.1 hl
      exact absurd (List.cons_prefix_cons.1 hl').1 h

variable [DecidableEq α]

theorem mem_of_mem_dropCommon {as bs : List α} {x : α} (h : x ∈ (dropCommon as bs).1) : x ∈ as := by
  induction as generalizing bs with
  | nil => cases bs <;> cases h
  | cons a as ih =>
    cases bs with
    | nil => exact h
    | cons b bs =>
      rw [dropCommon] at h
      split at h
      · exact List.mem_cons_of_mem _ (ih h)
      · exact h

/-- What is dropped from two lists is their shared start. -/
theorem exists_sharedStart (as bs : List α) : ∃ shared, SharedStart shared as bs ∧
    as = shared ++ (dropCommon as bs).1 ∧ bs = shared ++ (dropCommon as bs).2 := by
  induction as generalizing bs with
  | nil => exact ⟨[], ⟨List.nil_prefix, List.nil_prefix, fun _ hl _ => hl⟩, by cases bs <;> exact ⟨rfl, rfl⟩⟩
  | cons a as ih =>
    cases bs with
    | nil => exact ⟨[], ⟨List.nil_prefix, List.nil_prefix, fun _ _ hl => hl⟩, rfl, rfl⟩
    | cons b bs =>
      rw [dropCommon]
      split
      · rename_i hab
        subst hab
        obtain ⟨shared, hshared, has, hbs⟩ := ih bs
        exact ⟨a :: shared, hshared.cons a, congrArg (a :: ·) has, congrArg (a :: ·) hbs⟩
      · rename_i hab
        exact ⟨[], .nil_of_ne hab as bs, rfl, rfl⟩

end SharedStart

/-! ## Ways are reduced -/

/-- The way to plain components is plain. -/
theorem plain_way {as : List Component} (h : ∀ a ∈ as, a.Plain) (bs : List Component) : ∀ c ∈ way as bs, c.Plain := by
  intro c hc
  rcases List.mem_append.1 hc with hc | hc
  · obtain ⟨_, -, rfl⟩ := List.mem_map.1 hc
    exact Component.plain_parent
  · exact h c (mem_of_mem_dropCommon hc)

theorem head?_ne_root {cs : List Component} (h : ∀ c ∈ cs, c.Plain) : cs.head? ≠ some .root := fun hroot =>
  Component.not_plain_root (h _ (List.mem_of_mem_head? hroot))

/-- The way between reduced components is reduced if both lists open with the root or none does. -/
theorem reduced_way {as bs : List Component} (ha : Reduced as) (hb : Reduced bs)
    (h : as.head? = some .root ↔ bs.head? = some .root) : Reduced (way as bs) := by
  obtain ⟨ds, hds, rfl | rfl⟩ := ha
  · exact ⟨_, plain_way hds bs, Or.inl rfl⟩
  · obtain ⟨es, hes, rfl | rfl⟩ := hb
    · exact absurd (h.1 rfl) (head?_ne_root hes)
    · have hway : way (.root :: ds) (.root :: es) = way ds es := by
        unfold way
        rw [dropCommon, if_pos rfl]
      rw [hway]
      exact ⟨_, plain_way hds es, Or.inl rfl⟩

theorem reduced_normalize (p : Path) : Reduced p.normalize.components := by
  rw [components_normalize]
  exact reduced_reduce p

/-- Between two absolute paths, and between two relative ones, the relative path is the way. -/
theorem relative_eq_way {p base : Path} (h : p.isAbsolute = base.isAbsolute) :
    p.relative base = ofComponents (way p.normalize.components base.normalize.components) := by
  unfold relative
  rw [if_pos (by rw [isAbsolute_normalize, isAbsolute_normalize, h])]

theorem relative_of_ne {p base : Path} (h : p.isAbsolute ≠ base.isAbsolute) : p.relative base = p.normalize := by
  unfold relative
  rw [if_neg (by rwa [isAbsolute_normalize, isAbsolute_normalize])]

/-- The way between normal forms is reduced. -/
theorem reduced_way_normalize {p base : Path} (h : p.isAbsolute = base.isAbsolute) :
    Reduced (way p.normalize.components base.normalize.components) := by
  refine reduced_way (reduced_normalize p) (reduced_normalize base) ?_
  rw [← isAbsolute_iff, ← isAbsolute_iff, isAbsolute_normalize, isAbsolute_normalize, h]

theorem components_relative {p base : Path} (h : p.isAbsolute = base.isAbsolute) :
    (p.relative base).components = way p.normalize.components base.normalize.components := by
  rw [relative_eq_way h, (reduced_way_normalize h).components_ofComponents]

/-- The path from a directory to another path is reduced. -/
theorem reduced_relative (p base : Path) : Reduced (p.relative base).components := by
  by_cases h : p.isAbsolute = base.isAbsolute
  · rw [components_relative h]
    exact reduced_way_normalize h
  · rw [relative_of_ne h]
    exact reduced_normalize p

theorem normalize_eq_ofComponents (p : Path) : p.normalize = ofComponents p.normalize.components := by
  rw [components_normalize]
  rfl

section SameKind

variable {p base : Path}

/-- Between two absolute paths, and between two relative ones, the way is of steps up and names. -/
theorem plain_relative (h : p.isAbsolute = base.isAbsolute) : ∀ c ∈ (p.relative base).components, c.Plain := by
  obtain ⟨ds, hds, hp⟩ := reduce_components p
  obtain ⟨es, -, hbase⟩ := reduce_components base
  have hway : way p.normalize.components base.normalize.components = way ds es := by
    rw [components_normalize, components_normalize, hp, hbase, ← h]
    cases p.isAbsolute <;> rfl
  rw [components_relative h, hway]
  exact plain_way hds es

end SameKind

/-- Without a root, all components of a path are written with slashes. -/
theorem slashed_eq {p : Path} (h : .root ∉ p.components) :
    p.slashed = "/".intercalate (p.components.map Component.text) := by
  have hroot : p.components.filter (· ≠ .root) = p.components := by
    refine List.filter_eq_self.2 fun c hc => decide_eq_true ?_
    rintro rfl
    exact h hc
  unfold slashed
  rw [hroot]

/-- The pieces of a reduced path with slashes are neither empty nor a dot. -/
theorem mem_pieces_slashed {p : Path} (h : Reduced p.components) (hne : p.slashed ≠ "") :
    ∀ q ∈ pieces p.slashed.toList, q ≠ [] ∧ q ≠ ['.'] := by
  have hplain : ∀ c ∈ p.components.filter (· ≠ .root), c.Plain := by
    obtain ⟨ds, hds, heq | heq⟩ := h
    all_goals
      intro c hc
      obtain ⟨hmem, hroot⟩ := List.mem_filter.1 hc
      rw [heq] at hmem
    · exact hds c hmem
    · rcases List.mem_cons.1 hmem with rfl | hmem
      · simp at hroot
      · exact hds c hmem
  have hfilter : p.components.filter (· ≠ .root) ≠ [] := by
    intro hnil
    refine hne ?_
    unfold slashed
    rw [hnil]
    rfl
  intro q hq
  unfold slashed at hq
  rw [pieces_intercalate_text hplain hfilter] at hq
  obtain ⟨c, hc, rfl⟩ := List.mem_map.1 hq
  exact ⟨(hplain c hc).text_ne_nil, (hplain c hc).text_ne_dot⟩

/-! ## Ways between descents -/

theorem prefix_ground (absolute : Bool) {climbs climbs' : Nat} (h : absolute = false → climbs ≤ climbs') :
    ground absolute climbs <+: ground absolute climbs' := by
  cases absolute with
  | true => exact List.prefix_refl _
  | false => exact ⟨.replicate (climbs' - climbs) .parent, by
      rw [ground_false, ground_false, List.replicate_append_replicate, Nat.add_sub_cancel' (h rfl)]⟩

theorem length_ground_add_le (absolute : Bool) (climbs more : Nat) :
    (ground absolute (climbs + more)).length ≤ (ground absolute climbs).length + more := by
  cases absolute <;> simp [ground]

theorem length_descent (absolute : Bool) (climbs : Nat) (names : List String) :
    (descent absolute climbs names).length = (ground absolute climbs).length + names.length := by
  rw [descent, List.length_append, List.length_map]

section Descent

variable {absolute : Bool} {climbs climbs' : Nat} {names names' : List String}

/-- The way from one descent to another of the same ground goes up from the names that are not shared. -/
theorem exists_meet (h : absolute = false → climbs ≤ climbs') (names names' : List String) : ∃ kept left down,
    names = kept ++ left ∧ descent absolute climbs' names' = descent absolute climbs kept ++ down ∧
      way (descent absolute climbs' names') (descent absolute climbs names) =
        .replicate left.length .parent ++ down ∧
      SharedStart (descent absolute climbs kept) (descent absolute climbs' names') (descent absolute climbs names) := by
  obtain ⟨shared, hshared, htarget, hbase⟩ :=
    exists_sharedStart (descent absolute climbs' names') (descent absolute climbs names)
  -- The ground of the directory is shared.
  obtain ⟨rest, rfl⟩ : ground absolute climbs <+: shared :=
    hshared.longest _ ((prefix_ground absolute h).trans (List.prefix_append _ _)) (List.prefix_append _ _)
  obtain ⟨kept, left, rfl, rfl, hleft⟩ : ∃ kept left, names = kept ++ left ∧ rest = kept.map .name ∧
      (dropCommon (descent absolute climbs' names') (descent absolute climbs names)).2 = left.map .name := by
    have hnames : names.map Component.name =
        rest ++ (dropCommon (descent absolute climbs' names') (descent absolute climbs names)).2 := by
      refine (List.append_right_inj (ground absolute climbs)).1 ?_
      rw [← List.append_assoc]
      exact hbase
    obtain ⟨kept, left, hsplit, hkept, hleft⟩ := List.map_eq_append_iff.1 hnames
    exact ⟨kept, left, hsplit, hkept.symm, hleft.symm⟩
  refine ⟨kept, left, _, rfl, htarget, ?_, hshared⟩
  show List.map _ _ ++ _ = _
  rw [hleft, List.map_map]
  exact congrArg (· ++ _) (List.map_const' ..)

/-- What follows a descent from the same ground is a descent, with steps up only where both are relative. -/
theorem eq_descent_of_append (h : absolute = false → climbs ≤ climbs') {down : List Component}
    (hdown : descent absolute climbs' names' = descent absolute climbs names ++ down) :
    ∃ steps more, down = descent false steps more ∧ (absolute = true → steps = 0) := by
  cases absolute with
  | true =>
    obtain ⟨-, more, -, -, hmore⟩ := List.map_eq_append_iff.1 (List.cons.inj hdown).2
    exact ⟨0, more, hmore.symm, fun _ => rfl⟩
  | false =>
    obtain ⟨steps, rfl⟩ := Nat.exists_eq_add_of_le (h rfl)
    have hrest : .replicate steps .parent ++ names'.map Component.name = names.map Component.name ++ down := by
      unfold descent at hdown
      rw [ground_false, ground_false, ← List.replicate_append_replicate, List.append_assoc, List.append_assoc] at hdown
      exact List.append_cancel_left hdown
    cases names with
    | nil => exact ⟨steps, names', hrest.symm, nofun⟩
    | cons n names =>
      cases steps with
      | zero =>
        obtain ⟨-, more, -, -, hmore⟩ := List.map_eq_append_iff.1 hrest
        exact ⟨0, more, hmore.symm, nofun⟩
      | succ steps => cases (List.cons.inj hrest).1

/-- The way from a descent leads to its target. -/
theorem foldl_push_way (h : absolute = false → climbs ≤ climbs') :
    (way (descent absolute climbs' names') (descent absolute climbs names)).foldl push
        (descent absolute climbs names).reverse = (descent absolute climbs' names').reverse := by
  obtain ⟨kept, left, down, rfl, htarget, hway, -⟩ := exists_meet h names names'
  have hup : (List.replicate left.length Component.parent).foldl push (descent absolute climbs (kept ++ left)).reverse =
      (descent absolute climbs kept).reverse := by
    rw [foldl_push_climb, List.length_append, Nat.add_sub_cancel, List.take_left,
      Nat.sub_eq_zero_of_le (Nat.le_add_left _ _), Nat.add_zero]
  rw [hway, List.foldl_append, hup, ← foldl_push_descent, ← List.foldl_append, ← htarget, foldl_push_descent]

/-- The way between descents is itself a descent, one step up for each name that is not shared. -/
theorem exists_way_eq_descent (h : absolute = false → climbs ≤ climbs') (names names' : List String) :
    ∃ shared steps more,
    SharedStart shared (descent absolute climbs' names') (descent absolute climbs names) ∧
      way (descent absolute climbs' names') (descent absolute climbs names) = descent false steps more ∧
        (absolute = true → steps = (descent absolute climbs names).length - shared.length) := by
  obtain ⟨kept, left, down, rfl, htarget, hway, hshared⟩ := exists_meet h names names'
  obtain ⟨steps, more, rfl, hsteps⟩ := eq_descent_of_append h htarget
  refine ⟨_, left.length + steps, more, hshared, ?_, fun habsolute => ?_⟩
  · rw [hway]
    unfold descent
    rw [← List.append_assoc, ground_false, List.replicate_append_replicate, ground_false]
  · rw [hsteps habsolute, descent_append, List.length_append, Nat.add_sub_cancel_left, List.length_map, Nat.add_zero]

/-- No way is longer than other steps and names that lead from the descent to its target. -/
theorem length_way_le {steps : Nat} {more : List String} (h : absolute = false → climbs ≤ climbs')
    (hleads : descent absolute climbs' names' =
      descent absolute (climbs + (steps - names.length)) (names.take (names.length - steps) ++ more)) :
    (way (descent absolute climbs' names') (descent absolute climbs names)).length ≤ steps + more.length := by
  obtain ⟨kept, left, down, hnames, htarget, hway, hshared⟩ := exists_meet h names names'
  -- The names that the other way leaves standing are shared.
  have hstanding : descent absolute climbs (names.take (names.length - steps)) <+: descent absolute climbs kept := by
    refine hshared.longest _ ?_ ⟨(names.drop (names.length - steps)).map .name, ?_⟩
    · rw [hleads]
      by_cases hle : steps ≤ names.length
      · rw [Nat.sub_eq_zero_of_le hle, Nat.add_zero, descent_append]
        exact List.prefix_append _ _
      · have hnone : names.length - steps = 0 := by omega
        rw [hnone, List.take_zero]
        exact (List.append_nil (ground absolute climbs) ▸ prefix_ground absolute fun _ => Nat.le_add_right _ _).trans
          (List.prefix_append _ _)
    · rw [← descent_append, List.take_append_drop]
  have hkept := hstanding.length_le
  have hlength := congrArg List.length htarget
  have hground := length_ground_add_le absolute climbs (steps - names.length)
  have hcount : names.length = kept.length + left.length := by rw [hnames, List.length_append]
  rw [hleads] at hlength
  rw [hway]
  simp only [length_descent, List.length_append, List.length_take, List.length_replicate] at hkept hlength ⊢
  omega

end Descent

/-! ## Relative paths -/

theorem isAbsolute_of_descent {q : Path} {steps : Nat} {more : List String}
    (h : q.components = descent false steps more) : q.isAbsolute = false := by
  rw [← Bool.not_eq_true, isAbsolute_iff, h, descent, ground_false]
  cases steps with
  | zero => cases more <;> simp
  | succ steps => simp [List.replicate_succ]

/-- The number of steps up with which the normal form of a path opens. -/
def climbs (p : Path) : Nat := (p.normalize.components.takeWhile (· = .parent)).length

theorem climbs_eq {p : Path} {steps : Nat} {names : List String} (hp : p.isAbsolute = false)
    (h : p.normalize.components = descent p.isAbsolute steps names) : p.climbs = steps := by
  have hnames : (names.map Component.name).takeWhile (· = .parent) = [] := by cases names <;> simp
  rw [climbs, h, hp, descent, ground_false, List.takeWhile_append_of_pos (by simp), hnames]
  simp

/-- The stack of a directory is its normal form. -/
theorem foldl_push_directory {base : Path} {cs : List Component} (h : base.normalize.components = cs) :
    base.components.foldl push [] = cs.reverse := by
  rw [← h, components_normalize]
  exact (List.reverse_reverse _).symm

/-- Where steps up and names lead from a directory. -/
theorem components_join_descent {base q : Path} {absolute : Bool} {climbs steps : Nat} {names more : List String}
    (hbase : base.normalize.components = descent absolute climbs names) (hq : q.isAbsolute = false)
    (hcs : ∀ st, q.components.foldl push st = (descent false steps more).foldl push st) :
    (base.join q).normalize.components =
      descent absolute (climbs + (steps - names.length)) (names.take (names.length - steps) ++ more) := by
  have hfold : q.components.foldl push (descent absolute climbs names).reverse =
      (more.map Component.name).reverse ++
        (descent absolute (climbs + (steps - names.length)) (names.take (names.length - steps))).reverse := by
    rw [hcs, show descent false steps more = .replicate steps .parent ++ more.map .name from rfl, List.foldl_append,
      foldl_push_climb, foldl_push_names]
  rw [components_normalize, reduce, foldl_push_join base hq, foldl_push_directory hbase, hfold, ← List.reverse_append,
    List.reverse_reverse, descent_append]

/-- **Relative paths undo joining**: joined to the directory, the way to a path leads to it, if both are absolute, or if
both are relative and the directory does not climb more. The way is a relative path in normal form; between absolute
paths it goes up once for each component that is not shared and then down by names; and no relative path in normal form
that leads there has fewer components. Between an absolute and a relative path there is no way but the path itself. -/
theorem relative_inverts_join (p base : Path) :
    (p.isAbsolute = base.isAbsolute → (p.isAbsolute = false → base.climbs ≤ p.climbs) →
      (base.join (p.relative base)).normalize = p.normalize ∧
      (p.relative base).isAbsolute = false ∧ (p.relative base).normalize = p.relative base ∧
      (p.isAbsolute = true → ∃ (shared : List Component) (names : List String),
        SharedStart shared p.normalize.components base.normalize.components ∧
          (p.relative base).components =
            .replicate (base.normalize.components.length - shared.length) .parent ++ names.map .name) ∧
      ∀ q : Path, q.isAbsolute = false → q.normalize = q → (base.join q).normalize = p.normalize →
        (p.relative base).components.length ≤ q.components.length) ∧
    (p.isAbsolute ≠ base.isAbsolute → p.relative base = p.normalize) := by
  refine ⟨fun habs hclimbs => ?_, relative_of_ne⟩
  obtain ⟨up, names, hp⟩ := components_normalize_eq_descent p
  obtain ⟨up', names', hbase⟩ := components_normalize_eq_descent base
  have hup : p.isAbsolute = false → up' ≤ up := fun h => by
    rw [← climbs_eq h hp, ← climbs_eq (habs ▸ h) hbase]
    exact hclimbs h
  rw [← habs] at hbase
  obtain ⟨shared, steps, more, hshared, hway, hsteps⟩ := exists_way_eq_descent hup names' names
  have hcs : (p.relative base).components = descent false steps more := by
    rw [components_relative habs, hp, hbase, hway]
  have hrel : (p.relative base).isAbsolute = false := isAbsolute_of_descent hcs
  refine ⟨normalize_congr ?_, hrel, ?_, fun habsolute => ⟨shared, more, ?_, ?_⟩, fun q hq hnormal hleads => ?_⟩
  · rw [reduce, foldl_push_join base hrel, foldl_push_directory hbase, components_relative habs, hp, hbase,
      foldl_push_way hup, List.reverse_reverse, ← components_normalize, hp]
  · rw [normalize, hcs, reduce_descent, relative_eq_way habs, hp, hbase, hway]
  · rw [hp, hbase]
    exact hshared
  · rw [hcs, hsteps habsolute, hbase]
    rfl
  · obtain ⟨steps', more', hq'⟩ := components_normalize_eq_descent q
    rw [hnormal, hq] at hq'
    rw [components_relative habs, hp, hbase, hq', length_descent, ground_false, List.length_replicate]
    refine length_way_le hup ?_
    rw [← hp, ← hleads, components_join_descent hbase hq fun st => by rw [hq']]

/-- Two absolute paths and two relative ones, with dots and steps up. -/
theorem relative_inverts_join_uphill :
    ((⟨"/a/c/./d/"⟩ : Path).join ((⟨"/a//x/../b"⟩ : Path).relative ⟨"/a/c/./d/"⟩)).normalize = ⟨"/a/b"⟩ ∧
      (⟨"/a//x/../b"⟩ : Path).relative ⟨"/a/c/./d/"⟩ = ⟨"../../b"⟩ ∧
      ((⟨"../z"⟩ : Path).join ((⟨"../../x"⟩ : Path).relative ⟨"../z"⟩)).normalize = ⟨"../../x"⟩ ∧
      (⟨"../../x"⟩ : Path).relative ⟨"../z"⟩ = ⟨"../../x"⟩ ∧
      (⟨"/a/../b"⟩ : Path).relative ⟨"c"⟩ = ⟨"/b"⟩ := by
  obtain ⟨habs, -⟩ := relative_inverts_join ⟨"/a//x/../b"⟩ ⟨"/a/c/./d/"⟩
  obtain ⟨hrel, -⟩ := relative_inverts_join ⟨"../../x"⟩ ⟨"../z"⟩
  obtain ⟨-, hmixed⟩ := relative_inverts_join ⟨"/a/../b"⟩ ⟨"c"⟩
  exact ⟨(habs (by decide) (by decide)).1.trans (by decide +kernel), by decide +kernel,
    (hrel (by decide) (by decide +kernel)).1.trans (by decide +kernel), by decide +kernel,
    (hmixed (by decide)).trans (by decide +kernel)⟩

end SchemaClasses.Path
