import Mathlib.Data.List.Induction
import SchemaClasses.Proofs.Path.Normal

/-!
# Canonical paths

A path is **canonical** (`Path.Canonical`) if its components go straight down: from the root or from a run of `..`, and
from there by names (`descent`). Pushed on a stack, names go deeper and `..` takes back the last name, or climbs, or is
lost at the root (`foldl_push_names`, `foldl_push_climb`); so every normal form is canonical (`reduce_eq_descent`,
`canonical_normalize`). To reduce components first does not change what they do to any stack (`foldl_push_reduce`), so
that normal forms can be taken before joining or after (`normalize_join`).
-/

namespace SchemaClasses.Path

/-! ## Descents -/

/-- The components that a canonical path opens with: the root, or so many steps up. -/
def ground (absolute : Bool) (climbs : Nat) : List Component :=
  if absolute then [.root] else .replicate climbs .parent

/-- The ground, and names from there. -/
def descent (absolute : Bool) (climbs : Nat) (names : List String) : List Component :=
  ground absolute climbs ++ names.map .name

theorem ground_false (climbs : Nat) : ground false climbs = .replicate climbs .parent := rfl

/-- No step up counts at the root. -/
theorem descent_true (climbs : Nat) (names : List String) : descent true climbs names = .root :: names.map .name := rfl

theorem current_not_mem_descent (absolute : Bool) (climbs : Nat) (names : List String) :
    Component.current ∉ descent absolute climbs names := by
  unfold descent ground
  cases absolute <;> simp [List.mem_replicate]

theorem descent_append (absolute : Bool) (climbs : Nat) (names more : List String) :
    descent absolute climbs (names ++ more) = descent absolute climbs names ++ more.map .name := by
  unfold descent
  rw [List.map_append, List.append_assoc]

/-- One name more on the stack of a descent. -/
theorem reverse_descent_concat (absolute : Bool) (climbs : Nat) (names : List String) (n : String) :
    (descent absolute climbs (names ++ [n])).reverse = .name n :: (descent absolute climbs names).reverse := by
  rw [descent_append, List.reverse_append]
  rfl

/-! ## Stacks of descents -/

theorem push_parent_ground (absolute : Bool) (climbs : Nat) :
    push (ground absolute climbs).reverse .parent = (ground absolute (climbs + 1)).reverse := by
  cases absolute with
  | true => rfl
  | false =>
    rw [ground_false, ground_false, List.reverse_replicate, List.reverse_replicate]
    cases climbs <;> rfl

/-- Names go deeper. -/
theorem foldl_push_names (names : List String) (st : List Component) :
    (names.map Component.name).foldl push st = (names.map Component.name).reverse ++ st := by
  induction names generalizing st with
  | nil => rfl
  | cons n names ih =>
    rw [List.map_cons, List.foldl_cons, push_name, ih, List.reverse_cons, List.append_assoc]
    rfl

/-- Steps up take back names, and those that are left over climb from the ground. -/
theorem foldl_push_climb (absolute : Bool) (climbs : Nat) (names : List String) (steps : Nat) :
    (List.replicate steps Component.parent).foldl push (descent absolute climbs names).reverse =
      (descent absolute (climbs + (steps - names.length)) (names.take (names.length - steps))).reverse := by
  induction steps generalizing climbs names with
  | zero => rw [Nat.zero_sub, Nat.add_zero, Nat.sub_zero, List.take_length]; rfl
  | succ steps ih =>
    rw [List.replicate_succ, List.foldl_cons]
    rcases List.eq_nil_or_concat names with rfl | ⟨names, n, rfl⟩
    · -- On the ground the step climbs.
      have hground : descent absolute climbs [] = ground absolute climbs := List.append_nil _
      have hclimb : descent absolute (climbs + 1) [] = ground absolute (climbs + 1) := List.append_nil _
      rw [hground, push_parent_ground, ← hclimb, ih]
      simp only [List.length_nil, List.take_nil]
      congr 2
      omega
    · -- The step takes back the last name.
      have hpop : push (descent absolute climbs (names ++ [n])).reverse .parent =
          (descent absolute climbs names).reverse := by
        rw [reverse_descent_concat]
        rfl
      have htake : (names ++ [n]).take ((names ++ [n]).length - (steps + 1)) = names.take (names.length - steps) := by
        rw [List.length_append, List.length_singleton, Nat.add_sub_add_right,
          List.take_append_of_le_length (Nat.sub_le _ _)]
      rw [List.concat_eq_append, hpop, ih, htake]
      congr 2
      rw [List.length_append, List.length_singleton]
      omega

/-- A descent goes on the empty stack as it is. -/
theorem foldl_push_descent (absolute : Bool) (climbs : Nat) (names : List String) :
    (descent absolute climbs names).foldl push [] = (descent absolute climbs names).reverse := by
  have hground : (ground absolute climbs).foldl push [] = (ground absolute climbs).reverse := by
    cases absolute with
    | true => rfl
    | false =>
      have hclimb := foldl_push_climb false 0 [] climbs
      rw [List.length_nil, Nat.sub_zero, Nat.zero_add, List.take_nil] at hclimb
      simpa [descent, ground] using hclimb
  unfold descent
  rw [List.foldl_append, hground, foldl_push_names, List.reverse_append]

theorem reduce_descent (absolute : Bool) (climbs : Nat) (names : List String) :
    reduce (descent absolute climbs names) = descent absolute climbs names := by
  unfold reduce
  rw [foldl_push_descent, List.reverse_reverse]

/-- Plain components keep a stack in the shape of a descent. -/
theorem foldl_push_eq_descent {cs : List Component} (h : ∀ c ∈ cs, c.Plain) (absolute : Bool) (climbs : Nat)
    (names : List String) : ∃ climbs' names',
      cs.foldl push (descent absolute climbs names).reverse = (descent absolute climbs' names').reverse := by
  induction cs generalizing climbs names with
  | nil => exact ⟨climbs, names, rfl⟩
  | cons c cs ih =>
    obtain ⟨hc, hcs⟩ := List.forall_mem_cons.1 h
    rw [List.foldl_cons]
    rcases hc.cases with rfl | ⟨n, rfl⟩
    · have hstep := foldl_push_climb absolute climbs names 1
      rw [List.replicate_one, List.foldl_cons, List.foldl_nil] at hstep
      rw [hstep]
      exact ih hcs _ _
    · rw [push_name, ← reverse_descent_concat]
      exact ih hcs _ _

/-- The components of a path reduce to a descent, from the root just where the path is absolute. -/
theorem reduce_eq_descent (p : Path) : ∃ climbs names, reduce p.components = descent p.isAbsolute climbs names := by
  have hempty : (if p.isAbsolute then [Component.root] else []) = (descent p.isAbsolute 0 []).reverse := by
    cases p.isAbsolute <;> rfl
  obtain ⟨climbs, names, h⟩ := foldl_push_eq_descent (fun _ => plain_of_mem_steps (p := p)) p.isAbsolute 0 []
  refine ⟨climbs, names, ?_⟩
  unfold reduce
  rw [foldl_push_components, hempty, h, List.reverse_reverse]

/-! ## Canonical paths -/

/-- A path that goes straight down, from the root or from where it has climbed to. -/
structure Canonical (p : Path) : Prop where
  /-- There is no `.`. -/
  current_not_mem : .current ∉ p.components
  /-- Every `..` stands before all names, and none in an absolute path. -/
  climbs_first : ∃ (climbs : Nat) (names : List String),
    p.components = (if p.isAbsolute then [.root] else .replicate climbs .parent) ++ names.map .name

theorem Canonical.exists_descent {p : Path} (h : p.Canonical) :
    ∃ climbs names, p.components = descent p.isAbsolute climbs names := h.climbs_first

theorem Canonical.of_descent {p : Path} {climbs : Nat} {names : List String}
    (h : p.components = descent p.isAbsolute climbs names) : p.Canonical :=
  ⟨h ▸ current_not_mem_descent _ _ _, climbs, names, h⟩

theorem components_normalize_eq_descent (p : Path) :
    ∃ climbs names, p.normalize.components = descent p.isAbsolute climbs names := by
  rw [components_normalize]
  exact reduce_eq_descent p

theorem canonical_normalize (p : Path) : p.normalize.Canonical := by
  obtain ⟨climbs, names, h⟩ := components_normalize_eq_descent p
  exact .of_descent (isAbsolute_normalize p ▸ h)

/-- Canonical paths differ from their normal forms at most in how their components are written. -/
theorem Canonical.components_normalize {p : Path} (h : p.Canonical) : p.normalize.components = p.components := by
  obtain ⟨climbs, names, hcs⟩ := h.exists_descent
  rw [Path.components_normalize, hcs, reduce_descent]

/-! ## Joined paths -/

/-- Plain components do to any stack what they do when they are reduced. -/
theorem foldl_push_reduce {cs : List Component} (h : ∀ c ∈ cs, c.Plain) (st : List Component) :
    (reduce cs).foldl push st = cs.foldl push st := by
  induction cs using List.reverseRecOn generalizing st with
  | nil => rfl
  | append_singleton cs c ih =>
    obtain ⟨hcs, hc⟩ := List.forall_mem_append.1 h
    have hplain : ∀ d ∈ cs.foldl push [], d.Plain := plain_foldl_push (fun _ hd => absurd hd List.not_mem_nil) hcs
    have ih : ∀ st, (cs.foldl push []).reverse.foldl push st = cs.foldl push st := ih hcs
    unfold reduce
    rw [List.foldl_append, List.foldl_append, List.foldl_cons, List.foldl_nil, List.foldl_cons, List.foldl_nil]
    -- The last component goes on the reduced ones, or takes their last name away.
    have hconcat : push (cs.foldl push []) c = c :: cs.foldl push [] →
        (push (cs.foldl push []) c).reverse.foldl push st = push (cs.foldl push st) c := by
      intro hpush
      rw [hpush, List.reverse_cons, List.foldl_append, ih]
      rfl
    rcases (hc c List.mem_cons_self).cases with rfl | ⟨n, rfl⟩
    · rcases push_parent (cs.foldl push []) with hpush | ⟨n, hpush⟩ | ⟨below, hroot, -⟩
      · exact hconcat hpush
      · have hbelow := ih st
        rw [hpush, List.reverse_cons, List.foldl_append, List.foldl_cons, List.foldl_nil, push_name] at hbelow
        rw [← hbelow]
        rfl
      · exact absurd (hplain .root (hroot ▸ List.mem_cons_self)) Component.not_plain_root
    · exact hconcat (push_name _ n)

/-- What a relative path does to a stack is told by its steps. -/
theorem foldl_push_relative {b : Path} (hb : b.isAbsolute = false) (st : List Component) :
    b.components.foldl push st = b.steps.foldl push st := by
  rw [components_eq, List.foldl_append]
  rcases opening_cases b.text.toList with ⟨-, hr⟩ | ⟨h | h, -⟩
  · exact absurd (hb.symm.trans hr) Bool.false_ne_true
  · rw [h, List.foldl_cons, push_current]; rfl
  · rw [h]; rfl

theorem reduce_relative {b : Path} (hb : b.isAbsolute = false) : reduce b.components = reduce b.steps := by
  unfold reduce
  rw [foldl_push_relative hb]

theorem join_of_isAbsolute (a : Path) {b : Path} (hb : b.isAbsolute = true) : a.join b = b := if_pos hb

theorem normalize_congr {p q : Path} (h : reduce p.components = reduce q.components) : p.normalize = q.normalize :=
  congrArg ofComponents h

/-- Normal forms may be taken before paths are joined. -/
theorem normalize_join (a b : Path) : (a.join b).normalize = (a.normalize.join b.normalize).normalize := by
  cases hb : b.isAbsolute with
  | true => rw [join_of_isAbsolute a hb, join_of_isAbsolute _ (by rw [isAbsolute_normalize, hb]), normalize_normalize]
  | false =>
    have hb' : b.normalize.isAbsolute = false := by rw [isAbsolute_normalize, hb]
    have ha : (reduce a.components).foldl push [] = a.components.foldl push [] := by
      have hreverse := reduce_reduce a.components
      exact List.reverse_inj.1 hreverse
    have hsteps : b.normalize.components.foldl push (a.components.foldl push []) =
        b.components.foldl push (a.components.foldl push []) := by
      rw [components_normalize, reduce_relative hb, foldl_push_reduce (fun _ => plain_of_mem_steps),
        foldl_push_relative hb]
    refine normalize_congr (congrArg List.reverse ?_)
    rw [foldl_push_join a hb, foldl_push_join _ hb', components_normalize a, ha, hsteps]

/-! ## Normal forms -/

/-- **Normal forms** are canonical, absolute just where the path is, and normal forms of themselves; they can be taken
before joining or after. A path seen from an absolute directory is an absolute normal form, wherever it is seen from
next. -/
theorem normalize_canonical (a b : Path) :
    a.normalize.normalize = a.normalize ∧ a.normalize.isAbsolute = a.isAbsolute ∧ a.normalize.Canonical ∧
      (a.join b).normalize = (a.normalize.join b.normalize).normalize ∧
      ∀ cwd : Path, cwd.isAbsolute = true →
        (a.anchored cwd).isAbsolute = true ∧ (a.anchored cwd).Canonical ∧
          (a.anchored cwd).normalize = a.anchored cwd ∧
          ∀ cwd', (a.anchored cwd).anchored cwd' = a.anchored cwd := by
  refine ⟨normalize_normalize a, isAbsolute_normalize a, canonical_normalize a, normalize_join a b, fun cwd hcwd => ?_⟩
  have habs := isAbsolute_anchored hcwd a
  have hnormal := normalize_anchored a cwd
  refine ⟨habs, hnormal ▸ canonical_normalize _, hnormal, fun cwd' => ?_⟩
  rw [anchored, if_pos habs, hnormal]

theorem normalize_canonical_climb : Path.isAbsolute ⟨"/work/./here"⟩ = true ∧
    (⟨"x//.././../y/"⟩ : Path).normalize = ⟨"../y"⟩ ∧
      (⟨"x//.././../y/"⟩ : Path).anchored ⟨"/work/./here"⟩ = ⟨"/work/y"⟩ ∧ Canonical ⟨"/work/y"⟩ ∧
      (⟨"/work/y"⟩ : Path).anchored ⟨"/elsewhere"⟩ = ⟨"/work/y"⟩ := by
  have hcwd : Path.isAbsolute ⟨"/work/./here"⟩ = true := by decide
  have hseen : (⟨"x//.././../y/"⟩ : Path).anchored ⟨"/work/./here"⟩ = ⟨"/work/y"⟩ := by decide +kernel
  obtain ⟨-, -, -, -, hanchored⟩ := normalize_canonical ⟨"x//.././../y/"⟩ ⟨"z"⟩
  obtain ⟨-, hcanonical, -, hagain⟩ := hanchored ⟨"/work/./here"⟩ hcwd
  rw [hseen] at hcanonical hagain
  exact ⟨hcwd, by decide +kernel, hseen, hcanonical, hagain ⟨"/elsewhere"⟩⟩

end SchemaClasses.Path
