import SchemaClasses.Path.Normal
import SchemaClasses.Proofs.Path.Components

/-!
# Normal forms

`push` keeps a stack of plain components plain, over the root or alone, so that the components of a path reduce to
plain components, behind the root or alone (`reduced_reduce`). Such components are found again in the path they are
written to: the components of a normal form are the reduced components (`components_normalize`), and to reduce them
again changes nothing (`normalize_normalize`). Joined paths reduce one after the other (`foldl_push_join`).
-/

namespace SchemaClasses.Path

/-! ## The stack -/

@[simp] theorem push_current (st : List Component) : push st .current = st := by
  unfold push; split <;> simp_all

@[simp] theorem push_name (st : List Component) (n : String) : push st (.name n) = .name n :: st := by
  unfold push; split <;> simp_all

/-- `..` cancels a name, is lost at the root, and stays otherwise. -/
theorem push_parent (st : List Component) :
    push st .parent = .parent :: st ∨ (∃ n, st = .name n :: push st .parent) ∨
      ∃ below, st = .root :: below ∧ push st .parent = st := by
  cases st with
  | nil => exact Or.inl rfl
  | cons c below =>
    cases c with
    | root => exact Or.inr (Or.inr ⟨below, rfl, rfl⟩)
    | current => exact Or.inl rfl
    | parent => exact Or.inl rfl
    | name n => exact Or.inr (Or.inl ⟨n, rfl⟩)

/-- A plain component is `..` or a name. -/
theorem Component.Plain.cases {c : Component} (h : c.Plain) : c = .parent ∨ ∃ n, c = .name n := by
  cases c with
  | root => exact absurd h Component.not_plain_root
  | current => exact absurd h Component.not_plain_current
  | parent => exact Or.inl rfl
  | name n => exact Or.inr ⟨n, rfl⟩

/-- A stack of plain components stays one. -/
theorem plain_push {st : List Component} {c : Component} (hst : ∀ d ∈ st, d.Plain) (hc : c.Plain) :
    ∀ d ∈ push st c, d.Plain := by
  rcases hc.cases with rfl | ⟨n, rfl⟩
  · rcases push_parent st with h | ⟨n, h⟩ | ⟨below, h, -⟩
    · rw [h]; exact List.forall_mem_cons.2 ⟨hc, hst⟩
    · intro d hd; exact hst d (h ▸ List.mem_cons_of_mem _ hd)
    · exact absurd (hst .root (h ▸ List.mem_cons_self)) Component.not_plain_root
  · rw [push_name]
    exact List.forall_mem_cons.2 ⟨hc, hst⟩

/-- A stack of plain components over the root stays one. -/
theorem plain_push_root {ds : List Component} {c : Component} (hds : ∀ d ∈ ds, d.Plain) (hc : c.Plain) :
    ∃ ds', push (ds ++ [.root]) c = ds' ++ [.root] ∧ ∀ d ∈ ds', d.Plain := by
  rcases hc.cases with rfl | ⟨n, rfl⟩
  · cases ds with
    | nil => exact ⟨[], rfl, fun _ h => absurd h List.not_mem_nil⟩
    | cons d ds =>
      have hds' : ∀ e ∈ ds, e.Plain := fun e he => hds e (List.mem_cons_of_mem _ he)
      rcases (hds d List.mem_cons_self).cases with rfl | ⟨n, rfl⟩
      · exact ⟨.parent :: .parent :: ds, rfl, List.forall_mem_cons.2 ⟨hc, hds⟩⟩
      · exact ⟨ds, rfl, hds'⟩
  · exact ⟨.name n :: ds, push_name _ n, List.forall_mem_cons.2 ⟨hc, hds⟩⟩

theorem plain_foldl_push {cs st : List Component} (hst : ∀ d ∈ st, d.Plain) (hcs : ∀ c ∈ cs, c.Plain) :
    ∀ d ∈ cs.foldl push st, d.Plain := by
  induction cs generalizing st with
  | nil => exact hst
  | cons c cs ih =>
    obtain ⟨hc, hcs⟩ := List.forall_mem_cons.1 hcs
    exact ih (plain_push hst hc) hcs

theorem plain_foldl_push_root {cs ds : List Component} (hds : ∀ d ∈ ds, d.Plain) (hcs : ∀ c ∈ cs, c.Plain) :
    ∃ ds', cs.foldl push (ds ++ [.root]) = ds' ++ [.root] ∧ ∀ d ∈ ds', d.Plain := by
  induction cs generalizing ds with
  | nil => exact ⟨ds, rfl, hds⟩
  | cons c cs ih =>
    obtain ⟨hc, hcs⟩ := List.forall_mem_cons.1 hcs
    obtain ⟨ds', heq, hds'⟩ := plain_push_root hds hc
    rw [List.foldl_cons, heq]
    exact ih hds' hcs

/-! ## Reduced components -/

/-- Plain components, behind the root or alone. -/
def Reduced (cs : List Component) : Prop := ∃ ds, (∀ d ∈ ds, d.Plain) ∧ (cs = ds ∨ cs = .root :: ds)

/-- A text opens with the root, with a dot or with nothing. -/
theorem opening_cases (cs : List Char) :
    opening cs = [.root] ∧ rooted cs = true ∨ (opening cs = [.current] ∨ opening cs = []) ∧ rooted cs = false := by
  unfold opening
  cases rooted cs with
  | true => exact Or.inl ⟨rfl, rfl⟩
  | false =>
    refine Or.inr ⟨?_, rfl⟩
    by_cases h : (pieces cs).head? = some ['.']
    · rw [if_neg Bool.false_ne_true, if_pos h]; exact Or.inl rfl
    · rw [if_neg Bool.false_ne_true, if_neg h]; exact Or.inr rfl

/-- The stack of a path: its steps on the root, or on nothing. -/
theorem foldl_push_components (p : Path) :
    p.components.foldl push [] = p.steps.foldl push (if p.isAbsolute then [.root] else []) := by
  rw [components_eq, List.foldl_append]
  unfold isAbsolute
  rcases opening_cases p.text.toList with ⟨h, hr⟩ | ⟨h | h, hr⟩ <;> rw [h, hr] <;> rfl

/-- The components of a path reduce to plain ones, behind the root just where the path is absolute. -/
theorem reduce_components (p : Path) : ∃ ds, (∀ d ∈ ds, d.Plain) ∧
    reduce p.components = (if p.isAbsolute then [.root] else []) ++ ds := by
  have hsteps : ∀ c ∈ p.steps, c.Plain := fun _ => plain_of_mem_steps
  unfold reduce
  rw [foldl_push_components]
  cases p.isAbsolute with
  | true =>
    have hnone : ∀ d ∈ ([] : List Component), d.Plain := fun d hd => absurd hd List.not_mem_nil
    obtain ⟨ds, hds, hplain⟩ := plain_foldl_push_root hnone hsteps
    refine ⟨ds.reverse, fun d hd => hplain d (List.mem_reverse.1 hd), ?_⟩
    show (p.steps.foldl push ([] ++ [.root])).reverse = _
    rw [hds, List.reverse_append]
    rfl
  | false =>
    refine ⟨(p.steps.foldl push []).reverse, fun d hd => ?_, rfl⟩
    exact plain_foldl_push (by simp) hsteps d (List.mem_reverse.1 hd)

theorem reduced_reduce (p : Path) : Reduced (reduce p.components) := by
  obtain ⟨ds, hds, h⟩ := reduce_components p
  cases ha : p.isAbsolute with
  | true => rw [ha] at h; exact ⟨ds, hds, Or.inr h⟩
  | false => rw [ha] at h; exact ⟨ds, hds, Or.inl h⟩

/-- Reduced components are found again in the path they are written to. -/
theorem Reduced.components_ofComponents {cs : List Component} (h : Reduced cs) : (ofComponents cs).components = cs := by
  obtain ⟨ds, hds, rfl | rfl⟩ := h
  · exact Path.components_ofComponents hds
  · exact components_ofComponents_root hds

/-- The components of a normal form are the reduced components. -/
theorem components_normalize (p : Path) : p.normalize.components = reduce p.components :=
  (reduced_reduce p).components_ofComponents

/-- A path is absolute just where its first component is the root. -/
theorem isAbsolute_iff (p : Path) : p.isAbsolute = true ↔ p.components.head? = some .root := by
  rw [components_eq]
  unfold isAbsolute
  rcases opening_cases p.text.toList with ⟨h, hr⟩ | ⟨h | h, hr⟩
  · simp [h, hr]
  · simp [h, hr]
  · simp only [h, hr, List.nil_append]
    refine iff_of_false Bool.false_ne_true fun hroot => ?_
    exact Component.not_plain_root (plain_of_mem_steps (List.mem_of_mem_head? hroot))

theorem isAbsolute_congr {p q : Path} (h : p.components.head? = some .root ↔ q.components.head? = some .root) :
    p.isAbsolute = q.isAbsolute := by
  rw [Bool.eq_iff_iff, isAbsolute_iff, isAbsolute_iff, h]

/-! ## Normal forms of normal forms -/

/-- A component goes on the stack, or is lost, or takes a name from the top. -/
theorem push_cases (st : List Component) (c : Component) :
    push st c = c :: st ∨ push st c = st ∨ ∃ n, st = .name n :: push st c := by
  cases c with
  | root => exact Or.inl (by unfold push; split <;> simp_all)
  | current => exact Or.inr (Or.inl (push_current st))
  | parent =>
    rcases push_parent st with h | h | ⟨-, -, h⟩
    · exact Or.inl h
    · exact Or.inr (Or.inr h)
    · exact Or.inr (Or.inl h)
  | name n => exact Or.inl (push_name st n)

/-- A stack on which no component acts on those below it. -/
def Steady (st : List Component) : Prop := st.reverse.foldl push [] = st

theorem Steady.push {st : List Component} (h : Steady st) (c : Component) : Steady (push st c) := by
  rcases push_cases st c with hc | hc | ⟨n, hst⟩
  · unfold Steady
    rw [hc, List.reverse_cons, List.foldl_append, h]
    exact hc
  · rw [hc]
    exact h
  · -- What is below a name on a steady stack is steady.
    rw [hst] at h
    unfold Steady at h
    rw [List.reverse_cons, List.foldl_append, List.foldl_cons, List.foldl_nil, push_name] at h
    exact (List.cons.inj h).2

theorem Steady.foldl_push {cs st : List Component} (h : Steady st) : Steady (cs.foldl Path.push st) := by
  induction cs generalizing st with
  | nil => exact h
  | cons c cs ih => exact ih (h.push c)

theorem reduce_reduce (cs : List Component) : reduce (reduce cs) = reduce cs := by
  have hsteady : Steady (cs.foldl push []) := Steady.foldl_push rfl
  unfold reduce
  rw [hsteady]

/-- A normal form is its own normal form. -/
theorem normalize_normalize (p : Path) : p.normalize.normalize = p.normalize := by
  rw [normalize, components_normalize, reduce_reduce]
  rfl

theorem isAbsolute_normalize (p : Path) : p.normalize.isAbsolute = p.isAbsolute := by
  obtain ⟨ds, hds, h⟩ := reduce_components p
  rw [Bool.eq_iff_iff, isAbsolute_iff, components_normalize, h]
  cases p.isAbsolute with
  | true => exact iff_of_true rfl rfl
  | false =>
    refine iff_of_false (fun hroot => ?_) Bool.false_ne_true
    exact Component.not_plain_root (hds _ (List.mem_of_mem_head? hroot))

theorem isAbsolute_join {a : Path} (h : a.isAbsolute = true) (b : Path) : (a.join b).isAbsolute = true := by
  have happend : ∀ s, (⟨a.text ++ s⟩ : Path).isAbsolute = true := by
    intro s
    unfold isAbsolute at h ⊢
    rw [String.toList_append]
    cases hcs : a.text.toList with
    | nil => rw [hcs] at h; cases h
    | cons c cs =>
      rw [hcs, rooted_cons] at h
      rw [List.cons_append, rooted_cons]
      exact h
  unfold join
  split
  · assumption
  · split
    · exact happend _
    · rw [String.append_assoc]
      exact happend _

/-- Seen from an absolute directory, every path is an absolute normal form. -/
theorem isAbsolute_anchored {cwd : Path} (h : cwd.isAbsolute = true) (p : Path) : (p.anchored cwd).isAbsolute = true := by
  unfold anchored
  split
  · rename_i hp
    rw [isAbsolute_normalize, hp]
  · rw [isAbsolute_normalize, isAbsolute_join h]

theorem normalize_anchored (p cwd : Path) : (p.anchored cwd).normalize = p.anchored cwd := by
  unfold anchored
  split <;> exact normalize_normalize _

/-! ## Joined paths and names at the end -/

/-- A relative path reduces on the stack of the directory it is joined to. -/
theorem foldl_push_join (a : Path) {b : Path} (hb : b.isAbsolute = false) :
    (a.join b).components.foldl push [] = b.components.foldl push (a.components.foldl push []) := by
  by_cases ha : a.text = ""
  · obtain ⟨text⟩ := a
    cases ha
    rw [empty_join]
    rfl
  · rw [components_join ha hb, List.foldl_append, components_eq b, List.foldl_append]
    rcases opening_cases b.text.toList with ⟨-, hr⟩ | ⟨h | h, -⟩
    · exact absurd (hb.symm.trans hr) Bool.false_ne_true
    · rw [h, List.foldl_cons, push_current]; rfl
    · rw [h]; rfl

/-- A name behind components stays behind them. -/
theorem reduce_concat_name (cs : List Component) (n : String) : reduce (cs ++ [.name n]) = reduce cs ++ [.name n] := by
  unfold reduce
  rw [List.foldl_append, List.foldl_cons, List.foldl_nil, push_name, List.reverse_cons]

/-- A plain name is a path of one step. -/
theorem components_name {n : String} (h : Component.Plain (.name n)) :
    (⟨n⟩ : Path).isAbsolute = false ∧ (⟨n⟩ : Path).steps = [.name n] ∧ (⟨n⟩ : Path).components = [.name n] := by
  have hp : pieces n.toList = [n.toList] := pieces_of_slash_not_mem h.1
  have hdot : n.toList ≠ ['.'] := h.text_ne_dot
  have hs : (⟨n⟩ : Path).steps = [.name n] := by
    have hall : ∀ c ∈ [Component.name n], c.Plain := by simpa using h
    unfold steps
    rw [hp]
    exact named_map_text hall
  refine ⟨rooted_eq_false hp h.text_ne_nil, hs, ?_⟩
  rw [components, componentsOf_of_pieces hp h.text_ne_nil, if_neg hdot, ← hp]
  exact hs

/-- The components of a file in a directory. -/
theorem components_join_name (a : Path) {n : String} (h : Component.Plain (.name n)) :
    (a.join ⟨n⟩).components = a.components ++ [.name n] := by
  obtain ⟨hrel, hsteps, hcs⟩ := components_name h
  by_cases ha : a.text = ""
  · obtain ⟨text⟩ := a
    cases ha
    rw [empty_join, hcs]
    rfl
  · rw [components_join ha hrel, hsteps]

end SchemaClasses.Path
