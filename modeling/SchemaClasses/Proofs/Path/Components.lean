import SchemaClasses.Path.Basic

/-!
# Components of joined and written paths

The components of a path are the component it opens with, if any (`opening`), and what the pieces of its text name
(`steps`, `components_eq`). Both are told by the pieces between slashes alone, so that they can be read off

* a path that is joined of two (`steps_join`, `components_join`),
* a path that is written from components, provided each can stand between slashes (`Component.Plain`,
  `components_ofComponents`, `components_ofComponents_root`, `components_ofComponents_current`),
* the directory of a path (`components_directory`): its components are those of the path but the last.
-/

namespace SchemaClasses.Path

/-! ## Pieces -/

/-- The pieces of a text are what the slash splits it into. -/
theorem pieces_eq_splitOn : ∀ cs : List Char, pieces cs = cs.splitOn '/'
  | [] => rfl
  | c :: cs => by
    rw [List.splitOn_cons_eq_if_modifyHead, pieces, pieces_eq_splitOn cs]
    by_cases h : c = '/'
    · simp [h]
    · rw [if_neg h, if_neg (by simpa using h)]
      cases hs : cs.splitOn '/' with
      | nil => exact absurd hs (List.splitOn_ne_nil _ _)
      | cons p ps => rfl

theorem pieces_ne_nil (cs : List Char) : pieces cs ≠ [] := by
  rw [pieces_eq_splitOn]; exact List.splitOn_ne_nil _ _

/-- A slash divides the pieces of a text. -/
theorem pieces_append_slash (as bs : List Char) : pieces (as ++ '/' :: bs) = pieces as ++ pieces bs := by
  simp only [pieces_eq_splitOn, List.splitOn_append_cons_self]

theorem pieces_of_slash_not_mem {p : List Char} (h : '/' ∉ p) : pieces p = [p] := by
  rw [pieces_eq_splitOn, List.splitOn_eq_singleton h]

/-- No piece holds a slash. -/
theorem slash_not_mem_of_mem_pieces {cs : List Char} : ∀ p ∈ pieces cs, '/' ∉ p := by
  induction cs with
  | nil => simp [pieces]
  | cons c cs ih =>
    intro p hp
    unfold pieces at hp
    split at hp
    · rcases List.mem_cons.1 hp with rfl | hp
      · simp
      · exact ih p hp
    · rename_i hc
      cases hs : pieces cs with
      | nil => exact absurd hs (pieces_ne_nil cs)
      | cons q qs =>
        rw [hs] at hp ih
        rcases List.mem_cons.1 hp with rfl | hp
        · simp only [List.mem_cons, not_or]
          exact ⟨Ne.symm hc, ih q List.mem_cons_self⟩
        · exact ih p (List.mem_cons_of_mem _ hp)

/-- Pieces put together with slashes are found again. -/
theorem pieces_intercalate {ps : List (List Char)} (h : ∀ p ∈ ps, '/' ∉ p) (hne : ps ≠ []) :
    pieces (['/'].intercalate ps) = ps := by
  rw [pieces_eq_splitOn, List.splitOn_intercalate '/' h hne]

theorem mem_pieces_append_slash {p : List Char} (h : '/' ∉ p) (cs : List Char) : p ∈ pieces (p ++ '/' :: cs) := by
  rw [pieces_append_slash, pieces_of_slash_not_mem h]
  exact List.mem_cons_self

theorem mem_pieces_between_slashes {p : List Char} (h : '/' ∉ p) (as cs : List Char) :
    p ∈ pieces (as ++ '/' :: (p ++ '/' :: cs)) := by
  rw [pieces_append_slash]
  exact List.mem_append_right _ (mem_pieces_append_slash h cs)

/-- The first piece is empty only where the text opens with a slash or is empty itself. -/
theorem head?_pieces_cons {c : Char} (hc : c ≠ '/') (cs : List Char) :
    ∃ p, (pieces (c :: cs)).head? = some (c :: p) := by
  rw [pieces, if_neg hc]
  cases pieces cs with
  | nil => exact ⟨[], rfl⟩
  | cons p ps => exact ⟨p, rfl⟩

/-! ## Components as an opening and steps -/

/-- What pieces name. -/
def named (ps : List (List Char)) : List Component := ps.filterMap componentOfPiece

/-- The component that only the start of a text can name. -/
def opening (cs : List Char) : List Component :=
  if rooted cs then [.root] else if (pieces cs).head? = some ['.'] then [.current] else []

/-- The components that a path names wherever it stands. -/
def steps (p : Path) : List Component := named (pieces p.text.toList)

theorem named_append (ps qs : List (List Char)) : named (ps ++ qs) = named ps ++ named qs :=
  List.filterMap_append

theorem named_dot (ps : List (List Char)) : named (['.'] :: ps) = named ps := rfl

theorem named_nil_cons (ps : List (List Char)) : named ([] :: ps) = named ps := rfl

theorem rooted_cons (c : Char) (cs : List Char) : rooted (c :: cs) = decide (c = '/') := by
  unfold rooted
  split
  · rename_i h; cases h; rfl
  · rename_i h
    exact (decide_eq_false fun hc => h cs (by rw [hc])).symm

theorem componentsOf_eq (cs : List Char) : componentsOf cs = opening cs ++ named (pieces cs) := by
  unfold componentsOf opening
  split
  · rw [pieces, if_pos rfl, named_nil_cons, rooted_cons]
    rfl
  · rename_i hslash
    have hr : rooted cs = false := by
      cases cs with
      | nil => rfl
      | cons c cs => rw [rooted_cons]; exact decide_eq_false fun hc => hslash cs (by rw [hc])
    rw [hr]
    split
    · rename_i ps hps
      rw [hps, named_dot]
      rfl
    · rename_i hdot
      have hhead : (pieces cs).head? ≠ some ['.'] := by
        intro h
        obtain ⟨ps, hps⟩ := List.head?_eq_some_iff.1 h
        exact hdot ps hps
      rw [if_neg (by simp), if_neg hhead]
      rfl

/-- The components of a path: its opening, then its steps. -/
theorem components_eq (p : Path) : p.components = opening p.text.toList ++ p.steps := componentsOf_eq _

/-! ## Plain components -/

/-- A component that its own text names between slashes. -/
def Component.Plain (c : Component) : Prop :=
  '/' ∉ c.text.toList ∧ componentOfPiece c.text.toList = some c

theorem Component.Plain.text_ne_nil {c : Component} (h : c.Plain) : c.text.toList ≠ [] := by
  intro hnil
  have := h.2
  rw [hnil] at this
  cases this

theorem Component.Plain.text_ne_dot {c : Component} (h : c.Plain) : c.text.toList ≠ ['.'] := by
  intro hdot
  have := h.2
  rw [hdot] at this
  cases this

theorem Component.plain_parent : Component.Plain .parent := ⟨by decide, by decide⟩

theorem Component.not_plain_root : ¬Component.Plain .root := fun h => h.1 (by decide)

theorem Component.not_plain_current : ¬Component.Plain .current := fun h => h.text_ne_dot (by decide)

/-- A name without slashes that is neither empty nor a dot or two names a plain component. -/
theorem Component.plain_name {n : String} (hs : '/' ∉ n.toList) (hn : n.toList ≠ []) (h1 : n.toList ≠ ['.'])
    (h2 : n.toList ≠ ['.', '.']) : Component.Plain (.name n) := by
  refine ⟨hs, ?_⟩
  show componentOfPiece n.toList = some (.name n)
  unfold componentOfPiece
  split
  · rename_i h; exact absurd h hn
  · rename_i h; exact absurd h h1
  · rename_i h; exact absurd h h2
  · rw [String.ofList_toList]

/-- What a piece names is plain. -/
theorem plain_of_componentOfPiece {p : List Char} {c : Component} (hp : '/' ∉ p) (h : componentOfPiece p = some c) :
    c.Plain := by
  have htext : c.text.toList = p := by
    unfold componentOfPiece at h
    split at h
    · cases h
    · cases h
    · cases h; decide
    · cases h; exact String.toList_ofList
  exact ⟨by rw [htext]; exact hp, by rw [htext]; exact h⟩

/-- The steps of a path are plain. -/
theorem plain_of_mem_steps {p : Path} {c : Component} (h : c ∈ p.steps) : c.Plain := by
  obtain ⟨piece, hp, hc⟩ := List.mem_filterMap.1 h
  exact plain_of_componentOfPiece (slash_not_mem_of_mem_pieces piece hp) hc

/-- The texts of plain components name these components. -/
theorem named_map_text {cs : List Component} (h : ∀ c ∈ cs, c.Plain) : named (cs.map (·.text.toList)) = cs := by
  induction cs with
  | nil => rfl
  | cons c cs ih =>
    rw [List.map_cons, named, List.filterMap_cons_some (h c List.mem_cons_self).2]
    exact congrArg _ (ih fun d hd => h d (List.mem_cons_of_mem _ hd))

/-! ## Written components -/

theorem toList_intercalate_text (cs : List Component) :
    ("/".intercalate (cs.map Component.text)).toList = ['/'].intercalate (cs.map (·.text.toList)) := by
  rw [String.toList_intercalate, List.map_map]
  rfl

/-- The pieces of plain components written with slashes. -/
theorem pieces_intercalate_text {cs : List Component} (h : ∀ c ∈ cs, c.Plain) (hne : cs ≠ []) :
    pieces ("/".intercalate (cs.map Component.text)).toList = cs.map (·.text.toList) := by
  rw [toList_intercalate_text]
  refine pieces_intercalate (fun p hp => ?_) (by simpa using hne)
  obtain ⟨c, hc, rfl⟩ := List.mem_map.1 hp
  exact (h c hc).1

theorem named_pieces_intercalate_text {cs : List Component} (h : ∀ c ∈ cs, c.Plain) :
    named (pieces ("/".intercalate (cs.map Component.text)).toList) = cs := by
  by_cases hne : cs = []
  · subst hne; rfl
  · rw [pieces_intercalate_text h hne, named_map_text h]

theorem rooted_eq_false {cs p : List Char} {ps : List (List Char)} (h : pieces cs = p :: ps) (hne : p ≠ []) :
    rooted cs = false := by
  cases cs with
  | nil => rfl
  | cons c cs =>
    rw [rooted_cons]
    refine decide_eq_false ?_
    rintro rfl
    rw [pieces, if_pos rfl] at h
    exact hne (List.cons.inj h).1.symm

/-- The components of a text whose first piece is not empty. -/
theorem componentsOf_of_pieces {cs p : List Char} {ps : List (List Char)} (h : pieces cs = p :: ps) (hne : p ≠ []) :
    componentsOf cs = (if p = ['.'] then [.current] else []) ++ named (p :: ps) := by
  rw [componentsOf_eq, opening, rooted_eq_false h hne, h, if_neg Bool.false_ne_true, List.head?_cons]
  simp only [Option.some.injEq]

theorem ofComponents_plain {cs : List Component} (h : ∀ c ∈ cs, c.Plain) :
    ofComponents cs = ⟨"/".intercalate (cs.map Component.text)⟩ := by
  unfold ofComponents
  split
  · exact absurd (h .root List.mem_cons_self) Component.not_plain_root
  · rfl

/-- Plain components are found again in the path they are written to. -/
theorem components_ofComponents {cs : List Component} (h : ∀ c ∈ cs, c.Plain) : (ofComponents cs).components = cs := by
  rw [ofComponents_plain h]
  cases cs with
  | nil => rfl
  | cons c cs =>
    have hc := h c List.mem_cons_self
    rw [components, componentsOf_of_pieces (pieces_intercalate_text h (List.cons_ne_nil _ _)) hc.text_ne_nil,
      if_neg hc.text_ne_dot]
    exact named_map_text h

/-- Plain components behind the root are found again in the path they are written to. -/
theorem components_ofComponents_root {cs : List Component} (h : ∀ c ∈ cs, c.Plain) :
    (ofComponents (.root :: cs)).components = .root :: cs := by
  have htext : (ofComponents (.root :: cs)).text.toList = '/' :: ("/".intercalate (cs.map Component.text)).toList := by
    rw [ofComponents, String.toList_append]; rfl
  rw [components, htext, componentsOf_eq, pieces, if_pos rfl, named_nil_cons, named_pieces_intercalate_text h]
  rfl

theorem empty_join (b : Path) : (⟨""⟩ : Path).join b = b := by
  unfold join
  split
  · rfl
  · rw [if_pos (Or.inl (by decide))]
    exact congrArg Path.mk String.empty_append

/-- Behind a directory with a text of its own a relative path follows a slash, which the directory may end in. -/
theorem toList_join {a b : Path} (ha : a.text ≠ "") (hb : b.isAbsolute = false) :
    ∃ as, (a.join b).text.toList = as ++ '/' :: b.text.toList ∧
      (a.text.toList = as ∧ as ≠ [] ∨ a.text.toList = as ++ ['/']) := by
  have ha' : a.text.toList ≠ [] := fun h => ha (String.toList_eq_nil_iff.1 h)
  unfold join
  rw [if_neg (by rw [hb]; decide)]
  by_cases hlast : a.text.toList.getLast? = some '/'
  · -- The slash at the end of the directory serves.
    rw [if_pos (Or.inr hlast)]
    obtain ⟨as, has⟩ := List.getLast?_eq_some_iff.1 hlast
    exact ⟨as, by rw [String.toList_append, has, List.append_assoc]; rfl, Or.inr has⟩
  · have hempty : ¬a.text.isEmpty := fun h => ha (String.isEmpty_iff.1 h)
    rw [if_neg (not_or.2 ⟨hempty, hlast⟩)]
    exact ⟨a.text.toList, by rw [String.toList_append, String.toList_append, List.append_assoc]; rfl, Or.inl ⟨rfl, ha'⟩⟩

/-- Only the text before its first slash says what a text opens with. -/
theorem opening_append_slash {as : List Char} (h : as ≠ []) (bs : List Char) :
    opening (as ++ '/' :: bs) = opening as := by
  have hhead : (pieces (as ++ '/' :: bs)).head? = (pieces as).head? := by
    rw [pieces_append_slash]
    cases hp : pieces as with
    | nil => exact absurd hp (pieces_ne_nil as)
    | cons p ps => rfl
  have hrooted : rooted (as ++ '/' :: bs) = rooted as := by
    cases as with
    | nil => exact absurd rfl h
    | cons c cs => rw [List.cons_append, rooted_cons, rooted_cons]
  unfold opening
  rw [hhead, hrooted]

/-- The steps of a relative path follow those of the directory it is joined to. -/
theorem steps_join (a : Path) {b : Path} (hb : b.isAbsolute = false) : (a.join b).steps = a.steps ++ b.steps := by
  by_cases ha : a.text = ""
  · obtain ⟨text⟩ := a
    cases ha
    rw [empty_join]
    rfl
  · obtain ⟨as, hjoin, has⟩ := toList_join ha hb
    have hsteps : named (pieces as) = a.steps := by
      unfold steps
      rcases has with ⟨h, -⟩ | h
      · rw [h]
      · rw [h, pieces_append_slash, named_append]
        exact (List.append_nil _).symm
    unfold steps at hsteps ⊢
    rw [hjoin, pieces_append_slash, named_append, hsteps]

/-- A path opens like the directory it is joined to. -/
theorem opening_join {a b : Path} (ha : a.text ≠ "") (hb : b.isAbsolute = false) :
    opening (a.join b).text.toList = opening a.text.toList := by
  obtain ⟨as, hjoin, ⟨h, hne⟩ | h⟩ := toList_join ha hb
  · rw [hjoin, h, opening_append_slash hne]
  · rw [hjoin, h]
    by_cases hne : as = []
    · subst hne; rfl
    · rw [opening_append_slash hne, opening_append_slash hne]

/-- The components of a relative path behind a directory with a text of its own. -/
theorem components_join {a b : Path} (ha : a.text ≠ "") (hb : b.isAbsolute = false) :
    (a.join b).components = a.components ++ b.steps := by
  rw [components_eq, opening_join ha hb, steps_join a hb, components_eq a, List.append_assoc]

/-! ## Directories -/

theorem names_eq_isSome (p : List Char) : names p = (componentOfPiece p).isSome := rfl

/-- Pieces that name nothing can be left out. -/
theorem named_dropWhile (ps : List (List Char)) : named (ps.dropWhile fun p => !names p) = named ps := by
  induction ps with
  | nil => rfl
  | cons p ps ih =>
    cases h : componentOfPiece p with
    | none =>
      rw [List.dropWhile_cons_of_pos (by rw [names_eq_isSome, h]; rfl), ih]
      exact (List.filterMap_cons_none h).symm
    | some c => rw [List.dropWhile_cons_of_neg (by rw [names_eq_isSome, h]; exact Bool.false_ne_true)]

theorem named_reverse (ps : List (List Char)) : named ps.reverse = (named ps).reverse := List.filterMap_reverse

theorem named_of_dropLastName_eq_none {ps : List (List Char)} (h : dropLastName ps = none) : named ps = [] := by
  have hdrop := named_dropWhile ps.reverse
  unfold dropLastName at h
  split at h
  · rename_i hnil
    rw [hnil, named_reverse] at hdrop
    exact List.reverse_eq_nil_iff.1 hdrop.symm
  · cases h

/-- Without the last piece that names a component the last component is gone. -/
theorem named_of_dropLastName {ps qs : List (List Char)} (h : dropLastName ps = some qs) :
    ∃ c, named ps = named qs ++ [c] := by
  have hdrop := named_dropWhile ps.reverse
  unfold dropLastName at h
  split at h
  · cases h
  · rename_i q before hq
    cases h
    -- What stops the dropping names a component.
    have hnames : names q = true := by
      have := List.head?_dropWhile_not (fun p => !names p) ps.reverse
      rw [hq] at this
      simpa using this
    obtain ⟨c, hc⟩ := Option.isSome_iff_exists.1 hnames
    refine ⟨c, ?_⟩
    rw [hq, named_reverse, named, List.filterMap_cons_some hc] at hdrop
    rw [← List.reverse_reverse (named ps), ← hdrop, List.reverse_cons, named_reverse, named_dropWhile]
    rfl

/-- What is left of pieces without the last name starts as they do. -/
theorem prefix_of_dropLastName {ps qs : List (List Char)} (h : dropLastName ps = some qs) : qs <+: ps := by
  unfold dropLastName at h
  split at h
  · cases h
  · rename_i q before hq
    cases h
    have h1 : before.dropWhile (fun p => !names p) <:+ before := List.dropWhile_suffix _
    have h2 : before <:+ ps.reverse :=
      (List.suffix_cons q before).trans (hq ▸ List.dropWhile_suffix _)
    rw [← List.reverse_reverse ps]
    exact List.reverse_prefix.2 (h1.trans h2)

theorem named_pieces_ofPieces {ps : List (List Char)} (h : ∀ p ∈ ps, '/' ∉ p) :
    named (pieces (ofPieces ps).text.toList) = named ps := by
  unfold ofPieces
  rw [String.toList_ofList]
  by_cases hne : ps = []
  · subst hne; rfl
  · rw [pieces_intercalate h hne]

/-- The components of pieces put together, the first of which is not empty. -/
theorem components_ofPieces {p : List Char} {ps : List (List Char)} (h : ∀ q ∈ p :: ps, '/' ∉ q) (hne : p ≠ []) :
    (ofPieces (p :: ps)).components = (if p = ['.'] then [.current] else []) ++ named (p :: ps) := by
  refine componentsOf_of_pieces ?_ hne
  unfold ofPieces
  rw [String.toList_ofList, pieces_intercalate h (List.cons_ne_nil _ _)]

/-- Cutting the last name from pieces behind the root cuts the last component. -/
theorem components_directory_root (cs : List Char) :
    (((dropLastName (pieces cs)).map fun ps => (⟨"/" ++ (ofPieces ps).text⟩ : Path)).getD ⟨""⟩).components =
      (Component.root :: named (pieces cs)).dropLast := by
  cases hd : dropLastName (pieces cs) with
  | none => rw [named_of_dropLastName_eq_none hd]; rfl
  | some qs =>
    obtain ⟨c, hc⟩ := named_of_dropLastName hd
    have hqs : ∀ q ∈ qs, '/' ∉ q := fun q hq => slash_not_mem_of_mem_pieces q ((prefix_of_dropLastName hd).mem hq)
    rw [hc, ← List.cons_append, List.dropLast_concat, Option.map_some, Option.getD_some, components,
      String.toList_append]
    show Component.root :: named (pieces (ofPieces qs).text.toList) = _
    rw [named_pieces_ofPieces hqs]

/-- Cutting the last name from pieces behind a dot cuts the last component. -/
theorem components_directory_dot {ps : List (List Char)} (h : ∀ p ∈ ps, '/' ∉ p) :
    ((dropLastName ps).elim (⟨""⟩ : Path) fun qs => ofPieces (['.'] :: qs)).components =
      (Component.current :: named ps).dropLast := by
  cases hd : dropLastName ps with
  | none => rw [named_of_dropLastName_eq_none hd]; rfl
  | some qs =>
    obtain ⟨c, hc⟩ := named_of_dropLastName hd
    have hqs : ∀ q ∈ ['.'] :: qs, '/' ∉ q :=
      List.forall_mem_cons.2 ⟨by decide, fun q hq => h q ((prefix_of_dropLastName hd).mem hq)⟩
    rw [hc, ← List.cons_append, List.dropLast_concat, Option.elim_some, components_ofPieces hqs (by decide)]
    rfl

/-- Cutting the last name from pieces that open with a name cuts the last component. -/
theorem components_directory_name {p : List Char} {ps : List (List Char)} (h : ∀ q ∈ p :: ps, '/' ∉ q)
    (hne : p ≠ []) (hdot : p ≠ ['.']) :
    (((dropLastName (p :: ps)).map ofPieces).getD ⟨""⟩).components = (named (p :: ps)).dropLast := by
  cases hd : dropLastName (p :: ps) with
  | none => rw [named_of_dropLastName_eq_none hd]; rfl
  | some qs =>
    obtain ⟨c, hc⟩ := named_of_dropLastName hd
    rw [hc, List.dropLast_concat, Option.map_some, Option.getD_some]
    have hpre := prefix_of_dropLastName hd
    cases qs with
    | nil => rfl
    | cons q qs =>
      obtain rfl : q = p := (List.cons_prefix_cons.1 hpre).1
      rw [components_ofPieces (fun r hr => h r (hpre.mem hr)) hne, if_neg hdot]
      rfl

/-- The directory of a path has its components but the last. -/
theorem components_directory (p : Path) : (p.parent?.getD ⟨""⟩).components = p.components.dropLast := by
  -- Along the cases of the definition: behind the root, behind a dot, behind a name.
  unfold parent?
  split
  · rename_i cs htext
    rw [components_directory_root, components, htext]
    rfl
  · rename_i hroot
    have hps : ∀ q ∈ pieces p.text.toList, '/' ∉ q := slash_not_mem_of_mem_pieces
    split
    · rename_i ps hdot
      rw [hdot] at hps
      rw [Option.getD_some, components_directory_dot fun q hq => hps q (List.mem_cons_of_mem _ hq), components,
        componentsOf_of_pieces hdot (by decide)]
      rfl
    · rename_i hdot
      cases hcs : p.text.toList with
      | nil =>
        show _ = (componentsOf p.text.toList).dropLast
        rw [hcs]; rfl
      | cons c cs =>
        have hc : c ≠ '/' := fun hc => hroot cs (by rw [hcs, hc])
        obtain ⟨q, hq⟩ := head?_pieces_cons hc cs
        obtain ⟨ps, hcps⟩ := List.head?_eq_some_iff.1 hq
        have hne : c :: q ≠ ['.'] := fun h => hdot ps (by rw [hcs, hcps, h])
        rw [hcs, hcps] at hps
        rw [hcps, components_directory_name hps (List.cons_ne_nil _ _) hne, components, hcs,
          componentsOf_of_pieces hcps (List.cons_ne_nil _ _), if_neg hne]
        rfl

end SchemaClasses.Path
