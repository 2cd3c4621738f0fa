import SchemaClasses.Layout.Client
import SchemaClasses.Proofs.Path.Components

/-!
# Taking a part out of names

A part without slashes, with a slash behind it, can be found in names between slashes only where one of them ends in the
part (`EndsIn`) and another follows. So names stay as they are if none before the last ends in the part
(`removeFirst_intercalate_keep`); else the first that does loses it and becomes one with the next name
(`removeFirst_intercalate_cut`), which makes another text (`intercalate_cut_ne`). One of the two is always the case
(`exists_first_endsIn`).
-/

namespace SchemaClasses

/-! ## Cutting a piece short -/

section Cut

variable {part piece : List Char}

/-- A part that stands first is what is removed. -/
theorem removeFirst_append (part rest : List Char) : removeFirst part (part ++ rest) = rest := by
  cases h : part ++ rest with
  | nil => rw [(List.append_eq_nil_iff.1 h).2]; rfl
  | cons c cs =>
    rw [removeFirst, if_pos ⟨rest, h⟩, ← h, List.drop_left]

theorem removeFirst_cons_of_not {c : Char} {cs : List Char} (h : ¬part <+: c :: cs) :
    removeFirst part (c :: cs) = c :: removeFirst part cs := if_neg h

/-- Before the first slash of a text is its first piece. -/
theorem eq_of_isPrefix_slash (hpart : '/' ∉ part) (hpiece : '/' ∉ piece) {rest : List Char}
    (h : part ++ ['/'] <+: piece ++ '/' :: rest) : part = piece := by
  obtain ⟨more, h⟩ := h
  have hpieces : [part] ++ Path.pieces more = [piece] ++ Path.pieces rest := by
    rw [← Path.pieces_of_slash_not_mem hpart, ← Path.pieces_of_slash_not_mem hpiece, ← Path.pieces_append_slash,
      ← Path.pieces_append_slash, ← h, List.append_assoc]
    rfl
  exact (List.cons.inj hpieces).1

/-- A piece that does not end in the part stays with its slash. -/
theorem removeFirst_piece (hpart : '/' ∉ part) (hpiece : '/' ∉ piece) (h : ¬part <:+ piece) (rest : List Char) :
    removeFirst (part ++ ['/']) (piece ++ '/' :: rest) = piece ++ '/' :: removeFirst (part ++ ['/']) rest := by
  induction piece with
  | nil =>
    exact removeFirst_cons_of_not fun hpre => h (eq_of_isPrefix_slash hpart hpiece hpre ▸ List.suffix_refl _)
  | cons c piece ih =>
    have hno : ¬part ++ ['/'] <+: c :: (piece ++ '/' :: rest) := fun hpre =>
      h (eq_of_isPrefix_slash hpart hpiece hpre ▸ List.suffix_refl _)
    have htail : ¬part <:+ piece := fun hsuffix => h (hsuffix.trans (List.suffix_cons c piece))
    rw [List.cons_append, removeFirst_cons_of_not hno, ih (List.not_mem_of_not_mem_cons hpiece) htail]
    rfl

/-- A piece that ends in the part loses it, and the slash behind it. -/
theorem removeFirst_stem {stem : List Char} (hpart : '/' ∉ part) (hstem : '/' ∉ stem) (rest : List Char) :
    removeFirst (part ++ ['/']) (stem ++ part ++ '/' :: rest) = stem ++ rest := by
  induction stem with
  | nil =>
    have hfirst : [] ++ part ++ '/' :: rest = part ++ ['/'] ++ rest := by simp
    rw [hfirst, removeFirst_append]
    rfl
  | cons c stem ih =>
    -- Before the end of the piece there is no room for the part.
    have hno : ¬part ++ ['/'] <+: c :: (stem ++ part ++ '/' :: rest) := fun hpre => by
      have hpiece : '/' ∉ c :: stem ++ part := fun hmem => (List.mem_append.1 hmem).elim hstem hpart
      have hlength := congrArg List.length (eq_of_isPrefix_slash hpart hpiece hpre)
      rw [List.length_append, List.length_cons] at hlength
      omega
    rw [List.cons_append, List.cons_append, removeFirst_cons_of_not hno, ih (List.not_mem_of_not_mem_cons hstem)]
    rfl

/-- The part and its slash are not in a text without slashes. -/
theorem removeFirst_last (hpiece : '/' ∉ piece) : removeFirst (part ++ ['/']) piece = piece := by
  induction piece with
  | nil => rfl
  | cons c piece ih =>
    have hno : ¬part ++ ['/'] <+: c :: piece := fun hpre => hpiece (hpre.mem (by simp))
    rw [removeFirst_cons_of_not hno, ih (List.not_mem_of_not_mem_cons hpiece)]

end Cut

/-! ## Cutting a name short -/

/-- A name that is a part, or ends in it. -/
def EndsIn (part name : String) : Prop := ∃ stem, name = stem ++ part

theorem endsIn_iff {part name : String} : EndsIn part name ↔ part.toList <:+ name.toList := by
  constructor
  · rintro ⟨stem, rfl⟩
    rw [String.toList_append]
    exact List.suffix_append _ _
  · rintro ⟨stem, h⟩
    refine ⟨String.ofList stem, String.toList_injective ?_⟩
    rw [String.toList_append, String.toList_ofList, h]

instance {part name : String} : Decidable (EndsIn part name) := decidable_of_iff _ endsIn_iff.symm

section Names

variable {part : String} {names : List String}

theorem toList_intercalate_cons (n : String) (h : names ≠ []) :
    ("/".intercalate (n :: names)).toList = n.toList ++ '/' :: ("/".intercalate names).toList := by
  rw [String.intercalate_cons_of_ne_nil h, String.toList_append, String.toList_append, List.append_assoc]
  rfl

/-- Names stay as they are if none before the last ends in the part. -/
theorem removeFirst_intercalate_keep (hpart : '/' ∉ part.toList) (hnames : ∀ n ∈ names, '/' ∉ n.toList)
    (h : ∀ n ∈ names.dropLast, ¬EndsIn part n) :
    removeFirst (part.toList ++ ['/']) ("/".intercalate names).toList = ("/".intercalate names).toList := by
  induction names with
  | nil => rfl
  | cons n names ih =>
    obtain ⟨hn, hnames⟩ := List.forall_mem_cons.1 hnames
    cases names with
    | nil =>
      rw [String.intercalate_singleton]
      exact removeFirst_last hn
    | cons m names =>
      rw [List.dropLast_cons_cons] at h
      obtain ⟨hend, h⟩ := List.forall_mem_cons.1 h
      rw [toList_intercalate_cons n (List.cons_ne_nil m names), removeFirst_piece hpart hn ((not_congr endsIn_iff).1 hend),
        ih hnames h]

/-- The first name that ends in the part loses it, and is one with the name behind it. -/
theorem removeFirst_intercalate_cut (hpart : '/' ∉ part.toList) {before after : List String} {stem next : String}
    (hnames : ∀ n ∈ before ++ (stem ++ part) :: next :: after, '/' ∉ n.toList) (h : ∀ n ∈ before, ¬EndsIn part n) :
    removeFirst (part.toList ++ ['/']) ("/".intercalate (before ++ (stem ++ part) :: next :: after)).toList =
      ("/".intercalate (before ++ (stem ++ next) :: after)).toList := by
  induction before with
  | nil =>
    have hstem : '/' ∉ stem.toList := fun hmem =>
      hnames (stem ++ part) List.mem_cons_self (by rw [String.toList_append]; exact List.mem_append_left _ hmem)
    rw [List.nil_append, List.nil_append, toList_intercalate_cons _ (List.cons_ne_nil next after), String.toList_append,
      removeFirst_stem hpart hstem]
    by_cases hafter : after = []
    · subst hafter
      rw [String.intercalate_singleton, String.intercalate_singleton, String.toList_append]
    · rw [toList_intercalate_cons _ hafter, toList_intercalate_cons _ hafter, String.toList_append, List.append_assoc]
  | cons n before ih =>
    obtain ⟨hn, hnames⟩ := List.forall_mem_cons.1 hnames
    obtain ⟨hend, h⟩ := List.forall_mem_cons.1 h
    rw [List.cons_append, List.cons_append, toList_intercalate_cons n (by simp), toList_intercalate_cons n (by simp),
      removeFirst_piece hpart hn ((not_congr endsIn_iff).1 hend), ih hnames h]

/-- No name before the last ends in the part, or there is a first one that does. -/
theorem exists_first_endsIn (part : String) (names : List String) : (∀ n ∈ names.dropLast, ¬EndsIn part n) ∨
    ∃ before stem next after, names = before ++ (stem ++ part) :: next :: after ∧ ∀ n ∈ before, ¬EndsIn part n := by
  induction names with
  | nil => exact Or.inl fun n hn => absurd hn List.not_mem_nil
  | cons n names ih =>
    cases names with
    | nil => exact Or.inl fun n hn => absurd hn List.not_mem_nil
    | cons m names =>
      by_cases hend : EndsIn part n
      · obtain ⟨stem, rfl⟩ := hend
        exact Or.inr ⟨[], stem, m, names, rfl, fun n hn => absurd hn List.not_mem_nil⟩
      · rcases ih with h | ⟨before, stem, next, after, hsplit, h⟩
        · rw [List.dropLast_cons_cons]
          exact Or.inl (List.forall_mem_cons.2 ⟨hend, h⟩)
        · exact Or.inr ⟨n :: before, stem, next, after, by rw [hsplit]; rfl, List.forall_mem_cons.2 ⟨hend, h⟩⟩

/-- Names of which one is not empty make a text. -/
theorem intercalate_ne_empty {n : String} (hn : n ∈ names) (hne : n ≠ "") : "/".intercalate names ≠ "" := by
  cases names with
  | nil => cases hn
  | cons m names =>
    by_cases hnames : names = []
    · subst hnames
      rw [String.intercalate_singleton, ← List.mem_singleton.1 hn]
      exact hne
    · intro hempty
      have htext := toList_intercalate_cons m hnames
      rw [hempty] at htext
      exact absurd htext.symm (by simp)

/-- Names between slashes are found again. -/
theorem pieces_intercalate_names (hnames : ∀ n ∈ names, '/' ∉ n.toList) (hne : names ≠ []) :
    Path.pieces ("/".intercalate names).toList = names.map String.toList := by
  have hpieces : ∀ p ∈ names.map String.toList, '/' ∉ p := by
    intro p hp
    obtain ⟨n, hn, rfl⟩ := List.mem_map.1 hp
    exact hnames n hn
  rw [String.toList_intercalate]
  exact Path.pieces_intercalate hpieces (by simpa using hne)

/-- Where two names become one, the text is another. -/
theorem intercalate_cut_ne {before after : List String} {stem next : String}
    (hnames : ∀ n ∈ before ++ (stem ++ part) :: next :: after, '/' ∉ n.toList) :
    "/".intercalate (before ++ (stem ++ next) :: after) ≠
      "/".intercalate (before ++ (stem ++ part) :: next :: after) := by
  have hcut : ∀ n ∈ before ++ (stem ++ next) :: after, '/' ∉ n.toList := by
    intro n hn
    rcases List.mem_append.1 hn with hn | hn
    · exact hnames n (List.mem_append_left _ hn)
    · rcases List.mem_cons.1 hn with rfl | hn
      · have hstem := hnames (stem ++ part) (by simp)
        have hnext := hnames next (by simp)
        rw [String.toList_append] at hstem ⊢
        exact fun hmem => (List.mem_append.1 hmem).elim (fun h => hstem (List.mem_append_left _ h)) hnext
      · exact hnames n (by simp [hn])
  intro heq
  -- One piece is missing.
  have hpieces := congrArg (fun s => (Path.pieces s.toList).length) heq
  rw [pieces_intercalate_names hcut (by simp), pieces_intercalate_names hnames (by simp)] at hpieces
  simp only [List.length_map, List.length_append, List.length_cons] at hpieces
  omega

end Names

end SchemaClasses
