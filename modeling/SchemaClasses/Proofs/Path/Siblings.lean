import SchemaClasses.Path.Relative
import SchemaClasses.Proofs.Path.Normal

/-!
# Files side by side

Two files of one directory import each other by name: the specifier of `<stem>.ts` is `./<stem>`
(`specifier_sibling`), and what a file of the directory imports by it is this very file (`imported_sibling`). A file of
a normal directory has a normal path (`normalize_join_name`). Whatever the files, a specifier between them opens with a
dot (`head?_specifier`).
-/

namespace SchemaClasses.Path

/-- The file that a file of a directory imports by a specifier. -/
def imported (directory : Path) (specifier : String) : Path := (directory.join ⟨specifier ++ ".ts"⟩).normalize

/-! ## The way to a sibling -/

theorem dropCommon_append_left {α : Type} [DecidableEq α] (as bs : List α) : dropCommon (as ++ bs) as = (bs, []) := by
  induction as with
  | nil => cases bs <;> rfl
  | cons a as ih => rw [List.cons_append, dropCommon, if_pos rfl, ih]

/-- The way from a directory to a file in it is the name of the file. -/
theorem relative_join_name {a base : Path} {n : String} (h : Component.Plain (.name n))
    (hbase : base.components = a.components) : (a.join ⟨n⟩).relative base = ⟨n⟩ := by
  have hfile : (a.join ⟨n⟩).normalize.components = reduce a.components ++ [.name n] := by
    rw [components_normalize, components_join_name a h, reduce_concat_name]
  have hdir : base.normalize.components = reduce a.components := by rw [components_normalize, hbase]
  have habs : (a.join ⟨n⟩).normalize.isAbsolute = base.normalize.isAbsolute := by
    refine isAbsolute_congr ?_
    rw [hfile, hdir]
    cases reduce a.components <;> simp
  have hway : way (reduce a.components ++ [.name n]) (reduce a.components) = [.name n] := by
    rw [way, dropCommon_append_left]
    rfl
  unfold relative
  rw [if_pos habs, hfile, hdir, hway]
  rfl

/-! ## Stems -/

/-- A file name before its extension: not empty, without slashes and dots. -/
structure Stem (s : String) : Prop where
  ne_nil : s.toList ≠ []
  slash_not_mem : '/' ∉ s.toList
  dot_not_mem : '.' ∉ s.toList

theorem toList_append_ts (s : String) : (s ++ ".ts").toList = s.toList ++ ['.', 't', 's'] := String.toList_append

namespace Stem

variable {s : String}

theorem plain (h : Stem s) : Component.Plain (.name (s ++ ".ts")) := by
  have hlen : 4 ≤ (s ++ ".ts").toList.length := by
    have := List.length_pos_iff.2 h.ne_nil
    rw [toList_append_ts, List.length_append]
    simp only [List.length_cons, List.length_nil]
    omega
  refine Component.plain_name ?_ ?_ ?_ ?_
  · rw [toList_append_ts]
    simpa using h.slash_not_mem
  all_goals
    intro he
    rw [he] at hlen
    simp at hlen

/-- Dropping the extension gives the stem. -/
theorem dropExtension_append (h : Stem s) : dropExtension (s ++ ".ts").toList = s.toList := by
  rw [toList_append_ts]
  have hdts : dropSuffix? ".d.ts".toList (s.toList ++ ['.', 't', 's']) = none := by
    refine if_neg fun ⟨as, has⟩ => ?_
    have hcancel : as ++ ['.', 'd'] ++ ['.', 't', 's'] = s.toList ++ ['.', 't', 's'] := by
      rw [List.append_assoc]; exact has
    exact h.dot_not_mem (List.append_cancel_right hcancel ▸ by simp)
  have hts : dropSuffix? ".ts".toList (s.toList ++ ['.', 't', 's']) = some s.toList := by
    have hsuffix : ".ts".toList <:+ s.toList ++ ['.', 't', 's'] := List.suffix_append s.toList ['.', 't', 's']
    unfold dropSuffix?
    rw [if_pos hsuffix]
    simp
  unfold dropExtension
  rw [hdts, Option.none_or, hts]
  rfl

/-- A stem is marked as relative by `./`. -/
theorem markRelative_eq (h : Stem s) : markRelative s.toList = '.' :: '/' :: s.toList := by
  have hno : ∀ {as : List Char}, '.' ∈ as → ¬as <+: s.toList := fun hmem hpre => h.dot_not_mem (hpre.mem hmem)
  have hmark : ¬("./".toList <+: s.toList ∨ "../".toList <+: s.toList) :=
    not_or.2 ⟨hno (by decide), hno (by decide)⟩
  have hparent : ¬s.toList = "..".toList := fun he => h.dot_not_mem (he ▸ by decide)
  unfold markRelative
  rw [if_neg hmark, if_neg hparent]
  rfl

end Stem

/-! ## Specifiers -/

/-- A way that is marked as relative says so by its first characters. -/
theorem markRelative_opens (s : List Char) : "./".toList <+: markRelative s ∨ "../".toList <+: markRelative s := by
  unfold markRelative
  split
  · assumption
  · split
    · exact Or.inr (List.prefix_refl _)
    · exact Or.inl (List.prefix_append _ _)

theorem head?_markRelative (s : List Char) : (markRelative s).head? = some '.' := by
  rcases markRelative_opens s with ⟨t, h⟩ | ⟨t, h⟩ <;> rw [← h] <;> rfl

theorem head?_specifier (src dst : Path) : (specifier src dst).toList.head? = some '.' := by
  unfold specifier
  rw [String.toList_ofList]
  exact head?_markRelative _

/-- A file of a directory is imported by its stem. -/
theorem specifier_sibling (a : Path) {n s : String} (hn : Component.Plain (.name n)) (hs : Stem s) :
    specifier (a.join ⟨n⟩) (a.join ⟨s ++ ".ts"⟩) = "./" ++ s := by
  have hdir : ((a.join ⟨n⟩).parent?.getD ⟨""⟩).components = a.components := by
    rw [components_directory, components_join_name a hn, List.dropLast_concat]
  have hslashed : slashed ⟨s ++ ".ts"⟩ = s ++ ".ts" := by
    unfold slashed
    rw [(components_name hs.plain).2.2]
    exact String.intercalate_singleton
  unfold specifier
  rw [relative_join_name hs.plain hdir, hslashed]
  simp only [hs.dropExtension_append, hs.markRelative_eq]
  apply String.toList_injective
  rw [String.toList_ofList, String.toList_append]
  rfl

/-- The specifier of a file leads back to it. -/
theorem imported_sibling (a : Path) {s : String} (hs : Stem s) :
    a.imported ("./" ++ s) = (a.join ⟨s ++ ".ts"⟩).normalize := by
  obtain ⟨hrel, -, hname⟩ := components_name hs.plain
  -- The specifier with its extension is the file seen from the directory `.`.
  have hdot : (⟨"./" ++ s ++ ".ts"⟩ : Path) = (⟨"."⟩ : Path).join ⟨s ++ ".ts"⟩ := by
    unfold join
    rw [if_neg (by rw [hrel]; exact Bool.false_ne_true), if_neg (by decide), String.append_assoc]
    rfl
  have hcomp : (⟨"./" ++ s ++ ".ts"⟩ : Path).components = [.current, .name (s ++ ".ts")] := by
    rw [hdot, components_join_name _ hs.plain]
    rfl
  have hdotrel : (⟨"./" ++ s ++ ".ts"⟩ : Path).isAbsolute = false := by
    rw [← Bool.not_eq_true, isAbsolute_iff, hcomp]
    simp
  unfold imported normalize reduce
  rw [foldl_push_join a hdotrel, foldl_push_join a hrel, hcomp, hname, List.foldl_cons, push_current]

/-! ## Normal directories -/

theorem intercalate_text_ne_empty {cs : List Component} (h : ∀ c ∈ cs, c.Plain) (hne : cs ≠ []) :
    "/".intercalate (cs.map Component.text) ≠ "" := by
  intro hempty
  have hpieces := pieces_intercalate_text h hne
  rw [hempty] at hpieces
  obtain ⟨c, hc, hnil⟩ : ∃ c ∈ cs, c.text.toList = [] := by
    have hmem : [] ∈ cs.map (·.text.toList) := by rw [← hpieces]; exact List.mem_cons_self
    exact List.mem_map.1 hmem
  exact (h c hc).text_ne_nil hnil

/-- Plain components written with slashes do not end in a slash. -/
theorem getLast?_intercalate_text {cs : List Component} (h : ∀ c ∈ cs, c.Plain) (hne : cs ≠ []) :
    ("/".intercalate (cs.map Component.text)).toList.getLast? ≠ some '/' := by
  intro hlast
  obtain ⟨as, has⟩ := List.getLast?_eq_some_iff.1 hlast
  have hpieces := pieces_intercalate_text h hne
  rw [has, pieces_append_slash] at hpieces
  have hmem : [] ∈ cs.map (·.text.toList) := by
    rw [← hpieces]
    exact List.mem_append_right _ (by simp [pieces])
  obtain ⟨c, hc, hnil⟩ := List.mem_map.1 hmem
  exact (h c hc).text_ne_nil hnil

theorem intercalate_concat {cs : List Component} (hne : cs ≠ []) (n : String) :
    "/".intercalate ((cs ++ [Component.name n]).map Component.text) =
      "/".intercalate (cs.map Component.text) ++ "/" ++ n := by
  rw [List.map_append, String.intercalate_append_of_ne_nil (by simpa using hne) (by simp)]
  exact congrArg _ String.intercalate_singleton

theorem mk_join {t : String} {b : Path} (hb : b.isAbsolute = false) (ht : t ≠ "")
    (hlast : t.toList.getLast? ≠ some '/') : (⟨t⟩ : Path).join b = ⟨t ++ "/" ++ b.text⟩ := by
  unfold join
  rw [if_neg (by rw [hb]; exact Bool.false_ne_true), if_neg (not_or.2 ⟨fun h => ht (String.isEmpty_iff.1 h), hlast⟩)]

/-- A name behind reduced components is written behind the path of these components. -/
theorem Reduced.ofComponents_concat_name {cs : List Component} (h : Reduced cs) {n : String}
    (hn : Component.Plain (.name n)) : ofComponents (cs ++ [.name n]) = (ofComponents cs).join ⟨n⟩ := by
  have hrel := (components_name hn).1
  obtain ⟨ds, hds, rfl | rfl⟩ := h
  · have hall : ∀ c ∈ cs ++ [.name n], c.Plain := List.forall_mem_append.2 ⟨hds, by simpa using hn⟩
    rw [ofComponents_plain hall, ofComponents_plain hds]
    by_cases hne : cs = []
    · subst hne
      rw [List.nil_append, List.map_nil, String.intercalate_nil, empty_join]
      exact congrArg Path.mk String.intercalate_singleton
    · rw [intercalate_concat hne,
        mk_join hrel (intercalate_text_ne_empty hds hne) (getLast?_intercalate_text hds hne)]
  · rw [List.cons_append, ofComponents, ofComponents]
    by_cases hne : ds = []
    · subst hne
      unfold join
      rw [if_neg (by rw [hrel]; exact Bool.false_ne_true), if_pos (Or.inr (by decide))]
      exact congrArg (fun t => Path.mk ("/" ++ t)) String.intercalate_singleton
    · have htext := intercalate_text_ne_empty hds hne
      have hlast := getLast?_intercalate_text hds hne
      rw [intercalate_concat hne]
      generalize "/".intercalate (ds.map Component.text) = t at htext hlast ⊢
      have hcons : ("/" ++ t).toList = '/' :: t.toList := by rw [String.toList_append]; rfl
      have hne' : "/" ++ t ≠ "" := fun h => by
        have := congrArg String.toList h
        rw [hcons] at this
        cases this
      have hlast' : ("/" ++ t).toList.getLast? ≠ some '/' := by
        rw [hcons, List.getLast?_cons_of_ne_nil fun h => htext (String.toList_eq_nil_iff.1 h)]
        exact hlast
      rw [mk_join hrel hne' hlast', String.append_assoc, String.append_assoc, String.append_assoc]

/-- A file of a normal directory has a normal path. -/
theorem normalize_join_name {a : Path} {n : String} (h : Component.Plain (.name n)) (ha : a.normalize = a) :
    (a.join ⟨n⟩).normalize = a.join ⟨n⟩ := by
  have hcat := (reduced_reduce a).ofComponents_concat_name h
  rw [← reduce_concat_name, ← components_join_name a h] at hcat
  have ha' : ofComponents (reduce a.components) = a := ha
  rw [ha'] at hcat
  exact hcat

end SchemaClasses.Path
