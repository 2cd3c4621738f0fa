import SchemaClasses.Proofs.Path.Siblings
import SchemaClasses.Proofs.Path.Ways

/-!
# Specifiers between any two files

The text of a way ends in the name of the file it leads to, and only this name can lose an extension
(`dropExtension_behind_slash`): what is left of it is its bare name (`IsBare`, `isBare_dropExtension`). To mark a way as
relative does not change where it leads (`foldl_push_markRelative`). So the specifier of a file leads from the directory
of the importing file to the bare path of this file (`specifier_reaches`).
-/

namespace SchemaClasses.Path

/-! ## Bare names -/

/-- The name of a file without `.d.ts`, or else without `.ts`, if it ends so. -/
def IsBare (bare name : String) : Prop :=
  name = bare ++ ".d.ts" ∨
    ¬".d.ts".toList <:+ name.toList ∧ (name = bare ++ ".ts" ∨ ¬".ts".toList <:+ name.toList ∧ name = bare)

theorem dropSuffix?_append (suffix s : List Char) : dropSuffix? suffix (s ++ suffix) = some s := by
  unfold dropSuffix?
  rw [if_pos (List.suffix_append s suffix), List.length_append, Nat.add_sub_cancel, List.take_left]

theorem dropSuffix?_cases (suffix s : List Char) :
    ¬suffix <:+ s ∧ dropSuffix? suffix s = none ∨ ∃ bare, s = bare ++ suffix ∧ dropSuffix? suffix s = some bare := by
  by_cases h : suffix <:+ s
  · obtain ⟨bare, rfl⟩ := h
    exact Or.inr ⟨bare, rfl, dropSuffix?_append suffix bare⟩
  · exact Or.inl ⟨h, if_neg h⟩

/-- What is left of a name is its bare name. -/
theorem isBare_dropExtension (name : String) : IsBare (String.ofList (dropExtension name.toList)) name := by
  have hname {bare : List Char} {suffix : String} (h : name.toList = bare ++ suffix.toList) :
      name = String.ofList bare ++ suffix := by
    apply String.toList_injective
    rw [h, String.toList_append, String.toList_ofList]
  unfold dropExtension
  rcases dropSuffix?_cases ".d.ts".toList name.toList with ⟨hno, hnone⟩ | ⟨bare, hbare, hsome⟩
  · rcases dropSuffix?_cases ".ts".toList name.toList with ⟨hno', hnone'⟩ | ⟨bare, hbare, hsome⟩
    · rw [hnone, hnone']
      exact Or.inr ⟨hno, Or.inr ⟨hno', String.ofList_toList.symm⟩⟩
    · rw [hnone, hsome]
      exact Or.inr ⟨hno, Or.inl (hname hbare)⟩
  · rw [hsome]
    exact Or.inl (hname hbare)

theorem prefix_dropExtension (s : List Char) : dropExtension s <+: s := by
  unfold dropExtension
  rcases dropSuffix?_cases ".d.ts".toList s with ⟨-, hnone⟩ | ⟨bare, hbare, hsome⟩
  · rcases dropSuffix?_cases ".ts".toList s with ⟨-, hnone'⟩ | ⟨bare, hbare, hsome⟩
    · rw [hnone, hnone']
      exact List.prefix_refl _
    · rw [hnone, hsome, hbare]
      exact List.prefix_append _ _
  · rw [hsome, hbare]
    exact List.prefix_append _ _

/-! ## Names behind slashes -/

/-- A suffix without slashes lies behind the last slash. -/
theorem suffix_behind_slash {suffix : List Char} (h : '/' ∉ suffix) (front name : List Char) :
    suffix <:+ front ++ '/' :: name ↔ suffix <:+ name := by
  constructor
  · intro hsuffix
    by_cases hlength : suffix.length ≤ name.length
    · have hname : name <:+ front ++ '/' :: name := ⟨front ++ ['/'], by simp⟩
      exact List.suffix_of_suffix_length_le hsuffix hname hlength
    · -- A longer suffix would hold the slash.
      have hslash : '/' :: name <:+ suffix :=
        List.suffix_of_suffix_length_le ⟨front, rfl⟩ hsuffix (by rw [List.length_cons]; omega)
      exact absurd (hslash.mem List.mem_cons_self) h
  · exact fun hsuffix => hsuffix.trans ⟨front ++ ['/'], by simp⟩

theorem dropSuffix?_behind_slash {suffix : List Char} (h : '/' ∉ suffix) (front name : List Char) :
    dropSuffix? suffix (front ++ '/' :: name) = (dropSuffix? suffix name).map (front ++ '/' :: ·) := by
  rcases dropSuffix?_cases suffix name with ⟨hno, hnone⟩ | ⟨bare, rfl, hsome⟩
  · rw [hnone, dropSuffix?, if_neg ((suffix_behind_slash h front name).not.2 hno)]
    rfl
  · have hassoc : front ++ '/' :: (bare ++ suffix) = (front ++ '/' :: bare) ++ suffix := by simp
    rw [hsome, hassoc, dropSuffix?_append]
    rfl

theorem dropExtension_behind_slash (front name : List Char) :
    dropExtension (front ++ '/' :: name) = front ++ '/' :: dropExtension name := by
  unfold dropExtension
  rw [dropSuffix?_behind_slash (by decide), dropSuffix?_behind_slash (by decide), ← Option.map_or]
  cases (dropSuffix? ".d.ts".toList name).or (dropSuffix? ".ts".toList name) <;> rfl

/-- Components written with slashes. -/
def written (cs : List Component) : List Char := ("/".intercalate (cs.map Component.text)).toList

/-- Of components written with slashes only the last name can lose an extension. -/
theorem dropExtension_written (cs : List Component) (name : String) : dropExtension (written (cs ++ [.name name])) =
    written (cs ++ [.name (String.ofList (dropExtension name.toList))]) := by
  by_cases hcs : cs = []
  · subst hcs
    have hsingle (n : String) : written ([] ++ [Component.name n]) = n.toList :=
      congrArg String.toList String.intercalate_singleton
    rw [hsingle, hsingle, String.toList_ofList]
  · have hsplit (n : String) : written (cs ++ [Component.name n]) = written cs ++ '/' :: n.toList := by
      unfold written
      rw [intercalate_concat hcs, String.toList_append, String.toList_append, List.append_assoc]
      rfl
    rw [hsplit, hsplit, dropExtension_behind_slash, String.toList_ofList]

/-! ## Marked ways -/

section Marked

variable {cs : List Component} {name : String}

/-- A way that ends in a name is marked by nothing or by `./`. -/
theorem markRelative_written (h : ∀ c ∈ cs ++ [Component.name name], c.Plain) :
    markRelative (written (cs ++ [.name name])) = written (cs ++ [.name name]) ∨
      markRelative (written (cs ++ [.name name])) = "./".toList ++ written (cs ++ [.name name]) := by
  unfold markRelative
  split
  · exact Or.inl rfl
  · split
    · -- Of one piece, such a way is its name.
      rename_i hparent
      have hpieces : pieces (written (cs ++ [.name name])) = (cs ++ [Component.name name]).map (·.text.toList) :=
        pieces_intercalate_text h (by simp)
      have hname : name.toList ∈ pieces (written (cs ++ [.name name])) := by
        rw [hpieces]
        exact List.mem_map.2 ⟨.name name, by simp, rfl⟩
      rw [hparent] at hname
      have hdots : name.toList = ['.', '.'] := by simpa [pieces] using hname
      have hplain := (h (.name name) (by simp)).2
      rw [show (Component.name name).text.toList = ['.', '.'] from hdots] at hplain
      cases hplain
    · exact Or.inr rfl

/-- A marked way leads where the way leads. -/
theorem foldl_push_markRelative (h : ∀ c ∈ cs ++ [Component.name name], c.Plain) :
    (⟨String.ofList (markRelative (written (cs ++ [.name name])))⟩ : Path).isAbsolute = false ∧
      ∀ st, (⟨String.ofList (markRelative (written (cs ++ [.name name])))⟩ : Path).components.foldl push st =
        (cs ++ [Component.name name]).foldl push st := by
  have hway : (⟨String.ofList (written (cs ++ [.name name]))⟩ : Path) = ofComponents (cs ++ [.name name]) := by
    rw [ofComponents_plain h, written, String.ofList_toList]
  have hrel : (ofComponents (cs ++ [.name name])).isAbsolute = false := by
    rw [← Bool.not_eq_true, isAbsolute_iff, components_ofComponents h]
    exact head?_ne_root h
  rcases markRelative_written h with hmark | hmark
  · rw [hmark, hway, components_ofComponents h]
    exact ⟨hrel, fun _ => rfl⟩
  · -- The mark is the directory `.`.
    have hmarked : (⟨String.ofList (markRelative (written (cs ++ [.name name])))⟩ : Path) =
        (⟨"."⟩ : Path).join (ofComponents (cs ++ [.name name])) := by
      rw [← hway] at hrel ⊢
      rw [mk_join hrel (by decide) (by decide), hmark, String.ofList_append]
      rfl
    have hcs : (⟨String.ofList (markRelative (written (cs ++ [.name name])))⟩ : Path).components =
        .current :: (ofComponents (cs ++ [.name name])).steps := by
      rw [hmarked, components_join (by decide) hrel]
      rfl
    refine ⟨?_, fun st => ?_⟩
    · rw [← Bool.not_eq_true, isAbsolute_iff, hcs]
      simp
    · rw [hcs, List.foldl_cons, push_current, ← foldl_push_relative hrel, components_ofComponents h]

end Marked

/-! ## Specifiers -/

/-- The directory of an absolute file is absolute. -/
theorem isAbsolute_of_parent {p dir : Path} (hp : p.isAbsolute = true) (hdir : p.parent? = some dir) :
    dir.isAbsolute = true := by
  unfold isAbsolute at hp
  unfold parent? at hdir
  split at hdir
  · obtain ⟨ps, -, rfl⟩ := Option.map_eq_some_iff.1 hdir
    unfold isAbsolute
    rw [String.toList_append]
    rfl
  · rename_i hroot
    cases hcs : p.text.toList with
    | nil => rw [hcs] at hp; cases hp
    | cons c cs =>
      rw [hcs, rooted_cons, decide_eq_true_eq] at hp
      exact absurd (hp ▸ hcs) (hroot cs)

/-- The way from an absolute directory to an absolute path that is not above it: up by the names that are not shared,
and down by names, of which there is one at least. -/
theorem exists_way_to_file {dst dir : Path} (hdst : dst.isAbsolute = true) (hdir : dir.isAbsolute = true)
    (hout : ¬dst.normalize.components <+: dir.normalize.components) :
    ∃ (climbs : Nat) (kept left dirs : List String) (name : String),
      dir.normalize.components = descent true climbs (kept ++ left) ∧
      dst.normalize.components = .root :: (kept ++ dirs ++ [name]).map .name ∧
      (dst.relative dir).components = descent false left.length (dirs ++ [name]) := by
  obtain ⟨climbs, names', hbase⟩ := components_normalize_eq_descent dir
  obtain ⟨climbs', names, htarget⟩ := components_normalize_eq_descent dst
  rw [hdir] at hbase
  rw [hdst] at htarget
  have hground : true = false → climbs ≤ climbs' := nofun
  obtain ⟨kept, left, down, rfl, hsplit, hway, hshared⟩ := exists_meet hground names' names
  obtain ⟨steps, more, rfl, hsteps⟩ := eq_descent_of_append hground hsplit
  obtain rfl := hsteps rfl
  rcases List.eq_nil_or_concat more with rfl | ⟨dirs, name, rfl⟩
  · -- Without a name to come down by, the path would be above the directory.
    refine absurd ?_ hout
    rw [hbase, htarget, hsplit, show descent false 0 [] = [] from rfl, List.append_nil]
    exact hshared.right
  · rw [List.concat_eq_append] at hsplit hway
    refine ⟨climbs, kept, left, dirs, name, hbase, ?_, ?_⟩
    · rw [htarget, hsplit, descent_true, List.append_assoc, List.map_append]
      rfl
    · rw [components_relative (by rw [hdst, hdir]), htarget, hbase, hway]
      rfl

/-- The components of a relative way are plain. -/
theorem plain_of_relative {p base : Path} {steps : Nat} {names : List String}
    (h : (p.relative base).components = descent false steps names) : ∀ c ∈ descent false steps names, c.Plain := by
  have hrel := isAbsolute_of_descent h
  obtain ⟨ds, hds, hcs | hcs⟩ := reduced_relative p base
  · exact h ▸ hcs ▸ hds
  · rw [← Bool.not_eq_true, isAbsolute_iff, hcs] at hrel
    exact absurd rfl hrel

theorem plain_bare {name : String} (h : Component.Plain (.name name)) {bare : String}
    (hbare : bare = String.ofList (dropExtension name.toList)) (hempty : bare ≠ "") (hdot : bare ≠ ".")
    (hdots : bare ≠ "..") : Component.Plain (.name bare) := by
  have hslash : '/' ∉ bare.toList := by
    rw [hbare, String.toList_ofList]
    exact fun hmem => h.1 ((prefix_dropExtension name.toList).mem hmem)
  exact Component.plain_name hslash (fun h => hempty (String.toList_eq_nil_iff.1 h))
    (fun h => hdot (String.toList_injective h)) (fun h => hdots (String.toList_injective h))

/-- The characters of a relative way with slashes. -/
theorem toList_slashed {q : Path} {steps : Nat} {names : List String} (h : q.components = descent false steps names) :
    q.slashed.toList = written (descent false steps names) := by
  have hroot : .root ∉ q.components := by
    rw [h]
    intro hmem
    rcases List.mem_append.1 hmem with hmem | hmem
    · cases (List.mem_replicate.1 hmem).2
    · obtain ⟨_, -, hname⟩ := List.mem_map.1 hmem
      cases hname
  rw [slashed_eq hroot, h]
  rfl

theorem toList_specifier (src dst : Path) : (specifier src dst).toList =
    markRelative (dropExtension (dst.relative (src.parent?.getD ⟨""⟩)).slashed.toList) := String.toList_ofList

/-- Where the specifier of a file leads, if its bare name is a name. -/
theorem normalize_join_specifier {src dst dir : Path} {climbs : Nat} {kept left dirs : List String} {name bare : String}
    (hdir : src.parent? = some dir) (hbase : dir.normalize.components = descent true climbs (kept ++ left))
    (hway : (dst.relative dir).components = descent false left.length (dirs ++ [name]))
    (hbare : bare = String.ofList (dropExtension name.toList)) (hplain : Component.Plain (.name bare)) :
    (dir.join ⟨specifier src dst⟩).normalize = ofComponents (.root :: (kept ++ dirs ++ [bare]).map .name) := by
  have hdown : descent false left.length (dirs ++ [bare]) = descent false left.length dirs ++ [.name bare] :=
    descent_append ..
  have hall : ∀ c ∈ descent false left.length dirs ++ [.name bare], c.Plain := by
    have hwayPlain := plain_of_relative hway
    rw [descent_append, List.forall_mem_append] at hwayPlain
    exact List.forall_mem_append.2 ⟨hwayPlain.1, List.forall_mem_singleton.2 hplain⟩
  have hspecifier : specifier src dst =
      String.ofList (markRelative (written (descent false left.length dirs ++ [.name bare]))) := by
    apply String.toList_injective
    rw [toList_specifier, hdir, Option.getD_some, toList_slashed hway, descent_append,
      show [name].map Component.name = [.name name] from rfl, dropExtension_written, ← hbare, String.toList_ofList]
  obtain ⟨hrel, hfold⟩ := foldl_push_markRelative hall
  rw [← hspecifier, ← hdown] at hfold
  rw [← hspecifier] at hrel
  rw [normalize_eq_ofComponents, components_join_descent hbase hrel hfold, List.length_append, Nat.add_sub_cancel,
    List.take_left, descent_true, List.append_assoc]

/-- **Specifiers reach their files**: a specifier opens with `./` or `../`, and leads from the directory of an absolute
file to the normal path of any absolute file that is not this directory or above it, with its bare name for the last
component, unless this is no name. -/
theorem specifier_reaches {src dst dir : Path} (hsrc : src.isAbsolute = true) (hdir : src.parent? = some dir)
    (hdst : dst.isAbsolute = true) (hout : ¬dst.normalize.components <+: dir.normalize.components) :
    ("./".toList <+: (specifier src dst).toList ∨ "../".toList <+: (specifier src dst).toList) ∧
      ∃ (dirs : List String) (name bare : String),
        dst.normalize.components = .root :: (dirs ++ [name]).map .name ∧ IsBare bare name ∧
          (bare ≠ "" → bare ≠ "." → bare ≠ ".." →
            (dir.join ⟨specifier src dst⟩).normalize = ofComponents (.root :: (dirs ++ [bare]).map .name)) := by
  constructor
  · rw [toList_specifier]
    exact markRelative_opens _
  obtain ⟨climbs, kept, left, dirs, name, hbase, htarget, hway⟩ :=
    exists_way_to_file hdst (isAbsolute_of_parent hsrc hdir) hout
  obtain ⟨bare, hbare⟩ : ∃ bare, bare = String.ofList (dropExtension name.toList) := ⟨_, rfl⟩
  refine ⟨kept ++ dirs, name, bare, htarget, hbare ▸ isBare_dropExtension name, fun hempty hdot hdots => ?_⟩
  have hname : Component.Plain (.name name) :=
    plain_of_relative hway _ (List.mem_append_right _ (List.mem_map_of_mem (by simp)))
  exact normalize_join_specifier hdir hbase hway hbare (plain_bare hname hbare hempty hdot hdots)

/-- A declaration file in a directory beside the importing one. -/
theorem specifier_reaches_beside :
    specifier ⟨"/out/./models//post.ts"⟩ ⟨"/out/models/../a b/user.d.ts"⟩ = "../a b/user" ∧
      ((⟨"/out/./models"⟩ : Path).join ⟨"../a b/user"⟩).normalize = ⟨"/out/a b/user"⟩ := by
  have hspecifier : specifier ⟨"/out/./models//post.ts"⟩ ⟨"/out/models/../a b/user.d.ts"⟩ = "../a b/user" := by
    decide +kernel
  have hdst : (⟨"/out/models/../a b/user.d.ts"⟩ : Path).normalize.components =
      .root :: (["out", "a b"] ++ ["user.d.ts"]).map .name := by decide +kernel
  obtain ⟨-, dirs, name, bare, hpath, hbare, hreaches⟩ :=
    @specifier_reaches ⟨"/out/./models//post.ts"⟩ ⟨"/out/models/../a b/user.d.ts"⟩ ⟨"/out/./models"⟩ (by decide)
      (by decide +kernel) (by decide) (by decide +kernel)
  have hnames : dirs ++ [name] = ["out", "a b"] ++ ["user.d.ts"] :=
    (List.map_inj_right fun _ _ => Component.name.inj).1 (List.cons.inj (hpath.symm.trans hdst)).2
  obtain ⟨rfl, hname⟩ := List.append_inj' hnames rfl
  obtain rfl : name = "user.d.ts" := (List.cons.inj hname).1
  obtain rfl : bare = "user" := by
    rcases hbare with h | ⟨hno, -⟩
    · have htext : "user".toList ++ ".d.ts".toList = bare.toList ++ ".d.ts".toList := by
        rw [← String.toList_append, ← String.toList_append, ← h]
        rfl
      exact (String.toList_injective (List.append_cancel_right htext)).symm
    · exact absurd (by decide) hno
  rw [hspecifier] at hreaches
  exact ⟨hspecifier, (hreaches (by decide) (by decide) (by decide)).trans (by decide +kernel)⟩

end SchemaClasses.Path
