import SchemaClasses.Proofs.FileSystem.Places
import SchemaClasses.Proofs.Ordered.Lookup

/-!
# Writes

To write a file is to make the directories above it that are missing and to put a text where its path leads; all else
stays as it is (`FileSystem.Stored`, `stored_of_writeFile`). Where this fails, nothing but directories was made
(`grown_of_writeFile`). Files that are written one after another (`FileSystem.Writes`) keep what was there, so

* each path has the text of the last file at its place (`Writes.read`),
* every other place is spared (`Writes.spares`),
* to write the same files again changes nothing (`Writes.writeAll_again`).
-/

namespace SchemaClasses

/-- A path is above another if it is its parent or above its parent. -/
inductive Path.IsAbove : Path → Path → Prop
  | parent {p q : Path} (h : p.parent? = some q) : IsAbove q p
  | up {p q r : Path} (h : p.parent? = some q) (hr : IsAbove r q) : IsAbove r p

theorem Path.isAbove_of_parent {p q : Path} (h : p.parent? = some q) (r : Path) (hr : r = q ∨ r.IsAbove q) :
    r.IsAbove p := by
  rcases hr with rfl | hr
  · exact .parent h
  · exact .up h hr

namespace FileSystem

variable {fs mid fs' : FileSystem} {p q : Path} {place other : Place} {t : Target} {text : String}
  {files before after : List (Path × String)} {P Q R : Path → Prop}

/-! ## New directories -/

/-- What lies at a place stays, or the place was free and is now a directory to which a path of a kind leads. -/
def Spares (fs : FileSystem) (P : Path → Prop) (fs' : FileSystem) (place : Place) : Prop :=
  fs'.get? place = fs.get? place ∨
    fs.get? place = none ∧ fs'.get? place = some .directory ∧ ∃ q, P q ∧ fs'.Leads q place

namespace Spares

theorem get?_of_some (h : fs.Spares P fs' place) {e : Entry} (he : fs.get? place = some e) :
    fs'.get? place = some e := by
  rcases h with h | ⟨hnone, -, -⟩
  · rw [h, he]
  · rw [hnone] at he
    cases he

theorem mono (h : fs.Spares P fs' place) (hP : ∀ q, P q → Q q) : fs.Spares Q fs' place :=
  h.imp_right fun ⟨hnone, hdir, q, hq, hleads⟩ => ⟨hnone, hdir, q, hP q hq, hleads⟩

theorem trans (h : fs.Spares P mid place) (h' : mid.Spares Q fs' place) (hkeeps : mid.Keeps fs')
    (hP : ∀ q, P q → R q) (hQ : ∀ q, Q q → R q) : fs.Spares R fs' place := by
  rcases h' with h' | ⟨hnone, hdir, q, hq, hleads⟩
  · rcases h with h | ⟨hnone, hdir, q, hq, hleads⟩
    · exact Or.inl (h'.trans h)
    · exact Or.inr ⟨hnone, h'.trans hdir, q, hP q hq, hkeeps.leads hleads⟩
  · rcases h with h | ⟨-, hdir', -⟩
    · exact Or.inr ⟨h.symm.trans hnone, hdir, q, hQ q hq, hleads⟩
    · rw [hdir'] at hnone
      cases hnone

end Spares

/-- Nothing changed but for new directories to which paths of a kind lead. -/
structure Grown (fs : FileSystem) (P : Path → Prop) (fs' : FileSystem) : Prop where
  cwd : fs'.cwd = fs.cwd
  spares : ∀ place, fs.Spares P fs' place

namespace Grown

theorem refl (fs : FileSystem) (P : Path → Prop) : fs.Grown P fs := ⟨rfl, fun _ => Or.inl rfl⟩

theorem keeps (h : fs.Grown P fs') : fs.Keeps fs' :=
  ⟨h.cwd, (h.spares _).get?_of_some, fun hf => ⟨_, (h.spares _).get?_of_some hf⟩⟩

theorem trans (h : fs.Grown P mid) (h' : mid.Grown Q fs') (hP : ∀ q, P q → R q) (hQ : ∀ q, Q q → R q) :
    fs.Grown R fs' :=
  ⟨h'.cwd.trans h.cwd, fun place => (h.spares place).trans (h'.spares place) h'.keeps hP hQ⟩

theorem mono (h : fs.Grown P fs') (hP : ∀ q, P q → Q q) : fs.Grown Q fs' :=
  ⟨h.cwd, fun place => (h.spares place).mono hP⟩

end Grown

/-- A new directory is all that changes. -/
theorem grown_of_makeDirectory (h : fs.makeDirectory p = .ok fs') :
    fs.Grown (· = p) fs' ∧ fs'.isDirectory p = true := by
  obtain ⟨place, hfree, rfl⟩ := makeDirectory_eq_ok_iff.1 h
  obtain ⟨hplace, hnone⟩ := get?_of_free hfree
  have hself : (fs.put place .directory).get? place = some .directory := by rw [get?_put hplace, if_pos rfl]
  have hfollow : (fs.put place .directory).follow p = .ok (.found place .directory) :=
    (Keeps.put_free hplace hnone .directory).follow_found hfree rfl hself
  refine ⟨⟨rfl, fun other => ?_⟩, isDirectory_iff.2 ⟨_, hfollow, rfl⟩⟩
  by_cases hother : other = place
  · subst hother
    exact Or.inr ⟨hnone, hself, p, rfl, _, hfollow, rfl⟩
  · exact Or.inl (by rw [get?_put hplace, if_neg hother])

theorem makeDirectoriesFrom_empty (fs : FileSystem) (steps : Nat) : (fs.makeDirectoriesFrom steps ⟨""⟩).1 = fs := by
  cases steps <;> rfl

/-- One step of making directories: those above are made first if need be; then the directory is made, or nothing is,
and this fails unless the path is empty or leads to a directory. -/
theorem makeDirectoriesFrom_succ {steps : Nat} {e : Option IoError}
    (h : fs.makeDirectoriesFrom (steps + 1) p = (fs', e)) :
    ∃ mid, (mid = fs ∨ ∃ e', fs.makeDirectoriesFrom steps (p.parent?.getD ⟨""⟩) = (mid, e')) ∧
      (mid.makeDirectory p = .ok fs' ∨ fs' = mid ∧ (e = none → p.text = "" ∨ fs'.isDirectory p = true)) := by
  unfold makeDirectoriesFrom at h
  split at h
  · rename_i htext
    cases h
    exact ⟨_, Or.inl rfl, Or.inr ⟨rfl, fun _ => Or.inl (String.isEmpty_iff.1 htext)⟩⟩
  · split at h
    · rename_i hmake
      cases h
      exact ⟨_, Or.inl rfl, Or.inl hmake⟩
    · split at h
      · rename_i hparents
        cases h
        exact ⟨_, Or.inr ⟨_, hparents⟩, Or.inr ⟨rfl, fun h => by cases h⟩⟩
      · rename_i hparents
        split at h
        · rename_i hmake
          cases h
          exact ⟨_, Or.inr ⟨_, hparents⟩, Or.inl hmake⟩
        · split at h
          · rename_i hdir
            cases h
            exact ⟨_, Or.inr ⟨_, hparents⟩, Or.inr ⟨rfl, fun _ => Or.inr hdir⟩⟩
          · cases h
            exact ⟨_, Or.inr ⟨_, hparents⟩, Or.inr ⟨rfl, fun h => by cases h⟩⟩
    · split at h
      · rename_i hdir
        cases h
        exact ⟨_, Or.inl rfl, Or.inr ⟨rfl, fun _ => Or.inr hdir⟩⟩
      · cases h
        exact ⟨_, Or.inl rfl, Or.inr ⟨rfl, fun h => by cases h⟩⟩

/-- Directories are made at a path and the paths above it, and if this succeeds the path leads to one. -/
theorem grown_of_makeDirectoriesFrom {steps : Nat} {e : Option IoError}
    (h : fs.makeDirectoriesFrom steps p = (fs', e)) :
    fs.Grown (fun q => q = p ∨ q.IsAbove p) fs' ∧ (e = none → p.text = "" ∨ fs'.isDirectory p = true) := by
  induction steps generalizing fs fs' p e with
  | zero =>
    cases h
    exact ⟨.refl .., fun h => by cases h⟩
  | succ steps ih =>
    obtain ⟨mid, hmid, hlast⟩ := makeDirectoriesFrom_succ h
    have hgrown : fs.Grown (·.IsAbove p) mid := by
      rcases hmid with rfl | ⟨e', hparents⟩
      · exact .refl ..
      · cases hparent : p.parent? with
        | none =>
          rw [hparent] at hparents
          obtain rfl : fs = mid := (makeDirectoriesFrom_empty fs steps).symm.trans (congrArg Prod.fst hparents)
          exact .refl ..
        | some q =>
          rw [hparent] at hparents
          exact (ih hparents).1.mono (Path.isAbove_of_parent hparent)
    rcases hlast with hmake | ⟨rfl, hdone⟩
    · obtain ⟨hnew, hdir⟩ := grown_of_makeDirectory hmake
      exact ⟨hgrown.trans hnew (fun _ => Or.inr) fun _ => Or.inl, fun _ => Or.inr hdir⟩
    · exact ⟨hgrown.mono fun _ => Or.inr, hdone⟩

/-! ## One file -/

/-- A file at a path finds its directory. -/
def Ready (fs : FileSystem) (p : Path) : Prop := ∀ q, p.parent? = some q → q.text = "" ∨ fs.isDirectory q = true

/-- The directories above a path are made, and if this succeeds a file at the path finds its directory. -/
theorem grown_of_makeParents {e : Option IoError} (h : p.parent?.elim (fs, none) fs.makeDirectories = (fs', e)) :
    fs.Grown (·.IsAbove p) fs' ∧ (e = none → fs'.Ready p) := by
  unfold Ready
  cases hparent : p.parent? with
  | none =>
    rw [hparent] at h
    cases h
    exact ⟨.refl .., fun _ q hq => by cases hq⟩
  | some q =>
    rw [hparent] at h
    obtain ⟨hgrown, hready⟩ := grown_of_makeDirectoriesFrom h
    refine ⟨hgrown.mono (Path.isAbove_of_parent hparent), fun he r hr => ?_⟩
    cases hr
    exact hready he

/-- A file was written: its path has the text and finds its directory, and every place that it does not lead to is
spared but for directories above it. -/
structure Stored (fs : FileSystem) (p : Path) (text : String) (fs' : FileSystem) : Prop where
  keeps : fs.Keeps fs'
  read : fs'.read p = .ok text
  ready : fs'.Ready p
  spares : ∀ place, ¬fs'.Leads p place → fs.Spares (·.IsAbove p) fs' place

theorem Keeps.ready (h : fs.Keeps fs') (hp : fs.Ready p) : fs'.Ready p :=
  fun q hq => (hp q hq).imp_right h.isDirectory

/-- A text that is written is there, and nothing else changes. -/
theorem keeps_of_write (h : fs.write p text = .ok fs') :
    fs.Keeps fs' ∧ fs'.read p = .ok text ∧ ∀ place, ¬fs'.Leads p place → fs'.get? place = fs.get? place := by
  obtain ⟨hasks, t, hfollow, hfile, rfl⟩ := write_eq_ok_iff.1 h
  obtain ⟨htarget, hplace⟩ := follow_eq_target hfollow hfile
  have hdir : fs.get? t.place ≠ some .directory := by
    intro hdir
    rw [htarget, target_eq_found_iff.2 hdir] at hfile
    cases hfile
  have hkeeps : fs.Keeps (fs.put t.place (.file (.text text))) := .put_file hplace hdir _
  have hself : (fs.put t.place (.file (.text text))).get? t.place = some (.file (.text text)) := by
    rw [get?_put hplace, if_pos rfl]
  have hfollow' := hkeeps.follow_found hfollow hfile hself
  refine ⟨hkeeps, read_eq_ok_iff.2 ⟨hasks, _, hfollow'⟩, fun place hne => ?_⟩
  rw [get?_put hplace, if_neg]
  rintro rfl
  exact hne ⟨_, hfollow', rfl⟩

theorem stored_of_writeFile (h : fs.writeFile p text = (fs', none)) : fs.Stored p text fs' := by
  unfold writeFile at h
  dsimp only at h
  split at h
  · cases h
  · rename_i mid hmid
    split at h
    · rename_i hwrite
      cases h
      obtain ⟨hgrown, hready⟩ := grown_of_makeParents hmid
      obtain ⟨hkeeps, hread, hother⟩ := keeps_of_write hwrite
      refine ⟨hgrown.keeps.trans hkeeps, hread, hkeeps.ready (hready rfl), fun place hne => ?_⟩
      have hsame : mid.Spares (·.IsAbove p) _ place := Or.inl (hother place hne)
      exact (hgrown.spares place).trans hsame hkeeps (fun _ => id) fun _ => id
    · cases h

/-- Where a file cannot be written, at most directories above it were made, and the error names what was not made or
written. -/
theorem grown_of_writeFile {e : GenerationError} (h : fs.writeFile p text = (fs', some e)) :
    fs.Grown (·.IsAbove p) fs' ∧
      ((∃ q cause, p.parent? = some q ∧ e = .noDirectory q cause) ∨ ∃ cause, e = .unwritable p cause) := by
  unfold writeFile at h
  dsimp only at h
  split at h
  · rename_i mid cause hmid
    cases h
    refine ⟨(grown_of_makeParents hmid).1, Or.inl ?_⟩
    cases hparent : p.parent? with
    | none =>
      rw [hparent] at hmid
      cases hmid
    | some q => exact ⟨q, cause, rfl, rfl⟩
  · rename_i mid hmid
    split at h
    · cases h
    · rename_i cause _
      cases h
      exact ⟨(grown_of_makeParents hmid).1, Or.inr ⟨cause, rfl⟩⟩

/-! ## Files one after another -/

/-- Files are written one after another. -/
inductive Writes : FileSystem → List (Path × String) → FileSystem → Prop
  | nil (fs : FileSystem) : Writes fs [] fs
  | cons {fs mid fs' : FileSystem} {p : Path} {text : String} {files : List (Path × String)}
      (h : fs.Stored p text mid) (hs : Writes mid files fs') : Writes fs ((p, text) :: files) fs'

theorem writes_of_writeAll (h : fs.writeAll files = (fs', none)) : fs.Writes files fs' := by
  induction files generalizing fs with
  | nil => cases h; exact .nil _
  | cons file files ih =>
    unfold writeAll at h
    split at h
    · cases h
    · rename_i mid hmid
      exact .cons (stored_of_writeFile hmid) (ih h)

namespace Writes

theorem keeps (h : fs.Writes files fs') : fs.Keeps fs' := by
  induction h with
  | nil => exact .refl _
  | cons h _ ih => exact h.keeps.trans ih

theorem append_iff : fs.Writes (before ++ after) fs' ↔ ∃ mid, fs.Writes before mid ∧ mid.Writes after fs' := by
  induction before generalizing fs with
  | nil =>
    constructor
    · intro h
      exact ⟨fs, .nil fs, h⟩
    · rintro ⟨mid, hmid, h⟩
      cases hmid
      exact h
  | cons file before ih =>
    constructor
    · intro h
      cases h with
      | cons h hs =>
        obtain ⟨mid, hbefore, hafter⟩ := ih.1 hs
        exact ⟨mid, .cons h hbefore, hafter⟩
    · rintro ⟨mid, hbefore, hafter⟩
      cases hbefore with
      | cons h hs => exact .cons h (ih.2 ⟨mid, hs, hafter⟩)

/-- What lies at a place to which none of the files leads stays, but for new directories above them. -/
theorem spares (h : fs.Writes files fs') (place : Place) (hne : ∀ file ∈ files, ¬fs'.Leads file.1 place) :
    fs.Spares (fun q => ∃ file ∈ files, q.IsAbove file.1) fs' place := by
  induction h with
  | nil => exact Or.inl rfl
  | @cons fs mid fs' p text files h hs ih =>
    obtain ⟨hp, hfiles⟩ := List.forall_mem_cons.1 hne
    have hmid := h.spares place fun hleads => hp (hs.keeps.leads hleads)
    refine hmid.trans (ih hfiles) hs.keeps (fun q hq => ⟨_, List.mem_cons_self, hq⟩) ?_
    rintro q ⟨file, hfile, hq⟩
    exact ⟨file, List.mem_cons_of_mem _ hfile, hq⟩

end Writes

/-! ## Files that are there -/

/-- A file is at the path, in its directory. -/
structure Settled (fs : FileSystem) (p : Path) : Prop where
  ready : fs.Ready p
  asks : asksDirectory p = false
  file : ∃ place c, fs.follow p = .ok (.found place (.file c))

theorem Stored.settled (h : fs.Stored p text fs') : fs'.Settled p := by
  obtain ⟨hasks, place, hfile⟩ := read_eq_ok_iff.1 h.read
  exact ⟨h.ready, hasks, place, _, hfile⟩

theorem Keeps.settled (h : fs.Keeps fs') (hp : fs.Settled p) : fs'.Settled p := by
  obtain ⟨hready, hasks, place, c, hfile⟩ := hp
  obtain ⟨c', hc'⟩ := h.file (get?_of_file hfile).2
  exact ⟨h.ready hready, hasks, place, c', h.follow_found hfile rfl hc'⟩

/-- Paths to files at one place lead to the same file. -/
theorem Settled.follow_eq_of_leads (hp : fs.Settled p) (hq : fs.Settled q) (hp' : fs.Leads p place)
    (hq' : fs.Leads q place) : fs.follow p = fs.follow q := by
  obtain ⟨-, -, placep, c, hfilep⟩ := hp
  obtain ⟨-, -, placeq, d, hfileq⟩ := hq
  obtain ⟨t, ht, rfl⟩ := hp'
  obtain ⟨u, hu, huplace⟩ := hq'
  rw [hfilep] at ht
  rw [hfileq] at hu
  cases ht
  cases hu
  obtain rfl : placeq = placep := huplace
  have := (get?_of_file hfilep).2.symm.trans (get?_of_file hfileq).2
  cases this
  rw [hfilep, hfileq]

theorem Writes.settled (h : fs.Writes files fs') : ∀ file ∈ files, fs'.Settled file.1 := by
  induction h with
  | nil => intro _ h; cases h
  | cons h hs ih => exact List.forall_mem_cons.2 ⟨hs.keeps.settled h.settled, ih⟩

/-- A path has the text of the last file at its place. -/
theorem Writes.read (h : fs.Writes (before ++ (p, text) :: after) fs')
    (hlast : ∀ file ∈ after, fs'.follow file.1 ≠ fs'.follow p) : fs'.read p = .ok text := by
  obtain ⟨mid, -, hwrites⟩ := append_iff.1 h
  cases hwrites with
  | cons hstored hafter =>
    obtain ⟨hasks, place, hfile⟩ := read_eq_ok_iff.1 hstored.read
    have hsettled := hafter.keeps.settled hstored.settled
    -- None of the later files is at the place, which therefore keeps the text.
    have hspares := hafter.spares place fun file hmem hleads =>
      hlast file hmem <| (hafter.settled file hmem).follow_eq_of_leads hsettled hleads <|
        hafter.keeps.leads ⟨_, hfile, rfl⟩
    have hget := hspares.get?_of_some (get?_of_file hfile).2
    exact read_eq_ok_iff.2 ⟨hasks, place, hafter.keeps.follow_found hfile rfl hget⟩

/-! ## Files that are written again -/

/-- A file system differs from another at most in what is in the files of a list, none of which is new. -/
structure Agrees (fs : FileSystem) (files : List (Path × String)) (fs' : FileSystem) : Prop where
  keeps : fs.Keeps fs'
  keys : fs'.entries.keys = fs.entries.keys
  get? : ∀ place, (∀ file ∈ files, ¬fs.Leads file.1 place) → fs'.entries.get? place = fs.entries.get? place

/-- A directory that is there is not made. -/
theorem makeDirectories_of_isDirectory (h : p.text = "" ∨ fs.isDirectory p = true) :
    fs.makeDirectories p = (fs, none) := by
  unfold makeDirectories makeDirectoriesFrom
  split
  · rfl
  · rename_i htext
    have hdir := h.resolve_left fun he => htext (by rw [he]; rfl)
    obtain ⟨t, ht, htdir⟩ := isDirectory_iff.1 hdir
    have hmake : fs.makeDirectory p = .error .occupied := by
      unfold makeDirectory
      rw [ht, Target.isDirectory_iff.1 htdir]
      rfl
    rw [hmake]
    exact if_pos hdir

/-- A file that is there is written without more ado. -/
theorem writeFile_of_settled {c : Content} (h : fs.Settled p) (hfile : fs.follow p = .ok (.found place (.file c))) :
    fs.writeFile p text = (fs.put place (.file (.text text)), none) := by
  have hparents : p.parent?.elim (fs, none) fs.makeDirectories = (fs, none) := by
    cases hparent : p.parent? with
    | none => rfl
    | some q => exact makeDirectories_of_isDirectory (h.ready q hparent)
  have hwrite : fs.write p text = .ok (fs.put place (.file (.text text))) :=
    write_eq_ok_iff.2 ⟨h.asks, _, hfile, rfl, rfl⟩
  unfold writeFile
  dsimp only
  rw [hparents]
  dsimp only
  rw [hwrite]

/-- To write the first file of a list again leaves a difference in the others only. -/
theorem Agrees.writeFile (h : fs.Agrees ((p, text) :: files) mid) (hp : fs.Settled p)
    (hlast : (∀ file ∈ files, fs.follow file.1 ≠ fs.follow p) → fs.read p = .ok text) :
    ∃ fs', mid.writeFile p text = (fs', none) ∧ fs.Agrees files fs' := by
  obtain ⟨-, -, place, c, hfile⟩ := id hp
  obtain ⟨hplace, hget⟩ := get?_of_file hfile
  obtain ⟨c', hget'⟩ := h.keeps.file hget
  have hentry : mid.entries.get? place = some (.file c') := by
    rw [← hget', FileSystem.get?, if_neg (by simpa using hplace)]
  have hfile' := h.keeps.follow_found hfile rfl hget'
  refine ⟨_, writeFile_of_settled (h.keeps.settled hp) hfile', ?_, ?_, fun other hne => ?_⟩
  · exact h.keeps.trans (.put_file hplace (by rw [hget']; simp) _)
  · show (mid.entries.alter place _).keys = _
    rw [OrderedMap.keys_alter, if_pos (OrderedMap.mem_keys_of_get? hentry), h.keys]
  · show (mid.entries.alter place _).get? other = _
    rw [OrderedMap.get?_alter]
    split
    · -- No later file is at the place, so it has the text already.
      rename_i hother
      subst hother
      have hread := hlast fun file hmem heq => hne file hmem ⟨_, heq.trans hfile, rfl⟩
      obtain ⟨-, place', hfile'⟩ := read_eq_ok_iff.1 hread
      rw [hfile] at hfile'
      cases hfile'
      rw [← hget, FileSystem.get?, if_neg (by simpa using hplace)]
    · rename_i hother
      refine h.get? other (List.forall_mem_cons.2 ⟨?_, hne⟩)
      rintro ⟨t, ht, rfl⟩
      rw [hfile] at ht
      cases ht
      exact hother rfl

theorem Agrees.writeAll (h : fs.Agrees files mid) (hfiles : ∀ file ∈ files, fs.Settled file.1)
    (hlast : ∀ before p text after, files = before ++ (p, text) :: after →
      (∀ file ∈ after, fs.follow file.1 ≠ fs.follow p) → fs.read p = .ok text) :
    mid.writeAll files = (fs, none) := by
  induction files generalizing mid with
  | nil =>
    have hentries : mid.entries = fs.entries := OrderedMap.eq_of_get?_eq h.keys fun place => h.get? place (by simp)
    have hcwd := h.keeps.cwd
    obtain ⟨cwd, entries⟩ := mid
    obtain ⟨cwd', entries'⟩ := fs
    cases hentries
    cases hcwd
    rfl
  | cons file files ih =>
    obtain ⟨p, text⟩ := file
    obtain ⟨hp, hfiles⟩ := List.forall_mem_cons.1 hfiles
    obtain ⟨fs'', hfile, hagrees⟩ := h.writeFile hp (hlast [] p text files rfl)
    rw [FileSystem.writeAll, hfile]
    refine ih hagrees hfiles fun before q text' after hsplit => hlast ((p, text) :: before) q text' after ?_
    rw [hsplit]
    rfl

/-- To write the same files again changes nothing. -/
theorem Writes.writeAll_again (h : fs.Writes files fs') : fs'.writeAll files = (fs', none) := by
  refine Agrees.writeAll ⟨.refl fs', rfl, fun _ _ => rfl⟩ h.settled fun before p text after hsplit hlast => ?_
  subst hsplit
  exact h.read hlast

end FileSystem
end SchemaClasses
