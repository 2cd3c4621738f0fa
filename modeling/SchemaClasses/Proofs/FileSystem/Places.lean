import SchemaClasses.FileSystem
import SchemaClasses.Proofs.Path.Normal

/-!
# Places

A path leads to a place (`FileSystem.Leads`), where there is a directory, a file or nothing yet. Of a file or a free
place the path tells what the file system has there (`follow_eq_target`); that a working directory is there is taken
for granted.

A file system **keeps** another where directories stay directories and files stay files, whatever they hold
(`FileSystem.Keeps`). In the later one each path still leads to its place (`Keeps.follow`), so what is known of a path
after one write is known after all of them. What reads and writes by a path do is said by what it leads to
(`read_eq_ok_iff`, `write_eq_ok_iff`, `makeDirectory_eq_ok_iff`). A file that a directory names is at a place with this
name (`getLast?_place_of_follow`).
-/

namespace SchemaClasses

namespace Target

/-- The place of what a path leads to. -/
def place : Target → Place
  | .found place _ => place
  | .free place => place

/-- Whether a path leads to a directory. -/
def isDirectory : Target → Bool
  | .found _ .directory => true
  | _ => false

theorem isDirectory_iff {t : Target} : t.isDirectory = true ↔ t = .found t.place .directory := by
  unfold isDirectory
  split
  · simp [place]
  · rename_i h
    simpa using fun h' => h _ h'

end Target

namespace FileSystem

variable {fs fs' fs'' : FileSystem} {p q : Path} {here place : Place} {ps : List String} {t : Target} {text : String}

/-! ## Entries -/

theorem get?_put (h : place ≠ []) (e : Entry) (other : Place) :
    (fs.put place e).get? other = if other = place then some e else fs.get? other := by
  unfold get? put OrderedMap.set
  rw [OrderedMap.get?_alter]
  by_cases hother : other = place
  · rw [if_pos hother, if_pos hother, if_neg (by simpa [hother] using h)]
  · rw [if_neg hother, if_neg hother]

/-- What a file system has at a place. -/
def target (fs : FileSystem) (place : Place) : Target := (fs.get? place).elim (.free place) (.found place)

theorem target_eq_found_iff {e : Entry} : fs.target place = .found place e ↔ fs.get? place = some e := by
  unfold target
  cases fs.get? place <;> simp

theorem target_eq_free_iff : fs.target place = .free place ↔ fs.get? place = none := by
  unfold target
  cases fs.get? place <;> simp

theorem place_target (fs : FileSystem) (place : Place) : (fs.target place).place = place := by
  unfold target
  cases fs.get? place <;> rfl

/-! ## Following paths -/

/-- A piece before others leads through a directory. -/
theorem followFrom_through {piece : String} (hdot : piece ≠ ".") (hup : piece ≠ "..")
    (h : fs.get? (here ++ [piece]) = some .directory) :
    fs.followFrom here (piece :: ps) = fs.followFrom (here ++ [piece]) ps := by
  rw [followFrom, if_neg hdot, if_neg hup]
  simp only [h]

/-- The last piece leads to what is there. -/
theorem followFrom_last {piece : String} (hdot : piece ≠ ".") (hup : piece ≠ "..") :
    fs.followFrom here [piece] = .ok (fs.target (here ++ [piece])) := by
  rw [followFrom, if_neg hdot, if_neg hup]
  unfold target
  cases h : fs.get? (here ++ [piece]) with
  | none => simp only [h]; rfl
  | some e => cases e <;> simp only [h] <;> rfl

/-- Unless it is a directory, what pieces lead to is what the file system has at a place below the root. -/
theorem followFrom_eq_target (h : fs.followFrom here ps = .ok t) (ht : t.isDirectory = false) :
    t = fs.target t.place ∧ t.place ≠ [] := by
  fun_induction FileSystem.followFrom fs here ps with
  | case1 here => cases h; cases ht
  | case2 here ps ih => exact ih h
  | case3 here ps _ ih => exact ih h
  | case4 here piece ps _ _ place _ ih => exact ih h
  | case5 here piece ps _ _ place e _ he _ =>
    cases h
    exact ⟨(target_eq_found_iff.2 he).symm, by simp [Target.place, place]⟩
  | case6 => cases h
  | case7 here piece ps _ _ place hfree _ =>
    cases h
    exact ⟨(target_eq_free_iff.2 hfree).symm, by simp [Target.place, place]⟩
  | case8 => cases h

/-- Unless it is a directory, what a path leads to is what the file system has at a place below the root. -/
theorem follow_eq_target (h : fs.follow p = .ok t) (ht : t.isDirectory = false) :
    t = fs.target t.place ∧ t.place ≠ [] := by
  unfold follow at h
  split at h
  · cases h
  · exact followFrom_eq_target h ht

theorem get?_of_free (h : fs.follow p = .ok (.free place)) : place ≠ [] ∧ fs.get? place = none := by
  obtain ⟨htarget, hplace⟩ : Target.free place = fs.target place ∧ place ≠ [] := follow_eq_target h rfl
  exact ⟨hplace, target_eq_free_iff.1 htarget.symm⟩

theorem get?_of_file {c : Content} (h : fs.follow p = .ok (.found place (.file c))) :
    place ≠ [] ∧ fs.get? place = some (.file c) := by
  obtain ⟨htarget, hplace⟩ : Target.found place (.file c) = fs.target place ∧ place ≠ [] := follow_eq_target h rfl
  exact ⟨hplace, target_eq_found_iff.1 htarget.symm⟩

/-- A path leads to a place. -/
def Leads (fs : FileSystem) (p : Path) (place : Place) : Prop := ∃ t, fs.follow p = .ok t ∧ t.place = place

/-! ## File systems that keep others -/

/-- Directories stay directories and files stay files. -/
structure Keeps (fs fs' : FileSystem) : Prop where
  cwd : fs'.cwd = fs.cwd
  directory : ∀ {place}, fs.get? place = some .directory → fs'.get? place = some .directory
  file : ∀ {place c}, fs.get? place = some (.file c) → ∃ c', fs'.get? place = some (.file c')

namespace Keeps

theorem refl (fs : FileSystem) : fs.Keeps fs := ⟨rfl, id, fun h => ⟨_, h⟩⟩

theorem trans (h : fs.Keeps fs') (h' : fs'.Keeps fs'') : fs.Keeps fs'' where
  cwd := h'.cwd.trans h.cwd
  directory hd := h'.directory (h.directory hd)
  file hf := by
    obtain ⟨c, hc⟩ := h.file hf
    exact h'.file hc

/-- Something new at a free place keeps all else. -/
theorem put_free (hplace : place ≠ []) (h : fs.get? place = none) (e : Entry) : fs.Keeps (fs.put place e) := by
  have hother : ∀ {other e'}, fs.get? other = some e' → (fs.put place e).get? other = some e' := by
    intro other e' he
    rw [get?_put hplace, if_neg, he]
    rintro rfl
    rw [h] at he
    cases he
  exact ⟨rfl, hother, fun hf => ⟨_, hother hf⟩⟩

/-- A file that replaces no directory keeps all else. -/
theorem put_file (hplace : place ≠ []) (h : fs.get? place ≠ some .directory) (c : Content) :
    fs.Keeps (fs.put place (.file c)) where
  cwd := rfl
  directory {other} hd := by
    rw [get?_put hplace, if_neg, hd]
    rintro rfl
    exact h hd
  file {other c'} hf := by
    rw [get?_put hplace]
    split
    · exact ⟨c, rfl⟩
    · exact ⟨c', hf⟩

/-- In a file system that keeps another, pieces still lead to their place. -/
theorem followFrom (h : fs.Keeps fs') (ht : fs.followFrom here ps = .ok t) :
    fs'.followFrom here ps = .ok (if t.isDirectory then t else fs'.target t.place) := by
  fun_induction FileSystem.followFrom fs here ps with
  | case1 here => cases ht; rfl
  | case2 here ps ih =>
    rw [FileSystem.followFrom, if_pos rfl]
    exact ih ht
  | case3 here ps _ ih =>
    rw [FileSystem.followFrom, if_neg (by decide), if_pos rfl]
    exact ih ht
  | case4 here piece ps hdot hup place hd ih =>
    rw [followFrom_through hdot hup (h.directory hd)]
    exact ih ht
  | case5 here piece ps hdot hup place e hfile _ hlast =>
    cases ht
    obtain rfl := List.isEmpty_iff.1 hlast
    rw [followFrom_last hdot hup, if_neg]
    · rfl
    · cases e with
      | directory => exact absurd rfl hfile
      | file c => exact Bool.false_ne_true
  | case6 => cases ht
  | case7 here piece ps hdot hup place _ hlast =>
    cases ht
    obtain rfl := List.isEmpty_iff.1 hlast
    rw [followFrom_last hdot hup]
    rfl
  | case8 => cases ht

/-- In a file system that keeps another, a path still leads to its place. -/
theorem follow (h : fs.Keeps fs') (ht : fs.follow p = .ok t) :
    fs'.follow p = .ok (if t.isDirectory then t else fs'.target t.place) := by
  unfold FileSystem.follow at ht ⊢
  split at ht
  · cases ht
  · rename_i htext
    rw [if_neg htext, h.cwd]
    exact h.followFrom ht

/-- A path that led to a file or a free place leads to what is there now. -/
theorem follow_found (h : fs.Keeps fs') (ht : fs.follow p = .ok t) (hdir : t.isDirectory = false) {e : Entry}
    (he : fs'.get? t.place = some e) : fs'.follow p = .ok (.found t.place e) := by
  rw [h.follow ht, hdir, target_eq_found_iff.2 he]
  rfl

theorem leads (h : fs.Keeps fs') (hp : fs.Leads p place) : fs'.Leads p place := by
  obtain ⟨t, ht, rfl⟩ := hp
  refine ⟨_, h.follow ht, ?_⟩
  split
  · rfl
  · exact place_target ..

end Keeps

/-! ## Reading and writing by paths -/

theorem isDirectory_iff : fs.isDirectory p = true ↔ ∃ t, fs.follow p = .ok t ∧ t.isDirectory = true := by
  unfold isDirectory entry
  cases fs.follow p with
  | error e => simp [bind, Except.bind]
  | ok t =>
    cases t with
    | free place => simp [bind, Except.bind, Target.isDirectory]
    | found place e =>
      cases e with
      | directory => simp [bind, Except.bind, Target.isDirectory]
      | file c => cases asksDirectory p <;> simp [bind, Except.bind, Target.isDirectory]

theorem Keeps.isDirectory (h : fs.Keeps fs') (hp : fs.isDirectory p = true) : fs'.isDirectory p = true := by
  obtain ⟨t, ht, hdir⟩ := isDirectory_iff.1 hp
  refine isDirectory_iff.2 ⟨_, h.follow ht, ?_⟩
  rw [if_pos hdir]
  exact hdir

/-- A text is read from the file that a path leads to. -/
theorem read_eq_ok_iff : fs.read p = .ok text ↔
    asksDirectory p = false ∧ ∃ place, fs.follow p = .ok (.found place (.file (.text text))) := by
  unfold read entry
  cases fs.follow p with
  | error e => simp [bind, Except.bind]
  | ok t =>
    cases t with
    | free place => simp [bind, Except.bind]
    | found place e =>
      cases e with
      | directory => simp [bind, Except.bind]
      | file c =>
        cases asksDirectory p with
        | true => simp [bind, Except.bind]
        | false => cases c <;> simp [bind, Except.bind]

/-- A text is written to the place that a path leads to, unless there is a directory. -/
theorem write_eq_ok_iff : fs.write p text = .ok fs' ↔ asksDirectory p = false ∧
    ∃ t, fs.follow p = .ok t ∧ t.isDirectory = false ∧ fs' = fs.put t.place (.file (.text text)) := by
  unfold write
  cases fs.follow p with
  | error e => simp [bind, Except.bind]
  | ok t =>
    cases t with
    | free place =>
      cases asksDirectory p <;> simp [bind, Except.bind, Target.isDirectory, Target.place, @eq_comm _ fs']
    | found place e =>
      cases e with
      | directory => simp [bind, Except.bind, Target.isDirectory]
      | file c =>
        cases asksDirectory p <;> simp [bind, Except.bind, Target.isDirectory, Target.place, @eq_comm _ fs']

/-- A directory is made at the free place that a path leads to. -/
theorem makeDirectory_eq_ok_iff : fs.makeDirectory p = .ok fs' ↔
    ∃ place, fs.follow p = .ok (.free place) ∧ fs' = fs.put place .directory := by
  unfold makeDirectory
  cases fs.follow p with
  | error e => simp [bind, Except.bind]
  | ok t => cases t <;> simp [bind, Except.bind, @eq_comm _ fs']

/-! ## Files of a directory -/

theorem getLast?_place_of_followFrom {n : String} (hdot : n ≠ ".") (hup : n ≠ "..")
    (h : fs.followFrom here (ps ++ [n]) = .ok t) : t.place.getLast? = some n := by
  induction ps generalizing here with
  | nil =>
    rw [List.nil_append, followFrom_last hdot hup] at h
    cases h
    rw [place_target, List.getLast?_concat]
  | cons piece ps ih =>
    rw [List.cons_append, followFrom] at h
    split at h
    · exact ih h
    · split at h
      · exact ih h
      · dsimp only at h
        split at h
        · exact ih h
        all_goals simp at h

/-- The pieces of a file of a directory end in its name. -/
theorem piecesOf_join_name (a : Path) {n : String} (h : Path.Component.Plain (.name n)) :
    ∃ ps, piecesOf (a.join ⟨n⟩) = ps ++ [n] := by
  have hname : ((Path.pieces n.toList).filter fun s => !s.isEmpty).map String.ofList = [n] := by
    have hpieces : Path.pieces n.toList = [n.toList] := Path.pieces_of_slash_not_mem h.1
    have hne : n.toList ≠ [] := h.text_ne_nil
    rw [hpieces, List.filter_cons_of_pos (by simpa using hne)]
    exact congrArg (fun s => [s]) String.ofList_toList
  unfold piecesOf
  by_cases ha : a.text = ""
  · obtain ⟨text⟩ := a
    cases ha
    rw [Path.empty_join]
    exact ⟨[], hname⟩
  · obtain ⟨as, hjoin, -⟩ := Path.toList_join ha (Path.components_name h).1
    rw [hjoin, Path.pieces_append_slash, List.filter_append, List.map_append]
    exact ⟨_, congrArg _ hname⟩

/-- A file of a directory is at a place with its name. -/
theorem getLast?_place_of_follow {a : Path} {n : String} (h : Path.Component.Plain (.name n))
    (ht : fs.follow (a.join ⟨n⟩) = .ok t) : t.place.getLast? = some n := by
  have hne : ∀ s : String, s = "." ∨ s = ".." → n ≠ s := by
    rintro s hs rfl
    have := h.2
    rcases hs with rfl | rfl <;> revert this <;> decide
  obtain ⟨ps, hps⟩ := piecesOf_join_name a h
  unfold follow at ht
  split at ht
  · cases ht
  · rw [hps] at ht
    exact getLast?_place_of_followFrom (hne _ (Or.inl rfl)) (hne _ (Or.inr rfl)) ht

end FileSystem
end SchemaClasses
