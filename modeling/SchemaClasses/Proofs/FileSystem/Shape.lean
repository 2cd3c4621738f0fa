import SchemaClasses.Proofs.FileSystem.Places
import SchemaClasses.Proofs.Outcome

/-!
# Shapes

The **shape** of a file system is what is left of it without the content of its files (`FileSystem.shape`). It is the
shape alone that tells where paths lead (`follow_cases`) and whether something can be written there. So the same paths
written with any texts to file systems of one shape fail in the same way, and leave one shape (`shape_writeAll`).
-/

namespace SchemaClasses

open Outcome

/-- An entry without what it holds. -/
def Entry.bare : Entry → Entry
  | .directory => .directory
  | .file _ => .file (.text "")

namespace FileSystem

variable {fs fs' : FileSystem} {place : Place}

/-- The working directory, and where there are directories and files. -/
def shape (fs : FileSystem) : Place × (Place → Option Entry) := (fs.cwd, fun place => (fs.get? place).map Entry.bare)

/-- At each place there is nothing, a directory or a file in both of two file systems of one shape. -/
theorem get?_cases (h : fs.shape = fs'.shape) (place : Place) :
    (fs.get? place = none ∧ fs'.get? place = none) ∨
      (fs.get? place = some .directory ∧ fs'.get? place = some .directory) ∨
      ∃ c c', fs.get? place = some (.file c) ∧ fs'.get? place = some (.file c') := by
  have hbare : (fs.get? place).map Entry.bare = (fs'.get? place).map Entry.bare := congrFun (congrArg Prod.snd h) place
  generalize fs.get? place = here, fs'.get? place = there at hbare ⊢
  rcases here with _ | _ | c <;> rcases there with _ | _ | c' <;> simp_all [Entry.bare]

theorem shape_put (h : fs.shape = fs'.shape) (hplace : place ≠ []) {e e' : Entry} (he : e.bare = e'.bare) :
    (fs.put place e).shape = (fs'.put place e').shape := by
  have hcwd : fs.cwd = fs'.cwd := congrArg Prod.fst h
  refine Prod.ext hcwd (funext fun other => ?_)
  have hother : (fs.get? other).map Entry.bare = (fs'.get? other).map Entry.bare := congrFun (congrArg Prod.snd h) other
  show ((fs.put place e).get? other).map Entry.bare = ((fs'.put place e').get? other).map Entry.bare
  rw [get?_put hplace, get?_put hplace]
  split
  · exact congrArg some he
  · exact hother

/-! ## Where paths lead -/

/-- Two outcomes of following a path: the same failure, or one place with the same kind of thing. -/
inductive Parallel : Except IoError Target → Except IoError Target → Prop
  | error (e : IoError) : Parallel (.error e) (.error e)
  | free (place : Place) : Parallel (.ok (.free place)) (.ok (.free place))
  | directory (place : Place) : Parallel (.ok (.found place .directory)) (.ok (.found place .directory))
  | file (place : Place) (c c' : Content) : Parallel (.ok (.found place (.file c))) (.ok (.found place (.file c')))

theorem followFrom_parallel (h : fs.shape = fs'.shape) (here : Place) (ps : List String) :
    Parallel (fs.followFrom here ps) (fs'.followFrom here ps) := by
  induction ps generalizing here with
  | nil => exact .directory here
  | cons piece ps ih =>
    rw [followFrom, followFrom]
    split
    · exact ih _
    split
    · exact ih _
    dsimp only
    rcases get?_cases h (here ++ [piece]) with ⟨hget, hget'⟩ | ⟨hget, hget'⟩ | ⟨c, c', hget, hget'⟩
    · rw [hget, hget']
      dsimp only
      split
      · exact .free _
      · exact .error _
    · rw [hget, hget']
      exact ih _
    · rw [hget, hget']
      dsimp only
      split
      · exact .file ..
      · exact .error _

theorem follow_parallel (h : fs.shape = fs'.shape) (p : Path) : Parallel (fs.follow p) (fs'.follow p) := by
  have hcwd : fs.cwd = fs'.cwd := congrArg Prod.fst h
  unfold follow
  rw [hcwd]
  split
  · exact .error _
  · exact followFrom_parallel h _ _

theorem isDirectory_congr (h : fs.shape = fs'.shape) (p : Path) : fs.isDirectory p = fs'.isDirectory p := by
  have hparallel := follow_parallel h p
  unfold isDirectory entry
  generalize fs.follow p = target, fs'.follow p = target' at hparallel ⊢
  cases hparallel with
  | file => cases asksDirectory p <;> rfl
  | _ => rfl

/-! ## Writing -/

theorem shape_write (h : fs.shape = fs'.shape) (p : Path) (text text' : String) :
    (fs.write p text).map shape = (fs'.write p text').map shape := by
  have hput : ∀ {place}, place ≠ [] → (fs.put place (.file (.text text))).shape =
      (fs'.put place (.file (.text text'))).shape := fun hplace => shape_put h hplace rfl
  have hparallel := follow_parallel h p
  unfold write
  generalize hfollow : fs.follow p = target at hparallel ⊢
  generalize fs'.follow p = target' at hparallel ⊢
  cases hparallel with
  | error | directory => rfl
  | free place =>
    cases asksDirectory p with
    | true => rfl
    | false => exact congrArg Except.ok (hput (get?_of_free hfollow).1)
  | file place =>
    cases asksDirectory p with
    | true => rfl
    | false => exact congrArg Except.ok (hput (get?_of_file hfollow).1)

theorem shape_makeDirectory (h : fs.shape = fs'.shape) (p : Path) :
    (fs.makeDirectory p).map shape = (fs'.makeDirectory p).map shape := by
  have hparallel := follow_parallel h p
  unfold makeDirectory
  generalize hfollow : fs.follow p = target at hparallel ⊢
  generalize fs'.follow p = target' at hparallel ⊢
  cases hparallel with
  | error | directory | file => rfl
  | free place => exact congrArg Except.ok (shape_put h (get?_of_free hfollow).1 rfl)

/-- What two runs with one outcome leave: file systems of one shape, and the same failure or none. -/
theorem exists_of_shape_eq {ε : Type} {x y : FileSystem × Option ε} (h : Prod.map shape id x = Prod.map shape id y) :
    ∃ mid mid' failure, x = (mid, failure) ∧ y = (mid', failure) ∧ mid.shape = mid'.shape := by
  obtain ⟨mid, failure⟩ := x
  obtain ⟨mid', failure'⟩ := y
  obtain ⟨hmid, rfl⟩ : mid.shape = mid'.shape ∧ failure = failure' := Prod.ext_iff.1 h
  exact ⟨mid, mid', failure, rfl, rfl, hmid⟩

theorem shape_makeDirectoriesFrom (h : fs.shape = fs'.shape) (steps : Nat) (p : Path) :
    Prod.map shape id (fs.makeDirectoriesFrom steps p) = Prod.map shape id (fs'.makeDirectoriesFrom steps p) := by
  induction steps generalizing fs fs' p with
  | zero => exact Prod.ext h rfl
  | succ steps ih =>
    -- A directory that cannot be made does no harm if there is one.
    have hfound : ∀ {mid mid' : FileSystem} (e : IoError), mid.shape = mid'.shape →
        Prod.map shape id (if mid.isDirectory p then (mid, none) else (mid, some e)) =
          Prod.map shape id (if mid'.isDirectory p then (mid', none) else (mid', some e)) := by
      intro mid mid' e hmid
      rw [isDirectory_congr hmid]
      split <;> exact Prod.ext hmid rfl
    rw [makeDirectoriesFrom, makeDirectoriesFrom]
    split
    · exact Prod.ext h rfl
    rcases map_eq_map (shape_makeDirectory h p) with ⟨e, hmake, hmake'⟩ | ⟨mid, mid', hmake, hmake', hmid⟩
    · rw [hmake, hmake']
      cases e with
      | missing =>
        dsimp only
        obtain ⟨mid, mid', failure, hparents, hparents', hmid⟩ := exists_of_shape_eq (ih h (p.parent?.getD ⟨""⟩))
        rw [hparents, hparents']
        cases failure with
        | some e => exact Prod.ext hmid rfl
        | none =>
          dsimp only
          rcases map_eq_map (shape_makeDirectory hmid p) with ⟨e, hmake, hmake'⟩ | ⟨_, _, hmake, hmake', hlast⟩
          · rw [hmake, hmake']
            exact hfound e hmid
          · rw [hmake, hmake']
            exact Prod.ext hlast rfl
      | _ => exact hfound _ h
    · rw [hmake, hmake']
      exact Prod.ext hmid rfl

theorem shape_writeFile (h : fs.shape = fs'.shape) (p : Path) (text text' : String) :
    Prod.map shape id (fs.writeFile p text) = Prod.map shape id (fs'.writeFile p text') := by
  have habove : Prod.map shape id (p.parent?.elim (fs, none) fs.makeDirectories) =
      Prod.map shape id (p.parent?.elim (fs', none) fs'.makeDirectories) := by
    cases p.parent? with
    | none => exact Prod.ext h rfl
    | some q => exact shape_makeDirectoriesFrom h _ q
  obtain ⟨mid, mid', failure, hparents, hparents', hmid⟩ := exists_of_shape_eq habove
  unfold writeFile
  dsimp only
  rw [hparents, hparents']
  cases failure with
  | some e => exact Prod.ext hmid rfl
  | none =>
    dsimp only
    rcases map_eq_map (shape_write hmid p text text') with ⟨e, hwrite, hwrite'⟩ | ⟨_, _, hwrite, hwrite', hlast⟩
    · rw [hwrite, hwrite']
      exact Prod.ext hmid rfl
    · rw [hwrite, hwrite']
      exact Prod.ext hlast rfl

/-- File systems of one shape still have one shape when texts are written to the same paths, and this fails for both in
the same way or for none. -/
theorem shape_writeAll (h : fs.shape = fs'.shape) {files files' : List (Path × String)}
    (hpaths : files.map Prod.fst = files'.map Prod.fst) :
    Prod.map shape id (fs.writeAll files) = Prod.map shape id (fs'.writeAll files') := by
  induction files generalizing fs fs' files' with
  | nil =>
    obtain rfl := List.map_eq_nil_iff.1 hpaths.symm
    exact Prod.ext h rfl
  | cons file files ih =>
    obtain ⟨file', files', rfl, hfile, hfiles⟩ := List.map_eq_cons_iff.1 hpaths.symm
    obtain ⟨p, text⟩ := file
    obtain ⟨p', text'⟩ := file'
    obtain rfl : p' = p := hfile
    obtain ⟨mid, mid', failure, hfirst, hfirst', hmid⟩ := exists_of_shape_eq (shape_writeFile h p' text text')
    rw [writeAll, writeAll, hfirst, hfirst']
    cases failure with
    | some e => exact Prod.ext hmid rfl
    | none => exact ih hmid hfiles.symm

end FileSystem
end SchemaClasses
