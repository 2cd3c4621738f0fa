import SchemaClasses.Proofs.FileSystem.Writes
import SchemaClasses.Proofs.Generation.Distinct

/-!
# The effect of a run

A run that is not dry makes and writes its files one after another, the index last (`Context.outputs`,
`FileSystem.emitAll`); that the texts are prepared before the first is written makes no difference (`Context.run_eq`).
So a run that fails has written the files before the one where it fails, and nothing behind it (`Context.Stopped`). A
run that succeeds leaves at each path the text of the last file there, spares all else, and changes nothing if it is
repeated (`Context.Finished`).

Two paths may lead to one place although they are written differently, and then the later text is at both
(`Context.run_detour`). This does not happen where each file lies in the output directory itself (`Context.Flat`), as
it does for models whose names are identifiers.
-/

namespace SchemaClasses

open TypeScript Outcome

/-- The last member of a list that something holds of. -/
def IsLast {α : Type} (P : α → Prop) (l : List α) (a : α) : Prop :=
  ∃ before after, l = before ++ a :: after ∧ P a ∧ ∀ b ∈ after, ¬P b

theorem exists_isLast {α : Type} {P : α → Prop} {l : List α} {a : α} (ha : a ∈ l) (h : P a) : ∃ b, IsLast P l b := by
  induction l generalizing a with
  | nil => cases ha
  | cons c l ih =>
    by_cases hl : ∃ b ∈ l, P b
    · obtain ⟨b, hb, hPb⟩ := hl
      obtain ⟨d, before, after, rfl, hd⟩ := ih hb hPb
      exact ⟨d, c :: before, after, rfl, hd⟩
    · rcases List.mem_cons.1 ha with rfl | ha
      · exact ⟨a, [], l, rfl, h, fun b hb hPb => hl ⟨b, hb, hPb⟩⟩
      · exact absurd ⟨a, ha, h⟩ hl

/-- The path of a file and the text that is written there. -/
def OutputFile.entry (f : OutputFile) : Path × String := (f.path, f.content)

/-! ## Files one after another -/

namespace FileSystem

variable {fs fs' : FileSystem} {e : GenerationError} {outputs : List (Except GenerationError OutputFile)}

/-- Each file is written before the next, up to the first that was not made or cannot be written. -/
def emitAll (fs : FileSystem) : List (Except GenerationError OutputFile) → FileSystem × Option GenerationError
  | [] => (fs, none)
  | .error e :: _ => (fs, some e)
  | .ok f :: outputs =>
    match fs.writeFile f.path f.content with
    | (fs, some e) => (fs, some e)
    | (fs, none) => emitAll fs outputs

theorem emitAll_append (fs : FileSystem) (files : List OutputFile)
    (outputs : List (Except GenerationError OutputFile)) : fs.emitAll (files.map .ok ++ outputs) =
      match fs.writeAll (files.map OutputFile.entry) with
      | (mid, some e) => (mid, some e)
      | (mid, none) => mid.emitAll outputs := by
  induction files generalizing fs with
  | nil => rfl
  | cons f files ih =>
    rw [List.map_cons, List.cons_append, emitAll, List.map_cons, OutputFile.entry, writeAll]
    obtain ⟨mid, failure⟩ := fs.writeFile f.path f.content
    cases failure with
    | some e => rfl
    | none => exact ih mid

theorem emitAll_map_ok (fs : FileSystem) (files : List OutputFile) :
    fs.emitAll (files.map .ok) = fs.writeAll (files.map OutputFile.entry) := by
  have happend := fs.emitAll_append files []
  rw [List.append_nil] at happend
  rw [happend]
  obtain ⟨mid, failure⟩ := fs.writeAll (files.map OutputFile.entry)
  cases failure <;> rfl

theorem emitAll_eq_none_iff : fs.emitAll outputs = (fs', none) ↔
    ∃ files : List OutputFile, outputs = files.map .ok ∧ fs.writeAll (files.map OutputFile.entry) = (fs', none) := by
  constructor
  · intro h
    induction outputs generalizing fs with
    | nil => exact ⟨[], rfl, h⟩
    | cons output outputs ih =>
      cases output with
      | error e => cases h
      | ok f =>
        unfold emitAll at h
        split at h
        · cases h
        · rename_i mid hfile
          obtain ⟨files, rfl, hfiles⟩ := ih h
          refine ⟨f :: files, rfl, ?_⟩
          rw [List.map_cons, OutputFile.entry, writeAll, hfile]
          exact hfiles
  · rintro ⟨files, rfl, hfiles⟩
    rw [emitAll_map_ok, hfiles]

theorem emitAll_eq_some_iff : fs.emitAll outputs = (fs', some e) ↔
    ∃ (files : List OutputFile) (output : Except GenerationError OutputFile)
      (after : List (Except GenerationError OutputFile)) (mid : FileSystem),
      outputs = files.map .ok ++ output :: after ∧ fs.writeAll (files.map OutputFile.entry) = (mid, none) ∧
        (output = .error e ∧ fs' = mid ∨ ∃ f, output = .ok f ∧ mid.writeFile f.path f.content = (fs', some e)) := by
  constructor
  · intro h
    induction outputs generalizing fs with
    | nil => cases h
    | cons output outputs ih =>
      cases output with
      | error e =>
        cases h
        exact ⟨[], .error e, outputs, _, rfl, rfl, Or.inl ⟨rfl, rfl⟩⟩
      | ok f =>
        unfold emitAll at h
        split at h
        · rename_i hfile
          cases h
          exact ⟨[], .ok f, outputs, _, rfl, rfl, Or.inr ⟨f, rfl, hfile⟩⟩
        · rename_i mid hfile
          obtain ⟨files, output, after, mid', rfl, hfiles, hlast⟩ := ih h
          refine ⟨f :: files, output, after, mid', rfl, ?_, hlast⟩
          rw [List.map_cons, OutputFile.entry, writeAll, hfile]
          exact hfiles
  · rintro ⟨files, output, after, mid, rfl, hfiles, hlast⟩
    rw [emitAll_append, hfiles]
    rcases hlast with ⟨rfl, rfl⟩ | ⟨f, rfl, hfile⟩
    · rfl
    · dsimp only
      rw [emitAll, hfile]

end FileSystem

namespace Context

variable {c : Context} {fmt : Formatter} {ms : List SourceModule} {m : SourceModule} {fs fs' : FileSystem}
  {g : Generated} {e : GenerationError}

/-! ## What is written -/

/-- The file of a module, or why it has no code. -/
def made (c : Context) (fmt : Formatter) (m : SourceModule) : Except GenerationError OutputFile :=
  m.render.map (c.outputFile fmt m.path)

/-- What comes of each file of a run, the index last. -/
def outputs (c : Context) (fmt : Formatter) (ms : List SourceModule) : List (Except GenerationError OutputFile) :=
  ms.map (c.made fmt) ++ if c.config.makeIndex then [.ok (c.indexFile fmt ms)] else []

theorem error_not_mem_index (c : Context) (fmt : Formatter) (ms : List SourceModule) (e : GenerationError) :
    Except.error e ∉ if c.config.makeIndex then [Except.ok (c.indexFile fmt ms)] else [] := by
  split <;> simp

/-- A module has no code just where its class has no properties. -/
theorem render_eq_error_iff : m.render = .error e ↔ m.decl.properties = [] ∧ e = .noProperties m.decl.name := by
  unfold SourceModule.render ClassDecl.render?
  cases hp : m.decl.properties with
  | nil => simp [eq_comm]
  | cons p ps =>
    simp only [List.isEmpty_cons, Bool.false_eq_true, if_false, reduceCtorEq, false_and, iff_false]
    split <;> simp

theorem made_eq_error_iff : c.made fmt m = .error e ↔ m.decl.properties = [] ∧ e = .noProperties m.decl.name := by
  rw [← render_eq_error_iff]
  unfold made
  cases m.render <;> simp [Except.map]

/-- Files are made up to the first module without code. -/
theorem map_made (c : Context) (fmt : Formatter) (ms : List SourceModule) :
    (∃ files, c.prepareModules fmt ms = (files, none) ∧ ms.map (c.made fmt) = files.map .ok) ∨
      ∃ files e after, c.prepareModules fmt ms = (files, some e) ∧
        ms.map (c.made fmt) = files.map .ok ++ .error e :: after := by
  induction ms with
  | nil => exact Or.inl ⟨[], rfl, rfl⟩
  | cons m ms ih =>
    rw [prepareModules, List.map_cons, made]
    cases m.render with
    | error e => exact Or.inr ⟨[], e, _, rfl, rfl⟩
    | ok source =>
      rcases ih with ⟨files, hprepare, hmade⟩ | ⟨files, e, after, hprepare, hmade⟩
      · exact Or.inl ⟨c.outputFile fmt m.path source :: files, by rw [hprepare], by rw [hmade]; rfl⟩
      · exact Or.inr ⟨c.outputFile fmt m.path source :: files, e, after, by rw [hprepare], by rw [hmade]; rfl⟩

/-- What is prepared are the files of all modules and the index, or those before the first module without code. -/
theorem prepare_cases (c : Context) (fmt : Formatter) (ms : List SourceModule) :
    (∃ g : Generated, c.prepare fmt ms = ⟨g.all, .ok g⟩ ∧ ms.map (c.made fmt) = g.files.map .ok ∧
        g.index = (if c.config.makeIndex then some (c.indexFile fmt ms) else none) ∧
        c.outputs fmt ms = g.all.map .ok) ∨
      ∃ files e after, c.prepare fmt ms = ⟨files, .error e⟩ ∧
        c.outputs fmt ms = files.map .ok ++ .error e :: after := by
  unfold prepare outputs
  rcases c.map_made fmt ms with ⟨files, hprepare, hmade⟩ | ⟨files, e, after, hprepare, hmade⟩
  · rw [hprepare, hmade]
    refine Or.inl ⟨_, rfl, rfl, rfl, ?_⟩
    unfold Generated.all
    cases c.config.makeIndex <;> simp
  · rw [hprepare, hmade]
    exact Or.inr ⟨files, e, _, rfl, List.append_assoc ..⟩

/-- A run writes each file before it makes the next. -/
theorem run_eq (hdry : c.config.dryRun = false) (h : c.plan = .ok ms) : c.run fmt fs =
    match fs.emitAll (c.outputs fmt ms) with
    | (fs', some e) => (fs', .error e)
    | (fs', none) => (fs', (c.prepare fmt ms).outcome) := by
  unfold run
  rw [h]
  dsimp only
  rw [if_neg (by rw [hdry]; exact Bool.false_ne_true)]
  rcases c.prepare_cases fmt ms with ⟨g, hprepare, -, -, houtputs⟩ | ⟨files, e, after, hprepare, houtputs⟩
  · rw [houtputs, hprepare, fs.emitAll_map_ok]
    show (match fs.writeAll (g.all.map OutputFile.entry) with | (fs, some e) => _ | (fs, none) => _) = _
    obtain ⟨mid, failure⟩ := fs.writeAll (g.all.map OutputFile.entry)
    cases failure <;> rfl
  · rw [houtputs, hprepare, fs.emitAll_append]
    show (match fs.writeAll (files.map OutputFile.entry) with | (fs, some e) => _ | (fs, none) => _) = _
    obtain ⟨mid, failure⟩ := fs.writeAll (files.map OutputFile.entry)
    cases failure <;> rfl

theorem run_eq_error_iff (hdry : c.config.dryRun = false) (h : c.plan = .ok ms) :
    c.run fmt fs = (fs', .error e) ↔ fs.emitAll (c.outputs fmt ms) = (fs', some e) := by
  rw [run_eq hdry h]
  cases hemit : fs.emitAll (c.outputs fmt ms) with
  | mk mid failure =>
    cases failure with
    | some e' => simp
    | none =>
      -- Then all is made, so that the outcome is no error.
      obtain ⟨files, hfiles, -⟩ := FileSystem.emitAll_eq_none_iff.1 hemit
      rcases c.prepare_cases fmt ms with ⟨g, hprepare, -⟩ | ⟨files', e', after, -, houtputs⟩
      · simp [hprepare]
      · rw [houtputs] at hfiles
        exact absurd (hfiles ▸ List.mem_append_right _ List.mem_cons_self) error_not_mem_map_ok

theorem run_eq_ok_iff (hdry : c.config.dryRun = false) (h : c.plan = .ok ms) :
    c.run fmt fs = (fs', .ok g) ↔ ms.map (c.made fmt) = g.files.map .ok ∧
      g.index = (if c.config.makeIndex then some (c.indexFile fmt ms) else none) ∧
      fs.writeAll (g.all.map OutputFile.entry) = (fs', none) := by
  rw [run_eq hdry h]
  rcases c.prepare_cases fmt ms with ⟨g', hprepare, hmade, hindex, houtputs⟩ | ⟨files, e, after, hprepare, houtputs⟩
  · rw [houtputs, fs.emitAll_map_ok, hprepare, hmade, map_ok_inj]
    constructor
    · intro hrun
      cases hwrite : fs.writeAll (g'.all.map OutputFile.entry) with
      | mk mid failure =>
        rw [hwrite] at hrun
        cases failure with
        | some e => cases hrun
        | none =>
          cases hrun
          exact ⟨rfl, hindex, hwrite⟩
    · rintro ⟨hfiles, hindex', hwrite⟩
      obtain rfl : g' = g := by
        cases g'; cases g
        simp_all
      rw [hwrite]
  · refine iff_of_false (fun hrun => ?_) ?_
    · rw [hprepare] at hrun
      split at hrun <;> cases hrun
    · rintro ⟨hfiles, -, -⟩
      have hmem : Except.error e ∈ c.outputs fmt ms := houtputs ▸ List.mem_append_right _ List.mem_cons_self
      unfold outputs at hmem
      rw [hfiles] at hmem
      rcases List.mem_append.1 hmem with hmem | hmem
      · exact error_not_mem_map_ok hmem
      · exact c.error_not_mem_index fmt ms e hmem

/-! ## Where a run stops -/

/-- A run stops at a file: those before it are written, and it is not made, or made but not written, where at most
directories above it are new. -/
inductive Stopped (c : Context) (fmt : Formatter) (ms : List SourceModule) (fs : FileSystem) :
    FileSystem → GenerationError → Prop
  | unmade {files : List OutputFile} {after : List (Except GenerationError OutputFile)} {fs' : FileSystem}
      {e : GenerationError} (houtputs : c.outputs fmt ms = files.map .ok ++ .error e :: after)
      (hfiles : fs.writeAll (files.map OutputFile.entry) = (fs', none))
      (hwrites : fs.Writes (files.map OutputFile.entry) fs') : Stopped c fmt ms fs fs' e
  | unwritten {files : List OutputFile} {f : OutputFile} {after : List (Except GenerationError OutputFile)}
      {mid fs' : FileSystem} {e : GenerationError} (houtputs : c.outputs fmt ms = files.map .ok ++ .ok f :: after)
      (hfiles : fs.writeAll (files.map OutputFile.entry) = (mid, none))
      (hwrites : fs.Writes (files.map OutputFile.entry) mid)
      (hfile : mid.writeFile f.path f.content = (fs', some e))
      (hgrown : mid.Grown (·.IsAbove f.path) fs') : Stopped c fmt ms fs fs' e

theorem stopped_iff (hdry : c.config.dryRun = false) (h : c.plan = .ok ms) :
    c.run fmt fs = (fs', .error e) ↔ c.Stopped fmt ms fs fs' e := by
  rw [run_eq_error_iff hdry h, FileSystem.emitAll_eq_some_iff]
  constructor
  · rintro ⟨files, output, after, mid, houtputs, hfiles, ⟨rfl, rfl⟩ | ⟨f, rfl, hfile⟩⟩
    · exact .unmade houtputs hfiles (FileSystem.writes_of_writeAll hfiles)
    · exact .unwritten houtputs hfiles (FileSystem.writes_of_writeAll hfiles) hfile
        (FileSystem.grown_of_writeFile hfile).1
  · rintro (⟨houtputs, hfiles, -⟩ | ⟨houtputs, hfiles, -, hfile, -⟩)
    · exact ⟨_, _, _, _, houtputs, hfiles, Or.inl ⟨rfl, rfl⟩⟩
    · exact ⟨_, _, _, _, houtputs, hfiles, Or.inr ⟨_, rfl, hfile⟩⟩

/-- The first file that is not made is that of a module. -/
theorem exists_module_of_outputs {files : List OutputFile} {tail after : List (Except GenerationError OutputFile)}
    (h : ms.map (c.made fmt) ++ tail = files.map .ok ++ .error e :: after) (htail : .error e ∉ tail) :
    ∃ before m rest, ms = before ++ m :: rest ∧ before.map (c.made fmt) = files.map .ok ∧ c.made fmt m = .error e := by
  induction ms generalizing files with
  | nil =>
    rw [List.map_nil, List.nil_append] at h
    exact absurd (h ▸ List.mem_append_right _ List.mem_cons_self) htail
  | cons m ms ih =>
    cases files with
    | nil => exact ⟨[], m, ms, rfl, rfl, (List.cons.inj h).1⟩
    | cons f files =>
      obtain ⟨hm, hms⟩ := List.cons.inj h
      obtain ⟨before, m', rest, rfl, hbefore, hm'⟩ := ih hms
      exact ⟨m :: before, m', rest, rfl, List.cons_eq_cons.2 ⟨hm, hbefore⟩, hm'⟩

/-- A run ends for want of properties at the first class without any, if all files before it are written. -/
theorem run_eq_noProperties_iff (hdry : c.config.dryRun = false) (h : c.plan = .ok ms) {name : String} :
    c.run fmt fs = (fs', .error (.noProperties name)) ↔
      ∃ before m after, ∃ files : List OutputFile, ms = before ++ m :: after ∧ (∀ b ∈ before, b.decl.properties ≠ []) ∧
        m.decl.properties = [] ∧ m.decl.name = name ∧ before.map (c.made fmt) = files.map .ok ∧
        fs.writeAll (files.map OutputFile.entry) = (fs', none) := by
  rw [stopped_iff hdry h]
  constructor
  · intro hstopped
    cases hstopped with
    | unmade houtputs hfiles hwrites =>
      obtain ⟨before, m, after, rfl, hbefore, hm⟩ :=
        exists_module_of_outputs houtputs (c.error_not_mem_index fmt ms _)
      obtain ⟨hempty, hname⟩ := made_eq_error_iff.1 hm
      refine ⟨before, m, after, _, rfl, fun b hb hnone => ?_, hempty, (GenerationError.noProperties.inj hname).symm,
        hbefore, hfiles⟩
      have hmem := List.mem_map_of_mem hb (f := c.made fmt)
      rw [hbefore, made_eq_error_iff.2 ⟨hnone, rfl⟩] at hmem
      exact error_not_mem_map_ok hmem
    | unwritten houtputs hfiles hwrites hfile hgrown =>
      rcases (FileSystem.grown_of_writeFile hfile).2 with ⟨q, cause, -, h⟩ | ⟨cause, h⟩ <;> cases h
  · rintro ⟨before, m, after, files, rfl, -, hempty, rfl, hbefore, hfiles⟩
    have houtputs : ∃ rest, c.outputs fmt (before ++ m :: after) =
        files.map .ok ++ .error (.noProperties m.decl.name) :: rest := by
      unfold outputs
      rw [List.map_append, hbefore, List.map_cons, made_eq_error_iff.2 ⟨hempty, rfl⟩, List.append_assoc]
      exact ⟨_, rfl⟩
    obtain ⟨rest, hrest⟩ := houtputs
    exact .unmade hrest hfiles (FileSystem.writes_of_writeAll hfiles)

/-- In split mode no class is without properties. -/
theorem properties_ne_nil_of_split (hsplit : c.config.split = true) (h : c.plan = .ok ms) (hm : m ∈ ms) :
    m.decl.properties ≠ [] := by
  have hmem : m.decl ∈ c.classes := decl_of_plan h ▸ List.mem_map_of_mem hm
  have hkept := (List.mem_filter.1 hmem).2
  rw [hsplit, Bool.and_true] at hkept
  intro hempty
  rw [hempty] at hkept
  cases hkept

/-! ## What a run leaves -/

/-- No file of a class lies in another directory than the output directory. -/
def Flat (c : Context) : Prop := ∀ k ∈ c.classes, '/' ∉ (fileName k.name).toList

theorem flat_of_isIdentifier (hid : ∀ m ∈ c.schema.models, Text.isIdentifier m.name) : c.Flat := fun _ hk =>
  (plain_fileName (isIdentifier_of_mem_classes hid hk)).1

/-- The file of a name without slashes is named by one component. -/
theorem plain_of_slash_not_mem {s : String} (h : '/' ∉ (fileName s).toList) :
    Path.Component.Plain (.name (fileName s)) := by
  have hlen : 3 ≤ (fileName s).toList.length := by
    unfold fileName
    rw [Path.toList_append_ts, List.length_append]
    exact Nat.le_add_left ..
  refine Path.Component.plain_name h ?_ ?_ ?_ <;>
    · intro he
      rw [he] at hlen
      simp at hlen

/-- A run that succeeded: it made the files of its modules and the index, if that is wanted. Each path has the text of
the last file at its place, and of the last with this path, if all files lie in the output directory. Every place to
which none leads is spared, but for directories above them; and if the run is repeated it changes nothing. -/
structure Finished (c : Context) (fmt : Formatter) (ms : List SourceModule) (fs fs' : FileSystem) (g : Generated) :
    Prop where
  files : ms.map (c.made fmt) = g.files.map .ok
  index : g.index = if c.config.makeIndex then some (c.indexFile fmt ms) else none
  writes : fs.Writes (g.all.map OutputFile.entry) fs'
  read : ∀ f ∈ g.all, ∃ last, IsLast (fun f' => fs'.follow f'.path = fs'.follow f.path) g.all last ∧
    fs'.read f.path = .ok last.content
  readFlat : c.Flat → ∀ f ∈ g.all, ∃ last, IsLast (fun f' => f'.path = f.path) g.all last ∧
    fs'.read f.path = .ok last.content
  spares : fs'.cwd = fs.cwd ∧ ∀ place, (∀ f ∈ g.all, ¬fs'.Leads f.path place) →
    fs.Spares (fun q => ∃ f ∈ g.all, q.IsAbove f.path) fs' place
  again : c.run fmt fs' = (fs', .ok g)

/-- Each file of a run is that of a name in the output directory. -/
theorem exists_name_of_made (hflat : c.Flat) (h : c.plan = .ok ms) (hfiles : ms.map (c.made fmt) = g.files.map .ok)
    (hindex : g.index = if c.config.makeIndex then some (c.indexFile fmt ms) else none) {f : OutputFile}
    (hf : f ∈ g.all) : ∃ n, Path.Component.Plain (.name n) ∧ f.path = c.output.join ⟨n⟩ := by
  rcases List.mem_append.1 hf with hf | hf
  · have hmem : Except.ok f ∈ ms.map (c.made fmt) := hfiles ▸ List.mem_map_of_mem hf
    obtain ⟨m, hm, hmade⟩ := List.mem_map.1 hmem
    have hpath : f.path = m.path := by
      unfold made at hmade
      cases hrender : m.render with
      | error e => rw [hrender] at hmade; cases hmade
      | ok source => rw [hrender] at hmade; cases hmade; rfl
    have hclass : m.decl ∈ c.classes := decl_of_plan h ▸ List.mem_map_of_mem hm
    exact ⟨_, plain_of_slash_not_mem (hflat _ hclass), hpath.trans (path_of_plan h hm)⟩
  · rw [hindex] at hf
    split at hf
    · obtain rfl : f = c.indexFile fmt ms := by simpa using hf
      exact ⟨"index.ts", Path.Component.plain_name (by decide) (by decide) (by decide) (by decide), rfl⟩
    · cases hf

/-- Two files in the output directory are at two places if their paths differ. -/
theorem path_eq_of_follow_eq (hflat : c.Flat) (h : c.plan = .ok ms) (hfiles : ms.map (c.made fmt) = g.files.map .ok)
    (hindex : g.index = if c.config.makeIndex then some (c.indexFile fmt ms) else none) {f f' : OutputFile}
    (hf : f ∈ g.all) (hf' : f' ∈ g.all) {t : Target} (ht : fs.follow f.path = .ok t)
    (heq : fs.follow f'.path = fs.follow f.path) : f'.path = f.path := by
  obtain ⟨n, hn, hpath⟩ := exists_name_of_made hflat h hfiles hindex hf
  obtain ⟨n', hn', hpath'⟩ := exists_name_of_made hflat h hfiles hindex hf'
  rw [ht, hpath'] at heq
  rw [hpath] at ht
  have hname := FileSystem.getLast?_place_of_follow hn ht
  rw [FileSystem.getLast?_place_of_follow hn' heq] at hname
  rw [hpath, hpath', Option.some.inj hname]

/-- A path has the text of the last file at its place. -/
theorem read_of_isLast {files : List OutputFile} (h : fs.Writes (files.map OutputFile.entry) fs') {f last : OutputFile}
    (hf : f ∈ files) (hlast : IsLast (fun f' => fs'.follow f'.path = fs'.follow f.path) files last) :
    fs'.read f.path = .ok last.content := by
  have hsettled := h.settled f.entry (List.mem_map_of_mem hf)
  obtain ⟨before, after, rfl, hsame, hafter⟩ := hlast
  rw [List.map_append, List.map_cons] at h
  have hlater : ∀ file ∈ after.map OutputFile.entry, fs'.follow file.1 ≠ fs'.follow last.path :=
    List.forall_mem_map.2 fun f' hf' heq => hafter f' hf' (heq.trans hsame)
  -- Both paths lead to the same file.
  obtain ⟨-, place, hfile⟩ := FileSystem.read_eq_ok_iff.1 (h.read hlater)
  exact FileSystem.read_eq_ok_iff.2 ⟨hsettled.asks, place, hsame ▸ hfile⟩

theorem finished_of_run (hdry : c.config.dryRun = false) (h : c.plan = .ok ms) (hrun : c.run fmt fs = (fs', .ok g)) :
    c.Finished fmt ms fs fs' g := by
  obtain ⟨hfiles, hindex, hwrite⟩ := (run_eq_ok_iff hdry h).1 hrun
  have hwrites := FileSystem.writes_of_writeAll hwrite
  refine ⟨hfiles, hindex, hwrites, fun f hf => ?_, fun hflat f hf => ?_, ⟨hwrites.keeps.cwd, fun place hne => ?_⟩, ?_⟩
  · obtain ⟨last, hlast⟩ := exists_isLast hf (P := fun f' => fs'.follow f'.path = fs'.follow f.path) rfl
    exact ⟨last, hlast, read_of_isLast hwrites hf hlast⟩
  · obtain ⟨-, -, place, content, hfile⟩ := hwrites.settled f.entry (List.mem_map_of_mem hf)
    obtain ⟨last, before, after, hall, hlast, hafter⟩ := exists_isLast hf (P := fun f' => f'.path = f.path) rfl
    refine ⟨last, ⟨before, after, hall, hlast, hafter⟩, read_of_isLast hwrites hf ?_⟩
    refine ⟨before, after, hall, congrArg fs'.follow hlast, fun f' hf' heq => hafter f' hf' ?_⟩
    have hmem : f' ∈ g.all := hall ▸ List.mem_append_right _ (List.mem_cons_of_mem _ hf')
    exact path_eq_of_follow_eq hflat h hfiles hindex hf hmem hfile heq
  · refine (hwrites.spares place (List.forall_mem_map.2 hne)).mono ?_
    rintro q ⟨file, hmem, hq⟩
    obtain ⟨f, hf, rfl⟩ := List.mem_map.1 hmem
    exact ⟨f, hf, hq⟩
  · exact (run_eq_ok_iff hdry h).2 ⟨hfiles, hindex, hwrites.writeAll_again⟩

/-- **The effect of a run that is not dry**, for any formatter and file system. Without a plan nothing is written. With
one, the run fails just where it stops at a file; it stops for want of properties just at the first class without any,
if the files before it are written, and never in split mode; and where it succeeds it has finished. -/
theorem run_effect (c : Context) (fmt : Formatter) (fs : FileSystem) (hdry : c.config.dryRun = false) :
    (∀ e, c.plan = .error e → c.run fmt fs = (fs, .error e)) ∧
    ∀ ms, c.plan = .ok ms →
      (∀ fs' e, c.run fmt fs = (fs', .error e) ↔ c.Stopped fmt ms fs fs' e) ∧
      (∀ fs' name, c.run fmt fs = (fs', .error (.noProperties name)) ↔
        ∃ before m after, ∃ files : List OutputFile, ms = before ++ m :: after ∧
          (∀ b ∈ before, b.decl.properties ≠ []) ∧ m.decl.properties = [] ∧ m.decl.name = name ∧
          before.map (c.made fmt) = files.map .ok ∧ fs.writeAll (files.map OutputFile.entry) = (fs', none)) ∧
      (c.config.split = true → ∀ fs' name, c.run fmt fs ≠ (fs', .error (.noProperties name))) ∧
      ∀ fs' g, c.run fmt fs = (fs', .ok g) → c.Finished fmt ms fs fs' g := by
  refine ⟨fun e he => ?_, fun ms h => ⟨fun fs' e => stopped_iff hdry h, fun fs' name => run_eq_noProperties_iff hdry h,
    fun hsplit fs' name hrun => ?_, fun fs' g => finished_of_run hdry h⟩⟩
  · unfold run
    rw [he]
  · obtain ⟨before, m, after, files, rfl, -, hempty, -⟩ := (run_eq_noProperties_iff hdry h).1 hrun
    exact properties_ne_nil_of_split hsplit h (List.mem_append_right _ List.mem_cons_self) hempty

/-! ## Two files at one place -/

/-- What can be told of the report of a run is told of a run that succeeded. -/
theorem exists_run_of_report {α : Type} {p : FileSystem → Generated → α} {a : α}
    (h : (c.run fmt fs).2.toOption.map (p (c.run fmt fs).1) = some a) :
    ∃ fs' g, c.run fmt fs = (fs', .ok g) ∧ p fs' g = a := by
  cases hrun : c.run fmt fs with
  | mk fs' outcome =>
    rw [hrun] at h
    cases outcome with
    | error e => cases h
    | ok g => exact ⟨fs', g, rfl, Option.some.inj h⟩

/-- A run that writes the files of two models, which are one file. -/
def twice : Context := { orders with config := { orders.config with dryRun := false } }

theorem run_effect_twice : twice.config.dryRun = false ∧ ∃ ms fs' g, twice.plan = .ok ms ∧
    twice.run .passThrough ⟨[], .empty⟩ = (fs', .ok g) ∧
    (g.all.map fun f => f.path.text) = ["/out/order_item.ts", "/out/order_item.ts", "/out/index.ts"] ∧
    (∀ f ∈ g.all, ∃ last, IsLast (fun f' => fs'.follow f'.path = fs'.follow f.path) g.all last ∧
      fs'.read f.path = .ok last.content) ∧
    (∀ f ∈ g.all, ∃ last, IsLast (fun f' => f'.path = f.path) g.all last ∧ fs'.read f.path = .ok last.content) ∧
    twice.run .passThrough fs' = (fs', .ok g) := by
  obtain ⟨ms, hms⟩ : ∃ ms, twice.plan = .ok ms := ⟨_, rfl⟩
  obtain ⟨fs', g, hrun, hpaths⟩ : ∃ fs' g, twice.run .passThrough ⟨[], .empty⟩ = (fs', .ok g) ∧
      (g.all.map fun f => f.path.text) = ["/out/order_item.ts", "/out/order_item.ts", "/out/index.ts"] :=
    exists_run_of_report (by decide +kernel)
  have hfinished := ((run_effect twice .passThrough ⟨[], .empty⟩ rfl).2 ms hms).2.2.2 fs' g hrun
  have hflat : twice.Flat := flat_of_isIdentifier (by decide +kernel)
  exact ⟨rfl, ms, fs', g, hms, hrun, hpaths, hfinished.read, hfinished.readFlat hflat, hfinished.again⟩

/-- A run over two models whose files are one, under two paths. -/
def detour : Context :=
  { small false [⟨"A/../B", [.number "first"]⟩, ⟨"B", [.number "second"]⟩] with
    config := { makeIndex := false, dryRun := false, swagger := false } }

/-- At both paths is the text of the second file. -/
theorem run_detour : ∃ fs' g, detour.run .passThrough ⟨[], .empty⟩ = (fs', .ok g) ∧
    (g.all.map fun f => (f.path.text, f.content, fs'.read f.path)) =
      [("/out/a/../b.ts", "export class A/../B \x7b\n  first: number = undefined;\n\x7d\n",
          .ok "export class B \x7b\n  second: number = undefined;\n\x7d\n"),
        ("/out/b.ts", "export class B \x7b\n  second: number = undefined;\n\x7d\n",
          .ok "export class B \x7b\n  second: number = undefined;\n\x7d\n")] :=
  exists_run_of_report (by decide +kernel)

/-- A path of a run need not have the text of the last file with this path. -/
theorem run_not_read_by_path : detour.config.dryRun = false ∧
    ∃ fs' g, detour.run .passThrough ⟨[], .empty⟩ = (fs', .ok g) ∧
      ¬∀ f ∈ g.all, ∃ last, IsLast (fun f' => f'.path = f.path) g.all last ∧ fs'.read f.path = .ok last.content := by
  obtain ⟨fs', g, hrun, hfiles⟩ := run_detour
  refine ⟨rfl, fs', g, hrun, fun hall => ?_⟩
  obtain ⟨first, l, hg, hfirst, hrest⟩ := List.map_eq_cons_iff.1 hfiles
  obtain ⟨second, l, rfl, hsecond, hnil⟩ := List.map_eq_cons_iff.1 hrest
  obtain rfl := List.map_eq_nil_iff.1 hnil
  simp only [Prod.mk.injEq] at hfirst hsecond
  obtain ⟨last, ⟨before, after, hsplit, hpath, -⟩, hread⟩ := hall first (hg ▸ List.mem_cons_self)
  have hlast : last ∈ [first, second] := hg ▸ hsplit ▸ List.mem_append_right _ List.mem_cons_self
  rcases List.mem_pair.1 hlast with rfl | rfl
  · rw [hfirst.2.2, hfirst.2.1] at hread
    exact absurd hread (by decide +kernel)
  · -- The second file has another path.
    have htext := congrArg Path.text hpath
    rw [hfirst.1, hsecond.1] at htext
    exact absurd htext (by decide)

end Context
end SchemaClasses
