import SchemaClasses.Proofs.FileSystem.Shape
import SchemaClasses.Proofs.Generation.Effect

/-!
# Runs side by side

Two runs that plan the same modules report the same files but for what is done with each file alone
(`Context.prepare_map`). For a dry run this is the mark that the file was written: so it reports what the other run
writes, as long as that can write it (`Context.dry_run_previews`). For two formatters it is the text and whether it was
laid out: so a formatter changes no other part of the outcome, and what it is asked for does not depend on its answers
(`Context.formatter_lays_out`).
-/

namespace SchemaClasses

open Outcome

/-! ## Reports with changed files -/

/-- The report with a change made to each file. -/
def Generated.map (F : OutputFile → OutputFile) (g : Generated) : Generated := ⟨g.files.map F, g.index.map F⟩

theorem Generated.all_map (F : OutputFile → OutputFile) (g : Generated) : (g.map F).all = g.all.map F := by
  unfold Generated.all Generated.map
  cases g.index <;> simp

/-- Changes that agree on the files of a report make the same of it. -/
theorem Generated.map_congr {F F' : OutputFile → OutputFile} {g : Generated} (h : ∀ f ∈ g.all, F f = F' f) :
    g.map F = g.map F' := by
  obtain ⟨hfiles, hindex⟩ := List.forall_mem_append.1 h
  unfold Generated.map
  rw [List.map_congr_left hfiles, Option.map_congr fun f hf => hindex f (Option.mem_toList.2 hf)]

/-- What is prepared with a change made to each file. -/
def Context.Prepared.map (F : OutputFile → OutputFile) (p : Context.Prepared) : Context.Prepared :=
  ⟨p.files.map F, p.outcome.map (Generated.map F)⟩

/-- The file with the mark that it was written, or not. -/
def OutputFile.marked (written : Bool) (f : OutputFile) : OutputFile := { f with written }

/-- The file as a formatter lays it out, or as it is if the formatter refuses. -/
def OutputFile.laidOut (fmt : Formatter) (f : OutputFile) : OutputFile :=
  match fmt f.path f.content with
  | .ok text => { f with content := text, formatted := true }
  | .error _ => { f with formatted := false }

theorem OutputFile.path_laidOut (fmt : Formatter) (f : OutputFile) : (f.laidOut fmt).path = f.path := by
  unfold laidOut
  split <;> rfl

/-! ## Files that cannot be written -/

/-- A failure to write a file or to make its directory. -/
def GenerationError.isWrite : GenerationError → Bool
  | .noDirectory .. | .unwritable .. => true
  | _ => false

theorem FileSystem.isWrite_of_writeAll {fs fs' : FileSystem} {files : List (Path × String)} {e : GenerationError}
    (h : fs.writeAll files = (fs', some e)) : e.isWrite = true := by
  induction files generalizing fs with
  | nil => cases h
  | cons file files ih =>
    unfold writeAll at h
    split at h
    · rename_i hfile
      cases h
      rcases (grown_of_writeFile hfile).2 with ⟨q, cause, -, rfl⟩ | ⟨cause, rfl⟩ <;> rfl
    · exact ih h

namespace Context

variable {c c' : Context} {fmt fmt' : Formatter} {F : OutputFile → OutputFile} {ms : List SourceModule}
  {fs : FileSystem} {g : Generated}

theorem prepareModules_map
    (h : ∀ path source, c'.outputFile fmt' path source = F (c.outputFile fmt path source)) :
    c'.prepareModules fmt' ms = ((c.prepareModules fmt ms).1.map F, (c.prepareModules fmt ms).2) := by
  induction ms with
  | nil => rfl
  | cons m ms ih =>
    rw [prepareModules, prepareModules]
    cases m.render with
    | error e => rfl
    | ok source =>
      dsimp only
      rw [ih, h]
      rfl

/-- What one run makes of each file from that of another, it makes of all that is prepared. -/
theorem prepare_map (h : ∀ path source, c'.outputFile fmt' path source = F (c.outputFile fmt path source))
    (houtput : c'.output = c.output) (hindex : c'.config.makeIndex = c.config.makeIndex) :
    c'.prepare fmt' ms = (c.prepare fmt ms).map F := by
  unfold prepare
  rw [prepareModules_map h, hindex]
  obtain ⟨files, failure⟩ := c.prepareModules fmt ms
  cases failure with
  | some e => rfl
  | none =>
    have hfile : c'.indexFile fmt' ms = F (c.indexFile fmt ms) := by
      unfold indexFile
      rw [houtput]
      exact h _ _
    have hmade : (⟨files.map F, if c.config.makeIndex then some (c'.indexFile fmt' ms) else none⟩ : Generated) =
        Generated.map F ⟨files, if c.config.makeIndex then some (c.indexFile fmt ms) else none⟩ := by
      rw [hfile]
      unfold Generated.map
      cases c.config.makeIndex <;> rfl
    dsimp only
    rw [hmade, Generated.all_map]
    rfl

/-! ## Dry runs -/

/-- The context of a run that is dry, or not. -/
def withDryRun (c : Context) (dryRun : Bool) : Context := { c with config := { c.config with dryRun } }

/-- What a run reports, or why it fails, if all it writes can be written. -/
def report (c : Context) (fmt : Formatter) : Except GenerationError Generated := do
  let ms ← c.plan
  (c.prepare fmt ms).outcome

theorem run_of_dry (hdry : c.config.dryRun = true) : c.run fmt fs = (fs, c.report fmt) := by
  unfold run report
  cases c.plan with
  | error e => rfl
  | ok ms => exact if_pos hdry

/-- A run that is not dry cannot write a file, or has its report. -/
theorem run_cases (fmt : Formatter) (fs : FileSystem) (hdry : c.config.dryRun = false) :
    (∃ fs' e, c.run fmt fs = (fs', .error e) ∧ e.isWrite = true) ∨ ∃ fs', c.run fmt fs = (fs', c.report fmt) := by
  unfold run report
  cases c.plan with
  | error e => exact Or.inr ⟨fs, rfl⟩
  | ok ms =>
    dsimp only
    rw [if_neg (by rw [hdry]; exact Bool.false_ne_true)]
    cases hwrite : fs.writeAll ((c.prepare fmt ms).files.map fun f => (f.path, f.content)) with
    | mk fs' failure =>
      cases failure with
      | some e => exact Or.inl ⟨fs', e, rfl, FileSystem.isWrite_of_writeAll hwrite⟩
      | none => exact Or.inr ⟨fs', rfl⟩

/-- Whether a run is dry changes nothing in its report but the marks. -/
theorem report_withDryRun (c : Context) (fmt : Formatter) (dryRun other : Bool) :
    (c.withDryRun dryRun).report fmt =
      ((c.withDryRun other).report fmt).map (Generated.map (OutputFile.marked !dryRun)) := by
  have hplan : (c.withDryRun dryRun).plan = (c.withDryRun other).plan := rfl
  unfold report
  rw [hplan]
  cases (c.withDryRun other).plan with
  | error e => rfl
  | ok ms =>
    have hfile : ∀ path source, (c.withDryRun dryRun).outputFile fmt path source =
        ((c.withDryRun other).outputFile fmt path source).marked !dryRun := fun _ _ => rfl
    exact congrArg Prepared.outcome (prepare_map hfile rfl rfl)

/-- All files of a report have the same mark. -/
theorem written_of_report {dryRun : Bool} (h : (c.withDryRun dryRun).report fmt = .ok g) :
    ∀ f ∈ g.all, f.written = !dryRun := by
  have hself := c.report_withDryRun fmt dryRun dryRun
  rw [h] at hself
  have hall : g.all = g.all.map (OutputFile.marked !dryRun) :=
    (congrArg Generated.all (Except.ok.inj hself)).trans (g.all_map _)
  intro f hf
  rw [hall] at hf
  obtain ⟨f', -, rfl⟩ := List.mem_map.1 hf
  rfl

/-- **A dry run is a preview.** It leaves the file system as it is; and unless the other run cannot write a file, it
ends with the same error or reports the same files, each with the mark that it was not written. -/
theorem dry_run_previews (c : Context) (fmt : Formatter) (fs : FileSystem) :
    ((c.withDryRun true).run fmt fs).1 = fs ∧
    ((∀ e, ((c.withDryRun false).run fmt fs).2 = .error e → e.isWrite = false) →
      ((c.withDryRun true).run fmt fs).2 =
        ((c.withDryRun false).run fmt fs).2.map (Generated.map (OutputFile.marked false))) ∧
    (∀ g, ((c.withDryRun true).run fmt fs).2 = .ok g → (∀ f ∈ g.all, f.written = false) ∧ g.written = 0) ∧
    ∀ g, ((c.withDryRun false).run fmt fs).2 = .ok g → (∀ f ∈ g.all, f.written = true) ∧ g.written = g.all.length := by
  have hdry : (c.withDryRun true).run fmt fs = (fs, (c.withDryRun true).report fmt) := run_of_dry rfl
  rw [hdry]
  refine ⟨rfl, fun hwrites => ?_, fun g hg => ?_, fun g hg => ?_⟩
  · rcases run_cases (c := c.withDryRun false) fmt fs rfl with ⟨fs', e, hrun, he⟩ | ⟨fs', hrun⟩
    · have hnot := hwrites e (congrArg Prod.snd hrun)
      rw [he] at hnot
      cases hnot
    · rw [hrun]
      exact c.report_withDryRun fmt true false
  · have hall : ∀ f ∈ g.all, f.written = false := written_of_report hg
    exact ⟨hall, List.countP_eq_zero.2 fun f hf => by rw [hall f hf]; exact Bool.false_ne_true⟩
  · rcases run_cases (c := c.withDryRun false) fmt fs rfl with ⟨fs', e, hrun, -⟩ | ⟨fs', hrun⟩
    · rw [hrun] at hg
      cases hg
    · rw [hrun] at hg
      have hall : ∀ f ∈ g.all, f.written = true := written_of_report hg
      exact ⟨hall, List.countP_eq_length.2 hall⟩

theorem dry_run_previews_twice :
    (∀ e, ((twice.withDryRun false).run .passThrough ⟨[], .empty⟩).2 = .error e → e.isWrite = false) ∧
    ((twice.withDryRun true).run .passThrough ⟨[], .empty⟩).2 =
      ((twice.withDryRun false).run .passThrough ⟨[], .empty⟩).2.map (Generated.map (OutputFile.marked false)) ∧
    ((twice.withDryRun true).run .passThrough ⟨[], .empty⟩).2.toOption.isSome = true := by
  have hok : ((twice.withDryRun false).run .passThrough ⟨[], .empty⟩).2.toOption.isSome = true := by decide +kernel
  have hwrites : ∀ e, ((twice.withDryRun false).run .passThrough ⟨[], .empty⟩).2 = .error e → e.isWrite = false := by
    intro e he
    rw [he] at hok
    cases hok
  have hsame := (dry_run_previews twice .passThrough ⟨[], .empty⟩).2.1 hwrites
  refine ⟨hwrites, hsame, ?_⟩
  rw [hsame]
  cases hreal : ((twice.withDryRun false).run .passThrough ⟨[], .empty⟩).2 with
  | error e => rw [hreal] at hok; cases hok
  | ok g => rfl

/-! ## Formatters -/

/-- A formatter lays out the files that pass through. -/
theorem outputFile_eq_laidOut (c : Context) (fmt : Formatter) (path : Path) (source : String) :
    c.outputFile fmt path source = (c.outputFile .passThrough path source).laidOut fmt := by
  unfold outputFile OutputFile.laidOut Formatter.orKeep Formatter.passThrough
  dsimp only
  cases fmt path source <;> rfl

theorem prepare_eq_laidOut (c : Context) (fmt : Formatter) (ms : List SourceModule) :
    c.prepare fmt ms = (c.prepare .passThrough ms).map (OutputFile.laidOut fmt) :=
  prepare_map (c.outputFile_eq_laidOut fmt) rfl rfl

/-- Only the texts that pass through are given to a formatter. -/
theorem prepare_congr (h : ∀ f ∈ (c.prepare .passThrough ms).files, fmt' f.path f.content = fmt f.path f.content) :
    c.prepare fmt' ms = c.prepare fmt ms := by
  have hsame : ∀ f ∈ (c.prepare .passThrough ms).files, f.laidOut fmt' = f.laidOut fmt := by
    intro f hf
    unfold OutputFile.laidOut
    rw [h f hf]
  rw [c.prepare_eq_laidOut fmt', c.prepare_eq_laidOut fmt]
  unfold Prepared.map
  rw [List.map_congr_left hsame]
  rcases c.prepare_cases .passThrough ms with ⟨g, hprepare, -⟩ | ⟨files, e, after, hprepare, -⟩
  · rw [hprepare] at hsame ⊢
    exact congrArg (fun g' => Prepared.mk _ (.ok g')) (Generated.map_congr hsame)
  · rw [hprepare]
    rfl

/-- **A formatter lays out files and does nothing else.** The outcome of a run is that of the run that leaves all code as
it is, with each file of the report laid out by the formatter, or as it is where that refuses. The two runs leave
directories and files at the same places. And the formatter is asked for the texts of the other run only, whatever it
makes of any of them. -/
theorem formatter_lays_out (c : Context) (fmt : Formatter) (fs : FileSystem) :
    (c.run fmt fs).2 = (c.run .passThrough fs).2.map (Generated.map (OutputFile.laidOut fmt)) ∧
    (c.run fmt fs).1.shape = (c.run .passThrough fs).1.shape ∧
    ∀ fmt' : Formatter, (∀ ms, c.plan = .ok ms → ∀ f ∈ (c.prepare .passThrough ms).files,
      fmt' f.path f.content = fmt f.path f.content) → c.run fmt' fs = c.run fmt fs := by
  unfold run
  cases c.plan with
  | error e => exact ⟨rfl, rfl, fun _ _ => rfl⟩
  | ok ms =>
    dsimp only
    rw [← and_assoc]
    refine ⟨?_, fun fmt' h => by rw [prepare_congr (h ms rfl)]⟩
    rw [c.prepare_eq_laidOut fmt ms]
    generalize c.prepare .passThrough ms = prepared
    split
    · exact ⟨rfl, rfl⟩
    · have hpaths : ((prepared.map (OutputFile.laidOut fmt)).files.map fun f => (f.path, f.content)).map Prod.fst =
          (prepared.files.map fun f => (f.path, f.content)).map Prod.fst := by
        simp [Prepared.map, OutputFile.path_laidOut]
      -- Both runs write to the same paths, so both can or both fail alike.
      obtain ⟨mid, mid', failure, hwrite, hwrite', hmid⟩ :=
        FileSystem.exists_of_shape_eq (FileSystem.shape_writeAll (rfl : fs.shape = fs.shape) hpaths)
      rw [hwrite, hwrite']
      cases failure <;> exact ⟨rfl, hmid⟩

/-- A formatter that refuses the index. -/
def wary : Formatter := fun path source =>
  if path.text = "/out/index.ts" then .error (.failed (.code 2) "refused") else .ok ("// laid out\n" ++ source)

theorem formatter_lays_out_wary :
    (twice.run wary ⟨[], .empty⟩).2 =
      (twice.run .passThrough ⟨[], .empty⟩).2.map (Generated.map (OutputFile.laidOut wary)) ∧
    ((twice.run wary ⟨[], .empty⟩).2.toOption.map fun g => g.all.map OutputFile.formatted) =
      some [true, true, false] := by
  have hsame := (formatter_lays_out twice wary ⟨[], .empty⟩).1
  refine ⟨hsame, ?_⟩
  rw [hsame]
  decide +kernel

end Context
end SchemaClasses
