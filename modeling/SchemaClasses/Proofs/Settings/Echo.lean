import SchemaClasses.Command.Script
import SchemaClasses.Proofs.Json.Writing
import SchemaClasses.Proofs.Schema.Stability
import SchemaClasses.Proofs.Settings.Coercion

/-!
# Settings in reports

A setting is written as a tree that tells its kind (`Setting.tree`), and read back from it (`Setting.read_tree`). So
settings are what is read from their own text, whatever stands in their keys and texts (`Settings.decode_json`), and a
report about settings of the wrong kind ends with a text that says all of them (`Context.input_echoed`).
-/

namespace SchemaClasses

open Json (Tree Written)

/-! ## One setting -/

namespace Setting

/-- The tree that the text of a setting spells. -/
def tree : Setting → Tree
  | .flag b => .bool b
  | .text s => .string (.ofText s)
  | .list items => .array (items.map fun s => .string (.ofText s)) none

theorem written_tree (value : Setting) : Written value.toJson.compact value.tree := by
  cases value with
  | flag b => exact Json.written_bool b
  | text s => exact Json.written_string s
  | list items =>
    refine Json.written_array (Json.forall₂_map (fun s => ?_) items)
    exact Json.written_string s

theorem value_tree {depth : Nat} (hdepth : depth < 127) (value : Setting) :
    Json.value depth value.tree = .ok value.toJson := by
  cases value with
  | flag b => rfl
  | text s => exact Json.value_text depth s
  | list items =>
    refine Json.value_array_eq_ok_iff.2 ⟨hdepth, rfl, _, Json.forall₂_map (fun s => ?_) items, rfl⟩
    exact Json.value_text (depth + 1) s

/-- The form of a value tells which setting it was. -/
theorem ofJson?_toJson (value : Setting) : ofJson? value.toJson = some value := by
  cases value with
  | flag b => rfl
  | text s => rfl
  | list items =>
    have htexts : (items.map Json.Value.string).mapM stringOf? = some items := by
      rw [List.mapM_map]
      exact (List.mapM_pure (m := Option) (f := id)).trans (congrArg some items.map_id)
    rw [toJson, ofJson?, htexts]
    rfl

theorem read_tree {depth : Nat} (hdepth : depth < 127) (value : Setting) :
    Setting.read depth value.tree = .ok value := by
  rw [read_eq, value_tree hdepth]
  exact congrArg (fun o => Option.elim o (Except.error _) Except.ok) (ofJson?_toJson value)

end Setting

/-! ## All settings -/

namespace Settings

/-- The tree that the text of settings spells. -/
def tree (s : Settings) : Tree := .object (s.entries.map fun e => Json.member e.1 e.2.tree) none

theorem written_tree (s : Settings) : Written s.json s.tree :=
  Json.written_object (Json.forall₂_map (fun e => ⟨rfl, e.2.written_tree⟩) s.entries)

theorem read_tree (s : Settings) : Settings.read 0 s.tree = .ok s := by
  refine Json.dictionary_eq_ok_iff.2 ⟨_, s.entries, rfl, by decide, ?_, s.ofList_entries.symm⟩
  refine List.forall₂_map_left_iff.2 (List.forall₂_same.2 fun e _ => ?_)
  exact ⟨Json.memberKey_text e.1, e.2.read_tree (by decide)⟩

/-- Settings are what is read from the text that is written for them. -/
theorem decode_json (s : Settings) : Json.decode Settings.read s.json = .ok s :=
  (Json.decode_eq_ok_iff stable_settings.thorough).2 ⟨s.tree, s.written_tree.spelled, s.read_tree⟩

/-- Settings that give no configuration stand in the error as they are. -/
theorem input_of_error {s : Settings} {e : InvalidSetting} (h : Configuration.ofSettings s = .error e) :
    e.input = s := by
  rw [Configuration.ofSettings_eq, Outcome.orElse_eq_error_iff] at h
  obtain ⟨_, _, _, -, -, -, rfl⟩ := exists_of_fault? h
  rfl

end Settings

namespace Context

/-- **A report says what it was given**: settings are read back from the text that is written for them. So if the
settings of a document, of a file and of flags, laid over each other, give no configuration, then this is why no context
is had, and the report of it ends with a line that says just these settings. -/
theorem input_echoed :
    (∀ s : Settings, Json.decode Settings.read s.json = .ok s) ∧
    ∀ (d : Document) (file : Settings) (flags : Flags) (e : InvalidSetting),
      Configuration.ofSettings (d.block.settings.layered file flags) = .error e →
      (∀ env cwd, ofLayers env cwd d file flags = .error (invalid e)) ∧
      (∀ (s : Surroundings) (args : GenerateArgs), args.flags = flags →
        Command.loadSettings s (args.config.getD ⟨Command.settingsFile⟩) = .ok file →
        Command.contextOf s args d = .error (.generation (invalid e))) ∧
      ∃ message text, (Notice.of (.generation (invalid e))).lines = [message, usage, "Your Input : " ++ text] ∧
        Json.decode Settings.read text = .ok (d.block.settings.layered file flags) := by
  refine ⟨Settings.decode_json, fun d file flags e he => ?_⟩
  have hlayers : ∀ env cwd, ofLayers env cwd d file flags = .error (invalid e) := by
    intro env cwd
    unfold ofLayers
    rw [he]
    rfl
  refine ⟨hlayers, ?_, _, e.input.json, rfl, ?_⟩
  · rintro s args rfl hfile
    unfold Command.contextOf
    rw [hfile]
    exact congrArg (Except.mapError CommandError.generation) (hlayers s.env s.cwd)
  · rw [← Settings.input_of_error he]
    exact e.input.decode_json

/-- A document with quotes, line breaks, controls and characters beyond sixteen bits in its settings. -/
def garbled : Document where
  block := ⟨"classes", .unset, none,
    .ofList [("dryRun", .text "\"no\\\n"), ("🎉\t", .list ["\"", "", "\x01\x7f"]), ("useSwagger", .flag false)]⟩
  neighbours := []
  schemaPath := none
  schema := ⟨[], []⟩

theorem input_echoed_garbled :
    ∃ e text, ofLayers (fun _ => none) ⟨"/work"⟩ garbled (.ofList [("dryRun", .list ["\\", "é"])])
        { output := some ⟨"./out"⟩ } = .error (invalid e) ∧
      (Notice.of (.generation (invalid e))).lines[2]? = some ("Your Input : " ++ text) ∧
      Json.decode Settings.read text = .ok (.ofList [("dryRun", .list ["\\", "é"]), ("output", .text "./out"),
        ("useSwagger", .flag false), ("🎉\t", .list ["\"", "", "\x01\x7f"])]) := by
  obtain ⟨hlayers, -, message, text, hlines, htext⟩ := input_echoed.2 garbled (.ofList [("dryRun", .list ["\\", "é"])])
    { output := some ⟨"./out"⟩ } ⟨"dryRun", "[\\, é]", .flag, _⟩ rfl
  refine ⟨_, text, hlayers _ _, ?_, htext⟩
  rw [hlines]
  rfl

end Context
end SchemaClasses
