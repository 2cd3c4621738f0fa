import SchemaClasses.Proofs.Ordered.Lookup
import SchemaClasses.Proofs.Outcome
import SchemaClasses.Settings.Configuration

/-!
# Settings and options

An option takes a setting of its kind (`Setting.Fits`). One setting either is at fault or changes its own option and no
other (`Configuration.assign_eq`), and a dictionary names each option at most once. So the settings of a dictionary give
the first fault, or each option the setting under its name, if there is one, and else its default
(`Configuration.ofSettings_eq`): they give a configuration just where each of them fits (`Settings.fault?_eq_none_iff`).
-/

namespace SchemaClasses

open Outcome

/-! ## Settings that fit -/

/-- The kind of the option with a name. -/
def optionKind? : String → Option OptionKind
  | "makeIndexFile" | "dryRun" | "separateRelationFields" | "useSwagger" => some .flag
  | "output" => some .path
  | _ => none

namespace Setting

/-- Whether a setting has a value of a kind. -/
def isOf (value : Setting) : OptionKind → Bool
  | .flag => value.flag?.isSome
  | .path => value.path?.isSome

/-- A setting has a value of the kind of the option with a name, if there is such an option. -/
def Fits (value : Setting) (key : String) : Prop := ∀ kind, optionKind? key = some kind → value.isOf kind = true

/-- The kind of the option with a name, if a setting has no value of this kind. -/
def fault? (value : Setting) (key : String) : Option OptionKind :=
  (optionKind? key).filter fun kind => !value.isOf kind

theorem fault?_of_kind {value : Setting} {key : String} {kind : OptionKind} (h : optionKind? key = some kind) :
    value.fault? key = if value.isOf kind then none else some kind := by
  unfold fault?
  rw [h]
  cases hkind : value.isOf kind <;> simp only [Option.filter, hkind] <;> rfl

theorem fault?_eq_some_iff {value : Setting} {key : String} {kind : OptionKind} :
    value.fault? key = some kind ↔ optionKind? key = some kind ∧ value.isOf kind = false := by
  unfold fault?
  rw [Option.filter_eq_some_iff, Bool.not_eq_true']

theorem fault?_eq_none_iff {value : Setting} {key : String} : value.fault? key = none ↔ value.Fits key := by
  unfold fault? Fits
  rw [Option.filter_eq_none_iff]
  simp

end Setting

namespace Configuration

/-! ## One setting -/

/-- The configuration with the options that have a setting, each as its setting says. -/
def updated (c : Configuration) (setting? : String → Option Setting) : Configuration where
  makeIndex := ((setting? "makeIndexFile").bind Setting.flag?).getD c.makeIndex
  dryRun := ((setting? "dryRun").bind Setting.flag?).getD c.dryRun
  split := ((setting? "separateRelationFields").bind Setting.flag?).getD c.split
  swagger := ((setting? "useSwagger").bind Setting.flag?).getD c.swagger
  output := ((setting? "output").bind Setting.path?).getD c.output

/-- The look-up that has one setting. -/
def only (key : String) (value : Setting) (j : String) : Option Setting := if j = key then some value else none

theorem only_self (key : String) (value : Setting) : only key value key = some value := if_pos rfl

theorem only_of_ne {key j : String} (h : j ≠ key) (value : Setting) : only key value j = none := if_neg h

/-- A setting that has a value of its kind is taken, and one that has none is at fault. -/
theorem eq_orElse_fault? {α : Type} {updated : Configuration} {key : String} {value : Setting} {kind : OptionKind}
    {read? : Option α} {outcome : Except OptionKind Configuration} (hkind : optionKind? key = some kind)
    (hread : value.isOf kind = read?.isSome) (htaken : ∀ a, read? = some a → outcome = .ok updated)
    (hfault : read? = none → outcome = .error kind) : outcome = orElse (value.fault? key) updated := by
  rw [Setting.fault?_of_kind hkind, hread]
  cases hr : read? with
  | none => exact hfault hr
  | some a => exact htaken a hr

/-- A setting changes its own option, or it does not fit. -/
theorem assign_eq (c : Configuration) (key : String) (value : Setting) :
    c.assign key value = orElse (value.fault? key) (c.updated (only key value)) := by
  unfold assign
  dsimp only
  split
  case h_6 h₁ h₂ h₃ h₄ h₅ =>
    have hkind : optionKind? key = none := by
      unfold optionKind?
      split <;> first | rfl | exact absurd rfl ‹_›
    have hsame : c.updated (only key value) = c := by
      unfold updated
      rw [only_of_ne (Ne.symm h₁), only_of_ne (Ne.symm h₂), only_of_ne (Ne.symm h₃), only_of_ne (Ne.symm h₄),
        only_of_ne (Ne.symm h₅)]
      rfl
    unfold Setting.fault?
    rw [hkind, hsame]
    rfl
  all_goals
    refine eq_orElse_fault? rfl rfl (fun a ha => ?_) fun hnone => by rw [hnone]
    simp (disch := decide) only [updated, only_self, only_of_ne, Option.bind_some, Option.bind_none, ha,
      Option.getD_some, Option.getD_none]

/-! ## All settings -/

/-- Settings under different names do not meet. -/
theorem updated_updated {first second : String → Option Setting} (h : ∀ key, first key = none ∨ second key = none)
    (c : Configuration) : (c.updated first).updated second = c.updated fun key => (first key).or (second key) := by
  have hor : ∀ {α : Type} (f : Setting → Option α) (key : String) (a : α),
      ((second key).bind f).getD (((first key).bind f).getD a) = (((first key).or (second key)).bind f).getD a := by
    intro α f key a
    rcases h key with h | h <;> simp [h]
  simp only [updated, hor]

/-- Why settings give no configuration: the first one that does not fit, among all of `input`. -/
def faultOf (input : Settings) (e : String × Setting) : Option InvalidSetting :=
  (e.2.fault? e.1).map (⟨e.1, e.2.display, ·, input⟩)

/-- Settings under distinct names are taken one after the other up to the first that does not fit. -/
theorem assignAll_eq (input : Settings) {es : List (String × Setting)} (h : (es.map Prod.fst).Nodup)
    (c : Configuration) : assignAll input c es = orElse (es.findSome? (faultOf input)) (c.updated (es.lookup ·)) := by
  induction es generalizing c with
  | nil => rfl
  | cons e es ih =>
    obtain ⟨key, value⟩ := e
    obtain ⟨hnew, hes⟩ := List.nodup_cons.1 h
    have hkey : key ∉ es.map Prod.fst := hnew
    have hlookup : (fun j => (only key value j).or (es.lookup j)) = (((key, value) :: es).lookup ·) := by
      funext j
      unfold only
      rw [List.lookup_cons]
      by_cases hj : j = key
      · rw [if_pos hj, hj, beq_self_eq_true]
        rfl
      · rw [if_neg hj, beq_false_of_ne hj]
        rfl
    have hapart : ∀ j, only key value j = none ∨ es.lookup j = none := by
      intro j
      by_cases hj : j = key
      · subst hj
        refine Or.inr (List.lookup_eq_none_iff.2 fun e he => ?_)
        refine bne_iff_ne.2 fun heq => hkey ?_
        rw [heq]
        exact List.mem_map_of_mem he
      · exact Or.inl (if_neg hj)
    rw [assignAll, assign_eq, List.findSome?_cons]
    unfold faultOf
    cases value.fault? key with
    | some kind => rfl
    | none =>
      rw [← hlookup, ← updated_updated hapart]
      exact ih hes _

end Configuration

namespace Settings

variable {s : Settings}

/-- Why settings give no configuration. -/
def fault? (s : Settings) : Option InvalidSetting := s.entries.findSome? (Configuration.faultOf s)

/-- Settings are without fault just where each of them fits. -/
theorem fault?_eq_none_iff : s.fault? = none ↔ ∀ key value, s.get? key = some value → value.Fits key := by
  unfold fault?
  simp only [List.findSome?_eq_none_iff, Prod.forall, s.mem_entries_iff, Configuration.faultOf, Option.map_eq_none_iff,
    Setting.fault?_eq_none_iff]

/-- A fault names a setting that does not fit. -/
theorem exists_of_fault? {e : InvalidSetting} (h : s.fault? = some e) :
    ∃ key value kind, s.get? key = some value ∧ optionKind? key = some kind ∧ value.isOf kind = false ∧
      e = ⟨key, value.display, kind, s⟩ := by
  obtain ⟨⟨key, value⟩, hmem, hfault⟩ := List.exists_of_findSome?_eq_some h
  obtain ⟨kind, hkind, rfl⟩ := Option.map_eq_some_iff.1 hfault
  obtain ⟨hoption, hvalue⟩ := Setting.fault?_eq_some_iff.1 hkind
  exact ⟨key, value, kind, s.mem_entries_iff.1 hmem, hoption, hvalue, rfl⟩

end Settings

/-- Settings give the first fault, or each option as its setting says, and else its default. -/
theorem Configuration.ofSettings_eq (s : Settings) :
    Configuration.ofSettings s = orElse s.fault? (({} : Configuration).updated s.get?) :=
  assignAll_eq s s.nodup_keys {}

end SchemaClasses
