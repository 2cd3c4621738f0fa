import SchemaClasses.Proofs.Settings.Coercion

/-!
# Settings that are accepted

A setting says a truth value (`Setting.Says`) or names a path (`Setting.Names`), and it offends under the key of an
option that takes no such value (`Setting.offends_iff`). Settings none of which offends give a configuration, each
option of which is as its setting says, or else its default (`Settings.gives_updated`). Settings are listed in the order
of their keys, so the one that is reported is the offending one with the least key (`Settings.le_of_fault?`). All of
this is known from the settings under the keys of options (`Configuration.ofSettings_accepts`).
-/

namespace SchemaClasses

open Outcome

/-! ## Values of settings -/

namespace Setting

variable {value : Setting}

/-- A setting is a truth value, or a text that is its word but for the case of ASCII letters. -/
def Says (value : Setting) (b : Bool) : Prop :=
  value = .flag b ∨ ∃ t, value = .text t ∧ t.toList.map Char.toLower = (toString b).toList

/-- A setting is the text of a path, and not empty. -/
def Names (value : Setting) (p : Path) : Prop := p.text ≠ "" ∧ value = .text p.text

theorem flag?_eq_some_iff {b : Bool} : value.flag? = some b ↔ value.Says b := by
  cases value with
  | flag a => simp [flag?, Says]
  | list items => simp [flag?, Says]
  | text t =>
    simp only [flag?, Says, isWord, reduceCtorEq, Setting.text.injEq, exists_eq_left', false_or, beq_iff_eq]
    by_cases htrue : t.toList.map Char.toLower = "true".toList
    · rw [if_pos htrue, htrue]
      cases b <;> decide
    · rw [if_neg htrue]
      by_cases hfalse : t.toList.map Char.toLower = "false".toList
      · rw [if_pos hfalse, hfalse]
        cases b <;> decide
      · rw [if_neg hfalse]
        refine iff_of_false nofun ?_
        cases b
        · exact hfalse
        · exact htrue

theorem path?_eq_some_iff {p : Path} : value.path? = some p ↔ value.Names p := by
  obtain ⟨text⟩ := p
  cases value with
  | flag a => simp [path?, Names]
  | list items => simp [path?, Names]
  | text t =>
    simp only [path?, Names, Setting.text.injEq]
    by_cases hempty : t = ""
    · subst hempty
      refine iff_of_false nofun ?_
      rintro ⟨hne, htext⟩
      exact hne htext.symm
    · rw [if_neg (by simpa using hempty), Option.some.injEq, Path.mk.injEq]
      constructor
      · rintro rfl
        exact ⟨hempty, rfl⟩
      · rintro ⟨-, htext⟩
        exact htext

theorem isOf_flag_eq_false_iff : value.isOf .flag = false ↔ ∀ b, ¬value.Says b := by
  show value.flag?.isSome = false ↔ _
  simp only [Option.isSome_eq_false_iff, Option.isNone_iff_eq_none, Option.eq_none_iff_forall_ne_some, ne_eq,
    flag?_eq_some_iff]

theorem isOf_path_eq_false_iff : value.isOf .path = false ↔ ∀ p, ¬value.Names p := by
  show value.path?.isSome = false ↔ _
  simp only [Option.isSome_eq_false_iff, Option.isNone_iff_eq_none, Option.eq_none_iff_forall_ne_some, ne_eq,
    path?_eq_some_iff]

end Setting

/-! ## Options of the generator -/

/-- The options that are truth values, each with what a configuration holds for it. -/
def flagOptions : List (String × (Configuration → Bool)) :=
  [("makeIndexFile", Configuration.makeIndex), ("dryRun", Configuration.dryRun),
    ("separateRelationFields", Configuration.split), ("useSwagger", Configuration.swagger)]

theorem optionKind?_eq_flag_iff {key : String} : optionKind? key = some .flag ↔ key ∈ flagOptions.map Prod.fst := by
  unfold optionKind?
  split <;> simp_all [flagOptions]

theorem optionKind?_eq_path_iff {key : String} : optionKind? key = some .path ↔ key = "output" := by
  unfold optionKind?
  split <;> simp_all

/-- A setting is under the key of an option, and has no value that this option takes. -/
def Setting.Offends (value : Setting) (key : String) : Prop :=
  (key ∈ flagOptions.map Prod.fst ∧ ∀ b, ¬value.Says b) ∨ (key = "output" ∧ ∀ p, ¬value.Names p)

theorem Setting.offends_iff {value : Setting} {key : String} :
    value.Offends key ↔ ∃ kind, value.fault? key = some kind := by
  simp only [Setting.fault?_eq_some_iff, Setting.Offends, ← optionKind?_eq_flag_iff, ← optionKind?_eq_path_iff,
    ← Setting.isOf_flag_eq_false_iff, ← Setting.isOf_path_eq_false_iff]
  constructor
  · rintro (⟨hkind, hvalue⟩ | ⟨hkind, hvalue⟩)
    · exact ⟨.flag, hkind, hvalue⟩
    · exact ⟨.path, hkind, hvalue⟩
  · rintro ⟨kind, hkind, hvalue⟩
    cases kind with
    | flag => exact Or.inl ⟨hkind, hvalue⟩
    | path => exact Or.inr ⟨hkind, hvalue⟩

theorem Setting.Offends.mem_knownOptions {value : Setting} {key : String} (h : value.Offends key) :
    key ∈ knownOptions.map KnownOption.key := by
  rcases h with ⟨hkey, -⟩ | ⟨rfl, -⟩
  · have hsubset : flagOptions.map Prod.fst ⊆ knownOptions.map KnownOption.key := by decide
    exact hsubset hkey
  · decide

/-! ## Settings that give a configuration -/

/-- What a configuration holds for a flag after an update is what the setting of this flag says. -/
theorem Configuration.flag_updated (c : Configuration) (setting? : String → Option Setting) :
    ∀ o ∈ flagOptions, o.2 (c.updated setting?) = ((setting? o.1).bind Setting.flag?).getD (o.2 c) := by
  simp [flagOptions, Configuration.updated]

namespace Settings

variable {s t : Settings}

/-- No setting offends: one under the key of a flag says a truth value, and one under `output` names a path. -/
def Coercible (s : Settings) : Prop :=
  (∀ key ∈ flagOptions.map Prod.fst, ∀ value, s.get? key = some value → ∃ b, value.Says b) ∧
    ∀ value, s.get? "output" = some value → ∃ p, value.Names p

/-- Each option of a configuration is as its setting says, and the default if there is none. -/
def Gives (s : Settings) (c : Configuration) : Prop :=
  (∀ o ∈ flagOptions,
    (∀ value, s.get? o.1 = some value → value.Says (o.2 c)) ∧ (s.get? o.1 = none → o.2 c = o.2 {})) ∧
  (∀ value, s.get? "output" = some value → value.Names c.output) ∧
    (s.get? "output" = none → c.output = ⟨defaultOutput⟩)

theorem coercible_iff : s.Coercible ↔ ∀ key value, s.get? key = some value → ¬value.Offends key := by
  unfold Coercible Setting.Offends
  constructor
  · rintro ⟨hflag, hpath⟩ key value hvalue (⟨hkey, hnone⟩ | ⟨rfl, hnone⟩)
    · obtain ⟨b, hb⟩ := hflag key hkey value hvalue
      exact hnone b hb
    · obtain ⟨p, hp⟩ := hpath value hvalue
      exact hnone p hp
  · intro h
    constructor
    · intro key hkey value hvalue
      by_contra hnone
      exact h key value hvalue (Or.inl ⟨hkey, not_exists.1 hnone⟩)
    · intro value hvalue
      by_contra hnone
      exact h "output" value hvalue (Or.inr ⟨rfl, not_exists.1 hnone⟩)

theorem fault?_eq_none_iff_coercible : s.fault? = none ↔ s.Coercible := by
  rw [coercible_iff, fault?_eq_none_iff]
  simp only [Setting.offends_iff, ← Setting.fault?_eq_none_iff, not_exists, Option.eq_none_iff_forall_ne_some, ne_eq]

theorem gives_updated (h : s.Coercible) : s.Gives (({} : Configuration).updated s.get?) := by
  refine ⟨fun o ho => ?_, fun value hvalue => ?_, fun hnone => ?_⟩
  · rw [Configuration.flag_updated _ _ o ho]
    constructor
    · intro value hvalue
      obtain ⟨b, hb⟩ := h.1 o.1 (List.mem_map_of_mem ho) value hvalue
      rw [hvalue, Option.bind_some, Setting.flag?_eq_some_iff.2 hb]
      exact hb
    · intro hnone
      rw [hnone]
      rfl
  · obtain ⟨p, hp⟩ := h.2 value hvalue
    simp only [Configuration.updated, hvalue, Option.bind_some, Setting.path?_eq_some_iff.2 hp, Option.getD_some]
    exact hp
  · simp only [Configuration.updated, hnone, Option.bind_none, Option.getD_none]

/-! ## The setting that is reported -/

/-- No offending setting stands under a lesser key than the one that is reported. -/
theorem le_of_fault? {e : InvalidSetting} (h : s.fault? = some e) {key : String} {value : Setting}
    (hvalue : s.get? key = some value) (hoffends : value.Offends key) : e.key ≤ key := by
  obtain ⟨before, first, after, hentries, hfirst, hbefore⟩ := List.findSome?_eq_some_iff.1 h
  obtain ⟨kind, hkind, rfl⟩ := Option.map_eq_some_iff.1 hfirst
  obtain ⟨fault, hfault⟩ := Setting.offends_iff.1 hoffends
  have hsorted := s.sorted
  rw [hentries] at hsorted
  have hmem : (key, value) ∈ before ++ first :: after := hentries ▸ s.mem_entries_iff.2 hvalue
  rcases List.mem_append.1 hmem with hmem | hmem
  · have hnone := hbefore _ hmem
    simp [Configuration.faultOf, hfault] at hnone
  · rcases List.mem_cons.1 hmem with rfl | hmem
    · exact String.le_refl _
    · have hlt := List.rel_of_pairwise_cons (List.pairwise_append.1 hsorted).2.1 hmem
      exact Std.le_of_lt hlt

/-- The bytes of a text. -/
def bytes (key : String) : List UInt8 := key.toUTF8.data.toList

theorem bytes_le_of_le : ∀ a ∈ knownOptions.map KnownOption.key, ∀ b ∈ knownOptions.map KnownOption.key, a ≤ b →
    bytes a ≤ bytes b := by
  decide +kernel

/-- An error names an offending setting, shows its value and holds all settings; no key with lesser bytes offends. -/
structure Reports (s : Settings) (e : InvalidSetting) : Prop where
  offends : ∃ value, s.get? e.key = some value ∧ value.Offends e.key ∧ e.value = value.display
  expected : optionKind? e.key = some e.expected
  input : e.input = s
  least : ∀ key value, s.get? key = some value → value.Offends key → bytes e.key ≤ bytes key

theorem reports_of_fault? {e : InvalidSetting} (h : s.fault? = some e) : s.Reports e := by
  obtain ⟨key, value, kind, hvalue, hkind, hof, rfl⟩ := exists_of_fault? h
  have hoffends : value.Offends key := Setting.offends_iff.2 ⟨kind, Setting.fault?_eq_some_iff.2 ⟨hkind, hof⟩⟩
  refine ⟨⟨value, hvalue, hoffends, rfl⟩, hkind, rfl, fun other value' hvalue' hoffends' => ?_⟩
  exact bytes_le_of_le key hoffends.mem_knownOptions other hoffends'.mem_knownOptions (le_of_fault? h hvalue' hoffends')

/-! ## Settings under other keys -/

/-- Settings are the same under the keys of options. -/
def Agree (s t : Settings) : Prop := ∀ key ∈ knownOptions.map KnownOption.key, s.get? key = t.get? key

theorem Agree.symm (h : s.Agree t) : t.Agree s := fun key hkey => (h key hkey).symm

theorem Agree.get? (h : s.Agree t) {key : String} {value : Setting} (hvalue : s.get? key = some value)
    (hoffends : value.Offends key) : t.get? key = some value :=
  (h key hoffends.mem_knownOptions).symm.trans hvalue

theorem Agree.fault?_eq_none (h : s.Agree t) (hfault : s.fault? = none) : t.fault? = none := by
  rw [fault?_eq_none_iff_coercible, coercible_iff] at hfault ⊢
  intro key value hvalue hoffends
  exact hfault key value (h.symm.get? hvalue hoffends) hoffends

theorem Agree.le_key (h : s.Agree t) {e e' : InvalidSetting} (hs : s.fault? = some e) (ht : t.fault? = some e') :
    e.key ≤ e'.key := by
  obtain ⟨value, hvalue, hoffends, -⟩ := (reports_of_fault? ht).offends
  exact le_of_fault? hs (h.symm.get? hvalue hoffends) hoffends

theorem Agree.updated (h : s.Agree t) (c : Configuration) : c.updated s.get? = c.updated t.get? := by
  simp (disch := decide) only [Configuration.updated, h _]

end Settings

namespace Configuration

/-- Settings that agree on the options give the same configuration, or an error about the same key. -/
theorem ofSettings_congr {s t : Settings} (h : s.Agree t) :
    (ofSettings s).mapError InvalidSetting.key = (ofSettings t).mapError InvalidSetting.key := by
  rw [ofSettings_eq, ofSettings_eq]
  cases hs : s.fault? with
  | none =>
    rw [h.fault?_eq_none hs, h.updated]
  | some e =>
    cases ht : t.fault? with
    | none => cases (h.symm.fault?_eq_none ht).symm.trans hs
    | some e' =>
      have hkey : e.key = e'.key := String.le_antisymm (h.le_key hs ht) (h.symm.le_key ht hs)
      exact congrArg Except.error hkey

/-- **Settings are accepted** just where none offends: what stands under the key of a flag is a truth value or its word,
and what stands under `output` is the text of a path. Then each option is as its setting says, or its default. Else the
offending setting with the least key is reported, with its text and with all settings. Settings under other keys have
no part in this: without them, or with others, the configuration or the key that is reported is the same. -/
theorem ofSettings_accepts (s : Settings) :
    ((∃ c, ofSettings s = .ok c) ↔ s.Coercible) ∧
    (∀ c, ofSettings s = .ok c → s.Gives c) ∧
    (∀ e, ofSettings s = .error e → s.Reports e) ∧
    ∀ t : Settings, s.Agree t →
      (ofSettings s).mapError InvalidSetting.key = (ofSettings t).mapError InvalidSetting.key := by
  refine ⟨?_, fun c hc => ?_, fun e he => ?_, fun t h => ofSettings_congr h⟩
  · simp only [ofSettings_eq, orElse_eq_ok_iff, exists_and_left, exists_eq, and_true,
      Settings.fault?_eq_none_iff_coercible]
  · rw [ofSettings_eq] at hc
    obtain ⟨hfault, rfl⟩ := orElse_eq_ok_iff.1 hc
    exact Settings.gives_updated (Settings.fault?_eq_none_iff_coercible.1 hfault)
  · rw [ofSettings_eq] at he
    exact Settings.reports_of_fault? (orElse_eq_error_iff.1 he)

/-- Settings of which two offend. -/
def offending : Settings :=
  .ofList [("useSwagger", .list []), ("output", .text ""), ("dryRun", .text "FALSE"), ("color", .text "maybe")]

/-- Settings that are accepted, and one of no option. -/
def accepted : Settings :=
  .ofList [("output", .text "./out"), ("dryRun", .text "FALSE"), ("color", .text "maybe")]

theorem ofSettings_accepts_words :
    accepted.Gives { dryRun := false, output := ⟨"./out"⟩ } ∧
    (∃ e, ofSettings offending = .error e ∧ e.key = "output" ∧ offending.Reports e) ∧
    (ofSettings accepted).mapError InvalidSetting.key =
      (ofSettings (accepted.erase "color")).mapError InvalidSetting.key := by
  obtain ⟨-, hgives, -, hagree⟩ := ofSettings_accepts accepted
  obtain ⟨-, -, hreports, -⟩ := ofSettings_accepts offending
  refine ⟨hgives _ rfl, ⟨_, rfl, rfl, hreports _ rfl⟩, hagree _ ?_⟩
  unfold Settings.Agree
  decide +kernel

end Configuration
end SchemaClasses
