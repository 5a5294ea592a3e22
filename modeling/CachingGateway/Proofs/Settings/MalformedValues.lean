/-
Values of variables that are not well formed. What a value of each kind looks like is said by a grammar
of its own. A malformed number or choice is read as nothing, so its variable changes nothing. A switch
has no malformed values: each text that is no well-formed one turns it off.
-/

import CachingGateway.Proofs.Number.NumeralText
import CachingGateway.Proofs.Settings.OverrideComposition

namespace CachingGateway

/-! ### Well-formed values -/

def KeyStrategy.spellings : List String :=
  ["ip", "api_key", "apikey", "composite"]

def LogFormat.spellings : List String :=
  ["json", "console", "text"]

theorem KeyStrategy.isOk_parse_iff (text : String) :
    (KeyStrategy.parse text).isOk = true ↔ KeyStrategy.normalized text ∈ spellings := by
  have named (name : String) : (ofName? name).isSome = true ↔ name ∈ spellings := by
    simp only [ofName?, spellings, List.mem_cons, List.not_mem_nil, or_false]
    split_ifs with ip apiKey composite
    · exact iff_of_true rfl (Or.inl ip)
    · exact iff_of_true rfl (Or.inr (or_assoc.mp (Or.inl apiKey)))
    · exact iff_of_true rfl (Or.inr (Or.inr (Or.inr composite)))
    · refine iff_of_false Bool.false_ne_true ?_
      rintro (same | same | same | same)
      · exact ip same
      · exact apiKey (Or.inl same)
      · exact apiKey (Or.inr same)
      · exact composite same
  rw [← named, parse]
  cases ofName? (normalized text) <;> rfl

theorem LogFormat.isOk_parse_iff (text : String) :
    (LogFormat.parse text).isOk = true ↔ LogFormat.normalized text ∈ spellings := by
  have named (name : String) : (ofName? name).isSome = true ↔ name ∈ spellings := by
    simp only [ofName?, spellings, List.mem_cons, List.not_mem_nil, or_false]
    split_ifs with json console
    · exact iff_of_true rfl (Or.inl json)
    · exact iff_of_true rfl (Or.inr console)
    · refine iff_of_false Bool.false_ne_true ?_
      rintro (same | same)
      · exact json same
      · exact console same
  rw [← named, parse]
  cases ofName? (normalized text) <;> rfl

namespace SettingKind

def switchTexts : List String :=
  ["true", "false", "1", "0"]

/-- A text is a value of a kind. Numbers and choices may have blanks around them. -/
def WellFormed (kind : SettingKind) (text : String) : Prop :=
  match kind with
  | .text | .list => True
  | .switch => text ∈ switchTexts
  | .number limit => Ascii.IsUnsigned limit (Blank.trim text.toList)
  | .amount => Decimal.IsAmount (Blank.trim text.toList)
  | .keyStrategy => KeyStrategy.normalized text ∈ KeyStrategy.spellings
  | .logFormat => LogFormat.normalized text ∈ LogFormat.spellings

theorem trim_trimmed (text : String) :
    Blank.trim (String.ofList (Blank.trim text.toList)).toList = Blank.trim text.toList := by
  rw [String.toList_ofList, Blank.trim_trim]

/-- But for switches, a text is read exactly when it is well formed. -/
theorem isSome_read_iff {kind : SettingKind} (parsed : kind ≠ .switch) (text : String) :
    (kind.read text).isSome = true ↔ kind.WellFormed text := by
  rw [isSome_read]
  cases kind with
  | text | list => exact iff_of_true rfl trivial
  | switch => exact absurd rfl parsed
  | number limit => exact Ascii.isSome_unsigned?_iff
  | amount => exact Decimal.isSome_binary64?_iff
  | keyStrategy =>
      have read := KeyStrategy.isOk_parse_iff (String.ofList (Blank.trim text.toList))
      rw [KeyStrategy.normalized, trim_trimmed] at read
      exact read
  | logFormat =>
      have read := LogFormat.isOk_parse_iff (String.ofList (Blank.trim text.toList))
      rw [LogFormat.normalized, trim_trimmed] at read
      exact read

instance (kind : SettingKind) (text : String) : Decidable (kind.WellFormed text) :=
  if parsed : kind ≠ .switch then decidable_of_iff _ (isSome_read_iff parsed text)
  else decidable_of_iff (text ∈ switchTexts) (by rw [not_not.mp parsed]; rfl)

end SettingKind

/-! ### One variable alone -/

theorem Setting.read_of_set (setting : Setting) {text : String} (set : text ≠ "") :
    setting.read (some text) = setting.kind.read text := by
  have more : text.isEmpty = false := by
    rw [← Bool.not_eq_true, String.isEmpty_iff]
    exact set
  rw [read, Option.filter_some, more]
  rfl

namespace Settings

variable (settings : Settings)

theorem override_nowhere : settings.override (fun _ => none) = settings := by
  apply ext_get
  · intro setting
    rw [get_override]
    rfl
  · rfl

theorem put_get (setting : Setting) : settings.put setting (settings.get setting) = settings := by
  cases setting <;> rfl

theorem override_alone (setting : Setting) (text : String) :
    settings.override (Environment.ofList [(setting.variableName, text)]) =
      settings.put setting ((setting.read (some text)).getD (settings.get setting)) := by
  have alone : Environment.ofList [(setting.variableName, text)] =
      Function.update (fun _ => none) setting.variableName (some text) := by
    funext name
    rw [Function.update_apply, Environment.ofList, List.lookup_cons]
    by_cases same : name = setting.variableName
    · rw [if_pos same, beq_iff_eq.mpr same]
    · rw [if_neg same, beq_eq_false_iff_ne.mpr same]
      rfl
  rw [alone, override_update, override_nowhere]

def switchedOff (settings : Settings) : Setting → Settings
  | .cacheEnabled => { settings with cache.enabled := false }
  | .rateLimitEnabled => { settings with rateLimit.enabled := false }
  | .metricsEnabled => { settings with metrics.enabled := false }
  | _ => settings

theorem override_unread {setting : Setting} {text : String}
    (unread : setting.read (some text) = none) :
    settings.override (Environment.ofList [(setting.variableName, text)]) = settings := by
  rw [override_alone, unread]
  exact put_get settings setting

theorem override_misspelt_switch {setting : Setting} (isSwitch : setting.kind = .switch)
    {text : String} (set : text ≠ "") (misspelt : text ∉ SettingKind.switchTexts) :
    settings.override (Environment.ofList [(setting.variableName, text)]) =
      settings.switchedOff setting := by
  have off : (decide (text = "true") || decide (text = "1")) = false := by
    simp only [SettingKind.switchTexts, List.mem_cons, not_or] at misspelt
    simp only [misspelt, decide_false, Bool.or_self]
  rw [override_alone, setting.read_of_set set]
  cases setting with
  | cacheEnabled => exact congrArg (settings.put .cacheEnabled) off
  | rateLimitEnabled => exact congrArg (settings.put .rateLimitEnabled) off
  | metricsEnabled => exact congrArg (settings.put .metricsEnabled) off
  | _ => cases isSwitch

/-- A malformed value leaves the settings as they are, but for a switch, which any text that is not
empty and not well formed turns off. So it changes settings exactly when it turns off a switch that is
on. -/
theorem malformed_value_ignored_iff (settings : Settings) (setting : Setting) (text : String)
    (malformed : ¬ setting.kind.WellFormed text) :
    let after := settings.override (Environment.ofList [(setting.variableName, text)])
    (setting.kind ≠ .switch ∨ text = "" → after = settings) ∧
      (setting.kind = .switch → text ≠ "" → after = settings.switchedOff setting) ∧
      (after = settings ↔
        setting.kind ≠ .switch ∨ text = "" ∨ settings.switchedOff setting = settings) := by
  intro after
  have ignored : setting.kind ≠ .switch ∨ text = "" → after = settings := by
    intro parsedOrEmpty
    apply settings.override_unread
    by_cases empty : text = ""
    · rw [empty]
      rfl
    · have parsed := parsedOrEmpty.resolve_right empty
      rw [setting.read_of_set empty, ← Option.not_isSome_iff_eq_none]
      exact mt (SettingKind.isSome_read_iff parsed text).mp malformed
  have switched : setting.kind = .switch → text ≠ "" → after = settings.switchedOff setting := by
    intro isSwitch set
    rw [isSwitch] at malformed
    exact settings.override_misspelt_switch isSwitch set malformed
  refine ⟨ignored, switched, ?_, ?_⟩
  · intro same
    by_cases isSwitch : setting.kind = .switch
    · by_cases empty : text = ""
      · exact Or.inr (Or.inl empty)
      · exact Or.inr (Or.inr ((switched isSwitch empty).symm.trans same))
    · exact Or.inl isSwitch
  · rintro (parsed | empty | off)
    · exact ignored (Or.inl parsed)
    · exact ignored (Or.inr empty)
    · by_cases isSwitch : setting.kind = .switch
      · by_cases empty : text = ""
        · exact ignored (Or.inr empty)
        · exact (switched isSwitch empty).trans off
      · exact ignored (Or.inl isSwitch)

theorem malformed_values_of_default :
    (¬ Setting.serverPortNumber.kind.WellFormed "65536" ∧
      Settings.default.override (Environment.ofList [("PROXY_SERVER_PORT", "65536")]) =
        Settings.default) ∧
      (¬ Setting.rateLimitKeyStrategy.kind.WellFormed "api-key" ∧
        Settings.default.override (Environment.ofList [("PROXY_RATELIMIT_KEY", "api-key")]) =
          Settings.default) ∧
      ¬ Setting.metricsEnabled.kind.WellFormed "True" ∧
        Settings.default.override (Environment.ofList [("PROXY_METRICS_ENABLED", "True")]) =
          { Settings.default with metrics.enabled := false } := by
  have port : ¬ Setting.serverPortNumber.kind.WellFormed "65536" := by decide +kernel
  have choice : ¬ Setting.rateLimitKeyStrategy.kind.WellFormed "api-key" := by decide +kernel
  have switch : ¬ Setting.metricsEnabled.kind.WellFormed "True" := by decide +kernel
  refine ⟨⟨port, ?_⟩, ⟨choice, ?_⟩, switch, ?_⟩
  · exact (malformed_value_ignored_iff default .serverPortNumber "65536" port).1
      (Or.inl (by decide))
  · exact (malformed_value_ignored_iff default .rateLimitKeyStrategy "api-key" choice).1
      (Or.inl (by decide))
  · exact (malformed_value_ignored_iff default .metricsEnabled "True" switch).2.1 rfl (by decide)

/-- Limiting that is on is turned off by a text that is no value of a switch. -/
theorem misspelt_switch_stops_limiting :
    ¬ Setting.rateLimitEnabled.kind.WellFormed "yes" ∧ Settings.default.rateLimit.enabled = true ∧
      (Settings.default.override
        (Environment.ofList [("PROXY_RATELIMIT_ENABLED", "yes")])).rateLimit.enabled = false ∧
      Settings.default.override (Environment.ofList [("PROXY_RATELIMIT_ENABLED", "yes")]) ≠
        Settings.default := by
  decide +kernel

end Settings

end CachingGateway
