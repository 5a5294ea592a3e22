/-
Overriding settings more than once. What two environments do one after the other is done at once by
the environment that takes the later value of a variable where that takes effect and the earlier one
elsewhere. A variable has no say in any setting but its own.
-/

import CachingGateway.Proofs.Settings.Variables

namespace CachingGateway

/-! ### Values that take effect -/

/-- A text is well formed for a kind. Texts, switches and lists are taken as they are; numbers and
choices are parsed, blanks around them dropped. -/
def SettingKind.accepts (kind : SettingKind) (text : String) : Bool :=
  let trimmed := Blank.trim text.toList
  match kind with
  | .text | .switch | .list => true
  | .number limit => (Ascii.unsigned? limit trimmed).isSome
  | .amount => (Decimal.binary64? trimmed).isSome
  | .keyStrategy => (KeyStrategy.parse (String.ofList trimmed)).isOk
  | .logFormat => (LogFormat.parse (String.ofList trimmed)).isOk

theorem SettingKind.isSome_read (kind : SettingKind) (text : String) :
    (kind.read text).isSome = kind.accepts text := by
  have parsed : ∀ {failure value : Type} (result : Except failure value),
      result.toOption.isSome = result.isOk := by
    intro failure value result
    cases result <;> rfl
  cases kind with
  | text | switch | list => rfl
  | number limit => rfl
  | amount => rfl
  | keyStrategy => exact parsed (KeyStrategy.parse (String.ofList (Blank.trim text.toList)))
  | logFormat => exact parsed (LogFormat.parse (String.ofList (Blank.trim text.toList)))

namespace Setting

/-- The value of a variable is set, not empty and well formed. -/
def takesEffect (setting : Setting) : Option String → Bool
  | none => false
  | some text => !text.isEmpty && setting.kind.accepts text

theorem isSome_read (setting : Setting) (value : Option String) :
    (setting.read value).isSome = setting.takesEffect value := by
  cases value with
  | none => rfl
  | some text =>
      rw [read, takesEffect, Option.filter_some, ← SettingKind.isSome_read]
      cases text.isEmpty <;> rfl

end Setting

/-! ### Two environments -/

namespace Environment

/-- The later value of a variable where that takes effect, and the earlier one elsewhere. -/
def merged (earlier later : Environment) : Environment := fun name =>
  match Setting.ofVariable? name with
  | some setting => if setting.takesEffect (later name) then later name else earlier name
  | none => earlier name

theorem merged_variableName (earlier later : Environment) (setting : Setting) :
    earlier.merged later setting.variableName =
      if setting.takesEffect (later setting.variableName) then later setting.variableName
      else earlier setting.variableName := by
  rw [merged, Setting.ofVariable?_variableName]

example :
    (ofList [("PROXY_SERVER_PORT", "9000")]).merged (ofList [("PROXY_SERVER_PORT", "a port")])
      "PROXY_SERVER_PORT" = some "9000" := by
  decide +kernel

end Environment

namespace Setting

theorem told_merged (setting : Setting) (earlier later : Environment) :
    setting.told (earlier.merged later) = (setting.told later).or (setting.told earlier) := by
  have effect := setting.isSome_read (later setting.variableName)
  rw [told, earlier.merged_variableName, told, told]
  cases taken : setting.takesEffect (later setting.variableName) with
  | true =>
      rw [taken] at effect
      rw [if_pos rfl, Option.or_of_isSome effect]
  | false =>
      rw [taken, Option.isSome_eq_false_iff, Option.isNone_iff_eq_none] at effect
      rw [if_neg Bool.false_ne_true, effect, Option.none_or]

theorem told_update_self (setting : Setting) (environment : Environment) (value : Option String) :
    setting.told (Function.update environment setting.variableName value) = setting.read value := by
  rw [told, Function.update_self]

theorem told_update_of_ne {setting other : Setting} (apart : other ≠ setting)
    (environment : Environment) (value : Option String) :
    other.told (Function.update environment setting.variableName value) =
      other.told environment := by
  rw [told, told, Function.update_of_ne (variableName_injective.ne apart)]

end Setting

namespace Settings

theorem override_override (settings : Settings) (earlier later : Environment) :
    (settings.override earlier).override later = settings.override (earlier.merged later) := by
  apply ext_get
  · intro setting
    rw [get_override, get_override, get_override, setting.told_merged, Option.getD_or]
  · rfl

theorem override_again (settings : Settings) (environment : Environment) :
    (settings.override environment).override environment = settings.override environment := by
  apply ext_get
  · intro setting
    rw [get_override, get_override]
    cases setting.told environment <;> rfl
  · rfl

theorem override_update (settings : Settings) (environment : Environment) (setting : Setting)
    (value : Option String) :
    settings.override (Function.update environment setting.variableName value) =
      (settings.override environment).put setting
        ((setting.read value).getD (settings.get setting)) := by
  apply ext_get
  · intro other
    by_cases same : other = setting
    · subst same
      rw [get_override, other.told_update_self, get_put_self]
    · rw [get_override, Setting.told_update_of_ne same, get_put_of_ne _ same, get_override]
  · rw [unnamed_put, unnamed_override, unnamed_override]

/-- Two environments that override settings one after the other do what their merged environment does.
So the same environment does no more the second time. With another value of one variable the settings
come out as before but for the setting of that variable. -/
theorem overrides_compose (settings : Settings) (earlier later : Environment) :
    (settings.override earlier).override later = settings.override (earlier.merged later) ∧
      (settings.override earlier).override earlier = settings.override earlier ∧
      ∀ (setting : Setting) (value : Option String),
        settings.override (Function.update earlier setting.variableName value) =
          (settings.override earlier).put setting
            ((setting.read value).getD (settings.get setting)) :=
  ⟨override_override settings earlier later, override_again settings earlier,
    override_update settings earlier⟩

end Settings

end CachingGateway
