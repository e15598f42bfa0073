import Registrar.Proofs.Spelling
import Registrar.Settings

/-!
# Settings of the log

The check of the settings and the log itself read the level and the format each for themselves:
the check looks for the lowercase text in lists of its own, the log among the words of its levels
and formats, and they begin with different fields.  A text passes the one and the other exactly if
it spells a word (`LogLevel.isListed_iff`, `LogLevel.read?_eq_some_iff`), so that settings pass the
check exactly if a log starts with them (`checked_iff_starts`), and a refusal always names a text
that spells none.
-/

namespace Registrar

open Text

variable {s : String}

theorem LogSettings.isListed_map_iff {α : Type} {all : List α} {word : α → String}
    (h : PlainWords all word) :
    isListed (all.map word) s = true ↔ ∃ a, SameLetters s.toList (word a).toList := by
  rw [isListed, List.contains_iff_mem]
  exact lowercase_mem_map_iff h

/-! ## Levels -/

namespace LogLevel

variable {level : LogLevel}

/-- The text is the word of the level, whatever capitals it has. -/
def SpelledBy (level : LogLevel) (s : String) : Prop :=
  SameLetters s.toList level.word.toList

theorem plainWords : PlainWords all word where
  mem_all a := by cases a <;> decide
  injective a b := by cases a <;> cases b <;> decide
  plain a := by cases a <;> decide

theorem read?_eq_some_iff : read? s = some level ↔ level.SpelledBy s :=
  find?_lowercase_eq_some_iff plainWords

/-- The check lists the words of all levels. -/
theorem isListed_iff :
    LogSettings.isListed LogSettings.levels s = true ↔ ∃ level, SpelledBy level s :=
  LogSettings.isListed_map_iff plainWords

theorem refusal_of_listed (s : String) : "Invalid log level '" ++ s ++
    "'. Valid levels are: " ++ ", ".intercalate LogSettings.levels = refusal s := by
  have hlist : ", ".intercalate LogSettings.levels = "trace, debug, info, warn, error" := by
    decide
  rw [hlist, String.append_assoc]
  rfl

end LogLevel

/-! ## Formats -/

namespace LogFormat

variable {format : LogFormat}

/-- The text is the word of the format, whatever capitals it has. -/
def SpelledBy (format : LogFormat) (s : String) : Prop :=
  SameLetters s.toList format.word.toList

theorem plainWords : PlainWords all word where
  mem_all a := by cases a <;> decide
  injective a b := by cases a <;> cases b <;> decide
  plain a := by cases a <;> decide

theorem read?_eq_some_iff : read? s = some format ↔ format.SpelledBy s :=
  find?_lowercase_eq_some_iff plainWords

/-- The check lists the words of all formats. -/
theorem isListed_iff :
    LogSettings.isListed LogSettings.formats s = true ↔ ∃ format, SpelledBy format s :=
  LogSettings.isListed_map_iff plainWords

theorem refusal_of_listed (s : String) : "Invalid log format '" ++ s ++
    "'. Valid formats are: " ++ ", ".intercalate LogSettings.formats = refusal s := by
  have hlist : ", ".intercalate LogSettings.formats = "full, compact, json" := by decide
  rw [hlist, String.append_assoc]
  rfl

theorem read_cases (s : String) :
    (∃ format, read s = .ok format ∧ format.SpelledBy s) ∨
      read s = .error (.config (refusal s)) ∧ ∀ format, ¬SpelledBy format s := by
  unfold read
  rcases found_or_absent fun _ => read?_eq_some_iff (s := s) with
    ⟨format, hread, hspelled⟩ | ⟨hread, hnone⟩
  · rw [hread]
    exact .inl ⟨format, rfl, hspelled⟩
  · rw [hread]
    exact .inr ⟨rfl, hnone⟩

end LogFormat

/-! ## The configuration -/

theorem LogConfig.parseLevel_cases (c : LogConfig) :
    (∃ level, c.parseLevel = .ok level ∧ level.SpelledBy c.level) ∨
      c.parseLevel = .error (.config (LogLevel.refusal c.level)) ∧
        ∀ level, ¬LogLevel.SpelledBy level c.level := by
  unfold parseLevel
  rcases found_or_absent fun _ => LogLevel.read?_eq_some_iff (s := c.level) with
    ⟨level, hread, hspelled⟩ | ⟨hread, hnone⟩
  · rw [hread]
    exact .inl ⟨level, rfl, hspelled⟩
  · rw [hread]
    exact .inr ⟨rfl, hnone⟩

theorem LogConfig.make_cases (s : String) (format : LogFormat) (colored : Bool) :
    (make s format colored = .ok ⟨s, format, colored⟩ ∧
      ∃ level, parseLevel ⟨s, format, colored⟩ = .ok level ∧ level.SpelledBy s) ∨
    make s format colored = .error (.config (LogLevel.refusal s)) ∧
      ∀ level, ¬LogLevel.SpelledBy level s := by
  have hmake : make s format colored =
      (parseLevel ⟨s, format, colored⟩).map fun _ => ⟨s, format, colored⟩ := rfl
  rw [hmake]
  rcases parseLevel_cases ⟨s, format, colored⟩ with ⟨level, hlevel, hspelled⟩ | ⟨hrefused, hnone⟩
  · rw [hlevel]
    exact .inl ⟨rfl, level, rfl, hspelled⟩
  · rw [hrefused]
    exact .inr ⟨rfl, hnone⟩

/-! ## The settings -/

namespace LogSettings

variable {l : LogSettings}

/-- Both texts spell a word. -/
structure WellSpelled (l : LogSettings) : Prop where
  level : ∃ level, LogLevel.SpelledBy level l.level
  format : ∃ format, LogFormat.SpelledBy format l.format

/-- The error is about the level or the format and ends with the refusal of its text, which spells
no word indeed. -/
inductive Blames (l : LogSettings) (e : ConfigError) : Prop
  | level (hkey : e.key = some "logger.level")
    (hmessage : ∃ front, e.message = front ++ LogLevel.refusal l.level)
    (hinvalid : ∀ level, ¬LogLevel.SpelledBy level l.level)
  | format (hkey : e.key = some "logger.format")
    (hmessage : ∃ front, e.message = front ++ LogFormat.refusal l.format)
    (hinvalid : ∀ format, ¬LogFormat.SpelledBy format l.format)

theorem Blames.not_wellSpelled {e : ConfigError} (h : l.Blames e) : ¬l.WellSpelled := by
  rintro ⟨⟨level, hlevel⟩, format, hformat⟩
  cases h with
  | level _ _ hinvalid => exact hinvalid level hlevel
  | format _ _ hinvalid => exact hinvalid format hformat

/-- The check looks at the level first. -/
theorem check_cases (l : LogSettings) :
    (l.check = .ok () ∧ l.WellSpelled) ∨ ∃ e, l.check = .error e ∧ l.Blames e := by
  unfold check
  rw [LogLevel.refusal_of_listed, LogFormat.refusal_of_listed]
  cases hlevel : isListed levels l.level with
  | false =>
    have hnone : ∀ level, ¬LogLevel.SpelledBy level l.level := by
      intro level hspelled
      cases hlevel.symm.trans (LogLevel.isListed_iff.mpr ⟨level, hspelled⟩)
    exact .inr ⟨_, rfl, .level rfl ⟨"Validation error: logger.level - ", rfl⟩ hnone⟩
  | true =>
    have hspelled := LogLevel.isListed_iff.mp hlevel
    cases hformat : isListed formats l.format with
    | false =>
      have hnone : ∀ format, ¬LogFormat.SpelledBy format l.format := by
        intro format hspelled
        cases hformat.symm.trans (LogFormat.isListed_iff.mpr ⟨format, hspelled⟩)
      exact .inr ⟨_, rfl, .format rfl ⟨"Validation error: logger.format - ", rfl⟩ hnone⟩
    | true =>
      have hspelled' := LogFormat.isListed_iff.mp hformat
      exact .inl ⟨rfl, hspelled, hspelled'⟩

/-- The log is given its format first. -/
theorem toLogConfig_cases (l : LogSettings) :
    (∃ c level, l.toLogConfig = .ok c ∧ l.WellSpelled ∧ c.level = l.level ∧ c.colored = l.colored ∧
      LogFormat.read l.format = .ok c.format ∧ c.format.SpelledBy l.format ∧
      c.parseLevel = .ok level ∧ level.SpelledBy l.level) ∨
    ∃ e, l.toLogConfig = .error e ∧ l.Blames e := by
  unfold toLogConfig
  rcases LogFormat.read_cases l.format with ⟨format, hformat, hspelled⟩ | ⟨hrefused, hnone⟩
  · rw [hformat]
    simp only
    rcases LogConfig.make_cases l.level format l.colored with
      ⟨hmade, level, hlevel, hspelled'⟩ | ⟨hrefused, hnone⟩
    · rw [hmade]
      exact .inl ⟨_, level, rfl, ⟨⟨level, hspelled'⟩, format, hspelled⟩, rfl, rfl, rfl, hspelled,
        hlevel, hspelled'⟩
    · rw [hrefused]
      exact .inr ⟨_, rfl, .level rfl
        ⟨"Validation error: logger.level - Configuration error: ", rfl⟩ hnone⟩
  · rw [hrefused]
    exact .inr ⟨_, rfl, .format rfl
      ⟨"Validation error: logger.format - Configuration error: ", rfl⟩ hnone⟩

theorem check_eq_ok_iff : l.check = .ok () ↔ l.WellSpelled := by
  rcases l.check_cases with ⟨hcheck, hspelled⟩ | ⟨e, hcheck, hblames⟩
  · simp [hcheck, hspelled]
  · simp [hcheck, hblames.not_wellSpelled]

theorem exists_toLogConfig_iff : (∃ c, l.toLogConfig = .ok c) ↔ l.WellSpelled := by
  rcases l.toLogConfig_cases with ⟨c, level, hstarts, hspelled, -⟩ | ⟨e, hrefused, hblames⟩
  · simp [hstarts, hspelled]
  · simp [hrefused, hblames.not_wellSpelled]

theorem wellSpelled_iff (format : LogFormat) (colored : Bool) : l.WellSpelled ↔
    (∃ c, LogConfig.make l.level format colored = .ok c) ∧
      ∃ named, LogFormat.read l.format = .ok named := by
  have hlevel : (∃ c, LogConfig.make l.level format colored = .ok c) ↔
      ∃ level, LogLevel.SpelledBy level l.level := by
    rcases LogConfig.make_cases l.level format colored with
      ⟨hmade, level, -, hspelled⟩ | ⟨hrefused, hnone⟩
    · exact iff_of_true ⟨_, hmade⟩ ⟨level, hspelled⟩
    · simp [hrefused, hnone]
  have hformat : (∃ named, LogFormat.read l.format = .ok named) ↔
      ∃ named, LogFormat.SpelledBy named l.format := by
    rcases LogFormat.read_cases l.format with ⟨named, hread, hspelled⟩ | ⟨hrefused, hnone⟩
    · exact iff_of_true ⟨named, hread⟩ ⟨named, hspelled⟩
    · simp [hrefused, hnone]
  rw [hlevel, hformat]
  exact ⟨fun h => ⟨h.level, h.format⟩, fun h => ⟨h.1, h.2⟩⟩

/-- Settings pass the check exactly if a log starts with them, which is so exactly if the level
makes a configuration and the format can be read.  The log then has the level as it is written, and
it can be read, the format that is named, and the colours.  Whoever refuses the settings says of
which text. -/
theorem checked_iff_starts (l : LogSettings) :
    (l.check = .ok () ↔ ∃ c, l.toLogConfig = .ok c) ∧
    (∀ format colored, (∃ c, l.toLogConfig = .ok c) ↔
      (∃ c, LogConfig.make l.level format colored = .ok c) ∧
        ∃ named, LogFormat.read l.format = .ok named) ∧
    (∀ c, l.toLogConfig = .ok c →
      c.level = l.level ∧ c.colored = l.colored ∧
      LogFormat.read l.format = .ok c.format ∧ c.format.SpelledBy l.format ∧
      ∃ level, c.parseLevel = .ok level ∧ level.SpelledBy l.level) ∧
    (∀ e, l.check = .error e → l.Blames e) ∧
    ∀ e, l.toLogConfig = .error e → l.Blames e := by
  refine ⟨check_eq_ok_iff.trans exists_toLogConfig_iff.symm, fun format colored =>
    exists_toLogConfig_iff.trans (wellSpelled_iff format colored), fun c hstarts => ?_,
    fun e hcheck => ?_, fun e hrefused => ?_⟩
  · rcases l.toLogConfig_cases with
      ⟨c', level, hstarts', -, hlevel, hcolored, hread, hformat, hparsed, hspelled⟩ |
      ⟨e, hrefused, -⟩
    · obtain rfl := Except.ok.inj (hstarts.symm.trans hstarts')
      exact ⟨hlevel, hcolored, hread, hformat, level, hparsed, hspelled⟩
    · rw [hrefused] at hstarts
      cases hstarts
  · rcases l.check_cases with ⟨hpassed, -⟩ | ⟨e', hcheck', hblames⟩
    · rw [hpassed] at hcheck
      cases hcheck
    · exact Except.error.inj (hcheck.symm.trans hcheck') ▸ hblames
  · rcases l.toLogConfig_cases with ⟨c, level, hstarts, -⟩ | ⟨e', hrefused', hblames⟩
    · rw [hstarts] at hrefused
      cases hrefused
    · exact Except.error.inj (hrefused.symm.trans hrefused') ▸ hblames

/-- Capitals do not matter. -/
def inCapitals : LogSettings := ⟨"WARN", "Compact", false⟩

/-- The small form of the capital I with a dot is not the letter i, and no format is so named. -/
def misspelled : LogSettings := ⟨"İnfo", "xml", true⟩

theorem checked_iff_starts_inCapitals :
    (inCapitals.check = .ok () ∧ inCapitals.toLogConfig = .ok ⟨"WARN", .compact, false⟩ ∧
      ∃ level, LogConfig.parseLevel ⟨"WARN", .compact, false⟩ = .ok level ∧
        level.SpelledBy "WARN") ∧
    misspelled.check = .error (.validation "logger.level" (LogLevel.refusal "İnfo")) ∧
    misspelled.Blames (.validation "logger.level" (LogLevel.refusal "İnfo")) ∧
    misspelled.toLogConfig = .error (.validation "logger.format"
      (LogError.config (LogFormat.refusal "xml")).message) ∧
    misspelled.Blames (.validation "logger.format"
      (LogError.config (LogFormat.refusal "xml")).message) := by
  obtain ⟨hchecked, -, hconfig, -⟩ := checked_iff_starts inCapitals
  obtain ⟨-, -, -, hcheck, hstart⟩ := checked_iff_starts misspelled
  have hstarts : inCapitals.toLogConfig = .ok ⟨"WARN", .compact, false⟩ := by decide +kernel
  have hlevel : misspelled.check =
      .error (.validation "logger.level" (LogLevel.refusal "İnfo")) := by decide +kernel
  have hformat : misspelled.toLogConfig = .error (.validation "logger.format"
      (LogError.config (LogFormat.refusal "xml")).message) := by decide +kernel
  obtain ⟨-, -, -, -, level, hparsed, hspelled⟩ := hconfig _ hstarts
  exact ⟨⟨hchecked.mpr ⟨_, hstarts⟩, hstarts, level, hparsed, hspelled⟩, hlevel,
    hcheck _ hlevel, hformat, hstart _ hformat⟩

end LogSettings

end Registrar
