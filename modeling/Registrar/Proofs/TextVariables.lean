import Registrar.Proofs.LogSettings
import Registrar.Proofs.Precedence
import Registrar.Proofs.RequestDeadline

/-!
# Text settings from the environment

A variable is first taken for what it looks like, a truth value, a number or a text, and a text
setting then gets the text of that value.  This is the text of the variable unless that is a truth
value or a number in a form that is not its own (`Variables.asText_eq_self_iff`).  An address, a
level and a format are checked, and what passes the check looks like neither, so that these three
settings always have the text of their variable; the name and the version of the application may
not (`text_variables`).

The environment is read as the order in which its variables are laid on each other
(`Variables.Env`).  What is laid before the variable of a setting may be anything, what is laid
after it must spare the setting.  As nobody chooses the order, a setting is certain to have the
text of its variable only if all other variables spare it.
-/

namespace Registrar

/-! ## Digits -/

namespace Text

variable {c : Char} {s : List Char} {n : Nat}

theorem digitChar_spec (d : Nat) :
    isDigit (digitChar d) = true ∧ digitValue (digitChar d) = d % 10 := by
  have hall : ∀ r < 10, isDigit (Char.ofNat (48 + r)) = true ∧
      digitValue (Char.ofNat (48 + r)) = r := by
    decide
  exact hall (d % 10) (Nat.mod_lt _ (by decide))

theorem isDigit_of_mem_digits (h : c ∈ digits n) : isDigit c = true := by
  induction n using digits.induct with
  | case1 n hsmall =>
    rw [digits, if_pos hsmall, List.mem_singleton] at h
    exact h ▸ (digitChar_spec n).1
  | case2 n hlarge ih =>
    rw [digits, if_neg hlarge, List.mem_append, List.mem_singleton] at h
    rcases h with h | rfl
    · exact ih h
    · exact (digitChar_spec n).1

theorem digits_ne_nil (n : Nat) : digits n ≠ [] := by
  rw [digits]
  split <;> simp

theorem valueOf_digits (n : Nat) : valueOf (digits n) = n := by
  induction n using digits.induct with
  | case1 n hsmall =>
    rw [digits, if_pos hsmall]
    simp only [valueOf, List.foldl_cons, List.foldl_nil, (digitChar_spec n).2]
    omega
  | case2 n hlarge ih =>
    rw [digits, if_neg hlarge]
    simp only [valueOf, List.foldl_append, List.foldl_cons, List.foldl_nil,
      (digitChar_spec n).2] at ih ⊢
    rw [ih]
    omega

theorem readNat?_digits (n : Nat) : readNat? (digits n) = some n := by
  have hdigits : (digits n).all isDigit = true :=
    List.all_eq_true.mpr fun _ hc => isDigit_of_mem_digits hc
  rw [readNat?, if_pos ⟨digits_ne_nil n, hdigits⟩, valueOf_digits]

/-- Without a sign in front, the digits are those of a number from zero on. -/
theorem readInt?_of_isDigit (h : ∀ c ∈ s, isDigit c = true) :
    readInt? s = (readNat? s).map Int.ofNat := by
  unfold readInt?
  split
  · exact absurd (h '-' List.mem_cons_self) (by decide)
  · exact absurd (h '+' List.mem_cons_self) (by decide)
  · rfl

theorem readInt?_digitsOfInt (i : Int) : readInt? (digitsOfInt i) = some i := by
  cases i with
  | ofNat n =>
    rw [digitsOfInt, readInt?_of_isDigit fun _ hc => isDigit_of_mem_digits hc, readNat?_digits]
    rfl
  | negSucc n =>
    rw [digitsOfInt, readInt?, readNat?_digits]
    rfl

theorem lower_of_isDigit (h : isDigit c = true) : lower c = c := by
  simp only [isDigit, Bool.and_eq_true, decide_eq_true_eq] at h
  have hkelvin : c ≠ '\u212A' := by
    rintro rfl
    exact absurd h.2 (by decide)
  have hletter : ¬('A' ≤ c ∧ c ≤ 'Z') := fun hc =>
    absurd (Char.le_trans hc.1 h.2) (by decide)
  rw [lower, if_neg hkelvin, lowerAscii, if_neg hletter]

theorem mem_digitsOfInt {i : Int} (h : c ∈ digitsOfInt i) : c = '-' ∨ isDigit c = true := by
  cases i with
  | ofNat n => exact .inr (isDigit_of_mem_digits h)
  | negSucc n => exact (List.mem_cons.mp h).imp_right isDigit_of_mem_digits

theorem lower_of_mem_digitsOfInt {i : Int} (h : c ∈ digitsOfInt i) : lower c = c := by
  rcases mem_digitsOfInt h with rfl | hdigit
  · decide
  · exact lower_of_isDigit hdigit

/-- The characters that the texts of numbers are made of. -/
def isNumberChar (c : Char) : Bool :=
  isDigit c || ['-', '.', 'N', 'a', 'i', 'n', 'f'].contains c

theorem isNumberChar_of_isDigit (h : isDigit c = true) : isNumberChar c = true := by
  simp [isNumberChar, h]

theorem isNumberChar_of_mem_digitsOfInt {i : Int} (h : c ∈ digitsOfInt i) :
    isNumberChar c = true := by
  rcases mem_digitsOfInt h with rfl | hdigit
  · rfl
  · exact isNumberChar_of_isDigit hdigit

end Text

/-! ## Texts of numbers -/

namespace Binary64

open Text

variable {c : Char}

theorem isNumberChar_of_mem_decimal {x : Decimal} (h : c ∈ x.toText) : isNumberChar c = true := by
  have hdigits : c ∈ digits x.coefficient → isNumberChar c = true := fun hc =>
    isNumberChar_of_isDigit (isDigit_of_mem_digits hc)
  have hzeros : ∀ n, c ∈ List.replicate n '0' → isNumberChar c = true := by
    intro n hc
    rw [(List.mem_replicate.mp hc).2]
    rfl
  unfold Decimal.toText at h
  split at h
  case isTrue =>
    rcases List.mem_append.mp h with h | h
    · exact hdigits h
    · exact hzeros _ h
  case isFalse =>
    -- Before and after the point stand parts of the digits with zeros in front of them.
    have hpadded : ∀ n, c ∈ List.replicate n '0' ++ digits x.coefficient →
        isNumberChar c = true := by
      intro n hc
      exact (List.mem_append.mp hc).elim (hzeros n) hdigits
    simp only at h
    split at h
    next => exact hpadded _ (List.mem_of_mem_take h)
    next =>
      rcases List.mem_append.mp h with h | h
      · exact hpadded _ (List.mem_of_mem_take h)
      rcases List.mem_cons.mp h with rfl | h
      · rfl
      have hreversed := (List.dropWhile_sublist _).mem (List.mem_reverse.mp h)
      exact hpadded _ (List.mem_of_mem_drop (List.mem_reverse.mp hreversed))

theorem isNumberChar_of_mem_toText {x : Binary64} (h : c ∈ x.toText) : isNumberChar c = true := by
  have hsigned : ∀ negative s, (∀ c ∈ s, isNumberChar c = true) →
      c ∈ signed negative s → isNumberChar c = true := by
    intro negative s hs hc
    cases negative with
    | false => exact hs c hc
    | true =>
      rcases List.mem_cons.mp hc with rfl | hc
      · rfl
      · exact hs c hc
  cases x with
  | nan =>
    have hletters : ['N', 'a', 'N'].all isNumberChar = true := by decide
    exact List.all_eq_true.mp hletters c h
  | infinite negative =>
    have hletters : ['i', 'n', 'f'].all isNumberChar = true := by decide
    exact hsigned negative _ (List.all_eq_true.mp hletters) h
  | finite negative m e =>
    refine hsigned negative _ (fun c hc => ?_) h
    split at hc
    · rw [List.mem_singleton.mp hc]
      rfl
    · exact isNumberChar_of_mem_decimal hc

end Binary64

/-! ## What a text setting gets -/

namespace Variables

open Text

variable {v : String}

/-- Capitals are not told apart in a truth value. -/
def IsTruthValue (v : String) (b : Bool) : Prop :=
  v.toList.map lower = (if b then "true" else "false").toList

/-- What a text is taken for: the first of truth value, whole number and number that it is, or
else itself. -/
inductive TakenFor (v : String) : ConfigValue → Prop
  | truth {b : Bool} (h : IsTruthValue v b) : TakenFor v (.bool b)
  | whole {i : Int} (htruth : ∀ b, ¬IsTruthValue v b) (h : readInt64? v.toList = some i) :
    TakenFor v (.int i)
  | number {x : Binary64} (htruth : ∀ b, ¬IsTruthValue v b) (hwhole : readInt64? v.toList = none)
      (h : Number.readReal? v.toList = some x) : TakenFor v (.real x)
  | itself (htruth : ∀ b, ¬IsTruthValue v b) (hwhole : readInt64? v.toList = none)
      (hnumber : Number.readReal? v.toList = none) : TakenFor v (.text v)

theorem takenFor_valueOf (v : String) : TakenFor v (valueOf v) := by
  unfold valueOf
  simp only []
  split
  case isTrue htrue => exact .truth (b := true) htrue
  case isFalse htrue =>
    split
    case isTrue hfalse => exact .truth (b := false) hfalse
    case isFalse hfalse =>
      have htruth : ∀ b, ¬IsTruthValue v b := by
        rintro (_ | _)
        · exact hfalse
        · exact htrue
      split
      next i hwhole => exact .whole htruth hwhole
      next hwhole =>
        split
        next x hnumber => exact .number htruth hwhole hnumber
        next hnumber => exact .itself htruth hwhole hnumber

theorem valueOf_of_not_truthValue (htruth : ∀ b, ¬IsTruthValue v b) :
    valueOf v =
      match readInt64? v.toList with
      | some i => .int i
      | none =>
        match Number.readReal? v.toList with
        | some x => .real x
        | none => .text v :=
  (if_neg (htruth true)).trans (if_neg (htruth false))

theorem TakenFor.valueOf_eq {value : ConfigValue} (h : TakenFor v value) : valueOf v = value := by
  cases h with
  | @truth b h =>
    cases b with
    | true => exact if_pos h
    | false =>
      have hfalse : v.toList.map lower = "false".toList := h
      have htrue : v.toList.map lower ≠ "true".toList := by
        rw [hfalse]
        decide
      exact (if_neg htrue).trans (if_pos h)
  | whole htruth h => rw [valueOf_of_not_truthValue htruth, h]
  | number htruth hwhole h => rw [valueOf_of_not_truthValue htruth, hwhole, h]
  | itself htruth hwhole hnumber =>
    rw [valueOf_of_not_truthValue htruth, hwhole, hnumber]

/-- The text of the value that a text is taken for. -/
def asText (v : String) : String :=
  (valueOf v).toText?.getD v

theorem TakenFor.toText? {value : ConfigValue} (h : TakenFor v value) :
    value.toText? = some (asText v) := by
  unfold asText
  rw [h.valueOf_eq]
  cases h <;> rfl

/-- The texts that are kept: truth values in small letters, whole numbers and other numbers as they
are written out, and everything that looks like neither. -/
inductive InOwnForm (v : String) : Prop
  | truth (b : Bool) (h : v = if b then "true" else "false")
  | whole (i : Int) (hrange : minInt64 ≤ i ∧ i ≤ maxInt64) (h : v = String.ofList (digitsOfInt i))
  | number (x : Binary64) (htruth : ∀ b, ¬IsTruthValue v b) (hwhole : readInt64? v.toList = none)
      (hnumber : Number.readReal? v.toList = some x) (h : v = String.ofList x.toText)
  | itself (htruth : ∀ b, ¬IsTruthValue v b) (hwhole : readInt64? v.toList = none)
      (hnumber : Number.readReal? v.toList = none)

theorem readInt64?_eq_some_iff {s : List Char} {i : Int} :
    readInt64? s = some i ↔ readInt? s = some i ∧ minInt64 ≤ i ∧ i ≤ maxInt64 := by
  simp [readInt64?, Option.filter_eq_some_iff]

/-- The digits of a whole number are taken for that number. -/
theorem takenFor_digitsOfInt {i : Int} (hrange : minInt64 ≤ i ∧ i ≤ maxInt64) :
    TakenFor (String.ofList (digitsOfInt i)) (.int i) := by
  have hread : readInt? (String.ofList (digitsOfInt i)).toList = some i := by
    rw [String.toList_ofList, readInt?_digitsOfInt]
  refine .whole (fun b htruth => ?_) (readInt64?_eq_some_iff.mpr ⟨hread, hrange⟩)
  -- The digits and the sign have no capitals, and no truth value is a whole number.
  have hlower : (digitsOfInt i).map lower = digitsOfInt i :=
    (List.map_congr_left fun _ hc => lower_of_mem_digitsOfInt hc).trans (List.map_id _)
  rw [IsTruthValue, String.toList_ofList, hlower] at htruth
  have hnone : readInt? (if b then "true" else "false").toList = none := by
    cases b <;> decide
  rw [String.toList_ofList, htruth, hnone] at hread
  cases hread

theorem asText_eq_self_iff : asText v = v ↔ InOwnForm v := by
  constructor
  · intro hself
    have htaken := takenFor_valueOf v
    have htext := htaken.toText?
    generalize valueOf v = value at htaken htext
    rw [hself] at htext
    cases htaken with
    | @truth b h => exact .truth b (Option.some.inj htext).symm
    | @whole i htruth h =>
      exact .whole i (readInt64?_eq_some_iff.mp h).2 (Option.some.inj htext).symm
    | @number x htruth hwhole h => exact .number x htruth hwhole h (Option.some.inj htext).symm
    | itself htruth hwhole hnumber => exact .itself htruth hwhole hnumber
  · rintro (⟨b, rfl⟩ | ⟨i, hrange, rfl⟩ | ⟨x, htruth, hwhole, hnumber, h⟩ |
      ⟨htruth, hwhole, hnumber⟩)
    · cases b <;> decide
    · exact (Option.some.inj (takenFor_digitsOfInt hrange).toText?).symm
    · exact (Option.some.inj (TakenFor.number htruth hwhole hnumber).toText?).symm.trans h.symm
    · exact (Option.some.inj (TakenFor.itself htruth hwhole hnumber).toText?).symm

/-- A test that no truth value and no number passes is only passed by texts that are kept. -/
theorem asText_eq_self_of_accepts {accepts : String → Bool} (htrue : accepts "true" = false)
    (hfalse : accepts "false" = false)
    (hnumber : ∀ {s}, accepts s = true → ∃ c ∈ s.toList, isNumberChar c = false)
    (h : accepts (asText v) = true) : asText v = v := by
  obtain ⟨c, hc, hother⟩ := hnumber h
  have hnotNumber : ∀ s, asText v = String.ofList s → ¬∀ c ∈ s, isNumberChar c = true := by
    intro s hs hall
    rw [hs, String.toList_ofList] at hc
    rw [hall c hc] at hother
    cases hother
  have htaken := takenFor_valueOf v
  have htext := htaken.toText?
  generalize valueOf v = value at htaken htext
  cases htaken with
  | @truth b _ =>
    rw [← Option.some.inj htext] at h
    cases b with
    | true => exact absurd (htrue.symm.trans h) (by decide)
    | false => exact absurd (hfalse.symm.trans h) (by decide)
  | whole =>
    exact absurd (fun _ => isNumberChar_of_mem_digitsOfInt)
      (hnotNumber _ (Option.some.inj htext).symm)
  | number =>
    exact absurd (fun _ => Binary64.isNumberChar_of_mem_toText)
      (hnotNumber _ (Option.some.inj htext).symm)
  | itself => exact (Option.some.inj htext).symm

end Variables

/-! ## Settings that are checked -/

section Checked

open Text

variable {s : String}

theorem DatabaseSettings.colon_mem_of_hasScheme (h : hasScheme s = true) : ':' ∈ s.toList := by
  obtain ⟨scheme, hscheme, hprefix⟩ := List.any_eq_true.mp h
  obtain ⟨rest, hrest⟩ := Option.isSome_iff_exists.mp hprefix
  rw [afterPrefix?_eq_some_iff] at hrest
  have hcolon : ∀ scheme ∈ schemes, ':' ∈ scheme.toList := by decide
  rw [hrest]
  exact List.mem_append_left _ (hcolon scheme hscheme)

theorem Text.isNumberChar_lower {c : Char} (h : isNumberChar c = true) :
    isNumberChar (lower c) = true := by
  simp only [isNumberChar, Bool.or_eq_true, List.contains_iff_mem] at h
  rcases h with hdigit | hother
  · rw [lower_of_isDigit hdigit]
    exact isNumberChar_of_isDigit hdigit
  · have hothers :
        (['-', '.', 'N', 'a', 'i', 'n', 'f'].all fun c => isNumberChar (lower c)) = true := by
      decide
    exact List.all_eq_true.mp hothers c hother

/-- A word with another character than numbers have is spelled by no number. -/
theorem Text.exists_not_numberChar {w : List Char} (hw : IsPlain w)
    (hother : w.all isNumberChar = false) (h : SameLetters s.toList w) :
    ∃ c ∈ s.toList, isNumberChar c = false := by
  obtain ⟨c, hc, hother⟩ := List.all_eq_false.mp hother
  rw [← (map_lower_eq_iff_sameLetters hw).mpr h, List.mem_map] at hc
  obtain ⟨d, hd, rfl⟩ := hc
  exact ⟨d, hd, Bool.eq_false_iff.mpr fun hnumber => hother (isNumberChar_lower hnumber)⟩

theorem LogLevel.exists_not_numberChar (h : (LogLevel.read? s).isSome) :
    ∃ c ∈ s.toList, isNumberChar c = false := by
  obtain ⟨level, hlevel⟩ := Option.isSome_iff_exists.mp h
  have hplain := LogLevel.plainWords.plain level
  refine Text.exists_not_numberChar hplain ?_ (read?_eq_some_iff.mp hlevel)
  cases level <;> decide

theorem LogFormat.exists_not_numberChar (h : (LogFormat.read? s).isSome) :
    ∃ c ∈ s.toList, isNumberChar c = false := by
  obtain ⟨format, hformat⟩ := Option.isSome_iff_exists.mp h
  have hplain := LogFormat.plainWords.plain format
  refine Text.exists_not_numberChar hplain ?_ (read?_eq_some_iff.mp hformat)
  cases format <;> decide

theorem DatabaseSettings.hasScheme_of_check {d : DatabaseSettings} (h : d.check = .ok ()) :
    hasScheme d.url = true := by
  by_contra hscheme
  unfold DatabaseSettings.check at h
  split at h
  · cases h
  · rw [if_pos (by simpa using hscheme)] at h
    cases h

theorem LogSettings.read?_of_check {l : LogSettings} (h : l.check = .ok ()) :
    (LogLevel.read? l.level).isSome ∧ (LogFormat.read? l.format).isSome := by
  obtain ⟨⟨level, hlevel⟩, format, hformat⟩ := check_eq_ok_iff.mp h
  rw [LogLevel.read?_eq_some_iff.mpr hlevel, LogFormat.read?_eq_some_iff.mpr hformat]
  exact ⟨rfl, rfl⟩

end Checked

/-! ## The last variable of a setting -/

namespace Leaf

open ConfigValue

variable {leaf : Leaf} {v : ConfigValue} {es : Entries}

/-- The settings that are texts. -/
def isText : Leaf → Bool
  | .applicationName | .applicationVersion | .databaseUrl | .logLevel | .logFormat => true
  | _ => false

/-- The texts that are checked. -/
def isChecked : Leaf → Bool
  | .databaseUrl | .logLevel | .logFormat => true
  | _ => false

/-- The variable of a setting. -/
def variableName (leaf : Leaf) : String :=
  "CAMPUS_" ++ String.ofList (leaf.sectionName.toList.map Text.upperAscii) ++ "__" ++
    String.ofList (leaf.name.toList.map Text.upperAscii)

theorem key?_variableName (leaf : Leaf) :
    Variables.key? leaf.variableName = some leaf.key := by
  cases leaf <;> decide +kernel

theorem coerce?_of_isText (htext : leaf.isText) (v : ConfigValue) :
    leaf.coerce? v = v.toText?.map .text := by
  cases leaf <;> first | rfl | cases htext

/-- What is under the path is neither the setting nor its section as a whole. -/
def isSparedBy (leaf : Leaf) (path : KeyPath) : Bool :=
  path.first ≠ leaf.sectionName ||
    match path.rest with
    | .name other :: _ => other ≠ leaf.name
    | _ => false

/-- The section is a table that has the value. -/
def Holds (leaf : Leaf) (v : ConfigValue) (es : Entries) : Prop :=
  ∃ t, es.lookup leaf.sectionName = some (.table t) ∧ t.lookup leaf.name = some v

theorem holds_setAt_key (hv : v.isScalar) (es : Entries) :
    leaf.Holds v (setAt (.ofKey leaf.key) v es) := by
  have hlookup := lookup_setAt ⟨leaf.sectionName, [.name leaf.name]⟩ v es
  rw [leaf.ofKey_key]
  refine ⟨_, hlookup, ?_⟩
  rw [lookup_alter_self, alterAt, laidOn_scalar hv]

theorem Holds.setAt (h : leaf.Holds v es) {path : KeyPath} (hspared : leaf.isSparedBy path)
    (w : ConfigValue) : leaf.Holds v (setAt path w es) := by
  obtain ⟨t, hsection, hvalue⟩ := h
  by_cases hfirst : leaf.sectionName = path.first
  · obtain ⟨first, rest⟩ := path
    subst hfirst
    simp only [isSparedBy, ne_eq, not_true_eq_false, decide_false, Bool.false_or] at hspared
    split at hspared
    next other steps =>
      have hother : leaf.name ≠ other := Ne.symm (by simpa using hspared)
      refine ⟨_, lookup_setAt ⟨leaf.sectionName, .name other :: steps⟩ w es, ?_⟩
      rw [hsection]
      exact (lookup_alter_of_ne hother _ t).trans hvalue
    next => cases hspared
  · exact ⟨t, (lookup_setAt_of_ne hfirst w es).trans hsection, hvalue⟩

/-- A source that spares the setting leaves it its value. -/
theorem Holds.addSource {layer : Entries} (h : leaf.Holds v es)
    (hspared : ∀ e ∈ layer, leaf.isSparedBy (.ofKey e.1)) : leaf.Holds v (addSource layer es) := by
  induction layer generalizing es with
  | nil => exact h
  | cons e rest ih =>
    exact ih (h.setAt (hspared e List.mem_cons_self) e.2) fun e' he' =>
      hspared e' (List.mem_cons_of_mem _ he')

theorem read_of_field {α : Type} {get : String → Option ConfigValue} {name : String}
    {default a : α} {read : ConfigValue → Option α}
    (h : ValueReader.field get name default read = some a) (hget : get name = some v) :
    read v = some a := by
  rwa [ValueReader.field, hget] at h

/-- The settings have of a leaf the value that its section holds. -/
theorem Holds.value {s : Settings} (h : leaf.Holds v es)
    (hsettings : reader.settings (.table es) = some s) : leaf.coerce? v = some (s.value leaf) := by
  obtain ⟨t, hsection, hvalue⟩ := h
  obtain ⟨happlication, hdatabase, hlogger, hcore⟩ :
      ValueReader.field (es.lookup ·) "application" {} reader.application = some s.application ∧
      ValueReader.field (es.lookup ·) "database" {} reader.database = some s.database ∧
      ValueReader.field (es.lookup ·) "logger" {} reader.logger = some s.logger ∧
      ValueReader.field (es.lookup ·) "core" {} reader.core = some s.core := by
    cases s
    simpa [ValueReader.settings, reader, fields?, Option.bind_eq_some_iff] using hsettings
  have hread : leaf.read? (t.lookup leaf.name) = some (s.value leaf) := by
    cases leaf with
    | applicationName | applicationVersion =>
      obtain ⟨hname, hversion⟩ :=
        application_eq_some_iff.mp (read_of_field happlication hsection)
      assumption
    | databaseUrl | maxConnections | minConnections | connectionTimeout | autoMigrate =>
      obtain ⟨hurl, hmax, hmin, htimeout, hmigrate⟩ :=
        database_eq_some_iff.mp (read_of_field hdatabase hsection)
      assumption
    | logLevel | logFormat | logColored =>
      obtain ⟨hlevel, hformat, hcolored⟩ :=
        logger_eq_some_iff.mp (read_of_field hlogger hsection)
      assumption
    | requestTimeout => exact core_eq_some_iff.mp (read_of_field hcore hsection)
  rwa [hvalue] at hread

end Leaf

/-! ## Loading -/

namespace ConfigLoader

open ConfigValue
open Variables (Env)

variable {l : ConfigLoader} {files : ConfigFiles} {env before after : Env} {settings : Settings}
  {leaf : Leaf} {v : String}

/-- Settings that are loaded have been read with the variables on top of everything else. -/
theorem settings_of_load (hload : l.load files env = .ok settings) :
    settings.check = .ok () ∧ ∃ es,
      reader.settings (.table (addSource (Variables.source env) es)) = some settings := by
  obtain ⟨hunchecked, hcheck⟩ := load_eq_ok_iff.mp hload
  refine ⟨hcheck, ?_⟩
  unfold unchecked ConfigLoader.sources at hunchecked
  cases hchecked : l.layers.forM (Layer.check files) with
  | error e =>
    rw [hchecked] at hunchecked
    cases hunchecked
  | ok u =>
    cases hread : l.layers.mapM (Layer.entries files) with
    | error e =>
      rw [hchecked, hread] at hunchecked
      cases hunchecked
    | ok read =>
      rw [hchecked, hread] at hunchecked
      have hmerged : settingsOf (merge (read ++ [Variables.source env])) = .ok settings :=
        hunchecked
      refine ⟨merge read, ?_⟩
      rw [settingsOf_eq_ok_iff] at hmerged
      rwa [merge, List.foldl_append] at hmerged

theorem source_append_cons (hkey : Variables.key? leaf.variableName = some leaf.key) (hv : v ≠ "") :
    Variables.source (before ++ (leaf.variableName, v) :: after) =
      Variables.source before ++ (leaf.key, Variables.valueOf v) :: Variables.source after := by
  simp [Variables.source, hkey, hv]

/-- What passes the check of an address, a level or a format is the text of its variable. -/
theorem asText_of_isChecked (hchecked : leaf.isChecked) (hcheck : settings.check = .ok ())
    (hvalue : settings.value leaf = .text (Variables.asText v)) : Variables.asText v = v := by
  obtain ⟨hdatabase, hlogger, -⟩ := Settings.check_eq_ok_iff.mp hcheck
  have hscheme := DatabaseSettings.hasScheme_of_check hdatabase
  obtain ⟨hlevel, hformat⟩ := LogSettings.read?_of_check hlogger
  cases leaf with
  | databaseUrl =>
    have hurl : settings.database.url = Variables.asText v := Leaf.Value.text.inj hvalue
    exact Variables.asText_eq_self_of_accepts (by decide) (by decide)
      (fun h => ⟨':', DatabaseSettings.colon_mem_of_hasScheme h, rfl⟩) (hurl ▸ hscheme)
  | logLevel =>
    have hname : settings.logger.level = Variables.asText v := Leaf.Value.text.inj hvalue
    exact Variables.asText_eq_self_of_accepts (by decide) (by decide)
      LogLevel.exists_not_numberChar (hname ▸ hlevel)
  | logFormat =>
    have hname : settings.logger.format = Variables.asText v := Leaf.Value.text.inj hvalue
    exact Variables.asText_eq_self_of_accepts (by decide) (by decide)
      LogFormat.exists_not_numberChar (hname ▸ hformat)
  | _ => cases hchecked

/-- Once settings are loaded, a text setting has the text that the variable laid last of those that
speak of it is taken for, in whichever order they are laid.  That is the text of the variable itself
if it is in its own form, and of an address, a level and a format it always is. -/
theorem text_variables (htext : leaf.isText) (hv : v ≠ "")
    (hlast : ∀ e ∈ Variables.source after, leaf.isSparedBy (.ofKey e.1))
    (hload : l.load files (before ++ (leaf.variableName, v) :: after) = .ok settings) :
    settings.value leaf = .text (Variables.asText v) ∧
    (Variables.asText v = v ↔ Variables.InOwnForm v) ∧
    (leaf.isChecked → Variables.asText v = v) := by
  obtain ⟨hcheck, es, hsettings⟩ := settings_of_load hload
  have hholds : leaf.Holds (Variables.valueOf v)
      (addSource (Variables.source (before ++ (leaf.variableName, v) :: after)) es) := by
    rw [source_append_cons leaf.key?_variableName hv, addSource, List.foldl_append, List.foldl_cons]
    exact (Leaf.holds_setAt_key (Variables.isScalar_valueOf v) _).addSource hlast
  have hvalue : settings.value leaf = .text (Variables.asText v) := by
    have hread := hholds.value hsettings
    rw [Leaf.coerce?_of_isText htext, (Variables.takenFor_valueOf v).toText?] at hread
    exact (Option.some.inj hread).symm
  exact ⟨hvalue, Variables.asText_eq_self_iff,
    fun hchecked => asText_of_isChecked hchecked hcheck hvalue⟩

/-! A version is kept if it has two points, but with one it is a number and loses a zero at its
end. -/

def localTexts : List (Path × String) :=
  [(.ofText "config/default.toml", "[database]\nurl = \"postgres://localhost/campus\"\n")]

def localFiles : ConfigFiles where
  present p := (localTexts.lookup p).isSome
  content? p := localTexts.lookup p

def localLoader : ConfigLoader :=
  ⟨.layered defaultDirectory, .development⟩

def versionSettings (version : String) : Settings where
  application := { version }
  database := { url := "postgres://localhost/campus" }

theorem text_variables_version :
    Leaf.applicationVersion.isText ∧ "1.10.0" ≠ "" ∧
    localLoader.load localFiles
        [("CAMPUS_APPLICATION__VERSION", "1.10.0"), ("CAMPUS_APPLICATION__NAME", "campus-rs")] =
      .ok (versionSettings "1.10.0") ∧
    Variables.asText "1.10.0" = "1.10.0" ∧ Variables.InOwnForm "1.10.0" := by
  have hload : localLoader.load localFiles
      ([] ++ (Leaf.applicationVersion.variableName, "1.10.0") ::
        [("CAMPUS_APPLICATION__NAME", "campus-rs")]) = .ok (versionSettings "1.10.0") := by
    decide +kernel
  have hlast : ∀ e ∈ Variables.source [("CAMPUS_APPLICATION__NAME", "campus-rs")],
      Leaf.applicationVersion.isSparedBy (.ofKey e.1) := by
    decide +kernel
  obtain ⟨hvalue, hform, -⟩ := text_variables rfl (by decide) hlast hload
  have hkept : Variables.asText "1.10.0" = "1.10.0" := (Leaf.Value.text.inj hvalue).symm
  exact ⟨rfl, by decide, hload, hkept, hform.mp hkept⟩

theorem version_shortened :
    localLoader.load localFiles [("CAMPUS_APPLICATION__VERSION", "1.10")] =
      .ok (versionSettings "1.1") ∧
    (versionSettings "1.1").value .applicationVersion ≠ .text "1.10" := by
  decide +kernel

end ConfigLoader

end Registrar
