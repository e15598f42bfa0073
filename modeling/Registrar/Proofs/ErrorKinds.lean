import Registrar.Proofs.Phrases
import Registrar.Violation.Decode

/-!
# Kinds of database errors

The sort of a failure and the phrases in its text decide the kind of the error that is made of
it.  A unique violation is a conflict whatever its text is; a missing value, a dangling
reference or a failed condition is a bad request if the text names what the error tells, and
everything else is internal (`database_errors_classified`).
-/

namespace Registrar

open Text

/-! ## What a text names -/

namespace Violation

/-- The text names columns with their values. -/
def NamesKey (text : List Char) : Prop :=
  ∃ before columns values after, columns ≠ [] ∧ ')' ∉ columns ∧ ')' ∉ values ∧
    text = before ++ ("Key (".toList ++ (columns ++ (")=(".toList ++ (values ++ ')' :: after))))

/-- The text has a name in quotes after the phrase, which ends with the opening quote. -/
def NamesAfter (phrase text : List Char) : Prop :=
  ∃ before name after, name ≠ [] ∧ '"' ∉ name ∧
    text = before ++ (phrase ++ (name ++ '"' :: after))

def NamesColumn (text : List Char) : Prop :=
  NamesAfter "column \"".toList text

def NamesTable (text : List Char) : Prop :=
  NamesAfter "table \"".toList text ∨ NamesAfter "relation \"".toList text

variable {text : List Char}

theorem key?_isSome_iff : (key? text).isSome ↔ NamesKey text := by
  rw [key?, firstMatch_isSome_iff]
  simp only [Option.isSome_iff_exists, Prod.exists, keyHere?_eq_some_iff]
  constructor
  · rintro ⟨_, ⟨before, rfl⟩, columns, values, hne, hcolumns, hvalues, after, rfl⟩
    exact ⟨before, columns, values, after, hne, hcolumns, hvalues, rfl⟩
  · rintro ⟨before, columns, values, after, hne, hcolumns, hvalues, rfl⟩
    exact ⟨_, ⟨before, rfl⟩, columns, values, hne, hcolumns, hvalues, after, rfl⟩

theorem quotedAfter_isSome_iff {phrase : List Char} :
    (firstMatch (quotedAfterHere? phrase) text).isSome ↔ NamesAfter phrase text := by
  rw [firstMatch_isSome_iff]
  simp only [Option.isSome_iff_exists, quotedAfterHere?_eq_some_iff]
  constructor
  · rintro ⟨_, ⟨before, rfl⟩, name, hne, hquote, after, rfl⟩
    exact ⟨before, name, after, hne, hquote, rfl⟩
  · rintro ⟨before, name, after, hne, hquote, rfl⟩
    exact ⟨_, ⟨before, rfl⟩, name, hne, hquote, after, rfl⟩

theorem column?_isSome_iff : (column? text).isSome ↔ NamesColumn text :=
  quotedAfter_isSome_iff

theorem table?_isSome_iff : (table? text).isSome ↔ NamesTable text := by
  have hhere : ∀ s, (tableHere? s).isSome ↔
      (quotedAfterHere? "table \"".toList s).isSome ∨
        (quotedAfterHere? "relation \"".toList s).isSome := by
    intro s
    rw [tableHere?]
    cases quotedAfterHere? "table \"".toList s <;> simp
  rw [NamesTable, ← quotedAfter_isSome_iff, ← quotedAfter_isSome_iff, table?]
  simp only [firstMatch_isSome_iff, hhere, and_or_left, exists_or]

theorem readKey?_isSome_iff {suffix message : String} {constraint : Option String} :
    (readKey? suffix message constraint).isSome ↔ NamesKey message.toList := by
  rw [← key?_isSome_iff, readKey?]
  cases key? message.toList <;> simp

theorem readMissing?_isSome_iff {message : String} :
    (readMissing? message).isSome ↔ NamesColumn message.toList := by
  rw [← column?_isSome_iff, readMissing?]
  cases column? message.toList <;> simp

theorem readCheck?_isSome_iff {message : String} {constraint : Option String} :
    (readCheck? message constraint).isSome ↔ NamesTable message.toList := by
  rw [← table?_isSome_iff, readCheck?]
  cases table? message.toList <;> simp

end Violation

/-! ## Errors of reports -/

open Violation

namespace ViolationReport

/-- The report is one of a faulty row, and the reader of its sort finds what it looks for. -/
def PartsFound (r : ViolationReport) : Prop :=
  match r.kind with
  | .missing => (readMissing? r.fullText).isSome
  | .reference => (readReference? r.fullText r.constraint).isSome
  | .check => (readCheck? r.fullText r.constraint).isSome
  | .unique | .other _ => False

/-- The report is one of a faulty row, and its text names what the error tells. -/
def PartsNamed (r : ViolationReport) : Prop :=
  match r.kind with
  | .missing => NamesColumn r.fullText.toList
  | .reference => NamesKey r.fullText.toList
  | .check => NamesTable r.fullText.toList
  | .unique | .other _ => False

variable {r : ViolationReport}

theorem partsFound_iff_partsNamed : r.PartsFound ↔ r.PartsNamed := by
  unfold PartsFound PartsNamed
  cases r.kind with
  | missing => exact readMissing?_isSome_iff
  | reference => exact readKey?_isSome_iff
  | check => exact readCheck?_isSome_iff
  | unique => exact Iff.rfl
  | other name => exact Iff.rfl

theorem roleConflict?_eq_some {text : String} {e : AppError} (h : roleConflict? text = some e) :
    ∃ user role scope, e = .roleAlreadyAssigned user role scope := by
  unfold roleConflict? at h
  obtain ⟨⟨columns, values⟩, -, h⟩ := Option.bind_eq_some_iff.mp h
  dsimp only at h
  split at h
  · obtain ⟨user, -, h⟩ := Option.bind_eq_some_iff.mp h
    obtain ⟨role, -, h⟩ := Option.bind_eq_some_iff.mp h
    cases h
    exact ⟨user, role, _, rfl⟩
  · cases h

/-- Only the index over user, role and scope speaks of roles. -/
theorem uniqueError_cases (r : ViolationReport) :
    (r.constraint = some roleScopeIndex ∧
        ∃ user role scope, r.uniqueError = .roleAlreadyAssigned user role scope) ∨
      ∃ entity field value, r.uniqueError = .duplicate entity field value := by
  unfold uniqueError
  split
  · rename_i hindex
    cases hread : roleConflict? r.fullText with
    | none => exact .inr ⟨_, _, _, rfl⟩
    | some e => exact .inl ⟨hindex, roleConflict?_eq_some hread⟩
  · refine .inr ?_
    split
    · exact ⟨_, _, _, rfl⟩
    · unfold undetailedDuplicate
      split <;> exact ⟨_, _, _, rfl⟩

theorem decode?_cases (r : ViolationReport) :
    (r.kind = .unique ∧ r.decode? = some r.uniqueError) ∨
      (r.PartsFound ∧ ∃ field reason, r.decode? = some (.validation field reason)) ∨
      r.kind ≠ .unique ∧ ¬r.PartsFound ∧ r.decode? = none := by
  unfold PartsFound decode?
  cases hkind : r.kind with
  | unique => exact .inl ⟨rfl, rfl⟩
  | missing =>
    dsimp only
    rw [missingError?]
    cases readMissing? r.fullText <;> simp
  | reference =>
    dsimp only
    rw [referenceError?]
    cases readReference? r.fullText r.constraint <;> simp
  | check =>
    dsimp only
    rw [checkError?]
    cases readCheck? r.fullText r.constraint <;> simp
  | other name => simp

theorem PartsFound.kind_ne_unique (h : r.PartsFound) : r.kind ≠ .unique := by
  intro hkind
  rw [PartsFound, hkind] at h
  exact h

theorem kind_uniqueError (r : ViolationReport) : r.uniqueError.kind = .conflict := by
  rcases r.uniqueError_cases with
    ⟨-, user, role, scope, herror⟩ | ⟨entity, field, value, herror⟩
  · rw [herror]
    rfl
  · rw [herror]
    rfl

end ViolationReport

namespace StatementError

theorem toAppError_cases (e : StatementError) (operation : String) :
    (∃ r, e = .reported r ∧ r.kind = .unique ∧ e.toAppError operation = r.uniqueError) ∨
      (∃ r, e = .reported r ∧ r.PartsFound ∧
        ∃ field reason, e.toAppError operation = .validation field reason) ∨
      (e = .noRow ∧ e.toAppError operation = .notFound "resource" "id" "unknown") ∨
      (∀ r, e = .reported r → r.kind ≠ .unique ∧ ¬r.PartsFound) ∧ e ≠ .noRow ∧
        e.toAppError operation = .database operation [e.text] := by
  cases e with
  | reported r =>
    rw [toAppError]
    rcases r.decode?_cases with ⟨hkind, hread⟩ | ⟨hfound, field, reason, hread⟩ |
      ⟨hkind, hlost, hread⟩ <;> rw [hread]
    · exact .inl ⟨r, rfl, hkind, rfl⟩
    · exact .inr (.inl ⟨r, rfl, hfound, field, reason, rfl⟩)
    · refine .inr (.inr (.inr ⟨?_, nofun, rfl⟩))
      rintro other ⟨⟩
      exact ⟨hkind, hlost⟩
  | noRow => exact .inr (.inr (.inl ⟨rfl, rfl⟩))
  | _ => exact .inr (.inr (.inr ⟨nofun, nofun, rfl⟩))

end StatementError

/-- The kind of the error, for every failure and whatever its texts are. -/
theorem database_errors_classified (e : StatementError) (operation : String) :
    ((e.toAppError operation).kind = .conflict ↔ ∃ r, e = .reported r ∧ r.kind = .unique) ∧
    ((e.toAppError operation).kind = .badRequest ↔ ∃ r, e = .reported r ∧ r.PartsFound) ∧
    ((e.toAppError operation).kind = .badRequest ↔ ∃ r, e = .reported r ∧ r.PartsNamed) ∧
    ((e.toAppError operation).kind = .notFound ↔ e = .noRow) ∧
    ((e.toAppError operation).kind = .internal ↔
      e.toAppError operation = .database operation [e.text]) := by
  simp only [← ViolationReport.partsFound_iff_partsNamed]
  rcases e.toAppError_cases operation with ⟨r, rfl, hkind, herror⟩ |
    ⟨r, rfl, hfound, field, reason, herror⟩ | ⟨rfl, herror⟩ | ⟨hother, hrow, herror⟩
  · have hlost : ¬r.PartsFound := fun hfound => hfound.kind_ne_unique hkind
    have hconflict := r.kind_uniqueError
    have hsource : r.uniqueError ≠ .database operation [(StatementError.reported r).text] := by
      intro heq
      rw [heq] at hconflict
      cases hconflict
    simp [herror, hconflict, hkind, hlost, hsource]
  · simp [herror, AppError.kind, hfound, hfound.kind_ne_unique]
  · simp [herror, AppError.kind]
  · have hunique : ¬∃ r, e = .reported r ∧ r.kind = .unique := by
      rintro ⟨r, he, hkind⟩
      exact (hother r he).1 hkind
    have hlost : ¬∃ r, e = .reported r ∧ r.PartsFound := by
      rintro ⟨r, he, hfound⟩
      exact (hother r he).2 hfound
    simp only [herror, AppError.kind, hunique, hlost, hrow, reduceCtorEq, iff_self, and_self]

end Registrar
