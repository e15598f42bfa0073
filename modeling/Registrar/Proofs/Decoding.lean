import Registrar.Proofs.Phrases
import Registrar.Store.Schema

/-!
# Violations come back as errors

The database names its constraints after their tables and columns and words its violations in
prose, with what the user has written inside.  Whatever that is, the error that is read from a
violation names the table and the columns of the constraint, and gives the values as far as
their first closing parenthesis (`violations_decode`).
-/

namespace Registrar

open Text Violation

/-! ## Names and constraints -/

def isNameChar (c : Char) : Bool :=
  ('a' ≤ c && c ≤ 'z') || isDigit c || c == '_'

/-- The name of a table or of a column. -/
structure SchemaName where
  text : String
  ne_empty : text ≠ ""
  allowed : text.toList.all isNameChar

def ProfileKind.table (kind : ProfileKind) : SchemaName where
  text := kind.entity
  ne_empty := by cases kind <;> decide
  allowed := by cases kind <;> decide

/-- A table with some of its columns, at least one. -/
structure ColumnKey where
  table : SchemaName
  first : SchemaName
  others : List SchemaName

namespace ColumnKey

/-- A table with one of its columns. -/
def single (table column : SchemaName) : ColumnKey :=
  ⟨table, column, []⟩

def columns (k : ColumnKey) : List SchemaName :=
  k.first :: k.others

/-- The columns as a report lists them. -/
def listed (k : ColumnKey) : String :=
  ", ".intercalate (k.columns.map SchemaName.text)

/-- The name of a constraint; `sort` is the ending of its sort. -/
def constraint (k : ColumnKey) (sort : String) : String :=
  k.table.text ++ "_" ++ "_".intercalate (k.columns.map SchemaName.text) ++ sort

end ColumnKey

namespace Schema

/-- The key is taken already by a row with these values. -/
def duplicated (k : ColumnKey) (values : String) : StatementError :=
  uniqueViolation (k.constraint "_key") k.listed values

/-- No row of `target` has these values. -/
def dangling (k : ColumnKey) (values target : String) : StatementError :=
  .reported
    { kind := .reference
      message := "insert or update on table \"" ++ k.table.text ++
        "\" violates foreign key constraint \"" ++ k.constraint "_fkey" ++ "\""
      detail := "Key (" ++ k.listed ++ ")=(" ++ values ++
        ") is not present in table \"" ++ target ++ "\"."
      constraint := k.constraint "_fkey" }

/-- A column of the table has no value; the detail shows the row. -/
def missing (table column : SchemaName) (detail : Option String) : StatementError :=
  .reported
    { kind := .missing
      message := "null value in column \"" ++ column.text ++ "\" of relation \"" ++
        table.text ++ "\" violates not-null constraint"
      detail }

/-- A row does not satisfy the condition on a column; the detail shows the row. -/
def unsatisfied (table column : SchemaName) (detail : Option String) : StatementError :=
  let constraint := (ColumnKey.single table column).constraint "_check"
  .reported
    { kind := .check
      message := "new row for relation \"" ++ table.text ++
        "\" violates check constraint \"" ++ constraint ++ "\""
      detail
      constraint }

end Schema

/-- Values as an error gives them. -/
def shownValues (values : String) : String :=
  String.ofList (cutAt ')' values.toList)

theorem shownValues_eq_self_iff {values : String} :
    shownValues values = values ↔ ')' ∉ values.toList := by
  rw [← cutAt_eq_self_iff, ← String.toList_inj, shownValues, String.toList_ofList]

/-! ## Characters of names -/

theorem ne_of_isNameChar {c d : Char} (hc : isNameChar c) (hd : isNameChar d = false) : c ≠ d := by
  rintro rfl
  rw [hc] at hd
  cases hd

theorem isBlank_of_isNameChar {c : Char} (h : isNameChar c) : isBlank c = false := by
  simp only [isNameChar, isDigit, Bool.or_eq_true, Bool.and_eq_true, decide_eq_true_eq,
    beq_iff_eq] at h
  have hcode : 48 ≤ c.toNat ∧ c.toNat ≤ 122 := by
    rcases h with (⟨hlow, hhigh⟩ | ⟨hlow, hhigh⟩) | rfl
    · have hlow : 97 ≤ c.toNat := hlow
      have hhigh : c.toNat ≤ 122 := hhigh
      omega
    · have hlow : 48 ≤ c.toNat := hlow
      have hhigh : c.toNat ≤ 57 := hhigh
      omega
    · decide
  simp [isBlank]
  omega

namespace SchemaName

variable (name : SchemaName)

theorem isNameChar_of_mem {c : Char} (hc : c ∈ name.text.toList) : isNameChar c :=
  List.all_eq_true.mp name.allowed c hc

theorem notMem {d : Char} (hd : isNameChar d = false) : d ∉ name.text.toList :=
  fun hmem => ne_of_isNameChar (name.isNameChar_of_mem hmem) hd rfl

theorem toList_ne_nil : name.text.toList ≠ [] := by
  simpa using name.ne_empty

end SchemaName

namespace ColumnKey

variable (k : ColumnKey)

theorem toList_listed :
    k.listed.toList =
      [',', ' '].intercalate (k.columns.map fun column => column.text.toList) := by
  unfold listed
  rw [String.toList_intercalate, List.map_map]
  rfl

theorem toList_constraint (sort : String) :
    (k.constraint sort).toList =
      k.table.text.toList ++ ['_'] ++
        ['_'].intercalate (k.columns.map fun column => column.text.toList) ++ sort.toList := by
  unfold constraint
  rw [String.toList_append, String.toList_append, String.toList_append,
    String.toList_intercalate, List.map_map]
  rfl

@[simp] theorem constraint_single (table column : SchemaName) (sort : String) :
    (single table column).constraint sort = table.text ++ "_" ++ column.text ++ sort := by
  simp [constraint, single, columns]

@[simp] theorem listed_single (table column : SchemaName) :
    (single table column).listed = column.text := by
  simp [listed, single, columns]

theorem listed_ne_nil : k.listed.toList ≠ [] := by
  have hfirst := k.first.toList_ne_nil
  rw [toList_listed, columns]
  cases k.others <;> simp [hfirst]

theorem notMem_listed {d : Char} (hname : isNameChar d = false) (hcomma : d ≠ ',')
    (hblank : d ≠ ' ') : d ∉ k.listed.toList := by
  intro hmem
  rw [toList_listed] at hmem
  rcases mem_intercalate hmem with hsep | ⟨piece, hpiece, hd⟩
  · simp [hcomma, hblank] at hsep
  · obtain ⟨column, -, rfl⟩ := List.mem_map.mp hpiece
    exact column.notMem hname hd

theorem notMem_constraint {sort : String} {d : Char} (hname : isNameChar d = false)
    (hsort : d ∉ sort.toList) : d ∉ (k.constraint sort).toList := by
  have hunderscore : d ∉ ['_'] := by
    intro hd
    rw [List.mem_singleton.mp hd] at hname
    cases hname
  intro hmem
  rw [toList_constraint] at hmem
  simp only [List.mem_append] at hmem
  rcases hmem with ((htable | hjoint) | hcolumns) | hending
  · exact k.table.notMem hname htable
  · exact hunderscore hjoint
  · rcases mem_intercalate hcolumns with hjoint | ⟨piece, hpiece, hd⟩
    · exact hunderscore hjoint
    · obtain ⟨column, -, rfl⟩ := List.mem_map.mp hpiece
      exact column.notMem hname hd
  · exact hsort hending

/-- The columns are read back from their list. -/
theorem parts_listed : parts k.listed.toList = k.columns.map fun column => column.text.toList := by
  have hnames : ∀ part ∈ k.columns.map fun column => column.text.toList,
      ∃ column : SchemaName, column.text.toList = part := by
    intro part hpart
    obtain ⟨column, -, hcolumn⟩ := List.mem_map.mp hpart
    exact ⟨column, hcolumn⟩
  rw [toList_listed]
  apply parts_intercalate
  · intro part hpart
    obtain ⟨column, rfl⟩ := hnames part hpart
    exact column.notMem rfl
  · intro part hpart c hc
    obtain ⟨column, rfl⟩ := hnames part hpart
    exact isBlank_of_isNameChar (column.isNameChar_of_mem hc)

theorem tableOfName?_constraint (sort : String) :
    tableOfName? sort.toList k.listed.toList (k.constraint sort).toList =
      some k.table.text.toList := by
  rw [toList_constraint, ← parts_listed, ← joinWith_eq_intercalate]
  exact tableOfName?_eq_some_iff.mpr ⟨k.table.toList_ne_nil, rfl⟩

end ColumnKey

/-! ## Reading reports -/

/-- A key is read from the detail, whatever the message says before it. -/
theorem key?_detail {message detail : String} {columns values after : List Char}
    (hmessage : 'K' ∉ message.toList) (hne : columns ≠ []) (hclosing : ')' ∉ columns)
    (hdetail : detail.toList =
      "Key (".toList ++ (columns ++ (")=(".toList ++ (values ++ ')' :: after)))) :
    key? (message ++ "\nDETAIL: " ++ detail).toList = some (columns, cutAt ')' values) := by
  have hbefore : 'K' ∉ message.toList ++ "\nDETAIL: ".toList := by
    simp [hmessage]
  rw [String.toList_append, String.toList_append, hdetail]
  exact key?_append hbefore hne hclosing values after

theorem readKey?_detail (k : ColumnKey) (sort : String) {message detail : String}
    {values after : List Char} (hmessage : 'K' ∉ message.toList)
    (hdetail : detail.toList =
      "Key (".toList ++ (k.listed.toList ++ (")=(".toList ++ (values ++ ')' :: after)))) :
    readKey? sort (message ++ "\nDETAIL: " ++ detail) (k.constraint sort) =
      some
        { entity := k.table.text
          field := k.listed
          value := String.ofList (cutAt ')' values) } := by
  have hclosing : ')' ∉ k.listed.toList := k.notMem_listed rfl (by decide) (by decide)
  have hkey := key?_detail hmessage k.listed_ne_nil hclosing hdetail
  simp only [readKey?, hkey, Option.bind_eq_bind, Option.bind_some, k.tableOfName?_constraint,
    entityOr]
  simp

theorem column?_missing (table column : SchemaName) (after : List Char) :
    column? (("null value in column \"" ++ column.text ++ "\" of relation \"" ++ table.text ++
      "\" violates not-null constraint").toList ++ after) = some column.text.toList := by
  have hphrase : "null value in column \"".toList =
      "null value in ".toList ++ "column \"".toList := rfl
  have hquote : "\" of relation \"".toList = '"' :: " of relation \"".toList := rfl
  have hskip : ∀ c ∈ "null value in ".toList, ∀ s,
      quotedAfterHere? "column \"".toList (c :: s) = none := by
    intro c hc s
    have hne : c ≠ 'c' := by
      rintro rfl
      exact absurd hc (by decide)
    exact quotedAfterHere?_cons_of_ne hne "olumn \"".toList s
  simp only [String.toList_append, List.append_assoc, hphrase, hquote, List.cons_append]
  rw [column?, firstMatch_append_of_head hskip]
  exact firstMatch_of_some
    (quotedAfterHere?_append column.toList_ne_nil (column.notMem rfl) _ _)

/-- Neither phrase of a table begins inside a name in quotes, for a blank comes before the
quote in both. -/
theorem tableHere?_name {name : List Char} (hname : ∀ c ∈ name, isNameChar c)
    (rest : List Char) : tableHere? (name ++ '"' :: rest) = none := by
  have hphrase : ∀ word : List Char, word.all isNameChar →
      quotedAfterHere? (word ++ " \"".toList) (name ++ '"' :: rest) = none := by
    intro word hword
    rw [quotedAfterHere?, Option.bind_eq_bind, Option.bind_eq_none_iff]
    intro after hafter
    have hsame := afterPrefix?_eq_some_iff.mp hafter
    have hdrop := congrArg (List.dropWhile isNameChar) hsame
    rw [List.append_assoc, List.dropWhile_append_of_pos hname,
      List.dropWhile_append_of_pos (List.all_eq_true.mp hword)] at hdrop
    cases hdrop
  have htable : quotedAfterHere? "table \"".toList (name ++ '"' :: rest) = none :=
    hphrase "table".toList (by decide)
  have hrelation : quotedAfterHere? "relation \"".toList (name ++ '"' :: rest) = none :=
    hphrase "relation".toList (by decide)
  rw [tableHere?, htable, hrelation]
  rfl

theorem tableHere?_relation (table : SchemaName) (rest : List Char) :
    tableHere? ("relation \"".toList ++ (table.text.toList ++ '"' :: rest)) =
      some table.text.toList := by
  have htable : quotedAfterHere? "table \"".toList
      ("relation \"".toList ++ (table.text.toList ++ '"' :: rest)) = none := rfl
  rw [tableHere?, htable, quotedAfterHere?_append table.toList_ne_nil (table.notMem rfl)]
  rfl

theorem table?_missing (table column : SchemaName) (after : List Char) :
    table? (("null value in column \"" ++ column.text ++ "\" of relation \"" ++ table.text ++
      "\" violates not-null constraint").toList ++ after) = some table.text.toList := by
  have hphrase : "\" of relation \"".toList = '"' :: (" of ".toList ++ "relation \"".toList) := rfl
  have hquote : "\" violates not-null constraint".toList =
      '"' :: " violates not-null constraint".toList := rfl
  have hskip : ∀ front : List Char, 't' ∉ front → 'r' ∉ front →
      ∀ c ∈ front, ∀ s, tableHere? (c :: s) = none := by
    intro front ht hr c hc s
    have hnet : c ≠ 't' := fun heq => ht (heq ▸ hc)
    have hner : c ≠ 'r' := fun heq => hr (heq ▸ hc)
    exact tableHere?_cons_of_ne hnet hner s
  have hcolumn : ∀ later, later ≠ [] → later <:+ column.text.toList → ∀ more,
      tableHere? (later ++ '"' :: more) = none := by
    intro later _ hsuffix more
    exact tableHere?_name (fun c hc => column.isNameChar_of_mem (hsuffix.subset hc)) more
  have hclosing : ∀ c ∈ ['"'], ∀ s, tableHere? (c :: s) = none :=
    hskip ['"'] (by decide) (by decide)
  simp only [String.toList_append, List.append_assoc, hphrase, hquote, List.cons_append]
  -- In front of the name of the table are words, the name of the column and more words.
  rw [table?, firstMatch_append_of_head (hskip _ (by decide) (by decide)),
    firstMatch_append fun later hne hsuffix => hcolumn later hne hsuffix _,
    ← List.singleton_append, firstMatch_append_of_head hclosing,
    firstMatch_append_of_head (hskip _ (by decide) (by decide))]
  exact firstMatch_of_some (tableHere?_relation table _)

theorem table?_unsatisfied (table : SchemaName) (name : String) (after : List Char) :
    table? (("new row for relation \"" ++ table.text ++ "\" violates check constraint \"" ++
      name ++ "\"").toList ++ after) = some table.text.toList := by
  have hquote : "\" violates check constraint \"".toList =
      '"' :: " violates check constraint \"".toList := rfl
  have hskip : ∀ rest, table? ("new row for relation \"".toList ++ rest) =
      firstMatch tableHere? ("relation \"".toList ++ rest) := fun _ => rfl
  simp only [String.toList_append, List.append_assoc, hquote, List.cons_append]
  rw [hskip]
  exact firstMatch_of_some (tableHere?_relation table _)

/-! ## Errors of reports -/

section Reported

variable {message name : String} {facts : KeyFacts} {table column : List Char}

theorem toAppError_of_decode? {r : ViolationReport} {e : AppError} (h : r.decode? = some e)
    (operation : String) : (StatementError.reported r).toAppError operation = e := by
  rw [StatementError.toAppError, h, Option.getD_some]

theorem toAppError_unique {detail : String} (hindex : name ≠ ViolationReport.roleScopeIndex)
    (hread : readKey? "_key" (message ++ "\nDETAIL: " ++ detail) name = some facts)
    (operation : String) :
    (StatementError.reported
        { kind := .unique, message, detail, constraint := name }).toAppError operation =
      .duplicate facts.entity facts.field facts.value := by
  apply toAppError_of_decode?
  have hother : ¬(some name = some ViolationReport.roleScopeIndex) :=
    fun heq => hindex (Option.some.inj heq)
  simp only [ViolationReport.decode?, ViolationReport.uniqueError, hother, if_false,
    ViolationReport.fullText, Option.getD_some, readUnique?, hread]

theorem toAppError_reference {detail : String}
    (hread : readKey? "_fkey" (message ++ "\nDETAIL: " ++ detail) name = some facts)
    (operation : String) :
    (StatementError.reported
        { kind := .reference, message, detail, constraint := name }).toAppError operation =
      .validation facts.field
        ("Invalid reference from " ++ facts.entity ++ " with value '" ++ facts.value ++
          "'") := by
  apply toAppError_of_decode?
  simp only [ViolationReport.decode?, ViolationReport.referenceError?,
    ViolationReport.fullText, Option.getD_some, readReference?, hread, Option.map_some]

theorem toAppError_missing
    (htable : ∀ after, table? (message.toList ++ after) = some table)
    (hcolumn : ∀ after, column? (message.toList ++ after) = some column)
    (detail : Option String) (operation : String) :
    (StatementError.reported { kind := .missing, message, detail }).toAppError operation =
      .validation (String.ofList column) ("Field is required for " ++ String.ofList table) := by
  apply toAppError_of_decode?
  simp only [ViolationReport.decode?, ViolationReport.missingError?,
    ViolationReport.fullText, readMissing?, entityOr, String.toList_append, List.append_assoc,
    htable, hcolumn]
  rfl

theorem toAppError_check
    (htable : ∀ after, table? (message.toList ++ after) = some table)
    (hname : name.toList = table ++ ['_'] ++ column ++ "_check".toList)
    (detail : Option String) (operation : String) :
    (StatementError.reported
        { kind := .check, message, detail, constraint := name }).toAppError operation =
      .validation (String.ofList column)
        ("Check constraint failed for " ++ String.ofList table ++ " field") := by
  apply toAppError_of_decode?
  have hafter : afterPrefix? table name.toList = some ('_' :: (column ++ "_check".toList)) := by
    rw [afterPrefix?_eq_some_iff, hname]
    simp
  have hunderscore : afterPrefix? ['_'] ('_' :: (column ++ "_check".toList)) =
      some (column ++ "_check".toList) :=
    afterPrefix?_eq_some_iff.mpr rfl
  have hcolumn : beforeSuffix? "_check".toList (column ++ "_check".toList) = some column :=
    beforeSuffix?_eq_some_iff.mpr rfl
  simp only [ViolationReport.decode?, ViolationReport.checkError?,
    ViolationReport.fullText, readCheck?, String.toList_append, List.append_assoc, htable,
    Option.bind_eq_bind, Option.bind_some, hafter, hunderscore, hcolumn, Option.map_some,
    Option.getD_some]

end Reported

/-! ## Errors of violations -/

namespace Schema

theorem notMem_duplicateMessage (k : ColumnKey) :
    'K' ∉ ("duplicate key value violates unique constraint \"" ++ k.constraint "_key" ++
      "\"").toList := by
  have hname : 'K' ∉ (k.constraint "_key").toList := k.notMem_constraint rfl (by decide)
  simp [hname]

theorem readKey?_duplicated (k : ColumnKey) (values : String) :
    readKey? "_key"
        ("duplicate key value violates unique constraint \"" ++ k.constraint "_key" ++ "\"" ++
          "\nDETAIL: " ++ ("Key (" ++ k.listed ++ ")=(" ++ values ++ ") already exists."))
        (k.constraint "_key") =
      some { entity := k.table.text, field := k.listed, value := shownValues values } := by
  have hdetail : ("Key (" ++ k.listed ++ ")=(" ++ values ++ ") already exists.").toList =
      "Key (".toList ++ (k.listed.toList ++ (")=(".toList ++
        (values.toList ++ ')' :: " already exists.".toList))) := by
    simp
  exact readKey?_detail k "_key" (notMem_duplicateMessage k) hdetail

theorem duplicated_decodes (k : ColumnKey) (values operation : String)
    (hindex : k.constraint "_key" ≠ ViolationReport.roleScopeIndex) :
    (duplicated k values).toAppError operation =
      .duplicate k.table.text k.listed (shownValues values) :=
  toAppError_unique hindex (readKey?_duplicated k values) operation

theorem readKey?_dangling (k : ColumnKey) (values target : String) :
    readKey? "_fkey"
        ("insert or update on table \"" ++ k.table.text ++
            "\" violates foreign key constraint \"" ++ k.constraint "_fkey" ++ "\"" ++
          "\nDETAIL: " ++
          ("Key (" ++ k.listed ++ ")=(" ++ values ++ ") is not present in table \"" ++ target ++
            "\"."))
        (k.constraint "_fkey") =
      some { entity := k.table.text, field := k.listed, value := shownValues values } := by
  have htable : 'K' ∉ k.table.text.toList := k.table.notMem rfl
  have hname : 'K' ∉ (k.constraint "_fkey").toList := k.notMem_constraint rfl (by decide)
  have hmessage : 'K' ∉ ("insert or update on table \"" ++ k.table.text ++
      "\" violates foreign key constraint \"" ++ k.constraint "_fkey" ++ "\"").toList := by
    simp [htable, hname]
  have hdetail : ("Key (" ++ k.listed ++ ")=(" ++ values ++ ") is not present in table \"" ++
        target ++ "\".").toList =
      "Key (".toList ++ (k.listed.toList ++ (")=(".toList ++
        (values.toList ++ ')' :: (" is not present in table \"" ++ target ++ "\".").toList))) := by
    simp
  exact readKey?_detail k "_fkey" hmessage hdetail

theorem dangling_decodes (k : ColumnKey) (values target operation : String) :
    (dangling k values target).toAppError operation =
      .validation k.listed
        ("Invalid reference from " ++ k.table.text ++ " with value '" ++ shownValues values ++
          "'") :=
  toAppError_reference (readKey?_dangling k values target) operation

theorem missing_decodes (table column : SchemaName) (detail : Option String)
    (operation : String) :
    (missing table column detail).toAppError operation =
      .validation column.text ("Field is required for " ++ table.text) := by
  have herror := toAppError_missing (table?_missing table column) (column?_missing table column)
    detail operation
  simpa only [missing, String.ofList_toList] using herror

theorem unsatisfied_decodes (table column : SchemaName) (detail : Option String)
    (operation : String) :
    (unsatisfied table column detail).toAppError operation =
      .validation column.text ("Check constraint failed for " ++ table.text ++ " field") := by
  have hname : ((ColumnKey.single table column).constraint "_check").toList =
      table.text.toList ++ ['_'] ++ column.text.toList ++ "_check".toList := by
    simp
  have htable := table?_unsatisfied table ((ColumnKey.single table column).constraint "_check")
  have herror := toAppError_check htable hname detail operation
  simpa only [unsatisfied, String.ofList_toList] using herror

end Schema

/-- The errors of the four sorts of violation, for every constraint and every text that stands
in the report of its violation. -/
theorem violations_decode (operation : String) :
    (∀ (k : ColumnKey) (values : String),
      k.constraint "_key" ≠ ViolationReport.roleScopeIndex →
        (Schema.duplicated k values).toAppError operation =
          .duplicate k.table.text k.listed (shownValues values)) ∧
    (∀ (k : ColumnKey) (values target : String),
      (Schema.dangling k values target).toAppError operation =
        .validation k.listed
          ("Invalid reference from " ++ k.table.text ++ " with value '" ++
            shownValues values ++ "'")) ∧
    (∀ (table column : SchemaName) (detail : Option String),
      (Schema.missing table column detail).toAppError operation =
        .validation column.text ("Field is required for " ++ table.text)) ∧
    ∀ (table column : SchemaName) (detail : Option String),
      (Schema.unsatisfied table column detail).toAppError operation =
        .validation column.text ("Check constraint failed for " ++ table.text ++ " field") := by
  refine ⟨fun k values hindex => ?_, fun k values target => ?_, fun table column detail => ?_,
    fun table column detail => ?_⟩
  · exact Schema.duplicated_decodes k values operation hindex
  · exact Schema.dangling_decodes k values target operation
  · exact Schema.missing_decodes table column detail operation
  · exact Schema.unsatisfied_decodes table column detail operation

/-- The key that keeps one guardian from being linked twice to one student. -/
def guardianKey : ColumnKey where
  table := ⟨"student_guardians", by decide, by decide⟩
  first := ⟨"user_id", by decide, by decide⟩
  others := [⟨"student_id", by decide, by decide⟩]

/-- Values that pretend to be another detail. -/
def forgedValues : String :=
  "7, 8) already exists. Key (email)=(ada@a.org"

theorem violations_decode_guardianKey :
    guardianKey.constraint "_key" ≠ ViolationReport.roleScopeIndex ∧
      (Schema.duplicated guardianKey forgedValues).toAppError "insert student_guardians" =
        .duplicate "student_guardians" "user_id, student_id" "7, 8" := by
  have hindex : guardianKey.constraint "_key" ≠ ViolationReport.roleScopeIndex := by decide
  have herror := (violations_decode "insert student_guardians").1 guardianKey forgedValues hindex
  have hshown : shownValues forgedValues = "7, 8" := by decide
  have hlisted : guardianKey.listed = "user_id, student_id" := by decide
  rw [hshown, hlisted] at herror
  exact ⟨hindex, herror⟩

end Registrar
