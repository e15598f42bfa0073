import Registrar.Proofs.Decoding

/-!
# Names of unique constraints

No known table with an underscore after it begins another, so that the name of a unique
constraint comes apart in one way at most.  The table that is found in the name alone is
therefore the one that is found with the columns of the detail, and the columns are the same
but for what stands between them (`unique_names_split`).
-/

namespace Registrar

open Text

namespace Violation

/-! ## Tables and columns in a name -/

theorem knownTables_prefixFree : ∀ table ∈ knownTables, ∀ other ∈ knownTables,
    table.toList ++ ['_'] <+: other.toList ++ ['_'] → table = other := by
  decide

theorem table_unique {table other : String} (htable : table ∈ knownTables)
    (hother : other ∈ knownTables) {columns more : List Char}
    (h : table.toList ++ ['_'] ++ columns = other.toList ++ ['_'] ++ more) : table = other := by
  have hfirst : table.toList ++ ['_'] <+: table.toList ++ ['_'] ++ columns :=
    List.prefix_append _ columns
  have hsecond : other.toList ++ ['_'] <+: table.toList ++ ['_'] ++ columns :=
    h ▸ List.prefix_append _ more
  -- Both tables begin the same text, so that one of them begins the other.
  rcases List.prefix_or_prefix_of_prefix hfirst hsecond with hshorter | hlonger
  · exact knownTables_prefixFree table htable other hother hshorter
  · exact (knownTables_prefixFree other hother table htable hlonger).symm

theorem columnsAfter?_eq_some_iff {table : String} {body : List Char}
    {reading : String × List Char} :
    columnsAfter? table body = some reading ↔
      reading.1 = table ∧ reading.2 ≠ [] ∧ body = table.toList ++ ['_'] ++ reading.2 := by
  obtain ⟨name, columns⟩ := reading
  simp only [columnsAfter?, Option.bind_eq_bind, Option.bind_eq_some_iff, afterPrefix?_eq_some_iff]
  constructor
  · rintro ⟨_, rfl, rest, rfl, hrest⟩
    by_cases hne : rest = []
    · rw [if_pos hne] at hrest
      cases hrest
    · rw [if_neg hne] at hrest
      cases hrest
      exact ⟨rfl, hne, by simp⟩
  · rintro ⟨rfl, hne, rfl⟩
    exact ⟨['_'] ++ columns, by simp, columns, rfl, if_neg hne⟩

theorem mem_of_longest {readings : List (String × List Char)} {reading : String × List Char}
    (h : longest readings = some reading) : reading ∈ readings := by
  induction readings generalizing reading with
  | nil => cases h
  | cons first rest ih =>
    cases hrest : longest rest with
    | none =>
      rw [longest, hrest] at h
      cases h
      exact List.mem_cons_self
    | some best =>
      rw [longest, hrest, longer] at h
      split at h
      · cases h
        exact List.mem_cons_of_mem first (ih hrest)
      · cases h
        exact List.mem_cons_self

theorem longest_of_unique {readings : List (String × List Char)} {reading : String × List Char}
    (hmem : reading ∈ readings) (hunique : ∀ other ∈ readings, other = reading) :
    longest readings = some reading := by
  cases hlongest : longest readings with
  | none =>
    cases readings with
    | nil => cases hmem
    | cons first rest => cases hlongest
  | some best => rw [hunique best (mem_of_longest hlongest)]

theorem splitUnique?_eq_some_iff {name : List Char} {table : String} {columns : List Char} :
    splitUnique? name = some (table, columns) ↔
      table ∈ knownTables ∧ columns ≠ [] ∧
        name = table.toList ++ ['_'] ++ columns ++ "_key".toList := by
  have hreadings : ∀ {body reading}, reading ∈ knownTables.filterMap (columnsAfter? · body) ↔
      reading.1 ∈ knownTables ∧ reading.2 ≠ [] ∧ body = reading.1.toList ++ ['_'] ++ reading.2 := by
    intro body reading
    simp only [List.mem_filterMap, columnsAfter?_eq_some_iff]
    constructor
    · rintro ⟨_, hknown, rfl, hne, hbody⟩
      exact ⟨hknown, hne, hbody⟩
    · rintro ⟨hknown, hne, hbody⟩
      exact ⟨_, hknown, rfl, hne, hbody⟩
  simp only [splitUnique?, Option.bind_eq_bind, Option.bind_eq_some_iff,
    beforeSuffix?_eq_some_iff]
  constructor
  · rintro ⟨body, rfl, hlongest⟩
    obtain ⟨hknown, hne, hbody⟩ := hreadings.mp (mem_of_longest hlongest)
    exact ⟨hknown, hne, by rw [hbody]⟩
  · rintro ⟨hknown, hne, rfl⟩
    refine ⟨_, rfl, longest_of_unique (hreadings.mpr ⟨hknown, hne, rfl⟩) ?_⟩
    rintro ⟨other, more⟩ hother
    obtain ⟨hotherKnown, -, hsame⟩ := hreadings.mp hother
    obtain rfl := table_unique hknown hotherKnown hsame
    rw [List.append_cancel_left hsame]

/-! ## Reports with and without a detail -/

/-- A list of columns with an underscore in place of each comma and blank. -/
def underscored : List Char → List Char
  | ',' :: ' ' :: rest => '_' :: underscored rest
  | c :: rest => c :: underscored rest
  | [] => []

theorem underscored_append {piece : List Char} (h : ',' ∉ piece) (rest : List Char) :
    underscored (piece ++ rest) = piece ++ underscored rest := by
  induction piece with
  | nil => rfl
  | cons c piece ih =>
    have hc : c ≠ ',' := fun hc => h (hc ▸ List.mem_cons_self)
    have hpiece : ',' ∉ piece := fun hmem => h (List.mem_cons_of_mem c hmem)
    rw [List.cons_append, underscored, ih hpiece, List.cons_append]
    rintro more rfl
    exact absurd rfl hc

theorem underscored_intercalate {pieces : List (List Char)} (h : ∀ piece ∈ pieces, ',' ∉ piece) :
    underscored ([',', ' '].intercalate pieces) = ['_'].intercalate pieces := by
  induction pieces with
  | nil => rfl
  | cons piece rest ih =>
    have hpiece : ',' ∉ piece := h piece List.mem_cons_self
    have hrest : ∀ piece ∈ rest, ',' ∉ piece := fun other hother =>
      h other (List.mem_cons_of_mem piece hother)
    cases rest with
    | nil => simpa [underscored] using underscored_append hpiece []
    | cons next more =>
      rw [List.intercalate_cons_cons, List.intercalate_cons_cons, List.append_assoc,
        underscored_append hpiece, ← ih hrest, List.append_assoc]
      rfl

end Violation

open Violation

namespace Schema

/-- The key is taken already.  With the `keyDetail` this is the report of `duplicated`, but the
detail may be left out. -/
def keyReport (k : ColumnKey) (detail : Option String) : ViolationReport where
  kind := .unique
  message := "duplicate key value violates unique constraint \"" ++ k.constraint "_key" ++ "\""
  detail
  constraint := k.constraint "_key"

def keyDetail (k : ColumnKey) (values : String) : String :=
  "Key (" ++ k.listed ++ ")=(" ++ values ++ ") already exists."

/-- The report of a session that must not see the columns. -/
def undetailed (k : ColumnKey) : StatementError :=
  .reported (keyReport k none)

theorem readUnique?_keyDetail (k : ColumnKey) (values : String) :
    readUnique? (keyReport k (some (keyDetail k values))).fullText (k.constraint "_key") =
      some { entity := k.table.text, field := k.listed, value := shownValues values } :=
  readKey?_duplicated k values

theorem readUnique?_undetailed (k : ColumnKey) :
    readUnique? (keyReport k none).fullText (k.constraint "_key") = none := by
  have htext : 'K' ∉ (keyReport k none).fullText.toList := by
    have hmessage := notMem_duplicateMessage k
    rw [ViolationReport.fullText, String.toList_append, String.toList_append]
    simp only [keyReport, List.mem_append, hmessage]
    decide
  rw [readUnique?, readKey?, key?_eq_none htext]
  rfl

theorem undetailed_decodes (k : ColumnKey)
    (hindex : k.constraint "_key" ≠ ViolationReport.roleScopeIndex) (operation : String) :
    (undetailed k).toAppError operation =
      ViolationReport.undetailedDuplicate (some (k.constraint "_key")) := by
  apply toAppError_of_decode?
  have hother : ¬((keyReport k none).constraint = some ViolationReport.roleScopeIndex) :=
    fun heq => hindex (Option.some.inj heq)
  have hread : readUnique? (keyReport k none).fullText (keyReport k none).constraint = none :=
    readUnique?_undetailed k
  have herror : (keyReport k none).uniqueError =
      ViolationReport.undetailedDuplicate (some (k.constraint "_key")) := by
    rw [ViolationReport.uniqueError, if_neg hother, hread]
    rfl
  exact congrArg some herror

end Schema

theorem undetailedDuplicate_constraint (k : ColumnKey) (hknown : k.table.text ∈ knownTables) :
    ViolationReport.undetailedDuplicate (some (k.constraint "_key")) =
      .duplicate k.table.text (String.ofList (underscored k.listed.toList))
        ViolationReport.unknownValue := by
  have hnames : ∀ piece ∈ k.columns.map fun column => column.text.toList, ',' ∉ piece := by
    intro piece hpiece
    obtain ⟨column, -, rfl⟩ := List.mem_map.mp hpiece
    exact column.notMem rfl
  have hcolumns : underscored k.listed.toList =
      ['_'].intercalate (k.columns.map fun column => column.text.toList) := by
    rw [k.toList_listed, underscored_intercalate hnames]
  have hne : underscored k.listed.toList ≠ [] := by
    have hfirst := k.first.toList_ne_nil
    rw [hcolumns, ColumnKey.columns]
    cases k.others <;> simp [hfirst]
  have hname : (k.constraint "_key").toList =
      k.table.text.toList ++ ['_'] ++ underscored k.listed.toList ++ "_key".toList := by
    rw [k.toList_constraint, hcolumns]
  have hsplit := splitUnique?_eq_some_iff.mpr ⟨hknown, hne, hname⟩
  simp only [ViolationReport.undetailedDuplicate, Option.bind_some, hsplit]

/-- A name is split in one way.  With a known table it makes no difference whether the report has
a detail: the table is the same, and so are the columns but for what stands between them. -/
theorem unique_names_split :
    (∀ (name table : String) (columns : List Char),
      splitUnique? name.toList = some (table, columns) ↔
        table ∈ knownTables ∧ columns ≠ [] ∧
          name = table ++ "_" ++ String.ofList columns ++ "_key") ∧
    (∀ (name table other columns more : String), table ∈ knownTables → other ∈ knownTables →
      name = table ++ "_" ++ columns ++ "_key" → name = other ++ "_" ++ more ++ "_key" →
        table = other) ∧
    ∀ k : ColumnKey, k.table.text ∈ knownTables → ∀ values : String,
      (∃ facts, readUnique? (Schema.keyReport k (some (Schema.keyDetail k values))).fullText
            (k.constraint "_key") = some facts ∧
          facts.entity = k.table.text ∧ facts.field = k.listed ∧
          ViolationReport.undetailedDuplicate (some (k.constraint "_key")) =
            .duplicate facts.entity (String.ofList (underscored facts.field.toList))
              ViolationReport.unknownValue) ∧
        (k.constraint "_key" ≠ ViolationReport.roleScopeIndex → ∀ operation,
          (Schema.duplicated k values).toAppError operation =
              .duplicate k.table.text k.listed (shownValues values) ∧
            (Schema.undetailed k).toAppError operation =
              .duplicate k.table.text (String.ofList (underscored k.listed.toList))
                ViolationReport.unknownValue) := by
  refine ⟨fun name table columns => ?_, fun name table other columns more htable hother h h' => ?_,
    fun k hknown values => ⟨?_, fun hindex operation => ⟨?_, ?_⟩⟩⟩
  · rw [splitUnique?_eq_some_iff, ← String.toList_inj]
    simp
  · rw [h, ← String.toList_inj] at h'
    have hsame : table.toList ++ ['_'] ++ (columns.toList ++ "_key".toList) =
        other.toList ++ ['_'] ++ (more.toList ++ "_key".toList) := by
      simpa using h'
    exact table_unique htable hother hsame
  · exact ⟨_, Schema.readUnique?_keyDetail k values, rfl, rfl,
      undetailedDuplicate_constraint k hknown⟩
  · exact Schema.duplicated_decodes k values operation hindex
  · rw [Schema.undetailed_decodes k hindex, undetailedDuplicate_constraint k hknown]

/-- The name of the key of the guardians begins like one of a key of the students, but is none. -/
theorem unique_names_split_guardianKey :
    ("student_guardians" ∈ knownTables ∧ "students" ∈ knownTables ∧
      "student_guardians_user_id_student_id_key" =
        "student_guardians" ++ "_" ++ "user_id_student_id" ++ "_key" ∧
      ∀ more, "student_guardians_user_id_student_id_key" ≠ "students" ++ "_" ++ more ++ "_key") ∧
    guardianKey.table.text ∈ knownTables ∧
      guardianKey.constraint "_key" ≠ ViolationReport.roleScopeIndex ∧
      (Schema.duplicated guardianKey forgedValues).toAppError "insert student_guardians" =
        .duplicate "student_guardians" "user_id, student_id" "7, 8" ∧
      (Schema.undetailed guardianKey).toAppError "insert student_guardians" =
        .duplicate "student_guardians" "user_id_student_id" "unknown" := by
  obtain ⟨-, hunique, hkey⟩ := unique_names_split
  have hstudents : "students" ∈ knownTables := by decide
  have hname : "student_guardians_user_id_student_id_key" =
      "student_guardians" ++ "_" ++ "user_id_student_id" ++ "_key" := by decide
  have hknown : guardianKey.table.text ∈ knownTables := by decide
  have hother : ∀ more,
      "student_guardians_user_id_student_id_key" ≠ "students" ++ "_" ++ more ++ "_key" := by
    intro more hshared
    have hsame : "student_guardians" = "students" :=
      hunique _ _ _ _ more hknown hstudents hname hshared
    exact absurd hsame (by decide)
  have hindex : guardianKey.constraint "_key" ≠ ViolationReport.roleScopeIndex := by decide
  obtain ⟨hdetailed, hundetailed⟩ :=
    (hkey guardianKey hknown forgedValues).2 hindex "insert student_guardians"
  have hshown : shownValues forgedValues = "7, 8" := by decide
  have hlisted : guardianKey.listed = "user_id, student_id" := by decide
  have hjoined :
      String.ofList (underscored "user_id, student_id".toList) = "user_id_student_id" := by
    decide
  rw [hlisted, hjoined] at hundetailed
  rw [hlisted, hshown] at hdetailed
  exact ⟨⟨hknown, hstudents, hname, hother⟩, hknown, hindex, hdetailed, hundetailed⟩

end Registrar
