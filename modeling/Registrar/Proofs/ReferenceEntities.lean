import Registrar.Proofs.Decoding

/-!
# The entity of a violated reference

The constraint on a reference is named after the table and the column that refer.  The report
of a row that refers to nothing tells this column, and the entity that is read from it is the
table.  The report of a row that others still refer to tells the key of that row; then the
entity is whatever stands in front of the key in the name of the constraint, and the table of
the row only if the name does not end with the key (`reference_entities`).  A column that is
named after the key, as `school_id` is after `id`, gives an entity that is no table.
-/

namespace Registrar

open Text Violation

/-- A column of a table that refers to the key of another. -/
structure ForeignKey where
  table : SchemaName
  column : SchemaName
  target : SchemaName
  key : SchemaName

namespace ForeignKey

/-- The name of the constraint without the ending of its sort. -/
def stem (ref : ForeignKey) : String :=
  ref.table.text ++ "_" ++ ref.column.text

/-- In the name of the constraint the text stands in front of the key. -/
def KeyFollows (ref : ForeignKey) (front : String) : Prop :=
  front ≠ "" ∧ ref.stem = front ++ "_" ++ ref.key.text

end ForeignKey

namespace Schema

/-- The row with these values is to be changed or removed while others refer to it. -/
def stillReferenced (ref : ForeignKey) (values : String) : StatementError :=
  .reported
    { kind := .reference
      message := "update or delete on table \"" ++ ref.target.text ++
        "\" violates foreign key constraint \"" ++ (ref.stem ++ "_fkey") ++ "\" on table \"" ++
        ref.table.text ++ "\""
      detail := "Key (" ++ ref.key.text ++ ")=(" ++ values ++
        ") is still referenced from table \"" ++ ref.table.text ++ "\"."
      constraint := ref.stem ++ "_fkey" }

end Schema

/-- The entity that is read from the report of a violated reference. -/
def StatementError.referenceEntity? : StatementError → Option String
  | .reported r => (readReference? r.fullText r.constraint).map KeyFacts.entity
  | _ => none

/-! ## Reading the reports -/

namespace ForeignKey

variable (ref : ForeignKey)

theorem tableOfName?_key {front : List Char} :
    tableOfName? "_fkey".toList ref.key.text.toList (ref.stem ++ "_fkey").toList = some front ↔
      ref.KeyFollows (String.ofList front) := by
  have hparts : joinWith ['_'] (parts ref.key.text.toList) = ref.key.text.toList := by
    have hlisted := (ColumnKey.single ref.table ref.key).parts_listed
    rw [ColumnKey.listed_single] at hlisted
    rw [hlisted]
    rfl
  rw [tableOfName?_eq_some_iff, hparts, String.toList_append, List.append_left_inj, KeyFollows,
    ← String.toList_inj]
  simp

theorem keyFollows_unique {front other : String} (h : ref.KeyFollows front)
    (hother : ref.KeyFollows other) : front = other := by
  have hsame := h.2.symm.trans hother.2
  rw [← String.toList_inj] at hsame ⊢
  simpa using hsame

theorem referenceEntity?_reported {message detail name : String} {facts : KeyFacts}
    (hread : readKey? "_fkey" (message ++ "\nDETAIL: " ++ detail) name = some facts) :
    (StatementError.reported
        { kind := .reference, message, detail, constraint := name }).referenceEntity? =
      some facts.entity := by
  simp only [StatementError.referenceEntity?, ViolationReport.fullText, Option.getD_some,
    readReference?, hread, Option.map_some]

theorem referenceEntity?_dangling (values : String) :
    (Schema.dangling (.single ref.table ref.column) values ref.target.text).referenceEntity? =
      some ref.table.text :=
  referenceEntity?_reported (Schema.readKey?_dangling (.single ref.table ref.column) values
    ref.target.text)

/-- Without a table in the name of the constraint, the first one of the message counts. -/
theorem readKey?_of_table {suffix text name : String} {columns values table : List Char}
    (hkey : key? text.toList = some (columns, values)) (htable : table? text.toList = some table) :
    readKey? suffix text name =
      some
        { entity := String.ofList ((tableOfName? suffix.toList columns name.toList).getD table)
          field := String.ofList columns
          value := String.ofList values } := by
  simp only [readKey?, hkey, entityOr, htable, Option.bind_eq_bind, Option.bind_some]
  cases tableOfName? suffix.toList columns name.toList <;> rfl

/-- The first table that the message names is the one of the row. -/
theorem table?_stillReferenced (name : String) (after : List Char) :
    table? (("update or delete on table \"" ++ ref.target.text ++
      "\" violates foreign key constraint \"" ++ name ++ "\" on table \"" ++ ref.table.text ++
      "\"").toList ++ after) = some ref.target.text.toList := by
  have hquote : "\" violates foreign key constraint \"".toList =
      '"' :: " violates foreign key constraint \"".toList := rfl
  -- In front of the table neither `table "` nor `relation "` begins.
  have hskip : ∀ rest, table? ("update or delete on table \"".toList ++ rest) =
      firstMatch tableHere? ("table \"".toList ++ rest) := fun _ => rfl
  simp only [String.toList_append, List.append_assoc, hquote, List.cons_append]
  rw [hskip]
  apply firstMatch_of_some
  rw [tableHere?, quotedAfterHere?_append ref.target.toList_ne_nil (ref.target.notMem rfl)]
  rfl

/-- The entity is what is in front of the key or, if the name does not end with the key, the
table of the row. -/
theorem referenceEntity?_stillReferenced (values : String) :
    (Schema.stillReferenced ref values).referenceEntity? =
      some (String.ofList ((tableOfName? "_fkey".toList ref.key.text.toList
        (ref.stem ++ "_fkey").toList).getD ref.target.text.toList)) := by
  have hstem : 'K' ∉ ref.stem.toList := by
    have htable : 'K' ∉ ref.table.text.toList := ref.table.notMem rfl
    have hcolumn : 'K' ∉ ref.column.text.toList := ref.column.notMem rfl
    simp [stem, htable, hcolumn]
  have hmessage : 'K' ∉ ("update or delete on table \"" ++ ref.target.text ++
      "\" violates foreign key constraint \"" ++ (ref.stem ++ "_fkey") ++ "\" on table \"" ++
      ref.table.text ++ "\"").toList := by
    have htable : 'K' ∉ ref.table.text.toList := ref.table.notMem rfl
    have htarget : 'K' ∉ ref.target.text.toList := ref.target.notMem rfl
    simp [htarget, htable, hstem]
  have hdetail : ("Key (" ++ ref.key.text ++ ")=(" ++ values ++
        ") is still referenced from table \"" ++ ref.table.text ++ "\".").toList =
      "Key (".toList ++ (ref.key.text.toList ++ (")=(".toList ++ (values.toList ++
        ')' :: (" is still referenced from table \"" ++ ref.table.text ++ "\".").toList))) := by
    simp
  have hkey := key?_detail hmessage ref.key.toList_ne_nil (ref.key.notMem rfl) hdetail
  have hfirst := ref.table?_stillReferenced (ref.stem ++ "_fkey")
    ("\nDETAIL: " ++ ("Key (" ++ ref.key.text ++ ")=(" ++ values ++
      ") is still referenced from table \"" ++ ref.table.text ++ "\".")).toList
  rw [← String.toList_append, ← String.append_assoc] at hfirst
  exact referenceEntity?_reported (readKey?_of_table hkey hfirst)

theorem referenceEntity?_of_keyFollows {front : String} (h : ref.KeyFollows front)
    (values : String) : (Schema.stillReferenced ref values).referenceEntity? = some front := by
  have hname : tableOfName? "_fkey".toList ref.key.text.toList (ref.stem ++ "_fkey").toList =
      some front.toList := by
    rwa [tableOfName?_key, String.ofList_toList]
  rw [referenceEntity?_stillReferenced, hname, Option.getD_some, String.ofList_toList]

theorem referenceEntity?_of_not_keyFollows (h : ¬∃ front, ref.KeyFollows front)
    (values : String) :
    (Schema.stillReferenced ref values).referenceEntity? = some ref.target.text := by
  have hname : tableOfName? "_fkey".toList ref.key.text.toList (ref.stem ++ "_fkey").toList =
      none := by
    rw [Option.eq_none_iff_forall_ne_some]
    intro front hfront
    exact h ⟨_, ref.tableOfName?_key.mp hfront⟩
  rw [referenceEntity?_stillReferenced, hname, Option.getD_none, String.ofList_toList]

end ForeignKey

/-- A row that refers to nothing gives its table.  A row that is still referred to gives what is
in front of its key in the name of the constraint, or else its table; this is one of the two
tables exactly if nothing else can be in front of the key. -/
theorem reference_entities (ref : ForeignKey) (values : String) :
    (Schema.dangling (.single ref.table ref.column) values ref.target.text).referenceEntity? =
        some ref.table.text ∧
      ∃ entity, (Schema.stillReferenced ref values).referenceEntity? = some entity ∧
        (ref.KeyFollows entity ∨ (¬∃ front, ref.KeyFollows front) ∧ entity = ref.target.text) ∧
        ((entity = ref.table.text ∨ entity = ref.target.text) ↔
          ∀ front, ref.KeyFollows front → front = ref.table.text ∨ front = ref.target.text) := by
  refine ⟨ref.referenceEntity?_dangling values, ?_⟩
  by_cases hfollows : ∃ front, ref.KeyFollows front
  · obtain ⟨front, hfront⟩ := hfollows
    refine ⟨front, ref.referenceEntity?_of_keyFollows hfront values, .inl hfront, ?_⟩
    constructor
    · intro htable other hother
      rwa [← ref.keyFollows_unique hfront hother]
    · intro hall
      exact hall front hfront
  · have hentity := ref.referenceEntity?_of_not_keyFollows hfollows values
    refine ⟨ref.target.text, hentity, .inr ⟨hfollows, rfl⟩, ?_⟩
    constructor
    · intro _ front hfront
      exact absurd ⟨front, hfront⟩ hfollows
    · exact fun _ => .inr rfl

/-- The school of a group. -/
def groupSchool : ForeignKey where
  table := ⟨"groups", by decide, by decide⟩
  column := ⟨"school_id", by decide, by decide⟩
  target := ⟨"schools", by decide, by decide⟩
  key := ⟨"id", by decide, by decide⟩

/-- For a school that still has groups the entity is no table. -/
theorem groupSchool_misnamed :
    ')' ∉ (Uuid.ofNat 20).toText.toList ∧
      (Schema.stillReferenced groupSchool (Uuid.ofNat 20).toText).referenceEntity? =
        some "groups_school" ∧
      "groups_school" ≠ groupSchool.table.text ∧ "groups_school" ≠ groupSchool.target.text := by
  have hfollows : groupSchool.KeyFollows "groups_school" := ⟨by decide, by decide⟩
  have hentity := groupSchool.referenceEntity?_of_keyFollows hfollows (Uuid.ofNat 20).toText
  exact ⟨by decide +kernel, hentity, by decide, by decide⟩

end Registrar
