import Registrar.Json.Form
import Registrar.Proofs.Spelling
import Registrar.Record.Column

/-!
# One set of texts

A word of the register is read at three places: as a caller types it, from a column, and from JSON.
The first two take any spelling of it, with blanks around and in any case of ASCII letters; the
last takes the word only, which it has from the name of the value and not from the list of words.
They read the same values from the same texts (`OneSetOfTexts`) as far as the list is in order
(`Lawful`): it has every value, no two values have one word, and a word is the name in small
letters.
-/

namespace Registrar

namespace Vocabulary

open Text

variable {α : Type} [Vocabulary α] {a b : α} {s : String} {bytes : List UInt8} {v : Json}

/-- Without the blanks around it, the text is the word up to the case of ASCII letters. -/
def SpelledBy (a : α) (s : String) : Prop :=
  ∃ core, IsCore s.toList core ∧ SameLetters core (word a).toList

/-- The list of words is in order. -/
class Lawful (α : Type) [Vocabulary α] : Prop where
  mem_all : ∀ a : α, a ∈ (all : List α)
  word_injective : Function.Injective fun a : α => (word a).toList
  fold_word : ∀ a : α, fold (word a).toList = (word a).toList
  trim_word : ∀ a : α, trim (word a).toList = (word a).toList
  fold_name : ∀ a : α, fold (name a).toList = (word a).toList

instance : Lawful Role where
  mem_all a := by cases a <;> decide
  word_injective a b := by cases a <;> cases b <;> decide
  fold_word a := by cases a <;> decide
  trim_word a := by cases a <;> decide
  fold_name a := by cases a <;> decide

instance : Lawful Gender where
  mem_all a := by cases a <;> decide
  word_injective a b := by cases a <;> cases b <;> decide
  fold_word a := by cases a <;> decide
  trim_word a := by cases a <;> decide
  fold_name a := by cases a <;> decide

instance : Lawful Relation where
  mem_all a := by cases a <;> decide
  word_injective a b := by cases a <;> cases b <;> decide
  fold_word a := by cases a <;> decide
  trim_word a := by cases a <;> decide
  fold_name a := by cases a <;> decide

variable [Lawful α]

/-! ## Typed words -/

theorem spelledBy_word (a : α) : SpelledBy a (word a) :=
  ⟨_, trim_eq_iff_isCore.mp (Lawful.trim_word a), fold_eq_fold_iff.mp rfl⟩

theorem read?_eq_some_iff : read? s = some a ↔ SpelledBy a s := by
  have hfold : (word a).toList = fold (trim s.toList) ↔
      SameLetters (trim s.toList) (word a).toList :=
    eq_comm.trans (fold_eq_iff_sameLetters (Lawful.fold_word a))
  have hcore : SpelledBy a s ↔ SameLetters (trim s.toList) (word a).toList := by
    simp only [SpelledBy, ← trim_eq_iff_isCore, exists_eq_left']
  rw [hcore, ← hfold]
  exact find?_beq_eq_some_iff Lawful.mem_all Lawful.word_injective

theorem SpelledBy.unique (ha : SpelledBy a s) (hb : SpelledBy b s) : a = b :=
  Option.some_inj.mp ((read?_eq_some_iff.mpr ha).symm.trans (read?_eq_some_iff.mpr hb))

theorem read_eq_ok_iff : read s = .ok a ↔ SpelledBy a s := by
  rw [← read?_eq_some_iff, read]
  cases read? (α := α) s <;> simp

theorem read_eq_error_iff {e : AppError} : (read s : Result α) = .error e ↔
    e = .badRequest (refusal α s) ∧ ∀ a : α, ¬SpelledBy a s := by
  simp only [← read?_eq_some_iff, read]
  cases read? (α := α) s <;> simp [eq_comm]

/-! ## Columns -/

theorem readColumn_eq_ok_iff : readColumn bytes = .ok a ↔
    ∃ s, toBytes s = bytes ∧ SpelledBy a s := by
  unfold readColumn
  simp only [← ofBytes?_eq_some_iff, ← read_eq_ok_iff]
  cases ofBytes? bytes with
  | none => simp
  | some s => cases hread : (read s : Result α) <;> simp [hread]

theorem readColumn_toBytes (h : SpelledBy a s) : readColumn (toBytes s) = .ok a :=
  readColumn_eq_ok_iff.mpr ⟨s, rfl, h⟩

/-! ## JSON -/

/-- The word in a record is the word of the list. -/
theorem wordOf_eq_word (a : α) : Json.wordOf a = word a := by
  rw [Json.wordOf, Lawful.fold_name, String.ofList_toList]

theorem vocabulary?_eq_some_iff : Json.vocabulary? α v = some a ↔ v.word? = some (word a) := by
  have hinjective : Function.Injective (word : α → String) :=
    fun a b h => Lawful.word_injective (congrArg String.toList h)
  have hfind : ∀ s, ((all : List α).find? fun a => Json.wordOf a == s) = some a ↔ word a = s := by
    simp only [wordOf_eq_word]
    exact fun s => find?_beq_eq_some_iff Lawful.mem_all hinjective
  rw [Json.vocabulary?, Option.bind_eq_some_iff]
  simp only [hfind, exists_eq_right']

/-! ## All readers -/

/-- All who read and write the values do so by one set of texts. -/
structure OneSetOfTexts (α : Type) [Vocabulary α] : Prop where
  /-- A value is typed as any spelling of its word. -/
  typed : ∀ (s : String) (a : α), read s = .ok a ↔ SpelledBy a s
  /-- Every other text is a bad request. -/
  refused : ∀ (s : String) (e : AppError), (read s : Result α) = .error e ↔
    e = .badRequest (refusal α s) ∧ ∀ a : α, ¬SpelledBy a s
  /-- A column holds a value as the UTF-8 of any spelling of its word. -/
  stored : ∀ (bytes : List UInt8) (a : α), readColumn bytes = .ok a ↔
    ∃ s, toBytes s = bytes ∧ SpelledBy a s
  /-- What is written to a column is a text that everybody reads as the value. -/
  written : ∀ a : α, ∃ s, writeColumn a = toBytes s ∧
    readColumn (writeColumn a) = .ok a ∧ read s = .ok a ∧ Json.vocabulary? α (.str s) = some a
  /-- In JSON a value is received by exactly its word. -/
  received : ∀ (v : Json) (a : α), Json.vocabulary? α v = some a ↔ v.word? = some (word a)
  /-- In JSON a value is sent as its word. -/
  sent : ∀ a : α, Json.ofWord a = .str (word a)
  /-- A text received as JSON may also be typed or stored. -/
  accepted : ∀ (v : Json) (s : String) (a : α), v.word? = some s → Json.vocabulary? α v = some a →
    read s = .ok a ∧ readColumn (toBytes s) = .ok a
  /-- No two values share a text. -/
  unshared : ∀ (s : String) (a b : α), SpelledBy a s → SpelledBy b s → a = b

theorem oneSetOfTexts (α : Type) [Vocabulary α] [Lawful α] : OneSetOfTexts α where
  typed _ _ := read_eq_ok_iff
  refused _ _ := read_eq_error_iff
  stored _ _ := readColumn_eq_ok_iff
  written a :=
    have hspelled := spelledBy_word a
    ⟨word a, rfl, readColumn_toBytes hspelled, read_eq_ok_iff.mpr hspelled,
      vocabulary?_eq_some_iff.mpr rfl⟩
  received _ _ := vocabulary?_eq_some_iff
  sent a := congrArg Json.str (wordOf_eq_word a)
  accepted v s a hword hreceived := by
    rw [vocabulary?_eq_some_iff, hword, Option.some_inj] at hreceived
    subst hreceived
    exact ⟨read_eq_ok_iff.mpr (spelledBy_word a), readColumn_toBytes (spelledBy_word a)⟩
  unshared _ _ _ := SpelledBy.unique

/-- Roles, genders and relations each have one set of texts: what a person may type, what a column
may hold and what is sent agree, up to case and surrounding blanks where these are allowed. -/
theorem register_oneSetOfTexts :
    OneSetOfTexts Role ∧ OneSetOfTexts Gender ∧ OneSetOfTexts Relation :=
  ⟨oneSetOfTexts Role, oneSetOfTexts Gender, oneSetOfTexts Relation⟩

/-- The ideographic space is a blank, but the long s is no letter of a word. -/
theorem register_oneSetOfTexts_owner :
    (SpelledBy Role.owner "\u3000Owner\n" ∧ ∀ role : Role, ¬SpelledBy role "ſtudent") ∧
    readColumn (toBytes "\u3000Owner\n") = .ok Role.owner ∧
    (Json.vocabulary? Role (.str "Owner") = none ∧
      Json.vocabulary? Role (.obj [("owner", .null)]) = some .owner) ∧
    read "owner" = .ok Role.owner ∧ readColumn (toBytes "owner") = .ok Role.owner := by
  obtain ⟨htexts, -, -⟩ := register_oneSetOfTexts
  have hspelled : SpelledBy Role.owner "\u3000Owner\n" :=
    (htexts.typed _ _).mp (by decide +kernel)
  have hrefused : (read "ſtudent" : Result Role) =
      .error (.badRequest (refusal Role "ſtudent")) := by decide +kernel
  have hreceived : Json.vocabulary? Role (.obj [("owner", .null)]) = some .owner := by
    decide +kernel
  exact ⟨⟨hspelled, ((htexts.refused _ _).mp hrefused).2⟩,
    (htexts.stored _ _).mpr ⟨_, rfl, hspelled⟩, ⟨by decide +kernel, hreceived⟩,
    htexts.accepted _ _ _ rfl hreceived⟩

end Vocabulary

end Registrar
