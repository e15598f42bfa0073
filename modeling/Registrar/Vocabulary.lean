import Registrar.Text.Blank
import Registrar.Text.Fold

/-!
# Closed vocabularies

A role, a gender and a relation to a student are each chosen from a short list
of lowercase words.  A caller may type the word in any case and with blanks
around it.  Every value has a name as well, which begins with a capital.
-/

namespace Registrar

/-- A type whose values are the words of a list.  `noun` names the type in the
refusal of a text that is none of them. -/
class Vocabulary (α : Type) where
  noun : String
  all : List α
  word : α → String
  name : α → String

namespace Vocabulary

open Text

variable {α : Type} [Vocabulary α]

/-- The value whose word the text is, apart from blanks around it and the case
of its letters. -/
def read? (s : String) : Option α :=
  (all : List α).find? fun a => (word a).toList == fold (trim s.toList)

/-- The refusal of a text that is no word of the list. -/
def refusal (α : Type) [Vocabulary α] (s : String) : String :=
  "Unrecognized " ++ noun α ++ ": " ++ s

end Vocabulary

end Registrar
