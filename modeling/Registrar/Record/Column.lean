import Registrar.Error
import Registrar.Text.Bytes

/-!
# Words in columns

A column of a record holds a word of a vocabulary as UTF-8.  It is read as a word
typed by a caller is, so that a database may hold it in any case and with blanks
around it; what is written is the word itself.
-/

namespace Registrar

/-- Why a column cannot be read. -/
inductive ColumnError where
  | notText
  | unrecognized (message : String)
  deriving DecidableEq

namespace Vocabulary

variable {α : Type} [Vocabulary α]

def readColumn (bytes : List UInt8) : Except ColumnError α :=
  match Text.ofBytes? bytes with
  | none => .error .notText
  | some s =>
    match (read s : Result α) with
    | .ok a => .ok a
    | .error _ => .error (.unrecognized (refusal α s))

def writeColumn (a : α) : List UInt8 :=
  Text.toBytes (word a)

end Vocabulary

end Registrar
