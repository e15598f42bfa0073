import Registrar.Text.Bytes

/-!
# Paths and files

A path is a row of bytes, which need not be text.  Loading a configuration asks
two questions of a machine's files: whether there is something at a path, and
what text a file holds.
-/

namespace Registrar

structure Path where
  bytes : List UInt8
  deriving DecidableEq

namespace Path

def ofText (s : String) : Path :=
  ⟨s.toUTF8.toList⟩

/-- The text of a path that is text. -/
def text? (p : Path) : Option String :=
  Text.ofBytes? p.bytes

def display (p : Path) : String :=
  String.ofList (Text.display p.bytes)

def separator : UInt8 := 47

/-- A path below a directory; the empty directory is the current one. -/
def join (dir : Path) (name : String) : Path :=
  let between :=
    if dir.bytes = [] ∨ dir.bytes.getLast? = some separator then [] else [separator]
  ⟨dir.bytes ++ between ++ (ofText name).bytes⟩

/-- The path with an ending added to its last name. -/
def withEnding (p : Path) (ending : String) : Path :=
  ⟨p.bytes ++ (ofText ending).bytes⟩

end Path

structure ConfigFiles where
  present : Path → Bool
  content? : Path → Option String

end Registrar
