import Registrar.Settings.Files
import Registrar.Text.Pieces

/-!
# A directory of files

A request may bring the files of a machine: a single directory, which is also
the current one, with files below it.  Its own path is written `<dir>`.
-/

namespace Registrar.Console

/-- A name as bytes. -/
abbrev NameBytes := List UInt8

/-- Where the directory is. -/
def rootName : NameBytes := (Path.ofText "<dir>").bytes

def pieces : List UInt8 → List NameBytes
  | [] => [[]]
  | b :: rest =>
    if b = Path.separator then [] :: pieces rest
    else
      match pieces rest with
      | [] => [[b]]
      | piece :: more => (b :: piece) :: more

def dot : UInt8 := 46

/-- The names on the way to a path, without the detours; `done` holds those
before them in reverse. -/
def normalize (done : List NameBytes) : List NameBytes → List NameBytes
  | [] => done.reverse
  | [] :: rest => normalize done rest
  | [b] :: rest => if b = dot then normalize done rest else normalize ([b] :: done) rest
  | [b, c] :: rest =>
    if b = dot ∧ c = dot then normalize done.tail rest
    else normalize ([b, c] :: done) rest
  | name :: rest => normalize (name :: done) rest

/-- The names below the directory that lead to a path, if it lies there. -/
def below? (p : Path) : Option (List NameBytes) :=
  match pieces p.bytes with
  | [] => none
  | [[]] => none
  | first :: rest =>
    if first = rootName then some (normalize [] rest)
    else if first = [] then none
    else some (normalize [] (first :: rest))

/-- Files by the names that lead to them. -/
structure Directory where
  files : List (List NameBytes × String)

namespace Directory

def ofFiles (files : List (Path × String)) : Directory :=
  ⟨files.filterMap fun (p, content) => (below? p).map fun names => (names, content)⟩

/-- A directory is present as soon as a file is in it. -/
def configFiles (d : Directory) : ConfigFiles where
  present p :=
    match below? p with
    | some names => names = [] || d.files.any fun (file, _) => names.isPrefixOf file
    | none => false
  content? p := (below? p).bind fun names => d.files.lookup names

end Directory

end Registrar.Console
