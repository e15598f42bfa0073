import Registrar.Json
import Registrar.Text.Hex

/-!
# Writing JSON

The compact form: no blanks, and of the characters only quotes, backslashes and
control characters escaped.
-/

namespace Registrar.Json

open Text

def escape (c : Char) : List Char :=
  if c = '"' then ['\\', '"']
  else if c = '\\' then ['\\', '\\']
  else if c = '\n' then ['\\', 'n']
  else if c = '\r' then ['\\', 'r']
  else if c = '\t' then ['\\', 't']
  else if c.toNat < 32 then
    ['\\', 'u', '0', '0', hexDigit (c.toNat / 16), hexDigit (c.toNat % 16)]
  else [c]

def quote (s : String) : String :=
  String.ofList ('"' :: s.toList.flatMap escape ++ ['"'])

mutual

def render : Json → String
  | .null => "null"
  | .bool true => "true"
  | .bool false => "false"
  | .int i => String.ofList (digitsOfInt i)
  | .real text => text
  | .str s => quote s
  | .arr [] => "[]"
  | .arr (v :: rest) => "[" ++ v.render ++ renderItems rest ++ "]"
  | .obj [] => "\x7b\x7d"
  | .obj ((name, v) :: rest) =>
    "\x7b" ++ quote name ++ ":" ++ v.render ++ renderMembers rest ++ "\x7d"

def renderItems : List Json → String
  | [] => ""
  | v :: rest => "," ++ v.render ++ renderItems rest

def renderMembers : List (String × Json) → String
  | [] => ""
  | (name, v) :: rest =>
    "," ++ quote name ++ ":" ++ v.render ++ renderMembers rest

end

end Registrar.Json
