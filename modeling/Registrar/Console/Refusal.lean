import Registrar.Json.Form
import Registrar.Log.Config
import Registrar.Settings.Error

/-!
# Refusals

A request that is not carried out is answered with the reason: it is not
understood, a name in it is not bound, a record in it cannot be read, or it
ended with an error of the register, of its settings or of its log.
-/

namespace Registrar

inductive Refusal where
  | notUnderstood (message : String)
  | unbound (name : String)
  | unreadable
  | blocked
  | clockOverflow
  | failed (e : AppError)
  | misconfigured (e : ConfigError)
  | logRefused (e : LogError)
  deriving DecidableEq

abbrev Answering := Except Refusal

def text (s : String) : Json := .str s

namespace Rule

def bound (name : String) : Option Int → List (String × Json)
  | some i => [(name, Json.int i)]
  | none => []

def toJson (rule : Rule) : Json :=
  let params :=
    match rule with
    | .length min max =>
      bound "min" (min.map Int.ofNat) ++ bound "max" (max.map Int.ofNat)
    | .range min max => bound "min" min ++ bound "max" max
    | _ => []
  .obj [("rule", text rule.name), ("params", .obj params)]

end Rule

/-- Broken rules are listed by field; any other error shows its name, kind and
message, the messages of its sources, and beneath annotations its root. -/
def AppError.toJson (e : AppError) : Json :=
  match e with
  | .invalid first others =>
    .obj
      [("error", text "Validation"), ("kind", text "bad_request"),
        ("names_a_failed_field", .bool true),
        ("fields", .obj ((first :: others).map fun f =>
          (f.field, .arr (f.rules.map Rule.toJson))))]
  | _ =>
    let chain := if e.chain = [] then [] else [("chain", Json.arr (e.chain.map text))]
    let root :=
      match e with
      | .context _ _ => [("root", text e.root.name)]
      | _ => []
    .obj ([("error", text e.name), ("kind", text e.kind.word),
      ("message", text e.message)] ++ chain ++ root)

/-- The message of a malformed source is left out. -/
def ConfigError.members (e : ConfigError) : List (String × Json) :=
  let message :=
    match e with
    | .deserialize | .build => []
    | _ => [("message", text e.message)]
  [("error", text e.name), ("key", Json.ofOption text e.key)] ++ message

def ConfigError.toJson (e : ConfigError) : Json := .obj e.members

def LogError.toJson (e : LogError) : Json :=
  .obj [("error", text "LoggerError"), ("message", text e.message)]

namespace Refusal

def reason (name : String) (message : String) : Json :=
  .obj [("error", text name), ("message", text message)]

def toJson : Refusal → Json
  | .notUnderstood message => reason "BadInput" message
  | .unbound name => reason "Unbound" name
  | .unreadable => .obj [("error", text "Deserialize")]
  | .blocked => .obj [("error", text "Blocked")]
  | .clockOverflow => .obj [("error", text "Panic")]
  | .failed e => e.toJson
  | .misconfigured e => e.toJson
  | .logRefused e => e.toJson

/-- A request ends with an error of the register. -/
def ofResult {α : Type} (r : Result α) : Answering α := r.mapError failed

def ofConfig {α : Type} (r : Except ConfigError α) : Answering α :=
  r.mapError misconfigured

def ofRead {α : Type} : Option α → Answering α
  | some a => .ok a
  | none => .error .unreadable

end Refusal

end Registrar
