import Registrar.Console.Refusal
import Registrar.Guardianship

/-!
# Fields of a request

A request is a JSON object.  A field that is `null` counts as absent, and fields
that a request does not use are ignored.
-/

namespace Registrar.Console

open Refusal

def notA (key what : String) : Refusal :=
  .notUnderstood (key ++ ": " ++ what ++ " expected")

def string? (v : Json) (key : String) : Option String :=
  (v.present? key).bind Json.str?

def string (v : Json) (key : String) : Answering String :=
  match string? v key with
  | some s => .ok s
  | none => .error (notA key "string")

def stringOr (v : Json) (key default : String) : String :=
  (string? v key).getD default

def nat32 (v : Json) (key : String) : Answering Nat :=
  match (v.present? key).bind Json.nat32? with
  | some n => .ok n
  | none => .error (notA key "u32")

def nat64? (v : Json) (key : String) : Option Nat :=
  (v.present? key).bind Json.nat64?

def flag (v : Json) (key : String) : Bool :=
  ((v.present? key).bind Json.bool?).getD false

def items (v : Json) (key : String) : List Json :=
  ((v.present? key).bind Json.items?).getD []

/-- An object that may be absent. -/
def object (v : Json) (key : String) : Json :=
  (v.present? key).getD (.obj [])

/-- A value of any type, which is `null` if it is absent. -/
def value (v : Json) (key : String) : Json :=
  (v.get? key).getD .null

def uuid? (v : Json) (key : String) : Answering (Option Uuid) :=
  match v.present? key with
  | none => .ok none
  | some u =>
    match Json.uuid? u with
    | some u => .ok (some u)
    | none => .error (notA key "uuid")

def uuid (v : Json) (key : String) : Answering Uuid := do
  match ← uuid? v key with
  | some u => .ok u
  | none => .error (notA key "uuid")

def uuids (v : Json) (key : String) : Answering (List Uuid) :=
  match (items v key).mapM Json.uuid? with
  | some us => .ok us
  | none => .error (notA key "uuids")

def timeOf (key : String) (v : Json) : Answering Timestamp :=
  match v.str?.bind Timestamp.ofText? with
  | some t => .ok t
  | none => .error (notA key "timestamp")

def time? (v : Json) (key : String) : Answering (Option Timestamp) :=
  match v.present? key with
  | none => .ok none
  | some t => (timeOf key t).map some

/-! ## Words, lists and windows -/

def word (α : Type) [Vocabulary α] (v : Json) (key : String) : Answering α := do
  ofResult (Vocabulary.read (← string v key))

def scope (v : Json) : Answering Scope := do
  let schoolId ← uuid? v "school_id"
  let organizationId ← uuid? v "organization_id"
  let groupId ← uuid? v "group_id"
  return { schoolId, organizationId, groupId }

/-- The order is ascending and the list is whole unless the request says
otherwise; a page needs both its number and its size. -/
def listing (v : Json) : Answering Listing := do
  let order ←
    match string? v "sort" with
    | some s => ofResult (SortOrder.read s)
    | none => pure SortOrder.ascending
  if (v.present? "page").isNone && (v.present? "per_page").isNone then
    return { order }
  else
    let number ← nat32 v "page"
    let perPage ← nat32 v "per_page"
    let page ← ofResult (Page.make number perPage)
    return { order, page := some page }

def window (v : Json) : Answering DateWindow := do
  ofResult (DateWindow.make (← time? v "from") (← time? v "till"))

def created (v : Json) : Answering (Option DateWindow) :=
  match v.present? "created" with
  | some c => (window c).map some
  | none => .ok none

def profileQuery (v : Json) : Answering ProfileQuery := do
  let q := object v "query"
  let scopeId ← uuid? q "scope_id"
  let userId ← uuid? q "user_id"
  let created ← created q
  return { scopeId, userId, created }

def guardianQuery (v : Json) : Answering GuardianQuery := do
  let q := object v "query"
  let studentId ← uuid? q "student_id"
  let userId ← uuid? q "user_id"
  let created ← created q
  return { studentId, userId, created }

/-- A kind of profile is named by its role. -/
def profileKind? (name : String) : Option ProfileKind :=
  ProfileKind.all.find? fun kind => kind.role.word == name

end Registrar.Console
