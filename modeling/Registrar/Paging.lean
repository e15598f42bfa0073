import Registrar.Error
import Registrar.Timestamp
import Registrar.Text.Digits

/-!
# Order and pages

Rows are listed by the time of their creation and, for equal times, by their
identifiers, upwards or downwards.  A page is a window of at most one hundred
rows into that order.
-/

namespace Registrar

inductive SortOrder where
  | ascending | descending
  deriving DecidableEq, Inhabited

namespace SortOrder

def word : SortOrder → String
  | .ascending => "ASC"
  | .descending => "DESC"

/-- Reads `ASC` or `DESC` in any case, with blanks around it. -/
def read (s : String) : Result SortOrder :=
  let typed := (Text.trim s.toList).map Text.upperAscii
  if typed = "ASC".toList then .ok .ascending
  else if typed = "DESC".toList then .ok .descending
  else .error (.badRequest ("sort order must be ASC or DESC, got '" ++ s ++ "'"))

end SortOrder

def maxPerPage : Nat := 100

/-- A window of `limit` rows that starts after `offset` rows. -/
structure Page where
  limit : Nat
  offset : Nat
  deriving DecidableEq

/-- The window of a page; pages are counted from one. -/
def Page.make (page perPage : Nat) : Result Page :=
  if page < 1 then .error (.badRequest "page must be at least 1")
  else if perPage < 1 ∨ perPage > maxPerPage then
    .error (.badRequest
      ("per_page must be between 1 and " ++ String.ofList (Text.digits maxPerPage)))
  else .ok { limit := perPage, offset := (page - 1) * perPage }

/-- What orders the rows of a list. -/
structure SortKey where
  createdAt : Timestamp
  id : Uuid
  deriving DecidableEq

def SortKey.le (a b : SortKey) : Bool :=
  a.createdAt < b.createdAt || (a.createdAt == b.createdAt && a.id.toNat ≤ b.id.toNat)

structure Listing where
  order : SortOrder := .ascending
  page : Option Page := none
  deriving DecidableEq

namespace Listing

variable {α : Type}

/-- All the rows in the requested order.  Rows with equal keys keep their order
when it is ascending and are reversed when it is descending. -/
def arrange (l : Listing) (key : α → SortKey) (rows : List α) : List α :=
  let sorted := rows.mergeSort fun a b => (key a).le (key b)
  match l.order with
  | .ascending => sorted
  | .descending => sorted.reverse

/-- The rows of the page, or all of them. -/
def apply (l : Listing) (key : α → SortKey) (rows : List α) : List α :=
  match l.page with
  | none => l.arrange key rows
  | some page => ((l.arrange key rows).drop page.offset).take page.limit

end Listing

end Registrar
