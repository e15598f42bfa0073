/-!
# The order of rows

A table yields its rows in an order that nobody chooses, and that may be another
one each time.  An order says for each row, from the first to the last, at which
place it comes among the rows behind it; rows that it says nothing of stay as
they are.
-/

namespace Registrar

structure RowOrder where
  places : List Nat := []
  deriving DecidableEq, Inhabited

namespace RowOrder

variable {α : Type}

def put (places : List Nat) (rows : List α) : List α :=
  match rows, places with
  | [], _ => []
  | rows, [] => rows
  | row :: rows, place :: places => (put places rows).insertIdx (place % (rows.length + 1)) row

/-- The rows as they are yielded. -/
def arrange (order : RowOrder) (rows : List α) : List α :=
  put order.places rows

theorem put_perm (places : List Nat) (rows : List α) : (put places rows).Perm rows := by
  induction rows generalizing places with
  | nil => cases places <;> exact .refl _
  | cons row rows ih =>
    cases places with
    | nil => exact .refl _
    | cons place places =>
      have hplace : place % (rows.length + 1) ≤ (put places rows).length := by
        rw [(ih places).length_eq]
        exact Nat.lt_succ_iff.mp (Nat.mod_lt _ (Nat.succ_pos _))
      exact (List.perm_insertIdx row _ hplace).trans ((ih places).cons row)

theorem arrange_perm (order : RowOrder) (rows : List α) : (order.arrange rows).Perm rows :=
  put_perm _ _

theorem mem_arrange {order : RowOrder} {rows : List α} {row : α} :
    row ∈ order.arrange rows ↔ row ∈ rows :=
  (order.arrange_perm rows).mem_iff

end RowOrder

end Registrar
