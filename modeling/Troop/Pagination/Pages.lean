import Mathlib.Data.Prod.Lex
import Mathlib.Data.String.Basic
import Troop.Pagination.Descending

namespace Troop.Pagination

structure CursorToken where
  createdAt : Int
  id : String
deriving DecidableEq, Repr

def CursorToken.key (token : CursorToken) : Int ×ₗ String := toLex (token.createdAt, token.id)

def fetchLimit (limit : Nat) : Nat := max 1 limit + 1

section Pages

variable {α : Type} (tokenFromRow : α → CursorToken)

/-- `paginate_rows`; no caller passes a limit of 0. -/
def paginateRows (rows : List α) (limit : Nat) : List α × Option CursorToken :=
  if limit < rows.length then (rows.take limit, (rows.take limit).getLast?.map tokenFromRow) else (rows, none)

/-- The condition of `apply_desc_time_id_cursor`. -/
def beyondCursor (cursorCreatedAt : Option Int) (cursorId : Option String) (row : α) : Bool :=
  match cursorCreatedAt, cursorId with
  | some createdAt, some id =>
    if id ≠ "" then (tokenFromRow row).key < toLex (createdAt, id) else (tokenFromRow row).createdAt < createdAt
  | some createdAt, none => (tokenFromRow row).createdAt < createdAt
  | none, _ => true

def walk (fetch : Option CursorToken → List α × Option CursorToken) : Nat → Option CursorToken → Option (List (List α))
  | 0, _ => none
  | rounds + 1, cursor =>
    match fetch cursor with
    | (page, none) => some [page]
    | (page, some next) => (walk fetch rounds (some next)).map (page :: ·)

end Pages

end Troop.Pagination
