import KnowledgeBase.Sql.Value
import KnowledgeBase.Sql.Failure

/-!
# Rows of a result

## Main definitions

* `Sql.Row`, `Sql.Row.column` — a row, and the value of one of its columns as a type.
* `Sql.Row.scalar` — the value of the first column.
* `Sql.decodeAll` — rows decoded in order, up to the first that cannot be.

## Main results

* `Sql.length_decodeAll` — decoding keeps the number of rows.
-/

namespace KnowledgeBase.Sql

/-- A row: its columns in order, with their names. -/
structure Row where
  cells : List (String × Value)

namespace Row

/-- The value of the column of a name; of several, the last. -/
def find? (row : Row) (name : String) : Option Value :=
  (row.cells.reverse.find? fun (n, _) => n = name).map Prod.snd

/-- Why a value is not of the expected type. -/
def mismatchText : Value → String
  | .null => "unexpected null"
  | .unreadable => "unreadable value"
  | _ => "mismatched types"

/-- A value as a type, or the failure of the column that holds it. -/
def decodeCell {α : Type} [Cell α] (column : String) (v : Value) : Except Failure α :=
  (Cell.read? v).elim (.error (.columnDecode column (mismatchText v))) .ok

/-- The value of the column of a name. -/
def column {α : Type} [Cell α] (row : Row) (name : String) : Except StoreError α :=
  match row.find? name with
  | none => .error (Failure.columnNotFound name).classify
  | some v => (decodeCell ("\"" ++ name ++ "\"") v).mapError Failure.classify

/-- The value of the first column. -/
def scalar {α : Type} [Cell α] (row : Row) : Except Failure α :=
  match row.cells with
  | [] => .error (.columnIndexOutOfBounds 0 0)
  | (_, v) :: _ => decodeCell "0" v

end Row

/-- Decodes rows in order; the first that cannot be decoded decides. -/
def decodeAll {α : Type} (decode : Row → Except StoreError α) :
    List Row → Except StoreError (List α)
  | [] => .ok []
  | row :: rows => do
    let a ← decode row
    let rest ← decodeAll decode rows
    return a :: rest

theorem length_decodeAll {α : Type} {decode : Row → Except StoreError α} {rows : List Row}
    {xs : List α} (h : decodeAll decode rows = .ok xs) : xs.length = rows.length := by
  induction rows generalizing xs with
  | nil =>
    cases h
    rfl
  | cons row rows ih =>
    unfold decodeAll at h
    cases ha : decode row with
    | error e => simp [ha, bind, Except.bind] at h
    | ok a =>
      cases hr : decodeAll decode rows with
      | error e => simp [ha, hr, bind, Except.bind] at h
      | ok rest =>
        simp only [ha, hr, bind, Except.bind, pure, Except.pure, Except.ok.injEq] at h
        subst h
        simp [ih hr]

end KnowledgeBase.Sql
