import KnowledgeBase.Json.Record

/-!
# Values of the database

One type holds both what a statement binds and what a row answers, so that a row can be compared
with the statement that wrote it.

## Main definitions

* `Sql.Value` — a value of one of the column types in use, or NULL.
* `Sql.saturate`, `Sql.widen` — numbers as integers of a column.
* `Sql.Cell` — a type with a column type: how its values are bound and which values are read as one.

## Main results

* `Sql.Cell.read?_option_null` — NULL is read by optional types, whatever the column type.
-/

namespace KnowledgeBase.Sql

/-- A value of a column, with its type. -/
inductive Value where
  | null
  | text (s : String)
  | int4 (n : Int32)
  | int8 (n : Int64)
  | float8 (x : Float)
  | bool (b : Bool)
  | uuid (u : Uuid)
  | uuidArray (us : List Uuid)
  | timestamptz (t : Timestamp)
  | jsonb (document : Json)
  /-- A value that no type reads: a document whose text is none, or a list with NULL in it. -/
  | unreadable
  | textArray (ss : List String)
  | vector (xs : List Float32)

/-- The greatest value of a thirty-two bit integer stands for all greater numbers. -/
def saturate (n : Nat) : Int32 := if n < 2 ^ 31 then Int32.ofNat n else Int32.maxValue

/-- A wide integer from a narrow one. -/
def widen (n : UInt32) : Int64 := Int64.ofNat n.toNat

/-- A type with a column type.  Nothing is converted: a column is read only as its own type. -/
class Cell (α : Type) where
  toValue : α → Value
  read? : Value → Option α

export Cell (toValue)

instance : Cell String where
  toValue := .text
  read?
    | .text s => some s
    | _ => none

instance : Cell Int32 where
  toValue := .int4
  read?
    | .int4 n => some n
    | _ => none

instance : Cell Int64 where
  toValue := .int8
  read?
    | .int8 n => some n
    | _ => none

instance : Cell Float where
  toValue := .float8
  read?
    | .float8 x => some x
    | _ => none

instance : Cell Uuid where
  toValue := .uuid
  read?
    | .uuid u => some u
    | _ => none

instance : Cell (List Uuid) where
  toValue := .uuidArray
  read?
    | .uuidArray us => some us
    | _ => none

instance : Cell Timestamp where
  toValue := .timestamptz
  read?
    | .timestamptz t => some t
    | _ => none

instance : Cell (List String) where
  toValue := .textArray
  read?
    | .textArray ss => some ss
    | _ => none

instance : Cell (List Float32) where
  toValue := .vector
  read?
    | .vector xs => some xs
    | _ => none

/-- Any document. -/
instance : Cell Json where
  toValue := .jsonb
  read?
    | .jsonb document => some document
    | _ => none

/-- A document that is an object. -/
instance : Cell Metadata where
  toValue m := .jsonb (.obj m.fields)
  read?
    | .jsonb (.obj fields) => some ⟨fields⟩
    | _ => none

/-- A document that is an array. -/
instance : Cell (List Json) where
  toValue items := .jsonb (.arr items)
  read?
    | .jsonb (.arr items) => some items
    | _ => none

/-- No value is NULL, and NULL is no value. -/
instance {α : Type} [Cell α] : Cell (Option α) where
  toValue x := x.elim .null Cell.toValue
  read?
    | .null => some none
    | v => (Cell.read? v).map some

@[simp] theorem Cell.read?_option_null {α : Type} [Cell α] :
    Cell.read? (α := Option α) .null = some none := rfl

@[simp] theorem Cell.toValue_none {α : Type} [Cell α] : toValue (none : Option α) = .null := rfl

@[simp] theorem Cell.toValue_some {α : Type} [Cell α] (a : α) : toValue (some a) = toValue a := rfl

end KnowledgeBase.Sql
