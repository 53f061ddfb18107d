import KnowledgeBase.Json.Basic
import KnowledgeBase.Text.Ascii
import KnowledgeBase.Error
import KnowledgeBase.Uuid
import KnowledgeBase.Timestamp

/-!
# Records in JSON

Every record of the data model is written as an object with one member for each field, and read from
such an object or from the array of its fields in order.  Unknown members are ignored.  An optional
field may be absent from an object or `null`; a field with a default may be absent.

When several fields are faulty, the one reported is the first in the order in which they are looked
at: the members of an object by name, the items of an array by position, absent fields last.

## Main definitions

* `Codec` — a type with a JSON form.
* `Json.Rules` — what differs between the formats that documents come from.
* `Json.Record`, `Json.Reading`, `Json.readRecord` — reading a record field by field.

## Main results

* `Json.Reading.seq_ok` — fields that can all be read make up the record.
-/

namespace KnowledgeBase

/-- Why a document is not a value of a type. -/
inductive DecodeError where
  /-- The document has another shape, or a number is out of range. -/
  | mismatch
  /-- A text has the right shape and breaks a rule of the type. -/
  | refused (reason : Refusal)
deriving DecidableEq

/-- A type with a JSON form. -/
class Codec (α : Type) where
  encode : α → Json
  decode : Json → Except DecodeError α

export Codec (encode decode)

namespace Json

/-- A finite double; numbers that JSON cannot write become `null`. -/
def ofDouble (x : Float) : Json := if Double.isFinite x then .double x else .null

/-- What differs between the formats that documents come from. -/
structure Rules where
  /-- An array may hold more items than the record has fields. -/
  surplusItems : Bool
  /-- The payload that a constant of an enumeration may carry. -/
  isUnit : Json → Bool

/-- Plain JSON: no surplus items, and `null` as the payload of a constant. -/
def Rules.strict : Rules := ⟨false, fun j => match j with | .null => true | _ => false⟩

/-! ### Records -/

/-- A field that could not be read. -/
structure Fault where
  name : String
  absent : Bool
  error : DecodeError

/-- The fields of a record that is being read: the value, or every fault so far, in the order of the
fields. -/
inductive Reading (α : Type) where
  | ok (a : α)
  | faulty (faults : List Fault)

namespace Reading

/-- Applies a function to the value. -/
def map {α β : Type} (f : α → β) : Reading α → Reading β
  | ok a => ok (f a)
  | faulty fs => faulty fs

/-- Joins the readings of two fields, keeping the faults of both. -/
def seq {α β : Type} : Reading (α → β) → Reading α → Reading β
  | ok f, ok a => ok (f a)
  | ok _, faulty fs => faulty fs
  | faulty fs, ok _ => faulty fs
  | faulty fs, faulty gs => faulty (fs ++ gs)

instance : Applicative Reading where
  pure := ok
  map := map
  seq f x := seq f (x ())

@[simp] theorem seq_ok {α β : Type} (f : α → β) (a : α) :
    (Reading.ok f <*> Reading.ok a) = Reading.ok (f a) := rfl

@[simp] theorem map_ok {α β : Type} (f : α → β) (a : α) :
    (f <$> Reading.ok a) = Reading.ok (f a) := rfl

end Reading

/-- A record as found: its members by name, or its items by position under the names of the fields.
`surplus` tells that items were left over. -/
structure Record where
  positional : Bool
  fields : Fields
  surplus : Bool

namespace Record

/-- The record in a document, given the names of its fields in order. -/
def of? (rules : Rules) (names : List String) : Json → Option Record
  | .obj fields => some ⟨false, fields, false⟩
  | .arr items =>
    some ⟨true, names.zip items, !rules.surplusItems && decide (names.length < items.length)⟩
  | _ => none

/-- Reads a field that is there. -/
def present {α : Type} (name : String) (v : Json) (read : Json → Except DecodeError α) :
    Reading α :=
  match read v with
  | .ok a => .ok a
  | .error e => .faulty [⟨name, false, e⟩]

/-- Reads a field that has to be there. -/
def required {α : Type} (r : Record) (name : String) (read : Json → Except DecodeError α) :
    Reading α :=
  match Assoc.get? name r.fields with
  | some v => present name v read
  | none => .faulty [⟨name, true, .mismatch⟩]

/-- Reads a field that an object may lack. -/
def optional {α : Type} (r : Record) (name : String)
    (read : Json → Except DecodeError (Option α)) : Reading (Option α) :=
  match Assoc.get? name r.fields with
  | some v => present name v read
  | none => if r.positional then .faulty [⟨name, true, .mismatch⟩] else .ok none

/-- Reads a field that has a default. -/
def withDefault {α : Type} (r : Record) (name : String) (default : α)
    (read : Json → Except DecodeError α) : Reading α :=
  match Assoc.get? name r.fields with
  | some v => present name v read
  | none => .ok default

/-- The fault reported: by position in an array, else the least name among the members that are
there, else an absent field. -/
def report (positional : Bool) (faults : List Fault) : DecodeError :=
  if positional then (faults.head?.map Fault.error).getD .mismatch
  else
    let least := (faults.filter fun f => !f.absent).foldl (fun best f =>
      match best with
      | none => some f
      | some b => if Text.precedes f.name b.name then some f else best) none
    (least.map Fault.error).getD .mismatch

/-- The outcome of reading all fields. -/
def finish {α : Type} (r : Record) : Reading α → Except DecodeError α
  | .ok a => if r.surplus then .error .mismatch else .ok a
  | .faulty faults => .error (report r.positional faults)

end Record

/-- Reads a record from an object or an array. -/
def readRecord {α : Type} (rules : Rules) (names : List String) (read : Record → Reading α)
    (j : Json) : Except DecodeError α :=
  match Record.of? rules names j with
  | some r => r.finish (read r)
  | none => .error .mismatch

/-- Reads a constant of an enumeration: its name, or an object of one member of that name with a
unit payload. -/
def readConstant {α : Type} (rules : Rules) (ofName? : String → Option α) :
    Json → Except DecodeError α
  | .str s => ((ofName? s).map Except.ok).getD (.error .mismatch)
  | .obj [(n, payload)] =>
    if rules.isUnit payload then ((ofName? n).map Except.ok).getD (.error .mismatch)
    else .error .mismatch
  | _ => .error .mismatch

/-! ### Simple values -/

/-- Reads a text. -/
def readText : Json → Except DecodeError String
  | .str s => .ok s
  | _ => .error .mismatch

/-- Reads a truth value. -/
def readBool : Json → Except DecodeError Bool
  | .bool b => .ok b
  | _ => .error .mismatch

/-- Reads an integer between two bounds. -/
def readInt (low high : Int) : Json → Except DecodeError Int
  | .int n => if low ≤ n ∧ n ≤ high then .ok n else .error .mismatch
  | _ => .error .mismatch

/-- Reads a double; an integer is rounded to one. -/
def readDouble : Json → Except DecodeError Float
  | .double x => .ok x
  | .int n => .ok (Double.ofInt n)
  | _ => .error .mismatch

/-- Reads a single: a double is narrowed, an integer is rounded at once. -/
def readSingle : Json → Except DecodeError Float32
  | .double x => .ok (Single.ofDouble x)
  | .int n => .ok (Single.ofInt n)
  | _ => .error .mismatch

/-- Reads an object of any members. -/
def readFields : Json → Except DecodeError Fields
  | .obj fields => .ok fields
  | _ => .error .mismatch

/-- Reads the items of an array; the first faulty one is reported. -/
def readItems {α : Type} (read : Json → Except DecodeError α) :
    List Json → Except DecodeError (List α)
  | [] => .ok []
  | v :: vs => do
    let a ← read v
    let rest ← readItems read vs
    return a :: rest

/-- Reads an array. -/
def readList {α : Type} (read : Json → Except DecodeError α) : Json → Except DecodeError (List α)
  | .arr items => readItems read items
  | _ => .error .mismatch

/-- Reads a value or `null`. -/
def readOption {α : Type} (read : Json → Except DecodeError α) :
    Json → Except DecodeError (Option α)
  | .null => .ok none
  | v => (read v).map some

end Json

open Json

instance : Codec Json where
  encode j := j
  decode j := .ok j

instance : Codec String where
  encode := .str
  decode := readText

instance : Codec Bool where
  encode := .bool
  decode := readBool

instance : Codec Float where
  encode := ofDouble
  decode := readDouble

instance : Codec Float32 where
  encode x := ofDouble (Single.toDouble x)
  decode := readSingle

instance : Codec UInt32 where
  encode n := .int n.toNat
  decode j := (readInt 0 (2 ^ 32 - 1 : Nat) j).map fun n => UInt32.ofNat n.toNat

instance : Codec UInt64 where
  encode n := .int n.toNat
  decode j := (readInt 0 (2 ^ 64 - 1 : Nat) j).map fun n => UInt64.ofNat n.toNat

instance : Codec Int32 where
  encode n := .int n.toInt
  decode j := (readInt (-(2 ^ 31 : Nat)) (2 ^ 31 - 1 : Nat) j).map Int32.ofInt

instance : Codec Int64 where
  encode n := .int n.toInt
  decode j := (readInt (-(2 ^ 63 : Nat)) (2 ^ 63 - 1 : Nat) j).map Int64.ofInt

/-- An identifier is written as text. -/
instance : Codec Uuid where
  encode u := .str u.text
  decode j := do
    let s ← readText j
    (Uuid.parse? s).elim (.error .mismatch) .ok

/-- An instant is written as text. -/
instance : Codec Timestamp where
  encode t := .str t.text
  decode j := do
    let s ← readText j
    (Timestamp.parse? s).elim (.error .mismatch) .ok

instance {α : Type} [Codec α] : Codec (List α) where
  encode xs := .arr (xs.map encode)
  decode := readList decode

instance {α : Type} [Codec α] : Codec (Option α) where
  encode x := x.elim .null encode
  decode := readOption decode

/-- Free-form structured data: an object of any members. -/
structure Metadata where
  fields : Fields

/-- Structured data without members. -/
def Metadata.empty : Metadata := ⟨[]⟩

instance : Codec Metadata where
  encode m := .obj m.fields
  decode j := (readFields j).map Metadata.mk

end KnowledgeBase
