import KnowledgeBase.Proofs.Number.Widening
import KnowledgeBase.Proofs.Timestamp.Reading
import KnowledgeBase.LabelPath

/-!
# Lawful codecs

A codec is lawful when reading gives back what was written, for all values that a document can hold:
numbers have to be finite, and instants to be ones that the calendar writes in four digits.  The
codecs of the simple types are lawful, and those of lists and options of lawful ones.

## Main definitions

* `LawfulCodec` — the values that a document can hold, and that they are read back.
* `Total` — a codec all of whose values a document can hold.
* `NeverNull` — a codec under which no portable value is written as `null`, as options need it.

## Main results

* `Json.Record.present_encode` — a field of a record is read back.
* `Json.readRecord_obj` — an object whose fields can all be read is the record of them.
-/

namespace KnowledgeBase

open Json

/-- A codec that gives back every portable value. -/
class LawfulCodec (α : Type) [Codec α] where
  /-- Whether a document can hold the value. -/
  Portable : α → Prop
  decode_encode {a : α} : Portable a → decode (encode a) = .ok a

export LawfulCodec (Portable decode_encode)

/-- Every value is portable. -/
class Total (α : Type) [Codec α] [LawfulCodec α] : Prop where
  portable (a : α) : Portable a

export Total (portable)

attribute [simp] portable

/-- No portable value is written as `null`, so that `null` is left to mean that there is none. -/
class NeverNull (α : Type) [Codec α] [LawfulCodec α] : Prop where
  encode_ne_null {a : α} : Portable a → encode a ≠ .null

/-! ### Simple values -/

instance : LawfulCodec Json where
  Portable _ := True
  decode_encode _ := rfl

instance : LawfulCodec String where
  Portable _ := True
  decode_encode _ := rfl

instance : LawfulCodec Bool where
  Portable _ := True
  decode_encode _ := rfl

instance : LawfulCodec Metadata where
  Portable _ := True
  decode_encode _ := rfl

/-- A double has to be finite. -/
instance : LawfulCodec Float where
  Portable x := Double.isFinite x
  decode_encode {x} h := by
    change readDouble (ofDouble x) = .ok x
    rw [ofDouble, if_pos h, readDouble]

/-- A single has to be finite, and is written as a double. -/
instance : LawfulCodec Float32 where
  Portable x := Single.isFinite x
  decode_encode {x} h := by
    change readSingle (ofDouble (Single.toDouble x)) = .ok x
    rw [ofDouble, if_pos (Single.isFinite_toDouble h), readSingle, Single.ofDouble_toDouble h]

theorem readInt_int {low high n : Int} (hlow : low ≤ n) (hhigh : n ≤ high) :
    readInt low high (.int n) = .ok n :=
  if_pos ⟨hlow, hhigh⟩

instance : LawfulCodec UInt32 where
  Portable _ := True
  decode_encode {n} _ := by
    have hlt := n.toNat_lt
    change (readInt 0 (2 ^ 32 - 1 : Nat) (.int n.toNat)).map _ = _
    rw [readInt_int (by omega) (by omega), Except.map, Int.toNat_natCast, UInt32.ofNat_toNat]

instance : LawfulCodec UInt64 where
  Portable _ := True
  decode_encode {n} _ := by
    have hlt := n.toNat_lt
    change (readInt 0 (2 ^ 64 - 1 : Nat) (.int n.toNat)).map _ = _
    rw [readInt_int (by omega) (by omega), Except.map, Int.toNat_natCast, UInt64.ofNat_toNat]

instance : LawfulCodec Int64 where
  Portable _ := True
  decode_encode {n} _ := by
    have hlow := n.le_toInt
    have hhigh := n.toInt_lt
    change (readInt _ _ (.int n.toInt)).map _ = _
    rw [readInt_int (by omega) (by omega), Except.map, Int64.ofInt_toInt]

theorem readText_bind {α : Type} (s : String) (read : String → Except DecodeError α) :
    (readText (.str s) >>= read) = read s := rfl

instance : LawfulCodec Uuid where
  Portable _ := True
  decode_encode {u} _ := by
    have hread := Uuid.parse?_text u
    change (readText (.str u.text) >>= fun s =>
      (Uuid.parse? s).elim (Except.error DecodeError.mismatch) .ok) = _
    rw [readText_bind, hread, Option.elim_some]

/-- An instant has to be in the years 0 to 9999, outside leap seconds. -/
instance : LawfulCodec Timestamp where
  Portable t := t.Plain
  decode_encode {t} h := by
    have hread := Timestamp.parse?_text h
    change (readText (.str t.text) >>= fun s =>
      (Timestamp.parse? s).elim (Except.error DecodeError.mismatch) .ok) = _
    rw [readText_bind, hread, Option.elim_some]

instance : LawfulCodec LabelPath where
  Portable _ := True
  decode_encode {p} _ := by
    change (readText (.str p.text) >>= fun s =>
      (LabelPath.ofText s).mapError DecodeError.refused) = _
    rw [readText_bind, LabelPath.ofText_text]
    rfl

instance : Total Json := ⟨fun _ => trivial⟩
instance : Total String := ⟨fun _ => trivial⟩
instance : Total Bool := ⟨fun _ => trivial⟩
instance : Total Metadata := ⟨fun _ => trivial⟩
instance : Total UInt32 := ⟨fun _ => trivial⟩
instance : Total UInt64 := ⟨fun _ => trivial⟩
instance : Total Int64 := ⟨fun _ => trivial⟩
instance : Total Uuid := ⟨fun _ => trivial⟩
instance : Total LabelPath := ⟨fun _ => trivial⟩

instance : NeverNull String := ⟨fun _ => by rintro ⟨⟩⟩
instance : NeverNull UInt64 := ⟨fun _ => by rintro ⟨⟩⟩
instance : NeverNull Uuid := ⟨fun _ => by rintro ⟨⟩⟩
instance : NeverNull Timestamp := ⟨fun _ => by rintro ⟨⟩⟩
instance : NeverNull LabelPath := ⟨fun _ => by rintro ⟨⟩⟩

/-- Only numbers that are not finite are written as `null`. -/
instance : NeverNull Float := ⟨fun {x} h => by
  change ofDouble x ≠ .null
  have hfinite : Double.isFinite x := h
  rw [ofDouble, if_pos hfinite]
  rintro ⟨⟩⟩

/-! ### Lists and options -/

section

variable {α : Type} [Codec α] [LawfulCodec α]

theorem readItems_encode {xs : List α} (h : ∀ a ∈ xs, Portable a) :
    readItems decode (xs.map encode) = .ok xs := by
  induction xs with
  | nil => rfl
  | cons a xs ih =>
    obtain ⟨ha, hxs⟩ := List.forall_mem_cons.1 h
    rw [List.map_cons, readItems, decode_encode ha, ih hxs]
    rfl

instance : LawfulCodec (List α) where
  Portable xs := ∀ a ∈ xs, Portable a
  decode_encode h := readItems_encode h

instance : NeverNull (List α) := ⟨fun _ => by rintro ⟨⟩⟩

instance [Total α] : Total (List α) := ⟨fun _ a _ => portable a⟩

instance [NeverNull α] : LawfulCodec (Option α) where
  Portable x := ∀ a ∈ x, Portable a
  decode_encode {x} h := by
    cases x with
    | none => rfl
    | some a =>
      have hne := NeverNull.encode_ne_null (h a rfl)
      have hread := decode_encode (h a rfl)
      change readOption decode (encode a) = .ok (some a)
      generalize encode a = j at hne hread
      cases j <;> first | exact absurd rfl hne | exact congrArg (Except.map some) hread

instance [NeverNull α] [Total α] : Total (Option α) := ⟨fun _ a _ => portable a⟩

end

/-! ### Records -/

namespace Json

/-- An object whose fields can all be read is the record of them. -/
theorem readRecord_obj {α : Type} (rules : Rules) (names : List String)
    {read : Record → Reading α} {fields : Fields} {a : α}
    (h : read ⟨false, fields, false⟩ = .ok a) :
    readRecord rules names read (.obj fields) = .ok a := by
  change Record.finish _ (read _) = _
  rw [h]
  rfl

namespace Record

/-- **A field of a record is read back.** -/
@[simp] theorem present_encode {α : Type} [Codec α] [LawfulCodec α] (name : String) {a : α}
    (h : Portable a) : present name (encode a) decode = Reading.ok a := by
  rw [present, decode_encode h]

section

variable {α : Type} {name other : String} {v : Json} {rest : Fields}

@[simp] theorem required_cons_self {read : Json → Except DecodeError α} :
    required ⟨false, (name, v) :: rest, false⟩ name read = present name v read := by
  simp [required]

@[simp] theorem required_cons_ne {read : Json → Except DecodeError α} (h : other ≠ name) :
    required ⟨false, (other, v) :: rest, false⟩ name read =
      required ⟨false, rest, false⟩ name read := by
  simp [required, h]

@[simp] theorem optional_cons_self {read : Json → Except DecodeError (Option α)} :
    optional ⟨false, (name, v) :: rest, false⟩ name read = present name v read := by
  simp [optional]

@[simp] theorem optional_cons_ne {read : Json → Except DecodeError (Option α)}
    (h : other ≠ name) : optional ⟨false, (other, v) :: rest, false⟩ name read =
      optional ⟨false, rest, false⟩ name read := by
  simp [optional, h]

@[simp] theorem withDefault_cons_self {default : α} {read : Json → Except DecodeError α} :
    withDefault ⟨false, (name, v) :: rest, false⟩ name default read = present name v read := by
  simp [withDefault]

@[simp] theorem withDefault_cons_ne {default : α} {read : Json → Except DecodeError α}
    (h : other ≠ name) : withDefault ⟨false, (other, v) :: rest, false⟩ name default read =
      withDefault ⟨false, rest, false⟩ name default read := by
  simp [withDefault, h]

end

end Record

end Json

end KnowledgeBase
