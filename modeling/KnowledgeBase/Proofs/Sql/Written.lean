import Mathlib.Data.List.Forall2
import KnowledgeBase.Sql.Row
import KnowledgeBase.Proofs.Sql.Placeholder

/-!
# The row that a statement writes

The text of an insertion names columns and says for each where its value comes from, so that text
and bound values together determine the row that is written, but for the columns that the database
fills.  What is then read off such a row depends on the names of the columns, not on their order.

## Main definitions

* `Sql.Statement.written` — the columns that an insertion fills with bound values.
* `Sql.Row.Holds` — a row that holds them, among others and in any order.
* `Sql.Cell.Lawful` — a type whose values are read back from their column.

## Main results

* `Sql.Row.holds_of_append` — what is written, with any other columns, is such a row.
* `Sql.Row.column_eq` — the column of a value is read as that value.
* `Sql.decodeAll_eq_ok_iff` — rows are decoded together just when they are decoded one by one.
-/

namespace KnowledgeBase.Sql

/-! ### What is written -/

/-- The columns of an insertion whose values are placeholders, with the numbers of these. -/
def insertedPlaces (words : List String) : List (String × Nat) :=
  (insertedValues words).filterMap fun (name, value) =>
    match name with
    | [column] => (value.head?.bind placeholder?).map fun n => (column, n)
    | _ => none

/-- The columns that an insertion fills with bound values, each with its value.  Columns that the
database fills are left out. -/
def Statement.written (st : Statement) : List (String × Value) :=
  (insertedPlaces (tokens st.sql)).filterMap fun (column, n) =>
    (st.binds[n - 1]?).map fun v => (column, v)

theorem filterMap_zipIdx (columns : List String) (binds : List Value) (k : Nat) :
    ((columns.zipIdx (k + 1)).filterMap fun (column, n) =>
      (binds[n - 1]?).map fun v => (column, v)) = columns.zip (binds.drop k) := by
  induction columns generalizing k with
  | nil => rfl
  | cons column columns ih =>
    rw [List.zipIdx_cons, List.filterMap_cons, ih (k + 1)]
    simp only [Nat.add_sub_cancel]
    cases hbind : binds[k]? with
    | none =>
      have hlength := List.getElem?_eq_none_iff.1 hbind
      rw [List.drop_eq_nil_of_le hlength, List.drop_eq_nil_of_le (Nat.le_succ_of_le hlength)]
      simp
    | some v =>
      obtain ⟨hlength, rfl⟩ := List.getElem?_eq_some_iff.1 hbind
      rw [List.drop_eq_getElem_cons hlength]
      rfl

/-- When the placeholders stand in order, each column is filled with the value in its place. -/
theorem Statement.written_eq {sql : String} {binds : List Value} {cells : List (String × Value)}
    (hplaces : insertedPlaces (tokensFrom [] sql.toList) = (cells.map Prod.fst).zipIdx 1)
    (hbinds : binds = cells.map Prod.snd) : (prepared sql binds).written = cells := by
  rw [written, Statement.sql, tokens, hplaces, filterMap_zipIdx, List.drop_zero, Statement.binds,
    hbinds, ← List.unzip_fst, ← List.unzip_snd, List.zip_unzip]

namespace Row

/-- A row that holds what a statement writes. -/
def Holds (row : Row) (st : Statement) : Prop :=
  ∀ cell ∈ st.written, row.find? cell.1 = some cell.2

theorem find?_eq_of_mem {cells : List (String × Value)} (h : (cells.map Prod.fst).Nodup)
    {cell : String × Value} (hcell : cell ∈ cells) : find? ⟨cells⟩ cell.1 = some cell.2 := by
  have hreverse : (cells.reverse.map Prod.fst).Nodup := by
    rw [List.map_reverse]
    exact (List.reverse_perm _).nodup_iff.2 h
  obtain ⟨before, after, hsplit⟩ := List.append_of_mem (List.mem_reverse.2 hcell)
  have hnew : ∀ other ∈ before, other.1 ≠ cell.1 := by
    intro other hother heq
    rw [hsplit, List.map_append, List.map_cons] at hreverse
    have hdisjoint := (List.nodup_append.1 hreverse).2.2
    exact hdisjoint other.1 (List.mem_map_of_mem hother) cell.1 List.mem_cons_self heq
  have hfind : (cells.reverse.find? fun other => other.1 = cell.1) = some cell := by
    rw [List.find?_eq_some_iff_append]
    exact ⟨by simp, before, after, hsplit, by simpa using fun a b hab => hnew (a, b) hab⟩
  exact congrArg (Option.map Prod.snd) hfind

/-- **What a statement writes, with any other columns, is a row that holds it.** -/
theorem holds_of_append {st : Statement} {others : List (String × Value)}
    (h : ((st.written ++ others).map Prod.fst).Nodup) : Holds ⟨st.written ++ others⟩ st :=
  fun _ hcell => find?_eq_of_mem h (List.mem_append_left _ hcell)

/-- Beside what a statement writes there may be a column that the database fills. -/
theorem holds_and_find?_of_written {st : Statement} {cells : List (String × Value)}
    (column : String) (v : Value) (hst : st.written = cells)
    (h : ((cells ++ [(column, v)]).map Prod.fst).Nodup) :
    Holds ⟨st.written ++ [(column, v)]⟩ st ∧
      find? ⟨st.written ++ [(column, v)]⟩ column = some v := by
  rw [← hst] at h
  exact ⟨holds_of_append h, find?_eq_of_mem h (List.mem_append_right _ List.mem_cons_self)⟩

end Row

/-! ### What is read -/

/-- A type whose values are read back from their column. -/
class Cell.Lawful (α : Type) [Cell α] : Prop where
  read?_toValue (a : α) : Cell.read? (toValue a) = some a

/-- A type none of whose values is stored as NULL. -/
class Cell.NeverNull (α : Type) [Cell α] : Prop extends Cell.Lawful α where
  toValue_ne_null (a : α) : toValue a ≠ .null

namespace Cell

instance : NeverNull String where
  read?_toValue _ := rfl
  toValue_ne_null _ := nofun

instance : NeverNull Int32 where
  read?_toValue _ := rfl
  toValue_ne_null _ := nofun

instance : NeverNull Float where
  read?_toValue _ := rfl
  toValue_ne_null _ := nofun

instance : NeverNull Uuid where
  read?_toValue _ := rfl
  toValue_ne_null _ := nofun

instance : NeverNull Timestamp where
  read?_toValue _ := rfl
  toValue_ne_null _ := nofun

instance : NeverNull (List String) where
  read?_toValue _ := rfl
  toValue_ne_null _ := nofun

instance : NeverNull Json where
  read?_toValue _ := rfl
  toValue_ne_null _ := nofun

instance : NeverNull Metadata where
  read?_toValue _ := rfl
  toValue_ne_null _ := nofun

instance : NeverNull (List Json) where
  read?_toValue _ := rfl
  toValue_ne_null _ := nofun

/-- A value that is there is not taken for one that is missing. -/
instance {α : Type} [Cell α] [NeverNull α] : Lawful (Option α) where
  read?_toValue x := by
    cases x with
    | none => rfl
    | some a =>
      have hread := Lawful.read?_toValue a
      have hnull := NeverNull.toValue_ne_null a
      rw [toValue_some]
      cases hvalue : toValue a with
      | null => exact absurd hvalue hnull
      | _ =>
        rw [hvalue] at hread
        exact congrArg (Option.map some) hread

end Cell

/-- **The column of a value is read as that value.** -/
theorem Row.column_eq {α : Type} [Cell α] [Cell.Lawful α] {row : Row} {name : String} {a : α}
    (h : row.find? name = some (toValue a)) : row.column name = .ok a := by
  rw [column, h]
  simp only [decodeCell, Cell.Lawful.read?_toValue]
  rfl

/-- Rows that can be decoded one by one can be decoded together. -/
theorem decodeAll_eq_ok {α : Type} {decode : Row → Except StoreError α} {rows : List Row}
    {xs : List α} (h : List.Forall₂ (fun row x => decode row = .ok x) rows xs) :
    decodeAll decode rows = .ok xs := by
  induction h with
  | nil => rfl
  | cons hrow _ ih =>
    rw [decodeAll, hrow, ih]
    rfl

/-- Rows are decoded together just when they are decoded one by one. -/
theorem decodeAll_eq_ok_iff {α : Type} {decode : Row → Except StoreError α} {rows : List Row}
    {xs : List α} :
    decodeAll decode rows = .ok xs ↔ List.Forall₂ (fun row x => decode row = .ok x) rows xs := by
  refine ⟨fun h => ?_, decodeAll_eq_ok⟩
  induction rows generalizing xs with
  | nil =>
    cases h
    exact .nil
  | cons row rows ih =>
    rw [decodeAll] at h
    cases hrow : decode row with
    | error e =>
      rw [hrow] at h
      cases h
    | ok x =>
      cases hrest : decodeAll decode rows with
      | error e =>
        rw [hrow, hrest] at h
        cases h
      | ok rest =>
        rw [hrow, hrest] at h
        cases h
        exact .cons hrow (ih hrest)

end KnowledgeBase.Sql
