/-!
# Definitions of schemas and tables

## Main definitions

* `Schema.createSchema`, `Schema.searchPath` — the statements about a schema.
* `Schema.Table`, `Schema.Table.create` — a table and the statement that creates it.
* `Schema.createIndex`, `Schema.createUniqueIndex`, `Schema.addColumn` — statements about a table.

Every statement may be repeated: it does nothing when its object is already there.
-/

namespace KnowledgeBase.Schema

/-- Creates the schema. -/
def createSchema (schema : String) : String := "CREATE SCHEMA IF NOT EXISTS " ++ schema

/-- Puts the schema first on the search path. -/
def searchPath (schema : String) : String := "SET search_path TO " ++ schema ++ ", public"

/-- A column, with its type and what else is declared of it. -/
structure Column where
  name : String
  type : String

/-- A table: its columns, and the constraints that concern several of them. -/
structure Table where
  name : String
  columns : List Column
  constraints : List String

namespace Table

/-- The width of the names: the next multiple of four after the longest. -/
def tab (t : Table) : Nat :=
  let longest := t.columns.foldl (fun width c => max width c.name.length) 0
  4 * (longest / 4 + 1)

/-- The line of a column. -/
def line (tab : Nat) (c : Column) : String :=
  "    " ++ c.name ++ "".pushn ' ' (tab - c.name.length) ++ c.type

/-- The statement that creates the table. -/
def create (t : Table) : String :=
  let lines := t.columns.map (line t.tab) ++ t.constraints.map ("    " ++ ·)
  "CREATE TABLE IF NOT EXISTS " ++ t.name ++ " (\n" ++ ",\n".intercalate lines ++ "\n)"

end Table

/-- Creates an index; the target is a table with what is indexed of it. -/
def createIndex (name target : String) : String :=
  "CREATE INDEX IF NOT EXISTS " ++ name ++ " ON " ++ target

/-- Creates an index that admits no two equal entries. -/
def createUniqueIndex (name target : String) : String :=
  "CREATE UNIQUE INDEX IF NOT EXISTS " ++ name ++ " ON " ++ target

/-- Adds a column to a table that lacks it. -/
def addColumn (table name type : String) : String :=
  "ALTER TABLE " ++ table ++ " ADD COLUMN IF NOT EXISTS " ++ name ++ " " ++ type

end KnowledgeBase.Schema
