import KnowledgeBase.Json.Basic

/-!
# Tables of TOML

A document is a tree of tables that is built line by line.  No key is defined twice: a table given
by a header is not given by another header, one that came of a dotted key is not given by a header,
and a dotted key does not reach into a table given by a header.

## Main definitions

* `Toml.Item`, `Toml.Entries` — the tree.
* `Toml.insert` — a key with its value; `Toml.openTable`, `Toml.openElement` — headers.
* `Toml.document` — the tree as a JSON document.
-/

namespace KnowledgeBase.Toml

/-- How a table came to be. -/
inductive Origin where
  /-- A header gives it. -/
  | header
  /-- It lies on the way to a table that a header gives. -/
  | implied
  /-- It lies on the way of a dotted key. -/
  | dotted
deriving DecidableEq

/-- What is found under a key. -/
inductive Item where
  | value (v : Json)
  | table (origin : Origin) (entries : List (String × Item))
  /-- An array of tables, each given by a header; the last one is still being filled. -/
  | tables (earlier : List (List (String × Item))) (last : List (String × Item))

/-- What a table holds. -/
abbrev Entries := Assoc Item

/-- Changes the table at the end of a path.  Tables on the way that are missing come to be, by a
dotted key or by a header. -/
def alter (byDots : Bool) (f : Origin → Entries → Option Entries) :
    List String → Origin → Entries → Option Entries
  | [], origin, entries => f origin entries
  | key :: path, _, entries =>
    match Assoc.get? key entries with
    | none =>
      let origin := if byDots then Origin.dotted else Origin.implied
      (alter byDots f path origin []).map fun inner => Assoc.set key (.table origin inner) entries
    -- a value, and an inline table or array among them, is complete as it stands
    | some (.value _) => none
    | some (.table origin inner) =>
      if byDots && origin = .header then none
      else
        (alter byDots f path origin inner).map fun inner =>
          Assoc.set key (.table origin inner) entries
    -- a path into an array of tables means the element that is being filled
    | some (.tables earlier last) =>
      (alter byDots f path .header last).map fun last =>
        Assoc.set key (.tables earlier last) entries

/-- Sets a new key of a table.  A table of dotted keys takes dotted keys only, and no other table
takes them as its own. -/
def insertLast (viaDots : Bool) (key : String) (v : Json) (origin : Origin) (entries : Entries) :
    Option Entries :=
  if decide (origin = .dotted) != viaDots || (Assoc.get? key entries).isSome then none
  else some (Assoc.set key (.value v) entries)

/-- Sets the value of a dotted key in a table; `path` holds the parts before the last. -/
def insert (path : List String) (key : String) (v : Json) (origin : Origin) (entries : Entries) :
    Option Entries :=
  alter true (insertLast (!path.isEmpty) key v) path origin entries

/-- Opens a table by a header. -/
def openTable (path : List String) (key : String) (root : Entries) : Option Entries :=
  let give := fun (_ : Origin) entries =>
    match Assoc.get? key entries with
    | none => some (Assoc.set key (.table .header []) entries)
    | some (.table .implied inner) => some (Assoc.set key (.table .header inner) entries)
    | some _ => none
  alter false give path .header root

/-- Opens a further element of an array of tables by a header. -/
def openElement (path : List String) (key : String) (root : Entries) : Option Entries :=
  let give := fun (_ : Origin) entries =>
    match Assoc.get? key entries with
    | none => some (Assoc.set key (.tables [] []) entries)
    | some (.tables earlier last) => some (Assoc.set key (.tables (earlier ++ [last]) []) entries)
    | some _ => none
  alter false give path .header root

/-- Sets the value of a dotted key in the table that the last header opened. -/
def insertUnder (current path : List String) (key : String) (v : Json) (root : Entries) :
    Option Entries :=
  alter false (insert path key v) current .header root

mutual

/-- An item as a JSON document. -/
def Item.toJson : Item → Json
  | .value v => v
  | .table _ entries => .obj (fieldsOf entries)
  | .tables earlier last => .arr (rowsOf earlier ++ [.obj (fieldsOf last)])

/-- The members of a table. -/
def fieldsOf : List (String × Item) → List (String × Json)
  | [] => []
  | (key, item) :: rest => (key, item.toJson) :: fieldsOf rest

/-- The elements of an array of tables. -/
def rowsOf : List (List (String × Item)) → List Json
  | [] => []
  | entries :: rest => .obj (fieldsOf entries) :: rowsOf rest

end

/-- The tree as a JSON document. -/
def document (root : Entries) : Json := .obj (fieldsOf root)

end KnowledgeBase.Toml
