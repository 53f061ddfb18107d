import KnowledgeBase.Assoc

/-!
# JSON documents

Integers are kept apart from doubles, since a whole number that fits sixty-four bits is never
rounded.  The members of an object have distinct names; their order carries no meaning.

## Main definitions

* `Json` — a document.
* `Json.Fields` — the members of an object.
* `Json.get?`, `Json.set` — the members of a document that is an object.
-/

namespace KnowledgeBase

/-- A JSON document. -/
inductive Json where
  | null
  | bool (b : Bool)
  | int (n : Int)
  | double (x : Float)
  | str (s : String)
  | arr (items : List Json)
  | obj (fields : List (String × Json))
deriving Inhabited

namespace Json

/-- The members of an object. -/
abbrev Fields := Assoc Json

/-- The value of a member of an object. -/
def get? (name : String) : Json → Option Json
  | .obj fields => Assoc.get? name fields
  | _ => none

/-- An object with one member set; any other document is kept. -/
def set (document : Json) (name : String) (v : Json) : Json :=
  match document with
  | .obj fields => .obj (Assoc.set name v fields)
  | other => other

end Json

end KnowledgeBase
