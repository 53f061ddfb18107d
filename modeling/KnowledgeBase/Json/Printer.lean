import KnowledgeBase.Json.Basic
import KnowledgeBase.Number.Shortest

/-!
# Writing JSON text

Documents are written without blanks, with the members of an object in the order they are held.
Quotes, backslashes and control characters are escaped, everything else stands for itself.

## Main definitions

* `Json.quote` — a text as a JSON string.
* `Json.print` — a document as JSON text.
-/

namespace KnowledgeBase.Json

/-- The written form of one character inside a string. -/
def escape (c : Char) : List Char :=
  match c with
  | '"' => ['\\', '"']
  | '\\' => ['\\', '\\']
  | '\n' => ['\\', 'n']
  | '\r' => ['\\', 'r']
  | '\t' => ['\\', 't']
  | '\x08' => ['\\', 'b']
  | '\x0c' => ['\\', 'f']
  | c => if c.toNat < 0x20 then '\\' :: 'u' :: Double.hexDigits 4 c.toNat else [c]

/-- A text as a JSON string. -/
def quote (s : String) : String :=
  String.ofList ('"' :: s.toList.flatMap escape ++ ['"'])

/-- A double as JSON text: with a point, so that it is read as a double again, and `null` when it is
not finite. -/
def doubleText (x : Float) : String :=
  if Double.isFinite x then
    let t := Shortest.text x
    if t.toList.contains '.' then t else t ++ ".0"
  else "null"

mutual

/-- A document as JSON text. -/
def print : Json → String
  | .null => "null"
  | .bool b => if b then "true" else "false"
  | .int n => toString n
  | .double x => doubleText x
  | .str s => quote s
  | .arr items => "[" ++ printItems items ++ "]"
  | .obj fields => "\x7b" ++ printFields fields ++ "\x7d"

/-- The items of an array, with commas between them. -/
def printItems : List Json → String
  | [] => ""
  | [v] => print v
  | v :: rest => print v ++ "," ++ printItems rest

/-- The members of an object, with commas between them. -/
def printFields : List (String × Json) → String
  | [] => ""
  | [(n, v)] => quote n ++ ":" ++ print v
  | (n, v) :: rest => quote n ++ ":" ++ print v ++ "," ++ printFields rest

end

end KnowledgeBase.Json
