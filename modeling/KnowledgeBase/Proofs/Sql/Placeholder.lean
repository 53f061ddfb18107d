import KnowledgeBase.Sql.Statement

/-!
# Placeholders and columns in SQL text

What a statement binds gets its meaning from the text: a value is compared with a column, or written
into one, where the text says so and nowhere else.  The text is therefore read here by itself, apart
from the functions that build statements.

## Main definitions

* `Sql.tokens` — the words and marks of a text.
* `Sql.comparedWith` — the placeholders that a text compares with a column.
* `Sql.insertedInto` — the placeholders that a text writes into a column of a new row.
* `Sql.placesOf` — both together, each once.
* `Sql.settingsOf` — the settings that a text makes for the transaction, with their placeholders.
-/

namespace KnowledgeBase.Sql

/-- The characters of names, numbers and placeholders. -/
def isWordChar (c : Char) : Bool := c.isAlphanum || c == '_' || c == '$'

/-- The words and marks of the characters that are left; `word` holds the characters read of the
current word, last one first. -/
def tokensFrom (word : List Char) : List Char → List String
  | [] => if word.isEmpty then [] else [String.ofList word.reverse]
  | c :: cs =>
    if isWordChar c then tokensFrom (c :: word) cs
    else
      let rest := tokensFrom [] cs
      let rest := if Text.isAsciiSpace c then rest else String.singleton c :: rest
      if word.isEmpty then rest else String.ofList word.reverse :: rest

/-- The words of a text and the marks between them.  A qualified name is a word, a point and another
word, so that a column is found with and without its table. -/
def tokens (sql : String) : List String := tokensFrom [] sql.toList

/-- The number of a placeholder. -/
def placeholder? (word : String) : Option Nat :=
  match word.toList with
  | '$' :: digits => some (digits.foldl (fun n c => 10 * n + (c.toNat - 0x30)) 0)
  | _ => none

/-- The placeholders that stand right of an equals sign with the column on its left. -/
def comparedWith (column : String) : List String → List Nat
  | name :: mark :: value :: rest =>
    (if name == column && mark == "=" then (placeholder? value).toList else [])
      ++ comparedWith column (mark :: value :: rest)
  | _ => []

/-- The columns that an insertion names, each with the words of its value.  The values stand in
brackets, or follow a `SELECT`. -/
def insertedValues : List String → List (List String × List String)
  | "INSERT" :: "INTO" :: _ :: "(" :: rest =>
    let columns := (rest.takeWhile (· != ")")).splitOn ","
    match rest.dropWhile (· != ")") with
    | ")" :: "VALUES" :: "(" :: values => columns.zip (values.splitOn ",")
    | ")" :: "SELECT" :: values => columns.zip (values.splitOn ",")
    | _ => []
  | _ => []

/-- The placeholders whose value an insertion writes into the column. -/
def insertedInto (column : String) (words : List String) : List Nat :=
  (insertedValues words).filterMap fun (name, value) =>
    if name == [column] then value.head?.bind placeholder? else none

/-- The placeholders that a text compares with a column or writes into it, each once. -/
def placesOf (column sql : String) : List Nat :=
  (comparedWith column (tokens sql) ++ insertedInto column (tokens sql)).eraseDups

/-- The settings that a text makes by `set_config`, each with the placeholder of its value. -/
def settingsOf : List String → List (String × Nat)
  | "set_config" :: "(" :: "'" :: space :: "." :: name :: "'" :: "," :: value :: rest =>
    ((placeholder? value).map fun n => (space ++ "." ++ name, n)).toList ++ settingsOf rest
  | _ :: rest => settingsOf rest
  | [] => []

end KnowledgeBase.Sql
