import KnowledgeBase.Toml.Scalar
import KnowledgeBase.Toml.Table

/-!
# Reading TOML text

The grammar of TOML 1.0, read into a JSON document.  Arrays and inline tables nest, and keys have
parts, seventy-nine at most.

## Main definitions

* `Toml.value` — reads one value.
* `Toml.parse?` — reads a text that is one document.
-/

namespace KnowledgeBase.Toml

/-- How deep values may nest, and how many parts a key may have. -/
def maxDepth : Nat := 79

/-! ### Keys -/

/-- Whether a character may stand in a key without quotes. -/
def isBareChar (c : Char) : Bool := c.isAlphanum || c == '_' || c == '-'

/-- Reads one part of a key. -/
def keyPart? (cs : List Char) : Read String :=
  let bare := cs.takeWhile isBareChar
  if bare.isEmpty then shortString? cs else some (String.ofList bare, cs.drop bare.length)

/-- Reads a key, with the blanks around it. -/
def keyParts? : Nat → List Char → Read (List String)
  | 0, _ => none
  | fuel + 1, cs =>
    (keyPart? (skipBlank cs)).bind fun (part, rest) =>
      match skipBlank rest with
      | '.' :: rest => (keyParts? fuel rest).map fun (parts, rest) => (part :: parts, rest)
      | rest => some ([part], rest)

/-- Reads a key as the parts before the last, and the last. -/
def key? (cs : List Char) : Read (List String × String) :=
  (keyParts? (cs.length + 1) cs).bind fun (parts, rest) =>
    if maxDepth < parts.length then none
    else parts.getLast?.map fun last => ((parts.dropLast, last), rest)

/-! ### Values -/

/-- The characters after blanks, line breaks and comments; the flag tells that a comment is being
read. -/
def skipFill : Bool → List Char → List Char
  | true, '\n' :: rest => skipFill false rest
  | true, '\r' :: '\n' :: rest => skipFill false rest
  | true, c :: rest => if isPlain c then skipFill true rest else c :: rest
  | false, '#' :: rest => skipFill true rest
  | false, '\n' :: rest => skipFill false rest
  | false, '\r' :: '\n' :: rest => skipFill false rest
  | false, c :: rest => if isBlank c then skipFill false rest else c :: rest
  | _, [] => []

mutual

/-- Reads a value that nests at most `depth` deep.  `fuel` bounds the number of calls, two for each
character. -/
def value (fuel depth : Nat) (cs : List Char) : Read Json :=
  match fuel with
  | 0 => none
  | fuel + 1 =>
    match cs with
    | '[' :: rest =>
      match depth with
      | 0 => none
      | depth + 1 => (items fuel depth rest).map fun (vs, rest) => (.arr vs, rest)
    | '\x7b' :: rest =>
      match depth with
      | 0 => none
      | depth + 1 =>
        match skipBlank rest with
        | '\x7d' :: rest => some (.obj [], rest)
        | rest => (members fuel depth [] rest).map fun (es, rest) => (document es, rest)
    | 't' :: 'r' :: 'u' :: 'e' :: rest => some (.bool true, rest)
    | 'f' :: 'a' :: 'l' :: 's' :: 'e' :: rest => some (.bool false, rest)
    | '"' :: _ => (string? cs).map fun (s, rest) => (.str s, rest)
    | '\'' :: _ => (string? cs).map fun (s, rest) => (.str s, rest)
    | _ => (date? cs).or (number? cs)

/-- Reads the items of an array up to its closing bracket. -/
def items (fuel depth : Nat) (cs : List Char) : Read (List Json) :=
  match fuel with
  | 0 => none
  | fuel + 1 =>
    match skipFill false cs with
    | ']' :: rest => some ([], rest)
    | cs =>
      (value fuel depth cs).bind fun (v, rest) =>
        match skipFill false rest with
        | ',' :: rest => (items fuel depth rest).map fun (vs, rest) => (v :: vs, rest)
        | ']' :: rest => some ([v], rest)
        | _ => none

/-- Reads the members of an inline table up to its closing brace. -/
def members (fuel depth : Nat) (entries : Entries) (cs : List Char) : Read Entries :=
  match fuel with
  | 0 => none
  | fuel + 1 =>
    (key? cs).bind fun ((path, key), rest) =>
      match rest with
      | '=' :: rest =>
        (value fuel depth (skipBlank rest)).bind fun (v, rest) =>
          (insert path key v .header entries).bind fun entries =>
            match skipBlank rest with
            | ',' :: rest => members fuel depth entries rest
            | '\x7d' :: rest => some (entries, rest)
            | _ => none
      | _ => none

end

/-! ### Lines -/

/-- The characters after the end of a line, with the blanks and the comment before it. -/
def endLine? (cs : List Char) : Option (List Char) :=
  let cs := match skipBlank cs with
    | '#' :: rest => rest.dropWhile isPlain
    | cs => cs
  match cs with
  | [] => some []
  | cs => newline? cs

/-- A document that is being read: the tables so far, and the path of the last header. -/
structure Draft where
  root : Entries
  current : List String

/-- Reads a line that sets a key. -/
def assignment? (d : Draft) (cs : List Char) : Option (Draft × List Char) := do
  let ((path, key), rest) ← key? cs
  let (_, rest) ← literal? '=' rest
  let (v, rest) ← value (2 * rest.length + 2) maxDepth (skipBlank rest)
  let rest ← endLine? rest
  let root ← insertUnder d.current path key v d.root
  some ({ d with root }, rest)

/-- Reads the header of a table, after its bracket. -/
def tableHeader? (d : Draft) (cs : List Char) : Option (Draft × List Char) := do
  let ((path, key), rest) ← key? cs
  let (_, rest) ← literal? ']' rest
  let rest ← endLine? rest
  let root ← openTable path key d.root
  some (⟨root, path ++ [key]⟩, rest)

/-- Reads the header of an element of an array of tables, after its brackets. -/
def elementHeader? (d : Draft) (cs : List Char) : Option (Draft × List Char) := do
  let ((path, key), rest) ← key? cs
  let (_, rest) ← literal? ']' rest
  let (_, rest) ← literal? ']' rest
  let rest ← endLine? rest
  let root ← openElement path key d.root
  some (⟨root, path ++ [key]⟩, rest)

/-- Reads lines to the end; `fuel` bounds their number. -/
def lines : Nat → Draft → List Char → Option Draft
  | 0, _, _ => none
  | fuel + 1, d, cs =>
    match skipBlank cs with
    | [] => some d
    | '[' :: '[' :: rest => (elementHeader? d rest).bind fun (d, rest) => lines fuel d rest
    | '[' :: rest => (tableHeader? d rest).bind fun (d, rest) => lines fuel d rest
    | cs =>
      match endLine? cs with
      | some rest => lines fuel d rest
      | none => (assignment? d cs).bind fun (d, rest) => lines fuel d rest

/-- Reads a text that is one document.  A byte order mark in front is ignored. -/
def parse? (s : String) : Option Json :=
  let cs := match s.toList with
    | '\uFEFF' :: rest => rest
    | cs => cs
  (lines (cs.length + 1) ⟨[], []⟩ cs).map fun d => document d.root

end KnowledgeBase.Toml
