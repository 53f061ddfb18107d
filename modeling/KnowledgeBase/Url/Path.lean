import KnowledgeBase.Text.Split

/-!
# Paths of addresses

A path is segments with slashes between them.  A segment of one dot stands for nothing, and one of
two dots takes back the segment before it, unless that is the letter of a drive.

## Main definitions

* `Path.isDrive` — whether a segment is the letter of a drive.
* `Path.resolve` — the path that is meant.
-/

namespace KnowledgeBase.Path

open Text

/-- Whether a segment is the letter of a drive: a letter of ASCII and a colon or a bar. -/
def isDrive : List Char → Bool
  | [letter, mark] => letter.isAlpha && (mark == ':' || mark == '|')
  | _ => false

/-- How many dots a segment consists of, plain or percent-encoded, if of nothing else. -/
def dots? : List Char → Option Nat
  | [] => some 0
  | '.' :: cs => (dots? cs).map (· + 1)
  | '%' :: '2' :: 'e' :: cs => (dots? cs).map (· + 1)
  | '%' :: '2' :: 'E' :: cs => (dots? cs).map (· + 1)
  | _ => none

/-- Takes back the last segment. -/
def takeBack : List (List Char) → List (List Char)
  | [] => []
  | last :: kept => if isDrive last then last :: kept else kept

/-- The segments that are meant; `kept` holds those already read, last first.  Dots at the end leave
an empty segment. -/
def resolveFrom (kept : List (List Char)) : List (List Char) → List (List Char)
  | [] => kept.reverse
  | segment :: rest =>
    let close (kept : List (List Char)) := if rest.isEmpty then [] :: kept else kept
    match dots? segment with
    | some 1 => resolveFrom (close kept) rest
    | some 2 => resolveFrom (close (takeBack kept)) rest
    | _ => resolveFrom (segment :: kept) rest

/-- The path that is meant by what follows its first slash. -/
def resolve (cs : List Char) : List Char :=
  '/' :: List.intercalate ['/'] (resolveFrom [] (split '/' cs))

end KnowledgeBase.Path
