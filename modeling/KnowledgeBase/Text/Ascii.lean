/-!
# Text operations that touch ASCII only

## Main definitions

* `Text.lower` — the upper-case letters of ASCII made lower case, all else kept.
* `Text.collapse` — each run of ASCII white space made one space, the ends trimmed.
* `Text.contains` — whether a text occurs inside another.
* `Text.precedes` — the order of texts by their UTF-8 bytes, which is their order by code points.
-/

namespace KnowledgeBase.Text

/-- Folds the letters `A` to `Z` and keeps every other character. -/
def lower (s : String) : String :=
  String.ofList (s.toList.map Char.toLower)

/-- Space, tab, line feed, form feed and carriage return. -/
def isAsciiSpace (c : Char) : Bool :=
  c == ' ' || c == '\t' || c == '\n' || c == '\x0c' || c == '\r'

/-- Splits at runs of ASCII white space; `word` holds the characters read of the current word, last
one first. -/
def wordsFrom (word : List Char) : List Char → List (List Char)
  | [] => if word.isEmpty then [] else [word.reverse]
  | c :: cs =>
    if isAsciiSpace c then
      if word.isEmpty then wordsFrom [] cs else word.reverse :: wordsFrom [] cs
    else wordsFrom (c :: word) cs

/-- Each run of ASCII white space becomes one space, and the ends are trimmed. -/
def collapse (s : String) : String :=
  String.ofList (List.intercalate [' '] (wordsFrom [] s.toList))

/-- Whether `pattern` occurs in the list at some position. -/
def occursIn (pattern : List Char) : List Char → Bool
  | [] => pattern.isEmpty
  | c :: cs => pattern.isPrefixOf (c :: cs) || occursIn pattern cs

/-- Whether `pattern` occurs somewhere in `s`. -/
def contains (s pattern : String) : Bool :=
  occursIn pattern.toList s.toList

/-- Strict order of texts by their UTF-8 bytes.  Comparing code points gives the same order. -/
def precedes (a b : String) : Bool :=
  decide (a < b)

end KnowledgeBase.Text
