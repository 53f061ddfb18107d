/-!
# Splitting text

## Main definitions

* `Text.split` — the pieces between the occurrences of a character.
* `Text.cut` — what stands before the first occurrence of a character, and what stands after it.
-/

namespace KnowledgeBase.Text

/-- The pieces between the occurrences of a character; `piece` holds the characters read of the
current one, last first. -/
def splitFrom (sep : Char) (piece : List Char) : List Char → List (List Char)
  | [] => [piece.reverse]
  | c :: cs =>
    if c = sep then piece.reverse :: splitFrom sep [] cs else splitFrom sep (c :: piece) cs

/-- The pieces between the occurrences of a character, one more than there are occurrences. -/
def split (sep : Char) (cs : List Char) : List (List Char) := splitFrom sep [] cs

/-- What stands before the first occurrence of a character and what stands after it, which is
nothing if there is none. -/
def cut (sep : Char) (cs : List Char) : List Char × List Char :=
  let before := cs.takeWhile (· != sep)
  (before, cs.drop (before.length + 1))

end KnowledgeBase.Text
