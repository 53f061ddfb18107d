import KnowledgeBase.Text.Percent
import KnowledgeBase.Url.Direction
import KnowledgeBase.Url.Fault
import KnowledgeBase.Url.Folding
import KnowledgeBase.Url.Ip
import KnowledgeBase.Url.Joining
import KnowledgeBase.Url.Punycode

/-!
# Domain names

A domain name is labels with points between them.  It is percent-encoded text whose characters are
folded first; a label may carry another one in ASCII.  A name whose last label is a number names a
host by its number.

## Main definitions

* `Domain.labels?` — the labels of a name that can be looked up.
* `Domain.fault?` — what is wrong with a name.
-/

namespace KnowledgeBase.Domain

open Text

/-- The characters that a character folds to, unless it is refused.  One that stands for others
stays. -/
def folded? (c : Char) : Option (List Char) :=
  match fold c with
  | .kept => some [c]
  | .dropped => some []
  | .refused => none
  | .becomes cs => some cs
  | .stands => some [c]

/-- Whether a label that was carried in ASCII had to be: it is folded, and not all of ASCII. -/
def isCarried (label : List Char) : Bool :=
  label.any (fun c => 0x80 ≤ c.toNat) && label.all fun c => fold c = .kept

/-- The label that a label stands for: after `xn--` the one that the rest carries, else itself. -/
def carried? : List Char → Option (List Char)
  | 'x' :: 'n' :: '-' :: '-' :: cs =>
    if cs.all fun c => c.toNat < 0x80 then (Punycode.decode? cs).filter isCarried else none
  | label => some label

/-- Whether a label does not begin with a mark, and its joiners stand where they may. -/
def isSound (label : List Char) : Bool :=
  !(label.head?.any isMark) && joinersFit label

/-- The labels of a name that can be looked up. -/
def labels? (cs : List Char) : Option (List (List Char)) := do
  let folded ← cs.mapM folded?
  let labels ← (split '.' folded.flatten).mapM carried?
  if labels.all isSound && directionsFit labels then some labels else none

/-- What is wrong with a name, given percent-encoded. -/
def fault? (name : List Char) : Option Url.Fault :=
  let bytes := Percent.bytes name
  match if (Utf8.fault? bytes).isSome then none else labels? (Utf8.read bytes) with
  | none => some .domainName
  | some labels =>
    if labels = [[]] then some .emptyHost
    else if Ip.endsInNumber labels && !Ip.isLooseIpv4 labels then some .ipv4
    else none

end KnowledgeBase.Domain
