import KnowledgeBase.Number.Binary
import KnowledgeBase.Text.Hex
import KnowledgeBase.Text.Split

/-!
# Numbers of hosts

A host may be named by its number: four bytes with points between them, or eight groups of sixteen
bits with colons between them.  A domain name whose last label is a number is a number too, and is
read by looser rules: in any of three bases, with the last part filling the bytes that are left.

## Main definitions

* `Ip.isIpv4`, `Ip.isIpv6` — the strict forms.
* `Ip.endsInNumber`, `Ip.isLooseIpv4` — which domain names are numbers, and which of them are sound.
-/

namespace KnowledgeBase.Ip

open Text

/-- The number written by digits of a base, after the digits that make up `n`. -/
def valueIn? (base n : Nat) : List Char → Option Nat
  | [] => some n
  | c :: cs =>
    match hexValue? c with
    | some d => if d < base then valueIn? base (base * n + d) cs else none
    | none => none

/-! ### Strict forms -/

/-- Whether a piece is a number up to two hundred and fifty-five without a leading zero. -/
def isByte (cs : List Char) : Bool :=
  !cs.isEmpty && cs.length ≤ 3 && (cs.length = 1 || cs.head? != some '0')
    && (valueIn? 10 0 cs).any fun n => n ≤ 255

/-- Whether a text is four bytes between points. -/
def isIpv4 (cs : List Char) : Bool :=
  let bytes := split '.' cs
  bytes.length = 4 && bytes.all isByte

/-- Whether a piece is a number of one to four hexadecimal digits. -/
def isGroup (cs : List Char) : Bool :=
  !cs.isEmpty && cs.length ≤ 4 && (valueIn? 16 0 cs).isSome

/-- How many groups pieces stand for; four bytes at the end stand for two.  No answer when a piece
is no group. -/
def groups? (bytesAllowed : Bool) : List (List Char) → Option Nat
  | [] => some 0
  | [last] => if isGroup last then some 1 else if bytesAllowed && isIpv4 last then some 2 else none
  | piece :: rest =>
    if isGroup piece then (groups? bytesAllowed rest).map (· + 1) else none

/-- The groups of a part that may be empty. -/
def partGroups? (bytesAllowed : Bool) (cs : List Char) : Option Nat :=
  if cs.isEmpty then some 0 else groups? bytesAllowed (split ':' cs)

/-- Splits at the first double colon; `before` holds the characters read, last first. -/
def splitGap (before : List Char) : List Char → Option (List Char × List Char)
  | ':' :: ':' :: rest => some (before.reverse, rest)
  | c :: rest => splitGap (c :: before) rest
  | [] => none

/-- Whether a text is eight groups, of which a double colon may stand for some. -/
def isIpv6 (cs : List Char) : Bool :=
  match splitGap [] cs with
  | none => groups? true (split ':' cs) == some 8
  | some (before, after) =>
    match partGroups? false before, partGroups? true after with
    | some m, some n => m + n < 8
    | _, _ => false

/-! ### Domain names that are numbers -/

/-- A number in base sixteen after `0x`, in base eight after `0`, and else in base ten.  Nothing
after `0x` is zero. -/
def number? : List Char → Option Nat
  | [] => none
  | '0' :: 'x' :: cs => valueIn? 16 0 cs
  | '0' :: 'X' :: cs => valueIn? 16 0 cs
  | '0' :: c :: cs => valueIn? 8 0 (c :: cs)
  | cs => valueIn? 10 0 cs

/-- The labels without an empty one at the end. -/
def withoutRoot (labels : List (List Char)) : List (List Char) :=
  if labels.getLast? = some [] then labels.dropLast else labels

/-- Whether the last label is a number, or digits that should be one. -/
def endsInNumber (labels : List (List Char)) : Bool :=
  (withoutRoot labels).getLast?.any fun label =>
    (!label.isEmpty && label.all Char.isDigit) || (number? label).isSome

/-- Whether at most four labels are numbers: bytes, and at the end one that fits what is left. -/
def isLooseIpv4 (labels : List (List Char)) : Bool :=
  let labels := withoutRoot labels
  match labels.mapM number? with
  | none => false
  | some numbers =>
    numbers.length ≤ 4 && numbers.dropLast.all (fun n => n ≤ 255)
      && numbers.getLast?.any fun n => n < 256 ^ (5 - numbers.length)

end KnowledgeBase.Ip
