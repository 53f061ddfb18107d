import KnowledgeBase.Json.Basic
import KnowledgeBase.Number.Double
import KnowledgeBase.Text.Hex

/-!
# Reading JSON text

The grammar of RFC 8259.  Documents nest at most 127 deep, a number that rounds to infinity is
refused, an unpaired surrogate is refused, and of two members of one name the later one counts.

## Main definitions

* `Json.Parser.value` — reads one document from the front of a list of characters.
* `Json.parse?` — reads a text that is one document.
-/

namespace KnowledgeBase.Json

namespace Parser

/-- Space, tab, line feed and carriage return. -/
def isBlank (c : Char) : Bool := c == ' ' || c == '\t' || c == '\n' || c == '\r'

/-- The characters after the leading blanks. -/
def skip (cs : List Char) : List Char := cs.dropWhile isBlank

/-! ### Numbers -/

/-- The number that a list of decimal digits writes. -/
def decimal (ds : List Char) : Nat := ds.foldl (fun n c => 10 * n + (c.toNat - 0x30)) 0

/-- The digits after a point, and what follows.  A point needs a digit after it. -/
def fraction? : List Char → Option (List Char × List Char)
  | '.' :: cs =>
    let ds := cs.takeWhile Char.isDigit
    if ds.isEmpty then none else some (ds, cs.drop ds.length)
  | cs => some ([], cs)

/-- The digits of an exponent, with its sign. -/
def signedDigits? (negative : Bool) (cs : List Char) : Option (Int × List Char) :=
  let ds := cs.takeWhile Char.isDigit
  if ds.isEmpty then none
  else some (if negative then -(decimal ds : Int) else decimal ds, cs.drop ds.length)

/-- The exponent, if one is written, and what follows. -/
def exponent? : List Char → Option (Option Int × List Char)
  | c :: cs =>
    if c == 'e' || c == 'E' then
      let read := match cs with
        | '+' :: rest => signedDigits? false rest
        | '-' :: rest => signedDigits? true rest
        | rest => signedDigits? false rest
      read.map fun (e, rest) => (some e, rest)
    else some (none, c :: cs)
  | [] => some (none, [])

/-- The value of a written number.  Whole numbers of sixty-four bits, signed or unsigned, stay
integers; minus zero and all else are doubles. -/
def numberValue? (negative : Bool) (whole frac : List Char) (exponent : Option Int) :
    Option Json :=
  let n := decimal whole
  let isInt := frac.isEmpty && exponent.isNone && !(negative && n == 0)
    && (if negative then n ≤ 2 ^ 63 else n < 2 ^ 64)
  if isInt then some (.int (if negative then -(n : Int) else n))
  else
    let x := Double.ofDecimal negative (decimal (whole ++ frac))
      (exponent.getD 0 - (frac.length : Int))
    if Double.isFinite x then some (.double x) else none

/-- Reads the digits of a number.  A zero stands alone before the point. -/
def unsigned? (negative : Bool) (cs : List Char) : Option (Json × List Char) := do
  let ds := cs.takeWhile Char.isDigit
  if ds.isEmpty || (ds.length > 1 && ds.head? == some '0') then none
  else
    let (frac, rest) ← fraction? (cs.drop ds.length)
    let (exponent, rest) ← exponent? rest
    let v ← numberValue? negative ds frac exponent
    some (v, rest)

/-- Reads a number. -/
def number? : List Char → Option (Json × List Char)
  | '-' :: cs => unsigned? true cs
  | cs => unsigned? false cs

/-! ### Strings -/

/-- The sixteen bits that four hexadecimal digits write. -/
def hex4? (a b c d : Char) : Option Nat := Text.hexNumber? 0 [a, b, c, d]

/-- The characters of a string up to its closing quote, and what follows.  Control characters have
to be escaped, and a leading surrogate has to be followed by a trailing one. -/
def stringBody : List Char → Option (List Char × List Char)
  | [] => none
  | '"' :: rest => some ([], rest)
  | '\\' :: 'u' :: a :: b :: c :: d :: rest =>
    match hex4? a b c d with
    | none => none
    | some high =>
      if high < 0xD800 || 0xDFFF < high then
        (stringBody rest).map fun (cs, after) => (Char.ofNat high :: cs, after)
      else if 0xDC00 ≤ high then none
      else match rest with
        | '\\' :: 'u' :: e :: f :: g :: h :: rest =>
          match hex4? e f g h with
          | none => none
          | some low =>
            if 0xDC00 ≤ low && low ≤ 0xDFFF then
              (stringBody rest).map fun (cs, after) =>
                (Char.ofNat (0x10000 + (high - 0xD800) * 0x400 + (low - 0xDC00)) :: cs, after)
            else none
        | _ => none
  | '\\' :: c :: rest =>
    let plain := match c with
      | '"' => some '"'
      | '\\' => some '\\'
      | '/' => some '/'
      | 'b' => some '\x08'
      | 'f' => some '\x0c'
      | 'n' => some '\n'
      | 'r' => some '\r'
      | 't' => some '\t'
      | _ => none
    plain.bind fun p => (stringBody rest).map fun (cs, after) => (p :: cs, after)
  | c :: rest =>
    if c.toNat < 0x20 then none
    else (stringBody rest).map fun (cs, after) => (c :: cs, after)

/-- Reads the name of a member with its colon, the opening quote being read already. -/
def name? (cs : List Char) : Option (String × List Char) :=
  (stringBody cs).bind fun (n, rest) =>
    match skip rest with
    | ':' :: rest => some (String.ofList n, rest)
    | _ => none

/-! ### Documents -/

mutual

/-- Reads a document that nests at most `depth` deep.  `fuel` bounds the number of calls, two for
each character. -/
def value (fuel depth : Nat) (cs : List Char) : Option (Json × List Char) :=
  match fuel with
  | 0 => none
  | fuel + 1 =>
    match skip cs with
    | 'n' :: 'u' :: 'l' :: 'l' :: rest => some (.null, rest)
    | 't' :: 'r' :: 'u' :: 'e' :: rest => some (.bool true, rest)
    | 'f' :: 'a' :: 'l' :: 's' :: 'e' :: rest => some (.bool false, rest)
    | '"' :: rest => (stringBody rest).map fun (s, rest) => (.str (String.ofList s), rest)
    | '[' :: rest =>
      match depth with
      | 0 => none
      | depth + 1 =>
        match skip rest with
        | ']' :: rest => some (.arr [], rest)
        | rest => (items fuel depth rest).map fun (vs, rest) => (.arr vs, rest)
    | '\x7b' :: rest =>
      match depth with
      | 0 => none
      | depth + 1 =>
        match skip rest with
        | '\x7d' :: rest => some (.obj [], rest)
        | rest => (members fuel depth rest).map fun (ms, rest) => (.obj (Assoc.ofList ms), rest)
    | cs => number? cs

/-- Reads the items of an array up to its closing bracket. -/
def items (fuel depth : Nat) (cs : List Char) : Option (List Json × List Char) :=
  match fuel with
  | 0 => none
  | fuel + 1 =>
    (value fuel depth cs).bind fun (v, rest) =>
      match skip rest with
      | ',' :: rest => (items fuel depth rest).map fun (vs, rest) => (v :: vs, rest)
      | ']' :: rest => some ([v], rest)
      | _ => none

/-- Reads the members of an object up to its closing brace. -/
def members (fuel depth : Nat) (cs : List Char) : Option (List (String × Json) × List Char) :=
  match fuel with
  | 0 => none
  | fuel + 1 =>
    match skip cs with
    | '"' :: rest =>
      (name? rest).bind fun (n, rest) =>
        (value fuel depth rest).bind fun (v, rest) =>
          match skip rest with
          | ',' :: rest => (members fuel depth rest).map fun (ms, rest) => ((n, v) :: ms, rest)
          | '\x7d' :: rest => some ([(n, v)], rest)
          | _ => none
    | _ => none

end

end Parser

/-- How deep documents may nest. -/
def maxDepth : Nat := 127

/-- Reads a text that is one document, with nothing but blanks around it. -/
def parse? (s : String) : Option Json :=
  let cs := s.toList
  match Parser.value (2 * cs.length + 2) maxDepth cs with
  | some (v, rest) => if (Parser.skip rest).isEmpty then some v else none
  | none => none

end KnowledgeBase.Json
