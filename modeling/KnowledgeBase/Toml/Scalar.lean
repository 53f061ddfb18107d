import KnowledgeBase.Json.Parser
import KnowledgeBase.Timestamp

/-!
# Scalars of TOML

Strings, numbers and dates of TOML 1.0.  Each reader takes a list of characters and answers what it
read together with the rest, or nothing.  Integers have sixty-four bits; a float that rounds to
positive infinity is refused.

## Main definitions

* `Toml.string?` — a string in any of the four notations.
* `Toml.number?` — an integer or a float.
* `Toml.date?` — a date, a time, or both.
-/

namespace KnowledgeBase.Toml

/-- What a reader answers: a value and the characters after it. -/
abbrev Read (α : Type) := Option (α × List Char)

/-- Space and tab. -/
def isBlank (c : Char) : Bool := c == ' ' || c == '\t'

/-- The characters after the leading blanks. -/
def skipBlank (cs : List Char) : List Char := cs.dropWhile isBlank

/-- Every character but the control characters other than the tab. -/
def isPlain (c : Char) : Bool := c == '\t' || (0x20 ≤ c.toNat && c.toNat != 0x7f)

/-- The characters after a line break. -/
def newline? : List Char → Option (List Char)
  | '\n' :: rest => some rest
  | '\r' :: '\n' :: rest => some rest
  | _ => none

/-! ### Strings -/

/-- The character of a code point, unless it is a surrogate or out of range. -/
def scalar? (n : Nat) : Option Char :=
  if n < 0xD800 || (0xDFFF < n && n < 0x110000) then some (Char.ofNat n) else none

/-- The character that eight, or four, hexadecimal digits write. -/
def escapedScalar? (digits : List Char) : Option Char := (Text.hexNumber? 0 digits).bind scalar?

/-- The character that a letter after a backslash stands for. -/
def escapedLetter? : Char → Option Char
  | 'b' => some '\x08'
  | 't' => some '\t'
  | 'n' => some '\n'
  | 'f' => some '\x0c'
  | 'r' => some '\r'
  | '"' => some '"'
  | '\\' => some '\\'
  | _ => none

/-- Reads what follows a backslash. -/
def escape? : List Char → Read Char
  | 'u' :: rest => (escapedScalar? (rest.take 4)).bind fun c =>
    if rest.length < 4 then none else some (c, rest.drop 4)
  | 'U' :: rest => (escapedScalar? (rest.take 8)).bind fun c =>
    if rest.length < 8 then none else some (c, rest.drop 8)
  | c :: rest => (escapedLetter? c).map fun e => (e, rest)
  | [] => none

/-- Puts a character in front of what was read. -/
def prepend (c : Char) (r : Read (List Char)) : Read (List Char) :=
  r.map fun (cs, rest) => (c :: cs, rest)

/-- A string with escapes, after its opening quote. -/
def basicBody : Nat → List Char → Read (List Char)
  | 0, _ => none
  | fuel + 1, cs =>
    match cs with
    | [] => none
    | '"' :: rest => some ([], rest)
    | '\\' :: rest => (escape? rest).bind fun (c, rest) => prepend c (basicBody fuel rest)
    | c :: rest => if isPlain c then prepend c (basicBody fuel rest) else none

/-- A string without escapes, after its opening quote. -/
def literalBody (cs : List Char) : Read (List Char) :=
  let body := cs.takeWhile fun c => isPlain c && c != '\''
  match cs.drop body.length with
  | '\'' :: rest => some (body, rest)
  | _ => none

/-- The characters after blanks and line breaks. -/
def skipGap : List Char → List Char
  | '\r' :: '\n' :: rest => skipGap rest
  | c :: rest => if isBlank c || c == '\n' then skipGap rest else c :: rest
  | [] => []

/-- A string with escapes that may span lines, after its opening quotes.  A backslash at the end of
a line takes the break and the blanks after it away. -/
def longBasicBody : Nat → List Char → Read (List Char)
  | 0, _ => none
  | fuel + 1, cs =>
    match cs with
    | '"' :: '"' :: '"' :: '"' :: '"' :: rest => some (['"', '"'], rest)
    | '"' :: '"' :: '"' :: '"' :: rest => some (['"'], rest)
    | '"' :: '"' :: '"' :: rest => some ([], rest)
    | '\\' :: rest =>
      match newline? (skipBlank rest) with
      | some rest => longBasicBody fuel (skipGap rest)
      | none => (escape? rest).bind fun (c, rest) => prepend c (longBasicBody fuel rest)
    | '\r' :: '\n' :: rest => prepend '\n' (longBasicBody fuel rest)
    | c :: rest =>
      if isPlain c || c == '\n' then prepend c (longBasicBody fuel rest) else none
    | [] => none

/-- A string without escapes that may span lines, after its opening quotes. -/
def longLiteralBody : List Char → Read (List Char)
  | '\'' :: '\'' :: '\'' :: '\'' :: '\'' :: rest => some (['\'', '\''], rest)
  | '\'' :: '\'' :: '\'' :: '\'' :: rest => some (['\''], rest)
  | '\'' :: '\'' :: '\'' :: rest => some ([], rest)
  | '\r' :: '\n' :: rest => prepend '\n' (longLiteralBody rest)
  | c :: rest => if isPlain c || c == '\n' then prepend c (longLiteralBody rest) else none
  | [] => none

/-- The characters after a line break, if there is one at the front. -/
def dropNewline (cs : List Char) : List Char := (newline? cs).getD cs

/-- Reads a string of one line. -/
def shortString? : List Char → Read String
  | '"' :: rest => (basicBody (rest.length + 1) rest).map fun (s, rest) => (String.ofList s, rest)
  | '\'' :: rest => (literalBody rest).map fun (s, rest) => (String.ofList s, rest)
  | _ => none

/-- Reads a string. -/
def string? : List Char → Read String
  | '"' :: '"' :: '"' :: rest =>
    (longBasicBody (rest.length + 1) (dropNewline rest)).map fun (s, rest) =>
      (String.ofList s, rest)
  | '\'' :: '\'' :: '\'' :: rest =>
    (longLiteralBody (dropNewline rest)).map fun (s, rest) => (String.ofList s, rest)
  | cs => shortString? cs

/-! ### Numbers -/

/-- Digits that may be grouped by single underscores, and the rest. -/
def grouped (isDigit : Char → Bool) : List Char → List Char × List Char
  | '_' :: c :: rest =>
    if isDigit c then
      let (ds, rest) := grouped isDigit rest
      (c :: ds, rest)
    else ([], '_' :: c :: rest)
  | c :: rest =>
    if isDigit c then
      let (ds, rest) := grouped isDigit rest
      (c :: ds, rest)
    else ([], c :: rest)
  | [] => ([], [])

/-- Digits that begin with a digit. -/
def digits? (isDigit : Char → Bool) : List Char → Read (List Char)
  | c :: rest => if isDigit c then some (grouped isDigit (c :: rest)) else none
  | [] => none

/-- The digits before the point.  A zero stands alone. -/
def whole? : List Char → Read (List Char)
  | '0' :: rest => some (['0'], rest)
  | cs => digits? Char.isDigit cs

/-- The digits after the point, if there is one. -/
def fraction? : List Char → Read (Option (List Char))
  | '.' :: rest => (digits? Char.isDigit rest).map fun (ds, rest) => (some ds, rest)
  | cs => some (none, cs)

/-- The digits of an exponent. -/
def exponentDigits? (negative : Bool) (cs : List Char) : Read Int :=
  (digits? Char.isDigit cs).map fun (ds, rest) =>
    (if negative then -(Json.Parser.decimal ds : Int) else Json.Parser.decimal ds, rest)

/-- The exponent, if there is one. -/
def exponent? : List Char → Read (Option Int)
  | c :: rest =>
    if c == 'e' || c == 'E' then
      let read := match rest with
        | '+' :: rest => exponentDigits? false rest
        | '-' :: rest => exponentDigits? true rest
        | rest => exponentDigits? false rest
      read.map fun (e, rest) => (some e, rest)
    else some (none, c :: rest)
  | [] => some (none, [])

/-- A signed integer of sixty-four bits. -/
def integerValue? (n : Int) : Option Json :=
  if -(2 ^ 63 : Nat) ≤ n ∧ n < (2 ^ 63 : Nat) then some (.int n) else none

/-- A float; the text of one that rounds to positive infinity is refused. -/
def floatValue? (negative : Bool) (whole frac : List Char) (exponent : Int) : Option Json :=
  let x := Double.ofDecimal negative (Json.Parser.decimal (whole ++ frac))
    (exponent - (frac.length : Int))
  if Double.isFinite x || negative then some (.double x) else none

/-- A number in decimal, after its sign. -/
def decimal? (negative : Bool) (cs : List Char) : Option (Json × List Char) := do
  let (ds, rest) ← whole? cs
  let (frac, rest) ← fraction? rest
  let (exponent, rest) ← exponent? rest
  let v ←
    if frac.isNone && exponent.isNone then
      integerValue? (if negative then -(Json.Parser.decimal ds : Int) else Json.Parser.decimal ds)
    else floatValue? negative ds (frac.getD []) (exponent.getD 0)
  some (v, rest)

/-- A number after its sign. -/
def signed? (negative : Bool) : List Char → Read Json
  | 'i' :: 'n' :: 'f' :: rest =>
    some (.double (if negative then Double.negInf else Double.inf), rest)
  | 'n' :: 'a' :: 'n' :: rest => some (.double Double.nan, rest)
  | cs => decimal? negative cs

/-- Whether a character is a digit to a base up to sixteen. -/
def isDigitOf (base : Nat) (c : Char) : Bool := (Text.hexValue? c).any fun v => v < base

/-- An integer to another base, after the letter of the base. -/
def based? (base : Nat) (cs : List Char) : Option (Json × List Char) := do
  let (ds, rest) ← digits? (isDigitOf base) cs
  let n := ds.foldl (fun n c => base * n + (Text.hexValue? c).getD 0) 0
  let v ← integerValue? n
  some (v, rest)

/-- Reads a number. -/
def number? : List Char → Read Json
  | '+' :: rest => signed? false rest
  | '-' :: rest => signed? true rest
  | '0' :: 'x' :: rest => based? 16 rest
  | '0' :: 'o' :: rest => based? 8 rest
  | '0' :: 'b' :: rest => based? 2 rest
  | cs => signed? false cs

/-! ### Dates -/

/-- Reads so many digits as a number between two bounds. -/
def field? (width low high : Nat) (cs : List Char) : Read Nat :=
  let ds := cs.take width
  let n := Json.Parser.decimal ds
  if ds.length = width && ds.all Char.isDigit && low ≤ n && n ≤ high then some (n, cs.drop width)
  else none

/-- Reads one character. -/
def literal? (c : Char) : List Char → Read Unit
  | d :: rest => if c = d then some ((), rest) else none
  | [] => none

/-- Reads a date. -/
def fullDate? (cs : List Char) : Option (Unit × List Char) := do
  let (year, rest) ← field? 4 0 9999 cs
  let (_, rest) ← literal? '-' rest
  let (month, rest) ← field? 2 1 12 rest
  let (_, rest) ← literal? '-' rest
  let (_, rest) ← field? 2 1 (Timestamp.daysIn year month) rest
  some ((), rest)

/-- Drops the fraction of a second, if there is one. -/
def skipFraction : List Char → List Char
  | '.' :: c :: rest => if c.isDigit then rest.dropWhile Char.isDigit else '.' :: c :: rest
  | cs => cs

/-- Reads a time of day. -/
def time? (cs : List Char) : Option (Unit × List Char) := do
  let (_, rest) ← field? 2 0 23 cs
  let (_, rest) ← literal? ':' rest
  let (_, rest) ← field? 2 0 59 rest
  let (_, rest) ← literal? ':' rest
  let (_, rest) ← field? 2 0 60 rest
  some ((), skipFraction rest)

/-- Reads hours and minutes of an offset, after its sign. -/
def offsetBody? (cs : List Char) : Option (Unit × List Char) := do
  let (_, rest) ← field? 2 0 23 cs
  let (_, rest) ← literal? ':' rest
  let (_, rest) ← field? 2 0 59 rest
  some ((), rest)

/-- Drops an offset, if there is one. -/
def skipOffset (cs : List Char) : List Char :=
  match cs with
  | 'Z' :: rest => rest
  | 'z' :: rest => rest
  | '+' :: rest => ((offsetBody? rest).map Prod.snd).getD cs
  | '-' :: rest => ((offsetBody? rest).map Prod.snd).getD cs
  | _ => cs

/-- Drops a time with its offset after a date, if there is one. -/
def skipTime (cs : List Char) : List Char :=
  match cs with
  | c :: rest =>
    if c == 'T' || c == 't' || c == ' ' then
      match time? rest with
      | some (_, rest) => skipOffset rest
      | none => cs
    else cs
  | [] => []

/-- Reads a date, a time, or a date with a time.  Its text is kept as the one member of an
object. -/
def date? (cs : List Char) : Read Json :=
  let rest := match fullDate? cs with
    | some (_, rest) => some (skipTime rest)
    | none => (time? cs).map Prod.snd
  rest.map fun rest =>
    (.obj [("datetime", .str (String.ofList (cs.take (cs.length - rest.length))))],
      rest)

end KnowledgeBase.Toml
