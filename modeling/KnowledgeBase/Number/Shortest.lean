import KnowledgeBase.Number.Double

/-!
# Shortest decimal text of a double

The text has the fewest digits that read back as the same double, of those the digits nearest to its
value, of two that are equally near the greater ones, and never an exponent.

## Main definitions

* `Shortest.digits` — the digits of a positive finite double and their decimal exponent.
* `Shortest.text` — the positional text of any double.
-/

namespace KnowledgeBase.Shortest

/-- An interval of reals around a value, all counted in halves of the smallest positive double.
The ends belong to it when `closed`. -/
structure Interval where
  low : Nat
  value : Nat
  high : Nat
  closed : Bool

/-- The reals that round to a magnitude: up to half-way to its neighbours, the half-way points
included when the magnitude is even. -/
def Interval.ofMagnitude (m : Nat) : Interval :=
  let u := BinaryFormat.double.units
  ⟨u (m - 1) + u m, 2 * u m, u m + u (m + 1), m % 2 == 0⟩

/-- Half of the smallest positive double is one over this. -/
def halfUnit : Nat := 2 ^ (BinaryFormat.double.unitScale + 1)

/-- Whether `c * 10 ^ e` lies in the interval, the powers of ten being given as `up / down`. -/
def Interval.holds (i : Interval) (c up down : Nat) : Bool :=
  let x := c * up * halfUnit
  let inside := i.low * down < x && x < i.high * down
  inside || (i.closed && (x == i.low * down || x == i.high * down))

/-- The distance of `c * 10 ^ e` from the value, on the scale of `holds`. -/
def Interval.distance (i : Interval) (c up down : Nat) : Nat :=
  let x := c * up * halfUnit
  (x - i.value * down) + (i.value * down - x)

/-- The multiple of `10 ^ e` that lies in the interval, if there is one: of the two neighbours of
the value the nearer one, and the greater one on a tie. -/
def Interval.onGrid (i : Interval) (e : Int) : Option Nat :=
  let up := 10 ^ e.toNat
  let down := 10 ^ (-e).toNat
  -- the value is `i.value / halfUnit`, so these are its neighbours on the grid
  let below := i.value * down / (up * halfUnit)
  let above := below + 1
  let fitsBelow := 0 < below && i.holds below up down
  let fitsAbove := i.holds above up down
  if fitsBelow && fitsAbove then
    some (if i.distance above up down ≤ i.distance below up down then above else below)
  else if fitsBelow then some below
  else if fitsAbove then some above
  else none

/-- Tries ever finer grids, `steps` of them, from `10 ^ e` on. -/
def search (i : Interval) : Nat → Int → Nat × Int
  | 0, e => (0, e)
  | steps + 1, e =>
    match i.onGrid e with
    | some c => (c, e)
    | none => search i steps (e - 1)

/-- The digits and the decimal exponent of a positive finite magnitude.  No double exceeds
`10 ^ 309`, and seventeen digits below `10 ^ -324` always suffice. -/
def digits (m : Nat) : Nat × Int :=
  search (Interval.ofMagnitude m) 660 309

/-- `c * 10 ^ e` without an exponent. -/
def positional (c : Nat) (e : Int) : String :=
  let ds := (Nat.toDigits 10 c)
  if 0 ≤ e then String.ofList (ds ++ List.replicate e.toNat '0')
  else
    let places := (-e).toNat
    let padded := List.replicate (places + 1 - ds.length) '0' ++ ds
    let whole := padded.length - places
    String.ofList (padded.take whole ++ '.' :: padded.drop whole)

/-- The positional text of a double: whole numbers without a point, the sign of zero kept. -/
def text (x : Float) : String :=
  if Double.isNaN x then "NaN"
  else
    let sign := if Double.isNegative x then "-" else ""
    let m := Double.magnitude x
    if m = 0 then sign ++ "0"
    else if BinaryFormat.double.infinity ≤ m then sign ++ "inf"
    else
      let (c, e) := digits m
      sign ++ positional c e

end KnowledgeBase.Shortest
