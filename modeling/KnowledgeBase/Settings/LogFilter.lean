import KnowledgeBase.Text.Alphanumeric
import KnowledgeBase.Text.Ascii
import KnowledgeBase.Text.Blank
import KnowledgeBase.Text.Decimal
import KnowledgeBase.Text.Split

/-!
# Log filters

A filter is a list of directives between commas.  A directive names a target, a span in brackets, or
both, and may set a level after an equals sign; a bare word is a target or a level.

## Main definitions

* `LogFilter.Fault` — what is wrong with a directive.
* `LogFilter.State`, `LogFilter.step` — the machine that reads a directive character by character.
* `LogFilter.fault?` — the fault of the first bad directive.
-/

namespace KnowledgeBase.LogFilter

/-- What is wrong with a directive. -/
inductive Fault where
  | directive
  | level
deriving DecidableEq

/-- The sentence that names the fault. -/
def Fault.message : Fault → String
  | directive => "invalid filter directive"
  | level =>
    "error parsing level filter: expected one of \"off\", \"error\", \"warn\", \"info\", " ++
    "\"debug\", \"trace\", or a number 0-5"

/-- Where the machine stands in a directive. -/
inductive State where
  /-- Before the first character. -/
  | start
  /-- In a target, or in a bare level. -/
  | word
  /-- Between brackets. -/
  | span
  /-- After a closing bracket. -/
  | target
  /-- After the equals sign. -/
  | level
deriving DecidableEq

/-- Whether a target may begin with the character. -/
def beginsTarget (c : Char) : Bool := Text.isAlphanumeric c || c == '-' || c == ':' || c == '_'

/-- The state after a character, unless no directive goes on with it. -/
def step : State → Char → Option State
  | .start, c => if c = '[' then some .span else if beginsTarget c then some .word else none
  | .word, c => if c = '=' then some .level else if c = '[' then some .span else some .word
  | .span, c => if c = ']' then some .target else some .span
  | .target, c => if c = '=' then some .level else none
  | .level, _ => some .level

/-- The names of the levels. -/
def levels : List String := ["off", "error", "warn", "info", "debug", "trace"]

/-- Whether a text names a level, in any case or as a number up to five, or is empty. -/
def isLevel (s : String) : Bool :=
  s.isEmpty || levels.contains (Text.lower s) || (Text.parseWord? s).any fun n => decide (n ≤ 5)

/-- Walks a directive on from a state.  What follows the equals sign is taken as a whole, and is no
level unless the directive stands `bare`, without white space around it. -/
def walk (bare : Bool) : State → List Char → Option Fault
  | .level, cs => if bare && isLevel (String.ofList cs) then none else some .level
  | .start, [] => some .directive
  | .span, [] => some .directive
  | .word, [] => none
  | .target, [] => none
  | q, c :: cs =>
    match step q c with
    | some q => walk bare q cs
    | none => some .directive

/-- The fault of a directive.  A bare word or a span may have white space around it. -/
def directiveFault? (cs : List Char) : Option Fault :=
  let trimmed := Text.trimChars cs
  walk (trimmed == cs) .start trimmed

/-- The fault of the first bad directive.  Empty pieces are passed over. -/
def fault? (filter : String) : Option Fault :=
  ((Text.split ',' filter.toList).filter fun cs => !cs.isEmpty).findSome? directiveFault?

end KnowledgeBase.LogFilter
