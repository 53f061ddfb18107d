import KnowledgeBase.Text.Decimal
import KnowledgeBase.Url.Host
import KnowledgeBase.Url.Path

/-!
# Addresses

An address is a scheme and, as the scheme lays down, an authority, which names a user and a host, a
path, and a query.  It is read with its white space at the ends and its line breaks removed.

## Main definitions

* `Url` — an address.
* `Url.Kind` — the kinds of schemes.
* `Url.parse` — reads an address, or names what is wrong with it.
-/

namespace KnowledgeBase

/-- An address.  Its parts are percent-encoded, and empty where the address has none. -/
structure Url where
  user : List Char
  password : List Char
  host : List Char
  path : List Char
  query : List Char
deriving DecidableEq

namespace Url

open Text

/-- The kinds of schemes. -/
inductive Kind where
  /-- There must be a host, which is of the web, and a backslash is a slash. -/
  | web
  /-- There may be a host, which is of the web, but no user and no port, and a backslash is a
  slash. -/
  | file
  /-- There may be a host, which is any text, and a backslash is a character like others. -/
  | other
deriving DecidableEq

/-- The kind of a scheme in lower case. -/
def Kind.ofScheme (scheme : String) : Kind :=
  if ["http", "https", "ws", "wss", "ftp"].contains scheme then .web
  else if scheme = "file" then .file
  else .other

/-- Whether a character is a slash. -/
def Kind.isSlash (k : Kind) (c : Char) : Bool := c == '/' || (k != .other && c == '\\')

/-- Whether a character ends the authority. -/
def Kind.isEnd (k : Kind) (c : Char) : Bool := k.isSlash c || c == '?' || c == '#'

/-! ### Scheme -/

/-- Whether a character is a control or a space. -/
def isBlank (c : Char) : Bool := c.toNat ≤ 0x20

/-- An address without white space at its ends and without tabs and line breaks. -/
def clean (s : String) : List Char :=
  let cs := (s.toList.dropWhile isBlank).reverse.dropWhile isBlank
  cs.reverse.filter fun c => c != '\t' && c != '\n' && c != '\r'

/-- Whether a character may stand in a scheme. -/
def isSchemeChar (c : Char) : Bool := c.isAlphanum || c == '+' || c == '-' || c == '.'

/-- The scheme in lower case and what follows its colon. -/
def cutScheme? (cs : List Char) : Option (String × List Char) :=
  let scheme := cs.takeWhile isSchemeChar
  match scheme.head?, cs.drop scheme.length with
  | some c, ':' :: rest =>
    if c.isAlpha then some (String.ofList (scheme.map Char.toLower), rest) else none
  | _, _ => none

/-! ### Path and query -/

/-- An address with the path and the query that a text holds.  What follows a number sign belongs to
neither. -/
def withPath (url : Url) (path : List Char → List Char) (cs : List Char) : Url :=
  let (before, query) := cut '?' (cs.takeWhile (· != '#'))
  { url with path := path before, query }

/-- The path that a text holds after an authority.  Its first slash may be missing. -/
def rooted (k : Kind) (cs : List Char) : List Char :=
  match cs.map fun c => if k.isSlash c then '/' else c with
  | '/' :: cs => Path.resolve cs
  | cs => Path.resolve cs

/-! ### Authority -/

/-- The address without a part. -/
def empty : Url := ⟨[], [], [], [], []⟩

/-- What stands before the last at sign of the authority, if there is one, and the text after it. -/
def cutUser (k : Kind) (cs : List Char) : Option (List Char) × List Char :=
  let authority := cs.takeWhile fun c => !k.isEnd c
  if authority.contains '@' then
    let host := authority.reverse.takeWhile (· != '@')
    let user := authority.take (authority.length - host.length - 1)
    (some user, cs.drop (user.length + 1))
  else (none, cs)

/-- The host that a text begins with.  Within brackets a colon does not end it. -/
def takeHost (k : Kind) (inside : Bool) : List Char → List Char
  | [] => []
  | c :: cs =>
    if k.isEnd c || (c == ':' && !inside) then []
    else c :: takeHost k (c == '[' || (inside && c != ']')) cs

/-- The text after a port, which is a number of sixteen bits or nothing. -/
def skipPort : List Char → Except Fault (List Char)
  | ':' :: cs =>
    let digits := cs.takeWhile Char.isDigit
    let rest := cs.drop digits.length
    match readDigits (2 ^ 16) 0 digits with
    | .ok _ => if rest.head?.all "/\\?#".toList.contains then .ok rest else .error .port
    | .error _ => .error .port
  | cs => .ok cs

/-- What is wrong with a host: `named` tells whether a user comes before it, and `rest` is the text
after it. -/
def hostFault? (k : Kind) (named : Bool) (host rest : List Char) : Option Fault :=
  if host.isEmpty then
    if k = .web || named || rest.head? = some ':' then some .emptyHost else none
  else if k = .other then Host.otherFault? host
  else Host.webFault? host

/-- Reads an address from its authority on.  An at sign with nothing around it is a host that is
missing, and so is a user without a host. -/
def parseAuthority (k : Kind) (cs : List Char) : Except Fault Url := do
  let (info, cs) := cutUser k cs
  if info = some [] && cs.head?.any k.isEnd then .error .emptyHost
  let (user, password) := cut ':' (info.getD [])
  let host := takeHost k false cs
  let rest := cs.drop host.length
  match hostFault? k (!user.isEmpty || !password.isEmpty) host rest with
  | some fault => .error fault
  | none =>
    let rest ← skipPort rest
    let path := fun path => if k = .other && path.isEmpty then [] else rooted k path
    .ok ({ empty with user, password, host }.withPath path rest)

/-- Reads the address of a file after the two slashes before its host.  The letter of a drive is no
host and starts the path. -/
def parseFile (cs : List Char) : Except Fault Url :=
  let host := cs.takeWhile fun c => !Kind.file.isEnd c
  if host.isEmpty || Path.isDrive host then .ok (empty.withPath (rooted .file) cs)
  else
    match Host.webFault? host with
    | some fault => .error fault
    | none => .ok ({ empty with host }.withPath (rooted .file) (cs.drop host.length))

/-! ### The whole -/

/-- Reads an address from the end of its scheme on. -/
def parseAfter (k : Kind) (cs : List Char) : Except Fault Url :=
  let rest := cs.drop 2
  let hasTwo := (cs.take 2).length = 2 && (cs.take 2).all k.isSlash
  match k with
  | .web => parseAuthority .web (cs.dropWhile Kind.web.isSlash)
  | .file => if hasTwo then parseFile rest else .ok (empty.withPath (rooted .file) cs)
  | .other =>
    if hasTwo then parseAuthority .other rest
    else if cs.head? = some '/' then .ok (empty.withPath (rooted .other) cs)
    else .ok (empty.withPath id cs)

/-- Reads an address. -/
def parse (s : String) : Except Fault Url :=
  match cutScheme? (clean s) with
  | some (scheme, rest) => parseAfter (Kind.ofScheme scheme) rest
  | none => .error .relative

end Url

end KnowledgeBase
