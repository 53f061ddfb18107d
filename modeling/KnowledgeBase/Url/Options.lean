import KnowledgeBase.Url.Parser

/-!
# Addresses of databases

The address of a database names a user, a password, a host and, with its path, the database.  These
must be text once their percent-encoding is undone.  The query holds further options, of which some
must be numbers or one of a few words.

## Main definitions

* `Url.options` — the options of a query, decoded.
* `Url.fault?` — the first fault of an address of a database.
-/

namespace KnowledgeBase.Url

open Text

/-- The characters of a piece of a query, in which a plus sign is a space. -/
def decodeQuery (cs : List Char) : List Char :=
  Percent.read (cs.map fun c => if c == '+' then ' ' else c)

/-- The options of a query, in order. -/
def options (query : List Char) : List (String × String) :=
  ((split '&' query).filter (!·.isEmpty)).map fun piece =>
    let (key, value) := cut '=' piece
    (String.ofList (decodeQuery key), String.ofList (decodeQuery value))

/-- The uses of encryption. -/
def encryptionUses : List String :=
  ["disable", "allow", "prefer", "require", "verify-ca", "verify-full"]

/-- What is wrong with a number below a bound. -/
def numberFault? (bound : Nat) (value : String) : Option Fault :=
  match readNumber bound value with
  | .ok _ => none
  | .error fault => some (.number fault)

/-- What is wrong with an option. -/
def optionFault? (key value : String) : Option Fault :=
  match key with
  | "sslmode" | "ssl-mode" =>
    if encryptionUses.contains (value.map Char.toLower) then none else some (.encryption value)
  | "statement-cache-capacity" => numberFault? (2 ^ 64) value
  | "port" => numberFault? (2 ^ 16) value
  | "hostaddr" =>
    if Ip.isIpv4 value.toList || Ip.isIpv6 value.toList then none else some .hostNumber
  | _ => none

/-- Whether a host is the path of a socket. -/
def isSocket (host : List Char) : Bool := (Percent.bytes host).head? = some 0x2F

/-- What is wrong with a part that must be text. -/
def textFault? (cs : List Char) : Option Fault := (Utf8.fault? (Percent.bytes cs)).map .text

/-- The first fault of the parts of an address. -/
def partFault? (url : Url) : Option Fault :=
  let socket := if isSocket url.host then url.host else []
  let database := url.path.dropWhile (· == '/')
  [socket, url.user, url.password, database].findSome? textFault?

/-- The first fault of an address of a database. -/
def fault? (s : String) : Option Fault :=
  match parse s with
  | .error fault => some fault
  | .ok url =>
    (partFault? url).or ((options url.query).findSome? fun (key, value) => optionFault? key value)

end KnowledgeBase.Url
