import KnowledgeBase.Text.Decimal
import KnowledgeBase.Text.Quoted
import KnowledgeBase.Text.Utf8

/-!
# Faults of database addresses

## Main definitions

* `Url.Fault`, `Url.Fault.message` — why a text is no address of a database, and in words.
-/

namespace KnowledgeBase.Url

/-- Why a text is no address of a database. -/
inductive Fault where
  | emptyHost
  /-- A domain name that cannot be looked up. -/
  | domainName
  | port
  | ipv4
  | ipv6
  /-- A character that no host contains. -/
  | hostCharacter
  /-- The scheme is missing. -/
  | relative
  /-- A part that does not stand for text. -/
  | text (fault : Utf8.Fault)
  /-- An option that should be a number. -/
  | number (fault : Text.NumberFault)
  /-- An option that should be the number of a host. -/
  | hostNumber
  /-- An option that should name a use of encryption. -/
  | encryption (value : String)
deriving DecidableEq

/-- The sentence that names the fault. -/
def Fault.message : Fault → String
  | emptyHost => "empty host"
  | domainName => "invalid international domain name"
  | port => "invalid port number"
  | ipv4 => "invalid IPv4 address"
  | ipv6 => "invalid IPv6 address"
  | hostCharacter => "invalid domain character"
  | relative => "relative URL without a base"
  | text fault => fault.message
  | number fault => fault.message
  | hostNumber => "invalid IP address syntax"
  | encryption value =>
    "error with configuration: unknown value " ++ Text.quoted value ++ " for `ssl_mode`"

end KnowledgeBase.Url
