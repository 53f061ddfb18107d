import KnowledgeBase.Url.Domain

/-!
# Hosts

The host of an address is a number between brackets or a name.  In an address of the web the name is
a domain name; elsewhere it is any text without characters that mark off the parts of an address.

## Main definitions

* `Host.webFault?`, `Host.otherFault?` — what is wrong with a host, of the web and elsewhere.
-/

namespace KnowledgeBase.Host

/-- Whether brackets, of which the opening one has been read, close around a number. -/
def isBracketed (cs : List Char) : Bool :=
  cs.getLast? = some ']' && Ip.isIpv6 cs.dropLast

/-- What is wrong with a host, where `named` judges names. -/
def fault? (named : List Char → Option Url.Fault) : List Char → Option Url.Fault
  | '[' :: cs => if isBracketed cs then none else some .ipv6
  | cs => named cs

/-- What is wrong with a host of the web. -/
def webFault? : List Char → Option Url.Fault := fault? Domain.fault?

/-- The characters that no host contains as they are. -/
def delimiters : List Char := "\x00\t\n\r #/:<>?@[\\]^|".toList

/-- What is wrong with a host elsewhere. -/
def otherFault? : List Char → Option Url.Fault :=
  fault? fun cs => if cs.any delimiters.contains then some .hostCharacter else none

end KnowledgeBase.Host
