import Concierge.Web.Domain.Basic
import Concierge.Web.Ipv4
import Concierge.Web.Ipv6
import Concierge.Web.Percent

/-!
# Hosts

A host is given by its address or by a domain name. A domain name whose last part is a number is
meant as an address.
-/

namespace Concierge

inductive Host where
  | v4 (address : Ipv4)
  | v6 (address : Ipv6)
  | named (name : String)
deriving DecidableEq, Repr

namespace Host

def ofName? (cs : List Char) : Option Host := do
  let name ← Domain.sent? (← Percent.decode? cs)
  if name.isEmpty then none
  else if Ipv4.isMeant name then (Ipv4.ofChars? name).map .v4
  else return .named (String.ofList name)

/-- A host at the front of a text, which ends before a colon, and what follows it. An address of
eight pieces stands in brackets. -/
def read? (cs : List Char) : Option (Host × List Char) :=
  match cs with
  | '[' :: cs => do
    let address ← Ipv6.ofChars? (cs.takeWhile (· ≠ ']'))
    match cs.dropWhile (· ≠ ']') with
    | ']' :: rest => return (.v6 address, rest)
    | _ => none
  | cs => do return (← ofName? (cs.takeWhile (· ≠ ':')), cs.dropWhile (· ≠ ':'))

def text : Host → String
  | v4 address => address.text
  | v6 address => "[" ++ address.text ++ "]"
  | named name => name

end Host

end Concierge
