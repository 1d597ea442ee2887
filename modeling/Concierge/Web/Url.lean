import Concierge.Text.Blank
import Concierge.Web.Host
import Concierge.Web.Path

/-!
# Addresses on the web

An address is brought into the form in which it is sent: blanks at its ends and line breaks count
for nothing, the host and the path are resolved, and characters that may not stand in a path or a
query are written by their bytes. What follows a number sign is not sent, and neither is a name or a
password before the host.
-/

namespace Concierge

structure Url where
  secure : Bool
  host : Host
  port : Option Nat
  /-- The path and the query. -/
  target : String
deriving DecidableEq, Repr

namespace Url

def encodedInQuery : List Char := [' ', '"', '#', '<', '>', '\'']

def standardPort (secure : Bool) : Nat := if secure then 443 else 80

/-- The port behind a host: none, or a colon and digits, of which there may be none. -/
def port? (cs : List Char) : Option (Option Nat) :=
  match cs with
  | [] => some none
  | ':' :: ds =>
    if !ds.all Text.isDigit || 65535 < Text.digitsValue ds then none
    else some (if ds.isEmpty then none else some (Text.digitsValue ds))
  | _ => none

def afterScheme? (cs : List Char) : Option (Bool × List Char) :=
  let scheme := String.ofList ((cs.takeWhile (· ≠ ':')).map Char.toLower)
  match cs.dropWhile (· ≠ ':') with
  | ':' :: rest =>
    if scheme = "http" then some (false, rest)
    else if scheme = "https" then some (true, rest)
    else none
  | _ => none

def targetOf (cs : List Char) : List Char :=
  Path.sent (cs.takeWhile (· ≠ '?')) ++
    match cs.dropWhile (· ≠ '?') with
    | '?' :: query => '?' :: Percent.encode encodedInQuery query
    | _ => []

/-- The form in which an address is sent; none if it has no scheme for the web or no host. -/
def ofText? (s : String) : Option Url := do
  let edge (c : Char) : Bool := c.toNat ≤ 0x20
  let cs := Text.dropWhileEnd edge (s.toList.dropWhile edge)
  let cs := cs.filter fun c => c ≠ '\t' ∧ c ≠ '\n' ∧ c ≠ '\r'
  let (secure, rest) ← afterScheme? cs
  let rest := (rest.dropWhile Path.isSlash).takeWhile (· ≠ '#')
  let isEnd (c : Char) : Bool := Path.isSlash c || c = '?'
  let place := (rest.takeWhile (!isEnd ·)).reverse.takeWhile (· ≠ '@')
  let (host, behind) ← Host.read? place.reverse
  let port ← port? behind
  return {
    secure := secure
    host := host
    port := if port = some (standardPort secure) then none else port
    target := String.ofList (targetOf (rest.dropWhile (!isEnd ·))) }

/-- The host, with its port if it is not the one that is meant anyway. -/
def authority (u : Url) : String :=
  match u.port with
  | some port => u.host.text ++ ":" ++ toString port
  | none => u.host.text

end Url

end Concierge
