import DriverClasses.Location.Host.Domain
import DriverClasses.Location.Host.Ipv6
import DriverClasses.Location.Syntax

/-!
# Hosts

The host of a `file:` URL is an IPv6 address in brackets or a domain, and a domain that ends in a
number is an IPv4 address.  `Host.text` is its canonical form.
-/

namespace DriverClasses.Location

open DriverClasses.Text

inductive Host where
  | domain (name : List Char)
  | ipv4 (address : Nat)
  | ipv6 (pieces : List Nat)
  deriving DecidableEq, Repr

inductive HostFault where
  | empty
  | domain
  | ipv4
  | ipv6
  deriving DecidableEq, Repr

def HostFault.message : HostFault → String
  | empty => "empty host"
  | domain => "invalid international domain name"
  | ipv4 => "invalid IPv4 address"
  | ipv6 => "invalid IPv6 address"

namespace Host

def text : Host → String
  | domain name => String.ofList name
  | ipv4 address => ipv4Text address
  | ipv6 pieces => ipv6Text pieces

/-- The address between the brackets. -/
def ofBracketed (s : List Char) : Except HostFault Host :=
  if s.getLast? = some ']' then
    match ipv6? s.dropLast with
    | some pieces => .ok (.ipv6 pieces)
    | none => .error .ipv6
  else .error .ipv6

def ofDomain (s : List Char) : Except HostFault Host :=
  match domainToAscii (ofUtf8Lossy (percentDecode s)).toList with
  | none => .error .domain
  | some [] => .error .empty
  | some name =>
    if endsInNumber name then
      match ipv4? name with
      | some address => .ok (.ipv4 address)
      | none => .error .ipv4
    else .ok (.domain name)

def ofText (s : List Char) : Except HostFault Host :=
  match s with
  | '[' :: r => ofBracketed r
  | _ => ofDomain s

end Host

end DriverClasses.Location
