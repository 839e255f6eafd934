/-
This file holds the addresses that services listen on and clients connect to: a host, and behind the
last colon the number of the service on it.
-/

import ApplicationLedger.Number.Decimal
import ApplicationLedger.FileTree
import ApplicationLedger.Text.Split

namespace ApplicationLedger

/-- Why a text is no address that can be used. -/
inductive AddressFault where
  /-- There is no colon. -/
  | incomplete
  /-- What stands behind the last colon is no number of a service. -/
  | badNumber
  /-- Nothing is known of the name of the host. -/
  | unknownHost
  deriving DecidableEq, Repr

/-- The fault in words. -/
def AddressFault.message : AddressFault → String
  | incomplete => "invalid socket address"
  | badNumber => "invalid port value"
  | unknownHost =>
    "failed to lookup address information: Temporary failure in name resolution"

/-- Where a service listens. -/
structure Address where
  /-- The four numbers of the host, or nothing if it has another form. -/
  host : Option (List Nat)
  service : Nat
  deriving DecidableEq, Repr

namespace Address

/-- A number up to a greatest one, in decimal digits alone. -/
def decimal? (greatest : Nat) (digits : List Char) : Option Nat :=
  if !digits.isEmpty && digits.all Char.isDigit && digitsValue digits ≤ greatest then
    some (digitsValue digits)
  else none

/-- The parts of a text between dots. -/
def dotted : List Char → List (List Char)
  | [] => [[]]
  | c :: rest =>
    match dotted rest with
    | [] => [[c]]
    | part :: parts => if c = '.' then [] :: part :: parts else (c :: part) :: parts

/-- The four numbers of a host. -/
def numbers? (host : List Char) : Option (List Nat) := do
  let numbers ← (dotted host).mapM (decimal? 255)
  if numbers.length = 4 then some numbers else none

/-- The number of a service. A plus may stand before it. -/
def service? : List Char → Option Nat
  | '+' :: digits => decimal? 65535 digits
  | digits => decimal? 65535 digits

/-- Whether a host is known without asking anyone: this machine by its name, or an address of the
longer form between brackets. -/
def isKnown (host : List Char) : Bool :=
  host == "localhost".toList || (host.head? == some '[' && host.getLast? == some ']')

/-- The address that a text writes. -/
def ofText (text : String) : Except AddressFault Address :=
  match Text.splitLast? (· == ':') text.toList with
  | none => .error .incomplete
  | some (host, service) =>
    match service? service, numbers? host with
    | none, _ => .error .badNumber
    | some service, some numbers => .ok ⟨some numbers, service⟩
    | some service, none =>
      if isKnown host then .ok ⟨none, service⟩ else .error .unknownHost

/-- Whether a service of this machine can listen there: on all its addresses, or on one that leads
back to it. -/
def isLocal (a : Address) : Bool :=
  match a.host with
  | some (first :: rest) => first = 127 || (first :: rest).all (· = 0)
  | some [] => false
  | none => true

/-- Whether a service can listen at a written address. -/
def canListen (text : String) : Bool := (ofText text).toOption.any isLocal

/-- Why no service can be reached at a written address when the network fails so. -/
def unreachable (fault : SystemFault) (text : String) : String :=
  match ofText text with
  | .ok _ => fault.message
  | .error fault => fault.message

end Address

end ApplicationLedger
