import PictureTransfer.Error
import PictureTransfer.Link.Host

/-!
# Addresses

An address is a host, a colon and a port.  The last colon counts, so a host
may hold colons of its own.
-/

namespace PictureTransfer

/-- A host and a port to connect to. -/
structure Address where
  host : String
  port : UInt16
  deriving DecidableEq, Repr

namespace Address

/-- What is wrong with the text of an address. -/
inductive Flaw where
  | noColon
  | badPort
  deriving DecidableEq, Repr

/-- The text of a flaw. -/
def Flaw.message : Flaw → String
  | noColon => "invalid socket address"
  | badPort => "invalid port value"

/-- The port that a text writes. -/
def port? (text : List Char) : Option UInt16 :=
  ((Numeral.natural? 10 text).bind (Numeral.below UInt16.size)).map UInt16.ofNat

/-- The characters behind the last colon and those in front of it, both in
reverse, of a text in reverse. -/
def splitReversed (text : List Char) : Option (List Char × List Char) :=
  match text.dropWhile (· ≠ ':') with
  | [] => none
  | _ :: host => some (text.takeWhile (· ≠ ':'), host)

/-- The host and the port of an address. -/
def split (text : String) : Except Flaw Address :=
  match splitReversed text.toList.reverse with
  | none => .error .noColon
  | some (port, host) =>
      match port? port.reverse with
      | some port => .ok ⟨String.ofList host.reverse, port⟩
      | none => .error .badPort

end Address

/-- What the initiator's calls for a connection come to. -/
inductive Network where
  /-- The machine has no network, so nothing can be reached. -/
  | unreachable
  /-- A responder takes every call. -/
  | reachable
  deriving DecidableEq, Repr

/-- Why no connection comes about on a machine that has no network. -/
inductive Impasse where
  | noRoute
  /-- The machine has no address of its own to call from. -/
  | noSource
  /-- The number means nothing without a zone. -/
  | noZone
  /-- Nobody is there to ask for the name. -/
  | nobodyToAsk
  /-- The name cannot be asked for. -/
  | unknownName
  | zeroInName
  deriving DecidableEq, Repr

namespace Impasse

/-- What the system says of an impasse. -/
def message : Impasse → String
  | noRoute => "Network is unreachable (os error 101)"
  | noSource => "Cannot assign requested address (os error 99)"
  | noZone => "Invalid argument (os error 22)"
  | nobodyToAsk => "failed to lookup address information: Temporary failure in name resolution"
  | unknownName => "failed to lookup address information: Name or service not known"
  | zeroInName => "file name contained an unexpected NUL byte"

/-- The impasse that a call to a host ends in. -/
def ofHost : Host → Impasse
  | .short _ => noRoute
  | .long words zone =>
      if Host.isMulticast words || Host.isMapped words then noRoute
      else if Host.isLinkLocal words && zone = 0 then noZone
      else noSource
  | .name text =>
      if '\x00' ∈ text then zeroInName
      else if Host.isOwnName text then noRoute
      else if Host.isAskable text then nobodyToAsk
      else unknownName

end Impasse

namespace Network

/-- Why an address cannot be connected to, if it cannot. -/
def refusal (network : Network) (address : String) : Option LinkError :=
  match Address.split address, network with
  | .error flaw, _ => some (.connect address flaw.message)
  | .ok found, unreachable =>
      some (.connect address (Impasse.ofHost (.ofText found.host.toList)).message)
  | .ok _, reachable => none

end Network

end PictureTransfer
