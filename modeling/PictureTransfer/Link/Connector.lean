import PictureTransfer.Config.Basic
import PictureTransfer.Link.Address

/-!
# Calling for a connection

A connector has the text of an address, and perhaps a limit of time.  The text
is taken apart, the host is looked up, and the places that it stands for are
tried in order until one answers.  What the system does for that is given
(`Sockets`), as steps of any kind: what it answers may depend on anything that
it keeps, and on what it was asked before.  What it has to say itself is a
`Setback`; that a text is no address is found before it is asked.

* `connect_of_split` — an address is looked up, and what goes wrong then is a
  setback;
* `Network.refusal_eq_connect` — calls on a machine without network, and to a
  responder that takes them all.
-/

namespace PictureTransfer

/-- What the system does for calls. -/
structure Sockets (m : Type → Type) (Place Stream : Type) where
  /-- Finds the places that a host and a port stand for.  A host may be a number
  already, in brackets or not. -/
  lookUp : Address → m (Except String (List Place))
  /-- Connects to a place, within so many milliseconds if there is a limit. -/
  dial : Option UInt64 → Place → m (Except String Stream)
  /-- Has small messages go out at once. -/
  hasten : Stream → m (Except Fault Unit)

/-- What the system has against a call. -/
inductive Setback where
  /-- The host is not found, or the last of its places does not answer. -/
  | refused (text : String)
  /-- The host stands for no place. -/
  | nowhere
  | io (fault : Fault)
  deriving DecidableEq, Repr

/-- Why a call is in vain. -/
inductive CallFailure where
  | flaw (flaw : Address.Flaw)
  | setback (setback : Setback)
  deriving DecidableEq, Repr

/-- A failed call to an address as an error of its connection. -/
def CallFailure.toLinkError (address : String) : CallFailure → LinkError
  | .flaw cause => .connect address cause.message
  | .setback (.refused text) => .connect address text
  | .setback .nowhere => .unresolved address
  | .setback (.io fault) => .io fault

/-- Where to call, and how long to wait for each place. -/
structure Connector where
  address : String
  timeout : Option UInt64 := none
  deriving DecidableEq, Repr

/-- The connector of a configuration. -/
def Config.connector (c : Config) : Connector := ⟨c.address, c.connectTimeout⟩

theorem Config.connector_address (c : Config) : c.connector.address = c.address := rfl

theorem Config.connector_timeout (c : Config) : c.connector.timeout = c.connectTimeout := rfl

namespace Sockets

variable {m : Type → Type} [Monad m] {Place Stream : Type}

/-- Tries places in order.  If none answers, what the last one said counts, or
what was said before if there is none. -/
def tryAll (sockets : Sockets m Place Stream) (timeout : Option UInt64) (said : Option String) :
    List Place → m (Except Setback Stream)
  | [] =>
      match said with
      | some text => pure (.error (.refused text))
      | none => pure (.error .nowhere)
  | place :: more => do
      match ← sockets.dial timeout place with
      | .error text => sockets.tryAll timeout (some text) more
      | .ok stream =>
          match ← sockets.hasten stream with
          | .error fault => pure (.error (.io fault))
          | .ok () => pure (.ok stream)

/-- Calls a host. -/
def reach (sockets : Sockets m Place Stream) (timeout : Option UInt64) (address : Address) :
    m (Except Setback Stream) := do
  match ← sockets.lookUp address with
  | .error text => pure (.error (.refused text))
  | .ok places => sockets.tryAll timeout none places

end Sockets

namespace Connector

variable {m : Type → Type} [Monad m] {Place Stream : Type}

/-- Calls for a connection. -/
def connect (sockets : Sockets m Place Stream) (connector : Connector) :
    m (Except CallFailure Stream) :=
  match Address.split connector.address with
  | .error flaw => pure (.error (.flaw flaw))
  | .ok address => do
      return (← sockets.reach connector.timeout address).mapError .setback

theorem connect_of_split {connector : Connector} {address : Address}
    (h : Address.split connector.address = .ok address) (sockets : Sockets m Place Stream) :
    connector.connect sockets =
      (do return (← sockets.reach connector.timeout address).mapError .setback) := by
  rw [connect, h]

end Connector

/-- True for hosts that nobody has to be asked for. -/
def Host.isKnown : Host → Bool
  | short _ | long .. => true
  | name text => isOwnName text

namespace Network

/-- What the system does for calls on a network.  Each host stands for the one
place that it is. -/
def sockets : Network → Sockets Id Host Unit
  | unreachable =>
      { lookUp := fun address =>
          let host := Host.ofText address.host.toList
          if host.isKnown then .ok [host] else .error (Impasse.ofHost host).message
        dial := fun _ host => .error (Impasse.ofHost host).message
        hasten := fun _ => .ok () }
  | reachable =>
      { lookUp := fun address => .ok [Host.ofText address.host.toList]
        dial := fun _ _ => .ok ()
        hasten := fun _ => .ok () }

/-- **What a connector makes of a network.** -/
theorem refusal_eq_connect (network : Network) (connector : Connector) :
    network.refusal connector.address =
      match Id.run (connector.connect network.sockets) with
      | .ok () => none
      | .error failure => some (failure.toLinkError connector.address) := by
  unfold refusal Connector.connect
  cases Address.split connector.address with
  | error flaw => cases network <;> rfl
  | ok address =>
      cases network with
      | reachable => rfl
      | unreachable =>
          -- The same is said of a host when it is looked up and when it is dialled.
          simp only [sockets, Sockets.reach]
          cases (Host.ofText address.host.toList).isKnown <;> rfl

/-- What a network has against a call is an impasse. -/
theorem setback_of_reach {network : Network} {timeout : Option UInt64} {address : Address}
    {setback : Setback} (h : Id.run (network.sockets.reach timeout address) = .error setback) :
    ∃ impasse : Impasse, setback = .refused impasse.message := by
  cases network with
  | reachable =>
      have hreached : Except.ok () = Except.error setback := h
      simp at hreached
  | unreachable =>
      refine ⟨Impasse.ofHost (Host.ofText address.host.toList), ?_⟩
      simp only [sockets, Sockets.reach] at h
      cases hknown : (Host.ofText address.host.toList).isKnown with
      | true =>
          rw [hknown] at h
          exact (Except.error.inj h).symm
      | false =>
          rw [hknown] at h
          exact (Except.error.inj h).symm

end Network

end PictureTransfer
