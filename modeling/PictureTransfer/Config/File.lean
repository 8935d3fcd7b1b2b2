import PictureTransfer.Config.Basic
import PictureTransfer.Toml.Document

/-!
# Configuration files

A configuration is kept in a settings file, one setting a line.  Settings that
a file lacks have their default values, and settings that no configuration has
are passed over; a setting of the wrong type or out of its range makes the
whole file unusable.

* `render?_isSome_iff` — just the configurations whose numbers fit the format
  can be written.
-/

namespace PictureTransfer

/-- The content of each file that can be read. -/
abbrev Files := String → Option Bytes

/-- The files after one of them was written. -/
def Files.write (files : Files) (path : String) (content : Bytes) : Files := fun other =>
  if other = path then some content else files other

namespace Config

open Toml

/-- The value of a setting, or its default. -/
def setting {α : Type} (entries : Entries) (key : String) (default : α)
    (read : Value → Option α) : Option α :=
  match entries.get? key with
  | some value => read value
  | none => some default

/-- A text. -/
def readText : Value → Option String
  | .text text => some text
  | _ => none

/-- A number below a limit. -/
def readNatural (limit : Nat) : Value → Option Nat
  | .integer n => if 0 ≤ n ∧ n.toNat < limit then some n.toNat else none
  | _ => none

/-- An identifier, written as text. -/
def readGuid (value : Value) : Option Guid := readText value >>= Guid.ofText?

/-- The configuration that the entries of a file describe. -/
def ofEntries (entries : Entries) : Option Config := do
  let c : Config := {}
  let host ← setting entries "host" c.host readText
  let port ← setting entries "port" c.port fun v =>
    (readNatural UInt16.size v).map UInt16.ofNat
  let guid ← setting entries "guid" c.guid readGuid
  let name ← setting entries "name" c.name readText
  let protocolVersion ← setting entries "protocol_version" c.protocolVersion fun v =>
    (readNatural UInt32.size v).map UInt32.ofNat
  let connectTimeoutMs ← setting entries "connect_timeout_ms" c.connectTimeoutMs fun v =>
    (readNatural UInt64.size v).map UInt64.ofNat
  let eventQueueDepth ← setting entries "event_queue_depth" c.eventQueueDepth fun v =>
    (readNatural UInt64.size v).map UInt64.ofNat
  pure ⟨host, port, guid, name, protocolVersion, connectTimeoutMs, eventQueueDepth⟩

/-- The configuration that a text describes. -/
def ofText? (text : String) : Option Config := do
  ofEntries (← Document.read text.toList)

/-- The configuration that the bytes of a file describe. -/
def ofBytes? (bytes : Bytes) : Option Config := do
  ofText? (← String.fromUTF8? ⟨bytes.toArray⟩)

/-- Reads the configuration that a file holds. -/
def load (path : String) (files : Files) : Option Config := files path >>= ofBytes?

/-- A line that gives a setting a value. -/
def line (key : String) (value : List Char) : List Char :=
  key.toList ++ " = ".toList ++ value ++ ['\n']

/-- A line that gives a setting a text. -/
def textLine (key text : String) : List Char := line key (Text.write text.toList)

/-- A line that gives a setting a number. -/
def numberLine (key : String) (n : Nat) : List Char := line key (toString n).toList

/-- True when the format has room for the numbers of a configuration. -/
def isWritable (c : Config) : Bool :=
  Number.inRange c.connectTimeoutMs.toNat && Number.inRange c.eventQueueDepth.toNat

/-- The text that describes a configuration. -/
def render (c : Config) : String :=
  String.ofList <|
    textLine "host" c.host ++ numberLine "port" c.port.toNat ++ textLine "guid" c.guid.text ++
      textLine "name" c.name ++ numberLine "protocol_version" c.protocolVersion.toNat ++
      numberLine "connect_timeout_ms" c.connectTimeoutMs.toNat ++
      numberLine "event_queue_depth" c.eventQueueDepth.toNat

/-- The text that describes a configuration, if the format has room for it. -/
def render? (c : Config) : Option String := if c.isWritable then some c.render else none

/-- Writes a file that holds the configuration.  The text comes first: without it no file is
touched. -/
def save (c : Config) (path : String) : OptionT (StateM Files) Unit := do
  let text ← OptionT.mk (pure c.render?)
  modify fun files => files.write path text.toUTF8.data.toList

theorem render?_isSome_iff (c : Config) :
    c.render?.isSome ↔
      c.connectTimeoutMs < 0x8000000000000000 ∧ c.eventQueueDepth < 0x8000000000000000 := by
  have hfits (n : UInt64) : Number.inRange n.toNat ↔ n < 0x8000000000000000 := by
    have hword : n < 0x8000000000000000 ↔ n.toNat < 0x8000000000000000 := UInt64.lt_iff_toNat_lt
    rw [hword, Number.inRange, Number.bound, Bool.and_eq_true, decide_eq_true_iff,
      decide_eq_true_iff]
    omega
  rw [← hfits, ← hfits, render?, isWritable]
  split <;> simp_all

end Config

end PictureTransfer
