import Kmip.Encoding

/-!
# Sinks of bytes

Where encoded items go. A sink may have room for a number of bytes only; a write that needs more
leaves what fits and fails. Encoding comes before writing, so an item without an encoding leaves
nothing.
-/

namespace Kmip

/-- Bytes that have been written. -/
structure Sink where
  written : Bytes
  /-- How many more bytes the sink takes; no bound when there is none. -/
  room : Option Nat
  /-- How a write fails that finds no room. -/
  breakdown : Breakdown
deriving DecidableEq, Repr

namespace Sink

/-- A sink that holds nothing and takes everything. -/
def empty : Sink := ⟨[], none, ⟨.other, ""⟩⟩

/-- A sink that holds nothing and takes so many bytes. -/
def limited (room : Nat) (breakdown : Breakdown) : Sink := ⟨[], some room, breakdown⟩

end Sink

/-- A step of a writer, which may fail, and leaves a sink in either case. -/
abbrev Write := EStateM Fault Sink Unit

namespace Write

/-- Writes bytes, as many as there is room for. -/
def bytes (bytes : Bytes) : Write := fun sink =>
  match sink.room with
  | none => .ok () { sink with written := sink.written ++ bytes }
  | some room =>
    let next := { sink with
      written := sink.written ++ bytes.take room, room := some (room - bytes.length) }
    if bytes.length ≤ room then .ok () next else .error sink.breakdown.fault next

/-- Writes an encoded item. -/
def item : Encoded → Write
  | .ok encoded => bytes encoded
  | .error fault => throw fault

/-- Writes encoded items one after the other, up to the first that is refused. -/
def each : List Encoded → Write
  | [] => pure ()
  | first :: rest => do
    item first
    each rest

end Write

end Kmip
