import AccessStream.Text.Utf8

/-!
# Sinks

A sink takes bytes until its room is used up, and flushes them when told to. Either can fail: a
write that does not fit takes what fits and fails, and a flush fails if it is the one that is bound
to. A sink remembers the bytes that it took and every flush that it was told.
-/

namespace AccessStream

/-- A flush that a sink was told. -/
structure FlushCall where
  /-- How many bytes the sink had taken. -/
  position : Nat
  /-- Whether the flush succeeded. -/
  succeeded : Bool
  deriving DecidableEq, Repr

/-- A receiver of bytes. -/
structure Sink where
  /-- The number of bytes that it takes in all, if there is a limit. -/
  room : Option Nat := none
  /-- Which of its flushes fails, counted from one, if one does. -/
  failingFlush : Option Nat := none
  /-- The bytes that it took. -/
  taken : Array UInt8 := #[]
  /-- The flushes that it was told, in order. -/
  flushes : Array FlushCall := #[]
  deriving DecidableEq, Repr

namespace Sink

/-- How many of some further bytes a sink takes. -/
def fitting (sink : Sink) (count : Nat) : Nat :=
  match sink.room with
  | none => count
  | some room => min count (room - sink.taken.size)

/-- A sink after a write, and whether it took all bytes. -/
def write (sink : Sink) (bytes : Bytes) : Bool × Sink :=
  let count := sink.fitting bytes.length
  (count == bytes.length, { sink with taken := sink.taken ++ bytes.take count })

/-- A sink after a flush, and whether the flush succeeded. -/
def flush (sink : Sink) : Bool × Sink :=
  let succeeded := sink.failingFlush ≠ some (sink.flushes.size + 1)
  (succeeded, { sink with flushes := sink.flushes.push ⟨sink.taken.size, succeeded⟩ })

/-- How many bytes a sink had taken at each flush that succeeded. -/
def flushedAt (sink : Sink) : List Nat :=
  (sink.flushes.toList.filter (·.succeeded)).map (·.position)

/-- A sink whose writes and flushes all succeed. -/
def IsSound (sink : Sink) : Prop := sink.room = none ∧ sink.failingFlush = none

theorem write_of_isSound {sink : Sink} (h : sink.IsSound) (bytes : Bytes) :
    sink.write bytes = (true, { sink with taken := sink.taken ++ bytes }) := by
  simp [write, fitting, h.1]

theorem flush_of_isSound {sink : Sink} (h : sink.IsSound) :
    sink.flush = (true, { sink with flushes := sink.flushes.push ⟨sink.taken.size, true⟩ }) := by
  simp [flush, h.2]

end Sink

end AccessStream
