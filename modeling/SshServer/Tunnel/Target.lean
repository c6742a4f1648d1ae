import SshServer.Bytes
import SshServer.Failure

/-!
Contract: the target of a tunnel as a stream in both directions.

Owns: what a target can be asked for, and pipes in memory as targets.
Does not own: the relaying (`Tunnel.Relay`).
-/

namespace SshServer

inductive StreamAnswer (α : Type) where
  | ready (value : α)
  | failed (cause : IoFailure)
  | pending

/-- The operations of a kind of target. -/
structure TargetOps (σ : Type) where
  /-- Reads at most so many bytes. No bytes at all mean the end of the stream. -/
  read : Nat → σ → σ × StreamAnswer ByteArray
  /-- Writes bytes from a position on, and says how many it took. -/
  write : ByteArray → Nat → σ → σ × StreamAnswer Nat
  shutdown : σ → σ × StreamAnswer Unit
  drop : σ → σ

/-- One direction of a pipe in memory. -/
structure Pipe where
  capacity : Nat
  content : ByteArray := ByteArray.empty
  closed : Bool := false
deriving DecidableEq

namespace Pipe

/-- Takes at most so many bytes. What was written can be read after the end of writing. -/
def read (pipe : Pipe) (count : Nat) : Pipe × StreamAnswer ByteArray :=
  if pipe.content.size = 0 then
    (pipe, if pipe.closed then .ready ByteArray.empty else .pending)
  else
    ({ pipe with content := pipe.content.extract count pipe.content.size },
      .ready (pipe.content.extract 0 count))

/-- Puts in the bytes from a position on, as many as fit. -/
def write (pipe : Pipe) (source : ByteArray) (start : Nat) : Pipe × StreamAnswer Nat :=
  if pipe.closed then (pipe, .failed (.bare .brokenPipe))
  else
    let count := min (source.size - start) (pipe.capacity - pipe.content.size)
    if count = 0 then (pipe, .pending)
    else
      ({ pipe with content := pipe.content ++ source.extract start (start + count) },
        .ready count)

def close (pipe : Pipe) : Pipe :=
  { pipe with closed := true }

end Pipe

/-- A pair of pipes between a near and a far end. -/
structure PipePair where
  outward : Pipe
  inward : Pipe
deriving DecidableEq

namespace PipePair

def ofCapacity (capacity : Nat) : PipePair :=
  ⟨{ capacity }, { capacity }⟩

/-- An end that is dropped closes both directions; what is under way to the other end stays. -/
def close (pair : PipePair) : PipePair :=
  ⟨pair.outward.close, pair.inward.close⟩

def near : TargetOps PipePair where
  read count pair :=
    let (inward, answer) := pair.inward.read count
    ({ pair with inward }, answer)
  write source start pair :=
    let (outward, answer) := pair.outward.write source start
    ({ pair with outward }, answer)
  shutdown pair := ({ pair with outward := pair.outward.close }, .ready ())
  drop := close

end PipePair

end SshServer
