import Lexis.Fault

/-!
# Sources

A resource of bytes that is read in pieces: so many bytes at a position. A read that comes back with
fewer bytes than it asked for means, to those who read, that the resource ends there.

What a source does at its `k`-th read is fixed by its plan: it may copy all it has, copy at most a
number of bytes, or refuse. Every read is noted, the refused ones too, so the notes say how many
reads there were and where.
-/

namespace Lexis

/-- What a source does at one read. -/
inductive Allowance where
  /-- Copy all there is, up to what is asked for. -/
  | full
  /-- Copy at most so many bytes. -/
  | atMost (count : Nat)
  /-- Copy nothing and fail. -/
  | refused (reason : String)
  deriving DecidableEq, Repr

/-- A read that was made. -/
structure ReadNote where
  position : Nat
  asked : Nat
  /-- How many bytes came back, unless the read failed. -/
  returned : Option Nat
  deriving DecidableEq, Repr

/-- A resource of bytes. -/
structure Source where
  bytes : List UInt8
  /-- What happens at each read, by the number of reads before it. -/
  plan : Nat → Allowance
  /-- Why the length cannot be told, if it cannot. -/
  sizeFault : Option String
  /-- The reads so far, the last one first. -/
  notes : List ReadNote

namespace Source

/-- A source that copies all it is asked for. -/
def ofBytes (bytes : List UInt8) : Source :=
  ⟨bytes, fun _ => .full, none, []⟩

def size (s : Source) : Except Fault Nat :=
  match s.sizeFault with
  | some reason => .error (.unreadable reason)
  | none => .ok s.bytes.length

/-- The source after one more read. -/
def noting (s : Source) (note : ReadNote) : Source :=
  { s with notes := note :: s.notes }

/-- Up to `asked` bytes at the position. -/
def read (asked position : Nat) (s : Source) : Except Fault (List UInt8) × Source :=
  match s.plan s.notes.length with
  | .refused reason => (.error (.unreadable reason), s.noting ⟨position, asked, none⟩)
  | .full =>
    let copied := (s.bytes.drop position).take asked
    (.ok copied, s.noting ⟨position, asked, some copied.length⟩)
  | .atMost count =>
    let copied := (s.bytes.drop position).take (min count asked)
    (.ok copied, s.noting ⟨position, asked, some copied.length⟩)

/-- Reads over the front of a buffer: how many bytes were copied, and the buffer afterwards. -/
def readInto (buffer : List UInt8) (position : Nat) (s : Source) :
    Except Fault Nat × List UInt8 × Source :=
  match s.read buffer.length position with
  | (.error fault, s) => (.error fault, buffer, s)
  | (.ok copied, s) => (.ok copied.length, copied ++ buffer.drop copied.length, s)

/-- The reads after the first `known` ones, in the order in which they were made. -/
def notesSince (known : Nat) (s : Source) : List ReadNote :=
  (s.notes.take (s.notes.length - known)).reverse

end Source

end Lexis
