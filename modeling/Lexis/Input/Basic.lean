import Lexis.Chunk
import Lexis.Fault

/-!
# Inputs

A cursor into a resource that hands out chunks of it. `peek` leaves the cursor where it is; `next`
and `skip` move it past what `peek` would have given, which is less than asked for only at the end.
-/

namespace Lexis

/-- A cursor that hands out chunks. -/
class Input (ι : Type) (κ : outParam Type) where
  /-- The length of the resource. -/
  size : ι → Except Fault Nat
  /-- How many units are behind the cursor. -/
  position : ι → Nat
  /-- Up to so many units at the cursor. -/
  peek : Nat → ι → Except Fault κ × ι
  /-- The cursor so many units on, all of them peeked before. -/
  advance : Nat → ι → ι

namespace Input

variable {ι κ : Type} [Chunk κ] [Input ι κ]

/-- Up to so many units; the cursor moves past them. -/
def next (count : Nat) (input : ι) : Except Fault κ × ι :=
  match peek count input with
  | (.error fault, input) => (.error fault, input)
  | (.ok chunk, input) => (.ok chunk, advance (Chunk.units chunk) input)

/-- Moves the cursor by up to so many units, and tells how many they were. -/
def skip (count : Nat) (input : ι) : Except Fault Nat × ι :=
  match peek count input with
  | (.error fault, input) => (.error fault, input)
  | (.ok chunk, input) => (.ok (Chunk.units chunk), advance (Chunk.units chunk) input)

end Input

end Lexis
