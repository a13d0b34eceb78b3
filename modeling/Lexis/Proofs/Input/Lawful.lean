import Lexis.Input.Basic
import Lexis.Proofs.Text.Utf8
import Lexis.Source

/-!
# Lawful chunks and inputs

A chunk has at least as many units as any part of its text takes. An input that has handed out a
chunk holds it: a request for no more of it is answered at once and leaves the input as it is. So a
part of a chunk can be skipped without fail.

Principal results:

* `LawfulChunk`, `MeasuredText` — both kinds of chunks are lawful;
* `Input.skip_of_holds` — skipping what is held;
* `LawfulInput` — what an input promises about the chunks it has handed out.
-/

namespace Lexis

open Text

/-- The parts of the text of a chunk fit into the chunk. -/
class LawfulChunk (κ : Type) [Chunk κ] : Prop where
  units_le : ∀ (chunk : κ) (cs : List Char), cs.Sublist (Chunk.text chunk).1 →
    unitsIn κ cs ≤ Chunk.units chunk
  unitsIn_append : ∀ as bs : List Char, unitsIn κ (as ++ bs) = unitsIn κ as + unitsIn κ bs

instance : LawfulChunk (List UInt8) where
  units_le bytes cs h := by
    show byteLength cs ≤ bytes.length
    have hdecoded := (encode_decode_isPrefix bytes).length_le
    rw [length_encode] at hdecoded
    exact Nat.le_trans (measure_le_of_sublist byteLength_append h) hdecoded
  unitsIn_append := byteLength_append

instance : LawfulChunk (List Char) where
  units_le _ _ h := h.length_le
  unitsIn_append _ _ := List.length_append

theorem unitsIn_append (κ : Type) [Chunk κ] [LawfulChunk κ] (as bs : List Char) :
    unitsIn κ (as ++ bs) = unitsIn κ as + unitsIn κ bs :=
  LawfulChunk.unitsIn_append as bs

/-- A text takes no units only if it is empty, and never more of them than bytes. -/
class MeasuredText (κ : Type) [Chunk κ] : Prop where
  unitsIn_eq_zero : ∀ cs, unitsIn κ cs = 0 ↔ cs = []
  unitsIn_le : ∀ cs, unitsIn κ cs ≤ byteLength cs

instance : MeasuredText (List UInt8) where
  unitsIn_eq_zero cs := by
    constructor
    · exact byteLength_eq_zero
    · rintro rfl
      rfl
  unitsIn_le _ := Nat.le_refl _

instance : MeasuredText (List Char) where
  unitsIn_eq_zero _ := List.length_eq_zero_iff
  unitsIn_le := length_le_byteLength

/-- The source behind an input, if it has one. -/
class Sourced (ι : Type) where
  source? : ι → Option Source

namespace Input

variable {ι κ : Type} [Chunk κ] [Input ι κ]

/-- The input answers a request for so many units at once, and in full. -/
def Holds (count : Nat) (i : ι) : Prop :=
  ∃ chunk : κ, peek count i = (.ok chunk, i) ∧ Chunk.units chunk = count

theorem skip_of_holds {count : Nat} {i : ι} (h : Holds count i) :
    skip count i = (.ok count, advance count i) := by
  obtain ⟨chunk, hpeek, hunits⟩ := h
  unfold skip
  rw [hpeek]
  dsimp only
  rw [hunits]

end Input

/-- An input that holds the chunks it has handed out, and moves without its source. -/
class LawfulInput (ι : Type) {κ : outParam Type} [Chunk κ] [Input ι κ] [Sourced ι] : Prop where
  holds_of_peek : ∀ {count : Nat} {i i' : ι} {chunk : κ}, Input.peek count i = (.ok chunk, i') →
    ∀ m ≤ Chunk.units chunk, Input.Holds m i'
  source_advance : ∀ (count : Nat) (i : ι),
    Sourced.source? (Input.advance count i) = Sourced.source? i

end Lexis
