import Lexis.Text.Utf8

/-!
# Chunks

A piece of input that patterns can be matched against. It is measured in the units of its input,
bytes or characters, and holds a text: for characters all of it, for bytes the longest text that
they begin with.
-/

namespace Lexis

open Text

/-- A piece of input with a text in it. -/
class Chunk (κ : Type) where
  /-- Length in units. -/
  units : κ → Nat
  /-- The longest text that the chunk begins with, and why it ends where it does. -/
  text : κ → List Char × Ending
  /-- How many units a text takes. -/
  unitsIn : List Char → Nat

/-- How many units of chunks of the kind `κ` a text takes. -/
def unitsIn (κ : Type) [Chunk κ] (text : List Char) : Nat :=
  @Chunk.unitsIn κ _ text

/-- Bytes: their text is what they decode to. -/
instance : Chunk (List UInt8) where
  units bytes := bytes.length
  text := decode
  unitsIn := byteLength

/-- Characters: all of them are text. -/
instance : Chunk (List Char) where
  units chars := chars.length
  text chars := (chars, .complete)
  unitsIn chars := chars.length

/-- The text of a chunk that begins at `base`, and the position of the bytes after it that will
never be text, if there are such. A character cut off by the end of the chunk is one of them only
where the input ends with the chunk. -/
def windowText {κ : Type} [Chunk κ] (chunk : κ) (base : Nat) (atEnd : Bool) :
    List Char × Option Nat :=
  let (text, ending) := Chunk.text chunk
  match ending with
  | .complete => (text, none)
  | .split => (text, if atEnd then some (base + byteLength text) else none)
  | .invalid => (text, some (base + byteLength text))

end Lexis
