/-!
# UTF-8

Characters as bytes and back. Decoding stops at the first byte that no valid text can have at its
place, so it gives the longest text that the bytes begin with, and says why it ends there:

* `complete` — all bytes are read;
* `split` — the bytes end inside a character that further bytes could complete;
* `invalid` — the next byte continues no valid text.

The reader is an automaton over single bytes. Its state is the character being read, if any: the
bits so far, the interval in which the next byte has to lie, and how many bytes follow that one.
The intervals after a lead byte leave out overlong forms, surrogates and numbers above U+10FFFF.
-/

namespace Lexis.Text

/-- Number of bytes that encode the characters. -/
def byteLength : List Char → Nat
  | [] => 0
  | c :: cs => c.utf8Size + byteLength cs

@[simp] theorem byteLength_nil : byteLength [] = 0 := rfl

@[simp] theorem byteLength_cons (c : Char) (cs : List Char) :
    byteLength (c :: cs) = c.utf8Size + byteLength cs := rfl

@[simp] theorem byteLength_append (as bs : List Char) :
    byteLength (as ++ bs) = byteLength as + byteLength bs := by
  induction as with
  | nil => simp
  | cons a as ih => simp [ih, Nat.add_assoc]

/-- The bytes of the characters. -/
def encode (cs : List Char) : List UInt8 :=
  cs.flatMap String.utf8EncodeChar

/-- Why decoding ends where it does. -/
inductive Ending where
  | complete
  | split
  | invalid
  deriving DecidableEq, Repr

/-- A character of which some bytes are read. -/
structure Unfinished where
  /-- The bits read so far. -/
  bits : Nat
  /-- The least next byte. -/
  low : Nat
  /-- The greatest next byte. -/
  high : Nat
  /-- How many bytes follow the next one. -/
  after : Nat
  deriving DecidableEq, Repr

/-- What the first byte of a character says about it. -/
inductive Lead where
  | whole (c : Char)
  | opens (u : Unfinished)
  | stray
  deriving DecidableEq, Repr

/-- The class of a byte at the start of a character. -/
def lead (byte : UInt8) : Lead :=
  let b := byte.toNat
  if b < 0x80 then .whole (Char.ofNat b)
  else if b < 0xC2 then .stray
  else if b < 0xE0 then .opens ⟨b - 0xC0, 0x80, 0xBF, 0⟩
  else if b = 0xE0 then .opens ⟨0, 0xA0, 0xBF, 1⟩
  else if b = 0xED then .opens ⟨13, 0x80, 0x9F, 1⟩
  else if b < 0xF0 then .opens ⟨b - 0xE0, 0x80, 0xBF, 1⟩
  else if b = 0xF0 then .opens ⟨0, 0x90, 0xBF, 2⟩
  else if b < 0xF4 then .opens ⟨b - 0xF0, 0x80, 0xBF, 2⟩
  else if b = 0xF4 then .opens ⟨4, 0x80, 0x8F, 2⟩
  else .stray

/-- The longest text that the bytes begin with, read from inside the character given, and why it
ends where it does. -/
def decodeFrom : Option Unfinished → List UInt8 → List Char × Ending
  | none, [] => ([], .complete)
  | some _, [] => ([], .split)
  | none, b :: bs =>
    match lead b with
    | .whole c =>
      let (text, ending) := decodeFrom none bs
      (c :: text, ending)
    | .opens u => decodeFrom (some u) bs
    | .stray => ([], .invalid)
  | some u, b :: bs =>
    if u.low ≤ b.toNat ∧ b.toNat ≤ u.high then
      let bits := u.bits * 64 + b.toNat % 64
      match u.after with
      | 0 =>
        let (text, ending) := decodeFrom none bs
        (Char.ofNat bits :: text, ending)
      | n + 1 => decodeFrom (some ⟨bits, 0x80, 0xBF, n⟩) bs
    else ([], .invalid)

/-- The longest text that the bytes begin with, and why it ends where it does. -/
def decode (bytes : List UInt8) : List Char × Ending :=
  decodeFrom none bytes

/-- Whether a byte is the second or a later one of its character. -/
def isContinuation (b : UInt8) : Bool :=
  0x80 ≤ b.toNat && b.toNat < 0xC0

end Lexis.Text
