import Lexis.Input.Basic

/-!
# Cursors over data in memory

A byte cursor counts bytes and a text cursor counts characters; both hand out chunks. An item
cursor hands out arbitrary items one at a time and does not fail.
-/

namespace Lexis

open Text

/-- A cursor over bytes. -/
structure ByteCursor where
  bytes : List UInt8
  position : Nat
  deriving DecidableEq, Repr

namespace ByteCursor

def ofBytes (bytes : List UInt8) : ByteCursor := ⟨bytes, 0⟩

instance : Input ByteCursor (List UInt8) where
  size c := .ok c.bytes.length
  position c := c.position
  peek count c := (.ok ((c.bytes.drop c.position).take count), c)
  advance count c := { c with position := c.position + count }

end ByteCursor

/-- The characters of a text from a byte offset on, if a character begins there or the text ends
there. -/
def sliceFrom? : Nat → List Char → Option (List Char)
  | 0, cs => some cs
  | _ + 1, [] => none
  | n + 1, c :: cs => if c.utf8Size ≤ n + 1 then sliceFrom? (n + 1 - c.utf8Size) cs else none

/-- A cursor over characters, which keeps its place in characters and in bytes. -/
structure TextCursor where
  text : List Char
  /-- Length in characters. -/
  size : Nat
  /-- Characters behind the cursor. -/
  position : Nat
  /-- Bytes behind the cursor. -/
  offset : Nat
  deriving DecidableEq, Repr

namespace TextCursor

/-- The cursor before the first character. -/
def ofText (text : List Char) : TextCursor := ⟨text, text.length, 0, 0⟩

/-- The characters at the cursor; none if the offset lies inside a character. -/
def rest (c : TextCursor) : List Char :=
  (sliceFrom? c.offset c.text).getD []

instance : Input TextCursor (List Char) where
  size c := .ok c.size
  position c := c.position
  peek count c := (.ok (c.rest.take count), c)
  advance count c :=
    let passed := c.rest.take count
    { c with position := c.position + passed.length, offset := c.offset + byteLength passed }

end TextCursor

/-- A cursor over items of any kind. -/
structure ItemCursor (α : Type) where
  /-- The items at the cursor. -/
  rest : List α
  /-- How many items there are in all. -/
  size : Nat
  /-- Items behind the cursor. -/
  position : Nat
  deriving DecidableEq, Repr

namespace ItemCursor

variable {α : Type}

def ofList (items : List α) : ItemCursor α := ⟨items, items.length, 0⟩

/-- The item at the cursor. -/
def peek (c : ItemCursor α) : Option α := c.rest.head?

/-- The item at the cursor; the cursor moves past it. -/
def next (c : ItemCursor α) : Option α × ItemCursor α :=
  match c.rest with
  | [] => (none, c)
  | item :: rest => (some item, { c with rest := rest, position := c.position + 1 })

/-- Moves the cursor past one item, and tells whether there was one. -/
def skip (c : ItemCursor α) : Bool × ItemCursor α :=
  (c.next.1.isSome, c.next.2)

end ItemCursor

end Lexis
