import Lexis.Input.Basic
import Lexis.Source

/-!
# Inputs that fetch blocks

Both inputs keep the bytes that are fetched from a source and not yet consumed. A request for more
than these fetches whole blocks, each at the position where the last one ended, until the request is
covered or a block comes back short, which marks the end of the source.

* `BufferedBytes` counts bytes. Its position is what is fetched less what is still held.
* `BufferedText` counts characters. Bytes that are no valid text are a fault only once a request
  reaches them; a character cut off by the end of a block waits for the next block.

Fetching is bounded: a block that is not short brings at least one new byte, so one block more than
there are bytes left always is enough.
-/

namespace Lexis

open Text

/-- The bytes fetched from a source and not yet consumed. -/
structure Blocks where
  source : Source
  blockSize : Nat
  held : List UInt8
  /-- Position of the next byte to fetch. -/
  fetched : Nat

/-- How fetching goes on after a block. -/
inductive Fetched where
  | full
  | short
  deriving DecidableEq, Repr

namespace Blocks

/-- Nothing fetched yet; a block has at least one byte. -/
def ofSource (source : Source) (blockSize : Nat) : Blocks :=
  ⟨source, max blockSize 1, [], 0⟩

/-- Fetches one block. -/
def fetch (b : Blocks) : Except Fault Fetched × Blocks :=
  match b.source.read b.blockSize b.fetched with
  | (.error fault, source) => (.error fault, { b with source := source })
  | (.ok block, source) =>
    (.ok (if block.length < b.blockSize then .short else .full),
      { b with
        source := source
        held := b.held ++ block
        fetched := b.fetched + block.length })

/-- A bound on the blocks that can still be fetched until one is short. -/
def fetchesLeft (b : Blocks) : Nat :=
  b.source.bytes.length - b.fetched + 1

/-- Fetches blocks until so many bytes are held or a block is short. -/
def fillLoop (count : Nat) : Nat → Blocks → Except Fault Unit × Blocks
  | 0, b => (.ok (), b)
  | fuel + 1, b =>
    if count ≤ b.held.length then (.ok (), b)
    else
      match b.fetch with
      | (.error fault, b) => (.error fault, b)
      | (.ok .short, b) => (.ok (), b)
      | (.ok .full, b) => fillLoop count fuel b

/-- Holds so many bytes, or all that are left. -/
def fill (count : Nat) (b : Blocks) : Except Fault Unit × Blocks :=
  fillLoop count b.fetchesLeft b

/-- Drops so many of the bytes held. -/
def consume (count : Nat) (b : Blocks) : Blocks :=
  { b with held := b.held.drop count }

end Blocks

/-- Bytes of a source, fetched in blocks. -/
structure BufferedBytes where
  blocks : Blocks

namespace BufferedBytes

/-- The input before the first byte. -/
def ofSource (source : Source) (blockSize : Nat) : BufferedBytes :=
  ⟨Blocks.ofSource source blockSize⟩

instance : Input BufferedBytes (List UInt8) where
  size i := i.blocks.source.size
  position i := i.blocks.fetched - i.blocks.held.length
  peek count i :=
    match i.blocks.fill count with
    | (.error fault, blocks) => (.error fault, ⟨blocks⟩)
    | (.ok (), blocks) => (.ok (blocks.held.take count), ⟨blocks⟩)
  advance count i := ⟨i.blocks.consume count⟩

end BufferedBytes

/-- Characters of a source, fetched in blocks. -/
structure BufferedText where
  blocks : Blocks
  /-- Characters behind the cursor. -/
  position : Nat
  /-- The number of characters in the source, once counted. -/
  charCount? : Option Nat

namespace BufferedText

/-- The input before the first character. -/
def ofSource (source : Source) (blockSize : Nat) : BufferedText :=
  ⟨Blocks.ofSource source blockSize, 0, none⟩

/-- The text held. -/
def text (i : BufferedText) : List Char :=
  (decode i.blocks.held).1

/-- The fault of a request that reaches bytes which are no text. -/
def undecodable (i : BufferedText) : Fault :=
  .undecodable (i.position + i.text.length)

/-- After the last block: a request for more characters than are held fails if the bytes held do
not end with them. -/
def lastCheck (count : Nat) (i : BufferedText) : Except Fault Unit :=
  if i.text.length < count ∧ (decode i.blocks.held).2 ≠ .complete then .error i.undecodable
  else .ok ()

/-- Fetches blocks until so many characters are held or a block is short. -/
def fillLoop (count : Nat) : Nat → BufferedText → Except Fault Unit × BufferedText
  | 0, i => (.ok (), i)
  | fuel + 1, i =>
    if count ≤ i.text.length then (.ok (), i)
    else if (decode i.blocks.held).2 = .invalid then (.error i.undecodable, i)
    else
      match i.blocks.fetch with
      | (.error fault, blocks) => (.error fault, { i with blocks := blocks })
      | (.ok .short, blocks) =>
        let i := { i with blocks := blocks }
        (i.lastCheck count, i)
      | (.ok .full, blocks) => fillLoop count fuel { i with blocks := blocks }

/-- Holds so many characters, or all that are left. -/
def fill (count : Nat) (i : BufferedText) : Except Fault Unit × BufferedText :=
  fillLoop count i.blocks.fetchesLeft i

instance : Input BufferedText (List Char) where
  size i := i.blocks.source.size
  position i := i.position
  peek count i :=
    match i.fill count with
    | (.error fault, i) => (.error fault, i)
    | (.ok (), i) => (.ok (i.text.take count), i)
  advance count i :=
    let passed := i.text.take count
    { i with
      blocks := i.blocks.consume (byteLength passed)
      position := i.position + passed.length }

/-- How many of the bytes begin a character. -/
def countStarts (bytes : List UInt8) : Nat :=
  bytes.countP fun b => !isContinuation b

/-- Counts the characters from a position on, in blocks, on top of those counted before. -/
def countLoop (blockSize : Nat) :
    Nat → Nat → Nat → Source → Except Fault Nat × Source
  | 0, _, chars, source => (.ok chars, source)
  | fuel + 1, position, chars, source =>
    match source.read blockSize position with
    | (.error fault, source) => (.error fault, source)
    | (.ok block, source) =>
      let chars := chars + countStarts block
      if block.length < blockSize then (.ok chars, source)
      else countLoop blockSize fuel (position + block.length) chars source

/-- The number of characters in the whole source. The first count reads the source from its start in
blocks of its own and is kept; the cursor and the bytes held stay as they are. -/
def charCount (i : BufferedText) : Except Fault Nat × BufferedText :=
  match i.charCount? with
  | some chars => (.ok chars, i)
  | none =>
    let source := i.blocks.source
    match countLoop i.blocks.blockSize (source.bytes.length + 1) 0 0 source with
    | (.error fault, source) =>
      (.error fault, { i with blocks := { i.blocks with source := source } })
    | (.ok chars, source) =>
      (.ok chars,
        { i with blocks := { i.blocks with source := source }, charCount? := some chars })

end BufferedText

end Lexis
