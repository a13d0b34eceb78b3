import Lexis.Input.Buffered
import Lexis.Proofs.Text.Boundary

/-!
# The text of bytes

A chunk of bytes and the buffer of an input of characters are decoded alike: to the longest text in
front of them, and to one of three reasons why it ends there. The reasons are told apart by what more
bytes could do. All bytes may be a text; or they are none, but some that go on from them are; or
none that goes on from them is. So what is decoded does not depend on where a chunk or a block
happens to end, but that its text may be cut short there.

Which bytes are a text is said without decoding: `IsText` is the core library's notion.

Principal results:

* `decode_complete_iff_isText`, `decode_split_iff`, `decode_invalid_iff_isText` — the three reasons;
* `decoding_iff` — all that decoding tells, and that it tells it of nothing else;
* `decoding_of_bytes` — chunks of bytes, buffered characters, and more bytes behind others.
-/

namespace Lexis

namespace Text

/-- The bytes are a text in UTF-8. -/
def IsText (bytes : List UInt8) : Prop := bytes.toByteArray.IsValidUTF8

/-- A text is what characters are encoded to. -/
theorem isText_iff (bytes : List UInt8) : IsText bytes ↔ ∃ text, encode text = bytes := by
  constructor
  · rintro ⟨text, htext⟩
    refine ⟨text, ?_⟩
    have hdata := congrArg (fun array => array.data.toList) htext
    simpa [List.utf8Encode, encode] using hdata.symm
  · rintro ⟨text, rfl⟩
    exact ⟨text, rfl⟩

/-! ## Why a text ends -/

theorem decode_complete_iff_isText (bytes : List UInt8) :
    (decode bytes).2 = .complete ↔ IsText bytes := by
  rw [isText_iff, decode_complete_iff]
  constructor
  · intro hall
    exact ⟨_, hall⟩
  · rintro ⟨text, rfl⟩
    rw [decode_encode]

theorem decode_invalid_iff_isText (bytes : List UInt8) :
    (decode bytes).2 = .invalid ↔ ∀ more, ¬IsText (bytes ++ more) := by
  simp only [decode_invalid_iff, isText_iff, not_exists]

/-- **Bytes are cut off** if they are no text and some longer bytes that begin with them are one. -/
theorem decode_split_iff (bytes : List UInt8) :
    (decode bytes).2 = .split ↔ ¬IsText bytes ∧ ∃ more, more ≠ [] ∧ IsText (bytes ++ more) := by
  constructor
  · intro hsplit
    have hnone : ¬IsText bytes := by
      rw [← decode_complete_iff_isText, hsplit]
      exact Ending.noConfusion
    obtain ⟨more, hmore⟩ := exists_finish_of_split (u := none) (by simp) hsplit
    have htext : IsText (bytes ++ more) := (decode_complete_iff_isText _).1 hmore
    refine ⟨hnone, more, ?_, htext⟩
    rintro rfl
    rw [List.append_nil] at htext
    exact hnone htext
  · rintro ⟨hnone, more, -, hmore⟩
    cases hending : (decode bytes).2 with
    | complete => exact absurd ((decode_complete_iff_isText bytes).1 hending) hnone
    | split => rfl
    | invalid => exact absurd hmore ((decode_invalid_iff_isText bytes).1 hending more)

/-! ## All that decoding tells -/

/-- What a text and the reason for its end tell of bytes. -/
structure Decoding (bytes : List UInt8) (text : List Char) (ending : Ending) : Prop where
  isPrefix : encode text <+: bytes
  /-- No longer front of the bytes is a text. -/
  longest : ∀ front, front <+: bytes → IsText front → front.length ≤ (encode text).length
  complete : ending = .complete ↔ encode text = bytes
  split : ending = .split ↔ ¬IsText bytes ∧ ∃ more, more ≠ [] ∧ IsText (bytes ++ more)
  invalid : ending = .invalid ↔ ∀ more, ¬IsText (bytes ++ more)

theorem decoding_decode (bytes : List UInt8) :
    Decoding bytes (decode bytes).1 (decode bytes).2 where
  isPrefix := encode_decode_isPrefix bytes
  longest := by
    intro front hfront htext
    obtain ⟨text, rfl⟩ := (isText_iff front).1 htext
    exact (encode_isPrefix (isPrefix_decode hfront)).length_le
  complete := decode_complete_iff bytes
  split := decode_split_iff bytes
  invalid := decode_invalid_iff_isText bytes

/-- **Decoding tells this, and of nothing else than what it decodes to.** -/
theorem decoding_iff (bytes : List UInt8) (text : List Char) (ending : Ending) :
    Decoding bytes text ending ↔ decode bytes = (text, ending) := by
  constructor
  · intro h
    have hlongest : IsLongestText bytes text := by
      refine ⟨h.isPrefix, fun other hother => ?_⟩
      have hle := h.longest _ hother ((isText_iff _).2 ⟨other, rfl⟩)
      rwa [length_encode, length_encode] at hle
    have htext : text = (decode bytes).1 := (isLongestText_iff bytes text).1 hlongest
    have hending : (decode bytes).2 = ending := by
      cases ending with
      | complete =>
        rw [decode_complete_iff, ← htext]
        exact h.complete.1 rfl
      | split => exact (decode_split_iff bytes).2 (h.split.1 rfl)
      | invalid => exact (decode_invalid_iff_isText bytes).2 (h.invalid.1 rfl)
    exact Prod.ext htext.symm hending
  · intro h
    have hall := decoding_decode bytes
    rwa [h] at hall

/-- What more bytes behind the others change: the text may go on, unless the bytes are none that a
text can begin with. -/
structure Continues (bytes more : List UInt8) : Prop where
  isPrefix : (Chunk.text bytes).1 <+: (Chunk.text (bytes ++ more)).1
  invalid : (Chunk.text bytes).2 = .invalid → Chunk.text (bytes ++ more) = Chunk.text bytes
  /-- Bytes that continue no text are where the text before them ends. -/
  position : (Chunk.text bytes).2 = .invalid → ∀ base atEnd,
    windowText (bytes ++ more) base atEnd =
      ((Chunk.text bytes).1, some (base + (encode (Chunk.text bytes).1).length))

theorem continues (bytes more : List UInt8) : Continues bytes more where
  isPrefix := decode_mono (List.prefix_append bytes more)
  invalid h := decode_invalid_append h more
  position := by
    intro h base atEnd
    have hsame : Chunk.text (bytes ++ more) = Chunk.text bytes := decode_invalid_append h more
    simp only [windowText, hsame, h, length_encode]

end Text

open Text

/-- **Decoding is maximal and stable.** The text of a chunk of bytes, and that of the bytes which a
buffered input of characters holds, is the longest one in front of them, with the reason for its end
told by what other bytes could follow; and other bytes that do follow leave it as it is, but for what
goes on from it. -/
theorem decoding_of_bytes (bytes : List UInt8) :
    Decoding bytes (Chunk.text bytes).1 (Chunk.text bytes).2 ∧
    (∀ i : BufferedText, i.blocks.held = bytes →
      Decoding bytes i.text (decode i.blocks.held).2 ∧ i.text = (Chunk.text bytes).1) ∧
    ∀ more, Continues bytes more := by
  refine ⟨decoding_decode bytes, ?_, continues bytes⟩
  rintro i rfl
  exact ⟨decoding_decode i.blocks.held, rfl⟩

end Lexis
