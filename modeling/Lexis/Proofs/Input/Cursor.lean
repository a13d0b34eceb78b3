import Lexis.Input.Cursor
import Lexis.Proofs.Input.Lawful

/-!
# Cursors in memory

A cursor over bytes is its position. A cursor over text keeps the same place twice, in characters
and in bytes, and the two agree (`TextCursor.At`).

Principal results:

* `TextCursor.At.rest_eq` — what is at a text cursor;
* `TextCursor.At.advance` — passing characters that are at the cursor.
-/

namespace Lexis

open Text

instance : Sourced ByteCursor := ⟨fun _ => none⟩

instance : Sourced TextCursor := ⟨fun _ => none⟩

instance : LawfulInput ByteCursor where
  holds_of_peek := by
    intro count i i' chunk h m hm
    cases h
    refine ⟨(i.bytes.drop i.position).take m, rfl, ?_⟩
    have hlen : m ≤ ((i.bytes.drop i.position).take count).length := hm
    rw [List.length_take] at hlen
    show ((i.bytes.drop i.position).take m).length = m
    rw [List.length_take]
    omega
  source_advance _ _ := rfl

instance : LawfulInput TextCursor where
  holds_of_peek := by
    intro count i i' chunk h m hm
    cases h
    refine ⟨i.rest.take m, rfl, ?_⟩
    have hlen : m ≤ (i.rest.take count).length := hm
    rw [List.length_take] at hlen
    show (i.rest.take m).length = m
    rw [List.length_take]
    omega
  source_advance _ _ := rfl

/-- Behind a text the rest is found at the offset that the text takes in bytes. -/
theorem sliceFrom?_byteLength (done rest : List Char) :
    sliceFrom? (byteLength done) (done ++ rest) = some rest := by
  induction done with
  | nil => exact sliceFrom?.eq_1 rest
  | cons c done ih =>
    have hpos := c.utf8Size_pos
    rw [byteLength_cons, List.cons_append]
    obtain ⟨n, hn⟩ : ∃ n, c.utf8Size + byteLength done = n + 1 :=
      ⟨c.utf8Size + byteLength done - 1, by omega⟩
    have hrest : n + 1 - c.utf8Size = byteLength done := by omega
    rw [hn, sliceFrom?, if_pos (by omega), hrest]
    exact ih

namespace TextCursor

/-- The cursor is behind the characters `done` of the text. -/
structure At (whole done : List Char) (c : TextCursor) : Prop where
  text : c.text = whole
  behind : done <+: whole
  position : c.position = done.length
  offset : c.offset = byteLength done

theorem at_ofText (text : List Char) : (ofText text).At text [] :=
  ⟨rfl, List.nil_prefix, rfl, rfl⟩

theorem At.rest_eq {whole done : List Char} {c : TextCursor} (h : c.At whole done) :
    c.rest = whole.drop done.length := by
  obtain ⟨after, hafter⟩ := h.behind
  unfold rest
  rw [h.offset, h.text, ← hafter, sliceFrom?_byteLength, List.drop_left]
  rfl

theorem At.advance {whole done : List Char} {c : TextCursor} (h : c.At whole done) (count : Nat) :
    At whole (done ++ (whole.drop done.length).take count) (Input.advance count c) where
  text := h.text
  behind := by
    obtain ⟨after, hafter⟩ := h.behind
    rw [← hafter, List.drop_left]
    exact (List.prefix_append_right_inj _).2 (List.take_prefix _ _)
  position := by
    show c.position + (c.rest.take count).length = _
    rw [h.rest_eq, h.position, List.length_append]
  offset := by
    show c.offset + byteLength (c.rest.take count) = _
    rw [h.rest_eq, h.offset, byteLength_append]

end TextCursor

end Lexis
