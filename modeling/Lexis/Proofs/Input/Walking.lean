import Lexis.Proofs.Input.Reads

/-!
# Walks over a text

A cursor over a text keeps its place in characters and in bytes, and never works the one out of the
other: a request moves both by the characters that it passes. They do not part all the same. So the
cursor always stands between two characters, the bytes behind it can be cut off there, and what it
has handed out and skipped, put together, is the text up to it.

Principal results:

* `TextCursor.At.sound` — what the two places are;
* `TextCursor.At.perform` — one request;
* `TextCursor.walks` — any number of requests.
-/

namespace Lexis

open Text

namespace TextCursor

/-- The two places of a cursor over the text agree, and the text can be cut at the bytes that they
say: at the cursor, and behind any number of characters from there on. -/
structure Sound (text : List Char) (c : TextCursor) : Prop where
  whole : c.text = text
  size : c.size = text.length
  position_le : c.position ≤ c.size
  offset : c.offset = byteLength (text.take c.position)
  slice : ∀ count, sliceFrom? (c.offset + byteLength (c.rest.take count)) c.text =
    some (text.drop (c.position + count))

/-- The characters of the text that a request for so many covers behind the position. -/
def stretch (text : List Char) (position count : Nat) : List Char :=
  text.extract position (min (position + count) text.length)

/-- The cursor behind some more characters. -/
def passing (c : TextCursor) (chars : List Char) : TextCursor :=
  { c with position := c.position + chars.length, offset := c.offset + byteLength chars }

/-- What a request of a cursor over the text is answered, and the cursor after it. -/
def served (text : List Char) (c : TextCursor) :
    Request → Except Fault (Reply (List Char)) × TextCursor
  | .peek count => (.ok (.chunk (stretch text c.position count)), c)
  | .next count =>
    (.ok (.chunk (stretch text c.position count)), c.passing (stretch text c.position count))
  | .skip count =>
    (.ok (.count (stretch text c.position count).length),
      c.passing (stretch text c.position count))
  | .size => (.ok (.count text.length), c)
  | .position => (.ok (.count c.position), c)

/-- The characters that a request has passed: those that it was given, or as many as it was told to
have skipped. -/
def passed (text : List Char)
    (e : Exchange Request TextCursor (Except Fault (Reply (List Char)))) : List Char :=
  match e.request, e.reply with
  | .next _, .ok (.chunk chunk) => chunk
  | .skip _, .ok (.count n) => text.extract e.before.position (e.before.position + n)
  | _, _ => []

theorem stretch_eq (text : List Char) (position count : Nat) :
    stretch text position count = (text.drop position).take count := by
  rw [stretch, List.extract_eq_take_drop, List.take_eq_take_iff, List.length_drop]
  omega

namespace At

variable {text done : List Char} {c : TextCursor}

/-! ## Places -/

theorem take_eq (h : c.At text done) : text.take c.position = done := by
  rw [h.position]
  exact (List.prefix_iff_eq_take.1 h.behind).symm

theorem rest_eq_drop (h : c.At text done) : c.rest = text.drop c.position := by
  rw [h.rest_eq, h.position]

/-- **The two places agree** wherever a cursor is behind some characters of the text. -/
theorem sound (h : c.At text done) (hsize : c.size = text.length) : c.Sound text where
  whole := h.text
  size := hsize
  position_le := by
    rw [hsize, h.position]
    exact h.behind.length_le
  offset := by rw [h.take_eq, h.offset]
  slice := by
    intro count
    have hrest : c.rest.take count ++ c.rest.drop count = text.drop c.position := by
      rw [List.take_append_drop, h.rest_eq_drop]
    have hcut : text = (done ++ c.rest.take count) ++ c.rest.drop count := by
      rw [List.append_assoc, hrest, ← h.take_eq, List.take_append_drop]
    have hbehind : text.drop (c.position + count) = c.rest.drop count := by
      rw [h.rest_eq_drop, List.drop_drop]
    calc sliceFrom? (c.offset + byteLength (c.rest.take count)) c.text
      _ = sliceFrom? (byteLength (done ++ c.rest.take count))
            ((done ++ c.rest.take count) ++ c.rest.drop count) := by
        rw [h.text, h.offset, ← byteLength_append, ← hcut]
      _ = some (c.rest.drop count) := sliceFrom?_byteLength _ _
      _ = some (text.drop (c.position + count)) := by rw [hbehind]

/-! ## Requests -/

theorem advance_length (h : c.At text done) (count : Nat) :
    Input.advance (c.rest.take count).length c = c.passing (stretch text c.position count) ∧
      At text (done ++ stretch text c.position count)
        (c.passing (stretch text c.position count)) := by
  have hstretch : stretch text c.position count = c.rest.take count := by
    rw [stretch_eq, h.rest_eq_drop]
  have hsame : c.rest.take (c.rest.take count).length = c.rest.take count := by
    rw [List.length_take, List.take_eq_take_iff]
    omega
  have hmoved : Input.advance (c.rest.take count).length c =
      c.passing (stretch text c.position count) := by
    rw [hstretch]
    show c.passing (c.rest.take (c.rest.take count).length) = _
    rw [hsame]
  refine ⟨hmoved, ?_⟩
  have hat := h.advance (c.rest.take count).length
  rw [← h.rest_eq, hsame, hmoved, ← hstretch] at hat
  exact hat

/-- **One request**: what it is answered, and what it passes. -/
theorem perform (h : c.At text done) (hsize : c.size = text.length) (request : Request) :
    Input.perform c request = served text c request ∧
      At text (done ++ passed text (exchange Input.perform c request))
        (Input.perform c request).2 ∧
      (Input.perform c request).2.size = text.length := by
  have hchunk : ∀ count, c.rest.take count = stretch text c.position count := by
    intro count
    rw [stretch_eq, h.rest_eq_drop]
  have hstay : At text (done ++ []) c := by
    rw [List.append_nil]
    exact h
  cases request with
  | size => exact ⟨by rw [served, ← hsize]; rfl, hstay, hsize⟩
  | position => exact ⟨rfl, hstay, hsize⟩
  | peek count => exact ⟨by rw [served, ← hchunk]; rfl, hstay, hsize⟩
  | next count =>
    obtain ⟨hmoved, hat⟩ := h.advance_length count
    have hperform : Input.perform c (.next count) = served text c (.next count) := by
      show (Except.ok (Reply.chunk (c.rest.take count)),
        Input.advance (c.rest.take count).length c) = _
      rw [hmoved, hchunk]
      rfl
    have hpassed : passed text (exchange Input.perform c (.next count)) =
        stretch text c.position count := by
      rw [exchange, hperform]
      rfl
    rw [hpassed, hperform]
    exact ⟨rfl, hat, hsize⟩
  | skip count =>
    obtain ⟨hmoved, hat⟩ := h.advance_length count
    have hperform : Input.perform c (.skip count) = served text c (.skip count) := by
      show (Except.ok (Reply.count (c.rest.take count).length),
        Input.advance (c.rest.take count).length c) = _
      rw [hmoved, hchunk]
      rfl
    have hpassed : passed text (exchange Input.perform c (.skip count)) =
        stretch text c.position count := by
      rw [exchange, hperform]
      show text.extract c.position (c.position + (stretch text c.position count).length) = _
      rw [List.extract_eq_take_drop, Nat.add_sub_cancel_left, stretch_eq, List.length_take,
        List.take_eq_take_iff]
      omega
    rw [hpassed, hperform]
    exact ⟨rfl, hat, hsize⟩

end At

/-- The cursor has passed what the requests so far have passed, and still knows the length. -/
structure Walked (text : List Char)
    (past : List (Exchange Request TextCursor (Except Fault (Reply (List Char)))))
    (c : TextCursor) : Prop where
  place : At text (past.flatMap (passed text)) c
  size : c.size = text.length

theorem Walked.perform {text : List Char}
    {past : List (Exchange Request TextCursor (Except Fault (Reply (List Char))))}
    {c : TextCursor} (h : Walked text past c) (request : Request) :
    Walked text (past ++ [exchange Input.perform c request]) (Input.perform c request).2 := by
  obtain ⟨-, hplace, hsize⟩ := h.place.perform h.size request
  refine ⟨?_, hsize⟩
  rw [List.flatMap_append, List.flatMap_cons, List.flatMap_nil, List.append_nil]
  exact hplace

/-- **A cursor walks over the characters of its text.** Whatever is asked of it, its place in bytes
is the length of the characters behind it, and the text can be cut there; a request is answered with
the characters at the cursor, as many as are asked for and there, and moves the cursor past those
that it hands out or counts, and otherwise not at all; and the characters that have been passed, put
together, are the text up to the cursor. -/
theorem walks (text : List Char) (requests : List Request) :
    let log := exchanges Input.perform requests (ofText text)
    (∀ earlier e later, log = earlier ++ e :: later →
      e.before.Sound text ∧ e.after.Sound text ∧
      (e.reply, e.after) = served text e.before e.request ∧
      earlier.flatMap (passed text) = text.take e.before.position ∧
      (earlier ++ [e]).flatMap (passed text) = text.take e.after.position) ∧
    log.flatMap (passed text) <+: text := by
  intro log
  obtain ⟨⟨last, hlast⟩, hlog⟩ := exchanges_invariant
    (fun past c request (h : Walked text past c) => h.perform request) requests []
    (i := ofText text) ⟨at_ofText text, rfl⟩
  refine ⟨fun earlier e later hsplit => ?_, hlast.place.behind⟩
  obtain ⟨hbefore, hserved⟩ := hlog earlier e later hsplit
  have hafter := hbefore.perform e.request
  obtain ⟨hperform, -, -⟩ := hbefore.place.perform hbefore.size e.request
  have hanswer : Input.perform e.before e.request = (e.reply, e.after) := by
    rw [hserved]
    rfl
  rw [← hserved, hanswer] at hafter
  refine ⟨hbefore.place.sound hbefore.size, hafter.place.sound hafter.size, ?_,
    hbefore.place.take_eq.symm, hafter.place.take_eq.symm⟩
  rw [← hperform, hanswer]

end TextCursor

end Lexis
