import Lexis.Proofs.Input.Blocks
import Lexis.Proofs.Input.Lawful

/-!
# Buffered inputs

What the two inputs over a source have behind their cursor, and what they hand out. The bytes held
can end inside a character, and the block that brings its other bytes may show that it is none; but
what can be read of them is in front of what can be read of the rest of the source, and bytes that
can not be read stay so.

Principal results:

* `BufferedBytes.At.peek` — a request for bytes;
* `BufferedText.At.text_isPrefix` — the text held is in front of the rest of the text;
* `BufferedText.At.peek` — a request for characters;
* `BufferedText.At.advance` — passing characters that are held.
-/

namespace Lexis

open Text

instance : Sourced BufferedBytes := ⟨fun i => some i.blocks.source⟩

instance : Sourced BufferedText := ⟨fun i => some i.blocks.source⟩

/-! ## Bytes -/

namespace BufferedBytes

/-- The cursor is behind `q` bytes of the source. -/
def At (origin : Source) (q : Nat) (i : BufferedBytes) : Prop :=
  i.blocks.At origin q

theorem at_ofSource (source : Source) (blockSize : Nat) : (ofSource source blockSize).At source 0 :=
  Blocks.at_ofSource source blockSize

theorem At.position_eq {origin : Source} {q : Nat} {i : BufferedBytes} (h : i.At origin q) :
    Input.position i = q := by
  show i.blocks.fetched - i.blocks.held.length = q
  rw [h.fetched]
  omega

/-- A request for bytes fails for a reason of the source or gives bytes at the cursor; all that it
asks for or that are left, if the source never copies less than it could. -/
theorem At.peek {origin : Source} {q : Nat} {i : BufferedBytes} (h : i.At origin q) (count : Nat) :
    (∃ reason i', Input.peek count i = (.error (.unreadable reason), i') ∧ i'.At origin q ∧
      origin.Refuses reason) ∨
    ∃ i' : BufferedBytes, Input.peek count i = (.ok (i'.blocks.held.take count), i') ∧
      i'.At origin q ∧
      (origin.CopiesAll → i'.blocks.held.take count = (origin.bytes.drop q).take count) := by
  simp only [Input.peek]
  rcases Blocks.At.fill h count with ⟨reason, b, hb, hat, hreason⟩ | ⟨b, hb, hat, hall⟩
  · rw [hb]
    exact Or.inl ⟨reason, ⟨b⟩, rfl, hat, hreason⟩
  · rw [hb]
    refine Or.inr ⟨⟨b⟩, rfl, hat, fun hcopies => ?_⟩
    rcases hall hcopies with hlen | hheld
    · obtain ⟨rest, hrest⟩ := hat.held
      rw [← hrest, List.take_append_of_le_length hlen]
    · rw [hheld]

theorem peek_of_le {i : BufferedBytes} {count : Nat} (h : count ≤ i.blocks.held.length) :
    Input.peek count i = (.ok (i.blocks.held.take count), i) := by
  simp only [Input.peek, Blocks.fill_of_le h]

end BufferedBytes

instance : LawfulInput BufferedBytes where
  holds_of_peek := by
    intro count i i' chunk h m hm
    have hchunk : chunk = i'.blocks.held.take count := by
      simp only [Input.peek] at h
      split at h
      · cases h
      · cases h
        rfl
    have hlen : m ≤ chunk.length := hm
    rw [hchunk, List.length_take] at hlen
    have hheld : m ≤ i'.blocks.held.length := by omega
    exact ⟨_, BufferedBytes.peek_of_le hheld, List.length_take_of_le hheld⟩
  source_advance _ _ := rfl

/-! ## Characters -/

namespace BufferedText

/-- What a request for `count` characters covers behind the first `p`, where `whole` is the longest
text in front of the bytes, and all of them or not. -/
def cover (whole : List Char) (intact : Prop) [Decidable intact] (p count : Nat) :
    Except Fault (List Char) :=
  if count ≤ whole.length - p then .ok ((whole.drop p).take count)
  else if intact then .ok (whole.drop p)
  else .error (.undecodable whole.length)

/-- The cursor is behind the characters `done` of the source. -/
structure At (origin : Source) (done : List Char) (i : BufferedText) : Prop where
  blocks : i.blocks.At origin (byteLength done)
  behind : encode done <+: origin.bytes
  position : i.position = done.length

theorem at_ofSource (source : Source) (blockSize : Nat) :
    (ofSource source blockSize).At source [] :=
  ⟨Blocks.at_ofSource source blockSize, List.nil_prefix, rfl⟩

namespace At

variable {origin : Source} {done : List Char} {i : BufferedText}

/-- The text of the source is what is behind the cursor and the text of the rest. -/
theorem decode_eq (h : i.At origin done) : decode origin.bytes =
    (done ++ (decode (origin.bytes.drop (byteLength done))).1,
      (decode (origin.bytes.drop (byteLength done))).2) := by
  obtain ⟨rest, hrest⟩ := h.behind
  rw [← hrest, ← length_encode, List.drop_left, decode_encode_append]

theorem drop_decode (h : i.At origin done) : (decode origin.bytes).1.drop done.length =
    (decode (origin.bytes.drop (byteLength done))).1 := by
  rw [h.decode_eq, List.drop_left]

theorem length_le (h : i.At origin done) : done.length ≤ (decode origin.bytes).1.length := by
  rw [h.decode_eq, List.length_append]
  exact Nat.le_add_right _ _

/-- **The text held is in front of the rest of the text.** -/
theorem text_isPrefix (h : i.At origin done) :
    i.text <+: (decode origin.bytes).1.drop done.length := by
  rw [h.drop_decode]
  exact decode_mono h.blocks.held

/-- Where all bytes left are held, or bytes that are no text, the text held is the rest of the
text. -/
theorem decode_held (h : i.At origin done)
    (hheld : i.blocks.held = origin.bytes.drop (byteLength done) ∨
      (decode i.blocks.held).2 = .invalid) :
    i.text = (decode origin.bytes).1.drop done.length ∧
      (decode i.blocks.held).2 = (decode origin.bytes).2 := by
  have hsame : decode i.blocks.held = decode (origin.bytes.drop (byteLength done)) := by
    rcases hheld with hheld | hheld
    · rw [hheld]
    · obtain ⟨rest, hrest⟩ := h.blocks.held
      rw [← hrest, decode_invalid_append hheld]
  rw [h.drop_decode, h.decode_eq]
  unfold text
  rw [hsame]
  exact ⟨rfl, rfl⟩

theorem cover_of_le (h : i.At origin done) {count : Nat} (hcount : count ≤ i.text.length) :
    cover (decode origin.bytes).1 ((decode origin.bytes).2 = .complete) done.length count =
      .ok (i.text.take count) := by
  obtain ⟨rest, hrest⟩ := h.text_isPrefix
  have hlen : count ≤ (decode origin.bytes).1.length - done.length := by
    rw [← List.length_drop, ← hrest, List.length_append]
    omega
  unfold cover
  rw [if_pos hlen, ← hrest, List.take_append_of_le_length hcount]

theorem cover_of_lt {count : Nat} (htext : i.text = (decode origin.bytes).1.drop done.length)
    (hcount : i.text.length < count) :
    cover (decode origin.bytes).1 ((decode origin.bytes).2 = .complete) done.length count =
      if (decode origin.bytes).2 = .complete then .ok (i.text.take count)
      else .error (.undecodable (decode origin.bytes).1.length) := by
  have hlen : ¬count ≤ (decode origin.bytes).1.length - done.length := by
    rw [← List.length_drop, ← htext]
    omega
  unfold cover
  rw [if_neg hlen, List.take_of_length_le (Nat.le_of_lt hcount), htext]

theorem undecodable_eq (h : i.At origin done)
    (htext : i.text = (decode origin.bytes).1.drop done.length) :
    i.undecodable = .undecodable (decode origin.bytes).1.length := by
  have hlen := h.length_le
  unfold undecodable
  rw [htext, h.position, List.length_drop]
  congr 1
  omega

/-- After a short block of a source that never copies less than it could, the last check gives what
is covered. -/
theorem lastCheck (h : i.At origin done) (count : Nat) :
    (i.lastCheck count = .ok () ∧ (i.blocks.held = origin.bytes.drop (byteLength done) →
      cover (decode origin.bytes).1 ((decode origin.bytes).2 = .complete) done.length count =
        .ok (i.text.take count))) ∨
    ∃ position, i.lastCheck count = .error (.undecodable position) ∧
      (i.blocks.held = origin.bytes.drop (byteLength done) →
        cover (decode origin.bytes).1 ((decode origin.bytes).2 = .complete) done.length count =
          .error (.undecodable position)) := by
  unfold BufferedText.lastCheck
  split
  · rename_i hcheck
    refine Or.inr ⟨_, rfl, fun hheld => ?_⟩
    obtain ⟨htext, hend⟩ := h.decode_held (Or.inl hheld)
    rw [cover_of_lt htext hcheck.1, if_neg (hend ▸ hcheck.2)]
    exact congrArg _ (h.undecodable_eq htext).symm
  · rename_i hcheck
    refine Or.inl ⟨rfl, fun hheld => ?_⟩
    obtain ⟨htext, hend⟩ := h.decode_held (Or.inl hheld)
    by_cases hcount : count ≤ i.text.length
    · exact h.cover_of_le hcount
    · have hlt : i.text.length < count := Nat.lt_of_not_le hcount
      have hcomplete : (decode i.blocks.held).2 = .complete := by
        by_cases hc : (decode i.blocks.held).2 = .complete
        · exact hc
        · exact absurd ⟨hlt, hc⟩ hcheck
      rw [cover_of_lt htext hlt, if_pos (hend ▸ hcomplete)]

theorem of_blocks (h : i.At origin done) {b : Blocks} (hb : b.At origin (byteLength done)) :
    ({ i with blocks := b } : BufferedText).At origin done :=
  ⟨hb, h.behind, h.position⟩

theorem fillLoop (count : Nat) : ∀ {fuel : Nat} {i : BufferedText}, i.At origin done →
    origin.bytes.length - i.blocks.fetched < fuel →
      (∃ reason i', i.fillLoop count fuel = (.error (.unreadable reason), i') ∧
        i'.At origin done ∧ origin.Refuses reason) ∨
      (∃ i' : BufferedText, i.fillLoop count fuel = (.ok (), i') ∧ i'.At origin done ∧
        (origin.CopiesAll →
          cover (decode origin.bytes).1 ((decode origin.bytes).2 = .complete) done.length count =
            .ok (i'.text.take count))) ∨
      ∃ position i', i.fillLoop count fuel = (.error (.undecodable position), i') ∧
        i'.At origin done ∧ (origin.CopiesAll →
          cover (decode origin.bytes).1 ((decode origin.bytes).2 = .complete) done.length count =
            .error (.undecodable position))
  | 0, _, _, hfuel => absurd hfuel (Nat.not_lt_zero _)
  | fuel + 1, i, h, hfuel => by
    unfold BufferedText.fillLoop
    split
    · rename_i hcount
      exact Or.inr (Or.inl ⟨i, rfl, h, fun _ => h.cover_of_le hcount⟩)
    rename_i hcount
    split
    · rename_i hinvalid
      refine Or.inr (Or.inr ⟨_, i, rfl, h, fun _ => ?_⟩)
      obtain ⟨htext, hend⟩ := h.decode_held (Or.inr hinvalid)
      rw [cover_of_lt htext (Nat.lt_of_not_le hcount), if_neg]
      · exact congrArg _ (h.undecodable_eq htext).symm
      · rw [← hend, hinvalid]
        decide
    rcases h.blocks.fetch with
      ⟨reason, b, hb, hat, -, hreason⟩ | ⟨b, hb, hat, hall⟩ | ⟨b, hb, hat, hmore⟩
    · rw [hb]
      exact Or.inl ⟨reason, _, rfl, h.of_blocks hat, hreason⟩
    · rw [hb]
      rcases (h.of_blocks hat).lastCheck count with ⟨hcheck, hcover⟩ | ⟨position, hcheck, hcover⟩
      · refine Or.inr (Or.inl ⟨{ i with blocks := b }, ?_, h.of_blocks hat, fun hcopies => ?_⟩)
        · exact Prod.ext hcheck rfl
        · exact hcover (hall hcopies)
      · refine Or.inr (Or.inr ⟨position, { i with blocks := b }, ?_, h.of_blocks hat, ?_⟩)
        · exact Prod.ext hcheck rfl
        · exact fun hcopies => hcover (hall hcopies)
    · rw [hb]
      exact fillLoop count (h.of_blocks hat) (hat.lt_of_fetch hfuel hmore)

/-- **A request for characters** fails for a reason of the source, gives characters at the cursor or
fails at bytes that are no text. If the source never copies less than it could, it does what the
text of the source says. -/
theorem peek (h : i.At origin done) (count : Nat) :
    (∃ reason i', Input.peek count i = (.error (.unreadable reason), i') ∧
      i'.At origin done ∧ origin.Refuses reason) ∨
    (∃ i' : BufferedText, Input.peek count i = (.ok (i'.text.take count), i') ∧ i'.At origin done ∧
      (origin.CopiesAll →
        cover (decode origin.bytes).1 ((decode origin.bytes).2 = .complete) done.length count =
          .ok (i'.text.take count))) ∨
    ∃ position i', Input.peek count i = (.error (.undecodable position), i') ∧
      i'.At origin done ∧ (origin.CopiesAll →
        cover (decode origin.bytes).1 ((decode origin.bytes).2 = .complete) done.length count =
          .error (.undecodable position)) := by
  have hfuel : origin.bytes.length - i.blocks.fetched < i.blocks.fetchesLeft := by
    unfold Blocks.fetchesLeft
    rw [h.blocks.source.1]
    exact Nat.lt_succ_self _
  simp only [Input.peek, fill]
  rcases h.fillLoop count hfuel with
    ⟨reason, i', hi, hat, hreason⟩ | ⟨i', hi, hat, hcover⟩ | ⟨position, i', hi, hat, hcover⟩
  · rw [hi]
    exact Or.inl ⟨reason, i', rfl, hat, hreason⟩
  · rw [hi]
    exact Or.inr (Or.inl ⟨i', rfl, hat, hcover⟩)
  · rw [hi]
    exact Or.inr (Or.inr ⟨position, i', rfl, hat, hcover⟩)

theorem advance (h : i.At origin done) (count : Nat) :
    At origin (done ++ i.text.take count) (Input.advance count i) where
  blocks := by
    have hheld : encode (i.text.take count) <+: i.blocks.held :=
      (encode_isPrefix (List.take_prefix _ _)).trans (encode_decode_isPrefix _)
    rw [byteLength_append]
    refine h.blocks.consume ?_
    rw [← length_encode]
    exact hheld.length_le
  behind := by
    refine encode_append_isPrefix h.behind ?_
    exact ((encode_isPrefix (List.take_prefix _ _)).trans (encode_decode_isPrefix _)).trans
      h.blocks.held
  position := by
    show i.position + (i.text.take count).length = _
    rw [h.position, List.length_append]

end At

theorem peek_of_le {i : BufferedText} {count : Nat} (h : count ≤ i.text.length) :
    Input.peek count i = (.ok (i.text.take count), i) := by
  simp only [Input.peek, fill, Blocks.fetchesLeft, fillLoop, if_pos h]

end BufferedText

instance : LawfulInput BufferedText where
  holds_of_peek := by
    intro count i i' chunk h m hm
    have hchunk : chunk = i'.text.take count := by
      simp only [Input.peek] at h
      split at h
      · cases h
      · cases h
        rfl
    have hlen : m ≤ chunk.length := hm
    rw [hchunk, List.length_take] at hlen
    have hheld : m ≤ i'.text.length := by omega
    exact ⟨_, BufferedText.peek_of_le hheld, List.length_take_of_le hheld⟩
  source_advance _ _ := rfl

end Lexis
