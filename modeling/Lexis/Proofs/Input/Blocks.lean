import Lexis.Input.Buffered

/-!
# Fetching blocks

What is held of a source is always the data from the cursor on, up to the next byte to fetch
(`Blocks.At`). This needs nothing of the source: a read may fail, and may copy less than it was asked
for. For a source that copies all it is asked for or fails, what is held in the end is moreover as
much as was asked for, or all there is.

Principal results:

* `Source.read_cases` — a read fails, or copies from the position it was asked for;
* `Blocks.At.fetch` — what one block changes;
* `Blocks.At.fill` — what a request changes;
* `Blocks.At.consume` — what moving the cursor changes.
-/

namespace Lexis

namespace Source

/-- A source that refuses some reads, each for its own reason, and copies all it is asked for at the
others. -/
def flaky (bytes : List UInt8) (refusal? : Nat → Option String) (sizeFault : Option String) :
    Source :=
  ⟨bytes, fun k => (refusal? k).elim .full .refused, sizeFault, []⟩

/-- The source never copies less than it could. -/
def CopiesAll (s : Source) : Prop :=
  ∀ k, s.plan k = .full ∨ ∃ reason, s.plan k = .refused reason

/-- The source gives the reason at one of its reads. -/
def Refuses (s : Source) (reason : String) : Prop :=
  ∃ k, s.plan k = .refused reason

/-- The same resource, perhaps with other reads behind it. -/
def SameAs (s origin : Source) : Prop :=
  s.bytes = origin.bytes ∧ s.plan = origin.plan ∧ s.sizeFault = origin.sizeFault

theorem copiesAll_ofBytes (bytes : List UInt8) : (ofBytes bytes).CopiesAll :=
  fun _ => Or.inl rfl

theorem not_refuses_ofBytes (bytes : List UInt8) (reason : String) :
    ¬(ofBytes bytes).Refuses reason := by
  rintro ⟨k, hk⟩
  cases hk

theorem copiesAll_flaky (bytes : List UInt8) (refusal? : Nat → Option String)
    (sizeFault : Option String) : (flaky bytes refusal? sizeFault).CopiesAll := by
  intro k
  unfold flaky
  dsimp only
  cases refusal? k with
  | none => exact Or.inl rfl
  | some reason => exact Or.inr ⟨reason, rfl⟩

theorem refuses_flaky {bytes : List UInt8} {refusal? : Nat → Option String}
    {sizeFault : Option String} {reason : String} :
    (flaky bytes refusal? sizeFault).Refuses reason ↔ ∃ k, refusal? k = some reason := by
  unfold Refuses flaky
  refine exists_congr fun k => ?_
  dsimp only
  cases refusal? k with
  | none => exact Iff.intro nofun nofun
  | some other => exact Iff.intro (fun | rfl => rfl) (fun | rfl => rfl)

theorem SameAs.refl (s : Source) : s.SameAs s := ⟨rfl, rfl, rfl⟩

/-- A read fails for a reason of the source, or copies bytes from the position on, at most as many
as it was asked for; a source that never copies less than it could copies as many. -/
theorem read_cases {s origin : Source} (hs : s.SameAs origin) (asked position : Nat) :
    (∃ reason s', s.read asked position = (.error (.unreadable reason), s') ∧
      s'.SameAs origin ∧ origin.Refuses reason) ∨
    ∃ n s', s.read asked position = (.ok ((origin.bytes.drop position).take n), s') ∧
      s'.SameAs origin ∧ n ≤ asked ∧ (origin.CopiesAll → n = asked) := by
  obtain ⟨hbytes, hplan, hsize⟩ := hs
  unfold read
  rw [hbytes]
  split
  · rename_i reason hreason
    exact Or.inl ⟨reason, _, rfl, ⟨hbytes, hplan, hsize⟩, s.notes.length, hplan ▸ hreason⟩
  · exact Or.inr ⟨asked, _, rfl, ⟨hbytes, hplan, hsize⟩, Nat.le_refl _, fun _ => rfl⟩
  · rename_i count hcount
    refine Or.inr ⟨min count asked, _, rfl, ⟨hbytes, hplan, hsize⟩, Nat.min_le_right _ _, ?_⟩
    intro hall
    rw [hplan] at hcount
    rcases hall s.notes.length with h | ⟨reason, h⟩
    · rw [hcount] at h
      cases h
    · rw [hcount] at h
      cases h

end Source

namespace Blocks

/-- What is held are bytes of the source from the cursor on, which is behind `q` of them. -/
structure At (origin : Source) (q : Nat) (b : Blocks) : Prop where
  source : b.source.SameAs origin
  held : b.held <+: origin.bytes.drop q
  fetched : b.fetched = q + b.held.length
  inside : q ≤ origin.bytes.length
  positive : 0 < b.blockSize

theorem at_ofSource (source : Source) (blockSize : Nat) : (ofSource source blockSize).At source 0 where
  source := .refl source
  held := List.nil_prefix
  fetched := rfl
  inside := Nat.zero_le _
  positive := Nat.lt_of_lt_of_le Nat.zero_lt_one (Nat.le_max_right _ _)

namespace At

variable {origin : Source} {q : Nat} {b : Blocks}

theorem fetched_le (h : b.At origin q) : b.fetched ≤ origin.bytes.length := by
  have hlen := h.held.length_le
  have := h.inside
  rw [List.length_drop] at hlen
  rw [h.fetched]
  omega

theorem held_append (h : b.At origin q) :
    origin.bytes.drop q = b.held ++ origin.bytes.drop b.fetched := by
  obtain ⟨rest, hrest⟩ := h.held
  have : origin.bytes.drop b.fetched = rest := by
    rw [h.fetched, ← List.drop_drop, ← hrest, List.drop_left]
  rw [this, hrest]

theorem of_source (h : b.At origin q) {s : Source} (hs : s.SameAs origin) :
    ({ b with source := s } : Blocks).At origin q :=
  ⟨hs, h.held, h.fetched, h.inside, h.positive⟩

theorem of_block (h : b.At origin q) {s : Source} (hs : s.SameAs origin) (n : Nat) :
    ({ b with
        source := s
        held := b.held ++ (origin.bytes.drop b.fetched).take n
        fetched := b.fetched + ((origin.bytes.drop b.fetched).take n).length } : Blocks).At
      origin q where
  source := hs
  held := by
    rw [h.held_append]
    exact (List.prefix_append_right_inj _).2 (List.take_prefix _ _)
  fetched := by
    dsimp only
    rw [h.fetched, List.length_append, Nat.add_assoc]
  inside := h.inside
  positive := h.positive

/-- Fetching a block fails for a reason of the source, or holds more of the bytes. After a short
block of a source that never copies less than it could, all bytes are held. -/
theorem fetch (h : b.At origin q) :
    (∃ reason b', b.fetch = (.error (.unreadable reason), b') ∧ b'.At origin q ∧
      b'.held = b.held ∧ origin.Refuses reason) ∨
    (∃ b', b.fetch = (.ok .short, b') ∧ b'.At origin q ∧
      (origin.CopiesAll → b'.held = origin.bytes.drop q)) ∨
    ∃ b', b.fetch = (.ok .full, b') ∧ b'.At origin q ∧ b.fetched < b'.fetched := by
  have hpos := h.positive
  unfold Blocks.fetch
  rcases Source.read_cases h.source b.blockSize b.fetched with
    ⟨reason, s', hread, hs', hreason⟩ | ⟨n, s', hread, hs', hn, hall⟩
  · rw [hread]
    exact Or.inl ⟨reason, _, rfl, h.of_source hs', rfl, hreason⟩
  · rw [hread]
    right
    dsimp only
    split
    · rename_i hshort
      refine Or.inl ⟨_, rfl, h.of_block hs' n, fun hcopies => ?_⟩
      rw [hall hcopies, List.length_take] at hshort
      have hrest : (origin.bytes.drop b.fetched).take n = origin.bytes.drop b.fetched :=
        List.take_of_length_le (by rw [hall hcopies]; omega)
      dsimp only
      rw [hrest, h.held_append]
    · rename_i hfull
      exact Or.inr ⟨_, rfl, h.of_block hs' n, by dsimp only; omega⟩

theorem lt_of_fetch {b' : Blocks} {fuel : Nat} (h' : b'.At origin q)
    (hfuel : origin.bytes.length - b.fetched < fuel + 1) (hmore : b.fetched < b'.fetched) :
    origin.bytes.length - b'.fetched < fuel := by
  have := h'.fetched_le
  omega

theorem fillLoop (count : Nat) : ∀ {fuel : Nat} {b : Blocks}, b.At origin q →
    origin.bytes.length - b.fetched < fuel →
      (∃ reason b', b.fillLoop count fuel = (.error (.unreadable reason), b') ∧ b'.At origin q ∧
        origin.Refuses reason) ∨
      ∃ b', b.fillLoop count fuel = (.ok (), b') ∧ b'.At origin q ∧
        (origin.CopiesAll → count ≤ b'.held.length ∨ b'.held = origin.bytes.drop q)
  | 0, _, _, hfuel => absurd hfuel (Nat.not_lt_zero _)
  | fuel + 1, b, h, hfuel => by
    unfold Blocks.fillLoop
    split
    · rename_i hcount
      exact Or.inr ⟨b, rfl, h, fun _ => Or.inl hcount⟩
    rcases h.fetch with ⟨reason, b', hb', h', -, hreason⟩ | ⟨b', hb', h', hall⟩ | ⟨b', hb', h', hmore⟩
    · rw [hb']
      exact Or.inl ⟨reason, b', rfl, h', hreason⟩
    · rw [hb']
      exact Or.inr ⟨b', rfl, h', fun hcopies => Or.inr (hall hcopies)⟩
    · rw [hb']
      exact fillLoop count h' (h'.lt_of_fetch hfuel hmore)

/-- A request fails for a reason of the source, or holds as many bytes as it asks for or all that
are left, if the source never copies less than it could. -/
theorem fill (h : b.At origin q) (count : Nat) :
    (∃ reason b', b.fill count = (.error (.unreadable reason), b') ∧ b'.At origin q ∧
      origin.Refuses reason) ∨
    ∃ b', b.fill count = (.ok (), b') ∧ b'.At origin q ∧
      (origin.CopiesAll → count ≤ b'.held.length ∨ b'.held = origin.bytes.drop q) := by
  refine h.fillLoop count ?_
  unfold fetchesLeft
  rw [h.source.1]
  exact Nat.lt_succ_self _

theorem consume (h : b.At origin q) {count : Nat} (hcount : count ≤ b.held.length) :
    (b.consume count).At origin (q + count) where
  source := h.source
  held := by
    obtain ⟨rest, hrest⟩ := h.held
    rw [← List.drop_drop, ← hrest, List.drop_append_of_le_length hcount]
    exact List.prefix_append _ _
  fetched := by
    show b.fetched = q + count + (b.held.drop count).length
    rw [h.fetched, List.length_drop]
    omega
  inside := by
    have := h.fetched_le
    rw [h.fetched] at this
    omega
  positive := h.positive

end At

theorem fill_of_le {b : Blocks} {count : Nat} (h : count ≤ b.held.length) :
    b.fill count = (.ok (), b) := by
  unfold fill fetchesLeft fillLoop
  rw [if_pos h]

end Blocks

end Lexis
