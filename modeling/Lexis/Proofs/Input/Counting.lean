import Lexis.Proofs.Input.Reads

/-!
# Counting characters

The characters of a source are counted by the bytes that begin one, in blocks that are read for the
count alone. So the count is exact for any size of the blocks, wherever they cut characters, and it
has nothing to do with the cursor: a count leaves the input as it is, but for the reads that are
noted and for the count itself, which is kept if no read fails.

What else is asked of the input is not answered from these. As long as no read fails, it makes no
difference which number a read has, so without the counts the input stays the same but for the
notes (`BufferedText.uncounted`).

Principal results:

* `BufferedText.countStarts_encode` — how many bytes of a text begin a character;
* `BufferedText.charCount_ends` — one count;
* `BufferedText.perform_uncounted` — one request without the counts in front of it;
* `BufferedText.exchanges_uncounted` — all requests without the counts among them;
* `BufferedText.charCount_exact` — counts among any requests.
-/

namespace Lexis

open Text

namespace Source

/-- The source copies all it is asked for at the reads from one number on to another. -/
def Clear (s : Source) (start stop : Nat) : Prop :=
  ∀ k, start ≤ k → k < stop → s.plan k = .full

variable {s : Source} {start middle stop : Nat}

theorem Clear.trans (h : s.Clear start middle) (h' : s.Clear middle stop) : s.Clear start stop := by
  intro k hk hlt
  by_cases hmiddle : k < middle
  · exact h k hk hmiddle
  · exact h' k (Nat.le_of_not_lt hmiddle) hlt

theorem Clear.of_le (h : s.Clear start stop) (hle : start ≤ middle) : s.Clear middle stop :=
  fun k hk hlt => h k (Nat.le_trans hle hk) hlt

theorem clear_self (s : Source) (start : Nat) : s.Clear start start :=
  fun _ hk hlt => absurd hlt (Nat.not_lt_of_le hk)

end Source

namespace BufferedText

/-! ## Bytes that begin a character -/

theorem countStarts_append (as bs : List UInt8) :
    countStarts (as ++ bs) = countStarts as + countStarts bs :=
  List.countP_append

theorem countStarts_le_length (bytes : List UInt8) : countStarts bytes ≤ bytes.length :=
  List.countP_le_length

theorem countStarts_isPrefix {as bs : List UInt8} (h : as <+: bs) :
    countStarts as ≤ countStarts bs := by
  obtain ⟨rest, rfl⟩ := h
  rw [countStarts_append]
  exact Nat.le_add_right _ _

theorem countStarts_encodeChar (c : Char) : countStarts (String.utf8EncodeChar c) = 1 := by
  have hspells := spells_encodeChar c
  generalize String.utf8EncodeChar c = bytes at hspells
  have htail : ∀ y < 64, isContinuation (UInt8.ofNat (y + 0x80)) = true := by decide
  have hone : ∀ x < 0x80, isContinuation (UInt8.ofNat x) = false := by decide
  have htwo : ∀ x < 32, isContinuation (UInt8.ofNat (x + 0xC0)) = false := by decide
  have hthree : ∀ x < 16, isContinuation (UInt8.ofNat (x + 0xE0)) = false := by decide
  have hfour : ∀ x < 5, isContinuation (UInt8.ofNat (x + 0xF0)) = false := by decide
  unfold countStarts
  cases hspells with
  | one hx =>
    rw [List.countP_cons, hone _ hx]
    rfl
  | two _ hx hy =>
    rw [List.countP_cons, List.countP_cons, htwo _ hx, htail _ hy]
    rfl
  | three hx hy hz =>
    rw [List.countP_cons, List.countP_cons, List.countP_cons, hthree _ hx, htail _ hy, htail _ hz]
    rfl
  | four hx hy hz hw =>
    rw [List.countP_cons, List.countP_cons, List.countP_cons, List.countP_cons,
      hfour _ (Nat.lt_succ_of_le hx), htail _ hy, htail _ hz, htail _ hw]
    rfl

/-- **The bytes of a text have as many that begin a character as the text has characters.** -/
theorem countStarts_encode (cs : List Char) : countStarts (encode cs) = cs.length := by
  induction cs with
  | nil => rfl
  | cons c cs ih =>
    rw [encode_cons, countStarts_append, countStarts_encodeChar, ih, List.length_cons,
      Nat.add_comm]

theorem countStarts_take_add (bytes : List UInt8) (position n : Nat) :
    countStarts (bytes.take position) + countStarts ((bytes.drop position).take n) =
      countStarts (bytes.take (position + n)) := by
  rw [List.take_add, countStarts_append]

/-! ## One count -/

/-- How a count comes out that makes the reads, with `known` reads of the source before it: all of
them succeed, and it is the number of bytes of the source that begin a character; or the last one
fails, for the reason that the source has for this read. -/
inductive CountEnds (source : Source) (known : Nat) : List ReadNote → Except Fault Nat → Prop where
  | counted {reads : List ReadNote} (hreads : ∀ read ∈ reads, read.returned ≠ none) :
      CountEnds source known reads (.ok (countStarts source.bytes))
  | failed (reads : List ReadNote) {last : ReadNote} {reason : String}
      (hreads : ∀ read ∈ reads, read.returned ≠ none) (hlast : last.returned = none)
      (hplan : source.plan (known + reads.length) = .refused reason) :
      CountEnds source known (reads ++ [last]) (.error (.unreadable reason))

variable {source s : Source} {size known : Nat}

theorem CountEnds.cons {reads : List ReadNote} {answer : Except Fault Nat}
    (h : CountEnds source (known + 1) reads answer) {read : ReadNote}
    (hread : read.returned ≠ none) : CountEnds source known (read :: reads) answer := by
  have hall : ∀ {others : List ReadNote}, (∀ other ∈ others, other.returned ≠ none) →
      ∀ other ∈ read :: others, other.returned ≠ none := by
    intro others hothers other hother
    rcases List.mem_cons.1 hother with rfl | hother
    · exact hread
    · exact hothers other hother
  cases h with
  | counted hreads => exact .counted (hall hreads)
  | failed reads hreads hlast hplan =>
    refine .failed (read :: reads) (hall hreads) hlast ?_
    rwa [List.length_cons, Nat.add_comm reads.length, ← Nat.add_assoc]

theorem CountEnds.answer_cases {reads : List ReadNote} {answer : Except Fault Nat}
    (h : CountEnds source known reads answer) :
    answer = .ok (countStarts source.bytes) ∨ ∃ reason, answer = .error (.unreadable reason) := by
  cases h with
  | counted => exact Or.inl rfl
  | failed => exact Or.inr ⟨_, rfl⟩

theorem later_countLoop (size : Nat) : ∀ (fuel position chars : Nat) (s : Source),
    s.Later (countLoop size fuel position chars s).2
  | 0, _, _, s => .refl
  | fuel + 1, position, chars, s => by
    have hread : s.Later (s.read size position).2 := .read .refl size position
    unfold countLoop
    split
    · rename_i fault t h
      rwa [h] at hread
    · rename_i block t h
      rw [h] at hread
      dsimp only
      split
      · exact hread
      · exact hread.trans (later_countLoop size fuel _ _ t)

/-- **Counting on from a position**: the reads go on where those before it have ended, by induction
on the blocks that are left. -/
theorem countLoop_ends (hcopies : source.CopiesAll) (hsize : 0 < size) :
    ∀ (fuel position : Nat) {earlier : List ReadNote} {s : Source}, s.SameAs source →
      ReadNote.InOrder size source.bytes.length earlier → position = ReadNote.brought earlier →
      position ≤ source.bytes.length → source.bytes.length - position < fuel →
      ∃ answer t new,
        countLoop size fuel position (countStarts (source.bytes.take position)) s = (answer, t) ∧
        t.notes = new.reverse ++ s.notes ∧ new ≠ [] ∧
        ReadNote.InOrder size source.bytes.length (earlier ++ new) ∧
        CountEnds source s.notes.length new answer
  | 0, _, _, _, _, _, _, _, hfuel => absurd hfuel (Nat.not_lt_zero _)
  | fuel + 1, position, earlier, s, hs, horder, hposition, hinside, hfuel => by
    obtain ⟨hbytes, hplan, hfault⟩ := hs
    rcases hcopies s.notes.length with hfull | ⟨reason, hrefused⟩
    · have hread := Source.read_of_full (s := s) (by rw [hplan, hfull]) size position
      rw [hbytes] at hread
      have hlength : ((source.bytes.drop position).take size).length =
          min size (source.bytes.length - position) := by
        rw [List.length_take, List.length_drop]
      have horder' := horder.concat
        ⟨position, size, some ((source.bytes.drop position).take size).length⟩ rfl hposition
        (fun n hn => (Option.some.inj hn).symm.trans hlength)
      rw [countLoop, hread]
      dsimp only
      rw [countStarts_take_add]
      by_cases hshort : ((source.bytes.drop position).take size).length < size
      · have hall : source.bytes.take (position + size) = source.bytes :=
          List.take_of_length_le (by omega)
        rw [if_pos hshort, hall]
        refine ⟨_, _, [_], rfl, rfl, List.cons_ne_nil _ _, horder', .counted fun read hread => ?_⟩
        rw [List.mem_singleton.1 hread]
        exact Option.some_ne_none _
      · have hwhole : ((source.bytes.drop position).take size).length = size := by omega
        rw [hwhole] at horder'
        obtain ⟨answer, t, new, hloop, hnotes, -, hmore, hends⟩ := countLoop_ends hcopies hsize fuel
          (position + size) (s := s.noting ⟨position, size, some size⟩) ⟨hbytes, hplan, hfault⟩
          horder' (by simp [hposition]) (by omega) (by omega)
        rw [if_neg hshort, hwhole]
        refine ⟨answer, t, ⟨position, size, some size⟩ :: new, hloop, ?_, List.cons_ne_nil _ _, ?_,
          hends.cons (Option.some_ne_none _)⟩
        · rw [hnotes]
          simp [Source.noting]
        · rwa [List.append_assoc] at hmore
    · have hread := Source.read_of_refused (s := s) (by rw [hplan, hrefused]) size position
      rw [countLoop, hread]
      refine ⟨_, _, [_], rfl, rfl, List.cons_ne_nil _ _,
        horder.concat ⟨position, size, none⟩ rfl hposition (fun n hn => ?_),
        .failed [] (fun _ h => absurd h List.not_mem_nil) rfl hrefused⟩
      cases hn

/-- **One count**, if none has come out before, reads from the start; the cursor and the bytes held
stay. -/
theorem charCount_ends (hcopies : source.CopiesAll) {i : BufferedText}
    (hsource : i.blocks.source.SameAs source) (hsize : 0 < i.blocks.blockSize)
    (hnone : i.charCount? = none) :
    ∃ (answer : Except Fault Nat) (t : Source) (new : List ReadNote),
      i.charCount = (answer,
        { i with blocks := { i.blocks with source := t }, charCount? := answer.toOption }) ∧
      t.notes = new.reverse ++ i.blocks.source.notes ∧ new ≠ [] ∧
      ReadNote.InOrder i.blocks.blockSize source.bytes.length new ∧
      CountEnds source i.blocks.source.notes.length new answer := by
  obtain ⟨answer, t, new, hloop, hnotes, hnew, horder, hends⟩ := countLoop_ends hcopies hsize
    (i.blocks.source.bytes.length + 1) 0 hsource ReadNote.inOrder_nil rfl (Nat.zero_le _)
    (by rw [hsource.1]; omega)
  refine ⟨answer, t, new, ?_, hnotes, hnew, horder, hends⟩
  rw [List.take_zero, show countStarts [] = 0 from rfl] at hloop
  unfold charCount
  rw [hnone]
  dsimp only
  rw [hloop]
  cases answer <;> rfl

end BufferedText

/-! ## Requests -/

/-- The second blocks come of the first ones by reading the source. -/
structure Blocks.Onward (b b' : Blocks) : Prop where
  later : b.source.Later b'.source
  blockSize : b'.blockSize = b.blockSize

namespace Blocks.Onward

variable {b b' b'' : Blocks}

theorem refl (b : Blocks) : b.Onward b := ⟨.refl, rfl⟩

theorem trans (h : b.Onward b') (h' : b'.Onward b'') : b.Onward b'' :=
  ⟨h.later.trans h'.later, h'.blockSize.trans h.blockSize⟩

theorem fetch (b : Blocks) : b.Onward b.fetch.2 := by
  refine ⟨b.later_fetch, ?_⟩
  unfold Blocks.fetch
  split <;> rfl

end Blocks.Onward

/-- What can be asked of characters over a source. -/
inductive TextRequest where
  | ask (request : Request)
  | charCount
  deriving DecidableEq, Repr

namespace BufferedText

def serve (i : BufferedText) : TextRequest → Except Fault (Reply (List Char)) × BufferedText
  | .ask request => Input.perform i request
  | .charCount => (i.charCount.1.map .count, i.charCount.2)

theorem fillLoop_onward (count : Nat) : ∀ (fuel : Nat) (i : BufferedText),
    ∃ b, (i.fillLoop count fuel).2 = { i with blocks := b } ∧ i.blocks.Onward b
  | 0, i => ⟨i.blocks, rfl, .refl _⟩
  | fuel + 1, i => by
    have hfetch := Blocks.Onward.fetch i.blocks
    unfold fillLoop
    split
    · exact ⟨i.blocks, rfl, .refl _⟩
    split
    · exact ⟨i.blocks, rfl, .refl _⟩
    split <;> rename_i h <;> rw [h] at hfetch
    · exact ⟨_, rfl, hfetch⟩
    · exact ⟨_, rfl, hfetch⟩
    · rename_i b
      obtain ⟨b', hb', honward⟩ := fillLoop_onward count fuel { i with blocks := b }
      exact ⟨b', hb', hfetch.trans honward⟩

/-- **A request other than for the count** leaves the count as it is. -/
theorem perform_onward (i : BufferedText) (request : Request) :
    ∃ b p, (Input.perform i request).2 = { i with blocks := b, position := p } ∧
      i.blocks.Onward b := by
  rcases Input.perform_state i request with ⟨-, hstate⟩ | ⟨count, -, hstate⟩
  · exact ⟨i.blocks, i.position, hstate, .refl _⟩
  · obtain ⟨b, hfill, honward⟩ := fillLoop_onward count i.blocks.fetchesLeft i
    rw [peek_state, fill, hfill] at hstate
    rcases hstate with hstate | ⟨n, hstate⟩
    · exact ⟨b, i.position, hstate, honward⟩
    · exact ⟨_, _, hstate, honward.later, honward.blockSize⟩

/-- **A count** leaves the cursor and the bytes held as they are. -/
theorem charCount_onward (i : BufferedText) : ∃ t count?,
    i.charCount.2 = { i with blocks := { i.blocks with source := t }, charCount? := count? } ∧
      i.blocks.source.Later t := by
  have hlater := later_countLoop i.blocks.blockSize (i.blocks.source.bytes.length + 1) 0 0
    i.blocks.source
  unfold charCount
  split
  · exact ⟨i.blocks.source, _, rfl, .refl⟩
  · dsimp only
    split <;> rename_i h <;> rw [h] at hlater
    · exact ⟨_, _, rfl, hlater⟩
    · exact ⟨_, _, rfl, hlater⟩

theorem serve_onward (i : BufferedText) (request : TextRequest) :
    i.blocks.Onward (i.serve request).2.blocks := by
  cases request with
  | ask request =>
    obtain ⟨b, p, hstate, honward⟩ := perform_onward i request
    show i.blocks.Onward (Input.perform i request).2.blocks
    rwa [hstate]
  | charCount =>
    obtain ⟨t, count?, hstate, hlater⟩ := charCount_onward i
    show i.blocks.Onward i.charCount.2.blocks
    rw [hstate]
    exact ⟨hlater, rfl⟩

theorem At.serve {source : Source} {done : List Char} {i : BufferedText} (h : i.At source done)
    (request : TextRequest) : ∃ done', (i.serve request).2.At source done' := by
  cases request with
  | ask request =>
    rcases Input.perform_state i request with ⟨-, hstate⟩ | ⟨count, -, hstate⟩
    · exact ⟨done, by rw [BufferedText.serve, hstate]; exact h⟩
    · have hpeek : (Input.peek count i).2.At source done := by
        rcases h.peek count with ⟨_, i', hi, hat, -⟩ | ⟨i', hi, hat, -⟩ | ⟨_, i', hi, hat, -⟩ <;>
          rwa [hi]
      rcases hstate with hstate | ⟨n, hstate⟩
      · exact ⟨done, by rw [BufferedText.serve, hstate]; exact hpeek⟩
      · exact ⟨_, by rw [BufferedText.serve, hstate]; exact hpeek.advance n⟩
  | charCount =>
    obtain ⟨t, count?, hstate, hlater⟩ := charCount_onward i
    refine ⟨done, ?_⟩
    show i.charCount.2.At source done
    rw [hstate]
    have hsame := hlater.exists_notes.1.trans h.blocks.source
    exact ⟨h.blocks.of_source hsame, h.behind, h.position⟩

/-! ## Without the counts -/

/-- The input as if nothing had been counted, with other reads behind it. -/
def uncounted (i : BufferedText) (notes : List ReadNote) : BufferedText :=
  { i with
    blocks := { i.blocks with source := { i.blocks.source with notes := notes } }
    charCount? := none }

/-- As long as neither the text held is enough nor the bytes held are no text, a block is fetched;
the source copies all of it. -/
theorem fillLoop_of_full {count fuel : Nat} {i : BufferedText} (hcount : ¬count ≤ i.text.length)
    (hvalid : (decode i.blocks.held).2 ≠ .invalid)
    (hplan : i.blocks.source.plan i.blocks.source.notes.length = .full) :
    i.fillLoop count (fuel + 1) =
      if i.blocks.upcoming.length < i.blocks.blockSize then
        (({ i with blocks := i.blocks.receive } : BufferedText).lastCheck count,
          { i with blocks := i.blocks.receive })
      else fillLoop count fuel { i with blocks := i.blocks.receive } := by
  rw [fillLoop, if_neg hcount, if_neg hvalid, Blocks.fetch_of_full hplan]
  by_cases hshort : i.blocks.upcoming.length < i.blocks.blockSize
  · rw [if_pos hshort, if_pos hshort]
  · rw [if_neg hshort, if_neg hshort]

theorem lt_fillLoop (fuel : Nat) {count : Nat} {i : BufferedText} (hcount : ¬count ≤ i.text.length)
    (hvalid : (decode i.blocks.held).2 ≠ .invalid) :
    i.blocks.source.notes.length <
      (i.fillLoop count (fuel + 1)).2.blocks.source.notes.length := by
  obtain ⟨note, hnote, -⟩ := i.blocks.source.exists_note_of_read i.blocks.blockSize i.blocks.fetched
  have hfetch : i.blocks.fetch.2.source.notes = note :: i.blocks.source.notes := by
    rw [Blocks.fetch_source, hnote]
    rfl
  have hmore : i.blocks.source.notes.length < i.blocks.fetch.2.source.notes.length := by
    rw [hfetch]
    exact Nat.lt_succ_self _
  rw [fillLoop, if_neg hcount, if_neg hvalid]
  split <;> rename_i b h <;> rw [h] at hmore
  · exact hmore
  · exact hmore
  · obtain ⟨b', hb', honward⟩ := fillLoop_onward count fuel { i with blocks := b }
    rw [hb']
    exact Nat.lt_of_lt_of_le hmore honward.later.length_le

/-- **Filling** does the same with other reads behind, as long as none is refused from the fewer
reads on; by induction on the fuel. -/
theorem fillLoop_uncounted (count : Nat) : ∀ (fuel : Nat) (i : BufferedText)
    (notes : List ReadNote), notes.length ≤ i.blocks.source.notes.length →
    i.blocks.source.Clear notes.length
      (i.fillLoop count fuel).2.blocks.source.notes.length →
    ∃ new : List ReadNote,
      (i.fillLoop count fuel).2.blocks.source.notes = new.reverse ++ i.blocks.source.notes ∧
      (i.uncounted notes).fillLoop count fuel =
        ((i.fillLoop count fuel).1,
          (i.fillLoop count fuel).2.uncounted (new.reverse ++ notes))
  | 0, i, notes, _, _ => ⟨[], rfl, rfl⟩
  | fuel + 1, i, notes, hfewer, hclear => by
    by_cases hcount : count ≤ i.text.length
    · refine ⟨[], ?_, ?_⟩
      · rw [fillLoop, if_pos hcount]
        rfl
      · rw [fillLoop, fillLoop, if_pos hcount, if_pos (show count ≤ (i.uncounted notes).text.length
          from hcount)]
        rfl
    by_cases hinvalid : (decode i.blocks.held).2 = .invalid
    · refine ⟨[], ?_, ?_⟩
      · rw [fillLoop, if_neg hcount, if_pos hinvalid]
        rfl
      · rw [fillLoop, fillLoop, if_neg hcount, if_pos hinvalid,
          if_neg (show ¬count ≤ (i.uncounted notes).text.length from hcount),
          if_pos (show (decode (i.uncounted notes).blocks.held).2 = .invalid from hinvalid)]
        rfl
    have hlt := lt_fillLoop fuel hcount hinvalid
    have hplan := hclear _ hfewer hlt
    have hplan' := hclear _ (Nat.le_refl _) (Nat.lt_of_le_of_lt hfewer hlt)
    rw [fillLoop_of_full hcount hinvalid hplan] at hclear ⊢
    rw [fillLoop_of_full (i := i.uncounted notes) hcount hinvalid hplan']
    by_cases hshort : i.blocks.upcoming.length < i.blocks.blockSize
    · rw [if_pos hshort, if_pos (show (i.uncounted notes).blocks.upcoming.length <
        (i.uncounted notes).blocks.blockSize from hshort)]
      exact ⟨[i.blocks.blockNote], rfl, rfl⟩
    · rw [if_neg hshort] at hclear ⊢
      rw [if_neg (show ¬(i.uncounted notes).blocks.upcoming.length <
        (i.uncounted notes).blocks.blockSize from hshort)]
      obtain ⟨new, hnotes, hsame⟩ := fillLoop_uncounted count fuel
        { i with blocks := i.blocks.receive } (i.blocks.blockNote :: notes)
        (Nat.succ_le_succ hfewer) (hclear.of_le (Nat.le_succ _))
      refine ⟨i.blocks.blockNote :: new, ?_, ?_⟩
      · simp [hnotes]
      · rw [List.reverse_cons, List.append_assoc]
        exact hsame

theorem peek_uncounted (count : Nat) (i : BufferedText) {notes : List ReadNote}
    (hfewer : notes.length ≤ i.blocks.source.notes.length)
    (hclear : i.blocks.source.Clear notes.length
      (Input.peek count i).2.blocks.source.notes.length) :
    ∃ new : List ReadNote,
      (Input.peek count i).2.blocks.source.notes = new.reverse ++ i.blocks.source.notes ∧
      Input.peek count (i.uncounted notes) =
        ((Input.peek count i).1, (Input.peek count i).2.uncounted (new.reverse ++ notes)) := by
  rw [peek_state] at hclear ⊢
  obtain ⟨new, hnotes, hsame⟩ := fillLoop_uncounted count i.blocks.fetchesLeft i notes hfewer hclear
  refine ⟨new, hnotes, ?_⟩
  have hfill : (i.uncounted notes).fill count =
      ((i.fill count).1, (i.fill count).2.uncounted (new.reverse ++ notes)) := hsame
  simp only [Input.peek, hfill]
  generalize i.fill count = out
  obtain ⟨answer, i'⟩ := out
  cases answer <;> rfl

/-- The source after a request is that after looking for the units it asks for. -/
theorem perform_source {request : Request} {count : Nat} (hcount : request.count? = some count)
    (i : BufferedText) :
    (Input.perform i request).2.blocks.source = (Input.peek count i).2.blocks.source := by
  rcases Input.perform_state i request with ⟨hnone, -⟩ | ⟨count', hcount', hstate | ⟨n, hstate⟩⟩
  · rw [hcount] at hnone
    cases hnone
  · rw [hcount] at hcount'
    obtain rfl := Option.some.inj hcount'
    rw [hstate]
  · rw [hcount] at hcount'
    obtain rfl := Option.some.inj hcount'
    rw [hstate]
    rfl

/-- **Any request** other than for the count is answered the same and makes the same reads. -/
theorem perform_uncounted (i : BufferedText) (request : Request) {notes : List ReadNote}
    (hfewer : notes.length ≤ i.blocks.source.notes.length)
    (hclear : i.blocks.source.Clear notes.length
      (Input.perform i request).2.blocks.source.notes.length) :
    ∃ new : List ReadNote,
      (Input.perform i request).2.blocks.source.notes = new.reverse ++ i.blocks.source.notes ∧
      Input.perform (i.uncounted notes) request =
        ((Input.perform i request).1,
          (Input.perform i request).2.uncounted (new.reverse ++ notes)) := by
  cases hcount : request.count? with
  | none =>
    cases request with
    | size => exact ⟨[], rfl, rfl⟩
    | position => exact ⟨[], rfl, rfl⟩
    | peek | next | skip => cases hcount
  | some count =>
    rw [perform_source hcount] at hclear ⊢
    obtain ⟨new, hnotes, hsame⟩ := peek_uncounted count i hfewer hclear
    refine ⟨new, hnotes, ?_⟩
    -- what a request does with the units it has asked for does not read the notes
    cases request <;> cases hcount <;>
      simp only [Input.perform, Input.next, Input.skip, hsame]
    all_goals
      generalize Input.peek count i = out
      obtain ⟨answer, i'⟩ := out
      cases answer <;> rfl

end BufferedText

/-! ## Any requests -/

/-- What of an exchange is seen from outside: the request and the answer, where the cursor was
before it and after it, and the reads. -/
def Exchange.seen {α : Type} (e : Exchange TextRequest BufferedText α) :
    TextRequest × α × Nat × Nat × List ReadNote :=
  (e.request, e.reply, Input.position e.before, Input.position e.after, e.reads)

/-- Whether an exchange is about something else than the count. -/
def Exchange.asks {α : Type} (e : Exchange TextRequest BufferedText α) : Bool :=
  e.request != .charCount

namespace BufferedText

theorem reads_exchange {i : BufferedText} {request : TextRequest} {new : List ReadNote}
    (h : (i.serve request).2.blocks.source.notes = new.reverse ++ i.blocks.source.notes) :
    (exchange serve i request).reads = new :=
  Exchange.reads_eq rfl rfl h

theorem clear_of_reads {i : BufferedText} (hcopies : i.blocks.source.CopiesAll)
    {request : TextRequest}
    (hreads : ∀ read ∈ (exchange serve i request).reads, read.returned ≠ none) :
    i.blocks.source.Clear i.blocks.source.notes.length
      (i.serve request).2.blocks.source.notes.length := by
  obtain ⟨-, new, hnotes, hfailed⟩ := (serve_onward i request).later.exists_notes
  rw [reads_exchange hnotes] at hreads
  intro k hk hlt
  obtain ⟨j, rfl⟩ := Nat.exists_eq_add_of_le hk
  rw [hnotes, List.length_append, List.length_reverse] at hlt
  have hj : j < new.length := by omega
  rcases hcopies (i.blocks.source.notes.length + j) with hfull | hrefused
  · exact hfull
  · have hnone := (hfailed j new[j] (List.getElem?_eq_getElem hj)).2 hrefused
    exact absurd hnone (hreads _ (List.getElem_mem hj))

/-- A count changes nothing but the count and the reads. -/
theorem charCount_uncounted (i : BufferedText) (notes : List ReadNote) :
    i.charCount.2.uncounted notes = i.uncounted notes := by
  obtain ⟨t, count?, hstate, hlater⟩ := charCount_onward i
  obtain ⟨⟨hbytes, hplan, hfault⟩, -⟩ := hlater.exists_notes
  rw [hstate]
  simp only [uncounted, hbytes, hplan, hfault]

theorem seen_uncounted (i : BufferedText) (request : Request) {notes : List ReadNote}
    (hfewer : notes.length ≤ i.blocks.source.notes.length)
    (hclear : i.blocks.source.Clear notes.length
      (i.serve (.ask request)).2.blocks.source.notes.length) :
    ∃ new : List ReadNote,
      (i.serve (.ask request)).2.blocks.source.notes =
        new.reverse ++ i.blocks.source.notes ∧
      ((i.uncounted notes).serve (.ask request)).2 =
        (i.serve (.ask request)).2.uncounted (new.reverse ++ notes) ∧
      (exchange serve (i.uncounted notes) (.ask request)).seen =
        (exchange serve i (.ask request)).seen := by
  obtain ⟨new, hnotes, hsame⟩ := perform_uncounted i request hfewer hclear
  have hserve : (i.uncounted notes).serve (.ask request) =
      ((i.serve (.ask request)).1,
        (i.serve (.ask request)).2.uncounted (new.reverse ++ notes)) := hsame
  refine ⟨new, hnotes, congrArg Prod.snd hserve, ?_⟩
  have hreads : (exchange serve i (.ask request)).reads = new := reads_exchange hnotes
  have hreads' : (exchange serve (i.uncounted notes) (.ask request)).reads = new := by
    refine reads_exchange ?_
    rw [hserve]
    rfl
  unfold Exchange.seen
  rw [hreads, hreads']
  simp only [exchange, hserve]
  rfl

/-- **Without the counts**, where no read fails, everything else is seen as before. -/
theorem exchanges_uncounted : ∀ (requests : List TextRequest) {i : BufferedText}
    (notes : List ReadNote), i.blocks.source.CopiesAll →
    notes.length ≤ i.blocks.source.notes.length →
    i.blocks.source.Clear notes.length i.blocks.source.notes.length →
    (∀ read ∈ allReads (exchanges serve requests i), read.returned ≠ none) →
    ((exchanges serve requests i).filter Exchange.asks).map Exchange.seen =
      (exchanges serve (requests.filter (· != .charCount)) (i.uncounted notes)).map Exchange.seen
  | [], _, _, _, _, _, _ => rfl
  | request :: requests, i, notes, hcopies, hfewer, hclear, hreads => by
    rw [exchanges, allReads_cons] at hreads
    have hfirst : ∀ read ∈ (exchange serve i request).reads, read.returned ≠ none :=
      fun read hread => hreads read (List.mem_append_left _ hread)
    have hrest : ∀ read ∈ allReads (exchanges serve requests (i.serve request).2),
        read.returned ≠ none :=
      fun read hread => hreads read (List.mem_append_right _ hread)
    have hlater := (serve_onward i request).later
    obtain ⟨⟨-, hplan, -⟩, -⟩ := hlater.exists_notes
    have hcopies' : (i.serve request).2.blocks.source.CopiesAll := by
      unfold Source.CopiesAll
      rwa [hplan]
    have hnext := hclear.trans (clear_of_reads hcopies hfirst)
    have hclear' : (i.serve request).2.blocks.source.Clear notes.length
        (i.serve request).2.blocks.source.notes.length := by
      unfold Source.Clear
      rwa [hplan]
    cases request with
    | charCount =>
      -- the run without the counts has not moved, and its reads are more behind
      have hmore := exchanges_uncounted requests notes hcopies'
        (Nat.le_trans hfewer hlater.length_le) hclear' hrest
      rw [show (i.serve .charCount).2.uncounted notes = i.uncounted notes from
        charCount_uncounted i notes] at hmore
      exact hmore
    | ask request =>
      obtain ⟨new, hnotes, hstate, hseen⟩ := seen_uncounted i request hfewer hnext
      have hlength : (new.reverse ++ notes).length ≤
          (i.serve (.ask request)).2.blocks.source.notes.length := by
        rw [hnotes, List.length_append, List.length_append]
        exact Nat.add_le_add_left hfewer _
      have hknown : notes.length ≤ (new.reverse ++ notes).length := by
        rw [List.length_append]
        exact Nat.le_add_left _ _
      have hmore := exchanges_uncounted requests _ hcopies' hlength (hclear'.of_le hknown) hrest
      rw [exchanges, List.filter_cons_of_pos rfl, List.map_cons, hmore, ← hseen,
        List.filter_cons_of_pos rfl, exchanges, List.map_cons, hstate]

/-! ## Counts among other requests -/

/-- A request of characters over a source. -/
abbrev Served := Exchange TextRequest BufferedText (Except Fault (Reply (List Char)))

/-- Whether the characters have been counted with success. -/
def Counted (log : List Served) : Prop :=
  ∃ e ∈ log, e.request = .charCount ∧ ∃ reply, e.reply = .ok reply

theorem counted_concat {log : List Served} {e : Served} :
    Counted (log ++ [e]) ↔ Counted log ∨ e.request = .charCount ∧ ∃ reply, e.reply = .ok reply := by
  simp [Counted, or_and_right, exists_or]

/-- A count that is made by reading: in blocks of its own from the start of the source, while the
cursor and what is held for it stay. It is kept if no read fails, and nothing is kept otherwise. -/
structure Recounts (source : Source) (size : Nat) (e : Served) : Prop where
  reads_ne : e.reads ≠ []
  inOrder : ReadNote.InOrder size source.bytes.length e.reads
  ends : ∃ answer : Except Fault Nat, e.reply = answer.map .count ∧
    e.after.charCount? = answer.toOption ∧
    CountEnds source e.before.blocks.source.notes.length e.reads answer
  position : e.after.position = e.before.position
  held : e.after.blocks.held = e.before.blocks.held
  fetched : e.after.blocks.fetched = e.before.blocks.fetched

/-- What holds in front of each request: the cursor is behind characters of the source, and the
count is known exactly if it has come out before. -/
structure Going (source : Source) (size : Nat) (log : List Served) (i : BufferedText) : Prop where
  place : ∃ done, i.At source done
  blockSize : i.blocks.blockSize = size
  known : Counted log → i.charCount? = some (countStarts source.bytes)
  unknown : ¬Counted log → i.charCount? = none

namespace Going

variable {source : Source} {size : Nat} {log : List Served} {i : BufferedText}

theorem ofSource (source : Source) (blockSize : Nat) :
    Going source (max blockSize 1) [] (ofSource source blockSize) where
  place := ⟨[], at_ofSource source blockSize⟩
  blockSize := rfl
  known := by
    rintro ⟨e, he, -⟩
    cases he
  unknown _ := rfl

theorem position_le (h : Going source size log i) : i.position ≤ countStarts source.bytes := by
  obtain ⟨done, hat⟩ := h.place
  rw [hat.position, ← countStarts_encode done]
  exact countStarts_isPrefix hat.behind

/-- **A count that is known** is told again, without a read. -/
theorem charCount_of_counted (h : Going source size log i) (hlog : Counted log) :
    i.serve .charCount = (.ok (.count (countStarts source.bytes)), i) := by
  simp only [serve, charCount, h.known hlog]
  rfl

theorem charCount_repeats (h : Going source size log i) (hlog : Counted log) :
    (exchange serve i .charCount).reads = [] ∧
      (exchange serve i .charCount).reply = .ok (.count (countStarts source.bytes)) ∧
      (exchange serve i .charCount).after = i := by
  have hserve := h.charCount_of_counted hlog
  refine ⟨reads_exchange ?_, congrArg Prod.fst hserve, congrArg Prod.snd hserve⟩
  rw [hserve]
  rfl

/-- **A count that is not known** is made by reading. -/
theorem charCount_recounts (h : Going source size log i) (hcopies : source.CopiesAll)
    (hlog : ¬Counted log) : Recounts source size (exchange serve i .charCount) := by
  obtain ⟨done, hat⟩ := h.place
  obtain ⟨answer, t, new, hcount, hnotes, hnew, horder, hends⟩ :=
    charCount_ends hcopies hat.blocks.source hat.blocks.positive (h.unknown hlog)
  have hserve : i.serve .charCount = (answer.map .count,
      { i with blocks := { i.blocks with source := t }, charCount? := answer.toOption }) := by
    simp only [serve, hcount]
  have hreads : (exchange serve i .charCount).reads = new := by
    refine reads_exchange ?_
    rw [hserve]
    exact hnotes
  constructor
  · rwa [hreads]
  · rwa [hreads, ← h.blockSize]
  · refine ⟨answer, ?_, ?_, ?_⟩
    · simp only [exchange, hserve]
    · simp only [exchange, hserve]
    · rwa [hreads]
  all_goals simp only [exchange, hserve]

theorem serve (h : Going source size log i) (hcopies : source.CopiesAll) (request : TextRequest) :
    Going source size (log ++ [exchange serve i request]) (i.serve request).2 := by
  have hplace : ∃ done, (i.serve request).2.At source done := by
    obtain ⟨done, hat⟩ := h.place
    exact hat.serve request
  have hblockSize : (i.serve request).2.blocks.blockSize = size :=
    (serve_onward i request).blockSize.trans h.blockSize
  cases request with
  | ask request =>
    obtain ⟨b, p, hstate, -⟩ := perform_onward i request
    have hcount : (i.serve (.ask request)).2.charCount? = i.charCount? := by
      show (Input.perform i request).2.charCount? = _
      rw [hstate]
    have hsame : Counted (log ++ [exchange BufferedText.serve i (.ask request)]) ↔ Counted log := by
      rw [counted_concat]
      exact or_iff_left fun hask => by cases hask.1
    refine ⟨hplace, hblockSize, fun hlog => ?_, fun hlog => ?_⟩
    · rw [hcount]
      exact h.known (hsame.1 hlog)
    · rw [hcount]
      exact h.unknown fun hlog' => hlog (hsame.2 hlog')
  | charCount =>
    by_cases hlog : Counted log
    · refine ⟨hplace, hblockSize, fun _ => ?_, fun hlog' => ?_⟩
      · rw [h.charCount_of_counted hlog]
        exact h.known hlog
      · exact absurd (counted_concat.2 (Or.inl hlog)) hlog'
    · obtain ⟨answer, hreply, hkept, hends⟩ := (h.charCount_recounts hcopies hlog).ends
      have hcounted : Counted (log ++ [exchange BufferedText.serve i .charCount]) ↔
          ∃ reply, answer.map Reply.count = .ok (reply : Reply (List Char)) := by
        rw [counted_concat, ← hreply]
        exact ⟨fun hor => (hor.resolve_left hlog).2, fun hok => Or.inr ⟨rfl, hok⟩⟩
      refine ⟨hplace, hblockSize, fun hlog' => ?_, fun hlog' => ?_⟩
      · obtain ⟨reply, hok⟩ := hcounted.1 hlog'
        rcases hends.answer_cases with rfl | ⟨reason, rfl⟩
        · exact hkept
        · cases hok
      · rcases hends.answer_cases with rfl | ⟨reason, rfl⟩
        · exact absurd (hcounted.2 ⟨_, rfl⟩) hlog'
        · exact hkept

end Going

theorem Recounts.reply_eq {source : Source} {size : Nat} {e : Served} (h : Recounts source size e)
    (hreads : ∀ read ∈ e.reads, read.returned ≠ none) :
    e.reply = .ok (.count (countStarts source.bytes)) := by
  obtain ⟨answer, hreply, -, hends⟩ := h.ends
  rw [hreply]
  generalize e.reads = reads at hends hreads
  cases hends with
  | counted => rfl
  | @failed reads last reason _ hlast =>
    exact absurd hlast (hreads last (List.mem_append_right _ List.mem_cons_self))

theorem size_eq {source : Source} {done : List Char} {i : BufferedText} (h : i.At source done)
    {n : Nat} (hn : (Input.size i).map Reply.count = .ok (.count n : Reply (List Char))) :
    n = source.bytes.length := by
  have hsize : Input.size i = i.blocks.source.size := rfl
  rw [hsize, Source.size, h.blocks.source.1] at hn
  cases hfault : i.blocks.source.sizeFault with
  | some reason =>
    rw [hfault] at hn
    cases hn
  | none =>
    rw [hfault] at hn
    cases hn
    rfl

/-- **The count of characters is exact and is not seen elsewhere.** Over a source that copies all it
is asked for or fails, for any block size and any requests: a count of which no read fails is the
number of bytes of the source that begin a character, which is that of its characters if it is a
text, is not behind the cursor and does not exceed the size. Once it has come out, it is told again
without a read. Until then each count reads the source from the start, and one of which a read fails
has the fault of this read. If no read fails, the other requests are answered the same, at the same
positions and by the same reads, without the counts. -/
theorem charCount_exact {source : Source} (hcopies : source.CopiesAll) (blockSize : Nat)
    (requests : List TextRequest) :
    let size := max blockSize 1
    let starts := countStarts source.bytes
    let log := exchanges serve requests (ofSource source blockSize)
    starts ≤ source.bytes.length ∧ (∀ cs, source.bytes = encode cs → starts = cs.length) ∧
    (∀ earlier e later, log = earlier ++ e :: later →
      e.before.position ≤ starts ∧ e.after.position ≤ starts ∧
      (e.request = .ask .size → ∀ n, e.reply = .ok (.count n) → n = source.bytes.length) ∧
      (e.request = .charCount →
        ((∀ read ∈ e.reads, read.returned ≠ none) → e.reply = .ok (.count starts)) ∧
        (Counted earlier → e.reads = [] ∧ e.reply = .ok (.count starts) ∧ e.after = e.before) ∧
        (¬Counted earlier → Recounts source size e))) ∧
    ((∀ read ∈ allReads log, read.returned ≠ none) →
      (log.filter Exchange.asks).map Exchange.seen =
        (exchanges serve (requests.filter (· != .charCount)) (ofSource source blockSize)).map
          Exchange.seen) := by
  intro size starts log
  refine ⟨countStarts_le_length _, ?_, ?_, ?_⟩
  · rintro cs hbytes
    rw [← countStarts_encode cs, ← hbytes]
  · obtain ⟨-, hbefore⟩ := exchanges_invariant (fun past i request h => h.serve hcopies request)
      requests [] (Going.ofSource source blockSize)
    intro earlier e later hsplit
    obtain ⟨hgoing, he⟩ := hbefore earlier e later hsplit
    rw [List.nil_append] at hgoing
    have hafter := hgoing.serve hcopies e.request
    refine ⟨hgoing.position_le, ?_, fun hsize n hn => ?_, fun hcount => ?_⟩
    · rw [he]
      exact hafter.position_le
    · obtain ⟨done, hat⟩ := hgoing.place
      have hreply : e.reply = (Input.size e.before).map .count := by
        rw [he, hsize]
        rfl
      rw [hreply] at hn
      rw [size_eq hat hn]
    · have hknown : Counted earlier →
          e.reads = [] ∧ e.reply = .ok (.count starts) ∧ e.after = e.before := by
        intro hlog
        have hrepeats := hgoing.charCount_repeats hlog
        rwa [← hcount, ← he] at hrepeats
      have hunknown : ¬Counted earlier → Recounts source size e := by
        intro hlog
        have hrecounts := hgoing.charCount_recounts hcopies hlog
        rwa [← hcount, ← he] at hrecounts
      refine ⟨fun hreads => ?_, hknown, hunknown⟩
      by_cases hlog : Counted earlier
      · exact (hknown hlog).2.1
      · exact (hunknown hlog).reply_eq hreads
  · intro hreads
    exact exchanges_uncounted requests source.notes hcopies (Nat.le_refl _)
      (Source.clear_self source _) hreads

/-- Six bytes with three characters and a byte behind them that begins none, in blocks that cut a
character. If the second read is refused, the first count fails and the second one starts again; if
none is, the requests between the counts do not see them. -/
theorem charCount_exact_refused :
    let content := encode "aéé".toList ++ [0x80]
    let source := Source.flaky content (fun k => if k = 1 then some "offline" else none) none
    let whole := Source.ofBytes content
    let requests : List TextRequest :=
      [.charCount, .ask (.next 2), .charCount, .ask .size, .charCount]
    let first := exchange serve (ofSource source 4) .charCount
    source.CopiesAll ∧ whole.CopiesAll ∧
      (exchanges serve requests (ofSource source 4)).map
          (fun e => (e.reads.length, e.reply.toOption)) =
        [(2, none), (1, some (.chunk "aé".toList)), (2, some (.count 3)), (0, some (.count 6)),
          (0, some (.count 3))] ∧
      Recounts source 4 first ∧
      (∀ read ∈ allReads (exchanges serve requests (ofSource whole 4)), read.returned ≠ none) ∧
      ((exchanges serve requests (ofSource whole 4)).filter Exchange.asks).map Exchange.seen =
        (exchanges serve [.ask (.next 2), .ask .size] (ofSource whole 4)).map Exchange.seen := by
  intro content source whole requests first
  have hsource : source.CopiesAll := Source.copiesAll_flaky _ _ _
  have hwhole : whole.CopiesAll := Source.copiesAll_ofBytes content
  have hreads : ∀ read ∈ allReads (exchanges serve requests (ofSource whole 4)),
      read.returned ≠ none := by decide +kernel
  obtain ⟨-, -, hbefore, -⟩ := charCount_exact hsource 4 requests
  obtain ⟨-, -, -, hcount⟩ :=
    hbefore [] first (exchanges serve (requests.drop 1) first.after) rfl
  obtain ⟨-, -, hrecounts⟩ := hcount rfl
  obtain ⟨-, -, -, hseen⟩ := charCount_exact hwhole 4 requests
  refine ⟨hsource, hwhole, by decide +kernel, hrecounts ?_, hreads, hseen hreads⟩
  rintro ⟨e, he, -⟩
  cases he

end BufferedText

end Lexis
