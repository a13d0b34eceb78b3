import Mathlib.Algebra.Order.Floor.Div
import Mathlib.Order.Bounds.Basic
import Lexis.Proofs.Input.Reads
import Lexis.Proofs.Text.Boundary

/-!
# Blocks are fetched when they are needed

Over a source that reads fully, blocks are fetched in order and each of them once: every read begins
where the ones before it have ended. How many a request fetches is known from what is held and what
is left. For bytes it is a quotient: the blocks that cover the bytes missing, or those that are left
and the short one behind them. For characters no such number can be told beforehand, since what a
block decodes to is known only when it is there; but it is the least number of blocks with which the
request can be answered.

Principal results:

* `Blocks.Accounts.fetchTimes` — the reads of some blocks are in order;
* `Blocks.Over.fillLoop` — how many blocks a request for bytes fetches;
* `BufferedText.fillLoop_isLeast` — how many blocks a request for characters fetches;
* `Input.fetches_lazily` — the reads of any requests.
-/

namespace Lexis

open Text

/-! ## Some blocks -/

namespace Blocks

/-- Blocks of a source of which no more is fetched than there is. -/
structure Over (source : Source) (b : Blocks) : Prop where
  sameAs : b.source.SameAs source
  fetched_le : b.fetched ≤ source.bytes.length
  positive : 0 < b.blockSize

/-- The blocks after so many more are fetched. -/
def fetchTimes : Nat → Blocks → Blocks
  | 0, b => b
  | k + 1, b => fetchTimes k b.fetch.2

/-- The blocks are those of a size that the reads so far have brought, all of which have
succeeded. -/
structure Accounts (source : Source) (size : Nat) (reads : List ReadNote) (b : Blocks) : Prop
    extends b.Over source where
  blockSize_eq : b.blockSize = size
  inOrder : ReadNote.InOrder size source.bytes.length reads
  succeeded : ∀ read ∈ reads, read.returned.isSome = true
  fetched_eq : b.fetched = ReadNote.brought reads

variable {source : Source} {size : Nat} {reads : List ReadNote} {b : Blocks}

namespace Over

theorem upcoming_eq (h : b.Over source) :
    b.upcoming = (source.bytes.drop b.fetched).take b.blockSize := by
  rw [upcoming, h.sameAs.1]

theorem length_upcoming (h : b.Over source) :
    b.upcoming.length = min b.blockSize (source.bytes.length - b.fetched) := by
  rw [Blocks.length_upcoming, h.sameAs.1]

theorem receive (h : b.Over source) : b.receive.Over source := by
  refine ⟨h.sameAs, ?_, h.positive⟩
  have hle := h.fetched_le
  have hlength := h.length_upcoming
  simp only [Blocks.receive]
  omega

theorem fetch_eq (h : b.Over source) (hreads : source.ReadsFully) :
    b.fetch = (.ok (if source.bytes.length - b.fetched < b.blockSize then .short else .full),
      b.receive) := by
  have hplan : b.source.plan b.source.notes.length = .full := by
    rw [h.sameAs.2.1]
    exact hreads _
  have hshort : b.upcoming.length < b.blockSize ↔
      source.bytes.length - b.fetched < b.blockSize := by
    rw [h.length_upcoming]
    omega
  rw [fetch_of_full hplan]
  simp only [hshort]

theorem left_lt {fuel : Nat} (h : b.Over source)
    (hfull : b.blockSize ≤ source.bytes.length - b.fetched)
    (hfuel : source.bytes.length - b.fetched < fuel + 1) :
    source.bytes.length - b.receive.fetched < fuel := by
  have hpositive := h.positive
  have hlength := h.length_upcoming
  simp only [Blocks.receive]
  omega

theorem lt_fetchesLeft (h : b.Over source) :
    source.bytes.length - b.fetched < b.fetchesLeft := by
  rw [fetchesLeft, h.sameAs.1]
  exact Nat.lt_succ_self _

end Over

namespace Accounts

theorem receive (h : Accounts source size reads b) :
    Accounts source size (reads ++ [b.blockNote]) b.receive where
  toOver := h.toOver.receive
  blockSize_eq := h.blockSize_eq
  inOrder := by
    refine h.inOrder.concat _ h.blockSize_eq h.fetched_eq fun n hn => ?_
    obtain rfl := Option.some.inj hn
    rw [h.toOver.length_upcoming, h.blockSize_eq, blockNote]
  succeeded read hread := by
    rcases List.mem_append.1 hread with hread | hread
    · exact h.succeeded read hread
    · rw [List.mem_singleton.1 hread]
      rfl
  fetched_eq := by
    simp [Blocks.receive, blockNote, h.fetched_eq]

/-- **The reads of so many blocks** go on where the reads so far have ended. -/
theorem fetchTimes (hreads : source.ReadsFully) (k : Nat) (h : Accounts source size reads b) :
    ∃ new : List ReadNote, new.length = k ∧
      (b.fetchTimes k).source.notes = new.reverse ++ b.source.notes ∧
      Accounts source size (reads ++ new) (b.fetchTimes k) := by
  induction k generalizing b reads with
  | zero =>
    refine ⟨[], rfl, rfl, ?_⟩
    rwa [List.append_nil]
  | succ k ih =>
    obtain ⟨new, hlength, hnotes, hafter⟩ := ih h.receive
    rw [Blocks.fetchTimes, h.toOver.fetch_eq hreads]
    refine ⟨b.blockNote :: new, ?_, ?_, ?_⟩
    · rw [List.length_cons, hlength]
    · simp [hnotes]
    · rwa [List.append_assoc] at hafter

theorem consume (h : Accounts source size reads b) (n : Nat) :
    Accounts source size reads (b.consume n) :=
  ⟨⟨h.sameAs, h.fetched_le, h.positive⟩, h.blockSize_eq, h.inOrder, h.succeeded, h.fetched_eq⟩

end Accounts

theorem accounts_ofSource (source : Source) (blockSize : Nat) :
    Accounts source (max blockSize 1) [] (ofSource source blockSize) where
  sameAs := .refl source
  fetched_le := Nat.zero_le _
  positive := Nat.lt_of_lt_of_le Nat.zero_lt_one (Nat.le_max_right _ _)
  blockSize_eq := rfl
  inOrder := ReadNote.inOrder_nil
  succeeded _ h := absurd h List.not_mem_nil
  fetched_eq := rfl

/-! ## How many blocks bytes take -/

/-- How many blocks a request for `count` bytes fetches, where `held` bytes are held and `left` are
still to be fetched: none if they are held, and otherwise as many as cover what is missing, or those
that are left and one behind them. -/
def readsFor (size count held left : Nat) : Nat :=
  if count ≤ held then 0 else min ((count - held) ⌈/⌉ size) (left / size + 1)

variable {count held left : Nat}

theorem readsFor_of_le (h : count ≤ held) : readsFor size count held left = 0 :=
  if_pos h

theorem readsFor_of_lt (hsize : 0 < size) (h : held < count) :
    readsFor size count held left = min ((count - held - 1) / size) (left / size) + 1 := by
  have hcover : (count - held) ⌈/⌉ size = (count - held - 1) / size + 1 := by
    rw [Nat.ceilDiv_eq_add_pred_div, ← Nat.add_div_right _ hsize]
    congr 1
    omega
  rw [readsFor, if_neg (Nat.not_le_of_lt h), hcover, Nat.add_min_add_right]

theorem readsFor_of_short (hsize : 0 < size) (h : held < count) (hshort : left < size) :
    readsFor size count held left = 1 := by
  rw [readsFor_of_lt hsize h, Nat.div_eq_of_lt hshort, Nat.min_zero]

theorem readsFor_of_full (hsize : 0 < size) (h : held < count) (hfull : size ≤ left) :
    readsFor size count held left = readsFor size count (held + size) (left - size) + 1 := by
  rw [readsFor_of_lt hsize h]
  by_cases hcovered : count ≤ held + size
  · rw [readsFor_of_le hcovered, Nat.div_eq_of_lt (by omega), Nat.zero_min]
  · have hmissing : (count - held - 1) / size = (count - (held + size) - 1) / size + 1 := by
      rw [Nat.div_eq_sub_div hsize (by omega)]
      congr 2
      omega
    rw [readsFor_of_lt hsize (by omega), hmissing, Nat.div_eq_sub_div hsize hfull,
      Nat.add_min_add_right]

/-- **A request for bytes** fetches so many blocks, by induction on the blocks that are left. -/
theorem Over.fillLoop (hreads : source.ReadsFully) (count : Nat) :
    ∀ {fuel : Nat} {b : Blocks}, b.Over source → source.bytes.length - b.fetched < fuel →
      (b.fillLoop count fuel).2 = b.fetchTimes
        (readsFor b.blockSize count b.held.length (source.bytes.length - b.fetched))
  | 0, _, _, hfuel => absurd hfuel (Nat.not_lt_zero _)
  | fuel + 1, b, h, hfuel => by
    unfold Blocks.fillLoop
    split
    · rename_i hheld
      rw [readsFor_of_le hheld]
      rfl
    rename_i hheld
    have hmissing : b.held.length < count := Nat.lt_of_not_le hheld
    have hlength := h.length_upcoming
    rw [h.fetch_eq hreads]
    by_cases hshort : source.bytes.length - b.fetched < b.blockSize
    · rw [if_pos hshort, readsFor_of_short h.positive hmissing hshort]
      simp only [Blocks.fetchTimes, h.fetch_eq hreads]
    · have hfull : b.blockSize ≤ source.bytes.length - b.fetched := Nat.le_of_not_lt hshort
      have hheld' : b.receive.held.length = b.held.length + b.blockSize := by
        rw [Blocks.receive, List.length_append]
        omega
      have hleft : source.bytes.length - b.receive.fetched =
          source.bytes.length - b.fetched - b.blockSize := by
        simp only [Blocks.receive]
        omega
      rw [if_neg hshort, readsFor_of_full h.positive hmissing hfull, Blocks.fetchTimes,
        h.fetch_eq hreads]
      have hrest := Over.fillLoop hreads count h.receive (h.left_lt hfull hfuel)
      rw [hheld', hleft] at hrest
      exact hrest

end Blocks

/-! ## How many blocks characters take -/

namespace BufferedText

/-- So many more blocks of a size are enough for a request for characters, where `held` is held and
`left` is still to be fetched: the bytes held then have a text of as many characters, or they are
such that no bytes behind them make a text of them, or one of the blocks was short. -/
def Enough (size count : Nat) (held left : List UInt8) (blocks : Nat) : Prop :=
  count ≤ (decode (held ++ left.take (blocks * size))).1.length ∨
    (∀ more text, encode text ≠ held ++ left.take (blocks * size) ++ more) ∨
    ∃ earlier < blocks, (left.drop (earlier * size)).length < size

variable {source : Source} {size count : Nat} {held left : List UInt8}

theorem enough_zero_iff : Enough size count held left 0 ↔
    count ≤ (decode held).1.length ∨ (decode held).2 = .invalid := by
  simp [Enough, decode_invalid_iff]

theorem enough_of_short (h : left.length < size) : Enough size count held left 1 := by
  refine Or.inr (Or.inr ⟨0, Nat.zero_lt_one, ?_⟩)
  rwa [Nat.zero_mul, List.drop_zero]

/-- A full block that is fetched is one block less to fetch. -/
theorem enough_succ_iff (hfull : size ≤ left.length) (blocks : Nat) :
    Enough size count held left (blocks + 1) ↔
      Enough size count (held ++ left.take size) (left.drop size) blocks := by
  have hbuffer : held ++ left.take ((blocks + 1) * size) =
      held ++ left.take size ++ (left.drop size).take (blocks * size) := by
    rw [Nat.succ_mul, Nat.add_comm, List.take_add, List.append_assoc]
  have hshort : (∃ earlier < blocks + 1, (left.drop (earlier * size)).length < size) ↔
      ∃ earlier < blocks, ((left.drop size).drop (earlier * size)).length < size := by
    constructor
    · rintro ⟨earlier, hlt, hshort⟩
      cases earlier with
      | zero =>
        rw [Nat.zero_mul, List.drop_zero] at hshort
        omega
      | succ earlier =>
        refine ⟨earlier, Nat.lt_of_succ_lt_succ hlt, ?_⟩
        rwa [List.drop_drop, Nat.add_comm, ← Nat.succ_mul]
    · rintro ⟨earlier, hlt, hshort⟩
      refine ⟨earlier + 1, Nat.succ_lt_succ hlt, ?_⟩
      rwa [List.drop_drop, Nat.add_comm, ← Nat.succ_mul] at hshort
  unfold Enough
  rw [hbuffer, hshort]

theorem isLeast_zero {P : Nat → Prop} (h : P 0) : IsLeast {k | P k} 0 :=
  ⟨h, fun _ _ => Nat.zero_le _⟩

theorem isLeast_succ {P Q : Nat → Prop} (hzero : ¬P 0) (hsucc : ∀ k, P (k + 1) ↔ Q k) {k : Nat}
    (h : IsLeast {k | Q k} k) : IsLeast {k | P k} (k + 1) := by
  refine ⟨(hsucc k).2 h.1, fun other hother => ?_⟩
  cases other with
  | zero => exact absurd hother hzero
  | succ other => exact Nat.succ_le_succ (h.2 ((hsucc other).1 hother))

/-- **A request for characters** fetches the least number of blocks that is enough, by induction on
the blocks that are left. -/
theorem fillLoop_isLeast (hreads : source.ReadsFully) (count : Nat) :
    ∀ {fuel : Nat} {i : BufferedText}, i.blocks.Over source →
      source.bytes.length - i.blocks.fetched < fuel →
      ∃ k, (i.fillLoop count fuel).2.blocks = i.blocks.fetchTimes k ∧
        IsLeast {k | Enough i.blocks.blockSize count i.blocks.held
          (source.bytes.drop i.blocks.fetched) k} k
  | 0, _, _, hfuel => absurd hfuel (Nat.not_lt_zero _)
  | fuel + 1, i, h, hfuel => by
    unfold BufferedText.fillLoop
    split
    · rename_i hheld
      exact ⟨0, rfl, isLeast_zero (enough_zero_iff.2 (Or.inl hheld))⟩
    rename_i hheld
    split
    · rename_i hinvalid
      exact ⟨0, rfl, isLeast_zero (enough_zero_iff.2 (Or.inr hinvalid))⟩
    rename_i hinvalid
    have hzero : ¬Enough i.blocks.blockSize count i.blocks.held
        (source.bytes.drop i.blocks.fetched) 0 := by
      rw [enough_zero_iff]
      exact not_or_intro hheld hinvalid
    have hlength := h.length_upcoming
    rw [h.fetch_eq hreads]
    by_cases hshort : source.bytes.length - i.blocks.fetched < i.blocks.blockSize
    · rw [if_pos hshort]
      refine ⟨1, ?_, enough_of_short (by rwa [List.length_drop]), fun k hk => ?_⟩
      · simp only [Blocks.fetchTimes, h.fetch_eq hreads]
      · exact Nat.pos_of_ne_zero fun hk' => hzero (hk' ▸ hk)
    · have hfull : i.blocks.blockSize ≤ source.bytes.length - i.blocks.fetched :=
        Nat.le_of_not_lt hshort
      rw [if_neg hshort]
      obtain ⟨k, hblocks, hleast⟩ := fillLoop_isLeast hreads count
        (i := { i with blocks := i.blocks.receive }) h.receive (h.left_lt hfull hfuel)
      refine ⟨k + 1, ?_, isLeast_succ hzero (fun k => ?_) hleast⟩
      · rw [Blocks.fetchTimes, h.fetch_eq hreads]
        exact hblocks
      · rw [enough_succ_iff (by rwa [List.length_drop])]
        have hfetched : i.blocks.receive.fetched = i.blocks.fetched + i.blocks.blockSize := by
          simp only [Blocks.receive]
          omega
        have hheld' : i.blocks.receive.held =
            i.blocks.held ++ (source.bytes.drop i.blocks.fetched).take i.blocks.blockSize := by
          rw [Blocks.receive, h.upcoming_eq]
        dsimp only
        rw [hfetched, hheld', List.drop_drop]
        rfl

end BufferedText

/-! ## Any requests -/

namespace Input

section

variable {ι κ : Type} [Chunk κ] [Input ι κ] [Sourced ι] {source : Source} {size : Nat}
  {blocks : ι → Blocks} {Takes : Nat → ι → Nat → Prop}

/-- An input that holds blocks of a source; the relation says how many more of them a request takes
that asks for so many units. -/
structure HoldsBlocks (source : Source) (blocks : ι → Blocks) (Takes : Nat → ι → Nat → Prop) :
    Prop where
  source? : ∀ i, Sourced.source? i = some (blocks i).source
  advance : ∀ n i, ∃ m, blocks (Input.advance n i) = (blocks i).consume m
  peek : ∀ count i, (blocks i).Over source →
    ∃ k, blocks (Input.peek count i).2 = (blocks i).fetchTimes k ∧ Takes count i k

/-- What holds in front of a request that makes the reads: they go on where the ones before it have
ended, and are as many as the request takes. -/
structure Asked (source : Source) (size : Nat) (blocks : ι → Blocks) (Takes : Nat → ι → Nat → Prop)
    (earlier : List ReadNote) (i : ι) (request : Request) (reads : List ReadNote) : Prop where
  accounts : Blocks.Accounts source size earlier (blocks i)
  none_read : request.count? = none → reads = []
  takes : ∀ count, request.count? = some count → Takes count i reads.length

/-- **One request** makes its reads, and the blocks are what all reads have brought. -/
theorem HoldsBlocks.exchange (h : HoldsBlocks source blocks Takes) (hreads : source.ReadsFully)
    {i : ι} {earlier : List ReadNote} (hi : Blocks.Accounts source size earlier (blocks i))
    (request : Request) :
    Asked source size blocks Takes earlier i request (exchange perform i request).reads ∧
      Blocks.Accounts source size (earlier ++ (exchange perform i request).reads)
        (blocks (perform i request).2) := by
  rcases perform_state i request with ⟨hcount, hstate⟩ | ⟨count, hcount, hstate⟩
  · have hnone : (Lexis.exchange perform i request).reads = [] := by
      refine Exchange.reads_eq (h.source? _) (h.source? _) ?_
      show (blocks (perform i request).2).source.notes = _
      rw [hstate]
      rfl
    rw [hnone, hstate, List.append_nil]
    exact ⟨⟨hi, fun _ => rfl, fun n hn => by rw [hcount] at hn; cases hn⟩, hi⟩
  · obtain ⟨k, hpeek, htakes⟩ := h.peek count i hi.toOver
    obtain ⟨new, hlength, hnotes, hafter⟩ := hi.fetchTimes hreads k
    obtain ⟨m, hblocks⟩ : ∃ m, blocks (perform i request).2 =
        ((blocks i).fetchTimes k).consume m := by
      rcases hstate with hstate | ⟨n, hstate⟩
      · exact ⟨0, by rw [hstate, hpeek, Blocks.consume_zero]⟩
      · obtain ⟨m, hm⟩ := h.advance n (Input.peek count i).2
        exact ⟨m, by rw [hstate, hm, hpeek]⟩
    have hnew : (Lexis.exchange perform i request).reads = new := by
      refine Exchange.reads_eq (h.source? _) (h.source? _) ?_
      show (blocks (perform i request).2).source.notes = _
      rw [hblocks]
      exact hnotes
    rw [hnew, hblocks]
    refine ⟨⟨hi, fun hn => ?_, fun n hn => ?_⟩, hafter.consume m⟩
    · rw [hcount] at hn
      cases hn
    · rw [hcount] at hn
      cases hn
      rwa [hlength]

/-- **Any requests**: in front of each one the blocks are what the reads before it have brought, and
all reads are in order. -/
theorem HoldsBlocks.exchanges (h : HoldsBlocks source blocks Takes) (hreads : source.ReadsFully)
    {i : ι} (hi : Blocks.Accounts source size [] (blocks i)) (requests : List Request) :
    let log := exchanges perform requests i
    ReadNote.InOrder size source.bytes.length (allReads log) ∧
      (∀ read ∈ allReads log, read.returned.isSome = true) ∧
      ∀ earlier e later, log = earlier ++ e :: later →
        Asked source size blocks Takes (allReads earlier) e.before e.request e.reads := by
  have hstep : ∀ (past : List (Exchange Request ι (Except Fault (Reply κ)))) (i : ι)
      (request : Request), Blocks.Accounts source size (allReads past) (blocks i) →
        Blocks.Accounts source size (allReads (past ++ [Lexis.exchange perform i request]))
          (blocks (perform i request).2) := by
    intro past i request hi
    rw [allReads_append, allReads_cons, allReads_nil, List.append_nil]
    exact (h.exchange hreads hi request).2
  obtain ⟨⟨last, hlast⟩, hbefore⟩ := exchanges_invariant hstep requests [] hi
  refine ⟨hlast.inOrder, hlast.succeeded, fun earlier e later hsplit => ?_⟩
  obtain ⟨haccounts, he⟩ := hbefore earlier e later hsplit
  have hasked := (h.exchange hreads haccounts e.request).1
  rw [← he] at hasked
  exact hasked

end

/-- Buffered bytes take the blocks that cover the bytes missing. -/
theorem holdsBlocks_bytes {source : Source} (hreads : source.ReadsFully) :
    HoldsBlocks source BufferedBytes.blocks fun count i k =>
      k = Blocks.readsFor i.blocks.blockSize count i.blocks.held.length
        (source.bytes.length - i.blocks.fetched) where
  source? _ := rfl
  advance n i := ⟨n, rfl⟩
  peek count i h := by
    refine ⟨_, ?_, rfl⟩
    rw [BufferedBytes.peek_blocks, Blocks.fill]
    exact h.fillLoop hreads count h.lt_fetchesLeft

/-- Buffered characters take the least number of blocks that is enough. -/
theorem holdsBlocks_text {source : Source} (hreads : source.ReadsFully) :
    HoldsBlocks source BufferedText.blocks fun count i k =>
      IsLeast {k | BufferedText.Enough i.blocks.blockSize count i.blocks.held
        (source.bytes.drop i.blocks.fetched) k} k where
  source? _ := rfl
  advance n i := ⟨_, rfl⟩
  peek count i h := by
    rw [BufferedText.peek_state, BufferedText.fill]
    exact BufferedText.fillLoop_isLeast hreads count h h.lt_fetchesLeft

/-- **Blocks are fetched when they are needed, in order and once.** Over a source that reads fully
and for any block size, no block having fewer bytes than one, the reads of any requests ask for one
block each, where the reads before them have ended. A request for bytes makes none if the bytes are
held; otherwise it makes as many as cover the bytes missing, or as many as are left and the short
one behind them. A request for characters makes none if the bytes held have a text of so many, and
otherwise the least number that is enough. -/
theorem fetches_lazily {source : Source} (hreads : source.ReadsFully) (blockSize : Nat)
    (requests : List Request) :
    let size := max blockSize 1
    let bytes := exchanges perform requests (BufferedBytes.ofSource source blockSize)
    let text := exchanges perform requests (BufferedText.ofSource source blockSize)
    (ReadNote.InOrder size source.bytes.length (allReads bytes) ∧
      (∀ read ∈ allReads bytes, read.returned.isSome = true) ∧
      ∀ earlier e later, bytes = earlier ++ e :: later →
        e.before.blocks.fetched = ReadNote.brought (allReads earlier) ∧
        (e.request.count? = none → e.reads = []) ∧
        ∀ count, e.request.count? = some count →
          e.reads.length = if count ≤ e.before.blocks.held.length then 0
            else min ((count - e.before.blocks.held.length) ⌈/⌉ size)
              ((source.bytes.length - e.before.blocks.fetched) / size + 1)) ∧
    (ReadNote.InOrder size source.bytes.length (allReads text) ∧
      (∀ read ∈ allReads text, read.returned.isSome = true) ∧
      ∀ earlier e later, text = earlier ++ e :: later →
        e.before.blocks.fetched = ReadNote.brought (allReads earlier) ∧
        (e.request.count? = none → e.reads = []) ∧
        ∀ count, e.request.count? = some count →
          (count ≤ e.before.text.length → e.reads = []) ∧
          IsLeast {k | BufferedText.Enough size count e.before.blocks.held
            (source.bytes.drop e.before.blocks.fetched) k} e.reads.length) := by
  intro size bytes text
  constructor
  · obtain ⟨horder, hsucceeded, hasked⟩ := (holdsBlocks_bytes hreads).exchanges hreads
      (i := BufferedBytes.ofSource source blockSize)
      (Blocks.accounts_ofSource source blockSize) requests
    refine ⟨horder, hsucceeded, fun earlier e later hsplit => ?_⟩
    have he := hasked earlier e later hsplit
    refine ⟨he.accounts.fetched_eq, he.none_read, fun count hcount => ?_⟩
    rw [he.takes count hcount, he.accounts.blockSize_eq]
    rfl
  · obtain ⟨horder, hsucceeded, hasked⟩ := (holdsBlocks_text hreads).exchanges hreads
      (i := BufferedText.ofSource source blockSize)
      (Blocks.accounts_ofSource source blockSize) requests
    refine ⟨horder, hsucceeded, fun earlier e later hsplit => ?_⟩
    have he := hasked earlier e later hsplit
    refine ⟨he.accounts.fetched_eq, he.none_read, fun count hcount => ?_⟩
    have hleast := he.takes count hcount
    rw [he.accounts.blockSize_eq] at hleast
    refine ⟨fun hheld => ?_, hleast⟩
    have henough := hleast.2 (BufferedText.enough_zero_iff.2 (Or.inl hheld))
    exact List.length_eq_zero_iff.1 (Nat.le_zero.1 henough)

/-- Two blocks and a half, of which the first one ends inside a character: three characters take two
blocks, and the end is read again when it is asked for again. -/
theorem fetches_lazily_cut :
    let content := encode "aééébé".toList
    let source := Source.ofBytes content
    let requests : List Request := [.next 3, .peek 1, .size, .skip 9, .position, .next 1]
    let bytes := exchanges perform requests (BufferedBytes.ofSource source 4)
    let text := exchanges perform requests (BufferedText.ofSource source 4)
    source.ReadsFully ∧
      ReadNote.InOrder 4 10 (allReads bytes) ∧ ReadNote.InOrder 4 10 (allReads text) ∧
      bytes.map (fun e => e.reads.length) = [1, 0, 0, 2, 0, 1] ∧
      text.map (fun e => e.reads.length) = [2, 0, 0, 1, 0, 1] ∧
      IsLeast {k | BufferedText.Enough 4 3 [] content k} 2 := by
  intro content source requests bytes text
  have hreads : source.ReadsFully := Source.readsFully_ofBytes content
  let first := exchange perform (BufferedText.ofSource source 4) (.next 3)
  obtain ⟨⟨hbytes, -⟩, htext, -, htakes⟩ := fetches_lazily hreads 4 requests
  obtain ⟨-, -, hnext⟩ := htakes [] first (exchanges perform (requests.drop 1) first.after) rfl
  have hcount : first.reads.length = 2 := by decide +kernel
  have hleast := (hnext 3 rfl).2
  rw [hcount] at hleast
  exact ⟨hreads, hbytes, htext, by decide +kernel, by decide +kernel, hleast⟩

end Input

end Lexis
