import Lexis.Proofs.Input.Providing
import Lexis.Proofs.Input.Transcript

/-!
# The reads behind an input

A source notes every read that is made of it. So what a request asks of the source behind an input
is told by the notes that are there after it and were not there before it, whatever the input is.

Principal results:

* `Source.Later.exists_notes` — what is noted between two states of a source;
* `ReadNote.InOrder.concat` — one more read in its place;
* `Blocks.fetch_of_full` — what one block changes if its read is not refused;
* `Input.perform_state` — a request changes an input by looking and moving only;
* `exchanges_invariant` — what every exchange keeps.
-/

namespace Lexis

/-! ## Notes -/

namespace ReadNote

/-- How many bytes reads have brought; one that failed has brought none. -/
def brought : List ReadNote → Nat
  | [] => 0
  | read :: reads => read.returned.getD 0 + brought reads

@[simp] theorem brought_nil : brought [] = 0 := rfl

@[simp] theorem brought_cons (read : ReadNote) (reads : List ReadNote) :
    brought (read :: reads) = read.returned.getD 0 + brought reads := rfl

@[simp] theorem brought_append (as bs : List ReadNote) :
    brought (as ++ bs) = brought as + brought bs := by
  induction as with
  | nil => simp
  | cons read as ih => simp [ih, Nat.add_assoc]

/-- Each read asks for one block, at the place up to which the reads before it have brought the
bytes; unless it fails, it brings a block or all that is left. -/
def InOrder (size length : Nat) (reads : List ReadNote) : Prop :=
  ∀ earlier read later, reads = earlier ++ read :: later →
    read.asked = size ∧ read.position = brought earlier ∧
      ∀ n, read.returned = some n → n = min size (length - read.position)

variable {size length : Nat} {reads : List ReadNote}

theorem inOrder_nil : InOrder size length [] := by
  intro earlier read later h
  cases earlier <;> cases h

theorem InOrder.concat (h : InOrder size length reads) (read : ReadNote)
    (hasked : read.asked = size) (hposition : read.position = brought reads)
    (hreturned : ∀ n, read.returned = some n → n = min size (length - read.position)) :
    InOrder size length (reads ++ [read]) := by
  intro earlier other later hsplit
  rcases List.eq_nil_or_concat later with rfl | ⟨front, last, rfl⟩
  · obtain ⟨rfl, hlast⟩ := List.append_inj' hsplit rfl
    cases hlast
    exact ⟨hasked, hposition, hreturned⟩
  · rw [List.concat_eq_append, ← List.cons_append, ← List.append_assoc] at hsplit
    exact h earlier other front (List.append_inj' hsplit rfl).1

end ReadNote

namespace Source

variable {s t u : Source}

theorem SameAs.trans (h : u.SameAs t) (h' : t.SameAs s) : u.SameAs s :=
  ⟨h.1.trans h'.1, h.2.1.trans h'.2.1, h.2.2.trans h'.2.2⟩

/-- The second source is the first one some reads later. -/
inductive Later (s : Source) : Source → Prop where
  | refl : Later s s
  | read {t : Source} (h : Later s t) (asked position : Nat) : Later s (t.read asked position).2

theorem Later.trans (h : s.Later t) (h' : t.Later u) : s.Later u := by
  induction h' with
  | refl => exact h
  | read _ asked position ih => exact .read ih asked position

theorem read_of_full (h : s.plan s.notes.length = .full) (asked position : Nat) :
    s.read asked position = (.ok ((s.bytes.drop position).take asked),
      s.noting ⟨position, asked, some ((s.bytes.drop position).take asked).length⟩) := by
  rw [read, h]

theorem read_of_refused {reason : String} (h : s.plan s.notes.length = .refused reason)
    (asked position : Nat) :
    s.read asked position = (.error (.unreadable reason), s.noting ⟨position, asked, none⟩) := by
  rw [read, h]

theorem exists_note_of_read (s : Source) (asked position : Nat) :
    ∃ note : ReadNote, (s.read asked position).2 = s.noting note ∧
      (note.returned = none ↔ ∃ reason, s.plan s.notes.length = .refused reason) := by
  unfold read
  split <;> rename_i hplan <;> exact ⟨_, rfl, by simp [hplan]⟩

/-- **The notes between two states of a source** tell which of the reads failed, and nothing else
has changed. -/
theorem Later.exists_notes (h : s.Later t) :
    t.SameAs s ∧ ∃ new : List ReadNote, t.notes = new.reverse ++ s.notes ∧
      ∀ j note, new[j]? = some note →
        (note.returned = none ↔ ∃ reason, s.plan (s.notes.length + j) = .refused reason) := by
  induction h with
  | refl =>
    refine ⟨.refl s, [], rfl, fun j note h => ?_⟩
    simp at h
  | @read t _ asked position ih =>
    obtain ⟨⟨hbytes, hplan, hsize⟩, new, hnew, hfailed⟩ := ih
    obtain ⟨note, hnote, hrefused⟩ := exists_note_of_read t asked position
    rw [hnote]
    refine ⟨⟨hbytes, hplan, hsize⟩, new ++ [note], ?_, ?_⟩
    · simp [noting, hnew]
    · intro j other hj
      rw [List.getElem?_append] at hj
      split at hj
      · exact hfailed j other hj
      · rename_i hlast
        obtain ⟨hlt, rfl⟩ := List.getElem?_eq_some_iff.1 hj
        have hj : j = new.length := by
          rw [List.length_singleton] at hlt
          omega
        subst hj
        have hcount : t.notes.length = s.notes.length + new.length := by
          rw [hnew, List.length_append, List.length_reverse, Nat.add_comm]
        rw [hplan, hcount] at hrefused
        simpa using hrefused

theorem Later.length_le (h : s.Later t) : s.notes.length ≤ t.notes.length := by
  obtain ⟨-, new, hnew, -⟩ := h.exists_notes
  rw [hnew, List.length_append]
  exact Nat.le_add_left _ _

theorem notesSince_of_append {new known : List ReadNote} (h : s.notes = new.reverse ++ known) :
    s.notesSince known.length = new := by
  simp [notesSince, h]

end Source

/-! ## Blocks -/

namespace Blocks

/-- The next block of the source. -/
def upcoming (b : Blocks) : List UInt8 :=
  (b.source.bytes.drop b.fetched).take b.blockSize

theorem length_upcoming (b : Blocks) :
    b.upcoming.length = min b.blockSize (b.source.bytes.length - b.fetched) := by
  rw [upcoming, List.length_take, List.length_drop]

theorem fetch_source (b : Blocks) :
    b.fetch.2.source = (b.source.read b.blockSize b.fetched).2 := by
  unfold fetch
  split <;> simp [*]

theorem later_fetch (b : Blocks) : b.source.Later b.fetch.2.source := by
  rw [fetch_source]
  exact .read .refl _ _

/-- The read that brings the next block. -/
def blockNote (b : Blocks) : ReadNote := ⟨b.fetched, b.blockSize, some b.upcoming.length⟩

/-- The blocks with the next one of the source behind the others. -/
def receive (b : Blocks) : Blocks where
  source := b.source.noting b.blockNote
  blockSize := b.blockSize
  held := b.held ++ b.upcoming
  fetched := b.fetched + b.upcoming.length

@[simp] theorem receive_notes (b : Blocks) :
    b.receive.source.notes = b.blockNote :: b.source.notes := rfl

/-- **A block of which the source copies all.** -/
theorem fetch_of_full {b : Blocks} (h : b.source.plan b.source.notes.length = .full) :
    b.fetch =
      (.ok (if b.upcoming.length < b.blockSize then .short else .full), b.receive) := by
  unfold fetch
  rw [Source.read_of_full h]
  rfl

@[simp] theorem consume_zero (b : Blocks) : b.consume 0 = b := rfl

end Blocks

theorem BufferedBytes.peek_blocks (count : Nat) (i : BufferedBytes) :
    (Input.peek count i).2.blocks = (i.blocks.fill count).2 := by
  simp only [Input.peek]
  split <;> rename_i h <;> rw [h]

theorem BufferedText.peek_state (count : Nat) (i : BufferedText) :
    (Input.peek count i).2 = (i.fill count).2 := by
  simp only [Input.peek]
  split <;> rename_i h <;> rw [h]

/-! ## Exchanges -/

/-- How many units a request asks for, if it asks for any. -/
def Request.count? : Request → Option Nat
  | .peek count => some count
  | .next count => some count
  | .skip count => some count
  | .size => none
  | .position => none

/-- **A request changes an input by looking for units at the cursor and moving past them**, if it
asks for any, and not at all otherwise. -/
theorem Input.perform_state {ι κ : Type} [Chunk κ] [Input ι κ] (i : ι) (request : Request) :
    (request.count? = none ∧ (Input.perform i request).2 = i) ∨
    ∃ count, request.count? = some count ∧
      ((Input.perform i request).2 = (Input.peek count i).2 ∨
        ∃ n, (Input.perform i request).2 = Input.advance n (Input.peek count i).2) := by
  cases request with
  | size => exact Or.inl ⟨rfl, rfl⟩
  | position => exact Or.inl ⟨rfl, rfl⟩
  | peek count => exact Or.inr ⟨count, rfl, Or.inl rfl⟩
  | next count =>
    refine Or.inr ⟨count, rfl, ?_⟩
    simp only [perform, next]
    split
    · rename_i fault i' h
      exact Or.inl (by rw [h])
    · rename_i chunk i' h
      exact Or.inr ⟨_, by rw [h]⟩
  | skip count =>
    refine Or.inr ⟨count, rfl, ?_⟩
    simp only [perform, skip]
    split
    · rename_i fault i' h
      exact Or.inl (by rw [h])
    · rename_i chunk i' h
      exact Or.inr ⟨_, by rw [h]⟩

/-- A request that was served: what it found, what it was answered, and what it has left. -/
structure Exchange (ρ ι α : Type) where
  request : ρ
  before : ι
  reply : α
  after : ι

section

variable {ρ ι α : Type}

/-- Serving one request. -/
def exchange (serve : ι → ρ → α × ι) (i : ι) (request : ρ) : Exchange ρ ι α :=
  ⟨request, i, (serve i request).1, (serve i request).2⟩

/-- Serving requests one after the other, whatever the answers are. -/
def exchanges (serve : ι → ρ → α × ι) : List ρ → ι → List (Exchange ρ ι α)
  | [], _ => []
  | request :: requests, i =>
    exchange serve i request :: exchanges serve requests (serve i request).2

/-- The reads that were made of the source for a request. -/
def Exchange.reads [Sourced ι] (e : Exchange ρ ι α) : List ReadNote :=
  match Sourced.source? e.before, Sourced.source? e.after with
  | some before, some after => after.notesSince before.notes.length
  | _, _ => []

/-- The reads that were made of the source for requests. -/
def allReads [Sourced ι] (log : List (Exchange ρ ι α)) : List ReadNote :=
  log.flatMap Exchange.reads

@[simp] theorem allReads_nil [Sourced ι] : allReads ([] : List (Exchange ρ ι α)) = [] := rfl

@[simp] theorem allReads_append [Sourced ι] (as bs : List (Exchange ρ ι α)) :
    allReads (as ++ bs) = allReads as ++ allReads bs :=
  List.flatMap_append

@[simp] theorem allReads_cons [Sourced ι] (e : Exchange ρ ι α) (log : List (Exchange ρ ι α)) :
    allReads (e :: log) = e.reads ++ allReads log := rfl

/-- The reads of a request are the notes in front of those that were there. -/
theorem Exchange.reads_eq [Sourced ι] {e : Exchange ρ ι α} {before after : Source}
    {new : List ReadNote} (hbefore : Sourced.source? e.before = some before)
    (hafter : Sourced.source? e.after = some after)
    (h : after.notes = new.reverse ++ before.notes) : e.reads = new := by
  unfold reads
  rw [hbefore, hafter]
  exact Source.notesSince_of_append h

/-- **What one exchange keeps, all of them keep**: what holds of the exchanges so far and of where
they have led to holds in front of each exchange, and at the end. -/
theorem exchanges_invariant {serve : ι → ρ → α × ι} {Holds : List (Exchange ρ ι α) → ι → Prop}
    (hstep : ∀ past i request, Holds past i →
      Holds (past ++ [exchange serve i request]) (serve i request).2)
    (requests : List ρ) (past : List (Exchange ρ ι α)) {i : ι} (h : Holds past i) :
    (∃ last, Holds (past ++ exchanges serve requests i) last) ∧
      ∀ earlier e later, exchanges serve requests i = earlier ++ e :: later →
        Holds (past ++ earlier) e.before ∧ e = exchange serve e.before e.request := by
  induction requests generalizing past i with
  | nil =>
    refine ⟨⟨i, ?_⟩, fun earlier e later hsplit => ?_⟩
    · rwa [exchanges, List.append_nil]
    · cases earlier <;> cases hsplit
  | cons request requests ih =>
    obtain ⟨⟨last, hlast⟩, hrest⟩ := ih _ (hstep past i request h)
    rw [List.append_assoc, List.singleton_append] at hlast
    refine ⟨⟨last, hlast⟩, fun earlier e later hsplit => ?_⟩
    rw [exchanges] at hsplit
    cases earlier with
    | nil =>
      obtain ⟨rfl, -⟩ := List.cons.inj hsplit
      rw [List.append_nil]
      exact ⟨h, rfl⟩
    | cons first earlier =>
      obtain ⟨rfl, htail⟩ := List.cons.inj hsplit
      have := hrest earlier e later htail
      rwa [List.append_assoc, List.singleton_append] at this

end

end Lexis
