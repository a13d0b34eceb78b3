import Lexis.Proofs.Lexer.Firing

/-!
# What a window shows

A window is as much of the text behind the cursor as fits into the units that are peeked. So the
text of a chunk goes on exactly where the cursor is, one more character would not fit in, and bytes
that are no text are reported at the one place where the text of the input ends.

Whichever kind the input is, this holds at every run that is reached by rounds, because the cursor
stays at the end of a text that the bytes begin with.

Principal results:

* `Lexing.Reached.exists_round` — an answer is the answer of a round;
* `window_of_bytes`, `window_of_chars` — chunks of bytes and of characters;
* `Tracks.reached` — at every run that is reached the cursor is behind a text;
* `ByteCursor.reads`, `TextCursor.reads`, `BufferedBytes.reads`, `BufferedText.reads` — the inputs.
-/

namespace Lexis

open Pattern Text

variable {ι κ V : Type} [Chunk κ] [Input ι κ]

/-! ## Runs that are reached -/

/-- Runs that are reached from another one by rounds, whatever these end with. -/
inductive Lexing.Reached (lexer : Lexer V) (start : Lexing ι) : Lexing ι → Prop where
  | start : Reached lexer start start
  | round {run : Lexing ι} : Reached lexer start run →
      Reached lexer start (Lexing.round lexer run).2

namespace Lexing.Reached

variable {lexer : Lexer V} {first run : Lexing ι}

theorem next (h : Reached lexer first run) (limit : Nat) :
    Reached lexer first (Lexing.next lexer limit run).2 := by
  induction limit generalizing run with
  | zero => exact h
  | succ limit ih =>
    have hround := h.round
    obtain ⟨outcome, after, heq⟩ : ∃ outcome after, Lexing.round lexer run = (outcome, after) :=
      ⟨_, _, rfl⟩
    rw [heq] at hround
    cases outcome with
    | answer a =>
      rw [next_of_answer heq]
      exact hround
    | again =>
      rw [next_of_again heq]
      exact ih hround

/-- **An answer is the answer of a round** at a run that is reached. -/
theorem exists_round (h : Reached lexer first run) {limit : Nat} {a : Except Fault (Token V)}
    {after : Lexing ι} (hnext : Lexing.next lexer limit run = (some a, after)) :
    ∃ last, Reached lexer first last ∧ Lexing.round lexer last = (.answer a, after) := by
  induction limit generalizing run with
  | zero => cases hnext
  | succ limit ih =>
    have hround := h.round
    obtain ⟨outcome, behind, heq⟩ : ∃ outcome behind, Lexing.round lexer run = (outcome, behind) :=
      ⟨_, _, rfl⟩
    rw [heq] at hround
    cases outcome with
    | answer b =>
      rw [next_of_answer heq] at hnext
      cases hnext
      exact ⟨run, h, heq⟩
    | again =>
      rw [next_of_again heq] at hnext
      exact ih hround hnext

end Lexing.Reached

section

variable [LawfulChunk κ] [Sourced ι] [LawfulInput ι] {Behind : ι → List Char → Prop}
  {lexer : Lexer V}

theorem Tracks.of_firing {whole : List Char} (h : Tracks whole Behind) (hlexer : lexer.Proper)
    {run : Lexing ι} {done : List Char} (hrun : Behind run.input done) {f : Firing ι V}
    (hf : Lexing.firing? lexer run = some f) :
    f.Sound done ∧ Behind f.after.input (done ++ f.text) := by
  rcases h.round hlexer hrun with ⟨fault, run', hnone, -, -, -, -⟩ | ⟨g, hg, -, hsound, hafter⟩
  · rw [hf] at hnone
    cases hnone
  · rw [hf] at hg
    cases hg
    exact ⟨hsound, hafter⟩

/-- **At every run that is reached the cursor is behind a text.** -/
theorem Tracks.reached {whole : List Char} (h : Tracks whole Behind) (hlexer : lexer.Proper)
    {first run : Lexing ι} {done : List Char} (hfirst : Behind first.input done)
    (hrun : Lexing.Reached lexer first run) : ∃ done, Behind run.input done := by
  induction hrun with
  | start => exact ⟨done, hfirst⟩
  | round _ ih =>
    obtain ⟨done, hbehind⟩ := ih
    rcases h.round hlexer hbehind with
      ⟨fault, run', -, hround, -, hrun', -⟩ | ⟨f, -, hround, -, hafter⟩
    · rw [hround]
      exact ⟨done, hrun'⟩
    · rw [hround]
      exact ⟨_, hafter⟩

end

/-! ## Chunks at a place -/

/-- The bytes are not all text, and the position is that of the first ones that are none. -/
def UndecodableAt (κ : Type) [Chunk κ] (bytes : List UInt8) (position : Nat) : Prop :=
  (decode bytes).2 ≠ .complete ∧ position = unitsIn κ (decode bytes).1

/-- What a chunk shows that is peeked behind the text `done`. -/
structure Window (bytes : List UInt8) (done : List Char) (count : Nat) (chunk : κ) : Prop where
  /-- Its text goes on behind the cursor. -/
  isPrefix : done ++ (Chunk.text chunk).1 <+: (decode bytes).1
  /-- One more character would not fit in. -/
  full : ∀ c, done ++ (Chunk.text chunk).1 ++ [c] <+: (decode bytes).1 →
    count < unitsIn κ ((Chunk.text chunk).1 ++ [c])
  /-- Bytes that are no text are at their place. -/
  undecodable : ∀ position,
    (windowText chunk (unitsIn κ done) (Chunk.units chunk < count)).2 = some position →
      UndecodableAt κ bytes position

theorem window_of_bytes {bytes rest : List UInt8} {done : List Char}
    (h : bytes = encode done ++ rest) (count : Nat) :
    Window bytes done count (rest.take count) := by
  have hdecode : decode bytes = (done ++ (decode rest).1, (decode rest).2) := by
    rw [h, decode_encode_append]
  have hplace : ∀ position, decode rest = decode (rest.take count) →
      (decode (rest.take count)).2 ≠ .complete →
      some (unitsIn (List UInt8) done + byteLength (decode (rest.take count)).1) = some position →
      UndecodableAt (List UInt8) bytes position := by
    intro position hsame hending hposition
    rw [UndecodableAt, hdecode, hsame]
    refine ⟨hending, ?_⟩
    cases hposition
    exact (byteLength_append _ _).symm
  constructor
  · rw [hdecode]
    exact (List.prefix_append_right_inj _).2 (decode_mono (List.take_prefix _ _))
  · intro c hc
    rw [hdecode, List.append_assoc] at hc
    have hmore : encode ((decode (rest.take count)).1 ++ [c]) <+: rest :=
      (encode_isPrefix ((List.prefix_append_right_inj _).1 hc)).trans (encode_decode_isPrefix _)
    refine Nat.lt_of_not_le fun hle => ?_
    -- otherwise the chunk would hold that character, and its text would not end before it
    have hheld : encode ((decode (rest.take count)).1 ++ [c]) <+: rest.take count := by
      refine List.prefix_take_iff.2 ⟨hmore, ?_⟩
      rw [length_encode]
      exact hle
    have hlength := (isPrefix_decode hheld).length_le
    rw [List.length_append, List.length_singleton] at hlength
    exact Nat.not_succ_le_self _ hlength
  · intro position hposition
    unfold windowText at hposition
    have htext : Chunk.text (rest.take count) = decode (rest.take count) := rfl
    rw [htext] at hposition
    cases hending : (decode (rest.take count)).2 with
    | complete =>
      simp only [hending] at hposition
      cases hposition
    | split =>
      simp only [hending] at hposition
      split at hposition
      · rename_i hshort
        have hunits : (rest.take count).length < count := of_decide_eq_true hshort
        rw [List.length_take] at hunits
        have hall : rest.take count = rest := List.take_of_length_le (by omega)
        refine hplace position (by rw [hall]) (by rw [hending]; decide) hposition
      · cases hposition
    | invalid =>
      simp only [hending] at hposition
      have hsame := decode_invalid_append hending (rest.drop count)
      rw [List.take_append_drop] at hsame
      exact hplace position hsame (by rw [hending]; decide) hposition

theorem window_of_chars {bytes : List UInt8} {done : List Char} (h : done <+: (decode bytes).1)
    (count : Nat) : Window bytes done count (((decode bytes).1.drop done.length).take count) := by
  obtain ⟨rest, hrest⟩ := h
  rw [← hrest, List.drop_left]
  constructor
  · rw [← hrest]
    exact (List.prefix_append_right_inj _).2 (List.take_prefix _ _)
  · intro c hc
    rw [← hrest, List.append_assoc] at hc
    have hlength := ((List.prefix_append_right_inj _).1 hc).length_le
    have htext : (Chunk.text (rest.take count)).1 = rest.take count := rfl
    have hunits : ∀ cs : List Char, unitsIn (List Char) cs = cs.length := fun _ => rfl
    rw [htext, List.length_append, List.length_singleton, List.length_take] at hlength
    rw [htext, hunits, List.length_append, List.length_singleton, List.length_take]
    omega
  · intro position hposition
    cases hposition

/-! ## Inputs whose chunks are windows -/

/-- An input whose cursor is behind a text in front of the bytes, and whose chunks show what comes
next. -/
structure Reads (bytes : List UInt8) (Behind : ι → List Char → Prop) : Prop where
  tracks : Tracks (decode bytes).1 Behind
  window : ∀ {i done}, Behind i done → ∀ {count chunk i'}, Input.peek count i = (.ok chunk, i') →
    Window bytes done count chunk
  fault : ∀ {i done}, Behind i done → ∀ {count position i'},
    Input.peek count i = (.error (.undecodable position), i') → UndecodableAt κ bytes position

theorem ByteCursor.reads (bytes : List UInt8) : Reads bytes (ByteCursor.Behind bytes) where
  tracks := tracks bytes
  window := by
    rintro c done ⟨hbytes, ⟨rest, hrest⟩, hposition⟩ count chunk c' hpeek
    have hdrop : bytes.drop (byteLength done) = rest := by
      rw [← hrest, ← length_encode, List.drop_left]
    cases hpeek
    rw [hbytes, hposition, hdrop]
    exact window_of_bytes hrest.symm count
  fault := by
    intro c done h count position c' hpeek
    cases hpeek

theorem TextCursor.reads (text : List Char) :
    Reads (encode text) (fun c done => At text done c) where
  tracks := by
    rw [decode_encode]
    exact tracks text
  window := by
    intro c done h count chunk c' hpeek
    have hdone : done <+: (decode (encode text)).1 := by
      rw [decode_encode]
      exact h.behind
    have hwindow := window_of_chars hdone count
    rw [decode_encode] at hwindow
    cases hpeek
    rw [h.rest_eq]
    exact hwindow
  fault := by
    intro c done h count position c' hpeek
    cases hpeek

theorem BufferedBytes.reads {source : Source} (hcopies : source.CopiesAll) :
    Reads source.bytes (BufferedBytes.Behind source) where
  tracks := tracks source
  window := by
    rintro i done ⟨hat, ⟨rest, hrest⟩⟩ count chunk i' hpeek
    have hdrop : source.bytes.drop (byteLength done) = rest := by
      rw [← hrest, ← length_encode, List.drop_left]
    rcases hat.peek count with ⟨reason, i₁, hi, -, -⟩ | ⟨i₁, hi, -, hall⟩
    · rw [hi] at hpeek
      cases hpeek
    · rw [hi] at hpeek
      cases hpeek
      rw [hall hcopies, hdrop]
      exact window_of_bytes hrest.symm count
  fault := by
    rintro i done ⟨hat, -⟩ count position i' hpeek
    rcases hat.peek count with ⟨reason, i₁, hi, -, -⟩ | ⟨i₁, hi, -, -⟩
    · rw [hi] at hpeek
      cases hpeek
    · rw [hi] at hpeek
      cases hpeek

/-- What is covered of the text is a window, and there is a fault only at bytes that are no text. -/
theorem BufferedText.window_of_cover {bytes : List UInt8} {done chunk : List Char}
    (h : done <+: (decode bytes).1) {count : Nat}
    (hcover : cover (decode bytes).1 ((decode bytes).2 = .complete) done.length count = .ok chunk) :
    Window bytes done count chunk := by
  have hchunk : chunk = ((decode bytes).1.drop done.length).take count := by
    unfold cover at hcover
    split at hcover
    · cases hcover
      rfl
    · split at hcover
      · cases hcover
        rw [List.take_of_length_le (by rw [List.length_drop]; omega)]
      · cases hcover
  rw [hchunk]
  exact window_of_chars h count

theorem BufferedText.reads {source : Source} (hcopies : source.CopiesAll) :
    Reads source.bytes (fun i done => At source done i) where
  tracks := tracks source
  window := by
    intro i done hat count chunk i' hpeek
    rcases hat.peek count with
      ⟨reason, i₁, hi, -, -⟩ | ⟨i₁, hi, -, hcover⟩ | ⟨position, i₁, hi, -, -⟩
    · rw [hi] at hpeek
      cases hpeek
    · rw [hi] at hpeek
      cases hpeek
      exact window_of_cover (isPrefix_decode hat.behind) (hcover hcopies)
    · rw [hi] at hpeek
      cases hpeek
  fault := by
    intro i done hat count position i' hpeek
    rcases hat.peek count with
      ⟨reason, i₁, hi, -, -⟩ | ⟨i₁, hi, -, -⟩ | ⟨found, i₁, hi, -, hcover⟩
    · rw [hi] at hpeek
      cases hpeek
    · rw [hi] at hpeek
      cases hpeek
    · rw [hi] at hpeek
      cases hpeek
      have hfault := hcover hcopies
      unfold cover at hfault
      split at hfault
      · cases hfault
      · split at hfault
        · cases hfault
        · rename_i hending
          cases hfault
          exact ⟨hending, rfl⟩

end Lexis
