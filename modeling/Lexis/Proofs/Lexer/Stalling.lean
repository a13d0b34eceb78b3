import Lexis.Proofs.Input.Advancing
import Lexis.Proofs.Lexer.Window

/-!
# Empty matches that are discarded

A round with an empty match that is discarded leaves the cursor where it is. If it leaves the states
as they were as well, the next round is the same again, and so on for ever, and so the run stalls.
But it is not the states before and after the action that are compared. What is noted is whether the
action has entered a state at all, or left one; so moves that take each other back count as a
change, and the run goes on as if there had been one.

Principal results:

* `Move.run_eq_false_iff` — which moves count as no change;
* `Advances.of_firing` — how far a round moves the cursor, whichever rules the lexer has;
* `Lexing.stalls_unless_changed` — when a run stalls and when it goes on, for the four kinds of
  inputs;
* `Lexing.not_stalls_of_cancelling` — moves that take each other back.
-/

namespace Lexis

open Pattern Text

/-! ## Moves -/

namespace Move

variable {states : List String} {moves : List Move}

/-- The moves find nothing to change: there are none, or they only leave where there is no state. -/
def Idle (states : List String) (moves : List Move) : Prop :=
  moves = [] ∨ states = [] ∧ ∀ m ∈ moves, m = .leave

/-- The moves change the states, and then change them back to what they were. -/
def Cancel (states : List String) (moves : List Move) : Prop :=
  ¬Idle states moves ∧ (run false states moves).1 = states

instance (states : List String) (moves : List Move) : Decidable (Idle states moves) :=
  inferInstanceAs (Decidable (moves = [] ∨ states = [] ∧ ∀ m ∈ moves, m = .leave))

theorem idle_nil : Idle [] moves ↔ ∀ m ∈ moves, m = .leave := by
  constructor
  · rintro (rfl | ⟨-, h⟩)
    · simp
    · exact h
  · intro h
    exact Or.inr ⟨rfl, h⟩

theorem run_true (states : List String) (moves : List Move) : (run true states moves).2 = true := by
  induction moves generalizing states with
  | nil => rfl
  | cons m moves ih =>
    cases m with
    | enter state => exact ih (state :: states)
    | leave =>
      cases states with
      | nil => exact ih []
      | cons state states => exact ih states

/-- **No change is noted of moves that find nothing to change**, and of no others. -/
theorem run_eq_false_iff : (run false states moves).2 = false ↔ Idle states moves := by
  induction moves generalizing states with
  | nil => simp [run, Idle]
  | cons m moves ih =>
    cases m with
    | enter state => simp [run, run_true, Idle]
    | leave =>
      cases states with
      | nil =>
        have hsame : run false [] (.leave :: moves) = run false [] moves := rfl
        rw [hsame, ih, idle_nil, idle_nil]
        simp
      | cons state states => simp [run, run_true, Idle]

theorem run_of_idle (h : Idle states moves) : (run false states moves).1 = states := by
  obtain rfl | ⟨rfl, h⟩ := h
  · rfl
  · induction moves with
    | nil => rfl
    | cons m moves ih =>
      rw [h m List.mem_cons_self]
      exact ih fun m hm => h m (List.mem_cons_of_mem _ hm)

end Move

variable {ι κ V : Type} [Chunk κ] [Input ι κ]

/-! ## Rounds that discard an empty match -/

/-- What the action of a rule that fires does. -/
def Firing.reaction (f : Firing ι V) : Reaction V := f.choice.reaction f.before.states

/-- The match is empty and is discarded. -/
structure Firing.Blank (f : Firing ι V) : Prop where
  empty : f.text = []
  discards : f.reaction.Discards

/-- The moves of the action take each other back. -/
def Firing.Cancels (f : Firing ι V) : Prop := Move.Cancel f.before.states f.reaction.moves

namespace Lexing

variable {lexer : Lexer V} {run : Lexing ι} {f : Firing ι V}

theorem states_of_firing (h : firing? lexer run = some f) : f.before.states = run.states :=
  (choose_ok (choose_of_firing h).1).1

variable [LawfulChunk κ] [Sourced ι] [LawfulInput ι]

/-- A match that is followed by another round is discarded. -/
theorem discards_of_again (h : firing? lexer run = some f) (hagain : f.outcome = .again) :
    f.reaction.Discards := by
  obtain ⟨-, hreact⟩ := react_of_firing h
  have houtcome : (react lexer (unitsIn κ f.text) f.choice f.before.states).1 = .again := by
    rw [← hreact]
    exact hagain
  intro token htoken
  cases hnamed : token.isIgnorable with
  | true => rfl
  | false =>
    rw [react_of_gives htoken hnamed] at houtcome
    split at houtcome <;> cases houtcome

variable [MeasuredText κ]

/-- **How a round ends that discards its match**: it stalls if the match is empty and its action
finds nothing to change, and else there is another round. -/
theorem outcome_of_discards (h : firing? lexer run = some f) (hdiscards : f.reaction.Discards) :
    f.after.states = (Move.run false run.states f.reaction.moves).1 ∧
    f.outcome =
      if f.text = [] ∧ Move.Idle run.states f.reaction.moves then
        .answer (.error (.stalled (stateLabel f.after.states)))
      else .again := by
  have hstates : f.before.states = run.states := states_of_firing h
  obtain ⟨-, hreact⟩ := react_of_firing h
  rw [react_of_discards hdiscards, Prod.mk.injEq] at hreact
  obtain ⟨houtcome, hafter⟩ := hreact
  have hreaction : f.choice.reaction f.before.states = f.reaction := rfl
  rw [hreaction, hstates] at houtcome hafter
  refine ⟨hafter, ?_⟩
  rw [houtcome, ← hafter]
  simp only [MeasuredText.unitsIn_eq_zero, Move.run_eq_false_iff]

/-- A match that is empty and discarded stalls the run where its action finds nothing to change. -/
theorem next_of_idle (h : firing? lexer run = some f) (hblank : f.Blank)
    (hidle : Move.Idle run.states f.reaction.moves) (limit : Nat) :
    next lexer (limit + 1) run =
      (some (.error (.stalled (stateLabel f.after.states))), f.after) := by
  obtain ⟨-, houtcome⟩ := outcome_of_discards h hblank.discards
  rw [if_pos ⟨hblank.empty, hidle⟩] at houtcome
  apply next_of_answer
  rw [← houtcome]
  exact (react_of_firing h).1

/-- A match that is discarded is followed by another round where its action changes something. -/
theorem next_of_busy (h : firing? lexer run = some f) (hdiscards : f.reaction.Discards)
    (hbusy : ¬Move.Idle run.states f.reaction.moves) (limit : Nat) :
    next lexer (limit + 1) run = next lexer limit f.after := by
  obtain ⟨-, houtcome⟩ := outcome_of_discards h hdiscards
  rw [if_neg fun hboth => hbusy hboth.2] at houtcome
  apply next_of_again
  rw [← houtcome]
  exact (react_of_firing h).1

end Lexing

/-! ## How far a round moves the cursor -/

namespace Advances

variable {Sane : ι → Prop} {lexer : Lexer V} {run : Lexing ι}

theorem choose (h : Advances Sane) (hrun : Sane run.input) {answer : Except Fault (Choice V)}
    {chosen : Lexing ι} (hchoose : Lexing.choose lexer run = (answer, chosen)) :
    Sane chosen.input ∧ chosen.position = run.position := by
  cases answer with
  | error fault =>
    obtain ⟨-, ⟨rfl, -⟩ | hpeek | ⟨chunk, hpeek, -⟩⟩ := Lexing.choose_error hchoose
    · exact ⟨hrun, rfl⟩
    · exact h.peek hrun hpeek
    · exact h.peek hrun hpeek
  | ok choice =>
    obtain ⟨-, -, -, chunk, hpeek, -⟩ := Lexing.choose_ok hchoose
    exact h.peek hrun hpeek

variable [LawfulChunk κ] [Sourced ι] [LawfulInput ι]

/-- **A rule that fires moves the cursor by the units of its match**, wherever this was found. -/
theorem of_firing (h : Advances Sane) (hrun : Sane run.input) {f : Firing ι V}
    (hf : Lexing.firing? lexer run = some f) :
    Sane f.after.input ∧ f.after.position = run.position + unitsIn κ f.text := by
  obtain ⟨hchoose, hfire⟩ := Lexing.choose_of_firing hf
  obtain ⟨hchosen, hposition⟩ := h.choose hrun hchoose
  have hheld := Lexing.holds_of_choose hchoose
  obtain ⟨hafter, hmoved⟩ := h.advance hchosen hheld
  rw [Lexing.fire_of_holds hheld, Prod.mk.injEq] at hfire
  rw [← hfire.2, ← hposition]
  exact ⟨hafter, hmoved⟩

theorem reached (h : Advances Sane) {first : Lexing ι} (hfirst : Sane first.input)
    (hrun : Lexing.Reached lexer first run) : Sane run.input := by
  induction hrun with
  | start => exact hfirst
  | @round run _ ih =>
    rcases Lexing.round_or_firing lexer run with ⟨fault, after, hchoose, hround⟩ | ⟨f, hf⟩
    · rw [hround]
      exact (h.choose ih hchoose).1
    · rw [(Lexing.react_of_firing hf).1]
      exact (h.of_firing ih hf).1

end Advances

/-! ## When a run stalls -/

/-- What becomes of rounds that discard an empty match, at all runs that are reached: where the
states are as they were the run stalls, apart from the matches that are spared, and else it goes on
with another round. -/
structure Stalls (lexer : Lexer V) (Spared : Firing ι V → Prop) (first : Lexing ι) : Prop where
  /-- The fault names the innermost state. -/
  stalled : ∀ {run}, Lexing.Reached lexer first run → ∀ {f}, Lexing.firing? lexer run = some f →
    f.Blank → f.after.states = run.states → ¬Spared f → ∀ limit,
      Lexing.next lexer (limit + 1) run =
        (some (.error (.stalled (stateLabel f.after.states))), f.after)
  goesOn : ∀ {run}, Lexing.Reached lexer first run → ∀ {f}, Lexing.firing? lexer run = some f →
    f.Blank → f.after.states ≠ run.states → ∀ limit,
      Lexing.next lexer (limit + 1) run = Lexing.next lexer limit f.after
  spares : ∀ {run}, Lexing.Reached lexer first run → ∀ {f}, Lexing.firing? lexer run = some f →
    f.Blank → Spared f → f.after.states = run.states ∧ ∀ limit,
      Lexing.next lexer (limit + 1) run = Lexing.next lexer limit f.after
  /-- A round that has another one after it, and leaves the cursor and the states as they were,
  discards an empty match that is spared. -/
  still : ∀ {run after}, Lexing.Reached lexer first run →
    Lexing.round lexer run = (.again, after) → after.SamePlace run →
      ∃ f, Lexing.firing? lexer run = some f ∧ f.after = after ∧ f.Blank ∧ Spared f

section

variable [LawfulChunk κ] [MeasuredText κ] [Sourced ι] [LawfulInput ι] {Sane : ι → Prop}

/-- **When a run stalls and when it goes on**, over an input whose cursor moves by what is
skipped. -/
theorem Advances.stalls (h : Advances Sane) (lexer : Lexer V) {first : Lexing ι}
    (hfirst : Sane first.input) : Stalls lexer Firing.Cancels first where
  stalled := by
    intro run _ f hf hblank hsame hspared limit
    obtain ⟨hafter, -⟩ := Lexing.outcome_of_discards hf hblank.discards
    by_cases hidle : Move.Idle run.states f.reaction.moves
    · exact Lexing.next_of_idle hf hblank hidle limit
    · refine absurd ?_ hspared
      rw [Firing.Cancels, Lexing.states_of_firing hf]
      exact ⟨hidle, hafter.symm.trans hsame⟩
  goesOn := by
    intro run _ f hf hblank hdiffer limit
    obtain ⟨hafter, -⟩ := Lexing.outcome_of_discards hf hblank.discards
    apply Lexing.next_of_busy hf hblank.discards
    intro hidle
    exact hdiffer (hafter.trans (Move.run_of_idle hidle))
  spares := by
    intro run _ f hf hblank hspared
    obtain ⟨hafter, -⟩ := Lexing.outcome_of_discards hf hblank.discards
    rw [Firing.Cancels, Lexing.states_of_firing hf] at hspared
    obtain ⟨hbusy, hback⟩ := hspared
    exact ⟨hafter.trans hback, Lexing.next_of_busy hf hblank.discards hbusy⟩
  still := by
    intro run after hrun hround hplace
    rcases Lexing.round_or_firing lexer run with ⟨fault, after', -, hfault⟩ | ⟨f, hf⟩
    · rw [hround] at hfault
      cases hfault
    · obtain ⟨hfired, -⟩ := Lexing.react_of_firing hf
      rw [hround, Prod.mk.injEq] at hfired
      obtain ⟨hagain, rfl⟩ := hfired
      have hdiscards := Lexing.discards_of_again hf hagain.symm
      obtain ⟨hafter, houtcome⟩ := Lexing.outcome_of_discards hf hdiscards
      -- the cursor has not moved, so that the match takes no units
      have hempty : f.text = [] := by
        obtain ⟨-, hmoved⟩ := h.of_firing (h.reached hfirst hrun) hf
        have hstays : f.after.position = run.position := hplace.1
        have hzero : unitsIn κ f.text = 0 := by omega
        exact (MeasuredText.unitsIn_eq_zero f.text).1 hzero
      have hbusy : ¬Move.Idle run.states f.reaction.moves := by
        intro hidle
        rw [if_pos ⟨hempty, hidle⟩, ← hagain] at houtcome
        cases houtcome
      refine ⟨f, hf, rfl, ⟨hempty, hdiscards⟩, ?_⟩
      rw [Firing.Cancels, Lexing.states_of_firing hf]
      exact ⟨hbusy, hafter.symm.trans hplace.2⟩

end

/-! ## The inputs -/

/-- **An empty match that is discarded stalls a run unless its action changes the states**, on the
way or in the end: whatever the lexer is, over data in memory and over any source. -/
theorem Lexing.stalls_unless_changed (lexer : Lexer V) (states : List String) :
    (∀ bytes, Stalls lexer Firing.Cancels (start (ByteCursor.ofBytes bytes) states)) ∧
    (∀ text, Stalls lexer Firing.Cancels (start (TextCursor.ofText text) states)) ∧
    (∀ source blockSize,
      Stalls lexer Firing.Cancels (start (BufferedBytes.ofSource source blockSize) states)) ∧
    ∀ source blockSize,
      Stalls lexer Firing.Cancels (start (BufferedText.ofSource source blockSize) states) := by
  refine ⟨fun bytes => ?_, fun text => ?_, fun source blockSize => ?_, fun source blockSize => ?_⟩
  · exact ByteCursor.advances.stalls lexer trivial
  · exact TextCursor.advances.stalls lexer trivial
  · exact (BufferedBytes.advances source).stalls lexer
      ⟨0, BufferedBytes.at_ofSource source blockSize⟩
  · exact (BufferedText.advances source).stalls lexer
      ⟨[], BufferedText.at_ofSource source blockSize⟩

/-! ## Moves that take each other back -/

/-- A round that leaves a run exactly as it was is followed by the same one for ever. -/
theorem Lexing.next_of_round_self {lexer : Lexer V} {run : Lexing ι}
    (h : round lexer run = (.again, run)) (limit : Nat) : next lexer limit run = (none, run) := by
  induction limit with
  | zero => rfl
  | succ limit ih =>
    rw [next_of_again h]
    exact ih

/-- A rule that always matches, takes nothing, and enters a state and leaves it again. -/
def Demo.cancelling : List (Declaration Value) :=
  [.rule "" fun _ _ => ⟨[.enter "a", .leave], none⟩]

/-- One byte in a source that refuses its second read. -/
def Demo.refusing : BufferedBytes :=
  .ofSource (.flaky [0x78] (fun k => if k = 1 then some "read 1 failed" else none) none) 1024

/-- Such a rule does not stall a run: over a source the next round comes to a read that is refused,
and over a text there is no end of rounds. -/
theorem Lexing.not_stalls_of_cancelling : ∃ lexer, Lexer.build Demo.cancelling = .ok lexer ∧
    ¬Stalls lexer (fun _ => False) (start Demo.refusing []) ∧
    ∀ limit, (next lexer limit (start (TextCursor.ofText ['x']) [])).1 = none := by
  have hfirst : (Lexer.build Demo.cancelling).toOption.bind (fun lexer =>
      (firing? lexer (start Demo.refusing [])).map fun f =>
        (f.text, f.reaction.token, f.after.states)) = some ([], none, []) := by
    decide +kernel
  have hsecond : (Lexer.build Demo.cancelling).toOption.bind (fun lexer =>
      match (next lexer 2 (start Demo.refusing [])).1 with
      | some (.error fault) => some fault
      | some (.ok _) => none
      | none => none) = some (.unreadable "read 1 failed") := by
    decide +kernel
  have hself : (Lexer.build Demo.cancelling).toOption.bind (fun lexer =>
      match round lexer (start (TextCursor.ofText ['x']) []) with
      | (.answer _, _) => none
      | (.again, after) => some (after.input, after.states)) =
        some (TextCursor.ofText ['x'], []) := by
    decide +kernel
  cases hlexer : Lexer.build Demo.cancelling with
  | error fault =>
    rw [hlexer] at hfirst
    cases hfirst
  | ok lexer =>
    rw [hlexer] at hfirst hsecond hself
    dsimp only [Except.toOption, Option.bind_some] at hfirst hsecond hself
    refine ⟨lexer, rfl, fun hall => ?_, fun limit => ?_⟩
    · obtain ⟨f, hf, hshown⟩ := Option.map_eq_some_iff.1 hfirst
      rw [Prod.mk.injEq, Prod.mk.injEq] at hshown
      obtain ⟨hempty, htoken, hstates⟩ := hshown
      have hdiscards : f.reaction.Discards := by
        intro token hgiven
        rw [htoken] at hgiven
        cases hgiven
      have hstalled := hall.stalled .start hf ⟨hempty, hdiscards⟩ hstates not_false 1
      rw [hstalled] at hsecond
      cases hsecond
    · have hround : round lexer (start (TextCursor.ofText ['x']) []) =
          (.again, start (TextCursor.ofText ['x']) []) := by
        split at hself
        · cases hself
        · rename_i after hround
          obtain ⟨input, states⟩ := after
          obtain ⟨rfl, rfl⟩ := Prod.mk.inj (Option.some.inj hself)
          exact hround
      rw [next_of_round_self hround]

end Lexis
