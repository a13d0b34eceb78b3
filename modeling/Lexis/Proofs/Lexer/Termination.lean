import Lexis.Proofs.Lexer.Stalling

/-!
# Calls that come to an end

Nothing bounds the rounds of a call beforehand: matches that are discarded may enter as many states
as they like, and each of these states may be left again by a match of its own, which takes nothing.
What a run cannot do for ever, if no match that takes nothing and is discarded enters a state, is to
go on without end. A round with another one behind it either takes something of the input, or it
leaves a state and enters none; so the input that is left and the depth of the states, the first one
before the second one, get less. This needs the check for runs that stall, and nothing else of the
rules: not even that they match at the cursor.

Principal results:

* `Move.length_run_lt` — moves that only leave, and find something to leave;
* `Bounds.round_lt` — a round with another one behind it makes the measure less;
* `Bounds.exists_answer` — a call has an answer;
* `Lexing.terminates` — the four kinds of inputs.
-/

namespace Lexis

open Pattern Text

/-! ## Moves that only leave -/

namespace Move

variable {states : List String} {moves : List Move}

/-- The moves enter no state. -/
def OnlyLeave (moves : List Move) : Prop := ∀ state, .enter state ∉ moves

theorem length_run_le (h : OnlyLeave moves) (changed : Bool) (states : List String) :
    (run changed states moves).1.length ≤ states.length := by
  induction moves generalizing changed states with
  | nil => exact Nat.le_refl _
  | cons m moves ih =>
    have hrest : OnlyLeave moves := fun state hstate => h state (List.mem_cons_of_mem _ hstate)
    cases m with
    | enter state => exact absurd List.mem_cons_self (h state)
    | leave =>
      cases states with
      | nil => exact ih hrest changed []
      | cons state states =>
        have hle := ih hrest true states
        simp only [run, List.length_cons]
        omega

/-- **Moves that only leave** make the states less deep, unless they find nothing to change. -/
theorem length_run_lt (h : OnlyLeave moves) (hbusy : ¬Idle states moves) :
    (run false states moves).1.length < states.length := by
  cases moves with
  | nil => exact absurd (Or.inl rfl) hbusy
  | cons m moves =>
    have hrest : OnlyLeave moves := fun state hstate => h state (List.mem_cons_of_mem _ hstate)
    cases m with
    | enter state => exact absurd List.mem_cons_self (h state)
    | leave =>
      cases states with
      | nil =>
        -- there is nothing to leave, now and later
        apply absurd _ hbusy
        rw [idle_nil]
        intro m hm
        cases m with
        | enter state => exact absurd hm (h state)
        | leave => rfl
      | cons state states =>
        have hle := length_run_le hrest true states
        simp only [run, List.length_cons]
        omega

end Move

variable {ι κ V : Type} [Chunk κ] [Input ι κ]

/-! ## Rounds -/

/-- A match of the rule that is empty and discarded enters no state. -/
def Rule.BlanksOnlyLeave (rule : Rule V) : Prop :=
  ∀ text found, rule.pattern.match? text = some found → found.whole = [] →
    ∀ site, (rule.action found site).Discards → Move.OnlyLeave (rule.action found site).moves

/-- How many units of the input are left, and how deep the states are. -/
def Lexing.left (total : Nat) (run : Lexing ι) : Nat × Nat :=
  (total - run.position, run.states.length)

/-- What holds of the calls at all runs that are reached, over an input of so many units. -/
structure Terminates (lexer : Lexer V) (total : Nat) (first : Lexing ι) : Prop where
  within : ∀ {run}, Lexing.Reached lexer first run → run.position ≤ total
  /-- A round with another one behind it leaves less of the input, or as much of it and fewer
  states. -/
  round_lt : ∀ {run after}, Lexing.Reached lexer first run →
    Lexing.round lexer run = (.again, after) →
      Prod.Lex (· < ·) (· < ·) (after.left total) (run.left total)
  /-- So many rounds are enough for an answer. -/
  answer : ∀ {run}, Lexing.Reached lexer first run → ∃ limit a after,
    Lexing.next lexer limit run = (some a, after)

section

variable [LawfulChunk κ] [MeasuredText κ] [Sourced ι] [LawfulInput ι] {total : Nat}
  {Sane : ι → Prop} {lexer : Lexer V} {run after : Lexing ι}

/-- Where no empty match that is discarded enters a state, one that does not stall the run leaves
one. -/
theorem Lexing.depth_lt_of_blank (hlexer : lexer.All Rule.BlanksOnlyLeave) {f : Firing ι V}
    (hf : firing? lexer run = some f) (hblank : f.Blank) (hagain : f.outcome = .again) :
    f.after.states.length < run.states.length := by
  obtain ⟨-, -, ⟨rules, hactive, hmem⟩, chunk, -, hmatch⟩ := choose_ok (choose_of_firing hf).1
  obtain ⟨hafter, houtcome⟩ := outcome_of_discards hf hblank.discards
  have honly : Move.OnlyLeave f.reaction.moves :=
    hlexer.active hactive f.choice.rule hmem _ _ hmatch hblank.empty _ hblank.discards
  have hbusy : ¬Move.Idle run.states f.reaction.moves := by
    intro hidle
    rw [if_pos ⟨hblank.empty, hidle⟩, hagain] at houtcome
    cases houtcome
  rw [hafter]
  exact Move.length_run_lt honly hbusy

/-- **A round with another one behind it** makes the measure less. -/
theorem Bounds.round_lt (h : Bounds total Sane) (hlexer : lexer.All Rule.BlanksOnlyLeave)
    (hrun : Sane run.input) (hround : Lexing.round lexer run = (.again, after)) :
    Sane after.input ∧ Prod.Lex (· < ·) (· < ·) (after.left total) (run.left total) := by
  rcases Lexing.round_or_firing lexer run with ⟨fault, after', -, hfault⟩ | ⟨f, hf⟩
  · rw [hround] at hfault
    cases hfault
  obtain ⟨hfired, -⟩ := Lexing.react_of_firing hf
  rw [hround, Prod.mk.injEq] at hfired
  obtain ⟨hagain, rfl⟩ := hfired
  obtain ⟨hsane, hmoved⟩ := h.advances.of_firing hrun hf
  refine ⟨hsane, ?_⟩
  have hinside : f.after.position ≤ total := h.position_le hsane
  by_cases hempty : f.text = []
  · have hblank : f.Blank := ⟨hempty, Lexing.discards_of_again hf hagain.symm⟩
    have hstays : f.after.position = run.position := by
      rw [hmoved, (MeasuredText.unitsIn_eq_zero f.text).2 hempty, Nat.add_zero]
    unfold Lexing.left
    rw [hstays]
    apply Prod.Lex.right
    exact Lexing.depth_lt_of_blank hlexer hf hblank hagain.symm
  · have hunits : unitsIn κ f.text ≠ 0 := fun hzero =>
      hempty ((MeasuredText.unitsIn_eq_zero f.text).1 hzero)
    apply Prod.Lex.left
    show total - f.after.position < total - run.position
    omega

theorem Bounds.exists_answer (h : Bounds total Sane) (hlexer : lexer.All Rule.BlanksOnlyLeave)
    (run : Lexing ι) (hrun : Sane run.input) :
    ∃ limit a after, Lexing.next lexer limit run = (some a, after) := by
  obtain ⟨outcome, after, hround⟩ : ∃ outcome after, Lexing.round lexer run = (outcome, after) :=
    ⟨_, _, rfl⟩
  cases outcome with
  | answer a => exact ⟨1, a, after, Lexing.next_of_answer hround 0⟩
  | again =>
    have hless := h.round_lt hlexer hrun hround
    obtain ⟨limit, a, last, hnext⟩ := h.exists_answer hlexer after hless.1
    exact ⟨limit + 1, a, last, by rw [Lexing.next_of_again hround, hnext]⟩
termination_by run.left total
decreasing_by exact hless.2

theorem Bounds.calls_end (h : Bounds total Sane) (hlexer : lexer.All Rule.BlanksOnlyLeave)
    {first : Lexing ι} (hfirst : Sane first.input) : Terminates lexer total first where
  within := by
    intro run hreached
    exact h.position_le (h.advances.reached hfirst hreached)
  round_lt := by
    intro run after hreached hround
    exact (h.round_lt hlexer (h.advances.reached hfirst hreached) hround).2
  answer := by
    intro run hreached
    exact h.exists_answer hlexer run (h.advances.reached hfirst hreached)

end

/-! ## The inputs -/

/-- **Calls come to an end** if no match that is empty and discarded enters a state: over data in
memory and over any source, from any place in the input and in any states. -/
theorem Lexing.terminates (lexer : Lexer V) (hlexer : lexer.All Rule.BlanksOnlyLeave)
    (states : List String) :
    (∀ bytes cursor, ByteCursor.Inside bytes cursor →
      Terminates lexer bytes.length ⟨cursor, states⟩) ∧
    (∀ text done cursor, TextCursor.At text done cursor →
      Terminates lexer text.length ⟨cursor, states⟩) ∧
    (∀ source q input, BufferedBytes.At source q input →
      Terminates lexer source.bytes.length ⟨input, states⟩) ∧
    ∀ source done input, BufferedText.At source done input →
      Terminates lexer (decode source.bytes).1.length ⟨input, states⟩ := by
  constructor
  · intro bytes cursor hcursor
    exact (ByteCursor.bounds bytes).calls_end hlexer hcursor
  constructor
  · intro text done cursor hcursor
    exact (TextCursor.bounds text).calls_end hlexer ⟨done, hcursor⟩
  constructor
  · intro source q input hinput
    exact (BufferedBytes.bounds source).calls_end hlexer ⟨q, hinput⟩
  · intro source done input hinput
    exact (BufferedText.bounds source).calls_end hlexer ⟨done, hinput⟩

/-- A letter enters a state, which is left again without taking anything. -/
def Demo.unwinding : List (Declaration Value) :=
  [.rule "a" fun m _ => ⟨[.enter "inside"], some ⟨some "A", wholeText m⟩⟩,
   .stateRule "inside" "" fun _ _ => ⟨[.leave], none⟩]

/-- Two states are left before the letter is found, so that one round less has no answer; over a
source that refuses its second read there is a fault after one of them. -/
theorem Lexing.terminates_unwinding : ∃ lexer, Lexer.build Demo.unwinding = .ok lexer ∧
    lexer.All Rule.BlanksOnlyLeave ∧
    Terminates lexer 1 ⟨TextCursor.ofText ['a'], ["inside", "inside"]⟩ ∧
    Terminates lexer 1 ⟨Demo.refusing, ["inside", "inside"]⟩ ∧
    (next lexer 2 ⟨TextCursor.ofText ['a'], ["inside", "inside"]⟩).1.isNone ∧
    (next lexer 3 ⟨TextCursor.ofText ['a'], ["inside", "inside"]⟩).1.isSome := by
  have hmade : ∀ d ∈ Demo.unwinding, d.Makes Rule.BlanksOnlyLeave := by
    simp only [Demo.unwinding, List.forall_mem_cons, List.not_mem_nil, false_imp_iff, implies_true,
      and_true, Declaration.Makes]
    constructor
    · intro rule hrule text found _ _ site hdiscards
      rw [Rule.action_of_compile hrule] at hdiscards
      cases hdiscards _ rfl
    · intro rule hrule text found _ _ site _
      rw [Rule.action_of_compile hrule]
      simp [Move.OnlyLeave]
  have hrounds : (Lexer.build Demo.unwinding).toOption.map (fun lexer =>
      ((next lexer 2 ⟨TextCursor.ofText ['a'], ["inside", "inside"]⟩).1.isNone,
        (next lexer 3 ⟨TextCursor.ofText ['a'], ["inside", "inside"]⟩).1.isSome)) =
      some (true, true) := by
    decide +kernel
  cases hlexer : Lexer.build Demo.unwinding with
  | error fault =>
    rw [hlexer] at hrounds
    cases hrounds
  | ok lexer =>
    rw [hlexer] at hrounds
    simp only [Except.toOption, Option.map_some, Option.some.injEq, Prod.mk.injEq] at hrounds
    have honly : lexer.All Rule.BlanksOnlyLeave := Lexer.all_of_build hmade hlexer
    have hall := terminates lexer honly ["inside", "inside"]
    refine ⟨lexer, rfl, honly, ?_, ?_, hrounds.1, hrounds.2⟩
    · exact hall.2.1 ['a'] [] _ (TextCursor.at_ofText ['a'])
    · exact hall.2.2.1
        (.flaky [0x78] (fun k => if k = 1 then some "read 1 failed" else none) none) 0 Demo.refusing
        (BufferedBytes.at_ofSource _ 1024)

end Lexis
