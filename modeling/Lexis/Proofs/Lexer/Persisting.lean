import Lexis.Demo.Grammar
import Lexis.Proofs.Lexer.Stalling

/-!
# Answers that no rule can fire

Where no rule can fire, a run does not move: the cursor and the states stay, and the next answer is
the same again, and so on for ever. This is clear where the innermost state has no rules. In the
other cases the chunk at the cursor is to blame, and it is asked for once more; so the input has to
answer a request again as it has answered it before. One in memory does. A buffered one may fetch
more and decode another buffer, and does too if its source reads fully.

Nothing is said of the way there. An answer like this may come after matches that were discarded and
states that were entered in the same call, and these are not taken back.

Principal results:

* `Steady` — inputs that answer a request again as they have answered it;
* `Steady.choose`, `Steady.calls` — one choice, and any number of calls;
* `Lexing.persists_of_stuck` — the four kinds of inputs.
-/

namespace Lexis

open Pattern Text

variable {ι κ V : Type} [Chunk κ] [Input ι κ]

/-! ## Inputs that answer again -/

/-- An input that answers a request again as it has answered it. -/
structure Steady (Sane : ι → Prop) : Prop where
  advances : Advances Sane
  again : ∀ {i}, Sane i → ∀ {count answer i'}, Input.peek count i = (answer, i') →
    (Input.peek count i').1 = answer

theorem Shows.steady {ι : Type} [Input ι (List UInt8)] {bytes : List UInt8} {Sane : ι → Prop}
    (h : Shows bytes Sane) : Steady Sane where
  advances := h.bounds.advances
  again := by
    intro i hi count answer i' hpeek
    obtain ⟨hi', hposition⟩ := h.bounds.advances.peek hi hpeek
    obtain ⟨_, hfirst⟩ := h.peek hi count
    obtain ⟨_, hsecond⟩ := h.peek hi' count
    rw [hpeek, Prod.mk.injEq] at hfirst
    rw [hsecond, hposition, hfirst.1]

theorem TextCursor.steady : Steady fun _ : TextCursor => True where
  advances := advances
  again := by
    intro c _ count answer c' hpeek
    cases hpeek
    rfl

/-- What is covered of the text is the answer, over a source that reads fully. -/
theorem BufferedText.At.peek_eq_cover {source : Source} (hreads : source.ReadsFully)
    {done : List Char} {i : BufferedText} (h : i.At source done) (count : Nat) :
    (Input.peek count i).1 =
      cover (decode source.bytes).1 ((decode source.bytes).2 = .complete) done.length count := by
  rcases h.peek count with
    ⟨reason, -, -, -, hrefuses⟩ | ⟨i', hpeek, -, hcover⟩ | ⟨position, i', hpeek, -, hcover⟩
  · exact absurd hrefuses (hreads.not_refuses reason)
  · rw [hpeek, hcover hreads.copiesAll]
  · rw [hpeek, hcover hreads.copiesAll]

theorem BufferedText.steady {source : Source} (hreads : source.ReadsFully) :
    Steady fun i : BufferedText => ∃ done, i.At source done where
  advances := advances source
  again := by
    rintro i ⟨done, hat⟩ count answer i' hpeek
    obtain ⟨⟨done', hat'⟩, hposition⟩ := (advances source).peek ⟨done, hat⟩ hpeek
    have hlength : done'.length = done.length := by
      rw [← hat'.position, ← hat.position]
      exact hposition
    have hfirst := hat.peek_eq_cover hreads count
    rw [hpeek] at hfirst
    rw [hat'.peek_eq_cover hreads, hlength, ← hfirst]

/-! ## Calls that change nothing -/

/-- The call fires no rule, has the fault for its answer, and stays where the run was. -/
structure Call.Repeats (fault : Fault) (run : Lexing ι) (call : Call ι V) : Prop where
  fired : call.fired = []
  answer : call.answer = some (.error fault)
  place : call.after.SamePlace run

namespace Steady

variable {Sane : ι → Prop} {lexer : Lexer V}

theorem choose (h : Steady Sane) {run chosen : Lexing ι} (hrun : Sane run.input)
    {answer : Except Fault (Choice V)} (hchoose : Lexing.choose lexer run = (answer, chosen)) :
    Sane chosen.input ∧ chosen.SamePlace run ∧ (Lexing.choose lexer chosen).1 = answer := by
  obtain ⟨hsane, hposition⟩ := h.advances.choose hrun hchoose
  rcases Lexing.choose_cases lexer run with
    ⟨name, hname⟩ | ⟨rules, hrules, ⟨fault, input, hpeek⟩ | ⟨chunk, input, hpeek⟩⟩
  · rw [Lexing.choose_of_unknown hname] at hchoose
    cases hchoose
    exact ⟨hsane, ⟨rfl, rfl⟩, by rw [Lexing.choose_of_unknown hname]⟩
  · rw [Lexing.choose_of_fault hrules hpeek] at hchoose
    cases hchoose
    have hagain : Input.peek lexer.options.request input =
        (.error fault, (Input.peek lexer.options.request input).2) :=
      Prod.ext (h.again hrun hpeek) rfl
    have hsecond : Lexing.choose lexer { run with input := input } = _ :=
      Lexing.choose_of_fault hrules hagain
    exact ⟨hsane, ⟨hposition, rfl⟩, by rw [hsecond]⟩
  · rw [Lexing.choose_of_chunk hrules hpeek] at hchoose
    cases hchoose
    have hagain : Input.peek lexer.options.request input =
        (.ok chunk, (Input.peek lexer.options.request input).2) :=
      Prod.ext (h.again hrun hpeek) rfl
    have hsecond : Lexing.choose lexer { run with input := input } = _ :=
      Lexing.choose_of_chunk hrules hagain
    exact ⟨hsane, ⟨hposition, rfl⟩, by rw [hsecond, hposition]⟩

/-- **Any number of calls** where no rule is chosen. -/
theorem calls (h : Steady Sane) {fault : Fault} : ∀ {limits : List Nat} {run : Lexing ι},
    Sane run.input → (Lexing.choose lexer run).1 = .error fault → (∀ limit ∈ limits, 0 < limit) →
      ∀ call ∈ Lexing.calls lexer limits run, call.Repeats fault run
  | [], _, _, _, _, call, hcall => absurd hcall List.not_mem_nil
  | 0 :: _, _, _, _, hlimits, _, _ => absurd (hlimits 0 List.mem_cons_self) (Nat.lt_irrefl 0)
  | (limit + 1) :: limits, run, hrun, hfault, hlimits, call, hcall => by
    have hchoose : Lexing.choose lexer run = (.error fault, (Lexing.choose lexer run).2) :=
      Prod.ext hfault rfl
    obtain ⟨hsane, hplace, hagain⟩ := h.choose hrun hchoose
    obtain ⟨hnone, hround⟩ := Lexing.round_of_error hchoose
    have hnext := Lexing.next_of_answer hround limit
    rw [Lexing.calls, hnext] at hcall
    rcases List.mem_cons.1 hcall with rfl | hcall
    · refine ⟨?_, rfl, hplace⟩
      rw [Lexing.fired_of_answer hround, hnone]
      rfl
    · have hrest := calls h hsane hagain
        (fun l hl => hlimits l (List.mem_cons_of_mem _ hl)) call hcall
      exact ⟨hrest.fired, hrest.answer, hrest.place.1.trans hplace.1,
        hrest.place.2.trans hplace.2⟩

end Steady

/-! ## Runs that are stuck -/

/-- Once an answer at a run that is reached has been that no rule can fire, all answers after it are
the same, fire no rule and change nothing. -/
def Persists (lexer : Lexer V) (first : Lexing ι) : Prop :=
  ∀ run, Lexing.Reached lexer first run → ∀ limit fault after,
    Lexing.next lexer limit run = (some (.error fault), after) → fault.isStuck = true →
      ∀ limits : List Nat, (∀ l ∈ limits, 0 < l) →
        ∀ call ∈ Lexing.calls lexer limits after, call.Repeats fault after

section

variable [LawfulChunk κ] [Sourced ι] [LawfulInput ι]

/-- **Where no rule can fire the run stays**, over an input that answers again as before. -/
theorem Steady.persists {Sane : ι → Prop} (h : Steady Sane) (lexer : Lexer V) {first : Lexing ι}
    (hfirst : Sane first.input) : Persists lexer first := by
  intro run hrun limit fault after hnext hstuck limits hlimits
  obtain ⟨last, hlast, hround⟩ := hrun.exists_round hnext
  have hchoose := Lexing.choose_of_stuck hround hstuck
  obtain ⟨hsane, -, hagain⟩ := h.choose (h.advances.reached hfirst hlast) hchoose
  exact h.calls hsane hagain hlimits

end

/-! ## The inputs -/

/-- **A run that is stuck stays so**: whatever the lexer is, over data in memory and over any bytes
in a source that reads fully. -/
theorem Lexing.persists_of_stuck (lexer : Lexer V) (states : List String) :
    (∀ bytes, Persists lexer (start (ByteCursor.ofBytes bytes) states)) ∧
    (∀ text, Persists lexer (start (TextCursor.ofText text) states)) ∧
    (∀ source : Source, source.ReadsFully → ∀ blockSize,
      Persists lexer (start (BufferedBytes.ofSource source blockSize) states)) ∧
    ∀ source : Source, source.ReadsFully → ∀ blockSize,
      Persists lexer (start (BufferedText.ofSource source blockSize) states) := by
  refine ⟨fun bytes => ?_, fun text => ?_, fun source hreads blockSize => ?_,
    fun source hreads blockSize => ?_⟩
  · exact (ByteCursor.shows bytes).steady.persists lexer (ByteCursor.inside_ofBytes bytes)
  · exact TextCursor.steady.persists lexer trivial
  · exact (BufferedBytes.shows hreads).steady.persists lexer
      ⟨0, BufferedBytes.at_ofSource source blockSize⟩
  · exact (BufferedText.steady hreads).persists lexer
      ⟨[], BufferedText.at_ofSource source blockSize⟩

/-- Blanks are dropped and lead into a state for letters only; two characters are looked at. -/
def Demo.leading : List (Declaration Value) :=
  [.options ⟨2, false⟩, .rule " +" fun _ _ => ⟨[.enter "letters"], none⟩,
    .stateRule "letters" "[a-z]" (giving fun m => ⟨some "WORD", wholeText m⟩)]

/-- Two blanks and a byte that is no text. -/
def Demo.blanksThenJunk : BufferedText := .ofSource (.ofBytes [0x20, 0x20, 0xFF]) 1

/-- The blanks are dropped and the state is entered before the byte is found that is no text; after
that there is no end of this answer, behind the blanks and in the state. -/
theorem Lexing.persists_of_stuck_junk : ∃ lexer, Lexer.build Demo.leading = .ok lexer ∧
    ∃ after, next lexer 2 (start Demo.blanksThenJunk []) =
        (some (.error (.undecodable 2)), after) ∧ after.position = 2 ∧ after.states = ["letters"] ∧
      ∀ count, ∀ call ∈ calls lexer (List.replicate count 1) after,
        call.Repeats (.undecodable 2) after := by
  have hshown : (Lexer.build Demo.leading).toOption.map (fun lexer =>
      let called := next lexer 2 (start Demo.blanksThenJunk [])
      (called.1.map fun
        | .ok _ => none
        | .error fault => some fault, called.2.position, called.2.states)) =
      some (some (some (.undecodable 2)), 2, ["letters"]) := by
    decide +kernel
  cases hlexer : Lexer.build Demo.leading with
  | error fault =>
    rw [hlexer] at hshown
    cases hshown
  | ok lexer =>
    rw [hlexer] at hshown
    obtain ⟨answer, after, hnext⟩ : ∃ answer after,
        next lexer 2 (start Demo.blanksThenJunk []) = (answer, after) := ⟨_, _, rfl⟩
    simp only [Except.toOption, Option.map_some, hnext, Option.some.injEq, Prod.mk.injEq] at hshown
    obtain ⟨hanswer, hposition, hstates⟩ := hshown
    have hfault : answer = some (.error (.undecodable 2)) := by
      rcases answer with _ | fault | token
      · cases hanswer
      · cases hanswer
        rfl
      · cases hanswer
    rw [hfault] at hnext
    have hpersists := (persists_of_stuck lexer []).2.2.2 (.ofBytes [0x20, 0x20, 0xFF])
      (Source.readsFully_ofBytes _) 1
    refine ⟨lexer, rfl, after, hnext, hposition, hstates, fun count => ?_⟩
    refine hpersists _ .start 2 _ after hnext rfl _ fun limit hlimit => ?_
    rw [List.eq_of_mem_replicate hlimit]
    exact Nat.one_pos

end Lexis
