import Lexis.Proofs.Input.Providing
import Lexis.Proofs.Lexer.Window

/-!
# Rounds over a text

Over an input that provides a text a round depends on the text behind the cursor only: the window is
the front of it, the first rule that matches the window fires, and the cursor moves past the match.
Over a source of any bytes, which may hold back some of them, the window is what the input shows.

Principal results:

* `Provides.round_of_match`, `Provides.round_of_none` — the two ways in which such a round goes;
* `Provides.reached` — the cursor stays at the end of a text, and never goes back;
* `BufferedText.round_cases` — the ways in which a round over any bytes goes.
-/

namespace Lexis

open Pattern Text Lexing

variable {ι V : Type} [Input ι (List Char)] {whole done rest : List Char}
  {Behind : ι → List Char → Prop} {lexer : Lexer V} {run : Lexing ι}

namespace Provides

theorem choose (h : Provides whole Behind) (hrun : Behind run.input done)
    (hwhole : whole = done ++ rest) {rules : List (Rule V)}
    (hactive : lexer.active run.states = .ok rules) :
    ∃ input, Behind input done ∧ Lexing.choose lexer run =
      (select rules run.states done.length (rest.take lexer.options.request) none,
        ⟨input, run.states⟩) := by
  obtain ⟨input, hpeek, hinput⟩ := h.peek hrun hwhole lexer.options.request
  have hposition : run.position = done.length := h.position hrun
  refine ⟨input, hinput, ?_⟩
  rw [choose_of_chunk hactive hpeek, hposition]
  rfl

/-- **A rule fires** where it is the first one to match the front of what is left, and the cursor
moves past its match. -/
theorem round_of_match (h : Provides whole Behind) (hrun : Behind run.input done)
    (hwhole : whole = done ++ rest) {rules : List (Rule V)}
    (hactive : lexer.active run.states = .ok rules) {rule : Rule V} {found : Match}
    (hfirst : firstMatch? Rule.pattern (rest.take lexer.options.request) rules =
      some (rule, found)) :
    ∃ input, Behind input (done ++ rest.take found.whole.length) ∧ round lexer run =
      ((react lexer found.whole.length ⟨rule, found, done.length⟩ run.states).1,
        ⟨input, (react lexer found.whole.length ⟨rule, found, done.length⟩ run.states).2⟩) := by
  obtain ⟨peeked, hpeeked, hchoose⟩ := h.choose hrun hwhole hactive
  obtain ⟨input, hskip, hinput⟩ := h.skip hpeeked hwhole found.whole.length
  refine ⟨input, hinput, ?_⟩
  have hselect : select rules run.states done.length (rest.take lexer.options.request) none =
      .ok ⟨rule, found, done.length⟩ := by
    unfold select
    rw [hfirst]
  have hunits : unitsIn (List Char) found.whole = found.whole.length := rfl
  unfold Lexing.round
  rw [hchoose, hselect]
  dsimp only
  unfold fire
  simp only [hunits, hskip]
  rfl

theorem round_of_none (h : Provides whole Behind) (hrun : Behind run.input done)
    (hwhole : whole = done ++ rest) {rules : List (Rule V)}
    (hactive : lexer.active run.states = .ok rules)
    (hfirst : firstMatch? Rule.pattern (rest.take lexer.options.request) rules = none) :
    ∃ input, Behind input done ∧ round lexer run =
      (.answer (.error (.noMatch (stateLabel run.states)
        (excerpt (rest.take lexer.options.request)))), ⟨input, run.states⟩) := by
  obtain ⟨input, hinput, hchoose⟩ := h.choose hrun hwhole hactive
  refine ⟨input, hinput, ?_⟩
  unfold Lexing.round
  rw [hchoose]
  unfold select
  rw [hfirst]

theorem round (h : Provides whole Behind) (lexer : Lexer V) (hrun : Behind run.input done) :
    ∃ more, Behind (Lexing.round lexer run).2.input (done ++ more) := by
  obtain ⟨rest, hrest⟩ := h.behind hrun
  cases hactive : lexer.active run.states with
  | error fault =>
    refine ⟨[], ?_⟩
    unfold Lexing.round
    rw [choose_of_unknown hactive, List.append_nil]
    exact hrun
  | ok rules =>
    cases hfirst : firstMatch? Rule.pattern (rest.take lexer.options.request) rules with
    | none =>
      obtain ⟨input, hinput, hround⟩ := h.round_of_none hrun hrest.symm hactive hfirst
      refine ⟨[], ?_⟩
      rw [hround, List.append_nil]
      exact hinput
    | some chosen =>
      obtain ⟨input, hinput, hround⟩ := h.round_of_match hrun hrest.symm hactive hfirst
      rw [hround]
      exact ⟨_, hinput⟩

/-- **At every run that is reached the cursor is behind a text** that goes on from the first one. -/
theorem reached (h : Provides whole Behind) {first : Lexing ι} (hfirst : Behind first.input done)
    (hrun : Reached lexer first run) : ∃ more, Behind run.input (done ++ more) := by
  induction hrun with
  | start => exact ⟨[], by rwa [List.append_nil]⟩
  | round _ ih =>
    obtain ⟨more, hmore⟩ := ih
    obtain ⟨further, hfurther⟩ := h.round lexer hmore
    exact ⟨more ++ further, by rwa [← List.append_assoc]⟩

end Provides

/-- **Over a source that refuses nothing** a round ends with one of two faults before a rule fires,
or the first rule that matches what the input shows fires, and the cursor moves past its match. -/
theorem BufferedText.round_cases {source : Source} (hreads : ∀ reason, ¬source.Refuses reason)
    (hlexer : lexer.Proper) {run : Lexing BufferedText} (hrun : run.input.At source done)
    {rules : List (Rule V)}
    (hactive : lexer.active run.states = .ok rules) :
    (∃ fault run', round lexer run = (.answer (.error fault), run') ∧
      ((∃ shown, fault = .noMatch (stateLabel run.states) shown) ∨
        ∃ position, fault = .undecodable position)) ∨
    ∃ text rule found input, firstMatch? Rule.pattern text rules = some (rule, found) ∧
      At source (done ++ found.whole) input ∧ round lexer run =
        ((react lexer found.whole.length ⟨rule, found, done.length⟩ run.states).1,
          ⟨input, (react lexer found.whole.length ⟨rule, found, done.length⟩ run.states).2⟩) := by
  rcases hrun.peek lexer.options.request with
    ⟨reason, -, -, -, hrefuses⟩ | ⟨input, hpeek, -, -⟩ | ⟨position, input, hpeek, -, -⟩
  · exact absurd hrefuses (hreads reason)
  · have hchoose := choose_of_chunk hactive hpeek
    have hposition : run.position = done.length := hrun.position
    rw [hposition] at hchoose
    cases hfirst : firstMatch? Rule.pattern (input.text.take lexer.options.request) rules with
    | none =>
      refine Or.inl ⟨.noMatch (stateLabel run.states)
        (excerpt (input.text.take lexer.options.request)), ⟨input, run.states⟩, ?_, Or.inl ⟨_, rfl⟩⟩
      unfold Lexing.round
      rw [hchoose]
      simp only [select, windowText, Chunk.text, hfirst]
    | some chosen =>
      obtain ⟨rule, found⟩ := chosen
      have hselected : choose lexer run = (.ok ⟨rule, found, done.length⟩, ⟨input, run.states⟩) := by
        rw [hchoose]
        simp only [select, windowText, Chunk.text, hfirst]
      obtain ⟨hmem, hmatch⟩ := mem_of_firstMatch? hfirst
      have hfront := (hlexer.active hactive rule hmem).whole_isPrefix hmatch
      refine Or.inr ⟨_, rule, found, _, hfirst,
        (BufferedText.tracks source).advance hrun hpeek hfront, ?_⟩
      unfold Lexing.round
      rw [hselected]
      exact fire_of_holds (holds_of_choose hselected)
  · refine Or.inl ⟨.undecodable position, ⟨input, run.states⟩, ?_, Or.inr ⟨position, rfl⟩⟩
    unfold Lexing.round
    rw [choose_of_fault hactive hpeek]
end Lexis
