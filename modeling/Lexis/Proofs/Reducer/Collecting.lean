import Lexis.Proofs.Lexer.Agreement
import Lexis.Proofs.Reducer.Resuming

/-!
# Tokens as they are needed, and tokens collected first

A reducer pulls the tokens of a lexer one by one, as it needs them. Where the series of the tokens
ends at all, it makes no difference to collect it first and to run over the list: the lexer does not
see what becomes of its tokens, and at its end it stays there. So the two runs are in step,
whichever way they are asked and however often, also behind faults and at the end.

Principal results:

* `TokenSeries.collects` — a series that ends brings what is collected of it, and then its end for
  ever;
* `Collects.next`, `Collects.transcript` — a run over a supply and a run over its items;
* `ReducedSeries.transcript_collected` — a run over a lexer and a run over its collected tokens.
-/

namespace Lexis

variable {υ V : Type}

/-! ## Collected items -/

/-- Pulling the supply brings the items, one after the other, and then the end for ever. -/
def Collects [Supply υ V] (limit : Nat) : List (Except Fault (Token V)) → υ → Prop
  | [], supply => Supply.pull limit supply = (.ended, supply)
  | item :: items, supply => ∃ left,
    Supply.pull limit supply = (.item item, left) ∧ Collects limit items left

namespace TokenSeries

variable {ι κ : Type} [Chunk κ] [Input ι κ] {limit : Nat}

theorem pull_of_finished {s : TokenSeries ι V} (h : s.finished = true) :
    s.pull limit = (.ended, s) := by
  simp [pull, h]

theorem pull_of_next {s : TokenSeries ι V} (h : s.finished = false)
    {answer : Option (Except Fault (Token V))} {after : Lexing ι}
    (hnext : s.run.next s.lexer limit = (answer, after)) :
    s.pull limit =
      match answer with
      | none => (.outOfRounds, { s with run := after })
      | some a => (.item a, { s with run := after, finished := isLast a }) := by
  simp only [pull, h, hnext]
  cases answer <;> rfl

theorem finished_of_item {s after : TokenSeries ι V} {a : Except Fault (Token V)}
    (h : s.pull limit = (.item a, after)) : after.finished = isLast a := by
  unfold pull at h
  split at h
  · cases h
  · split at h
    · cases h
    · cases h
      rfl

/-- **A series that ends brings what is collected of it**, also if more rounds are allowed, and then
its end for ever. -/
theorem collects {limit' : Nat} (hle : limit ≤ limit') {count : Nat} {s : TokenSeries ι V}
    (h : (s.answers limit count).2.1 = true) :
    Collects limit' ((s.answers limit count).1.map Prod.fst) s := by
  induction count generalizing s with
  | zero => cases h
  | succ count ih =>
    cases hfinished : s.finished with
    | true =>
      rw [answers, pull_of_finished hfinished]
      exact pull_of_finished hfinished
    | false =>
      obtain ⟨answer, after, hnext⟩ : ∃ answer after, s.run.next s.lexer limit = (answer, after) :=
        ⟨_, _, rfl⟩
      have hpull := pull_of_next hfinished hnext
      rw [answers, hpull] at h ⊢
      cases answer with
      | none => cases h
      | some a =>
        have hmore : s.run.next s.lexer limit' = (some a, after) := Lexing.next_mono hnext hle
        exact ⟨_, pull_of_next hfinished hmore, ih h⟩

end TokenSeries

/-! ## Runs in step -/

/-- How a run is asked: for its next token, also after a fault and at its end, or as a series that
ends for good. -/
inductive Asking where
  | token
  | series
  deriving DecidableEq, Repr

variable [GroupNamed V]

namespace ReducedSeries

variable [Supply υ V]

/-- What asking brings. The one who asks for a token does not see whether the series has ended, and
does not end it. -/
def ask (limit : Nat) (s : ReducedSeries υ V) : Asking → Pull V × ReducedSeries υ V
  | .token =>
    let (pull, run) := s.run.next s.reducer limit limit
    (pull, { s with run := run })
  | .series => s.pull limit

/-- What asking again and again brings, each time with the spans open after it, outermost first. -/
def transcript (limit : Nat) : List Asking → ReducedSeries υ V → List (Pull V × List (Span V))
  | [], _ => []
  | asking :: askings, s =>
    ((s.ask limit asking).1, (s.ask limit asking).2.run.pending) ::
      transcript limit askings (s.ask limit asking).2

end ReducedSeries

namespace Collects

variable [Supply υ V] {r : Reducer V} {limit : Nat} {items : List (Except Fault (Token V))}
  {supply : υ}

/-- **The next answer** of a run over a supply is that of a run over its items; the runs stay in
step, with the same spans open. -/
theorem next (h : Collects limit items supply) (pulls : Nat) (spans : List (Span V)) :
    ∃ pull left rest spans', Reducing.next r limit pulls ⟨supply, spans⟩ = (pull, ⟨left, spans'⟩) ∧
      Reducing.next r limit pulls ⟨items, spans⟩ = (pull, ⟨rest, spans'⟩) ∧
      Collects limit rest left := by
  induction pulls generalizing items supply spans with
  | zero => exact ⟨.outOfRounds, supply, items, spans, rfl, rfl, h⟩
  | succ pulls ih =>
    cases items with
    | nil =>
      have hpull : Supply.pull limit supply = (.ended, supply) := h
      refine ⟨Reducing.ending spans, supply, [], spans, ?_, rfl, h⟩
      simp only [Reducing.next, hpull]
    | cons item items =>
      obtain ⟨left, hpull, hleft⟩ := h
      cases item with
      | error fault =>
        refine ⟨.item (.error fault), left, items, spans, ?_, rfl, hleft⟩
        simp only [Reducing.next, hpull]
      | ok t =>
        have hlist : Supply.pull limit (.ok t :: items) = (.item (.ok t), items) := rfl
        rw [Reducing.next_of_pull hpull, Reducing.next_of_pull hlist]
        obtain ⟨fed, between, hfeed⟩ : ∃ fed between, r.feed t spans = (fed, between) := ⟨_, _, rfl⟩
        rw [hfeed]
        rcases fed with fault | _ | token
        · exact ⟨.item (.error fault), left, items, between, rfl, rfl, hleft⟩
        · exact ih hleft between
        · exact ⟨.item (.ok token), left, items, between, rfl, rfl, hleft⟩

theorem ask (h : Collects limit items supply) (spans : List (Span V)) (finished : Bool)
    (asking : Asking) :
    ∃ pull left rest spans' finished',
      ReducedSeries.ask limit ⟨r, ⟨supply, spans⟩, finished⟩ asking =
        (pull, ⟨r, ⟨left, spans'⟩, finished'⟩) ∧
      ReducedSeries.ask limit ⟨r, ⟨items, spans⟩, finished⟩ asking =
        (pull, ⟨r, ⟨rest, spans'⟩, finished'⟩) ∧
      Collects limit rest left := by
  obtain ⟨pull, left, rest, spans', hsupply, hitems, hleft⟩ := h.next (r := r) limit spans
  cases asking with
  | token =>
    refine ⟨pull, left, rest, spans', finished, ?_, ?_, hleft⟩
    · simp only [ReducedSeries.ask, hsupply]
    · simp only [ReducedSeries.ask, hitems]
  | series =>
    cases finished with
    | true => exact ⟨.ended, supply, items, spans, true, rfl, rfl, h⟩
    | false =>
      refine ⟨pull, left, rest, spans', ReducedSeries.isLast pull, ?_, ?_, hleft⟩
      · simp [ReducedSeries.ask, ReducedSeries.pull, hsupply]
      · simp [ReducedSeries.ask, ReducedSeries.pull, hitems]

/-- **All answers, however often the runs are asked**, and the spans that are open after each. -/
theorem transcript (h : Collects limit items supply) (spans : List (Span V)) (finished : Bool)
    (askings : List Asking) :
    ReducedSeries.transcript limit askings ⟨r, ⟨supply, spans⟩, finished⟩ =
      ReducedSeries.transcript limit askings ⟨r, ⟨items, spans⟩, finished⟩ := by
  induction askings generalizing items supply spans finished with
  | nil => rfl
  | cons asking askings ih =>
    obtain ⟨pull, left, rest, spans', finished', hsupply, hitems, hleft⟩ :=
      h.ask (r := r) spans finished asking
    rw [ReducedSeries.transcript, ReducedSeries.transcript, hsupply, hitems, ih hleft]
    rfl

end Collects

namespace ReducedSeries

variable {r : Reducer V} {limit : Nat}

/-- Asking a run over items is answered if one more pull is allowed than there are items, and no
items come back. -/
theorem ask_ne_outOfRounds {s : ReducedSeries (List (Except Fault (Token V))) V}
    (h : s.run.supply.length < limit) (asking : Asking) :
    (s.ask limit asking).1 ≠ .outOfRounds ∧
      (s.ask limit asking).2.run.supply.length ≤ s.run.supply.length := by
  have hanswer : (s.run.next s.reducer limit limit).1 ≠ .outOfRounds :=
    Reducing.next_ne_outOfRounds h
  have hle : (s.run.next s.reducer limit limit).2.supply.length ≤ s.run.supply.length :=
    Reducing.length_next_le s.reducer limit limit s.run.supply s.run.spans
  cases asking with
  | token => exact ⟨hanswer, hle⟩
  | series =>
    rw [ask, pull]
    cases s.finished with
    | true => exact ⟨nofun, Nat.le_refl _⟩
    | false => exact ⟨hanswer, hle⟩

theorem transcript_ne_outOfRounds {s : ReducedSeries (List (Except Fault (Token V))) V}
    (h : s.run.supply.length < limit) (askings : List Asking) :
    ∀ a ∈ s.transcript limit askings, a.1 ≠ .outOfRounds := by
  induction askings generalizing s with
  | nil => exact fun a ha => absurd ha List.not_mem_nil
  | cons asking askings ih =>
    obtain ⟨hanswer, hle⟩ := ask_ne_outOfRounds h asking
    intro a ha
    rcases List.mem_cons.1 ha with rfl | ha
    · exact hanswer
    · exact ih (Nat.lt_of_le_of_lt hle h) a ha

end ReducedSeries

/-! ## The ends of a lexer -/

namespace Reducing

variable {ι κ : Type} [Chunk κ] [Input ι κ]

/-- How a run meets the ends of a lexer. A fault of the lexer is passed on, and the spans stay as
they are. The token that ends the tokens becomes a child of the innermost span, if one is open, and
then it is a fault that spans are open, as often as the run is asked. -/
structure MeetsEnds (r : Reducer V) (limit : Nat) (s : TokenSeries ι V) : Prop where
  fault : ∀ {fault : Fault} {after : TokenSeries ι V},
    s.pull limit = (.item (.error fault), after) → ∀ pulls spans,
      next r limit (pulls + 1) ⟨s, spans⟩ = (.item (.error fault), ⟨after, spans⟩)
  eof : ∀ {t : Token V} {after : TokenSeries ι V}, t.isEof = true →
    s.pull limit = (.item (.ok t), after) → ∀ pulls span spans,
      next r limit (pulls + 2) ⟨s, span :: spans⟩ =
        (.item (.error (.unclosedSpans (spans.length + 1))), ⟨after, span.extend [t] :: spans⟩) ∧
      next r limit (pulls + 1) ⟨after, span.extend [t] :: spans⟩ =
        (.item (.error (.unclosedSpans (spans.length + 1))), ⟨after, span.extend [t] :: spans⟩)

theorem next_of_finished {r : Reducer V} {limit : Nat} {s : TokenSeries ι V}
    (h : s.finished = true) (pulls : Nat) (span : Span V) (spans : List (Span V)) :
    next r limit (pulls + 1) ⟨s, span :: spans⟩ =
      (.item (.error (.unclosedSpans (spans.length + 1))), ⟨s, span :: spans⟩) := by
  have hpull : Supply.pull limit s = (.ended, s) := TokenSeries.pull_of_finished h
  simp only [next, hpull, ending, List.length_cons]

theorem meetsEnds (r : Reducer V) (limit : Nat) (s : TokenSeries ι V) : MeetsEnds r limit s := by
  constructor
  · intro fault after h pulls spans
    have hpull : Supply.pull limit s = (.item (.error fault), after) := h
    simp only [next, hpull]
  · intro t after ht h pulls span spans
    have hlast : after.finished = true := by
      rw [TokenSeries.finished_of_item h]
      exact ht
    have hname : t.name = some "EOF" := Token.isNamed_iff.1 ht
    have hplain : t.Plain := by
      constructor <;> simp [Token.isIgnorable, Token.isStart, Token.isFinish, Token.isNamed, hname]
    have hpull : Supply.pull limit s = (.item (.ok t), after) := h
    constructor
    · rw [next_of_pull hpull, Reducer.feed_plain_cons hplain]
      apply next_of_finished hlast
    · apply next_of_finished hlast

end Reducing

namespace ReducedSeries

variable {ι κ : Type} [Chunk κ] [Input ι κ]

/-- **Tokens as they are needed and tokens collected first.** Where the series of a lexer's tokens
ends, with so many rounds allowed for each, a reducer over the lexer and a reducer over the list of
all items of the series answer the same, whichever way they are asked and however often, with the
same spans open after each answer; so many rounds and one pull more than there are items are enough
for all of them. The ends of the lexer are met as they should be. -/
theorem transcript_collected (r : Reducer V) (lexer : Lexer V) (first : Lexing ι)
    (opened : List (Span V)) {limit count : Nat}
    (hends : ((TokenSeries.ofRun lexer first).answers limit count).2.1 = true) :
    let collected := ((TokenSeries.ofRun lexer first).answers limit count).1.map Prod.fst
    let needed := ofRun r (Reducing.start (TokenSeries.ofRun lexer first) opened)
    let collecting := ofRun r (Reducing.start collected opened)
    (∀ limit' ≥ limit, ∀ askings,
      needed.transcript limit' askings = collecting.transcript limit' askings) ∧
    (∀ limit' > collected.length, ∀ askings,
      ∀ a ∈ collecting.transcript limit' askings, a.1 ≠ .outOfRounds) ∧
    ∀ limit' (s : TokenSeries ι V), Reducing.MeetsEnds r limit' s := by
  intro collected needed collecting
  refine ⟨fun limit' hle askings => ?_, fun limit' hlt askings => ?_, fun limit' s => ?_⟩
  · have hcollects : Collects limit' collected (TokenSeries.ofRun lexer first) :=
      TokenSeries.collects hle hends
    exact hcollects.transcript opened.reverse false askings
  · exact transcript_ne_outOfRounds hlt askings
  · exact Reducing.meetsEnds r limit' s

/-- An array that is not closed: its number and the end of the text stay in its span. -/
theorem transcript_collected_open : ∃ lexer, Demo.lexer = .ok lexer ∧
    let first := Lexing.start (TextCursor.ofText ['[', '1', ',']) []
    let collected := ((TokenSeries.ofRun lexer first).answers 4 4).1.map Prod.fst
    let askings := [.series, .token, .series, .token]
    let spans : List (Span Value) := [⟨some "ARRAY", [Demo.numberToken 1, .eof .null]⟩]
    (ofRun Demo.reducer (Reducing.start (TokenSeries.ofRun lexer first) [])).transcript 4 askings =
      (ofRun Demo.reducer (Reducing.start collected [])).transcript 4 askings ∧
    ((ofRun Demo.reducer (Reducing.start collected [])).transcript 4 askings).map Prod.snd =
      [spans, spans, spans, spans] := by
  have hends : Demo.lexer.toOption.map (fun lexer => ((TokenSeries.ofRun lexer
      (Lexing.start (TextCursor.ofText ['[', '1', ',']) [])).answers 4 4).2.1) = some true := by
    decide +kernel
  have hcollected : Demo.lexer.toOption.map (fun lexer => ((TokenSeries.ofRun lexer
      (Lexing.start (TextCursor.ofText ['[', '1', ',']) [])).answers 4 4).1.map Prod.fst) =
        some [.ok Demo.arrayTokens.1, .ok (Demo.numberToken 1), .ok (.eof .null)] := by
    decide +kernel
  cases hlexer : Demo.lexer with
  | error fault =>
    rw [hlexer] at hends
    cases hends
  | ok lexer =>
    rw [hlexer] at hends hcollected
    have hall := transcript_collected Demo.reducer lexer
      (Lexing.start (TextCursor.ofText ['[', '1', ',']) []) [] (Option.some.inj hends)
    have hlist : ((TokenSeries.ofRun lexer
        (Lexing.start (TextCursor.ofText ['[', '1', ',']) [])).answers 4 4).1.map Prod.fst =
          [.ok Demo.arrayTokens.1, .ok (Demo.numberToken 1), .ok (.eof .null)] :=
      Option.some.inj hcollected
    refine ⟨lexer, rfl, hall.1 4 (Nat.le_refl 4) _, ?_⟩
    rw [hlist]
    rfl

end ReducedSeries

end Lexis
