import Lexis.Proofs.Reducer.Feeding

/-!
# The course of a series

A series pulls tokens only as far as it needs them for an answer. Its course is all that happens in
it up to its end: the tokens that are pulled, each with the run when it has been taken in, and the
answers that they lead to. A course is put together from what becomes of one token at a time, and
says the same as the answers and the pulls of the series, if these are allowed to be as many.

Principal results:

* `Course.next` — the way to the next answer;
* `Course.series` — the whole series.
-/

namespace Lexis

variable {υ V : Type}

/-- A token that is pulled, and the run when it has been taken in. -/
structure Pulled (υ V : Type) where
  token : Token V
  after : Reducing υ V

/-- Tokens as answers of a series: they come out where no span is open. -/
def emissions (tokens : List (Token V)) : List (Except Fault (Token V) × List (Span V)) :=
  tokens.map fun token => (.ok token, [])

theorem map_fst_emissions (tokens : List (Token V)) :
    (emissions tokens).map Prod.fst = tokens.map .ok := by
  rw [emissions, List.map_map]
  rfl

variable [GroupNamed V] [Supply υ V]

/-- The tokens that are pulled on the way to the next answer. -/
def Reducing.pulled (r : Reducer V) (limit : Nat) :
    (pulls : Nat) → Reducing υ V → List (Pulled υ V)
  | 0, _ => []
  | pulls + 1, run =>
    match Supply.pull limit run.supply with
    | (.item (.ok token), supply) =>
      match r.feed token run.spans with
      | (.ok none, spans) => ⟨token, ⟨supply, spans⟩⟩ :: pulled r limit pulls ⟨supply, spans⟩
      | (_, spans) => [⟨token, ⟨supply, spans⟩⟩]
    | _ => []

/-- The tokens that are pulled for up to so many answers. -/
def ReducedSeries.pulled (limit : Nat) : (count : Nat) → ReducedSeries υ V → List (Pulled υ V)
  | 0, _ => []
  | count + 1, s =>
    if s.finished then []
    else
      s.run.pulled s.reducer limit limit ++
        match s.pull limit with
        | (.item _, s) => pulled limit count s
        | _ => []

/-- From the run on these tokens are pulled, and these answers come out, each with the spans open
after it, outermost first; then the series ends. -/
inductive Course (r : Reducer V) (limit : Nat) :
    Reducing υ V → List (Pulled υ V) → List (Except Fault (Token V) × List (Span V)) → Prop where
  | ended {supply left : υ} : Supply.pull limit supply = (.ended, left) →
      Course r limit ⟨supply, []⟩ [] []
  | unclosed {supply left : υ} {span : Span V} {spans : List (Span V)} :
      Supply.pull limit supply = (.ended, left) →
      Course r limit ⟨supply, span :: spans⟩ []
        [(.error (.unclosedSpans (span :: spans).length), (span :: spans).reverse)]
  | failed {supply left : υ} {spans : List (Span V)} {fault : Fault} :
      Supply.pull limit supply = (.item (.error fault), left) →
      Course r limit ⟨supply, spans⟩ [] [(.error fault, spans.reverse)]
  | refused {supply left : υ} {token : Token V} {spans spans' : List (Span V)} {fault : Fault} :
      Supply.pull limit supply = (.item (.ok token), left) →
      r.feed token spans = (.error fault, spans') →
      Course r limit ⟨supply, spans⟩ [⟨token, ⟨left, spans'⟩⟩] [(.error fault, spans'.reverse)]
  | quiet {supply left : υ} {token : Token V} {spans spans' : List (Span V)}
      {pulled : List (Pulled υ V)} {answers : List (Except Fault (Token V) × List (Span V))} :
      Supply.pull limit supply = (.item (.ok token), left) →
      r.feed token spans = (.ok none, spans') →
      Course r limit ⟨left, spans'⟩ pulled answers →
      Course r limit ⟨supply, spans⟩ (⟨token, ⟨left, spans'⟩⟩ :: pulled) answers
  | emitted {supply left : υ} {token out : Token V} {spans spans' : List (Span V)}
      {pulled : List (Pulled υ V)} {answers : List (Except Fault (Token V) × List (Span V))} :
      Supply.pull limit supply = (.item (.ok token), left) →
      r.feed token spans = (.ok (some out), spans') →
      Course r limit ⟨left, spans'⟩ pulled answers →
      Course r limit ⟨supply, spans⟩ (⟨token, ⟨left, spans'⟩⟩ :: pulled)
        ((.ok out, spans'.reverse) :: answers)

namespace Course

variable {r : Reducer V} {limit : Nat} {run : Reducing υ V} {pulled : List (Pulled υ V)}
  {answers : List (Except Fault (Token V) × List (Span V))}

/-- The next answer of a course, the tokens that are pulled for it, and how the course goes on. -/
inductive Next (r : Reducer V) (limit : Nat) :
    Pull V × Reducing υ V → List (Pulled υ V) → List (Pulled υ V) →
      List (Except Fault (Token V) × List (Span V)) → Prop where
  | ended {after : Reducing υ V} {front : List (Pulled υ V)} :
      Next r limit (.ended, after) front front []
  | failed {fault : Fault} {after : Reducing υ V} {front : List (Pulled υ V)} :
      Next r limit (.item (.error fault), after) front front [(.error fault, after.pending)]
  | item {token : Token V} {after : Reducing υ V} {front back : List (Pulled υ V)}
      {answers : List (Except Fault (Token V) × List (Span V))} :
      Course r limit after back answers →
      Next r limit (.item (.ok token), after) front (front ++ back)
        ((.ok token, after.pending) :: answers)

theorem Next.cons {brought : Pull V × Reducing υ V} {front : List (Pulled υ V)}
    (h : Next r limit brought front pulled answers) (p : Pulled υ V) :
    Next r limit brought (p :: front) (p :: pulled) answers := by
  cases h with
  | ended => exact .ended
  | failed => exact .failed
  | item hcourse => exact .item hcourse

/-- **The way to the next answer**, if one pull more than the tokens of the course is allowed. -/
theorem next (h : Course r limit run pulled answers) (spare : Nat) :
    Next r limit (Reducing.next r limit (spare + pulled.length + 1) run)
      (run.pulled r limit (spare + pulled.length + 1)) pulled answers := by
  induction h with
  | ended hpull =>
    simp only [Reducing.next, Reducing.pulled, hpull, Reducing.ending]
    exact .ended
  | unclosed hpull =>
    simp only [Reducing.next, Reducing.pulled, hpull, Reducing.ending]
    exact .failed
  | failed hpull =>
    simp only [Reducing.next, Reducing.pulled, hpull]
    exact .failed
  | refused hpull hfeed =>
    simp only [Reducing.next, Reducing.pulled, hpull, hfeed]
    exact .failed
  | quiet hpull hfeed _ ih =>
    simp only [Reducing.next, Reducing.pulled, hpull, hfeed]
    exact ih.cons _
  | emitted hpull hfeed hrest _ =>
    simp only [Reducing.next, Reducing.pulled, hpull, hfeed]
    exact .item hrest

/-- **The whole series** gives the answers of the course, pulls its tokens and ends. -/
theorem series (h : Course r limit run pulled answers) (hlimit : pulled.length < limit)
    {count : Nat} (hcount : answers.length < count) :
    (∃ last, (ReducedSeries.ofRun r run).answers limit count = (answers, true, last)) ∧
      (ReducedSeries.ofRun r run).pulled limit count = pulled := by
  induction count generalizing run pulled answers with
  | zero => exact absurd hcount (Nat.not_lt_zero _)
  | succ count ih =>
    obtain ⟨spare, hspare⟩ : ∃ spare, limit = spare + pulled.length + 1 :=
      ⟨limit - pulled.length - 1, by omega⟩
    have hnext := h.next spare
    rw [← hspare] at hnext
    simp only [ReducedSeries.answers, ReducedSeries.pulled, ReducedSeries.pull,
      ReducedSeries.ofRun] at ih ⊢
    generalize Reducing.next r limit limit run = brought at hnext
    generalize run.pulled r limit limit = front at hnext
    cases hnext with
    | ended => simp
    | failed =>
      -- a series that has ended is asked once more
      obtain ⟨count, rfl⟩ : ∃ more, count = more + 1 := by
        refine ⟨count - 1, ?_⟩
        simp only [List.length_singleton] at hcount
        omega
      simp [ReducedSeries.answers, ReducedSeries.pulled, ReducedSeries.pull, ReducedSeries.isLast]
    | item hcourse =>
      rw [List.length_append] at hlimit
      rw [List.length_cons] at hcount
      obtain ⟨⟨last, hanswers⟩, hpulled⟩ := ih hcourse (by omega) (by omega)
      simp [ReducedSeries.isLast, hanswers, hpulled]

end Course

end Lexis
