import Lexis.Lexer.Stream
import Lexis.Reducer.Basic

/-!
# Running a reducer

A run takes tokens from a supply one by one until one of them makes it emit a token. The end of
the supply is the end of the run, or a fault if spans are open then. A fault of the supply is
passed on and leaves the spans as they are.

`ReducedSeries` is the view of a run that ends for good, at the end or after the first fault.
-/

namespace Lexis

/-- Where tokens come from; a pull takes so many rounds at most. -/
class Supply (υ : Type) (V : outParam Type) where
  pull : (limit : Nat) → υ → Pull V × υ

/-- Tokens and faults given in advance. -/
instance {V : Type} : Supply (List (Except Fault (Token V))) V where
  pull _ items :=
    match items with
    | [] => (.ended, [])
    | item :: items => (.item item, items)

/-- The tokens of a lexer. -/
instance {ι κ V : Type} [Chunk κ] [Input ι κ] : Supply (TokenSeries ι V) V where
  pull := TokenSeries.pull

/-- A run of a reducer over a supply. -/
structure Reducing (υ V : Type) where
  supply : υ
  /-- The open spans, innermost first. -/
  spans : List (Span V)

namespace Reducing

variable {υ V : Type} [GroupNamed V] [Supply υ V]

/-- A run before its first pull; the spans are given outermost first. -/
def start (supply : υ) (spans : List (Span V)) : Reducing υ V := ⟨supply, spans.reverse⟩

/-- The open spans, outermost first. -/
def pending (run : Reducing υ V) : List (Span V) := run.spans.reverse

/-- What the end of the supply means. -/
def ending (spans : List (Span V)) : Pull V :=
  match spans with
  | [] => .ended
  | spans => .item (.error (.unclosedSpans spans.length))

/-- The next token, fault or end, within so many pulls of so many rounds each. -/
def next (reducer : Reducer V) (limit : Nat) : (pulls : Nat) → Reducing υ V → Pull V × Reducing υ V
  | 0, run => (.outOfRounds, run)
  | pulls + 1, run =>
    match Supply.pull limit run.supply with
    | (.outOfRounds, supply) => (.outOfRounds, { run with supply := supply })
    | (.ended, supply) => (ending run.spans, { run with supply := supply })
    | (.item (.error fault), supply) => (.item (.error fault), { run with supply := supply })
    | (.item (.ok token), supply) =>
      match reducer.feed token run.spans with
      | (.error fault, spans) => (.item (.error fault), ⟨supply, spans⟩)
      | (.ok (some token), spans) => (.item (.ok token), ⟨supply, spans⟩)
      | (.ok none, spans) => next reducer limit pulls ⟨supply, spans⟩

/-- What asking so many times brings, going on after faults and at the end, each time with the spans
open after it, outermost first. -/
def answers (reducer : Reducer V) (limit : Nat) :
    (count : Nat) → Reducing υ V → List (Pull V × List (Span V)) × Reducing υ V
  | 0, run => ([], run)
  | count + 1, run =>
    let (pull, run) := next reducer limit limit run
    let (rest, last) := answers reducer limit count run
    ((pull, run.pending) :: rest, last)

end Reducing

/-- The view of a run that ends for good. -/
structure ReducedSeries (υ V : Type) where
  reducer : Reducer V
  run : Reducing υ V
  finished : Bool

namespace ReducedSeries

variable {υ V : Type} [GroupNamed V] [Supply υ V]

/-- The series of a run that has just begun. -/
def ofRun (reducer : Reducer V) (run : Reducing υ V) : ReducedSeries υ V := ⟨reducer, run, false⟩

/-- Whether a series ends with what a pull brought. -/
def isLast : Pull V → Bool
  | .item (.ok _) => false
  | .item (.error _) => true
  | .ended => true
  | .outOfRounds => false

/-- The next token or fault within the limit, unless the series has ended. -/
def pull (limit : Nat) (s : ReducedSeries υ V) : Pull V × ReducedSeries υ V :=
  if s.finished then (.ended, s)
  else
    let (pull, run) := s.run.next s.reducer limit limit
    (pull, { s with run := run, finished := isLast pull })

/-- Up to so many tokens and faults, each with the spans open after it, outermost first, and whether
the series ended before there were so many. -/
def answers (limit : Nat) :
    (count : Nat) → ReducedSeries υ V →
      List (Except Fault (Token V) × List (Span V)) × Bool × ReducedSeries υ V
  | 0, s => ([], false, s)
  | count + 1, s =>
    match s.pull limit with
    | (.outOfRounds, s) => ([], false, s)
    | (.ended, s) => ([], true, s)
    | (.item a, s) =>
      let (rest, ended, last) := answers limit count s
      ((a, s.run.pending) :: rest, ended, last)

end ReducedSeries

end Lexis
