import Lexis.Fault
import Lexis.Token

/-!
# Reducers

A START token opens a span, the tokens after it are its children, and the END token that closes it
names a group, whose reduction makes one token of the children. That token is routed like any other:
it may be dropped, open a span, or become a child of the span around. Tokens outside all spans are
emitted.
-/

namespace Lexis

/-- A span that is open. -/
structure Span (V : Type) where
  /-- The group that its START names, if it names one. -/
  group : Option String
  /-- The finished tokens in it so far, in order. -/
  children : List (Token V)
  deriving DecidableEq, Repr

/-- Reductions by the name of their group. -/
structure Reducer (V : Type) where
  reductions : List (String × (List (Token V) → Token V))
  /-- Whether an END has to name the group of its START, if that names one. -/
  strict : Bool

namespace Reducer

variable {V : Type}

/-- A reducer without reductions. -/
def empty (strict : Bool) : Reducer V := ⟨[], strict⟩

/-- The reducer with a reduction for the group, in the place of an earlier one. -/
def register (r : Reducer V) (group : String) (reduce : List (Token V) → Token V) : Reducer V :=
  { r with reductions := (group, reduce) :: r.reductions.filter fun entry => entry.1 ≠ group }

def groups (r : Reducer V) : List String := r.reductions.map Prod.fst

variable [GroupNamed V]

/-- Closes the innermost of the open spans, which come innermost first, by the group that the END
token names. -/
def close (r : Reducer V) (finish : Token V) (spans : List (Span V)) :
    Except Fault (Token V) × List (Span V) :=
  match group? finish.value with
  | none => (.error .missingGroup, spans)
  | some closed =>
    match spans with
    | [] => (.error (.unbalancedEnd closed), [])
    | span :: spans =>
      match span.group.filter fun opened => r.strict && opened != closed with
      | some opened => (.error (.mismatchedGroup opened closed), spans)
      | none =>
        match r.reductions.lookup closed with
        | none => (.error (.unknownGroup closed), spans)
        | some reduce => (.ok (reduce span.children), spans)

/-- Where a token goes: nowhere if it is ignorable, to a new span if it is a START, to the children
of the innermost span, or out. -/
def route (token : Token V) (spans : List (Span V)) : Option (Token V) × List (Span V) :=
  if token.isIgnorable then (none, spans)
  else if token.isStart then (none, ⟨group? token.value, []⟩ :: spans)
  else
    match spans with
    | [] => (some token, [])
    | span :: spans => (none, { span with children := span.children ++ [token] } :: spans)

/-- Takes in a token: what is emitted, if anything, and the spans that are open then. -/
def feed (r : Reducer V) (token : Token V) (spans : List (Span V)) :
    Except Fault (Option (Token V)) × List (Span V) :=
  if token.isFinish then
    match r.close token spans with
    | (.error fault, spans) => (.error fault, spans)
    | (.ok result, spans) =>
      let (emitted, spans) := route result spans
      (.ok emitted, spans)
  else
    let (emitted, spans) := route token spans
    (.ok emitted, spans)

end Reducer

end Lexis
