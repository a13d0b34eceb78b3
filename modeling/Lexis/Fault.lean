import Lexis.Text.Quoted

/-!
# Faults

Everything that can go wrong on the way from bytes to tokens, as causes. `Fault.message` gives the
wording of each one; `Fault.within` puts a context before another fault, and `Fault.root` takes all
contexts away.
-/

namespace Lexis

open Text

/-- Why a step of reading, lexing or reducing failed. -/
inductive Fault where
  /-- No rule of the state matches the window that begins with the excerpt. -/
  | noMatch (state excerpt : String)
  /-- The innermost state has no rule set. -/
  | unknownState (name : String)
  /-- An END names a group without a reduction. -/
  | unknownGroup (name : String)
  /-- An END names no group. -/
  | missingGroup
  /-- The input ended inside a construct. -/
  | unexpectedEnd (state : String)
  /-- A token is longer than the window in which rules are matched. -/
  | windowExhausted (state : String) (window : Nat)
  /-- A discarded empty match left everything as it was. -/
  | stalled (state : String)
  /-- An END came with no span open. -/
  | unbalancedEnd (group : String)
  /-- An END names another group than the START of its span. -/
  | mismatchedGroup (opened closed : String)
  /-- The tokens ended with spans open. -/
  | unclosedSpans (depth : Nat)
  /-- The bytes from this position on are no valid text. -/
  | undecodable (position : Nat)
  /-- A rule has a pattern that is not one. -/
  | badPattern (reason : String)
  /-- The source failed. -/
  | unreadable (reason : String)
  /-- A fault met in a named context. -/
  | within (context : String) (cause : Fault)
  deriving DecidableEq, Repr

namespace Fault

/-- The wording of a fault. -/
def message : Fault → String
  | noMatch state excerpt =>
    "invalid input in state " ++ state ++ ": no rule matches " ++ quoted excerpt
  | unknownState name => "no rules registered for state " ++ quoted name
  | unknownGroup name => "no rule found for group " ++ quoted name
  | missingGroup => "END token carries no group name"
  | unexpectedEnd state => "unexpected end of input in state " ++ state
  | windowExhausted state window =>
    "token in state " ++ state ++ " is longer than the " ++ toString window ++
      "-unit peek window; raise peek_length"
  | stalled state => "empty match in state " ++ state ++ " makes no progress"
  | unbalancedEnd group => "END for group " ++ quoted group ++ " without a matching START"
  | mismatchedGroup opened closed =>
    "span opened as " ++ quoted opened ++ " closed as " ++ quoted closed
  | unclosedSpans depth => "input ended inside " ++ toString depth ++ " open span(s)"
  | undecodable position => "invalid UTF-8 at position " ++ toString position
  | badPattern reason => "invalid rule pattern: " ++ reason
  | unreadable reason => reason
  | within context cause => context ++ ": " ++ message cause

/-- The fault without its contexts. -/
def root : Fault → Fault
  | within _ cause => root cause
  | fault => fault

/-- The contexts of a fault, outermost first. -/
def contexts : Fault → List String
  | within context cause => context :: contexts cause
  | _ => []

end Fault

/-- An outcome whose fault, if it is one, is met in the context. -/
def inContext {α : Type} (context : String) : Except Fault α → Except Fault α
  | .error fault => .error (.within context fault)
  | .ok a => .ok a

end Lexis
