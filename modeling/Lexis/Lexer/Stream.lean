import Lexis.Input.Basic
import Lexis.Lexer.Basic

/-!
# Running a lexer

A run goes over its input in rounds. A round chooses the first active rule that matches the
window, moves the cursor past the match and carries out the rule's action; it ends with an answer, a
token or a fault, or with a discarded match, after which there is another round. `Lexing.next` takes
rounds up to an answer, at most as many as it is allowed: whether there is an answer at all depends
on the actions, since a match may discard nothing and enter a state for ever.

A run can be asked on after an answer of any kind. `TokenSeries` is the view that ends: it stops
after the first `EOF` token or the first fault.
-/

namespace Lexis

open Pattern Text

/-- A run of a lexer over an input. -/
structure Lexing (ι : Type) where
  input : ι
  /-- The states, innermost first. -/
  states : List String

/-- A rule that matches, its match, and the position of the cursor. -/
structure Choice (V : Type) where
  rule : Rule V
  found : Match
  base : Nat

/-- How a round ends. -/
inductive Round (V : Type) where
  | answer (a : Except Fault (Token V))
  | again

/-- The name of the innermost state for messages. -/
def stateLabel : List String → String
  | [] => "<default>"
  | state :: _ => state

namespace Lexing

variable {ι κ V : Type} [Chunk κ] [Input ι κ]

/-- A run before its first round; the states are given outermost first. -/
def start (input : ι) (states : List String) : Lexing ι := ⟨input, states.reverse⟩

def position (run : Lexing ι) : Nat := Input.position run.input

/-- The first of the rules that matches the window, unless bytes that are no text decide it: where
no rule matches in front of them, or where the match reaches them and might have gone on. -/
def select (rules : List (Rule V)) (states : List String) (base : Nat) (text : List Char)
    (undecodable : Option Nat) : Except Fault (Choice V) :=
  match firstMatch? Rule.pattern text rules, undecodable with
  | none, none => .error (.noMatch (stateLabel states) (excerpt text))
  | none, some position => .error (.undecodable position)
  | some (rule, found), none => .ok ⟨rule, found, base⟩
  | some (rule, found), some position =>
    if byteLength found.whole = byteLength text then .error (.undecodable position)
    else .ok ⟨rule, found, base⟩

/-- Chooses the rule of a round. -/
def choose (lexer : Lexer V) (run : Lexing ι) : Except Fault (Choice V) × Lexing ι :=
  match lexer.active run.states with
  | .error fault => (.error fault, run)
  | .ok rules =>
    let base := run.position
    let request := lexer.options.request
    match Input.peek request run.input with
    | (.error fault, input) => (.error fault, { run with input := input })
    | (.ok chunk, input) =>
      let (text, undecodable) := windowText chunk base (Chunk.units chunk < request)
      (select rules run.states base text undecodable, { run with input := input })

/-- Moves past the match of the chosen rule and carries out its action. The input is behind the
match and the states are changed before a token is found too long or the round is found to be
stalled. -/
def fire (lexer : Lexer V) (choice : Choice V) (run : Lexing ι) : Round V × Lexing ι :=
  let units := unitsIn κ choice.found.whole
  match Input.skip units run.input with
  | (.error fault, input) => (.answer (.error fault), { run with input := input })
  | (.ok _, input) =>
    let reaction := choice.rule.action choice.found ⟨run.states, choice.base⟩
    let (states, changed) := Move.run false run.states reaction.moves
    let discarded : Round V :=
      if units = 0 ∧ changed = false then .answer (.error (.stalled (stateLabel states)))
      else .again
    let round : Round V :=
      match reaction.token with
      | none => discarded
      | some token =>
        if token.isIgnorable then discarded
        else if lexer.options.window < units then
          .answer (.error (.windowExhausted (stateLabel states) lexer.options.window))
        else .answer (.ok token)
    (round, ⟨input, states⟩)

def round (lexer : Lexer V) (run : Lexing ι) : Round V × Lexing ι :=
  match choose lexer run with
  | (.error fault, run) => (.answer (.error fault), run)
  | (.ok choice, run) => fire lexer choice run

/-- The next answer, if it comes within so many rounds. -/
def next (lexer : Lexer V) : (limit : Nat) → Lexing ι → Option (Except Fault (Token V)) × Lexing ι
  | 0, run => (none, run)
  | limit + 1, run =>
    match round lexer run with
    | (.answer a, run) => (some a, run)
    | (.again, run) => next lexer limit run

/-- The next so many answers, each with the run after it. A round limit that is too small ends
them. -/
def answers (lexer : Lexer V) (limit : Nat) :
    (count : Nat) → Lexing ι → List (Except Fault (Token V) × Lexing ι) × Lexing ι
  | 0, run => ([], run)
  | count + 1, run =>
    match next lexer limit run with
    | (none, run) => ([], run)
    | (some a, run) =>
      let (rest, last) := answers lexer limit count run
      ((a, run) :: rest, last)

end Lexing

/-- What asking for one more token brings. -/
inductive Pull (V : Type) where
  | item (a : Except Fault (Token V))
  /-- There are no more tokens. -/
  | ended
  /-- The rounds that were allowed did not bring an answer. -/
  | outOfRounds
  deriving Repr

/-- The view of a run that ends after the first `EOF` token or the first fault. -/
structure TokenSeries (ι V : Type) where
  lexer : Lexer V
  run : Lexing ι
  finished : Bool

namespace TokenSeries

variable {ι κ V : Type} [Chunk κ] [Input ι κ]

/-- The series of a run that has just begun. -/
def ofRun (lexer : Lexer V) (run : Lexing ι) : TokenSeries ι V := ⟨lexer, run, false⟩

/-- Whether a series ends with the answer. -/
def isLast : Except Fault (Token V) → Bool
  | .ok token => token.isEof
  | .error _ => true

/-- The next answer within so many rounds, unless the series has ended. -/
def pull (limit : Nat) (s : TokenSeries ι V) : Pull V × TokenSeries ι V :=
  if s.finished then (.ended, s)
  else
    match s.run.next s.lexer limit with
    | (none, run) => (.outOfRounds, { s with run := run })
    | (some a, run) => (.item a, { s with run := run, finished := isLast a })

/-- Up to so many answers, each with the run after it, and whether the series ended before there
were so many. -/
def answers (limit : Nat) :
    (count : Nat) → TokenSeries ι V →
      List (Except Fault (Token V) × Lexing ι) × Bool × TokenSeries ι V
  | 0, s => ([], false, s)
  | count + 1, s =>
    match s.pull limit with
    | (.outOfRounds, s) => ([], false, s)
    | (.ended, s) => ([], true, s)
    | (.item a, s) =>
      let (rest, ended, last) := answers limit count s
      ((a, s.run) :: rest, ended, last)

end TokenSeries

end Lexis
