import Lexis.Pattern.Basic
import Lexis.Token

/-!
# Lexers

A lexer is an ordered set of default rules and, for each named state, an ordered set of rules. The
innermost state of a stack decides which set is active; with no state it is the default one. In the
active set the first rule whose pattern matches at the cursor wins.

Rules do not enter or leave states by themselves: an action says which states to enter and leave,
in order, and which token to give, if any.
-/

namespace Lexis

open Pattern

/-- What an action sees of the run besides its match. -/
structure Site where
  /-- The states, innermost first. -/
  states : List String
  /-- The position at which the match begins. -/
  position : Nat
  deriving DecidableEq, Repr

/-- A change of the states. -/
inductive Move where
  | enter (state : String)
  | leave
  deriving DecidableEq, Repr

/-- What an action does. -/
structure Reaction (V : Type) where
  /-- The changes of the states, in order. -/
  moves : List Move
  /-- The token to give; without one, or with an ignorable one, the match is discarded. -/
  token : Option (Token V)
  deriving DecidableEq, Repr

/-- What to do with a match. -/
abbrev Action (V : Type) := Match → Site → Reaction V

/-- The states, innermost first, after changes, and whether there was any change. To leave is no
change where there is no state; to enter a state and leave it again is one. -/
def Move.run (changed : Bool) (states : List String) : List Move → List String × Bool
  | [] => (states, changed)
  | .enter state :: moves => run true (state :: states) moves
  | .leave :: moves =>
    match states with
    | [] => run changed [] moves
    | _ :: states => run true states moves

/-- A pattern and what to do with its match. -/
structure Rule (V : Type) where
  /-- The pattern as it is written, without the anchor. -/
  source : String
  pattern : Pattern
  action : Action V

namespace Rule

variable {V : Type}

/-- The rule with the pattern, anchored to the start of the window. -/
def compile (source : String) (action : Action V) : Except Fault (Rule V) :=
  (anchored source).map fun pattern => ⟨source, pattern, action⟩

end Rule

/-- How a lexer looks at its input. -/
structure Options where
  /-- How many units at the cursor a match may use. -/
  window : Nat
  /-- Whether a token that runs past the window is a fault, rather than cut. The lexer then peeks
  one unit more, which shows whether a match goes on. -/
  rejectTruncated : Bool
  deriving DecidableEq, Repr

/-- A window of 256 units, past which no token may run. -/
def Options.standard : Options := ⟨256, true⟩

/-- The greatest number of units that can be asked for. -/
def requestLimit : Nat := UInt64.size - 1

/-- How many units to peek for a match. -/
def Options.request (o : Options) : Nat :=
  if o.rejectTruncated then min (o.window + 1) requestLimit else o.window

/-- Rules by state, and how to look at the input. -/
structure Lexer (V : Type) where
  rules : List (Rule V)
  /-- The rules of each named state. -/
  stateRules : List (String × List (Rule V))
  options : Options

/-- A step in the making of a lexer. -/
inductive Declaration (V : Type) where
  | options (o : Options)
  | rule (source : String) (action : Action V)
  | stateRule (state source : String) (action : Action V)

/-- The sets of rules after one more rule of the state. -/
def addStateRule {V : Type} (state : String) (rule : Rule V) :
    List (String × List (Rule V)) → List (String × List (Rule V))
  | [] => [(state, [rule])]
  | (name, rules) :: sets =>
    if name = state then (name, rules ++ [rule]) :: sets
    else (name, rules) :: addStateRule state rule sets

namespace Lexer

variable {V : Type}

def empty : Lexer V := ⟨[], [], .standard⟩

/-- The lexer with one more rule, of the state or of the default set. -/
def addRule (lexer : Lexer V) (state? : Option String) (rule : Rule V) : Lexer V :=
  match state? with
  | none => { lexer with rules := lexer.rules ++ [rule] }
  | some state => { lexer with stateRules := addStateRule state rule lexer.stateRules }

/-- The lexer after a declaration. A pattern that is none is a fault, in the context of its
state. -/
def declare (lexer : Lexer V) : Declaration V → Except Fault (Lexer V)
  | .options o => .ok { lexer with options := o }
  | .rule source action =>
    match Rule.compile source action with
    | .error fault => .error fault
    | .ok rule => .ok (lexer.addRule none rule)
  | .stateRule state source action =>
    match inContext ("state " ++ state) (Rule.compile source action) with
    | .error fault => .error fault
    | .ok rule => .ok (lexer.addRule (some state) rule)

/-- The lexer after declarations, up to the first faulty one. -/
def declareAll (lexer : Lexer V) : List (Declaration V) → Except Fault (Lexer V)
  | [] => .ok lexer
  | d :: ds =>
    match lexer.declare d with
    | .error fault => .error fault
    | .ok lexer => lexer.declareAll ds

/-- The lexer made by declarations. -/
def build (ds : List (Declaration V)) : Except Fault (Lexer V) :=
  empty.declareAll ds

/-- The lexer with more rules, each of a state or of the default set, up to the first faulty one. -/
def addSources (lexer : Lexer V) :
    List (Option String × String × Action V) → Except Fault (Lexer V)
  | [] => .ok lexer
  | (state?, source, action) :: more =>
    match Rule.compile source action with
    | .error fault => .error fault
    | .ok rule => (lexer.addRule state? rule).addSources more

/-- The lexer of the rules, with a set, perhaps an empty one, for each of the states. -/
def assemble (states : List String) (options : Options)
    (sources : List (Option String × String × Action V)) : Except Fault (Lexer V) :=
  addSources ⟨[], states.map fun state => (state, []), options⟩ sources

/-- The rules that are active in the states, innermost first. -/
def active (lexer : Lexer V) : List String → Except Fault (List (Rule V))
  | [] => .ok lexer.rules
  | state :: _ =>
    match lexer.stateRules.lookup state with
    | some rules => .ok rules
    | none => .error (.unknownState state)

end Lexer

end Lexis
