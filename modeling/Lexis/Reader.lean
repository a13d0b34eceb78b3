import Lexis.Input.Basic
import Lexis.Pattern.Basic

/-!
# Readers

A reader reads a construct at a time. A construct has a name and an ordered list of patterns, each
with a handler; the first pattern that matches at the cursor decides which handler goes on. A
handler looks at what it has gathered so far and at the match, may have another construct read from
the same input on the way, and then either asks for more or is done with a value.

A handler is a `Handling`: a tree of what it does, with a branch for each answer it may get. So it
reaches the input only through the reader.
-/

namespace Lexis

open Pattern

/-- What a handler asks for at its end. -/
inductive Step (v : Type) where
  | more
  | done (value : v)
  deriving DecidableEq, Repr

/-- What a handler does: `σ` is what a construct gathers, `v` is what it gives. -/
inductive Handling (σ v : Type) where
  /-- Ends, with what is gathered then, or with a fault. -/
  | finish (outcome : Except Fault (Step v × σ))
  /-- Goes on with the position of the cursor. -/
  | locate (k : Nat → Handling σ v)
  /-- Goes on with what reading another construct gives. -/
  | attach (construct : Nat) (gathered : σ) (k : Except Fault v → Handling σ v)

/-- A construct that can be read. -/
structure Construct (σ v : Type) where
  name : String
  rules : List (Pattern × (σ → Match → Handling σ v))

namespace Construct

variable {σ v : Type}

/-- The construct with one more rule. -/
def addRule (c : Construct σ v) (source : String) (handler : σ → Match → Handling σ v) :
    Except Fault (Construct σ v) :=
  match inContext c.name (anchored source) with
  | .error fault => .error fault
  | .ok pattern => .ok { c with rules := c.rules ++ [(pattern, handler)] }

/-- The construct with more rules, up to the first faulty one. -/
def addRules (c : Construct σ v) :
    List (String × (σ → Match → Handling σ v)) → Except Fault (Construct σ v)
  | [] => .ok c
  | (source, handler) :: rules =>
    match c.addRule source handler with
    | .error fault => .error fault
    | .ok c => c.addRules rules

end Construct

/-- Constructs by number, and how many characters at the cursor a match may use. -/
structure Reader (σ v : Type) where
  construct : Nat → Construct σ v
  window : Nat

namespace Reader

variable {σ v ι : Type} [Input ι (List Char)]

/-- Carries out a handler, with the way to read a construct. -/
def handle (read : Nat → σ → ι → Option (Except Fault v) × ι) :
    Handling σ v → ι → Option (Except Fault (Step v × σ)) × ι
  | .finish outcome, input => (some outcome, input)
  | .locate k, input => handle read (k (Input.position input)) input
  | .attach construct gathered k, input =>
    match read construct gathered input with
    | (none, input) => (none, input)
    | (some answer, input) => handle read (k answer) input

/-- The first rule that matches the window, as its handler and the match; if there is none, the
input has ended or is not what the construct allows. -/
def choose (c : Construct σ v) (window : List Char) :
    Except Fault ((σ → Match → Handling σ v) × Match) :=
  match firstMatch? Prod.fst window c.rules with
  | some (rule, found) => .ok (rule.2, found)
  | none =>
    if window.isEmpty then .error (.unexpectedEnd c.name)
    else .error (.noMatch c.name (excerpt window))

/-- Reads the construct with the number, on top of what is gathered, if so many rounds are enough: a
round for each match in turn, and on top of these the rounds of a construct that is attached. -/
def read (r : Reader σ v) : (limit : Nat) → Nat → σ → ι → Option (Except Fault v) × ι
  | 0, _, _, input => (none, input)
  | limit + 1, number, gathered, input =>
    let c := r.construct number
    let base := Input.position input
    match Input.peek r.window input with
    | (.error fault, input) => (some (.error fault), input)
    | (.ok window, input) =>
      match choose c window with
      | .error fault => (some (.error fault), input)
      | .ok (handler, found) =>
        match Input.skip (unitsIn (List Char) found.whole) input with
        | (.error fault, input) => (some (.error fault), input)
        | (.ok _, input) =>
          match handle (r.read limit) (handler gathered found) input with
          | (none, input) => (none, input)
          | (some (.error fault), input) => (some (.error fault), input)
          | (some (.ok (.done value, _)), input) => (some (.ok value), input)
          | (some (.ok (.more, gathered)), input) =>
            if Input.position input = base then (some (.error (.stalled c.name)), input)
            else r.read limit number gathered input

/-- Reads constructs one after the other, each on top of nothing but `gathered`, going on after
faults; each answer comes with the position after it. -/
def readAll (r : Reader σ v) (limit : Nat) (gathered : σ) :
    List Nat → ι → List (Except Fault v × Nat) × ι
  | [], input => ([], input)
  | number :: numbers, input =>
    match r.read limit number gathered input with
    | (none, input) => ([], input)
    | (some answer, input) =>
      let (rest, last) := readAll r limit gathered numbers input
      ((answer, Input.position input) :: rest, last)

end Reader

end Lexis
