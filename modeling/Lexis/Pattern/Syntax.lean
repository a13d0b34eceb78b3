import Lexis.Pattern.CharSet

/-!
# Pattern expressions

What a pattern means, apart from how it is written: sets, places, groups, sequences, ordered
alternatives and repetitions. Of two ways to match, the one preferred is that of the earlier
alternative, of more repetitions where they are greedy and of fewer where they are lazy.
-/

namespace Lexis.Pattern

/-- Where a place lies with respect to the words around it. -/
inductive Edge where
  /-- Between a word character and another one or an end. -/
  | boundary
  /-- Between two word characters, or between two others. -/
  | inside
  /-- Before a word. -/
  | start
  /-- After a word. -/
  | stop
  /-- After no word character. -/
  | startHalf
  /-- Before no word character. -/
  | stopHalf
  deriving DecidableEq, Repr

/-- A place in the text. -/
inductive Look where
  | textStart
  | textEnd
  /-- At the start of a line; `crlf` lines may end with a carriage return as well. -/
  | lineStart (crlf : Bool)
  | lineEnd (crlf : Bool)
  | edge (wide : Bool) (e : Edge)
  deriving DecidableEq, Repr

/-- Whether the place has an edge of the kind, by the characters before and after it. -/
def Edge.holds (e : Edge) (before after : Bool) : Bool :=
  match e with
  | .boundary => before != after
  | .inside => before == after
  | .start => !before && after
  | .stop => before && !after
  | .startHalf => !before
  | .stopHalf => !after

/-- Whether a place lies between the two characters; none stands for the end of the text. -/
def Look.holds (l : Look) (before after : Option Char) : Bool :=
  match l with
  | .textStart => before.isNone
  | .textEnd => after.isNone
  | .lineStart false => before.isNone || before == some '\n'
  | .lineEnd false => after.isNone || after == some '\n'
  | .lineStart true =>
    before.isNone || before == some '\n' || (before == some '\r' && after != some '\n')
  | .lineEnd true =>
    after.isNone || after == some '\r' || (after == some '\n' && before != some '\r')
  | .edge wide e =>
    e.holds (before.any (Named.word.contains wide)) (after.any (Named.word.contains wide))

/-- A pattern expression. Groups count from 1. -/
inductive Expr where
  | empty
  | one (s : CharSet)
  | look (l : Look)
  | group (index : Nat) (e : Expr)
  | cat (a b : Expr)
  | alt (a b : Expr)
  /-- From `least` to `most` times; without `most`, any number of times from `least` on. -/
  | repeated (e : Expr) (least : Nat) (most : Option Nat) (greedy : Bool)
  deriving DecidableEq, Repr

namespace Expr

/-- Whether the expression matches nothing but the empty text, if anything. -/
def onlyEmpty : Expr → Bool
  | empty => true
  | one _ => false
  | look _ => true
  | group _ e => onlyEmpty e
  | cat a b => onlyEmpty a && onlyEmpty b
  | alt a b => onlyEmpty a && onlyEmpty b
  | repeated e _ _ _ => onlyEmpty e

/-- A repetition; what is repeated no times at all is dropped, with the groups in it. -/
def times (e : Expr) (least : Nat) (most : Option Nat) (greedy : Bool) : Expr :=
  if most = some 0 then empty
  -- more than one empty text is the empty text
  else if onlyEmpty e then repeated e (min least 1) (some 1) greedy
  else repeated e least most greedy

/-- The expressions one after the other, given last first. -/
def sequence : List Expr → Expr
  | [] => empty
  | e :: before => before.foldl (fun after e => cat e after) e

/-- The alternatives in order, given last first. -/
def choice : List Expr → Expr
  | [] => empty
  | e :: before => before.foldl (fun after e => alt e after) e

/-- The greatest index of a group in the expression, or 0. -/
def lastGroup : Expr → Nat
  | empty => 0
  | one _ => 0
  | look _ => 0
  | group index e => max index (lastGroup e)
  | cat a b => max (lastGroup a) (lastGroup b)
  | alt a b => max (lastGroup a) (lastGroup b)
  | repeated e _ _ _ => lastGroup e

end Expr

/-- A part of a pattern with its depth: how many parts that hold others lie around the innermost
one. These are groups, repetitions, brackets, and lists of two parts or more. -/
structure Nested (α : Type) where
  part : α
  depth : Nat
  deriving DecidableEq, Repr

/-- The depth of a list of parts, by those of the parts. -/
def depthOf : List Nat → Nat
  | [] => 0
  | [depth] => depth
  | depth :: depths => depths.foldl max depth + 1

/-- The greatest depth of a pattern. -/
def nestLimit : Nat := 250

/-- Why a text is no pattern. -/
inductive Defect where
  | unclosedGroup
  | unopenedGroup
  | nothingToRepeat
  | badCount
  | badEscape
  | backreference
  | badCode
  | badProperty
  | lookAround
  | badGroupName
  | duplicateName (name : List Char)
  | badFlags
  | unclosedClass
  | badRange
  | notAscii
  | tooDeep
  | tooLarge
  deriving DecidableEq, Repr

/-- The wording of a defect. -/
def Defect.message : Defect → String
  | .unclosedGroup => "unclosed group"
  | .unopenedGroup => "unopened group"
  | .nothingToRepeat => "repetition of nothing"
  | .badCount => "malformed repetition count"
  | .badEscape => "unrecognized escape"
  | .backreference => "backreferences are not supported"
  | .badCode => "malformed character code"
  | .badProperty => "unknown character property"
  | .lookAround => "look-around is not supported"
  | .badGroupName => "malformed group name"
  | .duplicateName name => "duplicate group name " ++ String.ofList name
  | .badFlags => "malformed flags"
  | .unclosedClass => "unclosed character class"
  | .badRange => "malformed character range"
  | .notAscii => "beyond ASCII where only ASCII is allowed"
  | .tooDeep => "nested too deeply"
  | .tooLarge => "pattern too large"

end Lexis.Pattern
