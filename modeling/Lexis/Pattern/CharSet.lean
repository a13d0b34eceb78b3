import Lexis.Text.CaseFold
import Lexis.Text.Classes

/-!
# Sets of characters

A set is an expression over intervals, named classes and tables, closed under the set operations and
under case folding. `CharSet.contains` says which characters are in it: of a folded set, those that
equal a member of the set up to case. `CharSet.weight` tells how much room a program needs for it.
-/

namespace Lexis.Pattern

open Text

/-- A named class; a narrow one has ASCII members only. -/
inductive Named where
  | digit
  | space
  | word
  deriving DecidableEq, Repr

/-- Whether a character is in the class. -/
def Named.contains (wide : Bool) (k : Named) (c : Char) : Bool :=
  match k with
  | .digit => if wide then isDigit c else inRanges asciiDigitRanges c.toNat
  | .space => if wide then isSpace c else inRanges asciiSpaceRanges c.toNat
  | .word => if wide then isWord c else inRanges asciiWordRanges c.toNat

/-- How many intervals the class has. -/
def Named.spans (wide : Bool) (k : Named) : Nat :=
  match k with
  | .digit => if wide then 64 else 1
  | .space => if wide then 10 else 2
  | .word => if wide then 771 else 4

/-- The operations between two sets. -/
inductive SetOp where
  | both
  | without
  | oneOf
  deriving DecidableEq, Repr

/-- A set of characters. -/
inductive CharSet where
  | nothing
  /-- The characters from `low` to `high`. -/
  | interval (low high : Char)
  | named (wide : Bool) (k : Named)
  /-- The characters whose code points are in the intervals. -/
  | table (ranges : List (Nat × Nat))
  | union (a b : CharSet)
  | op (o : SetOp) (a b : CharSet)
  | compl (a : CharSet)
  /-- What equals a member up to case; narrowly, up to the case of ASCII letters. -/
  | folded (wide : Bool) (a : CharSet)
  deriving DecidableEq, Repr

/-- The characters that equal the given one up to case. -/
def equals (wide : Bool) (c : Char) : List Char :=
  if wide then (caseOrbit c.toNat).map Char.ofNat
  else [c.toLower, c.toUpper]

namespace CharSet

def single (c : Char) : CharSet := .interval c c

def everything : CharSet := .compl .nothing

def contains : CharSet → Char → Bool
  | nothing, _ => false
  | interval low high, c => low ≤ c && c ≤ high
  | named wide k, c => k.contains wide c
  | table ranges, c => inRanges ranges c.toNat
  | union a b, c => a.contains c || b.contains c
  | op .both a b, c => a.contains c && b.contains c
  | op .without a b, c => a.contains c && !b.contains c
  | op .oneOf a b, c => a.contains c != b.contains c
  | compl a, c => !a.contains c
  | folded wide a, c => (equals wide c).any fun d => a.contains d

/-- The union of the intervals given by their ends. -/
def intervals : List (Char × Char) → CharSet
  | [] => nothing
  | [(low, high)] => interval low high
  | (low, high) :: more => union (interval low high) (intervals more)

/-- The union of the sets. -/
def unions : List CharSet → CharSet
  | [] => nothing
  | [s] => s
  | s :: more => union s (unions more)

/-- How many bytes a program spends on the set, nearly. A program takes the bytes of a character one
after the other, with a state of 32 bytes for each; an interval of a large set has about two states
to itself, and all characters together take some thirty. -/
def weight : CharSet → Nat
  | nothing => 32
  | interval low high => if low = high then 32 * low.utf8Size else 72
  | named wide k => 64 * k.spans wide
  | table ranges => 32 + 64 * ranges.length
  | union a b => a.weight + b.weight
  | op _ a b => a.weight + b.weight
  | compl a => a.weight + 936
  | folded _ a => a.weight

end CharSet

end Lexis.Pattern
