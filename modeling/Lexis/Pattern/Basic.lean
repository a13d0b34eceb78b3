import Lexis.Fault
import Lexis.Pattern.Parser
import Lexis.Pattern.Search

/-!
# Patterns

A pattern of a rule is put between `\A(?:` and `)`, and the whole is compiled as one text, so that
it matches only at the start of the window. `Pattern.match?` finds the match in a text; a `Match`
gives the texts of its groups, by number and by name.
-/

namespace Lexis

open Pattern

/-- A compiled pattern. -/
structure Pattern where
  /-- The text that is compiled, with the anchor. -/
  text : String
  program : Program

/-- A match in a text. -/
structure Match where
  text : List Char
  hit : Hit
  names : List (List Char × Nat)

namespace Pattern

/-- The text of the pattern with the anchor. -/
def anchor (source : String) : String :=
  "\\A(?:" ++ source ++ ")"

/-- The program that a text compiles to. -/
def compile (text : List Char) : Except Defect Program :=
  match parse text with
  | .error defect => .error defect
  | .ok parsed => parsed.expr.program parsed.names

/-- The pattern, anchored to the start of the window. -/
def anchored (source : String) : Except Fault Pattern :=
  match compile (anchor source).toList with
  | .error defect => .error (.badPattern defect.message)
  | .ok program => .ok ⟨anchor source, program⟩

/-- The match of the pattern in the text. -/
def match? (p : Pattern) (text : List Char) : Option Match :=
  (p.program.search text).map fun hit => ⟨text, hit, p.program.names⟩

/-- The first item whose pattern matches the text, and the match. -/
def firstMatch? {α : Type} (pattern : α → Pattern) (text : List Char) : List α → Option (α × Match)
  | [] => none
  | a :: rest =>
    match (pattern a).match? text with
    | some m => some (a, m)
    | none => firstMatch? pattern text rest

/-- How many characters an excerpt has at most. -/
def excerptLength : Nat := 24

/-- The front of a text, with three dots after it if the text goes on. -/
def excerpt (text : List Char) : String :=
  String.ofList (text.take excerptLength) ++ if excerptLength < text.length then "..." else ""

end Pattern

namespace Match

/-- The characters between two positions. -/
def slice (m : Match) (start stop : Nat) : List Char :=
  (m.text.drop start).take (stop - start)

/-- The text of the whole match. -/
def whole (m : Match) : List Char :=
  m.slice m.hit.start m.hit.stop

/-- How many groups there are, the whole match among them. -/
def groupCount (m : Match) : Nat :=
  m.hit.slots.length / 2 + 1

/-- The text of a group, if it took part in the match; group 0 is the whole match. -/
def group? (m : Match) : Nat → Option (List Char)
  | 0 => some m.whole
  | n + 1 =>
    match m.hit.slots[2 * n]?, m.hit.slots[2 * n + 1]? with
    | some (some start), some (some stop) => some (m.slice start stop)
    | _, _ => none

/-- The text of the group with the name. -/
def named? (m : Match) (name : List Char) : Option (List Char) :=
  (m.names.lookup name).bind m.group?

/-- The texts of all groups, the whole match first. -/
def groups (m : Match) : List (Option (List Char)) :=
  (List.range m.groupCount).map m.group?

end Match

end Lexis
