import Lexis.Pattern.Basic
import Lexis.Text.Integer
import Lexis.Value

/-!
# Recipes

A recipe says how to make a value of a match and of what surrounds it: the texts of its groups, the
position, the states, and what has been gathered before.
-/

namespace Lexis.Script

open Text

/-- A group of a match, by number or by name. -/
inductive GroupRef where
  | number (n : Nat)
  | named (name : String)
  deriving DecidableEq, Repr

/-- The text of the group, if it took part in the match. -/
def GroupRef.text? (ref : GroupRef) (m : Match) : Option (List Char) :=
  match ref with
  | .number n => m.group? n
  | .named name => m.named? name.toList

/-- What a recipe can draw on. -/
structure Scene where
  found : Match
  position : Nat
  /-- The states, innermost first. -/
  states : List String
  /-- The state that was left last. -/
  popped : Option String
  /-- The text gathered so far. -/
  text : List Char
  /-- The items gathered so far. -/
  items : List Value

/-- How to make a value. -/
inductive Recipe where
  | const (v : Value)
  /-- The text of the whole match. -/
  | whole
  | group (ref : GroupRef)
  /-- The texts of all groups. -/
  | groups
  /-- The number that a group writes. -/
  | integer (ref : GroupRef)
  | position
  /-- The innermost state. -/
  | state
  /-- All states, outermost first. -/
  | states
  | popped
  | text
  | items
  | lastItem

def textValue (chars : List Char) : Value := .text (String.ofList chars)

def textValue? : Option (List Char) → Value
  | some chars => textValue chars
  | none => .null

/-- The value of a recipe in a scene; what is not there is null. -/
def Recipe.value (s : Scene) : Recipe → Value
  | .const v => v
  | .whole => textValue s.found.whole
  | .group ref => textValue? (ref.text? s.found)
  | .groups => .list (s.found.groups.map textValue?)
  | .integer ref =>
    match (ref.text? s.found).bind integer? with
    | some n => .number n
    | none => .null
  | .position => .number s.position
  | .state => .ofText? s.states.head?
  | .states => .list (s.states.reverse.map Value.text)
  | .popped => .ofText? s.popped
  | .text => textValue s.text
  | .items => .list s.items
  | .lastItem => s.items.getLast?.getD .null

end Lexis.Script
