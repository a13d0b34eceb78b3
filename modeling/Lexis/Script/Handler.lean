import Lexis.Reader
import Lexis.Script.Recipe

/-!
# Scripted handlers

A handler of a reader as a list of steps, which gathers a text and a list of items. A handler whose
steps do not end it asks for more.
-/

namespace Lexis.Script

open Text

/-- What a construct gathers. -/
structure Gathered where
  text : List Char
  items : List Value

def Gathered.nothing : Gathered := ⟨[], []⟩

def Gathered.add (g : Gathered) (item : Value) : Gathered :=
  { g with items := g.items ++ [item] }

/-- A step of a handler. -/
inductive HandlerStep where
  /-- Appends a value to the text: a text as it is, any other value in its compact form. -/
  | text (recipe : Recipe)
  /-- Appends a value to the items. -/
  | item (recipe : Recipe)
  /-- Appends the number that a group writes to the items; it is a fault if there is none. -/
  | needInteger (ref : GroupRef)
  /-- Reads another construct and appends its value to the items. -/
  | attach (construct : Nat) (context : Option String)
  | fail (fault : Fault)
  | done (recipe : Recipe)

/-- The characters that a value adds to a text. -/
def plainText : Value → List Char
  | .text s => s.toList
  | v => v.compact.toList

/-- An answer in a context, if one is given. -/
def inContext? {α : Type} : Option String → Except Fault α → Except Fault α
  | some context, answer => inContext context answer
  | none, answer => answer

/-- What the steps do on top of what is gathered. -/
def handling (found : Match) : List HandlerStep → Gathered → Handling Gathered Value
  | [], g => .finish (.ok (.more, g))
  | .text recipe :: steps, g =>
    .locate fun position =>
      let value := recipe.value ⟨found, position, [], none, g.text, g.items⟩
      handling found steps { g with text := g.text ++ plainText value }
  | .item recipe :: steps, g =>
    .locate fun position =>
      handling found steps (g.add (recipe.value ⟨found, position, [], none, g.text, g.items⟩))
  | .needInteger ref :: steps, g =>
    let digits := (ref.text? found).getD []
    match integer? digits with
    | some n => handling found steps (g.add (.number n))
    | none => .finish (.error (.noMatch "number" (String.ofList digits)))
  | .attach construct context :: steps, g =>
    .attach construct .nothing fun answer =>
      match inContext? context answer with
      | .error fault => .finish (.error fault)
      | .ok value => handling found steps (g.add value)
  | .fail fault :: _, _ => .finish (.error fault)
  | .done recipe :: _, g =>
    .locate fun position =>
      .finish (.ok (.done (recipe.value ⟨found, position, [], none, g.text, g.items⟩), g))

/-- The handler of the steps. -/
def handler (steps : List HandlerStep) (g : Gathered) (found : Match) : Handling Gathered Value :=
  handling found steps g

end Lexis.Script
