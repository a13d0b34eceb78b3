import Lexis.Lexer.Basic
import Lexis.Script.Recipe

/-!
# Scripted actions

An action of a lexer as a list of steps. The token that is set last is the one that is given.
-/

namespace Lexis.Script

/-- A step of an action. -/
inductive ActionStep where
  | enter (state : String)
  /-- Enters the state that a group names; a group without a text names the empty one. -/
  | enterGroup (ref : GroupRef)
  | leave
  /-- Sets the token; without a name it is ignorable. -/
  | emit (name : Option String) (recipe : Recipe)
  /-- Unsets the token. -/
  | drop

/-- An action in progress. -/
structure ActionState where
  /-- The changes of the states so far, last first. -/
  moves : List Move
  /-- The states after them, innermost first. -/
  states : List String
  /-- What the last step that left a state has left. -/
  popped : Option String
  token : Option (Token Value)

def ActionState.step (found : Match) (position : Nat) (a : ActionState) : ActionStep → ActionState
  | .enter state => { a with moves := .enter state :: a.moves, states := state :: a.states }
  | .enterGroup ref =>
    let state := String.ofList ((ref.text? found).getD [])
    { a with moves := .enter state :: a.moves, states := state :: a.states }
  | .leave =>
    { a with moves := .leave :: a.moves, states := a.states.tail, popped := a.states.head? }
  | .emit name recipe =>
    { a with token := some ⟨name, recipe.value ⟨found, position, a.states, a.popped, [], []⟩⟩ }
  | .drop => { a with token := none }

/-- The action of the steps. -/
def action (steps : List ActionStep) : Action Value := fun found site =>
  let a := steps.foldl (ActionState.step found site.position) ⟨[], site.states, none, none⟩
  ⟨a.moves.reverse, a.token⟩

end Lexis.Script
