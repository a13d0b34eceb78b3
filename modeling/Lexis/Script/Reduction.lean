import Lexis.Reducer.Basic
import Lexis.Value

/-!
# Scripted reductions

Ready-made ways to make one value of the children of a span.
-/

namespace Lexis.Script

/-- How to make a value of tokens. -/
inductive Fold where
  /-- The texts among their values as one text. -/
  | join
  /-- Their values. -/
  | list
  /-- Their number. -/
  | count
  /-- Their names. -/
  | names
  /-- The value of the first one. -/
  | first
  | const (v : Value)

/-- The value of the tokens. -/
def Fold.value (children : List (Token Value)) : Fold → Value
  | .join => .text (String.join (children.filterMap fun t => t.value.text?))
  | .list => .list (children.map Token.value)
  | .count => .number children.length
  | .names => .list (children.map fun t => .ofText? t.name)
  | .first => (children.head?.map Token.value).getD .null
  | .const v => v

/-- The reduction to a token of the name; without a name the result is ignorable. -/
def reduction (name : Option String) (fold : Fold) (children : List (Token Value)) : Token Value :=
  ⟨name, fold.value children⟩

end Lexis.Script
