import Lexis.Reducer.Stream
import Lexis.Text.Integer
import Lexis.Value

/-!
# A demonstration grammar

Words, integers, strings in double quotes and arrays in square brackets, with blanks and commas
between them. A string and an array are each a span of tokens, which the reducer makes one token of.
In a string a backslash stands before a character that is meant as it is.
-/

namespace Lexis.Demo

open Text

/-- The text of a match as a value. -/
def wholeText (m : Match) : Value := .text (String.ofList m.whole)

/-- The number that a match writes; nothing if it is out of range. -/
def wholeNumber (m : Match) : Value :=
  match integer? m.whole with
  | some n => .number n
  | none => .null

/-- An action that gives a token and leaves the states as they are. -/
def giving (token : Match → Token Value) : Action Value :=
  fun m _ => ⟨[], some (token m)⟩

/-- An action that discards its match. -/
def discarding : Action Value :=
  fun _ _ => ⟨[], none⟩

/-- The state inside a string. -/
def stringState : String := "string"

def stringGroup : String := "STRING"

def arrayGroup : String := "ARRAY"

/-- The rules in order. -/
def declarations : List (Declaration Value) :=
  [.rule "$" (giving fun _ => .eof .null),
   .rule "[\\s,]+" discarding,
   .rule "-?\\d+" (giving fun m => ⟨some "NUMBER", wholeNumber m⟩),
   .rule "\\w+" (giving fun m => ⟨some "WORD", wholeText m⟩),
   .rule "\"" fun _ _ => ⟨[.enter stringState], some (.start (.text stringGroup))⟩,
   .rule "\\[" (giving fun _ => .start (.text arrayGroup)),
   .rule "\\]" (giving fun _ => .finish (.text arrayGroup)),
   .stateRule stringState "\\\\(.)"
     (giving fun m => ⟨some "CHAR", .text (String.ofList ((m.group? 1).getD []))⟩),
   .stateRule stringState "\"" fun _ _ => ⟨[.leave], some (.finish (.text stringGroup))⟩,
   .stateRule stringState "[^\"\\\\]+" (giving fun m => ⟨some "CHAR", wholeText m⟩)]

def lexer : Except Fault (Lexer Value) := Lexer.build declarations

/-- One text of the texts among the children. -/
def joined (children : List (Token Value)) : Token Value :=
  ⟨some stringGroup, .text (String.join (children.filterMap fun t => t.value.text?))⟩

/-- One list of the values of the children. -/
def listed (children : List (Token Value)) : Token Value :=
  ⟨some arrayGroup, .list (children.map Token.value)⟩

def reducer : Reducer Value :=
  ((Reducer.empty false).register stringGroup joined).register arrayGroup listed

end Lexis.Demo
