import Lexis.Reader
import Lexis.Reducer.Stream
import Lexis.Value

/-!
# Inspection

Texts that show the parts of a lexer, a reducer and their runs as records: a name, then the fields
in braces. Fields that are not shown leave two dots at the end.
-/

namespace Lexis

open Text

namespace Inspect

/-- Items with a comma and a blank between them. -/
def commaSeparated (items : List String) : String :=
  String.intercalate ", " items

/-- A list in square brackets. -/
def bracketed (items : List String) : String :=
  "[" ++ commaSeparated items ++ "]"

def field (name content : String) : String := name ++ ": " ++ content

def record (name : String) (fields : List String) : String :=
  name ++ " \x7b " ++ commaSeparated fields ++ " \x7d"

/-- A record that has other fields besides. -/
def partialRecord (name : String) (fields : List String) : String :=
  record name (fields ++ [".."])

def optional : Option String → String
  | some s => "Some(" ++ quoted s ++ ")"
  | none => "None"

def flag (b : Bool) : String := if b then "true" else "false"

end Inspect

open Inspect

variable {V : Type}

def Token.inspect (form : V → String) (t : Token V) : String :=
  record "Token" [field "name" (optional t.name), field "value" (form t.value)]

def Span.inspect (form : V → String) (s : Span V) : String :=
  record "Span"
    [field "group" (optional s.group),
     field "children" (bracketed (s.children.map (Token.inspect form)))]

/-- A rule as a record, with its pattern as it is written. -/
def Rule.inspect (rule : Rule V) : String :=
  partialRecord "Rule" [field "pattern" (quoted rule.source)]

def Options.inspect (o : Options) : String :=
  record "TokenizerOptions"
    [field "peek_length" (toString o.window), field "reject_truncated" (flag o.rejectTruncated)]

/-- What an action sees, before it has changed anything, as a record; the states come outermost
first. -/
def Site.inspect (site : Site) : String :=
  record "LexContext"
    [field "states" (bracketed (site.states.reverse.map quoted)),
     field "position" (toString site.position),
     field "changed" (flag false)]

def Reducer.inspect (r : Reducer V) : String :=
  let groups := r.groups.mergeSort fun a b => !decide (b < a)
  record "Combiner"
    [field "groups" (bracketed (groups.map quoted)),
     field "options" (record "CombinerOptions" [field "strict_groups" (flag r.strict)])]

/-- A series of a reducer as a record, with the spans outermost first. -/
def ReducedSeries.inspect {υ : Type} (form : V → String) (s : ReducedSeries υ V) : String :=
  partialRecord "CombinedStream"
    [field "combiner" s.reducer.inspect,
     field "stack" (bracketed (s.run.spans.reverse.map (Span.inspect form))),
     field "finished" (flag s.finished)]

/-- A construct as a record, with its patterns as they are compiled. -/
def Construct.inspect {σ v : Type} (c : Construct σ v) : String :=
  record "StateRules"
    [field "state" (quoted c.name),
     field "patterns" (bracketed (c.rules.map fun rule => "Regex(" ++ quoted rule.1.text ++ ")"))]

end Lexis
