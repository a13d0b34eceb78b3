import Lexis.Input.Cursor
import Lexis.Inspect

/-!
# What actions see

A lexer with one rule for the end and one for any character, whose action shows what it sees of the
run. Over a text it gives one record for each character.
-/

namespace Lexis.Demo

/-- The rules: the end, and any character. -/
def witnessDeclarations : List (Declaration String) :=
  [.rule "$" fun _ _ => ⟨[], some (.eof "")⟩,
   .rule "(?s)." fun _ site => ⟨[], some ⟨some "SEEN", site.inspect⟩⟩]

/-- The records of the actions over a text, and how many other answers there are. -/
def contextsSeen (text : List Char) : Except Fault (List String × Nat) :=
  match Lexer.build witnessDeclarations with
  | .error fault => .error fault
  | .ok lexer =>
    let limit := text.length + 2
    let series := TokenSeries.ofRun lexer (Lexing.start (TextCursor.ofText text) [])
    let answers := (series.answers limit limit).1.map Prod.fst
    let seen := answers.filterMap fun
      | .ok token => if token.isNamed "SEEN" then some token.value else none
      | .error _ => none
    .ok (seen, answers.length - seen.length)

end Lexis.Demo
