import Lexis.Demo.Grammar
import Lexis.Input.Buffered
import Lexis.Inspect

/-!
# The report on a file

The tokens of a file by the demonstration grammar, one on a line, up to the end or to the first
fault, which is told apart from them. A round takes at least one character unless it ends the
tokens, so as many rounds as there are bytes, and one more, are always enough.
-/

namespace Lexis.Demo

/-- What the program says: its status, and the lines of its two outputs. -/
structure Report where
  status : Nat
  out : List String
  err : List String
  deriving DecidableEq, Repr

/-- The tokens of the bytes, and the fault that ends them, if one does. -/
def tokens (bytes : List UInt8) : List (Token Value) × Option Fault :=
  match lexer with
  | .error fault => ([], some fault)
  | .ok lexer =>
    let limit := bytes.length + 2
    let input := BufferedText.ofSource (Source.ofBytes bytes) 1024
    let series := ReducedSeries.ofRun reducer
      (Reducing.start (TokenSeries.ofRun lexer (Lexing.start input [])) [])
    let answers := (series.answers limit limit).1.map Prod.fst
    (answers.filterMap Except.toOption,
      answers.findSome? fun | .error fault => some fault | .ok _ => none)

/-- The report on the bytes of a file. -/
def reportOn (path : String) (bytes : List UInt8) : Report :=
  let (tokens, fault?) := tokens bytes
  let lines := tokens.map (Token.inspect Value.inspect)
  match fault? with
  | none => ⟨0, lines, []⟩
  | some fault => ⟨1, lines, ["error: " ++ (Fault.within path fault).message]⟩

/-- The fault of a path without a file. -/
def noSuchFile : Fault := .unreadable "No such file or directory (os error 2)"

/-- The report of the program, by its arguments and by the files there are. -/
def report (args : List String) (file? : String → Option (List UInt8)) : Report :=
  match args with
  | [] => ⟨1, [], ["usage: lex_to_debug <file>"]⟩
  | path :: _ =>
    match file? path with
    | some bytes => reportOn path bytes
    | none => ⟨1, [], ["error: " ++ (Fault.within path noSuchFile).message]⟩

end Lexis.Demo
