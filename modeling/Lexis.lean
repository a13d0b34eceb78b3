import Lexis.Demo.Contexts
import Lexis.Demo.Report
import Lexis.Input.Buffered
import Lexis.Input.Cursor
import Lexis.Inspect
import Lexis.Main
import Lexis.Proofs.Demo.Coupling
import Lexis.Proofs.Demo.Writing
import Lexis.Proofs.Input.Conservation
import Lexis.Proofs.Input.Counting
import Lexis.Proofs.Input.Decoding
import Lexis.Proofs.Input.Fetching
import Lexis.Proofs.Input.Walking
import Lexis.Proofs.Lexer.Accepting
import Lexis.Proofs.Lexer.Agreement
import Lexis.Proofs.Lexer.Covering
import Lexis.Proofs.Lexer.Declaring
import Lexis.Proofs.Lexer.Discarding
import Lexis.Proofs.Lexer.EmptyWindow
import Lexis.Proofs.Lexer.Extending
import Lexis.Proofs.Lexer.LastWindow
import Lexis.Proofs.Lexer.Persisting
import Lexis.Proofs.Lexer.Stalling
import Lexis.Proofs.Lexer.Termination
import Lexis.Proofs.Lexer.Truncation
import Lexis.Proofs.Lexer.Undecodable
import Lexis.Proofs.Lexer.WindowLimit
import Lexis.Proofs.Reader.Account
import Lexis.Proofs.Reader.Agreement
import Lexis.Proofs.Reader.Termination
import Lexis.Proofs.Reducer.Balance
import Lexis.Proofs.Reducer.Recovering
import Lexis.Proofs.Reducer.Repeating
import Lexis.Proofs.Reducer.Stopping
import Lexis.Proofs.Reducer.Strictness
import Lexis.Script.Action
import Lexis.Script.Handler
import Lexis.Script.Reduction
