import Lexis.Pattern.Syntax

/-!
# Pattern programs

A pattern as a list of instructions at consecutive addresses. A thread runs from address 0; `fork`
continues at two addresses, of which the first is preferred.

A repetition without a limit runs its body at least once and then forks back to it; where no body at
all is allowed, a fork in front of it goes past it. A repetition up to a limit is written out: its
least number of bodies, then the optional ones, each with a fork to the end before it.
-/

namespace Lexis.Pattern

/-- An instruction. -/
inductive Instr where
  /-- Take one character of the set. -/
  | one (s : CharSet)
  /-- Go on only at such a place. -/
  | look (l : Look)
  /-- Keep the position in a slot. -/
  | save (slot : Nat)
  | fork (preferred other : Nat)
  | jump (target : Nat)
  | accept
  deriving DecidableEq, Repr

/-- A fork that prefers the body if it is greedy, and the exit otherwise. -/
def Instr.loop (greedy : Bool) (body exit : Nat) : Instr :=
  if greedy then .fork body exit else .fork exit body

/-- So many copies of a code of the given width, from an address on. -/
def copies (code : Nat → List Instr) (width : Nat) : Nat → Nat → List Instr
  | 0, _ => []
  | n + 1, base => code base ++ copies code width n (base + width)

/-- So many optional copies of a code, each with a fork to `exit` before it. -/
def optionals (code : Nat → List Instr) (width : Nat) (greedy : Bool) (exit : Nat) :
    Nat → Nat → List Instr
  | 0, _ => []
  | n + 1, base =>
    .loop greedy (base + 1) exit :: code (base + 1) ++
      optionals code width greedy exit n (base + 1 + width)

/-- One or more times a code. -/
def oneOrMore (code : Nat → List Instr) (width : Nat) (greedy : Bool) (base : Nat) : List Instr :=
  code base ++ [.loop greedy base (base + width + 1)]

namespace Expr

/-- How many instructions the expression takes. -/
def size : Expr → Nat
  | empty => 0
  | one _ => 1
  | look _ => 1
  | group _ e => size e + 2
  | cat a b => size a + size b
  | alt a b => size a + size b + 2
  | repeated e 0 none _ => size e + 2
  | repeated e (n + 1) none _ => n * size e + (size e + 1)
  | repeated e n (some m) _ => n * size e + (m - n) * (size e + 1)

/-- How many bytes the instructions of the expression take, nearly. -/
def weight : Expr → Nat
  | empty => 32
  | one s => s.weight
  | look _ => 32
  | group _ e => weight e + 64
  | cat a b => weight a + weight b
  | alt a b => weight a + weight b + 40
  | repeated e 0 none _ => weight e + 72
  | repeated e (n + 1) none _ => n * weight e + (weight e + 40)
  | repeated e n (some m) _ => n * weight e + (m - n) * (weight e + 40)

/-- The instructions of the expression, from an address on. -/
def code : Expr → Nat → List Instr
  | empty, _ => []
  | one s, _ => [.one s]
  | look l, _ => [.look l]
  | group index e, base =>
    .save (2 * (index - 1)) :: code e (base + 1) ++ [.save (2 * (index - 1) + 1)]
  | cat a b, base => code a base ++ code b (base + size a)
  | alt a b, base =>
    .fork (base + 1) (base + size a + 2) :: code a (base + 1) ++
      .jump (base + size a + size b + 2) :: code b (base + size a + 2)
  | repeated e 0 none greedy, base =>
    .loop greedy (base + 1) (base + size e + 2) :: oneOrMore (code e) (size e) greedy (base + 1)
  | repeated e (n + 1) none greedy, base =>
    copies (code e) (size e) n base ++ oneOrMore (code e) (size e) greedy (base + n * size e)
  | repeated e n (some m) greedy, base =>
    copies (code e) (size e) n base ++
      optionals (code e) (size e) greedy (base + n * size e + (m - n) * (size e + 1)) (m - n)
        (base + n * size e)

end Expr

/-- A pattern ready to run. -/
structure Program where
  code : Array Instr
  /-- How many capturing groups there are. -/
  groups : Nat
  names : List (List Char × Nat)

/-- How many bytes a program takes at most. -/
def Program.sizeLimit : Nat := 10 * 1024 * 1024

/-- The program of an expression, with the names of its groups. -/
def Expr.program (e : Expr) (names : List (List Char × Nat)) : Except Defect Program :=
  if Program.sizeLimit < e.weight then .error .tooLarge
  else .ok ⟨(e.code 0 ++ [Instr.accept]).toArray, e.lastGroup, names⟩

/-- Whether all threads of the program die at once but at the start of the text. -/
def Program.pinned (p : Program) : Bool :=
  p.code[0]? == some (.look .textStart)

end Lexis.Pattern
