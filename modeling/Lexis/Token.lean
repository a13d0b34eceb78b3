/-!
# Tokens

A token has a value and, unless it is ignorable, a name. Three names have a meaning of their own:
`EOF` ends the tokens, `START` opens a span and `END` closes one. The value of the last two may
name the group of the span.
-/

namespace Lexis

/-- A named value; without a name it is ignorable, and whoever meets it first drops it. -/
structure Token (V : Type) where
  name : Option String
  value : V
  deriving DecidableEq, Repr

namespace Token

variable {V W : Type}

/-- The token that ends the tokens. -/
def eof (value : V) : Token V := ⟨some "EOF", value⟩

/-- The token that opens a span. -/
def start (value : V) : Token V := ⟨some "START", value⟩

/-- The token that closes a span. -/
def finish (group : V) : Token V := ⟨some "END", group⟩

/-- A token that whoever meets it first drops. -/
def ignored (value : V) : Token V := ⟨none, value⟩

def isNamed (name : String) (t : Token V) : Bool := t.name == some name

def isIgnorable (t : Token V) : Bool := t.name.isNone

def isEof (t : Token V) : Bool := t.isNamed "EOF"

def isStart (t : Token V) : Bool := t.isNamed "START"

def isFinish (t : Token V) : Bool := t.isNamed "END"

/-- The token with another value under the same name. -/
def map (f : V → W) (t : Token V) : Token W := ⟨t.name, f t.value⟩

/-- Name and value with a colon between them; a low line stands for no name. -/
def display (form : V → String) (t : Token V) : String :=
  t.name.getD "_" ++ ":" ++ form t.value

end Token

/-- Values that may name the group of a span. -/
class GroupNamed (V : Type) where
  /-- The group that the value names. -/
  group? : V → Option String

export GroupNamed (group?)

instance : GroupNamed String where
  group? name := some name

instance {V : Type} [GroupNamed V] : GroupNamed (Option V) where
  group? value := value.bind group?

end Lexis
