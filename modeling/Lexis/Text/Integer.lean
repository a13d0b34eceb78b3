/-!
# Integers of 64 bits

The decimal form of a signed 64-bit integer: an optional sign, then one or more ASCII digits. A
number outside the range has no reading.
-/

namespace Lexis.Text

def integerMin : Int := -0x8000000000000000

def integerMax : Int := 0x7FFFFFFFFFFFFFFF

/-- The value of an ASCII digit. -/
def digitValue? (c : Char) : Option Nat :=
  if '0' ≤ c ∧ c ≤ '9' then some (c.toNat - '0'.toNat) else none

/-- The value of digits that follow a number already read. -/
def digitsFrom? (value : Nat) : List Char → Option Nat
  | [] => some value
  | c :: cs =>
    match digitValue? c with
    | some d => digitsFrom? (value * 10 + d) cs
    | none => none

/-- The value of one or more digits. -/
def natural? : List Char → Option Nat
  | [] => none
  | c :: cs => digitsFrom? 0 (c :: cs)

/-- The number, if it has 64 bits. -/
def inRange? (n : Int) : Option Int :=
  if integerMin ≤ n ∧ n ≤ integerMax then some n else none

/-- The integer that the text writes. -/
def integer? : List Char → Option Int
  | '+' :: ds => (natural? ds).bind fun n => inRange? n
  | '-' :: ds => (natural? ds).bind fun n => inRange? (-n)
  | ds => (natural? ds).bind fun n => inRange? n

end Lexis.Text
