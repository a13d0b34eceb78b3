import Lexis.Pattern.Flags
import Lexis.Pattern.Property

/-!
# Escapes

What follows a backslash: a character by its code or its own sign, a named class, a class by a
property of its characters, or a place.
-/

namespace Lexis.Pattern

/-- The meaning of an escape. -/
inductive Escaped where
  | char (c : Char)
  /-- A character given as a byte, by two digits. -/
  | byte (c : Char)
  | set (s : CharSet)
  | look (l : Look)
  deriving DecidableEq, Repr

/-- The value of a hexadecimal digit. -/
def hexValue? (c : Char) : Option Nat :=
  if '0' ≤ c ∧ c ≤ '9' then some (c.toNat - '0'.toNat)
  else if 'a' ≤ c ∧ c ≤ 'f' then some (c.toNat - 'a'.toNat + 10)
  else if 'A' ≤ c ∧ c ≤ 'F' then some (c.toNat - 'A'.toNat + 10)
  else none

/-- The character with the code, if there is one. -/
def charOfCode (n : Nat) : Except Defect Char :=
  if n.isValidChar then .ok (Char.ofNat n) else .error .badCode

/-- The number that follows one already read, of exactly so many hexadecimal digits. -/
def fixedCode (f : Flags) : (digits : Nat) → Nat → List Char → Except Defect (Nat × List Char)
  | 0, n, s => .ok (n, s)
  | _ + 1, _, [] => .error .badCode
  | k + 1, n, c :: s =>
    match hexValue? c with
    | some d => fixedCode f k (n * 16 + d) (f.skip s)
    | none => .error .badCode

/-- The number that hexadecimal digits write after one already read. -/
def freeCode? (n : Nat) : List Char → Option Nat
  | [] => some n
  | c :: cs =>
    match hexValue? c with
    | some d => freeCode? (n * 16 + d) cs
    | none => none

/-- A character by its code: so many digits, or any number of them in braces. -/
def codeEscape (f : Flags) (digits : Nat) (s : List Char) :
    Except Defect (Escaped × List Char) :=
  match f.skip s with
  | '\x7b' :: s =>
    match untilBrace f.blanks false s with
    | none => .error .badCode
    | some ([], _) => .error .badCode
    | some (inner, rest) =>
      match freeCode? 0 inner with
      | none => .error .badCode
      | some n => (charOfCode n).map fun c => (.char c, f.skip rest)
  | s =>
    match fixedCode f digits 0 s with
    | .error defect => .error defect
    | .ok (n, rest) =>
      (charOfCode n).map fun c => (if digits = 2 then .byte c else .char c, rest)

/-- The kind of word boundary that a name in braces selects. -/
def edge? (name : List Char) : Option Edge :=
  if name = "start".toList then some .start
  else if name = "end".toList then some .stop
  else if name = "start-half".toList then some .startHalf
  else if name = "end-half".toList then some .stopHalf
  else none

/-- Whether the character can stand in the name of a word boundary. -/
def isEdgeLetter (c : Char) : Bool :=
  c.isAlpha || c == '-'

/-- A word boundary. Braces after it that begin with a letter name its kind; other braces are a
repetition. -/
def edgeEscape (f : Flags) (s : List Char) : Except Defect (Escaped × List Char) :=
  let plain : Escaped × List Char := (.look (.edge f.wide .boundary), s)
  match s with
  | '\x7b' :: inside =>
    match untilBrace f.blanks false inside with
    | none => .error .badEscape
    | some (name, rest) =>
      if name.head?.any isEdgeLetter then
        match edge? name with
        | some e => .ok (.look (.edge f.wide e), rest)
        | none => .error .badEscape
      else .ok plain
  | _ => .ok plain

/-- A class by a property: a letter names it, or what stands in braces. -/
def propertyEscape (f : Flags) (negated : Bool) (s : List Char) :
    Except Defect (Escaped × List Char) :=
  match f.skip s with
  | [] => .error .badEscape
  | '\\' :: _ => .error .badProperty
  | '\x7b' :: s =>
    match untilBrace f.blanks false s with
    | none => .error .badEscape
    | some (name, rest) => (propertySet f negated name).map fun s => (.set s, rest)
  | c :: rest => (propertySet f negated [c]).map fun s => (.set s, rest)

/-- What the text after a backslash means, and what follows it. -/
def escape (f : Flags) : List Char → Except Defect (Escaped × List Char)
  | [] => .error .badEscape
  | c :: s =>
    match c with
    | 'x' => codeEscape f 2 s
    | 'u' => codeEscape f 4 s
    | 'U' => codeEscape f 8 s
    | 'p' => propertyEscape f false s
    | 'P' => propertyEscape f true s
    | 'd' => .ok (.set (.named f.wide .digit), s)
    | 'D' => .ok (.set (.compl (.named f.wide .digit)), s)
    | 's' => .ok (.set (.named f.wide .space), s)
    | 'S' => .ok (.set (.compl (.named f.wide .space)), s)
    | 'w' => .ok (.set (.named f.wide .word), s)
    | 'W' => .ok (.set (.compl (.named f.wide .word)), s)
    | 'a' => .ok (.char '\x07', s)
    | 'f' => .ok (.char '\x0c', s)
    | 'n' => .ok (.char '\n', s)
    | 'r' => .ok (.char '\r', s)
    | 't' => .ok (.char '\t', s)
    | 'v' => .ok (.char '\x0b', s)
    | 'A' => .ok (.look .textStart, s)
    | 'z' => .ok (.look .textEnd, s)
    | 'b' => edgeEscape f s
    | 'B' => .ok (.look (.edge f.wide .inside), s)
    | '<' => .ok (.look (.edge f.wide .start), s)
    | '>' => .ok (.look (.edge f.wide .stop), s)
    | _ =>
      if c.isDigit then .error .backreference
      else if c.toNat < 128 && !c.isAlphanum then .ok (.char c, s)
      else .error .badEscape

end Lexis.Pattern
