import Lexis.Pattern.Syntax

/-!
# Flags and blanks

The flags in force at a place of a pattern, the notation that sets them, and the blanks and comments
that the flag `x` allows between the parts of a pattern.
-/

namespace Lexis.Pattern

open Text

/-- The flags in force. -/
structure Flags where
  /-- `i`: letters match up to case. -/
  ignoreCase : Bool
  /-- `m`: `^` and `$` match at lines. -/
  multiLine : Bool
  /-- `s`: a dot matches line feeds too. -/
  dotAll : Bool
  /-- `x`: blanks and comments are skipped. -/
  blanks : Bool
  /-- `U`: repetitions are lazy unless they say otherwise. -/
  lazy : Bool
  /-- `u`: classes reach beyond ASCII. -/
  wide : Bool
  /-- `R`: lines may end with a carriage return. -/
  crlf : Bool
  deriving DecidableEq, Repr

/-- The flags at the start of a pattern. -/
def Flags.initial : Flags := ⟨false, false, false, false, false, true, false⟩

/-- The flags with the one of the letter set or cleared, if there is one. -/
def Flags.assign? (f : Flags) (letter : Char) (value : Bool) : Option Flags :=
  match letter with
  | 'i' => some { f with ignoreCase := value }
  | 'm' => some { f with multiLine := value }
  | 's' => some { f with dotAll := value }
  | 'x' => some { f with blanks := value }
  | 'U' => some { f with lazy := value }
  | 'u' => some { f with wide := value }
  | 'R' => some { f with crlf := value }
  | _ => none

/-- The set as the flags have it. -/
def Flags.fold (f : Flags) (s : CharSet) : CharSet :=
  if f.ignoreCase then .folded f.wide s else s

/-- The set, if the flags allow all its members. -/
def Flags.allow (f : Flags) (s : CharSet) : Except Defect CharSet :=
  if !f.wide && s.contains '\x80' then .error .notAscii else .ok s

/-- The set as the flags have it, or what is not in it, if they allow all members. -/
def Flags.settle (f : Flags) (negated : Bool) (s : CharSet) : Except Defect CharSet :=
  f.allow (if negated then .compl (f.fold s) else f.fold s)

/-- The character, if the flags allow it in a class. -/
def Flags.allowChar (f : Flags) (c : Char) : Except Defect Char :=
  if !f.wide && 128 ≤ c.toNat then .error .notAscii else .ok c

/-- What flags are read so far between a question mark and a colon or parenthesis. -/
structure FlagList where
  flags : Flags
  /-- The letters and signs so far. -/
  seen : List Char
  /-- Whether there was a minus sign, so that letters clear flags. -/
  negated : Bool
  /-- Whether the minus sign still waits for a letter. -/
  dangling : Bool

/-- Reads flags up to the colon or parenthesis after them, and tells whether that is a
parenthesis. -/
def FlagList.read (l : FlagList) : List Char → Except Defect (FlagList × Bool × List Char)
  | [] => .error .badFlags
  | c :: s =>
    if c = ':' ∨ c = ')' then
      if l.dangling then .error .badFlags else .ok (l, c = ')', s)
    else if c ∈ l.seen then .error .badFlags
    else if c = '-' then
      read { l with seen := c :: l.seen, negated := true, dangling := true } s
    else
      match l.flags.assign? c (!l.negated) with
      | some flags => read { l with flags := flags, seen := c :: l.seen, dangling := false } s
      | none => .error .badFlags

/-- Drops blanks and comments, from inside a comment or from outside; a comment goes from a number
sign to the end of its line. -/
def dropBlanks : (inComment : Bool) → List Char → List Char
  | _, [] => []
  | true, c :: s => dropBlanks (c != '\n') s
  | false, c :: s =>
    if isSpace c then dropBlanks false s
    else if c = '#' then dropBlanks true s
    else c :: s

/-- Drops blanks and comments where the flags allow them. -/
def Flags.skip (f : Flags) (s : List Char) : List Char :=
  if f.blanks then dropBlanks false s else s

/-- What stands before the next closing brace, without blanks and comments if these are skipped, and
what follows the brace. -/
def untilBrace (blanks : Bool) : (inComment : Bool) → List Char → Option (List Char × List Char)
  | _, [] => none
  | true, c :: s => untilBrace blanks (c != '\n') s
  | false, c :: s =>
    if blanks && isSpace c then untilBrace blanks false s
    else if blanks && c == '#' then untilBrace blanks true s
    else if c = '\x7d' then some ([], s)
    else
      match untilBrace blanks false s with
      | some (inner, rest) => some (c :: inner, rest)
      | none => none

end Lexis.Pattern
