import Lexis.Pattern.Escape

/-!
# Bracketed classes

A class between brackets is a union of characters, ranges, escapes, named ASCII classes and further
classes, with three operations between unions, grouped to the left. A hyphen first or last and a
bracket first stand for themselves; a circumflex first negates the class.

The reader keeps a level for each open bracket, so that nesting needs no recursion.
-/

namespace Lexis.Pattern

open Text

/-- How far the class of a level has come. -/
inductive Phase where
  /-- Nothing but perhaps a circumflex: a bracket stands for itself. -/
  | opening
  /-- Only hyphens so far, each for itself. -/
  | hyphens
  /-- An item or the sign of an operation. -/
  | items
  deriving DecidableEq, Repr

/-- An open bracket. -/
structure Level where
  negated : Bool
  phase : Phase
  /-- An operation whose right side is being read, with its left side. -/
  pending : Option (SetOp × Nested CharSet)
  /-- The union being read. -/
  union : CharSet
  /-- The depths of the items of the union. -/
  depths : List Nat

namespace Level

/-- The level after another item. -/
def add (l : Level) (item : Nested CharSet) : Level :=
  { l with
    phase := .items
    union := if l.union = .nothing then item.part else .union l.union item.part
    depths := item.depth :: l.depths }

/-- The level after a character as an item. -/
def addChar (l : Level) (c : Char) : Level :=
  l.add ⟨.single c, 0⟩

/-- The class so far. -/
def value (f : Flags) (l : Level) : Nested CharSet :=
  match l.pending with
  | none => ⟨l.union, depthOf l.depths⟩
  | some (o, left) =>
    ⟨.op o (f.fold left.part) (f.fold l.union), max left.depth (depthOf l.depths) + 1⟩

/-- The level after an operation sign. -/
def operate (f : Flags) (o : SetOp) (l : Level) : Level :=
  { l with phase := .items, pending := some (o, l.value f), union := .nothing, depths := [] }

/-- The class of a closed level. -/
def close (f : Flags) (l : Level) : Except Defect (Nested CharSet) :=
  (f.settle l.negated (l.value f).part).map fun s => ⟨s, (l.value f).depth + 1⟩

end Level

/-- A new level, from what follows its bracket. -/
def openLevel (f : Flags) (s : List Char) : Level × List Char :=
  match f.skip s with
  | '^' :: s => (⟨true, .opening, none, .nothing, []⟩, s)
  | s => (⟨false, .opening, none, .nothing, []⟩, s)

/-- The ASCII classes by name. -/
def asciiClasses : List (String × List (Char × Char)) :=
  [("alnum", [('0', '9'), ('A', 'Z'), ('a', 'z')]),
   ("alpha", [('A', 'Z'), ('a', 'z')]),
   ("ascii", [('\x00', '\x7f')]),
   ("blank", [('\t', '\t'), (' ', ' ')]),
   ("cntrl", [('\x00', '\x1f'), ('\x7f', '\x7f')]),
   ("digit", [('0', '9')]),
   ("graph", [('!', '~')]),
   ("lower", [('a', 'z')]),
   ("print", [(' ', '~')]),
   ("punct", [('!', '/'), (':', '@'), ('[', '\x60'), ('\x7b', '~')]),
   ("space", [('\t', '\r'), (' ', ' ')]),
   ("upper", [('A', 'Z')]),
   ("word", [('0', '9'), ('A', 'Z'), ('_', '_'), ('a', 'z')]),
   ("xdigit", [('0', '9'), ('A', 'F'), ('a', 'f')])]

/-- The ASCII class whose name comes before a colon and a bracket, and what follows these. -/
def asciiClassNamed? (s : List Char) : Option (CharSet × List Char) :=
  let name := s.takeWhile (· != ':')
  match s.drop name.length with
  | ':' :: ']' :: rest =>
    (asciiClasses.lookup (String.ofList name)).map fun r => (.intervals r, rest)
  | _ => none

/-- The ASCII class whose notation follows a bracket, after whether it is negated, and what follows
it. -/
def asciiClass? : List Char → Option (Bool × CharSet × List Char)
  | ':' :: '^' :: s => (asciiClassNamed? s).map fun r => (true, r)
  | ':' :: s => (asciiClassNamed? s).map fun r => (false, r)
  | _ => none

/-- A character or an escape in a class. -/
def classItem (f : Flags) : List Char → Except Defect (Escaped × List Char)
  | [] => .error .unclosedClass
  | '\\' :: s => escape f s
  | c :: s => .ok (.char c, s)

/-- The set of an item that stands alone. -/
def itemSet (f : Flags) : Escaped → Except Defect CharSet
  | .char c => (f.allowChar c).map .single
  | .byte c => (f.allowChar c).map .single
  | .set s => f.allow s
  | .look _ => .error .badEscape

/-- The character of an item at the end of a range. -/
def itemChar (f : Flags) : Escaped → Except Defect Char
  | .char c => f.allowChar c
  | .byte c => f.allowChar c
  | _ => .error .badRange

/-- The first character past blanks and the first number sign among them. -/
def pastBlanks : (signSeen : Bool) → List Char → Option Char
  | _, [] => none
  | signSeen, c :: s =>
    if isSpace c then pastBlanks signSeen s
    else if !signSeen && c == '#' then pastBlanks true s
    else some c

/-- The character that decides whether a hyphen before it makes a range. -/
def afterHyphen (f : Flags) (s : List Char) : Option Char :=
  if f.blanks then (pastBlanks false s).or s.head? else s.head?

/-- A single item or a range of two characters. -/
def classEntry (f : Flags) (s : List Char) : Except Defect (CharSet × List Char) :=
  match classItem f s with
  | .error defect => .error defect
  | .ok (first, s) =>
    let alone := (itemSet f first).map fun set => (set, f.skip s)
    match f.skip s with
    | '-' :: s =>
      if afterHyphen f s = some ']' ∨ afterHyphen f s = some '-' then alone
      else
        match classItem f (f.skip s) with
        | .error defect => .error defect
        | .ok (last, s) =>
          match itemChar f first, itemChar f last with
          | .ok low, .ok high =>
            if low ≤ high then .ok (.interval low high, s) else .error .badRange
          | .error defect, _ => .error defect
          | _, .error defect => .error defect
    | _ => alone

/-- Reads a class to its closing bracket, with the innermost level and those around it. -/
def readLevels (f : Flags) :
    (fuel : Nat) → Level → List Level → List Char → Except Defect (Nested CharSet × List Char)
  | 0, _, _, _ => .error .unclosedClass
  | fuel + 1, level, outer, s =>
    match f.skip s with
    | [] => .error .unclosedClass
    | c :: s =>
      if c = '-' ∧ level.phase ≠ .items then
        readLevels f fuel { level.addChar c with phase := .hyphens } outer s
      else if c = ']' ∧ level.phase = .opening then
        readLevels f fuel (level.addChar c) outer s
      else if c = ']' then
        match level.close f, outer with
        | .error defect, _ => .error defect
        | .ok set, [] => .ok (set, s)
        | .ok set, around :: outer => readLevels f fuel (around.add set) outer s
      else if c = '[' then
        match asciiClass? s with
        | some (negated, set, s) =>
          match f.settle negated set with
          | .error defect => .error defect
          | .ok set => readLevels f fuel (level.add ⟨set, 0⟩) outer s
        | none =>
          let (inner, s) := openLevel f s
          readLevels f fuel inner (level :: outer) s
      else if c = '&' ∧ s.head? = some '&' then
        readLevels f fuel (level.operate f .both) outer s.tail
      else if c = '-' ∧ s.head? = some '-' then
        readLevels f fuel (level.operate f .without) outer s.tail
      else if c = '~' ∧ s.head? = some '~' then
        readLevels f fuel (level.operate f .oneOf) outer s.tail
      else
        match classEntry f (c :: s) with
        | .error defect => .error defect
        | .ok (set, s) => readLevels f fuel (level.add ⟨set, 0⟩) outer s

/-- The class whose notation follows an opening bracket, and what follows the class. -/
def bracketed (f : Flags) (s : List Char) : Except Defect (Nested CharSet × List Char) :=
  let (level, s) := openLevel f s
  readLevels f (s.length + 1) level [] s

end Lexis.Pattern
