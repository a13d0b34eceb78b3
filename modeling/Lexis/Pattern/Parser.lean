import Lexis.Pattern.Bracket

/-!
# Reading patterns

A pattern is read item by item: each `Reading.item` takes at least one character and leaves a new
`Reading`, which holds the alternatives and pieces of the innermost open group and, for each group
around it, what goes on after that group. `parse` gives the expression and the names of the groups.
-/

namespace Lexis.Pattern

open Text

/-- A piece of an alternative. A change of flags stands among the pieces because nothing may repeat
it. -/
inductive Piece where
  | expr (e : Nested Expr)
  | flags
  deriving DecidableEq, Repr

def Piece.expr? : Piece → Option Expr
  | expr e => some e.part
  | flags => none

/-- The depth of a piece. -/
def Piece.depth : Piece → Nat
  | expr e => e.depth
  | flags => 0

/-- An open group: its index, if it captures, and what goes on after it. -/
structure Frame where
  index? : Option Nat
  branches : List (Nested Expr)
  pieces : List Piece
  flags : Flags

/-- A pattern read up to some place. -/
structure Reading where
  flags : Flags
  /-- The alternatives before the current one, last first. -/
  branches : List (Nested Expr)
  /-- The pieces of the current alternative, last first. -/
  pieces : List Piece
  /-- The groups that are open, innermost first. -/
  frames : List Frame
  /-- How many capturing groups are opened so far. -/
  groups : Nat
  /-- The names of groups, with their indexes. -/
  names : List (List Char × Nat)

/-- A pattern that is read. -/
structure Parsed where
  expr : Expr
  names : List (List Char × Nat)

namespace Reading

def initial : Reading := ⟨.initial, [], [], [], 0, []⟩

def push (r : Reading) (e : Nested Expr) : Reading :=
  { r with pieces := .expr e :: r.pieces }

/-- The current alternative. -/
def branch (r : Reading) : Nested Expr :=
  ⟨.sequence (r.pieces.filterMap Piece.expr?), depthOf (r.pieces.map Piece.depth)⟩

/-- What is read of the innermost open group. -/
def body (r : Reading) : Nested Expr :=
  let branches := r.branch :: r.branches
  ⟨.choice (branches.map Nested.part), depthOf (branches.map Nested.depth)⟩

def pushLook (r : Reading) (l : Look) : Reading :=
  r.push ⟨.look l, 0⟩

def pushSet (r : Reading) (s : CharSet) : Except Defect Reading :=
  (r.flags.allow s).map fun s => r.push ⟨.one s, 0⟩

def pushChar (r : Reading) (c : Char) : Reading :=
  r.push ⟨.one (r.flags.fold (.single c)), 0⟩

def pushDot (r : Reading) : Except Defect Reading :=
  if r.flags.dotAll then r.pushSet .everything
  else if r.flags.crlf then r.pushSet (.compl (.union (.single '\n') (.single '\r')))
  else r.pushSet (.compl (.single '\n'))

def pushEscaped (r : Reading) : Escaped → Except Defect Reading
  | .char c => .ok (r.pushChar c)
  | .byte c => (r.flags.allowChar c).map r.pushChar
  | .set s => r.pushSet s
  | .look l => .ok (r.pushLook l)

/-- The reading after a repetition sign, which applies to the last piece. -/
def repeatLast (r : Reading) (least : Nat) (most : Option Nat) (lazy : Bool) :
    Except Defect Reading :=
  match r.pieces with
  | .expr e :: pieces =>
    let e := ⟨e.part.times least most (lazy == r.flags.lazy), e.depth + 1⟩
    .ok { r with pieces := .expr e :: pieces }
  | _ => .error .nothingToRepeat

/-- The reading after a bar. -/
def nextBranch (r : Reading) : Reading :=
  { r with branches := r.branch :: r.branches, pieces := [] }

/-- The reading after the opening of a group in which the given flags hold. -/
def enter (r : Reading) (index? : Option Nat) (flags : Flags) : Reading :=
  { r with
    flags := flags
    branches := []
    pieces := []
    frames := ⟨index?, r.branches, r.pieces, r.flags⟩ :: r.frames }

/-- The reading after the opening of the next capturing group. -/
def openCapture (r : Reading) : Reading :=
  { r.enter (some (r.groups + 1)) r.flags with groups := r.groups + 1 }

/-- The reading after the closing of a group. -/
def leave (r : Reading) : Except Defect Reading :=
  match r.frames with
  | [] => .error .unopenedGroup
  | frame :: frames =>
    let e := match frame.index? with
      | some index => .group index r.body.part
      | none => r.body.part
    .ok { r with
      flags := frame.flags
      branches := frame.branches
      pieces := .expr ⟨e, r.body.depth + 1⟩ :: frame.pieces
      frames := frames }

end Reading

/-- A question mark that makes a repetition lazy. -/
def lazyMark : List Char → Bool × List Char
  | '?' :: s => (true, s)
  | s => (false, s)

/-- A count of a repetition: digits, with white space around them. -/
def count? (s : List Char) : Option Nat :=
  let digits := ((s.dropWhile isSpace).reverse.dropWhile isSpace).reverse
  if digits ≠ [] ∧ digits.all Char.isDigit then
    let n := digits.foldl (fun n c => n * 10 + (c.toNat - '0'.toNat)) 0
    if n < UInt32.size then some n else none
  else none

/-- The counts between the braces of a repetition. -/
def counts? (s : List Char) : Option (Nat × Option Nat) :=
  match s.dropWhile (· != ',') with
  | [] => (count? s).map fun n => (n, some n)
  | _ :: upper =>
    match count? (s.takeWhile (· != ',')) with
    | none => none
    | some least =>
      if upper = [] then some (least, none)
      else
        match count? upper with
        | none => none
        | some most => if least ≤ most then some (least, some most) else none

/-- Whether the character can stand at the start of the name of a group. -/
def isNameStart (c : Char) : Bool :=
  c == '_' || isAlphabetic c

/-- Whether the character can stand in the name of a group. -/
def isNamePart (c : Char) : Bool :=
  c == '_' || c == '.' || c == '[' || c == ']' || isAlphabetic c || isNumber c

/-- The name before the next angle bracket, and what follows it. -/
def groupName (s : List Char) : Except Defect (List Char × List Char) :=
  let name := s.takeWhile (· != '>')
  match s.drop name.length with
  | [] => .error .badGroupName
  | _ :: rest =>
    if name.head?.any isNameStart && name.all isNamePart then .ok (name, rest)
    else .error .badGroupName

namespace Reading

/-- Reads the opening of a named group, from its name on. -/
def openNamed (r : Reading) (s : List Char) : Except Defect (Reading × List Char) :=
  match groupName s with
  | .error defect => .error defect
  | .ok (name, s) =>
    if (r.names.lookup name).isSome then .error (.duplicateName name)
    else
      let r := r.openCapture
      .ok ({ r with names := r.names ++ [(name, r.groups)] }, s)

/-- Reads flags and what is at their end: the parenthesis after which they hold up to the end of the
group, or the colon that opens a group in which they hold. -/
def openFlags (r : Reading) (s : List Char) : Except Defect (Reading × List Char) :=
  match FlagList.read ⟨r.flags, [], false, false⟩ s with
  | .error defect => .error defect
  | .ok (l, true, s) =>
    if l.seen = [] then .error .nothingToRepeat
    else .ok ({ r with flags := l.flags, pieces := .flags :: r.pieces }, s)
  | .ok (l, false, s) => .ok (r.enter none l.flags, s)

/-- Reads what follows an opening parenthesis. -/
def openGroup (r : Reading) (s : List Char) : Except Defect (Reading × List Char) :=
  match r.flags.skip s with
  | '?' :: '=' :: _ => .error .lookAround
  | '?' :: '!' :: _ => .error .lookAround
  | '?' :: '<' :: '=' :: _ => .error .lookAround
  | '?' :: '<' :: '!' :: _ => .error .lookAround
  | '?' :: 'P' :: '<' :: s => r.openNamed s
  | '?' :: '<' :: s => r.openNamed s
  | '?' :: s => r.openFlags s
  | s => .ok (r.openCapture, s)

/-- Reads a repetition sign, from what follows it on. -/
def repeatSign (r : Reading) (least : Nat) (most : Option Nat) (s : List Char) :
    Except Defect (Reading × List Char) :=
  let (lazy, s) := lazyMark s
  (r.repeatLast least most lazy).map fun r => (r, s)

/-- Reads a repetition with counts, from what follows its brace on. -/
def repeatCounted (r : Reading) (s : List Char) : Except Defect (Reading × List Char) :=
  match untilBrace r.flags.blanks false s with
  | none => .error .badCount
  | some (inner, s) =>
    match counts? inner with
    | none => .error .badCount
    | some (least, most) => r.repeatSign least most (r.flags.skip s)

/-- Reads the item that begins with the character. -/
def item (r : Reading) (c : Char) (s : List Char) : Except Defect (Reading × List Char) :=
  match c with
  | '(' => r.openGroup s
  | ')' => r.leave.map fun r => (r, s)
  | '|' => .ok (r.nextBranch, s)
  | '[' =>
    match bracketed r.flags s with
    | .error defect => .error defect
    | .ok (set, s) => .ok (r.push ⟨.one set.part, set.depth⟩, s)
  | '?' => r.repeatSign 0 (some 1) s
  | '*' => r.repeatSign 0 none s
  | '+' => r.repeatSign 1 none s
  | '\x7b' => r.repeatCounted s
  | '\\' =>
    match escape r.flags s with
    | .error defect => .error defect
    | .ok (e, s) => (r.pushEscaped e).map fun r => (r, s)
  | '.' => r.pushDot.map fun r => (r, s)
  | '^' =>
    .ok (r.pushLook (if r.flags.multiLine then .lineStart r.flags.crlf else .textStart), s)
  | '$' =>
    .ok (r.pushLook (if r.flags.multiLine then .lineEnd r.flags.crlf else .textEnd), s)
  | c => .ok (r.pushChar c, s)

/-- Reads items to the end. -/
def items : (fuel : Nat) → Reading → List Char → Except Defect Reading
  | 0, r, _ => .ok r
  | fuel + 1, r, s =>
    match r.flags.skip s with
    | [] => .ok r
    | c :: s =>
      match r.item c s with
      | .error defect => .error defect
      | .ok (r, s) => items fuel r s

/-- The pattern, if all its groups are closed and it is not nested too deeply. -/
def finish (r : Reading) : Except Defect Parsed :=
  match r.frames with
  | [] => if nestLimit < r.body.depth then .error .tooDeep else .ok ⟨r.body.part, r.names⟩
  | _ :: _ => .error .unclosedGroup

end Reading

/-- The pattern that the text writes. -/
def parse (s : List Char) : Except Defect Parsed :=
  match Reading.initial.items (s.length + 1) s with
  | .error defect => .error defect
  | .ok r => r.finish

end Lexis.Pattern
