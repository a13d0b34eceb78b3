import Lexis.Pattern.Program

/-!
# Searching with a program

The threads of a program run side by side over the text, in order of preference. At each position
the threads are first followed through everything that takes no character; of two threads at one
address only the preferred one lives on. Then a thread that accepts ends all those behind it and is
the match so far, and the others take the next character or die. As long as there is no match, a new
thread starts at each position, behind all others; so the match found is the leftmost one, and among
those the preferred one.
-/

namespace Lexis.Pattern

/-- A run of the program up to some position. -/
structure Thread where
  /-- The address of the next instruction. -/
  address : Nat
  /-- The position at which the match would begin. -/
  start : Nat
  /-- The positions kept so far. -/
  slots : List (Option Nat)
  deriving DecidableEq, Repr

/-- A match: where it begins and ends, and the positions kept for its groups. -/
structure Hit where
  start : Nat
  stop : Nat
  slots : List (Option Nat)
  deriving DecidableEq, Repr

/-- A position between two characters. -/
structure Place where
  position : Nat
  before : Option Char
  after : Option Char

/-- Follows threads, given in order of preference, to the instructions that take a character or
accept. `seen` has a bit for each address that is reached already. -/
def follow (code : Array Instr) (p : Place) :
    (fuel : Nat) → (seen : Nat) → List Thread → List Thread
  | 0, _, _ => []
  | _ + 1, _, [] => []
  | fuel + 1, seen, t :: work =>
    if seen.testBit t.address then follow code p fuel seen work
    else
      let seen := seen ||| 1 <<< t.address
      match code[t.address]? with
      | none => follow code p fuel seen work
      | some .accept => t :: follow code p fuel seen work
      | some (.one _) => t :: follow code p fuel seen work
      | some (.jump target) => follow code p fuel seen ({ t with address := target } :: work)
      | some (.fork preferred other) =>
        follow code p fuel seen
          ({ t with address := preferred } :: { t with address := other } :: work)
      | some (.look l) =>
        if l.holds p.before p.after then
          follow code p fuel seen ({ t with address := t.address + 1 } :: work)
        else follow code p fuel seen work
      | some (.save slot) =>
        follow code p fuel seen
          ({ t with
              address := t.address + 1
              slots := t.slots.set slot (some p.position) } :: work)

/-- Steps enough to follow all threads: each one given, and two for each address. -/
def followFuel (code : Array Instr) (threads : List Thread) : Nat :=
  threads.length + 2 * code.size + 1

/-- What the threads make of a position: those before the first one that accepts, and the match of
that one. -/
def settle (code : Array Instr) (position : Nat) : List Thread → List Thread × Option Hit
  | [] => ([], none)
  | t :: threads =>
    match code[t.address]? with
    | some .accept => ([], some ⟨t.start, position, t.slots⟩)
    | _ =>
      let (live, hit) := settle code position threads
      (t :: live, hit)

/-- The thread after a character, if its instruction takes it. -/
def Thread.take? (code : Array Instr) (c : Char) (t : Thread) : Option Thread :=
  match code[t.address]? with
  | some (.one s) => if s.contains c then some { t with address := t.address + 1 } else none
  | _ => none

namespace Program

/-- A thread that starts at the position. -/
def startAt (p : Program) (position : Nat) : Thread :=
  ⟨0, position, List.replicate (2 * p.groups) none⟩

/-- Runs threads over the rest of the text, with the match so far. -/
def run (p : Program) :
    (position : Nat) → (before : Option Char) → List Thread → Option Hit → List Char → Option Hit
  | position, before, threads, best, rest =>
    let begins := best.isNone && (position == 0 || !p.pinned)
    let threads := if begins then threads ++ [p.startAt position] else threads
    if threads.isEmpty && (best.isSome || p.pinned) then best
    else
      let followed :=
        follow p.code ⟨position, before, rest.head?⟩ (followFuel p.code threads) 0 threads
      let (live, hit) := settle p.code position followed
      let best := hit.or best
      match rest with
      | [] => best
      | c :: rest =>
        run p (position + 1) (some c) (live.filterMap (Thread.take? p.code c)) best rest

/-- The leftmost match in the text, the preferred one of those. -/
def search (p : Program) (text : List Char) : Option Hit :=
  p.run 0 none [] none text

end Program

end Lexis.Pattern
