import Lexis.Pattern.Basic
import Lexis.Proofs.Pattern.Search

/-!
# Patterns of simple shapes

What a search finds for patterns whose choices are settled by the next character: the end of the
text, one character of a set, one or more of them, one or more behind an optional sign, and a
character in a group behind another one. The threads of such a program are one or two at any
position, so a run is followed character by character.

Principal results:

* `Program.run_of_follow`, `Program.search_of_follow` — one position of a run of a pinned program;
* `Program.Loops.run` — a repetition runs to the end of the characters of its set;
* `Program.search_atEnd`, `Program.search_single`, `Program.search_oneOrMore`,
  `Program.search_signed`, `Program.search_pair` — the shapes;
* `match?_atEnd`, `match?_single`, `match?_oneOrMore`, `match?_signed`, `match?_pair` — the matches
  of patterns of these shapes.
-/

namespace Lexis.Pattern.Program

variable {p : Program} {threads : List Thread}

/-! ## One position -/

/-- Behind the first position a pinned program without threads keeps the match it has. -/
theorem run_nil (hp : p.pinned = true) {position : Nat} (hposition : 0 < position)
    (before : Option Char) (best : Option Hit) (rest : List Char) :
    p.run position before [] best rest = best := by
  have hne : position ≠ 0 := by omega
  rw [run.eq_def]
  simp [hp, hne]

/-- What a run goes on with behind a position: the threads that take the next character, and the
match so far. -/
def goOn (p : Program) (position : Nat) (best : Option Hit) (settled : List Thread × Option Hit) :
    List Char → Option Hit
  | [] => settled.2.or best
  | c :: rest =>
    p.run (position + 1) (some c) (settled.1.filterMap (Thread.take? p.code c)) (settled.2.or best)
      rest

/-- **One position of a run**, by where its threads are followed to. -/
theorem run_of_follow (hp : p.pinned = true) (hthreads : threads ≠ []) {position : Nat}
    {before : Option Char} {rest : List Char} {followed : List Thread}
    (hfollow : follow p.code ⟨position + 1, before, rest.head?⟩ (followFuel p.code threads) 0
      threads = followed) (best : Option Hit) :
    p.run (position + 1) before threads best rest =
      p.goOn (position + 1) best (settle p.code (position + 1) followed) rest := by
  rw [run.eq_def, ← hfollow]
  cases rest <;> simp [hp, hthreads, goOn]

theorem search_of_follow (hp : p.pinned = true) {text : List Char} {followed : List Thread}
    (hfollow : follow p.code ⟨0, none, text.head?⟩ (followFuel p.code [p.startAt 0]) 0
      [p.startAt 0] = followed) :
    p.search text = p.goOn 0 none (settle p.code 0 followed) text := by
  unfold search
  rw [run.eq_def, ← hfollow]
  cases text <;> simp [hp, goOn]

/-! ## Repetitions -/

/-- Behind the address is a repetition of the set with nothing behind it: another character, or the
end of the program. -/
structure Loops (p : Program) (address : Nat) (s : CharSet) : Prop where
  one : p.code[address]? = some (.one s)
  accept : p.code[address + 2]? = some .accept
  follow : ∀ place slots,
    follow p.code place (followFuel p.code [⟨address + 1, 0, slots⟩]) 0
      [⟨address + 1, 0, slots⟩] = [⟨address, 0, slots⟩, ⟨address + 2, 0, slots⟩]

/-- **A repetition runs to the end of the characters of its set.** -/
theorem Loops.run {address : Nat} {s : CharSet} (h : p.Loops address s) (hp : p.pinned = true)
    (slots : List (Option Nat)) (rest : List Char) : ∀ (position : Nat) (before : Option Char)
      (best : Option Hit), p.run (position + 1) before [⟨address + 1, 0, slots⟩] best rest =
        some ⟨0, position + 1 + (rest.takeWhile s.contains).length, slots⟩ := by
  induction rest with
  | nil =>
    intro position before best
    rw [run_of_follow hp (List.cons_ne_nil _ _) (h.follow _ slots)]
    simp [goOn, settle, h.one, h.accept]
  | cons c rest ih =>
    intro position before best
    rw [run_of_follow hp (List.cons_ne_nil _ _) (h.follow _ slots)]
    by_cases hc : s.contains c = true
    · have hnext := ih (position + 1) (some c) (some ⟨0, position + 1, slots⟩)
      simp only [goOn, settle, h.one, h.accept, List.filterMap_cons, List.filterMap_nil,
        Thread.take?, hc, if_true, Option.some_or, hnext, List.takeWhile_cons, List.length_cons]
      congr 2
      omega
    · have hdone := run_nil hp (Nat.succ_pos (position + 1)) (some c)
        (some ⟨0, position + 1, slots⟩) rest
      simpa [goOn, settle, h.one, h.accept, Thread.take?, hc] using hdone

/-! ## The shapes -/

/-- Nothing, at the end of the text. -/
def atEnd : Program := ⟨#[.look .textStart, .look .textEnd, .accept], 0, []⟩

def single (s : CharSet) : Program := ⟨#[.look .textStart, .one s, .accept], 0, []⟩

/-- One character of the set or more. -/
def oneOrMore (s : CharSet) : Program :=
  ⟨#[.look .textStart, .one s, .fork 1 3, .accept], 0, []⟩

/-- One character of the set or more, and perhaps a sign before them. -/
def signed (sign s : CharSet) : Program :=
  ⟨#[.look .textStart, .fork 2 3, .one sign, .one s, .fork 3 5, .accept], 0, []⟩

def pair (first second : CharSet) : Program :=
  ⟨#[.look .textStart, .one first, .save 0, .one second, .save 1, .accept], 1, []⟩

theorem search_atEnd (text : List Char) :
    atEnd.search text = if text = [] then some ⟨0, 0, []⟩ else none := by
  cases text with
  | nil => rfl
  | cons c rest =>
    have hfollow : follow atEnd.code ⟨0, none, some c⟩ (followFuel atEnd.code [atEnd.startAt 0]) 0
        [atEnd.startAt 0] = [] := by
      simp +decide [follow, followFuel, atEnd, startAt, Look.holds]
    have hsearch : atEnd.search (c :: rest) = atEnd.goOn 0 none (settle atEnd.code 0 []) (c :: rest) :=
      search_of_follow rfl hfollow
    rw [hsearch]
    exact run_nil rfl Nat.zero_lt_one (some c) none rest

theorem follow_single (s : CharSet) (after : Option Char) :
    follow (single s).code ⟨0, none, after⟩ (followFuel (single s).code [(single s).startAt 0]) 0
      [(single s).startAt 0] = [⟨1, 0, []⟩] := by
  simp +decide [follow, followFuel, single, startAt, Look.holds]

theorem search_single (s : CharSet) (text : List Char) :
    (single s).search text = if text.head?.any s.contains then some ⟨0, 1, []⟩ else none := by
  have hone : (single s).code[1]? = some (.one s) := rfl
  rw [search_of_follow rfl (follow_single s _)]
  cases text with
  | nil => simp [goOn, settle, hone]
  | cons c rest =>
    by_cases hc : s.contains c = true
    · have hfollow : follow (single s).code ⟨1, some c, rest.head?⟩
          (followFuel (single s).code [⟨2, 0, []⟩]) 0 [⟨2, 0, []⟩] = [⟨2, 0, []⟩] := by
        simp +decide [follow, followFuel, single]
      have haccept : (single s).code[2]? = some .accept := rfl
      have hrun := run_of_follow rfl (List.cons_ne_nil _ _) hfollow none
      cases rest with
      | nil => simp [goOn, settle, hone, haccept, Thread.take?, hc, hrun]
      | cons d rest =>
        have hdone := run_nil (p := single s) rfl Nat.zero_lt_two (some d) (some ⟨0, 1, []⟩) rest
        simp [goOn, settle, hone, haccept, Thread.take?, hc, hrun, hdone]
    · have hdone := run_nil (p := single s) rfl Nat.zero_lt_one (some c) none rest
      simp [goOn, settle, hone, Thread.take?, hc, hdone]

theorem search_oneOrMore (s : CharSet) (text : List Char) :
    (oneOrMore s).search text = if text.head?.any s.contains then
      some ⟨0, (text.takeWhile s.contains).length, []⟩ else none := by
  have hloops : (oneOrMore s).Loops 1 s :=
    ⟨rfl, rfl, fun _ _ => by simp +decide [follow, followFuel, oneOrMore]⟩
  have hfollow : follow (oneOrMore s).code ⟨0, none, text.head?⟩
      (followFuel (oneOrMore s).code [(oneOrMore s).startAt 0]) 0 [(oneOrMore s).startAt 0] =
        [⟨1, 0, []⟩] := by
    simp +decide [follow, followFuel, oneOrMore, startAt, Look.holds]
  rw [search_of_follow rfl hfollow]
  cases text with
  | nil => simp [goOn, settle, hloops.one]
  | cons c rest =>
    by_cases hc : s.contains c = true
    · simp [goOn, settle, hloops.one, Thread.take?, hc, hloops.run rfl, Nat.add_comm]
    · have hdone := run_nil (p := oneOrMore s) rfl Nat.zero_lt_one (some c) none rest
      simp [goOn, settle, hloops.one, Thread.take?, hc, hdone]

/-- Behind an optional sign all characters of the set are found, if there is one. No sign is in the
set, so that the first character settles which of the two threads goes on. -/
theorem search_signed {sign s : CharSet} (hsign : ∀ c, sign.contains c = true → s.contains c = false)
    (text : List Char) :
    (signed sign s).search text =
      let body := if text.head?.any sign.contains then text.tail else text
      if body.head?.any s.contains then
        some ⟨0, text.length - body.length + (body.takeWhile s.contains).length, []⟩
      else none := by
  have hloops : (signed sign s).Loops 3 s :=
    ⟨rfl, rfl, fun _ _ => by simp +decide [follow, followFuel, signed]⟩
  have htwo : (signed sign s).code[2]? = some (.one sign) := rfl
  have hfollow : follow (signed sign s).code ⟨0, none, text.head?⟩
      (followFuel (signed sign s).code [(signed sign s).startAt 0]) 0 [(signed sign s).startAt 0] =
        [⟨2, 0, []⟩, ⟨3, 0, []⟩] := by
    simp +decide [follow, followFuel, signed, startAt, Look.holds]
  rw [search_of_follow rfl hfollow]
  cases text with
  | nil => simp [goOn, settle, htwo, hloops.one]
  | cons c rest =>
    by_cases hc : sign.contains c = true
    · -- the sign is taken, and then the other thread stands before the repetition
      have hthree : follow (signed sign s).code ⟨1, some c, rest.head?⟩
          (followFuel (signed sign s).code [⟨3, 0, []⟩]) 0 [⟨3, 0, []⟩] = [⟨3, 0, []⟩] := by
        simp +decide [follow, followFuel, signed]
      have hrun := run_of_follow rfl (List.cons_ne_nil _ _) hthree none
      cases rest with
      | nil => simp [goOn, settle, htwo, hloops.one, Thread.take?, hc, hsign c hc, hrun]
      | cons d rest =>
        by_cases hd : s.contains d = true
        · have hdigits := hloops.run rfl [] rest 1 (some d) none
          simp [goOn, settle, htwo, hloops.one, Thread.take?, hc, hsign c hc, hrun, hd, hdigits]
          omega
        · have hdone := run_nil (p := signed sign s) rfl Nat.zero_lt_two (some d) none rest
          simp [goOn, settle, htwo, hloops.one, Thread.take?, hc, hsign c hc, hrun, hd, hdone]
    · by_cases hd : s.contains c = true
      · have hdigits := hloops.run rfl [] rest 0 (some c) none
        simp [goOn, settle, htwo, hloops.one, Thread.take?, hc, hd, hdigits, Nat.add_comm]
      · have hdone := run_nil (p := signed sign s) rfl Nat.zero_lt_one (some c) none rest
        simp [goOn, settle, htwo, hloops.one, Thread.take?, hc, hd, hdone]

theorem search_pair (first second : CharSet) (text : List Char) :
    (pair first second).search text =
      if text.head?.any first.contains && text.tail.head?.any second.contains then
        some ⟨0, 2, [some 1, some 2]⟩
      else none := by
  have hone : (pair first second).code[1]? = some (.one first) := rfl
  have hthree : (pair first second).code[3]? = some (.one second) := rfl
  have hfive : (pair first second).code[5]? = some .accept := rfl
  have hfollow : follow (pair first second).code ⟨0, none, text.head?⟩
      (followFuel (pair first second).code [(pair first second).startAt 0]) 0
        [(pair first second).startAt 0] = [⟨1, 0, [none, none]⟩] := by
    simp +decide [follow, followFuel, pair, startAt, Look.holds]
  rw [search_of_follow rfl hfollow]
  cases text with
  | nil => simp [goOn, settle, hone]
  | cons c rest =>
    by_cases hc : first.contains c = true
    · have hsave : follow (pair first second).code ⟨1, some c, rest.head?⟩
          (followFuel (pair first second).code [⟨2, 0, [none, none]⟩]) 0
            [⟨2, 0, [none, none]⟩] = [⟨3, 0, [some 1, none]⟩] := by
        simp +decide [follow, followFuel, pair]
      have hrun := run_of_follow rfl (List.cons_ne_nil _ _) hsave none
      cases rest with
      | nil => simp [goOn, settle, hone, hthree, Thread.take?, hc, hrun]
      | cons d rest =>
        by_cases hd : second.contains d = true
        · have hclose : follow (pair first second).code ⟨2, some d, rest.head?⟩
              (followFuel (pair first second).code [⟨4, 0, [some 1, none]⟩]) 0
                [⟨4, 0, [some 1, none]⟩] = [⟨5, 0, [some 1, some 2]⟩] := by
            simp +decide [follow, followFuel, pair]
          have hlast := run_of_follow rfl (List.cons_ne_nil _ _) hclose none
          cases rest with
          | nil =>
            simp [goOn, settle, hone, hthree, hfive, Thread.take?, hc, hrun, hd, hlast]
          | cons e rest =>
            have hdone := run_nil (p := pair first second) rfl (Nat.succ_pos 2) (some e)
              (some ⟨0, 2, [some 1, some 2]⟩) rest
            simp [goOn, settle, hone, hthree, hfive, Thread.take?, hc, hrun, hd, hlast, hdone]
        · have hdone := run_nil (p := pair first second) rfl Nat.zero_lt_two (some d) none rest
          simp [goOn, settle, hone, hthree, Thread.take?, hc, hrun, hd, hdone]
    · have hdone := run_nil (p := pair first second) rfl Nat.zero_lt_one (some c) none rest
      simp [goOn, settle, hone, Thread.take?, hc, hdone]

end Lexis.Pattern.Program

/-! ## Matches -/

namespace Lexis

@[simp] theorem Match.whole_of_front (text : List Char) (stop : Nat) (slots : List (Option Nat))
    (names : List (List Char × Nat)) : Match.whole ⟨text, ⟨0, stop, slots⟩, names⟩ = text.take stop :=
  rfl

namespace Pattern

variable {p : Pattern} {s : CharSet}

/-- A pattern has no match where its program finds nothing, and else the match there. -/
theorem match?_of_search {text : List Char} {hit? : Option Hit}
    (h : p.program.search text = hit?) :
    p.match? text = hit?.map fun hit => ⟨text, hit, p.program.names⟩ := by
  unfold match?
  rw [h]

theorem match?_atEnd (hp : p.program = .atEnd) (text : List Char) :
    p.match? text = if text = [] then some ⟨text, ⟨0, 0, []⟩, []⟩ else none := by
  rw [match?_of_search (by rw [hp, Program.search_atEnd]), hp]
  split <;> rfl

theorem match?_single (hp : p.program = .single s) (text : List Char) :
    p.match? text = if text.head?.any s.contains then some ⟨text, ⟨0, 1, []⟩, []⟩ else none := by
  rw [match?_of_search (by rw [hp, Program.search_single]), hp]
  split <;> rfl

theorem match?_oneOrMore (hp : p.program = .oneOrMore s) (text : List Char) :
    p.match? text = if text.head?.any s.contains then
      some ⟨text, ⟨0, (text.takeWhile s.contains).length, []⟩, []⟩ else none := by
  rw [match?_of_search (by rw [hp, Program.search_oneOrMore]), hp]
  split <;> rfl

theorem match?_signed {sign : CharSet} (hp : p.program = .signed sign s)
    (hsign : ∀ c, sign.contains c = true → s.contains c = false) (text : List Char) :
    p.match? text =
      let body := if text.head?.any sign.contains then text.tail else text
      if body.head?.any s.contains then
        some ⟨text, ⟨0, text.length - body.length + (body.takeWhile s.contains).length, []⟩, []⟩
      else none := by
  rw [match?_of_search (by rw [hp, Program.search_signed hsign]), hp]
  dsimp only
  split <;> split <;> rfl

theorem match?_pair {first second : CharSet} (hp : p.program = .pair first second)
    (text : List Char) :
    p.match? text = if text.head?.any first.contains && text.tail.head?.any second.contains then
      some ⟨text, ⟨0, 2, [some 1, some 2]⟩, []⟩ else none := by
  rw [match?_of_search (by rw [hp, Program.search_pair]), hp]
  split <;> rfl

end Pattern

end Lexis
