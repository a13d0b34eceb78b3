import Lexis.Proofs.Input.Advancing
import Lexis.Proofs.Reader.Account

/-!
# Reading comes to an end

To read a construct is a loop over its rules, and a handler may have another construct read before
the loop goes on. Nothing bounds how deep constructs are attached. But a turn of the loop with another
one behind it has moved the cursor, or the loop stalls; and a construct that is attached begins behind
the cursor, if a rule that attaches one has matched something. So what is left of the text bounds both
the turns of each loop and the depth of the loops inside each other, whatever the handlers gather and
whatever they make of faults; and a round for each character that is left, and one more, are enough
for an answer.

A turn is looked at in two halves: what it begins with, which is a handler behind a match, and what
the reader makes of the outcome of the handler.

Principal results:

* `Reader.read_succ` — reading by its turns;
* `Reader.read_forward` — the cursor does not go back;
* `Reader.read_answers`, `Reader.read_mono` — so many rounds are enough, and more change nothing;
* `Reader.turns_le`, `Reader.within_le` — how often a loop turns and how deep it is;
* `Reader.read_settles` — over a text and over any source.
-/

namespace Lexis

open Pattern Text

variable {σ v ι : Type}

/-- The handler may have another construct read. -/
def Handling.Attaches : Handling σ v → Prop
  | .finish _ => False
  | .locate k => ∃ position, (k position).Attaches
  | .attach _ _ _ => True

/-- What a turn of the loop over the rules of a construct ends with. -/
inductive Turn (σ v : Type) where
  /-- Reading is over, with an answer unless the rounds that are allowed brought none. -/
  | ends (answer : Option (Except Fault v))
  /-- There is another turn, on top of what is gathered. -/
  | more (gathered : σ)

/-- A construct that is being read. -/
structure Activation where
  construct : Nat
  /-- Where the cursor is when it begins. -/
  position : Nat
  /-- How many constructs are being read then, itself among them. -/
  depth : Nat
  /-- How often its loop turns. -/
  turns : Nat
  deriving DecidableEq, Repr

namespace Reader

/-- A rule whose handler may have another construct read then has matched something. It is so where
the pattern of such a rule never gives an empty match. -/
def AttachesBehindText (r : Reader σ v) : Prop :=
  ∀ number, ∀ rule ∈ (r.construct number).rules, ∀ gathered text found,
    rule.1.match? text = some found → (rule.2 gathered found).Attaches → found.whole ≠ []

variable [Input ι (List Char)]

/-! ## Turns -/

/-- What a turn begins with: the handler of the first rule that matches, behind its match. -/
def opening (r : Reader σ v) (number : Nat) (gathered : σ) (input : ι) :
    Except Fault (Handling σ v) × ι :=
  match Input.peek r.window input with
  | (.error fault, input) => (.error fault, input)
  | (.ok window, input) =>
    match choose (r.construct number) window with
    | .error fault => (.error fault, input)
    | .ok (handler, found) =>
      match Input.skip (unitsIn (List Char) found.whole) input with
      | (.error fault, input) => (.error fault, input)
      | (.ok _, input) => (.ok (handler gathered found), input)

/-- What the reader makes of the outcome of a handler, in a turn that begins at `base`. -/
def closing (name : String) (base : Nat) :
    Option (Except Fault (Step v × σ)) × ι → Turn σ v × ι
  | (none, input) => (.ends none, input)
  | (some (.error fault), input) => (.ends (some (.error fault)), input)
  | (some (.ok (.done value, _)), input) => (.ends (some (.ok value)), input)
  | (some (.ok (.more, gathered)), input) =>
    if Input.position input = base then (.ends (some (.error (.stalled name))), input)
    else (.more gathered, input)

/-- One turn, with the way to read a construct. -/
def turn (r : Reader σ v) (read : Nat → σ → ι → Option (Except Fault v) × ι) (number : Nat)
    (gathered : σ) (input : ι) : Turn σ v × ι :=
  match r.opening number gathered input with
  | (.error fault, behind) => (.ends (some (.error fault)), behind)
  | (.ok handling, behind) =>
    closing (r.construct number).name (Input.position input) (handle read handling behind)

/-- The reader is through with a construct, and without an answer only if the handler has no outcome;
or there is another turn, at another place than this one. -/
theorem closing_cases (name : String) (base : Nat) (outcome : Option (Except Fault (Step v × σ)))
    (after : ι) :
    (∃ answer, closing name base (outcome, after) = (.ends answer, after) ∧
      (answer = none → outcome = none)) ∨
    ∃ gathered, closing name base (outcome, after) = (.more gathered, after) ∧
      Input.position after ≠ base := by
  cases outcome with
  | none => exact Or.inl ⟨none, rfl, fun _ => rfl⟩
  | some result =>
    cases result with
    | error fault => exact Or.inl ⟨some (.error fault), rfl, fun heq => by cases heq⟩
    | ok ended =>
      obtain ⟨step, gathered⟩ := ended
      cases step with
      | done value => exact Or.inl ⟨some (.ok value), rfl, fun heq => by cases heq⟩
      | more =>
        simp only [closing]
        split
        · exact Or.inl ⟨some (.error (.stalled name)), rfl, fun heq => by cases heq⟩
        · rename_i hmoved
          exact Or.inr ⟨gathered, rfl, hmoved⟩

/-- **Reading by its turns.** -/
theorem read_succ (r : Reader σ v) (limit number : Nat) (gathered : σ) (input : ι) :
    r.read (limit + 1) number gathered input =
      match r.turn (r.read limit) number gathered input with
      | (.ends answer, input) => (answer, input)
      | (.more gathered, input) => r.read limit number gathered input := by
  rw [read]
  unfold turn opening
  obtain ⟨peeked, input₁, hpeek⟩ : ∃ peeked input₁, Input.peek r.window input = (peeked, input₁) :=
    ⟨_, _, rfl⟩
  rw [hpeek]
  cases peeked with
  | error fault => rfl
  | ok window =>
    dsimp only
    cases choose (r.construct number) window with
    | error fault => rfl
    | ok chosen =>
      obtain ⟨handler, found⟩ := chosen
      dsimp only
      obtain ⟨skipped, input₂, hskip⟩ : ∃ skipped input₂,
          Input.skip (unitsIn (List Char) found.whole) input₁ = (skipped, input₂) := ⟨_, _, rfl⟩
      rw [hskip]
      cases skipped with
      | error fault => rfl
      | ok count =>
        dsimp only
        obtain ⟨outcome, input₃, hhandle⟩ : ∃ outcome input₃,
            handle (r.read limit) (handler gathered found) input₂ = (outcome, input₃) :=
          ⟨_, _, rfl⟩
        rw [hhandle]
        cases outcome with
        | none => rfl
        | some result =>
          cases result with
          | error fault => rfl
          | ok ended =>
            obtain ⟨step, gathered'⟩ := ended
            cases step with
            | done value => rfl
            | more =>
              simp only [closing]
              split <;> rfl

/-- How often the loop of a construct turns. -/
def turns (r : Reader σ v) : (limit : Nat) → Nat → σ → ι → Nat
  | 0, _, _, _ => 0
  | limit + 1, number, gathered, input =>
    match r.turn (r.read limit) number gathered input with
    | (.ends _, _) => 1
    | (.more gathered, input) => r.turns limit number gathered input + 1

/-- The constructs that are read while a handler is carried out, with what to note of each of
them. -/
def handleActivations (read : Nat → σ → ι → Option (Except Fault v) × ι)
    (note : Nat → σ → ι → List Activation) : Handling σ v → ι → List Activation
  | .finish _, _ => []
  | .locate k, input => handleActivations read note (k (Input.position input)) input
  | .attach construct gathered k, input =>
    note construct gathered input ++
      match read construct gathered input with
      | (none, _) => []
      | (some answer, input) => handleActivations read note (k answer) input

/-- The constructs that are attached, at whichever depth, while one at the given depth is read. -/
def within (r : Reader σ v) : (limit depth : Nat) → Nat → σ → ι → List Activation
  | 0, _, _, _, _ => []
  | limit + 1, depth, number, gathered, input =>
    (match r.opening number gathered input with
      | (.error _, _) => []
      | (.ok handling, behind) =>
        handleActivations (r.read limit) (fun attached gathered input =>
          ⟨attached, Input.position input, depth + 1, r.turns limit attached gathered input⟩ ::
            r.within limit (depth + 1) attached gathered input) handling behind) ++
      match r.turn (r.read limit) number gathered input with
      | (.ends _, _) => []
      | (.more gathered, input) => r.within limit depth number gathered input

/-- The constructs that are read when a reader is asked for one: this one, and all those that are
attached. -/
def activations (r : Reader σ v) (limit number : Nat) (gathered : σ) (input : ι) :
    List Activation :=
  ⟨number, Input.position input, 1, r.turns limit number gathered input⟩ ::
    r.within limit 1 number gathered input

/-! ## The cursor does not go back -/

/-- Reading leaves the cursor where it is or moves it on. -/
def Forward (Sane : ι → Prop) (read : Nat → σ → ι → Option (Except Fault v) × ι) : Prop :=
  ∀ number gathered input, Sane input → Sane (read number gathered input).2 ∧
    Input.position input ≤ Input.position (read number gathered input).2

section

variable {Sane : ι → Prop} {total : Nat} {r : Reader σ v}
  {read : Nat → σ → ι → Option (Except Fault v) × ι}

theorem handle_forward (hread : Forward Sane read) (handling : Handling σ v) : ∀ input, Sane input →
    Sane (handle read handling input).2 ∧
      Input.position input ≤ Input.position (handle read handling input).2 := by
  induction handling with
  | finish outcome => exact fun input hinput => ⟨hinput, Nat.le_refl _⟩
  | locate k ih => exact fun input hinput => ih (Input.position input) input hinput
  | attach construct gathered k ih =>
    intro input hinput
    have hforward := hread construct gathered input hinput
    unfold handle
    generalize read construct gathered input = out at hforward
    obtain ⟨answer, after⟩ := out
    obtain ⟨hafter, hle⟩ := hforward
    cases answer with
    | none => exact ⟨hafter, hle⟩
    | some answer =>
      obtain ⟨hlast, hle'⟩ := ih answer after hafter
      exact ⟨hlast, Nat.le_trans hle hle'⟩

variable [Sourced ι] [LawfulInput ι]

/-- **What a turn begins with**: a fault at the cursor, or the handler of a rule behind its match. -/
theorem opening_cases (h : Bounds total Sane) (number : Nat) (gathered : σ) {input : ι}
    (hinput : Sane input) :
    (∃ fault behind, r.opening number gathered input = (.error fault, behind) ∧ Sane behind ∧
      Input.position behind = Input.position input) ∨
    ∃ rule ∈ (r.construct number).rules, ∃ text found behind,
      rule.1.match? text = some found ∧
      r.opening number gathered input = (.ok (rule.2 gathered found), behind) ∧ Sane behind ∧
      Input.position behind = Input.position input + found.whole.length := by
  unfold opening
  obtain ⟨peeked, after, hpeek⟩ : ∃ peeked after, Input.peek r.window input = (peeked, after) :=
    ⟨_, _, rfl⟩
  obtain ⟨hafter, hposition⟩ := h.advances.peek hinput hpeek
  rw [hpeek]
  cases peeked with
  | error fault => exact Or.inl ⟨fault, after, rfl, hafter, hposition⟩
  | ok window =>
    dsimp only
    unfold choose
    cases hfirst : firstMatch? Prod.fst window (r.construct number).rules with
    | none =>
      dsimp only
      split
      · rename_i fault hfault
        exact Or.inl ⟨fault, after, rfl, hafter, hposition⟩
      · rename_i handler found hchosen
        split at hchosen <;> cases hchosen
    | some chosen =>
      obtain ⟨rule, found⟩ := chosen
      obtain ⟨hmem, hmatch⟩ := mem_of_firstMatch? hfirst
      -- the match is in the window, which the input holds
      have hshort : found.whole.length ≤ window.length := by
        rw [← text_of_match? hmatch]
        exact found.whole_sublist.length_le
      have hheld : Input.Holds (unitsIn (List Char) found.whole) after :=
        LawfulInput.holds_of_peek hpeek _ hshort
      obtain ⟨hbehind, hmoved⟩ := h.advances.advance hafter hheld
      refine Or.inr ⟨rule, hmem, window, found, _, hmatch, ?_, hbehind, ?_⟩
      · simp only [Input.skip_of_holds hheld]
      · rw [hmoved, hposition]
        rfl

/-- A turn leaves the cursor where it is or moves it on; with another one behind it, it has moved the
cursor. -/
theorem turn_forward (h : Bounds total Sane) (hread : Forward Sane read) (number : Nat)
    (gathered : σ) {input : ι} (hinput : Sane input) :
    Sane (r.turn read number gathered input).2 ∧
    Input.position input ≤ Input.position (r.turn read number gathered input).2 ∧
    ∀ gathered', (r.turn read number gathered input).1 = .more gathered' →
      Input.position input < Input.position (r.turn read number gathered input).2 := by
  unfold turn
  rcases opening_cases (r := r) h number gathered hinput with
    ⟨fault, behind, hopening, hbehind, hposition⟩ |
      ⟨rule, -, text, found, behind, -, hopening, hbehind, hposition⟩
  · rw [hopening]
    exact ⟨hbehind, Nat.le_of_eq hposition.symm, fun gathered' heq => by cases heq⟩
  · rw [hopening]
    dsimp only
    obtain ⟨hafter, hle⟩ := handle_forward hread (rule.2 gathered found) behind hbehind
    generalize handle read (rule.2 gathered found) behind = out at hafter hle
    obtain ⟨outcome, after⟩ := out
    have hon : Input.position input ≤ Input.position after := by
      dsimp only at hle
      omega
    rcases closing_cases (r.construct number).name (Input.position input) outcome after with
      ⟨answer, hclosing, -⟩ | ⟨gathered', hclosing, hmoved⟩
    · rw [hclosing]
      exact ⟨hafter, hon, fun gathered' heq => by cases heq⟩
    · rw [hclosing]
      exact ⟨hafter, hon, fun _ _ => Nat.lt_of_le_of_ne hon (Ne.symm hmoved)⟩

/-- **The cursor does not go back.** -/
theorem read_forward (h : Bounds total Sane) (r : Reader σ v) (limit : Nat) :
    Forward Sane (r.read (ι := ι) limit) := by
  induction limit with
  | zero => exact fun number gathered input hinput => ⟨hinput, Nat.le_refl _⟩
  | succ limit ih =>
    intro number gathered input hinput
    have hturn := turn_forward (r := r) h ih number gathered hinput
    rw [read_succ]
    generalize r.turn (r.read limit) number gathered input = out at hturn
    obtain ⟨ended, after⟩ := out
    obtain ⟨hafter, hle, -⟩ := hturn
    cases ended with
    | ends answer => exact ⟨hafter, hle⟩
    | more gathered' =>
      obtain ⟨hlast, hle'⟩ := ih number gathered' after hafter
      exact ⟨hlast, Nat.le_trans hle hle'⟩

/-! ## Enough rounds -/

omit [Sourced ι] [LawfulInput ι] in
/-- A handler has an outcome if what it attaches, behind the cursor, is read with an answer. -/
theorem handle_answers (hread : Forward Sane read) (handling : Handling σ v) : ∀ input, Sane input →
    (handling.Attaches → ∀ number gathered behind, Sane behind →
      Input.position input ≤ Input.position behind → (read number gathered behind).1 ≠ none) →
    (handle read handling input).1 ≠ none := by
  induction handling with
  | finish outcome =>
    intro input _ _ hnone
    cases hnone
  | locate k ih =>
    intro input hinput hattached
    exact ih _ input hinput fun hattaches => hattached ⟨_, hattaches⟩
  | attach construct gathered k ih =>
    intro input hinput hattached
    have hanswer := hattached trivial construct gathered input hinput (Nat.le_refl _)
    have hforward := hread construct gathered input hinput
    unfold handle
    generalize read construct gathered input = out at hanswer hforward
    obtain ⟨answer, after⟩ := out
    cases answer with
    | none => exact absurd rfl hanswer
    | some answer =>
      apply ih answer after hforward.1
      intro _ number gathered' behind hbehind hle
      exact hattached trivial number gathered' behind hbehind (Nat.le_trans hforward.2 hle)

/-- A turn ends within the rounds if they are enough for all constructs behind the cursor. -/
theorem turn_answers (h : Bounds total Sane) (hr : r.AttachesBehindText)
    (hread : Forward Sane read) (number : Nat) (gathered : σ) {input : ι} (hinput : Sane input)
    (hbehind : ∀ number gathered behind, Sane behind →
      Input.position input < Input.position behind → (read number gathered behind).1 ≠ none) :
    (r.turn read number gathered input).1 ≠ .ends none := by
  unfold turn
  rcases opening_cases (r := r) h number gathered hinput with
    ⟨fault, after, hopening, -, -⟩ | ⟨rule, hmem, text, found, after, hmatch, hopening, hafter, hon⟩
  · rw [hopening]
    intro heq
    cases heq
  · rw [hopening]
    dsimp only
    have houtcome : (handle read (rule.2 gathered found) after).1 ≠ none := by
      apply handle_answers hread _ after hafter
      intro hattaches number' gathered' behind hsane hle
      -- the match is not empty, so that what is attached begins behind this turn
      have hpos := List.length_pos_iff.2 (hr number rule hmem gathered text found hmatch hattaches)
      exact hbehind number' gathered' behind hsane (by omega)
    generalize handle read (rule.2 gathered found) after = out at houtcome
    obtain ⟨outcome, last⟩ := out
    rcases closing_cases (r.construct number).name (Input.position input) outcome last with
      ⟨answer, hclosing, hnone⟩ | ⟨gathered', hclosing, -⟩
    · rw [hclosing]
      intro heq
      cases heq
      exact houtcome (hnone rfl)
    · rw [hclosing]
      intro heq
      cases heq

/-- **A round for each character that is left, and one more, are enough.** -/
theorem read_answers (h : Bounds total Sane) (hr : r.AttachesBehindText) (limit number : Nat)
    (gathered : σ) (input : ι) (hinput : Sane input)
    (hlimit : total - Input.position input < limit) :
    (r.read limit number gathered input).1 ≠ none := by
  induction limit generalizing number gathered input with
  | zero => omega
  | succ limit ih =>
    have hforward := turn_forward (r := r) h (read_forward h r limit) number gathered hinput
    have hanswer : (r.turn (r.read limit) number gathered input).1 ≠ .ends none := by
      apply turn_answers h hr (read_forward h r limit) number gathered hinput
      intro number' gathered' behind hbehind hlt
      have hinside := h.position_le hbehind
      exact ih number' gathered' behind hbehind (by omega)
    rw [read_succ]
    generalize r.turn (r.read limit) number gathered input = out at hforward hanswer
    obtain ⟨ended, after⟩ := out
    obtain ⟨hafter, -, hmoved⟩ := hforward
    cases ended with
    | ends answer =>
      rintro rfl
      exact hanswer rfl
    | more gathered' =>
      have hlt : Input.position input < Input.position after := hmoved gathered' rfl
      have hinside : Input.position after ≤ total := h.position_le hafter
      exact ih number gathered' after hafter (by omega)

/-! ## More rounds -/

/-- The second way to read gives the answers that the first one gives, if it gives any. -/
def Extends (read read' : Nat → σ → ι → Option (Except Fault v) × ι) : Prop :=
  ∀ number gathered input, (read number gathered input).1 ≠ none →
    read' number gathered input = read number gathered input

section

variable {read' : Nat → σ → ι → Option (Except Fault v) × ι}

omit [Sourced ι] [LawfulInput ι] in
theorem handle_mono (hread : Extends read read') (handling : Handling σ v) : ∀ input,
    (handle read handling input).1 ≠ none →
      handle read' handling input = handle read handling input := by
  induction handling with
  | finish outcome => exact fun input _ => rfl
  | locate k ih => exact fun input hsome => ih _ input hsome
  | attach construct gathered k ih =>
    intro input hsome
    have hsame := hread construct gathered input
    unfold handle at hsome ⊢
    generalize read construct gathered input = out at hsome hsame
    obtain ⟨answer, after⟩ := out
    cases answer with
    | none => exact absurd rfl hsome
    | some answer =>
      rw [hsame (by simp)]
      exact ih answer after hsome

omit [Sourced ι] [LawfulInput ι] in
theorem turn_mono (hread : Extends read read') (number : Nat) (gathered : σ) (input : ι)
    (hsome : (r.turn read number gathered input).1 ≠ .ends none) :
    r.turn read' number gathered input = r.turn read number gathered input := by
  unfold turn at hsome ⊢
  generalize r.opening number gathered input = opened at hsome
  obtain ⟨outcome, behind⟩ := opened
  cases outcome with
  | error fault => rfl
  | ok handling =>
    dsimp only at hsome ⊢
    have hsame := handle_mono hread handling behind
    rw [hsame]
    intro hnone
    generalize handle read handling behind = out at hsome hnone
    obtain ⟨outcome, after⟩ := out
    dsimp only at hnone
    rw [hnone] at hsome
    exact hsome rfl

end

omit [Sourced ι] [LawfulInput ι] in
theorem read_extends (r : Reader σ v) (limit : Nat) :
    Extends (r.read (ι := ι) limit) (r.read (limit + 1)) := by
  induction limit with
  | zero => exact fun number gathered input hsome => absurd rfl hsome
  | succ limit ih =>
    intro number gathered input hsome
    rw [read_succ] at hsome
    rw [read_succ r (limit + 1), read_succ r limit]
    have hturn : (r.turn (r.read limit) number gathered input).1 ≠ .ends none := by
      intro hnone
      generalize r.turn (r.read limit) number gathered input = out at hsome hnone
      obtain ⟨ended, after⟩ := out
      dsimp only at hnone
      rw [hnone] at hsome
      exact hsome rfl
    rw [turn_mono ih number gathered input hturn]
    generalize r.turn (r.read limit) number gathered input = out at hsome
    obtain ⟨ended, after⟩ := out
    cases ended with
    | ends answer => rfl
    | more gathered' => exact ih number gathered' after hsome

omit [Sourced ι] [LawfulInput ι] in
theorem read_mono (r : Reader σ v) {limit limit' : Nat} (hle : limit ≤ limit') :
    Extends (r.read (ι := ι) limit) (r.read limit') := by
  induction hle with
  | refl => exact fun number gathered input _ => rfl
  | step hle ih =>
    intro number gathered input hsome
    have hsame := ih number gathered input hsome
    rw [← hsame] at hsome
    rw [read_extends r _ number gathered input hsome, hsame]

/-! ## How often loops turn and how deep they are -/

/-- **A loop turns** no more often than there are characters left, and once. -/
theorem turns_le (h : Bounds total Sane) (r : Reader σ v) (limit number : Nat) (gathered : σ)
    (input : ι) (hinput : Sane input) :
    r.turns limit number gathered input ≤ total - Input.position input + 1 := by
  induction limit generalizing gathered input with
  | zero => exact Nat.zero_le _
  | succ limit ih =>
    have hforward := turn_forward (r := r) h (read_forward h r limit) number gathered hinput
    unfold turns
    generalize r.turn (r.read limit) number gathered input = out at hforward
    obtain ⟨ended, after⟩ := out
    obtain ⟨hafter, -, hmoved⟩ := hforward
    cases ended with
    | ends answer => exact Nat.le_add_left 1 _
    | more gathered' =>
      have hlt : Input.position input < Input.position after := hmoved gathered' rfl
      have hinside : Input.position after ≤ total := h.position_le hafter
      have hrest := ih gathered' after hafter
      dsimp only
      omega

omit [Sourced ι] [LawfulInput ι] in
theorem mem_handleActivations (hread : Forward Sane read) {note : Nat → σ → ι → List Activation}
    {a : Activation} (handling : Handling σ v) : ∀ input, Sane input →
      a ∈ handleActivations read note handling input →
      handling.Attaches ∧ ∃ number gathered behind, Sane behind ∧
        Input.position input ≤ Input.position behind ∧ a ∈ note number gathered behind := by
  induction handling with
  | finish outcome =>
    intro input _ hmem
    cases hmem
  | locate k ih =>
    intro input hinput hmem
    obtain ⟨hattaches, hnoted⟩ := ih _ input hinput hmem
    exact ⟨⟨_, hattaches⟩, hnoted⟩
  | attach construct gathered k ih =>
    intro input hinput hmem
    refine ⟨trivial, ?_⟩
    unfold handleActivations at hmem
    rcases List.mem_append.1 hmem with hmem | hmem
    · exact ⟨construct, gathered, input, hinput, Nat.le_refl _, hmem⟩
    · have hforward := hread construct gathered input hinput
      generalize read construct gathered input = out at hmem hforward
      obtain ⟨answer, after⟩ := out
      cases answer with
      | none => cases hmem
      | some answer =>
        obtain ⟨-, number, gathered', behind, hbehind, hle, hnoted⟩ :=
          ih answer after hforward.1 hmem
        exact ⟨number, gathered', behind, hbehind, Nat.le_trans hforward.2 hle, hnoted⟩

/-- **A construct that is attached** begins behind one character at least for each construct that it
is inside of, and its loop turns no more often than there are characters left then, and once. -/
theorem within_le (h : Bounds total Sane) (hr : r.AttachesBehindText) (limit depth number : Nat)
    (gathered : σ) (input : ι) (hinput : Sane input) {a : Activation}
    (ha : a ∈ r.within limit depth number gathered input) :
    a.depth + Input.position input ≤ depth + a.position ∧ a.position ≤ total ∧
      a.turns ≤ total - a.position + 1 := by
  induction limit generalizing depth number gathered input with
  | zero => cases ha
  | succ limit ih =>
    unfold within at ha
    rcases List.mem_append.1 ha with ha | ha
    · rcases opening_cases (r := r) h number gathered hinput with
        ⟨fault, behind, hopening, -, -⟩ |
          ⟨rule, hmem, text, found, behind, hmatch, hopening, hbehind, hposition⟩
      · rw [hopening] at ha
        cases ha
      · rw [hopening] at ha
        obtain ⟨hattaches, number', gathered', start, hstart, hle, ha⟩ :=
          mem_handleActivations (read_forward h r limit) _ behind hbehind ha
        have hpos := List.length_pos_iff.2
          (hr number rule hmem gathered text found hmatch hattaches)
        rcases List.mem_cons.1 ha with rfl | ha
        · refine ⟨?_, h.position_le hstart, turns_le h r limit number' gathered' start hstart⟩
          dsimp only
          omega
        · obtain ⟨hdepth, hrest⟩ := ih (depth + 1) number' gathered' start hstart ha
          exact ⟨by omega, hrest⟩
    · have hforward := turn_forward (r := r) h (read_forward h r limit) number gathered hinput
      generalize r.turn (r.read limit) number gathered input = out at ha hforward
      obtain ⟨ended, after⟩ := out
      obtain ⟨hafter, hle, -⟩ := hforward
      cases ended with
      | ends answer => cases ha
      | more gathered' =>
        obtain ⟨hdepth, hrest⟩ := ih depth number gathered' after hafter ha
        dsimp only at hle
        exact ⟨by omega, hrest⟩

end

/-! ## Readers of texts -/

/-- What holds of reading a construct, over an input of so many characters. -/
structure Settles (r : Reader σ v) (total : Nat) (Sane : ι → Prop) (number : Nat) (gathered : σ)
    (input : ι) : Prop where
  /-- There is an answer, and the cursor is in its place for the next construct. -/
  answer : ∃ a after, Sane after ∧ ∀ limit, total - Input.position input < limit →
    r.read limit number gathered input = (some a, after)
  /-- The loop of each construct that is read turns once, and once more for each character that is
  left when it begins, at most. -/
  turns : ∀ limit, ∀ a ∈ r.activations limit number gathered input,
    a.turns ≤ total - a.position + 1
  /-- Constructs are not attached inside each other more deeply than there are characters left. -/
  depth : ∀ limit, ∀ a ∈ r.activations limit number gathered input,
    a.depth ≤ total - Input.position input + 1

theorem settles_of_bounds [Sourced ι] [LawfulInput ι] {Sane : ι → Prop} {total : Nat}
    (h : Bounds total Sane) {r : Reader σ v} (hr : r.AttachesBehindText) (number : Nat)
    (gathered : σ) {input : ι} (hinput : Sane input) :
    Settles r total Sane number gathered input where
  answer := by
    have hanswer := read_answers h hr (total - Input.position input + 1) number gathered input
      hinput (Nat.lt_succ_self _)
    have hafter := (read_forward h r (total - Input.position input + 1) number gathered input
      hinput).1
    have hmore : ∀ limit, total - Input.position input < limit →
        r.read limit number gathered input =
          r.read (total - Input.position input + 1) number gathered input :=
      fun limit hlimit => read_mono r hlimit number gathered input hanswer
    generalize r.read (total - Input.position input + 1) number gathered input = out at *
    obtain ⟨answer, after⟩ := out
    cases answer with
    | none => exact absurd rfl hanswer
    | some answer => exact ⟨answer, after, hafter, hmore⟩
  turns := by
    intro limit a ha
    rcases List.mem_cons.1 ha with rfl | ha
    · exact turns_le h r limit number gathered input hinput
    · exact (within_le h hr limit 1 number gathered input hinput ha).2.2
  depth := by
    intro limit a ha
    rcases List.mem_cons.1 ha with rfl | ha
    · exact Nat.le_add_left 1 _
    · obtain ⟨hdepth, hinside, -⟩ := within_le h hr limit 1 number gathered input hinput ha
      omega

/-- **Reading comes to an end** if a rule that attaches a construct never gives an empty match: over a
text and over any source, whatever is gathered and whatever handlers make of faults. -/
theorem read_settles {r : Reader σ v} (hr : r.AttachesBehindText) (number : Nat) (gathered : σ) :
    (∀ text done cursor, TextCursor.At text done cursor →
      Settles r text.length (fun c => ∃ done, TextCursor.At text done c) number gathered cursor) ∧
    ∀ source done input, BufferedText.At source done input →
      Settles r (decode source.bytes).1.length (fun i => ∃ done, BufferedText.At source done i)
        number gathered input := by
  constructor
  · intro text done cursor hcursor
    exact settles_of_bounds (TextCursor.bounds text) hr number gathered ⟨done, hcursor⟩
  · intro source done input hinput
    exact settles_of_bounds (BufferedText.bounds source) hr number gathered ⟨done, hinput⟩

theorem attachesBehindText_nested : nested.AttachesBehindText := by
  have hsingle : ∀ {p : Pattern} {s : CharSet}, p.program = .single s → ∀ {text found},
      p.match? text = some found → found.whole ≠ [] := by
    intro p s hp text found hmatch
    rw [match?_single hp] at hmatch
    split at hmatch
    · rename_i hany
      cases hmatch
      rw [Match.whole_of_front]
      cases text with
      | nil => simp at hany
      | cons c rest => simp
    · cases hmatch
  intro number rule hrule gathered text found hmatch _
  rcases List.mem_cons.1 hrule with rfl | hrule
  · exact hsingle rfl hmatch
  · rw [List.mem_singleton.1 hrule] at hmatch
    exact hsingle rfl hmatch

/-- Two lists inside each other, and then the end of the text inside the list that is asked for: the
turns of each loop and how deep it is. -/
theorem read_settles_nested :
    let text := "(())".toList
    nested.AttachesBehindText ∧
      Settles nested text.length (fun c => ∃ done, TextCursor.At text done c) 0 0
        (TextCursor.ofText text) ∧
      nested.activations 5 0 0 (TextCursor.ofText text) =
        [⟨0, 0, 1, 2⟩, ⟨0, 1, 2, 2⟩, ⟨0, 2, 3, 1⟩] :=
  ⟨attachesBehindText_nested,
    (read_settles attachesBehindText_nested 0 0).1 "(())".toList [] _ (TextCursor.at_ofText _),
    by decide +kernel⟩

end Reader

end Lexis
