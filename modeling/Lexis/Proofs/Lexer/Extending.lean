import Lexis.Demo.Grammar
import Lexis.Proofs.Lexer.Agreement

/-!
# Lexers with more rules

Rules that are put behind the others of their set, and sets for states that had none, come into
play only where a run of the lexer without them is stuck: where the innermost state has no rules, or
none of them matches, or bytes that are no text are in the way. Up to there the two lexers choose
the same rules, of the same matches, and so their runs are the same, discarded matches among them;
also after faults of other kinds.

Principal results:

* `Lexer.extends_addRule`, `Lexer.extends_of_declareAll` — rules that are added;
* `Lexer.Extends.round`, `Lexer.Extends.next` — one round, and the rounds up to an answer;
* `Lexing.answers_of_extends` — any number of answers.
-/

namespace Lexis

open Pattern Text

variable {ι κ V : Type} [Chunk κ] [Input ι κ]

/-- The lexer has all rules of the other one, in the same order, and perhaps more rules behind those
of a set, and perhaps more sets. -/
structure Lexer.Extends (more lexer : Lexer V) : Prop where
  options : more.options = lexer.options
  rules : lexer.rules <+: more.rules
  stateRules : ∀ {state rules}, lexer.stateRules.lookup state = some rules →
    ∃ rules', more.stateRules.lookup state = some rules' ∧ rules <+: rules'

/-! ## Rules that are added -/

theorem lookup_addStateRule (state name : String) (rule : Rule V) :
    ∀ sets : List (String × List (Rule V)), (addStateRule state rule sets).lookup name =
      if name = state then some ((sets.lookup state).getD [] ++ [rule]) else sets.lookup name
  | [] => by
    by_cases hname : name = state
    · subst hname
      simp [addStateRule]
    · simp [addStateRule, List.lookup_cons, hname, beq_eq_false_iff_ne.2 hname]
  | (key, rules) :: sets => by
    have ih := lookup_addStateRule state name rule sets
    unfold addStateRule
    by_cases hkey : key = state
    · subst hkey
      by_cases hname : name = key
      · subst hname
        simp
      · simp [List.lookup_cons, hname, beq_eq_false_iff_ne.2 hname]
    · rw [if_neg hkey]
      by_cases hname : name = key
      · subst hname
        simp [hkey]
      · simp only [List.lookup_cons, beq_eq_false_iff_ne.2 hname,
          beq_eq_false_iff_ne.2 (Ne.symm hkey)]
        exact ih

namespace Lexer

variable {lexer more most : Lexer V}

theorem Extends.refl (lexer : Lexer V) : lexer.Extends lexer where
  options := rfl
  rules := List.prefix_rfl
  stateRules h := ⟨_, h, List.prefix_rfl⟩

theorem Extends.trans (h : most.Extends more) (h' : more.Extends lexer) : most.Extends lexer where
  options := h.options.trans h'.options
  rules := h'.rules.trans h.rules
  stateRules := by
    intro state rules hrules
    obtain ⟨rules₁, hrules₁, hfront₁⟩ := h'.stateRules hrules
    obtain ⟨rules₂, hrules₂, hfront₂⟩ := h.stateRules hrules₁
    exact ⟨rules₂, hrules₂, hfront₁.trans hfront₂⟩

/-- **One more rule**, of a state or of the default set. -/
theorem extends_addRule (lexer : Lexer V) (state? : Option String) (rule : Rule V) :
    (lexer.addRule state? rule).Extends lexer := by
  cases state? with
  | none =>
    refine ⟨rfl, List.prefix_append _ _, fun hrules => ⟨_, hrules, List.prefix_rfl⟩⟩
  | some state =>
    refine ⟨rfl, List.prefix_rfl, ?_⟩
    intro name rules hrules
    have hlookup := lookup_addStateRule state name rule lexer.stateRules
    by_cases hname : name = state
    · subst hname
      rw [if_pos rfl, hrules] at hlookup
      exact ⟨_, hlookup, List.prefix_append _ _⟩
    · rw [if_neg hname, hrules] at hlookup
      exact ⟨rules, hlookup, List.prefix_rfl⟩

theorem extends_of_declare {d : Declaration V} (hd : ∀ o, d ≠ .options o)
    (h : lexer.declare d = .ok more) : more.Extends lexer := by
  cases d with
  | options o => exact absurd rfl (hd o)
  | rule source action =>
    unfold Lexer.declare at h
    dsimp only at h
    split at h
    · cases h
    · cases h
      exact extends_addRule lexer none _
  | stateRule state source action =>
    unfold Lexer.declare at h
    dsimp only at h
    split at h
    · cases h
    · cases h
      exact extends_addRule lexer (some state) _

/-- **More declarations of rules** behind those that have made a lexer. -/
theorem extends_of_declareAll : ∀ {ds : List (Declaration V)} {lexer more : Lexer V},
    (∀ d ∈ ds, ∀ o, d ≠ .options o) → lexer.declareAll ds = .ok more → more.Extends lexer
  | [], lexer, _, _, h => by
    cases h
    exact .refl lexer
  | d :: ds, lexer, more, hds, h => by
    unfold Lexer.declareAll at h
    split at h
    · cases h
    · rename_i declared hdeclared
      have hd := extends_of_declare (hds d List.mem_cons_self) hdeclared
      exact (extends_of_declareAll (fun d' hd' => hds d' (List.mem_cons_of_mem _ hd')) h).trans hd

namespace Extends

theorem active (h : more.Extends lexer) {states : List String} {rules : List (Rule V)}
    (hactive : lexer.active states = .ok rules) :
    ∃ rest, more.active states = .ok (rules ++ rest) := by
  unfold Lexer.active at hactive ⊢
  split at hactive
  · cases hactive
    obtain ⟨rest, hrest⟩ := h.rules
    exact ⟨rest, by rw [hrest]⟩
  · split at hactive
    · rename_i rules' hrules
      cases hactive
      obtain ⟨_, hmore, rest, rfl⟩ := h.stateRules hrules
      exact ⟨rest, by rw [hmore]⟩
    · cases hactive

end Extends

end Lexer

/-! ## Rounds -/

/-- Rules behind others change a choice only where none of these can fire. -/
theorem Lexing.select_append (rules rest : List (Rule V)) (states : List String) (base : Nat)
    (text : List Char) (undecodable : Option Nat) :
    (∃ fault, select rules states base text undecodable = .error fault ∧ fault.isStuck = true) ∨
      select (rules ++ rest) states base text undecodable =
        select rules states base text undecodable := by
  cases hfirst : firstMatch? Rule.pattern text rules with
  | none =>
    left
    cases undecodable <;> simp [select, hfirst, Fault.isStuck]
  | some first =>
    right
    unfold select
    rw [hfirst, firstMatch?_append_of_some hfirst]

namespace Lexer.Extends

variable {lexer more : Lexer V}

theorem choose (h : more.Extends lexer) (run : Lexing ι) :
    (∃ fault after, Lexing.choose lexer run = (.error fault, after) ∧ fault.isStuck = true) ∨
      Lexing.choose more run = Lexing.choose lexer run := by
  have hrequest : more.options.request = lexer.options.request := by rw [h.options]
  rcases Lexing.choose_cases lexer run with
    ⟨name, hname⟩ | ⟨rules, hrules, ⟨fault, input, hpeek⟩ | ⟨chunk, input, hpeek⟩⟩
  · exact Or.inl ⟨_, _, Lexing.choose_of_unknown hname, rfl⟩
  · obtain ⟨rest, hrest⟩ := h.active hrules
    rw [← hrequest] at hpeek
    have hmore := Lexing.choose_of_fault hrest hpeek
    rw [hrequest] at hpeek
    exact Or.inr (hmore.trans (Lexing.choose_of_fault hrules hpeek).symm)
  · obtain ⟨rest, hrest⟩ := h.active hrules
    rw [← hrequest] at hpeek
    have hmore := Lexing.choose_of_chunk hrest hpeek
    rw [hrequest] at hpeek hmore
    have hless := Lexing.choose_of_chunk hrules hpeek
    rcases Lexing.select_append rules rest run.states run.position
        (windowText chunk run.position (Chunk.units chunk < lexer.options.request)).1
        (windowText chunk run.position (Chunk.units chunk < lexer.options.request)).2 with
      ⟨fault, hfault, hstuck⟩ | hsame
    · rw [hfault] at hless
      exact Or.inl ⟨fault, _, hless, hstuck⟩
    · rw [hsame] at hmore
      exact Or.inr (hmore.trans hless.symm)

theorem fire (h : more.Extends lexer) (choice : Choice V) (run : Lexing ι) :
    Lexing.fire more choice run = Lexing.fire lexer choice run := by
  unfold Lexing.fire
  rw [h.options]

theorem round (h : more.Extends lexer) (run : Lexing ι) :
    (∃ fault after, Lexing.round lexer run = (.answer (.error fault), after) ∧
      fault.isStuck = true) ∨ Lexing.round more run = Lexing.round lexer run := by
  unfold Lexing.round
  rcases h.choose run with ⟨fault, after, hchoose, hstuck⟩ | hsame
  · rw [hchoose]
    exact Or.inl ⟨fault, after, rfl, hstuck⟩
  · rw [hsame]
    right
    split
    · rfl
    · exact h.fire _ _

theorem next (h : more.Extends lexer) (limit : Nat) (run : Lexing ι) :
    (∃ fault after, Lexing.next lexer limit run = (some (.error fault), after) ∧
      fault.isStuck = true) ∨ Lexing.next more limit run = Lexing.next lexer limit run := by
  induction limit generalizing run with
  | zero => exact Or.inr rfl
  | succ limit ih =>
    rcases h.round run with ⟨fault, after, hround, hstuck⟩ | hsame
    · exact Or.inl ⟨fault, after, Lexing.next_of_answer hround limit, hstuck⟩
    · obtain ⟨outcome, after, hround⟩ :
          ∃ outcome after, Lexing.round lexer run = (outcome, after) := ⟨_, _, rfl⟩
      rw [hround] at hsame
      cases outcome with
      | answer a =>
        right
        rw [Lexing.next_of_answer hsame, Lexing.next_of_answer hround]
      | again =>
        rw [Lexing.next_of_again hsame, Lexing.next_of_again hround]
        exact ih after

end Lexer.Extends

/-! ## Answers -/

/-- Whether an answer is that no rule can fire. -/
def endsStuck {α : Type} : Except Fault α → Bool
  | .ok _ => false
  | .error fault => fault.isStuck

/-- **Added rules come into play only where a run is stuck.** Up to the first such answer of the
lexer without them the answers are the same, each with the run after it; and if there is none, all
is the same. -/
theorem Lexing.answers_of_extends {more lexer : Lexer V} (h : more.Extends lexer)
    (limit count : Nat) (run : Lexing ι) :
    (answers lexer limit count run).1.takeWhile (!endsStuck ·.1) <+:
      (answers more limit count run).1 ∧
    ((∀ a ∈ (answers lexer limit count run).1, endsStuck a.1 = false) →
      answers more limit count run = answers lexer limit count run) := by
  induction count generalizing run with
  | zero => exact ⟨List.nil_prefix, fun _ => rfl⟩
  | succ count ih =>
    rcases h.next limit run with ⟨fault, after, hnext, hstuck⟩ | hsame
    · rw [answers_of_some hnext]
      constructor
      · rw [List.takeWhile_cons_of_neg (by simp [endsStuck, hstuck])]
        exact List.nil_prefix
      · intro hnone
        have hfine : fault.isStuck = false := hnone _ List.mem_cons_self
        rw [hstuck] at hfine
        cases hfine
    · obtain ⟨answer, after, hnext⟩ : ∃ answer after, next lexer limit run = (answer, after) :=
        ⟨_, _, rfl⟩
      rw [hnext] at hsame
      cases answer with
      | none =>
        rw [answers_of_none hnext, answers_of_none hsame]
        exact ⟨List.nil_prefix, fun _ => rfl⟩
      | some a =>
        obtain ⟨hfront, hall⟩ := ih after
        rw [answers_of_some hnext, answers_of_some hsame]
        constructor
        · by_cases ha : endsStuck a = true
          · rw [List.takeWhile_cons_of_neg (by simp [ha])]
            exact List.nil_prefix
          · rw [List.takeWhile_cons_of_pos (by simp [ha])]
            exact (List.prefix_cons_inj _).2 hfront
        · intro hnone
          rw [hall fun b hb => hnone b (List.mem_cons_of_mem _ hb)]

/-- Letters are words. -/
def Demo.letters : List (Declaration Value) :=
  [.rule "[a-z]" (giving fun m => ⟨some "WORD", wholeText m⟩)]

/-- Letters and digits are signs, and in a state of their own they are dropped. -/
def Demo.signs : List (Declaration Value) :=
  [.rule "[a-z0-9]" (giving fun m => ⟨some "SIGN", wholeText m⟩),
    .stateRule "silent" "[a-z0-9]" discarding]

/-- A letter stays a word where signs are added behind words; a digit, at which a run without them is
stuck, becomes a sign. -/
theorem Lexing.answers_of_extends_signs : ∃ lexer more, Lexer.build Demo.letters = .ok lexer ∧
    lexer.declareAll Demo.signs = .ok more ∧ more.Extends lexer ∧
    (answers lexer 1 2 (start (TextCursor.ofText ['a', '1']) [])).1.map (·.1.toOption) =
      [some ⟨some "WORD", .text "a"⟩, none] ∧
    (answers more 1 2 (start (TextCursor.ofText ['a', '1']) [])).1.map (·.1.toOption) =
      [some ⟨some "WORD", .text "a"⟩, some ⟨some "SIGN", .text "1"⟩] ∧
    (answers lexer 1 2 (start (TextCursor.ofText ['a', '1']) [])).1.takeWhile (!endsStuck ·.1) <+:
      (answers more 1 2 (start (TextCursor.ofText ['a', '1']) [])).1 := by
  have hanswers : (Lexer.build Demo.letters).toOption.bind (fun lexer =>
      (lexer.declareAll Demo.signs).toOption.map fun more =>
        ((answers lexer 1 2 (start (TextCursor.ofText ['a', '1']) [])).1.map (·.1.toOption),
          (answers more 1 2 (start (TextCursor.ofText ['a', '1']) [])).1.map (·.1.toOption))) =
      some ([some ⟨some "WORD", .text "a"⟩, none],
        [some ⟨some "WORD", .text "a"⟩, some ⟨some "SIGN", .text "1"⟩]) := by
    decide +kernel
  cases hlexer : Lexer.build Demo.letters with
  | error fault =>
    rw [hlexer] at hanswers
    cases hanswers
  | ok lexer =>
    cases hmore : lexer.declareAll Demo.signs with
    | error fault =>
      rw [hlexer] at hanswers
      dsimp only [Except.toOption, Option.bind_some] at hanswers
      rw [hmore] at hanswers
      cases hanswers
    | ok more =>
      rw [hlexer] at hanswers
      dsimp only [Except.toOption, Option.bind_some] at hanswers
      rw [hmore] at hanswers
      obtain ⟨hless, hall⟩ := Prod.mk.inj (Option.some.inj hanswers)
      have hextends : more.Extends lexer := by
        refine Lexer.extends_of_declareAll ?_ hmore
        intro d hd o
        rcases List.mem_cons.1 hd with rfl | hd
        · nofun
        · rw [List.mem_singleton.1 hd]
          nofun
      exact ⟨lexer, more, rfl, hmore, hextends, hless, hall,
        (answers_of_extends hextends 1 2 (start (TextCursor.ofText ['a', '1']) [])).1⟩

end Lexis
