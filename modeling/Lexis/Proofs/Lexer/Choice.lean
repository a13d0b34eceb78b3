import Lexis.Lexer.Stream
import Lexis.Proofs.Input.Lawful
import Lexis.Proofs.Pattern.Unopened

/-!
# Rounds of a lexer

A round has two halves. `Lexing.choose` looks at the input and moves nothing; `Lexing.fire` moves
past a match that the input holds, so that it cannot fail, and then depends on the input no more
(`react`).

Principal results:

* `Lexer.all_of_build`, `Lexer.proper_of_build` — what is known of the rules of a lexer;
* `Lexing.choose_of_unknown`, `Lexing.choose_of_fault`, `Lexing.choose_of_chunk` — how a rule is
  chosen;
* `Lexing.choose_ok`, `Lexing.choose_error` — what is known of a rule that is chosen, or of a fault;
* `Lexing.holds_of_choose` — the match of a rule that is chosen is held;
* `Lexing.fire_of_holds` — what a rule does to a run whose input holds the match;
* `Lexing.react_of_gives`, `Lexing.react_of_discards` — what becomes of a token that is given, and
  of a match that is discarded.
-/

namespace Lexis

open Pattern Text

variable {ι κ V : Type} [Chunk κ] [Input ι κ]

/-! ## Faults by their place in a round -/

/-- The faults that end a round before a rule fires. -/
inductive Fault.BeforeFiring : Fault → Prop where
  | noMatch (state excerpt : String) : BeforeFiring (.noMatch state excerpt)
  | unknownState (name : String) : BeforeFiring (.unknownState name)
  | undecodable (position : Nat) : BeforeFiring (.undecodable position)
  | unreadable (reason : String) : BeforeFiring (.unreadable reason)

/-- The faults that end a round after a rule has fired. -/
inductive Fault.AfterFiring : Fault → Prop where
  | windowExhausted (state : String) (window : Nat) : AfterFiring (.windowExhausted state window)
  | stalled (state : String) : AfterFiring (.stalled state)

/-- Whether a fault is that no rule can fire: the innermost state has no rules, none of them matches,
or bytes that are no text are in the way. -/
def Fault.isStuck : Fault → Bool
  | .noMatch _ _ => true
  | .unknownState _ => true
  | .undecodable _ => true
  | _ => false

theorem Fault.AfterFiring.isStuck_eq_false {fault : Fault} (h : fault.AfterFiring) :
    fault.isStuck = false := by
  cases h <;> rfl

/-! ## Rules -/

/-- A rule that matches where the window begins. -/
def Rule.Proper (rule : Rule V) : Prop :=
  rule.pattern.StartsInFront

/-- A lexer whose rules are all proper. -/
def Lexer.Proper (lexer : Lexer V) : Prop :=
  (∀ rule ∈ lexer.rules, rule.Proper) ∧ ∀ set ∈ lexer.stateRules, ∀ rule ∈ set.2, rule.Proper

/-- A lexer whose rules, those of its states among them, all have a property. -/
def Lexer.All (P : Rule V → Prop) (lexer : Lexer V) : Prop :=
  (∀ rule ∈ lexer.rules, P rule) ∧ ∀ set ∈ lexer.stateRules, ∀ rule ∈ set.2, P rule

theorem Rule.action_of_compile {source : String} {action : Action V} {rule : Rule V}
    (h : Rule.compile source action = .ok rule) : rule.action = action := by
  unfold Rule.compile at h
  cases hp : anchored source with
  | error fault =>
    rw [hp] at h
    cases h
  | ok pattern =>
    rw [hp] at h
    cases h
    rfl

theorem Rule.proper_of_compile {source : String} {action : Action V} {rule : Rule V}
    (hopened : ¬ClosesUnopened source) (h : Rule.compile source action = .ok rule) :
    rule.Proper := by
  unfold Rule.compile at h
  cases hp : anchored source with
  | error fault =>
    rw [hp] at h
    cases h
  | ok pattern =>
    rw [hp] at h
    cases h
    exact startsInFront_of_anchored hp hopened

/-- A declaration whose pattern, if it has one, closes no group that it has not opened, as none does
that is a pattern on its own. -/
def Declaration.Proper : Declaration V → Prop
  | .options _ => True
  | .rule source _ => ¬ClosesUnopened source
  | .stateRule _ source _ => ¬ClosesUnopened source

instance (d : Declaration V) : Decidable d.Proper :=
  match d with
  | .options _ => .isTrue trivial
  | .rule source _ => inferInstanceAs (Decidable (¬ClosesUnopened source))
  | .stateRule _ source _ => inferInstanceAs (Decidable (¬ClosesUnopened source))

/-- A declaration whose rule, if one comes of it, has the property. -/
def Declaration.Makes (P : Rule V → Prop) : Declaration V → Prop
  | .options _ => True
  | .rule source action => ∀ rule, Rule.compile source action = .ok rule → P rule
  | .stateRule _ source action => ∀ rule, Rule.compile source action = .ok rule → P rule

theorem Declaration.Proper.makes {d : Declaration V} (h : d.Proper) : d.Makes Rule.Proper := by
  cases d with
  | options o => trivial
  | rule source action => exact fun rule hrule => Rule.proper_of_compile h hrule
  | stateRule state source action => exact fun rule hrule => Rule.proper_of_compile h hrule

theorem mem_addStateRule {state : String} {rule : Rule V} : ∀ {sets : List (String × List (Rule V))}
    {set : String × List (Rule V)}, set ∈ addStateRule state rule sets →
      ∀ r ∈ set.2, r = rule ∨ ∃ old ∈ sets, r ∈ old.2
  | [], set, h, r, hr => by
    rw [List.mem_singleton.1 h] at hr
    exact Or.inl (List.mem_singleton.1 hr)
  | (name, rules) :: sets, set, h, r, hr => by
    unfold addStateRule at h
    split at h
    · rcases List.mem_cons.1 h with rfl | h
      · rcases List.mem_append.1 hr with hr | hr
        · exact Or.inr ⟨_, List.mem_cons_self, hr⟩
        · exact Or.inl (List.mem_singleton.1 hr)
      · exact Or.inr ⟨set, List.mem_cons_of_mem _ h, hr⟩
    · rcases List.mem_cons.1 h with rfl | h
      · exact Or.inr ⟨_, List.mem_cons_self, hr⟩
      · rcases mem_addStateRule h r hr with hr | ⟨old, hold, hr⟩
        · exact Or.inl hr
        · exact Or.inr ⟨old, List.mem_cons_of_mem _ hold, hr⟩

theorem mem_of_lookup {α : Type} {name : String} {a : α} : ∀ {l : List (String × α)},
    l.lookup name = some a → (name, a) ∈ l
  | [], h => by cases h
  | (key, b) :: l, h => by
    rw [List.lookup_cons] at h
    split at h
    · rename_i heq
      cases h
      rw [eq_of_beq heq]
      exact List.mem_cons_self
    · exact List.mem_cons_of_mem _ (mem_of_lookup h)

namespace Lexer

variable {P : Rule V → Prop} {lexer lexer' : Lexer V}

theorem All.addRule (h : lexer.All P) (state? : Option String) {rule : Rule V} (hrule : P rule) :
    (lexer.addRule state? rule).All P := by
  unfold Lexer.addRule
  cases state? with
  | none =>
    refine ⟨fun r hr => ?_, h.2⟩
    rcases List.mem_append.1 hr with hr | hr
    · exact h.1 r hr
    · rw [List.mem_singleton.1 hr]
      exact hrule
  | some state =>
    refine ⟨h.1, fun set hset r hr => ?_⟩
    rcases mem_addStateRule hset r hr with rfl | ⟨old, hold, hr⟩
    · exact hrule
    · exact h.2 old hold r hr

theorem All.declare (h : lexer.All P) {d : Declaration V} (hd : d.Makes P)
    (heq : lexer.declare d = .ok lexer') : lexer'.All P := by
  cases d with
  | options o =>
    cases heq
    exact h
  | rule source action =>
    unfold Lexer.declare at heq
    dsimp only at heq
    cases hrule : Rule.compile source action with
    | error fault =>
      rw [hrule] at heq
      cases heq
    | ok rule =>
      rw [hrule] at heq
      cases heq
      exact h.addRule none (hd rule hrule)
  | stateRule state source action =>
    unfold Lexer.declare at heq
    dsimp only at heq
    cases hrule : Rule.compile source action with
    | error fault =>
      rw [hrule] at heq
      cases heq
    | ok rule =>
      rw [hrule] at heq
      cases heq
      exact h.addRule (some state) (hd rule hrule)

theorem All.declareAll : ∀ {ds : List (Declaration V)} {lexer lexer' : Lexer V},
    lexer.All P → (∀ d ∈ ds, d.Makes P) → lexer.declareAll ds = .ok lexer' → lexer'.All P
  | [], _, _, h, _, heq => by
    cases heq
    exact h
  | d :: ds, lexer, lexer', h, hds, heq => by
    unfold Lexer.declareAll at heq
    split at heq
    · cases heq
    · rename_i declared hdeclared
      have hd := h.declare (hds d List.mem_cons_self) hdeclared
      exact hd.declareAll (fun d' hd' => hds d' (List.mem_cons_of_mem _ hd')) heq

/-- The rules of a lexer made by declarations have what the declarations give to each of them. -/
theorem all_of_build {ds : List (Declaration V)} (hds : ∀ d ∈ ds, d.Makes P)
    (h : build ds = .ok lexer) : lexer.All P := by
  have hempty : (Lexer.empty : Lexer V).All P :=
    ⟨fun _ hr => absurd hr List.not_mem_nil, fun _ hs => absurd hs List.not_mem_nil⟩
  exact hempty.declareAll hds h

theorem All.active (h : lexer.All P) {states : List String} {rules : List (Rule V)}
    (hactive : lexer.active states = .ok rules) : ∀ rule ∈ rules, P rule := by
  unfold Lexer.active at hactive
  split at hactive
  · cases hactive
    exact h.1
  · split at hactive
    · rename_i hlookup
      cases hactive
      exact h.2 _ (mem_of_lookup hlookup)
    · cases hactive

/-- A lexer is proper if its patterns close no groups that they have not opened. -/
theorem proper_of_build {ds : List (Declaration V)} (hds : ∀ d ∈ ds, d.Proper)
    (h : build ds = .ok lexer) : lexer.Proper :=
  all_of_build (fun d hd => (hds d hd).makes) h

theorem Proper.active (h : lexer.Proper) {states : List String} {rules : List (Rule V)}
    (hactive : lexer.active states = .ok rules) : ∀ rule ∈ rules, rule.Proper :=
  All.active h hactive

end Lexer

theorem Lexer.unknownState_of_active {lexer : Lexer V} {states : List String} {fault : Fault}
    (h : lexer.active states = .error fault) : ∃ name, fault = .unknownState name := by
  unfold Lexer.active at h
  split at h
  · cases h
  · split at h
    · cases h
    · cases h
      exact ⟨_, rfl⟩

/-- What the action of a chosen rule does in the states. -/
def Choice.reaction (choice : Choice V) (states : List String) : Reaction V :=
  choice.rule.action choice.found ⟨states, choice.base⟩

/-- The reaction gives no token that is kept. -/
def Reaction.Discards (r : Reaction V) : Prop :=
  ∀ token, r.token = some token → token.isIgnorable = true

/-! ## Choosing -/

namespace Lexing

/-- A rule that is chosen is one of the rules, and matches the window. -/
theorem select_ok {rules : List (Rule V)} {states : List String} {base : Nat} {text : List Char}
    {undecodable : Option Nat} {choice : Choice V}
    (h : select rules states base text undecodable = .ok choice) :
    choice.base = base ∧ choice.rule ∈ rules ∧
      choice.rule.pattern.match? text = some choice.found := by
  unfold select at h
  split at h
  · cases h
  · cases h
  · rename_i hfirst
    cases h
    exact ⟨rfl, mem_of_firstMatch? hfirst⟩
  · rename_i hfirst
    split at h
    · cases h
    · cases h
      exact ⟨rfl, mem_of_firstMatch? hfirst⟩

theorem select_error {rules : List (Rule V)} {states : List String} {base : Nat} {text : List Char}
    {undecodable : Option Nat} {fault : Fault}
    (h : select rules states base text undecodable = .error fault) :
    fault.BeforeFiring ∧ ∀ reason, fault ≠ .unreadable reason := by
  unfold select at h
  split at h
  · cases h
    exact ⟨.noMatch _ _, fun _ heq => by cases heq⟩
  · cases h
    exact ⟨.undecodable _, fun _ heq => by cases heq⟩
  · cases h
  · split at h
    · cases h
      exact ⟨.undecodable _, fun _ heq => by cases heq⟩
    · cases h

theorem choose_of_unknown {lexer : Lexer V} {run : Lexing ι} {fault : Fault}
    (h : lexer.active run.states = .error fault) : choose lexer run = (.error fault, run) := by
  unfold choose
  rw [h]

theorem choose_of_fault {lexer : Lexer V} {run : Lexing ι} {rules : List (Rule V)} {fault : Fault}
    {input : ι} (h : lexer.active run.states = .ok rules)
    (hpeek : Input.peek lexer.options.request run.input = (.error fault, input)) :
    choose lexer run = (.error fault, { run with input := input }) := by
  unfold choose
  rw [h]
  dsimp only
  rw [hpeek]

/-- A rule is chosen by the chunk alone, if there is one. -/
theorem choose_of_chunk {lexer : Lexer V} {run : Lexing ι} {rules : List (Rule V)} {chunk : κ}
    {input : ι} (h : lexer.active run.states = .ok rules)
    (hpeek : Input.peek lexer.options.request run.input = (.ok chunk, input)) :
    choose lexer run =
      (select rules run.states run.position
        (windowText chunk run.position (Chunk.units chunk < lexer.options.request)).1
        (windowText chunk run.position (Chunk.units chunk < lexer.options.request)).2,
        { run with input := input }) := by
  unfold choose
  rw [h]
  dsimp only
  rw [hpeek]

omit [Chunk κ] in
theorem choose_cases (lexer : Lexer V) (run : Lexing ι) :
    (∃ name, lexer.active run.states = .error (.unknownState name)) ∨
    ∃ rules, lexer.active run.states = .ok rules ∧
      ((∃ fault input, Input.peek lexer.options.request run.input = (.error fault, input)) ∨
      ∃ chunk input, Input.peek lexer.options.request run.input = (.ok chunk, input)) := by
  cases hactive : lexer.active run.states with
  | error fault =>
    obtain ⟨name, rfl⟩ := Lexer.unknownState_of_active hactive
    exact Or.inl ⟨name, rfl⟩
  | ok rules =>
    refine Or.inr ⟨rules, rfl, ?_⟩
    obtain ⟨answer, input, hpeek⟩ : ∃ answer input,
        Input.peek lexer.options.request run.input = (answer, input) := ⟨_, _, rfl⟩
    cases answer with
    | error fault => exact Or.inl ⟨fault, input, hpeek⟩
    | ok chunk => exact Or.inr ⟨chunk, input, hpeek⟩

theorem windowText_fst (chunk : κ) (base : Nat) (atEnd : Bool) :
    (windowText chunk base atEnd).1 = (Chunk.text chunk).1 := by
  unfold windowText
  dsimp only
  split <;> rfl

/-- A rule is chosen from a chunk at the cursor, whose text its pattern matches. -/
theorem choose_ok {lexer : Lexer V} {run run' : Lexing ι} {choice : Choice V}
    (h : choose lexer run = (.ok choice, run')) :
    run'.states = run.states ∧ choice.base = run.position ∧
      (∃ rules, lexer.active run.states = .ok rules ∧ choice.rule ∈ rules) ∧
      ∃ chunk : κ, Input.peek lexer.options.request run.input = (.ok chunk, run'.input) ∧
        choice.rule.pattern.match? (Chunk.text chunk).1 = some choice.found := by
  rcases choose_cases lexer run with
    ⟨name, hname⟩ | ⟨rules, hrules, ⟨fault, input, hpeek⟩ | ⟨chunk, input, hpeek⟩⟩
  · rw [choose_of_unknown hname] at h
    cases h
  · rw [choose_of_fault hrules hpeek] at h
    cases h
  · rw [choose_of_chunk hrules hpeek, Prod.mk.injEq] at h
    obtain ⟨hselect, rfl⟩ := h
    obtain ⟨hbase, hmem, hmatch⟩ := select_ok hselect
    rw [windowText_fst] at hmatch
    exact ⟨rfl, hbase, ⟨rules, hrules, hmem⟩, chunk, hpeek, hmatch⟩

theorem choose_error {lexer : Lexer V} {run run' : Lexing ι} {fault : Fault}
    (h : choose lexer run = (.error fault, run')) :
    run'.states = run.states ∧
      ((run' = run ∧ ∃ name, fault = .unknownState name) ∨
      (Input.peek lexer.options.request run.input = (.error fault, run'.input)) ∨
      ∃ chunk : κ, Input.peek lexer.options.request run.input = (.ok chunk, run'.input) ∧
        fault.BeforeFiring) := by
  rcases choose_cases lexer run with
    ⟨name, hname⟩ | ⟨rules, hrules, ⟨fault', input, hpeek⟩ | ⟨chunk, input, hpeek⟩⟩
  · rw [choose_of_unknown hname] at h
    cases h
    exact ⟨rfl, Or.inl ⟨rfl, name, rfl⟩⟩
  · rw [choose_of_fault hrules hpeek] at h
    cases h
    exact ⟨rfl, Or.inr (Or.inl hpeek)⟩
  · rw [choose_of_chunk hrules hpeek, Prod.mk.injEq] at h
    obtain ⟨hselect, rfl⟩ := h
    exact ⟨rfl, Or.inr (Or.inr ⟨chunk, hpeek, (select_error hselect).1⟩)⟩

/-- **The match of a rule that is chosen is held**, whichever rules the lexer has. -/
theorem holds_of_choose [LawfulChunk κ] [Sourced ι] [LawfulInput ι] {lexer : Lexer V}
    {run run' : Lexing ι} {choice : Choice V} (h : choose lexer run = (.ok choice, run')) :
    Input.Holds (unitsIn κ choice.found.whole) run'.input := by
  obtain ⟨-, -, -, chunk, hpeek, hmatch⟩ := choose_ok h
  refine LawfulInput.holds_of_peek hpeek _ (LawfulChunk.units_le chunk _ ?_)
  rw [← text_of_match? hmatch]
  exact choice.found.whole_sublist

/-! ## Firing -/

/-- What the action of a chosen rule makes of a round, and the states after it. -/
def react (lexer : Lexer V) (units : Nat) (choice : Choice V) (states : List String) :
    Round V × List String :=
  let reaction := choice.rule.action choice.found ⟨states, choice.base⟩
  let (states, changed) := Move.run false states reaction.moves
  let discarded : Round V :=
    if units = 0 ∧ changed = false then .answer (.error (.stalled (stateLabel states)))
    else .again
  let round : Round V :=
    match reaction.token with
    | none => discarded
    | some token =>
      if token.isIgnorable then discarded
      else if lexer.options.window < units then
        .answer (.error (.windowExhausted (stateLabel states) lexer.options.window))
      else .answer (.ok token)
  (round, states)

/-- **What a rule does to a run whose input holds the match.** -/
theorem fire_of_holds {lexer : Lexer V} {choice : Choice V} {run : Lexing ι}
    (h : Input.Holds (unitsIn κ choice.found.whole) run.input) :
    fire lexer choice run =
      ((react lexer (unitsIn κ choice.found.whole) choice run.states).1,
        ⟨Input.advance (unitsIn κ choice.found.whole) run.input,
          (react lexer (unitsIn κ choice.found.whole) choice run.states).2⟩) := by
  unfold fire
  dsimp only
  rw [Input.skip_of_holds h]
  rfl

theorem react_error {lexer : Lexer V} {units : Nat} {choice : Choice V} {states : List String}
    {fault : Fault} (h : (react lexer units choice states).1 = .answer (.error fault)) :
    fault.AfterFiring := by
  have hdiscarded : ∀ {c : Prop} [Decidable c] {label : String},
      (if c then Round.answer (V := V) (.error (.stalled label)) else .again) =
        .answer (.error fault) → fault.AfterFiring := by
    intro c _ label hc
    split at hc
    · cases hc
      exact .stalled _
    · cases hc
  unfold react at h
  dsimp only at h
  split at h
  · exact hdiscarded h
  · split at h
    · exact hdiscarded h
    · split at h
      · cases h
        exact .windowExhausted _ _
      · cases h

theorem react_token {lexer : Lexer V} {units : Nat} {choice : Choice V} {states : List String}
    {token : Token V} (h : (react lexer units choice states).1 = .answer (.ok token)) :
    (choice.rule.action choice.found ⟨states, choice.base⟩).token = some token := by
  have hdiscarded : ∀ {c : Prop} [Decidable c] {label : String},
      (if c then Round.answer (V := V) (.error (.stalled label)) else .again) ≠
        .answer (.ok token) := by
    intro c _ label hc
    split at hc <;> cases hc
  unfold react at h
  dsimp only at h
  split at h
  · exact absurd h hdiscarded
  · rename_i given hgiven
    split at h
    · exact absurd h hdiscarded
    · split at h
      · cases h
      · cases h
        exact hgiven

/-- **What becomes of a token that an action gives.** -/
theorem react_of_gives {lexer : Lexer V} {units : Nat} {choice : Choice V} {states : List String}
    {token : Token V}
    (h : (choice.rule.action choice.found ⟨states, choice.base⟩).token = some token)
    (hnamed : token.isIgnorable = false) :
    (react lexer units choice states).1 =
      if lexer.options.window < units then
        .answer (.error (.windowExhausted (stateLabel (react lexer units choice states).2)
          lexer.options.window))
      else .answer (.ok token) := by
  unfold react
  simp [h, hnamed]

/-- **What becomes of a match that is discarded.** An empty one stalls the run, unless the action
finds states to change. -/
theorem react_of_discards {lexer : Lexer V} {units : Nat} {choice : Choice V} {states : List String}
    (h : (choice.reaction states).Discards) :
    react lexer units choice states =
      (if units = 0 ∧ (Move.run false states (choice.reaction states).moves).2 = false then
        .answer (.error (.stalled
          (stateLabel (Move.run false states (choice.reaction states).moves).1)))
      else .again, (Move.run false states (choice.reaction states).moves).1) := by
  have hreaction : choice.rule.action choice.found ⟨states, choice.base⟩ = choice.reaction states :=
    rfl
  unfold react
  simp only [hreaction]
  cases hgiven : (choice.reaction states).token with
  | none => rfl
  | some token => simp [h token hgiven]

/-! ## Rounds up to an answer -/

theorem next_of_answer {lexer : Lexer V} {run run' : Lexing ι} {a : Except Fault (Token V)}
    (h : round lexer run = (.answer a, run')) (limit : Nat) :
    next lexer (limit + 1) run = (some a, run') := by
  rw [next, h]

theorem next_of_again {lexer : Lexer V} {run run' : Lexing ι}
    (h : round lexer run = (.again, run')) (limit : Nat) :
    next lexer (limit + 1) run = next lexer limit run' := by
  rw [next, h]

end Lexing

end Lexis
