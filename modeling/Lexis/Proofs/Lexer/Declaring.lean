import Lexis.Proofs.Lexer.Accepting
import Lexis.Proofs.Lexer.Extending
import Lexis.Proofs.Lexer.Firing

/-!
# Declarations by rule set

The order of declarations counts within a set of rules only. What declarations make of a lexer is
told by the rules of each set, in order, and by the options that come last: lexers with the same of
both run alike, however the declarations of the sets are mixed and however the table of the sets is
laid out. And the first declaration whose pattern is refused is the fault of them all.

Principal results:

* `Lexer.Groups.declareAll`, `Lexer.Groups.addSources` — what lexers are made of;
* `Lexer.SameRules.calls`, `Lexer.Groups.alike` — lexers that run alike;
* `accepted_or_refused`, `Lexer.declareAll_refused` — the first pattern that is refused;
* `Lexer.builds_by_sets` — the lexers that declarations build.
-/

namespace Lexis

open Pattern

variable {ι κ V : Type} [Chunk κ] [Input ι κ]

/-! ## Sets of rules -/

/-- The rule that a declaration adds, if it adds one: its set, which for the default set has no
name, its pattern as it is written, and its action. -/
def Declaration.entry? : Declaration V → Option (Option String × String × Action V)
  | .options _ => none
  | .rule source action => some (none, source, action)
  | .stateRule state source action => some (some state, source, action)

/-- The rules that declarations add, in order. -/
def entries (ds : List (Declaration V)) : List (Option String × String × Action V) :=
  ds.filterMap Declaration.entry?

/-- The options after declarations, which are those of the last one that sets them. -/
def lastOptions (options : Options) : List (Declaration V) → Options
  | [] => options
  | .options o :: ds => lastOptions o ds
  | .rule _ _ :: ds => lastOptions options ds
  | .stateRule _ _ _ :: ds => lastOptions options ds

/-- The rules of one set, in order. -/
def ofSet (set : Option String) (es : List (Option String × String × Action V)) :
    List (String × Action V) :=
  es.filterMap fun e => if e.1 = set then some e.2 else none

/-- The rules of one set as they are compiled. -/
def rulesOf (set : Option String) (es : List (Option String × String × Action V)) :
    List (Rule V) :=
  (ofSet set es).filterMap fun e => (Rule.compile e.1 e.2).toOption

/-- All patterns are accepted. -/
def Accepted (es : List (Option String × String × Action V)) : Prop :=
  ∀ e ∈ es, (anchored e.2.1).isOk = true

instance (es : List (Option String × String × Action V)) : Decidable (Accepted es) :=
  inferInstanceAs (Decidable (∀ e ∈ es, (anchored e.2.1).isOk = true))

theorem mem_ofSet {set : Option String} {es : List (Option String × String × Action V)}
    {e : String × Action V} : e ∈ ofSet set es ↔ (set, e) ∈ es := by
  unfold ofSet
  rw [List.mem_filterMap]
  constructor
  · rintro ⟨⟨set', e'⟩, hmem, heq⟩
    split at heq
    · next hset =>
      cases heq
      exact hset ▸ hmem
    · cases heq
  · intro hmem
    exact ⟨(set, e), hmem, if_pos rfl⟩

theorem Accepted.of_ofSet {es es' : List (Option String × String × Action V)} (h : Accepted es)
    (hsets : ∀ set, ofSet set es = ofSet set es') : Accepted es' := by
  rintro ⟨set, e⟩ hmem
  refine h (set, e) (mem_ofSet.1 ?_)
  rw [hsets]
  exact mem_ofSet.2 hmem

theorem compile_of_isOk {source : String} (h : (anchored source).isOk = true) (action : Action V) :
    ∃ rule, Rule.compile source action = .ok rule := by
  unfold Rule.compile
  cases hp : anchored source with
  | ok p => exact ⟨_, rfl⟩
  | error fault =>
    rw [hp] at h
    cases h

theorem rulesOf_concat {source : String} {action : Action V} {rule : Rule V}
    (hrule : Rule.compile source action = .ok rule) (set set' : Option String)
    (es : List (Option String × String × Action V)) :
    rulesOf set' (es ++ [(set, source, action)]) =
      if set = set' then rulesOf set' es ++ [rule] else rulesOf set' es := by
  unfold rulesOf ofSet
  rw [List.filterMap_append, List.filterMap_append]
  by_cases hset : set = set'
  · simp [hset, hrule, Except.toOption]
  · simp [hset]

/-! ## What lexers are made of -/

/-- The lexer has these options and, in each set, the compiled ones of these rules. States without
any have no set; how the table is laid out is left open. -/
structure Lexer.Groups (options : Options) (es : List (Option String × String × Action V))
    (lexer : Lexer V) : Prop where
  options : lexer.options = options
  rules : lexer.rules = rulesOf none es
  stateRules : ∀ state, lexer.stateRules.lookup state =
    if rulesOf (some state) es = [] then none else some (rulesOf (some state) es)

namespace Lexer.Groups

variable {options : Options} {es : List (Option String × String × Action V)} {lexer : Lexer V}

theorem empty : (Lexer.empty : Lexer V).Groups .standard [] where
  options := rfl
  rules := rfl
  stateRules _ := rfl

/-- **One more rule**, of a state or of the default set. -/
theorem addRule (h : lexer.Groups options es) {source : String} {action : Action V} {rule : Rule V}
    (hrule : Rule.compile source action = .ok rule) (set : Option String) :
    (lexer.addRule set rule).Groups options (es ++ [(set, source, action)]) := by
  have hconcat := fun set' => rulesOf_concat hrule set set' es
  cases set with
  | none =>
    refine ⟨h.options, ?_, fun state => ?_⟩
    · rw [hconcat, if_pos rfl, ← h.rules]
      rfl
    · rw [hconcat, if_neg (Option.some_ne_none state).symm]
      exact h.stateRules state
  | some name =>
    refine ⟨h.options, ?_, fun state => ?_⟩
    · rw [hconcat, if_neg (Option.some_ne_none name)]
      exact h.rules
    · show (addStateRule name rule lexer.stateRules).lookup state = _
      rw [lookup_addStateRule, hconcat, h.stateRules, h.stateRules]
      by_cases hname : state = name
      · subst hname
        have hmade : rulesOf (some state) es ++ [rule] ≠ [] :=
          List.append_ne_nil_of_right_ne_nil _ (List.cons_ne_nil rule [])
        rw [if_pos rfl, if_pos rfl, if_neg hmade]
        split
        · next hnil => rw [hnil, Option.getD_none]
        · rw [Option.getD_some]
      · rw [if_neg hname, if_neg fun heq => hname (Option.some.inj heq).symm]

theorem declare (h : lexer.Groups options es) {d : Declaration V}
    (hd : Accepted (entries [d])) :
    ∃ lexer', lexer.declare d = .ok lexer' ∧
      lexer'.Groups (lastOptions options [d]) (es ++ entries [d]) := by
  cases d with
  | options o =>
    refine ⟨{ lexer with options := o }, rfl, ?_⟩
    show Lexer.Groups o (es ++ []) _
    rw [List.append_nil]
    exact ⟨rfl, h.rules, h.stateRules⟩
  | rule source action =>
    obtain ⟨rule, hrule⟩ := compile_of_isOk (hd _ List.mem_cons_self) action
    refine ⟨lexer.addRule none rule, ?_, h.addRule hrule none⟩
    rw [Lexer.declare_rule, hrule]
    rfl
  | stateRule state source action =>
    obtain ⟨rule, hrule⟩ := compile_of_isOk (hd _ List.mem_cons_self) action
    refine ⟨lexer.addRule (some state) rule, ?_, h.addRule hrule (some state)⟩
    rw [Lexer.declare_stateRule, hrule]
    rfl

end Lexer.Groups

theorem entries_cons (d : Declaration V) (ds : List (Declaration V)) :
    entries (d :: ds) = entries [d] ++ entries ds := by
  cases d <;> rfl

theorem lastOptions_cons (options : Options) (d : Declaration V) (ds : List (Declaration V)) :
    lastOptions options (d :: ds) = lastOptions (lastOptions options [d]) ds := by
  cases d <;> rfl

namespace Lexer.Groups

theorem declareAll : ∀ {ds : List (Declaration V)} {options : Options}
    {es : List (Option String × String × Action V)} {lexer : Lexer V}, lexer.Groups options es →
    Accepted (entries ds) → ∃ lexer', lexer.declareAll ds = .ok lexer' ∧
      lexer'.Groups (lastOptions options ds) (es ++ entries ds)
  | [], options, es, lexer, h, _ => by
    refine ⟨lexer, rfl, ?_⟩
    show Lexer.Groups options (es ++ []) lexer
    rw [List.append_nil]
    exact h
  | d :: ds, options, es, lexer, h, hds => by
    rw [entries_cons] at hds ⊢
    obtain ⟨declared, hdeclared, hgroups⟩ :=
      h.declare fun e he => hds e (List.mem_append_left _ he)
    obtain ⟨lexer', hrest, hlexer'⟩ :=
      declareAll hgroups fun e he => hds e (List.mem_append_right _ he)
    refine ⟨lexer', ?_, ?_⟩
    · unfold Lexer.declareAll
      rw [hdeclared]
      exact hrest
    · rw [lastOptions_cons, ← List.append_assoc]
      exact hlexer'

theorem addSources {options : Options} : ∀ {more es : List (Option String × String × Action V)}
    {lexer : Lexer V}, lexer.Groups options es → Accepted more →
    ∃ lexer', lexer.addSources more = .ok lexer' ∧ lexer'.Groups options (es ++ more)
  | [], es, lexer, h, _ => by
    refine ⟨lexer, rfl, ?_⟩
    rw [List.append_nil]
    exact h
  | (set, source, action) :: more, es, lexer, h, hmore => by
    obtain ⟨rule, hrule⟩ := compile_of_isOk (hmore _ List.mem_cons_self) action
    obtain ⟨lexer', hrest, hlexer'⟩ :=
      addSources (h.addRule hrule set) fun e he => hmore e (List.mem_cons_of_mem _ he)
    refine ⟨lexer', ?_, ?_⟩
    · unfold Lexer.addSources
      rw [hrule]
      exact hrest
    · rw [List.append_assoc] at hlexer'
      exact hlexer'

end Lexer.Groups

/-! ## Lexers that run alike -/

/-- The same rules are active in all states, and the options are the same. -/
structure Lexer.SameRules (a b : Lexer V) : Prop where
  active : ∀ states, a.active states = b.active states
  options : a.options = b.options

namespace Lexer.SameRules

variable {a b : Lexer V}

theorem choose (h : a.SameRules b) (run : Lexing ι) : Lexing.choose a run = Lexing.choose b run := by
  unfold Lexing.choose
  rw [h.active, h.options]

theorem fire (h : a.SameRules b) (choice : Choice V) (run : Lexing ι) :
    Lexing.fire a choice run = Lexing.fire b choice run := by
  unfold Lexing.fire
  rw [h.options]

theorem firing? (h : a.SameRules b) (run : Lexing ι) :
    Lexing.firing? a run = Lexing.firing? b run := by
  unfold Lexing.firing?
  rw [h.choose]
  split
  · rfl
  · rw [h.fire]

theorem round (h : a.SameRules b) (run : Lexing ι) : Lexing.round a run = Lexing.round b run := by
  unfold Lexing.round
  rw [h.choose]
  split
  · rfl
  · exact h.fire _ _

theorem fired (h : a.SameRules b) (limit : Nat) (run : Lexing ι) :
    Lexing.fired a limit run = Lexing.fired b limit run := by
  induction limit generalizing run with
  | zero => rfl
  | succ limit ih =>
    unfold Lexing.fired
    rw [h.firing?, h.round]
    split
    · rfl
    · rw [ih]

theorem next (h : a.SameRules b) (limit : Nat) (run : Lexing ι) :
    Lexing.next a limit run = Lexing.next b limit run := by
  induction limit generalizing run with
  | zero => rfl
  | succ limit ih =>
    unfold Lexing.next
    rw [h.round]
    split
    · rfl
    · exact ih _

theorem calls (h : a.SameRules b) (limits : List Nat) (run : Lexing ι) :
    Lexing.calls a limits run = Lexing.calls b limits run := by
  induction limits generalizing run with
  | nil => rfl
  | cons limit limits ih =>
    unfold Lexing.calls
    rw [h.fired, h.next, ih]

end Lexer.SameRules

/-- The lexers run alike: over every input, at every place of it and in all states, the same rules
fire, the same answers come, and the runs behind them are the same. -/
def Lexer.Alike (a b : Lexer V) : Prop :=
  ∀ (ι κ : Type) [Chunk κ] [Input ι κ] (limits : List Nat) (run : Lexing ι),
    Lexing.calls a limits run = Lexing.calls b limits run

/-- How the rules of the sets are mixed does not matter. -/
theorem Lexer.Groups.of_ofSet {options : Options}
    {es es' : List (Option String × String × Action V)} {lexer : Lexer V}
    (h : lexer.Groups options es) (hsets : ∀ set, ofSet set es = ofSet set es') :
    lexer.Groups options es' := by
  have hrules : ∀ set, rulesOf set es = rulesOf set es' := by
    intro set
    unfold rulesOf
    rw [hsets]
  refine ⟨h.options, h.rules.trans (hrules none), fun state => ?_⟩
  rw [← hrules]
  exact h.stateRules state

/-- **Lexers of the same sets and options run alike.** -/
theorem Lexer.Groups.alike {options : Options} {es : List (Option String × String × Action V)}
    {a b : Lexer V} (ha : a.Groups options es) (hb : b.Groups options es) : a.Alike b := by
  have hsame : a.SameRules b := by
    refine ⟨fun states => ?_, ha.options.trans hb.options.symm⟩
    cases states with
    | nil => exact congrArg Except.ok (ha.rules.trans hb.rules.symm)
    | cons state states =>
      unfold Lexer.active
      dsimp only
      rw [ha.stateRules, hb.stateRules]
  exact fun ι κ _ _ limits run => hsame.calls limits run

/-! ## Patterns that are refused -/

/-- The pattern of the declaration is refused, with this fault: as it is for the default set, and in
the context of the state for a set that has a name. -/
inductive Declaration.Refused : Declaration V → Fault → Prop
  | rule {source : String} {action : Action V} {reason : String} :
    anchored source = .error (.badPattern reason) →
      Refused (.rule source action) (.badPattern reason)
  | stateRule {state source : String} {action : Action V} {reason : String} :
    anchored source = .error (.badPattern reason) →
      Refused (.stateRule state source action) (.within ("state " ++ state) (.badPattern reason))

theorem Lexer.declare_refused {d : Declaration V} {fault : Fault} (h : d.Refused fault)
    (lexer : Lexer V) : lexer.declare d = .error fault := by
  cases h with
  | rule hsource =>
    rw [Lexer.declare_rule, Rule.compile, hsource]
    rfl
  | stateRule hsource =>
    rw [Lexer.declare_stateRule, Rule.compile, hsource]
    rfl

/-- The declaration that is refused is the fault of all, whatever comes behind it. -/
theorem Lexer.declareAll_refused {d : Declaration V} {fault : Fault} (h : d.Refused fault)
    (back : List (Declaration V)) : ∀ {front : List (Declaration V)} {lexer declared : Lexer V},
      lexer.declareAll front = .ok declared → lexer.declareAll (front ++ d :: back) = .error fault
  | [], lexer, declared, _ => by
    rw [List.nil_append]
    unfold Lexer.declareAll
    rw [declare_refused h]
  | e :: front, lexer, declared, hfront => by
    rw [List.cons_append]
    unfold Lexer.declareAll at hfront ⊢
    split at hfront
    · cases hfront
    · exact declareAll_refused h back hfront

theorem isOk_or_badPattern (source : String) : (anchored source).isOk = true ∨
    ∃ reason, anchored source = .error (.badPattern reason) := by
  unfold anchored
  split
  · exact Or.inr ⟨_, rfl⟩
  · exact Or.inl rfl

theorem Declaration.accepted_or_refused (d : Declaration V) :
    Accepted (entries [d]) ∨ ∃ fault, d.Refused fault := by
  cases d with
  | options o => exact Or.inl fun e he => absurd he List.not_mem_nil
  | rule source action =>
    rcases isOk_or_badPattern source with hok | ⟨reason, hreason⟩
    · exact Or.inl fun e he => by rw [List.mem_singleton.1 he]; exact hok
    · exact Or.inr ⟨_, .rule hreason⟩
  | stateRule state source action =>
    rcases isOk_or_badPattern source with hok | ⟨reason, hreason⟩
    · exact Or.inl fun e he => by rw [List.mem_singleton.1 he]; exact hok
    · exact Or.inr ⟨_, .stateRule hreason⟩

/-- **All patterns are accepted, or there is a first one that is refused.** -/
theorem accepted_or_refused : ∀ ds : List (Declaration V), Accepted (entries ds) ∨
    ∃ front d back fault, ds = front ++ d :: back ∧ Accepted (entries front) ∧ d.Refused fault
  | [] => Or.inl fun e he => absurd he List.not_mem_nil
  | d :: ds => by
    rcases d.accepted_or_refused with hd | ⟨fault, hfault⟩
    · rcases accepted_or_refused ds with hds | ⟨front, d', back, fault, rfl, hfront, hd'⟩
      · left
        rw [entries_cons]
        exact fun e he => (List.mem_append.1 he).elim (hd e) (hds e)
      · refine Or.inr ⟨d :: front, d', back, fault, rfl, ?_, hd'⟩
        rw [entries_cons]
        exact fun e he => (List.mem_append.1 he).elim (hd e) (hfront e)
    · exact Or.inr ⟨[], d, ds, fault, rfl, fun e he => absurd he List.not_mem_nil, hfault⟩

/-! ## Lexers by their sets -/

/-- The declarations have the same rules in each set, in the same order, and the same options in the
end. -/
structure SameSets (ds ds' : List (Declaration V)) : Prop where
  rules : ∀ set, ofSet set (entries ds) = ofSet set (entries ds')
  options : lastOptions .standard ds = lastOptions .standard ds'

/-- **The order of declarations counts within a set only.** Where all patterns are accepted,
declarations of the same sets and options build lexers that run alike; and so does every lexer that
has these options and rules, one that is assembled from the rules set by set among them. Where one
is refused, the fault is that of the first such declaration, in the context of its state if it has
one. -/
theorem Lexer.builds_by_sets (ds : List (Declaration V)) :
    (Accepted (entries ds) → ∃ lexer, build ds = .ok lexer ∧
      (∀ ds', SameSets ds ds' → ∃ lexer', build ds' = .ok lexer' ∧ lexer'.Alike lexer) ∧
      (∀ grouped : Lexer V, grouped.Groups (lastOptions .standard ds) (entries ds) →
        grouped.Alike lexer) ∧
      ∀ es, (∀ set, ofSet set (entries ds) = ofSet set es) →
        ∃ grouped, assemble [] (lastOptions .standard ds) es = .ok grouped ∧
          grouped.Groups (lastOptions .standard ds) (entries ds) ∧ grouped.Alike lexer) ∧
    (¬Accepted (entries ds) → ∃ front d back lexer fault, ds = front ++ d :: back ∧
      Accepted (entries front) ∧ d.Refused fault ∧ build front = .ok lexer ∧
      lexer.declare d = .error fault ∧ build ds = .error fault) := by
  constructor
  · intro hds
    obtain ⟨lexer, hlexer, hgroups⟩ := Groups.empty.declareAll hds
    refine ⟨lexer, hlexer, fun ds' hsame => ?_, fun grouped hgrouped => ?_, fun es hsets => ?_⟩
    · obtain ⟨lexer', hlexer', hgroups'⟩ := Groups.empty.declareAll (hds.of_ofSet hsame.rules)
      rw [← hsame.options] at hgroups'
      have hsets := hgroups'.of_ofSet fun set => (hsame.rules set).symm
      exact ⟨lexer', hlexer', hsets.alike hgroups⟩
    · exact hgrouped.alike hgroups
    · have hempty : (⟨[], [], lastOptions .standard ds⟩ : Lexer V).Groups
          (lastOptions .standard ds) [] := ⟨rfl, rfl, fun _ => rfl⟩
      obtain ⟨grouped, hassembled, hgrouped⟩ := hempty.addSources (hds.of_ofSet hsets)
      have hgrouped := hgrouped.of_ofSet fun set => (hsets set).symm
      exact ⟨grouped, hassembled, hgrouped, hgrouped.alike hgroups⟩
  · intro hds
    rcases accepted_or_refused ds with haccepted | ⟨front, d, back, fault, rfl, hfront, hd⟩
    · exact absurd haccepted hds
    · obtain ⟨lexer, hlexer, -⟩ := Groups.empty.declareAll hfront
      exact ⟨front, d, back, lexer, fault, rfl, hfront, hd, hlexer, declare_refused hd lexer,
        declareAll_refused hd back hlexer⟩

/-- The declarations of the demonstration grammar, those for the inside of a string in front. -/
def Demo.insideFirst : List (Declaration Value) :=
  Demo.declarations.drop 7 ++ Demo.declarations.take 7

/-- The declarations of the demonstration grammar, and a group that is left open behind them: for
the inside of a string, and then for the outside. -/
def Demo.leftOpen : List (Declaration Value) :=
  Demo.declarations ++ [.stateRule Demo.stringState "(" Demo.discarding, .rule "(" Demo.discarding]

/-- The demonstration grammar is the same one with the inside of a string in front; with a group
that is left open it is none. -/
theorem Lexer.builds_by_sets_demo : SameSets Demo.declarations Demo.insideFirst ∧
    (∃ lexer lexer', build Demo.declarations = .ok lexer ∧ build Demo.insideFirst = .ok lexer' ∧
      lexer'.Alike lexer) ∧
    ∃ front d back lexer fault, Demo.leftOpen = front ++ d :: back ∧ Accepted (entries front) ∧
      d.Refused fault ∧ build front = .ok lexer ∧ lexer.declare d = .error fault ∧
      build Demo.leftOpen = .error fault := by
  have haccepted : Accepted (entries Demo.declarations) := by decide +kernel
  have hrefused : ¬Accepted (entries Demo.leftOpen) := by decide +kernel
  have hsame : SameSets Demo.declarations Demo.insideFirst := by
    refine ⟨fun set => ?_, rfl⟩
    cases set with
    | none => rfl
    | some state =>
      by_cases hstate : Demo.stringState = state <;>
        simp [ofSet, entries, Demo.declarations, Demo.insideFirst, Declaration.entry?, hstate]
  refine ⟨hsame, ?_, (builds_by_sets _).2 hrefused⟩
  obtain ⟨lexer, hlexer, hmixed, -, -⟩ := (builds_by_sets _).1 haccepted
  obtain ⟨lexer', hlexer', halike⟩ := hmixed _ hsame
  exact ⟨lexer, lexer', hlexer, hlexer', halike⟩

end Lexis
