import Lexis.Demo.Grammar
import Lexis.Proofs.Input.Buffered
import Lexis.Proofs.Input.Cursor
import Lexis.Proofs.Lexer.Choice

/-!
# The rules that fire

A run of a lexer as the list of the rules that fire in it. The texts that they match are the input
from its start to the cursor, whatever the source does and whichever answers are faults: a round
that fires no rule leaves the cursor and the states alone, and one that fires a rule moves the
cursor past its match.

Principal results:

* `Tracks.round` — what one round keeps;
* `Tracks.next` — what the rounds up to an answer keep;
* `Tracks.faithful` — any number of answers over an input whose text is tracked;
* `Lexing.faithful_calls` — the four kinds of inputs.
-/

namespace Lexis

open Pattern Text

variable {ι κ V : Type} [Chunk κ] [Input ι κ]

/-- A rule that fires: its match, the run before the cursor moves past it, how the round ends, and
the run after it. -/
structure Firing (ι V : Type) where
  choice : Choice V
  before : Lexing ι
  outcome : Round V
  after : Lexing ι

/-- The next answer, if there is one, with the rules that fire on the way to it. -/
structure Call (ι V : Type) where
  fired : List (Firing ι V)
  answer : Option (Except Fault (Token V))
  after : Lexing ι

/-- The text that a rule matches. -/
def Firing.text (f : Firing ι V) : List Char := f.choice.found.whole

/-- The texts that rules match, one behind the other. -/
def matched (fs : List (Firing ι V)) : List Char := fs.flatMap Firing.text

/-- The rules that fire in calls. -/
def firedIn (calls : List (Call ι V)) : List (Firing ι V) := calls.flatMap Call.fired

/-- The run as the last one of the rules leaves it. -/
def lastRun (start : Lexing ι) : List (Firing ι V) → Lexing ι
  | [] => start
  | f :: fs => lastRun f.after fs

namespace Lexing

/-- The rule that fires in a round, if there is one. -/
def firing? (lexer : Lexer V) (run : Lexing ι) : Option (Firing ι V) :=
  match choose lexer run with
  | (.error _, _) => none
  | (.ok choice, chosen) =>
    some ⟨choice, chosen, (fire lexer choice chosen).1, (fire lexer choice chosen).2⟩

/-- The rules that fire on the way to the next answer, within so many rounds. -/
def fired (lexer : Lexer V) : (limit : Nat) → Lexing ι → List (Firing ι V)
  | 0, _ => []
  | limit + 1, run =>
    (firing? lexer run).toList ++
      match round lexer run with
      | (.answer _, _) => []
      | (.again, run) => fired lexer limit run

theorem fired_of_answer {lexer : Lexer V} {run run' : Lexing ι} {a : Except Fault (Token V)}
    (h : round lexer run = (.answer a, run')) (limit : Nat) :
    fired lexer (limit + 1) run = (firing? lexer run).toList := by
  rw [fired, h]
  exact List.append_nil _

theorem fired_of_again {lexer : Lexer V} {run run' : Lexing ι}
    (h : round lexer run = (.again, run')) (limit : Nat) :
    fired lexer (limit + 1) run = (firing? lexer run).toList ++ fired lexer limit run' := by
  rw [fired, h]

/-- A round ends with a fault before a rule fires, or a rule fires. -/
theorem round_or_firing (lexer : Lexer V) (run : Lexing ι) :
    (∃ fault after, choose lexer run = (.error fault, after) ∧
      round lexer run = (.answer (.error fault), after)) ∨ ∃ f, firing? lexer run = some f := by
  unfold firing? round
  obtain ⟨answer, chosen, hchoose⟩ : ∃ answer chosen, choose lexer run = (answer, chosen) :=
    ⟨_, _, rfl⟩
  rw [hchoose]
  cases answer with
  | error fault => exact Or.inl ⟨fault, chosen, rfl, rfl⟩
  | ok choice => exact Or.inr ⟨_, rfl⟩

theorem round_of_error {lexer : Lexer V} {run after : Lexing ι} {fault : Fault}
    (h : choose lexer run = (.error fault, after)) :
    firing? lexer run = none ∧ round lexer run = (.answer (.error fault), after) := by
  unfold firing? round
  rw [h]
  exact ⟨rfl, rfl⟩

/-- A rule that fires is one that is chosen, and what it does is what `fire` makes of it. -/
theorem choose_of_firing {lexer : Lexer V} {run : Lexing ι} {f : Firing ι V}
    (h : firing? lexer run = some f) : choose lexer run = (.ok f.choice, f.before) ∧
      fire lexer f.choice f.before = (f.outcome, f.after) := by
  unfold firing? at h
  obtain ⟨answer, chosen, hchoose⟩ : ∃ answer chosen, choose lexer run = (answer, chosen) :=
    ⟨_, _, rfl⟩
  rw [hchoose] at h
  cases answer with
  | error fault => cases h
  | ok choice =>
    cases h
    exact ⟨hchoose, rfl⟩

/-- A rule that fires, by what its action makes of the round. -/
theorem react_of_firing [LawfulChunk κ] [Sourced ι] [LawfulInput ι] {lexer : Lexer V}
    {run : Lexing ι} {f : Firing ι V} (h : firing? lexer run = some f) :
    round lexer run = (f.outcome, f.after) ∧
      (f.outcome, f.after.states) = react lexer (unitsIn κ f.text) f.choice f.before.states := by
  obtain ⟨hchoose, hfire⟩ := choose_of_firing h
  constructor
  · unfold round
    rw [hchoose]
    exact hfire
  · rw [fire_of_holds (holds_of_choose hchoose), Prod.mk.injEq] at hfire
    rw [← hfire.1, ← hfire.2]
    rfl

theorem choose_of_stuck [LawfulChunk κ] [Sourced ι] [LawfulInput ι] {lexer : Lexer V}
    {run after : Lexing ι} {fault : Fault}
    (h : round lexer run = (.answer (.error fault), after)) (hstuck : fault.isStuck = true) :
    choose lexer run = (.error fault, after) := by
  rcases round_or_firing lexer run with ⟨fault', after', hchoose, hround⟩ | ⟨f, hf⟩
  · rw [h] at hround
    cases hround
    exact hchoose
  · -- a rule that fires ends its round with faults of another kind
    obtain ⟨hround, hreact⟩ := react_of_firing hf
    rw [h, Prod.mk.injEq] at hround
    have houtcome := congrArg Prod.fst hreact
    rw [← hround.1] at houtcome
    rw [(react_error houtcome.symm).isStuck_eq_false] at hstuck
    cases hstuck

/-- Calls for the next answer, one after the other whatever the answers are, each within its own
number of rounds. A call that has no answer within them is gone on with by the next one. -/
def calls (lexer : Lexer V) : List Nat → Lexing ι → List (Call ι V)
  | [], _ => []
  | limit :: limits, run =>
    ⟨fired lexer limit run, (next lexer limit run).1, (next lexer limit run).2⟩ ::
      calls lexer limits (next lexer limit run).2

/-- The cursor and the states are the same. -/
def SamePlace (a b : Lexing ι) : Prop :=
  a.position = b.position ∧ a.states = b.states

end Lexing

@[simp] theorem matched_nil : matched ([] : List (Firing ι V)) = [] := rfl

@[simp] theorem matched_cons (f : Firing ι V) (fs : List (Firing ι V)) :
    matched (f :: fs) = f.text ++ matched fs := rfl

theorem matched_append (fs gs : List (Firing ι V)) : matched (fs ++ gs) = matched fs ++ matched gs :=
  List.flatMap_append

theorem lastRun_append (start : Lexing ι) : ∀ fs gs : List (Firing ι V),
    lastRun start (fs ++ gs) = lastRun (lastRun start fs) gs
  | [], _ => rfl
  | f :: fs, gs => lastRun_append f.after fs gs

variable [Sourced ι]

/-- What holds of a rule that fires behind the text `done`: its match begins there, and this is the
position that its action sees; the skip past the match succeeds, reads nothing and moves the cursor
by the match; the states and the token are those of the action; and a fault is one that is found
after the action. -/
structure Firing.Sound (done : List Char) (f : Firing ι V) : Prop where
  base : f.choice.base = unitsIn κ done
  start : f.before.position = unitsIn κ done
  skip : Input.skip (unitsIn κ f.text) f.before.input = (.ok (unitsIn κ f.text), f.after.input)
  source : Sourced.source? f.after.input = Sourced.source? f.before.input
  stop : f.after.position = f.before.position + unitsIn κ f.text
  states : f.after.states = (Move.run false f.before.states
    (f.choice.rule.action f.choice.found ⟨f.before.states, unitsIn κ done⟩).moves).1
  token : ∀ token, f.outcome = .answer (.ok token) →
    (f.choice.rule.action f.choice.found ⟨f.before.states, unitsIn κ done⟩).token = some token
  fault : ∀ fault, f.outcome = .answer (.error fault) → fault.AfterFiring

/-- What holds of calls made on a run from its start, over an input whose text is `whole`. -/
structure Faithful (whole : List Char) (start : Lexing ι) (calls : List (Call ι V)) : Prop where
  /-- Each rule fires behind the texts of those before it. -/
  sound : ∀ before f after, firedIn calls = before ++ f :: after → f.Sound (matched before)
  /-- After each call the texts matched so far are the input up to the cursor. -/
  text : ∀ before call after, calls = before ++ call :: after →
    matched (firedIn (before ++ [call])) <+: whole ∧
      call.after.position = unitsIn κ (matched (firedIn (before ++ [call])))
  /-- After each call the cursor and the states are as the last rule left them. -/
  place : ∀ before call after, calls = before ++ call :: after →
    call.after.SamePlace (lastRun start (firedIn (before ++ [call])))
  /-- A fault is found before a rule fires, after others that were discarded; or it is found after
  the last rule has fired. -/
  fault : ∀ call ∈ calls, ∀ fault, call.answer = some (.error fault) →
    (fault.BeforeFiring ∧ ∀ f ∈ call.fired, f.outcome = .again) ∨
      (fault.AfterFiring ∧ ∃ fs f, call.fired = fs ++ [f] ∧
        f.outcome = .answer (.error fault) ∧ f.after = call.after)

/-- An input whose cursor is behind a text, which requests and skips keep track of. -/
structure Tracks (whole : List Char) (Behind : ι → List Char → Prop) : Prop where
  behind : ∀ {i done}, Behind i done → done <+: whole
  position : ∀ {i done}, Behind i done → Input.position i = unitsIn κ done
  peek : ∀ {i done}, Behind i done → ∀ {count answer i'}, Input.peek count i = (answer, i') →
    Behind i' done ∧ ∀ fault, answer = .error fault → fault.BeforeFiring
  advance : ∀ {i done}, Behind i done → ∀ {count chunk i'}, Input.peek count i = (.ok chunk, i') →
    ∀ {cs}, cs <+: (Chunk.text chunk).1 →
      Behind (Input.advance (unitsIn κ cs) i') (done ++ cs)

/-! ## Lists of rules -/

/-- Rules that fire one after the other behind the text `done`. -/
def AllSound (done : List Char) (fs : List (Firing ι V)) : Prop :=
  ∀ before f after, fs = before ++ f :: after → f.Sound (done ++ matched before)

theorem allSound_nil (done : List Char) : AllSound done ([] : List (Firing ι V)) := by
  intro before f after h
  cases before <;> cases h

theorem allSound_cons {done : List Char} {f : Firing ι V} {fs : List (Firing ι V)}
    (hf : f.Sound done) (hfs : AllSound (done ++ f.text) fs) : AllSound done (f :: fs) := by
  intro before g after h
  cases before with
  | nil =>
    cases h
    rw [matched_nil, List.append_nil]
    exact hf
  | cons b before =>
    cases h
    rw [matched_cons, ← List.append_assoc]
    exact hfs before g after rfl

theorem allSound_append {done : List Char} : ∀ {fs gs : List (Firing ι V)}, AllSound done fs →
    AllSound (done ++ matched fs) gs → AllSound done (fs ++ gs)
  | [], gs, _, hgs => by
    rw [matched_nil, List.append_nil] at hgs
    exact hgs
  | f :: fs, gs, hfs, hgs => by
    have hf := hfs [] f fs rfl
    rw [matched_nil, List.append_nil] at hf
    refine allSound_cons hf (allSound_append ?_ ?_)
    · intro before g after h
      have hg := hfs (f :: before) g after (by rw [h]; rfl)
      rw [matched_cons, ← List.append_assoc] at hg
      exact hg
    · rw [List.append_assoc]
      exact hgs

/-! ## Rounds and calls -/

namespace Tracks

variable [LawfulChunk κ] [LawfulInput ι] {whole : List Char} {Behind : ι → List Char → Prop}
  {lexer : Lexer V}

/-- **One round.** It ends with a fault before a rule fires and leaves the place as it is, or the
rule that fires is sound and its match is what the cursor moves past. -/
theorem round (h : Tracks whole Behind) (hlexer : lexer.Proper) {run : Lexing ι} {done : List Char}
    (hrun : Behind run.input done) :
    (∃ fault run', Lexing.firing? lexer run = none ∧
      Lexing.round lexer run = (.answer (.error fault), run') ∧ fault.BeforeFiring ∧
      Behind run'.input done ∧ run'.states = run.states) ∨
    ∃ f, Lexing.firing? lexer run = some f ∧ Lexing.round lexer run = (f.outcome, f.after) ∧
      f.Sound done ∧ Behind f.after.input (done ++ f.text) := by
  unfold Lexing.firing? Lexing.round
  obtain ⟨answer, chosen, hchoose⟩ :
      ∃ answer chosen, Lexing.choose lexer run = (answer, chosen) := ⟨_, _, rfl⟩
  rw [hchoose]
  cases answer with
  | error fault =>
    left
    obtain ⟨hstates, hcases⟩ := Lexing.choose_error hchoose
    rcases hcases with ⟨rfl, name, rfl⟩ | hpeek | ⟨chunk, hpeek, hfault⟩
    · exact ⟨_, _, rfl, rfl, .unknownState name, hrun, rfl⟩
    · obtain ⟨hbehind, hfault⟩ := h.peek hrun hpeek
      exact ⟨_, _, rfl, rfl, hfault fault rfl, hbehind, hstates⟩
    · exact ⟨_, _, rfl, rfl, hfault, (h.peek hrun hpeek).1, hstates⟩
  | ok choice =>
    right
    obtain ⟨hstates, hbase, ⟨rules, hactive, hmem⟩, chunk, hpeek, hmatch⟩ :=
      Lexing.choose_ok hchoose
    have hfront : choice.found.whole <+: (Chunk.text chunk).1 :=
      (hlexer.active hactive _ hmem).whole_isPrefix hmatch
    have hchosen := (h.peek hrun hpeek).1
    have hnext := h.advance hrun hpeek hfront
    have hheld := Lexing.holds_of_choose hchoose
    dsimp only
    rw [Lexing.fire_of_holds hheld]
    refine ⟨_, rfl, rfl, ?_, hnext⟩
    have hstart : chosen.position = unitsIn κ done := h.position hchosen
    have hbase : choice.base = unitsIn κ done := hbase.trans (h.position hrun)
    refine ⟨hbase, hstart, Input.skip_of_holds hheld, LawfulInput.source_advance _ _, ?_, ?_, ?_, ?_⟩
    · show Input.position _ = chosen.position + _
      rw [h.position hnext, hstart]
      exact unitsIn_append κ done _
    · rw [← hbase]
      rfl
    · intro token htoken
      rw [← hbase]
      exact Lexing.react_token htoken
    · exact fun fault => Lexing.react_error

theorem next (h : Tracks whole Behind) (hlexer : lexer.Proper) : ∀ (limit : Nat)
    {run start : Lexing ι} {done : List Char}, Behind run.input done → run.SamePlace start →
      AllSound done (Lexing.fired lexer limit run) ∧
      Behind (Lexing.next lexer limit run).2.input
        (done ++ matched (Lexing.fired lexer limit run)) ∧
      (Lexing.next lexer limit run).2.SamePlace
        (lastRun start (Lexing.fired lexer limit run)) ∧
      ∀ fault, (Lexing.next lexer limit run).1 = some (.error fault) →
        (fault.BeforeFiring ∧ ∀ f ∈ Lexing.fired lexer limit run, f.outcome = .again) ∨
        (fault.AfterFiring ∧ ∃ fs f, Lexing.fired lexer limit run = fs ++ [f] ∧
          f.outcome = .answer (.error fault) ∧ f.after = (Lexing.next lexer limit run).2)
  | 0, run, start, done, hrun, hplace => by
    refine ⟨allSound_nil done, ?_, hplace, fun fault heq => by cases heq⟩
    show Behind run.input (done ++ [])
    rw [List.append_nil]
    exact hrun
  | limit + 1, run, start, done, hrun, hplace => by
    rcases h.round hlexer hrun with
      ⟨fault, run', hnone, hround, hfault, hrun', hstates⟩ | ⟨f, hsome, hround, hsound, hafter⟩
    · rw [Lexing.next_of_answer hround, Lexing.fired_of_answer hround, hnone]
      refine ⟨allSound_nil done, ?_, ?_, fun fault' heq => ?_⟩
      · show Behind run'.input (done ++ [])
        rw [List.append_nil]
        exact hrun'
      · refine ⟨?_, hstates.trans hplace.2⟩
        exact ((h.position hrun').trans (h.position hrun).symm).trans hplace.1
      · cases heq
        exact Or.inl ⟨hfault, fun f hf => absurd hf List.not_mem_nil⟩
    · cases houtcome : f.outcome with
      | answer a =>
        rw [houtcome] at hround
        rw [Lexing.next_of_answer hround, Lexing.fired_of_answer hround, hsome]
        refine ⟨allSound_cons hsound (allSound_nil _), ?_, ⟨rfl, rfl⟩, fun fault heq => ?_⟩
        · show Behind f.after.input (done ++ (f.text ++ []))
          rw [List.append_nil]
          exact hafter
        · cases heq
          exact Or.inr ⟨hsound.fault fault houtcome, [], f, rfl, houtcome, rfl⟩
      | again =>
        rw [houtcome] at hround
        rw [Lexing.next_of_again hround, Lexing.fired_of_again hround, hsome]
        obtain ⟨hall, hbehind, hlast, hfaults⟩ := next h hlexer limit hafter ⟨rfl, rfl⟩
        refine ⟨allSound_cons hsound hall, ?_, hlast, fun fault heq => ?_⟩
        · show Behind _ (done ++ (f.text ++ matched (Lexing.fired lexer limit f.after)))
          rw [← List.append_assoc]
          exact hbehind
        · rcases hfaults fault heq with ⟨hbefore, hagain⟩ | ⟨hafter', fs, g, hfs, hg, hlast⟩
          · refine Or.inl ⟨hbefore, fun g hg => ?_⟩
            rcases List.mem_cons.1 hg with rfl | hg
            · exact houtcome
            · exact hagain g hg
          · exact Or.inr ⟨hafter', f :: fs, g, by rw [hfs]; rfl, hg, hlast⟩

/-- What holds of calls made behind the text `done`, where the rules before them left the run
`start`. -/
theorem calls (h : Tracks whole Behind) (hlexer : lexer.Proper) : ∀ (limits : List Nat)
    {run start : Lexing ι} {done : List Char}, Behind run.input done → run.SamePlace start →
      AllSound done (firedIn (Lexing.calls lexer limits run)) ∧
      ∀ before call after, Lexing.calls lexer limits run = before ++ call :: after →
        Behind call.after.input (done ++ matched (firedIn (before ++ [call]))) ∧
        call.after.SamePlace (lastRun start (firedIn (before ++ [call]))) ∧
        ∀ fault, call.answer = some (.error fault) →
          (fault.BeforeFiring ∧ ∀ f ∈ call.fired, f.outcome = .again) ∨
          (fault.AfterFiring ∧ ∃ fs f, call.fired = fs ++ [f] ∧
            f.outcome = .answer (.error fault) ∧ f.after = call.after)
  | [], run, start, done, _, _ => by
    refine ⟨allSound_nil done, fun before call after heq => ?_⟩
    cases before <;> cases heq
  | limit :: limits, run, start, done, hrun, hplace => by
    obtain ⟨hall, hbehind, hlast, hfaults⟩ := h.next hlexer limit hrun hplace
    obtain ⟨hrest, hcalls⟩ := calls h hlexer limits hbehind hlast
    refine ⟨allSound_append hall hrest, fun before call after heq => ?_⟩
    cases before with
    | nil =>
      cases heq
      rw [show firedIn ([] ++ [_]) = Lexing.fired lexer limit run from List.append_nil _]
      exact ⟨hbehind, hlast, hfaults⟩
    | cons first before =>
      rw [Lexing.calls, List.cons_append, List.cons.injEq] at heq
      obtain ⟨rfl, heq⟩ := heq
      obtain ⟨hbehind', hlast', hfaults'⟩ := hcalls before call after heq
      have hfired : firedIn ((⟨Lexing.fired lexer limit run, (Lexing.next lexer limit run).1,
          (Lexing.next lexer limit run).2⟩ :: before) ++ [call]) =
          Lexing.fired lexer limit run ++ firedIn (before ++ [call]) := rfl
      rw [hfired, matched_append, lastRun_append, ← List.append_assoc]
      exact ⟨hbehind', hlast', hfaults'⟩

/-- **Any number of answers** over an input whose text is tracked. -/
theorem faithful (h : Tracks whole Behind) (hlexer : lexer.Proper) {input : ι}
    (hinput : Behind input []) (states : List String) (limits : List Nat) :
    Faithful whole (Lexing.start input states)
      (Lexing.calls lexer limits (Lexing.start input states)) := by
  have hstart : Behind (Lexing.start input states).input [] := hinput
  obtain ⟨hall, hcalls⟩ := h.calls hlexer limits hstart ⟨rfl, rfl⟩
  refine ⟨hall, fun before call after heq => ?_, fun before call after heq => ?_, ?_⟩
  · obtain ⟨hbehind, -, -⟩ := hcalls before call after heq
    exact ⟨h.behind hbehind, h.position hbehind⟩
  · exact (hcalls before call after heq).2.1
  · intro call hcall
    obtain ⟨before, after, heq⟩ := List.append_of_mem hcall
    exact (hcalls before call after heq).2.2

end Tracks

/-! ## The inputs -/

/-- A cursor over bytes is behind a text in front of them. -/
def ByteCursor.Behind (bytes : List UInt8) (c : ByteCursor) (done : List Char) : Prop :=
  c.bytes = bytes ∧ encode done <+: bytes ∧ c.position = byteLength done

theorem ByteCursor.tracks (bytes : List UInt8) :
    Tracks (decode bytes).1 (ByteCursor.Behind bytes) where
  behind h := isPrefix_decode h.2.1
  position h := h.2.2
  peek := by
    intro c done h count answer c' hpeek
    cases hpeek
    exact ⟨h, fun fault heq => by cases heq⟩
  advance := by
    rintro c done ⟨rfl, hdone, hposition⟩ count chunk c' hpeek cs hcs
    cases hpeek
    have hnext : encode cs <+: c.bytes.drop (byteLength done) := by
      rw [← hposition]
      exact ((encode_isPrefix hcs).trans (encode_decode_isPrefix _)).trans (List.take_prefix _ _)
    refine ⟨rfl, encode_append_isPrefix hdone hnext, ?_⟩
    show c.position + byteLength cs = _
    rw [hposition, byteLength_append]

theorem TextCursor.tracks (whole : List Char) : Tracks whole (fun c done => At whole done c) where
  behind h := h.behind
  position h := h.position
  peek := by
    intro c done h count answer c' hpeek
    cases hpeek
    exact ⟨h, fun fault heq => by cases heq⟩
  advance := by
    intro c done h count chunk c' hpeek cs hcs
    cases hpeek
    have hcs : cs = (whole.drop done.length).take cs.length := by
      rw [← h.rest_eq]
      exact List.prefix_iff_eq_take.1 (hcs.trans (List.take_prefix _ _))
    have := h.advance cs.length
    rw [← hcs] at this
    exact this

/-- A buffered input of bytes is behind a text in front of those of its source. -/
def BufferedBytes.Behind (source : Source) (i : BufferedBytes) (done : List Char) : Prop :=
  i.At source (byteLength done) ∧ encode done <+: source.bytes

theorem BufferedBytes.tracks (source : Source) :
    Tracks (decode source.bytes).1 (BufferedBytes.Behind source) where
  behind h := isPrefix_decode h.2
  position h := h.1.position_eq
  peek := by
    rintro i done ⟨hat, hdone⟩ count answer i' hpeek
    rcases hat.peek count with ⟨reason, i₁, hi, hat', -⟩ | ⟨i₁, hi, hat', -⟩
    · rw [hi] at hpeek
      cases hpeek
      exact ⟨⟨hat', hdone⟩, fun fault heq => by cases heq; exact .unreadable reason⟩
    · rw [hi] at hpeek
      cases hpeek
      exact ⟨⟨hat', hdone⟩, fun fault heq => by cases heq⟩
  advance := by
    rintro i done ⟨hat, hdone⟩ count chunk i' hpeek cs hcs
    rcases hat.peek count with ⟨reason, i₁, hi, -, -⟩ | ⟨i₁, hi, hat', -⟩
    · rw [hi] at hpeek
      cases hpeek
    · rw [hi] at hpeek
      cases hpeek
      have hheld : encode cs <+: i'.blocks.held :=
        ((encode_isPrefix hcs).trans (encode_decode_isPrefix _)).trans (List.take_prefix _ _)
      refine ⟨?_, encode_append_isPrefix hdone (hheld.trans hat'.held)⟩
      unfold At
      rw [byteLength_append]
      refine Blocks.At.consume hat' ?_
      rw [← length_encode]
      exact hheld.length_le

theorem BufferedText.tracks (source : Source) :
    Tracks (decode source.bytes).1 (fun i done => At source done i) where
  behind h := isPrefix_decode h.behind
  position h := h.position
  peek := by
    intro i done hat count answer i' hpeek
    rcases hat.peek count with
      ⟨reason, i₁, hi, hat', -⟩ | ⟨i₁, hi, hat', -⟩ | ⟨position, i₁, hi, hat', -⟩
    · rw [hi] at hpeek
      cases hpeek
      exact ⟨hat', fun fault heq => by cases heq; exact .unreadable reason⟩
    · rw [hi] at hpeek
      cases hpeek
      exact ⟨hat', fun fault heq => by cases heq⟩
    · rw [hi] at hpeek
      cases hpeek
      exact ⟨hat', fun fault heq => by cases heq; exact .undecodable position⟩
  advance := by
    intro i done hat count chunk i' hpeek cs hcs
    rcases hat.peek count with ⟨reason, i₁, hi, -, -⟩ | ⟨i₁, hi, hat', -⟩ | ⟨position, i₁, hi, -, -⟩
    · rw [hi] at hpeek
      cases hpeek
    · rw [hi] at hpeek
      cases hpeek
      have hcs : cs = i'.text.take cs.length :=
        List.prefix_iff_eq_take.1 (List.IsPrefix.trans hcs (List.take_prefix _ _))
      have := hat'.advance cs.length
      rw [← hcs] at this
      exact this
    · rw [hi] at hpeek
      cases hpeek

/-- **The texts of the rules that fire are the input up to the cursor**, for each of the four kinds
of inputs, whatever a source does and whichever answers are faults. -/
theorem Lexing.faithful_calls (lexer : Lexer V) (hlexer : lexer.Proper) (states : List String)
    (limits : List Nat) :
    (∀ bytes, Faithful (decode bytes).1 (start (ByteCursor.ofBytes bytes) states)
      (calls lexer limits (start (ByteCursor.ofBytes bytes) states))) ∧
    (∀ text, Faithful text (start (TextCursor.ofText text) states)
      (calls lexer limits (start (TextCursor.ofText text) states))) ∧
    (∀ source blockSize, Faithful (decode source.bytes).1
      (start (BufferedBytes.ofSource source blockSize) states)
      (calls lexer limits (start (BufferedBytes.ofSource source blockSize) states))) ∧
    (∀ source blockSize, Faithful (decode source.bytes).1
      (start (BufferedText.ofSource source blockSize) states)
      (calls lexer limits (start (BufferedText.ofSource source blockSize) states))) := by
  refine ⟨fun bytes => ?_, fun text => ?_, fun source blockSize => ?_, fun source blockSize => ?_⟩
  · exact (ByteCursor.tracks bytes).faithful hlexer ⟨rfl, List.nil_prefix, rfl⟩ states limits
  · exact (TextCursor.tracks text).faithful hlexer (TextCursor.at_ofText text) states limits
  · exact (BufferedBytes.tracks source).faithful hlexer
      ⟨BufferedBytes.at_ofSource source blockSize, List.nil_prefix⟩ states limits
  · exact (BufferedText.tracks source).faithful hlexer
      (BufferedText.at_ofSource source blockSize) states limits

/-- The lexer of the demonstration grammar, over a source that refuses its third read, cuts a
character in two and ends with a byte that is no text. -/
theorem Lexing.faithful_calls_demo : ∃ lexer, Demo.lexer = .ok lexer ∧ lexer.Proper ∧
    Faithful (decode [0x31, 0x20, 0xC3, 0xA9, 0xFF]).1
      (start (BufferedText.ofSource (.flaky [0x31, 0x20, 0xC3, 0xA9, 0xFF]
        (fun k => if k = 2 then some "busy" else none) none) 1) [])
      (calls lexer [4, 4, 4] (start (BufferedText.ofSource (.flaky [0x31, 0x20, 0xC3, 0xA9, 0xFF]
        (fun k => if k = 2 then some "busy" else none) none) 1) [])) := by
  have hdeclared : ∀ d ∈ Demo.declarations, d.Proper := by decide
  have hbuilt : Demo.lexer.isOk = true := by decide
  cases hlexer : Demo.lexer with
  | error fault =>
    rw [hlexer] at hbuilt
    cases hbuilt
  | ok lexer =>
    have hproper : lexer.Proper := Lexer.proper_of_build hdeclared hlexer
    exact ⟨lexer, rfl, hproper, (faithful_calls lexer hproper [] [4, 4, 4]).2.2.2
      (.flaky [0x31, 0x20, 0xC3, 0xA9, 0xFF] (fun k => if k = 2 then some "busy" else none) none) 1⟩

end Lexis
