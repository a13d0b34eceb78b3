import Lexis.Proofs.Input.Providing
import Lexis.Proofs.Pattern.Anchor
import Lexis.Proofs.Pattern.Shapes
import Lexis.Proofs.Pattern.Unopened
import Lexis.Reader

/-!
# What reading takes of a text

Everything that happens while constructs are read, as a list: the rules that fire, those of attached
constructs among them, behind the rule whose handler attaches them; and the faults, each by whom it
is raised. Over an input that provides a text the rules that fire take the text in order and leave out
nothing, at any depth and whichever faults there are, so that what a read has not matched is there
for the next one. Where the reader itself meets the end there is nothing left of the text, and where
no rule matches there is.

The handlers are trees, so what they keep is an induction over the tree, with what reading a
construct keeps as an assumption; and what reading keeps is an induction over the rounds.

Principal results:

* `Accounts.append` — accounts one after the other;
* `Reader.handle_account` — what a handler keeps;
* `Reader.read_account` — what reading one construct keeps;
* `Reader.accounted_calls` — any number of reads, over a text and over a source.
-/

namespace Lexis

open Pattern Text

/-- What happens while constructs are read. -/
inductive Event where
  /-- A rule of the construct matches the text at the position. -/
  | fired (construct : Nat) (text : List Char) (position : Nat)
  /-- The reader itself can not go on with the construct at the position. -/
  | gaveUp (construct : Nat) (fault : Fault) (position : Nat)
  /-- A handler of the construct ends with a fault. -/
  | failed (construct : Nat) (fault : Fault)
  deriving DecidableEq, Repr

/-- The text that is matched. -/
def Event.text : Event → List Char
  | fired _ text _ => text
  | gaveUp _ _ _ => []
  | failed _ _ => []

/-- The texts that are matched, one behind the other. -/
def taken (events : List Event) : List Char := events.flatMap Event.text

@[simp] theorem taken_nil : taken [] = [] := rfl

@[simp] theorem taken_cons (e : Event) (events : List Event) :
    taken (e :: events) = e.text ++ taken events := rfl

@[simp] theorem taken_append (as bs : List Event) : taken (as ++ bs) = taken as ++ taken bs :=
  List.flatMap_append

/-- What a fault of the reader itself says about what is left of the text behind `done`. -/
inductive GivesUp (whole done : List Char) : Fault → Prop where
  /-- Nothing is left. -/
  | unexpectedEnd (construct : String) : done = whole → GivesUp whole done (.unexpectedEnd construct)
  /-- Something is left. -/
  | noMatch (construct excerpt : String) :
      done.length < whole.length → GivesUp whole done (.noMatch construct excerpt)
  | stalled (construct : String) : GivesUp whole done (.stalled construct)

/-- The events account for the text behind `done`: each rule that fires matches what comes next, and
the reader gives up for a reason. -/
def Accounts (whole : List Char) : List Char → List Event → Prop
  | _, [] => True
  | done, .fired _ text position :: events =>
    position = done.length ∧ done ++ text <+: whole ∧ Accounts whole (done ++ text) events
  | done, .gaveUp _ fault position :: events =>
    position = done.length ∧ GivesUp whole done fault ∧ Accounts whole done events
  | done, .failed _ _ :: events => Accounts whole done events

/-- The fault is the last thing that happens, raised by the reader itself or by a handler of the
construct. -/
def EndsWith (construct : Nat) (fault : Fault) (events : List Event) : Prop :=
  ∃ before last, events = before ++ [last] ∧
    ((∃ position, last = .gaveUp construct fault position) ∨ last = .failed construct fault)

theorem EndsWith.append {construct : Nat} {fault : Fault} {events : List Event}
    (h : EndsWith construct fault events) (before : List Event) :
    EndsWith construct fault (before ++ events) := by
  obtain ⟨init, last, rfl, hlast⟩ := h
  exact ⟨before ++ init, last, by rw [List.append_assoc], hlast⟩

theorem Accounts.append {whole : List Char} {as bs : List Event} {done : List Char}
    (has : Accounts whole done as) (hbs : Accounts whole (done ++ taken as) bs) :
    Accounts whole done (as ++ bs) := by
  induction as generalizing done with
  | nil => simpa using hbs
  | cons e as ih =>
    cases e with
    | fired construct text position =>
      obtain ⟨hposition, htext, hrest⟩ := has
      refine ⟨hposition, htext, ih hrest ?_⟩
      simpa [Event.text] using hbs
    | gaveUp construct fault position =>
      obtain ⟨hposition, hfault, hrest⟩ := has
      exact ⟨hposition, hfault, ih hrest (by simpa [Event.text] using hbs)⟩
    | failed construct fault => exact ih has (by simpa [Event.text] using hbs)

namespace Reader

variable {σ v ι : Type} [Input ι (List Char)]

/-- What happens while a handler of the construct is carried out. -/
def handleEvents (construct : Nat) (read : Nat → σ → ι → Option (Except Fault v) × ι)
    (events : Nat → σ → ι → List Event) : Handling σ v → ι → List Event
  | .finish (.error fault), _ => [.failed construct fault]
  | .finish (.ok _), _ => []
  | .locate k, input => handleEvents construct read events (k (Input.position input)) input
  | .attach attached gathered k, input =>
    events attached gathered input ++
      match read attached gathered input with
      | (none, _) => []
      | (some answer, input) => handleEvents construct read events (k answer) input

/-- What happens while a construct is read. -/
def events (r : Reader σ v) : (limit : Nat) → Nat → σ → ι → List Event
  | 0, _, _, _ => []
  | limit + 1, number, gathered, input =>
    let c := r.construct number
    let base := Input.position input
    match Input.peek r.window input with
    | (.error _, _) => []
    | (.ok window, input) =>
      match choose c window with
      | .error fault => [.gaveUp number fault (Input.position input)]
      | .ok (handler, found) =>
        .fired number found.whole base ::
          match Input.skip (unitsIn (List Char) found.whole) input with
          | (.error _, _) => []
          | (.ok _, input) =>
            handleEvents number (r.read limit) (r.events limit) (handler gathered found) input ++
              match handle (r.read limit) (handler gathered found) input with
              | (some (.ok (.more, gathered)), input) =>
                if Input.position input = base then
                  [.gaveUp number (.stalled c.name) (Input.position input)]
                else r.events limit number gathered input
              | _ => []

/-- Each match of a rule is in front of the window. -/
def Anchored (r : Reader σ v) : Prop :=
  ∀ number, ∀ rule ∈ (r.construct number).rules, ∀ text found,
    rule.1.match? text = some found → found.whole <+: text

/-- A read of a construct: where the cursor is before it, what happens, the answer, if it comes
within the rounds, and where the cursor is then. -/
structure Call (ι v : Type) where
  before : ι
  events : List Event
  answer : Option (Except Fault v)
  after : ι

/-- Reads one after the other whatever the answers are, each within so many rounds, of a construct on
top of what is gathered. -/
def calls (r : Reader σ v) : List (Nat × Nat × σ) → ι → List (Call ι v)
  | [], _ => []
  | (limit, number, gathered) :: more, input =>
    ⟨input, r.events limit number gathered input, (r.read limit number gathered input).1,
        (r.read limit number gathered input).2⟩ ::
      calls r more (r.read limit number gathered input).2

/-- What holds of a read behind the text `done`. -/
structure Call.Accounted (whole done : List Char) (number : Nat) (call : Call ι v) : Prop where
  start : Input.position call.before = done.length
  /-- What happens accounts for the text behind the cursor. -/
  events : Accounts whole done call.events
  /-- What is matched is the text between the two positions. -/
  text : done ++ taken call.events <+: whole
  stop : Input.position call.after = (done ++ taken call.events).length
  /-- A fault comes from the reader itself or from a handler of the construct, at the end. -/
  fault : ∀ fault, call.answer = some (.error fault) → EndsWith number fault call.events

/-- What holds of reads one after the other behind the text `done`. -/
def AccountedCalls (whole : List Char) :
    List Char → List (Nat × Nat × σ) → List (Call ι v) → Prop
  | _, [], [] => True
  | done, (_, number, _) :: asked, call :: calls =>
    call.Accounted whole done number ∧
      AccountedCalls whole (done ++ taken call.events) asked calls
  | _, _, _ => False

/-! ## Handlers and constructs -/

section

variable {whole : List Char} {Behind : ι → List Char → Prop}

/-- What is kept while a construct is read: the events account for the text, the cursor is behind
what they take, and a fault is the last thing that happens. -/
structure Kept (whole : List Char) (Behind : ι → List Char → Prop) (done : List Char)
    (construct : Nat) {α : Type} (events : List Event) (outcome : Option (Except Fault α) × ι) :
    Prop where
  accounts : Accounts whole done events
  behind : Behind outcome.2 (done ++ taken events)
  fault : ∀ fault, outcome.1 = some (.error fault) → EndsWith construct fault events

omit [Input ι (List Char)] in
theorem Kept.nil {done : List Char} {construct : Nat} {α : Type}
    {outcome : Option (Except Fault α) × ι} (hbehind : Behind outcome.2 done)
    (hfine : ∀ fault, outcome.1 ≠ some (.error fault)) :
    Kept whole Behind done construct [] outcome :=
  ⟨trivial, by rwa [taken_nil, List.append_nil], fun fault heq => absurd heq (hfine fault)⟩

omit [Input ι (List Char)] in
/-- What is kept behind the text that other events have taken. -/
theorem Kept.append {done : List Char} {construct : Nat} {α : Type} {before events : List Event}
    {outcome : Option (Except Fault α) × ι} (hbefore : Accounts whole done before)
    (h : Kept whole Behind (done ++ taken before) construct events outcome) :
    Kept whole Behind done construct (before ++ events) outcome where
  accounts := hbefore.append h.accounts
  behind := by
    rw [taken_append, ← List.append_assoc]
    exact h.behind
  fault fault heq := (h.fault fault heq).append before

/-- **What a handler keeps**, if reading a construct keeps it. -/
theorem handle_account {read : Nat → σ → ι → Option (Except Fault v) × ι}
    {events : Nat → σ → ι → List Event}
    (hread : ∀ number gathered input done, Behind input done →
      Kept whole Behind done number (events number gathered input) (read number gathered input))
    (construct : Nat) (handling : Handling σ v) : ∀ input done, Behind input done →
      Kept whole Behind done construct (handleEvents construct read events handling input)
        (handle read handling input) := by
  induction handling with
  | finish outcome =>
    intro input done hinput
    cases outcome with
    | error fault =>
      have hbehind : Behind input (done ++ taken [.failed construct fault]) := by
        simpa [Event.text] using hinput
      refine ⟨trivial, hbehind, fun fault' heq => ?_⟩
      cases heq
      exact ⟨[], .failed construct fault, rfl, Or.inr rfl⟩
    | ok result => exact .nil hinput fun fault heq => by cases heq
  | locate k ih => exact fun input done hinput => ih (Input.position input) input done hinput
  | attach attached gathered k ih =>
    intro input done hinput
    obtain ⟨haccounts, hbehind, -⟩ := hread attached gathered input done hinput
    unfold handleEvents handle
    generalize hout : read attached gathered input = out at hbehind
    obtain ⟨answer, after⟩ := out
    -- the handler goes on behind what the attached construct has taken
    refine .append haccounts ?_
    cases answer with
    | none => exact .nil hbehind fun fault heq => by cases heq
    | some answer => exact ih answer after _ hbehind

/-- The reader gives up for a reason where no rule matches the window. -/
theorem givesUp_of_choose {c : Construct σ v} {done rest : List Char} {count : Nat}
    (hcount : 0 < count) (hwhole : whole = done ++ rest) {fault : Fault}
    (h : choose c (rest.take count) = .error fault) : GivesUp whole done fault := by
  unfold choose at h
  split at h
  · cases h
  · split at h
    · rename_i hempty
      cases h
      have hnil : rest = [] := by
        have htake : rest.take count = [] := List.isEmpty_iff.1 hempty
        rcases List.take_eq_nil_iff.1 htake with hzero | hnil
        · omega
        · exact hnil
      exact .unexpectedEnd _ (by rw [hwhole, hnil, List.append_nil])
    · rename_i hmore
      cases h
      have hlength : 0 < rest.length := by
        cases rest with
        | nil => simp at hmore
        | cons c rest => exact Nat.succ_pos _
      exact .noMatch _ _ (by rw [hwhole, List.length_append]; omega)

theorem front_of_choose {r : Reader σ v} (hr : r.Anchored) {number : Nat} {window : List Char}
    {handler : σ → Match → Handling σ v} {found : Match}
    (h : choose (r.construct number) window = .ok (handler, found)) : found.whole <+: window := by
  unfold choose at h
  split at h
  · rename_i rule m hfirst
    cases h
    have hmem := Pattern.mem_of_firstMatch? hfirst
    exact hr number rule hmem.1 window _ hmem.2
  · split at h <;> cases h

/-- **What reading a construct keeps.** -/
theorem read_account (h : Provides whole Behind) {r : Reader σ v} (hr : r.Anchored)
    (hwindow : 0 < r.window) : ∀ (limit number : Nat) (gathered : σ) (input : ι) (done : List Char),
      Behind input done → Kept whole Behind done number (r.events limit number gathered input)
        (r.read limit number gathered input) := by
  intro limit
  induction limit with
  | zero =>
    intro number gathered input done hinput
    refine ⟨trivial, ?_, fun fault heq => by cases heq⟩
    show Behind input (done ++ [])
    rwa [List.append_nil]
  | succ limit ih =>
    intro number gathered input done hinput
    obtain ⟨rest, hrest⟩ := h.behind hinput
    have hwhole : whole = done ++ rest := hrest.symm
    obtain ⟨peeked, hpeek, hpeeked⟩ := h.peek hinput hwhole r.window
    have hbase : Input.position input = done.length := h.position hinput
    unfold events read
    simp only [hpeek]
    cases hchoose : choose (r.construct number) (rest.take r.window) with
    | error fault =>
      refine ⟨⟨h.position hpeeked, givesUp_of_choose hwindow hwhole hchoose, trivial⟩, ?_, ?_⟩
      · simpa [Event.text] using hpeeked
      · intro fault' heq
        cases heq
        exact ⟨[], _, rfl, Or.inl ⟨_, rfl⟩⟩
    | ok chosen =>
      obtain ⟨handler, found⟩ := chosen
      have hfront : found.whole <+: rest :=
        (front_of_choose hr hchoose).trans (List.take_prefix _ _)
      have htaken : rest.take found.whole.length = found.whole :=
        (List.prefix_iff_eq_take.1 hfront).symm
      obtain ⟨skipped, hskip, hskipped⟩ := h.skip hpeeked hwhole found.whole.length
      rw [htaken] at hskipped
      have hunits : unitsIn (List Char) found.whole = found.whole.length := rfl
      have hfired : Accounts whole done [.fired number found.whole (Input.position input)] :=
        ⟨hbase, h.behind hskipped, trivial⟩
      have hhandled := handle_account ih number (handler gathered found) skipped _ hskipped
      simp only [hunits, hskip]
      generalize handleEvents number (r.read limit) (r.events limit) (handler gathered found)
        skipped = inner at hhandled
      generalize handle (r.read limit) (handler gathered found) skipped = out at hhandled
      obtain ⟨outcome, after⟩ := out
      -- the match, what the handler does, and then what the reader makes of the outcome
      have htext : taken [.fired number found.whole (Input.position input)] = found.whole :=
        List.append_nil found.whole
      refine .append hfired ?_
      rw [htext]
      cases outcome with
      | none =>
        exact .append hhandled.accounts (.nil hhandled.behind fun fault heq => by cases heq)
      | some result =>
        cases result with
        | error fault =>
          -- the handler has ended with a fault, and nothing happens after it
          show Kept whole Behind (done ++ found.whole) number (inner ++ [])
            ((some (.error fault) : Option (Except Fault v)), after)
          rw [List.append_nil]
          refine ⟨hhandled.accounts, hhandled.behind, fun fault' heq => hhandled.fault fault' ?_⟩
          cases heq
          rfl
        | ok result =>
          obtain ⟨step, gathered'⟩ := result
          refine .append hhandled.accounts ?_
          cases step with
          | done value => exact .nil hhandled.behind fun fault heq => by cases heq
          | more =>
            by_cases hstalled : Input.position after = Input.position input
            · simp only [if_pos hstalled]
              have hafter := h.position hhandled.behind
              refine ⟨⟨hafter, .stalled _, trivial⟩, ?_, fun fault heq => ?_⟩
              · simpa [Event.text] using hhandled.behind
              · cases heq
                exact ⟨[], _, rfl, Or.inl ⟨_, rfl⟩⟩
            · simp only [if_neg hstalled]
              exact ih number gathered' after _ hhandled.behind

/-- **What reads one after the other keep**, whatever they end with. -/
theorem calls_account (h : Provides whole Behind) {r : Reader σ v} (hr : r.Anchored)
    (hwindow : 0 < r.window) : ∀ (asked : List (Nat × Nat × σ)) (input : ι) (done : List Char),
      Behind input done → AccountedCalls whole done asked (r.calls asked input)
  | [], _, _, _ => trivial
  | (limit, number, gathered) :: asked, input, done, hinput => by
    have hkept := read_account h hr hwindow limit number gathered input done hinput
    refine ⟨?_, calls_account h hr hwindow asked _ _ hkept.behind⟩
    exact {
      start := h.position hinput
      events := hkept.accounts
      text := h.behind hkept.behind
      stop := h.position hkept.behind
      fault := hkept.fault }

end

/-! ## Readers of texts -/

/-- A construct whose patterns close no groups that they have not opened matches in front only. -/
theorem front_of_addRules {c : Construct σ v} {sources : List (String × (σ → Match → Handling σ v))}
    (hsources : ∀ source ∈ sources, ¬ClosesUnopened source.1) :
    ∀ {c₀ : Construct σ v}, c₀.addRules sources = .ok c →
      (∀ rule ∈ c₀.rules, ∀ text found, rule.1.match? text = some found → found.whole <+: text) →
        ∀ rule ∈ c.rules, ∀ text found, rule.1.match? text = some found → found.whole <+: text := by
  induction sources with
  | nil =>
    intro c₀ h hc₀
    cases h
    exact hc₀
  | cons source sources ih =>
    obtain ⟨source, handler⟩ := source
    intro c₀ h hc₀
    unfold Construct.addRules Construct.addRule inContext at h
    cases hpattern : anchored source with
    | error fault =>
      rw [hpattern] at h
      cases h
    | ok pattern =>
      rw [hpattern] at h
      refine ih (fun s hs => hsources s (List.mem_cons_of_mem _ hs)) h fun rule hrule => ?_
      rcases List.mem_append.1 hrule with hrule | hrule
      · exact hc₀ rule hrule
      · rw [List.mem_singleton.1 hrule]
        intro text found hfound
        have hfront := startsInFront_of_anchored hpattern (hsources _ List.mem_cons_self)
        exact hfront.whole_isPrefix hfound

/-- **Reading accounts for the text.** Reads one after the other, each going on where the one before
it ends, however that ends: the rules that fire during a read, at whichever depth, match one behind
the other the text between its two positions, and the reader says that the text has ended at its end
only and that nothing matches before it only. -/
theorem accounted_calls {r : Reader σ v} (hr : r.Anchored) (hwindow : 0 < r.window)
    (text : List Char) (asked : List (Nat × Nat × σ)) :
    (∀ cursor done, TextCursor.At text done cursor →
      AccountedCalls text done asked (r.calls asked cursor)) ∧
    ∀ source : Source, source.ReadsFully → source.bytes = encode text →
      ∀ input done, BufferedText.At source done input →
        AccountedCalls text done asked (r.calls asked input) :=
  ⟨fun cursor done hcursor => calls_account (TextCursor.provides text) hr hwindow asked cursor done
      hcursor,
    fun _ hreads hbytes input done hinput =>
      calls_account (BufferedText.provides hreads hbytes) hr hwindow asked input done hinput⟩

/-- The rules of lists in parentheses, which gather how many there are within. -/
def nestedRules : List (String × (Nat → Match → Handling Nat Nat)) := [
  ("\\(", fun inside _ => .attach 0 0 fun
    | .error fault => .finish (.error fault)
    | .ok more => .finish (.ok (.more, inside + more + 1))),
  ("\\)", fun inside _ => .finish (.ok (.done inside, inside)))]

/-- Lists in parentheses. -/
def nested : Reader Nat Nat where
  construct _ := ⟨"list", nestedRules.zipWith
    (fun rule set => (⟨anchor rule.1, .single set⟩, rule.2)) [.single '(', .single ')']⟩
  window := 1

theorem nested_eq (number : Nat) :
    Construct.addRules ⟨"list", []⟩ nestedRules = .ok (nested.construct number) := rfl

theorem anchored_nested : nested.Anchored := by
  intro number
  have hsources : ∀ source ∈ nestedRules, ¬ClosesUnopened source.1 := by decide
  exact front_of_addRules hsources (nested_eq number) fun rule hrule => absurd hrule (by simp)

/-- A list that is closed leaves what is behind it, and one that is not takes all that is left. -/
theorem accounted_calls_nested :
    let text := "())(()".toList
    let asked := [(9, 0, 0), (9, 0, 0)]
    let calls := nested.calls asked (TextCursor.ofText text)
    let source := Source.ofBytes (encode text)
    AccountedCalls text [] asked calls ∧
      AccountedCalls text [] asked (nested.calls asked (BufferedText.ofSource source 1)) ∧
      calls.map (fun call => call.answer.map Except.toOption) = [some (some 1), some none] ∧
      calls.map Call.events = [
        [.fired 0 ['('] 0, .fired 0 [')'] 1, .fired 0 [')'] 2],
        [.fired 0 ['('] 3, .fired 0 ['('] 4, .fired 0 [')'] 5,
          .gaveUp 0 (.unexpectedEnd "list") 6, .failed 0 (.unexpectedEnd "list")]] :=
  have haccounted := accounted_calls anchored_nested Nat.zero_lt_one "())(()".toList
    [(9, 0, 0), (9, 0, 0)]
  ⟨haccounted.1 _ [] (TextCursor.at_ofText _),
    haccounted.2 _ (Source.readsFully_ofBytes _) rfl _ [] (BufferedText.at_ofSource _ 1),
    by decide +kernel, by decide +kernel⟩

end Reader

end Lexis
