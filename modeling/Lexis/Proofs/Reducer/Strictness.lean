import Lexis.Proofs.Reducer.Routing

/-!
# Strict grouping

Strict grouping is one more cause to refuse an END: it names another group than the one that its
span carries. Until an END of this kind is met, a strict and a permissive reducer with the same
reductions are in the same state and answer the same, and there the strict one fails.

Principal results:

* `Reducer.feed_of_clashes`, `Reducer.feed_of_agrees` — one token;
* `Reducing.next_alongside` — the way to the next answer;
* `ReducedSeries.transcript_strict` — all answers, however the runs are asked.
-/

namespace Lexis

variable {V : Type}

namespace Reducer

/-- The same reductions, with strict grouping or without. -/
def withStrict (r : Reducer V) (strict : Bool) : Reducer V := { r with strict := strict }

variable [GroupNamed V]

/-- The token is an END that names another group than the innermost of the spans carries. -/
structure Clashes (t : Token V) (spans : List (Span V)) (opened closed : String) : Prop where
  isEnd : t.isFinish = true
  carried : spans.head?.bind Span.group = some opened
  named : group? t.value = some closed
  differ : opened ≠ closed

/-- The spans that are open when an item of the supply has been taken in. -/
def takeIn (r : Reducer V) (spans : List (Span V)) : Except Fault (Token V) → List (Span V)
  | .ok t => (r.feed t spans).2
  | .error _ => spans

/-- The spans that are open when the items have been taken in. -/
def spansAfter (r : Reducer V) (items : List (Except Fault (Token V))) (spans : List (Span V)) :
    List (Span V) :=
  items.foldl r.takeIn spans

variable {r : Reducer V} {t : Token V} {spans : List (Span V)} {opened closed : String}

/-! ## One token -/

/-- **An END that clashes is refused by a strict reducer**, and its span is taken away. -/
theorem feed_of_clashes (h : Clashes t spans opened closed) :
    (r.withStrict true).feed t spans = (.error (.mismatchedGroup opened closed), spans.tail) := by
  obtain ⟨hend, hcarried, hnamed, hdiffer⟩ := h
  cases spans with
  | nil => cases hcarried
  | cons span spans =>
    have hspan : span.group = some opened := hcarried
    have hfilter : span.group.filter
        (fun opened => (r.withStrict true).strict && opened != closed) = some opened := by
      simp [hspan, withStrict, hdiffer]
    simp only [feed, hend, close, hnamed, hfilter, List.tail_cons, if_true]

/-- **Any other token is the same to a strict reducer and to a permissive one.** -/
theorem feed_of_agrees (h : ∀ opened closed, ¬Clashes t spans opened closed) :
    (r.withStrict true).feed t spans = (r.withStrict false).feed t spans := by
  cases hend : t.isFinish with
  | false => rw [feed_of_not_finish hend, feed_of_not_finish hend]
  | true =>
    have hclose : (r.withStrict true).close t spans = (r.withStrict false).close t spans := by
      cases hnamed : group? t.value with
      | none => simp only [close, hnamed]
      | some closed =>
        cases spans with
        | nil => simp only [close, hnamed]
        | cons span spans =>
          have hagree : span.group = none ∨ span.group = some closed := by
            cases hspan : span.group with
            | none => exact Or.inl rfl
            | some opened =>
              refine Or.inr (congrArg some ?_)
              by_contra hdiffer
              exact h opened closed ⟨hend, hspan, hnamed, hdiffer⟩
          simp only [close, hnamed, filter_of_agree fun _ => hagree]
          rfl
    simp only [feed, hend, hclose]

theorem feed_ne_mismatched (r : Reducer V) (t : Token V) (spans : List (Span V))
    (opened closed : String) :
    ((r.withStrict false).feed t spans).1 ≠ .error (.mismatchedGroup opened closed) := by
  have hloose : (r.withStrict false).strict = true → False := Bool.false_ne_true
  intro h
  unfold feed at h
  split at h
  · unfold close at h
    simp only [filter_of_agree fun hstrict => (hloose hstrict).elim] at h
    grind
  · cases h

/-- **The fault of strict grouping is that of an END that clashes**, and of no other token. -/
theorem feed_mismatched_iff :
    ((r.withStrict true).feed t spans).1 = .error (.mismatchedGroup opened closed) ↔
      Clashes t spans opened closed := by
  constructor
  · intro h
    by_cases hclash : ∃ opened closed, Clashes t spans opened closed
    · obtain ⟨opened', closed', hclash⟩ := hclash
      rw [feed_of_clashes hclash] at h
      cases h
      exact hclash
    · rw [feed_of_agrees fun opened closed h => hclash ⟨opened, closed, h⟩] at h
      exact absurd h (feed_ne_mismatched r t spans opened closed)
  · intro h
    rw [feed_of_clashes h]

/-! ## Runs alongside each other -/

variable {items front back : List (Except Fault (Token V))}

/-- A strict and a permissive run over the items have taken in the same ones in front, no END among
these clashes, and the same spans are open behind them. -/
structure Alongside (r : Reducer V) (items : List (Except Fault (Token V))) (spans : List (Span V))
    (front back : List (Except Fault (Token V))) : Prop where
  split : items = front ++ back
  agrees : ∀ before t after, front = before ++ .ok t :: after → ∀ opened closed,
    ¬Clashes t ((r.withStrict true).spansAfter before spans) opened closed
  spans : (r.withStrict true).spansAfter front spans = (r.withStrict false).spansAfter front spans

theorem spansAfter_append (r : Reducer V) (front back : List (Except Fault (Token V)))
    (spans : List (Span V)) :
    r.spansAfter (front ++ back) spans = r.spansAfter back (r.spansAfter front spans) :=
  List.foldl_append

theorem Alongside.refl (r : Reducer V) (items : List (Except Fault (Token V)))
    (spans : List (Span V)) : r.Alongside items spans [] items := by
  refine ⟨rfl, fun before t after hsplit => ?_, rfl⟩
  simp at hsplit

theorem Alongside.fault (r : Reducer V) (fault : Fault) (items : List (Except Fault (Token V)))
    (spans : List (Span V)) : r.Alongside (.error fault :: items) spans [.error fault] items := by
  refine ⟨rfl, fun before t after hsplit => ?_, rfl⟩
  have hmem : (.ok t : Except Fault (Token V)) ∈ [.error fault] := by rw [hsplit]; simp
  cases List.mem_singleton.1 hmem

theorem Alongside.token (h : ∀ opened closed, ¬Clashes t spans opened closed)
    (items : List (Except Fault (Token V))) :
    r.Alongside (.ok t :: items) spans [.ok t] items := by
  refine ⟨rfl, fun before u after hsplit => ?_, ?_⟩
  · obtain ⟨rfl, hlast⟩ := List.singleton_eq_append_iff.1 hsplit |>.resolve_right (by simp)
    cases hlast
    exact h
  · exact congrArg Prod.snd (feed_of_agrees h)

theorem Alongside.trans {middle : List (Except Fault (Token V))}
    (h : r.Alongside items spans front middle)
    {front' : List (Except Fault (Token V))}
    (h' : r.Alongside middle ((r.withStrict true).spansAfter front spans) front' back) :
    r.Alongside items spans (front ++ front') back := by
  refine ⟨?_, fun before t after hsplit => ?_, ?_⟩
  · rw [h.split, h'.split, List.append_assoc]
  · rcases List.append_eq_append_iff.1 hsplit with ⟨more, rfl, hmore⟩ | ⟨more, rfl, hmore⟩
    · rw [spansAfter_append]
      exact h'.agrees more t after hmore
    · cases more with
      | nil =>
        have hfirst := h'.agrees [] t after hmore.symm
        rw [List.append_nil] at hfirst
        exact hfirst
      | cons item more =>
        obtain ⟨rfl, -⟩ := List.cons.inj hmore
        exact h.agrees before t more rfl
  · rw [spansAfter_append, spansAfter_append, h'.spans, h.spans]

/-- A run of the strict reducer is where it has gone alongside that of the permissive one. -/
inductive InStep (r : Reducer V) (items : List (Except Fault (Token V))) (spans : List (Span V)) :
    Reducing (List (Except Fault (Token V))) V → Prop where
  | at {front back : List (Except Fault (Token V))} : r.Alongside items spans front back →
      InStep r items spans ⟨back, (r.withStrict true).spansAfter front spans⟩

/-- The strict reducer answers that groups do not match, and its run is behind the END that clashes,
without the span of that END. Up to this END the runs have gone alongside each other. -/
inductive Parts (r : Reducer V) (items : List (Except Fault (Token V))) (spans : List (Span V)) :
    Pull V → Reducing (List (Except Fault (Token V))) V → Prop where
  | at {front back : List (Except Fault (Token V))} {finish : Token V} {opened closed : String} :
      r.Alongside items spans front (.ok finish :: back) →
      Clashes finish ((r.withStrict true).spansAfter front spans) opened closed →
      Parts r items spans (.item (.error (.mismatchedGroup opened closed)))
        ⟨back, ((r.withStrict true).spansAfter front spans).tail⟩

variable {run : Reducing (List (Except Fault (Token V))) V} {answer : Pull V}

theorem Alongside.inStep (h : r.Alongside items spans front back)
    (hrun : r.InStep back ((r.withStrict true).spansAfter front spans) run) :
    r.InStep items spans run := by
  obtain ⟨hmore⟩ := hrun
  have hwhole := h.trans hmore
  rw [← spansAfter_append]
  exact .at hwhole

theorem Alongside.parts (h : r.Alongside items spans front back)
    (hrun : r.Parts back ((r.withStrict true).spansAfter front spans) answer run) :
    r.Parts items spans answer run := by
  obtain ⟨hmore, hclash⟩ := hrun
  have hwhole := h.trans hmore
  rw [← spansAfter_append] at hclash ⊢
  exact .at hwhole hclash

end Reducer

variable [GroupNamed V]

/-- **The way to the next answer**: a strict and a permissive run over the same items go it
together, or an END clashes. -/
theorem Reducing.next_alongside (r : Reducer V) (limit pulls : Nat)
    (items : List (Except Fault (Token V))) (spans : List (Span V)) :
    (next (r.withStrict true) limit pulls ⟨items, spans⟩ =
        next (r.withStrict false) limit pulls ⟨items, spans⟩ ∧
      r.InStep items spans (next (r.withStrict true) limit pulls ⟨items, spans⟩).2) ∨
    r.Parts items spans (next (r.withStrict true) limit pulls ⟨items, spans⟩).1
      (next (r.withStrict true) limit pulls ⟨items, spans⟩).2 := by
  induction pulls generalizing items spans with
  | zero => exact Or.inl ⟨rfl, .at (.refl r items spans)⟩
  | succ pulls ih =>
    rcases items with _ | ⟨fault | t, items⟩
    · exact Or.inl ⟨rfl, .at (.refl r [] spans)⟩
    · exact Or.inl ⟨rfl, .at (.fault r fault items spans)⟩
    · have hpull : Supply.pull limit (.ok t :: items) = (.item (.ok t), items) := rfl
      rw [next_of_pull hpull, next_of_pull hpull]
      by_cases hclash : ∃ opened closed, Reducer.Clashes t spans opened closed
      · obtain ⟨opened, closed, hclash⟩ := hclash
        rw [Reducer.feed_of_clashes hclash]
        exact Or.inr (.at (.refl r (.ok t :: items) spans) hclash)
      · have hagrees : ∀ opened closed, ¬Reducer.Clashes t spans opened closed :=
          fun opened closed h => hclash ⟨opened, closed, h⟩
        have hone := Reducer.Alongside.token (r := r) hagrees items
        rw [← Reducer.feed_of_agrees hagrees]
        obtain ⟨fed, between, hfeed⟩ :
            ∃ fed between, (r.withStrict true).feed t spans = (fed, between) := ⟨_, _, rfl⟩
        have hafter : (r.withStrict true).spansAfter [.ok t] spans = between :=
          congrArg Prod.snd hfeed
        rw [hfeed]
        rcases fed with fault | _ | token
        · exact Or.inl ⟨rfl, hafter ▸ .at hone⟩
        · rcases ih items between with ⟨halike, hrun⟩ | hparts
          · exact Or.inl ⟨halike, hone.inStep (hafter ▸ hrun)⟩
          · exact Or.inr (hone.parts (hafter ▸ hparts))
        · exact Or.inl ⟨rfl, hafter ▸ .at hone⟩

namespace ReducedSeries

/-- The series when it has been asked in these ways. -/
def after {υ : Type} [Supply υ V] (limit : Nat) (askings : List Asking) (s : ReducedSeries υ V) :
    ReducedSeries υ V :=
  askings.foldl (fun s asking => (s.ask limit asking).2) s

variable {r : Reducer V} {items : List (Except Fault (Token V))} {spans : List (Span V)}

theorem ask_alongside (r : Reducer V) (limit : Nat) (items : List (Except Fault (Token V)))
    (spans : List (Span V)) (finished : Bool) (asking : Asking) :
    (∃ answer run finished',
      ask limit ⟨r.withStrict true, ⟨items, spans⟩, finished⟩ asking =
        (answer, ⟨r.withStrict true, run, finished'⟩) ∧
      ask limit ⟨r.withStrict false, ⟨items, spans⟩, finished⟩ asking =
        (answer, ⟨r.withStrict false, run, finished'⟩) ∧
      r.InStep items spans run) ∨
    ∃ answer run finished',
      ask limit ⟨r.withStrict true, ⟨items, spans⟩, finished⟩ asking =
        (answer, ⟨r.withStrict true, run, finished'⟩) ∧
      r.Parts items spans answer run := by
  have hnext := Reducing.next_alongside r limit limit items spans
  obtain ⟨answer, run, hstrict⟩ : ∃ answer run,
      Reducing.next (r.withStrict true) limit limit ⟨items, spans⟩ = (answer, run) := ⟨_, _, rfl⟩
  rw [hstrict] at hnext
  cases asking with
  | token =>
    rcases hnext with ⟨halike, hrun⟩ | hparts
    · refine Or.inl ⟨answer, run, finished, ?_, ?_, hrun⟩
      · simp only [ask, hstrict]
      · simp only [ask, ← halike]
    · refine Or.inr ⟨answer, run, finished, ?_, hparts⟩
      simp only [ask, hstrict]
  | series =>
    cases finished with
    | true => exact Or.inl ⟨.ended, ⟨items, spans⟩, true, rfl, rfl, .at (.refl r items spans)⟩
    | false =>
      rcases hnext with ⟨halike, hrun⟩ | hparts
      · refine Or.inl ⟨answer, run, isLast answer, ?_, ?_, hrun⟩
        · simp [ask, pull, hstrict]
        · simp [ask, pull, ← halike]
      · refine Or.inr ⟨answer, run, isLast answer, ?_, hparts⟩
        simp [ask, pull, hstrict]

/-- The runs answer alike, or an END clashes at one of the answers. -/
theorem transcript_alongside (r : Reducer V) (limit : Nat) (items : List (Except Fault (Token V)))
    (spans : List (Span V)) (finished : Bool) (askings : List Asking) :
    let strict : ReducedSeries (List (Except Fault (Token V))) V :=
      ⟨r.withStrict true, ⟨items, spans⟩, finished⟩
    let loose : ReducedSeries (List (Except Fault (Token V))) V :=
      ⟨r.withStrict false, ⟨items, spans⟩, finished⟩
    (strict.transcript limit askings = loose.transcript limit askings ∧
      (strict.after limit askings).run = (loose.after limit askings).run ∧
      r.InStep items spans (strict.after limit askings).run) ∨
    ∃ before asking behind answer run, askings = before ++ asking :: behind ∧
      strict.transcript limit before = loose.transcript limit before ∧
      strict.transcript limit (before ++ [asking]) =
        strict.transcript limit before ++ [(answer, run.pending)] ∧
      r.Parts items spans answer run := by
  induction askings generalizing items spans finished with
  | nil => exact Or.inl ⟨rfl, rfl, .at (.refl r items spans)⟩
  | cons asking askings ih =>
    rcases ask_alongside r limit items spans finished asking with
      ⟨answer, _, finished', hstrict, hloose, @⟨front, back, hfront⟩⟩ |
      ⟨answer, run, finished', hstrict, hparts⟩
    · rcases ih back ((r.withStrict true).spansAfter front spans) finished' with
        ⟨htranscript, hafter, hrun⟩ |
        ⟨before, last, behind, answer', run, hsplit, htranscript, hlast, hparts⟩
      · refine Or.inl ⟨?_, ?_, ?_⟩
        · rw [transcript, transcript, hstrict, hloose, htranscript]
        · simp only [after, List.foldl_cons, hstrict, hloose] at hafter ⊢
          exact hafter
        · simp only [after, List.foldl_cons, hstrict] at hrun ⊢
          exact hfront.inStep hrun
      · refine Or.inr ⟨asking :: before, last, behind, answer', run, ?_, ?_, ?_, ?_⟩
        · rw [hsplit, List.cons_append]
        · rw [transcript, transcript, hstrict, hloose, htranscript]
        · rw [List.cons_append, transcript, transcript, hstrict, hlast, List.cons_append]
        · exact hfront.parts hparts
    · refine Or.inr ⟨[], asking, askings, answer, run, rfl, rfl, ?_, hparts⟩
      show transcript limit [asking] _ = [(answer, run.pending)]
      rw [transcript, hstrict]
      rfl

/-- **Strict grouping adds one fault and nothing else.** A strict and a permissive run over the same
items with the same reductions, asked in the same ways, answer the same with the same spans open
after each answer, and nothing that they have taken in is an END that clashes; or up to some answer
they do, and this answer of the strict one is the fault of the first END that clashes, which the
runs have reached with the same spans open. This fault is raised for no other token, and never by
the permissive reducer; one more pull than there are items is enough for all answers. -/
theorem transcript_strict (r : Reducer V) (items : List (Except Fault (Token V)))
    (first : List (Span V)) {limit : Nat} (hlimit : items.length < limit) (askings : List Asking) :
    let strict := ofRun (r.withStrict true) (Reducing.start items first)
    let loose := ofRun (r.withStrict false) (Reducing.start items first)
    ((strict.transcript limit askings = loose.transcript limit askings ∧
        (strict.after limit askings).run = (loose.after limit askings).run ∧
        r.InStep items first.reverse (strict.after limit askings).run) ∨
      ∃ before asking behind answer run, askings = before ++ asking :: behind ∧
        strict.transcript limit before = loose.transcript limit before ∧
        strict.transcript limit (before ++ [asking]) =
          strict.transcript limit before ++ [(answer, run.pending)] ∧
        r.Parts items first.reverse answer run) ∧
    (∀ t spans opened closed,
      (((r.withStrict true).feed t spans).1 = .error (.mismatchedGroup opened closed) ↔
        Reducer.Clashes t spans opened closed) ∧
      ((r.withStrict false).feed t spans).1 ≠ .error (.mismatchedGroup opened closed)) ∧
    (∀ a ∈ strict.transcript limit askings, a.1 ≠ .outOfRounds) ∧
    ∀ a ∈ loose.transcript limit askings, a.1 ≠ .outOfRounds := by
  intro strict loose
  refine ⟨transcript_alongside r limit items first.reverse false askings, ?_, ?_, ?_⟩
  · intro t spans opened closed
    exact ⟨Reducer.feed_mismatched_iff, Reducer.feed_ne_mismatched r t spans opened closed⟩
  · exact transcript_ne_outOfRounds (s := strict) hlimit askings
  · exact transcript_ne_outOfRounds (s := loose) hlimit askings

/-- A string that is closed as an array, behind a number. -/
theorem transcript_strict_string :
    let items : List (Except Fault (Token Value)) :=
      [.ok (Demo.numberToken 1), .ok (.start (.text Demo.stringGroup)), .ok Demo.arrayTokens.2]
    let strict := ofRun (Demo.reducer.withStrict true) (Reducing.start items [])
    let loose := ofRun (Demo.reducer.withStrict false) (Reducing.start items [])
    ∃ before asking behind answer run, [.series, .token] = before ++ asking :: behind ∧
      strict.transcript 4 before = loose.transcript 4 before ∧
      strict.transcript 4 (before ++ [asking]) =
        strict.transcript 4 before ++ [(answer, run.pending)] ∧
      Demo.reducer.Parts items [] answer run := by
  intro items strict loose
  have hlimit : items.length < 4 := by decide
  obtain ⟨hboth, -⟩ := transcript_strict Demo.reducer items [] hlimit [.series, .token]
  rcases hboth with ⟨halike, -⟩ | hparts
  · cases halike
  · exact hparts

end ReducedSeries

end Lexis
