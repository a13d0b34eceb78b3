import Lexis.Proofs.Reducer.Collecting

/-!
# Where the result of a reduction goes

The token that takes the place of a span is routed as if it were the next one of the supply, unless
it is named END: it is dropped, opens a span, becomes a child of the span around, or comes out. An
END of the supply closes a span, but one that a reduction gives closes nothing, so it comes out or
becomes a child. Other than that, what a reducer hands on, out or to a span, has a name and marks
neither end of a span.

Principal results:

* `Reducing.next_of_result` — a result and a token in front of the supply;
* `Reducer.feed_handsOn`, `ReducedSeries.transcript_handsOn` — what is handed on;
* `ReducedSeries.transcript_of_result` — a run behind a reduction.
-/

namespace Lexis

variable {υ V : Type}

/-! ## Items in front of a supply -/

/-- A supply with items in front of it. -/
structure Ahead (υ V : Type) where
  items : List (Except Fault (Token V))
  supply : υ

instance [Supply υ V] : Supply (Ahead υ V) V where
  pull limit s :=
    match s.items with
    | item :: items => (.item item, ⟨items, s.supply⟩)
    | [] => ((Supply.pull limit s.supply).1, ⟨[], (Supply.pull limit s.supply).2⟩)

/-- The run over the same supply, with nothing in front of it. -/
def Reducing.ahead (run : Reducing υ V) : Reducing (Ahead υ V) V := ⟨⟨[], run.supply⟩, run.spans⟩

/-- The series over the same supply, with nothing in front of it. -/
def ReducedSeries.ahead (s : ReducedSeries υ V) : ReducedSeries (Ahead υ V) V :=
  ⟨s.reducer, s.run.ahead, s.finished⟩

variable [GroupNamed V] [Supply υ V] {r : Reducer V} {limit : Nat}

theorem Reducing.next_ahead (pulls : Nat) (run : Reducing υ V) :
    next r limit pulls run.ahead =
      ((next r limit pulls run).1, (next r limit pulls run).2.ahead) := by
  induction pulls generalizing run with
  | zero => rfl
  | succ pulls ih =>
    obtain ⟨supply, spans⟩ := run
    obtain ⟨pull, left, hpull⟩ : ∃ pull left, Supply.pull limit supply = (pull, left) := ⟨_, _, rfl⟩
    have hahead : Supply.pull limit (⟨[], supply⟩ : Ahead υ V) = (pull, ⟨[], left⟩) := by
      simp only [Supply.pull, hpull]
    rcases pull with (fault | t) | _ | _
    · simp only [ahead, next, hpull, hahead]
    · rw [ahead, next_of_pull hpull, next_of_pull hahead]
      rcases r.feed t spans with ⟨fault | _ | token, between⟩
      · rfl
      · exact ih ⟨left, between⟩
      · rfl
    · simp only [ahead, next, hpull, hahead]
    · simp only [ahead, next, hpull, hahead]

theorem ReducedSeries.ask_ahead (s : ReducedSeries υ V) (asking : Asking) :
    s.ahead.ask limit asking = ((s.ask limit asking).1, (s.ask limit asking).2.ahead) := by
  obtain ⟨reducer, run, finished⟩ := s
  cases asking with
  | token => simp only [ask, ahead, Reducing.next_ahead]
  | series =>
    cases finished <;> simp [ask, pull, ahead, Reducing.next_ahead]

theorem ReducedSeries.transcript_ahead (s : ReducedSeries υ V) (askings : List Asking) :
    s.ahead.transcript limit askings = s.transcript limit askings := by
  induction askings generalizing s with
  | nil => rfl
  | cons asking askings ih =>
    rw [transcript, transcript, ask_ahead, ih]
    rfl

/-! ## What is handed on -/

namespace Reducer

/-- One of the reductions makes the token of some children. -/
def Gives (r : Reducer V) (t : Token V) : Prop :=
  ∃ group reduce children, r.reductions.lookup group = some reduce ∧ reduce children = t

omit [GroupNamed V] in
theorem not_gives_empty (strict : Bool) (t : Token V) : ¬(Reducer.empty strict).Gives t := by
  rintro ⟨group, reduce, children, hlookup, -⟩
  cases hlookup

omit [GroupNamed V] in
theorem Gives.of_register {group : String} {reduce : List (Token V) → Token V} {t : Token V}
    (h : (r.register group reduce).Gives t) : (∃ children, reduce children = t) ∨ r.Gives t := by
  obtain ⟨name, found, children, hlookup, hgives⟩ := h
  rw [lookup_register] at hlookup
  split at hlookup
  · obtain rfl := Option.some.inj hlookup
    exact Or.inl ⟨children, hgives⟩
  · exact Or.inr ⟨name, found, children, hlookup, hgives⟩

/-- No reduction gives an END token. -/
def ClosesNone (r : Reducer V) : Prop := ∀ t, r.Gives t → t.isFinish = false

/-- A token that a reducer may hand on, out or to a span: it is not ignorable and no START, and an
END only if a reduction gives it. -/
structure HandsOn (r : Reducer V) (t : Token V) : Prop where
  named : t.isIgnorable = false
  notStart : t.isStart = false
  given : t.isFinish = true → r.Gives t

variable {t token : Token V} {spans spans' : List (Span V)} {P : Token V → Prop}

omit [GroupNamed V] in
theorem HandsOn.plain (h : r.HandsOn t) (hr : r.ClosesNone) : t.Plain := by
  refine ⟨h.named, h.notStart, ?_⟩
  rw [← Bool.not_eq_true]
  intro hend
  rw [hr t (h.given hend)] at hend
  cases hend

/-- All tokens in the spans are of this kind. -/
def AllChildren (P : Token V → Prop) (spans : List (Span V)) : Prop :=
  ∀ span ∈ spans, ∀ child ∈ span.children, P child

omit [GroupNamed V] in
theorem AllChildren.opened (h : AllChildren P spans) (group : Option String) :
    AllChildren P (⟨group, []⟩ :: spans) := by
  have hnone : ∀ child ∈ ([] : List (Token V)), P child :=
    fun child hchild => absurd hchild List.not_mem_nil
  exact List.forall_mem_cons (l := spans).2 ⟨hnone, h⟩

omit [GroupNamed V] in
theorem AllChildren.extend {span : Span V} (h : AllChildren P (span :: spans)) (ht : P t) :
    AllChildren P (span.extend [t] :: spans) := by
  obtain ⟨hspan, hrest⟩ := List.forall_mem_cons.1 h
  have hmore : ∀ child ∈ span.children ++ [t], P child :=
    List.forall_mem_append.2 ⟨hspan, List.forall_mem_singleton.2 ht⟩
  exact List.forall_mem_cons (l := spans).2 ⟨hmore, hrest⟩

/-- What becomes of a token that is routed, if it is an END only as a result. -/
theorem route_handsOn (ht : t.isFinish = true → r.Gives t) (hP : ∀ t, r.HandsOn t → P t)
    (h : AllChildren P spans) :
    (∀ token, (route t spans).1 = some token → r.HandsOn token) ∧
      AllChildren P (route t spans).2 := by
  cases hignorable : t.isIgnorable with
  | true =>
    have hroute : route t spans = (none, spans) := by simp [route, hignorable]
    rw [hroute]
    exact ⟨fun token heq => (by cases heq), h⟩
  | false =>
    cases hstart : t.isStart with
    | true =>
      have hroute : route t spans = (none, ⟨group? t.value, []⟩ :: spans) := by
        simp [route, hignorable, hstart]
      rw [hroute]
      exact ⟨fun token heq => (by cases heq), h.opened _⟩
    | false =>
      have hands : r.HandsOn t := ⟨hignorable, hstart, ht⟩
      cases spans with
      | nil =>
        rw [route_nil hstart, Token.kept?_of_named hignorable]
        refine ⟨fun token heq => ?_, h⟩
        obtain rfl := Option.some.inj heq
        exact hands
      | cons span spans =>
        rw [route_cons hstart, Token.kept?_of_named hignorable]
        exact ⟨fun token heq => (by cases heq), h.extend (hP t hands)⟩

/-- A reduction takes the innermost span away, and a fault takes it away or nothing. -/
theorem close_cases (r : Reducer V) (t : Token V) (spans : List (Span V)) :
    (∃ result, r.close t spans = (.ok result, spans.tail) ∧ r.Gives result) ∨
      ∃ fault spans', r.close t spans = (.error fault, spans') ∧ spans' <:+ spans := by
  unfold close
  split
  · exact Or.inr ⟨_, _, rfl, List.suffix_rfl⟩
  · split
    · exact Or.inr ⟨_, _, rfl, List.suffix_rfl⟩
    · split
      · exact Or.inr ⟨_, _, rfl, List.suffix_cons _ _⟩
      · split
        · exact Or.inr ⟨_, _, rfl, List.suffix_cons _ _⟩
        · exact Or.inl ⟨_, rfl, _, _, _, by assumption, rfl⟩

/-- **What a token brings out** may be handed on, and so may what it puts into a span. -/
theorem feed_handsOn (r : Reducer V) (t : Token V) (hP : ∀ t, r.HandsOn t → P t)
    (h : AllChildren P spans) :
    (∀ token, (r.feed t spans).1 = .ok (some token) → r.HandsOn token) ∧
      AllChildren P (r.feed t spans).2 := by
  have hroute : ∀ {u : Token V} {spans : List (Span V)}, (u.isFinish = true → r.Gives u) →
      AllChildren P spans →
      (∀ token, (.ok (route u spans).1 : Except Fault (Option (Token V))) = .ok (some token) →
        r.HandsOn token) ∧ AllChildren P (route u spans).2 := by
    intro u spans hu hspans
    obtain ⟨hout, hchildren⟩ := route_handsOn hu hP hspans
    exact ⟨fun token heq => hout token (Except.ok.inj heq), hchildren⟩
  cases hend : t.isFinish with
  | false =>
    rw [feed_of_not_finish hend]
    exact hroute (fun htrue => absurd (hend.symm.trans htrue) Bool.false_ne_true) h
  | true =>
    rcases close_cases r t spans with ⟨result, hclose, hgives⟩ | ⟨fault, spans', hclose, hsuffix⟩
    · rw [feed_of_close hend hclose]
      exact hroute (fun _ => hgives) fun span hspan => h span (List.mem_of_mem_tail hspan)
    · rw [feed_of_close_error hend hclose]
      exact ⟨fun token heq => (by cases heq), fun span hspan => h span (hsuffix.subset hspan)⟩

end Reducer

/-- **What a run brings out** may be handed on, and so may what is in its spans. -/
theorem Reducing.next_handsOn {P : Token V → Prop} (hP : ∀ t, r.HandsOn t → P t)
    (limit pulls : Nat) {run : Reducing υ V} (h : Reducer.AllChildren P run.spans) :
    (∀ token, (next r limit pulls run).1 = .item (.ok token) → r.HandsOn token) ∧
      Reducer.AllChildren P (next r limit pulls run).2.spans := by
  induction pulls generalizing run with
  | zero => exact ⟨fun token heq => (by cases heq), h⟩
  | succ pulls ih =>
    obtain ⟨supply, spans⟩ := run
    obtain ⟨pull, left, hpull⟩ : ∃ pull left, Supply.pull limit supply = (pull, left) := ⟨_, _, rfl⟩
    rcases pull with (fault | t) | _ | _
    · simp only [next, hpull]
      exact ⟨fun token heq => (by cases heq), h⟩
    · obtain ⟨hout, hchildren⟩ := r.feed_handsOn t hP h
      rw [next_of_pull hpull]
      rcases hfeed : r.feed t spans with ⟨fault | _ | token, between⟩
      · rw [hfeed] at hchildren
        exact ⟨fun token heq => (by cases heq), hchildren⟩
      · rw [hfeed] at hchildren
        exact ih hchildren
      · rw [hfeed] at hout hchildren
        refine ⟨fun out heq => ?_, hchildren⟩
        cases heq
        exact hout token rfl
    · simp only [next, hpull]
      refine ⟨fun token heq => ?_, h⟩
      cases spans <;> cases heq
    · simp only [next, hpull]
      exact ⟨fun token heq => (by cases heq), h⟩

namespace ReducedSeries

theorem ask_handsOn {P : Token V → Prop} {s : ReducedSeries υ V}
    (hP : ∀ t, s.reducer.HandsOn t → P t) (h : Reducer.AllChildren P s.run.spans)
    (limit : Nat) (asking : Asking) :
    (∀ token, (s.ask limit asking).1 = .item (.ok token) → s.reducer.HandsOn token) ∧
      Reducer.AllChildren P (s.ask limit asking).2.run.spans ∧
      (s.ask limit asking).2.reducer = s.reducer := by
  obtain ⟨hout, hchildren⟩ := Reducing.next_handsOn hP limit limit h
  cases asking with
  | token => exact ⟨hout, hchildren, rfl⟩
  | series =>
    rw [ask, pull]
    cases s.finished with
    | true => exact ⟨fun token heq => (by cases heq), h, rfl⟩
    | false => exact ⟨hout, hchildren, rfl⟩

/-- **Whatever comes out of a run, however it is asked**, may be handed on, and so may the tokens in
the spans that are open after each answer, unless they were there at first. -/
theorem transcript_handsOn {P : Token V → Prop} {s : ReducedSeries υ V}
    (hP : ∀ t, s.reducer.HandsOn t → P t) (h : Reducer.AllChildren P s.run.spans) (limit : Nat)
    (askings : List Asking) :
    ∀ a ∈ s.transcript limit askings,
      (∀ token, a.1 = .item (.ok token) → s.reducer.HandsOn token) ∧ Reducer.AllChildren P a.2 := by
  induction askings generalizing s with
  | nil => exact fun a ha => absurd ha List.not_mem_nil
  | cons asking askings ih =>
    obtain ⟨hout, hchildren, hreducer⟩ := ask_handsOn hP h limit asking
    intro a ha
    rcases List.mem_cons.1 ha with rfl | ha
    · exact ⟨hout, fun span hspan => hchildren span (List.mem_reverse.1 hspan)⟩
    · rw [← hreducer] at hP ⊢
      exact ih hP hchildren a ha

theorem answers_handsOn (limit count : Nat) (s : ReducedSeries υ V) :
    ∀ a ∈ (s.answers limit count).1, ∀ token, a.1 = .ok token → s.reducer.HandsOn token := by
  induction count generalizing s with
  | zero => exact fun a ha => absurd ha List.not_mem_nil
  | succ count ih =>
    have hany : Reducer.AllChildren (fun _ => True) s.run.spans := fun _ _ _ _ => trivial
    obtain ⟨hout, -, hreducer⟩ := ask_handsOn (fun _ _ => trivial) hany limit .series
    rw [ask] at hout hreducer
    rw [answers]
    rcases hpull : s.pull limit with ⟨answer | _ | _, after⟩
    · rw [hpull] at hout hreducer
      intro a ha token heq
      rcases List.mem_cons.1 ha with rfl | ha
      · exact hout token (congrArg Pull.item heq)
      · rw [← hreducer]
        exact ih after a ha token heq
    · exact fun a ha => absurd ha List.not_mem_nil
    · exact fun a ha => absurd ha List.not_mem_nil

end ReducedSeries

/-! ## Behind a reduction -/

section Result

variable {supply left : υ} {finish t : Token V} {spans spans' : List (Span V)}

/-- **The result of a reduction and the same token in front of the supply** bring the same, unless
the token is an END. -/
theorem Reducing.next_of_result (hend : finish.isFinish = true)
    (hpull : Supply.pull limit supply = (.item (.ok finish), left))
    (hclose : r.close finish spans = (.ok t, spans')) (ht : t.isFinish = false) (pulls : Nat) :
    next r limit (pulls + 1) ⟨(⟨[.ok t], left⟩ : Ahead υ V), spans'⟩ =
      ((next r limit (pulls + 1) ⟨supply, spans⟩).1,
        (next r limit (pulls + 1) ⟨supply, spans⟩).2.ahead) := by
  have hahead : Supply.pull limit (⟨[.ok t], left⟩ : Ahead υ V) = (.item (.ok t), ⟨[], left⟩) := rfl
  rw [next_of_pull hpull, next_of_pull hahead, Reducer.feed_of_close hend hclose,
    Reducer.feed_of_not_finish ht]
  rcases Reducer.route t spans' with ⟨_ | token, between⟩
  · exact next_ahead pulls ⟨left, between⟩
  · rfl

/-- An END that a reduction gives closes nothing: it comes out, or it becomes a child of the span
around. -/
theorem Reducing.next_of_finish (hend : finish.isFinish = true)
    (hpull : Supply.pull limit supply = (.item (.ok finish), left))
    (hclose : r.close finish spans = (.ok t, spans')) (ht : t.isFinish = true) (pulls : Nat) :
    (spans' = [] → next r limit (pulls + 1) ⟨supply, spans⟩ = (.item (.ok t), ⟨left, []⟩)) ∧
    ∀ outer rest, spans' = outer :: rest →
      next r limit (pulls + 1) ⟨supply, spans⟩ =
        next r limit pulls ⟨left, outer.extend [t] :: rest⟩ := by
  have hstart := Token.isStart_of_isFinish ht
  have hnamed : t.kept? = some t := Token.kept?_of_named (Token.named_of_isNamed ht)
  rw [next_of_pull hpull, Reducer.feed_of_close hend hclose]
  constructor
  · rintro rfl
    simp only [Reducer.route_nil hstart, hnamed]
  · rintro outer rest rfl
    simp only [Reducer.route_cons hstart, hnamed, Option.toList_some]

theorem ReducedSeries.transcript_of_close (hlimit : 0 < limit) (hend : finish.isFinish = true)
    (hpull : Supply.pull limit supply = (.item (.ok finish), left))
    (hclose : r.close finish spans = (.ok t, spans')) (ht : t.isFinish = false)
    (askings : List Asking) :
    transcript limit askings ⟨r, ⟨supply, spans⟩, false⟩ =
      transcript limit askings ⟨r, ⟨(⟨[.ok t], left⟩ : Ahead υ V), spans'⟩, false⟩ := by
  obtain ⟨pulls, rfl⟩ : ∃ pulls, limit = pulls + 1 := ⟨limit - 1, by omega⟩
  have hnext := Reducing.next_of_result hend hpull hclose ht pulls
  cases askings with
  | nil => rfl
  | cons asking askings =>
    -- the first answer takes the result in; behind it nothing is in front of the supply
    have hask : ask (pulls + 1) ⟨r, ⟨(⟨[.ok t], left⟩ : Ahead υ V), spans'⟩, false⟩ asking =
        ((ask (pulls + 1) ⟨r, ⟨supply, spans⟩, false⟩ asking).1,
          (ask (pulls + 1) ⟨r, ⟨supply, spans⟩, false⟩ asking).2.ahead) := by
      cases asking <;> simp [ask, pull, ahead, hnext]
    rw [transcript, transcript, hask, transcript_ahead]
    rfl

/-- **The result of a reduction is routed like a token of the supply, unless it is an END.** Where
an END closes a span, what a run answers from there on, and the spans that are open after each
answer, are those of a run over the result and what is left of the supply, with the span taken away,
however the run is asked. If the result is an END it closes nothing: it comes out, or it becomes a
child of the span around. So what comes out of any run, and what is put into its spans, is not
ignorable and no START, and it is an END only if a reduction gives it. -/
theorem ReducedSeries.transcript_of_result (r : Reducer V) (limit : Nat) :
    (∀ (supply left : υ) (finish t : Token V) (span : Span V) (spans : List (Span V)), 0 < limit →
      finish.isFinish = true → Supply.pull limit supply = (.item (.ok finish), left) →
      r.close finish (span :: spans) = (.ok t, spans) →
      (t.isFinish = false → ∀ askings,
        transcript limit askings ⟨r, ⟨supply, span :: spans⟩, false⟩ =
          transcript limit askings ⟨r, ⟨(⟨[.ok t], left⟩ : Ahead υ V), spans⟩, false⟩) ∧
      (t.isFinish = true → ∀ pulls,
        (spans = [] → Reducing.next r limit (pulls + 1) ⟨supply, span :: spans⟩ =
          (.item (.ok t), ⟨left, []⟩)) ∧
        ∀ outer rest, spans = outer :: rest →
          Reducing.next r limit (pulls + 1) ⟨supply, span :: spans⟩ =
            Reducing.next r limit pulls ⟨left, outer.extend [t] :: rest⟩)) ∧
    ∀ (run : Reducing υ V) (askings : List Asking), ∀ a ∈ (ofRun r run).transcript limit askings,
      (∀ token, a.1 = .item (.ok token) → r.HandsOn token) ∧
      ∀ span ∈ a.2, ∀ child ∈ span.children,
        r.HandsOn child ∨ ∃ first ∈ run.spans, child ∈ first.children := by
  constructor
  · intro supply left finish t span spans hlimit hend hpull hclose
    refine ⟨fun ht askings => ?_, fun ht pulls => ?_⟩
    · exact transcript_of_close hlimit hend hpull hclose ht askings
    · exact Reducing.next_of_finish hend hpull hclose ht pulls
  · intro run askings
    have hfirst : Reducer.AllChildren
        (fun child => r.HandsOn child ∨ ∃ first ∈ run.spans, child ∈ first.children) run.spans :=
      fun span hspan child hchild => Or.inr ⟨span, hspan, hchild⟩
    exact transcript_handsOn (s := ofRun r run) (fun t ht => Or.inl ht) hfirst limit askings

end Result

namespace Demo

/-- A reducer that makes of an array the START of another one, or the END. -/
def remaking (result : Token Value) : Reducer Value :=
  (Reducer.empty false).register arrayGroup fun _ => result

end Demo

/-- An array that becomes the START of another one, which stays open. -/
theorem ReducedSeries.transcript_of_result_start :
    let r := Demo.remaking Demo.arrayTokens.1
    let left : List (Except Fault (Token Value)) := [.ok (Demo.numberToken 1)]
    let ahead : Ahead (List (Except Fault (Token Value))) Value := ⟨[.ok Demo.arrayTokens.1], left⟩
    let unclosed : Pull Value × List (Span Value) :=
      (.item (.error (.unclosedSpans 1)), [⟨some "ARRAY", [Demo.numberToken 1]⟩])
    transcript 3 [.token, .series] ⟨r, ⟨.ok Demo.arrayTokens.2 :: left, [⟨none, []⟩]⟩, false⟩ =
        transcript 3 [.token, .series] ⟨r, ⟨ahead, []⟩, false⟩ ∧
      transcript 3 [.token, .series] ⟨r, ⟨ahead, []⟩, false⟩ = [unclosed, unclosed] := by
  intro r left ahead unclosed
  obtain ⟨hresult, -⟩ := @transcript_of_result (List (Except Fault (Token Value))) Value _ _ r 3
  have hclose : r.close Demo.arrayTokens.2 [⟨none, []⟩] = (.ok Demo.arrayTokens.1, []) := rfl
  obtain ⟨halike, -⟩ := hresult (.ok Demo.arrayTokens.2 :: left) left Demo.arrayTokens.2
    Demo.arrayTokens.1 ⟨none, []⟩ [] (by decide) rfl rfl hclose
  exact ⟨halike rfl [.token, .series], rfl⟩

/-- An array that becomes the END of another one: the END comes out, where in front of the supply it
would be one too many. -/
theorem ReducedSeries.not_transcript_of_finish :
    let finish := Demo.arrayTokens.2
    let r := Demo.remaking finish
    let supply : List (Except Fault (Token Value)) := [.ok finish]
    let ahead : Ahead (List (Except Fault (Token Value))) Value := ⟨[.ok finish], []⟩
    let span : Span Value := ⟨some "ARRAY", []⟩
    r.close finish [span] = (.ok finish, []) ∧
      transcript 2 [.token] ⟨r, ⟨supply, [span]⟩, false⟩ = [(.item (.ok finish), [])] ∧
      transcript 2 [.token] ⟨r, ⟨ahead, []⟩, false⟩ =
        [(.item (.error (.unbalancedEnd "ARRAY")), [])] ∧
      transcript 2 [.token] ⟨r, ⟨supply, [span]⟩, false⟩ ≠
        transcript 2 [.token] ⟨r, ⟨ahead, []⟩, false⟩ :=
  ⟨rfl, rfl, rfl, nofun⟩

end Lexis
