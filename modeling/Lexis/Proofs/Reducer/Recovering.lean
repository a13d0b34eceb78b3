import Lexis.Proofs.Reducer.Balance
import Lexis.Proofs.Reducer.Strictness

/-!
# Going on behind faults

A run can be asked again after a fault. A fault of the supply is passed on and leaves the spans as
the tokens before it have left them; so does an END that names no group or comes with no span open,
and so do spans that are open at the end. An END that is refused for its group or for want of a
reduction has taken the innermost span away, and no other one is touched. So a run over items with
faults among them answers what the run over the tokens alone answers, with the faults in between.

An answer is told to be a fault of the supply by what is taken for it: the last item is that fault.

Principal results:

* `Reducer.feed_error_iff` — what an END that is refused leaves;
* `Reducing.next_answered` — the next answer and how it comes about;
* `Reducing.answers_withoutFaults` — the same answers without the faults of the supply;
* `Reducing.faults_keep_spans` — all answers, and the end.
-/

namespace Lexis

variable {V : Type}

/-- The items without the faults among them. -/
def withoutFaults (items : List (Except Fault (Token V))) : List (Except Fault (Token V)) :=
  items.filter Except.isOk

/-- How many of the items are faults. -/
def faultCount (items : List (Except Fault (Token V))) : Nat :=
  items.countP fun item => !item.isOk

theorem withoutFaults_items (tokens : List (Token V)) (rest : List (Except Fault (Token V))) :
    withoutFaults (Reducing.items tokens rest) = Reducing.items tokens (withoutFaults rest) := by
  induction tokens with
  | nil => rfl
  | cons t tokens ih => exact congrArg (List.cons (.ok t)) ih

theorem length_withoutFaults_le (items : List (Except Fault (Token V))) :
    (withoutFaults items).length ≤ items.length :=
  List.length_filter_le _ items

theorem faultCount_items (tokens : List (Token V)) (rest : List (Except Fault (Token V))) :
    faultCount (Reducing.items tokens rest) = faultCount rest := by
  simp [faultCount, Reducing.items, Except.isOk, Except.toBool, Function.comp_def]

theorem length_items (tokens : List (Token V)) (rest : List (Except Fault (Token V))) :
    (Reducing.items tokens rest).length = tokens.length + rest.length := by
  simp [Reducing.items]

namespace Reducing

/-- An answer of a run over items, with the run before it and after it. -/
structure Call (V : Type) where
  before : Reducing (List (Except Fault (Token V))) V
  answer : Pull V
  after : Reducing (List (Except Fault (Token V))) V

/-- The items that are taken for the answer. -/
def Call.taken (call : Call V) : List (Except Fault (Token V)) :=
  call.before.supply.take (call.before.supply.length - call.after.supply.length)

/-- Whether the answer is a fault of the supply: the last item that is taken for it is one. -/
def Call.passedOn (call : Call V) : Bool :=
  call.taken.getLast?.any fun item => !item.isOk

/-- The answer with the spans that are open after it, outermost first. -/
def Call.shown (call : Call V) : Pull V × List (Span V) := (call.answer, call.after.pending)

theorem Call.taken_of_append {call : Call V} {front : List (Except Fault (Token V))}
    (h : call.before.supply = front ++ call.after.supply) : call.taken = front := by
  simp [taken, h]

end Reducing

variable [GroupNamed V]

namespace Reducer

variable {r : Reducer V} {t : Token V} {spans spans' : List (Span V)} {fault : Fault}

/-- **An END that is refused**, and no other token, is a fault, and it leaves the spans that remain
for its cause. -/
theorem feed_error_iff : r.feed t spans = (.error fault, spans') ↔
    t.isFinish = true ∧ r.Refuses t (spans.map Span.group) fault ∧
      spans' = remaining fault spans := by
  constructor
  · intro h
    cases hend : t.isFinish with
    | false =>
      rw [feed_of_not_finish hend] at h
      cases h
    | true =>
      rcases mayClose_or_refuses r hend (spans.map Span.group) with
        ⟨own, inner, hgroups, hclose⟩ | ⟨fault', hrefuses⟩
      · obtain ⟨span, rest, rfl, rfl, -⟩ := List.map_eq_cons_iff.1 hgroups
        obtain ⟨reduce, hreduce⟩ := hclose.reduction
        rw [feed_finish hclose hreduce] at h
        cases h
      · rw [feed_of_refuses hend hrefuses] at h
        cases h
        exact ⟨rfl, hrefuses, rfl⟩
  · rintro ⟨hend, hrefuses, rfl⟩
    exact feed_of_refuses hend hrefuses

theorem spansAfter_withoutFaults (r : Reducer V) (items : List (Except Fault (Token V)))
    (spans : List (Span V)) :
    r.spansAfter (withoutFaults items) spans = r.spansAfter items spans := by
  induction items generalizing spans with
  | nil => rfl
  | cons item items ih =>
    cases item with
    | error fault => exact ih spans
    | ok t => exact ih (r.feed t spans).2

theorem spansAfter_of_swallows {quiet : List (Token V)} (h : r.Swallows quiet spans spans') :
    r.spansAfter (Reducing.items quiet []) spans = spans' := by
  induction quiet generalizing spans with
  | nil => exact h
  | cons t quiet ih =>
    obtain ⟨between, hfeed, hrest⟩ := h
    have hafter : r.takeIn spans (.ok t) = between := congrArg Prod.snd hfeed
    show r.spansAfter (Reducing.items quiet []) (r.takeIn spans (.ok t)) = spans'
    rw [hafter]
    exact ih hrest

/-- What a run over the items answers where these spans are open and the first item is the one that
the answer is due to, whether that is a fault of the supply, and the run after it. -/
inductive Answered (r : Reducer V) : List (Except Fault (Token V)) → List (Span V) →
    (passedOn : Bool) → Pull V → Reducing (List (Except Fault (Token V))) V → Prop where
  /-- A fault of the supply. -/
  | passed {fault : Fault} {back : List (Except Fault (Token V))} {spans : List (Span V)} :
      Answered r (.error fault :: back) spans true (.item (.error fault)) ⟨back, spans⟩
  /-- An END that is refused. -/
  | refused {finish : Token V} {fault : Fault} {back : List (Except Fault (Token V))}
      {spans : List (Span V)} : finish.isFinish = true →
      r.Refuses finish (spans.map Span.group) fault →
      Answered r (.ok finish :: back) spans false (.item (.error fault))
        ⟨back, remaining fault spans⟩
  /-- A token that brings one out. -/
  | emitted {t token : Token V} {back : List (Except Fault (Token V))} {spans : List (Span V)} :
      r.feed t spans = (.ok (some token), []) →
      Answered r (.ok t :: back) spans false (.item (.ok token)) ⟨back, []⟩
  /-- The end of the items. -/
  | exhausted {spans : List (Span V)} :
      Answered r [] spans false (Reducing.ending spans) ⟨[], spans⟩

namespace Answered

variable {rest : List (Except Fault (Token V))} {between : List (Span V)} {passedOn : Bool}
  {answer : Pull V} {after : Reducing (List (Except Fault (Token V))) V}

/-- The item that the answer is due to is taken in, or there is none. -/
theorem takes (h : r.Answered rest between passedOn answer after) :
    (∃ item, rest = item :: after.supply ∧ after.spans = r.takeIn between item ∧
      passedOn = !item.isOk) ∨
    rest = [] ∧ after = ⟨[], between⟩ ∧ passedOn = false := by
  cases h with
  | passed => exact Or.inl ⟨_, rfl, rfl, rfl⟩
  | refused hend hrefuses =>
    have hspans := congrArg Prod.snd (feed_of_refuses hend hrefuses)
    exact Or.inl ⟨_, rfl, hspans.symm, rfl⟩
  | emitted hfeed =>
    have hspans := congrArg Prod.snd hfeed
    exact Or.inl ⟨_, rfl, hspans.symm, rfl⟩
  | exhausted => exact Or.inr ⟨rfl, rfl, rfl⟩

theorem passedOn_eq (h : r.Answered rest between passedOn answer after) (quiet : List (Token V))
    (spans : List (Span V)) :
    Reducing.Call.passedOn ⟨⟨Reducing.items quiet rest, spans⟩, answer, after⟩ = passedOn := by
  rcases h.takes with ⟨item, hrest, -, hpassed⟩ | ⟨hrest, hafter, hpassed⟩
  · have htaken : Reducing.Call.taken ⟨⟨Reducing.items quiet rest, spans⟩, answer, after⟩ =
        quiet.map .ok ++ [item] := by
      apply Reducing.Call.taken_of_append
      simp [Reducing.items, hrest]
    simp [Reducing.Call.passedOn, htaken, hpassed]
  · have htaken : Reducing.Call.taken ⟨⟨Reducing.items quiet rest, spans⟩, answer, after⟩ =
        quiet.map .ok := by
      apply Reducing.Call.taken_of_append
      simp [Reducing.items, hrest, hafter]
    rw [Reducing.Call.passedOn, htaken, hpassed, List.getLast?_map]
    cases quiet.getLast? <;> rfl

theorem faultCount_eq (h : r.Answered rest between passedOn answer after) :
    faultCount rest = faultCount after.supply + passedOn.toNat := by
  rcases h.takes with ⟨item, hrest, -, hpassed⟩ | ⟨hrest, hafter, hpassed⟩
  · cases item <;> simp [faultCount, hrest, hpassed, Except.isOk, Except.toBool]
  · simp [hrest, hafter, hpassed]

theorem next_eq (h : r.Answered rest between false answer after) (pulls : Nat) :
    Reducing.next r limit (pulls + 1) ⟨withoutFaults rest, between⟩ =
      (answer, ⟨withoutFaults after.supply, after.spans⟩) := by
  have hpull : ∀ (t : Token V) (back : List (Except Fault (Token V))),
      Supply.pull limit (withoutFaults (.ok t :: back)) = (.item (.ok t), withoutFaults back) :=
    fun t back => rfl
  cases h with
  | refused hend hrefuses => rw [Reducing.next_of_pull (hpull _ _), feed_of_refuses hend hrefuses]
  | emitted hfeed => rw [Reducing.next_of_pull (hpull _ _), hfeed]
  | exhausted => rfl

end Answered

end Reducer

namespace Reducing

open Reducer

variable {r : Reducer V} {limit : Nat} {upcoming rest : List (Except Fault (Token V))}
  {spans between : List (Span V)}

/-- Asking so many times, going on after faults and at the end. -/
def calls (r : Reducer V) (limit : Nat) :
    (count : Nat) → Reducing (List (Except Fault (Token V))) V → List (Call V)
  | 0, _ => []
  | count + 1, run =>
    ⟨run, (next r limit limit run).1, (next r limit limit run).2⟩ ::
      calls r limit count (next r limit limit run).2

theorem answers_eq_shown (r : Reducer V) (limit count : Nat)
    (run : Reducing (List (Except Fault (Token V))) V) :
    (answers r limit count run).1 = (calls r limit count run).map Call.shown := by
  induction count generalizing run with
  | zero => rfl
  | succ count ih =>
    rw [answers_cons, calls, List.map_cons, ih]
    rfl

/-! ## One answer -/

/-- **The next answer** is due to the first item that is not a token swallowed by the reducer, or to
the end of the items. -/
theorem next_answered (r : Reducer V) (limit : Nat) {pulls : Nat} (h : upcoming.length < pulls)
    (spans : List (Span V)) : ∃ quiet rest between passedOn,
      upcoming = items quiet rest ∧ r.Swallows quiet spans between ∧
      r.Answered rest between passedOn (next r limit pulls ⟨upcoming, spans⟩).1
        (next r limit pulls ⟨upcoming, spans⟩).2 := by
  induction upcoming generalizing pulls spans with
  | nil =>
    obtain ⟨more, rfl⟩ : ∃ more, pulls = more + 1 := ⟨pulls - 1, by omega⟩
    exact ⟨[], [], spans, false, rfl, rfl, .exhausted⟩
  | cons item upcoming ih =>
    rw [List.length_cons] at h
    obtain ⟨more, rfl⟩ : ∃ more, pulls = more + 1 := ⟨pulls - 1, by omega⟩
    cases item with
    | error fault => exact ⟨[], .error fault :: upcoming, spans, true, rfl, rfl, .passed⟩
    | ok t =>
      have hpull : Supply.pull limit (.ok t :: upcoming) = (.item (.ok t), upcoming) := rfl
      rw [next_of_pull hpull]
      rcases hfeed : r.feed t spans with ⟨fault | _ | token, spans'⟩
      · obtain ⟨hend, hrefuses, rfl⟩ := feed_error_iff.1 hfeed
        exact ⟨[], .ok t :: upcoming, spans, false, rfl, rfl, .refused hend hrefuses⟩
      · obtain ⟨quiet, rest, between, passedOn, rfl, hquiet, hanswer⟩ :=
          ih (show upcoming.length < more by omega) spans'
        exact ⟨t :: quiet, rest, between, passedOn, rfl, ⟨spans', hfeed, hquiet⟩, hanswer⟩
      · obtain rfl := spans_of_emission hfeed
        exact ⟨[], .ok t :: upcoming, spans, false, rfl, rfl, .emitted hfeed⟩

/-- What is taken for the next answer has been taken in then, and if anything is left it is more
than nothing. -/
theorem next_taken (r : Reducer V) (h : upcoming.length < limit) (spans : List (Span V)) :
    ∃ taken, upcoming = taken ++ (next r limit limit ⟨upcoming, spans⟩).2.supply ∧
      (next r limit limit ⟨upcoming, spans⟩).2.spans = r.spansAfter taken spans ∧
      (next r limit limit ⟨upcoming, spans⟩).2.supply.length ≤ upcoming.length - 1 := by
  obtain ⟨quiet, rest, between, passedOn, hsplit, hquiet, hanswer⟩ := next_answered r limit h spans
  have hbetween := spansAfter_of_swallows hquiet
  generalize (next r limit limit ⟨upcoming, spans⟩).2 = after at hanswer
  rcases hanswer.takes with ⟨item, hrest, hspans, -⟩ | ⟨hrest, hafter, -⟩
  · refine ⟨items quiet [] ++ [item], ?_, ?_, ?_⟩
    · simp [hsplit, hrest, items]
    · rw [spansAfter_append, hbetween, hspans]
      rfl
    · simp [hsplit, hrest, items]
  · refine ⟨items quiet [], ?_, ?_, ?_⟩
    · simp [hsplit, hrest, hafter, items]
    · rw [hafter, hbetween]
    · simp [hafter]

/-! ## All answers -/

/-- A run that is asked again and again has taken in the items in front of what is left, and it is
asked at most as often as there are items until nothing is left. -/
theorem answers_taken (r : Reducer V) (h : upcoming.length < limit) (count : Nat)
    (spans : List (Span V)) : ∃ front back, upcoming = front ++ back ∧
      (answers r limit count ⟨upcoming, spans⟩).2 = ⟨back, r.spansAfter front spans⟩ ∧
      back.length ≤ upcoming.length - count := by
  induction count generalizing upcoming spans with
  | zero => exact ⟨[], upcoming, rfl, rfl, Nat.le_refl _⟩
  | succ count ih =>
    obtain ⟨taken, htaken, hspans, hfewer⟩ := next_taken r h spans
    rw [answers_cons]
    generalize (next r limit limit ⟨upcoming, spans⟩).2 = after at htaken hspans hfewer
    obtain ⟨left, spans'⟩ := after
    obtain rfl : spans' = r.spansAfter taken spans := hspans
    have hleft : left.length < limit := by
      dsimp only at hfewer
      omega
    obtain ⟨front, back, hback, hrun, hlength⟩ := ih hleft (r.spansAfter taken spans)
    refine ⟨taken ++ front, back, ?_, ?_, ?_⟩
    · rw [htaken, List.append_assoc, ← hback]
    · rw [hrun, spansAfter_append]
    · dsimp only at hfewer
      omega

/-- Each answer comes about in one of the ways, behind the items that are in front of it. -/
theorem calls_answered (r : Reducer V) (h : upcoming.length < limit) (count : Nat)
    (spans : List (Span V)) : ∀ call ∈ calls r limit count ⟨upcoming, spans⟩,
      ∃ front rest, upcoming = front ++ rest ∧
        r.Answered rest (r.spansAfter front spans) call.passedOn call.answer call.after := by
  induction count generalizing upcoming spans with
  | zero => exact fun call hcall => absurd hcall List.not_mem_nil
  | succ count ih =>
    intro call hcall
    rcases List.mem_cons.1 hcall with rfl | hcall
    · obtain ⟨quiet, rest, between, passedOn, rfl, hquiet, hanswer⟩ := next_answered r limit h spans
      refine ⟨items quiet [], rest, ?_, ?_⟩
      · simp [items]
      · rw [spansAfter_of_swallows hquiet, hanswer.passedOn_eq]
        exact hanswer
    · obtain ⟨taken, htaken, hspans, hfewer⟩ := next_taken r h spans
      generalize (next r limit limit ⟨upcoming, spans⟩).2 = after at htaken hspans hfewer hcall
      obtain ⟨left, spans'⟩ := after
      obtain rfl : spans' = r.spansAfter taken spans := hspans
      have hleft : left.length < limit := by
        dsimp only at hfewer
        omega
      obtain ⟨front, rest, hrest, hanswer⟩ := ih hleft _ call hcall
      refine ⟨taken ++ front, rest, ?_, ?_⟩
      · rw [htaken, List.append_assoc, ← hrest]
      · rw [spansAfter_append]
        exact hanswer

/-- The answers that are no faults of the supply. -/
def kept (calls : List (Call V)) : List (Call V) := calls.filter fun call => !call.passedOn

/-- **Without the faults of the supply** a run answers the same but for these faults. It may lag
behind in tokens that are swallowed, since no fault makes it take them. -/
theorem answers_withoutFaults {lag : List (Token V)} {first spans : List (Span V)}
    (hlag : r.Swallows lag first spans) (h : lag.length + upcoming.length < limit) (count : Nat) :
    (answers r limit (kept (calls r limit count ⟨upcoming, spans⟩)).length
      ⟨items lag (withoutFaults upcoming), first⟩).1 =
        (kept (calls r limit count ⟨upcoming, spans⟩)).map Call.shown := by
  induction count generalizing upcoming lag first spans with
  | zero => rfl
  | succ count ih =>
    have hlimit : upcoming.length < limit := by omega
    obtain ⟨quiet, rest, between, passedOn, rfl, hquiet, hanswer⟩ :=
      next_answered r limit hlimit spans
    have hpassed := hanswer.passedOn_eq quiet spans
    have hswallows := hlag.append hquiet
    obtain ⟨-, -, -, hfewer⟩ := next_taken r hlimit spans
    rw [length_items] at h
    rw [calls, kept, List.filter_cons, ← kept]
    generalize next r limit limit ⟨items quiet rest, spans⟩ = brought at hanswer hpassed hfewer
    obtain ⟨answer, left, spans'⟩ := brought
    rw [withoutFaults_items, ← items_append]
    cases passedOn with
    | true =>
      -- the run without the fault is not asked, and what is swallowed is still in front of it
      cases hanswer
      simp only [hpassed]
      apply ih hswallows
      simp at h ⊢
      omega
    | false =>
      have hleft := length_withoutFaults_le rest
      have hnext : next r limit limit ⟨items (lag ++ quiet) (withoutFaults rest), first⟩ =
          (answer, ⟨withoutFaults left, spans'⟩) := by
        obtain ⟨pulls, rfl⟩ : ∃ pulls, limit = pulls + 1 := ⟨limit - 1, by omega⟩
        rw [next_of_swallowed hswallows (by simp; omega), hanswer.next_eq pulls]
      have hrest : ([] : List (Token V)).length + left.length < limit := by
        dsimp only [List.length_nil] at hfewer ⊢
        omega
      have hmore := ih (show r.Swallows [] spans' spans' from rfl) hrest
      simp only [hpassed, Bool.not_false, if_true, List.length_cons, List.map_cons, answers_cons,
        hnext]
      rw [← hmore]
      rfl

/-- Faults of the supply are passed on at most as often as there are any. -/
theorem count_le_kept (r : Reducer V) (h : upcoming.length < limit) (count : Nat)
    (spans : List (Span V)) :
    count ≤ (kept (calls r limit count ⟨upcoming, spans⟩)).length + faultCount upcoming := by
  induction count generalizing upcoming spans with
  | zero => exact Nat.zero_le _
  | succ count ih =>
    obtain ⟨quiet, rest, between, passedOn, rfl, hquiet, hanswer⟩ := next_answered r limit h spans
    have hpassed := hanswer.passedOn_eq quiet spans
    have hfaults := hanswer.faultCount_eq
    obtain ⟨-, -, -, hfewer⟩ := next_taken r h spans
    rw [calls, kept, List.filter_cons, ← kept, faultCount_items]
    generalize next r limit limit ⟨items quiet rest, spans⟩ = brought
      at hanswer hpassed hfaults hfewer
    obtain ⟨answer, left, spans'⟩ := brought
    have hmore := ih (show left.length < limit by dsimp only at hfewer; omega) spans'
    cases passedOn <;> simp [hpassed] at hfaults ⊢ <;> omega

/-! ## The end -/

theorem answers_exhausted (r : Reducer V) (hlimit : 0 < limit) (spans : List (Span V))
    (count : Nat) : answers r limit count ⟨([] : List (Except Fault (Token V))), spans⟩ =
      (List.replicate count (ending spans, spans.reverse), ⟨[], spans⟩) := by
  obtain ⟨pulls, rfl⟩ : ∃ pulls, limit = pulls + 1 := ⟨limit - 1, by omega⟩
  induction count with
  | zero => rfl
  | succ count ih =>
    have hnext : next r (pulls + 1) (pulls + 1) ⟨([] : List (Except Fault (Token V))), spans⟩ =
        (ending spans, ⟨[], spans⟩) := rfl
    rw [answers_cons, hnext, ih]
    rfl

/-- **Faults change the open spans only as far as an END takes one away.** A run over items is asked
any number of times, going on after faults. Each answer comes about in one of the ways
(`Reducer.Answered`) with the spans open that the tokens in front of its item have left: a fault of
the supply and the end of the items leave them as they are, and an END that is refused leaves those
that remain for its cause, all or all but the innermost one. Without the faults of the supply, which
make no difference to the spans, the other answers and the spans behind them are the same. Asked as
often as there are items, the run has come to their end, and from there on each answer is the same:
that spans are open, or the end. -/
theorem faults_keep_spans (r : Reducer V) (items : List (Except Fault (Token V)))
    (opened : List (Span V)) {limit : Nat} (hlimit : items.length < limit) (count : Nat) :
    let run := start items opened
    let calls := calls r limit count run
    (answers r limit count run).1 = calls.map Call.shown ∧
    (∀ call ∈ calls, ∃ front rest, items = front ++ rest ∧
      r.Answered rest (r.spansAfter front opened.reverse) call.passedOn call.answer call.after) ∧
    (∀ front spans, r.spansAfter front spans = r.spansAfter (withoutFaults front) spans) ∧
    (answers r limit (kept calls).length (start (withoutFaults items) opened)).1 =
      (kept calls).map Call.shown ∧
    count ≤ (kept calls).length + faultCount items ∧
    (items.length ≤ count →
      (answers r limit count run).2 = ⟨[], r.spansAfter items opened.reverse⟩) ∧
    ∀ spans more, answers r limit more ⟨([] : List (Except Fault (Token V))), spans⟩ =
      (List.replicate more (ending spans, spans.reverse), ⟨[], spans⟩) := by
  intro run calls
  have hlag : r.Swallows [] opened.reverse opened.reverse := rfl
  refine ⟨answers_eq_shown r limit count run, calls_answered r hlimit count _,
    fun front spans => (spansAfter_withoutFaults r front spans).symm,
    answers_withoutFaults hlag (by simpa using hlimit) count, count_le_kept r hlimit count _,
    fun hcount => ?_, answers_exhausted r (by omega)⟩
  obtain ⟨front, back, hsplit, hrun, hlength⟩ := answers_taken r hlimit count opened.reverse
  obtain rfl : back = [] := List.length_eq_zero_iff.1 (by omega)
  rw [List.append_nil] at hsplit
  rw [hsplit]
  exact hrun

/-- Strings and arrays under strict grouping, with two faults of the supply, one of which an END
could have caused as well, and each of the faults that a reducer raises. A span is taken away by the
END of another group, by the one that no reduction is for, and by the one that closes the array. -/
theorem faults_keep_spans_strict :
    let r := Demo.reducer.withStrict true
    let start? (group : String) : Except Fault (Token Value) := .ok (.start (.text group))
    let finish (group : String) : Except Fault (Token Value) := .ok (.finish (.text group))
    let items : List (Except Fault (Token Value)) :=
      [start? "ARRAY", .error (.unknownState "s"), start? "STRING", .error .missingGroup,
        finish "ARRAY", .ok (Demo.numberToken 1), .ok (.finish .null), start? "MAP", finish "MAP",
        finish "ARRAY", finish "ARRAY", start? "ARRAY"]
    let calls := calls r 13 9 (start items [])
    items.length < 13 ∧
      calls.map Call.passedOn = [true, true, false, false, false, false, false, false, false] ∧
      calls.map (fun call => call.after.spans.length) = [1, 2, 1, 1, 1, 0, 0, 1, 1] ∧
      (answers r 13 7 (start (withoutFaults items) [])).1 = (kept calls).map Call.shown := by
  intro r start? finish items calls
  have hlimit : items.length < 13 := by decide
  obtain ⟨-, -, -, hkept, -⟩ := faults_keep_spans r items [] hlimit 9
  have hlength : (kept calls).length = 7 := by decide +kernel
  rw [hlength] at hkept
  exact ⟨hlimit, by decide +kernel, by decide +kernel, hkept⟩

end Reducing

end Lexis
