import Lexis.Proofs.Reducer.Forest

/-!
# Stopping a run and going on

What a run has taken in is in its open spans and nowhere else, and coming to the end of the tokens
changes nothing. So a run over tokens can be stopped where these end, with whatever spans are open
then, and a run over further tokens that starts with the same spans goes on as if it had never
stopped.

Tokens given in advance bring a run to one of two things first: one of them is answered, because a
token comes out or because it is refused, or all of them are swallowed (`Reducer.Outlook`). Only the
last one is the end of the tokens; the faults of a reducer are others than that of open spans.

Principal results:

* `Reducer.outlook` — what tokens bring a run to first;
* `Reducing.next_eq_of_length_lt` — more pulls than there are items change nothing;
* `Reducing.answers_of_swallows`, `Reducing.answers_resumed` — going on behind the tokens.
-/

namespace Lexis

variable {V : Type} [GroupNamed V]

namespace Reducer

variable {r : Reducer V} {tokens : List (Token V)} {spans : List (Span V)}

/-- What tokens bring a run to first: a token that one of them brings out, the fault that one of them
is refused with, or their end. -/
inductive Outlook (r : Reducer V) (tokens : List (Token V)) (spans : List (Span V)) : Prop where
  | answers {quiet left : List (Token V)} {t : Token V} {answer : Except Fault (Token V)}
      {between spans' : List (Span V)} :
      tokens = quiet ++ t :: left → r.Swallows quiet spans between →
      r.feed t between = (answer.map some, spans') → Outlook r tokens spans
  | swallows {spans' : List (Span V)} : r.Swallows tokens spans spans' → Outlook r tokens spans

theorem Outlook.cons {t : Token V} {between : List (Span V)}
    (h : r.Outlook tokens between) (hfeed : r.feed t spans = (.ok none, between)) :
    r.Outlook (t :: tokens) spans := by
  cases h with
  | @answers quiet left u answer opened spans' htokens hquiet hlast =>
    have hswallows : r.Swallows (t :: quiet) spans opened := ⟨between, hfeed, hquiet⟩
    rw [htokens]
    exact .answers rfl hswallows hlast
  | swallows hall => exact .swallows ⟨between, hfeed, hall⟩

/-- **Tokens bring a run to one of two things first.** -/
theorem outlook (r : Reducer V) (tokens : List (Token V)) (spans : List (Span V)) :
    r.Outlook tokens spans := by
  induction tokens generalizing spans with
  | nil => exact .swallows rfl
  | cons t tokens ih =>
    obtain ⟨fed, spans', hfeed⟩ : ∃ fed spans', r.feed t spans = (fed, spans') := ⟨_, _, rfl⟩
    have hnone : r.Swallows [] spans spans := rfl
    have hfirst : ∀ answer : Except Fault (Token V), fed = answer.map some →
        r.Outlook (t :: tokens) spans := by
      intro answer heq
      rw [heq] at hfeed
      exact .answers rfl hnone hfeed
    rcases fed with fault | _ | token
    · exact hfirst (.error fault) rfl
    · exact (ih spans').cons hfeed
    · exact hfirst (.ok token) rfl

theorem feed_ne_unclosed {t : Token V} {fault : Fault} {spans' : List (Span V)}
    (h : r.feed t spans = (.error fault, spans')) (depth : Nat) : fault ≠ .unclosedSpans depth := by
  unfold feed at h
  split at h
  · unfold close at h
    grind
  · cases h

/-- A token comes out only where no span is open behind it. -/
theorem spans_of_emission {t token : Token V} {spans' : List (Span V)}
    (h : r.feed t spans = (.ok (some token), spans')) : spans' = [] := by
  have hroute : ∀ {u : Token V} {spans : List (Span V)},
      route u spans = (some token, spans') → spans' = [] := by
    intro u spans hu
    unfold route at hu
    grind
  unfold feed at h
  grind

end Reducer

namespace Reducing

variable {r : Reducer V} {limit : Nat} {tokens : List (Token V)} {spans spans' : List (Span V)}
  {upcoming rest : List (Except Fault (Token V))}

/-! ## Pulls -/

theorem next_cons (r : Reducer V) (limit pulls : Nat) (item : Except Fault (Token V))
    (upcoming : List (Except Fault (Token V))) (spans : List (Span V)) :
    (∃ t between, item = .ok t ∧ r.feed t spans = (.ok none, between) ∧
      next r limit (pulls + 1) ⟨item :: upcoming, spans⟩ = next r limit pulls ⟨upcoming, between⟩) ∨
    ∃ answer between, next r limit (pulls + 1) ⟨item :: upcoming, spans⟩ =
      (.item answer, ⟨upcoming, between⟩) := by
  cases item with
  | error fault => exact Or.inr ⟨.error fault, spans, rfl⟩
  | ok t =>
    have hpull : Supply.pull limit (.ok t :: upcoming) = (.item (.ok t), upcoming) := rfl
    obtain ⟨fed, between, hfeed⟩ : ∃ fed between, r.feed t spans = (fed, between) := ⟨_, _, rfl⟩
    have hnext := next_of_pull (r := r) hpull pulls spans
    rw [hfeed] at hnext
    rcases fed with fault | _ | token
    · exact Or.inr ⟨.error fault, between, hnext⟩
    · exact Or.inl ⟨t, between, rfl, hfeed, hnext⟩
    · exact Or.inr ⟨.ok token, between, hnext⟩

/-- No items come back. -/
theorem length_next_le (r : Reducer V) (limit pulls : Nat)
    (upcoming : List (Except Fault (Token V))) (spans : List (Span V)) :
    (next r limit pulls ⟨upcoming, spans⟩).2.supply.length ≤ upcoming.length := by
  induction pulls generalizing upcoming spans with
  | zero => exact Nat.le_refl _
  | succ pulls ih =>
    cases upcoming with
    | nil => exact Nat.le_refl _
    | cons item upcoming =>
      rw [List.length_cons]
      rcases next_cons r limit pulls item upcoming spans with
        ⟨t, between, -, -, hnext⟩ | ⟨answer, between, hnext⟩
      · rw [hnext]
        exact Nat.le_succ_of_le (ih upcoming between)
      · rw [hnext]
        exact Nat.le_succ _

/-- **More pulls than there are items change nothing.** -/
theorem next_eq_of_length_lt {pulls pulls' : Nat} (h : upcoming.length < pulls)
    (h' : upcoming.length < pulls') :
    next r limit pulls ⟨upcoming, spans⟩ = next r limit pulls' ⟨upcoming, spans⟩ := by
  induction upcoming generalizing pulls pulls' spans with
  | nil =>
    obtain ⟨n, rfl⟩ : ∃ n, pulls = n + 1 := ⟨pulls - 1, by omega⟩
    obtain ⟨m, rfl⟩ : ∃ m, pulls' = m + 1 := ⟨pulls' - 1, by omega⟩
    rfl
  | cons item upcoming ih =>
    rw [List.length_cons] at h h'
    obtain ⟨n, rfl⟩ : ∃ n, pulls = n + 1 := ⟨pulls - 1, by omega⟩
    obtain ⟨m, rfl⟩ : ∃ m, pulls' = m + 1 := ⟨pulls' - 1, by omega⟩
    cases item with
    | error fault => rfl
    | ok t =>
      have hpull : Supply.pull limit (.ok t :: upcoming) = (.item (.ok t), upcoming) := rfl
      rw [next_of_pull hpull, next_of_pull hpull]
      split
      · rfl
      · rfl
      · exact ih (by omega) (by omega)

theorem next_ne_outOfRounds {pulls : Nat} (h : upcoming.length < pulls) :
    (next r limit pulls ⟨upcoming, spans⟩).1 ≠ .outOfRounds := by
  induction upcoming generalizing pulls spans with
  | nil =>
    obtain ⟨n, rfl⟩ : ∃ n, pulls = n + 1 := ⟨pulls - 1, by omega⟩
    cases spans <;> exact nofun
  | cons item upcoming ih =>
    rw [List.length_cons] at h
    obtain ⟨n, rfl⟩ : ∃ n, pulls = n + 1 := ⟨pulls - 1, by omega⟩
    rcases next_cons r limit n item upcoming spans with
      ⟨t, between, -, -, hnext⟩ | ⟨answer, between, hnext⟩
    · rw [hnext]
      exact ih (by omega)
    · rw [hnext]
      exact nofun

theorem answers_ne_outOfRounds (h : upcoming.length < limit) (count : Nat) :
    ∀ a ∈ (answers r limit count ⟨upcoming, spans⟩).1, a.1 ≠ .outOfRounds := by
  induction count generalizing upcoming spans with
  | zero => exact fun a ha => absurd ha List.not_mem_nil
  | succ count ih =>
    intro a ha
    have hle := length_next_le r limit limit upcoming spans
    rcases List.mem_cons.1 ha with rfl | ha
    · exact next_ne_outOfRounds h
    · exact ih (Nat.lt_of_le_of_lt hle h) a ha

/-! ## Going on -/

theorem answers_cons {υ : Type} [Supply υ V] (count : Nat) (run : Reducing υ V) :
    answers r limit (count + 1) run =
      (((next r limit limit run).1, (next r limit limit run).2.pending) ::
        (answers r limit count (next r limit limit run).2).1,
        (answers r limit count (next r limit limit run).2).2) := rfl

/-- Behind tokens that are swallowed a run goes on with the next one. -/
theorem next_of_quiet {quiet : List (Token V)} {between : List (Span V)}
    (h : r.Swallows quiet spans between) (hlimit : quiet.length < limit) (t : Token V)
    (left : List (Token V)) (rest : List (Except Fault (Token V))) :
    ∃ pulls, next r limit limit ⟨items (quiet ++ t :: left) rest, spans⟩ =
      next r limit (pulls + 1) ⟨.ok t :: items left rest, between⟩ := by
  obtain ⟨pulls, hpulls⟩ : ∃ pulls, limit = quiet.length + (pulls + 1) :=
    ⟨limit - quiet.length - 1, by omega⟩
  have hnext :
      next r limit (quiet.length + (pulls + 1)) ⟨items quiet (items (t :: left) rest), spans⟩ =
        next r limit (pulls + 1) ⟨items (t :: left) rest, between⟩ := next_of_swallows h (pulls + 1)
  rw [← hpulls, ← items_append] at hnext
  exact ⟨pulls, hnext⟩

theorem next_of_answered {quiet left : List (Token V)} {t : Token V}
    {answer : Except Fault (Token V)} {between : List (Span V)}
    (h : r.Swallows quiet spans between) (hfeed : r.feed t between = (answer.map some, spans'))
    (hlimit : quiet.length < limit) :
    next r limit limit ⟨items (quiet ++ t :: left) rest, spans⟩ =
      (.item answer, ⟨items left rest, spans'⟩) := by
  obtain ⟨pulls, hnext⟩ := next_of_quiet h hlimit t left rest
  rw [hnext, next_of_pull rfl, hfeed]
  cases answer <;> rfl

/-- Where all tokens are swallowed, the next answer is that of what comes behind them. -/
theorem next_of_swallowed (h : r.Swallows tokens spans spans')
    (hlimit : tokens.length + rest.length < limit) :
    next r limit limit ⟨items tokens rest, spans⟩ = next r limit limit ⟨rest, spans'⟩ := by
  obtain ⟨pulls, hpulls⟩ : ∃ pulls, limit = tokens.length + pulls :=
    ⟨limit - tokens.length, by omega⟩
  have hnext : next r limit (tokens.length + pulls) ⟨items tokens rest, spans⟩ =
      next r limit pulls ⟨rest, spans'⟩ := next_of_swallows h pulls
  rw [← hpulls] at hnext
  rw [hnext]
  exact next_eq_of_length_lt (by omega) (by omega)

/-- **Tokens that are swallowed are as if they had been swallowed before**: what is answered behind
them is what is answered from the spans that they leave. -/
theorem answers_of_swallows (h : r.Swallows tokens spans spans')
    (hlimit : tokens.length + rest.length < limit) (count : Nat) :
    (answers r limit count ⟨items tokens rest, spans⟩).1 =
      (answers r limit count ⟨rest, spans'⟩).1 := by
  cases count with
  | zero => rfl
  | succ count => rw [answers_cons, answers_cons, next_of_swallowed h hlimit]

/-- What asking a run brings at the end of its tokens. -/
inductive AtEnd : Pull V → Prop where
  | ended : AtEnd .ended
  | unclosed (depth : Nat) : AtEnd (.item (.error (.unclosedSpans depth)))

/-- Asked again and again, a run over the tokens that starts with spans open gives other tokens and
then comes to the end of its own, where these spans are open. -/
structure Drains (r : Reducer V) (limit : Nat) (opened : List (Span V))
    (tokens given : List (Token V)) (pending : List (Span V)) : Prop where
  answers : ∃ last : Pull V, AtEnd last ∧
    (answers r limit (given.length + 1) (start (items tokens []) opened)).1.map Prod.fst =
      given.map (fun token => .item (.ok token)) ++ [last]
  pending : (Reducing.answers r limit (given.length + 1)
    (start (items tokens []) opened)).2.pending = pending

namespace Drains

variable {given : List (Token V)} {opened pending : List (Span V)}

theorem swallows (h : Drains r limit opened tokens [] pending) (hlimit : tokens.length < limit) :
    r.Swallows tokens opened.reverse pending.reverse := by
  obtain ⟨⟨last, hlast, hanswer⟩, hpending⟩ := h
  have hfirst : (next r limit limit (start (items tokens []) opened)).1 = last := by
    simpa [answers_cons, Reducing.answers] using hanswer
  have hspans : (next r limit limit (start (items tokens []) opened)).2.pending = pending :=
    hpending
  rw [start] at hfirst hspans
  cases r.outlook tokens opened.reverse with
  | answers htokens hquiet hfeed =>
    rw [htokens, List.length_append, List.length_cons] at hlimit
    rw [htokens, next_of_answered hquiet hfeed (by omega)] at hfirst
    rw [← hfirst] at hlast
    cases hlast with
    | unclosed depth => exact absurd rfl (Reducer.feed_ne_unclosed hfeed depth)
  | @swallows spans' hall =>
    obtain ⟨pulls, hpulls⟩ : ∃ pulls, limit = pulls + 1 := ⟨limit - 1, by omega⟩
    rw [next_of_swallowed hall (by simpa using hlimit), hpulls] at hspans
    have hleft : spans'.reverse = pending := by
      cases spans' <;> exact hspans
    rw [← hleft, List.reverse_reverse]
    exact hall

theorem emits {token : Token V} (h : Drains r limit opened tokens (token :: given) pending)
    (hlimit : tokens.length < limit) : ∃ quiet t left between spans', tokens = quiet ++ t :: left ∧
      r.Swallows quiet opened.reverse between ∧ r.feed t between = (.ok (some token), spans') ∧
      Drains r limit spans'.reverse left given pending := by
  obtain ⟨⟨last, hlast, hanswers⟩, hpending⟩ := h
  rw [List.length_cons, answers_cons] at hanswers hpending
  rw [List.map_cons, List.map_cons, List.cons_append, List.cons.injEq] at hanswers
  obtain ⟨hfirst, hrest⟩ := hanswers
  rw [start] at hfirst hrest hpending
  cases r.outlook tokens opened.reverse with
  | @answers quiet left t answer between spans' htokens hquiet hfeed =>
    rw [htokens, List.length_append, List.length_cons] at hlimit
    have hnext : next r limit limit ⟨items tokens [], opened.reverse⟩ =
        (.item answer, ⟨items left [], spans'⟩) := by
      rw [htokens]
      exact next_of_answered hquiet hfeed (by omega)
    rw [hnext] at hfirst hrest hpending
    obtain rfl : answer = .ok token := by simpa using hfirst
    refine ⟨quiet, t, left, between, spans', htokens, hquiet, hfeed, ⟨last, hlast, ?_⟩, ?_⟩
    · rw [start, List.reverse_reverse]
      exact hrest
    · rw [start, List.reverse_reverse]
      exact hpending
  | @swallows spans' hall =>
    obtain ⟨pulls, hpulls⟩ : ∃ pulls, limit = pulls + 1 := ⟨limit - 1, by omega⟩
    rw [next_of_swallowed hall (by simpa using hlimit), hpulls] at hfirst
    cases spans' <;> cases hfirst

end Drains

/-- **Going on behind tokens that a run has drained.** -/
theorem Drains.answers_append {opened pending : List (Span V)} {xs ys given : List (Token V)}
    (h : Drains r limit opened xs given pending) (hlimit : xs.length + ys.length < limit)
    (count : Nat) :
    (Reducing.answers r limit (given.length + count) (start (items (xs ++ ys) []) opened)).1 =
      emitted given ++ (Reducing.answers r limit count (start (items ys []) pending)).1 := by
  have hys : (items ys []).length = ys.length := by simp [items]
  induction given generalizing xs opened with
  | nil =>
    have hall := h.swallows (by omega)
    rw [List.length_nil, Nat.zero_add, start, items_append,
      answers_of_swallows hall (by omega) count]
    rfl
  | cons token given ih =>
    obtain ⟨quiet, t, left, between, spans', rfl, hquiet, hfeed, hrest⟩ := h.emits (by omega)
    rw [List.length_append, List.length_cons] at hlimit
    have hnext : next r limit limit ⟨items (quiet ++ t :: (left ++ ys)) [], opened.reverse⟩ =
        (.item (.ok token), ⟨items (left ++ ys) [], spans'⟩) :=
      next_of_answered hquiet hfeed (by omega)
    rw [List.length_cons, Nat.add_right_comm, answers_cons, start, List.append_assoc,
      List.cons_append, hnext]
    have hbehind := ih hrest (by omega)
    rw [start, List.reverse_reverse] at hbehind
    rw [hbehind, Reducer.spans_of_emission hfeed]
    rfl

theorem Drains.answers_eq {opened pending : List (Span V)} {given : List (Token V)}
    (h : Drains r limit opened tokens given pending) (hlimit : tokens.length < limit) :
    (Reducing.answers r limit given.length (start (items tokens []) opened)).1 = emitted given := by
  have hnone : tokens.length + ([] : List (Token V)).length < limit := hlimit
  have hfront := h.answers_append hnone 0
  rw [List.append_nil] at hfront
  exact hfront.trans (List.append_nil _)

/-- **A run can be stopped and gone on with anywhere.** Where a run over some tokens gives other
tokens and comes to the end of its own with spans open, a run over the same tokens and more of them
gives the same at first, and then the answers of a run over the tokens behind that starts with these
spans open: however often it is asked, with the same spans open after each answer, and the answers
are there. -/
theorem answers_resumed (r : Reducer V) {opened pending : List (Span V)}
    {xs ys given : List (Token V)} (h : Drains r limit opened xs given pending)
    (hlimit : xs.length + ys.length < limit) (count : Nat) :
    (answers r limit (given.length + count) (start (items (xs ++ ys) []) opened)).1 =
      (answers r limit given.length (start (items xs []) opened)).1 ++
        (answers r limit count (start (items ys []) pending)).1 ∧
    ∀ a ∈ (answers r limit count (start (items ys []) pending)).1, a.1 ≠ .outOfRounds := by
  have hys : (items ys []).length = ys.length := by simp [items]
  constructor
  · rw [h.answers_append hlimit count, h.answers_eq (by omega)]
  · exact answers_ne_outOfRounds (by omega) count

/-- A number and an array that holds a number and an array, cut inside the inner one. -/
theorem answers_resumed_arrays :
    let xs := [Demo.numberToken 1, Demo.arrayTokens.1, Demo.numberToken 2, Demo.arrayTokens.1]
    let ys := [Demo.arrayTokens.2, Demo.numberToken 3, Demo.arrayTokens.2]
    let pending := [⟨some "ARRAY", [Demo.numberToken 2]⟩, ⟨some "ARRAY", []⟩]
    (answers Demo.reducer 8 (1 + 3) (start (items (xs ++ ys) []) [])).1 =
      (answers Demo.reducer 8 1 (start (items xs []) [])).1 ++
        (answers Demo.reducer 8 3 (start (items ys []) pending)).1 := by
  intro xs ys pending
  have hdrains : Drains Demo.reducer 8 [] xs [Demo.numberToken 1] pending :=
    ⟨⟨.item (.error (.unclosedSpans 2)), .unclosed 2, rfl⟩, rfl⟩
  have hlimit : xs.length + ys.length < 8 := by decide
  exact (answers_resumed Demo.reducer hdrains hlimit 3).1

end Reducing

end Lexis
