import Lexis.Proofs.Reducer.Course
import Lexis.Proofs.Reducer.Routing

/-!
# Reducing twice

What has come out of a reducer is not ignorable and marks no end of a span, unless a reduction gives
an END. So there is nothing to be done for a second reducer, whatever its reductions are: each token
comes out as it is pulled.

Principal results:

* `Course.of_plain` — the course of a series over tokens that mark no end of a span;
* `ReducedSeries.answers_repeated` — what a series has given, reduced again.
-/

namespace Lexis

variable {υ V : Type} [GroupNamed V]

/-- Tokens that mark no end of a span come out one by one, and no span is open at any time. -/
theorem Course.of_plain (r : Reducer V) (limit : Nat) {tokens : List (Token V)}
    (h : ∀ t ∈ tokens, t.Plain) :
    ∃ pulled : List (Pulled (List (Except Fault (Token V))) V),
      Course r limit ⟨Reducing.items tokens [], []⟩ pulled (emissions tokens) ∧
        pulled.map Pulled.token = tokens ∧ ∀ p ∈ pulled, p.after.spans = [] := by
  induction tokens with
  | nil => exact ⟨[], .ended rfl, rfl, fun p hp => absurd hp List.not_mem_nil⟩
  | cons t tokens ih =>
    obtain ⟨hplain, hrest⟩ := List.forall_mem_cons.1 h
    obtain ⟨pulled, hcourse, hpulled, hspans⟩ := ih hrest
    refine ⟨_, .emitted rfl (Reducer.feed_plain_nil hplain) hcourse, ?_, ?_⟩
    · rw [List.map_cons, hpulled]
    · exact List.forall_mem_cons.2 ⟨rfl, hspans⟩

namespace ReducedSeries

variable [Supply υ V] {r : Reducer V} {limit : Nat}

/-- **Reducing again changes nothing.** No reduction of a reducer gives an END. What a series of it
has given, whatever spans were open at first, a series of any reducer over these tokens gives again,
in order, and then it ends without a fault; no span is open at any time. -/
theorem answers_repeated (hr : r.ClosesNone) {supply : υ} {opened : List (Span V)} {count : Nat}
    {given : List (Token V)}
    (hgiven : ((ofRun r (Reducing.start supply opened)).answers limit count).1.map Prod.fst =
      given.map .ok)
    (again : Reducer V) {limit' count' : Nat} (hlimit : given.length < limit')
    (hcount : given.length < count') :
    let series := ofRun again (Reducing.start (Reducing.items given []) [])
    (∃ last, series.answers limit' count' = (emissions given, true, last)) ∧
      (series.pulled limit' count').map Pulled.token = given ∧
      ∀ p ∈ series.pulled limit' count', p.after.spans = [] := by
  intro series
  have hplain : ∀ t ∈ given, t.Plain := by
    intro t ht
    have hmem : (.ok t : Except Fault (Token V)) ∈ given.map .ok := List.mem_map_of_mem ht
    rw [← hgiven] at hmem
    obtain ⟨a, ha, heq⟩ := List.mem_map.1 hmem
    exact (answers_handsOn limit count _ a ha t heq).plain hr
  obtain ⟨pulled, hcourse, hpulled, hspans⟩ := Course.of_plain again limit' hplain
  have hlength : pulled.length = given.length := by rw [← hpulled, List.length_map]
  have hfew : (emissions given).length < count' := by
    rw [emissions, List.length_map]
    exact hcount
  obtain ⟨hanswers, hread⟩ := hcourse.series (by omega) hfew
  have hseries : series.pulled limit' count' = pulled := hread
  rw [hseries]
  exact ⟨hanswers, hpulled, hspans⟩

end ReducedSeries

theorem Demo.closesNone_reducer : Demo.reducer.ClosesNone := by
  intro t h
  rcases h.of_register with ⟨children, rfl⟩ | h
  · rfl
  · rcases h.of_register with ⟨children, rfl⟩ | h
    · rfl
    · exact absurd h (Reducer.not_gives_empty false t)

/-- Two arrays, the first of them open at first, and a number, reduced again without reductions. -/
theorem ReducedSeries.answers_repeated_arrays :
    let blank := Token.ignored (.text ",")
    let tokens := [Demo.arrayTokens.2, Demo.arrayTokens.1, blank, Demo.numberToken 1,
      Demo.arrayTokens.2, blank, Demo.numberToken 2]
    let given : List (Token Value) :=
      [⟨some "ARRAY", .list []⟩, ⟨some "ARRAY", .list [.number 1]⟩, Demo.numberToken 2]
    let first := ofRun Demo.reducer (Reducing.start (Reducing.items tokens []) [⟨none, []⟩])
    let series := ofRun (Reducer.empty true) (Reducing.start (Reducing.items given []) [])
    (first.answers 8 4).1.map Prod.fst = given.map .ok ∧
      (∃ last, series.answers 4 4 = (emissions given, true, last)) ∧
      (series.pulled 4 4).map Pulled.token = given ∧
      ∀ p ∈ series.pulled 4 4, p.after.spans = [] := by
  intro blank tokens given first series
  have hgiven : (first.answers 8 4).1.map Prod.fst = given.map .ok := rfl
  have hlength : given.length < 4 := by decide
  exact ⟨hgiven,
    answers_repeated Demo.closesNone_reducer hgiven (Reducer.empty true) hlength hlength⟩

end Lexis
