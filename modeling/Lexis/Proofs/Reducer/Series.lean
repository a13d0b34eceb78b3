import Lexis.Proofs.Reducer.Forest

/-!
# Series of tokens that come out

A series asks a run again and again until it ends. Over a supply that brings the tokens of a forest
each tree outside all spans is one answer, the token that it folds to, and no span is open behind
it.

Principal results:

* `ReducedSeries.answers_of_tree`, `ReducedSeries.answers_of_forest` — trees outside all spans;
* `ReducedSeries.answers_of_ended` — the end of the supply.
-/

namespace Lexis

variable {υ V : Type} [GroupNamed V] [Supply υ V] {r : Reducer V} {limit : Nat} {supply left : υ}

namespace ReducedSeries

/-- A series that is outside all spans and has not ended. -/
def outside (r : Reducer V) (supply : υ) : ReducedSeries υ V := ⟨r, ⟨supply, []⟩, false⟩

theorem answers_of_tree (hr : r.OpensNone) {tree : Tree V} (h : tree.Proper r) {token : Token V}
    (hfolded : tree.folded r = some token) (hsupplies : Supplies limit tree.written supply left)
    (hlimit : tree.written.length ≤ limit) (count : Nat) :
    answers limit (count + 1) (outside r supply) =
      ((.ok token, []) :: (answers limit count (outside r left)).1,
        (answers limit count (outside r left)).2) := by
  obtain ⟨init, last, opened, hwritten, -, hinit, hfeed⟩ := tree.emits hr h
  rw [hfolded] at hfeed
  rw [hwritten] at hsupplies
  have hlength : limit = init.length + (limit - init.length - 1 + 1) := by
    rw [hwritten, List.length_append, List.length_singleton] at hlimit
    omega
  have hnext := Reducing.next_of_supplies_emission hsupplies hinit hfeed (limit - init.length - 1)
  rw [← hlength] at hnext
  have hpull : pull limit (outside r supply) = (.item (.ok token), outside r left) := by
    simp [pull, outside, hnext, isLast]
  rw [answers, hpull]
  rfl

/-- **A forest outside all spans** comes out tree by tree. -/
theorem answers_of_forest (hr : r.OpensNone) {forest : List (Tree V)} {tokens : List (Token V)}
    (h : ProperForest r forest) (hfolded : forest.map (Tree.folded r) = tokens.map some)
    (hsupplies : Supplies limit (writtenForest forest) supply left)
    (hlimit : (writtenForest forest).length ≤ limit) (count : Nat) :
    answers limit (tokens.length + count) (outside r supply) =
      (tokens.map (fun token => (.ok token, [])) ++ (answers limit count (outside r left)).1,
        (answers limit count (outside r left)).2) := by
  induction forest generalizing tokens supply with
  | nil =>
    have hnone : tokens = [] := List.map_eq_nil_iff.1 hfolded.symm
    have hleft : supply = left := by
      rw [writtenForest] at hsupplies
      exact hsupplies
    simp [hnone, hleft]
  | cons tree forest ih =>
    obtain ⟨token, more, rfl, hmore⟩ : ∃ token more, tokens = token :: more ∧
        forest.map (Tree.folded r) = more.map some := by
      cases tokens with
      | nil => simp at hfolded
      | cons token more => exact ⟨token, more, rfl, (List.cons.inj hfolded).2⟩
    have htree : tree.folded r = some token := (List.cons.inj hfolded).1
    rw [ProperForest] at h
    rw [writtenForest] at hsupplies hlimit
    rw [List.length_append] at hlimit
    obtain ⟨between, hfirst, hrest⟩ := hsupplies.split
    have hanswer := answers_of_tree hr h.1 htree hfirst (by omega) (more.length + count)
    rw [List.length_cons, Nat.add_right_comm, hanswer, ih h.2 hmore hrest (by omega)]
    simp

theorem answers_of_ended (hpull : Supply.pull limit supply = (.ended, left)) (hlimit : 0 < limit)
    (count : Nat) :
    ((answers limit (count + 1) (outside r supply)).1,
      (answers limit (count + 1) (outside r supply)).2.1) = ([], true) := by
  obtain ⟨pulls, rfl⟩ : ∃ pulls, limit = pulls + 1 := ⟨limit - 1, by omega⟩
  have hnext : Reducing.next r (pulls + 1) (pulls + 1) ⟨supply, []⟩ = (.ended, ⟨left, []⟩) := by
    simp only [Reducing.next, hpull, Reducing.ending]
  simp [answers, pull, outside, hnext]

end ReducedSeries

end Lexis
