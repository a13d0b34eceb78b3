import Lexis.Pattern.Search

/-!
# Where matches begin

Following, settling and stepping move threads on and leave their starts alone, so a match begins
where one of the threads was started. A pinned program starts none behind the first position.

Principal results:

* `follow_start`, `settle_start`, `start_of_take?` — threads keep their starts;
* `Program.search_start` — a match of a pinned program begins at the start of the text.
-/

namespace Lexis.Pattern

/-- All threads begin at the start of the text. -/
def FromStart (threads : List Thread) : Prop :=
  ∀ t ∈ threads, t.start = 0

theorem fromStart_nil : FromStart [] := fun _ h => absurd h List.not_mem_nil

theorem fromStart_cons {t : Thread} {threads : List Thread} :
    FromStart (t :: threads) ↔ t.start = 0 ∧ FromStart threads := by
  unfold FromStart
  exact List.forall_mem_cons

theorem follow_start (code : Array Instr) (p : Place) (fuel seen : Nat) (threads : List Thread)
    (h : FromStart threads) : FromStart (follow code p fuel seen threads) := by
  fun_induction follow code p fuel seen threads with
  | case1 => exact fromStart_nil
  | case2 => exact fromStart_nil
  | case3 _ _ _ _ _ ih => exact ih (fromStart_cons.1 h).2
  | case4 _ _ _ _ _ _ _ ih => exact ih (fromStart_cons.1 h).2
  | case5 _ _ _ _ _ _ _ ih =>
    have h := fromStart_cons.1 h
    exact fromStart_cons.2 ⟨h.1, ih h.2⟩
  | case6 _ _ _ _ _ _ _ _ ih =>
    have h := fromStart_cons.1 h
    exact fromStart_cons.2 ⟨h.1, ih h.2⟩
  | case7 _ _ _ _ _ _ _ _ ih =>
    have h := fromStart_cons.1 h
    exact ih (fromStart_cons.2 ⟨h.1, h.2⟩)
  | case8 _ _ _ _ _ _ _ _ _ ih =>
    have h := fromStart_cons.1 h
    exact ih (fromStart_cons.2 ⟨h.1, fromStart_cons.2 ⟨h.1, h.2⟩⟩)
  | case9 _ _ _ _ _ _ _ _ _ ih =>
    have h := fromStart_cons.1 h
    exact ih (fromStart_cons.2 ⟨h.1, h.2⟩)
  | case10 _ _ _ _ _ _ _ _ _ ih => exact ih (fromStart_cons.1 h).2
  | case11 _ _ _ _ _ _ _ _ ih =>
    have h := fromStart_cons.1 h
    exact ih (fromStart_cons.2 ⟨h.1, h.2⟩)

theorem settle_start (code : Array Instr) (position : Nat) : ∀ (threads : List Thread),
    FromStart threads → FromStart (settle code position threads).1 ∧
      ∀ hit, (settle code position threads).2 = some hit → hit.start = 0
  | [], _ => ⟨fromStart_nil, fun _ h => by cases h⟩
  | t :: threads, h => by
    obtain ⟨ht, hthreads⟩ := fromStart_cons.1 h
    obtain ⟨hlive, hhit⟩ := settle_start code position threads hthreads
    unfold settle
    split
    · refine ⟨fromStart_nil, fun hit heq => ?_⟩
      cases heq
      exact ht
    · exact ⟨fromStart_cons.2 ⟨ht, hlive⟩, hhit⟩

theorem start_of_take? {code : Array Instr} {c : Char} {t t' : Thread}
    (h : t.take? code c = some t') : t'.start = t.start := by
  unfold Thread.take? at h
  split at h
  · split at h
    · cases h
      rfl
    · cases h
  · cases h

theorem fromStart_filterMap_take? {code : Array Instr} {c : Char} {threads : List Thread}
    (h : FromStart threads) : FromStart (threads.filterMap (Thread.take? code c)) := by
  intro t' ht'
  obtain ⟨t, ht, htake⟩ := List.mem_filterMap.1 ht'
  rw [start_of_take? htake]
  exact h t ht

namespace Program

theorem startAt_start {p : Program} (hp : p.pinned = true) (position : Nat) (best : Option Hit)
    {threads : List Thread} (h : FromStart threads) :
    FromStart (if best.isNone && (position == 0 || !p.pinned) then threads ++ [p.startAt position]
      else threads) := by
  split
  · rename_i hbegins
    have hzero : position = 0 := by simp [hp] at hbegins; exact hbegins.2
    intro t ht
    rcases List.mem_append.1 ht with ht | ht
    · exact h t ht
    · rw [List.mem_singleton.1 ht]
      exact hzero
  · exact h

theorem run_start {p : Program} (hp : p.pinned = true) : ∀ (rest : List Char) (position : Nat)
    (before : Option Char) (threads : List Thread) (best : Option Hit), FromStart threads →
      (∀ hit, best = some hit → hit.start = 0) →
        ∀ hit, p.run position before threads best rest = some hit → hit.start = 0
  | rest, position, before, threads, best, hthreads, hbest, hit, h => by
    have hbegun := startAt_start hp position best hthreads
    unfold run at h
    dsimp only at h
    generalize (if best.isNone && (position == 0 || !p.pinned) then threads ++ [p.startAt position]
      else threads) = begun at h hbegun
    split at h
    · exact hbest hit h
    obtain ⟨hlive, hhit⟩ := settle_start p.code position _
      (follow_start p.code ⟨position, before, rest.head?⟩ (followFuel p.code begun) 0 _ hbegun)
    generalize settle p.code position _ = settled at h hlive hhit
    have hbest' : ∀ hit', settled.2.or best = some hit' → hit'.start = 0 := by
      intro hit' heq
      rcases Option.or_eq_some_iff.1 heq with heq | ⟨-, heq⟩
      · exact hhit hit' heq
      · exact hbest hit' heq
    split at h
    · exact hbest' hit h
    · rename_i c rest
      exact run_start hp rest (position + 1) (some c) _ _ (fromStart_filterMap_take? hlive) hbest'
        hit h

/-- **A match of a pinned program begins at the start of the text.** -/
theorem search_start {p : Program} (hp : p.pinned = true) {text : List Char} {hit : Hit}
    (h : p.search text = some hit) : hit.start = 0 :=
  run_start hp text 0 none [] none fromStart_nil (fun _ h => by cases h) hit h

end Program

end Lexis.Pattern
