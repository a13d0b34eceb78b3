import Lexis.Pattern.Basic
import Lexis.Proofs.Pattern.Closing
import Lexis.Proofs.Pattern.Search

/-!
# The anchor of a pattern

A pattern is compiled between an anchor and a closing parenthesis, as one text. What is read then
need not be the pattern behind the anchor: a parenthesis of the pattern can close the group early,
and then the anchor holds for the first alternative only. For a pattern that can be read on its own
this is excluded: each item is read as it is read alone (`Reading.item_enters`), with one more group
around it.

Principal results:

* `Reading.items_inside` — all items of the pattern are read, and then the group is closed;
* `parse_anchor` — the anchor holds for the whole pattern;
* `Valid.startsInFront`, `StartsInFront.whole_isPrefix` — a match of the pattern is in front of the
  text.
-/

namespace Lexis.Pattern

open Text

/-! ## Groups -/

theorem flagList_read_append {l l' : FlagList} {closing : Bool} {s rest : List Char}
    (h : l.read s = .ok (l', closing, rest)) (t : List Char) :
    l.read (s ++ t) = .ok (l', closing, rest ++ t) := by
  fun_induction FlagList.read l s with
  | case1 => cases h
  | case2 => cases h
  | case3 l c s hc hd =>
    cases h
    rw [List.cons_append, FlagList.read, if_pos hc, if_neg hd]
  | case4 => cases h
  | case5 l s hc hs ih =>
    rw [List.cons_append, FlagList.read, if_neg hc, if_neg hs, if_pos rfl]
    exact ih h
  | case6 l c s hc hs hm flags hf ih =>
    rw [List.cons_append, FlagList.read, if_neg hc, if_neg hs, if_neg hm, hf]
    exact ih h
  | case7 => cases h

theorem length_flagList_read_le {l l' : FlagList} {closing : Bool} {s rest : List Char}
    (h : l.read s = .ok (l', closing, rest)) : rest.length ≤ s.length := by
  fun_induction FlagList.read l s with
  | case1 => cases h
  | case2 => cases h
  | case3 l c s hc hd =>
    cases h
    exact Nat.le_succ _
  | case4 => cases h
  | case5 l s hc hs ih => exact Nat.le_succ_of_le (ih h)
  | case6 l c s hc hs hm flags hf ih => exact Nat.le_succ_of_le (ih h)
  | case7 => cases h

theorem flagList_read_carries (l : FlagList) {s rest : List Char} {l' : FlagList} {closing : Bool}
    (h : l.read s = .ok (l', closing, rest)) : rest.length ≤ s.length ∧ ∀ s', Closes s s' →
      ∃ rest', l.read s' = .ok (l', closing, rest') ∧ Closes rest rest' := by
  refine ⟨length_flagList_read_le h, fun s' hs => ?_⟩
  cases hs with
  | kept => exact ⟨_, flagList_read_append h _, .kept rest⟩
  | lost => cases h

theorem groupName_carries : Carries groupName := by
  intro s name rest h
  unfold groupName at h
  dsimp only at h
  rw [drop_length_takeWhile] at h
  split at h
  · cases h
  rename_i c rest₁ hdrop
  split at h
  · rename_i hname
    cases h
    have hlen := (List.dropWhile_suffix (l := s) (· != '>')).length_le
    rw [hdrop, List.length_cons] at hlen
    refine ⟨by omega, fun s' hs => ?_⟩
    cases hs with
    | lost => cases hdrop
    | kept =>
      refine ⟨_, ?_, .kept _⟩
      unfold groupName
      dsimp only
      rw [drop_length_takeWhile, List.dropWhile_append,
        takeWhile_append_of_dropWhile (by rw [hdrop]; exact List.cons_ne_nil _ _), hdrop]
      simp only [List.isEmpty_cons, Bool.false_eq_true, if_false, List.cons_append]
      rw [if_pos hname]
  · cases h

/-- A reading of a pattern as a reading of a group that the pattern is in. -/
def Reading.inside (base : Frame) (r : Reading) : Reading :=
  { r with frames := r.frames ++ [base] }

/-- What a reader of items does is the same inside a group. -/
def Enters (base : Frame)
    (read : Reading → List Char → Except Defect (Reading × List Char)) : Prop :=
  ∀ r s r₁ rest, read r s = .ok (r₁, rest) → rest.length ≤ s.length ∧
    ∀ s', Closes s s' → ∃ rest', read (r.inside base) s' = .ok (r₁.inside base, rest') ∧
      Closes rest rest'

namespace Reading

variable {base : Frame}

@[simp] theorem inside_flags (r : Reading) : (r.inside base).flags = r.flags := rfl

theorem openNamed_enters (base : Frame) : Enters base openNamed := by
  intro r s r₁ rest h
  unfold openNamed at h
  split at h
  · cases h
  rename_i name s₁ hname
  split at h
  · cases h
  rename_i hfresh
  cases h
  obtain ⟨hlen, hcl⟩ := groupName_carries _ _ _ hname
  refine ⟨hlen, fun s' hs => ?_⟩
  obtain ⟨rest', hrest', hclose⟩ := hcl s' hs
  refine ⟨rest', ?_, hclose⟩
  simp only [openNamed, hrest']
  exact (if_neg hfresh).trans rfl

theorem openFlags_enters (base : Frame) : Enters base openFlags := by
  intro r s r₁ rest h
  unfold openFlags at h
  split at h
  · cases h
  · rename_i l s₁ hread
    split at h
    · cases h
    rename_i hseen
    cases h
    obtain ⟨hlen, hcl⟩ := flagList_read_carries _ hread
    refine ⟨hlen, fun s' hs => ?_⟩
    obtain ⟨rest', hrest', hclose⟩ := hcl s' hs
    refine ⟨rest', ?_, hclose⟩
    unfold openFlags
    simp only [inside, hrest']
    rw [if_neg hseen]
  · rename_i l s₁ hread
    cases h
    obtain ⟨hlen, hcl⟩ := flagList_read_carries _ hread
    refine ⟨hlen, fun s' hs => ?_⟩
    obtain ⟨rest', hrest', hclose⟩ := hcl s' hs
    refine ⟨rest', ?_, hclose⟩
    unfold openFlags
    simp only [inside, hrest']
    rfl

theorem openGroup_eq_openNamed {r : Reading} {s t : List Char}
    (hs : r.flags.skip s = '?' :: '<' :: t) (h₁ : ∀ u, t ≠ '=' :: u) (h₂ : ∀ u, t ≠ '!' :: u) :
    r.openGroup s = r.openNamed t := by
  unfold openGroup
  rw [hs]
  split
  case h_3 u heq =>
    cases heq
    exact absurd rfl (h₁ u)
  case h_4 u heq =>
    cases heq
    exact absurd rfl (h₂ u)
  case h_6 u _ _ heq =>
    cases heq
    rfl
  case h_7 hne heq =>
    cases heq
    exact absurd rfl (hne t)
  case h_8 hne => exact absurd rfl (hne ('<' :: t))
  all_goals
    rename_i heq
    cases heq

theorem openGroup_eq_openFlags {r : Reading} {s t : List Char} (hs : r.flags.skip s = '?' :: t)
    (h₁ : ∀ u, t ≠ '=' :: u) (h₂ : ∀ u, t ≠ '!' :: u) (h₃ : ∀ u, t ≠ 'P' :: '<' :: u)
    (h₄ : ∀ u, t ≠ '<' :: u) : r.openGroup s = r.openFlags t := by
  unfold openGroup
  rw [hs]
  split
  case h_7 heq =>
    cases heq
    rfl
  case h_8 hne => exact absurd rfl (hne t)
  case h_1 u heq =>
    cases heq
    exact absurd rfl (h₁ u)
  case h_2 u heq =>
    cases heq
    exact absurd rfl (h₂ u)
  case h_5 u heq =>
    cases heq
    exact absurd rfl (h₃ u)
  all_goals
    rename_i heq
    cases heq
    exact absurd rfl (h₄ _)

theorem openGroup_eq_openCapture {r : Reading} {s : List Char}
    (h : ∀ u, r.flags.skip s ≠ '?' :: u) : r.openGroup s = .ok (r.openCapture, r.flags.skip s) := by
  unfold openGroup
  split
  case h_8 => rfl
  all_goals
    rename_i heq
    exact absurd heq (h _)

theorem openGroup_enters (base : Frame) : Enters base openGroup := by
  intro r s r₁ rest h
  have hskip := length_skip_le r.flags s
  have hclose : ∀ {s'}, Closes s s' → Closes (r.flags.skip s) ((r.inside base).flags.skip s') :=
    fun hs => skip_closes hs r.flags
  unfold openGroup at h
  split at h
  · cases h
  · cases h
  · cases h
  · cases h
  · rename_i t ht
    simp only [ht, List.length_cons] at hskip hclose
    obtain ⟨hlen, hcl⟩ := openNamed_enters base r _ r₁ rest h
    refine ⟨by omega, fun s' hs => ?_⟩
    obtain ⟨rest', hrest', hrest⟩ := hcl _ (.kept t)
    refine ⟨rest', ?_, hrest⟩
    unfold openGroup
    rw [(hclose hs).eq_of_cons]
    exact hrest'
  · rename_i t h₁ h₂ ht
    simp only [ht, List.length_cons] at hskip hclose
    obtain ⟨hlen, hcl⟩ := openNamed_enters base r _ r₁ rest h
    refine ⟨by omega, fun s' hs => ?_⟩
    obtain ⟨rest', hrest', hrest⟩ := hcl _ (.kept t)
    refine ⟨rest', ?_, hrest⟩
    rw [openGroup_eq_openNamed (hclose hs).eq_of_cons]
    · exact hrest'
    · exact (Closes.kept t).ne_cons (by decide) h₁
    · exact (Closes.kept t).ne_cons (by decide) h₂
  · rename_i t h₁ h₂ _ _ h₃ h₄ ht
    simp only [ht, List.length_cons] at hskip hclose
    obtain ⟨hlen, hcl⟩ := openFlags_enters base r _ r₁ rest h
    refine ⟨by omega, fun s' hs => ?_⟩
    obtain ⟨rest', hrest', hrest⟩ := hcl _ (.kept t)
    refine ⟨rest', ?_, hrest⟩
    rw [openGroup_eq_openFlags (hclose hs).eq_of_cons]
    · exact hrest'
    · exact (Closes.kept t).ne_cons (by decide) h₁
    · exact (Closes.kept t).ne_cons (by decide) h₂
    · intro u hu
      obtain ⟨t₁, rfl, ht₁⟩ := (hu ▸ Closes.kept t).of_cons (by decide)
      obtain ⟨t₂, rfl, -⟩ := ht₁.of_cons (by decide)
      exact h₃ t₂ rfl
    · exact (Closes.kept t).ne_cons (by decide) h₄
  · rename_i h₁
    cases h
    exact ⟨hskip, fun s' hs =>
      ⟨_, openGroup_eq_openCapture ((hclose hs).ne_cons (by decide) h₁), hclose hs⟩⟩

/-! ## Items -/

theorem lazyMark_closes {s s' : List Char} (hs : Closes s s') :
    (lazyMark s').1 = (lazyMark s).1 ∧ Closes (lazyMark s).2 (lazyMark s').2 := by
  unfold lazyMark
  split
  · obtain ⟨s₁, rfl, hclose⟩ := hs.of_cons (by decide)
    exact ⟨rfl, hclose⟩
  · rename_i hne
    split
    · exact absurd hs.eq_of_cons (hne _)
    · exact ⟨rfl, hs⟩

theorem length_lazyMark_le (s : List Char) : (lazyMark s).2.length ≤ s.length := by
  unfold lazyMark
  split
  · exact Nat.le_succ _
  · exact Nat.le_refl _

theorem repeatLast_inside {r r₁ : Reading} {least : Nat} {most : Option Nat} {lazy : Bool}
    (h : r.repeatLast least most lazy = .ok r₁) :
    (r.inside base).repeatLast least most lazy = .ok (r₁.inside base) := by
  unfold repeatLast at h
  split at h
  · rename_i e pieces hpieces
    cases h
    have hpieces' : (r.inside base).pieces = .expr e :: pieces := hpieces
    unfold repeatLast
    rw [hpieces']
    rfl
  · cases h

theorem repeatSign_enters (base : Frame) (least : Nat) (most : Option Nat) :
    Enters base fun r s => r.repeatSign least most s := by
  intro r s r₁ rest h
  have hmap : (r.repeatLast least most (lazyMark s).1).map (fun r => (r, (lazyMark s).2)) =
    .ok (r₁, rest) := h
  obtain ⟨r₂, hr₂, heq⟩ := map_eq_ok hmap
  cases heq
  refine ⟨length_lazyMark_le s, fun s' hs => ?_⟩
  obtain ⟨hlazy, hclose⟩ := lazyMark_closes hs
  refine ⟨_, ?_, hclose⟩
  dsimp only [repeatSign]
  rw [hlazy, repeatLast_inside hr₂]
  rfl

theorem repeatCounted_enters (base : Frame) : Enters base repeatCounted := by
  intro r s r₁ rest h
  unfold repeatCounted at h
  split at h
  · cases h
  rename_i inner s₁ hbrace
  split at h
  · cases h
  rename_i least most hcounts
  have hlen₁ := length_untilBrace_le hbrace
  have hskip := length_skip_le r.flags s₁
  obtain ⟨hlen, hcl⟩ := repeatSign_enters base least most _ _ _ _ h
  refine ⟨by omega, fun s' hs => ?_⟩
  obtain ⟨s₂, hs₂, hclose⟩ := untilBrace_closes hbrace hs
  obtain ⟨rest', hrest', hclose'⟩ := hcl _ (skip_closes hclose r.flags)
  refine ⟨rest', ?_, hclose'⟩
  unfold repeatCounted
  simp only [inside_flags, hs₂, hcounts]
  exact hrest'

theorem pushSet_inside {r r₁ : Reading} {s : CharSet} (h : r.pushSet s = .ok r₁) :
    (r.inside base).pushSet s = .ok (r₁.inside base) := by
  obtain ⟨allowed, hallowed, rfl⟩ := map_eq_ok h
  unfold pushSet
  rw [inside_flags, hallowed]
  rfl

theorem pushDot_inside {r r₁ : Reading} (h : r.pushDot = .ok r₁) :
    (r.inside base).pushDot = .ok (r₁.inside base) := by
  unfold pushDot at h ⊢
  rw [inside_flags]
  split at h
  · rename_i hall
    rw [if_pos hall]
    exact pushSet_inside h
  rename_i hall
  rw [if_neg hall]
  split at h
  · rename_i hcrlf
    rw [if_pos hcrlf]
    exact pushSet_inside h
  · rename_i hcrlf
    rw [if_neg hcrlf]
    exact pushSet_inside h

theorem pushEscaped_inside {r r₁ : Reading} {e : Escaped} (h : r.pushEscaped e = .ok r₁) :
    (r.inside base).pushEscaped e = .ok (r₁.inside base) := by
  cases e with
  | char c =>
    cases h
    rfl
  | byte c =>
    obtain ⟨allowed, hallowed, rfl⟩ := map_eq_ok h
    unfold pushEscaped
    dsimp only
    rw [inside_flags, hallowed]
    rfl
  | set s => exact pushSet_inside h
  | look l =>
    cases h
    rfl

theorem leave_inside {r r₁ : Reading} (h : r.leave = .ok r₁) :
    (r.inside base).leave = .ok (r₁.inside base) := by
  unfold leave at h
  split at h
  · cases h
  rename_i frame frames hframes
  cases h
  have hframes' : (r.inside base).frames = frame :: (frames ++ [base]) := by
    show r.frames ++ [base] = _
    rw [hframes, List.cons_append]
  unfold leave
  rw [hframes']
  rfl

theorem enters_of_map {op op' : Except Defect Reading} {r₁ : Reading} {s rest : List Char}
    (h : op.map (fun r => (r, s)) = .ok (r₁, rest))
    (hop : ∀ r₂, op = .ok r₂ → op' = .ok (r₂.inside base)) : rest.length ≤ s.length ∧
      ∀ s', Closes s s' → ∃ rest', op'.map (fun r => (r, s')) = .ok (r₁.inside base, rest') ∧
        Closes rest rest' := by
  obtain ⟨r₂, hr₂, heq⟩ := map_eq_ok h
  cases heq
  refine ⟨Nat.le_refl _, fun s' hs => ⟨s', ?_, hs⟩⟩
  rw [hop r₁ hr₂]
  rfl

theorem item_enters (base : Frame) (c : Char) : Enters base fun r s => r.item c s := by
  intro r s r₁ rest h
  simp only [item] at h ⊢
  split at h
  · exact openGroup_enters base r s r₁ rest h
  · exact enters_of_map h fun _ => leave_inside
  · cases h
    exact ⟨Nat.le_refl _, fun s' hs => ⟨s', rfl, hs⟩⟩
  · split at h
    · cases h
    rename_i set s₁ hset
    cases h
    obtain ⟨hlen, hcl⟩ := bracketed_carries r.flags _ _ _ hset
    refine ⟨hlen, fun s' hs => ?_⟩
    obtain ⟨rest', hrest', hclose⟩ := hcl s' hs
    refine ⟨rest', ?_, hclose⟩
    simp only [inside_flags, hrest']
    rfl
  · exact repeatSign_enters base _ _ r s r₁ rest h
  · exact repeatSign_enters base _ _ r s r₁ rest h
  · exact repeatSign_enters base _ _ r s r₁ rest h
  · exact repeatCounted_enters base r s r₁ rest h
  · split at h
    · cases h
    rename_i e s₁ he
    obtain ⟨hlen, hcl⟩ := escape_carries r.flags _ _ _ he
    obtain ⟨hlen₁, hcl₁⟩ := enters_of_map h fun _ => @pushEscaped_inside base r _ e
    refine ⟨by omega, fun s' hs => ?_⟩
    obtain ⟨s₂, hs₂, hclose⟩ := hcl s' hs
    simp only [inside_flags, hs₂]
    exact hcl₁ s₂ hclose
  · exact enters_of_map h fun _ => pushDot_inside
  · cases h
    exact ⟨Nat.le_refl _, fun s' hs => ⟨s', rfl, hs⟩⟩
  · cases h
    exact ⟨Nat.le_refl _, fun s' hs => ⟨s', rfl, hs⟩⟩
  · cases h
    exact ⟨Nat.le_refl _, fun s' hs => ⟨s', rfl, hs⟩⟩

theorem items_of_skip_eq_nil {fuel : Nat} {r : Reading} {s : List Char}
    (h : r.flags.skip s = []) : r.items (fuel + 1) s = .ok r := by
  rw [items, h]

theorem items_of_skip_eq_cons {fuel : Nat} {r r₁ : Reading} {s t rest : List Char} {c : Char}
    (h : r.flags.skip s = c :: t) (hitem : r.item c t = .ok (r₁, rest)) :
    r.items (fuel + 1) s = r₁.items fuel rest := by
  simp only [items, h, hitem]

theorem items_nil (fuel : Nat) (r : Reading) : r.items fuel [] = .ok r := by
  cases fuel with
  | zero => rfl
  | succ fuel =>
    refine items_of_skip_eq_nil ?_
    unfold Flags.skip
    split <;> rfl

theorem items_of_skip_eq_close {fuel : Nat} {r : Reading} {s : List Char}
    (h : r.flags.skip s = [')']) : r.items (fuel + 1) s = r.leave := by
  cases hleave : r.leave with
  | error defect =>
    simp only [items, h, item, hleave]
    rfl
  | ok r₁ =>
    have hitem : r.item ')' [] = .ok (r₁, []) := by
      show r.leave.map (fun r => (r, [])) = _
      rw [hleave]
      rfl
    rw [items_of_skip_eq_cons h hitem, items_nil]

theorem frames_inside_ne_nil (r : Reading) : (r.inside base).frames ≠ [] :=
  List.append_ne_nil_of_right_ne_nil _ (List.cons_ne_nil _ _)

/-- What is read of a pattern with a parenthesis behind it, inside a group: the parenthesis closes
the group, or a comment takes it away. -/
theorem items_inside (base : Frame) : ∀ {fuel fuel' : Nat} {r r₁ : Reading} {s s' : List Char},
    r.items fuel s = .ok r₁ → s.length < fuel → Closes s s' → s'.length < fuel' →
      (r.inside base).items fuel' s' = .ok (r₁.inside base) ∨
        (r.inside base).items fuel' s' = (r₁.inside base).leave
  | 0, _, _, _, _, _, _, hf, _, _ => absurd hf (Nat.not_lt_zero _)
  | _, 0, _, _, _, _, _, _, _, hf => absurd hf (Nat.not_lt_zero _)
  | fuel + 1, fuel' + 1, r, r₁, s, s', h, hf, hs, hf' => by
    have hclose : Closes (r.flags.skip s) ((r.inside base).flags.skip s') :=
      skip_closes hs r.flags
    unfold items at h
    split at h
    · rename_i hnil
      cases h
      rw [hnil] at hclose
      generalize hs' : (r.inside base).flags.skip s' = t at hclose
      cases hclose with
      | lost => exact Or.inl (items_of_skip_eq_nil hs')
      | kept => exact Or.inr (items_of_skip_eq_close hs')
    · rename_i c s₁ hcons
      split at h
      · cases h
      rename_i r₂ s₂ hitem
      rw [hcons] at hclose
      have ht : (r.inside base).flags.skip s' = c :: (s₁ ++ [')']) := hclose.eq_of_cons
      obtain ⟨hlen, hcl⟩ := item_enters base c r s₁ r₂ s₂ hitem
      obtain ⟨s₃, hs₃, hclose₃⟩ := hcl _ (.kept s₁)
      have hskip := length_skip_le r.flags s
      have hskip' := length_skip_le (r.inside base).flags s'
      have hlen₃ := hclose₃.length_le_succ
      rw [hcons] at hskip
      rw [ht] at hskip'
      simp only [List.length_cons, List.length_append, List.length_nil] at hskip hskip'
      rw [items_of_skip_eq_cons ht hs₃]
      exact items_inside base h (by omega) hclose₃ (by omega)

/-- The group in which a pattern is read behind the anchor. -/
def anchorFrame : Frame := ⟨none, [], [.expr ⟨.look .textStart, 0⟩], .initial⟩

/-- What is read of a pattern with the anchor in front and its group closed. -/
def closed (r : Reading) : Reading :=
  { r with
    flags := .initial
    branches := []
    pieces := [.expr ⟨r.body.part, r.body.depth + 1⟩, .expr ⟨.look .textStart, 0⟩]
    frames := [] }

theorem closed_body (r : Reading) :
    r.closed.body = ⟨.cat (.look .textStart) r.body.part, r.body.depth + 2⟩ := by
  have hdepth : r.closed.body.depth = max (r.body.depth + 1) 0 + 1 := rfl
  rw [Nat.max_zero] at hdepth
  exact congrArg (Nested.mk _) hdepth

theorem leave_inside_of_frames_eq_nil {r : Reading} (hframes : r.frames = []) :
    (r.inside anchorFrame).leave = .ok r.closed := by
  unfold leave inside
  simp only [hframes]
  rfl

/-- After the anchor the pattern itself is read, inside a group. -/
theorem items_anchor (fuel : Nat) (s : List Char) :
    initial.items (fuel + 2) ('\\' :: 'A' :: '(' :: '?' :: ':' :: s) =
      (initial.inside anchorFrame).items fuel s := rfl

theorem finish_eq_ok_iff {r : Reading} {parsed : Parsed} : r.finish = .ok parsed ↔
    r.frames = [] ∧ r.body.depth ≤ nestLimit ∧ parsed = ⟨r.body.part, r.names⟩ := by
  unfold finish
  split
  · rename_i hframes
    split
    · rename_i hdeep
      exact ⟨nofun, fun h => absurd h.2.1 (Nat.not_le_of_lt hdeep)⟩
    · rename_i hdeep
      exact ⟨fun h => ⟨hframes, Nat.le_of_not_lt hdeep, (Except.ok.inj h).symm⟩,
        fun h => by rw [h.2.2]⟩
  · rename_i hframes
    exact ⟨nofun, fun h => by rw [hframes] at h; cases h.1⟩

end Reading

theorem toList_anchor (source : String) : (Pattern.anchor source).toList =
    '\\' :: 'A' :: '(' :: '?' :: ':' :: (source.toList ++ [')']) := by
  unfold Pattern.anchor
  rw [String.toList_append, String.toList_append]
  rfl

theorem parse_eq_ok_iff {s : List Char} {parsed : Parsed} : parse s = .ok parsed ↔
    ∃ r, Reading.initial.items (s.length + 1) s = .ok r ∧ r.finish = .ok parsed := by
  unfold parse
  cases Reading.initial.items (s.length + 1) s with
  | error defect => exact ⟨nofun, fun ⟨_, hr, _⟩ => by cases hr⟩
  | ok r =>
    constructor
    · intro h
      exact ⟨r, rfl, h⟩
    · rintro ⟨_, ⟨⟩, h⟩
      exact h

/-- What is read behind the anchor is the pattern and the parenthesis that closes its group. -/
theorem parse_anchor_eq_ok_iff {source : String} {parsed : Parsed} :
    parse (Pattern.anchor source).toList = .ok parsed ↔
      ∃ r, (Reading.initial.inside Reading.anchorFrame).items (source.toList.length + 5)
        (source.toList ++ [')']) = .ok r ∧ r.finish = .ok parsed := by
  have hlength : (Pattern.anchor source).toList.length + 1 = source.toList.length + 5 + 2 := by
    rw [toList_anchor]
    simp only [List.length_cons, List.length_append, List.length_nil]
  rw [parse_eq_ok_iff, hlength, toList_anchor, Reading.items_anchor]

/-- Where a text is read behind the anchor, and alone as well, the parenthesis is lost in a comment
and the group stays open, or it is closed at the end. -/
theorem items_behind_anchor {s : List Char} {r whole : Reading}
    (hr : Reading.initial.items (s.length + 1) s = .ok r)
    (hwhole : (Reading.initial.inside Reading.anchorFrame).items (s.length + 5) (s ++ [')']) =
      .ok whole) :
    whole = r.inside Reading.anchorFrame ∨ (r.inside Reading.anchorFrame).leave = .ok whole := by
  have hlength : (s ++ [')']).length < s.length + 5 := by
    rw [List.length_append, List.length_singleton]
    omega
  rcases Reading.items_inside Reading.anchorFrame hr (Nat.lt_succ_self _) (.kept s) hlength with
    hopen | hclosed
  · rw [hwhole] at hopen
    exact Or.inl (Except.ok.inj hopen)
  · rw [hwhole] at hclosed
    exact Or.inr hclosed.symm

/-- **The anchor holds for the whole pattern.** A pattern that can be read on its own means behind
the anchor what it means alone, at the start of the text only. -/
theorem parse_anchor {source : String} {alone anchored : Parsed}
    (halone : parse source.toList = .ok alone)
    (hanchored : parse (Pattern.anchor source).toList = .ok anchored) :
    anchored.expr = .cat (.look .textStart) alone.expr := by
  obtain ⟨r, hr, hfinish⟩ := parse_eq_ok_iff.1 halone
  obtain ⟨hframes, -, rfl⟩ := Reading.finish_eq_ok_iff.1 hfinish
  obtain ⟨whole, hwhole, hfinish'⟩ := parse_anchor_eq_ok_iff.1 hanchored
  rcases items_behind_anchor hr hwhole with rfl | hclosed
  · exact absurd (Reading.finish_eq_ok_iff.1 hfinish').1 (Reading.frames_inside_ne_nil r)
  · rw [Reading.leave_inside_of_frames_eq_nil hframes] at hclosed
    cases hclosed
    obtain ⟨-, -, rfl⟩ := Reading.finish_eq_ok_iff.1 hfinish'
    exact congrArg Nested.part r.closed_body

theorem pinned_of_program {e : Expr} {names : List (List Char × Nat)} {p : Program}
    (h : (Expr.cat (.look .textStart) e).program names = .ok p) : p.pinned = true := by
  unfold Expr.program at h
  split at h
  · cases h
  · cases h
    simp [Program.pinned, Expr.code]

/-- The text is a pattern on its own. -/
def Valid (source : String) : Prop :=
  ∃ p, compile source.toList = .ok p

theorem valid_iff (source : String) : Valid source ↔ (compile source.toList).isOk = true := by
  unfold Valid
  cases compile source.toList with
  | error defect => exact Iff.intro nofun nofun
  | ok p => exact Iff.intro (fun _ => rfl) fun _ => ⟨p, rfl⟩

instance (source : String) : Decidable (Valid source) :=
  decidable_of_iff _ (valid_iff source).symm

theorem Valid.pinned {source : String} (hvalid : Valid source) {p : Pattern}
    (h : anchored source = .ok p) : p.program.pinned = true := by
  obtain ⟨alone, halone⟩ := hvalid
  unfold compile at halone
  split at halone
  · cases halone
  rename_i parsed hparsed
  unfold anchored compile at h
  split at h
  · cases h
  rename_i program hprogram
  cases h
  split at hprogram
  · cases hprogram
  rename_i whole hwhole
  rw [parse_anchor hparsed hwhole] at hprogram
  exact pinned_of_program hprogram

end Lexis.Pattern

namespace Lexis.Match

theorem whole_sublist (m : Match) : m.whole.Sublist m.text :=
  (List.take_sublist _ _).trans (List.drop_sublist _ _)

end Lexis.Match

namespace Lexis.Pattern

theorem text_of_match? {p : Pattern} {text : List Char} {m : Match}
    (h : p.match? text = some m) : m.text = text := by
  obtain ⟨hit, -, rfl⟩ := Option.map_eq_some_iff.1 h
  rfl

/-- The matches of the pattern begin where the text begins. -/
def StartsInFront (p : Pattern) : Prop :=
  ∀ text m, p.match? text = some m → m.hit.start = 0

/-- **A pattern that is one on its own matches in front of the text.** -/
theorem Valid.startsInFront {source : String} (hvalid : Valid source) {p : Pattern}
    (hp : anchored source = .ok p) : p.StartsInFront := by
  intro text m hm
  obtain ⟨hit, hhit, rfl⟩ := Option.map_eq_some_iff.1 hm
  exact Program.search_start (hvalid.pinned hp) hhit

theorem StartsInFront.whole_eq_take {p : Pattern} (hp : p.StartsInFront) {text : List Char}
    {m : Match} (hm : p.match? text = some m) : m.whole = text.take m.hit.stop := by
  unfold Match.whole Match.slice
  rw [hp text m hm, text_of_match? hm, List.drop_zero, Nat.sub_zero]

theorem StartsInFront.whole_isPrefix {p : Pattern} (hp : p.StartsInFront) {text : List Char}
    {m : Match} (hm : p.match? text = some m) : m.whole <+: text := by
  rw [hp.whole_eq_take hm]
  exact List.take_prefix _ _

theorem mem_of_firstMatch? {α : Type} {pattern : α → Pattern} {text : List Char} :
    ∀ {l : List α} {a : α} {m : Match}, firstMatch? pattern text l = some (a, m) →
      a ∈ l ∧ (pattern a).match? text = some m
  | [], _, _, h => by cases h
  | b :: l, a, m, h => by
    unfold firstMatch? at h
    split at h
    · rename_i hm
      cases h
      exact ⟨List.mem_cons_self, hm⟩
    · obtain ⟨hmem, hm⟩ := mem_of_firstMatch? h
      exact ⟨List.mem_cons_of_mem _ hmem, hm⟩

theorem length_whole_of_firstMatch? {α : Type} {pattern : α → Pattern} {text : List Char}
    {l : List α} {a : α} {found : Match} (h : firstMatch? pattern text l = some (a, found)) :
    found.whole.length ≤ text.length := by
  have htext := text_of_match? (mem_of_firstMatch? h).2
  rw [← htext]
  exact found.whole_sublist.length_le

theorem firstMatch?_append_of_none {α : Type} {pattern : α → Pattern} {text : List Char}
    {before : List α} (h : ∀ a ∈ before, (pattern a).match? text = none) (l : List α) :
    firstMatch? pattern text (before ++ l) = firstMatch? pattern text l := by
  induction before with
  | nil => rfl
  | cons b before ih =>
    rw [List.cons_append, firstMatch?, h b List.mem_cons_self]
    exact ih fun a ha => h a (List.mem_cons_of_mem _ ha)

theorem firstMatch?_append_of_some {α : Type} {pattern : α → Pattern} {text : List Char} {l : List α}
    {first : α × Match} (h : firstMatch? pattern text l = some first) (more : List α) :
    firstMatch? pattern text (l ++ more) = some first := by
  induction l with
  | nil => cases h
  | cons b l ih =>
    rw [List.cons_append, firstMatch?]
    rw [firstMatch?] at h
    cases hb : (pattern b).match? text with
    | some m =>
      rw [hb] at h
      exact h
    | none =>
      rw [hb] at h
      exact ih h

theorem firstMatch?_cons_of_ite {α : Type} {pattern : α → Pattern} {text : List Char} {a : α}
    {c : Prop} [Decidable c] {found : Match}
    (h : (pattern a).match? text = if c then some found else none) (l : List α) :
    firstMatch? pattern text (a :: l) =
      if c then some (a, found) else firstMatch? pattern text l := by
  by_cases hc : c <;> simp [firstMatch?, h, hc]

end Lexis.Pattern
