import Lexis.Proofs.Pattern.Anchor
import Lexis.Proofs.Pattern.Refusing

/-!
# Patterns that close a group they have not opened

A text that is no pattern on its own is none behind the anchor either: the parenthesis there does
not make up for what is missing. It may be taken in by an escape or by flags, and then the group of
the anchor is not closed any more.

There is one exception. A text that closes a group which it has not opened may be a pattern behind
the anchor, since it is the group of the anchor that it closes. Such texts are accepted although
they are no patterns, and of what stands behind that parenthesis the anchor does not hold.

Principal results:

* `Reading.item_absorbs`, `Reading.items_refuses` — items;
* `Valid.not_closesUnopened`, `valid_of_anchored`, `valid_iff_of_anchored` — which of the texts that
  are accepted behind the anchor are patterns on their own.
-/

namespace Lexis.Pattern

open Text

/-! ## Groups -/

theorem groupName_refuses : RefusesClosed groupName := by
  intro s defect h s' hs a rest hread
  cases hs with
  | lost =>
    rw [h] at hread
    cases hread
  | kept =>
    unfold groupName at h hread
    dsimp only at h hread
    rw [drop_length_takeWhile] at h hread
    rw [List.dropWhile_append] at hread
    cases hdrop : s.dropWhile (· != '>') with
    | nil =>
      rw [hdrop] at hread
      cases hread
    | cons c rest₁ =>
      rw [takeWhile_append_of_dropWhile (by rw [hdrop]; exact List.cons_ne_nil _ _), hdrop] at hread
      rw [hdrop] at h
      simp only [List.isEmpty_cons, Bool.false_eq_true, if_false, List.cons_append] at h hread
      split at h
      · cases h
      · rename_i hname
        rw [if_neg hname] at hread
        cases hread

/-- Flags that do not end are ended by a parenthesis. -/
theorem flagList_read_absorbs {l : FlagList} {s : List Char} {defect : Defect}
    (h : l.read s = .error defect) {s' : List Char} (hs : Closes s s') {l' : FlagList}
    {closing : Bool} {rest : List Char} (hread : l.read s' = .ok (l', closing, rest)) :
    closing = true ∧ rest = [] := by
  cases hs with
  | lost =>
    rw [h] at hread
    cases hread
  | kept =>
    fun_induction FlagList.read l s with
    | case1 l =>
      rw [List.nil_append, FlagList.read, if_pos (Or.inr rfl)] at hread
      split at hread
      · cases hread
      · cases hread
        exact ⟨rfl, rfl⟩
    | case2 l c s hc hd =>
      rw [List.cons_append, FlagList.read, if_pos hc, if_pos hd] at hread
      cases hread
    | case3 => cases h
    | case4 l c s hc hs =>
      rw [List.cons_append, FlagList.read, if_neg hc, if_pos hs] at hread
      cases hread
    | case5 l s hc hs ih =>
      rw [List.cons_append, FlagList.read, if_neg hc, if_neg hs, if_pos rfl] at hread
      exact ih h hread
    | case6 l c s hc hs hm flags hf ih =>
      rw [List.cons_append, FlagList.read, if_neg hc, if_neg hs, if_neg hm, hf] at hread
      exact ih h hread
    | case7 l c s hc hs hm hf =>
      rw [List.cons_append, FlagList.read, if_neg hc, if_neg hs, if_neg hm, hf] at hread
      cases hread

/-- Where a reader of items fails, and a parenthesis follows the pattern, it fails inside a group as
well, or it takes in all there is and leaves the groups as they are. -/
def AbsorbsInside (base : Frame)
    (read : Reading → List Char → Except Defect (Reading × List Char)) : Prop :=
  ∀ r s defect, read r s = .error defect → ∀ s', Closes s s' → ∀ r' rest,
    read (r.inside base) s' = .ok (r', rest) → rest = [] ∧ r'.frames = (r.inside base).frames

namespace Reading

variable {base : Frame}

theorem openNamed_absorbs (base : Frame) : AbsorbsInside base openNamed := by
  intro r s defect h s' hs r' rest hread
  unfold openNamed at h hread
  cases hname : groupName s with
  | error d =>
    split at hread
    · cases hread
    · rename_i hname'
      exact absurd hname' (groupName_refuses _ _ hname s' hs _ _)
  | ok found =>
    obtain ⟨name, s₁⟩ := found
    obtain ⟨rest', hrest', -⟩ := (groupName_carries _ _ _ hname).2 s' hs
    simp only [hname] at h
    simp only [hrest'] at hread
    split at h
    · rename_i hused
      have hused' : ((r.inside base).names.lookup name).isSome = true := hused
      rw [if_pos hused'] at hread
      cases hread
    · cases h

theorem openFlags_absorbs (base : Frame) : AbsorbsInside base openFlags := by
  intro r s defect h s' hs r' rest hread
  unfold openFlags at h hread
  rw [inside_flags] at hread
  cases hlist : FlagList.read ⟨r.flags, [], false, false⟩ s with
  | error d =>
    split at hread
    · cases hread
    · rename_i hlist'
      obtain ⟨-, rfl⟩ := flagList_read_absorbs hlist hs hlist'
      split at hread
      · cases hread
      · cases hread
        exact ⟨rfl, rfl⟩
    · rename_i hlist'
      obtain ⟨hclosing, -⟩ := flagList_read_absorbs hlist hs hlist'
      cases hclosing
  | ok found =>
    obtain ⟨l, closing, s₁⟩ := found
    obtain ⟨rest', hrest', -⟩ := (flagList_read_carries _ hlist).2 s' hs
    simp only [hlist] at h
    simp only [hrest'] at hread
    cases closing with
    | false => cases h
    | true =>
      dsimp only at h hread
      split at h
      · rename_i hseen
        rw [if_pos hseen] at hread
        cases hread
      · cases h

theorem openGroup_absorbs (base : Frame) : AbsorbsInside base openGroup := by
  intro r s defect h s' hs r' rest hread
  have hclose : Closes (r.flags.skip s) ((r.inside base).flags.skip s') := skip_closes hs r.flags
  unfold openGroup at h
  split at h
  case h_1 ht | h_2 ht | h_3 ht | h_4 ht =>
    rw [ht] at hclose
    unfold openGroup at hread
    rw [hclose.eq_of_cons] at hread
    cases hread
  · rename_i t ht
    rw [ht] at hclose
    unfold openGroup at hread
    rw [hclose.eq_of_cons] at hread
    exact openNamed_absorbs base r t defect h _ (.kept t) r' rest hread
  · rename_i t h₁ h₂ ht
    rw [ht] at hclose
    rw [openGroup_eq_openNamed hclose.eq_of_cons] at hread
    · exact openNamed_absorbs base r t defect h _ (.kept t) r' rest hread
    · exact (Closes.kept t).ne_cons (by decide) h₁
    · exact (Closes.kept t).ne_cons (by decide) h₂
  · rename_i t h₁ h₂ _ _ h₃ h₄ ht
    rw [ht] at hclose
    rw [openGroup_eq_openFlags hclose.eq_of_cons] at hread
    · exact openFlags_absorbs base r t defect h _ (.kept t) r' rest hread
    · exact (Closes.kept t).ne_cons (by decide) h₁
    · exact (Closes.kept t).ne_cons (by decide) h₂
    · intro u hu
      obtain ⟨t₁, rfl, ht₁⟩ := (hu ▸ Closes.kept t).of_cons (by decide)
      obtain ⟨t₂, rfl, -⟩ := ht₁.of_cons (by decide)
      exact h₃ t₂ rfl
    · exact (Closes.kept t).ne_cons (by decide) h₄
  · cases h

/-! ## Items -/

theorem repeatLast_inside_error {r : Reading} {least : Nat} {most : Option Nat} {lazy : Bool}
    {defect : Defect} (h : r.repeatLast least most lazy = .error defect) :
    (r.inside base).repeatLast least most lazy = .error defect := by
  unfold repeatLast at h
  split at h
  · cases h
  · rename_i hne
    have hne' : ∀ e pieces, (r.inside base).pieces ≠ .expr e :: pieces := hne
    unfold repeatLast
    split
    · rename_i hpieces
      exact absurd hpieces (hne' _ _)
    · exact h

theorem repeatSign_absorbs (base : Frame) (least : Nat) (most : Option Nat) :
    AbsorbsInside base fun r s => r.repeatSign least most s := by
  intro r s defect h s' hs r' rest hread
  have hlast : r.repeatLast least most (lazyMark s).1 = .error defect := map_eq_error h
  obtain ⟨hlazy, -⟩ := lazyMark_closes hs
  dsimp only [repeatSign] at hread
  rw [hlazy, repeatLast_inside_error hlast] at hread
  cases hread

theorem repeatCounted_absorbs (base : Frame) : AbsorbsInside base repeatCounted := by
  intro r s defect h s' hs r' rest hread
  unfold repeatCounted at h hread
  rw [inside_flags] at hread
  split at h
  · rename_i hnone
    rw [untilBrace_closes_none hnone hs] at hread
    cases hread
  rename_i inner s₁ hbrace
  obtain ⟨s₂, hs₂, hclose⟩ := untilBrace_closes hbrace hs
  simp only [hs₂] at hread
  split at h
  · rename_i hcounts
    simp only [hcounts] at hread
    cases hread
  · rename_i least most hcounts
    simp only [hcounts] at hread
    exact repeatSign_absorbs base least most r _ _ h _ (skip_closes hclose r.flags) r' rest hread

theorem pushSet_inside_error {r : Reading} {s : CharSet} {defect : Defect}
    (h : r.pushSet s = .error defect) : (r.inside base).pushSet s = .error defect := by
  have hallow : r.flags.allow s = .error defect := map_eq_error h
  unfold pushSet
  rw [inside_flags, hallow]
  rfl

theorem pushDot_inside_error {r : Reading} {defect : Defect} (h : r.pushDot = .error defect) :
    (r.inside base).pushDot = .error defect := by
  unfold pushDot at h ⊢
  rw [inside_flags]
  split at h
  · rename_i hall
    rw [if_pos hall]
    exact pushSet_inside_error h
  rename_i hall
  rw [if_neg hall]
  split at h
  · rename_i hcrlf
    rw [if_pos hcrlf]
    exact pushSet_inside_error h
  · rename_i hcrlf
    rw [if_neg hcrlf]
    exact pushSet_inside_error h

theorem pushEscaped_inside_error {r : Reading} {e : Escaped} {defect : Defect}
    (h : r.pushEscaped e = .error defect) : (r.inside base).pushEscaped e = .error defect := by
  cases e with
  | char c => cases h
  | byte c =>
    have hallow : r.flags.allowChar c = .error defect := map_eq_error h
    unfold pushEscaped
    dsimp only
    rw [inside_flags, hallow]
    rfl
  | set s => exact pushSet_inside_error h
  | look l => cases h

theorem pushEscaped_frames {r r' : Reading} {e : Escaped} (h : r.pushEscaped e = .ok r') :
    r'.frames = r.frames := by
  cases e with
  | char c =>
    cases h
    rfl
  | byte c =>
    obtain ⟨_, -, rfl⟩ := map_eq_ok h
    rfl
  | set s =>
    obtain ⟨_, -, rfl⟩ := map_eq_ok h
    rfl
  | look l =>
    cases h
    rfl

theorem pushClass_absorbs (base : Frame) : AbsorbsInside base fun r s =>
    match bracketed r.flags s with
    | .error defect => .error defect
    | .ok (set, s) => .ok (r.push ⟨.one set.part, set.depth⟩, s) := by
  intro r s defect h s' hs r' rest hread
  simp only [inside_flags] at h hread
  split at h
  · rename_i hset
    split at hread
    · cases hread
    · rename_i hset'
      exact absurd hset' (bracketed_refuses r.flags _ _ hset s' hs _ _)
  · cases h

theorem pushEscape_absorbs (base : Frame) : AbsorbsInside base fun r s =>
    match escape r.flags s with
    | .error defect => .error defect
    | .ok (e, s) => (r.pushEscaped e).map fun r => (r, s) := by
  intro r s defect h s' hs r' rest hread
  simp only [inside_flags] at h hread
  split at h
  · rename_i hescape
    split at hread
    · cases hread
    · rename_i hescape'
      obtain rfl := escape_absorbs r.flags _ _ hescape s' hs _ _ hescape'
      obtain ⟨r₁, hpush, heq⟩ := map_eq_ok hread
      cases heq
      exact ⟨rfl, pushEscaped_frames hpush⟩
  · rename_i e s₁ hescape
    obtain ⟨s₂, hs₂, -⟩ := (escape_carries r.flags _ _ _ hescape).2 s' hs
    simp only [hs₂, pushEscaped_inside_error (map_eq_error h)] at hread
    cases hread

/-- Items absorb, but for a parenthesis that closes a group which is not opened. -/
theorem item_absorbs (base : Frame) {r : Reading} {c : Char} {s : List Char} {defect : Defect}
    (h : r.item c s = .error defect) (hdefect : defect ≠ .unopenedGroup) {s' : List Char}
    (hs : Closes s s') {r' : Reading} {rest : List Char}
    (hread : (r.inside base).item c s' = .ok (r', rest)) :
    rest = [] ∧ r'.frames = (r.inside base).frames := by
  simp only [item] at h hread
  split at h
  · exact openGroup_absorbs base r s defect h s' hs r' rest hread
  · have hleave : r.leave = .error defect := map_eq_error h
    unfold leave at hleave
    split at hleave
    · cases hleave
      exact absurd rfl hdefect
    · cases hleave
  · cases h
  · exact pushClass_absorbs base r s defect h s' hs r' rest hread
  · exact repeatSign_absorbs base _ _ r s defect h s' hs r' rest hread
  · exact repeatSign_absorbs base _ _ r s defect h s' hs r' rest hread
  · exact repeatSign_absorbs base _ _ r s defect h s' hs r' rest hread
  · exact repeatCounted_absorbs base r s defect h s' hs r' rest hread
  · exact pushEscape_absorbs base r s defect h s' hs r' rest hread
  · rw [pushDot_inside_error (map_eq_error h)] at hread
    cases hread
  · cases h
  · cases h
  · cases h

/-- A pattern whose items can not be read leaves the group around it open, if it can be read there,
unless it closes a group that it has not opened. -/
theorem items_refuses (base : Frame) : ∀ {fuel fuel' : Nat} {r r' : Reading} {s s' : List Char}
    {defect : Defect}, r.items fuel s = .error defect → defect ≠ .unopenedGroup → Closes s s' →
      (r.inside base).items fuel' s' = .ok r' → r'.frames ≠ []
  | 0, _, _, _, _, _, _, h, _, _, _ => by cases h
  | _ + 1, 0, r, _, _, _, _, _, _, _, hread => by
    cases hread
    exact frames_inside_ne_nil r
  | fuel + 1, fuel' + 1, r, r', s, s', defect, h, hdefect, hs, hread => by
    have hclose : Closes (r.flags.skip s) ((r.inside base).flags.skip s') := skip_closes hs r.flags
    unfold items at h
    split at h
    · cases h
    rename_i c s₁ hcons
    rw [hcons] at hclose
    have ht : (r.inside base).flags.skip s' = c :: (s₁ ++ [')']) := hclose.eq_of_cons
    split at h
    · -- the item that fails: nothing is left behind it
      rename_i hitem
      cases h
      simp only [items, ht] at hread
      split at hread
      · cases hread
      rename_i r₁ rest hitem'
      obtain ⟨rfl, hframes⟩ := item_absorbs base hitem hdefect (.kept s₁) hitem'
      rw [items_nil] at hread
      cases hread
      rw [hframes]
      exact frames_inside_ne_nil r
    · rename_i r₁ rest hitem
      obtain ⟨-, hcl⟩ := item_enters base c r s₁ r₁ rest hitem
      obtain ⟨rest', hrest', hclose'⟩ := hcl _ (.kept s₁)
      rw [items_of_skip_eq_cons ht hrest'] at hread
      exact items_refuses base h hdefect hclose' hread

end Reading

/-! ## Patterns behind the anchor -/

/-- The text closes a group that it has not opened, with nothing wrong in front of that. -/
def ClosesUnopened (source : String) : Prop :=
  parse source.toList = .error .unopenedGroup

instance (source : String) : Decidable (ClosesUnopened source) :=
  match h : parse source.toList with
  | .ok parsed => .isFalse (by simp [ClosesUnopened, h])
  | .error defect => decidable_of_iff (defect = .unopenedGroup) (by simp [ClosesUnopened, h])

theorem Valid.not_closesUnopened {source : String} (h : Valid source) : ¬ClosesUnopened source := by
  obtain ⟨program, hprogram⟩ := h
  intro hunopened
  unfold compile at hprogram
  rw [hunopened] at hprogram
  cases hprogram

/-- What can be read behind the anchor can be read on its own, unless it closes a group that it has
not opened. -/
theorem exists_parse_of_anchor {source : String} {parsed : Parsed}
    (h : parse (Pattern.anchor source).toList = .ok parsed) (hopened : ¬ClosesUnopened source) :
    ∃ alone, parse source.toList = .ok alone := by
  obtain ⟨whole, hwhole, hfinish⟩ := parse_anchor_eq_ok_iff.1 h
  obtain ⟨hframes', hdepth, -⟩ := Reading.finish_eq_ok_iff.1 hfinish
  cases halone : Reading.initial.items (source.toList.length + 1) source.toList with
  | error defect =>
    have hdefect : defect ≠ .unopenedGroup := by
      rintro rfl
      refine hopened ?_
      unfold ClosesUnopened parse
      rw [halone]
    exact absurd hframes' (Reading.items_refuses _ halone hdefect (.kept _) hwhole)
  | ok r =>
    rcases items_behind_anchor halone hwhole with rfl | hclosed
    · exact absurd hframes' (Reading.frames_inside_ne_nil r)
    cases hframes : r.frames with
    | nil =>
      -- the group around the pattern only adds to its depth
      rw [Reading.leave_inside_of_frames_eq_nil hframes] at hclosed
      cases hclosed
      rw [Reading.closed_body] at hdepth
      have hless : r.body.depth ≤ nestLimit := Nat.le_of_add_right_le hdepth
      exact ⟨_, parse_eq_ok_iff.2 ⟨r, halone, Reading.finish_eq_ok_iff.2 ⟨hframes, hless, rfl⟩⟩⟩
    | cons frame frames =>
      -- a group is open, and the parenthesis closes that one
      unfold Reading.leave Reading.inside at hclosed
      simp only [hframes, List.cons_append] at hclosed
      cases hclosed
      exact absurd hframes' (List.append_ne_nil_of_right_ne_nil frames (List.cons_ne_nil _ _))

/-- **A text that is accepted behind the anchor is a pattern on its own**, unless it closes a group
that it has not opened. -/
theorem valid_of_anchored {source : String} {p : Pattern} (h : anchored source = .ok p)
    (hopened : ¬ClosesUnopened source) : Valid source := by
  unfold anchored compile at h
  split at h
  · cases h
  rename_i program hprogram
  split at hprogram
  · cases hprogram
  rename_i whole hwhole
  obtain ⟨alone, halone⟩ := exists_parse_of_anchor hwhole hopened
  rw [parse_anchor halone hwhole] at hprogram
  -- the anchor takes room, so that the text fits in without it
  unfold Expr.program at hprogram
  split at hprogram
  · cases hprogram
  rename_i hsize
  have hfits : ¬Program.sizeLimit < alone.expr.weight := by
    rw [Expr.weight] at hsize
    omega
  refine ⟨⟨(alone.expr.code 0 ++ [Instr.accept]).toArray, alone.expr.lastGroup, alone.names⟩, ?_⟩
  unfold compile
  rw [halone]
  exact if_neg hfits

theorem startsInFront_of_anchored {source : String} {p : Pattern} (h : anchored source = .ok p)
    (hopened : ¬ClosesUnopened source) : p.StartsInFront :=
  (valid_of_anchored h hopened).startsInFront h

/-- **Which of the texts that are accepted are patterns on their own.** -/
theorem valid_iff_of_anchored {source : String} {p : Pattern} (h : anchored source = .ok p) :
    Valid source ↔ ¬ClosesUnopened source :=
  ⟨Valid.not_closesUnopened, valid_of_anchored h⟩

example : (parse "\\p{L}+".toList).isOk = true ∧ ClosesUnopened "\\p{L})|(?:a" := by decide +kernel

end Lexis.Pattern
