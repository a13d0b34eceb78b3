import Lexis.Pattern.Bracket

/-!
# Reading past the end of a pattern

A pattern that can be read on its own is read the same way where a closing parenthesis follows it:
no escape, class or repetition reaches beyond the end of a pattern. Only a comment that does not end
takes the parenthesis in. `Closes` says what may be left of the pattern in both cases, and `Carries`
that a reader keeps to it.

Principal results:

* `dropBlanks_closes`, `untilBrace_closes` — blanks, comments and braces;
* `escape_carries` — escapes;
* `classStep_closes` — one step of a bracketed class;
* `readLevels_carries`, `bracketed_carries` — bracketed classes.
-/

namespace Lexis.Pattern

open Text

variable {α : Type}

/-- The rest of a pattern, and the rest of the pattern with a parenthesis behind it. A comment that
does not end takes the parenthesis away; then nothing is left of both. -/
inductive Closes : List Char → List Char → Prop where
  | kept (s : List Char) : Closes s (s ++ [')'])
  | lost : Closes [] []

theorem Closes.eq_of_cons {c : Char} {s s' : List Char} (h : Closes (c :: s) s') :
    s' = c :: (s ++ [')']) := by
  cases h with
  | kept => rfl

theorem Closes.cons {c : Char} {s s' : List Char} (h : Closes (c :: s) s') :
    ∃ t, s' = c :: t ∧ Closes s t := by
  cases h with
  | kept => exact ⟨_, rfl, .kept s⟩

theorem Closes.length_le {s s' : List Char} (h : Closes s s') : s.length ≤ s'.length := by
  cases h with
  | kept => rw [List.length_append]; exact Nat.le_add_right _ _
  | lost => exact Nat.le_refl _

theorem Closes.length_le_succ {s s' : List Char} (h : Closes s s') : s'.length ≤ s.length + 1 := by
  cases h with
  | kept => rw [List.length_append]; exact Nat.le_refl _
  | lost => exact Nat.zero_le _

theorem Closes.of_cons {c : Char} {s t : List Char} (h : Closes s (c :: t)) (hc : c ≠ ')') :
    ∃ s₁, s = c :: s₁ ∧ Closes s₁ t := by
  generalize hs : c :: t = s' at h
  cases h with
  | lost => cases hs
  | kept =>
    cases s with
    | nil => cases hs; exact absurd rfl hc
    | cons d s =>
      cases hs
      exact ⟨s, rfl, .kept s⟩

theorem Closes.ne_cons {c : Char} {s s' : List Char} (h : Closes s s') (hc : c ≠ ')')
    (hne : ∀ t, s ≠ c :: t) : ∀ t, s' ≠ c :: t := by
  rintro t rfl
  obtain ⟨s₁, hs₁, -⟩ := h.of_cons hc
  exact hne s₁ hs₁

/-- A reader that takes a part of its text, and the same part where a parenthesis follows. -/
def Carries (read : List Char → Except Defect (α × List Char)) : Prop :=
  ∀ s a rest, read s = .ok (a, rest) → rest.length ≤ s.length ∧
    ∀ s', Closes s s' → ∃ rest', read s' = .ok (a, rest') ∧ Closes rest rest'

theorem map_eq_ok {β : Type} {x : Except Defect α} {g : α → β} {b : β} (h : x.map g = .ok b) :
    ∃ a, x = .ok a ∧ b = g a := by
  cases x with
  | error defect => cases h
  | ok a =>
    cases h
    exact ⟨a, rfl, rfl⟩

/-! ## Blanks and braces -/

theorem dropBlanks_closes {s s' : List Char} (h : Closes s s') (inComment : Bool) :
    Closes (dropBlanks inComment s) (dropBlanks inComment s') := by
  cases h with
  | lost => cases inComment <;> exact .lost
  | kept =>
    fun_induction dropBlanks inComment s with
    | case1 b =>
      cases b
      · exact .kept []
      · exact .lost
    | case2 c s ih => exact ih
    | case3 c s hc ih =>
      rw [List.cons_append, dropBlanks, if_pos hc]
      exact ih
    | case4 s hc ih =>
      rw [List.cons_append, dropBlanks, if_neg hc, if_pos rfl]
      exact ih
    | case5 c s hc hs =>
      rw [List.cons_append, dropBlanks, if_neg hc, if_neg hs]
      exact .kept (c :: s)

theorem length_dropBlanks_le (inComment : Bool) (s : List Char) :
    (dropBlanks inComment s).length ≤ s.length := by
  fun_induction dropBlanks inComment s with
  | case1 => exact Nat.le_refl _
  | case2 c s ih => exact Nat.le_succ_of_le ih
  | case3 c s hc ih => exact Nat.le_succ_of_le ih
  | case4 s hc ih => exact Nat.le_succ_of_le ih
  | case5 => exact Nat.le_refl _

theorem skip_closes {s s' : List Char} (h : Closes s s') (f : Flags) :
    Closes (f.skip s) (f.skip s') := by
  unfold Flags.skip
  split
  · exact dropBlanks_closes h false
  · exact h

theorem length_skip_le (f : Flags) (s : List Char) : (f.skip s).length ≤ s.length := by
  unfold Flags.skip
  split
  · exact length_dropBlanks_le false s
  · exact Nat.le_refl _

theorem untilBrace_append {blanks inComment : Bool} {s inner rest : List Char}
    (h : untilBrace blanks inComment s = some (inner, rest)) (t : List Char) :
    untilBrace blanks inComment (s ++ t) = some (inner, rest ++ t) := by
  fun_induction untilBrace blanks inComment s generalizing inner with
  | case1 => cases h
  | case2 c s ih => exact ih h
  | case3 c s hc ih =>
    rw [List.cons_append, untilBrace, if_pos hc]
    exact ih h
  | case4 c s hc hs ih =>
    rw [List.cons_append, untilBrace, if_neg hc, if_pos hs]
    exact ih h
  | case5 s h1 h2 =>
    cases h
    rw [List.cons_append, untilBrace, if_neg h1, if_neg h2, if_pos rfl]
  | case6 c s h1 h2 h3 i r hr ih =>
    cases h
    rw [List.cons_append, untilBrace, if_neg h1, if_neg h2, if_neg h3, ih hr]
  | case7 => cases h

theorem length_untilBrace_le {blanks inComment : Bool} {s inner rest : List Char}
    (h : untilBrace blanks inComment s = some (inner, rest)) : rest.length ≤ s.length := by
  fun_induction untilBrace blanks inComment s generalizing inner with
  | case1 => cases h
  | case2 c s ih => exact Nat.le_succ_of_le (ih h)
  | case3 c s hc ih => exact Nat.le_succ_of_le (ih h)
  | case4 c s hc hs ih => exact Nat.le_succ_of_le (ih h)
  | case5 s h1 h2 =>
    cases h
    exact Nat.le_succ _
  | case6 c s h1 h2 h3 i r hr ih =>
    cases h
    exact Nat.le_succ_of_le (ih hr)
  | case7 => cases h

theorem untilBrace_closes {blanks inComment : Bool} {s s' inner rest : List Char}
    (h : untilBrace blanks inComment s = some (inner, rest)) (hs : Closes s s') :
    ∃ rest', untilBrace blanks inComment s' = some (inner, rest') ∧ Closes rest rest' := by
  cases hs with
  | kept => exact ⟨_, untilBrace_append h _, .kept rest⟩
  | lost => cases inComment <;> cases h

/-! ## Escapes -/

theorem fixedCode_carries (f : Flags) : ∀ digits n, Carries (fixedCode f digits n)
  | 0, n => by
    intro s a rest h
    cases h
    exact ⟨Nat.le_refl _, fun s' hs => ⟨s', rfl, hs⟩⟩
  | digits + 1, n => by
    intro s a rest h
    cases s with
    | nil => cases h
    | cons c s =>
      rw [fixedCode] at h
      split at h
      · rename_i d hd
        obtain ⟨hlen, hcl⟩ := fixedCode_carries f digits _ _ _ _ h
        refine ⟨?_, fun s' hs => ?_⟩
        · have := length_skip_le f s
          rw [List.length_cons]
          omega
        · obtain ⟨t, rfl, ht⟩ := hs.cons
          rw [fixedCode, hd]
          exact hcl _ (skip_closes ht f)
      · cases h

theorem codeEscape_carries (f : Flags) (digits : Nat) : Carries (codeEscape f digits) := by
  intro s a rest h
  have hskip := length_skip_le f s
  unfold codeEscape at h
  split at h
  · rename_i s₁ hs₁
    split at h
    · cases h
    · cases h
    rename_i inner rest₁ hinner hbrace
    split at h
    · cases h
    rename_i n hn
    obtain ⟨e, he, heq⟩ := map_eq_ok h
    cases heq
    have hlen := length_untilBrace_le hbrace
    have := length_skip_le f rest₁
    rw [hs₁, List.length_cons] at hskip
    refine ⟨by omega, fun s' hs => ?_⟩
    obtain ⟨t, ht, hclose⟩ := (hs₁ ▸ skip_closes hs f).cons
    obtain ⟨rest₂, hrest₂, hclose⟩ := untilBrace_closes hbrace hclose
    refine ⟨_, ?_, skip_closes hclose f⟩
    cases inner with
    | nil => exact absurd rfl hinner
    | cons c inner =>
      simp only [codeEscape, ht, hrest₂, hn, he]
      rfl
  · rename_i hne
    split at h
    · cases h
    rename_i n rest₁ hfix
    obtain ⟨e, he, heq⟩ := map_eq_ok h
    cases heq
    obtain ⟨hlen, hcl⟩ := fixedCode_carries f _ _ _ _ _ hfix
    refine ⟨by omega, fun s' hs => ?_⟩
    have hskip' := skip_closes hs f
    obtain ⟨rest', hrest', hclose⟩ := hcl _ hskip'
    refine ⟨rest', ?_, hclose⟩
    unfold codeEscape
    split
    · rename_i t ht
      obtain ⟨s₁, hs₁, -⟩ := (ht ▸ hskip').of_cons (by decide)
      exact absurd hs₁ (hne s₁)
    · simp only [hrest', he]
      rfl

theorem edgeEscape_carries (f : Flags) : Carries (edgeEscape f) := by
  intro s a rest h
  unfold edgeEscape at h
  dsimp only at h
  split at h
  · rename_i inside
    split at h
    · cases h
    rename_i name rest₁ hbrace
    have hlen := length_untilBrace_le hbrace
    split at h
    · rename_i hname
      split at h
      · rename_i e he
        cases h
        refine ⟨Nat.le_succ_of_le hlen, fun s' hs => ?_⟩
        obtain ⟨t, rfl, hclose⟩ := hs.cons
        obtain ⟨rest₂, hrest₂, hclose⟩ := untilBrace_closes hbrace hclose
        refine ⟨rest₂, ?_, hclose⟩
        simp only [edgeEscape, hrest₂, he]
        rw [if_pos hname]
      · cases h
    · rename_i hname
      cases h
      refine ⟨Nat.le_refl _, fun s' hs => ⟨s', ?_, hs⟩⟩
      obtain ⟨t, rfl, hclose⟩ := hs.cons
      obtain ⟨rest₂, hrest₂, hclose⟩ := untilBrace_closes hbrace hclose
      simp only [edgeEscape, hrest₂]
      rw [if_neg hname]
  · rename_i hne
    cases h
    refine ⟨Nat.le_refl _, fun s' hs => ⟨s', ?_, hs⟩⟩
    unfold edgeEscape
    split
    · obtain ⟨s₁, hs₁, -⟩ := hs.of_cons (by decide)
      exact absurd hs₁ (hne s₁)
    · rfl

theorem propertyEscape_of_brace {f : Flags} {s t : List Char} (hs : f.skip s = '\x7b' :: t)
    (negated : Bool) :
    propertyEscape f negated s =
      match untilBrace f.blanks false t with
      | none => .error .badEscape
      | some (name, rest) => (propertySet f negated name).map fun set => (.set set, rest) := by
  unfold propertyEscape
  rw [hs]
  rfl

theorem propertyEscape_of_letter {f : Flags} {s t : List Char} {c : Char} (hs : f.skip s = c :: t)
    (hsign : c ≠ '\\') (hbrace : c ≠ '\x7b') (negated : Bool) :
    propertyEscape f negated s =
      (propertySet f negated [c]).map fun set => (.set set, t) := by
  unfold propertyEscape
  rw [hs]
  split
  case h_1 heq => cases heq
  case h_4 heq =>
    cases heq
    rfl
  all_goals
    rename_i heq
    cases heq
    contradiction

theorem propertyEscape_carries (f : Flags) (negated : Bool) :
    Carries (propertyEscape f negated) := by
  intro s a rest h
  have hskip := length_skip_le f s
  cases hs : f.skip s with
  | nil =>
    unfold propertyEscape at h
    rw [hs] at h
    cases h
  | cons c t =>
    rw [hs, List.length_cons] at hskip
    by_cases hsign : c = '\\'
    · unfold propertyEscape at h
      rw [hs, hsign] at h
      cases h
    by_cases hbrace : c = '\x7b'
    · subst hbrace
      rw [propertyEscape_of_brace hs] at h
      split at h
      · cases h
      rename_i name rest₁ hname
      obtain ⟨set, hset, heq⟩ := map_eq_ok h
      cases heq
      have hlen := length_untilBrace_le hname
      refine ⟨by omega, fun s' hclose => ?_⟩
      obtain ⟨t', ht', hclose'⟩ := (hs ▸ skip_closes hclose f).cons
      obtain ⟨rest', hrest', hclosed⟩ := untilBrace_closes hname hclose'
      refine ⟨rest', ?_, hclosed⟩
      rw [propertyEscape_of_brace ht', hrest']
      dsimp only
      rw [hset]
      rfl
    · rw [propertyEscape_of_letter hs hsign hbrace] at h
      obtain ⟨set, hset, heq⟩ := map_eq_ok h
      cases heq
      refine ⟨by omega, fun s' hclose => ?_⟩
      obtain ⟨t', ht', hclose'⟩ := (hs ▸ skip_closes hclose f).cons
      refine ⟨t', ?_, hclose'⟩
      rw [propertyEscape_of_letter ht' hsign hbrace, hset]
      rfl

theorem escape_cases (f : Flags) (c : Char) (s t : List Char) :
    (∃ n, escape f (c :: s) = codeEscape f n s ∧ escape f (c :: t) = codeEscape f n t) ∨
      (∃ negated, escape f (c :: s) = propertyEscape f negated s ∧
        escape f (c :: t) = propertyEscape f negated t) ∨
      (escape f (c :: s) = edgeEscape f s ∧ escape f (c :: t) = edgeEscape f t) ∨
      (∃ e, escape f (c :: s) = .ok (e, s) ∧ escape f (c :: t) = .ok (e, t)) ∨
      ∃ defect, escape f (c :: s) = .error defect := by
  unfold escape
  simp only
  split
  · exact Or.inl ⟨_, rfl, rfl⟩
  · exact Or.inl ⟨_, rfl, rfl⟩
  · exact Or.inl ⟨_, rfl, rfl⟩
  · exact Or.inr (Or.inl ⟨_, rfl, rfl⟩)
  · exact Or.inr (Or.inl ⟨_, rfl, rfl⟩)
  case h_20 => exact Or.inr (Or.inr (Or.inl ⟨rfl, rfl⟩))
  case h_24 =>
    split
    · exact Or.inr (Or.inr (Or.inr (Or.inr ⟨_, rfl⟩)))
    split
    · exact Or.inr (Or.inr (Or.inr (Or.inl ⟨_, rfl, rfl⟩)))
    · exact Or.inr (Or.inr (Or.inr (Or.inr ⟨_, rfl⟩)))
  all_goals exact Or.inr (Or.inr (Or.inr (Or.inl ⟨_, rfl, rfl⟩)))

theorem escape_carries (f : Flags) : Carries (escape f) := by
  intro s a rest h
  cases s with
  | nil => cases h
  | cons c s =>
    refine ⟨?_, fun s' hs => ?_⟩
    · rcases escape_cases f c s s with
        ⟨n, h₁, -⟩ | ⟨negated, h₁, -⟩ | ⟨h₁, -⟩ | ⟨e, h₁, -⟩ | ⟨defect, h₁⟩
      · exact Nat.le_succ_of_le (codeEscape_carries f n _ _ _ (h₁ ▸ h)).1
      · exact Nat.le_succ_of_le (propertyEscape_carries f negated _ _ _ (h₁ ▸ h)).1
      · exact Nat.le_succ_of_le (edgeEscape_carries f _ _ _ (h₁ ▸ h)).1
      · rw [h₁] at h
        cases h
        exact Nat.le_succ _
      · rw [h₁] at h
        cases h
    · obtain ⟨t, rfl, ht⟩ := hs.cons
      rcases escape_cases f c s t with
        ⟨n, h₁, h₂⟩ | ⟨negated, h₁, h₂⟩ | ⟨h₁, h₂⟩ | ⟨e, h₁, h₂⟩ | ⟨defect, h₁⟩
      · rw [h₂]
        exact (codeEscape_carries f n _ _ _ (h₁ ▸ h)).2 t ht
      · rw [h₂]
        exact (propertyEscape_carries f negated _ _ _ (h₁ ▸ h)).2 t ht
      · rw [h₂]
        exact (edgeEscape_carries f _ _ _ (h₁ ▸ h)).2 t ht
      · rw [h₁] at h
        cases h
        exact ⟨t, h₂, ht⟩
      · rw [h₁] at h
        cases h

/-! ## Bracketed classes -/

theorem classItem_carries (f : Flags) : Carries (classItem f) := by
  intro s a rest h
  cases s with
  | nil => cases h
  | cons c s =>
    by_cases hc : c = '\\'
    · subst hc
      obtain ⟨hlen, hcl⟩ := escape_carries f s a rest h
      refine ⟨Nat.le_succ_of_le hlen, fun s' hs => ?_⟩
      obtain ⟨t, rfl, ht⟩ := hs.cons
      exact hcl t ht
    · have plain : ∀ t, classItem f (c :: t) = .ok (.char c, t) := by
        intro t
        unfold classItem
        split
        · contradiction
        · rename_i heq
          cases heq
          exact absurd rfl hc
        · rename_i heq
          cases heq
          rfl
      rw [plain] at h
      cases h
      refine ⟨Nat.le_succ _, fun s' hs => ?_⟩
      obtain ⟨t, rfl, ht⟩ := hs.cons
      exact ⟨t, plain t, ht⟩

theorem length_classItem_lt {f : Flags} {s rest : List Char} {e : Escaped}
    (h : classItem f s = .ok (e, rest)) : rest.length < s.length := by
  unfold classItem at h
  split at h
  · cases h
  · exact Nat.lt_succ_of_le (escape_carries f _ _ _ h).1
  · cases h
    exact Nat.lt_succ_self _

theorem pastBlanks_append (signSeen : Bool) (s : List Char) :
    pastBlanks signSeen (s ++ [')']) = (pastBlanks signSeen s).or (some ')') := by
  fun_induction pastBlanks signSeen s with
  | case1 b =>
    rw [List.nil_append, pastBlanks, if_neg (by decide)]
    cases b <;> rfl
  | case2 b c s hc ih => rw [List.cons_append, pastBlanks, if_pos hc, ih]
  | case3 b c s hc hs ih => rw [List.cons_append, pastBlanks, if_neg hc, if_pos hs, ih]
  | case4 b c s hc hs => rw [List.cons_append, pastBlanks, if_neg hc, if_neg hs, Option.some_or]

/-- What stands in front of blanks only is a blank or the sign of a comment. -/
theorem head_of_pastBlanks_eq_none {c : Char} {s : List Char}
    (h : pastBlanks false (c :: s) = none) : isSpace c = true ∨ c = '#' := by
  rw [pastBlanks] at h
  split at h
  · exact Or.inl (by assumption)
  · split at h
    · rename_i hs
      exact Or.inr (by simpa using hs)
    · cases h

/-- A parenthesis behind the pattern does not decide whether a hyphen makes a range. -/
theorem afterHyphen_closes {s s' : List Char} (h : Closes s s') (f : Flags) {c : Char}
    (hc : c = ']' ∨ c = '-') : afterHyphen f s' = some c ↔ afterHyphen f s = some c := by
  cases h with
  | lost => exact Iff.rfl
  | kept =>
    have hclose : ')' ≠ c := by rcases hc with rfl | rfl <;> decide
    unfold afterHyphen
    split
    · rw [pastBlanks_append]
      cases hp : pastBlanks false s with
      | some d => rw [Option.some_or, Option.some_or, Option.some_or]
      | none =>
        rw [Option.none_or, Option.some_or, Option.none_or]
        cases s with
        | nil => simp [hclose]
        | cons d s =>
          have hd : d ≠ c := by
            rintro rfl
            rcases head_of_pastBlanks_eq_none hp with hd | hd
            · rcases hc with rfl | rfl <;> revert hd <;> decide
            · subst hd
              rcases hc with hc | hc <;> cases hc
          simp [hclose, hd]
    · cases s with
      | nil => simp [hclose]
      | cons d s => exact Iff.rfl

theorem length_classEntry_lt {f : Flags} {s rest : List Char} {set : CharSet}
    (h : classEntry f s = .ok (set, rest)) : rest.length < s.length := by
  unfold classEntry at h
  split at h
  · cases h
  rename_i first s₁ hfirst
  have hlt := length_classItem_lt hfirst
  have hskip := length_skip_le f s₁
  dsimp only at h
  split at h
  · rename_i s₂ hs₂
    split at h
    · obtain ⟨_, -, heq⟩ := map_eq_ok h
      cases heq
      omega
    · split at h
      · cases h
      rename_i last s₃ hlast
      have hlt₃ := length_classItem_lt hlast
      have hskip₂ := length_skip_le f s₂
      rw [hs₂, List.length_cons] at hskip
      split at h
      · split at h
        · cases h
          omega
        · cases h
      · cases h
      · cases h
  · obtain ⟨_, -, heq⟩ := map_eq_ok h
    cases heq
    omega

theorem classEntry_carries (f : Flags) : Carries (classEntry f) := by
  intro s a rest h
  refine ⟨Nat.le_of_lt (length_classEntry_lt h), fun s' hs => ?_⟩
  unfold classEntry at h
  split at h
  · cases h
  rename_i first s₁ hfirst
  obtain ⟨t₁, ht₁, hclose₁⟩ := (classItem_carries f _ _ _ hfirst).2 s' hs
  have hskip := skip_closes hclose₁ f
  dsimp only at h
  split at h
  · rename_i s₂ hs₂
    obtain ⟨t₂, ht₂, hclose₂⟩ := (hs₂ ▸ hskip).cons
    split at h
    · rename_i hyphen
      obtain ⟨set, hset, heq⟩ := map_eq_ok h
      cases heq
      refine ⟨_, ?_, hskip⟩
      unfold classEntry
      simp only [ht₁, ht₂, hset, afterHyphen_closes hclose₂ f (Or.inl rfl),
        afterHyphen_closes hclose₂ f (Or.inr rfl)]
      rw [if_pos hyphen]
      rfl
    · rename_i hyphen
      split at h
      · cases h
      rename_i last s₃ hlast
      obtain ⟨t₃, ht₃, hclose₃⟩ := (classItem_carries f _ _ _ hlast).2 _ (skip_closes hclose₂ f)
      split at h
      · rename_i low high hlow hhigh
        split at h
        · rename_i hle
          cases h
          refine ⟨t₃, ?_, hclose₃⟩
          unfold classEntry
          simp only [ht₁, ht₂, ht₃, hlow, hhigh, afterHyphen_closes hclose₂ f (Or.inl rfl),
            afterHyphen_closes hclose₂ f (Or.inr rfl)]
          rw [if_neg hyphen, if_pos hle]
        · cases h
      · cases h
      · cases h
  · rename_i hne
    obtain ⟨set, hset, heq⟩ := map_eq_ok h
    cases heq
    refine ⟨_, ?_, hskip⟩
    unfold classEntry
    simp only [ht₁, hset]
    split
    · rename_i t₂ ht₂
      obtain ⟨s₂, hs₂, -⟩ := (ht₂ ▸ hskip).of_cons (by decide)
      exact absurd hs₂ (hne s₂)
    · rfl

theorem drop_length_takeWhile (p : Char → Bool) (s : List Char) :
    s.drop (s.takeWhile p).length = s.dropWhile p := by
  induction s with
  | nil => rfl
  | cons c s ih => by_cases hc : p c <;> simp [hc, ih]

theorem takeWhile_append_of_dropWhile {p : Char → Bool} {s t : List Char}
    (h : s.dropWhile p ≠ []) : (s ++ t).takeWhile p = s.takeWhile p := by
  induction s with
  | nil => exact absurd rfl h
  | cons c s ih =>
    by_cases hc : p c
    · rw [List.dropWhile_cons_of_pos hc] at h
      rw [List.cons_append, List.takeWhile_cons_of_pos hc, List.takeWhile_cons_of_pos hc, ih h]
    · rw [List.cons_append, List.takeWhile_cons_of_neg hc, List.takeWhile_cons_of_neg hc]

theorem asciiClassNamed?_append (s : List Char) :
    asciiClassNamed? (s ++ [')']) = (asciiClassNamed? s).map fun r => (r.1, r.2 ++ [')']) := by
  unfold asciiClassNamed?
  dsimp only
  rw [drop_length_takeWhile, drop_length_takeWhile, List.dropWhile_append]
  cases hd : s.dropWhile (· != ':') with
  | nil => rfl
  | cons c rest =>
    rw [takeWhile_append_of_dropWhile (by rw [hd]; exact List.cons_ne_nil _ _)]
    simp only [List.isEmpty_cons, Bool.false_eq_true, if_false]
    cases rest with
    | nil =>
      split
      · rename_i heq
        cases heq
      · split
        · rename_i heq
          cases heq
        · rfl
    | cons d rest =>
      simp only [List.cons_append]
      split
      · rename_i heq
        cases heq
        show Option.map _ _ = Option.map _ (Option.map _ _)
        rw [Option.map_map]
        rfl
      · rename_i hne
        split
        · rename_i heq
          cases heq
          exact absurd rfl (hne _)
        · rfl

theorem length_asciiClassNamed?_le {s : List Char} {r : CharSet × List Char}
    (h : asciiClassNamed? s = some r) : r.2.length ≤ s.length := by
  unfold asciiClassNamed? at h
  dsimp only at h
  rw [drop_length_takeWhile] at h
  have hlen := (List.dropWhile_suffix (l := s) (· != ':')).length_le
  split at h
  · rename_i rest heq
    rw [heq, List.length_cons, List.length_cons] at hlen
    obtain ⟨ranges, -, rfl⟩ := Option.map_eq_some_iff.1 h
    dsimp only
    omega
  · cases h

theorem asciiClass?_append (s : List Char) :
    asciiClass? (s ++ [')']) = (asciiClass? s).map fun r => (r.1, r.2.1, r.2.2 ++ [')']) := by
  unfold asciiClass?
  split
  · rename_i t heq
    cases s with
    | nil => cases heq
    | cons c s =>
      cases s with
      | nil => cases heq
      | cons d s =>
        cases heq
        show Option.map _ (asciiClassNamed? (s ++ [')'])) = Option.map _ (Option.map _ _)
        rw [asciiClassNamed?_append, Option.map_map, Option.map_map]
        rfl
  · rename_i t hne heq
    cases s with
    | nil => cases heq
    | cons c s =>
      cases heq
      split
      · rename_i heq
        cases heq
        exact absurd rfl (hne _)
      · rename_i heq
        cases heq
        show Option.map _ (asciiClassNamed? (s ++ [')'])) = Option.map _ (Option.map _ _)
        rw [asciiClassNamed?_append, Option.map_map, Option.map_map]
        rfl
      · rename_i hne'
        exact absurd rfl (hne' _)
  · rename_i hne₁ hne₂
    split
    · exact absurd rfl (hne₁ _)
    · exact absurd rfl (hne₂ _)
    · rfl

theorem length_asciiClass?_le {s rest : List Char} {negated : Bool} {set : CharSet}
    (h : asciiClass? s = some (negated, set, rest)) : rest.length ≤ s.length := by
  unfold asciiClass? at h
  split at h
  · obtain ⟨named, hnamed, heq⟩ := Option.map_eq_some_iff.1 h
    cases heq
    exact Nat.le_succ_of_le (Nat.le_succ_of_le (length_asciiClassNamed?_le hnamed))
  · obtain ⟨named, hnamed, heq⟩ := Option.map_eq_some_iff.1 h
    cases heq
    exact Nat.le_succ_of_le (length_asciiClassNamed?_le hnamed)
  · cases h

theorem openLevel_closes (f : Flags) {s s' : List Char} (hs : Closes s s') :
    (openLevel f s').1 = (openLevel f s).1 ∧ Closes (openLevel f s).2 (openLevel f s').2 := by
  have hskip := skip_closes hs f
  unfold openLevel
  split
  · rename_i t ht
    obtain ⟨s₁, hs₁, hclose⟩ := (ht ▸ hskip).of_cons (by decide)
    rw [hs₁]
    exact ⟨rfl, hclose⟩
  · rename_i hne
    split
    · rename_i s₁ hs₁
      exact absurd (hs₁ ▸ hskip).eq_of_cons (hne _)
    · exact ⟨rfl, hskip⟩

theorem length_openLevel_le (f : Flags) (s : List Char) : (openLevel f s).2.length ≤ s.length := by
  have hskip := length_skip_le f s
  unfold openLevel
  split
  · rename_i s₁ hs₁
    rw [hs₁, List.length_cons] at hskip
    exact Nat.le_of_succ_le hskip
  · exact hskip

/-- The operation whose sign the two characters are. -/
def operation? (c : Char) (next : Option Char) : Option SetOp :=
  if c = '&' ∧ next = some '&' then some .both
  else if c = '-' ∧ next = some '-' then some .without
  else if c = '~' ∧ next = some '~' then some .oneOf
  else none

/-- A parenthesis behind the pattern is no second sign of an operation. -/
theorem operation?_append (c : Char) (s : List Char) :
    operation? c (s ++ [')']).head? = operation? c s.head? := by
  cases s with
  | nil => simp [operation?]
  | cons d s => rfl

theorem tail_append_of_operation? {c : Char} {s : List Char} {o : SetOp}
    (h : operation? c s.head? = some o) : (s ++ [')']).tail = s.tail ++ [')'] := by
  cases s with
  | nil => simp [operation?] at h
  | cons d s => rfl

/-- How the reading of a class goes on after one more sign: it is closed, or there are the innermost
level and those around it. -/
inductive ClassStep where
  | closed (set : Nested CharSet) (rest : List Char)
  | more (level : Level) (outer : List Level) (rest : List Char)

/-- What a step leaves of the text. -/
def ClassStep.rest : ClassStep → List Char
  | closed _ rest => rest
  | more _ _ rest => rest

/-- Steps that do the same and leave related texts. -/
inductive ClassStep.Related : ClassStep → ClassStep → Prop where
  | closed (set : Nested CharSet) {s s' : List Char} : Closes s s' →
      Related (.closed set s) (.closed set s')
  | more (level : Level) (outer : List Level) {s s' : List Char} : Closes s s' →
      Related (.more level outer s) (.more level outer s')

/-- The step of a class at the character, with what follows it. -/
def classStep (f : Flags) (level : Level) (outer : List Level) (c : Char) (s : List Char) :
    Except Defect ClassStep :=
  if c = '-' ∧ level.phase ≠ .items then
    .ok (.more { level.addChar c with phase := .hyphens } outer s)
  else if c = ']' ∧ level.phase = .opening then .ok (.more (level.addChar c) outer s)
  else if c = ']' then
    (level.close f).map fun set =>
      match outer with
      | [] => .closed set s
      | around :: outer => .more (around.add set) outer s
  else if c = '[' then
    match asciiClass? s with
    | some (negated, set, s) =>
      (f.settle negated set).map fun set => .more (level.add ⟨set, 0⟩) outer s
    | none => .ok (.more (openLevel f s).1 (level :: outer) (openLevel f s).2)
  else
    match operation? c s.head? with
    | some o => .ok (.more (level.operate f o) outer s.tail)
    | none => (classEntry f (c :: s)).map fun entry => .more (level.add ⟨entry.1, 0⟩) outer entry.2

theorem readLevels_of_skip_eq_nil {f : Flags} {fuel : Nat} {level : Level} {outer : List Level}
    {s : List Char} (h : f.skip s = []) :
    readLevels f (fuel + 1) level outer s = .error .unclosedClass := by
  rw [readLevels, h]

theorem readLevels_of_skip_eq_cons {f : Flags} {fuel : Nat} {level : Level} {outer : List Level}
    {s t : List Char} {c : Char} (h : f.skip s = c :: t) :
    readLevels f (fuel + 1) level outer s =
      match classStep f level outer c t with
      | .error defect => .error defect
      | .ok (.closed set rest) => .ok (set, rest)
      | .ok (.more level outer rest) => readLevels f fuel level outer rest := by
  rw [readLevels, h]
  unfold classStep
  dsimp only
  split
  · rfl
  split
  · rfl
  split
  · cases level.close f <;> cases outer <;> rfl
  split
  · cases asciiClass? t with
    | none => rfl
    | some found => cases hset : f.settle found.1 found.2.1 <;> simp only [hset] <;> rfl
  unfold operation?
  split
  · rfl
  split
  · rfl
  split
  · rfl
  · cases classEntry f (c :: t) <;> rfl

/-- A step of a class takes its sign and perhaps more. -/
theorem length_classStep_le {f : Flags} {level : Level} {outer : List Level} {c : Char} {s : List Char}
    {step : ClassStep} (h : classStep f level outer c s = .ok step) :
    step.rest.length ≤ s.length := by
  have htail : s.tail.length ≤ s.length := by
    rw [List.length_tail]
    omega
  unfold classStep at h
  split at h
  · cases h
    exact Nat.le_refl _
  split at h
  · cases h
    exact Nat.le_refl _
  split at h
  · obtain ⟨set, -, rfl⟩ := map_eq_ok h
    cases outer <;> exact Nat.le_refl _
  split at h
  · split at h
    · rename_i hclass
      obtain ⟨set, -, rfl⟩ := map_eq_ok h
      exact length_asciiClass?_le hclass
    · cases h
      exact length_openLevel_le f s
  split at h
  · cases h
    exact htail
  · obtain ⟨entry, hentry, rfl⟩ := map_eq_ok h
    exact Nat.le_of_lt_succ (length_classEntry_lt hentry)

/-- **A step of a class** is the same where a parenthesis follows the pattern. -/
theorem classStep_closes {f : Flags} {level : Level} {outer : List Level} {c : Char}
    {s : List Char} {step : ClassStep} (h : classStep f level outer c s = .ok step) :
    ∃ step', classStep f level outer c (s ++ [')']) = .ok step' ∧ step.Related step' := by
  unfold classStep at h ⊢
  split at h
  · rename_i h₁
    cases h
    rw [if_pos h₁]
    exact ⟨_, rfl, .more _ _ (.kept s)⟩
  rename_i h₁
  rw [if_neg h₁]
  split at h
  · rename_i h₂
    cases h
    rw [if_pos h₂]
    exact ⟨_, rfl, .more _ _ (.kept s)⟩
  rename_i h₂
  rw [if_neg h₂]
  split at h
  · rename_i h₃
    obtain ⟨set, hset, rfl⟩ := map_eq_ok h
    rw [if_pos h₃, hset]
    cases outer with
    | nil => exact ⟨_, rfl, .closed _ (.kept s)⟩
    | cons around outer => exact ⟨_, rfl, .more _ _ (.kept s)⟩
  rename_i h₃
  rw [if_neg h₃]
  split at h
  · rename_i h₄
    rw [if_pos h₄, asciiClass?_append]
    split at h
    · rename_i negated set rest hclass
      obtain ⟨settled, hsettled, rfl⟩ := map_eq_ok h
      rw [hclass]
      refine ⟨_, ?_, .more _ _ (.kept rest)⟩
      dsimp only [Option.map_some]
      rw [hsettled]
      rfl
    · rename_i hclass
      cases h
      obtain ⟨hlevel, hclose⟩ := openLevel_closes f (.kept s)
      rw [hclass]
      refine ⟨_, rfl, ?_⟩
      rw [hlevel]
      exact .more _ _ hclose
  rename_i h₄
  rw [if_neg h₄]
  rw [operation?_append]
  split at h
  · rename_i o hoperation
    cases h
    rw [tail_append_of_operation? hoperation]
    exact ⟨_, rfl, .more _ _ (.kept _)⟩
  · obtain ⟨entry, hentry, rfl⟩ := map_eq_ok h
    obtain ⟨rest', hrest', hclose⟩ := (classEntry_carries f _ _ _ hentry).2 _ (.kept (c :: s))
    rw [← List.cons_append, hrest']
    exact ⟨_, rfl, .more _ _ hclose⟩

theorem readLevels_carries (f : Flags) : ∀ {fuel fuel' level outer s a rest}, fuel ≤ fuel' →
    readLevels f fuel level outer s = .ok (a, rest) → rest.length ≤ s.length ∧
      ∀ s', Closes s s' → ∃ rest', readLevels f fuel' level outer s' = .ok (a, rest') ∧
        Closes rest rest'
  | 0, _, _, _, _, _, _, _, h => by cases h
  | fuel + 1, 0, _, _, _, _, _, hf, h => by omega
  | fuel + 1, fuel' + 1, level, outer, s, a, rest, hf, h => by
    have hskip := length_skip_le f s
    cases hs : f.skip s with
    | nil =>
      rw [readLevels_of_skip_eq_nil hs] at h
      cases h
    | cons c t =>
      rw [hs, List.length_cons] at hskip
      rw [readLevels_of_skip_eq_cons hs] at h
      split at h
      · cases h
      · rename_i hstep
        cases h
        have hlen := length_classStep_le hstep
        obtain ⟨step', hstep', hrelated⟩ := classStep_closes hstep
        dsimp only [ClassStep.rest] at hlen
        refine ⟨by omega, fun s' hclose => ?_⟩
        have hs' := (hs ▸ skip_closes hclose f).eq_of_cons
        rw [readLevels_of_skip_eq_cons hs', hstep']
        cases hrelated with
        | closed _ hrest => exact ⟨_, rfl, hrest⟩
      · rename_i level' outer' rest₁ hstep
        have hlen := length_classStep_le hstep
        obtain ⟨step', hstep', hrelated⟩ := classStep_closes hstep
        obtain ⟨hlen', hcl⟩ := readLevels_carries f (Nat.le_of_succ_le_succ hf) h
        dsimp only [ClassStep.rest] at hlen
        refine ⟨by omega, fun s' hclose => ?_⟩
        have hs' := (hs ▸ skip_closes hclose f).eq_of_cons
        rw [readLevels_of_skip_eq_cons hs', hstep']
        cases hrelated with
        | more _ _ hrest => exact hcl _ hrest

theorem bracketed_eq (f : Flags) (s : List Char) :
    bracketed f s =
      readLevels f ((openLevel f s).2.length + 1) (openLevel f s).1 [] (openLevel f s).2 := rfl

theorem bracketed_carries (f : Flags) : Carries (bracketed f) := by
  intro s a rest h
  rw [bracketed_eq] at h
  have hopen := length_openLevel_le f s
  obtain ⟨hlen, -⟩ := readLevels_carries f (Nat.le_refl _) h
  refine ⟨by omega, fun s' hs => ?_⟩
  obtain ⟨hlevel, hclose⟩ := openLevel_closes f hs
  have hfuel := Nat.succ_le_succ hclose.length_le
  obtain ⟨rest', hrest', hclose'⟩ := (readLevels_carries f hfuel h).2 _ hclose
  refine ⟨rest', ?_, hclose'⟩
  rw [bracketed_eq, hlevel, hrest']

end Lexis.Pattern
