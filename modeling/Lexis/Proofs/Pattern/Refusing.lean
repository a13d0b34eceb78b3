import Lexis.Proofs.Pattern.Closing

/-!
# Failing past the end of a pattern

What is missing at the end of a pattern is not made up for by a closing parenthesis that follows it.
Where a reader fails on a pattern on its own, it fails there too (`RefusesClosed`), but for one way
out: an escape takes in the parenthesis as its sign, and so may an item of a class that ends with
one. Then nothing is left (`Absorbs`), and what the parenthesis was to close stays open.

For readers that succeed on the pattern on its own `Carries` says what they do where a parenthesis
follows; these are the other ones.

Principal results:

* `escape_absorbs` — escapes;
* `classEntry_absorbs`, `classStep_absorbs` — one step of a bracketed class;
* `readLevels_refuses`, `bracketed_refuses` — bracketed classes.
-/

namespace Lexis.Pattern

open Text

variable {α : Type}

/-- Where a reader fails on the rest of a pattern, and a parenthesis follows, it fails as well or it
takes in all there is. -/
def Absorbs (read : List Char → Except Defect (α × List Char)) : Prop :=
  ∀ s defect, read s = .error defect → ∀ s', Closes s s' → ∀ a rest, read s' = .ok (a, rest) →
    rest = []

/-- Where a reader fails on the rest of a pattern it fails too where a parenthesis follows. -/
def RefusesClosed (read : List Char → Except Defect (α × List Char)) : Prop :=
  ∀ s defect, read s = .error defect → ∀ s', Closes s s' → ∀ a rest, read s' ≠ .ok (a, rest)

theorem map_eq_error {β : Type} {x : Except Defect α} {g : α → β} {defect : Defect}
    (h : x.map g = .error defect) : x = .error defect := by
  cases x with
  | error d =>
    cases h
    rfl
  | ok a => cases h

/-! ## Escapes -/

theorem untilBrace_closes_none {blanks inComment : Bool} {s s' : List Char}
    (h : untilBrace blanks inComment s = none) (hs : Closes s s') :
    untilBrace blanks inComment s' = none := by
  cases hs with
  | lost => exact h
  | kept =>
    fun_induction untilBrace blanks inComment s with
    | case1 b => cases b <;> cases blanks <;> rfl
    | case2 c s ih => exact ih h
    | case3 c s hc ih =>
      rw [List.cons_append, untilBrace, if_pos hc]
      exact ih h
    | case4 c s hc hs ih =>
      rw [List.cons_append, untilBrace, if_neg hc, if_pos hs]
      exact ih h
    | case5 => cases h
    | case6 => cases h
    | case7 c s h1 h2 h3 hnone ih =>
      rw [List.cons_append, untilBrace, if_neg h1, if_neg h2, if_neg h3, ih hnone]

theorem fixedCode_refuses (f : Flags) : ∀ digits n, RefusesClosed (fixedCode f digits n)
  | 0, n => by
    intro s defect h
    cases h
  | digits + 1, n => by
    intro s defect h s' hs a rest hread
    cases s with
    | nil =>
      cases hs with
      | lost => cases hread
      | kept =>
        -- a parenthesis is no digit
        cases hread
    | cons c s =>
      obtain ⟨t, rfl, ht⟩ := hs.cons
      rw [fixedCode] at h hread
      cases hd : hexValue? c with
      | none =>
        rw [hd] at hread
        cases hread
      | some d =>
        rw [hd] at h hread
        exact fixedCode_refuses f digits _ _ _ h _ (skip_closes ht f) a rest hread

theorem codeEscape_refuses (f : Flags) (digits : Nat) : RefusesClosed (codeEscape f digits) := by
  intro s defect h s' hs a rest hread
  have hskip := skip_closes hs f
  unfold codeEscape at h
  split at h
  · rename_i s₁ hs₁
    obtain ⟨t, ht, hclose⟩ := (hs₁ ▸ hskip).cons
    have hclosed : ∀ inner rest₁, untilBrace f.blanks false s₁ = some (inner, rest₁) →
        ∃ rest₂, untilBrace f.blanks false t = some (inner, rest₂) := by
      intro inner rest₁ hbrace
      obtain ⟨rest₂, hrest₂, -⟩ := untilBrace_closes hbrace hclose
      exact ⟨rest₂, hrest₂⟩
    split at h
    · rename_i hnone
      simp only [codeEscape, ht, untilBrace_closes_none hnone hclose] at hread
      cases hread
    · rename_i rest₁ hbrace
      obtain ⟨rest₂, hrest₂⟩ := hclosed _ _ hbrace
      simp only [codeEscape, ht, hrest₂] at hread
      cases hread
    · rename_i inner rest₁ hinner hbrace
      obtain ⟨rest₂, hrest₂⟩ := hclosed _ _ hbrace
      cases inner with
      | nil => exact absurd rfl hinner
      | cons c inner =>
        split at h
        · rename_i hcode
          simp only [codeEscape, ht, hrest₂, hcode] at hread
          cases hread
        · rename_i n hcode
          simp only [codeEscape, ht, hrest₂, hcode, map_eq_error h] at hread
          cases hread
  · rename_i hne
    have hplain : ∀ t, f.skip s' ≠ '\x7b' :: t := by
      intro t ht
      obtain ⟨s₁, hs₁, -⟩ := (ht ▸ hskip).of_cons (by decide)
      exact hne s₁ hs₁
    unfold codeEscape at hread
    split at hread
    · rename_i t ht
      exact absurd ht (hplain t)
    · split at h
      · rename_i hfix
        split at hread
        · cases hread
        · rename_i n rest₁ hfix'
          exact fixedCode_refuses f _ _ _ _ hfix _ hskip _ _ hfix'
      · rename_i n rest₁ hfix
        obtain ⟨rest₂, hrest₂, -⟩ := (fixedCode_carries f _ _ _ _ _ hfix).2 _ hskip
        simp only [hrest₂, map_eq_error h] at hread
        cases hread

theorem edgeEscape_refuses (f : Flags) : RefusesClosed (edgeEscape f) := by
  intro s defect h s' hs a rest hread
  unfold edgeEscape at h
  dsimp only at h
  split at h
  · rename_i inside
    obtain ⟨t, rfl, hclose⟩ := hs.cons
    split at h
    · rename_i hnone
      simp only [edgeEscape, untilBrace_closes_none hnone hclose] at hread
      cases hread
    · rename_i name rest₁ hbrace
      obtain ⟨rest₂, hrest₂, -⟩ := untilBrace_closes hbrace hclose
      simp only [edgeEscape, hrest₂] at hread
      split at h
      · rename_i hname
        rw [if_pos hname] at hread
        split at h
        · cases h
        · rename_i hedge
          simp only [hedge] at hread
          cases hread
      · cases h
  · cases h

/-- A property without a name may take in the parenthesis as one. -/
theorem propertyEscape_absorbs (f : Flags) (negated : Bool) :
    Absorbs (propertyEscape f negated) := by
  intro s defect h s' hs a rest hread
  have hskip := skip_closes hs f
  cases hs₁ : f.skip s with
  | nil =>
    rw [hs₁] at hskip
    generalize hs₂ : f.skip s' = t at hskip
    cases hskip with
    | lost =>
      unfold propertyEscape at hread
      rw [hs₂] at hread
      cases hread
    | kept =>
      rw [propertyEscape_of_letter hs₂ (by decide) (by decide)] at hread
      obtain ⟨set, -, heq⟩ := map_eq_ok hread
      cases heq
      rfl
  | cons c t =>
    obtain ⟨t', ht', hclose⟩ := (hs₁ ▸ hskip).cons
    by_cases hsign : c = '\\'
    · unfold propertyEscape at hread
      rw [ht', hsign] at hread
      cases hread
    by_cases hbrace : c = '\x7b'
    · subst hbrace
      rw [propertyEscape_of_brace hs₁] at h
      rw [propertyEscape_of_brace ht'] at hread
      split at h
      · rename_i hnone
        rw [untilBrace_closes_none hnone hclose] at hread
        cases hread
      · rename_i name rest₁ hname
        obtain ⟨rest₂, hrest₂, -⟩ := untilBrace_closes hname hclose
        simp only [hrest₂, map_eq_error h] at hread
        cases hread
    · rw [propertyEscape_of_letter hs₁ hsign hbrace] at h
      rw [propertyEscape_of_letter ht' hsign hbrace, map_eq_error h] at hread
      cases hread

/-- An escape may take in the parenthesis as its sign. -/
theorem escape_absorbs (f : Flags) : Absorbs (escape f) := by
  intro s defect h s' hs a rest hread
  cases s with
  | nil =>
    cases hs with
    | lost => cases hread
    | kept =>
      cases hread
      rfl
  | cons c s =>
    obtain ⟨t, rfl, ht⟩ := hs.cons
    rcases escape_cases f c t s with
      ⟨n, h₁, h₂⟩ | ⟨negated, h₁, h₂⟩ | ⟨h₁, h₂⟩ | ⟨e, -, h₂⟩ | ⟨defect', h₁⟩
    · exact absurd (h₁ ▸ hread) (codeEscape_refuses f n _ _ (h₂ ▸ h) t ht a rest)
    · exact propertyEscape_absorbs f negated _ _ (h₂ ▸ h) t ht a rest (h₁ ▸ hread)
    · exact absurd (h₁ ▸ hread) (edgeEscape_refuses f _ _ (h₂ ▸ h) t ht a rest)
    · rw [h₂] at h
      cases h
    · rw [h₁] at hread
      cases hread

/-! ## Bracketed classes -/

theorem classItem_absorbs (f : Flags) : Absorbs (classItem f) := by
  intro s defect h s' hs a rest hread
  unfold classItem at h
  split at h
  · cases hs with
    | lost => cases hread
    | kept =>
      cases hread
      rfl
  · obtain ⟨t, rfl, ht⟩ := hs.cons
    exact escape_absorbs f _ _ h t ht a rest hread
  · cases h

theorem skip_nil (f : Flags) : f.skip [] = [] := by
  unfold Flags.skip
  split <;> rfl

theorem classEntry_absorbs (f : Flags) : Absorbs (classEntry f) := by
  intro s defect h s' hs a rest hread
  unfold classEntry at h hread
  cases hfirst : classItem f s with
  | error d =>
    split at hread
    · cases hread
    · -- the first item has taken the parenthesis in, and stands alone
      rename_i first s₁ hfirst'
      obtain rfl := classItem_absorbs f _ _ hfirst s' hs _ _ hfirst'
      simp only [skip_nil] at hread
      obtain ⟨_, -, heq⟩ := map_eq_ok hread
      cases heq
      rfl
  | ok found =>
    obtain ⟨first, s₁⟩ := found
    obtain ⟨t₁, ht₁, hclose₁⟩ := (classItem_carries f _ _ _ hfirst).2 s' hs
    have hskip := skip_closes hclose₁ f
    simp only [hfirst] at h
    simp only [ht₁] at hread
    split at h
    · rename_i s₂ hs₂
      obtain ⟨t₂, ht₂, hclose₂⟩ := (hs₂ ▸ hskip).cons
      simp only [ht₂, afterHyphen_closes hclose₂ f (Or.inl rfl),
        afterHyphen_closes hclose₂ f (Or.inr rfl)] at hread
      split at h
      · rename_i hyphen
        rw [if_pos hyphen, map_eq_error h] at hread
        cases hread
      · rename_i hyphen
        rw [if_neg hyphen] at hread
        cases hlast : classItem f (f.skip s₂) with
        | error d =>
          split at hread
          · cases hread
          · -- the last item has taken it in
            rename_i last s₃ hlast'
            obtain rfl := classItem_absorbs f _ _ hlast _ (skip_closes hclose₂ f) _ _ hlast'
            split at hread
            · split at hread
              · cases hread
                rfl
              · cases hread
            · cases hread
            · cases hread
        | ok found =>
          obtain ⟨last, s₃⟩ := found
          obtain ⟨t₃, ht₃, -⟩ := (classItem_carries f _ _ _ hlast).2 _ (skip_closes hclose₂ f)
          simp only [hlast] at h
          simp only [ht₃] at hread
          cases hlow : itemChar f first with
          | error d =>
            simp only [hlow] at hread
            cases hread
          | ok low =>
            cases hhigh : itemChar f last with
            | error d =>
              simp only [hlow, hhigh] at hread
              cases hread
            | ok high =>
              simp only [hlow, hhigh] at h hread
              split at hread
              · rename_i hle
                rw [if_pos hle] at h
                cases h
              · cases hread
    · rename_i hne
      split at hread
      · rename_i t₂ ht₂
        obtain ⟨s₂, hs₂, -⟩ := (ht₂ ▸ hskip).of_cons (by decide)
        exact absurd hs₂ (hne s₂)
      · rw [map_eq_error h] at hread
        cases hread

/-- Where a step of a class fails, and a parenthesis follows the pattern, it fails as well or nothing
is left. -/
theorem classStep_absorbs {f : Flags} {level : Level} {outer : List Level} {c : Char}
    {s : List Char} {defect : Defect} (h : classStep f level outer c s = .error defect)
    {step : ClassStep} (hstep : classStep f level outer c (s ++ [')']) = .ok step) :
    ∃ level' outer', step = .more level' outer' [] := by
  unfold classStep at h hstep
  split at h
  · cases h
  rename_i h₁
  rw [if_neg h₁] at hstep
  split at h
  · cases h
  rename_i h₂
  rw [if_neg h₂] at hstep
  split at h
  · rename_i h₃
    rw [if_pos h₃, map_eq_error h] at hstep
    cases hstep
  rename_i h₃
  rw [if_neg h₃] at hstep
  split at h
  · rename_i h₄
    rw [if_pos h₄, asciiClass?_append] at hstep
    split at h
    · rename_i hclass
      simp only [hclass, Option.map_some, map_eq_error h] at hstep
      cases hstep
    · cases h
  rename_i h₄
  rw [if_neg h₄] at hstep
  rw [operation?_append] at hstep
  split at h
  · cases h
  rename_i hoperation
  rw [hoperation] at hstep
  obtain ⟨⟨set, rest⟩, hentry, rfl⟩ := map_eq_ok hstep
  obtain rfl := classEntry_absorbs f _ _ (map_eq_error h) _ (.kept (c :: s)) set rest hentry
  exact ⟨_, _, rfl⟩

/-- A parenthesis in a class is an item of it. -/
theorem classStep_parenthesis {f : Flags} {level : Level} {outer : List Level} {step : ClassStep}
    (h : classStep f level outer ')' [] = .ok step) :
    ∃ level', step = .more level' outer [] := by
  have hentry : classStep f level outer ')' [] =
      (classEntry f [')']).map fun entry => .more (level.add ⟨entry.1, 0⟩) outer entry.2 := rfl
  rw [hentry] at h
  obtain ⟨⟨set, rest⟩, hset, rfl⟩ := map_eq_ok h
  obtain rfl := classEntry_absorbs f [] _ rfl _ (.kept []) set rest hset
  exact ⟨_, rfl⟩

theorem readLevels_nil (f : Flags) (fuel : Nat) (level : Level) (outer : List Level) :
    readLevels f fuel level outer [] = .error .unclosedClass := by
  cases fuel with
  | zero => rfl
  | succ fuel => exact readLevels_of_skip_eq_nil (skip_nil f)

/-- A class that is not closed is not closed by a parenthesis. -/
theorem readLevels_refuses (f : Flags) : ∀ {fuel level outer s defect}, s.length < fuel →
    readLevels f fuel level outer s = .error defect → ∀ s', Closes s s' → ∀ fuel' a rest,
      readLevels f fuel' level outer s' ≠ .ok (a, rest)
  | 0, _, _, _, _, hfuel, _, _, _, _, _, _ => absurd hfuel (Nat.not_lt_zero _)
  | _ + 1, _, _, _, _, _, _, _, _, 0, _, _ => nofun
  | fuel + 1, level, outer, s, defect, hfuel, h, s', hclose, fuel' + 1, a, rest => by
    intro hread
    have hskip := length_skip_le f s
    have hclose := skip_closes hclose f
    cases hs : f.skip s with
    | nil =>
      rw [hs] at hclose
      generalize hs' : f.skip s' = t at hclose
      cases hclose with
      | lost =>
        rw [readLevels_of_skip_eq_nil hs'] at hread
        cases hread
      | kept =>
        rw [readLevels_of_skip_eq_cons hs'] at hread
        split at hread
        · cases hread
        · rename_i hstep
          obtain ⟨_, heq⟩ := classStep_parenthesis hstep
          cases heq
        · rename_i hstep
          obtain ⟨_, heq⟩ := classStep_parenthesis hstep
          cases heq
          rw [readLevels_nil] at hread
          cases hread
    | cons c t =>
      rw [hs, List.length_cons] at hskip
      rw [readLevels_of_skip_eq_cons hs] at h
      have hs' := (hs ▸ hclose).eq_of_cons
      rw [readLevels_of_skip_eq_cons hs'] at hread
      cases hstep : classStep f level outer c t with
      | error d =>
        split at hread
        · cases hread
        · rename_i hstep'
          obtain ⟨_, _, heq⟩ := classStep_absorbs hstep hstep'
          cases heq
        · rename_i hstep'
          obtain ⟨_, _, heq⟩ := classStep_absorbs hstep hstep'
          cases heq
          rw [readLevels_nil] at hread
          cases hread
      | ok step =>
        obtain ⟨step', hstep', hrelated⟩ := classStep_closes hstep
        rw [hstep] at h
        rw [hstep'] at hread
        cases hrelated with
        | closed _ _ => cases h
        | @more _ _ s₁ s₁' hrest =>
          have hlt : s₁.length ≤ t.length := length_classStep_le hstep
          exact readLevels_refuses f (by omega) h _ hrest _ _ _ hread

theorem bracketed_refuses (f : Flags) : RefusesClosed (bracketed f) := by
  intro s defect h s' hs a rest hread
  obtain ⟨hlevel, hclose⟩ := openLevel_closes f hs
  rw [bracketed_eq] at h hread
  rw [hlevel] at hread
  exact readLevels_refuses f (Nat.lt_succ_self _) h _ hclose _ _ _ hread

end Lexis.Pattern
