import Lexis.Proofs.Input.Mirror
import Lexis.Proofs.Lexer.Choice

/-!
# Runs over mirrored inputs

A run over an input that mirrors another one goes on in step with the run over the other. A read
that the source refuses can only end a round before a rule fires, and leaves both runs where they
were; so the call that is cut short is gone on with by the next one, and all answers but these are
the same.

Principal results:

* `Mirrors.round` — one round of two runs;
* `Mirrors.next` — the rounds up to an answer;
* `Mirrors.agrees` — any number of answers;
* `Lexing.agrees_of_flaky` — runs over a flaky source and over data in memory.
-/

namespace Lexis

open Text

variable {ι κ V : Type} [Chunk κ] [Input ι κ]

/-- Whether an answer is that the source has failed. -/
def isUnreadable {α : Type} : Except Fault α → Bool
  | .error (.unreadable _) => true
  | _ => false

theorem isUnreadable_eq_false {α : Type} {answer : Except Fault α}
    (h : ∀ reason, answer ≠ .error (.unreadable reason)) : isUnreadable answer = false := by
  unfold isUnreadable
  split
  · exact absurd rfl (h _)
  · rfl

namespace Lexing

/-- An answer with the states and the position after it. -/
def outline (a : Except Fault (Token V) × Lexing ι) :
    Except Fault (Token V) × List String × Nat :=
  (a.1, a.2.states, a.2.position)

/-- The answers that are no failures of the source, with the states and the position after each. -/
def heard (lexer : Lexer V) (limit count : Nat) (run : Lexing ι) :
    List (Except Fault (Token V) × List String × Nat) :=
  ((answers lexer limit count run).1.filter (!isUnreadable ·.1)).map outline

theorem answers_of_none {lexer : Lexer V} {limit : Nat} {run run' : Lexing ι}
    (h : next lexer limit run = (none, run')) (count : Nat) :
    answers lexer limit (count + 1) run = ([], run') := by
  rw [answers, h]

theorem answers_of_some {lexer : Lexer V} {limit : Nat} {run run' : Lexing ι}
    {a : Except Fault (Token V)} (h : next lexer limit run = (some a, run')) (count : Nat) :
    answers lexer limit (count + 1) run =
      ((a, run') :: (answers lexer limit count run').1, (answers lexer limit count run').2) := by
  rw [answers, h]

theorem heard_of_none {lexer : Lexer V} {limit : Nat} {run run' : Lexing ι}
    (h : next lexer limit run = (none, run')) (count : Nat) :
    heard lexer limit (count + 1) run = [] := by
  unfold heard
  rw [answers_of_none h]
  rfl

theorem heard_of_unreadable {lexer : Lexer V} {limit : Nat} {run run' : Lexing ι} {reason : String}
    (h : next lexer limit run = (some (.error (.unreadable reason)), run')) (count : Nat) :
    heard lexer limit (count + 1) run = heard lexer limit count run' := by
  unfold heard
  rw [answers_of_some h]
  rfl

theorem heard_of_some {lexer : Lexer V} {limit : Nat} {run run' : Lexing ι}
    {a : Except Fault (Token V)} (h : next lexer limit run = (some a, run'))
    (ha : isUnreadable a = false) (count : Nat) :
    heard lexer limit (count + 1) run = outline (a, run') :: heard lexer limit count run' := by
  unfold heard
  rw [answers_of_some h, List.filter_cons_of_pos (by rw [ha]; rfl), List.map_cons]

/-- So many rounds of the run discard what they match and leave the other run. -/
def Silent (lexer : Lexer V) (rounds : Nat) (run run' : Lexing ι) : Prop :=
  ∀ limit, next lexer (rounds + limit) run = next lexer limit run'

theorem silent_refl (lexer : Lexer V) (run : Lexing ι) : Silent lexer 0 run run := by
  intro limit
  rw [Nat.zero_add]

theorem Silent.trans {lexer : Lexer V} {m n : Nat} {a b c : Lexing ι} (hab : Silent lexer m a b)
    (hbc : Silent lexer n b c) : Silent lexer (m + n) a c := by
  intro limit
  rw [Nat.add_assoc, hab, hbc]

theorem silent_of_again {lexer : Lexer V} {a b c : Lexing ι} {n : Nat}
    (h : round lexer a = (.again, b)) (hbc : Silent lexer n b c) : Silent lexer (n + 1) a c := by
  intro limit
  rw [Nat.add_right_comm, next_of_again h]
  exact hbc limit

theorem next_mono {lexer : Lexer V} : ∀ {limit : Nat} {run run' : Lexing ι}
    {a : Except Fault (Token V)}, next lexer limit run = (some a, run') →
      ∀ {limit'}, limit ≤ limit' → next lexer limit' run = (some a, run')
  | 0, _, _, _, h, _, _ => by cases h
  | limit + 1, run, run', a, h, limit', hle => by
    obtain ⟨more, rfl⟩ : ∃ more, limit' = more + 1 := ⟨limit' - 1, by omega⟩
    obtain ⟨r, middle, hround⟩ : ∃ r middle, round lexer run = (r, middle) := ⟨_, _, rfl⟩
    cases r with
    | answer b =>
      rw [next_of_answer hround] at h ⊢
      exact h
    | again =>
      rw [next_of_again hround] at h ⊢
      exact next_mono h (Nat.le_of_succ_le_succ hle)

theorem next_eq_none_of_le {lexer : Lexer V} {limit limit' : Nat} {run : Lexing ι}
    (h : (next lexer limit' run).1 = none) (hle : limit ≤ limit') :
    (next lexer limit run).1 = none := by
  cases hnext : next lexer limit run with
  | mk answer after =>
    cases answer with
    | none => rfl
    | some a =>
      rw [next_mono hnext hle] at h
      cases h

end Lexing

namespace Mirrors

variable {ι₁ ι₂ : Type} [Input ι₁ κ] [Input ι₂ κ] {Refuses : String → Prop} {R : ι₁ → ι₂ → Prop}

/-- Two runs in the same states over inputs in the relation. -/
def Runs (R : ι₁ → ι₂ → Prop) (a : Lexing ι₁) (b : Lexing ι₂) : Prop :=
  R a.input b.input ∧ a.states = b.states

theorem choose (h : Mirrors Refuses R) [LawfulChunk κ] (lexer : Lexer V) {a : Lexing ι₁}
    {b : Lexing ι₂} (hab : Runs R a b) :
    (∃ reason a', Lexing.choose lexer a = (.error (.unreadable reason), a') ∧ Runs R a' b) ∨
    ∃ answer a' b', Lexing.choose lexer a = (answer, a') ∧ Lexing.choose lexer b = (answer, b') ∧
      Runs R a' b' ∧ (∀ reason, answer ≠ .error (.unreadable reason)) ∧
      ∀ choice, answer = .ok choice → R (Input.advance (unitsIn κ choice.found.whole) a'.input)
        (Input.advance (unitsIn κ choice.found.whole) b'.input) := by
  obtain ⟨hinput, hstates⟩ := hab
  have hposition : a.position = b.position := h.position hinput
  cases hactive : lexer.active a.states with
  | error fault =>
    obtain ⟨name, rfl⟩ := Lexer.unknownState_of_active hactive
    refine Or.inr ⟨_, a, b, Lexing.choose_of_unknown hactive, ?_, ⟨hinput, hstates⟩, ?_, ?_⟩
    · exact Lexing.choose_of_unknown (hstates ▸ hactive)
    · exact fun reason heq => by cases heq
    · exact fun choice heq => by cases heq
  | ok rules =>
    have hactive' : lexer.active b.states = .ok rules := hstates ▸ hactive
    rcases h.peek hinput lexer.options.request with
      ⟨reason, a', ha, hab', -⟩ | ⟨answer, a', b', ha, hb, hab', hfine, hadvance⟩
    · exact Or.inl ⟨reason, _, Lexing.choose_of_fault hactive ha, hab', hstates⟩
    · right
      cases answer with
      | error fault =>
        refine ⟨_, _, _, Lexing.choose_of_fault hactive ha, Lexing.choose_of_fault hactive' hb,
          ⟨hab', hstates⟩, ?_, fun choice heq => by cases heq⟩
        intro reason heq
        cases heq
        exact hfine reason rfl
      | ok chunk =>
        refine ⟨_, _, ⟨b', b.states⟩, Lexing.choose_of_chunk hactive ha, ?_, ⟨hab', hstates⟩, ?_, ?_⟩
        · rw [Lexing.choose_of_chunk hactive' hb, hstates, hposition]
        · exact fun reason heq => (Lexing.select_error heq).2 reason rfl
        · intro choice heq
          obtain ⟨-, -, hmatch⟩ := Lexing.select_ok heq
          rw [Lexing.windowText_fst] at hmatch
          refine hadvance chunk rfl _ (LawfulChunk.units_le chunk _ ?_)
          rw [← Pattern.text_of_match? hmatch]
          exact choice.found.whole_sublist

variable [LawfulChunk κ] [Sourced ι₁] [Sourced ι₂] [LawfulInput ι₁] [LawfulInput ι₂]
  {lexer : Lexer V} {a : Lexing ι₁} {b : Lexing ι₂}

/-- **One round.** Both runs end it alike, or the first one meets a failure of its source and stays
where it is. -/
theorem round (h : Mirrors Refuses R) (lexer : Lexer V) (hab : Runs R a b) :
    (∃ reason a', Lexing.round lexer a = (.answer (.error (.unreadable reason)), a') ∧
      Runs R a' b) ∨
    ∃ r a' b', Lexing.round lexer a = (r, a') ∧ Lexing.round lexer b = (r, b') ∧ Runs R a' b' ∧
      ∀ reason, r ≠ .answer (.error (.unreadable reason)) := by
  unfold Lexing.round
  rcases h.choose lexer hab with
    ⟨reason, a', ha, hab'⟩ | ⟨answer, a', b', ha, hb, hab', hfine, hadvance⟩
  · rw [ha]
    exact Or.inl ⟨reason, a', rfl, hab'⟩
  · rw [ha, hb]
    right
    cases answer with
    | error fault =>
      refine ⟨_, a', b', rfl, rfl, hab', fun reason heq => ?_⟩
      cases heq
      exact hfine reason rfl
    | ok choice =>
      dsimp only
      rw [Lexing.fire_of_holds (Lexing.holds_of_choose ha),
        Lexing.fire_of_holds (Lexing.holds_of_choose hb), hab'.2]
      refine ⟨_, _, _, rfl, rfl, ⟨hadvance choice rfl, rfl⟩, fun reason heq => ?_⟩
      cases Lexing.react_error heq

/-- **The rounds up to an answer.** Both runs come to the same answer or to none; or the first one
comes to a failure of its source, and the second one gets as far without an answer. -/
theorem next (h : Mirrors Refuses R) (lexer : Lexer V) : ∀ (limit : Nat) {a : Lexing ι₁} {b : Lexing ι₂},
    Runs R a b →
      (∃ reason a' rounds b',
        Lexing.next lexer limit a = (some (.error (.unreadable reason)), a') ∧
        Lexing.Silent lexer rounds b b' ∧ Runs R a' b') ∨
      ∃ answer a' b', Lexing.next lexer limit a = (answer, a') ∧
        Lexing.next lexer limit b = (answer, b') ∧ Runs R a' b' ∧
        ∀ reason, answer ≠ some (.error (.unreadable reason))
  | 0, a, b, hab => Or.inr ⟨none, a, b, rfl, rfl, hab, fun _ heq => by cases heq⟩
  | limit + 1, a, b, hab => by
    rcases h.round lexer hab with ⟨reason, a', ha, hab'⟩ | ⟨r, a', b', ha, hb, hab', hfine⟩
    · exact Or.inl ⟨reason, a', 0, b, Lexing.next_of_answer ha limit, Lexing.silent_refl lexer b,
        hab'⟩
    · cases r with
      | answer answer =>
        refine Or.inr ⟨some answer, a', b', Lexing.next_of_answer ha limit,
          Lexing.next_of_answer hb limit, hab', fun reason heq => ?_⟩
        cases heq
        exact hfine reason rfl
      | again =>
        rw [Lexing.next_of_again ha, Lexing.next_of_again hb]
        rcases next h lexer limit hab' with ⟨reason, a'', rounds, b'', ha', hsilent, hab''⟩ | hsame
        · exact Or.inl ⟨reason, a'', rounds + 1, b'', ha', Lexing.silent_of_again hb hsilent, hab''⟩
        · exact Or.inr hsame

end Mirrors

/-! ## Agreement -/

namespace Lexing

variable {ι₁ ι₂ : Type} [Input ι₁ κ] [Input ι₂ κ]

/-- However many answers the first run gives, in calls of however many rounds: those that are no
failures of its source are the first answers of the second run, once this is allowed rounds enough;
and where the first run gives no answer the second one gives none. -/
def Agrees (lexer : Lexer V) (a : Lexing ι₁) (b : Lexing ι₂) : Prop :=
  ∀ limit count, ∃ enough, ∀ limit' ≥ enough,
    heard lexer limit count a =
      (answers lexer limit' (heard lexer limit count a).length b).1.map outline ∧
    ((answers lexer limit count a).1.length < count →
      (next lexer limit (answers lexer limit' (heard lexer limit count a).length b).2).1 = none)

end Lexing

namespace Mirrors

variable {ι₁ ι₂ : Type} [Input ι₁ κ] [Input ι₂ κ] {Refuses : String → Prop} {R : ι₁ → ι₂ → Prop}
  [LawfulChunk κ] [Sourced ι₁] [Sourced ι₂] [LawfulInput ι₁] [LawfulInput ι₂] {lexer : Lexer V}

theorem answers (h : Mirrors Refuses R) (limit : Nat) : ∀ (count : Nat) {a : Lexing ι₁}
    {b b' : Lexing ι₂} {rounds : Nat}, Lexing.Silent lexer rounds b b' → Runs R a b' →
      ∃ enough, ∀ limit' ≥ enough,
        Lexing.heard lexer limit count a =
          (Lexing.answers lexer limit' (Lexing.heard lexer limit count a).length b).1.map
            Lexing.outline ∧
        ((Lexing.answers lexer limit count a).1.length < count →
          (Lexing.next lexer limit
            (Lexing.answers lexer limit' (Lexing.heard lexer limit count a).length b).2).1 = none)
  | 0, a, b, b', rounds, _, _ => ⟨0, fun _ _ => ⟨rfl, fun hlt => absurd hlt (Nat.not_lt_zero _)⟩⟩
  | count + 1, a, b, b', rounds, hsilent, hab => by
    rcases h.next lexer limit hab with
      ⟨reason, a', more, b'', ha, hmore, hab'⟩ | ⟨answer, a', b'', ha, hb, hab', hfine⟩
    · obtain ⟨enough, hrest⟩ := answers h limit count (hsilent.trans hmore) hab'
      refine ⟨enough, fun limit' hle => ?_⟩
      rw [Lexing.heard_of_unreadable ha, Lexing.answers_of_some ha]
      obtain ⟨hheard, hnone⟩ := hrest limit' hle
      exact ⟨hheard, fun hlt => hnone (Nat.lt_of_succ_lt_succ hlt)⟩
    · cases answer with
      | none =>
        refine ⟨0, fun limit' _ => ?_⟩
        rw [Lexing.heard_of_none ha]
        refine ⟨rfl, fun _ => ?_⟩
        have hlong : (Lexing.next lexer (rounds + limit) b).1 = none := by rw [hsilent, hb]
        exact Lexing.next_eq_none_of_le hlong (Nat.le_add_left _ _)
      | some answer =>
        obtain ⟨enough, hrest⟩ := answers h limit count (Lexing.silent_refl lexer b'') hab'
        have hunheard : isUnreadable answer = false :=
          isUnreadable_eq_false fun reason heq => hfine reason (by rw [heq])
        refine ⟨max (rounds + limit) enough, fun limit' hle => ?_⟩
        obtain ⟨hheard, hnone⟩ := hrest limit' (Nat.le_trans (Nat.le_max_right _ _) hle)
        have hnext : Lexing.next lexer limit' b = (some answer, b'') :=
          Lexing.next_mono ((hsilent limit).trans hb) (Nat.le_trans (Nat.le_max_left _ _) hle)
        rw [Lexing.heard_of_some ha hunheard, List.length_cons, Lexing.answers_of_some hnext,
          Lexing.answers_of_some ha]
        refine ⟨?_, fun hlt => hnone (Nat.lt_of_succ_lt_succ hlt)⟩
        have houtline : Lexing.outline (answer, a') = Lexing.outline (answer, b'') := by
          unfold Lexing.outline Lexing.position
          rw [hab'.2, h.position hab'.1]
        rw [List.map_cons, ← hheard, houtline]

/-- **Any number of answers** of two runs over inputs in the relation. -/
theorem agrees (h : Mirrors Refuses R) {a : ι₁} {b : ι₂} (hab : R a b) (states : List String) :
    Lexing.Agrees lexer (Lexing.start a states) (Lexing.start b states) := by
  intro limit count
  exact h.answers limit count (Lexing.silent_refl lexer _) ⟨hab, rfl⟩

end Mirrors

namespace Lexing

theorem answers_isPrefix (lexer : Lexer V) (limit : Nat) : ∀ {count count' : Nat}
    (run : Lexing ι), count ≤ count' →
      (answers lexer limit count run).1 <+: (answers lexer limit count' run).1
  | 0, _, _, _ => List.nil_prefix
  | count + 1, count', run, hle => by
    obtain ⟨more, rfl⟩ : ∃ more, count' = more + 1 := ⟨count' - 1, by omega⟩
    obtain ⟨answer, after, hnext⟩ : ∃ answer after, next lexer limit run = (answer, after) :=
      ⟨_, _, rfl⟩
    cases answer with
    | none =>
      rw [answers_of_none hnext count]
      exact List.nil_prefix
    | some a =>
      rw [answers_of_some hnext, answers_of_some hnext]
      refine (List.prefix_cons_inj _).2 ?_
      exact answers_isPrefix lexer limit after (Nat.le_of_succ_le_succ hle)

variable {ι₁ ι₂ : Type} [Input ι₁ κ] [Input ι₂ κ]

/-- What is heard of two runs that agree with a third one is the same, as far as both go. -/
theorem Agrees.comparable {lexer : Lexer V} {a a' : Lexing ι₁} {b : Lexing ι₂}
    (h : Agrees lexer a b) (h' : Agrees lexer a' b) (limit count limit' count' : Nat) :
    heard lexer limit count a <+: heard lexer limit' count' a' ∨
      heard lexer limit' count' a' <+: heard lexer limit count a := by
  obtain ⟨enough, hheard⟩ := h limit count
  obtain ⟨enough', hheard'⟩ := h' limit' count'
  have heq := (hheard (max enough enough') (Nat.le_max_left _ _)).1
  have heq' := (hheard' (max enough enough') (Nat.le_max_right _ _)).1
  rw [heq, heq']
  rcases Nat.le_total (heard lexer limit count a).length (heard lexer limit' count' a').length with
    hle | hle
  · exact Or.inl ((answers_isPrefix lexer _ b hle).map outline)
  · exact Or.inr ((answers_isPrefix lexer _ b hle).map outline)

/-- **Failures of a source, the block size and the buffering are not seen in the answers of a
lexer.** The answers over a source that refuses some reads, apart from the refusals themselves, are
those over the data in memory, with the same states and positions after them: for bytes, for the
characters of a text, and for the characters of any bytes, where no two sources and block sizes can
be told apart. -/
theorem agrees_of_flaky (lexer : Lexer V) (states : List String) (refusal? : Nat → Option String)
    (sizeFault : Option String) (blockSize : Nat) :
    (∀ bytes, Agrees lexer
      (start (BufferedBytes.ofSource (.flaky bytes refusal? sizeFault) blockSize) states)
      (start (ByteCursor.ofBytes bytes) states)) ∧
    (∀ text, Agrees lexer
      (start (BufferedText.ofSource (.flaky (encode text) refusal? sizeFault) blockSize) states)
      (start (TextCursor.ofText text) states)) ∧
    (∀ bytes, Agrees lexer
      (start (BufferedText.ofSource (.flaky bytes refusal? sizeFault) blockSize) states)
      (start (IdealText.ofBytes bytes) states)) ∧
    ∀ bytes refusal?' sizeFault' blockSize' limit count limit' count',
      let run := start (BufferedText.ofSource (.flaky bytes refusal? sizeFault) blockSize) states
      let run' :=
        start (BufferedText.ofSource (.flaky bytes refusal?' sizeFault') blockSize') states
      heard lexer limit count run <+: heard lexer limit' count' run' ∨
        heard lexer limit' count' run' <+: heard lexer limit count run := by
  have hideal : ∀ bytes refusal? sizeFault blockSize, Agrees lexer
      (start (BufferedText.ofSource (.flaky bytes refusal? sizeFault) blockSize) states)
      (start (IdealText.ofBytes bytes) states) := by
    intro bytes refusal? sizeFault blockSize
    have hmirrors := BufferedText.mirrors_idealText (Source.copiesAll_flaky bytes refusal? sizeFault)
    exact hmirrors.agrees (BufferedText.reflects_ofSource _ blockSize) states
  refine ⟨fun bytes => ?_, fun text => ?_, fun bytes => hideal bytes _ _ _, ?_⟩
  · have hmirrors :=
      BufferedBytes.mirrors_byteCursor (Source.copiesAll_flaky bytes refusal? sizeFault)
    exact hmirrors.agrees (BufferedBytes.reflects_ofSource _ blockSize) states
  · have hmirrors :=
      (BufferedText.mirrors_idealText (Source.copiesAll_flaky (encode text) refusal? sizeFault)).trans
        (IdealText.mirrors_textCursor text)
    exact hmirrors.agrees
      ⟨_, BufferedText.reflects_ofSource _ blockSize, IdealText.reflects_ofText text⟩ states
  · intro bytes refusal?' sizeFault' blockSize' limit count limit' count'
    exact (hideal bytes _ _ _).comparable (hideal bytes _ _ _) limit count limit' count'

end Lexing

end Lexis
