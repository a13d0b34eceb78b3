import Lexis.Proofs.Lexer.Stalling
import Lexis.Proofs.Lexer.Truncation

/-!
# The limit of the window

A match is made within a chunk, and a chunk has no more units than were asked for. So a match can be
longer than the window only where one unit more is asked for, which takes `rejectTruncated` and a
window that is not the greatest request already; and then it is longer by that one unit and takes in
the whole chunk. Such a match is a fault if its token is to be given, and may be discarded like any
other.

All this holds of any run: no text has to be behind the cursor, a source may do what it likes, and
a pattern may match anywhere in the window.

Principal results:

* `Lexing.next_eq_some_iff` — an answer is that of a round behind others that discard their matches;
* `Moderate` — inputs that hand out no more than is asked for;
* `Lexing.overruns_iff` — which matches are longer than the window;
* `Lexing.windowLimit` — the four kinds of inputs.
-/

namespace Lexis

open Pattern Text

variable {ι κ V : Type} [Chunk κ] [Input ι κ]

/-! ## Requests -/

/-- An input that hands out no more than is asked for, wherever its cursor is, and whose faults are
those of reading. -/
class Moderate (ι : Type) {κ : outParam Type} [Chunk κ] [Input ι κ] : Prop where
  units_le : ∀ {count : Nat} {i i' : ι} {chunk : κ}, Input.peek count i = (.ok chunk, i') →
    Chunk.units chunk ≤ count
  fault : ∀ {count : Nat} {i i' : ι} {fault : Fault}, Input.peek count i = (.error fault, i') →
    fault.BeforeFiring

instance : Moderate ByteCursor where
  units_le := by
    intro count c c' chunk hpeek
    cases hpeek
    exact List.length_take_le _ _
  fault := by
    intro count c c' fault hpeek
    cases hpeek

instance : Moderate TextCursor where
  units_le := by
    intro count c c' chunk hpeek
    cases hpeek
    exact List.length_take_le _ _
  fault := by
    intro count c c' fault hpeek
    cases hpeek

theorem Blocks.beforeFiring_of_fetch {b b' : Blocks} {fault : Fault}
    (h : b.fetch = (.error fault, b')) : fault.BeforeFiring := by
  rcases Source.read_cases (.refl b.source) b.blockSize b.fetched with
    ⟨reason, s, hread, -, -⟩ | ⟨n, s, hread, -, -, -⟩
  · unfold fetch at h
    rw [hread] at h
    cases h
    exact .unreadable reason
  · unfold fetch at h
    rw [hread] at h
    cases h

theorem Blocks.beforeFiring_of_fillLoop {count : Nat} {fault : Fault} : ∀ {fuel : Nat}
    {b b' : Blocks}, b.fillLoop count fuel = (.error fault, b') → fault.BeforeFiring
  | 0, _, _, h => by cases h
  | fuel + 1, b, b', h => by
    unfold fillLoop at h
    split at h
    · cases h
    · split at h
      · rename_i hfetch
        cases h
        exact beforeFiring_of_fetch hfetch
      · cases h
      · exact beforeFiring_of_fillLoop h

theorem BufferedText.beforeFiring_of_fillLoop {count : Nat} {fault : Fault} : ∀ {fuel : Nat}
    {i i' : BufferedText}, i.fillLoop count fuel = (.error fault, i') → fault.BeforeFiring
  | 0, _, _, h => by cases h
  | fuel + 1, i, i', h => by
    unfold fillLoop at h
    split at h
    · cases h
    · split at h
      · cases h
        exact .undecodable _
      · split at h
        · rename_i hfetch
          cases h
          exact Blocks.beforeFiring_of_fetch hfetch
        · obtain ⟨hcheck, -⟩ := Prod.mk.inj h
          unfold lastCheck at hcheck
          split at hcheck
          · cases hcheck
            exact .undecodable _
          · cases hcheck
        · exact beforeFiring_of_fillLoop h

instance : Moderate BufferedBytes where
  units_le := by
    intro count i i' chunk hpeek
    simp only [Input.peek] at hpeek
    split at hpeek
    · cases hpeek
    · cases hpeek
      exact List.length_take_le _ _
  fault := by
    intro count i i' fault hpeek
    simp only [Input.peek] at hpeek
    split at hpeek
    · rename_i hfill
      cases hpeek
      exact Blocks.beforeFiring_of_fillLoop hfill
    · cases hpeek

instance : Moderate BufferedText where
  units_le := by
    intro count i i' chunk hpeek
    simp only [Input.peek] at hpeek
    split at hpeek
    · cases hpeek
    · cases hpeek
      exact List.length_take_le _ _
  fault := by
    intro count i i' fault hpeek
    simp only [Input.peek] at hpeek
    split at hpeek
    · rename_i hfill
      cases hpeek
      exact BufferedText.beforeFiring_of_fillLoop hfill
    · cases hpeek

/-- More than the window is asked for only with `rejectTruncated` and below the greatest request, and
then it is one unit more. -/
theorem Options.request_of_lt {o : Options} (h : o.window < o.request) :
    o.rejectTruncated = true ∧ o.window < requestLimit ∧ o.request = o.window + 1 := by
  unfold request at h ⊢
  cases hreject : o.rejectTruncated with
  | false =>
    rw [hreject] at h
    exact absurd h (Nat.lt_irrefl _)
  | true =>
    rw [hreject, if_pos rfl] at h
    rw [if_pos rfl]
    exact ⟨rfl, by omega, by omega⟩

/-! ## Matches that are longer than the window -/

theorem Firing.gives_or_discards (f : Firing ι V) :
    (∃ token, f.Gives token) ∨ f.reaction.Discards := by
  have hreaction : f.choice.rule.action f.choice.found ⟨f.before.states, f.choice.base⟩ =
      f.reaction := rfl
  cases htoken : f.reaction.token with
  | none =>
    right
    intro token hgiven
    rw [htoken] at hgiven
    cases hgiven
  | some token =>
    cases hnamed : token.isIgnorable with
    | true =>
      right
      intro token' hgiven
      rw [htoken] at hgiven
      cases hgiven
      exact hnamed
    | false =>
      left
      refine ⟨token, ?_, hnamed⟩
      rw [hreaction]
      exact htoken

/-- The match takes in the whole chunk that was handed out to the run, and this has one unit more
than the window. -/
def Firing.Spans (lexer : Lexer V) (run : Lexing ι) (f : Firing ι V) : Prop :=
  ∃ chunk i', Input.peek lexer.options.request run.input = (.ok chunk, i') ∧
    Chunk.units chunk = lexer.options.window + 1 ∧ f.text = (Chunk.text chunk).1 ∧
    unitsIn κ f.text = lexer.options.window + 1

/-- A rule fires in the run whose match spans one unit more than the window, which had to be asked
for, and whose token is to be given. -/
structure Firing.Overruns (lexer : Lexer V) (run : Lexing ι) (f : Firing ι V) (token : Token V) :
    Prop where
  fires : Lexing.firing? lexer run = some f
  gives : f.Gives token
  rejects : lexer.options.rejectTruncated = true
  window_lt : lexer.options.window < requestLimit
  spans : f.Spans lexer run

namespace Lexing

variable {lexer : Lexer V} {run after : Lexing ι} {f : Firing ι V}

/-- **An answer is that of a round behind others that discard their matches.** -/
theorem next_eq_some_iff {limit : Nat} {a : Except Fault (Token V)} :
    next lexer limit run = (some a, after) ↔
      ∃ n < limit, ∃ last, next lexer n run = (none, last) ∧
        round lexer last = (.answer a, after) := by
  induction limit generalizing run with
  | zero =>
    constructor
    · intro h
      cases h
    · rintro ⟨n, hn, -⟩
      exact absurd hn (Nat.not_lt_zero n)
  | succ limit ih =>
    obtain ⟨outcome, behind, hround⟩ : ∃ outcome behind, round lexer run = (outcome, behind) :=
      ⟨_, _, rfl⟩
    cases outcome with
    | answer b =>
      rw [next_of_answer hround]
      constructor
      · intro h
        cases h
        exact ⟨0, Nat.succ_pos limit, run, rfl, hround⟩
      · rintro ⟨n, -, last, hlast, hanswer⟩
        cases n with
        | zero =>
          cases hlast
          rw [hround] at hanswer
          cases hanswer
          rfl
        | succ n =>
          rw [next_of_answer hround] at hlast
          cases hlast
    | again =>
      rw [next_of_again hround, ih]
      constructor
      · rintro ⟨n, hn, last, hlast, hanswer⟩
        refine ⟨n + 1, Nat.succ_lt_succ hn, last, ?_, hanswer⟩
        rw [next_of_again hround]
        exact hlast
      · rintro ⟨n, hn, last, hlast, hanswer⟩
        cases n with
        | zero =>
          cases hlast
          rw [hround] at hanswer
          cases hanswer
        | succ n =>
          rw [next_of_again hround] at hlast
          exact ⟨n, Nat.lt_of_succ_lt_succ hn, last, hlast, hanswer⟩

theorem beforeFiring_of_choose [Moderate ι] {fault : Fault}
    (h : choose lexer run = (.error fault, after)) : fault.BeforeFiring := by
  obtain ⟨-, ⟨-, name, rfl⟩ | hpeek | ⟨chunk, -, hfault⟩⟩ := choose_error h
  · exact .unknownState name
  · exact Moderate.fault hpeek
  · exact hfault

/-- The chunk that a rule was chosen from holds the text of the match. -/
theorem exists_chunk_of_firing (h : firing? lexer run = some f) :
    ∃ (chunk : κ) (i' : ι), Input.peek lexer.options.request run.input = (.ok chunk, i') ∧
      f.text.Sublist (Chunk.text chunk).1 := by
  obtain ⟨-, -, -, chunk, hpeek, hmatch⟩ := choose_ok (choose_of_firing h).1
  refine ⟨chunk, _, hpeek, ?_⟩
  rw [← text_of_match? hmatch]
  exact f.choice.found.whole_sublist

/-- **A match that is longer than the window** is so by one unit, which was asked for in addition,
and takes in all that was handed out. -/
theorem spans_of_lt [LawfulChunk κ] [MeasuredText κ] [Moderate ι] (h : firing? lexer run = some f)
    (hlong : lexer.options.window < unitsIn κ f.text) :
    lexer.options.rejectTruncated = true ∧ lexer.options.window < requestLimit ∧
      f.Spans lexer run := by
  obtain ⟨chunk, i', hpeek, hsub⟩ := exists_chunk_of_firing h
  have htext : unitsIn κ f.text ≤ unitsIn κ (Chunk.text chunk).1 :=
    measure_le_of_sublist (unitsIn_append κ) hsub
  have hchunk : unitsIn κ (Chunk.text chunk).1 ≤ Chunk.units chunk :=
    LawfulChunk.units_le chunk _ (List.Sublist.refl _)
  have hrequest : Chunk.units chunk ≤ lexer.options.request := Moderate.units_le hpeek
  obtain ⟨hreject, hlimit, hone⟩ := Options.request_of_lt (o := lexer.options) (by omega)
  refine ⟨hreject, hlimit, chunk, i', hpeek, by omega, ?_, by omega⟩
  exact eq_of_sublist_of_measure_le (unitsIn_append κ)
    (fun _ => (MeasuredText.unitsIn_eq_zero _).1) hsub (by omega)

variable [LawfulChunk κ] [Sourced ι] [LawfulInput ι]

/-- **How a round ends whose rule gives a token.** -/
theorem outcome_of_gives (h : firing? lexer run = some f) {token : Token V}
    (hgives : f.Gives token) :
    f.outcome =
      if lexer.options.window < unitsIn κ f.text then
        .answer (.error (.windowExhausted (stateLabel f.after.states) lexer.options.window))
      else .answer (.ok token) := by
  obtain ⟨-, hreact⟩ := react_of_firing h
  obtain ⟨houtcome, hstates⟩ := Prod.mk.inj (hreact : _ = (_, _))
  rw [houtcome, hstates]
  exact react_of_gives hgives.1 hgives.2

variable [MeasuredText κ]

theorem not_windowExhausted_of_discards (h : firing? lexer run = some f)
    (hdiscards : f.reaction.Discards) (state : String) (window : Nat) :
    f.outcome ≠ .answer (.error (.windowExhausted state window)) := by
  obtain ⟨-, houtcome⟩ := outcome_of_discards h hdiscards
  rw [houtcome]
  split <;> nofun

/-- **A round finds a token too long exactly if its match overruns the window.** -/
theorem overruns_iff [Moderate ι] {state : String} {window : Nat} :
    round lexer run = (.answer (.error (.windowExhausted state window)), after) ↔
      ∃ (f : Firing ι V) (token : Token V), f.Overruns lexer run token ∧ f.after = after ∧
        state = stateLabel after.states ∧ window = lexer.options.window := by
  constructor
  · intro hround
    rcases round_or_firing lexer run with ⟨fault, behind, hchoose, hfault⟩ | ⟨f, hf⟩
    · rw [hround] at hfault
      cases hfault
      cases beforeFiring_of_choose hchoose
    · obtain ⟨hfired, -⟩ := react_of_firing hf
      rw [hround, Prod.mk.injEq] at hfired
      obtain ⟨houtcome, rfl⟩ := hfired
      rcases f.gives_or_discards with ⟨token, hgives⟩ | hdiscards
      · rw [outcome_of_gives hf hgives] at houtcome
        split at houtcome
        · rename_i hlong
          cases houtcome
          obtain ⟨hreject, hlimit, hspans⟩ := spans_of_lt hf hlong
          exact ⟨f, token, ⟨hf, hgives, hreject, hlimit, hspans⟩, rfl, rfl, rfl⟩
        · cases houtcome
      · exact absurd houtcome.symm (not_windowExhausted_of_discards hf hdiscards state window)
  · rintro ⟨f, token, hover, rfl, rfl, rfl⟩
    obtain ⟨chunk, i', -, -, -, hunits⟩ := hover.spans
    have hlong : lexer.options.window < unitsIn κ f.text := by omega
    rw [(react_of_firing hover.fires).1, outcome_of_gives hover.fires hover.gives, if_pos hlong]

end Lexing

/-! ## The limit -/

/-- The limit that the window sets to the answers of a run. A number `n` of rounds without an answer
are ones that discard their matches. -/
structure WindowLimit (lexer : Lexer V) (run : Lexing ι) : Prop where
  /-- A token has a name, and the match of the rule that gives it fits into the window. -/
  fits : ∀ limit token after, Lexing.next lexer limit run = (some (.ok token), after) →
    token.isIgnorable = false ∧ ∃ n < limit, ∃ last f, Lexing.next lexer n run = (none, last) ∧
      Lexing.firing? lexer last = some f ∧ f.Gives token ∧ f.after = after ∧
      unitsIn κ f.text ≤ lexer.options.window
  /-- The fault is the answer exactly if a match overruns the window. -/
  exhausted : ∀ limit state window after,
    Lexing.next lexer limit run = (some (.error (.windowExhausted state window)), after) ↔
      ∃ n < limit, ∃ (last : Lexing ι) (f : Firing ι V) (token : Token V),
        Lexing.next lexer n run = (none, last) ∧ f.Overruns lexer last token ∧ f.after = after ∧
        state = stateLabel after.states ∧ window = lexer.options.window
  /-- A match that is discarded is not the fault, however long it is. -/
  discarded : ∀ f, Lexing.firing? lexer run = some f → f.reaction.Discards →
    ∀ state window after, Lexing.round lexer run ≠
      (.answer (.error (.windowExhausted state window)), after)

/-- **The limit of the window**, over any input that hands out no more than is asked for. -/
theorem Lexing.windowLimit_of_moderate [LawfulChunk κ] [MeasuredText κ] [Moderate ι] [Sourced ι]
    [LawfulInput ι] (lexer : Lexer V) (run : Lexing ι) : WindowLimit lexer run where
  fits := by
    intro limit token after hnext
    obtain ⟨n, hn, last, hlast, hround⟩ := next_eq_some_iff.1 hnext
    obtain ⟨f, hf, hgives, hafter⟩ := exists_firing hround
    refine ⟨hgives.2, n, hn, last, f, hlast, hf, hgives, hafter, ?_⟩
    -- the round has ended with the token, and not with the fault
    have hanswer : f.outcome = .answer (.ok token) :=
      congrArg Prod.fst ((react_of_firing hf).1.symm.trans hround)
    rw [outcome_of_gives hf hgives] at hanswer
    split at hanswer
    · cases hanswer
    · rename_i hshort
      exact Nat.le_of_not_lt hshort
  exhausted := by
    intro limit state window after
    rw [next_eq_some_iff]
    constructor
    · rintro ⟨n, hn, last, hlast, hround⟩
      obtain ⟨f, token, hover, hafter, hstate, hwindow⟩ := overruns_iff.1 hround
      exact ⟨n, hn, last, f, token, hlast, hover, hafter, hstate, hwindow⟩
    · rintro ⟨n, hn, last, f, token, hlast, hover, hafter, hstate, hwindow⟩
      exact ⟨n, hn, last, hlast, overruns_iff.2 ⟨f, token, hover, hafter, hstate, hwindow⟩⟩
  discarded := by
    intro f hf hdiscards state window after hround
    have houtcome := congrArg Prod.fst ((react_of_firing hf).1.symm.trans hround)
    exact not_windowExhausted_of_discards hf hdiscards state window houtcome

/-- **No token is longer than the window, and those that would be are the fault**, whatever the
lexer is, at any run over each of the four kinds of inputs, the runs that are reached among them. -/
theorem Lexing.windowLimit (lexer : Lexer V) :
    (∀ run : Lexing ByteCursor, WindowLimit lexer run) ∧
    (∀ run : Lexing TextCursor, WindowLimit lexer run) ∧
    (∀ run : Lexing BufferedBytes, WindowLimit lexer run) ∧
    ∀ run : Lexing BufferedText, WindowLimit lexer run :=
  ⟨windowLimit_of_moderate lexer, windowLimit_of_moderate lexer, windowLimit_of_moderate lexer,
    windowLimit_of_moderate lexer⟩

/-- Four letters fit into a window of four, and of five letters no word is made. -/
example : (Lexer.build Demo.shortWords).toOption.map (fun lexer =>
    [['a', 'b', 'c', 'd'], ['a', 'b', 'c', 'd', 'e']].map fun text =>
      ((Lexing.next lexer 1 (Lexing.start (TextCursor.ofText text) [])).1.map fun
        | .ok token => (some token.value, none)
        | .error fault => (none, some fault))) =
    some [some (some (.text "abcd"), none),
      some (none, some (.windowExhausted "<default>" 4))] := by
  decide +kernel

end Lexis
