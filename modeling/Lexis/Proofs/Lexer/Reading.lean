import Lexis.Proofs.Lexer.Agreement
import Lexis.Proofs.Lexer.Rounds
import Lexis.Proofs.Reducer.Feeding

/-!
# Reading a text

Which rules fire on a text, one after the other, as a relation between the text before them and the
text behind them: each fires with all that is left of the text in front of it, as far as the window
shows it, so that what is read first and what is read next can be put together. A run over an input
that provides the text then gives the tokens of the relation, whatever the input is, and needs no
more rounds for a token than there are characters left.

Principal results:

* `Lexes.append` — reading on;
* `Provides.next_of_fires` — the next answer;
* `Provides.supplies_of_lexes`, `Provides.pull_of_lexes` — a series of tokens up to its end.
-/

namespace Lexis

open Pattern Text Lexing

variable {V : Type}

/-- In the states the first rule that matches the front of the text matches so many characters, its
action ends the round so, and leaves the other states. -/
def Fires (lexer : Lexer V) (states : List String) (rest : List Char) (outcome : Round V)
    (length : Nat) (states' : List String) : Prop :=
  ∃ rules rule found, lexer.active states = .ok rules ∧
    firstMatch? Rule.pattern (rest.take lexer.options.request) rules = some (rule, found) ∧
    found.whole.length = length ∧
    ∀ base, react lexer length ⟨rule, found, base⟩ states = (outcome, states')

/-- In the states the text gives the tokens, up to other states and what is left of it then. Each
match takes something. -/
inductive Lexes (lexer : Lexer V) :
    List String → List Char → List (Token V) → List String → List Char → Prop where
  | done (states : List String) (rest : List Char) : Lexes lexer states rest [] states rest
  | discard {states between states' : List String} {rest left : List Char} {tokens : List (Token V)}
      {n : Nat} : Fires lexer states rest .again (n + 1) between →
      Lexes lexer between (rest.drop (n + 1)) tokens states' left →
      Lexes lexer states rest tokens states' left
  | token {states between states' : List String} {rest left : List Char} {t : Token V}
      {tokens : List (Token V)} {n : Nat} :
      Fires lexer states rest (.answer (.ok t)) (n + 1) between →
      Lexes lexer between (rest.drop (n + 1)) tokens states' left →
      Lexes lexer states rest (t :: tokens) states' left

variable {lexer : Lexer V} {states between states' : List String} {rest middle left : List Char}
  {tokens more : List (Token V)}

/-! ## Texts -/

theorem Fires.le {outcome : Round V} {n : Nat} (h : Fires lexer states rest outcome n states') :
    n ≤ rest.length := by
  obtain ⟨rules, rule, found, -, hfirst, rfl, -⟩ := h
  have hle := length_whole_of_firstMatch? hfirst
  rw [List.length_take] at hle
  omega

namespace Lexes

theorem append (h : Lexes lexer states rest tokens between middle)
    (h' : Lexes lexer between middle more states' left) :
    Lexes lexer states rest (tokens ++ more) states' left := by
  induction h with
  | done => exact h'
  | discard hfires _ ih => exact .discard hfires (ih h')
  | token hfires _ ih => exact .token hfires (ih h')

theorem token_front {front : List Char} {t : Token V} (hfront : front ≠ [])
    (hfires : Fires lexer states (front ++ rest) (.answer (.ok t)) front.length between)
    (h : Lexes lexer between rest tokens states' left) :
    Lexes lexer states (front ++ rest) (t :: tokens) states' left := by
  obtain ⟨n, hn⟩ : ∃ n, front.length = n + 1 := by
    have hpositive : 0 < front.length := List.length_pos_iff.2 hfront
    exact ⟨front.length - 1, by omega⟩
  rw [hn] at hfires
  refine .token hfires ?_
  rw [← hn, List.drop_left]
  exact h

theorem length_le (h : Lexes lexer states rest tokens states' left) :
    tokens.length + left.length ≤ rest.length := by
  induction h with
  | done => simp
  | discard hfires _ ih =>
    rw [List.length_drop] at ih
    omega
  | token hfires _ ih =>
    have hle := hfires.le
    rw [List.length_drop] at ih
    rw [List.length_cons]
    omega

theorem uncons {t : Token V} (h : Lexes lexer states rest (t :: tokens) states' left) :
    ∃ before middle n between, Lexes lexer states rest [] before middle ∧
      Fires lexer before middle (.answer (.ok t)) (n + 1) between ∧
      Lexes lexer between (middle.drop (n + 1)) tokens states' left := by
  generalize hall : t :: tokens = all at h
  induction h with
  | done => cases hall
  | discard hfires _ ih =>
    obtain ⟨before, middle, n, between, hbefore, hmiddle⟩ := ih hall
    exact ⟨before, middle, n, between, .discard hfires hbefore, hmiddle⟩
  | token hfires hrest _ =>
    cases hall
    exact ⟨_, _, _, _, .done _ _, hfires, hrest⟩

end Lexes

/-! ## Runs -/

section

variable {ι : Type} [Input ι (List Char)] {whole : List Char} {Behind : ι → List Char → Prop}
  {run : Lexing ι}

/-- The run is in the states, with so much of the text left. -/
def Stands (whole : List Char) (Behind : ι → List Char → Prop) (states : List String)
    (rest : List Char) (run : Lexing ι) : Prop :=
  run.states = states ∧ ∃ done, whole = done ++ rest ∧ Behind run.input done

namespace Provides

theorem round_of_fires (h : Provides whole Behind) (hrun : Stands whole Behind states rest run)
    {outcome : Round V} {n : Nat} (hfires : Fires lexer states rest outcome n states') :
    ∃ run', Lexing.round lexer run = (outcome, run') ∧
      Stands whole Behind states' (rest.drop n) run' := by
  obtain ⟨hstates, done, hwhole, hbehind⟩ := hrun
  obtain ⟨rules, rule, found, hactive, hfirst, rfl, hreact⟩ := hfires
  rw [← hstates] at hactive
  obtain ⟨input, hinput, hround⟩ := h.round_of_match hbehind hwhole hactive hfirst
  rw [hstates, hreact] at hround
  refine ⟨_, hround, rfl, done ++ rest.take found.whole.length, ?_, hinput⟩
  rw [List.append_assoc, List.take_append_drop, hwhole]

theorem silent_of_lexes (h : Provides whole Behind) (hrun : Stands whole Behind states rest run)
    (hlexes : Lexes lexer states rest [] states' left) :
    ∃ rounds run', Silent lexer rounds run run' ∧ Stands whole Behind states' left run' ∧
      rounds + left.length ≤ rest.length := by
  generalize hnone : ([] : List (Token V)) = none at hlexes
  induction hlexes generalizing run with
  | done => exact ⟨0, run, silent_refl lexer run, hrun, by omega⟩
  | discard hfires _ ih =>
    obtain ⟨next, hround, hnext⟩ := h.round_of_fires hrun hfires
    obtain ⟨rounds, run', hsilent, hrun', hle⟩ := ih hnext hnone
    have hlength := hfires.le
    rw [List.length_drop] at hle
    exact ⟨rounds + 1, run', silent_of_again hround hsilent, hrun', by omega⟩
  | token => cases hnone

/-- **The next answer**, behind matches that are discarded. -/
theorem next_of_fires (h : Provides whole Behind) (hrun : Stands whole Behind states rest run)
    (hlexes : Lexes lexer states rest [] between middle) {a : Except Fault (Token V)} {n : Nat}
    (hfires : Fires lexer between middle (.answer a) n states') {limit : Nat}
    (hlimit : rest.length < limit) :
    ∃ run', Lexing.next lexer limit run = (some a, run') ∧
      Stands whole Behind states' (middle.drop n) run' := by
  obtain ⟨rounds, last, hsilent, hlast, hle⟩ := h.silent_of_lexes hrun hlexes
  obtain ⟨run', hround, hrun'⟩ := h.round_of_fires hlast hfires
  obtain ⟨spare, rfl⟩ : ∃ spare, limit = rounds + (spare + 1) := ⟨limit - rounds - 1, by omega⟩
  refine ⟨run', ?_, hrun'⟩
  rw [hsilent, next_of_answer hround]

/-- **A series gives the tokens of the text.** -/
theorem supplies_of_lexes (h : Provides whole Behind) {limit : Nat}
    (htokens : ∀ t ∈ tokens, t.isEof = false)
    (hlexes : Lexes lexer states rest tokens states' left)
    (hrun : Stands whole Behind states rest run) (hlimit : rest.length < limit) :
    ∃ run' before middle,
      Supplies limit tokens (TokenSeries.ofRun lexer run) (TokenSeries.ofRun lexer run') ∧
      Stands whole Behind before middle run' ∧ Lexes lexer before middle [] states' left ∧
      middle.length ≤ rest.length := by
  induction tokens generalizing states rest run with
  | nil => exact ⟨run, states, rest, rfl, hrun, hlexes, Nat.le_refl _⟩
  | cons t tokens ih =>
    obtain ⟨before, middle, n, between, hskipped, hfires, hrest⟩ := hlexes.uncons
    obtain ⟨next, hnext, hstands⟩ := h.next_of_fires hrun hskipped hfires hlimit
    have hle := hskipped.length_le
    have hpull : TokenSeries.pull limit (TokenSeries.ofRun lexer run) =
        (.item (.ok t), TokenSeries.ofRun lexer next) := by
      simp [TokenSeries.pull, TokenSeries.ofRun, hnext, TokenSeries.isLast,
        htokens t List.mem_cons_self]
    have hshort : (middle.drop (n + 1)).length < limit := by
      rw [List.length_drop]
      omega
    obtain ⟨run', last, end', hsupplies, hlast, hquiet, hlength⟩ :=
      ih (fun u hu => htokens u (List.mem_cons_of_mem _ hu)) hrest hstands hshort
    refine ⟨run', last, end', ⟨_, hpull, hsupplies⟩, hlast, hquiet, ?_⟩
    rw [List.length_drop] at hlength
    omega

theorem pull_of_lexes (h : Provides whole Behind) {limit : Nat} {eof : Token V}
    (heof : eof.isEof = true) (hlexes : Lexes lexer states rest [] between middle) {n : Nat}
    (hfires : Fires lexer between middle (.answer (.ok eof)) n states')
    (hrun : Stands whole Behind states rest run) (hlimit : rest.length < limit) :
    ∃ ended, Supplies limit [eof] (TokenSeries.ofRun lexer run) ended ∧
      Supply.pull limit ended = (.ended, ended) := by
  obtain ⟨run', hnext, -⟩ := h.next_of_fires hrun hlexes hfires hlimit
  refine ⟨⟨lexer, run', true⟩, ⟨⟨lexer, run', true⟩, ?_, rfl⟩, ?_⟩
  · show TokenSeries.pull limit (TokenSeries.ofRun lexer run) = _
    simp [TokenSeries.pull, TokenSeries.ofRun, hnext, TokenSeries.isLast, heof]
  · show TokenSeries.pull limit (⟨lexer, run', true⟩ : TokenSeries ι V) = _
    simp [TokenSeries.pull]

end Provides

end

end Lexis
