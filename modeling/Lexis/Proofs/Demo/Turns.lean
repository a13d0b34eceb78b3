import Lexis.Proofs.Demo.Rules
import Lexis.Proofs.Lexer.Rounds
import Mathlib.Tactic.SplitIfs

/-!
# Turns of the demonstration grammar

What the lexer of the grammar can do in one of the two states that it is ever in, whatever the bytes
are. A rule that fires takes at least one character, unless it ends the tokens; so an answer comes
within as many rounds as there are characters left, and one more.

Principal results:

* `reacts_default`, `reacts_string` — a rule that fires, outside strings and inside one;
* `round_brings` — one round;
* `next_brings`, `pull_brings` — the next answer.
-/

namespace Lexis.Demo

open Pattern Text Lexing

/-- The faults that the program ends with. -/
inductive Halts : Fault → Prop where
  | noMatch (state shown : String) : Halts (.noMatch state shown)
  | windowExhausted (state : String) (window : Nat) : Halts (.windowExhausted state window)
  | undecodable (position : Nat) : Halts (.undecodable position)
  | unbalancedEnd : Halts (.unbalancedEnd arrayGroup)
  | unclosedSpans (depth : Nat) : Halts (.unclosedSpans depth)

/-- The token that is given in the states, and the states after it. -/
inductive Turn : List String → Token Value → List String → Prop where
  | eof : Turn [] (.eof .null) []
  | number (value : Value) : Turn [] ⟨some "NUMBER", value⟩ []
  | word (value : Value) : Turn [] ⟨some "WORD", value⟩ []
  | openArray : Turn [] (.start (.text arrayGroup)) []
  | closeArray : Turn [] (.finish (.text arrayGroup)) []
  | openString : Turn [] (.start (.text stringGroup)) [stringState]
  | char (value : Value) : Turn [stringState] ⟨some "CHAR", value⟩ [stringState]
  | closeString : Turn [stringState] (.finish (.text stringGroup)) []

/-- What a rule that takes the text makes of a round, and the states after it. -/
inductive Reacts (states : List String) (taken : List Char) : Round Value × List String → Prop where
  | gives {token : Token Value} {states' : List String} : Turn states token states' →
      (taken = [] → token.isEof = true) → Reacts states taken (.answer (.ok token), states')
  | discards : taken ≠ [] → Reacts states taken (.again, states)
  | tooLong (state : String) (states' : List String) :
      Reacts states taken (.answer (.error (.windowExhausted state 256)), states')

/-! ## Rules that fire -/

variable {states states' : List String} {text : List Char} {rule : Rule Value} {found : Match}

/-- A rule whose action gives a token gives it, or finds it too long. -/
theorem reacts_of_gives {base : Nat} {moves : List Move} {token : Token Value}
    (haction : rule.action found ⟨states, base⟩ = ⟨moves, some token⟩)
    (hnamed : token.isIgnorable = false)
    (hturn : Turn states token (Move.run false states moves).1)
    (htaken : found.whole = [] → token.isEof = true) :
    Reacts states found.whole
      (react grammar found.whole.length ⟨rule, found, base⟩ states) := by
  unfold react
  simp only [haction, hnamed, window_grammar, Bool.false_eq_true, if_false]
  split
  · exact .tooLong _ _
  · exact .gives hturn htaken

theorem front_ne_nil {stop : Nat} (htext : text ≠ []) (hstop : 0 < stop) :
    (front text stop).whole ≠ [] := by
  rw [whole_front, ne_eq, List.take_eq_nil_iff, not_or]
  exact ⟨Nat.ne_of_gt hstop, htext⟩

theorem ne_nil_of_any {p : Char → Bool} (h : text.head?.any p = true) : text ≠ [] := by
  rintro rfl
  cases h

theorem length_takeWhile_pos {p : Char → Bool} (h : text.head?.any p = true) :
    0 < (text.takeWhile p).length := by
  cases text with
  | nil => cases h
  | cons c text =>
    have hc : p c = true := by simpa using h
    simp [hc]

theorem reacts_default (h : firstMatch? Rule.pattern text defaultRules = some (rule, found))
    (base : Nat) :
    Reacts [] found.whole (react grammar found.whole.length ⟨rule, found, base⟩ []) := by
  rw [firstMatch?_default] at h
  split_ifs at h with htext hgap hnumber hword hquote hopen hclose
  · cases h
    exact reacts_of_gives rfl rfl .eof fun _ => rfl
  · cases h
    have htaken := front_ne_nil htext (length_takeWhile_pos hgap)
    have hlength := mt List.length_eq_zero_iff.1 htaken
    unfold react
    simp only [gapRule, compiled, discarding, hlength, false_and, if_false]
    exact .discards htaken
  · cases h
    have htaken := front_ne_nil htext (Nat.add_pos_right
      (text.length - (unsigned text).length) (length_takeWhile_pos hnumber))
    exact reacts_of_gives rfl rfl (.number _) fun hnone => absurd hnone htaken
  · cases h
    have htaken := front_ne_nil htext (length_takeWhile_pos hword)
    exact reacts_of_gives rfl rfl (.word _) fun hnone => absurd hnone htaken
  · cases h
    have htaken := front_ne_nil htext Nat.one_pos
    exact reacts_of_gives rfl rfl .openString fun hnone => absurd hnone htaken
  · cases h
    have htaken := front_ne_nil htext Nat.one_pos
    exact reacts_of_gives rfl rfl .openArray fun hnone => absurd hnone htaken
  · cases h
    have htaken := front_ne_nil htext Nat.one_pos
    exact reacts_of_gives rfl rfl .closeArray fun hnone => absurd hnone htaken

theorem reacts_string (h : firstMatch? Rule.pattern text stringRules = some (rule, found))
    (base : Nat) : Reacts [stringState] found.whole
      (react grammar found.whole.length ⟨rule, found, base⟩ [stringState]) := by
  rw [firstMatch?_string] at h
  split_ifs at h with hescape hunquote hplain
  · cases h
    have htext := ne_nil_of_any (Bool.and_eq_true_iff.1 hescape).1
    have htaken : (escaped text).whole ≠ [] := front_ne_nil htext Nat.two_pos
    exact reacts_of_gives rfl rfl (.char _) fun hnone => absurd hnone htaken
  · cases h
    have htaken := front_ne_nil (ne_nil_of_any hunquote) Nat.one_pos
    exact reacts_of_gives rfl rfl .closeString fun hnone => absurd hnone htaken
  · cases h
    have htaken := front_ne_nil (ne_nil_of_any hplain) (length_takeWhile_pos hplain)
    exact reacts_of_gives rfl rfl (.char _) fun hnone => absurd hnone htaken

/-! ## Rounds -/

/-- The states that the lexer of the grammar is ever in. -/
def Known (states : List String) : Prop := states = [] ∨ states = [stringState]

theorem reacts_of_known (hstates : Known states) : ∃ rules, grammar.active states = .ok rules ∧
    ∀ {text rule found}, firstMatch? Rule.pattern text rules = some (rule, found) → ∀ base,
      Reacts states found.whole (react grammar found.whole.length ⟨rule, found, base⟩ states) := by
  rcases hstates with rfl | rfl
  · exact ⟨defaultRules, active_default, reacts_default⟩
  · exact ⟨stringRules, active_string, reacts_string⟩

variable {source : Source} {done : List Char} {run : Lexing BufferedText}

/-- What an answer is: a fault, or a token. What is taken on the way to a token is not nothing, unless
it ends the tokens. -/
inductive Brings (source : Source) (done : List Char) (states : List String) :
    Except Fault (Token Value) → Lexing BufferedText → Prop where
  | fault {fault : Fault} (after : Lexing BufferedText) : Halts fault →
      Brings source done states (.error fault) after
  | token {token : Token Value} {input : BufferedText} {states' : List String}
      {taken : List Char} : Turn states token states' → (taken = [] → token.isEof = true) →
      input.At source (done ++ taken) → Brings source done states (.ok token) ⟨input, states'⟩

theorem Brings.before {taken : List Char} {a : Except Fault (Token Value)}
    {after : Lexing BufferedText} (h : Brings source (done ++ taken) states a after)
    (htaken : taken ≠ []) : Brings source done states a after := by
  cases h with
  | fault _ hhalts => exact .fault after hhalts
  | @token _ _ _ more hturn _ hinput =>
    rw [List.append_assoc] at hinput
    refine .token hturn (fun hnone => ?_) hinput
    exact absurd (List.append_eq_nil_iff.1 hnone).1 htaken

/-- **One round** brings an answer or discards a match that takes something. -/
theorem round_brings (hreads : ∀ reason, ¬source.Refuses reason)
    (hrun : run.input.At source done) (hstates : Known run.states) :
    (∃ a after, round grammar run = (.answer a, after) ∧
      Brings source done run.states a after) ∨
    ∃ taken input, taken ≠ [] ∧ input.At source (done ++ taken) ∧
      round grammar run = (.again, ⟨input, run.states⟩) := by
  obtain ⟨rules, hactive, hreacts⟩ := reacts_of_known hstates
  rcases BufferedText.round_cases hreads proper_grammar hrun hactive with
    ⟨fault, after, hround, ⟨shown, rfl⟩ | ⟨position, rfl⟩⟩ |
      ⟨text, rule, found, input, hfirst, hinput, hround⟩
  · exact Or.inl ⟨_, after, hround, .fault after (.noMatch _ shown)⟩
  · exact Or.inl ⟨_, after, hround, .fault after (.undecodable position)⟩
  · have hreact := hreacts hfirst done.length
    generalize react grammar found.whole.length ⟨rule, found, done.length⟩ run.states = reacted
      at hreact hround
    cases hreact with
    | gives hturn htaken => exact Or.inl ⟨_, _, hround, .token hturn htaken hinput⟩
    | discards htaken => exact Or.inr ⟨found.whole, input, htaken, hinput, hround⟩
    | tooLong state states' => exact Or.inl ⟨_, _, hround, .fault _ (.windowExhausted state 256)⟩

/-! ## Answers -/

/-- How many characters of a source are left. -/
def charsLeft (source : Source) (done : List Char) : Nat :=
  (decode source.bytes).1.length - done.length

theorem charsLeft_append {input : BufferedText} {taken : List Char}
    (hinput : input.At source (done ++ taken)) :
    charsLeft source (done ++ taken) + taken.length = charsLeft source done := by
  have hwhole := ((BufferedText.tracks source).behind hinput).length_le
  unfold charsLeft
  rw [List.length_append] at hwhole ⊢
  omega

/-- **The next answer** comes within as many rounds as there are characters left, and one more. -/
theorem next_brings (hreads : ∀ reason, ¬source.Refuses reason) {limit : Nat}
    (hlimit : charsLeft source done < limit) (hrun : run.input.At source done)
    (hstates : Known run.states) : ∃ a after, next grammar limit run = (some a, after) ∧
      Brings source done run.states a after := by
  induction limit generalizing run done with
  | zero => exact absurd hlimit (Nat.not_lt_zero _)
  | succ limit ih =>
    rcases round_brings hreads hrun hstates with
      ⟨a, after, hround, hbrings⟩ | ⟨taken, input, htaken, hinput, hround⟩
    · exact ⟨a, after, next_of_answer hround limit, hbrings⟩
    · have hleft := charsLeft_append hinput
      have hpositive := List.length_pos_iff.2 htaken
      have hmoved : (Lexing.mk input run.states).input.At source (done ++ taken) := hinput
      obtain ⟨a, after, hnext, hbrings⟩ := ih (by omega) hmoved hstates
      exact ⟨a, after, (next_of_again hround limit).trans hnext, hbrings.before htaken⟩

theorem pull_brings (hreads : ∀ reason, ¬source.Refuses reason) {limit : Nat}
    (hlimit : charsLeft source done < limit) (hrun : run.input.At source done)
    (hstates : Known run.states) : ∃ a after,
      Supply.pull limit (TokenSeries.ofRun grammar run) =
        (.item a, ⟨grammar, after, TokenSeries.isLast a⟩) ∧
      Brings source done run.states a after := by
  obtain ⟨a, after, hnext, hbrings⟩ := next_brings hreads hlimit hrun hstates
  refine ⟨a, after, ?_, hbrings⟩
  simp [Supply.pull, TokenSeries.pull, TokenSeries.ofRun, hnext]

end Lexis.Demo
