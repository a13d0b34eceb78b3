import Lexis.Demo.Grammar
import Lexis.Proofs.Pattern.Anchor
import Lexis.Proofs.Pattern.Shapes
import Lexis.Proofs.Lexer.Choice

/-!
# The rules of the demonstration grammar

The grammar has rules of simple shapes only, so that the next character or two decide which of them
is the first one to match, and how far it does: one equation for the default rules and one for those
inside a string.

Principal results:

* `lexer_eq` — the grammar with its compiled patterns;
* `firstMatch?_default`, `firstMatch?_string` — the rule that matches first.
-/

namespace Lexis.Demo

open Pattern Text Lexing

/-! ## The grammar -/

/-- Blanks of any kind and commas. -/
def gapSet : CharSet := .union (.named true .space) (.single ',')

/-- Digits of any script. -/
def digitSet : CharSet := .named true .digit

/-- Letters, digits and what else belongs to words. -/
def wordSet : CharSet := .named true .word

/-- Any character but those that are escaped in a string. -/
def plainSet : CharSet := .compl (.union (.single '"') (.single '\\'))

/-- A rule by its pattern and the program that this is compiled to. -/
def compiled (source : String) (program : Program) (action : Action Value) : Rule Value :=
  ⟨source, ⟨anchor source, program⟩, action⟩

def endRule : Rule Value := compiled "$" .atEnd (giving fun _ => .eof .null)

def gapRule : Rule Value := compiled "[\\s,]+" (.oneOrMore gapSet) discarding

def numberRule : Rule Value :=
  compiled "-?\\d+" (.signed (.single '-') digitSet) (giving fun m => ⟨some "NUMBER", wholeNumber m⟩)

def wordRule : Rule Value :=
  compiled "\\w+" (.oneOrMore wordSet) (giving fun m => ⟨some "WORD", wholeText m⟩)

def quoteRule : Rule Value :=
  compiled "\"" (.single (.single '"')) fun _ _ =>
    ⟨[.enter stringState], some (.start (.text stringGroup))⟩

def openRule : Rule Value :=
  compiled "\\[" (.single (.single '[')) (giving fun _ => .start (.text arrayGroup))

def closeRule : Rule Value :=
  compiled "\\]" (.single (.single ']')) (giving fun _ => .finish (.text arrayGroup))

def escapeRule : Rule Value :=
  compiled "\\\\(.)" (.pair (.single '\\') (.compl (.single '\n')))
    (giving fun m => ⟨some "CHAR", .text (String.ofList ((m.group? 1).getD []))⟩)

def unquoteRule : Rule Value :=
  compiled "\"" (.single (.single '"')) fun _ _ =>
    ⟨[.leave], some (.finish (.text stringGroup))⟩

def plainRule : Rule Value :=
  compiled "[^\"\\\\]+" (.oneOrMore plainSet) (giving fun m => ⟨some "CHAR", wholeText m⟩)

def defaultRules : List (Rule Value) :=
  [endRule, gapRule, numberRule, wordRule, quoteRule, openRule, closeRule]

def stringRules : List (Rule Value) := [escapeRule, unquoteRule, plainRule]

/-- The lexer of the grammar. -/
def grammar : Lexer Value := ⟨defaultRules, [(stringState, stringRules)], .standard⟩

theorem lexer_eq : lexer = .ok grammar := rfl

/-- The series of tokens of an input by a lexer and a reducer. -/
def series {ι : Type} [Input ι (List Char)] (lexer : Lexer Value) (r : Reducer Value) (input : ι) :
    ReducedSeries (TokenSeries ι Value) Value :=
  .ofRun r (Reducing.start (TokenSeries.ofRun lexer (Lexing.start input [])) [])

theorem proper_grammar : grammar.Proper :=
  Lexer.proper_of_build (show ∀ d ∈ declarations, d.Proper by decide) lexer_eq

theorem active_default : grammar.active [] = .ok defaultRules := rfl

theorem active_string : grammar.active [stringState] = .ok stringRules := rfl

theorem request_grammar : grammar.options.request = 257 := by decide

theorem window_grammar : grammar.options.window = 256 := rfl

/-! ## The rule that matches first -/

/-- A match of so many characters in front of the text. -/
def front (text : List Char) (stop : Nat) : Match := ⟨text, ⟨0, stop, []⟩, []⟩

@[simp] theorem whole_front (text : List Char) (stop : Nat) : (front text stop).whole = text.take stop :=
  rfl

/-- What is left of a text behind a sign. -/
def unsigned (text : List Char) : List Char :=
  if text.head?.any (CharSet.single '-').contains then text.tail else text

theorem contains_single (c d : Char) : (CharSet.single c).contains d = (d == c) := by
  rw [Bool.eq_iff_iff]
  simp only [CharSet.single, CharSet.contains, Bool.and_eq_true, decide_eq_true_eq, beq_iff_eq]
  constructor
  · intro h
    exact Char.le_antisymm h.2 h.1
  · rintro rfl
    exact ⟨Char.le_refl d, Char.le_refl d⟩

theorem contains_digit_of_sign (c : Char) (h : (CharSet.single '-').contains c = true) :
    digitSet.contains c = false := by
  rw [contains_single, beq_iff_eq] at h
  rw [h]
  decide

/-- **Outside strings.** -/
theorem firstMatch?_default (text : List Char) :
    firstMatch? Rule.pattern text defaultRules =
      if text = [] then some (endRule, front text 0)
      else if text.head?.any gapSet.contains then
        some (gapRule, front text (text.takeWhile gapSet.contains).length)
      else if (unsigned text).head?.any digitSet.contains then
        some (numberRule, front text (text.length - (unsigned text).length +
          ((unsigned text).takeWhile digitSet.contains).length))
      else if text.head?.any wordSet.contains then
        some (wordRule, front text (text.takeWhile wordSet.contains).length)
      else if text.head?.any (CharSet.single '"').contains then some (quoteRule, front text 1)
      else if text.head?.any (CharSet.single '[').contains then some (openRule, front text 1)
      else if text.head?.any (CharSet.single ']').contains then some (closeRule, front text 1)
      else none := by
  have hend := match?_atEnd (p := endRule.pattern) rfl text
  have hgap := match?_oneOrMore (p := gapRule.pattern) (s := gapSet) rfl text
  have hnumber :=
    match?_signed (p := numberRule.pattern) (s := digitSet) rfl contains_digit_of_sign text
  have hword := match?_oneOrMore (p := wordRule.pattern) (s := wordSet) rfl text
  have hquote := match?_single (p := quoteRule.pattern) (s := .single '"') rfl text
  have hopen := match?_single (p := openRule.pattern) (s := .single '[') rfl text
  have hclose := match?_single (p := closeRule.pattern) (s := .single ']') rfl text
  unfold defaultRules
  rw [firstMatch?_cons_of_ite hend, firstMatch?_cons_of_ite hgap, firstMatch?_cons_of_ite hnumber,
    firstMatch?_cons_of_ite hword, firstMatch?_cons_of_ite hquote, firstMatch?_cons_of_ite hopen,
    firstMatch?_cons_of_ite hclose]
  rfl

/-- The match of an escaped character. -/
def escaped (text : List Char) : Match := ⟨text, ⟨0, 2, [some 1, some 2]⟩, []⟩

/-- **Inside a string.** -/
theorem firstMatch?_string (text : List Char) :
    firstMatch? Rule.pattern text stringRules =
      if text.head?.any (CharSet.single '\\').contains &&
          text.tail.head?.any (CharSet.compl (.single '\n')).contains then
        some (escapeRule, escaped text)
      else if text.head?.any (CharSet.single '"').contains then some (unquoteRule, front text 1)
      else if text.head?.any plainSet.contains then
        some (plainRule, front text (text.takeWhile plainSet.contains).length)
      else none := by
  have hescape := match?_pair (p := escapeRule.pattern) rfl text
  have hunquote := match?_single (p := unquoteRule.pattern) (s := .single '"') rfl text
  have hplain := match?_oneOrMore (p := plainRule.pattern) (s := plainSet) rfl text
  unfold stringRules
  rw [firstMatch?_cons_of_ite hescape, firstMatch?_cons_of_ite hunquote,
    firstMatch?_cons_of_ite hplain]
  rfl

end Lexis.Demo
