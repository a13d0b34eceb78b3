import Lexis.Proofs.Reader.Account

/-!
# Reading depends on the text only

A reader sees its input through a window. Where the window takes in the whole text, it shows all
that is left of it, wherever the characters come from and in whichever pieces they are fetched. So
two readers of the same constructs over the same text stay at the same place: the same rules fire at
the same positions, those of attached constructs among them, and each read has the same value or
fault.

That holds of any two inputs that show a reader the same (`Reader.SameView`); what a handler does is
an induction over the tree that it is, and what reading does is one over the rounds.

Principal results:

* `Provides.sameView` — two inputs of a text under windows that cover it;
* `Reader.handle_alike` — a handler over both inputs;
* `Reader.read_alike` — reading a construct of both inputs;
* `TextMedium.outcomes_agree` — any number of reads, from memory and from a source.
-/

namespace Lexis

open Pattern Text

variable {σ v ι ι' : Type} [Input ι (List Char)] [Input ι' (List Char)]

namespace Reader

/-- The reader with another window on its input. -/
def peeking (r : Reader σ v) (window : Nat) : Reader σ v := { r with window := window }

/-- Inputs in the relation show a reader the same, each through a window of its own. -/
structure SameView (window window' : Nat) (R : ι → ι' → Prop) : Prop where
  position : ∀ {a b}, R a b → Input.position a = Input.position b
  peek : ∀ {a b}, R a b → ∃ shown a' b', Input.peek window a = (.ok shown, a') ∧
    Input.peek window' b = (.ok shown, b') ∧ R a' b'
  skip : ∀ {a b}, R a b → ∀ count, ∃ passed a' b', Input.skip count a = (.ok passed, a') ∧
    Input.skip count b = (.ok passed, b') ∧ R a' b'

/-- The same comes of two inputs, and they are in the relation again. -/
def Alike {α : Type} (R : ι → ι' → Prop) (out : α × ι) (out' : α × ι') : Prop :=
  out.1 = out'.1 ∧ R out.2 out'.2

/-- Two ways to read a construct, of one kind of input and of the other, come to the same, and the
same happens in them. -/
def ReadsAlike (R : ι → ι' → Prop) (read : Nat → σ → ι → Option (Except Fault v) × ι)
    (events : Nat → σ → ι → List Event) (read' : Nat → σ → ι' → Option (Except Fault v) × ι')
    (events' : Nat → σ → ι' → List Event) : Prop :=
  ∀ number gathered a b, R a b →
    Alike R (read number gathered a) (read' number gathered b) ∧
      events number gathered a = events' number gathered b

/-- What has come of a read: what has happened, the answer, if it came within the rounds, and where
the cursor is then. -/
structure Outcome (v : Type) where
  events : List Event
  answer : Option (Except Fault v)
  position : Nat

/-- What has come of a read. -/
def Call.outcome (call : Call ι v) : Outcome v :=
  ⟨call.events, call.answer, Input.position call.after⟩

/-- Reads one after the other whatever the answers are, each within so many rounds, of a construct
on top of what is gathered. -/
def outcomes (r : Reader σ v) (asked : List (Nat × Nat × σ)) (input : ι) : List (Outcome v) :=
  (r.calls asked input).map Call.outcome

section

variable {R : ι → ι' → Prop} {read : Nat → σ → ι → Option (Except Fault v) × ι}
  {events : Nat → σ → ι → List Event} {read' : Nat → σ → ι' → Option (Except Fault v) × ι'}
  {events' : Nat → σ → ι' → List Event}

/-- **A handler** does the same over both inputs, if reading a construct does. -/
theorem handle_alike (hposition : ∀ {a b}, R a b → Input.position a = Input.position b)
    (hread : ReadsAlike R read events read' events') (construct : Nat) (handling : Handling σ v) :
    ∀ a b, R a b → Alike R (handle read handling a) (handle read' handling b) ∧
      handleEvents construct read events handling a =
        handleEvents construct read' events' handling b := by
  induction handling with
  | finish outcome =>
    intro a b hab
    cases outcome <;> exact ⟨⟨rfl, hab⟩, rfl⟩
  | locate k ih =>
    intro a b hab
    simp only [handle, handleEvents, hposition hab]
    exact ih _ a b hab
  | attach attached gathered k ih =>
    intro a b hab
    obtain ⟨⟨hanswer, hafter⟩, hevents⟩ := hread attached gathered a b hab
    unfold handle handleEvents
    rw [hevents]
    generalize read attached gathered a = out at hanswer hafter
    generalize read' attached gathered b = out' at hanswer hafter
    obtain ⟨answer, after⟩ := out
    obtain ⟨answer', after'⟩ := out'
    obtain rfl : answer = answer' := hanswer
    cases answer with
    | none => exact ⟨⟨rfl, hafter⟩, rfl⟩
    | some answer =>
      obtain ⟨halike, hmore⟩ := ih answer after after' hafter
      exact ⟨halike, congrArg _ hmore⟩

variable {window window' : Nat}

/-- **Reading a construct** comes to the same over both inputs. -/
theorem read_alike (h : SameView window window' R) (r : Reader σ v) (limit : Nat) :
    ReadsAlike R ((r.peeking window).read limit) ((r.peeking window).events limit)
      ((r.peeking window').read limit) ((r.peeking window').events limit) := by
  induction limit with
  | zero => exact fun number gathered a b hab => ⟨⟨rfl, hab⟩, rfl⟩
  | succ limit ih =>
    intro number gathered a b hab
    obtain ⟨shown, a₁, b₁, hpeek, hpeek', hab₁⟩ := h.peek hab
    have hbase := h.position hab
    unfold read events
    simp only [peeking] at ih ⊢
    simp only [hpeek, hpeek', hbase]
    cases choose (r.construct number) shown with
    | error fault => exact ⟨⟨rfl, hab₁⟩, by simp only [h.position hab₁]⟩
    | ok chosen =>
      obtain ⟨handler, found⟩ := chosen
      obtain ⟨passed, a₂, b₂, hskip, hskip', hab₂⟩ := h.skip hab₁ (unitsIn (List Char) found.whole)
      obtain ⟨⟨houtcome, hafter⟩, hevents⟩ :=
        handle_alike h.position ih number (handler gathered found) a₂ b₂ hab₂
      simp only [hskip, hskip', hevents]
      generalize handle _ (handler gathered found) a₂ = out at houtcome hafter
      generalize handle _ (handler gathered found) b₂ = out' at houtcome hafter
      obtain ⟨outcome, after⟩ := out
      obtain ⟨outcome', after'⟩ := out'
      obtain rfl : outcome = outcome' := houtcome
      -- only a handler that asks for more leads to another round, unless the cursor has not moved
      rcases outcome with _ | fault | ⟨step, gathered'⟩
      · exact ⟨⟨rfl, hafter⟩, rfl⟩
      · exact ⟨⟨rfl, hafter⟩, rfl⟩
      · cases step with
        | done value => exact ⟨⟨rfl, hafter⟩, rfl⟩
        | more =>
          simp only [h.position hafter]
          split
          · exact ⟨⟨rfl, hafter⟩, rfl⟩
          · obtain ⟨halike, hmore⟩ := ih number gathered' after after' hafter
            exact ⟨halike, by rw [hmore]⟩

theorem outcomes_eq (h : SameView window window' R) (r : Reader σ v)
    (asked : List (Nat × Nat × σ)) : ∀ a b, R a b →
      (r.peeking window).outcomes asked a = (r.peeking window').outcomes asked b := by
  induction asked with
  | nil => exact fun a b hab => rfl
  | cons first asked ih =>
    obtain ⟨limit, number, gathered⟩ := first
    intro a b hab
    obtain ⟨⟨hanswer, hafter⟩, hevents⟩ := read_alike h r limit number gathered a b hab
    have hrest := ih _ _ hafter
    simp only [outcomes] at hrest
    simp only [outcomes, calls, List.map_cons, Call.outcome, hevents, hanswer, h.position hafter,
      hrest]

end

end Reader

/-- **Two inputs of one text** show a reader the same through windows that cover it. -/
theorem Provides.sameView {whole : List Char} {Behind : ι → List Char → Prop}
    {Behind' : ι' → List Char → Prop} (h : Provides whole Behind) (h' : Provides whole Behind')
    {window window' : Nat} (hwindow : whole.length ≤ window) (hwindow' : whole.length ≤ window') :
    Reader.SameView window window' fun a b => ∃ done, Behind a done ∧ Behind' b done where
  position := by
    rintro a b ⟨done, ha, hb⟩
    rw [h.position ha, h'.position hb]
  peek := by
    rintro a b ⟨done, ha, hb⟩
    obtain ⟨rest, hrest⟩ := h.behind ha
    obtain ⟨a', hpeek, ha'⟩ := h.peek ha hrest.symm window
    obtain ⟨b', hpeek', hb'⟩ := h'.peek hb hrest.symm window'
    have hlength : rest.length ≤ whole.length := by simp [← hrest]
    rw [List.take_of_length_le (by omega)] at hpeek hpeek'
    exact ⟨rest, a', b', hpeek, hpeek', done, ha', hb'⟩
  skip := by
    rintro a b ⟨done, ha, hb⟩ count
    obtain ⟨rest, hrest⟩ := h.behind ha
    obtain ⟨a', hskip, ha'⟩ := h.skip ha hrest.symm count
    obtain ⟨b', hskip', hb'⟩ := h'.skip hb hrest.symm count
    exact ⟨_, a', b', hskip, hskip', _, ha', hb'⟩

/-- Where the characters of a text come from: from memory, or from a source that reads fully and
refuses nothing, in blocks of some size. -/
inductive TextMedium (text : List Char) where
  | memory
  | fetched (source : Source) (blockSize : Nat) (hreads : source.ReadsFully)
    (hbytes : source.bytes = encode text)

namespace TextMedium

variable {text : List Char}

/-- What has come of reads of the medium, from its first character on. -/
def outcomes (m : TextMedium text) (r : Reader σ v) (asked : List (Nat × Nat × σ)) :
    List (Reader.Outcome v) :=
  match m with
  | memory => r.outcomes asked (TextCursor.ofText text)
  | fetched source blockSize _ _ => r.outcomes asked (BufferedText.ofSource source blockSize)

theorem outcomes_of_provides {Behind : ι → List Char → Prop} (h : Provides text Behind) {input : ι}
    (hinput : Behind input []) (m : TextMedium text) (r : Reader σ v) {window window' : Nat}
    (hwindow : text.length ≤ window) (hwindow' : text.length ≤ window')
    (asked : List (Nat × Nat × σ)) :
    (r.peeking window).outcomes asked input = m.outcomes (r.peeking window') asked := by
  cases m with
  | memory =>
    have hview := h.sameView (TextCursor.provides text) hwindow hwindow'
    exact Reader.outcomes_eq hview r asked _ _ ⟨[], hinput, TextCursor.at_ofText text⟩
  | fetched source blockSize hreads hbytes =>
    have hview := h.sameView (BufferedText.provides hreads hbytes) hwindow hwindow'
    exact Reader.outcomes_eq hview r asked _ _
      ⟨[], hinput, BufferedText.at_ofSource source blockSize⟩

/-- **What is read depends on the text only.** For any constructs and handlers, over any two media
of a text and under any two windows that are not shorter than the text in characters, reads one
after the other, going on after faults, come to the same: the same rules fire at the same positions,
at any depth, and each read has the same value or fault, or none within its rounds, and ends at the
same position. -/
theorem outcomes_agree (r : Reader σ v) (m m' : TextMedium text) {window window' : Nat}
    (hwindow : text.length ≤ window) (hwindow' : text.length ≤ window')
    (asked : List (Nat × Nat × σ)) :
    m.outcomes (r.peeking window) asked = m'.outcomes (r.peeking window') asked := by
  cases m with
  | memory =>
    exact outcomes_of_provides (TextCursor.provides text) (TextCursor.at_ofText text) m' r hwindow
      hwindow' asked
  | fetched source blockSize hreads hbytes =>
    exact outcomes_of_provides (BufferedText.provides hreads hbytes)
      (BufferedText.at_ofSource source blockSize) m' r hwindow hwindow' asked

/-- Lists in parentheses with a character of two bytes behind the first one, where the second read
stays: fetched in blocks that end inside this character, and from memory. -/
theorem outcomes_agree_nested :
    let text := "())é(".toList
    let asked := [(9, 0, 0), (9, 0, 0)]
    let source := Source.ofBytes (encode text)
    let fetched : TextMedium text := .fetched source 2 (Source.readsFully_ofBytes _) rfl
    let inMemory : TextMedium text := .memory
    text.length ≤ 5 ∧ text.length ≤ 9 ∧
      fetched.outcomes (Reader.nested.peeking 5) asked =
        inMemory.outcomes (Reader.nested.peeking 9) asked ∧
      (inMemory.outcomes (Reader.nested.peeking 9) asked).map
        (fun outcome => (outcome.answer.map Except.toOption, outcome.position)) =
          [(some (some 1), 3), (some none, 3)] := by
  intro text asked source fetched inMemory
  have hnarrow : text.length ≤ 5 := by decide
  have hwide : text.length ≤ 9 := by decide
  exact ⟨hnarrow, hwide, outcomes_agree Reader.nested fetched inMemory hnarrow hwide asked,
    by decide +kernel⟩

end TextMedium

end Lexis
