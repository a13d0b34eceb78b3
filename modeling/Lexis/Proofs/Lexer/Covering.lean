import Lexis.Proofs.Input.Providing
import Lexis.Proofs.Lexer.Undecodable
import Mathlib.Data.List.Forall2

/-!
# Windows that cover the text

Where a window is longer than the whole text, each round sees all that is left of the text and that
it ends there. Then nothing is left of the kind of the input in what a round does: the text is the
same whether its bytes or its characters are counted, whether it is in memory or fetched in blocks,
and under which of such windows; only the positions are in units of their own, and an action that
does not look at them cannot tell. So two runs over one text stay at the same place and answer
alike, also after faults.

The rules have to match where the window begins. Where the anchor does not bind a whole pattern, a
match behind the cursor moves a run by units, and into a character if they are bytes.

Principal results:

* `Covers.round_of_match`, `Covers.round_of_none` — a round over a text that its window covers;
* `Covers.round`, `Covers.outcomes` — two runs over one text;
* `Medium.outcomes_alike` — the four kinds of inputs;
* `Medium.not_outcomes_alike_of_unanchored` — a pattern that the anchor does not bind as a whole.
-/

namespace Lexis

open Pattern Text

variable {V : Type}

/-! ## Rules that do not look at positions -/

/-- The action does the same at all positions. -/
def Action.IgnoresPosition (action : Action V) : Prop :=
  ∀ found states position position',
    action found ⟨states, position⟩ = action found ⟨states, position'⟩

def Lexer.IgnoresPosition (lexer : Lexer V) : Prop :=
  lexer.All fun rule => Action.IgnoresPosition rule.action

/-- A declaration whose action, if it has one, does not look at positions. -/
def Declaration.IgnoresPosition : Declaration V → Prop
  | .options _ => True
  | .rule _ action => Action.IgnoresPosition action
  | .stateRule _ _ action => Action.IgnoresPosition action

theorem Lexer.ignoresPosition_of_build {ds : List (Declaration V)} {lexer : Lexer V}
    (hds : ∀ d ∈ ds, d.IgnoresPosition) (h : Lexer.build ds = .ok lexer) :
    lexer.IgnoresPosition := by
  apply Lexer.all_of_build _ h
  intro d hd
  have hignores := hds d hd
  cases d with
  | options o => trivial
  | rule source action =>
    intro rule hrule
    rw [Rule.action_of_compile hrule]
    exact hignores
  | stateRule state source action =>
    intro rule hrule
    rw [Rule.action_of_compile hrule]
    exact hignores

/-! ## Windows -/

/-- The lexer with another look at its input. -/
def Lexer.under (lexer : Lexer V) (o : Options) : Lexer V := { lexer with options := o }

theorem Options.le_window_of_lt_request {o : Options} {n : Nat} (h : n < o.request) :
    n ≤ o.window := by
  unfold Options.request at h
  split at h
  · have hmin := Nat.min_le_left (o.window + 1) requestLimit
    omega
  · omega

/-- What is found in the rest of a text is no longer than a window that covers the text. -/
theorem unitsIn_le_window {κ : Type} [Chunk κ] [MeasuredText κ] {text done rest found : List Char}
    {o : Options} (ho : byteLength text < o.request) (htext : text = done ++ rest)
    (hfront : found <+: rest) : unitsIn κ found ≤ o.window := by
  have hunits : unitsIn κ found ≤ byteLength found := MeasuredText.unitsIn_le found
  have hrest : byteLength found ≤ byteLength rest :=
    measure_le_of_sublist byteLength_append hfront.sublist
  have hwindow : byteLength text ≤ o.window := Options.le_window_of_lt_request ho
  rw [htext, byteLength_append] at hwindow
  omega

/-- A rule that does not look at positions makes the same of a round whatever the units are, if its
match fits into both windows. -/
theorem Lexing.react_congr (lexer : Lexer V) {o o' : Options} {units units' : Nat} {rule : Rule V}
    (hrule : Action.IgnoresPosition rule.action) (hzero : units = 0 ↔ units' = 0)
    (hfits : units ≤ o.window) (hfits' : units' ≤ o'.window) (found : Match) (base base' : Nat)
    (states : List String) :
    react (lexer.under o) units ⟨rule, found, base⟩ states =
      react (lexer.under o') units' ⟨rule, found, base'⟩ states := by
  have hshort : ¬o.window < units := by omega
  have hshort' : ¬o'.window < units' := by omega
  simp only [react, Lexer.under, hrule found states base base', hzero, hshort, hshort', if_false]

/-! ## Inputs whose windows cover the text -/

section

variable {ι κ : Type} [Chunk κ] [Input ι κ]

/-- An input whose cursor is behind a text, and which shows all that is left of it to a request that
is longer than the whole in bytes. -/
structure Covers (text : List Char) (Behind : ι → List Char → Prop) : Prop where
  tracks : Tracks text Behind
  peek : ∀ {i done rest}, Behind i done → text = done ++ rest → ∀ {count},
    byteLength text < count → ∃ chunk i', Input.peek count i = (.ok chunk, i') ∧
      Chunk.text chunk = (rest, .complete)

namespace Covers

variable {text done rest : List Char} {Behind : ι → List Char → Prop} {run : Lexing ι}
  {rules : List (Rule V)}

theorem choose (h : Covers text Behind) (lexer : Lexer V)
    (hlimit : byteLength text < lexer.options.request) (hrun : Behind run.input done)
    (htext : text = done ++ rest) (hactive : lexer.active run.states = .ok rules) :
    ∃ chunk input, Input.peek lexer.options.request run.input = (.ok chunk, input) ∧
      (Chunk.text chunk).1 = rest ∧ Behind input done ∧ Lexing.choose lexer run =
        (Lexing.select rules run.states (unitsIn κ done) rest none, ⟨input, run.states⟩) := by
  obtain ⟨chunk, input, hpeek, hchunk⟩ := h.peek hrun htext hlimit
  have hposition : run.position = unitsIn κ done := h.tracks.position hrun
  have hwindow : ∀ base atEnd, windowText chunk base atEnd = (rest, none) := by
    intro base atEnd
    simp only [windowText, hchunk]
  refine ⟨chunk, input, hpeek, by rw [hchunk], (h.tracks.peek hrun hpeek).1, ?_⟩
  rw [Lexing.choose_of_chunk hactive hpeek, hwindow, hposition]

theorem round_of_none (h : Covers text Behind) (lexer : Lexer V)
    (hlimit : byteLength text < lexer.options.request) (hrun : Behind run.input done)
    (htext : text = done ++ rest) (hactive : lexer.active run.states = .ok rules)
    (hfirst : firstMatch? Rule.pattern rest rules = none) :
    ∃ input, Behind input done ∧ Lexing.round lexer run =
      (.answer (.error (.noMatch (stateLabel run.states) (excerpt rest))),
        ⟨input, run.states⟩) := by
  obtain ⟨chunk, input, -, -, hinput, hchoose⟩ := h.choose lexer hlimit hrun htext hactive
  refine ⟨input, hinput, ?_⟩
  unfold Lexing.round
  rw [hchoose]
  simp only [Lexing.select, hfirst]

/-- **A rule fires** where it is the first one to match what is left, and the cursor moves past its
match. -/
theorem round_of_match [LawfulChunk κ] [Sourced ι] [LawfulInput ι] (h : Covers text Behind)
    (lexer : Lexer V) (hlexer : lexer.Proper) (hlimit : byteLength text < lexer.options.request)
    (hrun : Behind run.input done) (htext : text = done ++ rest)
    (hactive : lexer.active run.states = .ok rules) {rule : Rule V} {found : Match}
    (hfirst : firstMatch? Rule.pattern rest rules = some (rule, found)) :
    found.whole <+: rest ∧
    ∃ input, Behind input (done ++ found.whole) ∧ Lexing.round lexer run =
      ((Lexing.react lexer (unitsIn κ found.whole) ⟨rule, found, unitsIn κ done⟩ run.states).1,
        ⟨input, (Lexing.react lexer (unitsIn κ found.whole) ⟨rule, found, unitsIn κ done⟩
          run.states).2⟩) := by
  obtain ⟨chunk, input, hpeek, hchunk, hinput, hchoose⟩ := h.choose lexer hlimit hrun htext hactive
  have hchosen : Lexing.choose lexer run =
      (.ok ⟨rule, found, unitsIn κ done⟩, ⟨input, run.states⟩) := by
    rw [hchoose]
    simp only [Lexing.select, hfirst]
  obtain ⟨hmem, hmatch⟩ := mem_of_firstMatch? hfirst
  have hfront : found.whole <+: rest := (hlexer.active hactive rule hmem).whole_isPrefix hmatch
  have hpast := h.tracks.advance hrun hpeek (hchunk ▸ hfront)
  refine ⟨hfront, _, hpast, ?_⟩
  unfold Lexing.round
  rw [hchosen]
  exact Lexing.fire_of_holds (Lexing.holds_of_choose hchosen)

end Covers

end

/-! ## Two runs -/

/-- What a call brings, and the states and the position after it. -/
structure Outcome (V : Type) where
  answer : Option (Except Fault (Token V))
  states : List String
  position : Nat

/-- Two outcomes are alike if the answers and the states are the same, and the two positions are
those of one place in the text, each in its own measure. -/
structure Outcome.Alike (text : List Char) (measure measure' : List Char → Nat) (a b : Outcome V) :
    Prop where
  answer : a.answer = b.answer
  states : a.states = b.states
  place : ∃ done, done <+: text ∧ a.position = measure done ∧ b.position = measure' done

/-- What calls bring, one after the other whatever the answers are, each within its own number of
rounds. -/
def Lexing.outcomes {ι κ : Type} [Chunk κ] [Input ι κ] (lexer : Lexer V) (limits : List Nat)
    (run : Lexing ι) : List (Outcome V) :=
  (calls lexer limits run).map fun call => ⟨call.answer, call.after.states, call.after.position⟩

namespace Covers

variable {ι ι' κ κ' : Type} [Chunk κ] [Input ι κ] [Chunk κ'] [Input ι' κ']

/-- Two runs in the same states and at the same place. -/
def Beside (Behind : ι → List Char → Prop) (Behind' : ι' → List Char → Prop) (a : Lexing ι)
    (b : Lexing ι') : Prop :=
  a.states = b.states ∧ ∃ done, Behind a.input done ∧ Behind' b.input done

variable [LawfulChunk κ] [MeasuredText κ] [Sourced ι] [LawfulInput ι] [LawfulChunk κ']
  [MeasuredText κ'] [Sourced ι'] [LawfulInput ι'] {text : List Char}
  {Behind : ι → List Char → Prop} {Behind' : ι' → List Char → Prop} {lexer : Lexer V}
  {o o' : Options} {a : Lexing ι} {b : Lexing ι'}

/-- **One round** of two runs ends alike, and they stay beside each other. -/
theorem round (h : Covers text Behind) (h' : Covers text Behind') (hlexer : lexer.Proper)
    (hignores : lexer.IgnoresPosition) (ho : byteLength text < o.request)
    (ho' : byteLength text < o'.request) (hab : Beside Behind Behind' a b) :
    ∃ r a' b', Lexing.round (lexer.under o) a = (r, a') ∧
      Lexing.round (lexer.under o') b = (r, b') ∧ Beside Behind Behind' a' b' := by
  obtain ⟨hstates, done, ha, hb⟩ := hab
  obtain ⟨rest, hrest⟩ := h.tracks.behind ha
  cases hactive : lexer.active a.states with
  | error fault =>
    have hknown : (lexer.under o).active a.states = .error fault := hactive
    have hknown' : (lexer.under o').active b.states = .error fault := hstates ▸ hactive
    refine ⟨.answer (.error fault), a, b, ?_, ?_, hstates, done, ha, hb⟩
    · unfold Lexing.round
      rw [Lexing.choose_of_unknown hknown]
    · unfold Lexing.round
      rw [Lexing.choose_of_unknown hknown']
  | ok rules =>
    have hactive' : lexer.active b.states = .ok rules := hstates ▸ hactive
    cases hfirst : firstMatch? Rule.pattern rest rules with
    | none =>
      obtain ⟨i, hi, hround⟩ := h.round_of_none (lexer.under o) ho ha hrest.symm hactive hfirst
      obtain ⟨j, hj, hround'⟩ := h'.round_of_none (lexer.under o') ho' hb hrest.symm hactive' hfirst
      rw [← hstates] at hround'
      exact ⟨_, _, _, hround, hround', rfl, done, hi, hj⟩
    | some chosen =>
      obtain ⟨rule, found⟩ := chosen
      obtain ⟨hfront, i, hi, hround⟩ :=
        h.round_of_match (lexer.under o) hlexer ho ha hrest.symm hactive hfirst
      obtain ⟨-, j, hj, hround'⟩ :=
        h'.round_of_match (lexer.under o') hlexer ho' hb hrest.symm hactive' hfirst
      have hrule : Action.IgnoresPosition rule.action :=
        Lexer.All.active hignores hactive rule (mem_of_firstMatch? hfirst).1
      have hzero : unitsIn κ found.whole = 0 ↔ unitsIn κ' found.whole = 0 := by
        rw [MeasuredText.unitsIn_eq_zero, MeasuredText.unitsIn_eq_zero]
      rw [← hstates, ← Lexing.react_congr lexer hrule hzero
        (unitsIn_le_window ho hrest.symm hfront) (unitsIn_le_window ho' hrest.symm hfront)
        found (unitsIn κ done)] at hround'
      exact ⟨_, _, _, hround, hround', rfl, _, hi, hj⟩

theorem next (h : Covers text Behind) (h' : Covers text Behind') (hlexer : lexer.Proper)
    (hignores : lexer.IgnoresPosition) (ho : byteLength text < o.request)
    (ho' : byteLength text < o'.request) (limit : Nat) (hab : Beside Behind Behind' a b) :
    ∃ answer a' b', Lexing.next (lexer.under o) limit a = (answer, a') ∧
      Lexing.next (lexer.under o') limit b = (answer, b') ∧ Beside Behind Behind' a' b' := by
  induction limit generalizing a b with
  | zero => exact ⟨none, a, b, rfl, rfl, hab⟩
  | succ limit ih =>
    obtain ⟨r, a', b', ha, hb, hab'⟩ := h.round h' hlexer hignores ho ho' hab
    cases r with
    | answer answer =>
      exact ⟨some answer, a', b', Lexing.next_of_answer ha limit, Lexing.next_of_answer hb limit,
        hab'⟩
    | again =>
      rw [Lexing.next_of_again ha, Lexing.next_of_again hb]
      exact ih hab'

theorem outcomes (h : Covers text Behind) (h' : Covers text Behind') (hlexer : lexer.Proper)
    (hignores : lexer.IgnoresPosition) (ho : byteLength text < o.request)
    (ho' : byteLength text < o'.request) (limits : List Nat) (hab : Beside Behind Behind' a b) :
    List.Forall₂ (Outcome.Alike text (unitsIn κ) (unitsIn κ'))
      (Lexing.outcomes (lexer.under o) limits a) (Lexing.outcomes (lexer.under o') limits b) := by
  induction limits generalizing a b with
  | nil => exact .nil
  | cons limit limits ih =>
    obtain ⟨answer, a', b', ha, hb, hab'⟩ := h.next h' hlexer hignores ho ho' limit hab
    unfold Lexing.outcomes at ih ⊢
    rw [Lexing.calls, Lexing.calls, ha, hb, List.map_cons, List.map_cons]
    apply List.Forall₂.cons _ (ih hab')
    obtain ⟨hstates, done, hdone, hdone'⟩ := hab'
    constructor
    · rfl
    · exact hstates
    · exact ⟨done, h.tracks.behind hdone, h.tracks.position hdone, h'.tracks.position hdone'⟩

end Covers

/-! ## The inputs -/

theorem take_encode {text done rest : List Char} (htext : text = done ++ rest) {count : Nat}
    (hcount : byteLength text < count) : (encode rest).take count = encode rest := by
  rw [htext, byteLength_append] at hcount
  apply List.take_of_length_le
  rw [length_encode]
  omega

theorem ByteCursor.covers (text : List Char) :
    Covers text (ByteCursor.Behind (encode text)) where
  tracks := by
    have htracks := tracks (encode text)
    rwa [decode_encode] at htracks
  peek := by
    rintro c done rest ⟨hbytes, -, hposition⟩ htext count hcount
    refine ⟨encode rest, c, ?_, decode_encode rest⟩
    show (Except.ok ((c.bytes.drop c.position).take count), c) = _
    rw [hbytes, hposition, drop_encode htext, take_encode htext hcount]

theorem BufferedBytes.covers {source : Source} (hreads : source.ReadsFully) {text : List Char}
    (hbytes : source.bytes = encode text) : Covers text (BufferedBytes.Behind source) where
  tracks := by
    have htracks := tracks source
    rwa [hbytes, decode_encode] at htracks
  peek := by
    rintro i done rest ⟨hat, -⟩ htext count hcount
    rcases hat.peek count with ⟨reason, -, -, -, hrefuses⟩ | ⟨i', hpeek, -, hall⟩
    · exact absurd hrefuses (hreads.not_refuses reason)
    · have hheld : i'.blocks.held.take count = encode rest := by
        rw [hall hreads.copiesAll, hbytes, drop_encode htext, take_encode htext hcount]
      rw [hheld] at hpeek
      exact ⟨encode rest, i', hpeek, decode_encode rest⟩

theorem Provides.covers {ι : Type} [Input ι (List Char)] {text : List Char}
    {Behind : ι → List Char → Prop} (h : Provides text Behind) (htracks : Tracks text Behind) :
    Covers text Behind where
  tracks := htracks
  peek := by
    intro i done rest hi htext count hcount
    obtain ⟨i', hpeek, -⟩ := h.peek hi htext count
    have hshort : rest.length ≤ count := by
      have hrest := length_le_byteLength rest
      rw [htext, byteLength_append] at hcount
      omega
    rw [List.take_of_length_le hshort] at hpeek
    exact ⟨rest, i', hpeek, rfl⟩

theorem TextCursor.covers (text : List Char) : Covers text (fun c done => At text done c) :=
  (provides text).covers (tracks text)

theorem BufferedText.covers {source : Source} (hreads : source.ReadsFully) {text : List Char}
    (hbytes : source.bytes = encode text) : Covers text (fun i done => At source done i) := by
  apply (provides hreads hbytes).covers
  have htracks := tracks source
  rwa [hbytes, decode_encode] at htracks

/-- One of the four kinds of inputs over a text. A source reads fully and refuses nothing, whatever
the size of the blocks is. -/
inductive Medium (text : List Char) where
  | bytes
  | chars
  | fetchedBytes (source : Source) (blockSize : Nat) (hreads : source.ReadsFully)
    (hbytes : source.bytes = encode text)
  | fetchedChars (source : Source) (blockSize : Nat) (hreads : source.ReadsFully)
    (hbytes : source.bytes = encode text)

namespace Medium

variable {text : List Char}

/-- The units in which positions are counted: the bytes or the characters of what is behind the
cursor. -/
def measure : Medium text → List Char → Nat
  | bytes => byteLength
  | chars => List.length
  | fetchedBytes _ _ _ _ => byteLength
  | fetchedChars _ _ _ _ => List.length

/-- What calls bring of a run over the medium. -/
def outcomes (m : Medium text) (lexer : Lexer V) (states : List String) (limits : List Nat) :
    List (Outcome V) :=
  match m with
  | bytes => Lexing.outcomes lexer limits (.start (ByteCursor.ofBytes (encode text)) states)
  | chars => Lexing.outcomes lexer limits (.start (TextCursor.ofText text) states)
  | fetchedBytes source blockSize _ _ =>
    Lexing.outcomes lexer limits (.start (BufferedBytes.ofSource source blockSize) states)
  | fetchedChars source blockSize _ _ =>
    Lexing.outcomes lexer limits (.start (BufferedText.ofSource source blockSize) states)

/-- A run over any input that covers the text, and one over the medium. -/
theorem outcomes_of_covers {ι κ : Type} [Chunk κ] [Input ι κ] [LawfulChunk κ] [MeasuredText κ]
    [Sourced ι] [LawfulInput ι] {Behind : ι → List Char → Prop} (h : Covers text Behind) {input : ι}
    (hinput : Behind input []) (m : Medium text) {lexer : Lexer V} (hlexer : lexer.Proper)
    (hignores : lexer.IgnoresPosition) {o o' : Options} (ho : byteLength text < o.request)
    (ho' : byteLength text < o'.request) (states : List String) (limits : List Nat) :
    List.Forall₂ (Outcome.Alike text (unitsIn κ) m.measure)
      (Lexing.outcomes (lexer.under o) limits (.start input states))
      (m.outcomes (lexer.under o') states limits) := by
  cases m with
  | bytes =>
    exact h.outcomes (ByteCursor.covers text) hlexer hignores ho ho' limits
      ⟨rfl, [], hinput, rfl, List.nil_prefix, rfl⟩
  | chars =>
    exact h.outcomes (TextCursor.covers text) hlexer hignores ho ho' limits
      ⟨rfl, [], hinput, TextCursor.at_ofText text⟩
  | fetchedBytes source blockSize hreads hbytes =>
    exact h.outcomes (BufferedBytes.covers hreads hbytes) hlexer hignores ho ho' limits
      ⟨rfl, [], hinput, BufferedBytes.at_ofSource source blockSize, List.nil_prefix⟩
  | fetchedChars source blockSize hreads hbytes =>
    exact h.outcomes (BufferedText.covers hreads hbytes) hlexer hignores ho ho' limits
      ⟨rfl, [], hinput, BufferedText.at_ofSource source blockSize⟩

/-- **Where the window covers the text, the kind of the input and the options do not matter.** For a
proper lexer whose actions do not look at positions, under any two options whose request is longer
than the text in bytes and over any two inputs of the text, calls are answered the same, one after
the other and also behind faults, with the same states and at the same places in the text. -/
theorem outcomes_alike (lexer : Lexer V) (hlexer : lexer.Proper) (hignores : lexer.IgnoresPosition)
    (text : List Char) {o o' : Options} (ho : byteLength text < o.request)
    (ho' : byteLength text < o'.request) (m m' : Medium text) (states : List String)
    (limits : List Nat) :
    List.Forall₂ (Outcome.Alike text m.measure m'.measure)
      (m.outcomes (lexer.under o) states limits) (m'.outcomes (lexer.under o') states limits) := by
  cases m with
  | bytes =>
    exact outcomes_of_covers (ByteCursor.covers text) ⟨rfl, List.nil_prefix, rfl⟩ m' hlexer hignores
      ho ho' states limits
  | chars =>
    exact outcomes_of_covers (TextCursor.covers text) (TextCursor.at_ofText text) m' hlexer hignores
      ho ho' states limits
  | fetchedBytes source blockSize hreads hbytes =>
    exact outcomes_of_covers (BufferedBytes.covers hreads hbytes)
      ⟨BufferedBytes.at_ofSource source blockSize, List.nil_prefix⟩ m' hlexer hignores ho ho' states
      limits
  | fetchedChars source blockSize hreads hbytes =>
    exact outcomes_of_covers (BufferedText.covers hreads hbytes)
      (BufferedText.at_ofSource source blockSize) m' hlexer hignores ho ho' states limits

/-- The lexer of the demonstration grammar over a word of one character in two bytes, a gap
and a number: a window of five units over a source read byte by byte, and the standard one over the
characters in memory. -/
theorem outcomes_alike_demo : ∃ lexer, Demo.lexer = .ok lexer ∧ lexer.Proper ∧
    lexer.IgnoresPosition ∧
    let text := ['é', ',', '1', '2']
    let medium : Medium text :=
      .fetchedBytes (.ofBytes (encode text)) 1 (Source.readsFully_ofBytes _) rfl
    byteLength text < (Options.mk 5 true).request ∧ byteLength text < Options.standard.request ∧
      List.Forall₂ (Outcome.Alike text byteLength List.length)
        (medium.outcomes (lexer.under ⟨5, true⟩) [] [2, 2, 2, 2])
        ((chars : Medium text).outcomes (lexer.under .standard) [] [2, 2, 2, 2]) := by
  have hdeclared : ∀ d ∈ Demo.declarations, d.Proper := by decide
  have hblind : ∀ d ∈ Demo.declarations, d.IgnoresPosition := by
    simp [Demo.declarations, Declaration.IgnoresPosition, Action.IgnoresPosition, Demo.giving,
      Demo.discarding]
  have hbuilt : Demo.lexer.isOk = true := by decide
  cases hlexer : Demo.lexer with
  | error fault =>
    rw [hlexer] at hbuilt
    cases hbuilt
  | ok lexer =>
    have hproper : lexer.Proper := Lexer.proper_of_build hdeclared hlexer
    have hignores : lexer.IgnoresPosition := Lexer.ignoresPosition_of_build hblind hlexer
    have hnarrow : byteLength ['é', ',', '1', '2'] < (Options.mk 5 true).request := by decide
    have hwide : byteLength ['é', ',', '1', '2'] < Options.standard.request := by decide
    refine ⟨lexer, rfl, hproper, hignores, hnarrow, hwide, ?_⟩
    exact outcomes_alike lexer hproper hignores _ hnarrow hwide
      (fetchedBytes (.ofBytes (encode ['é', ',', '1', '2'])) 1 (Source.readsFully_ofBytes _) rfl)
      chars [] [2, 2, 2, 2]

/-- A letter behind a character of two bytes, which a pattern matches that the anchor does not bind
as a whole: over characters the second call finds the letter again, over bytes the cursor is inside
the character then. -/
theorem not_outcomes_alike_of_unanchored : ∃ lexer, Lexer.build Demo.unanchored = .ok lexer ∧
    lexer.IgnoresPosition ∧ byteLength ['é', 'a'] < Options.standard.request ∧
    ¬List.Forall₂ (Outcome.Alike ['é', 'a'] byteLength List.length)
      ((bytes : Medium ['é', 'a']).outcomes (lexer.under .standard) [] [1, 1])
      ((chars : Medium ['é', 'a']).outcomes (lexer.under .standard) [] [1, 1]) := by
  have hblind : ∀ d ∈ Demo.unanchored, d.IgnoresPosition := by
    simp [Demo.unanchored, Declaration.IgnoresPosition, Action.IgnoresPosition, Demo.giving]
  have hanswers : (Lexer.build Demo.unanchored).toOption.map (fun lexer =>
      (((bytes : Medium ['é', 'a']).outcomes (lexer.under .standard) [] [1, 1]).map
        fun outcome => outcome.answer.map Except.isOk,
      ((chars : Medium ['é', 'a']).outcomes (lexer.under .standard) [] [1, 1]).map
        fun outcome => outcome.answer.map Except.isOk)) =
      some ([some true, some false], [some true, some true]) := by
    decide +kernel
  cases hlexer : Lexer.build Demo.unanchored with
  | error fault =>
    rw [hlexer] at hanswers
    cases hanswers
  | ok lexer =>
    rw [hlexer] at hanswers
    obtain ⟨hbytes, hchars⟩ := Prod.mk.inj (Option.some.inj hanswers)
    refine ⟨lexer, rfl, Lexer.ignoresPosition_of_build hblind hlexer, by decide, fun halike => ?_⟩
    have hsame := List.forall₂_map_left_iff.2 (List.forall₂_map_right_iff.2
      (halike.imp fun a b hab => congrArg (Option.map Except.isOk) hab.answer))
    rw [List.forall₂_eq_eq_eq, hbytes, hchars] at hsame
    cases hsame

end Medium

end Lexis
