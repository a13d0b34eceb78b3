import Lexis.Proofs.Lexer.Rounds
import Lexis.Proofs.Lexer.Stalling
import Lexis.Proofs.Pattern.Shapes
import Lexis.Proofs.Text.Boundary

/-!
# Empty windows

A rule that matches only where there is nothing, such as `$`, is meant for the end of the input: it
is what gives the last token. But what the rules see is the text of the window. In a window of
characters there is nothing only at the end. A window of bytes can be shorter than the character at
the cursor, and then its text is empty as well: the character is cut off by the window and not by
the input, so that this is no fault, and the rule for the end fires in front of it.

Anywhere else the rules are not asked about an empty text. In the middle of a character, where a
pattern that the anchor does not bind may have left the cursor, the bytes are no text, and that is
found first.

Principal results:

* `Shows.offers_nil_iff`, `Provides.offers_nil_iff` — where rules are asked about an empty text;
* `Lexing.emptyWindow_of_text` — the four kinds of inputs;
* `Lexing.not_emptyWindow_of_narrow` — the end is reported in front of a character.
-/

namespace Lexis

open Pattern Text

variable {ι κ V : Type} [Chunk κ] [Input ι κ]

/-- The rules are asked about the text, and their answer stands: there are no bytes behind it that
are no text. -/
def Lexing.Offers (lexer : Lexer V) (run : Lexing ι) (text : List Char) : Prop :=
  ∃ (chunk : κ) (input : ι), Input.peek lexer.options.request run.input = (.ok chunk, input) ∧
    windowText chunk run.position (Chunk.units chunk < lexer.options.request) = (text, none)

/-- The cursor is in front of a character of the text, and this takes more bytes than are peeked. -/
def Lexing.Narrow (lexer : Lexer V) (text : List Char) (run : Lexing ι) : Prop :=
  ∃ done c rest, text = done ++ c :: rest ∧ run.position = byteLength done ∧
    lexer.options.request < c.utf8Size

/-- What an empty window says of an input of so many units, at all runs that are reached: its end is
there, or the cursor is in a place that is spared. -/
structure EmptyWindow (lexer : Lexer V) (total : Nat) (Spared : Lexing ι → Prop)
    (first : Lexing ι) : Prop where
  offers : ∀ {run}, Lexing.Reached lexer first run →
    (Lexing.Offers lexer run [] ↔ run.position = total ∨ Spared run)
  fires : ∀ {run}, Lexing.Reached lexer first run → ∀ {f}, Lexing.firing? lexer run = some f →
    f.choice.found.text = [] → run.position = total ∨ Spared run
  /-- A rule for the end, such as `$`. -/
  ends : ∀ {run}, Lexing.Reached lexer first run → ∀ {f}, Lexing.firing? lexer run = some f →
    f.choice.rule.pattern.program = .atEnd → run.position = total ∨ Spared run

theorem Options.request_pos {o : Options} (h : 0 < o.window) : 0 < o.request := by
  unfold request
  split
  · exact Nat.lt_min.2 ⟨Nat.succ_pos _, by decide⟩
  · exact h

namespace Lexing

variable {lexer : Lexer V} {run : Lexing ι} {f : Firing ι V}

/-- Which text the rules are asked about depends on the chunk that is peeked. -/
theorem offers_iff {chunk : κ} {input : ι}
    (hpeek : Input.peek lexer.options.request run.input = (.ok chunk, input)) (text : List Char) :
    Offers lexer run text ↔
      windowText chunk run.position (Chunk.units chunk < lexer.options.request) = (text, none) := by
  constructor
  · rintro ⟨chunk', input', hpeek', hwindow⟩
    rw [hpeek, Prod.mk.injEq] at hpeek'
    obtain ⟨rfl⟩ := Except.ok.inj hpeek'.1
    exact hwindow
  · intro hwindow
    exact ⟨chunk, input, hpeek, hwindow⟩

/-- No rule is chosen by an empty text in front of bytes that are none: what it matches reaches
them. -/
theorem undecodable_of_select_nil {rules : List (Rule V)} {states : List String} {base : Nat}
    {undecodable : Option Nat} {choice : Choice V}
    (h : select rules states base [] undecodable = .ok choice) : undecodable = none := by
  unfold select at h
  split at h
  · rfl
  · cases h
  · rfl
  · rename_i rule found position hfirst
    have hempty : found.whole = [] := by
      have hlength := length_whole_of_firstMatch? hfirst
      exact List.eq_nil_of_length_eq_zero (Nat.le_zero.1 hlength)
    rw [hempty, if_pos rfl] at h
    cases h

/-- **A rule that fires on an empty text** has been asked about it. -/
theorem offers_of_firing (h : firing? lexer run = some f) (hempty : f.choice.found.text = []) :
    Offers lexer run [] := by
  obtain ⟨hchoose, -⟩ := choose_of_firing h
  obtain ⟨-, -, ⟨rules, hactive, -⟩, chunk, hpeek, hmatch⟩ := choose_ok hchoose
  have htext : (windowText chunk run.position (Chunk.units chunk < lexer.options.request)).1 = [] := by
    rw [windowText_fst, ← text_of_match? hmatch, hempty]
  rw [choose_of_chunk hactive hpeek, Prod.mk.injEq, htext] at hchoose
  exact ⟨chunk, _, hpeek, Prod.ext htext (undecodable_of_select_nil hchoose.1)⟩

/-- A rule for the end matches the empty text only. -/
theorem text_of_atEnd (h : firing? lexer run = some f)
    (hend : f.choice.rule.pattern.program = .atEnd) : f.choice.found.text = [] := by
  obtain ⟨-, -, -, chunk, -, hmatch⟩ := choose_ok (choose_of_firing h).1
  rw [text_of_match? hmatch]
  rw [match?_atEnd hend] at hmatch
  split at hmatch
  · assumption
  · cases hmatch

/-- Where rules are asked about an empty text decides where they fire on it. -/
theorem emptyWindow_of_offers {total : Nat} {Spared : Lexing ι → Prop} {first : Lexing ι}
    (h : ∀ {run}, Reached lexer first run →
      (Offers lexer run [] ↔ run.position = total ∨ Spared run)) :
    EmptyWindow lexer total Spared first where
  offers := h
  fires := by
    intro run hrun f hf hempty
    exact (h hrun).1 (offers_of_firing hf hempty)
  ends := by
    intro run hrun f hf hend
    exact (h hrun).1 (offers_of_firing hf (text_of_atEnd hf hend))

end Lexing

/-- **A window that holds any character** is empty only at the end: none takes more than four
bytes. -/
theorem EmptyWindow.of_wide {lexer : Lexer V} {total : Nat} {text : List Char} {first : Lexing ι}
    (h : EmptyWindow lexer total (Lexing.Narrow lexer text) first)
    (hwide : 4 ≤ lexer.options.request) : EmptyWindow lexer total (fun _ => False) first := by
  apply Lexing.emptyWindow_of_offers
  intro run hrun
  have hfits : ¬Lexing.Narrow lexer text run := by
    rintro ⟨done, c, rest, -, -, hnarrow⟩
    have hbytes := c.utf8Size_le_four
    omega
  rw [h.offers hrun]
  simp [hfits]

/-! ## Windows of characters -/

theorem windowText_of_chars (chars : List Char) (base : Nat) (atEnd : Bool) :
    windowText chars base atEnd = (chars, none) := rfl

/-- **A window of characters is empty at the end of the text**, and only there. -/
theorem Provides.offers_nil_iff {ι : Type} [Input ι (List Char)] {whole done : List Char}
    {Behind : ι → List Char → Prop} (h : Provides whole Behind) {lexer : Lexer V}
    (hwindow : 0 < lexer.options.window) {run : Lexing ι} (hrun : Behind run.input done) :
    Lexing.Offers lexer run [] ↔ run.position = whole.length := by
  have hrequest := Options.request_pos hwindow
  have hposition : run.position = done.length := h.position hrun
  obtain ⟨rest, hrest⟩ := h.behind hrun
  obtain ⟨input, hpeek, -⟩ := h.peek hrun hrest.symm lexer.options.request
  rw [Lexing.offers_iff hpeek, windowText_of_chars, Prod.mk.injEq, and_iff_left rfl, hposition,
    ← hrest, List.length_append, List.take_eq_nil_iff]
  constructor
  · rintro (hzero | rfl)
    · omega
    · rfl
  · intro hlength
    exact Or.inr (List.eq_nil_of_length_eq_zero (by omega))

/-! ## Windows of bytes -/

/-- The text of a window of bytes, and whether there are bytes behind it that are none, as far as
the window shows. -/
theorem windowText_eq_nil_iff (bytes : List UInt8) (base : Nat) (atEnd : Bool) :
    windowText bytes base atEnd = ([], none) ↔
      (decode bytes).1 = [] ∧ (decode bytes).2 ≠ .invalid ∧
        ((decode bytes).2 = .split → atEnd = false) := by
  have htext : Chunk.text bytes = decode bytes := rfl
  unfold windowText
  rw [htext]
  cases hending : (decode bytes).2 with
  | complete => simp [hending]
  | split => cases atEnd <;> simp [hending]
  | invalid => simp [hending]

/-- **The first bytes of a text give an empty window** exactly if there are none, or if they do not
hold its first character and the window is full. -/
theorem windowText_take_eq_nil_iff (text : List Char) (count base : Nat) :
    windowText ((encode text).take count) base (((encode text).take count).length < count) =
        ([], none) ↔
      text = [] ∨ ∃ c rest, text = c :: rest ∧ count < c.utf8Size := by
  rw [windowText_eq_nil_iff]
  cases text with
  | nil => simp [decode, decodeFrom]
  | cons c rest =>
    rw [decode_take_eq_nil_iff]
    constructor
    · rintro ⟨hnarrow, -⟩
      exact Or.inr ⟨c, rest, rfl, hnarrow⟩
    · rintro (hnil | ⟨d, ds, hcons, hnarrow⟩)
      · cases hnil
      · cases hcons
        refine ⟨hnarrow, decode_take_ne_invalid _ _, fun _ => ?_⟩
        rw [List.length_take, length_encode, byteLength_cons, Nat.min_eq_left (by omega)]
        exact decide_eq_false (Nat.lt_irrefl count)

/-- **A window of the bytes of a text is empty** at the end, and in front of a character that it
does not hold; never in the middle of one. -/
theorem Shows.offers_nil_iff {ι : Type} [Input ι (List UInt8)] {text : List Char} {Sane : ι → Prop}
    (h : Shows (encode text) Sane) {lexer : Lexer V} (hwindow : 0 < lexer.options.window)
    {run : Lexing ι} (hrun : Sane run.input) :
    Lexing.Offers lexer run [] ↔
      run.position = byteLength text ∨ Lexing.Narrow lexer text run := by
  have hrequest := Options.request_pos hwindow
  have hinside : run.position ≤ byteLength text := by
    rw [← length_encode]
    exact h.bounds.position_le hrun
  obtain ⟨input, hpeek⟩ := h.peek hrun lexer.options.request
  rw [Lexing.offers_iff hpeek]
  show windowText (((encode text).drop run.position).take lexer.options.request) run.position
    ((((encode text).drop run.position).take lexer.options.request).length <
      lexer.options.request) = ([], none) ↔ _
  constructor
  · intro hempty
    rcases boundary_or_stray text hinside with ⟨done, rest, htext, hdone⟩ | ⟨b, bs, hbytes, hstray⟩
    · rw [hdone, drop_encode htext, windowText_take_eq_nil_iff rest] at hempty
      rcases hempty with rfl | ⟨c, left, rfl, hnarrow⟩
      · rw [List.append_nil] at htext
        exact Or.inl (htext ▸ hdone)
      · exact Or.inr ⟨done, c, left, htext, hdone, hnarrow⟩
    · obtain ⟨count, hcount⟩ : ∃ count, lexer.options.request = count + 1 :=
        ⟨lexer.options.request - 1, by omega⟩
      rw [windowText_eq_nil_iff, hbytes, hcount, List.take_succ_cons, decode_stray hstray] at hempty
      exact absurd rfl hempty.2.1
  · rintro (hend | ⟨done, c, rest, htext, hdone, hnarrow⟩)
    · rw [hend, drop_encode (List.append_nil text).symm, windowText_take_eq_nil_iff []]
      exact Or.inl rfl
    · rw [hdone, drop_encode htext, windowText_take_eq_nil_iff (c :: rest)]
      exact Or.inr ⟨c, rest, rfl, hnarrow⟩

/-! ## The inputs -/

/-- **An empty window means the end of the input**, but for a window that is shorter than the
character at the cursor: whatever the lexer is, over a text in memory and over one in a source that
reads fully. -/
theorem Lexing.emptyWindow_of_text (lexer : Lexer V) (hwindow : 0 < lexer.options.window)
    (text : List Char) (states : List String) :
    EmptyWindow lexer text.length (fun _ => False) (start (TextCursor.ofText text) states) ∧
    EmptyWindow lexer (byteLength text) (Narrow lexer text)
      (start (ByteCursor.ofBytes (encode text)) states) ∧
    ∀ source : Source, source.ReadsFully → source.bytes = encode text → ∀ blockSize,
      EmptyWindow lexer text.length (fun _ => False)
        (start (BufferedText.ofSource source blockSize) states) ∧
      EmptyWindow lexer (byteLength text) (Narrow lexer text)
        (start (BufferedBytes.ofSource source blockSize) states) := by
  refine ⟨?_, ?_, fun source hreads hbytes blockSize => ⟨?_, ?_⟩⟩
  · apply emptyWindow_of_offers
    intro run hrun
    obtain ⟨done, hdone⟩ := (TextCursor.provides text).reached (TextCursor.at_ofText text) hrun
    rw [(TextCursor.provides text).offers_nil_iff hwindow hdone, or_false]
  · apply emptyWindow_of_offers
    intro run hrun
    have hshows := ByteCursor.shows (encode text)
    exact hshows.offers_nil_iff hwindow
      (hshows.bounds.advances.reached (ByteCursor.inside_ofBytes (encode text)) hrun)
  · apply emptyWindow_of_offers
    intro run hrun
    have hprovides := BufferedText.provides hreads hbytes
    obtain ⟨done, hdone⟩ := hprovides.reached (BufferedText.at_ofSource source blockSize) hrun
    rw [hprovides.offers_nil_iff hwindow hdone, or_false]
  · apply emptyWindow_of_offers
    intro run hrun
    have hshows := BufferedBytes.shows hreads
    have hsane := hshows.bounds.advances.reached
      ⟨0, BufferedBytes.at_ofSource source blockSize⟩ hrun
    rw [hbytes] at hshows
    exact hshows.offers_nil_iff hwindow hsane

/-- Nothing but the end, seen through a window of one unit. -/
def Demo.narrow : List (Declaration Value) :=
  [.options ⟨1, false⟩, .rule "$" (giving fun _ => .eof .null)]

/-- One character of two bytes: as a character it fills the window, and as bytes it does not fit. -/
theorem Lexing.emptyWindow_of_text_narrow : ∃ lexer, Lexer.build Demo.narrow = .ok lexer ∧
    0 < lexer.options.window ∧
    EmptyWindow lexer 2 (Narrow lexer ['é']) (start (ByteCursor.ofBytes (encode ['é'])) []) ∧
    EmptyWindow lexer 1 (fun _ => False)
      (start (BufferedText.ofSource (.ofBytes (encode ['é'])) 1) []) := by
  have hoptions : (Lexer.build Demo.narrow).map Lexer.options = .ok ⟨1, false⟩ := by rfl
  cases hlexer : Lexer.build Demo.narrow with
  | error fault =>
    rw [hlexer] at hoptions
    cases hoptions
  | ok lexer =>
    have hwindow : 0 < lexer.options.window := by
      rw [hlexer] at hoptions
      rw [Except.ok.inj hoptions]
      decide
    have hall := emptyWindow_of_text lexer hwindow ['é'] []
    have hbuffered := hall.2.2 (.ofBytes (encode ['é'])) (Source.readsFully_ofBytes _) rfl 1
    exact ⟨lexer, rfl, hwindow, hall.2.1, hbuffered.1⟩

/-- The end is reported in front of the character, at the first byte of two. -/
theorem Lexing.not_emptyWindow_of_narrow : ∃ lexer, Lexer.build Demo.narrow = .ok lexer ∧
    (next lexer 1 (start (ByteCursor.ofBytes (encode ['é'])) [])).1 = some (.ok (.eof .null)) ∧
    ¬EmptyWindow lexer 2 (fun _ => False) (start (ByteCursor.ofBytes (encode ['é'])) []) := by
  have hfired : (Lexer.build Demo.narrow).toOption.bind (fun lexer =>
      let run := start (ByteCursor.ofBytes (encode ['é'])) []
      (firing? lexer run).map fun f =>
        (f.choice.found.text, run.position, (next lexer 1 run).1.map Except.toOption)) =
      some ([], 0, some (some (.eof .null))) := by
    decide +kernel
  cases hlexer : Lexer.build Demo.narrow with
  | error fault =>
    rw [hlexer] at hfired
    cases hfired
  | ok lexer =>
    rw [hlexer] at hfired
    obtain ⟨f, hf, hfacts⟩ := Option.map_eq_some_iff.1 hfired
    simp only [Prod.mk.injEq] at hfacts
    obtain ⟨hempty, hposition, hanswer⟩ := hfacts
    obtain ⟨answer, hnext, htoken⟩ := Option.map_eq_some_iff.1 hanswer
    refine ⟨lexer, rfl, ?_, fun hwindow => ?_⟩
    · rw [hnext]
      cases answer with
      | error fault => cases htoken
      | ok token => rw [Option.some.inj htoken]
    · rcases hwindow.fires .start hf hempty with hend | hnever
      · omega
      · exact hnever

end Lexis
