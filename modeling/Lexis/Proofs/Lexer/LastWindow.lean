import Lexis.Proofs.Lexer.Stalling
import Lexis.Proofs.Text.Boundary

/-!
# The last window of bytes

Bytes that are no text are not skipped over: when the window holds all that is left of the input,
and this is a text with such bytes behind it, then a rule fires only with a match that ends before
them. Where no rule matches, or the match reaches them and might have gone on, the round ends with a
fault that names their place, and nothing is consumed.

Whether a window holds all that is left is known to a round only from its length. A window that is
full may be the last one, and then it does not show whether a character at its end is cut off by the
input or by the window. Such bytes could still become text; so nothing is said about them, and a
rule fires up to them. Bytes that no others can make a text are found in a full window as well.

Principal results:

* `Shows.choose_of_lastBytes` — what decides a round whose window holds all that is left;
* `Shows.lastWindow` — what such a round does, over any input that shows its bytes;
* `Lexing.lastWindow_of_bytes` — bytes in memory and bytes of a source;
* `Lexing.not_lastWindow_of_full` — a full window lets a rule fire up to a character cut off.
-/

namespace Lexis

open Pattern Text

variable {V : Type}

section

variable {ι : Type} [Input ι (List UInt8)]

/-- The window holds all bytes at the cursor, and these are the text and then bytes that are no
text. -/
structure Lexing.LastBytes (lexer : Lexer V) (bytes : List UInt8) (run : Lexing ι)
    (text : List Char) : Prop where
  reaches : bytes.length ≤ run.position + lexer.options.request
  longest : IsLongestText (bytes.drop run.position) text
  undecodable : ∀ whole, encode whole ≠ bytes.drop run.position

/-- The window shows that the bytes at the cursor are no text: there is room in it behind them, or no
bytes behind them can make them a text. -/
def Lexing.Evident (lexer : Lexer V) (bytes : List UInt8) (run : Lexing ι) : Prop :=
  bytes.length < run.position + lexer.options.request ∨
    ∀ more whole, encode whole ≠ bytes.drop run.position ++ more

/-- What a round does whose window holds the last bytes, at all runs that are reached: bytes that are
no text stop it where they are seen, and else it goes on as if they were not there. -/
structure LastWindow (lexer : Lexer V) (bytes : List UInt8) (Seen : Lexing ι → Prop)
    (first : Lexing ι) : Prop where
  /-- No rule fires if none matches the text or the match of the first one reaches its end. -/
  stops : ∀ {run}, Lexing.Reached lexer first run → ∀ {rules}, lexer.active run.states = .ok rules →
    ∀ {text}, Lexing.LastBytes lexer bytes run text → Seen run →
    (∀ rule found, firstMatch? Rule.pattern text rules = some (rule, found) → found.whole = text) →
      Lexing.firing? lexer run = none ∧ ∃ after, Lexing.round lexer run =
        (.answer (.error (.undecodable (run.position + byteLength text))), after) ∧
        after.SamePlace run
  /-- The first rule that matches fires otherwise. -/
  fires : ∀ {run}, Lexing.Reached lexer first run → ∀ {rules}, lexer.active run.states = .ok rules →
    ∀ {text}, Lexing.LastBytes lexer bytes run text →
    ∀ {rule found}, firstMatch? Rule.pattern text rules = some (rule, found) →
    (found.whole = text → ¬Seen run) →
      ∃ after, Lexing.round lexer run = ((Lexing.react lexer (byteLength found.whole)
          ⟨rule, found, run.position⟩ run.states).1, after) ∧
        after.states = (Lexing.react lexer (byteLength found.whole)
          ⟨rule, found, run.position⟩ run.states).2 ∧
        after.position = run.position + byteLength found.whole
  fails : ∀ {run}, Lexing.Reached lexer first run → ∀ {rules}, lexer.active run.states = .ok rules →
    ∀ {text}, Lexing.LastBytes lexer bytes run text →
    firstMatch? Rule.pattern text rules = none → ¬Seen run →
      ∃ after, Lexing.round lexer run =
        (.answer (.error (.noMatch (stateLabel run.states) (excerpt text))), after) ∧
        after.SamePlace run
  /-- The match of a rule takes all of the text exactly if it ends where the text ends, if it begins
  where the text begins. -/
  ends : ∀ {rules : List (Rule V)} {text rule found}, rule.Proper →
    firstMatch? Rule.pattern text rules = some (rule, found) →
      (found.whole = text ↔ byteLength (text.take found.hit.stop) = byteLength text)

end

/-! ## Matches at the end of a text -/

/-- A match in front of the text takes all of it exactly if it ends where the text ends. -/
theorem Rule.Proper.whole_eq_iff {rules : List (Rule V)} {text : List Char} {rule : Rule V}
    {found : Match} (h : rule.Proper)
    (hfirst : firstMatch? Rule.pattern text rules = some (rule, found)) :
    found.whole = text ↔ byteLength (text.take found.hit.stop) = byteLength text := by
  rw [StartsInFront.whole_eq_take h (mem_of_firstMatch? hfirst).2]
  constructor
  · intro hall
    rw [hall]
  · intro hlength
    exact eq_of_sublist_of_measure_le byteLength_append (fun _ => byteLength_eq_zero)
      (List.take_sublist _ _) (Nat.le_of_eq hlength.symm)

namespace Lexing

variable {rules : List (Rule V)} {states : List String} {base : Nat} {text : List Char}

/-- Bytes that are no text stop a match that reaches them. -/
theorem select_of_barred
    (h : ∀ rule found, firstMatch? Rule.pattern text rules = some (rule, found) →
      found.whole = text) (position : Nat) :
    select rules states base text (some position) = .error (.undecodable position) := by
  unfold select
  cases hfirst : firstMatch? Rule.pattern text rules with
  | none => rfl
  | some chosen =>
    obtain ⟨rule, found⟩ := chosen
    dsimp only
    rw [h rule found hfirst, if_pos rfl]

theorem select_of_first {rule : Rule V} {found : Match}
    (hfirst : firstMatch? Rule.pattern text rules = some (rule, found)) {undecodable : Option Nat}
    (h : found.whole = text → undecodable = none) :
    select rules states base text undecodable = .ok ⟨rule, found, base⟩ := by
  unfold select
  rw [hfirst]
  cases undecodable with
  | none => rfl
  | some position =>
    have hshort : byteLength found.whole ≠ byteLength text := by
      intro hlength
      have hpart : found.whole.Sublist text := by
        rw [← text_of_match? (mem_of_firstMatch? hfirst).2]
        exact found.whole_sublist
      have hnone := h (eq_of_sublist_of_measure_le byteLength_append
        (fun _ => byteLength_eq_zero) hpart (Nat.le_of_eq hlength.symm))
      cases hnone
    dsimp only
    rw [if_neg hshort]

end Lexing

/-! ## Rounds over bytes -/

/-- The text of bytes that are not all text, and what a window of them says of those behind it. -/
theorem windowText_of_undecodable {bytes : List UInt8} {text : List Char}
    (hlongest : IsLongestText bytes text) (hnever : ∀ whole, encode whole ≠ bytes) (base : Nat)
    (atEnd : Bool) :
    ∃ undecodable, windowText bytes base atEnd = (text, undecodable) ∧
      (atEnd = true ∨ (decode bytes).2 = .invalid → undecodable = some (base + byteLength text)) ∧
      (atEnd = false → (decode bytes).2 ≠ .invalid → undecodable = none) := by
  have htext : (decode bytes).1 = text := ((isLongestText_iff bytes text).1 hlongest).symm
  have hchunk : Chunk.text bytes = decode bytes := rfl
  unfold windowText
  rw [hchunk]
  cases hending : (decode bytes).2 with
  | complete => exact absurd hending ((decode_ne_complete_iff bytes).2 hnever)
  | split => cases atEnd <;> simp [hending, htext]
  | invalid => simp [hending, htext]

section

variable {ι : Type} [Input ι (List UInt8)] {bytes : List UInt8} {Sane : ι → Prop} {lexer : Lexer V}
  {run : Lexing ι} {rules : List (Rule V)} {text : List Char}

/-- **What decides a round whose window holds all that is left**: the text, and whether it is
evident that the bytes behind it are none. -/
theorem Shows.choose_of_lastBytes (h : Shows bytes Sane) (hrun : Sane run.input)
    (hactive : lexer.active run.states = .ok rules)
    (hlast : Lexing.LastBytes lexer bytes run text) :
    ∃ undecodable chosen, Lexing.choose lexer run =
        (Lexing.select rules run.states run.position text undecodable, chosen) ∧
      Sane chosen.input ∧ chosen.SamePlace run ∧
      (Lexing.Evident lexer bytes run → undecodable = some (run.position + byteLength text)) ∧
      (¬Lexing.Evident lexer bytes run → undecodable = none) := by
  obtain ⟨input, hpeek⟩ := h.peek hrun lexer.options.request
  have hinside : run.position ≤ bytes.length := h.bounds.position_le hrun
  have hreaches := hlast.reaches
  have hall : (bytes.drop run.position).take lexer.options.request = bytes.drop run.position := by
    apply List.take_of_length_le
    rw [List.length_drop]
    omega
  have hroom : (bytes.drop run.position).length < lexer.options.request ↔
      bytes.length < run.position + lexer.options.request := by
    rw [List.length_drop]
    omega
  rw [show Input.position run.input = run.position from rfl, hall] at hpeek
  obtain ⟨undecodable, hwindow, hshown, hhidden⟩ := windowText_of_undecodable hlast.longest
    hlast.undecodable run.position ((bytes.drop run.position).length < lexer.options.request)
  refine ⟨undecodable, ⟨input, run.states⟩, ?_, ?_, ?_, ?_, ?_⟩
  · rw [Lexing.choose_of_chunk hactive hpeek]
    have hunits : Chunk.units (bytes.drop run.position) = (bytes.drop run.position).length := rfl
    rw [hunits, hwindow]
  · exact (h.bounds.advances.peek hrun hpeek).1
  · exact ⟨(h.bounds.advances.peek hrun hpeek).2, rfl⟩
  · intro hevident
    apply hshown
    rw [decide_eq_true_eq, hroom, decode_invalid_iff]
    exact hevident
  · intro hhides
    unfold Lexing.Evident at hhides
    rw [not_or, ← hroom, ← decode_invalid_iff] at hhides
    exact hhidden (decide_eq_false hhides.1) hhides.2

variable [Sourced ι] [LawfulInput ι]

/-- **A round whose window holds the last bytes**, over any input that shows its bytes. -/
theorem Shows.lastWindow (h : Shows bytes Sane) (lexer : Lexer V) {first : Lexing ι}
    (hfirst : Sane first.input) : LastWindow lexer bytes (Lexing.Evident lexer bytes) first where
  stops := by
    intro run hreached rules hactive text hlast hevident hbarred
    have hrun := h.bounds.advances.reached hfirst hreached
    obtain ⟨undecodable, chosen, hchoose, -, hplace, hshown, -⟩ :=
      h.choose_of_lastBytes hrun hactive hlast
    rw [hshown hevident, Lexing.select_of_barred hbarred] at hchoose
    obtain ⟨hnone, hround⟩ := Lexing.round_of_error hchoose
    exact ⟨hnone, chosen, hround, hplace⟩
  fires := by
    intro run hreached rules hactive text hlast rule found hfound hfree
    have hrun := h.bounds.advances.reached hfirst hreached
    obtain ⟨undecodable, chosen, hchoose, hsane, ⟨hposition, hstates⟩, -, hhidden⟩ :=
      h.choose_of_lastBytes hrun hactive hlast
    rw [Lexing.select_of_first hfound fun hall => hhidden (hfree hall)] at hchoose
    have hheld := Lexing.holds_of_choose hchoose
    have hround : Lexing.round lexer run = Lexing.fire lexer ⟨rule, found, run.position⟩ chosen := by
      unfold Lexing.round
      rw [hchoose]
    rw [Lexing.fire_of_holds hheld, hstates] at hround
    refine ⟨_, hround, rfl, ?_⟩
    rw [← hposition]
    exact (h.bounds.advances.advance hsane hheld).2
  fails := by
    intro run hreached rules hactive text hlast hnone hhides
    have hrun := h.bounds.advances.reached hfirst hreached
    obtain ⟨undecodable, chosen, hchoose, -, hplace, -, hhidden⟩ :=
      h.choose_of_lastBytes hrun hactive hlast
    have hselect : Lexing.select rules run.states run.position text none =
        .error (.noMatch (stateLabel run.states) (excerpt text)) := by
      unfold Lexing.select
      rw [hnone]
    rw [hhidden hhides, hselect] at hchoose
    exact ⟨chosen, (Lexing.round_of_error hchoose).2, hplace⟩
  ends := by
    intro rules text rule found hproper hfound
    exact hproper.whole_eq_iff hfound

end

/-! ## The inputs -/

/-- **Bytes that are no text are not skipped over** where the window holds all that is left and it is
evident that they are none: whatever the lexer is, over bytes in memory and over the bytes of a
source that reads fully. -/
theorem Lexing.lastWindow_of_bytes (lexer : Lexer V) (bytes : List UInt8) (states : List String) :
    LastWindow lexer bytes (Evident lexer bytes) (start (ByteCursor.ofBytes bytes) states) ∧
    ∀ source : Source, source.ReadsFully → source.bytes = bytes → ∀ blockSize,
      LastWindow lexer bytes (Evident lexer bytes)
        (start (BufferedBytes.ofSource source blockSize) states) := by
  constructor
  · exact (ByteCursor.shows bytes).lastWindow lexer (ByteCursor.inside_ofBytes bytes)
  · rintro source hreads rfl blockSize
    exact (BufferedBytes.shows hreads).lastWindow lexer
      ⟨0, BufferedBytes.at_ofSource source blockSize⟩

/-- Words of at most two bytes, so that three are peeked. -/
def Demo.tightWords : List (Declaration Value) :=
  [.options ⟨2, true⟩, .rule "\\w+" (giving fun m => ⟨some "WORD", wholeText m⟩)]

/-- A letter and the first byte of a character, with room in the window behind them. -/
theorem Lexing.lastWindow_of_bytes_cut : ∃ lexer, Lexer.build Demo.tightWords = .ok lexer ∧
    LastBytes lexer [0x61, 0xC3]
      (start (BufferedBytes.ofSource (.ofBytes [0x61, 0xC3]) 1) []) ['a'] ∧
    Evident lexer [0x61, 0xC3] (start (BufferedBytes.ofSource (.ofBytes [0x61, 0xC3]) 1) []) ∧
    LastWindow lexer [0x61, 0xC3] (Evident lexer [0x61, 0xC3])
      (start (BufferedBytes.ofSource (.ofBytes [0x61, 0xC3]) 1) []) := by
  have hoptions : (Lexer.build Demo.tightWords).map Lexer.options = .ok ⟨2, true⟩ := by rfl
  cases hlexer : Lexer.build Demo.tightWords with
  | error fault =>
    rw [hlexer] at hoptions
    cases hoptions
  | ok lexer =>
    rw [hlexer] at hoptions
    have hrequest : lexer.options.request = 3 := by
      rw [Except.ok.inj hoptions]
      rfl
    have hall := lastWindow_of_bytes lexer [0x61, 0xC3] []
    refine ⟨lexer, rfl, ⟨?_, ?_, ?_⟩, ?_, ?_⟩
    · rw [hrequest]
      decide
    · exact (isLongestText_iff _ _).2 (by decide)
    · exact (decode_ne_complete_iff _).1 (by decide)
    · apply Or.inl
      rw [hrequest]
      decide
    · exact hall.2 (.ofBytes [0x61, 0xC3]) (Source.readsFully_ofBytes _) rfl 1

/-- With one letter more the window is full, and the word is given that reaches the byte. -/
theorem Lexing.not_lastWindow_of_full : ∃ lexer, Lexer.build Demo.tightWords = .ok lexer ∧
    ¬LastWindow lexer [0x61, 0x62, 0xC3] (fun _ => True)
      (start (ByteCursor.ofBytes [0x61, 0x62, 0xC3]) []) := by
  have hword : (Lexer.build Demo.tightWords).toOption.map (fun lexer =>
      ((firstMatch? Rule.pattern ['a', 'b'] lexer.rules).map fun chosen => chosen.2.whole,
        (firing? lexer (start (ByteCursor.ofBytes [0x61, 0x62, 0xC3]) [])).map fun f =>
          f.reaction.token,
        lexer.options)) =
      some (some ['a', 'b'], some (some ⟨some "WORD", .text "ab"⟩), ⟨2, true⟩) := by
    decide +kernel
  cases hlexer : Lexer.build Demo.tightWords with
  | error fault =>
    rw [hlexer] at hword
    cases hword
  | ok lexer =>
    rw [hlexer] at hword
    simp only [Except.toOption, Option.map_some, Option.some.injEq, Prod.mk.injEq] at hword
    obtain ⟨hmatch, hfired, hoptions⟩ := hword
    refine ⟨lexer, rfl, fun hall => ?_⟩
    have hlast : LastBytes lexer [0x61, 0x62, 0xC3]
        (start (ByteCursor.ofBytes [0x61, 0x62, 0xC3]) []) ['a', 'b'] := by
      refine ⟨?_, (isLongestText_iff _ _).2 (by decide), (decode_ne_complete_iff _).1 (by decide)⟩
      rw [hoptions]
      decide
    have hbarred : ∀ rule found, firstMatch? Rule.pattern ['a', 'b'] lexer.rules =
        some (rule, found) → found.whole = ['a', 'b'] := by
      intro rule found hfound
      rw [hfound] at hmatch
      exact Option.some.inj hmatch
    have hactive : lexer.active (start (ByteCursor.ofBytes [0x61, 0x62, 0xC3]) []).states =
        .ok lexer.rules := rfl
    rw [(hall.stops .start hactive hlast trivial hbarred).1] at hfired
    cases hfired

end Lexis
