import Lexis.Proofs.Lexer.Window

/-!
# Where bytes that are no text are found

Two places find bytes that are no text: a request for characters that reaches them, and a window of
bytes with a text in front of them. Both know only what they see. Still there is one position at
most that a run can report, that of the first bytes which are no text, counted in the units of the
input; and no match reaches past it.

Principal results:

* `Lexing.choose_undecodable` — the two places;
* `Reads.undecodable`, `Reads.locates` — any input whose chunks are windows;
* `Lexing.locates_of_longestText` — bytes, in memory and buffered, and buffered characters;
* `Lexing.not_locates_of_unanchored` — a pattern that is none on its own may leave the text.
-/

namespace Lexis

open Pattern Text

variable {ι κ V : Type} [Chunk κ] [Input ι κ]

/-- At all runs that are reached over the bytes, whose longest text is `whole`, bytes that are no
text are reported right behind it, and rules match inside it. -/
structure Locates (lexer : Lexer V) (bytes : List UInt8) (whole : List Char) (first : Lexing ι) :
    Prop where
  fault : ∀ run, Lexing.Reached lexer first run → ∀ limit position after,
    Lexing.next lexer limit run = (some (.error (.undecodable position)), after) →
      (∀ text, encode text ≠ bytes) ∧ position = unitsIn κ whole
  within : ∀ run, Lexing.Reached lexer first run → ∀ f, Lexing.firing? lexer run = some f →
    ∃ done left, whole = done ++ f.text ++ left ∧ f.choice.base = unitsIn κ done ∧
      f.after.position = unitsIn κ (done ++ f.text)

namespace Lexing

theorem undecodable_of_select {rules : List (Rule V)} {states : List String} {base : Nat}
    {text : List Char} {undecodable : Option Nat} {position : Nat}
    (h : select rules states base text undecodable = .error (.undecodable position)) :
    undecodable = some position := by
  unfold select at h
  split at h
  · cases h
  · cases h
    rfl
  · cases h
  · split at h
    · cases h
      rfl
    · cases h

/-- **The two places** where bytes that are no text are found before a rule fires: the request, and
the window. -/
theorem choose_undecodable {lexer : Lexer V} {run run' : Lexing ι} {position : Nat}
    (h : choose lexer run = (.error (.undecodable position), run')) :
    Input.peek lexer.options.request run.input = (.error (.undecodable position), run'.input) ∨
    ∃ chunk : κ, Input.peek lexer.options.request run.input = (.ok chunk, run'.input) ∧
      (windowText chunk run.position (Chunk.units chunk < lexer.options.request)).2 =
        some position := by
  rcases choose_cases lexer run with
    ⟨name, hname⟩ | ⟨rules, hrules, ⟨fault, input, hpeek⟩ | ⟨chunk, input, hpeek⟩⟩
  · rw [choose_of_unknown hname] at h
    cases h
  · rw [choose_of_fault hrules hpeek] at h
    cases h
    exact Or.inl hpeek
  · rw [choose_of_chunk hrules hpeek, Prod.mk.injEq] at h
    obtain ⟨hselect, rfl⟩ := h
    exact Or.inr ⟨chunk, hpeek, undecodable_of_select hselect⟩

theorem choose_of_round [LawfulChunk κ] [Sourced ι] [LawfulInput ι] {lexer : Lexer V}
    {run after : Lexing ι} {position : Nat}
    (h : round lexer run = (.answer (.error (.undecodable position)), after)) :
    choose lexer run = (.error (.undecodable position), after) :=
  choose_of_stuck h rfl

end Lexing

section

variable [LawfulChunk κ] [Sourced ι] [LawfulInput ι] {bytes : List UInt8}
  {Behind : ι → List Char → Prop} {lexer : Lexer V}

/-- **Bytes that are no text are found at their place**, over any input whose chunks are windows. -/
theorem Reads.undecodable (h : Reads bytes Behind) {run after : Lexing ι} {done : List Char}
    (hrun : Behind run.input done) {position : Nat}
    (hround : Lexing.round lexer run = (.answer (.error (.undecodable position)), after)) :
    UndecodableAt κ bytes position := by
  rcases Lexing.choose_undecodable (Lexing.choose_of_round hround) with
    hpeek | ⟨chunk, hpeek, hwindow⟩
  · exact h.fault hrun hpeek
  · have hposition : run.position = unitsIn κ done := h.tracks.position hrun
    rw [hposition] at hwindow
    exact (h.window hrun hpeek).undecodable position hwindow

theorem Reads.locates (h : Reads bytes Behind) (hlexer : lexer.Proper) {whole : List Char}
    (hwhole : IsLongestText bytes whole) (first : Lexing ι) (hfirst : Behind first.input []) :
    Locates lexer bytes whole first where
  fault := by
    intro run hrun limit position after hnext
    obtain ⟨last, hlast, hround⟩ := hrun.exists_round hnext
    obtain ⟨done, hdone⟩ := h.tracks.reached hlexer hfirst hlast
    obtain ⟨hending, hposition⟩ := h.undecodable hdone hround
    rw [(isLongestText_iff bytes whole).1 hwhole]
    refine ⟨fun text htext => hending ?_, hposition⟩
    rw [← htext, decode_encode]
  within := by
    intro run hrun f hf
    obtain ⟨done, hdone⟩ := h.tracks.reached hlexer hfirst hrun
    obtain ⟨hsound, hafter⟩ := h.tracks.of_firing hlexer hdone hf
    obtain ⟨left, hleft⟩ := h.tracks.behind hafter
    rw [(isLongestText_iff bytes whole).1 hwhole]
    exact ⟨done, left, hleft.symm, hsound.base, h.tracks.position hafter⟩

end

/-- **A run reports bytes that are no text at one place only**, right behind the longest text that
the bytes begin with: over bytes in memory, over bytes of a source and over its characters. -/
theorem Lexing.locates_of_longestText (lexer : Lexer V) (hlexer : lexer.Proper)
    (bytes : List UInt8) (whole : List Char) (hwhole : IsLongestText bytes whole)
    (states : List String) :
    Locates lexer bytes whole (start (ByteCursor.ofBytes bytes) states) ∧
    ∀ source : Source, source.CopiesAll → source.bytes = bytes → ∀ blockSize,
      Locates lexer bytes whole (start (BufferedBytes.ofSource source blockSize) states) ∧
      Locates lexer bytes whole (start (BufferedText.ofSource source blockSize) states) := by
  constructor
  · exact (ByteCursor.reads bytes).locates hlexer hwhole (start (ByteCursor.ofBytes bytes) states)
      ⟨rfl, List.nil_prefix, rfl⟩
  · rintro source hcopies rfl blockSize
    constructor
    · exact (BufferedBytes.reads hcopies).locates hlexer hwhole
        (start (BufferedBytes.ofSource source blockSize) states)
        ⟨BufferedBytes.at_ofSource source blockSize, List.nil_prefix⟩
    · exact (BufferedText.reads hcopies).locates hlexer hwhole
        (start (BufferedText.ofSource source blockSize) states)
        (BufferedText.at_ofSource source blockSize)

/-- The lexer of the demonstration grammar over a number, a character of two bytes and the first
byte of another one. -/
theorem Lexing.locates_of_longestText_demo : ∃ lexer, Demo.lexer = .ok lexer ∧ lexer.Proper ∧
    IsLongestText [0x31, 0xC3, 0xA9, 0xC3] ['1', 'é'] ∧
    Locates lexer [0x31, 0xC3, 0xA9, 0xC3] ['1', 'é']
      (start (ByteCursor.ofBytes [0x31, 0xC3, 0xA9, 0xC3]) []) ∧
    Locates lexer [0x31, 0xC3, 0xA9, 0xC3] ['1', 'é']
      (start (BufferedText.ofSource (.ofBytes [0x31, 0xC3, 0xA9, 0xC3]) 2) []) := by
  have hdeclared : ∀ d ∈ Demo.declarations, d.Proper := by decide
  have hbuilt : Demo.lexer.isOk = true := by decide
  have hwhole : IsLongestText [0x31, 0xC3, 0xA9, 0xC3] ['1', 'é'] :=
    (isLongestText_iff _ _).2 (by decide)
  cases hlexer : Demo.lexer with
  | error fault =>
    rw [hlexer] at hbuilt
    cases hbuilt
  | ok lexer =>
    have hproper : lexer.Proper := Lexer.proper_of_build hdeclared hlexer
    have hall := locates_of_longestText lexer hproper _ _ hwhole []
    have hbuffered := hall.2 (.ofBytes [0x31, 0xC3, 0xA9, 0xC3]) (Source.copiesAll_ofBytes _) rfl 2
    exact ⟨lexer, rfl, hproper, hwhole, hall.1, hbuffered.2⟩

/-- A rule that the anchor does not bind as a whole: it matches a letter wherever it is. -/
def Demo.unanchored : List (Declaration Value) :=
  [.rule "b)|(?:a" (giving fun m => ⟨some "A", wholeText m⟩)]

/-- The letter is found behind a character of two bytes, and the cursor moves by the one byte that
the letter takes, into that character. There the text does not go on. -/
theorem Lexing.not_locates_of_unanchored : ∃ lexer, Lexer.build Demo.unanchored = .ok lexer ∧
    ¬Locates lexer (encode ['é', 'a']) ['é', 'a']
      (start (ByteCursor.ofBytes (encode ['é', 'a'])) []) := by
  have hsecond : (Lexer.build Demo.unanchored).toOption.bind (fun lexer =>
      let second := (next lexer 1 (start (ByteCursor.ofBytes (encode ['é', 'a'])) [])).2
      match (next lexer 1 second).1 with
      | some (.error fault) => some fault
      | some (.ok _) => none
      | none => none) = some (.undecodable 1) := by
    decide +kernel
  cases hlexer : Lexer.build Demo.unanchored with
  | error fault =>
    rw [hlexer] at hsecond
    cases hsecond
  | ok lexer =>
    rw [hlexer] at hsecond
    refine ⟨lexer, rfl, fun hlocates => ?_⟩
    have hreached : Reached lexer (start (ByteCursor.ofBytes (encode ['é', 'a'])) [])
        (next lexer 1 (start (ByteCursor.ofBytes (encode ['é', 'a'])) [])).2 := Reached.start.next 1
    dsimp only [Except.toOption, Option.bind_some] at hsecond
    split at hsecond
    · rename_i fault hanswer
      rw [Option.some.inj hsecond] at hanswer
      have hnever := (hlocates.fault _ hreached 1 1 _ (Prod.ext hanswer rfl)).1
      exact hnever ['é', 'a'] rfl
    · cases hsecond
    · cases hsecond

end Lexis
