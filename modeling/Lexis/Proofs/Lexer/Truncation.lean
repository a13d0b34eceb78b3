import Lexis.Proofs.Lexer.Window

/-!
# Tokens at the edge of the window

With `rejectTruncated` a lexer peeks one unit more than a token may have, so that a match which
might have gone on is seen to be too long. For characters this is so: a token whose match takes in
all that the window shows ends with the input, or it is a fault. For bytes there is an exception.
Where the unit beyond the window lies inside a character, the text of the window ends before that
character, and a match up to there is not too long; its token is given although it might have gone
on.

Principal results:

* `Reads.lt_of_peek` — what fits into the window of a run;
* `Reads.next_of_fills` — what a match that fills the window makes the next answer;
* `Reads.uncut` — any input whose chunks are windows;
* `Lexing.uncut_of_rejectTruncated` — the four kinds of inputs;
* `Lexing.cut_within_character` — the exception is one.
-/

namespace Lexis

open Pattern Text

variable {ι κ V : Type} [Chunk κ] [Input ι κ]

/-! ## Tokens that are given -/

/-- The action of the rule gives the token, which has a name. -/
def Firing.Gives (f : Firing ι V) (token : Token V) : Prop :=
  (f.choice.rule.action f.choice.found ⟨f.before.states, f.choice.base⟩).token = some token ∧
    token.isIgnorable = false

/-- The match is all the text that the window of the run shows. -/
def Firing.Fills (lexer : Lexer V) (run : Lexing ι) (f : Firing ι V) : Prop :=
  ∃ chunk i', Input.peek lexer.options.request run.input = (.ok chunk, i') ∧
    f.text = (Chunk.text chunk).1

/-- The match ends with the text of the input. -/
def Firing.AtEnd (text : List Char) (f : Firing ι V) : Prop :=
  f.after.position = unitsIn κ text

/-- Behind the match there is a character which begins in the window, or right behind it, and ends
beyond the unit that is peeked in addition. -/
def Firing.BeforeCut (window : Nat) (text : List Char) (f : Firing ι V) : Prop :=
  ∃ done c left, text = done ++ f.text ++ c :: left ∧
    f.after.position = unitsIn κ (done ++ f.text) ∧ unitsIn κ f.text ≤ window ∧
    window + 1 < unitsIn κ (f.text ++ [c])

/-- At all runs that are reached, a token whose match fills the window is an answer only where the
match is fine, and otherwise there is a fault. -/
structure Uncut (lexer : Lexer V) (Fine : Firing ι V → Prop) (first : Lexing ι) : Prop where
  /-- A token that is an answer is given by a rule that fires, whose match is fine if it fills the
  window. -/
  emitted : ∀ run, Lexing.Reached lexer first run → ∀ limit token after,
    Lexing.next lexer limit run = (some (.ok token), after) →
      ∃ last f, Lexing.Reached lexer first last ∧ Lexing.firing? lexer last = some f ∧
        f.Gives token ∧ f.after = after ∧ (f.Fills lexer last → Fine f)
  /-- A match that fills the window and whose token is to be given is fine, and the token is the next
  answer, or it is too long, and that is a fault. -/
  fills : ∀ run, Lexing.Reached lexer first run → ∀ f token,
    Lexing.firing? lexer run = some f → f.Gives token → f.Fills lexer run →
      (Fine f ∧ ∀ limit, Lexing.next lexer (limit + 1) run = (some (.ok token), f.after)) ∨
      (lexer.options.window < unitsIn κ f.text ∧ ∀ limit, Lexing.next lexer (limit + 1) run =
        (some (.error (.windowExhausted (stateLabel f.after.states) lexer.options.window)),
          f.after))

namespace Lexing

theorem named_of_react {lexer : Lexer V} {units : Nat} {choice : Choice V} {states : List String}
    {token : Token V} (h : (react lexer units choice states).1 = .answer (.ok token)) :
    token.isIgnorable = false := by
  have hgiven := react_token h
  cases hnamed : token.isIgnorable with
  | false => rfl
  | true =>
    unfold react at h
    simp only [hgiven, hnamed, if_true] at h
    split at h <;> cases h

variable [LawfulChunk κ] [Sourced ι] [LawfulInput ι] {lexer : Lexer V} {run : Lexing ι}
  {f : Firing ι V}

theorem exists_firing {token : Token V} {after : Lexing ι}
    (h : round lexer run = (.answer (.ok token), after)) :
    ∃ f, firing? lexer run = some f ∧ f.Gives token ∧ f.after = after := by
  rcases round_or_firing lexer run with ⟨fault, after', -, hround⟩ | ⟨f, hfiring⟩
  · rw [h] at hround
    cases hround
  · obtain ⟨hround, hreact⟩ := react_of_firing hfiring
    rw [h, Prod.mk.injEq] at hround
    have houtcome := congrArg Prod.fst hreact
    rw [← hround.1] at houtcome
    exact ⟨f, hfiring, ⟨react_token houtcome.symm, named_of_react houtcome.symm⟩, hround.2.symm⟩

end Lexing

/-! ## What fits into a window -/

variable [LawfulChunk κ] {bytes : List UInt8} {Behind : ι → List Char → Prop}
  {lexer : Lexer V} {run : Lexing ι} {done : List Char}

/-- **One more character would not fit into the window** nor into the unit beyond it. -/
theorem Reads.lt_of_peek (h : Reads bytes Behind) (hreject : lexer.options.rejectTruncated = true)
    (hfits : lexer.options.window < requestLimit ∨ unitsIn κ (decode bytes).1 ≤ requestLimit)
    (hrun : Behind run.input done) {chunk : κ} {i' : ι}
    (hpeek : Input.peek lexer.options.request run.input = (.ok chunk, i')) {c : Char}
    (hc : done ++ (Chunk.text chunk).1 ++ [c] <+: (decode bytes).1) :
    lexer.options.window + 1 < unitsIn κ ((Chunk.text chunk).1 ++ [c]) := by
  have hfull := (h.window hrun hpeek).full c hc
  have hrequest : lexer.options.request = min (lexer.options.window + 1) requestLimit := by
    unfold Options.request
    rw [if_pos hreject]
  obtain ⟨more, hmore⟩ := hc
  have hunits : unitsIn κ (decode bytes).1 = unitsIn κ done +
      unitsIn κ ((Chunk.text chunk).1 ++ [c]) + unitsIn κ more := by
    rw [← hmore, unitsIn_append, List.append_assoc, unitsIn_append]
  rw [hrequest] at hfull
  omega

/-- Behind a match that fills the window the text ends, or there is a character for which the window
and the unit beyond it have no room. -/
theorem Reads.atEnd_or_beforeCut [Sourced ι] [LawfulInput ι] (h : Reads bytes Behind)
    (hlexer : lexer.Proper) (hreject : lexer.options.rejectTruncated = true)
    (hfits : lexer.options.window < requestLimit ∨ unitsIn κ (decode bytes).1 ≤ requestLimit)
    (hrun : Behind run.input done) {f : Firing ι V} (hf : Lexing.firing? lexer run = some f)
    (hfills : f.Fills lexer run) (hshort : unitsIn κ f.text ≤ lexer.options.window) :
    f.AtEnd (decode bytes).1 ∨ f.BeforeCut lexer.options.window (decode bytes).1 := by
  obtain ⟨chunk, i', hpeek, htext⟩ := hfills
  obtain ⟨-, hafter⟩ := h.tracks.of_firing hlexer hrun hf
  have hposition : f.after.position = unitsIn κ (done ++ f.text) := h.tracks.position hafter
  obtain ⟨left, hleft⟩ := h.tracks.behind hafter
  cases left with
  | nil =>
    left
    rw [List.append_nil] at hleft
    rw [← hleft]
    exact hposition
  | cons c left =>
    right
    have hc : done ++ (Chunk.text chunk).1 ++ [c] <+: (decode bytes).1 := by
      rw [← htext, ← hleft]
      exact (List.prefix_append_right_inj _).2 ⟨left, rfl⟩
    have hcut := h.lt_of_peek hreject hfits hrun hpeek hc
    rw [← htext] at hcut
    exact ⟨done, c, left, hleft.symm, hposition, hshort, hcut⟩

/-- What a match that fills the window, and whose token is to be given, makes the next answer. -/
theorem Reads.next_of_fills [Sourced ι] [LawfulInput ι] (h : Reads bytes Behind)
    (hlexer : lexer.Proper) (hreject : lexer.options.rejectTruncated = true)
    (hfits : lexer.options.window < requestLimit ∨ unitsIn κ (decode bytes).1 ≤ requestLimit)
    (hrun : Behind run.input done) {f : Firing ι V} (hf : Lexing.firing? lexer run = some f)
    {token : Token V} (hgives : f.Gives token) (hfills : f.Fills lexer run) :
    ((f.AtEnd (decode bytes).1 ∨ f.BeforeCut lexer.options.window (decode bytes).1) ∧
      ∀ limit, Lexing.next lexer (limit + 1) run = (some (.ok token), f.after)) ∨
    (lexer.options.window < unitsIn κ f.text ∧ ∀ limit, Lexing.next lexer (limit + 1) run =
      (some (.error (.windowExhausted (stateLabel f.after.states) lexer.options.window)),
        f.after)) := by
  obtain ⟨hround, hreact⟩ := Lexing.react_of_firing hf
  have houtcome := congrArg Prod.fst hreact
  have hstates := congrArg Prod.snd hreact
  dsimp only at houtcome hstates
  rw [Lexing.react_of_gives hgives.1 hgives.2, ← hstates] at houtcome
  rw [houtcome] at hround
  by_cases hlong : lexer.options.window < unitsIn κ f.text
  · rw [if_pos hlong] at hround
    exact Or.inr ⟨hlong, Lexing.next_of_answer hround⟩
  · rw [if_neg hlong] at hround
    have hshort : unitsIn κ f.text ≤ lexer.options.window := Nat.le_of_not_lt hlong
    have hfine := h.atEnd_or_beforeCut hlexer hreject hfits hrun hf hfills hshort
    exact Or.inl ⟨hfine, Lexing.next_of_answer hround⟩

/-- **Tokens at the edge of the window**, over any input whose chunks are windows. -/
theorem Reads.uncut [Sourced ι] [LawfulInput ι] (h : Reads bytes Behind) (hlexer : lexer.Proper)
    (hreject : lexer.options.rejectTruncated = true)
    (hfits : lexer.options.window < requestLimit ∨ unitsIn κ (decode bytes).1 ≤ requestLimit)
    (first : Lexing ι) (hfirst : Behind first.input []) :
    Uncut lexer (fun f => f.AtEnd (decode bytes).1 ∨
      f.BeforeCut lexer.options.window (decode bytes).1) first where
  emitted := by
    intro run hrun limit token after hnext
    obtain ⟨last, hlast, hround⟩ := hrun.exists_round hnext
    obtain ⟨f, hf, hgives, hafter⟩ := Lexing.exists_firing hround
    refine ⟨last, f, hlast, hf, hgives, hafter, fun hfills => ?_⟩
    obtain ⟨done, hdone⟩ := h.tracks.reached hlexer hfirst hlast
    rcases h.next_of_fills hlexer hreject hfits hdone hf hgives hfills with ⟨hfine, -⟩ | ⟨-, hfault⟩
    · exact hfine
    · -- the round has ended with the token
      have htoken := Lexing.next_of_answer hround 0
      rw [hfault 0] at htoken
      cases htoken
  fills := by
    intro run hrun f token hf hgives hfills
    obtain ⟨done, hdone⟩ := h.tracks.reached hlexer hfirst hrun
    exact h.next_of_fills hlexer hreject hfits hdone hf hgives hfills

/-! ## The inputs -/

/-- For characters there is no exception. -/
theorem Firing.not_beforeCut {ι : Type} [Input ι (List Char)] {window : Nat} {text : List Char}
    (f : Firing ι V) : ¬f.BeforeCut window text := by
  rintro ⟨done, c, left, -, -, hfits, hcut⟩
  have hunits : ∀ cs : List Char, unitsIn (List Char) cs = cs.length := fun _ => rfl
  rw [hunits] at hfits
  rw [hunits, List.length_append, List.length_singleton] at hcut
  omega

theorem Uncut.of_chars {ι : Type} [Input ι (List Char)] {lexer : Lexer V} {window : Nat}
    {text : List Char} {first : Lexing ι}
    (h : Uncut lexer (fun f => f.AtEnd text ∨ f.BeforeCut window text) first) :
    Uncut lexer (Firing.AtEnd text) first where
  emitted := by
    intro run hrun limit token after hnext
    obtain ⟨last, f, hlast, hf, hgives, hafter, hfine⟩ := h.emitted run hrun limit token after hnext
    have hend : f.Fills lexer last → f.AtEnd text :=
      fun hfills => (hfine hfills).resolve_right f.not_beforeCut
    exact ⟨last, f, hlast, hf, hgives, hafter, hend⟩
  fills := by
    intro run hrun f token hf hgives hfills
    rcases h.fills run hrun f token hf hgives hfills with ⟨hfine, hnext⟩ | hlong
    · exact Or.inl ⟨hfine.resolve_right f.not_beforeCut, hnext⟩
    · exact Or.inr hlong

/-- **With `rejectTruncated` no token is cut by the window**, over the four kinds of inputs, but for
characters that lie across the end of a window of bytes. The window can be asked for with one unit
more, or the text is not longer than the greatest request. -/
theorem Lexing.uncut_of_rejectTruncated (lexer : Lexer V) (hlexer : lexer.Proper)
    (hreject : lexer.options.rejectTruncated = true) (text : List Char)
    (hfits : lexer.options.window < requestLimit ∨ byteLength text ≤ requestLimit)
    (states : List String) :
    Uncut lexer (Firing.AtEnd text) (start (TextCursor.ofText text) states) ∧
    (∀ source : Source, source.CopiesAll → source.bytes = encode text → ∀ blockSize,
      Uncut lexer (Firing.AtEnd text) (start (BufferedText.ofSource source blockSize) states)) ∧
    Uncut lexer (fun f => f.AtEnd text ∨ f.BeforeCut lexer.options.window text)
      (start (ByteCursor.ofBytes (encode text)) states) ∧
    ∀ source : Source, source.CopiesAll → source.bytes = encode text → ∀ blockSize,
      Uncut lexer (fun f => f.AtEnd text ∨ f.BeforeCut lexer.options.window text)
        (start (BufferedBytes.ofSource source blockSize) states) := by
  have hdecode : (decode (encode text)).1 = text := by rw [decode_encode]
  have hchars : lexer.options.window < requestLimit ∨ unitsIn (List Char) text ≤ requestLimit :=
    hfits.imp_right (Nat.le_trans (length_le_byteLength text))
  refine ⟨?_, fun source hcopies hsource blockSize => ?_, ?_,
    fun source hcopies hsource blockSize => ?_⟩
  · have huncut := (TextCursor.reads text).uncut hlexer hreject (by rw [hdecode]; exact hchars)
      (start (TextCursor.ofText text) states) (TextCursor.at_ofText text)
    rw [hdecode] at huncut
    exact huncut.of_chars
  · have huncut := (BufferedText.reads hcopies).uncut hlexer hreject
      (by rw [hsource, hdecode]; exact hchars)
      (start (BufferedText.ofSource source blockSize) states)
      (BufferedText.at_ofSource source blockSize)
    rw [hsource, hdecode] at huncut
    exact huncut.of_chars
  · have huncut := (ByteCursor.reads (encode text)).uncut hlexer hreject
      (by rw [hdecode]; exact hfits)
      (start (ByteCursor.ofBytes (encode text)) states) ⟨rfl, List.nil_prefix, rfl⟩
    rw [hdecode] at huncut
    exact huncut
  · have huncut := (BufferedBytes.reads hcopies).uncut hlexer hreject
      (by rw [hsource, hdecode]; exact hfits)
      (start (BufferedBytes.ofSource source blockSize) states)
      ⟨BufferedBytes.at_ofSource source blockSize, List.nil_prefix⟩
    rw [hsource, hdecode] at huncut
    exact huncut

/-- Anything but a line break is a word, of at most four units. -/
def Demo.shortWords : List (Declaration Value) :=
  [.options ⟨4, true⟩, .rule ".+" (giving fun m => ⟨some "WORD", wholeText m⟩)]

/-- Four letters of one byte each and one of two bytes: as characters they are too long for a word,
and as bytes they may be cut. -/
theorem Lexing.uncut_of_rejectTruncated_short : ∃ lexer, Lexer.build Demo.shortWords = .ok lexer ∧
    lexer.Proper ∧
    Uncut lexer (Firing.AtEnd ['a', 'b', 'c', 'd', 'é'])
      (start (TextCursor.ofText ['a', 'b', 'c', 'd', 'é']) []) ∧
    Uncut lexer (fun f => f.AtEnd ['a', 'b', 'c', 'd', 'é'] ∨
        f.BeforeCut lexer.options.window ['a', 'b', 'c', 'd', 'é'])
      (start (ByteCursor.ofBytes (encode ['a', 'b', 'c', 'd', 'é'])) []) := by
  have hdeclared : ∀ d ∈ Demo.shortWords, d.Proper := by decide
  have hoptions : (Lexer.build Demo.shortWords).map Lexer.options = .ok ⟨4, true⟩ := by rfl
  cases hlexer : Lexer.build Demo.shortWords with
  | error fault =>
    rw [hlexer] at hoptions
    cases hoptions
  | ok lexer =>
    have hproper : lexer.Proper := Lexer.proper_of_build hdeclared hlexer
    have hsame : lexer.options = ⟨4, true⟩ := by
      rw [hlexer] at hoptions
      exact Except.ok.inj hoptions
    have hreject : lexer.options.rejectTruncated = true := by rw [hsame]
    have hfits : lexer.options.window < requestLimit := by
      rw [hsame]
      decide
    have hall := uncut_of_rejectTruncated lexer hproper hreject ['a', 'b', 'c', 'd', 'é']
      (Or.inl hfits) []
    exact ⟨lexer, rfl, hproper, hall.1, hall.2.2.1⟩

/-- The letter of two bytes is cut off and the token is given all the same. -/
theorem Lexing.cut_within_character : ∃ lexer, Lexer.build Demo.shortWords = .ok lexer ∧
    ¬Uncut lexer (Firing.AtEnd ['a', 'b', 'c', 'd', 'é'])
      (start (ByteCursor.ofBytes (encode ['a', 'b', 'c', 'd', 'é'])) []) := by
  have hfired : (Lexer.build Demo.shortWords).toOption.bind (fun lexer =>
      let run := start (ByteCursor.ofBytes (encode ['a', 'b', 'c', 'd', 'é'])) []
      (firing? lexer run).map fun f =>
        (f.text, (f.choice.rule.action f.choice.found ⟨f.before.states, f.choice.base⟩).token,
          f.after.position, lexer.options)) =
      some (['a', 'b', 'c', 'd'], some ⟨some "WORD", .text "abcd"⟩, 4, ⟨4, true⟩) := by
    decide +kernel
  cases hlexer : Lexer.build Demo.shortWords with
  | error fault =>
    rw [hlexer] at hfired
    cases hfired
  | ok lexer =>
    rw [hlexer] at hfired
    obtain ⟨f, hf, hfacts⟩ := Option.map_eq_some_iff.1 hfired
    simp only [Prod.mk.injEq] at hfacts
    obtain ⟨htext, htoken, hposition, hoptions⟩ := hfacts
    refine ⟨lexer, rfl, fun huncut => ?_⟩
    have hfills : f.Fills lexer
        (start (ByteCursor.ofBytes (encode ['a', 'b', 'c', 'd', 'é'])) []) := by
      refine ⟨_, _, rfl, ?_⟩
      rw [htext, hoptions]
      decide
    rcases huncut.fills _ .start f _ hf ⟨htoken, rfl⟩ hfills with ⟨hend, -⟩ | ⟨hlong, -⟩
    · rw [Firing.AtEnd, hposition] at hend
      revert hend
      decide
    · rw [htext, hoptions] at hlong
      revert hlong
      decide

end Lexis
