import Lexis.Proofs.Input.Mirror

/-!
# Transcripts of inputs

A transcript has, for each request made of an input, the answer and the positions before and after
it. The transcript of an input that mirrors another one is the transcript of the other, with some
failures between that change nothing.

Principal results:

* `Mirrors.perform` — one request of an input and of its mirror;
* `Mirrors.transcript` — the answers that are no failures of the source are those of the mirror;
* `BufferedBytes.transcript_eq` — buffered bytes answer as a cursor over the bytes does;
* `BufferedText.transcript_eq` — buffered characters answer as the longest text of the bytes says.
-/

namespace Lexis

open Text

/-- What can be asked of an input. -/
inductive Request where
  | peek (count : Nat)
  | next (count : Nat)
  | skip (count : Nat)
  | size
  | position
  deriving DecidableEq, Repr

/-- What an input gives. -/
inductive Reply (κ : Type) where
  | chunk (chunk : κ)
  | count (n : Nat)
  deriving DecidableEq, Repr

/-- A request that was made, the answer to it, and the positions before and after it. -/
structure Entry (κ : Type) where
  request : Request
  reply : Except Fault (Reply κ)
  before : Nat
  after : Nat

/-- Whether the request was answered. -/
def Entry.succeeded {κ : Type} (e : Entry κ) : Bool := e.reply.isOk

/-- Whether a request is about the cursor and what is at it, rather than about the resource. -/
def Request.atCursor (request : Request) : Bool := request != .size

/-- Whether the entry is about the cursor and what is at it. -/
def Entry.atCursor {κ : Type} (e : Entry κ) : Bool := e.request.atCursor

namespace Input

variable {ι κ : Type} [Chunk κ] [Input ι κ]

/-- The answer to a request, and the input after it. -/
def perform (i : ι) : Request → Except Fault (Reply κ) × ι
  | .peek count => ((peek count i).1.map .chunk, (peek count i).2)
  | .next count => ((next count i).1.map .chunk, (next count i).2)
  | .skip count => ((skip count i).1.map .count, (skip count i).2)
  | .size => ((size i).map .count, i)
  | .position => (.ok (.count (position i)), i)

/-- The transcript of requests, made one after the other whatever the answers are. -/
def transcript : List Request → ι → List (Entry κ)
  | [], _ => []
  | request :: requests, i =>
    ⟨request, (perform i request).1, position i, position (perform i request).2⟩ ::
      transcript requests (perform i request).2

theorem transcript_cons (request : Request) (requests : List Request) (i : ι) :
    transcript (request :: requests) i =
      ⟨request, (perform i request).1, position i, position (perform i request).2⟩ ::
        transcript requests (perform i request).2 := rfl

theorem map_request_transcript : ∀ (requests : List Request) (i : ι),
    (transcript requests i).map Entry.request = requests
  | [], _ => rfl
  | request :: requests, i => by
    rw [transcript_cons, List.map_cons, map_request_transcript]

end Input

/-! ## Mirrored transcripts -/

/-- Whether the source has failed at the request. -/
def Entry.refused {κ : Type} (e : Entry κ) : Bool :=
  match e.reply with
  | .error (.unreadable _) => true
  | _ => false

theorem Entry.refused_iff {κ : Type} {e : Entry κ} :
    e.refused = true ↔ ∃ reason, e.reply = .error (.unreadable reason) := by
  unfold refused
  constructor
  · intro h
    split at h
    · rename_i reason heq
      exact ⟨reason, heq⟩
    · cases h
  · rintro ⟨reason, heq⟩
    rw [heq]

theorem map_ne_unreadable {α β : Type} {answer : Except Fault α} {g : α → β}
    (h : ∀ reason, answer ≠ .error (.unreadable reason)) (reason : String) :
    answer.map g ≠ .error (.unreadable reason) := by
  intro heq
  cases answer with
  | ok a => cases heq
  | error fault =>
    cases heq
    exact h reason rfl

/-- The two inputs tell the same length, but that the first one may fail to, for one of the
reasons. -/
def SizeMirrors {ι₁ ι₂ κ : Type} [Chunk κ] [Input ι₁ κ] [Input ι₂ κ] (SizeFails : String → Prop)
    (a : ι₁) (b : ι₂) : Prop :=
  (∃ reason, Input.size a = .error (.unreadable reason) ∧ SizeFails reason) ∨
    Input.size a = Input.size b ∧ ∀ reason, Input.size a ≠ .error (.unreadable reason)

namespace Mirrors

variable {ι₁ ι₂ κ : Type} [Chunk κ] [Input ι₁ κ] [Input ι₂ κ] {Refuses SizeFails : String → Prop}
  {R : ι₁ → ι₂ → Prop} {a : ι₁} {b : ι₂}

/-- A request fails for one of the reasons and changes nothing, or is answered as the mirror answers
it. -/
theorem perform (h : Mirrors Refuses R) (hab : R a b) (request : Request)
    (hsize : request = .size → SizeMirrors SizeFails a b) :
    (∃ reason, (Input.perform a request).1 = .error (.unreadable reason) ∧
      R (Input.perform a request).2 b ∧
      if request = .size then SizeFails reason else Refuses reason) ∨
    ((Input.perform a request).1 = (Input.perform b request).1 ∧
      R (Input.perform a request).2 (Input.perform b request).2 ∧
      ∀ reason, (Input.perform a request).1 ≠ .error (.unreadable reason)) := by
  cases request with
  | size =>
    rcases hsize rfl with ⟨reason, hreason, hfails⟩ | ⟨hsame, hfine⟩
    · simp only [Input.perform, hreason]
      exact Or.inl ⟨reason, rfl, hab, hfails⟩
    · exact Or.inr ⟨congrArg (Except.map Reply.count) hsame, hab, map_ne_unreadable hfine⟩
  | position =>
    refine Or.inr ⟨?_, hab, fun reason heq => by cases heq⟩
    show Except.ok (Reply.count (Input.position a)) = _
    rw [h.position hab]
    rfl
  | peek count =>
    rcases h.peek hab count with ⟨reason, a', ha, hab', hreason⟩ | ⟨r, a', b', ha, hb, hab', hr, -⟩
    · simp only [Input.perform, ha]
      exact Or.inl ⟨reason, rfl, hab', hreason⟩
    · simp only [Input.perform, ha, hb]
      exact Or.inr ⟨trivial, hab', map_ne_unreadable hr⟩
  | next count =>
    rcases h.peek hab count with ⟨reason, a', ha, hab', hreason⟩ | ⟨r, a', b', ha, hb, hab', hr, hm⟩
    · simp only [Input.perform, Input.next, ha]
      exact Or.inl ⟨reason, rfl, hab', hreason⟩
    · simp only [Input.perform, Input.next, ha, hb]
      cases r with
      | error fault => exact Or.inr ⟨rfl, hab', map_ne_unreadable hr⟩
      | ok chunk => exact Or.inr ⟨rfl, hm chunk rfl _ (Nat.le_refl _), map_ne_unreadable hr⟩
  | skip count =>
    rcases h.peek hab count with ⟨reason, a', ha, hab', hreason⟩ | ⟨r, a', b', ha, hb, hab', hr, hm⟩
    · simp only [Input.perform, Input.skip, ha]
      exact Or.inl ⟨reason, rfl, hab', hreason⟩
    · simp only [Input.perform, Input.skip, ha, hb]
      cases r with
      | error fault =>
        refine Or.inr ⟨rfl, hab', fun reason heq => ?_⟩
        cases heq
        exact hr reason rfl
      | ok chunk => exact Or.inr ⟨rfl, hm chunk rfl _ (Nat.le_refl _), fun _ heq => by cases heq⟩

/-- **The transcript of an input over a source and that of its mirror.** Where the source fails, the
cursor stays; the other entries are what the mirror answers to the same requests. -/
theorem transcript (h : Mirrors Refuses R) : ∀ {a : ι₁} {b : ι₂} (requests : List Request), R a b →
    (.size ∈ requests → ∀ {a b}, R a b → SizeMirrors SizeFails a b) →
      (∀ e ∈ Input.transcript requests a, e.refused →
        e.after = e.before ∧ ∃ reason, e.reply = .error (.unreadable reason) ∧
          if e.request = .size then SizeFails reason else Refuses reason) ∧
      (Input.transcript requests a).filter (!·.refused) =
        Input.transcript (((Input.transcript requests a).filter (!·.refused)).map (·.request)) b
  | _, _, [], _, _ => ⟨fun _ he => absurd he List.not_mem_nil, rfl⟩
  | a, b, request :: requests, hab, hsize => by
    have hrest : .size ∈ requests → ∀ {a b}, R a b → SizeMirrors SizeFails a b :=
      fun hmem => hsize (List.mem_cons_of_mem _ hmem)
    have hfirst : request = .size → SizeMirrors SizeFails a b :=
      fun heq => hsize (heq ▸ List.mem_cons_self) hab
    have hposition := h.position hab
    rw [Input.transcript_cons request requests a]
    rcases h.perform hab request hfirst with
      ⟨reason, hreply, hab', hreason⟩ | ⟨hreply, hab', hfine⟩
    · obtain ⟨hfail, heq⟩ := transcript h requests hab' hrest
      refine ⟨fun e he hrefused => ?_, ?_⟩
      · rcases List.mem_cons.1 he with rfl | he
        · refine ⟨?_, reason, hreply, hreason⟩
          exact (h.position hab').trans hposition.symm
        · exact hfail e he hrefused
      · rw [List.filter_cons_of_neg (by simp [Entry.refused, hreply])]
        exact heq
    · obtain ⟨hfail, heq⟩ := transcript h requests hab' hrest
      have hkept : Entry.refused ⟨request, (Input.perform a request).1, Input.position a,
          Input.position (Input.perform a request).2⟩ = false := by
        rw [Bool.eq_false_iff]
        intro hrefused
        obtain ⟨reason, hreason⟩ := Entry.refused_iff.1 hrefused
        exact hfine reason hreason
      refine ⟨fun e he hrefused => ?_, ?_⟩
      · rcases List.mem_cons.1 he with rfl | he
        · rw [hkept] at hrefused
          cases hrefused
        · exact hfail e he hrefused
      · rw [List.filter_cons_of_pos (by rw [hkept]; rfl), List.map_cons, Input.transcript_cons,
          ← heq, hreply, hposition, h.position hab']

end Mirrors

theorem Mirrors.transcript_eq {ι₁ ι₂ κ : Type} [Chunk κ] [Input ι₁ κ] [Input ι₂ κ]
    {R : ι₁ → ι₂ → Prop} {Refuses : String → Prop} (h : Mirrors Refuses R)
    (hnever : ∀ reason, ¬Refuses reason) {requests : List Request}
    (hsize : .size ∈ requests → ∀ {a b}, R a b → SizeMirrors (fun _ => False) a b) {a : ι₁} {b : ι₂}
    (hab : R a b) : Input.transcript requests a = Input.transcript requests b := by
  obtain ⟨hfail, heq⟩ := h.transcript requests hab hsize
  have hall : (Input.transcript requests a).filter (!·.refused) = Input.transcript requests a := by
    refine List.filter_eq_self.2 fun e he => ?_
    rw [Bool.not_eq_true', Bool.eq_false_iff]
    intro hrefused
    obtain ⟨-, reason, -, hreason⟩ := hfail e he hrefused
    split at hreason
    · exact hreason
    · exact hnever reason hreason
  rw [hall, Input.map_request_transcript] at heq
  exact heq

/-! ## Bytes -/

theorem ByteCursor.succeeded_of_mem : ∀ (requests : List Request) (c : ByteCursor),
    ∀ e ∈ Input.transcript requests c, e.succeeded = true
  | [], _, _, he => absurd he List.not_mem_nil
  | request :: requests, c, e, he => by
    rcases List.mem_cons.1 he with rfl | he
    · cases request <;> rfl
    · exact succeeded_of_mem requests _ e he

theorem BufferedBytes.sizeMirrors {origin : Source} {i : BufferedBytes} {c : ByteCursor}
    (h : BufferedBytes.Reflects origin i c) :
    SizeMirrors (fun reason => origin.sizeFault = some reason) i c := by
  obtain ⟨hat, hbytes⟩ := h
  obtain ⟨hsame, -, hfault⟩ := hat.source
  have hsize : Input.size i = origin.size := by
    show i.blocks.source.size = _
    unfold Source.size
    rw [hsame, hfault]
  unfold SizeMirrors
  rw [hsize]
  unfold Source.size
  split
  · rename_i reason hreason
    exact Or.inl ⟨reason, rfl, hreason⟩
  · refine Or.inr ⟨?_, fun reason heq => by cases heq⟩
    rw [← hbytes]
    rfl

/-- **Buffered bytes answer as a cursor over the bytes does.** Whatever the block size is and
whichever reads the source refuses, a request that fails does so for the reason of the source and
leaves the position as it is; and the other requests are answered, position after position, as if
they alone had been made of a cursor over the bytes. -/
theorem BufferedBytes.transcript_eq_byteCursor (bytes : List UInt8)
    (refusal? : Nat → Option String) (sizeFault : Option String) (blockSize : Nat)
    (requests : List Request) :
    let entries := Input.transcript requests
      (BufferedBytes.ofSource (.flaky bytes refusal? sizeFault) blockSize)
    (∀ e ∈ entries, e.succeeded = false →
      e.after = e.before ∧ ∃ reason, e.reply = .error (.unreadable reason) ∧
        if e.request = .size then sizeFault = some reason
        else ∃ k, refusal? k = some reason) ∧
    entries.filter Entry.succeeded =
      Input.transcript ((entries.filter Entry.succeeded).map Entry.request)
        (ByteCursor.ofBytes bytes) := by
  intro entries
  have hmirrors := BufferedBytes.mirrors_byteCursor (Source.copiesAll_flaky bytes refusal? sizeFault)
  have hstart := reflects_ofSource (.flaky bytes refusal? sizeFault) blockSize
  obtain ⟨hfail, heq⟩ := hmirrors.transcript requests hstart fun _ => BufferedBytes.sizeMirrors
  have hkept : ∀ e ∈ entries, e.succeeded = !e.refused := by
    intro e he
    cases hrefused : e.refused with
    | true =>
      obtain ⟨reason, hreason⟩ := Entry.refused_iff.1 hrefused
      unfold Entry.succeeded
      rw [hreason]
      rfl
    | false =>
      have hmem : e ∈ entries.filter (!·.refused) :=
        List.mem_filter.2 ⟨he, by rw [hrefused]; rfl⟩
      rw [heq] at hmem
      exact ByteCursor.succeeded_of_mem _ _ e hmem
  refine ⟨fun e he hfailed => ?_, ?_⟩
  · rw [hkept e he, Bool.not_eq_false'] at hfailed
    obtain ⟨hstays, reason, hreply, hreason⟩ := hfail e he hfailed
    refine ⟨hstays, reason, hreply, ?_⟩
    split at hreason
    · rename_i hrequest
      rw [if_pos hrequest]
      exact hreason
    · rename_i hrequest
      rw [if_neg hrequest]
      exact Source.refuses_flaky.1 hreason
  · rw [List.filter_congr hkept]
    exact heq

/-! ## Characters -/

namespace BufferedText

/-- The answer to a request made behind the first `p` characters, and the position after it, where
`whole` is the longest text in front of the bytes. -/
def answer (bytes : List UInt8) (whole : List Char) (p : Nat) :
    Request → Except Fault (Reply (List Char)) × Nat
  | .peek count =>
    match cover whole (encode whole = bytes) p count with
    | .ok covered => (.ok (.chunk covered), p)
    | .error fault => (.error fault, p)
  | .next count =>
    match cover whole (encode whole = bytes) p count with
    | .ok covered => (.ok (.chunk covered), p + covered.length)
    | .error fault => (.error fault, p)
  | .skip count =>
    match cover whole (encode whole = bytes) p count with
    | .ok covered => (.ok (.count covered.length), p + covered.length)
    | .error fault => (.error fault, p)
  | .size => (.ok (.count bytes.length), p)
  | .position => (.ok (.count p), p)

/-- The answers to requests made one after the other, from the position on. -/
def answers (bytes : List UInt8) (whole : List Char) : List Request → Nat → List (Entry (List Char))
  | [], _ => []
  | request :: requests, p =>
    ⟨request, (answer bytes whole p request).1, p, (answer bytes whole p request).2⟩ ::
      answers bytes whole requests (answer bytes whole p request).2

end BufferedText

namespace IdealText

theorem perform_eq (t : IdealText) (request : Request) :
    Input.perform t request = ((BufferedText.answer t.bytes t.text t.position request).1,
      { t with position := (BufferedText.answer t.bytes t.text t.position request).2 }) := by
  cases request with
  | size => rfl
  | position => rfl
  | peek count =>
    simp only [Input.perform, Input.peek, BufferedText.answer]
    cases BufferedText.cover t.text (encode t.text = t.bytes) t.position count <;> rfl
  | next count =>
    simp only [Input.perform, Input.next, Input.peek, BufferedText.answer]
    cases BufferedText.cover t.text (encode t.text = t.bytes) t.position count <;> rfl
  | skip count =>
    simp only [Input.perform, Input.skip, Input.peek, BufferedText.answer]
    cases BufferedText.cover t.text (encode t.text = t.bytes) t.position count <;> rfl

theorem transcript_eq_answers : ∀ (requests : List Request) (t : IdealText),
    Input.transcript requests t = BufferedText.answers t.bytes t.text requests t.position
  | [], _ => rfl
  | request :: requests, t => by
    rw [Input.transcript_cons, transcript_eq_answers requests, perform_eq]
    rfl

end IdealText

theorem Input.filter_atCursor_transcript {ι κ : Type} [Chunk κ] [Input ι κ] :
    ∀ (requests : List Request) (i : ι), (transcript requests i).filter Entry.atCursor =
      transcript (requests.filter Request.atCursor) i
  | [], _ => rfl
  | request :: requests, i => by
    rw [transcript_cons]
    by_cases hsize : request = .size
    · subst hsize
      exact filter_atCursor_transcript requests i
    · have hkept : request.atCursor = true := bne_iff_ne.2 hsize
      have hentry : Entry.atCursor ⟨request, (perform i request).1, position i,
          position (perform i request).2⟩ = true := hkept
      rw [List.filter_cons_of_pos hentry, List.filter_cons_of_pos hkept, transcript_cons,
        filter_atCursor_transcript requests]

namespace BufferedText

theorem sizeMirrors {origin : Source} (hsize : origin.sizeFault = none) {i : BufferedText}
    {t : IdealText} (h : Reflects origin i t) : SizeMirrors (fun _ => False) i t := by
  obtain ⟨done, hat, rfl⟩ := h
  obtain ⟨hsame, -, hfault⟩ := hat.blocks.source
  have hlength : Input.size i = .ok origin.bytes.length := by
    show i.blocks.source.size = _
    unfold Source.size
    rw [hsame, hfault, hsize]
  refine Or.inr ⟨hlength, fun reason heq => ?_⟩
  rw [hlength] at heq
  cases heq

/-- The transcript of a buffered input over a source that never fails is that of the ideal
reader. -/
theorem transcript_eq_ideal (bytes : List UInt8) (blockSize : Nat) (requests : List Request) :
    Input.transcript requests (ofSource (.ofBytes bytes) blockSize) =
      Input.transcript requests (IdealText.ofBytes bytes) :=
  (mirrors_idealText (Source.copiesAll_ofBytes bytes)).transcript_eq
    (Source.not_refuses_ofBytes bytes) (fun _ => sizeMirrors rfl) (reflects_ofSource _ blockSize)

/-- **Buffered characters answer as the longest text of the bytes says.** For every block size a
request covers the characters asked for, or those left where all bytes are text, or fails where the
text ends. So the block size is not seen, and where all bytes are text everything but the length is
as it is over a cursor in memory. -/
theorem transcript_of_longestText (bytes : List UInt8) (whole : List Char)
    (hwhole : IsLongestText bytes whole) (requests : List Request) (blockSize : Nat) :
    let entries := Input.transcript requests (ofSource (.ofBytes bytes) blockSize)
    entries = answers bytes whole requests 0 ∧
    (∀ blockSize', Input.transcript requests (ofSource (.ofBytes bytes) blockSize') = entries) ∧
    (encode whole = bytes → entries.filter Entry.atCursor =
      (Input.transcript requests (TextCursor.ofText whole)).filter Entry.atCursor) := by
  intro entries
  have hideal : entries = Input.transcript requests (IdealText.ofBytes bytes) :=
    transcript_eq_ideal bytes blockSize requests
  rw [isLongestText_iff] at hwhole
  subst hwhole
  refine ⟨?_, fun blockSize' => ?_, fun hintact => ?_⟩
  · rw [hideal]
    exact IdealText.transcript_eq_answers requests (IdealText.ofBytes bytes)
  · rw [hideal]
    exact transcript_eq_ideal bytes blockSize' requests
  · rw [hideal, Input.filter_atCursor_transcript, Input.filter_atCursor_transcript]
    have hstart := IdealText.reflects_ofText (decode bytes).1
    rw [hintact] at hstart
    refine (IdealText.mirrors_textCursor (decode bytes).1).transcript_eq (fun _ h => h) ?_ hstart
    intro hmem
    exact absurd rfl (bne_iff_ne.1 (List.mem_filter.1 hmem).2)

/-- A character that is cut off at the end of the bytes, read in blocks that cut another one. -/
theorem transcript_of_longestText_cut :
    IsLongestText [0xC3, 0xA9, 0xE2, 0x82] ['é'] ∧
      Input.transcript [.next 1, .skip 1, .size]
        (ofSource (.ofBytes [0xC3, 0xA9, 0xE2, 0x82]) 1) =
      [⟨.next 1, .ok (.chunk ['é']), 0, 1⟩, ⟨.skip 1, .error (.undecodable 1), 1, 1⟩,
        ⟨.size, .ok (.count 4), 1, 1⟩] := by
  have hwhole : IsLongestText [0xC3, 0xA9, 0xE2, 0x82] ['é'] :=
    (isLongestText_iff _ _).2 (by decide)
  exact ⟨hwhole, (transcript_of_longestText _ _ hwhole _ 1).1.trans rfl⟩

end BufferedText

end Lexis
