import Lexis.Demo.Report
import Lexis.Proofs.Demo.Turns
import Lexis.Proofs.Reducer.Course

/-!
# The states of the lexer and the spans of the reducer

In the demonstration grammar a quote enters a state of the lexer and opens a span of the reducer, and
the next quote leaves both. So the lexer is inside a string exactly when the innermost span is one,
and nothing but arrays is around it: a string is closed as a string, an array as an array, and an
END comes outside all spans only if it is that of an array. With that the course of the series is
known for any bytes, up to what the words and numbers in it are.

Principal results:

* `Coupled.feeds` — what a token does to the spans;
* `exists_course` — the course of a series over any bytes;
* `series_settles` — the whole series, and that strict grouping does not matter;
* `tokens_settled` — the program.
-/

namespace Lexis.Demo

open Pattern Text Lexing

/-- All the spans are arrays. -/
def AllArrays (spans : List (Span Value)) : Prop := ∀ span ∈ spans, span.group = some arrayGroup

/-- The states of the lexer and the open spans, both innermost first, go together: the lexer is
inside a string exactly when the innermost span is one, and all others are arrays. -/
inductive Coupled : List String → List (Span Value) → Prop where
  | outside {spans : List (Span Value)} : AllArrays spans → Coupled [] spans
  | inside {span : Span Value} {spans : List (Span Value)} : span.group = some stringGroup →
      AllArrays spans → Coupled [stringState] (span :: spans)

/-- The tokens that the program prints. -/
def Printed (t : Token Value) : Prop :=
  ∃ name ∈ ["NUMBER", "WORD", "STRING", "ARRAY", "EOF"], t.name = some name

/-- The answers are tokens that are printed, and a fault or nothing after them. -/
inductive Settled : List (Except Fault (Token Value)) → Prop where
  | nil : Settled []
  | fault {fault : Fault} : Halts fault → Settled [.error fault]
  | token {t : Token Value} {answers : List (Except Fault (Token Value))} :
      Printed t → Settled answers → Settled (.ok t :: answers)

/-- The reducer of the grammar, with strict grouping or without. -/
def grouping (strict : Bool) : Reducer Value := { reducer with strict := strict }

theorem grouping_false : grouping false = reducer := rfl

/-! ## One token -/

theorem AllArrays.cons {span : Span Value} {spans : List (Span Value)}
    (hspan : span.group = some arrayGroup) (h : AllArrays spans) : AllArrays (span :: spans) :=
  List.forall_mem_cons.2 ⟨hspan, h⟩

variable {states states' : List String} {spans : List (Span Value)} {token : Token Value}

theorem Coupled.known (h : Coupled states spans) : Known states := by
  cases h <;> simp [Known]

/-- What becomes of a token: it is taken in, or one comes out, outside all spans, or it closes an
array that is not open. -/
inductive Becomes : Except Fault (Option (Token Value)) → List (Span Value) → Prop where
  | quiet (spans : List (Span Value)) : Becomes (.ok none) spans
  | emitted {t : Token Value} : Printed t → Becomes (.ok (some t)) []
  | refused (spans : List (Span Value)) : Becomes (.error (.unbalancedEnd arrayGroup)) spans

/-- What a reducer does with a token, the same with strict grouping and without, keeps spans and
states together. -/
structure Feeds (token : Token Value) (spans : List (Span Value)) (states' : List String)
    (answer : Except Fault (Option (Token Value))) (spans' : List (Span Value)) : Prop where
  feed : ∀ strict, (grouping strict).feed token spans = (answer, spans')
  becomes : Becomes answer spans'
  coupled : Coupled states' spans'

theorem route_printed {t : Token Value} (hplain : t.Plain) (hprinted : Printed t)
    (h : AllArrays spans) : ∃ out spans', Reducer.route t spans = (out, spans') ∧
      Becomes (.ok out) spans' ∧ AllArrays spans' := by
  cases spans with
  | nil =>
    refine ⟨some t, [], ?_, .emitted hprinted, h⟩
    rw [Reducer.route_nil hplain.notStart, Token.kept?_of_named hplain.named]
  | cons span spans =>
    refine ⟨none, span.extend [t] :: spans, ?_, .quiet _, ?_⟩
    · rw [Reducer.route_cons hplain.notStart, Token.kept?_of_named hplain.named]
      rfl
    · exact .cons (h span List.mem_cons_self) (List.forall_mem_cons.1 h).2

theorem feeds_printed (hplain : token.Plain) (hprinted : Printed token) (h : AllArrays spans) :
    ∃ answer spans', Feeds token spans [] answer spans' := by
  obtain ⟨out, spans', hroute, hbecomes, harrays⟩ := route_printed hplain hprinted h
  refine ⟨_, spans', fun strict => ?_, hbecomes, .outside harrays⟩
  rw [Reducer.feed_of_not_finish hplain.notFinish, hroute]

theorem mayClose_grouping {group : String} (hgroup : group ∈ reducer.groups) (strict : Bool) :
    (grouping strict).MayClose (some group) (.finish (.text group)) :=
  ⟨rfl, ⟨group, hgroup, rfl⟩, fun _ => Or.inr rfl⟩

theorem feeds_finish {group : String} (hgroup : group ∈ reducer.groups)
    {reduce : List (Token Value) → Token Value}
    (hreduce : reducer.reduction? (.finish (.text group)) = some reduce) {span : Span Value}
    (hspan : span.group = some group) (hplain : (reduce span.children).Plain)
    (hprinted : Printed (reduce span.children)) (h : AllArrays spans) :
    ∃ answer spans', Feeds (.finish (.text group)) (span :: spans) [] answer spans' := by
  obtain ⟨out, spans', hroute, hbecomes, harrays⟩ := route_printed hplain hprinted h
  refine ⟨_, spans', fun strict => ?_, hbecomes, .outside harrays⟩
  have hclose := mayClose_grouping hgroup strict
  rw [← hspan] at hclose
  rw [Reducer.feed_finish hclose hreduce, hroute]

/-- **What a token does to the spans**, with strict grouping or without. -/
theorem Coupled.feeds (h : Coupled states spans) (hturn : Turn states token states') :
    ∃ answer spans', Feeds token spans states' answer spans' := by
  cases hturn with
  | eof =>
    cases h with
    | outside harrays => exact feeds_printed ⟨rfl, rfl, rfl⟩ ⟨"EOF", by decide, rfl⟩ harrays
  | number value =>
    cases h with
    | outside harrays => exact feeds_printed ⟨rfl, rfl, rfl⟩ ⟨"NUMBER", by decide, rfl⟩ harrays
  | word value =>
    cases h with
    | outside harrays => exact feeds_printed ⟨rfl, rfl, rfl⟩ ⟨"WORD", by decide, rfl⟩ harrays
  | openArray =>
    cases h with
    | outside harrays =>
      exact ⟨.ok none, ⟨some arrayGroup, []⟩ :: spans, fun strict => Reducer.feed_start rfl,
        .quiet _, .outside (.cons rfl harrays)⟩
  | openString =>
    cases h with
    | outside harrays =>
      exact ⟨.ok none, ⟨some stringGroup, []⟩ :: spans, fun strict => Reducer.feed_start rfl,
        .quiet _, .inside rfl harrays⟩
  | closeArray =>
    cases h with
    | outside harrays =>
      cases spans with
      | nil => exact ⟨_, [], fun strict => rfl, .refused [], .outside harrays⟩
      | cons span spans =>
        obtain ⟨hspan, hrest⟩ := List.forall_mem_cons.1 harrays
        exact feeds_finish (by decide) rfl hspan ⟨rfl, rfl, rfl⟩ ⟨"ARRAY", by decide, rfl⟩ hrest
  | char value =>
    cases h with
    | @inside span spans hspan harrays =>
      exact ⟨.ok none, span.extend [⟨some "CHAR", value⟩] :: spans,
        fun strict => Reducer.feed_plain_cons ⟨rfl, rfl, rfl⟩, .quiet _, .inside hspan harrays⟩
  | closeString =>
    cases h with
    | inside hspan harrays =>
      exact feeds_finish (by decide) rfl hspan ⟨rfl, rfl, rfl⟩ ⟨"STRING", by decide, rfl⟩ harrays

/-! ## The course -/

/-- Tokens are pulled, each with the lexer and the reducer behind it. -/
abbrev Pulls := List (Pulled (TokenSeries BufferedText Value) Value)

/-- The states of the lexer and the spans of the reducer go together when a token has been taken
in. -/
def PulledCoupled (p : Pulled (TokenSeries BufferedText Value) Value) : Prop :=
  Coupled p.after.supply.run.states p.after.spans

/-- The tokens that are pulled from so many characters: one character at least for each token, and
nothing after the end. -/
inductive Drawn : Nat → Pulls → Prop where
  | nil (chars : Nat) : Drawn chars []
  | last {chars : Nat} {p : Pulled (TokenSeries BufferedText Value) Value} :
      p.token.isEof = true → PulledCoupled p → Drawn chars [p]
  | token {chars chars' : Nat} {p : Pulled (TokenSeries BufferedText Value) Value} {more : Pulls} :
      p.token.isEof = false → PulledCoupled p → chars' < chars → Drawn chars' more →
      Drawn chars (p :: more)

namespace Drawn

variable {chars : Nat} {pulled : Pulls}

theorem countP_tokens_le (h : Drawn chars pulled) :
    pulled.countP (fun p => !p.token.isEof) ≤ chars := by
  induction h with
  | nil => exact Nat.zero_le _
  | last heof => simp [heof]
  | token hnot _ hless _ ih =>
    rw [List.countP_cons_of_pos (by simp [hnot])]
    omega

theorem countP_isEof_le (h : Drawn chars pulled) : pulled.countP (fun p => p.token.isEof) ≤ 1 := by
  induction h with
  | nil => exact Nat.zero_le _
  | last heof => simp [heof]
  | token hnot _ _ _ ih => rwa [List.countP_cons_of_neg (by simp [hnot])]

theorem length_le (h : Drawn chars pulled) : pulled.length ≤ chars + 1 := by
  induction h with
  | nil => exact Nat.zero_le _
  | last => exact Nat.le_add_left 1 _
  | token _ _ hless _ ih =>
    rw [List.length_cons]
    omega

theorem coupled (h : Drawn chars pulled) : ∀ p ∈ pulled, PulledCoupled p := by
  induction h with
  | nil => exact fun p hp => absurd hp List.not_mem_nil
  | last _ hcoupled => exact List.forall_mem_singleton.2 hcoupled
  | token _ hcoupled _ _ ih => exact List.forall_mem_cons.2 ⟨hcoupled, ih⟩

end Drawn

variable {source : Source} {limit bound : Nat} {supply left : TokenSeries BufferedText Value}
  {pulled : Pulls} {answers : List (Except Fault (Token Value) × List (Span Value))}

/-- The course from here on, with strict grouping or without, and what its answers are. -/
structure Leads (limit bound : Nat) (supply : TokenSeries BufferedText Value)
    (spans : List (Span Value)) (pulled : Pulls)
    (answers : List (Except Fault (Token Value) × List (Span Value))) : Prop where
  course : ∀ strict, Course (grouping strict) limit ⟨supply, spans⟩ pulled answers
  settled : Settled (answers.map Prod.fst)
  /-- Open spans at the end are one more answer. -/
  few : answers.length ≤ bound + min spans.length 1

theorem Leads.mono (h : Leads limit bound supply spans pulled answers) {bound' : Nat}
    (hle : bound ≤ bound') : Leads limit bound' supply spans pulled answers :=
  ⟨h.course, h.settled, Nat.le_trans h.few (Nat.add_le_add_right hle _)⟩

theorem leads_finished (limit : Nat) (run : Lexing BufferedText) (spans : List (Span Value)) :
    ∃ answers, Leads limit 0 ⟨grammar, run, true⟩ spans [] answers := by
  have hpull : Supply.pull limit (⟨grammar, run, true⟩ : TokenSeries BufferedText Value) =
      (.ended, ⟨grammar, run, true⟩) := rfl
  cases spans with
  | nil => exact ⟨[], fun strict => .ended hpull, .nil, Nat.zero_le _⟩
  | cons span spans =>
    exact ⟨_, fun strict => .unclosed hpull, .fault (.unclosedSpans _), by simp⟩

/-- **One more token before.** After an END that is refused there is nothing. -/
theorem Leads.before {token : Token Value}
    (hpull : Supply.pull limit supply = (.item (.ok token), left)) {states' : List String}
    {answer : Except Fault (Option (Token Value))} {spans' : List (Span Value)}
    (hfeeds : Feeds token spans states' answer spans')
    (h : Leads limit bound left spans' pulled answers) :
    ∃ more answers', (more = pulled ∨ more = []) ∧
      Leads limit (bound + 1) supply spans (⟨token, ⟨left, spans'⟩⟩ :: more) answers' := by
  have hfeed := hfeeds.feed
  have hfew := h.few
  cases hfeeds.becomes with
  | quiet =>
    refine ⟨pulled, answers, Or.inl rfl, ?_, h.settled, by omega⟩
    exact fun strict => .quiet hpull (hfeed strict) (h.course strict)
  | @emitted t hprinted =>
    refine ⟨pulled, (.ok t, []) :: answers, Or.inl rfl, ?_, .token hprinted h.settled, ?_⟩
    · exact fun strict => .emitted hpull (hfeed strict) (h.course strict)
    · rw [List.length_nil] at hfew
      rw [List.length_cons]
      omega
  | refused =>
    refine ⟨[], [(.error (.unbalancedEnd arrayGroup), spans'.reverse)], Or.inr rfl, ?_,
      .fault .unbalancedEnd, ?_⟩
    · exact fun strict => .refused hpull (hfeed strict)
    · rw [List.length_singleton]
      omega

/-- **The course of a series over any bytes**, from anywhere where states and spans go together. -/
theorem exists_course (hreads : ∀ reason, ¬source.Refuses reason) {run : Lexing BufferedText}
    {done : List Char} (hrun : run.input.At source done) (hcoupled : Coupled run.states spans)
    (hlimit : charsLeft source done < limit) : ∃ pulled answers,
      Leads limit (charsLeft source done + 1) (.ofRun grammar run) spans pulled answers ∧
        Drawn (charsLeft source done) pulled := by
  induction hmeasure : charsLeft source done using Nat.strongRecOn
    generalizing run done spans with
  | ind chars ih =>
    obtain ⟨a, after, hpull, hbrings⟩ := pull_brings hreads hlimit hrun hcoupled.known
    cases hbrings with
    | fault _ hhalts =>
      refine ⟨[], _, ⟨fun strict => .failed hpull, .fault hhalts, ?_⟩, .nil chars⟩
      rw [List.length_singleton]
      omega
    | @token token input states' taken hturn htaken hinput =>
      obtain ⟨answer, spans', hfeeds⟩ := hcoupled.feeds hturn
      cases heof : token.isEof with
      | true =>
        -- nothing is pulled behind the end, whichever spans are open
        rw [TokenSeries.isLast, heof] at hpull
        obtain ⟨answers, hleads⟩ := leads_finished limit ⟨input, states'⟩ spans'
        obtain ⟨more, answers', hmore, hall⟩ := hleads.before hpull hfeeds
        obtain rfl : more = [] := hmore.elim id id
        exact ⟨_, answers', hall.mono (by omega), .last heof hfeeds.coupled⟩
      | false =>
        -- another token has taken a character, so that fewer are left
        rw [TokenSeries.isLast, heof] at hpull
        have hmoved : (Lexing.mk input states').input.At source (done ++ taken) := hinput
        have hpositive : 0 < taken.length := by
          refine List.length_pos_iff.2 fun hnone => ?_
          rw [htaken hnone] at heof
          cases heof
        have hleft := charsLeft_append hinput
        obtain ⟨pulled, answers, hleads, hdrawn⟩ :=
          ih _ (by omega) hmoved hfeeds.coupled (by omega) rfl
        obtain ⟨more, answers', hmore, hall⟩ := hleads.before hpull hfeeds
        have hrest : Drawn (charsLeft source (done ++ taken)) more := by
          rcases hmore with rfl | rfl
          · exact hdrawn
          · exact .nil _
        exact ⟨_, answers', hall.mono (by omega), .token heof hfeeds.coupled (by omega) hrest⟩

/-! ## The whole series -/

theorem exists_series (hreads : ∀ reason, ¬source.Refuses reason) (blockSize : Nat) {count : Nat}
    (hlimit : (decode source.bytes).1.length + 1 < limit)
    (hcount : (decode source.bytes).1.length + 1 < count) : ∃ pulled answers,
      Drawn (decode source.bytes).1.length pulled ∧ Settled (answers.map Prod.fst) ∧
        ∀ strict, (∃ last, (series grammar (grouping strict)
            (BufferedText.ofSource source blockSize)).answers limit count =
              (answers, true, last)) ∧
          (series grammar (grouping strict)
            (BufferedText.ofSource source blockSize)).pulled limit count = pulled := by
  have hstart : (Lexing.start (BufferedText.ofSource source blockSize) []).input.At source [] :=
    BufferedText.at_ofSource source blockSize
  have hnone : AllArrays [] := fun span hspan => absurd hspan List.not_mem_nil
  have hall : charsLeft source [] = (decode source.bytes).1.length := Nat.sub_zero _
  have hrounds : charsLeft source [] < limit := by omega
  obtain ⟨pulled, answers, hleads, hdrawn⟩ :=
    exists_course hreads hstart (.outside hnone) hrounds
  rw [hall] at hleads hdrawn
  have hpulls : pulled.length < limit := Nat.lt_of_le_of_lt hdrawn.length_le hlimit
  have hanswers : answers.length < count := Nat.lt_of_le_of_lt hleads.few hcount
  exact ⟨pulled, answers, hdrawn, hleads.settled, fun strict =>
    (hleads.course strict).series hpulls hanswers⟩

/-- What holds of a series over the bytes of a source, asked so many times within the limit. -/
structure Settles (source : Source) (limit count : Nat)
    (s : ReducedSeries (TokenSeries BufferedText Value) Value) : Prop where
  /-- The series ends. -/
  ended : (s.answers limit count).2.1 = true
  /-- The answers are tokens that are printed, and one of five faults or none after them. -/
  settled : Settled ((s.answers limit count).1.map Prod.fst)
  /-- At most one token is pulled for a character, besides the end. -/
  tokens : (s.pulled limit count).countP (fun p => !p.token.isEof) ≤
    (decode source.bytes).1.length
  ends : (s.pulled limit count).countP (fun p => p.token.isEof) ≤ 1
  coupled : ∀ p ∈ s.pulled limit count, Coupled p.after.supply.run.states p.after.spans

/-- **A series over any bytes settles**, as long as no read fails, and strict grouping changes
nothing. -/
theorem series_settles {source : Source} (hreads : ∀ reason, ¬source.Refuses reason) (blockSize : Nat) :
    ∃ lexer, Demo.lexer = .ok lexer ∧ ∀ limit count,
      (decode source.bytes).1.length + 1 < limit → (decode source.bytes).1.length + 1 < count →
        let input := BufferedText.ofSource source blockSize
        (∀ strict, Settles source limit count (series lexer (grouping strict) input)) ∧
        ((series lexer (grouping true) input).answers limit count).1 =
          ((series lexer reducer input).answers limit count).1 := by
  refine ⟨grammar, lexer_eq, fun limit count hlimit hcount => ?_⟩
  obtain ⟨pulled, answers, hdrawn, hsettled, hseries⟩ :=
    exists_series hreads blockSize hlimit hcount
  refine ⟨fun strict => ?_, ?_⟩
  · obtain ⟨⟨last, hanswers⟩, hpulled⟩ := hseries strict
    constructor
    · rw [hanswers]
    · rw [hanswers]
      exact hsettled
    · rw [hpulled]
      exact hdrawn.countP_tokens_le
    · rw [hpulled]
      exact hdrawn.countP_isEof_le
    · rw [hpulled]
      exact hdrawn.coupled
  · obtain ⟨⟨_, hstrict⟩, -⟩ := hseries true
    obtain ⟨⟨_, hloose⟩, -⟩ := hseries false
    rw [grouping_false] at hloose
    rw [hstrict, hloose]

/-- A list with a string in it and a bracket too many, in blocks of two. -/
theorem series_settles_unbalanced : ∃ lexer, Demo.lexer = .ok lexer ∧
    let source := Source.ofBytes [0x5B, 0x22, 0x61, 0x22, 0x5D, 0x5D]
    let input := BufferedText.ofSource source 2
    (∀ strict, Settles source 8 8 (series lexer (grouping strict) input)) ∧
      ((series lexer (grouping true) input).answers 8 8).1 =
        ((series lexer reducer input).answers 8 8).1 := by
  obtain ⟨lexer, hlexer, hall⟩ :=
    series_settles (Source.readsFully_ofBytes [0x5B, 0x22, 0x61, 0x22, 0x5D, 0x5D]).not_refuses 2
  exact ⟨lexer, hlexer, hall 8 8 (by decide) (by decide)⟩

/-! ## The program -/

theorem Settled.printed {answers : List (Except Fault (Token Value))} (h : Settled answers) :
    ∀ t ∈ answers.filterMap Except.toOption, Printed t := by
  induction h with
  | nil => exact fun t ht => absurd ht List.not_mem_nil
  | fault => exact fun t ht => absurd ht List.not_mem_nil
  | token hprinted _ ih => exact List.forall_mem_cons.2 ⟨hprinted, ih⟩

theorem Settled.halts {answers : List (Except Fault (Token Value))} (h : Settled answers) :
    ∀ fault, answers.findSome? (fun | .error fault => some fault | .ok _ => none) = some fault →
      Halts fault := by
  induction h with
  | nil => exact fun fault heq => by cases heq
  | fault hhalts => exact fun fault heq => by cases heq; exact hhalts
  | token _ _ ih => exact ih

/-- The program prints no token that marks an end of a span or a piece of a string, and fails with
one of five faults, whatever the bytes of the file are. -/
theorem tokens_settled (bytes : List UInt8) : (∀ t ∈ (tokens bytes).1, Printed t) ∧
    ∀ fault, (tokens bytes).2 = some fault → Halts fault := by
  have hbytes : (decode bytes).1.length ≤ bytes.length := by
    have hdecoded := (encode_decode_isPrefix bytes).length_le
    rw [length_encode] at hdecoded
    exact Nat.le_trans (length_le_byteLength _) hdecoded
  have hlimit : (decode (Source.ofBytes bytes).bytes).1.length + 1 < bytes.length + 2 := by
    show (decode bytes).1.length + 1 < bytes.length + 2
    omega
  obtain ⟨pulled, answers, -, hsettled, hseries⟩ :=
    exists_series (Source.readsFully_ofBytes bytes).not_refuses 1024 hlimit hlimit
  obtain ⟨⟨last, hanswers⟩, -⟩ := hseries false
  rw [grouping_false, series] at hanswers
  unfold tokens
  rw [lexer_eq]
  dsimp only
  rw [hanswers]
  exact ⟨hsettled.printed, hsettled.halts⟩

end Lexis.Demo
