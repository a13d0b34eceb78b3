import Lexis.Proofs.Lexer.Rounds
import Lexis.Proofs.Pattern.Shapes

/-!
# Long matches that are discarded

A rule that discards its match may match a stretch of the text that is longer than the window. Then
only the front of the stretch is dropped, and the next round looks for a rule at the cut as if
nothing were before it. So the stretch is dropped as a whole where at each cut such a rule is again
the first one to match; for a repetition of one character set this is so if the rules before it do
not begin with a character of the set. A comment up to the end of its line has nothing to match
itself at a cut, and what is behind the cut is read as text.

Principal results:

* `Provides.place_of_reached` — a run stays at cuts, in the same states, until it is past the stretch;
* `Lexing.drops_stretch` — the stretch is dropped, over a text and over a source;
* `Stretch.resumes_of_oneOrMore` — repetitions of a character set;
* `Lexing.not_drops_comment` — a comment is not.
-/

namespace Lexis

open Pattern Text Lexing

variable {ι V : Type} [Input ι (List Char)]

/-- The rule leaves the states alone and gives no token that is kept, whatever it matches. -/
def Rule.Discards (rule : Rule V) : Prop :=
  ∀ found site, (rule.action found site).moves = [] ∧
    ∀ token, (rule.action found site).token = some token → token.isIgnorable = true

/-- A discarding rule that is the first one to match the window, and its match in all of the text
that is left. -/
structure Stretch (lexer : Lexer V) (states : List String) (rest : List Char) where
  rules : List (Rule V)
  rule : Rule V
  found : Match
  long : Match
  active : lexer.active states = .ok rules
  first : firstMatch? Rule.pattern (rest.take lexer.options.request) rules = some (rule, found)
  discards : rule.Discards
  whole : rule.pattern.match? rest = some long

/-- The rounds that begin inside the next characters all discard their match: no token begins there
and there is no fault. -/
def Lexing.Drops (lexer : Lexer V) (run : Lexing ι) (length : Nat) : Prop :=
  ∀ inside, Reached lexer run inside → run.position < inside.position →
    inside.position < run.position + length → (round lexer inside).1 = .again

variable {lexer : Lexer V} {states : List String} {rest : List Char}

/-- At each cut of the stretch a discarding rule is the first one to match the window, and it
matches something. -/
def Stretch.Resumes (s : Stretch lexer states rest) : Prop :=
  ∀ cut, 0 < cut → s.found.whole.length ≤ cut → cut < s.long.whole.length →
    ∃ rule found, firstMatch? Rule.pattern ((rest.drop cut).take lexer.options.request) s.rules =
      some (rule, found) ∧ rule.Discards ∧ found.whole ≠ []

/-- Where a run is that is reached from the front of a stretch: behind so many characters of the
rest, at the front or at a cut in the same states, or past the stretch. -/
structure Stretch.Place (s : Stretch lexer states rest) (Behind : ι → List Char → Prop)
    (done : List Char) (run : Lexing ι) (cut : Nat) : Prop where
  behind : Behind run.input (done ++ rest.take cut)
  le : cut ≤ rest.length
  inside : cut < s.long.whole.length →
    run.states = states ∧ (cut = 0 ∨ s.found.whole.length ≤ cut)

/-! ## Rounds of a discarding rule -/

theorem Rule.Discards.react {rule : Rule V} (h : rule.Discards) (units : Nat) (found : Match)
    (base : Nat) (states : List String) :
    react lexer units ⟨rule, found, base⟩ states =
      (if units = 0 then .answer (.error (.stalled (stateLabel states))) else .again, states) := by
  obtain ⟨hmoves, htoken⟩ := h found ⟨states, base⟩
  have hdiscards : (Choice.reaction ⟨rule, found, base⟩ states).Discards := htoken
  rw [react_of_discards hdiscards]
  simp [Choice.reaction, hmoves, Move.run]

namespace Provides

variable {whole done : List Char} {Behind : ι → List Char → Prop} {run : Lexing ι}

theorem round_of_discards (h : Provides whole Behind) {cut : Nat}
    (hrun : Behind run.input (done ++ rest.take cut)) (hwhole : whole = done ++ rest)
    {rules : List (Rule V)} (hactive : lexer.active run.states = .ok rules) {rule : Rule V}
    {found : Match} (hfirst : firstMatch? Rule.pattern
      ((rest.drop cut).take lexer.options.request) rules = some (rule, found))
    (hdiscards : rule.Discards) : ∃ input,
      Behind input (done ++ rest.take (cut + found.whole.length)) ∧
      cut + found.whole.length ≤ max cut rest.length ∧ Lexing.round lexer run =
        (if found.whole = [] then .answer (.error (.stalled (stateLabel run.states))) else .again,
          ⟨input, run.states⟩) := by
  have hrest : whole = done ++ rest.take cut ++ rest.drop cut := by
    rw [List.append_assoc, List.take_append_drop, hwhole]
  obtain ⟨input, hinput, hround⟩ := h.round_of_match hrun hrest hactive hfirst
  rw [hdiscards.react] at hround
  refine ⟨input, ?_, ?_, ?_⟩
  · rwa [List.append_assoc, ← List.take_add] at hinput
  · have hle := length_whole_of_firstMatch? hfirst
    rw [List.length_take, List.length_drop] at hle
    omega
  · simp only [hround, List.length_eq_zero_iff]

/-- **One round at a cut.** -/
theorem round_of_place (h : Provides whole Behind) (hwhole : whole = done ++ rest)
    {s : Stretch lexer states rest} (hresumes : s.Resumes) {cut : Nat}
    (hrun : s.Place Behind done run cut) :
    ∃ cut', s.Place Behind done (Lexing.round lexer run).2 cut' := by
  by_cases hcut : cut < s.long.whole.length
  · obtain ⟨hstates, hplace⟩ := hrun.inside hcut
    have hactive : lexer.active run.states = .ok s.rules := by rw [hstates, s.active]
    -- at the front it is the rule of the stretch that fires, behind it the one of the cut
    obtain ⟨rule, found, hfirst, hdiscards, hlength⟩ : ∃ rule found,
        firstMatch? Rule.pattern ((rest.drop cut).take lexer.options.request) s.rules =
          some (rule, found) ∧ rule.Discards ∧ s.found.whole.length ≤ cut + found.whole.length := by
      by_cases hzero : cut = 0
      · refine ⟨s.rule, s.found, ?_, s.discards, Nat.le_add_left _ _⟩
        rw [hzero, List.drop_zero, s.first]
      · have hpassed : s.found.whole.length ≤ cut := by omega
        obtain ⟨rule, found, hfirst, hdiscards, -⟩ :=
          hresumes cut (Nat.pos_of_ne_zero hzero) hpassed hcut
        exact ⟨rule, found, hfirst, hdiscards, by omega⟩
    obtain ⟨input, hinput, hle, hround⟩ :=
      h.round_of_discards hrun.behind hwhole hactive hfirst hdiscards
    have hmax : max cut rest.length = rest.length := Nat.max_eq_right hrun.le
    rw [hround]
    exact ⟨cut + found.whole.length, hinput, by omega, fun _ => ⟨hstates, Or.inr hlength⟩⟩
  · obtain ⟨more, hmore⟩ := h.round lexer hrun.behind
    -- whatever is matched past the stretch is some of the rest
    rw [List.append_assoc] at hmore
    have hfront : rest.take cut ++ more <+: rest := by
      have hbehind := h.behind hmore
      rwa [hwhole, List.prefix_append_right_inj] at hbehind
    have htaken : rest.take cut ++ more = rest.take (cut + more.length) := by
      have htake := List.prefix_iff_eq_take.1 hfront
      rwa [List.length_append, List.length_take, Nat.min_eq_left hrun.le] at htake
    have hle : cut + more.length ≤ rest.length := by
      have hlength := congrArg List.length htaken
      rw [List.length_append, List.length_take, List.length_take, Nat.min_eq_left hrun.le] at hlength
      omega
    rw [htaken] at hmore
    exact ⟨cut + more.length, hmore, hle, fun hinside => by omega⟩

/-- **A run that is reached is at a cut or past the stretch.** -/
theorem place_of_reached (h : Provides whole Behind) (hrun : Behind run.input done)
    (hwhole : whole = done ++ rest) {s : Stretch lexer run.states rest} (hresumes : s.Resumes)
    {inside : Lexing ι} (hinside : Reached lexer run inside) :
    ∃ cut, s.Place Behind done inside cut := by
  induction hinside with
  | start => exact ⟨0, by simpa using hrun, Nat.zero_le _, fun _ => ⟨rfl, Or.inl rfl⟩⟩
  | round _ ih =>
    obtain ⟨cut, hcut⟩ := ih
    exact h.round_of_place hwhole hresumes hcut

/-- **A stretch is dropped** where it can be gone on with at each cut. -/
theorem drops (h : Provides whole Behind) (hrun : Behind run.input done)
    (hwhole : whole = done ++ rest) {s : Stretch lexer run.states rest} (hresumes : s.Resumes) :
    Drops lexer run s.long.whole.length := by
  intro inside hinside hafter hbefore
  obtain ⟨cut, hcut⟩ := h.place_of_reached hrun hwhole hresumes hinside
  have hstart : run.position = done.length := h.position hrun
  have hposition : inside.position = done.length + cut := by
    have hbehind := h.position hcut.behind
    rw [List.length_append, List.length_take, Nat.min_eq_left hcut.le] at hbehind
    exact hbehind
  have hlong : cut < s.long.whole.length := by omega
  obtain ⟨hstates, hplace⟩ := hcut.inside hlong
  have hactive : lexer.active inside.states = .ok s.rules := by rw [hstates, s.active]
  obtain ⟨rule, found, hfirst, hdiscards, hfound⟩ :=
    hresumes cut (by omega) (by omega) hlong
  obtain ⟨input, -, -, hround⟩ := h.round_of_discards hcut.behind hwhole hactive hfirst hdiscards
  rw [hround, if_neg hfound]

theorem drops_of_reached (h : Provides whole Behind) {first : Lexing ι}
    (hfirst : Behind first.input []) (hrun : Reached lexer first run)
    (s : Stretch lexer run.states (whole.drop run.position)) (hresumes : s.Resumes) :
    Drops lexer run s.long.whole.length := by
  obtain ⟨done, hdone⟩ := h.reached hfirst hrun
  rw [List.nil_append] at hdone
  have hposition : run.position = done.length := h.position hdone
  have hwhole : whole = done ++ whole.drop run.position := by
    obtain ⟨rest, hrest⟩ := h.behind hdone
    rw [hposition, ← hrest, List.drop_left]
  exact h.drops hdone hwhole hresumes

end Provides

/-! ## Texts -/

/-- **A discarding rule drops its whole match**, however much longer than the window it is, if at
each cut a discarding rule is again the first one to match. -/
theorem Lexing.drops_stretch (lexer : Lexer V) (text : List Char) (states : List String) :
    (∀ run, Reached lexer (start (TextCursor.ofText text) states) run →
      ∀ s : Stretch lexer run.states (text.drop run.position), s.Resumes →
        Drops lexer run s.long.whole.length) ∧
    ∀ (source : Source) (blockSize : Nat), source.ReadsFully → source.bytes = encode text →
      ∀ run, Reached lexer (start (BufferedText.ofSource source blockSize) states) run →
        ∀ s : Stretch lexer run.states (text.drop run.position), s.Resumes →
          Drops lexer run s.long.whole.length := by
  constructor
  · intro run hrun s hresumes
    exact (TextCursor.provides text).drops_of_reached (TextCursor.at_ofText text) hrun s hresumes
  · intro source blockSize hreads hbytes run hrun s hresumes
    exact (BufferedText.provides hreads hbytes).drops_of_reached
      (BufferedText.at_ofSource source blockSize) hrun s hresumes

/-! ## Repetitions -/

/-- A pattern that repeats a character set goes on at each cut, if the rules before it match nothing
that begins with a character of the set. -/
theorem Stretch.resumes_of_oneOrMore {s : Stretch lexer states rest} {set : CharSet}
    {before after : List (Rule V)} (hrules : s.rules = before ++ s.rule :: after)
    (hprogram : s.rule.pattern.program = .oneOrMore set)
    (hbefore : ∀ rule ∈ before, ∀ c text, set.contains c = true →
      rule.pattern.match? (c :: text) = none)
    (hwindow : 0 < lexer.options.request) : s.Resumes := by
  intro cut _ _ hcut
  have hlong := s.whole
  rw [match?_oneOrMore hprogram] at hlong
  split at hlong
  · -- the character at the cut is one of the set
    have hlength : s.long.whole.length ≤ (rest.takeWhile set.contains).length := by
      rw [← Option.some.inj hlong, Match.whole_of_front]
      exact List.length_take_le _ _
    have hinside : cut < (rest.takeWhile set.contains).length := by omega
    have hbound : cut < rest.length :=
      Nat.lt_of_lt_of_le hinside (List.takeWhile_sublist _).length_le
    have hset : set.contains rest[cut] = true := by
      have hmem := List.getElem_mem hinside
      have heq := List.IsPrefix.getElem (List.takeWhile_prefix set.contains (l := rest)) hinside
      rw [heq] at hmem
      exact List.all_eq_true.1 List.all_takeWhile _ hmem
    obtain ⟨request, hrequest⟩ := Nat.exists_eq_add_of_lt hwindow
    have hfront : (rest.drop cut).take lexer.options.request =
        rest[cut] :: (rest.drop (cut + 1)).take request := by
      rw [List.drop_eq_getElem_cons hbound, hrequest, Nat.zero_add, List.take_succ_cons]
    obtain ⟨found, hmatch, hfound⟩ : ∃ found, s.rule.pattern.match?
        (rest[cut] :: (rest.drop (cut + 1)).take request) = some found ∧ found.whole ≠ [] := by
      have hmatch := match?_oneOrMore hprogram (rest[cut] :: (rest.drop (cut + 1)).take request)
      rw [List.head?_cons, Option.any_some, if_pos hset] at hmatch
      exact ⟨_, hmatch, by simp [hset]⟩
    refine ⟨s.rule, found, ?_, s.discards, hfound⟩
    rw [hrules, hfront, firstMatch?_append_of_none fun rule hrule => hbefore rule hrule _ _ hset,
      firstMatch?, hmatch]
  · cases hlong

/-! ## Blanks and comments -/

/-- Words with blanks and comments between them. -/
def commentedDeclarations : List (Declaration String) :=
  [.options ⟨4, true⟩,
   .rule "$" fun _ _ => ⟨[], some (.eof "")⟩,
   .rule " +" fun _ _ => ⟨[], none⟩,
   .rule "#[^\\n]*" fun _ _ => ⟨[], none⟩,
   .rule "\\w+" fun found _ => ⟨[], some ⟨some "WORD", String.ofList found.whole⟩⟩]

/-- One blank or more. -/
def blanks : Rule String :=
  ⟨" +", ⟨anchor " +", .oneOrMore (.single ' ')⟩, fun _ _ => ⟨[], none⟩⟩

/-- A comment up to the end of its line. -/
def comment : Rule String :=
  let program : Program := ⟨#[.look .textStart, .one (.single '#'), .fork 3 5,
    .one (.compl (.interval '\n' '\n')), .fork 3 5, .accept], 0, []⟩
  ⟨"#[^\\n]*", ⟨anchor "#[^\\n]*", program⟩, fun _ _ => ⟨[], none⟩⟩

/-- The end. -/
def endsText : Rule String := ⟨"$", ⟨anchor "$", .atEnd⟩, fun _ _ => ⟨[], some (.eof "")⟩⟩

/-- A word. -/
def word : Rule String :=
  ⟨"\\w+", ⟨anchor "\\w+", .oneOrMore (.named true .word)⟩, fun found _ =>
    ⟨[], some ⟨some "WORD", String.ofList found.whole⟩⟩⟩

/-- Words with blanks and comments between them, with a short window. -/
def commented : Lexer String where
  rules := [endsText, blanks, comment, word]
  stateRules := []
  options := ⟨4, true⟩

theorem commented_eq : Lexer.build commentedDeclarations = .ok commented := rfl

theorem firstMatch?_commented (text : List Char) :
    firstMatch? Rule.pattern text commented.rules =
      if text = [] then some (endsText, ⟨text, ⟨0, 0, []⟩, []⟩)
      else if text.head?.any (CharSet.single ' ').contains then
        some (blanks, ⟨text, ⟨0, (text.takeWhile (CharSet.single ' ').contains).length, []⟩, []⟩)
      else firstMatch? Rule.pattern text [comment, word] := by
  have hend := match?_atEnd (p := endsText.pattern) rfl text
  have hblanks := match?_oneOrMore (p := blanks.pattern) (s := .single ' ') rfl text
  unfold commented
  rw [firstMatch?_cons_of_ite hend, firstMatch?_cons_of_ite hblanks]

/-- Ten blanks before a word. -/
def blanksBefore : List Char := List.replicate 10 ' ' ++ ['b']

/-- The blanks, of which the window shows five. -/
def tenBlanks : Stretch commented [] blanksBefore where
  rules := commented.rules
  rule := blanks
  found := ⟨List.replicate 5 ' ', ⟨0, 5, []⟩, []⟩
  long := ⟨blanksBefore, ⟨0, 10, []⟩, []⟩
  active := rfl
  first := firstMatch?_commented (List.replicate 5 ' ')
  discards _ _ := ⟨rfl, fun _ h => by cases h⟩
  whole := match?_oneOrMore (p := blanks.pattern) rfl blanksBefore

theorem resumes_tenBlanks : tenBlanks.Resumes := by
  have hrules : tenBlanks.rules =
      commented.rules.take 1 ++ tenBlanks.rule :: commented.rules.drop 2 := rfl
  refine Stretch.resumes_of_oneOrMore hrules rfl ?_ (by decide)
  intro rule hrule c text _
  rw [List.mem_singleton.1 hrule, match?_atEnd rfl, if_neg (List.cons_ne_nil c text)]

/-- The blanks are dropped in pieces. -/
theorem Lexing.drops_stretch_blanks :
    let run := start (TextCursor.ofText blanksBefore) []
    Drops commented run 10 ∧ (next commented 9 run).2.position = 11 :=
  ⟨(drops_stretch commented blanksBefore []).1 _ .start tenBlanks resumes_tenBlanks,
    by decide +kernel⟩

/-- A comment and nothing else. -/
def commentOnly : List Char := ['#', 'a', 'b', 'c', 'd', 'e', 'f']

theorem firstMatch?_commentOnly :
    firstMatch? Rule.pattern (commentOnly.take 5) commented.rules =
      some (comment, ⟨commentOnly.take 5, ⟨0, 5, []⟩, []⟩) := by
  have hsearch : comment.pattern.program.search (commentOnly.take 5) = some ⟨0, 5, []⟩ := by
    decide +kernel
  rw [firstMatch?_commented, if_neg (by decide), if_neg (by decide), firstMatch?,
    match?_of_search hsearch]
  rfl

theorem match?_commentOnly :
    comment.pattern.match? commentOnly = some ⟨commentOnly, ⟨0, 7, []⟩, []⟩ :=
  match?_of_search (show _ = some ⟨0, 7, []⟩ by decide +kernel)

/-- The comment, of which the window shows five characters. -/
def longComment : Stretch commented [] commentOnly where
  rules := commented.rules
  rule := comment
  found := ⟨commentOnly.take 5, ⟨0, 5, []⟩, []⟩
  long := ⟨commentOnly, ⟨0, 7, []⟩, []⟩
  active := rfl
  first := firstMatch?_commentOnly
  discards _ _ := ⟨rfl, fun _ h => by cases h⟩
  whole := match?_commentOnly

/-- The comment is dropped up to the cut, and then there is a word. -/
theorem Lexing.not_drops_comment :
    let run := start (TextCursor.ofText commentOnly) []
    Lexer.build commentedDeclarations = .ok commented ∧
      ¬Drops commented run longComment.long.whole.length ∧
      (next commented 2 run).1.bind Except.toOption = some ⟨some "WORD", "ef"⟩ := by
  intro run
  have hinside : (round commented run).2.position = 5 := by decide +kernel
  have hanswer : (match (round commented (round commented run).2).1 with
      | .answer _ => true
      | .again => false) = true := by decide +kernel
  refine ⟨commented_eq, fun hdrops => ?_, by decide +kernel⟩
  have hstart : run.position = 0 := rfl
  have hlength : longComment.long.whole.length = 7 := rfl
  have hagain := hdrops (round commented run).2 (.round .start) (by omega) (by omega)
  rw [hagain] at hanswer
  cases hanswer

end Lexis
