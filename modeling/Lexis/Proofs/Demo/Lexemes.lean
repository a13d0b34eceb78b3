import Lexis.Proofs.Demo.Rules
import Lexis.Proofs.Lexer.Reading
import Lexis.Proofs.Reducer.Forest
import Lexis.Proofs.Text.Integer

/-!
# Lexemes of the demonstration grammar

How the grammar reads the forms that values are written in, with whatever follows them: gaps in as
many pieces as they take, numbers in one, marks one by one, and what stands in a string as escaped
characters and plain stretches between them. A gap, a number or a plain stretch is read up to its
end if what follows does not go on with it.

Principal results:

* `lexes_gap`, `fires_number`, `fires_quote`, `fires_open`, `fires_close`, `fires_end` — outside
  strings;
* `fires_unquote`, `lexes_quotedBody` — inside a string.
-/

namespace Lexis.Demo

open Pattern Text Lexing

/-! ## What follows -/

/-- The text does not go on with a character of the set. -/
def Stops (s : CharSet) (tail : List Char) : Prop :=
  ∀ c, tail.head? = some c → s.contains c = false

theorem Stops.cons {s : CharSet} {c : Char} (h : s.contains c = false) (tail : List Char) :
    Stops s (c :: tail) := by
  rintro _ ⟨⟩
  exact h

theorem Stops.take {s : CharSet} {tail : List Char} (h : Stops s tail) (n : Nat) :
    Stops s (tail.take n) := by
  intro c hc
  rw [List.head?_take] at hc
  split at hc
  · cases hc
  · exact h c hc

theorem Stops.any {s : CharSet} {tail : List Char} (h : Stops s tail) :
    tail.head?.any s.contains = false := by
  cases tail with
  | nil => rfl
  | cons c tail => exact h c rfl

theorem takeWhile_of_stops {s : CharSet} {stretch tail : List Char}
    (hstretch : ∀ c ∈ stretch, s.contains c = true) (htail : Stops s tail) :
    (stretch ++ tail).takeWhile s.contains = stretch := by
  rw [List.takeWhile_append_of_pos hstretch]
  cases tail with
  | nil => exact List.append_nil stretch
  | cons c tail => simp [htail c rfl]

/-! ## Rules that fire -/

/-- A rule that is the first one to match the window fires. -/
theorem fires_of_first {states states' : List String} {rules : List (Rule Value)}
    (hactive : grammar.active states = .ok rules) {rest : List Char} {rule : Rule Value}
    {found : Match} (hfirst : firstMatch? Rule.pattern (rest.take 257) rules = some (rule, found))
    {n : Nat} (hlength : found.whole.length = n) {outcome : Round Value}
    (hreact : ∀ base, react grammar n ⟨rule, found, base⟩ states = (outcome, states')) :
    Fires grammar states rest outcome n states' := by
  refine ⟨rules, rule, found, hactive, ?_, hlength, hreact⟩
  rw [request_grammar]
  exact hfirst

/-- In front of the sign the rule is the first one to match, and it matches the sign alone. -/
def Marks (rules : List (Rule Value)) (sign : Char) (rule : Rule Value) : Prop :=
  ∀ rest, firstMatch? Rule.pattern (sign :: rest) rules = some (rule, front (sign :: rest) 1)

/-- A rule for one sign takes the sign, whatever comes behind it. -/
theorem Marks.fires {rules : List (Rule Value)} {sign : Char} {rule : Rule Value}
    (h : Marks rules sign rule) {states states' : List String}
    (hactive : grammar.active states = .ok rules) {outcome : Round Value}
    (hreact : ∀ found base, react grammar 1 ⟨rule, found, base⟩ states = (outcome, states'))
    (tail : List Char) : Fires grammar states (sign :: tail) outcome 1 states' :=
  have hfirst : firstMatch? Rule.pattern ((sign :: tail).take 257) rules =
      some (rule, front (sign :: tail.take 256) 1) := h (tail.take 256)
  fires_of_first hactive hfirst rfl (hreact _)

/-! ## Outside strings -/

theorem fires_gap {c : Char} {gap tail : List Char}
    (hgap : ∀ d ∈ c :: gap, gapSet.contains d = true) (htail : Stops gapSet tail) :
    Fires grammar [] (c :: gap ++ tail) .again ((gap.take 256).length + 1) [] := by
  have hwindow : (c :: gap ++ tail).take 257 = c :: (gap ++ tail).take 256 := rfl
  have hc : gapSet.contains c = true := hgap c List.mem_cons_self
  have hstretch : ((c :: gap ++ tail).take 257).takeWhile gapSet.contains = c :: gap.take 256 := by
    rw [← List.take_takeWhile, takeWhile_of_stops hgap htail]
    rfl
  have hfirst : firstMatch? Rule.pattern ((c :: gap ++ tail).take 257) defaultRules =
      some (gapRule, front ((c :: gap ++ tail).take 257) (c :: gap.take 256).length) := by
    rw [firstMatch?_default, hstretch, hwindow]
    simp [hc]
  refine fires_of_first active_default hfirst ?_ fun base => ?_
  · rw [whole_front, List.length_take, List.length_take, List.length_append]
    simp only [List.length_cons, List.length_take]
    omega
  · simp [react, gapRule, compiled, discarding, Move.run]

/-- **A gap is discarded** in as many pieces as it takes. -/
theorem lexes_gap (gap : List Char) {tail : List Char}
    (hgap : ∀ c ∈ gap, gapSet.contains c = true) (htail : Stops gapSet tail) :
    Lexes grammar [] (gap ++ tail) [] [] tail := by
  induction hlength : gap.length using Nat.strongRecOn generalizing gap with
  | ind length ih =>
    cases gap with
    | nil => exact .done [] tail
    | cons c gap =>
      have hleft : ∀ d ∈ gap.drop 256, gapSet.contains d = true := fun d hd =>
        hgap d (List.mem_cons_of_mem c (List.mem_of_mem_drop hd))
      have hshorter : (gap.drop 256).length < length := by
        rw [← hlength, List.length_cons, List.length_drop]
        omega
      have hrest := ih _ hshorter _ hleft rfl
      have hdrop : (c :: gap ++ tail).drop ((gap.take 256).length + 1) = gap.drop 256 ++ tail := by
        rw [List.cons_append, List.drop_succ_cons]
        conv =>
          lhs
          rw [← List.take_append_drop 256 gap, List.append_assoc]
        rw [List.take_append_drop, List.drop_left]
      refine .discard (fires_gap hgap htail) ?_
      rw [hdrop]
      exact hrest

theorem contains_of_isDigit {c : Char} (h : c.isDigit = true) :
    digitSet.contains c = true ∧ gapSet.contains c = false ∧
      (CharSet.single '-').contains c = false := by
  have hall : ∀ n < 58, 48 ≤ n → digitSet.contains (Char.ofNat n) = true ∧
      gapSet.contains (Char.ofNat n) = false ∧
      (CharSet.single '-').contains (Char.ofNat n) = false := by decide
  have hrange : 48 ≤ c.toNat ∧ c.toNat ≤ 57 := by
    simp only [Char.isDigit, Bool.and_eq_true, decide_eq_true_eq] at h
    exact ⟨h.1, h.2⟩
  have hfacts := hall c.toNat (by omega) hrange.1
  rwa [Char.ofNat_toNat] at hfacts

/-- A number begins with a sign or a digit, which belongs to no gap. -/
theorem stops_decimal (n : Int) (tail : List Char) : Stops gapSet (decimal n ++ tail) := by
  obtain ⟨d, ds, hform, hd⟩ := toDigits_eq_cons n.natAbs
  rw [decimal_eq, hform]
  by_cases hn : n < 0
  · rw [if_pos hn]
    exact .cons (by decide) _
  · rw [if_neg hn]
    exact .cons (contains_of_isDigit hd).2.1 _

/-- **A number is read** up to its end. -/
theorem fires_number {n : Int} (hmin : integerMin ≤ n) (hmax : n ≤ integerMax) {tail : List Char}
    (htail : Stops digitSet tail) :
    Fires grammar [] (decimal n ++ tail) (.answer (.ok (numberToken n))) (decimal n).length [] := by
  have hlength := length_decimal_le hmin hmax
  have hwindow : (decimal n ++ tail).take 257 =
      decimal n ++ tail.take (257 - (decimal n).length) := by
    rw [List.take_append, List.take_of_length_le (by omega)]
  have hshort := htail.take (257 - (decimal n).length)
  generalize tail.take (257 - (decimal n).length) = after at hwindow hshort
  have hdigits : ∀ c ∈ Nat.toDigits 10 n.natAbs, digitSet.contains c = true := fun c hc =>
    (contains_of_isDigit (isDigit_of_mem_toDigits hc)).1
  obtain ⟨d, ds, hform, hd⟩ := toDigits_eq_cons n.natAbs
  obtain ⟨hdigit, -, hsign⟩ := contains_of_isDigit hd
  -- behind a sign, if there is one, stand the digits
  have hunsigned : unsigned (decimal n ++ after) = Nat.toDigits 10 n.natAbs ++ after := by
    rw [decimal_eq]
    by_cases hn : n < 0
    · have hminus : (CharSet.single '-').contains '-' = true := by decide
      simp [unsigned, hn, hminus]
    · simp [unsigned, hn, hform, hsign]
  have hnonempty : decimal n ++ after ≠ [] := by
    rw [decimal_eq, hform]
    simp
  have hstop : (decimal n ++ after).length - (Nat.toDigits 10 n.natAbs ++ after).length +
      (Nat.toDigits 10 n.natAbs).length = (decimal n).length := by
    rw [decimal_eq]
    simp only [List.length_append]
    omega
  have hfirst : firstMatch? Rule.pattern ((decimal n ++ tail).take 257) defaultRules =
      some (numberRule, front (decimal n ++ after) (decimal n).length) := by
    have hhead : (Nat.toDigits 10 n.natAbs ++ after).head?.any digitSet.contains = true := by
      simp [hform, hdigit]
    rw [hwindow, firstMatch?_default, hunsigned, takeWhile_of_stops hdigits hshort, hstop,
      if_neg hnonempty, (stops_decimal n after).any, hhead]
    rfl
  have hwhole : (front (decimal n ++ after) (decimal n).length).whole = decimal n := by
    rw [whole_front, List.take_left]
  refine fires_of_first active_default hfirst (congrArg List.length hwhole) fun base => ?_
  have hvalue : wholeNumber (front (decimal n ++ after) (decimal n).length) = .number n := by
    unfold wholeNumber
    rw [hwhole, integer?_decimal hmin hmax]
  have hfits : ¬256 < (decimal n).length := by omega
  simp [react, numberRule, compiled, giving, Move.run, hvalue, Token.isIgnorable, window_grammar,
    hfits, numberToken]

theorem marks_default : Marks defaultRules '"' quoteRule ∧ Marks defaultRules '[' openRule ∧
    Marks defaultRules ']' closeRule := by
  refine ⟨?_, ?_, ?_⟩ <;> intro rest <;> rw [firstMatch?_default] <;> simp +decide [unsigned]

theorem fires_quote (tail : List Char) : Fires grammar [] ('"' :: tail)
    (.answer (.ok (.start (.text stringGroup)))) 1 [stringState] :=
  marks_default.1.fires active_default (fun _ _ => rfl) tail

theorem fires_open (tail : List Char) : Fires grammar [] ('[' :: tail)
    (.answer (.ok arrayTokens.1)) 1 [] :=
  marks_default.2.1.fires active_default (fun _ _ => rfl) tail

theorem fires_close (tail : List Char) : Fires grammar [] (']' :: tail)
    (.answer (.ok arrayTokens.2)) 1 [] :=
  marks_default.2.2.fires active_default (fun _ _ => rfl) tail

theorem fires_end : Fires grammar [] [] (.answer (.ok (.eof .null))) 0 [] :=
  have hfirst : firstMatch? Rule.pattern (([] : List Char).take 257) defaultRules =
      some (endRule, front [] 0) := firstMatch?_default []
  fires_of_first active_default hfirst rfl fun _ => rfl

/-! ## Inside a string -/

/-- Whether a character stands behind a backslash in a string. -/
def isEscaped (c : Char) : Bool := c == '"' || c == '\\'

/-- What stands between the quotes of a string. -/
def quotedBody (s : List Char) : List Char :=
  s.flatMap fun c => if isEscaped c then ['\\', c] else [c]

/-- No stretch of characters that are not escaped is longer than the window. -/
def ShortStretches (s : List Char) : Prop :=
  ∀ stretch, stretch <:+: s → (∀ c ∈ stretch, isEscaped c = false) → stretch.length ≤ 256

/-- A piece of a string as a token. -/
def charToken (piece : List Char) : Token Value := ⟨some "CHAR", .text (String.ofList piece)⟩

theorem contains_plainSet (c : Char) : plainSet.contains c = !isEscaped c := by
  unfold plainSet isEscaped
  rw [CharSet.contains, CharSet.contains, contains_single, contains_single]

theorem marks_string : Marks stringRules '"' unquoteRule := by
  intro rest
  rw [firstMatch?_string]
  simp +decide

theorem fires_unquote (tail : List Char) : Fires grammar [stringState] ('"' :: tail)
    (.answer (.ok (.finish (.text stringGroup)))) 1 [] :=
  marks_string.fires active_string (fun _ _ => rfl) tail

theorem fires_escape {c : Char} (hc : isEscaped c = true) (tail : List Char) :
    Fires grammar [stringState] ('\\' :: c :: tail) (.answer (.ok (charToken [c]))) 2
      [stringState] := by
  have hline : (CharSet.compl (.single '\n')).contains c = true := by
    simp only [isEscaped, Bool.or_eq_true, beq_iff_eq] at hc
    rcases hc with rfl | rfl <;> decide
  have hslash : (CharSet.single '\\').contains '\\' = true := by decide
  have hfirst : firstMatch? Rule.pattern (('\\' :: c :: tail).take 257) stringRules =
      some (escapeRule, escaped ('\\' :: c :: tail.take 255)) := by
    rw [List.take_succ_cons, List.take_succ_cons, firstMatch?_string]
    simp [hslash, hline]
  exact fires_of_first active_string hfirst rfl fun _ => rfl

/-- A plain stretch is read up to its end, if it fits in the window. -/
theorem fires_plain {stretch tail : List Char} (hne : stretch ≠ [])
    (hplain : ∀ c ∈ stretch, isEscaped c = false) (hlength : stretch.length ≤ 256)
    (htail : Stops plainSet tail) :
    Fires grammar [stringState] (stretch ++ tail) (.answer (.ok (charToken stretch)))
      stretch.length [stringState] := by
  have hset : ∀ c ∈ stretch, plainSet.contains c = true := by
    intro c hc
    rw [contains_plainSet, hplain c hc]
    rfl
  have hwindow : (stretch ++ tail).take 257 = stretch ++ tail.take (257 - stretch.length) := by
    rw [List.take_append, List.take_of_length_le (by omega)]
  have hshort := htail.take (257 - stretch.length)
  generalize tail.take (257 - stretch.length) = after at hwindow hshort
  have hfirst : firstMatch? Rule.pattern ((stretch ++ tail).take 257) stringRules =
      some (plainRule, front (stretch ++ after) stretch.length) := by
    rw [hwindow, firstMatch?_string, takeWhile_of_stops hset hshort]
    obtain ⟨c, more, rfl⟩ := List.exists_cons_of_ne_nil hne
    have hc := hplain c List.mem_cons_self
    have hmarks : (CharSet.single '\\').contains c = false ∧
        (CharSet.single '"').contains c = false := by
      rw [isEscaped, Bool.or_eq_false_iff] at hc
      rw [contains_single, contains_single]
      exact hc.symm
    simp [hmarks.1, hmarks.2, hset c List.mem_cons_self]
  have hwhole : (front (stretch ++ after) stretch.length).whole = stretch := by
    rw [whole_front, List.take_left]
  refine fires_of_first active_string hfirst (congrArg List.length hwhole) fun base => ?_
  have hfits : ¬256 < stretch.length := by omega
  simp [react, plainRule, compiled, giving, Move.run, wholeText, hwhole, Token.isIgnorable,
    window_grammar, hfits, charToken]

theorem quotedBody_append (s t : List Char) : quotedBody (s ++ t) = quotedBody s ++ quotedBody t :=
  List.flatMap_append

theorem quotedBody_of_plain {s : List Char} (h : ∀ c ∈ s, isEscaped c = false) :
    quotedBody s = s := by
  induction s with
  | nil => rfl
  | cons c s ih =>
    have hs := ih fun d hd => h d (List.mem_cons_of_mem c hd)
    unfold quotedBody at hs ⊢
    simp [h c List.mem_cons_self, hs]

theorem stops_quotedBody {s : List Char} (h : ∀ c, s.head? = some c → isEscaped c = true)
    (tail : List Char) : Stops plainSet (quotedBody s ++ '"' :: tail) := by
  cases s with
  | nil => exact .cons (by decide) tail
  | cons c s =>
    have hc := h c rfl
    have hbody : quotedBody (c :: s) = '\\' :: c :: quotedBody s := by simp [quotedBody, hc]
    rw [hbody]
    exact .cons (by decide) _

/-- **What stands in a string is read in pieces** that make up the string. -/
theorem lexes_quotedBody (s : List Char) (hs : ShortStretches s) :
    ∃ pieces : List (List Char), pieces.flatten = s ∧ ∀ tail,
      Lexes grammar [stringState] (quotedBody s ++ '"' :: tail) (pieces.map charToken) [stringState]
        ('"' :: tail) := by
  induction hlength : s.length using Nat.strongRecOn generalizing s with
  | ind length ih =>
    cases s with
    | nil => exact ⟨[], rfl, fun _ => .done _ _⟩
    | cons c t =>
      by_cases hc : isEscaped c = true
      · have ht : ShortStretches t := fun stretch hin =>
          hs stretch (hin.trans (List.suffix_cons c t).isInfix)
        obtain ⟨pieces, hpieces, hlexes⟩ := ih t.length (by rw [← hlength]; simp) t ht rfl
        refine ⟨[c] :: pieces, by rw [List.flatten_cons, hpieces]; rfl, fun tail => ?_⟩
        have hbody : quotedBody (c :: t) = '\\' :: c :: quotedBody t := by simp [quotedBody, hc]
        rw [hbody]
        exact .token (fires_escape hc _) (hlexes tail)
      · -- the longest plain stretch is one piece
        have hplain : ∀ d ∈ (c :: t).takeWhile (!isEscaped ·), isEscaped d = false := by
          intro d hd
          have hall := List.all_eq_true.1 List.all_takeWhile d hd
          simpa using hall
        have hstop : ∀ d, ((c :: t).dropWhile (!isEscaped ·)).head? = some d →
            isEscaped d = true := by
          intro d hd
          have hnot := List.head?_dropWhile_not (!isEscaped ·) (c :: t)
          rw [hd] at hnot
          simpa using hnot
        have hsplit : (c :: t).takeWhile (!isEscaped ·) ++ (c :: t).dropWhile (!isEscaped ·) =
            c :: t := List.takeWhile_append_dropWhile
        have hne : (c :: t).takeWhile (!isEscaped ·) ≠ [] := by
          simp [hc]
        generalize (c :: t).takeWhile (!isEscaped ·) = stretch at hplain hsplit hne
        generalize (c :: t).dropWhile (!isEscaped ·) = more at hstop hsplit
        rw [← hsplit] at hs hlength ⊢
        have hstretch : stretch.length ≤ 256 :=
          hs stretch (List.prefix_append stretch more).isInfix hplain
        have hmore : ShortStretches more := fun piece hin =>
          hs piece (hin.trans (List.suffix_append stretch more).isInfix)
        have hshorter : more.length < length := by
          have hpositive : 0 < stretch.length := List.length_pos_iff.2 hne
          rw [← hlength, List.length_append]
          omega
        obtain ⟨pieces, hpieces, hlexes⟩ := ih more.length hshorter more hmore rfl
        refine ⟨stretch :: pieces, by rw [List.flatten_cons, hpieces], fun tail => ?_⟩
        have hfires := fires_plain hne hplain hstretch (stops_quotedBody hstop tail)
        rw [quotedBody_append, quotedBody_of_plain hplain, List.append_assoc]
        exact .token_front hne hfires (hlexes tail)

end Lexis.Demo
