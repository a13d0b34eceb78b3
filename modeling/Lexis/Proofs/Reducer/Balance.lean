import Lexis.Proofs.Reducer.Course
import Lexis.Proofs.Reducer.Resuming

/-!
# Balanced tokens

Whether an END can be reduced is a matter of the groups of the open spans, and not of what is in
them. A START opens a span of the group that it names, and an END that can be reduced closes the
innermost one, so the tokens alone say which groups are open behind them (`groupsAfter`). A series
over tokens ends at the first END that is refused there, with the fault that says why, and takes
nothing in behind it; without such an END it ends with the tokens, and it is a fault if spans are
open then.

Principal results:

* `Reducer.feed_of_refuses`, `Reducer.feed_of_admitted` — one token;
* `Reducible.advance` — tokens among which no END is refused, in front of any course;
* `ReducedSeries.ends_by_balance` — where a series ends and with what, and that over groups that all
  have a reduction it ends without a fault exactly if the tokens are balanced.
-/

namespace Lexis

variable {V : Type}

/-! ## Spans by their groups -/

/-- How many spans the tokens open. -/
def openings (tokens : List (Token V)) : Nat := tokens.countP Token.isStart

/-- How many spans the tokens close, if each END among them closes one. -/
def closings (tokens : List (Token V)) : Nat := tokens.countP Token.isFinish

/-- Where so many spans are open, the tokens never close more spans than there are, and all of them
in the end. -/
def Balanced (depth : Nat) (tokens : List (Token V)) : Prop :=
  (∀ front, front <+: tokens → closings front ≤ depth + openings front) ∧
    closings tokens = depth + openings tokens

variable [GroupNamed V]

/-- The groups of the open spans, innermost first, behind a token. -/
def Token.regroup (groups : List (Option String)) (t : Token V) : List (Option String) :=
  if t.isStart then group? t.value :: groups
  else if t.isFinish then groups.tail
  else groups

/-- The groups of the open spans, innermost first, behind the tokens. -/
def groupsAfter (tokens : List (Token V)) (groups : List (Option String)) : List (Option String) :=
  tokens.foldl Token.regroup groups

namespace Reducer

/-- The END token cannot be reduced where spans of these groups are open, innermost first, and this
is the fault that it is refused with. -/
inductive Refuses (r : Reducer V) (finish : Token V) : List (Option String) → Fault → Prop where
  | missing {groups : List (Option String)} : group? finish.value = none →
      Refuses r finish groups .missingGroup
  | unbalanced {closed : String} : group? finish.value = some closed →
      Refuses r finish [] (.unbalancedEnd closed)
  | mismatched {opened closed : String} {groups : List (Option String)} :
      group? finish.value = some closed → r.strict = true → opened ≠ closed →
      Refuses r finish (some opened :: groups) (.mismatchedGroup opened closed)
  | unknown {own : Option String} {closed : String} {groups : List (Option String)} :
      group? finish.value = some closed → (r.strict = true → own = none ∨ own = some closed) →
      closed ∉ r.groups → Refuses r finish (own :: groups) (.unknownGroup closed)

/-- No END among the tokens is refused where it is met. -/
def Reducible (r : Reducer V) (tokens : List (Token V)) (groups : List (Option String)) : Prop :=
  ∀ front finish back, tokens = front ++ finish :: back → finish.isFinish = true →
    ∀ fault, ¬r.Refuses finish (groupsAfter front groups) fault

variable {r : Reducer V} {t : Token V} {spans : List (Span V)} {groups : List (Option String)}
  {tokens front back : List (Token V)} {fault : Fault}

/-! ## One token -/

/-- An END either closes the innermost span or is refused. -/
theorem mayClose_or_refuses (r : Reducer V) (h : t.isFinish = true)
    (groups : List (Option String)) :
    (∃ own inner, groups = own :: inner ∧ r.MayClose own t) ∨
      ∃ fault, r.Refuses t groups fault := by
  cases hgroup : group? t.value with
  | none => exact Or.inr ⟨_, .missing hgroup⟩
  | some closed =>
    cases groups with
    | nil => exact Or.inr ⟨_, .unbalanced hgroup⟩
    | cons own inner =>
      by_cases hagree : r.strict = true → own = none ∨ own = some closed
      · by_cases hmem : closed ∈ r.groups
        · refine Or.inl ⟨own, inner, rfl, h, ⟨closed, hmem, hgroup⟩, ?_⟩
          rw [hgroup]
          exact hagree
        · exact Or.inr ⟨_, .unknown hgroup hagree hmem⟩
      · rw [Classical.not_imp, not_or] at hagree
        obtain ⟨hstrict, hsome, hother⟩ := hagree
        obtain ⟨opened, rfl⟩ := Option.ne_none_iff_exists'.1 hsome
        have hne : opened ≠ closed := fun heq => hother (congrArg some heq)
        exact Or.inr ⟨_, .mismatched hgroup hstrict hne⟩

/-- The spans that are left where an END is refused with the fault. Whether it names a group and
whether a span is open is looked at first, and then the innermost span is taken away. -/
def remaining (fault : Fault) (spans : List (Span V)) : List (Span V) :=
  match fault with
  | .mismatchedGroup _ _ => spans.tail
  | .unknownGroup _ => spans.tail
  | _ => spans

theorem close_of_refuses (h : r.Refuses t (spans.map Span.group) fault) :
    r.close t spans = (.error fault, remaining fault spans) := by
  generalize hgroups : spans.map Span.group = groups at h
  cases h with
  | missing hgroup => simp only [close, hgroup, remaining]
  | unbalanced hgroup =>
    obtain rfl : spans = [] := List.map_eq_nil_iff.1 hgroups
    simp only [close, hgroup, remaining]
  | @mismatched opened closed groups hgroup hstrict hne =>
    obtain ⟨span, inner, rfl, hspan, -⟩ := List.map_eq_cons_iff.1 hgroups
    have hdiffer :
        span.group.filter (fun opened => r.strict && opened != closed) = some opened := by
      simp [hspan, hstrict, hne]
    simp only [close, hgroup, hdiffer, remaining, List.tail_cons]
  | @unknown own closed groups hgroup hagree hmem =>
    obtain ⟨span, inner, rfl, hspan, -⟩ := List.map_eq_cons_iff.1 hgroups
    rw [← hspan] at hagree
    have hlookup : r.reductions.lookup closed = none := by
      rw [Option.eq_none_iff_forall_ne_some]
      exact fun reduce hreduce => hmem (mem_groups_iff.2 ⟨reduce, hreduce⟩)
    simp only [close, hgroup, filter_of_agree hagree, hlookup, remaining, List.tail_cons]

theorem feed_of_refuses (hend : t.isFinish = true)
    (h : r.Refuses t (spans.map Span.group) fault) :
    r.feed t spans = (.error fault, remaining fault spans) :=
  feed_of_close_error hend (close_of_refuses h)

theorem groups_route (h : t.isStart = false) (spans : List (Span V)) :
    (route t spans).2.map Span.group = spans.map Span.group := by
  cases spans with
  | nil => rw [route_nil h]
  | cons span spans =>
    rw [route_cons h]
    rfl

/-- **A token that is not refused** is taken in, and the groups behind it are as it says. -/
theorem feed_of_admitted (hr : r.OpensNone)
    (h : t.isFinish = true → ∀ fault, ¬r.Refuses t (spans.map Span.group) fault) :
    ∃ out spans', r.feed t spans = (.ok out, spans') ∧
      spans'.map Span.group = t.regroup (spans.map Span.group) := by
  cases hend : t.isFinish with
  | true =>
    rcases mayClose_or_refuses r hend (spans.map Span.group) with
      ⟨own, inner, hgroups, hclose⟩ | ⟨fault, hrefuses⟩
    · obtain ⟨span, rest, rfl, rfl, -⟩ := List.map_eq_cons_iff.1 hgroups
      obtain ⟨reduce, hreduce⟩ := hclose.reduction
      have hstart := Token.isStart_of_isFinish hend
      have hplain := hr.isStart_of_reduction hreduce span.children
      refine ⟨_, _, feed_finish hclose hreduce, ?_⟩
      rw [groups_route hplain]
      simp [Token.regroup, hstart, hend]
    · exact absurd hrefuses (h hend fault)
  | false =>
    refine ⟨_, _, feed_of_not_finish hend, ?_⟩
    cases hstart : t.isStart with
    | true => simp [route, Token.named_of_isNamed hstart, hstart, Token.regroup]
    | false =>
      rw [groups_route hstart]
      simp [Token.regroup, hstart, hend]

/-! ## Many tokens -/

/-- The END behind the front is the first one among the tokens that is refused. -/
structure FirstRefused (r : Reducer V) (groups : List (Option String))
    (tokens front : List (Token V)) (finish : Token V) (fault : Fault) : Prop where
  split : ∃ back, tokens = front ++ finish :: back
  isEnd : finish.isFinish = true
  before : r.Reducible front groups
  refused : r.Refuses finish (groupsAfter front groups) fault

theorem reducible_nil (groups : List (Option String)) : r.Reducible [] groups := by
  intro front finish back hsplit
  simp at hsplit

theorem reducible_cons : r.Reducible (t :: tokens) groups ↔
    (t.isFinish = true → ∀ fault, ¬r.Refuses t groups fault) ∧
      r.Reducible tokens (t.regroup groups) := by
  constructor
  · intro h
    refine ⟨h [] t tokens rfl, fun front finish back hsplit => ?_⟩
    exact h (t :: front) finish back (by rw [hsplit, List.cons_append])
  · rintro ⟨hfirst, hrest⟩ front finish back hsplit
    cases front with
    | nil =>
      obtain ⟨rfl, rfl⟩ := List.cons.inj hsplit
      exact hfirst
    | cons u front =>
      obtain ⟨rfl, rfl⟩ := List.cons.inj hsplit
      exact hrest front finish back rfl

/-- Either no END is refused or there is a first one that is. -/
theorem reducible_or_refused (r : Reducer V) (tokens : List (Token V))
    (groups : List (Option String)) : r.Reducible tokens groups ∨
      ∃ front finish fault, r.FirstRefused groups tokens front finish fault := by
  induction tokens generalizing groups with
  | nil => exact Or.inl (reducible_nil groups)
  | cons t tokens ih =>
    by_cases hfirst : t.isFinish = true → ∀ fault, ¬r.Refuses t groups fault
    · rcases ih (t.regroup groups) with hrest | ⟨front, finish, fault, ⟨back, rfl⟩, hend, hfront, h⟩
      · exact Or.inl (reducible_cons.2 ⟨hfirst, hrest⟩)
      · have hbefore : r.Reducible (t :: front) groups := reducible_cons.2 ⟨hfirst, hfront⟩
        exact Or.inr ⟨t :: front, finish, fault, ⟨back, rfl⟩, hend, hbefore, h⟩
    · push Not at hfirst
      obtain ⟨hend, fault, hrefuses⟩ := hfirst
      exact Or.inr ⟨[], t, fault, ⟨tokens, rfl⟩, hend, reducible_nil groups, hrefuses⟩

theorem Reducible.of_append (h : r.Reducible (front ++ back) groups) :
    r.Reducible front groups := by
  intro before finish after hsplit
  refine h before finish (after ++ back) ?_
  rw [hsplit, List.append_assoc, List.cons_append]

/-- **Tokens among which no END is refused** bring only tokens out, and any course can follow
them. -/
theorem Reducible.advance (hr : r.OpensNone) (limit : Nat) (rest : List (Except Fault (Token V)))
    (h : r.Reducible tokens (spans.map Span.group)) :
    ∃ (pulled : List (Pulled (List (Except Fault (Token V))) V)) (given : List (Token V))
      (spans' : List (Span V)), pulled.map Pulled.token = tokens ∧ given.length ≤ tokens.length ∧
      spans'.map Span.group = groupsAfter tokens (spans.map Span.group) ∧
      ∀ more answers, Course r limit ⟨rest, spans'⟩ more answers →
        Course r limit ⟨Reducing.items tokens rest, spans⟩ (pulled ++ more)
          (emissions given ++ answers) := by
  induction tokens generalizing spans with
  | nil => exact ⟨[], [], spans, rfl, Nat.le_refl 0, rfl, fun more answers hcourse => hcourse⟩
  | cons t tokens ih =>
    obtain ⟨hfirst, hrest⟩ := reducible_cons.1 h
    obtain ⟨out, between, hfeed, hgroups⟩ := feed_of_admitted hr hfirst
    rw [← hgroups] at hrest
    obtain ⟨pulled, given, spans', hpulled, hgiven, hafter, hcourse⟩ := ih hrest
    have hafter' : spans'.map Span.group = groupsAfter (t :: tokens) (spans.map Span.group) := by
      rw [hafter, hgroups]
      rfl
    have hread : (⟨t, ⟨Reducing.items tokens rest, between⟩⟩ :: pulled).map Pulled.token =
        t :: tokens := by
      rw [List.map_cons, hpulled]
    rw [List.length_cons]
    cases out with
    | none =>
      refine ⟨_, given, spans', hread, by omega, hafter', fun more answers hmore => ?_⟩
      exact .quiet rfl hfeed (hcourse more answers hmore)
    | some token =>
      obtain rfl : between = [] := spans_of_emission hfeed
      refine ⟨_, token :: given, spans', hread, ?_, hafter', fun more answers hmore => ?_⟩
      · rw [List.length_cons]
        omega
      · exact .emitted rfl hfeed (hcourse more answers hmore)

/-! ## Depths -/

theorem Reducible.length_groupsAfter (h : r.Reducible tokens groups) :
    (groupsAfter tokens groups).length + closings tokens = groups.length + openings tokens := by
  induction tokens generalizing groups with
  | nil => rfl
  | cons t tokens ih =>
    obtain ⟨hfirst, hrest⟩ := reducible_cons.1 h
    have hdepth := ih hrest
    have hstep : (t.regroup groups).length + closings [t] = groups.length + openings [t] := by
      cases hstart : t.isStart with
      | true =>
        simp [Token.regroup, closings, openings, hstart, Token.isFinish_of_isStart hstart]
      | false =>
        cases hend : t.isFinish with
        | true =>
          rcases mayClose_or_refuses r hend groups with ⟨own, inner, rfl, -⟩ | ⟨fault, hrefuses⟩
          · simp [Token.regroup, closings, openings, hstart, hend]
          · exact absurd hrefuses (hfirst hend fault)
        | false => simp [Token.regroup, closings, openings, hstart, hend]
    have hclosings : closings ([t] ++ tokens) = closings [t] + closings tokens := List.countP_append
    have hopenings : openings ([t] ++ tokens) = openings [t] + openings tokens := List.countP_append
    have hafter : groupsAfter (t :: tokens) groups = groupsAfter tokens (t.regroup groups) := rfl
    rw [List.singleton_append] at hclosings hopenings
    rw [hclosings, hopenings, hafter]
    omega

/-- Without strict grouping an END of a group that has a reduction is refused only where no span is
open. -/
theorem Refuses.eq_nil (h : r.Refuses t groups fault) (hstrict : r.strict = false)
    (hgroup : ∃ group ∈ r.groups, group? t.value = some group) : groups = [] := by
  obtain ⟨group, hmem, hgroup⟩ := hgroup
  cases h with
  | missing hnone =>
    rw [hgroup] at hnone
    cases hnone
  | unbalanced => rfl
  | mismatched _ htrue _ =>
    rw [hstrict] at htrue
    cases htrue
  | unknown hclosed _ hnot =>
    rw [hgroup] at hclosed
    obtain rfl := Option.some.inj hclosed
    exact absurd hmem hnot

/-- Without strict grouping, and if all groups have a reduction, only the depth matters. -/
theorem reducible_iff (hstrict : r.strict = false)
    (hgroups : ∀ t ∈ tokens, t.isFinish = true → ∃ group ∈ r.groups, group? t.value = some group) :
    r.Reducible tokens groups ↔
      ∀ front, front <+: tokens → closings front ≤ groups.length + openings front := by
  constructor
  · rintro h front ⟨back, rfl⟩
    have hdepth := h.of_append.length_groupsAfter
    omega
  · intro h
    refine (reducible_or_refused r tokens groups).resolve_right ?_
    rintro ⟨front, finish, fault, ⟨back, rfl⟩, hend, hfront, hrefuses⟩
    have hnone := hrefuses.eq_nil hstrict (hgroups finish (by simp) hend)
    have hdepth := hfront.length_groupsAfter
    have hprefix : front ++ [finish] <+: front ++ finish :: back := ⟨back, by simp⟩
    have hle := h (front ++ [finish]) hprefix
    have hstart := Token.isStart_of_isFinish hend
    have hclosings : closings (front ++ [finish]) = closings front + 1 := by
      simp [closings, hend]
    have hopenings : openings (front ++ [finish]) = openings front := by
      simp [openings, hstart]
    rw [hnone, List.length_nil] at hdepth
    omega

end Reducer

/-! ## Series -/

namespace ReducedSeries

/-- Asked up to so many times, the series pulls these tokens, gives tokens, and ends, with the fault
if there is one. -/
structure Ends {υ : Type} [Supply υ V] (limit count : Nat) (s : ReducedSeries υ V)
    (tokens : List (Token V)) (fault? : Option Fault) : Prop where
  answers : ∃ given : List (Token V),
    (s.answers limit count).1.map Prod.fst = given.map .ok ++ fault?.toList.map .error
  ended : (s.answers limit count).2.1 = true
  pulled : (s.pulled limit count).map Pulled.token = tokens

variable {r : Reducer V} {limit count : Nat} {tokens : List (Token V)}

/-- The faults among the answers. -/
def faults (answers : List (Except Fault (Token V))) : List Fault :=
  answers.filterMap fun | .error fault => some fault | .ok _ => none

omit [GroupNamed V] in
theorem faults_of_given (given : List (Token V)) (behind : List Fault) :
    faults (given.map .ok ++ behind.map .error) = behind := by
  have hgiven : faults (given.map .ok) = [] := by
    rw [faults, List.filterMap_map]
    exact List.filterMap_eq_nil_iff.2 fun _ _ => rfl
  have hbehind : faults (behind.map .error : List (Except Fault (Token V))) = behind := by
    rw [faults, List.filterMap_map]
    exact List.filterMap_some
  rw [faults, List.filterMap_append, ← faults, ← faults, hgiven, hbehind, List.nil_append]

theorem Ends.unique {υ : Type} [Supply υ V] {s : ReducedSeries υ V} {tokens' : List (Token V)}
    {fault? fault?' : Option Fault} (h : s.Ends limit count tokens fault?)
    (h' : s.Ends limit count tokens' fault?') : fault? = fault?' := by
  obtain ⟨given, hgiven⟩ := h.answers
  obtain ⟨given', hgiven'⟩ := h'.answers
  have hfaults := congrArg faults hgiven
  rw [hgiven', faults_of_given, faults_of_given] at hfaults
  have hfirst := congrArg List.head? hfaults
  rw [Option.head?_toList, Option.head?_toList] at hfirst
  exact hfirst.symm

/-- A course whose answers are tokens, and a fault at most behind them, is a series that ends. -/
theorem Ends.of_course {υ : Type} [Supply υ V] {run : Reducing υ V} {pulled : List (Pulled υ V)}
    {given : List (Token V)} {behind : List (Except Fault (Token V) × List (Span V))}
    {fault? : Option Fault}
    (h : Course r limit run pulled (emissions given ++ behind))
    (hbehind : behind.map Prod.fst = fault?.toList.map .error)
    (hpulled : pulled.map Pulled.token = tokens) (hlimit : tokens.length < limit)
    (hcount : given.length + 1 < count) : (ofRun r run).Ends limit count tokens fault? := by
  have hlength : pulled.length = tokens.length := by rw [← hpulled, List.length_map]
  have hfew : behind.length ≤ 1 := by
    rw [← List.length_map (f := Prod.fst), hbehind]
    cases fault? <;> simp
  have hanswers : (emissions given ++ behind).length < count := by
    rw [List.length_append, emissions, List.length_map]
    omega
  obtain ⟨⟨last, hseries⟩, hread⟩ := h.series (by omega) hanswers
  refine ⟨⟨given, ?_⟩, ?_, ?_⟩
  · rw [hseries, List.map_append, map_fst_emissions, hbehind]
  · rw [hseries]
  · rw [hread, hpulled]

/-- The fault at the end of the tokens, if so many spans are open there. -/
def endFault? : (depth : Nat) → Option Fault
  | 0 => none
  | depth + 1 => some (.unclosedSpans (depth + 1))

theorem ends_of_reducible (hr : r.OpensNone) {spans : List (Span V)}
    (h : r.Reducible tokens (spans.map Span.group)) (hlimit : tokens.length < limit)
    (hcount : tokens.length + 1 < count) :
    (ofRun r ⟨Reducing.items tokens [], spans⟩).Ends limit count tokens
      (endFault? (groupsAfter tokens (spans.map Span.group)).length) := by
  obtain ⟨pulled, given, spans', hpulled, hgiven, hafter, hcourse⟩ := h.advance hr limit []
  have hended : Supply.pull limit ([] : List (Except Fault (Token V))) = (.ended, []) := rfl
  have hcount' : given.length + 1 < count := by omega
  rw [← hafter, List.length_map]
  cases spans' with
  | nil =>
    have hwhole := hcourse [] [] (.ended hended)
    rw [List.append_nil] at hwhole
    exact .of_course hwhole rfl hpulled hlimit hcount'
  | cons span spans' =>
    have hwhole := hcourse [] _ (.unclosed hended)
    rw [List.append_nil] at hwhole
    exact .of_course hwhole rfl hpulled hlimit hcount'

theorem ends_of_refused (hr : r.OpensNone) {spans : List (Span V)} {front : List (Token V)}
    {finish : Token V} {fault : Fault}
    (h : r.FirstRefused (spans.map Span.group) tokens front finish fault)
    (hlimit : tokens.length < limit) (hcount : tokens.length + 1 < count) :
    (ofRun r ⟨Reducing.items tokens [], spans⟩).Ends limit count (front ++ [finish])
      (some fault) := by
  obtain ⟨⟨back, rfl⟩, hend, hfront, hrefused⟩ := h
  obtain ⟨pulled, given, spans', hpulled, hgiven, hafter, hcourse⟩ :=
    hfront.advance hr limit (Reducing.items (finish :: back) [])
  rw [← hafter] at hrefused
  have hwhole := hcourse _ _ (.refused rfl (Reducer.feed_of_refuses hend hrefused))
  rw [← Reducing.items_append] at hwhole
  rw [List.length_append, List.length_cons] at hlimit hcount
  have hread : (front ++ [finish]).length < limit := by
    rw [List.length_append, List.length_singleton]
    omega
  refine .of_course hwhole rfl ?_ hread (by omega)
  rw [List.map_append, hpulled]
  rfl

/-- **The first fault of a series, and that the balanced tokens are those without one.** No
reduction gives a START. Behind tokens among which no END is refused as many spans are open as were
open at first, one more for each START and one less for each END. The first END that is refused, for
the cause that comes first, ends the series with its fault; tokens without such an END are all taken
in, and it is a fault if spans are open behind them. So if grouping is not strict and each END names
a group that has a reduction, the series ends without a fault exactly if the tokens are balanced. -/
theorem ends_by_balance (hr : r.OpensNone) (tokens : List (Token V)) (opened : List (Span V))
    {limit count : Nat} (hlimit : tokens.length < limit) (hcount : tokens.length + 1 < count) :
    let groups := (opened.map Span.group).reverse
    let series := ofRun r (Reducing.start (Reducing.items tokens []) opened)
    (∀ front, r.Reducible front groups →
      (groupsAfter front groups).length + closings front = opened.length + openings front) ∧
    (∀ front finish fault, r.FirstRefused groups tokens front finish fault →
      series.Ends limit count (front ++ [finish]) (some fault)) ∧
    (r.Reducible tokens groups →
      series.Ends limit count tokens (endFault? (groupsAfter tokens groups).length)) ∧
    (r.Reducible tokens groups ∨
      ∃ front finish fault, r.FirstRefused groups tokens front finish fault) ∧
    (r.strict = false →
      (∀ t ∈ tokens, t.isFinish = true → ∃ group ∈ r.groups, group? t.value = some group) →
      ((∃ read, series.Ends limit count read none) ↔ Balanced opened.length tokens)) := by
  intro groups series
  have hgroups : groups = opened.reverse.map Span.group := List.map_reverse.symm
  have hdepth : groups.length = opened.length := by rw [hgroups]; simp
  have hrefused : ∀ front finish fault, r.FirstRefused groups tokens front finish fault →
      series.Ends limit count (front ++ [finish]) (some fault) := by
    intro front finish fault h
    rw [hgroups] at h
    exact ends_of_refused hr h hlimit hcount
  have hreducible : r.Reducible tokens groups →
      series.Ends limit count tokens (endFault? (groupsAfter tokens groups).length) := by
    intro h
    rw [hgroups] at h ⊢
    exact ends_of_reducible hr h hlimit hcount
  have hcases := Reducer.reducible_or_refused r tokens groups
  refine ⟨fun front h => ?_, hrefused, hreducible, hcases, fun hstrict hnamed => ?_⟩
  · rw [← hdepth]
    exact h.length_groupsAfter
  · rw [Balanced, ← hdepth, ← Reducer.reducible_iff hstrict hnamed]
    constructor
    · rintro ⟨read, hnone⟩
      rcases hcases with h | ⟨front, finish, fault, h⟩
      · have hopen := hnone.unique (hreducible h)
        have hlength := h.length_groupsAfter
        cases hafter : (groupsAfter tokens groups).length with
        | zero => exact ⟨h, by omega⟩
        | succ depth =>
          rw [hafter] at hopen
          cases hopen
      · cases hnone.unique (hrefused front finish fault h)
    · rintro ⟨h, hclosed⟩
      have hlength := h.length_groupsAfter
      have hnone : (groupsAfter tokens groups).length = 0 := by omega
      have hends := hreducible h
      rw [hnone] at hends
      exact ⟨tokens, hends⟩

/-- An array that is closed twice. -/
theorem ends_by_balance_twice :
    let tokens := [Demo.arrayTokens.1, Demo.numberToken 1, Demo.arrayTokens.2, Demo.arrayTokens.2]
    (ofRun Demo.reducer (Reducing.start (Reducing.items tokens []) [])).Ends 5 6 tokens
      (some (.unbalancedEnd "ARRAY")) := by
  intro tokens
  have hlimit : tokens.length < 5 := by decide
  have hcount : tokens.length + 1 < 6 := by decide
  obtain ⟨-, hrefused, -⟩ := ends_by_balance Demo.opensNone_reducer tokens [] hlimit hcount
  have hclose : Demo.reducer.Reducible [Demo.arrayTokens.2] [some "ARRAY"] := by
    refine Reducer.reducible_cons.2 ⟨fun _ fault h => ?_, Reducer.reducible_nil _⟩
    have hregistered : ∃ group ∈ Demo.reducer.groups,
        group? Demo.arrayTokens.2.value = some group := ⟨"ARRAY", by decide, rfl⟩
    cases h.eq_nil rfl hregistered
  refine hrefused tokens.dropLast Demo.arrayTokens.2 _ ⟨⟨[], rfl⟩, rfl, ?_, .unbalanced rfl⟩
  refine Reducer.reducible_cons.2 ⟨fun h => ?_, Reducer.reducible_cons.2 ⟨fun h => ?_, hclose⟩⟩
  · cases h
  · cases h

end ReducedSeries

end Lexis
