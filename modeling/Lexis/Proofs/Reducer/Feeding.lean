import Lexis.Reducer.Stream

/-!
# What a reducer does with tokens

One equation for each thing that can become of a token: it is dropped, it opens a span, it is put
into the innermost span, it comes out, or it closes a span and the token that takes its place is
routed. Tokens that are taken in one after the other without any of them bringing one out are
`Swallows`; over a supply that brings them, one after the other, such a stretch only moves a run on.

Principal results:

* `Reducer.feed_ignorable`, `Reducer.feed_start`, `Reducer.feed_plain_nil`,
  `Reducer.feed_plain_cons`, `Reducer.feed_finish` — one token;
* `Reducer.Swallows.append`, `Reducer.Swallows.of_named` — many tokens, and that ignorable ones do
  not matter;
* `Reducing.next_of_supplies`, `Reducing.next_of_supplies_emission` — how far a run pulls.
-/

namespace Lexis

/-! ## Tokens -/

namespace Token

variable {V : Type} {t : Token V}

/-- A token with a name that marks neither end of a span. -/
structure Plain (t : Token V) : Prop where
  named : t.isIgnorable = false
  notStart : t.isStart = false
  notFinish : t.isFinish = false

/-- The token, unless it is ignorable. -/
def kept? (t : Token V) : Option (Token V) := if t.isIgnorable then none else some t

theorem kept?_of_named (h : t.isIgnorable = false) : t.kept? = some t := by
  simp [kept?, h]

theorem isNamed_iff {name : String} : t.isNamed name = true ↔ t.name = some name := by
  simp [isNamed]

theorem named_of_isNamed {name : String} (h : t.isNamed name = true) : t.isIgnorable = false := by
  have hname : t.name = some name := isNamed_iff.1 h
  simp [isIgnorable, hname]

theorem isFinish_of_ignorable (h : t.isIgnorable = true) : t.isFinish = false := by
  have hname : t.name = none := by simpa [isIgnorable] using h
  simp [isFinish, isNamed, hname]

theorem isFinish_of_isStart (h : t.isStart = true) : t.isFinish = false := by
  have hname : t.name = some "START" := isNamed_iff.1 h
  simp [isFinish, isNamed, hname]

theorem isStart_of_isFinish (h : t.isFinish = true) : t.isStart = false := by
  have hname : t.name = some "END" := isNamed_iff.1 h
  simp [isStart, isNamed, hname]

end Token

/-- The tokens without those that are ignorable. -/
def namedTokens {V : Type} (tokens : List (Token V)) : List (Token V) :=
  tokens.filter (!·.isIgnorable)

theorem namedTokens_append {V : Type} (as bs : List (Token V)) :
    namedTokens (as ++ bs) = namedTokens as ++ namedTokens bs := List.filter_append ..

theorem namedTokens_singleton {V : Type} {t : Token V} (h : t.isIgnorable = false) :
    namedTokens [t] = [t] := by
  simp [namedTokens, h]

/-- Where ignorable tokens are put between others, a token among the others is found again. -/
theorem split_of_namedTokens {V : Type} {tokens init more : List (Token V)} {last : Token V}
    (h : namedTokens tokens = init ++ last :: more) :
    ∃ quiet left, tokens = quiet ++ last :: left ∧ namedTokens quiet = init ∧
      namedTokens left = more := by
  obtain ⟨front, back, htokens, hfront, hback⟩ := List.filter_eq_append_iff.1 h
  obtain ⟨skipped, left, hsplit, hskipped, -, hleft⟩ := List.filter_eq_cons_iff.1 hback
  refine ⟨front ++ skipped, left, ?_, ?_, hleft⟩
  · rw [htokens, hsplit, List.append_assoc]
  · have hnone : namedTokens skipped = [] := List.filter_eq_nil_iff.2 hskipped
    rw [namedTokens_append, hnone, List.append_nil]
    exact hfront

/-- The span with more children. -/
def Span.extend {V : Type} (span : Span V) (tokens : List (Token V)) : Span V :=
  { span with children := span.children ++ tokens }

@[simp] theorem Span.extend_nil {V : Type} (span : Span V) : span.extend [] = span := by
  simp [extend]

@[simp] theorem Span.extend_extend {V : Type} (span : Span V) (as bs : List (Token V)) :
    (span.extend as).extend bs = span.extend (as ++ bs) := by
  simp [extend]

namespace Reducer

variable {V : Type} [GroupNamed V] {r : Reducer V} {t : Token V} {span : Span V}
  {spans : List (Span V)}

/-! ## One token -/

theorem route_nil (h : t.isStart = false) : route t [] = (t.kept?, []) := by
  unfold route Token.kept?
  cases t.isIgnorable <;> simp [h]

theorem route_cons (h : t.isStart = false) :
    route t (span :: spans) = (none, span.extend t.kept?.toList :: spans) := by
  unfold route Token.kept?
  cases t.isIgnorable <;> simp [h, Span.extend]

theorem feed_of_not_finish (h : t.isFinish = false) :
    r.feed t spans = (.ok (route t spans).1, (route t spans).2) := by
  simp [feed, h]

theorem feed_ignorable (h : t.isIgnorable = true) : r.feed t spans = (.ok none, spans) := by
  rw [feed_of_not_finish (Token.isFinish_of_ignorable h)]
  simp [route, h]

theorem feed_start (h : t.isStart = true) :
    r.feed t spans = (.ok none, ⟨group? t.value, []⟩ :: spans) := by
  rw [feed_of_not_finish (Token.isFinish_of_isStart h)]
  simp [route, h, Token.named_of_isNamed h]

theorem feed_plain_nil (h : t.Plain) : r.feed t [] = (.ok (some t), []) := by
  rw [feed_of_not_finish h.notFinish, route_nil h.notStart, Token.kept?_of_named h.named]

theorem feed_plain_cons (h : t.Plain) :
    r.feed t (span :: spans) = (.ok none, span.extend [t] :: spans) := by
  rw [feed_of_not_finish h.notFinish, route_cons h.notStart, Token.kept?_of_named h.named]
  rfl

theorem feed_of_close {result : Token V} {left : List (Span V)} (h : t.isFinish = true)
    (hclose : r.close t spans = (.ok result, left)) :
    r.feed t spans = (.ok (route result left).1, (route result left).2) := by
  simp [feed, h, hclose]

theorem feed_of_close_error {fault : Fault} {left : List (Span V)} (h : t.isFinish = true)
    (hclose : r.close t spans = (.error fault, left)) :
    r.feed t spans = (.error fault, left) := by
  simp [feed, h, hclose]

/-- The reduction that an END token asks for. -/
def reduction? (r : Reducer V) (finish : Token V) : Option (List (Token V) → Token V) :=
  (group? finish.value).bind fun group => r.reductions.lookup group

/-- The END token may close a span that is opened as the group: it names a group that has a
reduction, and under strict grouping no other one than the START, if that names one. -/
structure MayClose (r : Reducer V) (opened : Option String) (finish : Token V) : Prop where
  isEnd : finish.isFinish = true
  registered : ∃ group ∈ r.groups, group? finish.value = some group
  agree : r.strict = true → opened = none ∨ opened = group? finish.value

omit [GroupNamed V] in
theorem mem_groups_iff {group : String} :
    group ∈ r.groups ↔ ∃ reduce, r.reductions.lookup group = some reduce := by
  unfold groups
  induction r.reductions with
  | nil => simp
  | cons entry reductions ih =>
    rw [List.map_cons, List.mem_cons, List.lookup_cons]
    by_cases hgroup : group = entry.1
    · simp [hgroup]
    · have hne : (group == entry.1) = false := by simpa using hgroup
      simp [hgroup, hne, ih]

omit [GroupNamed V] in
theorem lookup_register (group : String) (reduce : List (Token V) → Token V) (name : String) :
    (r.register group reduce).reductions.lookup name =
      if name = group then some reduce else r.reductions.lookup name := by
  have hothers : ∀ entries : List (String × (List (Token V) → Token V)), name ≠ group →
      (entries.filter fun entry => entry.1 ≠ group).lookup name = entries.lookup name := by
    intro entries hname
    induction entries with
    | nil => rfl
    | cons entry entries ih =>
      obtain ⟨key, found⟩ := entry
      by_cases hkey : key = group
      · have hne : (name == key) = false := by simpa [hkey] using hname
        rw [List.filter_cons_of_neg (by simpa using hkey), ih, List.lookup_cons, hne]
      · rw [List.filter_cons_of_pos (by simpa using hkey), List.lookup_cons, List.lookup_cons, ih]
  unfold register
  rw [List.lookup_cons]
  by_cases hname : name = group
  · simp [hname]
  · have hne : (name == group) = false := by simpa using hname
    simp only [hne, if_neg hname]
    exact hothers r.reductions hname

theorem MayClose.reduction {opened : Option String} {finish : Token V}
    (h : r.MayClose opened finish) : ∃ reduce, r.reduction? finish = some reduce := by
  obtain ⟨group, hmem, hgroup⟩ := h.registered
  obtain ⟨reduce, hreduce⟩ := mem_groups_iff.1 hmem
  exact ⟨reduce, by simp [reduction?, hgroup, hreduce]⟩

omit [GroupNamed V] in
/-- Strict grouping is no cause to refuse an END whose group agrees with that of the span. -/
theorem filter_of_agree {opened : Option String} {closed : String}
    (h : r.strict = true → opened = none ∨ opened = some closed) :
    opened.filter (fun opened => r.strict && opened != closed) = none := by
  rw [Option.filter_eq_none_iff]
  rintro name rfl
  cases hstrict : r.strict with
  | false => simp
  | true =>
    have hsame : name = closed := by simpa using h hstrict
    simp [hsame]

theorem close_of_mayClose {finish : Token V} {reduce : List (Token V) → Token V}
    (h : r.MayClose span.group finish) (hreduce : r.reduction? finish = some reduce) :
    r.close finish (span :: spans) = (.ok (reduce span.children), spans) := by
  obtain ⟨group, -, hgroup⟩ := h.registered
  have hlookup : r.reductions.lookup group = some reduce := by
    simpa [reduction?, hgroup] using hreduce
  have hagree := h.agree
  rw [hgroup] at hagree
  simp only [close, hgroup, filter_of_agree hagree, hlookup]

/-- An END token that may close the innermost span takes it away, and the token that takes its place
is routed. -/
theorem feed_finish {finish : Token V} {reduce : List (Token V) → Token V}
    (h : r.MayClose span.group finish) (hreduce : r.reduction? finish = some reduce) :
    r.feed finish (span :: spans) =
      (.ok (route (reduce span.children) spans).1, (route (reduce span.children) spans).2) :=
  feed_of_close h.isEnd (close_of_mayClose h hreduce)

/-! ## Many tokens -/

/-- The tokens are taken in one after the other, without a fault and without any of them bringing a
token out. -/
def Swallows (r : Reducer V) : List (Token V) → List (Span V) → List (Span V) → Prop
  | [], spans, spans' => spans = spans'
  | t :: tokens, spans, spans' =>
    ∃ between, r.feed t spans = (.ok none, between) ∧ r.Swallows tokens between spans'

namespace Swallows

variable {as bs tokens : List (Token V)} {between spans' : List (Span V)}

theorem append (h : r.Swallows as spans between) (h' : r.Swallows bs between spans') :
    r.Swallows (as ++ bs) spans spans' := by
  induction as generalizing spans with
  | nil =>
    have heq : spans = between := h
    rw [heq]
    exact h'
  | cons a as ih =>
    obtain ⟨next, hfeed, hrest⟩ := h
    exact ⟨next, hfeed, ih hrest⟩

/-- Ignorable tokens do not matter. -/
theorem of_named (h : r.Swallows (namedTokens tokens) spans spans') :
    r.Swallows tokens spans spans' := by
  induction tokens generalizing spans with
  | nil => exact h
  | cons t tokens ih =>
    cases ht : t.isIgnorable with
    | true =>
      have hskip : namedTokens (t :: tokens) = namedTokens tokens := by simp [namedTokens, ht]
      rw [hskip] at h
      exact ⟨spans, feed_ignorable ht, ih h⟩
    | false =>
      have hkeep : namedTokens (t :: tokens) = t :: namedTokens tokens := by simp [namedTokens, ht]
      rw [hkeep] at h
      obtain ⟨next, hfeed, hrest⟩ := h
      exact ⟨next, hfeed, ih hrest⟩

end Swallows

end Reducer

/-! ## Runs over a supply -/

/-- Pulling the supply brings the tokens one after the other, and leaves the other supply. -/
def Supplies {υ V : Type} [Supply υ V] (limit : Nat) : List (Token V) → (supply left : υ) → Prop
  | [], supply, left => supply = left
  | t :: tokens, supply, left => ∃ between,
    Supply.pull limit supply = (.item (.ok t), between) ∧ Supplies limit tokens between left

theorem Supplies.append {υ V : Type} [Supply υ V] {limit : Nat} {as bs : List (Token V)}
    {supply between left : υ} (has : Supplies limit as supply between)
    (hbs : Supplies limit bs between left) : Supplies limit (as ++ bs) supply left := by
  induction as generalizing supply with
  | nil =>
    have heq : supply = between := has
    rw [heq]
    exact hbs
  | cons a as ih =>
    obtain ⟨next, hpull, hrest⟩ := has
    exact ⟨next, hpull, ih hrest⟩

theorem Supplies.split {υ V : Type} [Supply υ V] {limit : Nat} {as bs : List (Token V)}
    {supply left : υ} (h : Supplies limit (as ++ bs) supply left) :
    ∃ between, Supplies limit as supply between ∧ Supplies limit bs between left := by
  induction as generalizing supply with
  | nil => exact ⟨supply, rfl, h⟩
  | cons a as ih =>
    obtain ⟨next, hpull, hrest⟩ := h
    obtain ⟨between, has, hbs⟩ := ih hrest
    exact ⟨between, ⟨next, hpull, has⟩, hbs⟩

namespace Reducing

variable {υ V : Type} [GroupNamed V] [Supply υ V] {r : Reducer V} {limit : Nat}
  {tokens : List (Token V)} {supply between left : υ} {spans spans' : List (Span V)}

theorem next_of_pull {t : Token V} (h : Supply.pull limit supply = (.item (.ok t), left))
    (pulls : Nat) (spans : List (Span V)) : next r limit (pulls + 1) ⟨supply, spans⟩ =
      match r.feed t spans with
      | (.error fault, spans) => (.item (.error fault), ⟨left, spans⟩)
      | (.ok (some token), spans) => (.item (.ok token), ⟨left, spans⟩)
      | (.ok none, spans) => next r limit pulls ⟨left, spans⟩ := by
  rcases hfeed : r.feed t spans with ⟨fault | _ | token, spans'⟩ <;> simp only [next, h, hfeed]

/-- Tokens that are swallowed only move a run on. -/
theorem next_of_supplies (hsupplies : Supplies limit tokens supply left)
    (h : r.Swallows tokens spans spans') (pulls : Nat) :
    next r limit (tokens.length + pulls) ⟨supply, spans⟩ = next r limit pulls ⟨left, spans'⟩ := by
  induction tokens generalizing supply spans with
  | nil =>
    have hsupply : supply = left := hsupplies
    have hspans : spans = spans' := h
    rw [hsupply, hspans, List.length_nil, Nat.zero_add]
  | cons t tokens ih =>
    obtain ⟨next, hpull, hmore⟩ := hsupplies
    obtain ⟨opened, hfeed, hrest⟩ := h
    rw [List.length_cons, Nat.add_right_comm, next_of_pull hpull, hfeed]
    exact ih hmore hrest

/-- A token that comes out does so by the pull of the token that brings it out, and of no other. -/
theorem next_of_supplies_emission {quiet : List (Token V)} {t token : Token V}
    {opened : List (Span V)} (hsupplies : Supplies limit (quiet ++ [t]) supply left)
    (h : r.Swallows quiet spans opened) (hfeed : r.feed t opened = (.ok (some token), spans'))
    (pulls : Nat) : next r limit (quiet.length + (pulls + 1)) ⟨supply, spans⟩ =
      (.item (.ok token), ⟨left, spans'⟩) := by
  obtain ⟨between, hquiet, last, hpull, hlast⟩ := hsupplies.split
  have hleft : last = left := hlast
  rw [next_of_supplies hquiet h, next_of_pull hpull, hfeed, hleft]

end Reducing

/-! ## Runs over tokens given in advance -/

namespace Reducing

variable {V : Type} [GroupNamed V] {r : Reducer V} {limit : Nat}

/-- A supply of tokens, with more tokens and faults behind them. -/
def items (tokens : List (Token V)) (rest : List (Except Fault (Token V))) :
    List (Except Fault (Token V)) :=
  tokens.map .ok ++ rest

omit [GroupNamed V] in
theorem items_append (as bs : List (Token V)) (rest : List (Except Fault (Token V))) :
    items (as ++ bs) rest = items as (items bs rest) := by
  simp [items]

omit [GroupNamed V] in
theorem supplies_items (tokens : List (Token V)) (rest : List (Except Fault (Token V))) :
    Supplies limit tokens (items tokens rest) rest := by
  induction tokens with
  | nil => exact rfl
  | cons t tokens ih => exact ⟨items tokens rest, rfl, ih⟩

theorem next_of_swallows {tokens : List (Token V)} {rest : List (Except Fault (Token V))}
    {spans spans' : List (Span V)} (h : r.Swallows tokens spans spans') (pulls : Nat) :
    next r limit (tokens.length + pulls) ⟨items tokens rest, spans⟩ =
      next r limit pulls ⟨rest, spans'⟩ :=
  next_of_supplies (supplies_items tokens rest) h pulls

theorem answers_of_emission {quiet : List (Token V)} {t token : Token V}
    {rest : List (Except Fault (Token V))} {spans between spans' : List (Span V)}
    (h : r.Swallows quiet spans between) (hfeed : r.feed t between = (.ok (some token), spans'))
    (hlimit : quiet.length < limit) (count : Nat) :
    answers r limit (count + 1) ⟨items (quiet ++ [t]) rest, spans⟩ =
      ((.item (.ok token), spans'.reverse) :: (answers r limit count ⟨rest, spans'⟩).1,
        (answers r limit count ⟨rest, spans'⟩).2) := by
  obtain ⟨pulls, hpulls⟩ : ∃ pulls, limit = quiet.length + (pulls + 1) :=
    ⟨limit - quiet.length - 1, by omega⟩
  have hnext : next r limit (quiet.length + (pulls + 1)) ⟨items (quiet ++ [t]) rest, spans⟩ =
      (.item (.ok token), ⟨rest, spans'⟩) :=
    next_of_supplies_emission (supplies_items _ rest) h hfeed pulls
  rw [← hpulls] at hnext
  simp only [answers, hnext, pending]

end Reducing

end Lexis
