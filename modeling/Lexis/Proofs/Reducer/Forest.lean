import Lexis.Demo.Grammar
import Lexis.Proofs.Reducer.Feeding
import Mathlib.Data.List.Induction

/-!
# Reducing is folding a forest

Tokens whose spans are closed are a forest: a list of trees, each a plain token or a span with a
forest in it. A reducer takes the written form of a forest in token by token, and what comes of it
is the fold of the forest, in which each span gives way to what its group makes of the folded
children. Spans that are still open come after it, each with a forest of its own.

Inside a span a tree is swallowed as a whole, which is an induction over trees and forests together.
Outside all spans a tree comes out with its last token, the plain token itself or the END of its
span, so that no token behind it is pulled.

Principal results:

* `Tree.swallows`, `swallows_forest`, `swallows_layers` — trees inside a span, and spans in it that
  stay open;
* `Tree.emits` — a tree outside all spans;
* `Reducing.answers_of_trees` — a forest outside all spans;
* `Reducing.answers_forest` — forests with open spans between them, over any spans.
-/

namespace Lexis

/-- A plain token, or a span: its START, the forest in it, and its END. -/
inductive Tree (V : Type) where
  | leaf (token : Token V)
  | span (opening : Token V) (inner : List (Tree V)) (closing : Token V)

variable {V : Type}

mutual

/-- The tokens of a tree as they are written. -/
def Tree.written : Tree V → List (Token V)
  | .leaf token => [token]
  | .span opening inner closing => opening :: writtenForest inner ++ [closing]

def writtenForest : List (Tree V) → List (Token V)
  | [] => []
  | tree :: forest => tree.written ++ writtenForest forest

end

variable [GroupNamed V]

mutual

/-- The token that a tree folds to, unless it is ignorable. -/
def Tree.folded (r : Reducer V) : Tree V → Option (Token V)
  | .leaf token => some token
  | .span _ inner closing =>
    (r.reduction? closing).bind fun reduce => (reduce (foldForest r inner)).kept?

/-- The tokens that a forest folds to. -/
def foldForest (r : Reducer V) : List (Tree V) → List (Token V)
  | [] => []
  | tree :: forest => (tree.folded r).toList ++ foldForest r forest

end

mutual

/-- A tree whose leaves are plain and whose spans are closed as they may be. -/
def Tree.Proper (r : Reducer V) : Tree V → Prop
  | .leaf token => token.Plain
  | .span opening inner closing => opening.isStart = true ∧
      r.MayClose (group? opening.value) closing ∧ ProperForest r inner

def ProperForest (r : Reducer V) : List (Tree V) → Prop
  | [] => True
  | tree :: forest => tree.Proper r ∧ ProperForest r forest

end

/-- No reduction gives a START token. -/
def Reducer.OpensNone (r : Reducer V) : Prop :=
  ∀ group reduce children, r.reductions.lookup group = some reduce →
    (reduce children).isStart = false

/-- A span that stays open: its START and the forest behind it. -/
structure Layer (V : Type) where
  opening : Token V
  forest : List (Tree V)

/-- The tokens of open spans as they are written. -/
def writtenLayers : List (Layer V) → List (Token V)
  | [] => []
  | layer :: layers => layer.opening :: writtenForest layer.forest ++ writtenLayers layers

/-- A layer begins with a START, and the forest behind it is proper. -/
def Layer.Proper (r : Reducer V) (layer : Layer V) : Prop :=
  layer.opening.isStart = true ∧ ProperForest r layer.forest

/-- The open span of a layer. -/
def Layer.open (r : Reducer V) (layer : Layer V) : Span V :=
  ⟨group? layer.opening.value, foldForest r layer.forest⟩

variable {r : Reducer V}

/-! ## Forests put together -/

omit [GroupNamed V] in
theorem writtenForest_append (before after : List (Tree V)) :
    writtenForest (before ++ after) = writtenForest before ++ writtenForest after := by
  induction before with
  | nil => rw [writtenForest, List.nil_append, List.nil_append]
  | cons tree before ih =>
    rw [List.cons_append, writtenForest, writtenForest, ih, List.append_assoc]

omit [GroupNamed V] in
theorem writtenForest_singleton (tree : Tree V) : writtenForest [tree] = tree.written := by
  rw [writtenForest, writtenForest, List.append_nil]

theorem foldForest_append (before after : List (Tree V)) :
    foldForest r (before ++ after) = foldForest r before ++ foldForest r after := by
  induction before with
  | nil => rw [foldForest, List.nil_append, List.nil_append]
  | cons tree before ih =>
    rw [List.cons_append, foldForest, foldForest, ih, List.append_assoc]

theorem foldForest_singleton (tree : Tree V) :
    foldForest r [tree] = (tree.folded r).toList := by
  rw [foldForest, foldForest, List.append_nil]

theorem properForest_iff {forest : List (Tree V)} :
    ProperForest r forest ↔ ∀ tree ∈ forest, tree.Proper r := by
  induction forest with
  | nil => simp [ProperForest]
  | cons tree forest ih => rw [ProperForest, ih, List.forall_mem_cons]

/-! ## Inside a span -/

theorem Reducer.OpensNone.isStart_of_reduction (hr : r.OpensNone) {closing : Token V}
    {reduce : List (Token V) → Token V} (h : r.reduction? closing = some reduce)
    (children : List (Token V)) : (reduce children).isStart = false := by
  obtain ⟨group, -, hlookup⟩ := Option.bind_eq_some_iff.1 h
  exact hr group reduce children hlookup

omit [GroupNamed V] in
theorem Reducer.opensNone_empty (strict : Bool) : (Reducer.empty strict : Reducer V).OpensNone := by
  intro group reduce children h
  cases h

omit [GroupNamed V] in
theorem Reducer.OpensNone.register (hr : r.OpensNone) (group : String)
    (reduce : List (Token V) → Token V) (h : ∀ children, (reduce children).isStart = false) :
    (r.register group reduce).OpensNone := by
  intro name found children hfound
  rw [Reducer.lookup_register] at hfound
  split at hfound
  · cases hfound
    exact h children
  · exact hr name found children hfound

theorem Reducer.swallows_start {opening : Token V} (h : opening.isStart = true)
    (spans : List (Span V)) :
    r.Swallows [opening] spans (⟨group? opening.value, []⟩ :: spans) :=
  ⟨_, feed_start h, rfl⟩

mutual

/-- **Inside a span a tree is swallowed**, and what it folds to is among the children. -/
theorem Tree.swallows (hr : r.OpensNone) : ∀ (tree : Tree V), tree.Proper r →
    ∀ (span : Span V) (spans : List (Span V)),
      r.Swallows tree.written (span :: spans) (span.extend (tree.folded r).toList :: spans)
  | .leaf token, h, span, spans => by
    rw [Tree.Proper] at h
    rw [Tree.written, Tree.folded]
    exact ⟨_, Reducer.feed_plain_cons h, rfl⟩
  | .span opening inner closing, h, span, spans => by
    rw [Tree.Proper] at h
    obtain ⟨hopening, hclosing, hinner⟩ := h
    obtain ⟨reduce, hreduce⟩ := hclosing.reduction
    have hstart := hr.isStart_of_reduction hreduce (foldForest r inner)
    have hopened := Reducer.swallows_start (r := r) hopening (span :: spans)
    have hbody := swallows_forest hr inner hinner ⟨group? opening.value, []⟩ (span :: spans)
    have hend : r.Swallows [closing]
        (⟨group? opening.value, foldForest r inner⟩ :: span :: spans)
        (span.extend (reduce (foldForest r inner)).kept?.toList :: spans) := by
      refine ⟨_, ?_, rfl⟩
      rw [Reducer.feed_finish hclosing hreduce, Reducer.route_cons hstart]
    rw [Tree.written, Tree.folded, hreduce]
    exact (hopened.append hbody).append hend

theorem swallows_forest (hr : r.OpensNone) : ∀ (forest : List (Tree V)), ProperForest r forest →
    ∀ (span : Span V) (spans : List (Span V)),
      r.Swallows (writtenForest forest) (span :: spans) (span.extend (foldForest r forest) :: spans)
  | [], _, span, spans => by
    rw [writtenForest, foldForest, Span.extend_nil]
    exact rfl
  | tree :: forest, h, span, spans => by
    rw [ProperForest] at h
    have htree := Tree.swallows hr tree h.1 span spans
    have hforest := swallows_forest hr forest h.2 (span.extend (tree.folded r).toList) spans
    rw [Span.extend_extend] at hforest
    rw [writtenForest, foldForest]
    exact htree.append hforest

end

/-- **Open spans are taken in over any spans**, each with what its forest folds to. -/
theorem swallows_layers (hr : r.OpensNone) (layers : List (Layer V)) (spans : List (Span V))
    (h : ∀ layer ∈ layers, layer.Proper r) :
    r.Swallows (writtenLayers layers) spans ((layers.map (Layer.open r)).reverse ++ spans) := by
  induction layers generalizing spans with
  | nil => exact rfl
  | cons layer layers ih =>
    obtain ⟨hopening, hforest⟩ := h layer (List.mem_cons_self ..)
    have hopened := Reducer.swallows_start (r := r) hopening spans
    have hbody := swallows_forest hr layer.forest hforest ⟨group? layer.opening.value, []⟩ spans
    have hlayers : ∀ other ∈ layers, other.Proper r :=
      fun other hother => h other (List.mem_cons_of_mem _ hother)
    have hrest := ih (layer.open r :: spans) hlayers
    have hspans : (layers.map (Layer.open r)).reverse ++ layer.open r :: spans =
        ((layer :: layers).map (Layer.open r)).reverse ++ spans := by
      simp
    rw [hspans] at hrest
    rw [writtenLayers]
    exact (hopened.append hbody).append hrest

/-! ## Outside all spans -/

/-- **Outside all spans a tree comes out with its last token**; the tokens before it are
swallowed. -/
theorem Tree.emits (hr : r.OpensNone) (tree : Tree V) (h : tree.Proper r) :
    ∃ init last between, tree.written = init ++ [last] ∧ last.isIgnorable = false ∧
      r.Swallows init [] between ∧ r.feed last between = (.ok (tree.folded r), []) := by
  cases tree with
  | leaf token =>
    rw [Tree.Proper] at h
    refine ⟨[], token, [], ?_, h.named, rfl, ?_⟩
    · rw [Tree.written, List.nil_append]
    · rw [Tree.folded, Reducer.feed_plain_nil h]
  | span opening inner closing =>
    rw [Tree.Proper] at h
    obtain ⟨hopening, hclosing, hinner⟩ := h
    obtain ⟨reduce, hreduce⟩ := hclosing.reduction
    have hstart := hr.isStart_of_reduction hreduce (foldForest r inner)
    have hopened := Reducer.swallows_start (r := r) hopening []
    have hbody := swallows_forest hr inner hinner ⟨group? opening.value, []⟩ []
    refine ⟨opening :: writtenForest inner, closing, [⟨group? opening.value, foldForest r inner⟩],
      ?_, Token.named_of_isNamed hclosing.isEnd, hopened.append hbody, ?_⟩
    · rw [Tree.written]
    · rw [Tree.folded, hreduce, Reducer.feed_finish hclosing hreduce, Reducer.route_nil hstart]
      rfl

namespace Reducing

variable {limit : Nat} {tokens more : List (Token V)}

/-- Tokens as they come out, outside all spans. -/
def emitted (tokens : List (Token V)) : List (Pull V × List (Span V)) :=
  tokens.map fun token => (.item (.ok token), [])

theorem answers_succ {υ : Type} [Supply υ V] (count : Nat) (run : Reducing υ V) :
    answers r limit (count + 1) run =
      ((answers r limit count run).1 ++ (answers r limit 1 (answers r limit count run).2).1,
        (answers r limit 1 (answers r limit count run).2).2) := by
  induction count generalizing run with
  | zero => rfl
  | succ count ih =>
    have hrest := ih (next r limit limit run).2
    have hfirst : ∀ count, answers r limit (count + 1) run =
        (((next r limit limit run).1, (next r limit limit run).2.pending) ::
          (answers r limit count (next r limit limit run).2).1,
          (answers r limit count (next r limit limit run).2).2) := fun _ => rfl
    rw [hfirst, hfirst, hrest]
    rfl

theorem answers_of_tree (hr : r.OpensNone) {tree : Tree V} (h : tree.Proper r) {token : Token V}
    (hfolded : tree.folded r = some token) {quiet left : List (Token V)}
    (hquiet : r.Swallows quiet [] []) (hleft : namedTokens left = tree.written ++ more)
    (hlimit : (quiet ++ left).length ≤ limit) (rest : List (Except Fault (Token V))) :
    ∃ init last behind, left = init ++ last :: behind ∧ last.isIgnorable = false ∧
      namedTokens (init ++ [last]) = tree.written ∧ namedTokens behind = more ∧
      answers r limit 1 ⟨items (quiet ++ left) rest, []⟩ =
        (emitted [token], ⟨items behind rest, []⟩) := by
  obtain ⟨init, last, between, hwritten, hlast, hinit, hfeed⟩ := tree.emits hr h
  rw [hfolded] at hfeed
  have hnamed : namedTokens left = init ++ last :: more := by
    rw [hleft, hwritten, List.append_assoc]
    rfl
  obtain ⟨front, behind, hsplit, hfront, hbehind⟩ := split_of_namedTokens hnamed
  have hswallowed : r.Swallows (quiet ++ front) [] between := by
    refine hquiet.append (Reducer.Swallows.of_named ?_)
    rw [hfront]
    exact hinit
  have hlength : (quiet ++ front).length < limit := by
    rw [hsplit] at hlimit
    simp only [List.length_append, List.length_cons] at hlimit ⊢
    omega
  refine ⟨front, last, behind, hsplit, hlast, ?_, hbehind, ?_⟩
  · rw [namedTokens_append, hfront, namedTokens_singleton hlast, hwritten]
  · have hitems : items (quiet ++ left) rest =
        items (quiet ++ front ++ [last]) (items behind rest) := by
      rw [hsplit, ← items_append]
      simp
    rw [hitems, answers_of_emission hswallowed hfeed hlength 0]
    rfl

/-- **A forest outside all spans**: asking as often as it has tokens to fold to brings these, and
what is left of the forest then is swallowed. -/
theorem answers_of_trees (hr : r.OpensNone) (forest : List (Tree V)) (h : ProperForest r forest)
    (htokens : namedTokens tokens = writtenForest forest ++ more) (hlimit : tokens.length ≤ limit)
    (rest : List (Except Fault (Token V))) : ∃ front quiet left, tokens = front ++ (quiet ++ left) ∧
      namedTokens (front ++ quiet) = writtenForest forest ∧ namedTokens left = more ∧
      r.Swallows quiet [] [] ∧
      answers r limit (foldForest r forest).length ⟨items tokens rest, []⟩ =
        (emitted (foldForest r forest), ⟨items (quiet ++ left) rest, []⟩) := by
  -- one more tree at the end: the answers so far do not change
  induction forest using List.reverseRecOn generalizing more with
  | nil =>
    refine ⟨[], [], tokens, rfl, ?_, ?_, rfl, ?_⟩
    · rw [writtenForest]
      rfl
    · rw [htokens, writtenForest, List.nil_append]
    · rw [foldForest]
      rfl
  | append_singleton before tree ih =>
    rw [properForest_iff] at h
    have hbefore : ProperForest r before :=
      properForest_iff.2 fun other hother => h other (List.mem_append_left _ hother)
    have htree : tree.Proper r := h tree (by simp)
    rw [writtenForest_append, writtenForest_singleton, List.append_assoc] at htokens
    obtain ⟨front, quiet, left, hsplit, hnamed, hleft, hquiet, hanswers⟩ := ih hbefore htokens
    rw [foldForest_append, foldForest_singleton, writtenForest_append, writtenForest_singleton]
    cases hfolded : tree.folded r with
    | none =>
      obtain ⟨init, last, between, hwritten, hlast, hinit, hfeed⟩ := tree.emits hr htree
      rw [hfolded] at hfeed
      have hwhole : r.Swallows tree.written [] [] := by
        rw [hwritten]
        exact hinit.append ⟨[], hfeed, rfl⟩
      obtain ⟨swallowed, behind, hbehind, hswallowed, hmore⟩ := List.filter_eq_append_iff.1 hleft
      rw [← namedTokens] at hswallowed hmore
      refine ⟨front, quiet ++ swallowed, behind, ?_, ?_, hmore, ?_, ?_⟩
      · rw [hsplit, hbehind, List.append_assoc]
      · rw [← List.append_assoc, namedTokens_append, hnamed, hswallowed]
      · refine hquiet.append (Reducer.Swallows.of_named ?_)
        rw [hswallowed]
        exact hwhole
      · rw [Option.toList_none, List.append_nil, hanswers, hbehind, List.append_assoc]
    | some token =>
      have hlength : (quiet ++ left).length ≤ limit := by
        rw [hsplit, List.length_append] at hlimit
        omega
      obtain ⟨init, last, behind, hbehind, -, hwritten, hmore, hanswer⟩ :=
        answers_of_tree hr htree hfolded hquiet hleft hlength rest
      refine ⟨front ++ quiet ++ init ++ [last], [], behind, ?_, ?_, hmore, rfl, ?_⟩
      · rw [hsplit, hbehind]
        simp
      · rw [List.append_nil, List.append_assoc, namedTokens_append, hnamed, hwritten]
      · rw [Option.toList_some, List.length_append, List.length_singleton, answers_succ, hanswers,
          hanswer, emitted, emitted, emitted, List.map_append]
        rfl

/-- **Reducing is folding a forest.** The tokens are a forest and open spans with a forest each, and
ignorable tokens anywhere between them. None of them is a fault. Outside all spans the first forest
comes out folded, and each token of it with the last token of its tree; inside a span it is among
the children of the innermost one. The open spans come behind those that were open, each with what
its forest folds to. -/
theorem answers_forest (hr : r.OpensNone) {forest : List (Tree V)} {layers : List (Layer V)}
    (hforest : ProperForest r forest) (hlayers : ∀ layer ∈ layers, layer.Proper r)
    (htokens : namedTokens tokens = writtenForest forest ++ writtenLayers layers)
    (hlimit : tokens.length ≤ limit) (rest : List (Except Fault (Token V))) :
    (∃ front left, tokens = front ++ left ∧
      answers r limit (foldForest r forest).length (start (items tokens rest) []) =
        (emitted (foldForest r forest), start (items left rest) []) ∧
      ∀ pulls, next r limit (left.length + pulls) (start (items left rest) []) =
        next r limit pulls (start rest (layers.map (Layer.open r)))) ∧
    (∀ before tree after token, forest = before ++ tree :: after → tree.folded r = some token →
      ∃ init last left, tokens = init ++ [last] ++ left ∧ last.isIgnorable = false ∧
        namedTokens (init ++ [last]) = writtenForest (before ++ [tree]) ∧
        answers r limit ((foldForest r before).length + 1) (start (items tokens rest) []) =
          (emitted (foldForest r before ++ [token]), start (items left rest) [])) ∧
    ∀ outer top pulls,
      next r limit (tokens.length + pulls) (start (items tokens rest) (outer ++ [top])) =
        next r limit pulls
          (start rest
            (outer ++ [top.extend (foldForest r forest)] ++ layers.map (Layer.open r))) := by
  refine ⟨?_, ?_, ?_⟩
  · obtain ⟨front, quiet, left, hsplit, -, hleft, hquiet, hanswers⟩ :=
      answers_of_trees hr forest hforest htokens hlimit rest
    refine ⟨front, quiet ++ left, hsplit, hanswers, fun pulls => ?_⟩
    have hopened : r.Swallows (quiet ++ left) [] (layers.map (Layer.open r)).reverse := by
      refine hquiet.append (Reducer.Swallows.of_named ?_)
      have hswallowed := swallows_layers hr layers [] hlayers
      rwa [List.append_nil, ← hleft] at hswallowed
    exact next_of_swallows hopened pulls
  · intro before tree after token hsplit hfolded
    have hproper := properForest_iff.1 hforest
    rw [hsplit] at hproper
    have hbefore : ProperForest r before :=
      properForest_iff.2 fun other hother => hproper other (List.mem_append_left _ hother)
    have htree : tree.Proper r := hproper tree (by simp)
    have hwritten : namedTokens tokens = writtenForest before ++
        (tree.written ++ (writtenForest after ++ writtenLayers layers)) := by
      rw [htokens, hsplit, writtenForest_append, writtenForest]
      simp
    obtain ⟨front, quiet, left, hfront, hnamed, hleft, hquiet, hanswers⟩ :=
      answers_of_trees hr before hbefore hwritten hlimit rest
    have hlength : (quiet ++ left).length ≤ limit := by
      rw [hfront, List.length_append] at hlimit
      omega
    obtain ⟨init, last, behind, hbehind, hlast, htreeTokens, -, hanswer⟩ :=
      answers_of_tree hr htree hfolded hquiet hleft hlength rest
    refine ⟨front ++ quiet ++ init, last, behind, ?_, hlast, ?_, ?_⟩
    · rw [hfront, hbehind]
      simp
    · rw [List.append_assoc, namedTokens_append, hnamed, htreeTokens, writtenForest_append,
        writtenForest_singleton]
    · rw [start, List.reverse_nil, answers_succ, hanswers, hanswer, emitted, emitted, emitted,
        List.map_append]
      rfl
  · intro outer top pulls
    have hbody := swallows_forest hr forest hforest top outer.reverse
    have hopened :=
      swallows_layers hr layers (top.extend (foldForest r forest) :: outer.reverse) hlayers
    have hswallowed : r.Swallows tokens (top :: outer.reverse)
        ((layers.map (Layer.open r)).reverse ++
          top.extend (foldForest r forest) :: outer.reverse) := by
      refine Reducer.Swallows.of_named ?_
      rw [htokens]
      exact hbody.append hopened
    have hspans : (outer ++ [top.extend (foldForest r forest)] ++
        layers.map (Layer.open r)).reverse = (layers.map (Layer.open r)).reverse ++
          top.extend (foldForest r forest) :: outer.reverse := by
      simp
    rw [start, start, hspans, List.reverse_append, List.reverse_singleton]
    exact next_of_swallows hswallowed pulls

end Reducing

namespace Demo

def numberToken (n : Int) : Token Value := ⟨some "NUMBER", .number n⟩

/-- The ends of an array as tokens. -/
def arrayTokens : Token Value × Token Value :=
  (.start (.text arrayGroup), .finish (.text arrayGroup))

/-- A number, and an array of a number and an empty array. -/
def closedArrays : List (Tree Value) :=
  [.leaf (numberToken 1),
   .span arrayTokens.1 [.leaf (numberToken 2), .span arrayTokens.1 [] arrayTokens.2] arrayTokens.2]

/-- An array that stays open, with a number in it. -/
def openArray : Layer Value := ⟨arrayTokens.1, [.leaf (numberToken 3)]⟩

theorem opensNone_reducer : reducer.OpensNone := by
  have hempty : (Reducer.empty false : Reducer Value).OpensNone := Reducer.opensNone_empty false
  have hstring := hempty.register stringGroup joined fun _ => rfl
  exact hstring.register arrayGroup listed fun _ => rfl

end Demo

/-- Numbers and arrays of the demonstration grammar, with an ignorable token in the outer array, and
an array that is not closed. -/
theorem Reducing.answers_forest_arrays :
    let blank := Token.ignored (.text ",")
    let tokens := [Demo.numberToken 1, Demo.arrayTokens.1, Demo.numberToken 2, blank,
      Demo.arrayTokens.1, Demo.arrayTokens.2, Demo.arrayTokens.2, Demo.arrayTokens.1,
      Demo.numberToken 3]
    ∃ front left, tokens = front ++ left ∧
      answers Demo.reducer 9 2 (start (items tokens []) []) =
        (emitted [Demo.numberToken 1, ⟨some "ARRAY", .list [.number 2, .list []]⟩],
          start (items left []) []) ∧
      ∀ pulls, next Demo.reducer 9 (left.length + pulls) (start (items left []) []) =
        next Demo.reducer 9 pulls (start [] [⟨some "ARRAY", [Demo.numberToken 3]⟩]) := by
  intro blank tokens
  have hleaf : ∀ n, (Demo.numberToken n).Plain := fun n => ⟨rfl, rfl, rfl⟩
  have hclose : Demo.reducer.MayClose (some "ARRAY") Demo.arrayTokens.2 :=
    ⟨rfl, ⟨"ARRAY", by decide, rfl⟩, fun h => by cases h⟩
  have hempty : Tree.Proper Demo.reducer (.span Demo.arrayTokens.1 [] Demo.arrayTokens.2) := by
    rw [Tree.Proper]
    exact ⟨rfl, hclose, trivial⟩
  have hpair : Tree.Proper Demo.reducer (.span Demo.arrayTokens.1 [.leaf (Demo.numberToken 2),
      .span Demo.arrayTokens.1 [] Demo.arrayTokens.2] Demo.arrayTokens.2) := by
    rw [Tree.Proper]
    exact ⟨rfl, hclose, hleaf 2, hempty, trivial⟩
  have hforest : ProperForest Demo.reducer Demo.closedArrays :=
    ⟨hleaf 1, hpair, trivial⟩
  have hlayer : ∀ layer ∈ [Demo.openArray], layer.Proper Demo.reducer := by
    intro layer h
    rw [List.mem_singleton.1 h]
    exact ⟨rfl, hleaf 3, trivial⟩
  have htokens : namedTokens tokens =
      writtenForest Demo.closedArrays ++ writtenLayers [Demo.openArray] := rfl
  have hlength : tokens.length ≤ 9 := by decide
  exact (answers_forest Demo.opensNone_reducer hforest hlayer htokens hlength []).1

end Lexis
