import Lexis.Demo.Report
import Lexis.Proofs.Demo.Lexemes
import Lexis.Proofs.Reducer.Series

/-!
# Reading back what is written

Values as they are written for the demonstration grammar: numbers in decimal, strings between
quotes, lists between brackets, and gaps of blanks, line ends and commas around them, of any length,
which must not be empty between neighbours. Lexing what is written gives a forest, one tree for each
value, and the forest folds to one token for each value.

The relation is between a list of values and a text; a list inside is written as another such list,
so that one induction goes through all levels.

Principal results:

* `lexes_writes` — lexing what is written, with the end of a list or of the text behind it;
* `reads_back` — the tokens that come out.
-/

namespace Lexis.Demo

open Pattern Text Lexing

/-- The characters that part values. -/
def partings : List Char := [' ', '\n', ',']

/-- If there are more values, a gap that is not empty stands before them. -/
def Parted (values : List Value) (text : List Char) : Prop :=
  values ≠ [] → ∃ c more, text = c :: more ∧ c ∈ partings

/-- The text writes the values. -/
inductive Writes : List Value → List Char → Prop where
  | nil {gap : List Char} : (∀ c ∈ gap, c ∈ partings) → Writes [] gap
  | number {gap rest : List Char} {n : Int} {values : List Value} :
      (∀ c ∈ gap, c ∈ partings) → integerMin ≤ n → n ≤ integerMax →
      Parted values rest → Writes values rest →
      Writes (.number n :: values) (gap ++ (decimal n ++ rest))
  | text {gap rest : List Char} {s : String} {values : List Value} :
      (∀ c ∈ gap, c ∈ partings) → ShortStretches s.toList →
      Parted values rest → Writes values rest →
      Writes (.text s :: values) (gap ++ ('"' :: (quotedBody s.toList ++ '"' :: rest)))
  | list {gap inner rest : List Char} {items values : List Value} :
      (∀ c ∈ gap, c ∈ partings) → Writes items inner →
      Parted values rest → Writes values rest →
      Writes (.list items :: values) (gap ++ ('[' :: (inner ++ ']' :: rest)))

/-- The token that a value comes out as. -/
def valueToken : Value → Token Value
  | .null => ⟨some "NUMBER", .null⟩
  | .number n => numberToken n
  | .text s => ⟨some stringGroup, .text s⟩
  | .list items => ⟨some arrayGroup, .list items⟩

/-- What follows the values of a list or of a text: its closing bracket, or nothing. -/
def Ends (tail : List Char) : Prop := tail = [] ∨ ∃ more, tail = ']' :: more

/-! ## Gaps -/

theorem contains_gapSet_of_parting {c : Char} (h : c ∈ partings) :
    gapSet.contains c = true ∧ digitSet.contains c = false := by
  simp only [partings, List.mem_cons, List.not_mem_nil, or_false] at h
  rcases h with rfl | rfl | rfl <;> decide

theorem Ends.stops {tail : List Char} (h : Ends tail) :
    Stops gapSet tail ∧ Stops digitSet tail := by
  rcases h with rfl | ⟨more, rfl⟩
  · exact ⟨nofun, nofun⟩
  · exact ⟨.cons (by decide) more, .cons (by decide) more⟩

theorem Writes.stops {values : List Value} {rest tail : List Char} (h : Writes values rest)
    (hparted : Parted values rest) (htail : Ends tail) : Stops digitSet (rest ++ tail) := by
  by_cases hvalues : values = []
  · subst hvalues
    cases h with
    | nil hgap =>
      cases rest with
      | nil => exact htail.stops.2
      | cons c rest =>
        exact .cons (contains_gapSet_of_parting (hgap c List.mem_cons_self)).2 (rest ++ tail)
  · obtain ⟨c, more, rfl, hc⟩ := hparted hvalues
    exact .cons (contains_gapSet_of_parting hc).2 (more ++ tail)

theorem lexes_partings {gap tail : List Char} (hgap : ∀ c ∈ gap, c ∈ partings)
    (htail : Stops gapSet tail) : Lexes grammar [] (gap ++ tail) [] [] tail :=
  lexes_gap gap (fun c hc => (contains_gapSet_of_parting (hgap c hc)).1) htail

/-! ## Strings and lists -/

variable {r : Reducer Value}

theorem writtenForest_leaves (tokens : List (Token Value)) :
    writtenForest (tokens.map Tree.leaf) = tokens := by
  induction tokens with
  | nil => rfl
  | cons t tokens ih => rw [List.map_cons, writtenForest, ih, Tree.written, List.singleton_append]

theorem foldForest_leaves (tokens : List (Token Value)) :
    foldForest r (tokens.map Tree.leaf) = tokens := by
  induction tokens with
  | nil => rfl
  | cons t tokens ih =>
    rw [List.map_cons, foldForest, ih, Tree.folded, Option.toList_some, List.singleton_append]

theorem properForest_leaves {tokens : List (Token Value)} (h : ∀ t ∈ tokens, t.Plain) :
    ProperForest r (tokens.map Tree.leaf) := by
  rw [properForest_iff]
  intro tree htree
  obtain ⟨t, ht, rfl⟩ := List.mem_map.1 htree
  rw [Tree.Proper]
  exact h t ht

/-! ## Trees of values -/

/-- The tree of a string by its pieces. -/
def stringTree (pieces : List (List Char)) : Tree Value :=
  .span (.start (.text stringGroup)) ((pieces.map charToken).map Tree.leaf)
    (.finish (.text stringGroup))

/-- The tree of a list by the trees of its items. -/
def listTree (forest : List (Tree Value)) : Tree Value :=
  .span arrayTokens.1 forest arrayTokens.2

theorem join_ofList (pieces : List (List Char)) :
    String.join (pieces.map String.ofList) = String.ofList pieces.flatten := by
  rw [← String.toList_inj, String.toList_join, String.toList_ofList, List.flatMap_map]
  simp [List.flatMap_id']

theorem joined_charTokens (pieces : List (List Char)) :
    joined (pieces.map charToken) = valueToken (.text (String.ofList pieces.flatten)) := by
  have htexts : (pieces.map charToken).filterMap (fun t => t.value.text?) =
      pieces.map String.ofList := by
    rw [List.filterMap_map, ← List.filterMap_eq_map]
    rfl
  unfold joined
  rw [htexts, join_ofList]
  rfl

/-- The forest is that of the values. -/
structure Forms (values : List Value) (forest : List (Tree Value)) : Prop where
  proper : ProperForest reducer forest
  folded : forest.map (Tree.folded reducer) = (values.map valueToken).map some
  /-- No token in it ends the tokens. -/
  inside : ∀ t ∈ writtenForest forest, t.isEof = false

theorem Forms.nil : Forms [] [] := ⟨trivial, rfl, fun _ h => absurd h List.not_mem_nil⟩

theorem Forms.cons {value : Value} {values : List Value} {tree : Tree Value}
    {forest : List (Tree Value)} (hproper : tree.Proper reducer)
    (hfolded : tree.folded reducer = some (valueToken value))
    (hinside : ∀ t ∈ tree.written, t.isEof = false) (h : Forms values forest) :
    Forms (value :: values) (tree :: forest) where
  proper := ⟨hproper, h.proper⟩
  folded := by simp [hfolded, h.folded]
  inside t ht := by
    rw [writtenForest, List.mem_append] at ht
    exact ht.elim (hinside t) (h.inside t)

theorem Forms.foldForest {values : List Value} {forest : List (Tree Value)}
    (h : Forms values forest) : foldForest reducer forest = values.map valueToken := by
  have hfolded := h.folded
  clear h
  induction forest generalizing values with
  | nil =>
    have hnone : values = [] := by simpa using hfolded.symm
    rw [hnone]
    rfl
  | cons tree forest ih =>
    obtain ⟨value, more, rfl⟩ : ∃ value more, values = value :: more := by
      cases values with
      | nil => simp at hfolded
      | cons value more => exact ⟨value, more, rfl⟩
    obtain ⟨htree, hmore⟩ := List.cons.inj hfolded
    rw [Lexis.foldForest, htree, ih hmore]
    rfl

theorem Forms.number (n : Int) {values : List Value} {forest : List (Tree Value)}
    (h : Forms values forest) : Forms (.number n :: values) (.leaf (numberToken n) :: forest) := by
  refine .cons ?_ rfl ?_ h
  · rw [Tree.Proper]
    exact ⟨rfl, rfl, rfl⟩
  · intro t ht
    rw [List.mem_singleton.1 ht]
    rfl

theorem Forms.string {s : String} {pieces : List (List Char)} (hpieces : pieces.flatten = s.toList)
    {values : List Value} {forest : List (Tree Value)} (h : Forms values forest) :
    Forms (.text s :: values) (stringTree pieces :: forest) := by
  have hplain : ∀ t ∈ pieces.map charToken, t.Plain := by
    intro t ht
    obtain ⟨piece, -, rfl⟩ := List.mem_map.1 ht
    exact ⟨rfl, rfl, rfl⟩
  have hreduction : reducer.reduction? (Token.finish (.text stringGroup)) = some joined := rfl
  refine .cons ?_ ?_ ?_ h
  · rw [stringTree, Tree.Proper]
    exact ⟨rfl, ⟨rfl, ⟨stringGroup, by decide, rfl⟩, fun hstrict => by cases hstrict⟩,
      properForest_leaves hplain⟩
  · rw [stringTree, Tree.folded, hreduction, foldForest_leaves, Option.bind_some, joined_charTokens,
      hpieces, String.ofList_toList]
    rfl
  · intro t ht
    rw [stringTree, Tree.written, writtenForest_leaves] at ht
    simp only [List.cons_append, List.mem_cons, List.mem_append, List.not_mem_nil, or_false] at ht
    rcases ht with rfl | ht | rfl
    · rfl
    · obtain ⟨piece, -, rfl⟩ := List.mem_map.1 ht
      rfl
    · rfl

theorem Forms.list {items values : List Value} {inner forest : List (Tree Value)}
    (hinner : Forms items inner) (h : Forms values forest) :
    Forms (.list items :: values) (listTree inner :: forest) := by
  have hreduction : reducer.reduction? arrayTokens.2 = some listed := rfl
  have hvalues : items.map (fun item => (valueToken item).value) = items := by
    rw [List.map_congr_left (g := id) fun item _ => by cases item <;> rfl, List.map_id]
  refine .cons ?_ ?_ ?_ h
  · rw [listTree, Tree.Proper]
    exact ⟨rfl, ⟨rfl, ⟨arrayGroup, by decide, rfl⟩, fun hstrict => by cases hstrict⟩,
      hinner.proper⟩
  · rw [listTree, Tree.folded, hreduction, hinner.foldForest, Option.bind_some, listed,
      List.map_map]
    show some (Token.mk (some arrayGroup) (Value.list (items.map fun item =>
      (valueToken item).value))) = _
    rw [hvalues]
    rfl
  · intro t ht
    rw [listTree, Tree.written] at ht
    simp only [List.cons_append, List.mem_cons, List.mem_append, List.not_mem_nil, or_false] at ht
    rcases ht with rfl | ht | rfl
    · rfl
    · exact hinner.inside t ht
    · rfl

/-! ## What is written is read -/

theorem decimal_ne_nil (n : Int) : decimal n ≠ [] := by
  obtain ⟨d, ds, hform, -⟩ := toDigits_eq_cons n.natAbs
  rw [decimal_eq, hform]
  simp

theorem shortStretches_of_length {s : List Char} (h : s.length ≤ 256) : ShortStretches s :=
  fun _ hin _ => Nat.le_trans hin.length_le h

/-- **Lexing what is written** gives the forest of the values, up to the end of the list or of the
text. -/
theorem lexes_writes {values : List Value} {text : List Char} (h : Writes values text) :
    ∃ forest, Forms values forest ∧ ∀ tail, Ends tail →
      Lexes grammar [] (text ++ tail) (writtenForest forest) [] tail := by
  induction h with
  | nil hgap =>
    refine ⟨[], .nil, fun tail htail => ?_⟩
    rw [writtenForest]
    exact lexes_partings hgap htail.stops.1
  | @number gap rest n values hgap hmin hmax hparted hrest ih =>
    obtain ⟨forest, hforms, hlexes⟩ := ih
    refine ⟨.leaf (numberToken n) :: forest, hforms.number n, fun tail htail => ?_⟩
    have hskipped := lexes_partings hgap (stops_decimal n (rest ++ tail))
    have hnumber := fires_number hmin hmax (hrest.stops hparted htail)
    rw [writtenForest, Tree.written, List.append_assoc, List.append_assoc]
    exact hskipped.append (.token_front (decimal_ne_nil n) hnumber (hlexes tail htail))
  | @text gap rest s values hgap hshort hparted hrest ih =>
    obtain ⟨forest, hforms, hlexes⟩ := ih
    obtain ⟨pieces, hpieces, hbody⟩ := lexes_quotedBody s.toList hshort
    refine ⟨stringTree pieces :: forest, hforms.string hpieces, fun tail htail => ?_⟩
    have hskipped : Lexes grammar []
        (gap ++ ('"' :: (quotedBody s.toList ++ '"' :: (rest ++ tail)))) [] [] _ :=
      lexes_partings hgap (.cons (by decide) _)
    have hclosed : Lexes grammar [stringState] ('"' :: (rest ++ tail))
        (.finish (.text stringGroup) :: writtenForest forest) [] tail :=
      .token (fires_unquote (rest ++ tail)) (hlexes tail htail)
    have hopened := Lexes.token (fires_quote _) ((hbody (rest ++ tail)).append hclosed)
    have hwritten : writtenForest (stringTree pieces :: forest) =
        .start (.text stringGroup) :: (pieces.map charToken ++
          .finish (.text stringGroup) :: writtenForest forest) := by
      rw [writtenForest, stringTree, Tree.written, writtenForest_leaves]
      simp
    have htext : gap ++ ('"' :: (quotedBody s.toList ++ '"' :: rest)) ++ tail =
        gap ++ ('"' :: (quotedBody s.toList ++ '"' :: (rest ++ tail))) := by simp
    rw [hwritten, htext]
    exact hskipped.append hopened
  | @list gap inner rest items values hgap _ hparted hrest ihitems ih =>
    obtain ⟨forest, hforms, hlexes⟩ := ih
    obtain ⟨trees, htrees, hitems⟩ := ihitems
    refine ⟨listTree trees :: forest, htrees.list hforms, fun tail htail => ?_⟩
    have hskipped : Lexes grammar [] (gap ++ ('[' :: (inner ++ ']' :: (rest ++ tail)))) [] [] _ :=
      lexes_partings hgap (.cons (by decide) _)
    have hclosed : Lexes grammar [] (']' :: (rest ++ tail))
        (arrayTokens.2 :: writtenForest forest) [] tail :=
      .token (fires_close (rest ++ tail)) (hlexes tail htail)
    have hbody := hitems (']' :: (rest ++ tail)) (Or.inr ⟨rest ++ tail, rfl⟩)
    have hopened := Lexes.token (fires_open _) (hbody.append hclosed)
    have hwritten : writtenForest (listTree trees :: forest) =
        arrayTokens.1 :: (writtenForest trees ++ arrayTokens.2 :: writtenForest forest) := by
      rw [writtenForest, listTree, Tree.written]
      simp
    have htext : gap ++ ('[' :: (inner ++ ']' :: rest)) ++ tail =
        gap ++ ('[' :: (inner ++ ']' :: (rest ++ tail))) := by simp
    rw [hwritten, htext]
    exact hskipped.append hopened

theorem Writes.length_le {values : List Value} {text : List Char} (h : Writes values text) :
    values.length ≤ text.length := by
  induction h with
  | nil => exact Nat.zero_le _
  | @number gap rest n values _ _ _ _ _ ih =>
    have hdigits := List.length_pos_iff.2 (decimal_ne_nil n)
    simp only [List.length_cons, List.length_append]
    omega
  | text _ _ _ _ ih =>
    simp only [List.length_cons, List.length_append]
    omega
  | list _ _ _ _ _ ih =>
    simp only [List.length_cons, List.length_append]
    omega

/-! ## The tokens that come out -/

/-- The tokens of the values, and the end. -/
def valueTokens (values : List Value) : List (Token Value) :=
  values.map valueToken ++ [.eof .null]

/-- The end as a tree. -/
def endTree : Tree Value := .leaf (.eof .null)

theorem answers_of_writes {ι : Type} [Input ι (List Char)] {values : List Value}
    {text : List Char} {Behind : ι → List Char → Prop} (h : Provides text Behind) {input : ι}
    (hinput : Behind input []) (hwrites : Writes values text) {limit count : Nat}
    (hlimit : text.length < limit) (hcount : values.length + 1 < count) :
    ∃ last, (series grammar reducer input).answers limit count =
      ((valueTokens values).map fun t => (.ok t, []), true, last) := by
  obtain ⟨forest, hforms, hlexes⟩ := lexes_writes hwrites
  have hread := hlexes [] (Or.inl rfl)
  rw [List.append_nil] at hread
  have hstart : Stands text Behind [] text (Lexing.start input []) := ⟨rfl, [], rfl, hinput⟩
  obtain ⟨run, before, middle, hsupplies, hstands, hleft, hmiddle⟩ :=
    h.supplies_of_lexes hforms.inside hread hstart hlimit
  obtain ⟨ended, heof, hended⟩ :=
    h.pull_of_lexes rfl hleft fires_end hstands (Nat.lt_of_le_of_lt hmiddle hlimit)
  -- the end is one more tree outside all lists
  have hproper : ProperForest reducer (forest ++ [endTree]) := by
    rw [properForest_iff]
    intro tree htree
    rcases List.mem_append.1 htree with htree | htree
    · exact properForest_iff.1 hforms.proper tree htree
    · rw [List.mem_singleton.1 htree, endTree, Tree.Proper]
      exact ⟨rfl, rfl, rfl⟩
  have hfolded : (forest ++ [endTree]).map (Tree.folded reducer) =
      (valueTokens values).map some := by
    rw [valueTokens, List.map_append, List.map_append, hforms.folded]
    rfl
  have hwritten : writtenForest (forest ++ [endTree]) =
      writtenForest forest ++ [.eof .null] := by
    rw [writtenForest_append, writtenForest_singleton, endTree, Tree.written]
  have hlength := hread.length_le
  have hbound : (writtenForest (forest ++ [endTree])).length ≤ limit := by
    rw [hwritten, List.length_append, List.length_singleton]
    omega
  have hall : Supplies limit (writtenForest (forest ++ [endTree]))
      (TokenSeries.ofRun grammar (Lexing.start input [])) ended := by
    rw [hwritten]
    exact hsupplies.append heof
  obtain ⟨spare, rfl⟩ : ∃ spare, count = (valueTokens values).length + (spare + 1) := by
    refine ⟨count - values.length - 2, ?_⟩
    simp only [valueTokens, List.length_append, List.length_map, List.length_singleton]
    omega
  have hanswers :=
    ReducedSeries.answers_of_forest opensNone_reducer hproper hfolded hall hbound (spare + 1)
  have hfinal := ReducedSeries.answers_of_ended (r := reducer) hended (by omega) spare
  rw [Prod.mk.injEq] at hfinal
  refine ⟨_, hanswers.trans (Prod.ext ?_ (Prod.ext hfinal.2 rfl))⟩
  rw [hfinal.1, List.append_nil]

/-- The program gives the tokens of what a file writes, and no fault. -/
theorem tokens_of_writes {values : List Value} {text : List Char} (h : Writes values text) :
    tokens (encode text) = (valueTokens values, none) := by
  have hlength : text.length ≤ (encode text).length := by
    rw [length_encode]
    exact length_le_byteLength text
  have hvalues := h.length_le
  have hprovides := BufferedText.provides (Source.readsFully_ofBytes (encode text)) rfl
  have hanswers := answers_of_writes hprovides (BufferedText.at_ofSource _ 1024) h
    (show text.length < (encode text).length + 2 by omega)
    (show values.length + 1 < (encode text).length + 2 by omega)
  rw [series] at hanswers
  obtain ⟨last, hanswers⟩ := hanswers
  unfold tokens
  rw [lexer_eq]
  dsimp only
  rw [hanswers]
  dsimp only
  rw [List.map_map]
  refine Prod.ext ?_ ?_
  · dsimp only
    rw [List.filterMap_map]
    exact List.filterMap_some
  · dsimp only
    rw [List.findSome?_map, List.findSome?_eq_none_iff]
    exact fun _ _ => rfl

/-- **What is written is read back.** Over the bytes of a text that writes the values, however the
source is read in blocks, one token comes out for each value, outside all spans and without a fault,
and then the end. -/
theorem reads_back {values : List Value} {text : List Char} (hwrites : Writes values text)
    {source : Source} (hreads : source.ReadsFully) (hbytes : source.bytes = encode text)
    (blockSize : Nat) : ∃ lexer, Demo.lexer = .ok lexer ∧
      ∀ limit count, text.length < limit → values.length + 1 < count → ∃ last,
        (series lexer reducer (BufferedText.ofSource source blockSize)).answers limit count =
          ((valueTokens values).map fun t => (.ok t, []), true, last) :=
  ⟨grammar, lexer_eq, fun _ _ hlimit hcount =>
    answers_of_writes (BufferedText.provides hreads hbytes)
      (BufferedText.at_ofSource source blockSize) hwrites hlimit hcount⟩

/-- A list with a negative number, an escaped quote and an empty list in it, and a number. -/
theorem reads_back_nested :
    let text := "[-3, \"a\\\"b\"\n[] ],7".toList
    ∃ lexer, Demo.lexer = .ok lexer ∧ ∀ limit count, text.length < limit → 3 < count → ∃ last,
      (series lexer reducer (BufferedText.ofSource (.ofBytes (encode text)) 3)).answers limit count =
        ([(.ok ⟨some "ARRAY", .list [.number (-3), .text "a\"b", .list []]⟩, []),
          (.ok ⟨some "NUMBER", .number 7⟩, []), (.ok (.eof .null), [])], true, last) := by
  intro text
  have hseven : Writes [.number 7] ([','] ++ (decimal 7 ++ [])) :=
    .number (by simp [partings]) (by decide) (by decide) (fun h => absurd rfl h) (.nil (by simp))
  have hblank : Writes [] [' '] := .nil (by simp [partings])
  have hempty : Writes [.list []] (['\n'] ++ ('[' :: ([] ++ ']' :: [' ']))) :=
    .list (by simp [partings]) (.nil (by simp)) (fun h => absurd rfl h) hblank
  have hstring : Writes [.text "a\"b", .list []] ([',', ' '] ++ ('"' ::
      (quotedBody "a\"b".toList ++ '"' :: (['\n'] ++ ('[' :: ([] ++ ']' :: [' '])))))) :=
    .text (by simp [partings]) (shortStretches_of_length (by decide))
      (fun _ => ⟨'\n', _, rfl, by simp [partings]⟩) hempty
  have hnumber : Writes [.number (-3), .text "a\"b", .list []] ([] ++ (decimal (-3) ++ _)) :=
    .number (by simp) (by decide) (by decide) (fun _ => ⟨',', _, rfl, by decide⟩) hstring
  have hlist : Writes [.list _, .number 7] ([] ++ ('[' :: (_ ++ ']' :: _))) :=
    .list (by simp) hnumber (fun _ => ⟨',', _, rfl, by decide⟩) hseven
  exact reads_back hlist (Source.readsFully_ofBytes _) rfl 3

end Lexis.Demo
