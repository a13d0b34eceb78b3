import Lexis.Proofs.Lexer.Firing
import Lexis.Proofs.Reducer.Collecting

/-!
# Series that stop for good

A series is a view of a run, of a lexer or of a reducer. Asked again and again, it takes the steps of
the run up to the first one that it ends with, and brings what these bring. Behind that it brings its
end and stays as it is: no rule fires, no supply is pulled and no input is read. Inputs and supplies
are arbitrary here, so one that keeps account of what it is asked for has nothing to add.

In a pipeline the series of the lexer is asked by the reducer's pulls only. So the lexer makes no
call behind its first `EOF` token or fault, in whichever way the reducer is asked and however often,
also where an open span has swallowed the token.

Principal results:

* `Latch.draws`, `Latch.draw_more` — views that end with a step, over runs of any kind;
* `Reducing.keeps`, `ReducedSeries.keeps` — what each pull of the supply keeps is kept however often
  the reducer is asked;
* `series_stop_for_good` — the two kinds of series, and the pipeline of both.
-/

namespace Lexis

/-! ## Steps in turn -/

section Steps

variable {α ρ δ σ V : Type}

/-- Steps one after the other, each with what is asked of it. -/
def inTurn (step : α → ρ → δ) (after : δ → ρ) : List α → ρ → List δ
  | [], _ => []
  | a :: as, run => step a run :: inTurn step after as (after (step a run))

/-- What steps leave of the run, one after the other. -/
def leaves (after : δ → ρ) (run : ρ) : List δ → ρ
  | [] => run
  | d :: ds => leaves after (after d) ds

/-- The steps up to the first last one, and that one. -/
def throughFirst (isLast : δ → Bool) : List δ → List δ
  | [] => []
  | d :: ds => if isLast d then [d] else d :: throughFirst isLast ds

/-- What asking a series does: the step of the run that it takes, if it takes one, what it brings, and
the series after it. -/
structure Draw (δ σ V : Type) where
  step : Option δ
  pull : Pull V
  after : σ

/-- The series brings its end, takes no step and stays as it is. -/
def Draw.silent (s : σ) : Draw δ σ V := ⟨none, .ended, s⟩

theorem inTurn_concat (step : α → ρ → δ) (after : δ → ρ) (a : α) : ∀ (as : List α) (run : ρ),
    inTurn step after (as ++ [a]) run =
      inTurn step after as run ++ [step a (leaves after run (inTurn step after as run))]
  | [], _ => rfl
  | b :: as, run => congrArg (step b run :: ·) (inTurn_concat step after a as _)

theorem leaves_concat (after : δ → ρ) (d : δ) : ∀ (ds : List δ) (run : ρ),
    leaves after run (ds ++ [d]) = after d
  | [], _ => rfl
  | e :: ds, _ => leaves_concat after d ds (after e)

theorem throughFirst_concat (isLast : δ → Bool) (d : δ) (ds : List δ) :
    throughFirst isLast (ds ++ [d]) =
      if ds.any isLast then throughFirst isLast ds else ds ++ [d] := by
  induction ds with
  | nil => cases hd : isLast d <;> simp [throughFirst, hd]
  | cons e ds ih =>
    cases he : isLast e with
    | true => simp [throughFirst, he]
    | false =>
      rw [List.cons_append, throughFirst, throughFirst, ih, List.any_cons, he]
      cases ds.any isLast <;> rfl

theorem throughFirst_of_any_eq_false {isLast : δ → Bool} {ds : List δ}
    (h : ds.any isLast = false) : throughFirst isLast ds = ds := by
  induction ds with
  | nil => rfl
  | cons d ds ih =>
    rw [List.any_cons, Bool.or_eq_false_iff] at h
    simp [throughFirst, h.1, ih h.2]

/-- A series that is a view of a run. Before its end it takes a step and brings what the step
brings, and it ends with the step if that is a last one; behind it nothing happens. -/
structure Latch (step : α → ρ → δ) (after : δ → ρ) (isLast : δ → Bool) (drawn : δ → Draw δ σ V)
    (series : ρ → Bool → σ) (draw : α → σ → Draw δ σ V) : Prop where
  ongoing : ∀ a run, draw a (series run false) = drawn (step a run)
  ended : ∀ a run, draw a (series run true) = .silent (series run true)
  step : ∀ d, (drawn d).step = some d
  after : ∀ d, (drawn d).after = series (after d) (isLast d)

namespace Latch

variable {step : α → ρ → δ} {after : δ → ρ} {isLast : δ → Bool} {drawn : δ → Draw δ σ V}
  {series : ρ → Bool → σ} {draw : α → σ → Draw δ σ V}

theorem draws_of_ended (h : Latch step after isLast drawn series draw) (as : List α) (run : ρ) :
    inTurn draw Draw.after as (series run true) =
      List.replicate as.length (.silent (series run true)) := by
  induction as with
  | nil => rfl
  | cons a as ih =>
    rw [inTurn, h.ended]
    exact congrArg (Draw.silent (series run true) :: ·) ih

/-- **A view that ends with a step** takes the steps of the run up to the first last one, and then
nothing happens. -/
theorem draws (h : Latch step after isLast drawn series draw) (as : List α) (run : ρ) :
    inTurn draw Draw.after as (series run false) =
      (throughFirst isLast (inTurn step after as run)).map drawn ++
        List.replicate (as.length - (throughFirst isLast (inTurn step after as run)).length)
          (.silent (series (leaves after run (throughFirst isLast (inTurn step after as run)))
            true)) := by
  induction as generalizing run with
  | nil => rfl
  | cons a as ih =>
    rw [inTurn, inTurn, h.ongoing, h.after]
    cases hlast : isLast (step a run) with
    | true =>
      rw [h.draws_of_ended, throughFirst, if_pos hlast]
      rfl
    | false =>
      rw [ih, throughFirst, if_neg (by rw [hlast]; exact Bool.false_ne_true), List.map_cons,
        List.cons_append, List.length_cons, List.length_cons, Nat.add_sub_add_right]
      rfl

theorem draw_more (h : Latch step after isLast drawn series draw) (a : α) (as : List α) (run : ρ) :
    let before := inTurn step after as run
    let more := inTurn step after (as ++ [a]) run
    let s := series (leaves after run (throughFirst isLast before)) (before.any isLast)
    throughFirst isLast more = throughFirst isLast before ++ (draw a s).step.toList ∧
      (draw a s).after =
        series (leaves after run (throughFirst isLast more)) (more.any isLast) := by
  intro before more
  have hmore : more = before ++ [step a (leaves after run before)] :=
    inTurn_concat step after a as run
  rw [hmore, throughFirst_concat, List.any_append]
  cases hany : before.any isLast with
  | true =>
    dsimp only
    rw [h.ended]
    exact ⟨(List.append_nil _).symm, rfl⟩
  | false =>
    dsimp only
    rw [throughFirst_of_any_eq_false hany, h.ongoing, h.step, h.after, if_neg Bool.false_ne_true,
      leaves_concat, List.any_cons, List.any_nil, Bool.false_or, Bool.or_false]
    exact ⟨rfl, rfl⟩

end Latch

end Steps

/-! ## Series of lexers -/

variable {ι κ υ V : Type}

/-- What a call brings to a series. -/
def Call.pull (call : Call ι V) : Pull V :=
  match call.answer with
  | none => .outOfRounds
  | some a => .item a

/-- Whether the answer is an `EOF` token or a fault. -/
def Call.isLast (call : Call ι V) : Bool :=
  match call.answer with
  | none => false
  | some (.ok token) => token.isEof
  | some (.error _) => true

/-- What a series brings that makes the call. -/
def Call.drawn (lexer : Lexer V) (call : Call ι V) : Draw (Call ι V) (TokenSeries ι V) V :=
  ⟨some call, call.pull, ⟨lexer, call.after, call.isLast⟩⟩

section Lexers

variable [Chunk κ] [Input ι κ]

/-- One call for the next answer. -/
def Lexing.call (lexer : Lexer V) (limit : Nat) (run : Lexing ι) : Call ι V :=
  ⟨fired lexer limit run, (next lexer limit run).1, (next lexer limit run).2⟩

theorem Lexing.calls_eq (lexer : Lexer V) (limits : List Nat) (run : Lexing ι) :
    calls lexer limits run = inTurn (call lexer) Call.after limits run := by
  induction limits generalizing run with
  | nil => rfl
  | cons limit limits ih => exact congrArg (call lexer limit run :: ·) (ih _)

namespace TokenSeries

/-- What asking for one more token does. -/
def draw (limit : Nat) (s : TokenSeries ι V) : Draw (Call ι V) (TokenSeries ι V) V where
  step := if s.finished then none else some (s.run.call s.lexer limit)
  pull := (s.pull limit).1
  after := (s.pull limit).2

/-- What asking again and again does, with so many rounds each time. -/
def draws (limits : List Nat) (s : TokenSeries ι V) : List (Draw (Call ι V) (TokenSeries ι V) V) :=
  inTurn draw Draw.after limits s

/-- **The series of a lexer is a view of its run.** -/
theorem latch (lexer : Lexer V) : Latch (Lexing.call lexer) Call.after Call.isLast
    (Call.drawn lexer) (fun run finished => ⟨lexer, run, finished⟩)
    (draw : Nat → TokenSeries ι V → Draw (Call ι V) (TokenSeries ι V) V) where
  ongoing limit run := by
    unfold draw pull Call.drawn Call.pull Call.isLast Lexing.call
    obtain ⟨answer, after, hnext⟩ : ∃ answer after, run.next lexer limit = (answer, after) :=
      ⟨_, _, rfl⟩
    dsimp only
    rw [hnext]
    rcases answer with _ | fault | token <;> rfl
  ended _ _ := rfl
  step _ := rfl
  after _ := rfl

end TokenSeries

end Lexers

/-! ## Series of reducers -/

/-- A call for the next token outside all spans: the supply each time that it is pulled on the way,
with the rounds that are allowed for it, what the call brings, and the run after it. -/
structure Delivery (υ V : Type) where
  met : List (Nat × υ)
  pull : Pull V
  after : Reducing υ V

/-- Whether the delivery brings the end or a fault. -/
def Delivery.isLast (delivery : Delivery υ V) : Bool :=
  match delivery.pull with
  | .item (.ok _) => false
  | .item (.error _) => true
  | .ended => true
  | .outOfRounds => false

/-- What a series brings that takes the delivery. -/
def Delivery.drawn (r : Reducer V) (delivery : Delivery υ V) :
    Draw (Delivery υ V) (ReducedSeries υ V) V :=
  ⟨some delivery, delivery.pull, ⟨r, delivery.after, delivery.isLast⟩⟩

/-- The supply each time that it is pulled when a series is asked. -/
def ReducedSeries.metIn (ds : List (Draw (Delivery υ V) (ReducedSeries υ V) V)) : List (Nat × υ) :=
  ds.flatMap fun d => d.step.toList.flatMap Delivery.met

theorem ReducedSeries.metIn_cons (d : Draw (Delivery υ V) (ReducedSeries υ V) V)
    (ds : List (Draw (Delivery υ V) (ReducedSeries υ V) V)) :
    metIn (d :: ds) = metIn [d] ++ metIn ds := by
  unfold metIn
  rw [← List.flatMap_append]
  rfl

section Reducers

variable [GroupNamed V] [Supply υ V]

/-- What holds of a supply, and of the supplies and rounds of the pulls before, holds behind one more
pull. -/
def KeptByPulls (P : List (Nat × υ) → υ → Prop) : Prop :=
  ∀ done supply limit, P done supply → P (done ++ [(limit, supply)]) (Supply.pull limit supply).2

namespace Reducing

/-- The supply each time that it is pulled on the way to the next answer. -/
def met (r : Reducer V) (limit : Nat) : (pulls : Nat) → Reducing υ V → List (Nat × υ)
  | 0, _ => []
  | pulls + 1, run => (limit, run.supply) ::
    match Supply.pull limit run.supply with
    | (.outOfRounds, _) => []
    | (.ended, _) => []
    | (.item (.error _), _) => []
    | (.item (.ok token), supply) =>
      match r.feed token run.spans with
      | (.error _, _) => []
      | (.ok (some _), _) => []
      | (.ok none, spans) => met r limit pulls ⟨supply, spans⟩

/-- One call for the next token outside all spans. -/
def delivery (r : Reducer V) (limit : Nat) (run : Reducing υ V) : Delivery υ V :=
  ⟨met r limit limit run, (next r limit limit run).1, (next r limit limit run).2⟩

/-- Calls one after the other, whatever they bring, each within its own limit. -/
def deliveries (r : Reducer V) (limits : List Nat) (run : Reducing υ V) : List (Delivery υ V) :=
  inTurn (delivery r) Delivery.after limits run

/-- **What every pull keeps, a call keeps.** -/
theorem keeps {P : List (Nat × υ) → υ → Prop} (hpull : KeptByPulls P) (r : Reducer V)
    (limit pulls : Nat) {done : List (Nat × υ)} {run : Reducing υ V} (h : P done run.supply) :
    P (done ++ met r limit pulls run) (next r limit pulls run).2.supply := by
  induction pulls generalizing done run with
  | zero =>
    show P (done ++ []) run.supply
    rw [List.append_nil]
    exact h
  | succ pulls ih =>
    have hfirst := hpull done run.supply limit h
    obtain ⟨brought, left, hbrought⟩ : ∃ brought left,
        Supply.pull limit run.supply = (brought, left) := ⟨_, _, rfl⟩
    rw [hbrought] at hfirst
    unfold met next
    rw [hbrought]
    rcases brought with (fault | token) | _ | _
    · exact hfirst
    · obtain ⟨fed, between, hfeed⟩ : ∃ fed between, r.feed token run.spans = (fed, between) :=
        ⟨_, _, rfl⟩
      dsimp only
      rw [hfeed]
      rcases fed with fault | _ | token
      · exact hfirst
      · -- the token is swallowed, and the supply is pulled again
        have hrest : P (done ++ [(limit, run.supply)] ++ met r limit pulls ⟨left, between⟩)
            (next r limit pulls ⟨left, between⟩).2.supply := ih hfirst
        rw [List.append_assoc] at hrest
        exact hrest
      · exact hfirst
    · exact hfirst
    · exact hfirst

end Reducing

namespace ReducedSeries

/-- What asking does, for the next token or as a series. -/
def draw (limit : Nat) (asking : Asking) (s : ReducedSeries υ V) :
    Draw (Delivery υ V) (ReducedSeries υ V) V where
  step :=
    if asking = .series ∧ s.finished = true then none else some (s.run.delivery s.reducer limit)
  pull := (s.ask limit asking).1
  after := (s.ask limit asking).2

/-- What asking again and again does, each time in its own way and within its own limit. -/
def draws (asked : List (Nat × Asking)) (s : ReducedSeries υ V) :
    List (Draw (Delivery υ V) (ReducedSeries υ V) V) :=
  inTurn (fun question s => s.draw question.1 question.2) Draw.after asked s

/-- What asking the series again and again does. -/
def seriesDraws (limits : List Nat) (s : ReducedSeries υ V) :
    List (Draw (Delivery υ V) (ReducedSeries υ V) V) :=
  inTurn (fun limit s => s.draw limit .series) Draw.after limits s

/-- **The series of a reducer is a view of its run.** -/
theorem latch (r : Reducer V) : Latch (Reducing.delivery r) Delivery.after Delivery.isLast
    (Delivery.drawn r) (fun run finished => ⟨r, run, finished⟩)
    (fun limit (s : ReducedSeries υ V) => s.draw limit .series) where
  ongoing _ _ := rfl
  ended _ _ := rfl
  step _ := rfl
  after _ := rfl

theorem keeps_draw {P : List (Nat × υ) → υ → Prop} (hpull : KeptByPulls P) (limit : Nat)
    (asking : Asking) {done : List (Nat × υ)} {s : ReducedSeries υ V} (h : P done s.run.supply) :
    P (done ++ metIn [s.draw limit asking]) (s.draw limit asking).after.run.supply := by
  obtain ⟨r, run, finished⟩ := s
  have hasked : P (done ++ ((Reducing.met r limit limit run ++ []) ++ []))
      (run.next r limit limit).2.supply := by
    rw [List.append_nil, List.append_nil]
    exact Reducing.keeps hpull r limit limit h
  cases asking with
  | token => exact hasked
  | series =>
    cases finished with
    | true =>
      show P (done ++ []) run.supply
      rw [List.append_nil]
      exact h
    | false => exact hasked

/-- **What every pull keeps, any number of questions keep.** -/
theorem keeps {P : List (Nat × υ) → υ → Prop} (hpull : KeptByPulls P) :
    ∀ (asked : List (Nat × Asking)) {done : List (Nat × υ)} {s : ReducedSeries υ V},
      P done s.run.supply →
      P (done ++ metIn (s.draws asked)) (leaves Draw.after s (s.draws asked)).run.supply
  | [], done, s, h => by
    show P (done ++ []) s.run.supply
    rw [List.append_nil]
    exact h
  | (limit, asking) :: asked, done, s, h => by
    have hrest := keeps hpull asked (keeps_draw hpull limit asking h)
    rw [List.append_assoc, ← metIn_cons] at hrest
    exact hrest

end ReducedSeries

end Reducers

/-! ## Pipelines -/

section Pipelines

variable [Chunk κ] [Input ι κ]

/-- What has become of the series of a lexer that has been pulled so often: the calls that it has
made are those of the lexer's run up to the first last one, and it is behind them. -/
structure TokenSeries.Through (lexer : Lexer V) (first : Lexing ι)
    (pulled : List (Nat × TokenSeries ι V)) (s : TokenSeries ι V) : Prop where
  made : (pulled.filterMap fun p => (p.2.draw p.1).step) =
    throughFirst Call.isLast (Lexing.calls lexer (pulled.map Prod.fst) first)
  series : s = ⟨lexer, leaves Call.after first
      (throughFirst Call.isLast (Lexing.calls lexer (pulled.map Prod.fst) first)),
    (Lexing.calls lexer (pulled.map Prod.fst) first).any Call.isLast⟩

/-- **One more pull** makes one more call, unless a last one has been made. -/
theorem TokenSeries.through_pull (lexer : Lexer V) (first : Lexing ι) :
    KeptByPulls (Through lexer first) := by
  rintro pulled s limit ⟨hmade, hseries⟩
  obtain ⟨hmore, hafter⟩ := (latch lexer).draw_more limit (pulled.map Prod.fst) first
  rw [← Lexing.calls_eq, ← Lexing.calls_eq, ← hseries] at hmore hafter
  have hlimits : (pulled ++ [(limit, s)]).map Prod.fst = pulled.map Prod.fst ++ [limit] :=
    List.map_append
  constructor
  · rw [List.filterMap_append, hmade, hlimits, hmore]
    rfl
  · rw [hlimits]
    exact hafter

end Pipelines

/-- **Series stop for good.** The series of a lexer makes the calls of its run up to the first `EOF`
token or fault, and that of a reducer takes the deliveries of its run, over any supply, up to the
first end or fault. Each brings what these bring; behind them it brings its end, takes no step and
stays as it is. And however a reducer is asked for its tokens, as a series or not, the lexer that it
pulls makes no call behind its first `EOF` token or fault. -/
theorem series_stop_for_good [Chunk κ] [Input ι κ] [GroupNamed V] (lexer : Lexer V)
    (first : Lexing ι) (r : Reducer V) :
    (∀ limits, let made := throughFirst Call.isLast (Lexing.calls lexer limits first)
      (TokenSeries.ofRun lexer first).draws limits = made.map (Call.drawn lexer) ++
        List.replicate (limits.length - made.length)
          (.silent ⟨lexer, leaves Call.after first made, true⟩)) ∧
    (∀ (υ : Type) [Supply υ V] (run : Reducing υ V) (limits : List Nat),
      let made := throughFirst Delivery.isLast (run.deliveries r limits)
      (ReducedSeries.ofRun r run).seriesDraws limits = made.map (Delivery.drawn r) ++
        List.replicate (limits.length - made.length)
          (.silent ⟨r, leaves Delivery.after run made, true⟩)) ∧
    ∀ (opened : List (Span V)) (asked : List (Nat × Asking)),
      let s := ReducedSeries.ofRun r (Reducing.start (TokenSeries.ofRun lexer first) opened)
      TokenSeries.Through lexer first (ReducedSeries.metIn (s.draws asked))
        (leaves Draw.after s (s.draws asked)).run.supply := by
  refine ⟨fun limits => ?_, fun υ _ run limits => ?_, fun opened asked => ?_⟩
  · have hdraws := (TokenSeries.latch lexer).draws limits first
    rw [← Lexing.calls_eq] at hdraws
    exact hdraws
  · exact (ReducedSeries.latch r).draws limits run
  · have hstart : TokenSeries.Through lexer first [] (TokenSeries.ofRun lexer first) :=
      ⟨rfl, rfl⟩
    exact ReducedSeries.keeps (s := ReducedSeries.ofRun r (Reducing.start _ opened))
      (TokenSeries.through_pull lexer first) asked hstart

/-- The end of an array that is not closed stays in its span. By then the lexer has ended: asked for
one more token, the reducer pulls it once and in vain; asked as a series, it does not pull it. -/
example : Demo.lexer.toOption.map (fun lexer =>
    let first := Lexing.start (TextCursor.ofText ['[', '1', ',']) []
    let s := ReducedSeries.ofRun Demo.reducer (Reducing.start (TokenSeries.ofRun lexer first) [])
    (s.draws [(4, .series), (4, .token), (4, .series)]).map fun d =>
      d.step.map fun delivery => delivery.met.map fun p => p.2.finished) =
    some [some [false, false, false, true], some [true], none] := by
  decide +kernel

end Lexis
