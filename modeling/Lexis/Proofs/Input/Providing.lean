import Lexis.Proofs.Input.Buffered
import Lexis.Proofs.Input.Cursor

/-!
# Inputs that provide a text

An input of characters provides a text if it hands out what is asked for, or all that is left of the
text, and never fails. A cursor over the text does, and so does a buffered input over the bytes of
the text, if its source copies all it is asked for at every read. What a run over such an input does
depends on the text only.

Principal results:

* `Provides.skip` — skipping characters that may not all be there;
* `TextCursor.provides`, `BufferedText.provides` — the inputs.
-/

namespace Lexis

open Text

/-- A source that copies all it is asked for at every read. -/
def Source.ReadsFully (s : Source) : Prop :=
  ∀ k, s.plan k = .full

namespace Source

theorem readsFully_ofBytes (bytes : List UInt8) : (ofBytes bytes).ReadsFully :=
  fun _ => rfl

variable {s : Source}

theorem ReadsFully.copiesAll (h : s.ReadsFully) : s.CopiesAll :=
  fun k => Or.inl (h k)

theorem ReadsFully.not_refuses (h : s.ReadsFully) (reason : String) : ¬s.Refuses reason := by
  rintro ⟨k, hk⟩
  rw [h k] at hk
  cases hk

end Source

variable {ι : Type} [Input ι (List Char)]

/-- The input hands out the characters of the text behind the cursor, all that are asked for or all
that are left. -/
structure Provides (whole : List Char) (Behind : ι → List Char → Prop) : Prop where
  behind : ∀ {i done}, Behind i done → done <+: whole
  position : ∀ {i done}, Behind i done → Input.position i = done.length
  peek : ∀ {i done rest}, Behind i done → whole = done ++ rest → ∀ count,
    ∃ i', Input.peek count i = (.ok (rest.take count), i') ∧ Behind i' done
  advance : ∀ {i done rest}, Behind i done → whole = done ++ rest → ∀ {count i'},
    Input.peek count i = (.ok (rest.take count), i') → ∀ n ≤ count,
      Behind (Input.advance n i') (done ++ rest.take n)

namespace Provides

variable {whole done rest : List Char} {Behind : ι → List Char → Prop} {i : ι}

/-- **Skipping** moves the cursor past the characters that are there. -/
theorem skip (h : Provides whole Behind) (hi : Behind i done) (hwhole : whole = done ++ rest)
    (count : Nat) : ∃ i', Input.skip count i = (.ok (rest.take count).length, i') ∧
      Behind i' (done ++ rest.take count) := by
  obtain ⟨i', hpeek, -⟩ := h.peek hi hwhole count
  have hlength : (rest.take count).length ≤ count := List.length_take_le count rest
  have hpassed : rest.take (rest.take count).length = rest.take count := by
    rw [List.length_take, List.take_eq_take_iff]
    omega
  have hmoved := h.advance hi hwhole hpeek (rest.take count).length hlength
  rw [hpassed] at hmoved
  refine ⟨Input.advance (rest.take count).length i', ?_, hmoved⟩
  unfold Input.skip
  rw [hpeek]
  rfl

end Provides

theorem TextCursor.provides (whole : List Char) :
    Provides whole (fun c done => TextCursor.At whole done c) where
  behind h := h.behind
  position h := h.position
  peek := by
    intro c done rest h hwhole count
    refine ⟨c, ?_, h⟩
    have hrest : c.rest = rest := by rw [h.rest_eq, hwhole, List.drop_left]
    rw [← hrest]
    rfl
  advance := by
    intro c done rest h hwhole count c' hpeek n _
    obtain rfl : c = c' := congrArg Prod.snd hpeek
    have hmoved := h.advance n
    rw [show whole.drop done.length = rest by rw [hwhole, List.drop_left]] at hmoved
    exact hmoved

/-- A buffered input over the bytes of a text provides it, if its source reads fully. -/
theorem BufferedText.provides {source : Source} (hreads : source.ReadsFully) {whole : List Char}
    (hbytes : source.bytes = encode whole) :
    Provides whole (fun i done => BufferedText.At source done i) := by
  have hdecode : decode source.bytes = (whole, .complete) := by rw [hbytes, decode_encode]
  -- such a source leaves one of the ways in which a request can end
  have hpeek : ∀ {i : BufferedText} {done rest : List Char}, i.At source done →
      whole = done ++ rest → ∀ count, ∃ i' : BufferedText,
        Input.peek count i = (.ok (i'.text.take count), i') ∧ i'.At source done ∧
          i'.text.take count = rest.take count := by
    intro i done rest h hwhole count
    have hdrop : whole.drop done.length = rest := by rw [hwhole, List.drop_left]
    have hcover : cover (decode source.bytes).1 ((decode source.bytes).2 = .complete) done.length
        count = .ok (rest.take count) := by
      simp only [hdecode, cover, if_true, hdrop]
      split
      · rfl
      · rename_i hcount
        rw [List.take_of_length_le]
        rw [← hdrop, List.length_drop]
        omega
    rcases h.peek count with
      ⟨reason, i', -, -, hreason⟩ | ⟨i', hi', hat', htext⟩ | ⟨position, i', -, -, hfault⟩
    · exact absurd hreason (hreads.not_refuses reason)
    · have htext := htext hreads.copiesAll
      rw [hcover] at htext
      exact ⟨i', hi', hat', (Except.ok.inj htext).symm⟩
    · have hfault := hfault hreads.copiesAll
      rw [hcover] at hfault
      cases hfault
  constructor
  · intro i done h
    have hfront := isPrefix_decode h.behind
    rwa [hdecode] at hfront
  · intro i done h
    exact h.position
  · intro i done rest h hwhole count
    obtain ⟨i', hi', hat', htext⟩ := hpeek h hwhole count
    rw [htext] at hi'
    exact ⟨i', hi', hat'⟩
  · intro i done rest h hwhole count i' hi' n hn
    obtain ⟨i₁, hi₁, hat₁, htext⟩ := hpeek h hwhole count
    rw [hi₁, Prod.mk.injEq] at hi'
    obtain ⟨-, rfl⟩ := hi'
    have hmoved := hat₁.advance n
    have hpassed : i₁.text.take n = rest.take n := by
      have hshort := congrArg (List.take n) htext
      rwa [List.take_take, List.take_take, Nat.min_eq_left hn] at hshort
    rw [hpassed] at hmoved
    exact hmoved

end Lexis
