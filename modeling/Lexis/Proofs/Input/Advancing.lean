import Lexis.Proofs.Input.Providing

/-!
# How the cursor of an input moves

Whatever is asked of an input, its cursor moves by what is skipped and by nothing else, and it stays
inside the input. This needs no text at the cursor: it holds of bytes in the middle of a character as
well, and over any source, whether reads fail or come back short. So how much is left of an input is
a measure of all that is still to be done over it.

Principal results:

* `Advances` — the cursor moves by what is skipped;
* `Bounds` — and it stays inside the input;
* `ByteCursor.bounds`, `TextCursor.bounds`, `BufferedBytes.bounds`, `BufferedText.bounds` — the
  inputs;
* `ByteCursor.shows`, `BufferedBytes.shows` — inputs of bytes that hand out all that is there.
-/

namespace Lexis

open Text

variable {ι κ : Type} [Chunk κ] [Input ι κ]

/-- An input whose cursor moves by what is skipped and by nothing else, wherever it is. -/
structure Advances (Sane : ι → Prop) : Prop where
  peek : ∀ {i}, Sane i → ∀ {count answer i'}, Input.peek count i = (answer, i') →
    Sane i' ∧ Input.position i' = Input.position i
  advance : ∀ {i}, Sane i → ∀ {count}, Input.Holds count i →
    Sane (Input.advance count i) ∧
      Input.position (Input.advance count i) = Input.position i + count

/-- An input of so many units, inside which the cursor stays. -/
structure Bounds (total : Nat) (Sane : ι → Prop) : Prop where
  advances : Advances Sane
  position_le : ∀ {i}, Sane i → Input.position i ≤ total

/-- An input that hands out the bytes at its cursor, all that are asked for or all that are left. -/
structure Shows {ι : Type} [Input ι (List UInt8)] (bytes : List UInt8) (Sane : ι → Prop) :
    Prop where
  bounds : Bounds bytes.length Sane
  peek : ∀ {i}, Sane i → ∀ count,
    ∃ i', Input.peek count i = (.ok ((bytes.drop (Input.position i)).take count), i')

/-! ## The inputs -/

theorem ByteCursor.advances : Advances fun _ : ByteCursor => True where
  peek := by
    intro c _ count answer c' hpeek
    cases hpeek
    exact ⟨trivial, rfl⟩
  advance := by
    intro c _ count _
    exact ⟨trivial, rfl⟩

theorem TextCursor.advances : Advances fun _ : TextCursor => True where
  peek := by
    intro c _ count answer c' hpeek
    cases hpeek
    exact ⟨trivial, rfl⟩
  advance := by
    rintro c - count ⟨chunk, hpeek, hlength⟩
    cases hpeek
    have hpassed : (c.rest.take count).length = count := hlength
    refine ⟨trivial, ?_⟩
    show c.position + (c.rest.take count).length = c.position + count
    rw [hpassed]

theorem BufferedBytes.advances (source : Source) :
    Advances fun i : BufferedBytes => ∃ q, i.At source q where
  peek := by
    rintro i ⟨q, hat⟩ count answer i' hpeek
    rcases hat.peek count with ⟨reason, i₁, hi, hat', -⟩ | ⟨i₁, hi, hat', -⟩
    · rw [hi] at hpeek
      cases hpeek
      exact ⟨⟨q, hat'⟩, hat'.position_eq.trans hat.position_eq.symm⟩
    · rw [hi] at hpeek
      cases hpeek
      exact ⟨⟨q, hat'⟩, hat'.position_eq.trans hat.position_eq.symm⟩
  advance := by
    rintro i ⟨q, hat⟩ count ⟨chunk, hpeek, hlength⟩
    have hheld : count ≤ i.blocks.held.length := by
      rcases hat.peek count with ⟨reason, i₁, hi, -, -⟩ | ⟨i₁, hi, -, -⟩
      · rw [hi] at hpeek
        cases hpeek
      · rw [hi] at hpeek
        cases hpeek
        have htaken : (i.blocks.held.take count).length = count := hlength
        rw [List.length_take] at htaken
        omega
    have hpast : BufferedBytes.At source (q + count) (Input.advance count i) :=
      Blocks.At.consume hat hheld
    refine ⟨⟨_, hpast⟩, ?_⟩
    rw [hpast.position_eq, hat.position_eq]

theorem BufferedText.advances (source : Source) :
    Advances fun i : BufferedText => ∃ done, i.At source done where
  peek := by
    rintro i ⟨done, hat⟩ count answer i' hpeek
    have hstays : ∀ {i₁ : BufferedText}, i₁.At source done → i₁.position = i.position := by
      intro i₁ hat₁
      rw [hat₁.position, hat.position]
    rcases hat.peek count with
      ⟨reason, i₁, hi, hat', -⟩ | ⟨i₁, hi, hat', -⟩ | ⟨position, i₁, hi, hat', -⟩
    · rw [hi] at hpeek
      cases hpeek
      exact ⟨⟨done, hat'⟩, hstays hat'⟩
    · rw [hi] at hpeek
      cases hpeek
      exact ⟨⟨done, hat'⟩, hstays hat'⟩
    · rw [hi] at hpeek
      cases hpeek
      exact ⟨⟨done, hat'⟩, hstays hat'⟩
  advance := by
    rintro i ⟨done, hat⟩ count ⟨chunk, hpeek, hlength⟩
    have hpassed : (i.text.take count).length = count := by
      rcases hat.peek count with ⟨reason, i₁, hi, -, -⟩ | ⟨i₁, hi, -, -⟩ | ⟨position, i₁, hi, -, -⟩
      · rw [hi] at hpeek
        cases hpeek
      · rw [hi] at hpeek
        cases hpeek
        exact hlength
      · rw [hi] at hpeek
        cases hpeek
    refine ⟨⟨_, hat.advance count⟩, ?_⟩
    show i.position + (i.text.take count).length = i.position + count
    rw [hpassed]

/-- The cursor is over the bytes and inside them. -/
def ByteCursor.Inside (bytes : List UInt8) (c : ByteCursor) : Prop :=
  c.bytes = bytes ∧ c.position ≤ bytes.length

theorem ByteCursor.inside_ofBytes (bytes : List UInt8) : (ofBytes bytes).Inside bytes :=
  ⟨rfl, Nat.zero_le _⟩

theorem ByteCursor.bounds (bytes : List UInt8) : Bounds bytes.length (ByteCursor.Inside bytes) where
  advances := {
    peek := by
      intro c hinside count answer c' hpeek
      cases hpeek
      exact ⟨hinside, rfl⟩
    advance := by
      rintro c ⟨rfl, hinside⟩ count ⟨chunk, hpeek, hlength⟩
      cases hpeek
      have htaken : ((c.bytes.drop c.position).take count).length = count := hlength
      rw [List.length_take, List.length_drop] at htaken
      refine ⟨⟨rfl, ?_⟩, rfl⟩
      show c.position + count ≤ c.bytes.length
      omega }
  position_le h := h.2

theorem TextCursor.bounds (text : List Char) :
    Bounds text.length fun c : TextCursor => ∃ done, At text done c where
  advances := {
    peek := by
      rintro c hat count answer c' hpeek
      cases hpeek
      exact ⟨hat, rfl⟩
    advance := by
      rintro c ⟨done, hat⟩ count hheld
      exact ⟨⟨_, hat.advance count⟩, (advances.advance trivial hheld).2⟩ }
  position_le := by
    rintro c ⟨done, hat⟩
    rw [show Input.position c = c.position from rfl, hat.position]
    exact hat.behind.length_le

theorem BufferedBytes.bounds (source : Source) :
    Bounds source.bytes.length fun i : BufferedBytes => ∃ q, i.At source q where
  advances := advances source
  position_le := by
    rintro i ⟨q, hat⟩
    rw [hat.position_eq]
    exact hat.inside

theorem BufferedText.bounds (source : Source) :
    Bounds (decode source.bytes).1.length fun i : BufferedText => ∃ done, i.At source done where
  advances := advances source
  position_le := by
    rintro i ⟨done, hat⟩
    rw [show Input.position i = i.position from rfl, hat.position]
    exact hat.length_le

/-! ## Bytes that are there -/

theorem ByteCursor.shows (bytes : List UInt8) : Shows bytes (ByteCursor.Inside bytes) where
  bounds := bounds bytes
  peek := by
    rintro c ⟨rfl, -⟩ count
    exact ⟨c, rfl⟩

theorem BufferedBytes.shows {source : Source} (hreads : source.ReadsFully) :
    Shows source.bytes fun i : BufferedBytes => ∃ q, i.At source q where
  bounds := bounds source
  peek := by
    rintro i ⟨q, hat⟩ count
    rcases hat.peek count with ⟨reason, -, -, -, hrefuses⟩ | ⟨i', hpeek, -, hall⟩
    · exact absurd hrefuses (hreads.not_refuses reason)
    · rw [hall hreads.copiesAll, ← hat.position_eq] at hpeek
      exact ⟨i', hpeek⟩

end Lexis
