import Lexis.Proofs.Input.Buffered
import Lexis.Proofs.Input.Cursor

/-!
# Inputs that mirror others

An input over a flaky source mirrors one in memory: a request fails because the source refuses a
read, and then the input is where it was, or it is answered as in memory (`Mirrors`). The mirror of
characters of any bytes is `IdealText`, which knows all the text that the bytes begin with.

Principal results:

* `BufferedBytes.mirrors_byteCursor` — buffered bytes mirror a cursor over the bytes;
* `BufferedText.mirrors_idealText` — buffered characters mirror the ideal reader of the bytes;
* `IdealText.mirrors_textCursor` — the ideal reader of the bytes of a text mirrors a cursor over the text.
-/

namespace Lexis

open Text

/-- Inputs in the relation have the same position and give the same answers, but that the first one
may refuse an answer, for one of the reasons. -/
structure Mirrors {ι₁ ι₂ κ : Type} [Chunk κ] [Input ι₁ κ] [Input ι₂ κ] (Refuses : String → Prop)
    (R : ι₁ → ι₂ → Prop) : Prop where
  position : ∀ {a b}, R a b → Input.position a = Input.position b
  peek : ∀ {a b}, R a b → ∀ count,
    (∃ reason a', Input.peek count a = (.error (.unreadable reason), a') ∧ R a' b ∧
      Refuses reason) ∨
    ∃ answer a' b', Input.peek count a = (answer, a') ∧ Input.peek count b = (answer, b') ∧
      R a' b' ∧ (∀ reason, answer ≠ .error (.unreadable reason)) ∧
      ∀ chunk, answer = .ok chunk → ∀ m ≤ Chunk.units chunk,
        R (Input.advance m a') (Input.advance m b')

theorem Mirrors.trans {ι₁ ι₂ ι₃ κ : Type} [Chunk κ] [Input ι₁ κ] [Input ι₂ κ] [Input ι₃ κ]
    {Refuses : String → Prop} {R : ι₁ → ι₂ → Prop} {S : ι₂ → ι₃ → Prop} (h : Mirrors Refuses R)
    (h' : Mirrors (fun _ => False) S) : Mirrors Refuses fun a c => ∃ b, R a b ∧ S b c where
  position := by
    rintro a c ⟨b, hab, hbc⟩
    exact (h.position hab).trans (h'.position hbc)
  peek := by
    rintro a c ⟨b, hab, hbc⟩ count
    rcases h.peek hab count with
      ⟨reason, a', ha, hab', hreason⟩ | ⟨answer, a', b', ha, hb, hab', hfine, hadvance⟩
    · exact Or.inl ⟨reason, a', ha, ⟨b, hab', hbc⟩, hreason⟩
    · rcases h'.peek hbc count with
        ⟨reason, b'', -, -, hnever⟩ | ⟨answer', b'', c', hb', hc, hbc', -, hadvance'⟩
      · exact hnever.elim
      · rw [hb] at hb'
        cases hb'
        refine Or.inr ⟨answer, a', c', ha, hc, ⟨b', hab', hbc'⟩, hfine, ?_⟩
        intro chunk hchunk m hm
        exact ⟨_, hadvance chunk hchunk m hm, hadvance' chunk hchunk m hm⟩

/-! ## Bytes -/

/-- A buffered input and a cursor over the bytes of its source, at the same place. -/
def BufferedBytes.Reflects (origin : Source) (i : BufferedBytes) (c : ByteCursor) : Prop :=
  i.At origin c.position ∧ c.bytes = origin.bytes

theorem BufferedBytes.reflects_ofSource (source : Source) (blockSize : Nat) :
    Reflects source (ofSource source blockSize) (ByteCursor.ofBytes source.bytes) :=
  ⟨at_ofSource source blockSize, rfl⟩

theorem BufferedBytes.mirrors_byteCursor {origin : Source} (hcopies : origin.CopiesAll) :
    Mirrors origin.Refuses (BufferedBytes.Reflects origin) where
  position h := h.1.position_eq
  peek := by
    rintro i c ⟨hat, hbytes⟩ count
    rcases hat.peek count with ⟨reason, i', hi, hat', hreason⟩ | ⟨i', hi, hat', hall⟩
    · exact Or.inl ⟨reason, i', hi, ⟨hat', hbytes⟩, hreason⟩
    · refine Or.inr ⟨_, i', c, hi, ?_, ⟨hat', hbytes⟩, ?_, ?_⟩
      · rw [hall hcopies, ← hbytes]
        rfl
      · intro reason h
        cases h
      · intro chunk hchunk m hm
        cases hchunk
        have hlen : m ≤ (i'.blocks.held.take count).length := hm
        rw [List.length_take] at hlen
        exact ⟨Blocks.At.consume hat' (by omega), hbytes⟩

/-! ## Characters -/

/-- A reader of the characters of bytes that knows the text they begin with. -/
structure IdealText where
  bytes : List UInt8
  text : List Char
  position : Nat

namespace IdealText

/-- The reader before the first character. -/
def ofBytes (bytes : List UInt8) : IdealText := ⟨bytes, (decode bytes).1, 0⟩

instance : Sourced IdealText := ⟨fun _ => none⟩

instance : Input IdealText (List Char) where
  size t := .ok t.bytes.length
  position t := t.position
  peek count t := (BufferedText.cover t.text (encode t.text = t.bytes) t.position count, t)
  advance count t := { t with position := t.position + count }

end IdealText

namespace BufferedText

theorem cover_congr {whole : List Char} {P Q : Prop} [Decidable P] [Decidable Q] (h : P ↔ Q)
    (p count : Nat) : cover whole P p count = cover whole Q p count := by
  unfold cover
  by_cases hP : P
  · rw [if_pos hP, if_pos (h.1 hP)]
  · rw [if_neg hP, if_neg fun hQ => hP (h.2 hQ)]

/-- Where all bytes are text a request covers what a cursor over the text would give. -/
theorem cover_of_intact {whole : List Char} {P : Prop} [Decidable P] (h : P) (p count : Nat) :
    cover whole P p count = .ok ((whole.drop p).take count) := by
  unfold cover
  rw [if_pos h]
  split
  · rfl
  · rename_i hcount
    rw [List.take_of_length_le (by rw [List.length_drop]; omega)]

theorem length_le_of_cover {whole cs : List Char} {P : Prop} [Decidable P] {p count : Nat}
    (h : cover whole P p count = .ok cs) : cs.length ≤ whole.length - p := by
  unfold cover at h
  split at h
  · cases h
    rw [List.length_take, List.length_drop]
    exact Nat.min_le_right _ _
  · split at h
    · cases h
      exact Nat.le_of_eq List.length_drop
    · cases h

/-- A buffered input and the ideal reader of the bytes of its source, at the same place. -/
def Reflects (origin : Source) (i : BufferedText) (t : IdealText) : Prop :=
  ∃ done, i.At origin done ∧ t = ⟨origin.bytes, (decode origin.bytes).1, done.length⟩

theorem reflects_ofSource (source : Source) (blockSize : Nat) :
    Reflects source (ofSource source blockSize) (IdealText.ofBytes source.bytes) :=
  ⟨[], at_ofSource source blockSize, rfl⟩

/-- Whether all bytes are text can be told by what is read of them. -/
theorem cover_eq_peek (origin : Source) (done : List Char) (count : Nat) :
    Input.peek count (⟨origin.bytes, (decode origin.bytes).1, done.length⟩ : IdealText) =
      (cover (decode origin.bytes).1 ((decode origin.bytes).2 = .complete) done.length count,
        ⟨origin.bytes, (decode origin.bytes).1, done.length⟩) :=
  Prod.ext (cover_congr (decode_complete_iff origin.bytes).symm done.length count) rfl

theorem mirrors_idealText {origin : Source} (hcopies : origin.CopiesAll) :
    Mirrors origin.Refuses (BufferedText.Reflects origin) where
  position := by
    rintro i t ⟨done, hat, rfl⟩
    exact hat.position
  peek := by
    rintro i t ⟨done, hat, rfl⟩ count
    rw [cover_eq_peek]
    rcases hat.peek count with
      ⟨reason, i', hi, hat', hreason⟩ | ⟨i', hi, hat', hcover⟩ | ⟨c, i', hi, hat', hcover⟩
    · exact Or.inl ⟨reason, i', hi, ⟨done, hat', rfl⟩, hreason⟩
    · refine Or.inr ⟨_, i', _, hi, ?_, ⟨done, hat', rfl⟩, ?_, ?_⟩
      · rw [hcover hcopies]
      · intro reason h
        cases h
      · intro chunk hchunk m hm
        cases hchunk
        have hlen : m ≤ (i'.text.take count).length := hm
        rw [List.length_take] at hlen
        refine ⟨done ++ i'.text.take m, hat'.advance m, ?_⟩
        rw [List.length_append, List.length_take_of_le (by omega)]
        rfl
    · refine Or.inr ⟨_, i', _, hi, ?_, ⟨done, hat', rfl⟩, ?_, ?_⟩
      · rw [hcover hcopies]
      · intro reason h
        cases h
      · intro chunk hchunk
        cases hchunk

end BufferedText

instance : LawfulInput IdealText where
  holds_of_peek := by
    intro count t t' chunk h m hm
    have hcover : BufferedText.cover t.text (encode t.text = t.bytes) t.position count = .ok chunk :=
      congrArg Prod.fst h
    have hstay : t = t' := congrArg Prod.snd h
    have hleft : m ≤ t.text.length - t.position :=
      Nat.le_trans hm (BufferedText.length_le_of_cover hcover)
    rw [← hstay]
    refine ⟨(t.text.drop t.position).take m, Prod.ext ?_ rfl, ?_⟩
    · exact if_pos hleft
    · exact List.length_take_of_le (by rw [List.length_drop]; exact hleft)
  source_advance _ _ := rfl

/-- The ideal reader of the bytes of a text and a cursor over the text, at the same place. -/
def IdealText.Reflects (whole : List Char) (t : IdealText) (c : TextCursor) : Prop :=
  ∃ done, c.At whole done ∧ t = ⟨encode whole, whole, done.length⟩

theorem IdealText.reflects_ofText (whole : List Char) :
    Reflects whole (ofBytes (encode whole)) (TextCursor.ofText whole) := by
  refine ⟨[], TextCursor.at_ofText whole, ?_⟩
  unfold ofBytes
  rw [decode_encode]
  rfl

theorem IdealText.mirrors_textCursor (whole : List Char) :
    Mirrors (fun _ => False) (IdealText.Reflects whole) where
  position := by
    rintro t c ⟨done, hat, rfl⟩
    exact hat.position.symm
  peek := by
    rintro t c ⟨done, hat, rfl⟩ count
    refine Or.inr ⟨.ok (c.rest.take count), _, c, ?_, rfl, ⟨done, hat, rfl⟩, ?_, ?_⟩
    · rw [hat.rest_eq]
      exact Prod.ext (BufferedText.cover_of_intact rfl done.length count) rfl
    · intro reason h
      cases h
    · intro chunk hchunk m hm
      cases hchunk
      have hlen : m ≤ (c.rest.take count).length := hm
      rw [List.length_take, hat.rest_eq] at hlen
      refine ⟨_, hat.advance m, ?_⟩
      rw [List.length_append, List.length_take_of_le (by omega)]
      rfl

end Lexis
