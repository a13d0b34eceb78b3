import Lexis.Proofs.Text.Utf8

/-!
# Bytes cut out of a text

Bytes can be cut at both ends. Cut in front, inside a character, they begin with a byte that begins
no character, so nothing of them can be read. Cut off inside a character at the end, they are split,
and it is exactly such bytes that more bytes can make a text: an unfinished character can always be
finished, and a byte that continues no text can not be taken back.

Principal results:

* `boundary_or_stray` — where the bytes of a text are cut in front;
* `decode_take_eq_nil_iff` — whether a character in front of a text is read from so many bytes;
* `decode_invalid_iff` — which bytes no others can make a text.
-/

namespace Lexis.Text

/-! ## Cut in front -/

theorem lead_tail : ∀ y < 64, lead (UInt8.ofNat (y + 0x80)) = .stray := by decide

theorem lead_of_mem_tail {c : Char} {b : UInt8} (h : b ∈ (String.utf8EncodeChar c).tail) :
    lead b = .stray := by
  have hspells := spells_encodeChar c
  generalize String.utf8EncodeChar c = bytes at h hspells
  cases hspells with
  | one hx => cases h
  | two hx hx' hy =>
    simp only [List.tail_cons, List.mem_cons, List.not_mem_nil, or_false] at h
    subst h
    exact lead_tail _ hy
  | three hx hy hz h0 h13 =>
    simp only [List.tail_cons, List.mem_cons, List.not_mem_nil, or_false] at h
    rcases h with rfl | rfl
    · exact lead_tail _ hy
    · exact lead_tail _ hz
  | four hx hy hz hw h0 h4 =>
    simp only [List.tail_cons, List.mem_cons, List.not_mem_nil, or_false] at h
    rcases h with rfl | rfl | rfl
    · exact lead_tail _ hy
    · exact lead_tail _ hz
    · exact lead_tail _ hw

/-- Nothing is read behind a byte that begins no character. -/
theorem decode_stray {b : UInt8} (h : lead b = .stray) (bs : List UInt8) :
    decode (b :: bs) = ([], .invalid) := by
  unfold decode
  rw [decodeFrom, h]

/-- **The bytes of a text are cut between two characters or in front of a byte that begins none.** -/
theorem boundary_or_stray (text : List Char) {n : Nat} (hn : n ≤ byteLength text) :
    (∃ done rest, text = done ++ rest ∧ n = byteLength done) ∨
    ∃ b bs, (encode text).drop n = b :: bs ∧ lead b = .stray := by
  induction text generalizing n with
  | nil => exact Or.inl ⟨[], [], rfl, Nat.le_zero.1 hn⟩
  | cons c cs ih =>
    have hlength : (String.utf8EncodeChar c).length = c.utf8Size := String.length_utf8EncodeChar c
    rw [byteLength_cons] at hn
    by_cases hinside : n < c.utf8Size
    · cases n with
      | zero => exact Or.inl ⟨[], c :: cs, rfl, rfl⟩
      | succ n =>
        have hdrop : (encode (c :: cs)).drop (n + 1) =
            (String.utf8EncodeChar c).drop (n + 1) ++ encode cs := by
          rw [encode_cons, List.drop_append_of_le_length (by omega)]
        obtain ⟨b, bs, hbytes⟩ : ∃ b bs, (String.utf8EncodeChar c).drop (n + 1) = b :: bs := by
          apply List.exists_cons_of_length_pos
          rw [List.length_drop]
          omega
        refine Or.inr ⟨b, bs ++ encode cs, ?_, ?_⟩
        · rw [hdrop, hbytes]
          rfl
        · apply lead_of_mem_tail (c := c)
          apply List.mem_of_mem_drop (i := n)
          rw [List.drop_tail, hbytes]
          exact List.mem_cons_self
    · have hdrop : (encode (c :: cs)).drop n = (encode cs).drop (n - c.utf8Size) := by
        rw [encode_cons, List.drop_append, hlength, List.drop_of_length_le (by omega),
          List.nil_append]
      rcases ih (n := n - c.utf8Size) (by omega) with ⟨done, rest, rfl, hdone⟩ | ⟨b, bs, hbytes, hb⟩
      · refine Or.inl ⟨c :: done, rest, rfl, ?_⟩
        rw [byteLength_cons]
        omega
      · exact Or.inr ⟨b, bs, hdrop.trans hbytes, hb⟩

/-! ## Cut off at the end -/

theorem decode_take_isPrefix (text : List Char) (n : Nat) :
    (decode ((encode text).take n)).1 <+: text := by
  have hfront := decode_mono (List.take_prefix n (encode text))
  rwa [decode_encode] at hfront

/-- **Nothing is read of the first bytes of a text exactly if its first character is not among
them.** -/
theorem decode_take_eq_nil_iff (c : Char) (rest : List Char) (n : Nat) :
    (decode ((encode (c :: rest)).take n)).1 = [] ↔ n < c.utf8Size := by
  constructor
  · intro hnothing
    refine Nat.lt_of_not_le fun hle => ?_
    have hheld : encode [c] <+: (encode (c :: rest)).take n := by
      apply List.prefix_take_iff.2
      refine ⟨encode_isPrefix ⟨rest, rfl⟩, ?_⟩
      rw [length_encode, byteLength_cons, byteLength_nil]
      omega
    have hread := isPrefix_decode hheld
    rw [hnothing, List.prefix_nil] at hread
    cases hread
  · intro hshort
    cases hread : (decode ((encode (c :: rest)).take n)).1 with
    | nil => rfl
    | cons d ds =>
      have hfront := decode_take_isPrefix (c :: rest) n
      rw [hread] at hfront
      obtain ⟨rfl, -⟩ := List.cons_prefix_cons.1 hfront
      -- its bytes would be among the first ones
      have hheld := (encode_decode_isPrefix ((encode (d :: rest)).take n)).length_le
      rw [hread, length_encode, byteLength_cons, List.length_take] at hheld
      omega

/-- The first bytes of a text are never bytes that are none. -/
theorem decode_take_ne_invalid (text : List Char) (n : Nat) :
    (decode ((encode text).take n)).2 ≠ .invalid := by
  intro hinvalid
  have hsame := decode_invalid_append hinvalid ((encode text).drop n)
  rw [List.take_append_drop, decode_encode] at hsame
  rw [← hsame] at hinvalid
  cases hinvalid

/-! ## Finished by more bytes -/

/-- Some byte can come next. -/
def Unfinished.Open (u : Unfinished) : Prop := u.low ≤ u.high ∧ u.high < 256

theorem open_tail (bits n : Nat) : Unfinished.Open ⟨bits, 0x80, 0xBF, n⟩ := by
  constructor
  · show 0x80 ≤ 0xBF
    omega
  · show 0xBF < 256
    omega

theorem open_of_lead {b : UInt8} {u : Unfinished} (h : lead b = .opens u) : u.Open := by
  cases opens_of_lead h with
  | two => exact open_tail _ 0
  | three =>
    constructor
    · dsimp only
      split <;> split <;> omega
    · dsimp only
      split <;> omega
  | four =>
    constructor
    · dsimp only
      split <;> split <;> omega
    · dsimp only
      split <;> omega

/-- A character can be finished, however many bytes it still has to come. -/
theorem exists_finish (n : Nat) : ∀ {u : Unfinished}, u.after = n → u.Open →
    ∃ more, (decodeFrom (some u) more).2 = .complete := by
  have hnext : ∀ {u : Unfinished}, u.Open → (UInt8.ofNat u.low).toNat = u.low := by
    rintro u ⟨hlow, hhigh⟩
    apply UInt8.toNat_ofNat_of_lt'
    show u.low < 256
    omega
  induction n with
  | zero =>
    intro u hafter hu
    refine ⟨[UInt8.ofNat u.low], ?_⟩
    rw [decodeFrom, hnext hu, if_pos ⟨Nat.le_refl _, hu.1⟩, hafter]
    rfl
  | succ n ih =>
    intro u hafter hu
    obtain ⟨more, hmore⟩ := ih rfl (open_tail (u.bits * 64 + u.low % 64) n)
    refine ⟨UInt8.ofNat u.low :: more, ?_⟩
    rw [decodeFrom, hnext hu, if_pos ⟨Nat.le_refl _, hu.1⟩, hafter]
    exact hmore

/-- Bytes that end inside a character can be made a text. -/
theorem exists_finish_of_split {u : Option Unfinished} {bytes : List UInt8}
    (hu : ∀ v ∈ u, v.Open) (h : (decodeFrom u bytes).2 = .split) :
    ∃ more, (decodeFrom u (bytes ++ more)).2 = .complete := by
  fun_induction decodeFrom u bytes with
  | case1 => cases h
  | case2 u => exact exists_finish u.after rfl (hu u rfl)
  | case3 b bytes c hb text ending hd ih =>
    rw [hd] at ih
    obtain ⟨more, hmore⟩ := ih (by simp) h
    refine ⟨more, ?_⟩
    rw [List.cons_append, decodeFrom, hb]
    exact hmore
  | case4 b bytes u hb ih =>
    have hopen : ∀ v ∈ some u, v.Open := by
      rintro v ⟨rfl⟩
      exact open_of_lead hb
    obtain ⟨more, hmore⟩ := ih hopen h
    refine ⟨more, ?_⟩
    rw [List.cons_append, decodeFrom, hb]
    exact hmore
  | case5 => cases h
  | case6 u b bytes hb bits ha text ending hd ih =>
    rw [hd] at ih
    obtain ⟨more, hmore⟩ := ih (by simp) h
    refine ⟨more, ?_⟩
    rw [List.cons_append, decodeFrom, if_pos hb, ha]
    exact hmore
  | case7 u b bytes hb bits n ha ih =>
    have hopen : ∀ v ∈ some (⟨bits, 0x80, 0xBF, n⟩ : Unfinished), v.Open := by
      rintro v ⟨rfl⟩
      exact open_tail bits n
    obtain ⟨more, hmore⟩ := ih hopen h
    refine ⟨more, ?_⟩
    rw [List.cons_append, decodeFrom, if_pos hb, ha]
    exact hmore
  | case8 => cases h

/-- Not all bytes are read exactly if they are no text. -/
theorem decode_ne_complete_iff (bytes : List UInt8) :
    (decode bytes).2 ≠ .complete ↔ ∀ text, encode text ≠ bytes := by
  rw [Ne, decode_complete_iff]
  constructor
  · rintro hdiffers text rfl
    apply hdiffers
    rw [decode_encode]
  · intro hnever
    exact hnever _

/-- **Bytes that can not be read are those that no others make a text**, put behind them. -/
theorem decode_invalid_iff (bytes : List UInt8) :
    (decode bytes).2 = .invalid ↔ ∀ more text, encode text ≠ bytes ++ more := by
  constructor
  · intro hinvalid more text htext
    have hsame := decode_invalid_append hinvalid more
    rw [← htext, decode_encode] at hsame
    rw [← hsame] at hinvalid
    cases hinvalid
  · intro hnever
    cases hending : (decode bytes).2 with
    | invalid => rfl
    | complete =>
      have hread := (decode_complete_iff bytes).1 hending
      refine absurd ?_ (hnever [] (decode bytes).1)
      rw [hread, List.append_nil]
    | split =>
      obtain ⟨more, hmore⟩ := exists_finish_of_split (u := none) (by simp) hending
      exact absurd ((decode_complete_iff (bytes ++ more)).1 hmore) (hnever more _)

end Lexis.Text
