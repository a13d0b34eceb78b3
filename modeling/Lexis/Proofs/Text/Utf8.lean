import Lexis.Text.Utf8

/-!
# Decoding reads the longest text

`encode` fixes which bytes are text. `Spells` gives the bytes of one character by the digits of its
number to the base 64: `encode` writes exactly these spellings (`Spells.eq_encodeChar`,
`spells_encodeChar`), and `decode` takes exactly these in (`Spells.decode_append`,
`exists_spells_of_decode`). The rest is induction over characters.

Principal results:

* `decode_encode_append` — a text in front of bytes is read, and then the bytes are;
* `exists_rest` — what is read is in front of the bytes, and nothing can be read behind it;
* `decode_mono` — more bytes never change what is read of the first ones;
* `decode_invalid_append` — bytes that are no text stay so, whatever follows;
* `isLongestText_iff` — what is read is the longest text in front of the bytes.
-/

namespace Lexis.Text

/-! ## Encoding -/

@[simp] theorem encode_nil : encode [] = [] := rfl

@[simp] theorem encode_cons (c : Char) (cs : List Char) :
    encode (c :: cs) = String.utf8EncodeChar c ++ encode cs := rfl

@[simp] theorem encode_append (as bs : List Char) :
    encode (as ++ bs) = encode as ++ encode bs := by
  simp [encode]

@[simp] theorem length_encode (cs : List Char) : (encode cs).length = byteLength cs := by
  induction cs with
  | nil => rfl
  | cons c cs ih => simp [ih]

theorem encode_isPrefix {as bs : List Char} (h : as <+: bs) : encode as <+: encode bs := by
  obtain ⟨more, rfl⟩ := h
  rw [encode_append]
  exact List.prefix_append _ _

theorem drop_encode {text done rest : List Char} (htext : text = done ++ rest) :
    (encode text).drop (byteLength done) = encode rest := by
  rw [htext, encode_append, ← length_encode, List.drop_left]

theorem encode_append_isPrefix {as cs : List Char} {bytes : List UInt8} (has : encode as <+: bytes)
    (hcs : encode cs <+: bytes.drop (byteLength as)) : encode (as ++ cs) <+: bytes := by
  obtain ⟨rest, rfl⟩ := has
  rw [← length_encode, List.drop_left] at hcs
  rw [encode_append]
  exact (List.prefix_append_right_inj _).2 hcs

theorem byteLength_eq_zero {cs : List Char} (h : byteLength cs = 0) : cs = [] := by
  cases cs with
  | nil => rfl
  | cons c cs =>
    have := c.utf8Size_pos
    rw [byteLength_cons] at h
    omega

theorem length_le_byteLength (cs : List Char) : cs.length ≤ byteLength cs := by
  induction cs with
  | nil => exact Nat.le_refl _
  | cons c cs ih =>
    have := c.utf8Size_pos
    rw [List.length_cons, byteLength_cons]
    omega

/-! ## Measures of texts -/

section Measures

variable {f : List Char → Nat} {as bs : List Char}

/-- By a measure that adds up, a part of a text is no more than the text. -/
theorem measure_le_of_sublist (hadd : ∀ cs ds, f (cs ++ ds) = f cs + f ds) (h : as.Sublist bs) :
    f as ≤ f bs := by
  have hcons : ∀ c cs, f (c :: cs) = f [c] + f cs := fun c => hadd [c]
  induction h with
  | slnil => exact Nat.le_refl _
  | cons c _ ih =>
    rw [hcons]
    omega
  | @cons_cons as bs c _ ih =>
    rw [hcons c as, hcons c bs]
    omega

/-- A part of a text that is as much as the text is all of it, if only the empty text is nothing. -/
theorem eq_of_sublist_of_measure_le (hadd : ∀ cs ds, f (cs ++ ds) = f cs + f ds)
    (hzero : ∀ cs, f cs = 0 → cs = []) (h : as.Sublist bs) (hle : f bs ≤ f as) : as = bs := by
  have hcons : ∀ c cs, f (c :: cs) = f [c] + f cs := fun c => hadd [c]
  induction h with
  | slnil => rfl
  | cons c hsub _ =>
    have hpart := measure_le_of_sublist hadd hsub
    rw [hcons] at hle
    cases hzero [c] (by omega)
  | @cons_cons as bs c _ ih =>
    rw [hcons c as, hcons c bs] at hle
    rw [ih (by omega)]

end Measures

/-! ## Spellings -/

theorem val_ofNat {n : Nat} (h : n.isValidChar) : (Char.ofNat n).val.toNat = n := by
  rw [Char.ofNat, dif_pos h]
  rfl

/-- How a character is spelled in bytes, by the digits of its number to the base 64. -/
inductive Spells : Char → List UInt8 → Prop where
  | one {x : Nat} : x < 0x80 → Spells (Char.ofNat x) [UInt8.ofNat x]
  | two {x y : Nat} : 2 ≤ x → x < 32 → y < 64 →
      Spells (Char.ofNat (x * 64 + y)) [UInt8.ofNat (x + 0xC0), UInt8.ofNat (y + 0x80)]
  | three {x y z : Nat} : x < 16 → y < 64 → z < 64 → (x = 0 → 32 ≤ y) → (x = 13 → y < 32) →
      Spells (Char.ofNat ((x * 64 + y) * 64 + z))
        [UInt8.ofNat (x + 0xE0), UInt8.ofNat (y + 0x80), UInt8.ofNat (z + 0x80)]
  | four {x y z w : Nat} : x ≤ 4 → y < 64 → z < 64 → w < 64 → (x = 0 → 16 ≤ y) → (x = 4 → y < 16) →
      Spells (Char.ofNat (((x * 64 + y) * 64 + z) * 64 + w))
        [UInt8.ofNat (x + 0xF0), UInt8.ofNat (y + 0x80), UInt8.ofNat (z + 0x80),
          UInt8.ofNat (w + 0x80)]

theorem Spells.eq_encodeChar {c : Char} {l : List UInt8} (h : Spells c l) :
    String.utf8EncodeChar c = l := by
  cases h with
  | @one x hx =>
    have hv := val_ofNat (n := x) (Or.inl (by omega))
    simp only [String.utf8EncodeChar, hv]
    rw [if_pos (by omega)]
  | @two x y hx hx' hy =>
    have hv := val_ofNat (n := x * 64 + y) (Or.inl (by omega))
    simp only [String.utf8EncodeChar, hv]
    rw [if_neg (by omega), if_pos (by omega), show (x * 64 + y) / 64 % 0x20 = x by omega,
      show (x * 64 + y) % 0x40 = y by omega]
  | @three x y z hx hy hz h0 h13 =>
    have hv := val_ofNat (n := (x * 64 + y) * 64 + z) (by unfold Nat.isValidChar; omega)
    simp only [String.utf8EncodeChar, hv]
    rw [if_neg (by omega), if_neg (by omega), if_pos (by omega),
      show ((x * 64 + y) * 64 + z) / 4096 % 0x10 = x by omega,
      show ((x * 64 + y) * 64 + z) / 64 % 0x40 = y by omega,
      show ((x * 64 + y) * 64 + z) % 0x40 = z by omega]
  | @four x y z w hx hy hz hw h0 h4 =>
    have hv := val_ofNat (n := ((x * 64 + y) * 64 + z) * 64 + w) (by unfold Nat.isValidChar; omega)
    simp only [String.utf8EncodeChar, hv]
    rw [if_neg (by omega), if_neg (by omega), if_neg (by omega),
      show (((x * 64 + y) * 64 + z) * 64 + w) / 262144 % 0x08 = x by omega,
      show (((x * 64 + y) * 64 + z) * 64 + w) / 4096 % 0x40 = y by omega,
      show (((x * 64 + y) * 64 + z) * 64 + w) / 64 % 0x40 = z by omega,
      show (((x * 64 + y) * 64 + z) * 64 + w) % 0x40 = w by omega]

/-- Every character has a spelling. -/
theorem spells_encodeChar (c : Char) : Spells c (String.utf8EncodeChar c) := by
  obtain ⟨l, h⟩ : ∃ l, Spells c l := by
    have hv : c.val.toNat.isValidChar := c.valid
    have hc : c = Char.ofNat c.val.toNat := (Char.ofNat_toNat c).symm
    generalize c.val.toNat = v at hc hv
    unfold Nat.isValidChar at hv
    subst hc
    by_cases h1 : v < 0x80
    · exact ⟨_, .one h1⟩
    by_cases h2 : v < 0x800
    · rw [show v = v / 64 * 64 + v % 64 by omega]
      exact ⟨_, .two (by omega) (by omega) (by omega)⟩
    by_cases h3 : v < 0x10000
    · rw [show v = (v / 4096 * 64 + v / 64 % 64) * 64 + v % 64 by omega]
      exact ⟨_, .three (by omega) (by omega) (by omega) (by omega) (by omega)⟩
    · rw [show v = ((v / 262144 * 64 + v / 4096 % 64) * 64 + v / 64 % 64) * 64 + v % 64 by omega]
      exact ⟨_, .four (by omega) (by omega) (by omega) (by omega) (by omega) (by omega)⟩
  exact h.eq_encodeChar ▸ h

/-! ## First bytes -/

/-- The class of a byte that opens a character. -/
inductive Opens : UInt8 → Unfinished → Prop where
  | two {x : Nat} : 2 ≤ x → x < 32 → Opens (UInt8.ofNat (x + 0xC0)) ⟨x, 0x80, 0xBF, 0⟩
  | three {x : Nat} : x < 16 → Opens (UInt8.ofNat (x + 0xE0))
      ⟨x, if x = 0 then 0xA0 else 0x80, if x = 13 then 0x9F else 0xBF, 1⟩
  | four {x : Nat} : x ≤ 4 → Opens (UInt8.ofNat (x + 0xF0))
      ⟨x, if x = 0 then 0x90 else 0x80, if x = 4 then 0x8F else 0xBF, 2⟩

theorem lead_one : ∀ x < 0x80, lead (UInt8.ofNat x) = .whole (Char.ofNat x) := by decide

theorem lead_two : ∀ x < 32, 2 ≤ x →
    lead (UInt8.ofNat (x + 0xC0)) = .opens ⟨x, 0x80, 0xBF, 0⟩ := by decide

theorem lead_three : ∀ x < 16, lead (UInt8.ofNat (x + 0xE0)) =
    .opens ⟨x, if x = 0 then 0xA0 else 0x80, if x = 13 then 0x9F else 0xBF, 1⟩ := by decide

theorem lead_four : ∀ x ≤ 4, lead (UInt8.ofNat (x + 0xF0)) =
    .opens ⟨x, if x = 0 then 0x90 else 0x80, if x = 4 then 0x8F else 0xBF, 2⟩ := by decide

/-! ## Reading one character -/

theorem toNat_tail {y : Nat} (h : y < 64) : (UInt8.ofNat (y + 0x80)).toNat = y + 0x80 := by
  simp
  omega

theorem exists_tail {b : UInt8} (h1 : 0x80 ≤ b.toNat) (h2 : b.toNat ≤ 0xBF) :
    ∃ y < 64, b = UInt8.ofNat (y + 0x80) := by
  refine ⟨b.toNat - 0x80, by omega, ?_⟩
  rw [show b.toNat - 0x80 + 0x80 = b.toNat by omega, UInt8.ofNat_toNat]

theorem decodeFrom_last {u : Unfinished} {y : Nat} (ha : u.after = 0) (hy : y < 64)
    (hl : u.low ≤ y + 0x80) (hh : y + 0x80 ≤ u.high) (bs : List UInt8) :
    decodeFrom (some u) (UInt8.ofNat (y + 0x80) :: bs) =
      (Char.ofNat (u.bits * 64 + y) :: (decode bs).1, (decode bs).2) := by
  rw [decodeFrom, toNat_tail hy, if_pos ⟨hl, hh⟩, ha, show (y + 0x80) % 64 = y by omega]
  rfl

theorem decodeFrom_more {u : Unfinished} {y n : Nat} (ha : u.after = n + 1) (hy : y < 64)
    (hl : u.low ≤ y + 0x80) (hh : y + 0x80 ≤ u.high) (bs : List UInt8) :
    decodeFrom (some u) (UInt8.ofNat (y + 0x80) :: bs) =
      decodeFrom (some ⟨u.bits * 64 + y, 0x80, 0xBF, n⟩) bs := by
  rw [decodeFrom, toNat_tail hy, if_pos ⟨hl, hh⟩, ha, show (y + 0x80) % 64 = y by omega]

theorem decode_whole {b : UInt8} {c : Char} (h : lead b = .whole c) (bs : List UInt8) :
    decode (b :: bs) = (c :: (decode bs).1, (decode bs).2) := by
  unfold decode
  rw [decodeFrom, h]

theorem decode_opens {b : UInt8} {u : Unfinished} (h : lead b = .opens u) (bs : List UInt8) :
    decode (b :: bs) = decodeFrom (some u) bs := by
  unfold decode
  rw [decodeFrom, h]

/-- A spelled character is read. -/
theorem Spells.decode_append {c : Char} {l : List UInt8} (h : Spells c l) (bs : List UInt8) :
    decode (l ++ bs) = (c :: (decode bs).1, (decode bs).2) := by
  cases h with
  | one hx => exact decode_whole (lead_one _ hx) bs
  | two hx hx' hy =>
    simp only [List.cons_append, List.nil_append]
    rw [decode_opens (lead_two _ hx' hx)]
    exact decodeFrom_last rfl hy (Nat.le_add_left _ _) (by show _ ≤ 0xBF; omega) bs
  | three hx hy hz h0 h13 =>
    simp only [List.cons_append, List.nil_append]
    rw [decode_opens (lead_three _ hx), decodeFrom_more (n := 0) rfl hy
      (by dsimp only; split <;> omega) (by dsimp only; split <;> omega)]
    exact decodeFrom_last rfl hz (Nat.le_add_left _ _) (by show _ ≤ 0xBF; omega) bs
  | four hx hy hz hw h0 h4 =>
    simp only [List.cons_append, List.nil_append]
    rw [decode_opens (lead_four _ hx), decodeFrom_more (n := 1) rfl hy
      (by dsimp only; split <;> omega) (by dsimp only; split <;> omega),
      decodeFrom_more (n := 0) rfl hz (Nat.le_add_left _ _) (by show _ ≤ 0xBF; omega)]
    exact decodeFrom_last rfl hw (Nat.le_add_left _ _) (by show _ ≤ 0xBF; omega) bs

theorem eq_ofNat_of_toNat {b : UInt8} {n : Nat} (h : b.toNat = n) : b = UInt8.ofNat n := by
  rw [← h, UInt8.ofNat_toNat]

/-- A byte that opens a character is of one of the three classes. -/
theorem opens_of_lead {b : UInt8} {u : Unfinished} (h : lead b = .opens u) : Opens b u := by
  unfold lead at h
  extract_lets n at h
  split at h
  · cases h
  split at h
  · cases h
  split at h
  · injection h with h
    have hb : b = UInt8.ofNat (n - 0xC0 + 0xC0) := eq_ofNat_of_toNat (by omega)
    rw [← h, hb]
    exact .two (by omega) (by omega)
  have three : ∀ x low high, n = x + 0xE0 → x < 16 → low = (if x = 0 then 0xA0 else 0x80) →
      high = (if x = 13 then 0x9F else 0xBF) → Opens b ⟨x, low, high, 1⟩ := by
    rintro x _ _ hn hx rfl rfl
    rw [eq_ofNat_of_toNat hn]
    exact .three hx
  have four : ∀ x low high, n = x + 0xF0 → x ≤ 4 → low = (if x = 0 then 0x90 else 0x80) →
      high = (if x = 4 then 0x8F else 0xBF) → Opens b ⟨x, low, high, 2⟩ := by
    rintro x _ _ hn hx rfl rfl
    rw [eq_ofNat_of_toNat hn]
    exact .four hx
  split at h
  · injection h with h
    subst h
    exact three _ _ _ (by omega) (by omega) rfl rfl
  split at h
  · injection h with h
    subst h
    exact three _ _ _ (by omega) (by omega) rfl rfl
  split at h
  · injection h with h
    subst h
    exact three _ _ _ (by omega) (by omega) (by rw [if_neg (by omega)]) (by rw [if_neg (by omega)])
  split at h
  · injection h with h
    subst h
    exact four _ _ _ (by omega) (by omega) rfl rfl
  split at h
  · injection h with h
    subst h
    exact four _ _ _ (by omega) (by omega) (by rw [if_neg (by omega)]) (by rw [if_neg (by omega)])
  split at h
  · injection h with h
    subst h
    exact four _ _ _ (by omega) (by omega) rfl rfl
  · cases h

theorem spells_of_whole {b : UInt8} {c : Char} (h : lead b = .whole c) : Spells c [b] := by
  unfold lead at h
  extract_lets n at h
  split at h
  · injection h with h
    rw [← h, eq_ofNat_of_toNat (n := n) rfl]
    exact .one (by assumption)
  · repeat' split at h
    all_goals cases h

/-- A character that is read on ends only behind another byte of it. -/
theorem exists_tail_of_decodeFrom {u : Unfinished} {bs : List UInt8} {c : Char} {cs : List Char}
    {e : Ending} (h : decodeFrom (some u) bs = (c :: cs, e)) (hl : 0x80 ≤ u.low)
    (hh : u.high ≤ 0xBF) :
    ∃ y rest, bs = UInt8.ofNat (y + 0x80) :: rest ∧ y < 64 ∧ u.low ≤ y + 0x80 ∧
      y + 0x80 ≤ u.high := by
  cases bs with
  | nil => cases h
  | cons b rest =>
    by_cases hb : u.low ≤ b.toNat ∧ b.toNat ≤ u.high
    · obtain ⟨y, hy, rfl⟩ := exists_tail (b := b) (by omega) (by omega)
      rw [toNat_tail hy] at hb
      exact ⟨y, rest, rfl, hy, hb⟩
    · rw [decodeFrom, if_neg hb] at h
      cases h

/-- A character that is read is spelled by the bytes in front. -/
theorem exists_spells_of_decode {bs : List UInt8} {c : Char} {cs : List Char} {e : Ending}
    (h : decode bs = (c :: cs, e)) :
    ∃ l rest, bs = l ++ rest ∧ Spells c l ∧ decode rest = (cs, e) := by
  cases bs with
  | nil => cases h
  | cons b bs =>
    cases hb : lead b with
    | whole d =>
      rw [decode_whole hb] at h
      cases h
      exact ⟨[b], bs, rfl, spells_of_whole hb, rfl⟩
    | stray =>
      unfold decode at h
      rw [decodeFrom, hb] at h
      cases h
    | opens u =>
      rw [decode_opens hb] at h
      cases opens_of_lead hb with
      | two hx hx' =>
        obtain ⟨y, r, rfl, hy, h1, h2⟩ :=
          exists_tail_of_decodeFrom h (Nat.le_refl _) (Nat.le_refl _)
        rw [decodeFrom_last rfl hy h1 h2] at h
        cases h
        exact ⟨_, r, rfl, .two hx hx' hy, rfl⟩
      | three hx =>
        obtain ⟨y, r, rfl, hy, h1, h2⟩ :=
          exists_tail_of_decodeFrom h (by dsimp only; split <;> omega)
            (by dsimp only; split <;> omega)
        rw [decodeFrom_more (n := 0) rfl hy h1 h2] at h
        obtain ⟨z, r, rfl, hz, h3, h4⟩ :=
          exists_tail_of_decodeFrom h (Nat.le_refl _) (Nat.le_refl _)
        rw [decodeFrom_last rfl hz h3 h4] at h
        cases h
        dsimp only at h1 h2
        exact ⟨_, r, rfl, .three hx hy hz (by grind) (by grind), rfl⟩
      | four hx =>
        obtain ⟨y, r, rfl, hy, h1, h2⟩ :=
          exists_tail_of_decodeFrom h (by dsimp only; split <;> omega)
            (by dsimp only; split <;> omega)
        rw [decodeFrom_more (n := 1) rfl hy h1 h2] at h
        obtain ⟨z, r, rfl, hz, h3, h4⟩ :=
          exists_tail_of_decodeFrom h (Nat.le_refl _) (Nat.le_refl _)
        rw [decodeFrom_more (n := 0) rfl hz h3 h4] at h
        obtain ⟨w, r, rfl, hw, h5, h6⟩ :=
          exists_tail_of_decodeFrom h (Nat.le_refl _) (Nat.le_refl _)
        rw [decodeFrom_last rfl hw h5 h6] at h
        cases h
        dsimp only at h1 h2
        exact ⟨_, r, rfl, .four hx hy hz hw (by grind) (by grind), rfl⟩

/-! ## Texts -/

@[simp] theorem decode_nil : decode [] = ([], .complete) := rfl

/-- **A text in front of bytes is read, and then the bytes are.** -/
theorem decode_encode_append (cs : List Char) (bs : List UInt8) :
    decode (encode cs ++ bs) = (cs ++ (decode bs).1, (decode bs).2) := by
  induction cs with
  | nil => rfl
  | cons c cs ih =>
    rw [encode_cons, List.append_assoc, (spells_encodeChar c).decode_append, ih]
    rfl

theorem decode_encode (cs : List Char) : decode (encode cs) = (cs, .complete) := by
  have h := decode_encode_append cs []
  simpa using h

/-- **What is read is in front of the bytes, and nothing can be read behind it.** -/
theorem exists_rest (bs : List UInt8) :
    ∃ rest, bs = encode (decode bs).1 ++ rest ∧ decode rest = ([], (decode bs).2) := by
  obtain ⟨cs, e, h⟩ : ∃ cs e, decode bs = (cs, e) := ⟨_, _, rfl⟩
  rw [h]
  induction cs generalizing bs with
  | nil => exact ⟨bs, rfl, h⟩
  | cons c cs ih =>
    obtain ⟨l, bs, rfl, hl, hbs⟩ := exists_spells_of_decode h
    obtain ⟨rest, hrest, hend⟩ := ih bs hbs
    exact ⟨rest, by simp [hl.eq_encodeChar, ← hrest], hend⟩

theorem encode_decode_isPrefix (bs : List UInt8) : encode (decode bs).1 <+: bs := by
  obtain ⟨rest, h, -⟩ := exists_rest bs
  exact ⟨rest, h.symm⟩

/-- **More bytes never change what is read of the first ones.** -/
theorem decode_mono {as bs : List UInt8} (h : as <+: bs) : (decode as).1 <+: (decode bs).1 := by
  obtain ⟨rest, has, -⟩ := exists_rest as
  obtain ⟨more, rfl⟩ := h
  generalize (decode as).1 = cs at has ⊢
  subst has
  rw [List.append_assoc, decode_encode_append]
  exact List.prefix_append _ _

theorem isPrefix_decode {cs : List Char} {bs : List UInt8} (h : encode cs <+: bs) :
    cs <+: (decode bs).1 := by
  have := decode_mono h
  rwa [decode_encode] at this

theorem decodeFrom_invalid_append (u : Option Unfinished) (as bs : List UInt8)
    (h : (decodeFrom u as).2 = .invalid) : decodeFrom u (as ++ bs) = decodeFrom u as := by
  fun_induction decodeFrom u as with
  | case1 => cases h
  | case2 => cases h
  | case3 b as c hb text ending hd ih =>
    rw [hd] at ih
    rw [List.cons_append, decodeFrom, hb]
    simp only [ih h]
  | case4 b as u hb ih =>
    rw [List.cons_append, decodeFrom, hb]
    exact ih h
  | case5 b as hb =>
    rw [List.cons_append, decodeFrom, hb]
  | case6 u b as hb bits ha text ending hd ih =>
    rw [hd] at ih
    rw [List.cons_append, decodeFrom, if_pos hb, ha]
    simp only [ih h]
    rfl
  | case7 u b as hb bits n ha ih =>
    rw [List.cons_append, decodeFrom, if_pos hb, ha]
    exact ih h
  | case8 u b as hb => rw [List.cons_append, decodeFrom, if_neg hb]

/-- **Bytes that are no text stay so, whatever follows.** -/
theorem decode_invalid_append {as : List UInt8} (h : (decode as).2 = .invalid) (bs : List UInt8) :
    decode (as ++ bs) = decode as :=
  decodeFrom_invalid_append none as bs h

theorem decodeFrom_nil_complete {u : Option Unfinished} {bs : List UInt8}
    (h : decodeFrom u bs = ([], .complete)) : bs = [] := by
  fun_induction decodeFrom u bs with
  | case1 => rfl
  | case2 => cases h
  | case3 => cases h
  | case4 b bs u hb ih =>
    cases ih h
    cases h
  | case5 => cases h
  | case6 => cases h
  | case7 u b bs hb bits n ha ih =>
    cases ih h
    cases h
  | case8 => cases h

theorem decode_complete_iff (bs : List UInt8) :
    (decode bs).2 = .complete ↔ encode (decode bs).1 = bs := by
  constructor
  · intro h
    obtain ⟨rest, hbs, hrest⟩ := exists_rest bs
    rw [h] at hrest
    rw [decodeFrom_nil_complete hrest, List.append_nil] at hbs
    exact hbs.symm
  · intro h
    rw [← h, decode_encode]

/-- A text is the longest one in front of bytes. -/
def IsLongestText (bs : List UInt8) (cs : List Char) : Prop :=
  encode cs <+: bs ∧ ∀ ds, encode ds <+: bs → byteLength ds ≤ byteLength cs

/-- **What is read is the longest text in front of the bytes.** -/
theorem isLongestText_iff (bs : List UInt8) (cs : List Char) :
    IsLongestText bs cs ↔ cs = (decode bs).1 := by
  constructor
  · rintro ⟨hcs, hmax⟩
    obtain ⟨more, hmore⟩ := isPrefix_decode hcs
    have h := hmax _ (encode_decode_isPrefix bs)
    rw [← hmore, byteLength_append] at h
    rw [← hmore, byteLength_eq_zero (show byteLength more = 0 by omega), List.append_nil]
  · rintro rfl
    refine ⟨encode_decode_isPrefix bs, fun ds hds => ?_⟩
    exact measure_le_of_sublist byteLength_append (isPrefix_decode hds).sublist

end Lexis.Text
