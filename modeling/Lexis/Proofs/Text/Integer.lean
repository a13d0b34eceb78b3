import Lexis.Text.Integer

/-!
# Integers in decimal

An integer of 64 bits is read back from its decimal form, which has twenty characters at most: the
digits, of which there is at least one, and a sign before them if it is negative.

Principal results:

* `decimal_eq` — the form;
* `integer?_decimal` — reading it back;
* `length_decimal_le` — how long it is.
-/

namespace Lexis.Text

/-- The decimal form of an integer. -/
def decimal (n : Int) : List Char := (toString n).toList

/-- The decimal form is a natural number's digits, behind a sign if the integer is negative. -/
theorem decimal_eq (n : Int) :
    decimal n = (if n < 0 then ['-'] else []) ++ Nat.toDigits 10 n.natAbs := by
  unfold decimal
  rw [Int.toString_eq_repr, Int.repr_eq_if]
  by_cases hn : n < 0
  · have habs : (-n).toNat = n.natAbs := by omega
    rw [if_neg (by omega), if_pos hn, String.toList_append, Nat.toList_repr, habs]
    rfl
  · have habs : n.toNat = n.natAbs := by omega
    rw [if_pos (by omega), if_neg hn, Nat.toList_repr, habs, List.nil_append]

theorem digitValue?_of_isDigit {c : Char} (h : c.isDigit = true) :
    digitValue? c = some (c.toNat - '0'.toNat) := by
  have hrange : '0' ≤ c ∧ c ≤ '9' := by
    simp only [Char.isDigit, Bool.and_eq_true, decide_eq_true_eq] at h
    exact h
  unfold digitValue?
  rw [if_pos hrange]

theorem digitsFrom?_eq {cs : List Char} (h : ∀ c ∈ cs, c.isDigit = true) (value : Nat) :
    digitsFrom? value cs = some (Nat.ofDigitChars 10 cs value) := by
  induction cs generalizing value with
  | nil => rfl
  | cons c cs ih =>
    have hc := digitValue?_of_isDigit (h c List.mem_cons_self)
    have hcs : ∀ d ∈ cs, d.isDigit = true := fun d hd => h d (List.mem_cons_of_mem _ hd)
    rw [digitsFrom?, hc, Nat.ofDigitChars_cons, Nat.mul_comm 10 value]
    exact ih hcs _

theorem isDigit_of_mem_toDigits {n : Nat} {c : Char} (h : c ∈ Nat.toDigits 10 n) :
    c.isDigit = true :=
  Nat.isDigit_of_mem_toDigits (by decide) (by decide) h

theorem toDigits_eq_cons (n : Nat) : ∃ d ds, Nat.toDigits 10 n = d :: ds ∧ d.isDigit = true := by
  cases hform : Nat.toDigits 10 n with
  | nil => exact absurd hform Nat.toDigits_ne_nil
  | cons d ds =>
    exact ⟨d, ds, rfl, isDigit_of_mem_toDigits (n := n) (by simp [hform])⟩

theorem natural?_toDigits (n : Nat) : natural? (Nat.toDigits 10 n) = some n := by
  have hvalue := digitsFrom?_eq (fun c => isDigit_of_mem_toDigits (n := n)) 0
  rw [Nat.ofDigitChars_toDigits (by decide) (by decide)] at hvalue
  obtain ⟨d, ds, hform, -⟩ := toDigits_eq_cons n
  rw [hform] at hvalue ⊢
  exact hvalue

/-- **A number of 64 bits is read back** from its decimal form. -/
theorem integer?_decimal {n : Int} (hmin : integerMin ≤ n) (hmax : n ≤ integerMax) :
    integer? (decimal n) = some n := by
  have hrange : inRange? n = some n := if_pos ⟨hmin, hmax⟩
  have hdigits := natural?_toDigits n.natAbs
  rw [decimal_eq]
  by_cases hn : n < 0
  · have habs : -(n.natAbs : Int) = n := by omega
    rw [if_pos hn, List.singleton_append, integer?, hdigits, Option.bind_some, habs, hrange]
  · have habs : (n.natAbs : Int) = n := by omega
    rw [if_neg hn, List.nil_append]
    obtain ⟨d, ds, hform, hd⟩ := toDigits_eq_cons n.natAbs
    -- the first character is a digit, so that it is no sign
    have hplus : d ≠ '+' := by
      rintro rfl
      cases hd
    have hminus : d ≠ '-' := by
      rintro rfl
      cases hd
    rw [hform] at hdigits ⊢
    rw [integer?.eq_def]
    simp [hplus, hminus, hdigits, habs, hrange]

/-- The decimal form of a number of 64 bits has twenty characters at most. -/
theorem length_decimal_le {n : Int} (hmin : integerMin ≤ n) (hmax : n ≤ integerMax) :
    (decimal n).length ≤ 20 := by
  have hdigits : (Nat.toDigits 10 n.natAbs).length ≤ 19 := by
    rw [Nat.length_toDigits_le_iff (by decide) (by decide)]
    unfold integerMin at hmin
    unfold integerMax at hmax
    omega
  rw [decimal_eq, List.length_append]
  split <;> simp <;> omega

end Lexis.Text
