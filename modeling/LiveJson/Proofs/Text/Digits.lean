import LiveJson.Text.Numeral

/-!
# Numerals read back

What reading makes of the decimal digits of a number, where `Nat.toDigits` writes them and
`Nat.ofDigitChars` says what digits are worth.

## What is here

* `exists_toDigits_eq_cons` — the first digit, which is zero for no number but zero.
* `le_ofDigitChars` — further digits never make a number smaller, so a number that fits into 64 bits
  at its last digit has fitted at every digit before.
* `readNumeral_toDigits` — a number of 64 bits is read back from its digits; of a larger one nothing is
  read (`eq_of_readNumeral_toDigits`).
-/

set_option autoImplicit false

namespace LiveJson.Text

/-- The digits of a number are digits. -/
theorem isDigit_of_mem_toDigits {n : Nat} {c : Char} (h : c ∈ Nat.toDigits 10 n) :
    c.isDigit = true :=
  Nat.isDigit_of_mem_toDigits (by decide) (by decide) h

/-- No number but zero starts with a zero. -/
theorem exists_toDigits_eq_cons {n : Nat} (hn : 0 < n) :
    ∃ c cs, Nat.toDigits 10 n = c :: cs ∧ c ≠ '0' := by
  induction n using Nat.strongRecOn with
  | ind n ih =>
    rcases Nat.lt_or_ge n 10 with hlt | hge
    · refine ⟨n.digitChar, [], Nat.toDigits_of_lt_base hlt, ?_⟩
      rw [Ne, Nat.digitChar_eq_zero]
      exact Nat.ne_of_gt hn
    · obtain ⟨c, cs, hcs, hc⟩ := ih (n / 10) (by omega) (by omega)
      exact ⟨c, cs ++ [(n % 10).digitChar], by
        rw [Nat.toDigits_of_base_le (by decide) hge, hcs, List.cons_append], hc⟩

/-- Further digits do not make a number smaller. -/
theorem le_ofDigitChars (cs : List Char) (n : Nat) : n ≤ Nat.ofDigitChars 10 cs n := by
  induction cs generalizing n with
  | nil => exact Nat.le_of_eq Nat.ofDigitChars_nil.symm
  | cons c cs ih =>
    rw [Nat.ofDigitChars_cons]
    exact Nat.le_trans (by omega) (ih _)

/-- Digits are read as long as the number fits into 64 bits. -/
theorem readDigits_eq_ok {cs : List Char} (hdigit : ∀ c ∈ cs, c.isDigit = true)
    {n : Fin UInt64.size} (hlt : Nat.ofDigitChars 10 cs n.val < UInt64.size) :
    readDigits n cs = .ok ⟨Nat.ofDigitChars 10 cs n.val, hlt⟩ := by
  induction cs generalizing n with
  | nil => rfl
  | cons c cs ih =>
    rw [Nat.ofDigitChars_cons, Nat.mul_comm] at hlt
    rw [readDigits, if_pos (hdigit c List.mem_cons_self),
      dif_pos (Nat.lt_of_le_of_lt (le_ofDigitChars cs _) hlt),
      ih (fun d hd => hdigit d (List.mem_cons_of_mem c hd)) hlt]
    simp only [Nat.ofDigitChars_cons, Nat.mul_comm]

/-- What is read from digits is what they are worth. -/
theorem ofDigitChars_of_readDigits {cs : List Char} {n m : Fin UInt64.size}
    (h : readDigits n cs = .ok m) : m.val = Nat.ofDigitChars 10 cs n.val := by
  induction cs generalizing n with
  | nil =>
    cases h
    exact Nat.ofDigitChars_nil.symm
  | cons c cs ih =>
    rw [readDigits] at h
    split at h
    · split at h
      · rw [ih h, Nat.ofDigitChars_cons, Nat.mul_comm 10]
      · cases h
    · cases h

/-- There is no sign in front of the digits of a number. -/
theorem readNumeral_ofList_toDigits (i : Nat) :
    readNumeral (String.ofList (Nat.toDigits 10 i)) = readDigits ⟨0, size_pos⟩ (Nat.toDigits 10 i) := by
  have hplus : '+' ∉ Nat.toDigits 10 i := fun hmem =>
    absurd (isDigit_of_mem_toDigits hmem) (by decide)
  rw [readNumeral, String.toList_ofList]
  split
  · next hnil => exact absurd hnil Nat.toDigits_ne_nil
  · next hcs => exact absurd (hcs ▸ List.mem_cons_self) hplus
  · next hcs => exact absurd (hcs ▸ List.mem_cons_self) hplus
  · rfl

/-- **A number of 64 bits is read back from its digits.** -/
theorem readNumeral_toDigits {i : Nat} (h : i < UInt64.size) :
    readNumeral (String.ofList (Nat.toDigits 10 i)) = .ok ⟨i, h⟩ := by
  rw [readNumeral_ofList_toDigits, readDigits_eq_ok (fun c hc => isDigit_of_mem_toDigits hc)
    (by rw [Nat.ofDigitChars_ten_toDigits]; exact h)]
  simp only [Nat.ofDigitChars_ten_toDigits]

/-- What is read from the digits of a number, if anything, is the number. -/
theorem eq_of_readNumeral_toDigits {i : Nat} {j : Fin UInt64.size}
    (h : readNumeral (String.ofList (Nat.toDigits 10 i)) = .ok j) : j.val = i := by
  rw [readNumeral_ofList_toDigits] at h
  rw [ofDigitChars_of_readDigits h, Nat.ofDigitChars_ten_toDigits]

end LiveJson.Text
