import Mathlib.Algebra.Group.Nat.Defs
import Mathlib.Data.List.Basic
import Failover.Data.Numeral
import Failover.Number.Fixed

-- Decimal digits, as the writers of numbers put them down and the readers take
-- them up again.

namespace Failover

/-- The characters are decimal digits of the number. Zeros may stand in front. -/
structure Spells (cs : List Char) (n : Nat) : Prop where
  nonempty : cs ≠ []
  digits : ∀ c ∈ cs, c.isDigit = true
  value : Nat.ofDigitChars 10 cs 0 = n

/-- No digit comes next. -/
def NoDigit (rest : List Char) : Prop := ∀ c ∈ rest.head?, c.isDigit = false

theorem noDigit_cons {c : Char} (h : c.isDigit = false) (rest : List Char) : NoDigit (c :: rest) := by
  intro d hd
  cases hd
  exact h

/-! ## Writing -/

theorem toList_toString (n : Nat) : (toString n).toList = Nat.toDigits 10 n := by
  rw [Nat.toString_eq_ofList_toDigits, String.toList_ofList]

theorem spells_toDigits (n : Nat) : Spells (Nat.toDigits 10 n) n where
  nonempty := Nat.toDigits_ne_nil
  digits := fun _ hc => Nat.isDigit_of_mem_toDigits (by omega) (by omega) hc
  value := Nat.ofDigitChars_ten_toDigits

theorem Spells.zeros {cs : List Char} {n : Nat} (h : Spells cs n) (k : Nat) :
    Spells (List.replicate k '0' ++ cs) n where
  nonempty := fun hnil => h.nonempty (List.append_eq_nil_iff.mp hnil).2
  digits := by
    intro c hc
    rcases List.mem_append.mp hc with hc | hc
    · rw [List.eq_of_mem_replicate hc]
      rfl
    · exact h.digits c hc
  value := by
    rw [Nat.ofDigitChars_append, Nat.ofDigitChars_replicate_zero, Nat.mul_zero]
    exact h.value

theorem toList_padded (width n : Nat) :
    (Fixed.padded width n).toList =
      List.replicate (width - (Nat.toDigits 10 n).length) '0' ++ Nat.toDigits 10 n := by
  unfold Fixed.padded
  rw [String.toList_append, String.toList_ofList, toList_toString, ← String.length_toList,
    toList_toString]

theorem spells_padded (width n : Nat) : Spells (Fixed.padded width n).toList n := by
  rw [toList_padded]
  exact (spells_toDigits n).zeros _

theorem length_padded {width n : Nat} (hwidth : 0 < width) (h : n < 10 ^ width) :
    (Fixed.padded width n).toList.length = width := by
  have hfits : (Nat.toDigits 10 n).length ≤ width :=
    (Nat.length_toDigits_le_iff (by omega) hwidth).mpr h
  rw [toList_padded, List.length_append, List.length_replicate]
  omega

/-- A number of more than one digit does not begin with a zero. -/
theorem head_toDigits {n : Nat} (h : 0 < n) : (Nat.toDigits 10 n).head? ≠ some '0' := by
  induction n using Nat.strongRecOn with
  | ind n ih =>
    by_cases hone : n < 10
    · rw [Nat.toDigits_of_lt_base hone]
      intro hzero
      rw [List.head?_cons, Option.some.injEq, Nat.digitChar_eq_zero] at hzero
      omega
    · rw [Nat.toDigits_of_base_le (by omega) (by omega), List.head?_append_of_ne_nil _ Nat.toDigits_ne_nil]
      exact ih (n / 10) (by omega) (by omega)

/-! ## Reading -/

theorem NoDigit.takeWhile {rest : List Char} (h : NoDigit rest) : rest.takeWhile Char.isDigit = [] := by
  cases rest with
  | nil => rfl
  | cons c rest => simp [h c rfl]

theorem NoDigit.dropWhile {rest : List Char} (h : NoDigit rest) : rest.dropWhile Char.isDigit = rest := by
  cases rest with
  | nil => rfl
  | cons c rest => simp [h c rfl]

theorem takeWhile_digits {cs rest : List Char} (hcs : ∀ c ∈ cs, c.isDigit = true)
    (hrest : NoDigit rest) : (cs ++ rest).takeWhile Char.isDigit = cs := by
  rw [List.takeWhile_append_of_pos hcs, hrest.takeWhile, List.append_nil]

theorem dropWhile_digits {cs rest : List Char} (hcs : ∀ c ∈ cs, c.isDigit = true)
    (hrest : NoDigit rest) : (cs ++ rest).dropWhile Char.isDigit = rest := by
  rw [List.dropWhile_append_of_pos hcs, hrest.dropWhile]

theorem NoDigit.take {rest : List Char} (h : NoDigit rest) (k : Nat) : NoDigit (rest.take k) := by
  intro c hc
  cases k with
  | zero => cases hc
  | succ k =>
    cases rest with
    | nil => cases hc
    | cons d rest => exact h c hc

/-- A reader that looks at so many characters takes all digits, and nothing else. -/
theorem takeWhile_take_digits {cs rest : List Char} {most : Nat}
    (hcs : ∀ c ∈ cs, c.isDigit = true) (hmost : cs.length ≤ most) (hrest : NoDigit rest) :
    ((cs ++ rest).take most).takeWhile Char.isDigit = cs := by
  rw [List.take_append, List.take_of_length_le hmost]
  exact takeWhile_digits hcs (hrest.take _)

theorem foldl_digits (cs : List Char) :
    cs.foldl (fun n c => n * 10 + (c.toNat - '0'.toNat)) 0 = Nat.ofDigitChars 10 cs 0 := by
  rw [Nat.ofDigitChars_eq_foldl]
  congr 1
  funext n c
  rw [Nat.mul_comm]

theorem natOf_digits (cs : List Char) : Numeral.natOf cs = Nat.ofDigitChars 10 cs 0 :=
  foldl_digits cs

end Failover
