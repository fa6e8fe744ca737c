import InstallManifest.Proofs.Text.Numeral
import InstallManifest.Yaml.Plain

/-!
# Plain integers

An integer is written in decimal. Its text is not taken for anything else: it has no sign or mark in
front of its digits that would change the radix, and no zero that would make it a text. So a reader
of integers finds the integer itself (`Plain.integer?_signedDecimal`), and as there is one to be
found, the text is not one of the words for null.
-/
namespace InstallManifest.Yaml.Plain
open Text Numeral

/-! ## Digits only -/

section Digits
variable {cs : List Char} (h : ∀ c ∈ cs, isDigit 10 c)
include h

theorem withoutPlus_of_digits : withoutPlus cs = cs := by
  unfold withoutPlus
  split
  next => exact absurd (h '+' List.mem_cons_self) (by decide)
  next => rfl

theorem radix?_of_digits : radix? cs = none := by
  unfold radix?
  split
  next => exact absurd (h 'x' (by simp)) (by decide)
  next => exact absurd (h 'o' (by simp)) (by decide)
  next => exact absurd (h 'b' (by simp)) (by decide)
  next => rfl

end Digits

theorem isDigit_of_mem (n : Nat) : ∀ c ∈ digits 10 n, isDigit 10 c :=
  isDigit_of_mem_digits (by decide) (by decide) n

theorem digits?_digits (n : Nat) : digits? 10 (digits 10 n) = some n :=
  readAll?_digits (by decide) (by decide) n

/-! ## Naturals -/

theorem toList_decimal (n : Nat) : (decimal n).toList = digits 10 n := String.toList_ofList

theorem hasLeadingZero_decimal (n : Nat) : hasLeadingZero (decimal n) = false := by
  by_cases hn : n = 0
  · subst hn
    decide
  · -- The text starts with a digit that is neither a sign nor zero.
    have hzero := head?_digits_ne (by decide) (by decide : (10 : Nat) ≤ 16) n hn
    have hdigit := isDigit_of_mem n
    unfold hasLeadingZero
    rw [toList_decimal]
    split
    next heq => exact absurd (hdigit '-' (by simp [heq])) (by decide)
    next heq => exact absurd (hdigit '+' (by simp [heq])) (by decide)
    next heq => exact absurd (by simp [heq]) hzero
    next => rfl

theorem natural?_decimal (n : Nat) : natural? (decimal n) = some n := by
  unfold natural?
  dsimp only
  rw [toList_decimal, withoutPlus_of_digits (isDigit_of_mem n), radix?_of_digits (isDigit_of_mem n)]
  dsimp only
  rw [hasLeadingZero_decimal, digits?_digits]
  rfl

/-! ## Integers -/

theorem toList_signedDecimal_negSucc (n : Nat) :
    (signedDecimal (.negSucc n)).toList = '-' :: digits 10 (n + 1) := by
  rw [signedDecimal, String.toList_append, toList_decimal]
  rfl

theorem hasLeadingZero_negSucc (n : Nat) : hasLeadingZero (signedDecimal (.negSucc n)) = false := by
  have hzero := head?_digits_ne (by decide) (by decide : (10 : Nat) ≤ 16) (n + 1) (by omega)
  unfold hasLeadingZero
  rw [toList_signedDecimal_negSucc]
  split
  next heq =>
    obtain ⟨-, heq⟩ := List.cons.inj heq
    exact absurd (by simp [heq]) hzero
  next heq => cases heq
  next heq => cases heq
  next => rfl

theorem natural?_negSucc (n : Nat) : natural? (signedDecimal (.negSucc n)) = none := by
  have hsign : digits? 10 ('-' :: digits 10 (n + 1)) = none := by
    have hnot : isDigit 10 '-' = false := by decide
    simp [digits?, readAll?, hnot]
  unfold natural?
  dsimp only
  rw [toList_signedDecimal_negSucc, hasLeadingZero_negSucc]
  exact hsign

theorem negative?_negSucc (n : Nat) :
    negative? (signedDecimal (.negSucc n)) = some (.negSucc n) := by
  unfold negative?
  rw [toList_signedDecimal_negSucc]
  simp only [radix?_of_digits (isDigit_of_mem _), hasLeadingZero_negSucc, digits?_digits]
  rfl

/-- **The text of an integer is read as the integer.** -/
theorem integer?_signedDecimal (n : Int) : integer? (signedDecimal n) = some n := by
  cases n with
  | ofNat n =>
    have hnatural : natural? (signedDecimal (.ofNat n)) = some n := natural?_decimal n
    rw [integer?, hnatural]
    rfl
  | negSucc n => rw [integer?, natural?_negSucc, negative?_negSucc]

/-- Nothing that stands for null is read as an integer. -/
theorem integer?_eq_none {s : String} (h : s = "" ∨ isNull s) : integer? s = none := by
  rcases h with rfl | hnull
  · decide
  · have hword : s ∈ ["null", "Null", "NULL", "~"] := by simpa [isNull] using hnull
    clear hnull
    revert s
    decide

end InstallManifest.Yaml.Plain
