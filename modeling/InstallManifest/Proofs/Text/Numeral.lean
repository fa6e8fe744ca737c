import InstallManifest.Text.Numeral

/-!
# Numerals are read back

The digits of a number are digits of its radix and denote the number. So whoever reads the longest
run of digits in front of something that is none finds the number and leaves what is behind it.
-/
namespace InstallManifest.Text.Numeral

variable {radix n : Nat} {rest : List Char}

/-! ## Digits -/

theorem digitValue?_digitChar {d : Nat} (h : d < 16) : digitValue? d.digitChar = some d := by
  have hall : ∀ d : Fin 16, digitValue? d.val.digitChar = some d.val := by decide
  exact hall ⟨d, h⟩

theorem isDigit_digitChar {d : Nat} (h : d < radix) (hradix : radix ≤ 16) :
    isDigit radix d.digitChar := by
  have hd : d < 16 := Nat.lt_of_lt_of_le h hradix
  simp [isDigit, digitValue?_digitChar hd, h]

theorem digits_of_lt (h : n < radix) : digits radix n = [n.digitChar] := Nat.toDigits_of_lt_base h

/-- The digits of a number are those of its quotient and one more. -/
theorem digits_of_le (hradix : 1 < radix) (h : ¬ n < radix) :
    digits radix n = digits radix (n / radix) ++ [(n % radix).digitChar] := by
  rw [digits, Nat.toDigits_eq_if hradix, if_neg h]
  rfl

theorem digits_ne_nil (radix n : Nat) : digits radix n ≠ [] := Nat.toDigits_ne_nil

/-- Induction on the digits of a number, the last one first. -/
theorem digits_induction {P : Nat → Prop} (hradix : 1 < radix) (small : ∀ n, n < radix → P n)
    (step : ∀ n, ¬ n < radix → P (n / radix) → P n) (n : Nat) : P n := by
  induction n using Nat.strongRecOn with
  | ind n ih =>
    by_cases hn : n < radix
    · exact small n hn
    · exact step n hn (ih (n / radix) (Nat.div_lt_self (by omega) hradix))

theorem isDigit_of_mem_digits (hradix : 1 < radix) (hradix' : radix ≤ 16) (n : Nat) :
    ∀ c ∈ digits radix n, isDigit radix c := by
  induction n using digits_induction hradix with
  | small n hn =>
    rw [digits_of_lt hn]
    simpa using isDigit_digitChar hn hradix'
  | step n hn ih =>
    rw [digits_of_le hradix hn]
    intro c hc
    rcases List.mem_append.1 hc with hc | hc
    · exact ih c hc
    · rw [List.mem_singleton.1 hc]
      exact isDigit_digitChar (Nat.mod_lt n (by omega)) hradix'

theorem value_concat (radix : Nat) (cs : List Char) (c : Char) :
    value radix (cs ++ [c]) = value radix cs * radix + (digitValue? c).getD 0 := by
  simp [value]

/-- The digits of a number denote it. -/
theorem value_digits (hradix : 1 < radix) (hradix' : radix ≤ 16) (n : Nat) :
    value radix (digits radix n) = n := by
  induction n using digits_induction hradix with
  | small n hn =>
    have hdigit : digitValue? n.digitChar = some n := digitValue?_digitChar (by omega)
    simp [digits_of_lt hn, value, hdigit]
  | step n hn ih =>
    have hmod : n % radix < radix := Nat.mod_lt n (by omega)
    have hdigit : digitValue? (n % radix).digitChar = some (n % radix) :=
      digitValue?_digitChar (by omega)
    rw [digits_of_le hradix hn, value_concat, ih, hdigit, Option.getD_some]
    exact Nat.div_add_mod' n radix

/-- No numeral but that of zero starts with a zero. -/
theorem head?_digits_ne (hradix : 1 < radix) (hradix' : radix ≤ 16) (n : Nat) (h : n ≠ 0) :
    (digits radix n).head? ≠ some '0' := by
  induction n using digits_induction hradix with
  | small n hn =>
    rw [digits_of_lt hn]
    intro hzero
    have hdigit : digitValue? n.digitChar = some n := digitValue?_digitChar (by omega)
    rw [Option.some.inj hzero] at hdigit
    exact h (Option.some.inj hdigit).symm
  | step n hn ih =>
    have hpos : 0 < n / radix := Nat.div_pos (Nat.le_of_not_lt hn) (by omega)
    have hfront : (digits radix (n / radix)).head?.isSome :=
      List.isSome_head?.2 (digits_ne_nil radix (n / radix))
    rw [digits_of_le hradix hn, List.head?_append, Option.or_of_isSome hfront]
    exact ih (Nat.pos_iff_ne_zero.1 hpos)

/-! ## Runs of digits -/

/-- Whether a text does not go on with a digit. -/
def EndsDigits (radix : Nat) (rest : List Char) : Prop := ∀ c ∈ rest.head?, isDigit radix c = false

theorem EndsDigits.cons {c : Char} (h : isDigit radix c = false) (rest : List Char) :
    EndsDigits radix (c :: rest) := by
  intro d hd
  obtain rfl : c = d := by simpa using hd
  exact h

theorem takeWhile_of_endsDigits (h : EndsDigits radix rest) :
    rest.takeWhile (isDigit radix) = [] := by
  cases rest with
  | nil => rfl
  | cons c rest => rw [List.takeWhile_cons, h c rfl, if_neg Bool.false_ne_true]

theorem dropWhile_of_endsDigits (h : EndsDigits radix rest) :
    rest.dropWhile (isDigit radix) = rest := by
  cases rest with
  | nil => rfl
  | cons c rest => rw [List.dropWhile_cons, h c rfl, if_neg Bool.false_ne_true]

theorem takeWhile_digits (hradix : 1 < radix) (hradix' : radix ≤ 16) (n : Nat)
    (h : EndsDigits radix rest) :
    (digits radix n ++ rest).takeWhile (isDigit radix) = digits radix n := by
  rw [List.takeWhile_append_of_pos (isDigit_of_mem_digits hradix hradix' n),
    takeWhile_of_endsDigits h, List.append_nil]

theorem dropWhile_digits (hradix : 1 < radix) (hradix' : radix ≤ 16) (n : Nat)
    (h : EndsDigits radix rest) :
    (digits radix n ++ rest).dropWhile (isDigit radix) = rest := by
  rw [List.dropWhile_append_of_pos (isDigit_of_mem_digits hradix hradix' n),
    dropWhile_of_endsDigits h]

/-! ## Reading -/

/-- Nothing is read where there is no digit. -/
theorem read?_of_endsDigits (b : Bound) (h : EndsDigits b.radix rest) : read? b rest = none := by
  simp [read?, takeWhile_of_endsDigits h]

/-- A numeral that is all of a text is read back. -/
theorem readAll?_digits (hradix : 1 < radix) (hradix' : radix ≤ 16) (n : Nat) :
    readAll? radix (digits radix n) = some n := by
  have hall : digits radix n ≠ [] ∧ (digits radix n).all (isDigit radix) :=
    ⟨digits_ne_nil radix n, List.all_eq_true.2 (isDigit_of_mem_digits hradix hradix' n)⟩
  rw [readAll?, if_pos hall, value_digits hradix hradix']

/-- **A numeral is read back**, if it is within the bound and nothing behind it is a digit. -/
theorem read?_digits {b : Bound} (hzeros : b.leadingZeros) (hradix : 1 < b.radix)
    (hradix' : b.radix ≤ 16) (hbelow : n < b.below)
    (hlength : (digits b.radix n).length ≤ b.maxDigits) (h : EndsDigits b.radix rest) :
    read? b (digits b.radix n ++ rest) = some (n, rest) := by
  have hfits : ¬ (digits b.radix n = [] ∨ b.maxDigits < (digits b.radix n).length ∨
      b.below ≤ n) := by
    have := digits_ne_nil b.radix n
    simp only [this, false_or]
    omega
  unfold read?
  dsimp only
  rw [takeWhile_digits hradix hradix' n h, dropWhile_digits hradix hradix' n h,
    value_digits hradix hradix' n, if_neg hfits, if_neg (by simp [hzeros])]

end InstallManifest.Text.Numeral
