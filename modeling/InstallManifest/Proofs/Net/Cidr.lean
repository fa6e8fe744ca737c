import InstallManifest.Net.Cidr
import InstallManifest.Proofs.Data.Result
import InstallManifest.Proofs.Net.Address

/-!
# Ranges are read back

The text of a range is an address, a slash and a numeral, and it is read as the range itself, host
bits included (`Cidr.parse_text`). So a range that was written in its one form is judged as it was
before it was written: it is of the same family, and a subnet stays one.
-/
namespace InstallManifest.Net.Cidr
open Text Numeral

theorem ends_slash (rest : List Char) : Address.Ends ('/' :: rest) := by
  intro c hc
  obtain rfl : '/' = c := by simpa using hc
  decide

/-- A prefix length is read back. -/
theorem length?_digits {w : Nat} (l : Fin (w + 1))
    (hdigits : (digits 10 l).length ≤ (digits 10 w).length) :
    length? w ('/' :: digits 10 l) = some l := by
  have hread : read? ⟨10, (digits 10 w).length, w + 1, true⟩ (digits 10 l ++ []) =
      some (l.val, []) :=
    read?_digits rfl (show 1 < 10 by decide) (show 10 ≤ 16 by decide) l.isLt hdigits
      (by simp [EndsDigits])
  rw [List.append_nil] at hread
  have hslash : Address.char? '/' ('/' :: digits 10 l) = some (digits 10 l) :=
    Address.char?_cons '/' _
  simp only [length?, hslash, bind, Option.bind, hread, l.isLt, dif_pos]

theorem length_digits_le_ipv4 (l : Fin 33) : (digits 10 l).length ≤ (digits 10 32).length := by
  revert l
  decide

theorem length_digits_le_ipv6 (l : Fin 129) : (digits 10 l).length ≤ (digits 10 128).length := by
  revert l
  decide

theorem parse?_chars (c : Cidr) : parse? c.chars = some c := by
  cases c with
  | v4 range =>
    have hquad : Address.quad? .range (v4 range).chars =
        some (range.bits.toNat, '/' :: digits 10 range.length) :=
      Address.quad?_octets rfl range.bits
        (Address.endsDigits_of_le (by decide) (ends_slash _).endsDigits)
    have hlength := length?_digits range.length (length_digits_le_ipv4 range.length)
    simp only [parse?, hquad, hlength, Option.map_some, BitVec.ofNat_toNat, BitVec.setWidth_eq]
  | v6 range =>
    have hquad : Address.quad? .range (v6 range).chars = none :=
      ((Address.startsGroups_chars range.bits).append _).quad?_eq_none .range
    have hhex : Address.hex? .range (v6 range).chars =
        some (range.bits.toNat, '/' :: digits 10 range.length) :=
      Address.hex?_chars range.bits (ends_slash _)
    have hlength := length?_digits range.length (length_digits_le_ipv6 range.length)
    simp only [parse?, hquad, hhex, bind, Option.bind, hlength, BitVec.ofNat_toNat,
      BitVec.setWidth_eq]
    rfl

/-- **The text of a range denotes the range.** -/
theorem parse_text (c : Cidr) : parse c.text = .ok c := by
  unfold parse text
  rw [String.toList_ofList, parse?_chars]

theorem classify_text (c : Cidr) : classify c.text = .ok c.family := by
  rw [classify, parse_text]
  rfl

/-! ## Writing what was read -/

/-- A text that is read and written again, a number of times. -/
def rewritten : Nat → String → Except CidrError String
  | 0, s => .ok s
  | n + 1, s => do rewritten n (← parse s).text

/-- The one form of a range is written as it was read. -/
theorem rewritten_text (n : Nat) (c : Cidr) : rewritten n c.text = .ok c.text := by
  induction n with
  | zero => rfl
  | succ n ih =>
    show (parse c.text >>= fun d => rewritten n d.text) = .ok c.text
    rw [parse_text]
    exact ih

theorem rewritten_succ {s : String} {c : Cidr} (h : parse s = .ok c) (n : Nat) :
    rewritten (n + 1) s = .ok c.text := by
  show (parse s >>= fun d => rewritten n d.text) = .ok c.text
  rw [h]
  exact rewritten_text n c

/-- **Ranges and their texts.** Every range of either family is read back from its text, host bits
included. So different ranges have different texts. And whichever text denotes a range: read and
written again any number of times, it denotes the same range, and from the first time on it is the
text of that range. -/
theorem text_determines :
    (∀ c : Cidr, parse c.text = .ok c) ∧ (∀ c d : Cidr, c.text = d.text → c = d) ∧
      ∀ s c, parse s = .ok c → ∀ n,
        (rewritten n s >>= parse) = .ok c ∧ rewritten (n + 1) s = .ok c.text := by
  refine ⟨parse_text, ?_, ?_⟩
  · intro c d h
    have hread : parse d.text = .ok c := h ▸ parse_text c
    exact Except.ok.inj (hread.symm.trans (parse_text d))
  · intro s c h n
    refine ⟨?_, rewritten_succ h n⟩
    cases n with
    | zero => exact h
    | succ n =>
      rw [rewritten_succ h n]
      exact parse_text c

/-- A mapped address that is written in groups, upper case and with leading zeros, gets the dotted
form and keeps it. -/
theorem text_determines_mapped :
    parse "0:0::FFFF:0a00:0009/096" = .ok (v6 ⟨0xffff0a000009, 96⟩) ∧
      ∀ n, rewritten (n + 1) "0:0::FFFF:0a00:0009/096" = .ok "::ffff:10.0.0.9/96" := by
  have hparse : parse "0:0::FFFF:0a00:0009/096" = .ok (v6 ⟨0xffff0a000009, 96⟩) := by
    decide +kernel
  have htext : (v6 ⟨0xffff0a000009, 96⟩).text = "::ffff:10.0.0.9/96" := by decide +kernel
  refine ⟨hparse, fun n => ?_⟩
  rw [← htext]
  exact (text_determines.2.2 _ _ hparse n).2

end InstallManifest.Net.Cidr
