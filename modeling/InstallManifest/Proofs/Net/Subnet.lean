import InstallManifest.Proofs.Net.Cidr
import Mathlib.Logic.Basic

/-!
# Networks and subnets

The mask of a prefix is made by a shift, so the two ends are not obvious: a prefix of no bits shifts
everything out, and one of all bits shifts nothing. Bits are counted from the front here, as those
of a prefix are; a bit of the network is then a bit of the address if it belongs to the prefix, and
not set otherwise (`Cidr.bit_network`), for every length and in both families. What the check of
subnets says of a range follows, and so does what it says of the network that it suggests in place
of a range with host bits: a network has none, so it is a subnet unless nothing is left of it
(`Cidr.validateSubnet_outcome`).
-/
namespace InstallManifest.Net

/-! ## Bits -/

namespace Address

/-- The number of bits of an address. -/
def width : Address → Nat
  | v4 _ => 32
  | v6 _ => 128

/-- A bit of an address, counted from the front. -/
def bit (i : Nat) : Address → Bool
  | v4 bits => bits.getMsbD i
  | v6 bits => bits.getMsbD i

/-- Whether no bit is set. -/
def IsZero (a : Address) : Prop := ∀ i < a.width, a.bit i = false

instance (a : Address) : Decidable a.IsZero :=
  inferInstanceAs (Decidable (∀ i < a.width, a.bit i = false))

theorem eq_zero_iff {w : Nat} (bits : BitVec w) :
    bits = 0 ↔ ∀ i < w, bits.getMsbD i = false := by
  constructor
  · rintro rfl i -
    exact BitVec.getMsbD_zero
  · intro h
    refine BitVec.eq_of_getMsbD_eq fun i hi => ?_
    rw [h i hi]
    exact BitVec.getMsbD_zero.symm

theorem isUnspecified_iff (a : Address) : a.isUnspecified ↔ a.IsZero := by
  cases a with
  | v4 bits | v6 bits => exact beq_iff_eq.trans (eq_zero_iff bits)

end Address

namespace Range
variable {w : Nat}

/-- The bits of a mask are those of the prefix. -/
theorem getMsbD_mask {p : Nat} (h : p ≤ w) (i : Nat) : (mask w p).getMsbD i = decide (i < p) := by
  rw [mask, BitVec.getMsbD_shiftLeft, BitVec.getMsbD_allOnes]
  exact decide_eq_decide.2 (by omega)

theorem getMsbD_network (r : Range w) (i : Nat) :
    r.network.bits.getMsbD i = (decide (i < r.length) && r.bits.getMsbD i) := by
  have hlength : r.length.val ≤ w := Nat.le_of_lt_succ r.length.isLt
  show (r.bits &&& mask w r.length).getMsbD i = _
  rw [BitVec.getMsbD_and, getMsbD_mask hlength, Bool.and_comm]

@[simp] theorem length_network (r : Range w) : r.network.length = r.length := rfl

theorem network_network (r : Range w) : r.network.network = r.network := by
  have hbits : r.network.network.bits = r.network.bits := by
    refine BitVec.eq_of_getMsbD_eq fun i _ => ?_
    rw [getMsbD_network, getMsbD_network, length_network, ← Bool.and_assoc, Bool.and_self]
  exact congrArg (fun bits => Range.mk bits r.length) hbits

/-- A range is its own network if the bits behind its prefix are not set. -/
theorem eq_network_iff (r : Range w) :
    r.bits = r.network.bits ↔ ∀ i < w, r.length.val ≤ i → r.bits.getMsbD i = false := by
  constructor
  · intro h i _ hlength
    rw [h, getMsbD_network, decide_eq_false (Nat.not_lt.2 hlength), Bool.false_and]
  · intro h
    refine BitVec.eq_of_getMsbD_eq fun i hi => ?_
    rw [getMsbD_network]
    by_cases hlength : i < r.length
    · rw [decide_eq_true hlength, Bool.true_and]
    · rw [decide_eq_false hlength, Bool.false_and]
      exact h i hi (Nat.not_lt.1 hlength)

end Range

/-! ## Ranges of either family -/

namespace Cidr

/-- Whether no bit is set behind the prefix. -/
def IsAligned (c : Cidr) : Prop :=
  ∀ i < c.address.width, c.prefixLength ≤ i → c.address.bit i = false

instance (c : Cidr) : Decidable c.IsAligned :=
  inferInstanceAs (Decidable (∀ i < c.address.width, c.prefixLength ≤ i → c.address.bit i = false))

theorem bit_network (c : Cidr) (i : Nat) :
    c.network.address.bit i = (decide (i < c.prefixLength) && c.address.bit i) := by
  cases c with
  | v4 r | v6 r => exact r.getMsbD_network i

theorem network_network (c : Cidr) : c.network.network = c.network := by
  cases c with
  | v4 r => exact congrArg v4 r.network_network
  | v6 r => exact congrArg v6 r.network_network

theorem prefixLength_network (c : Cidr) : c.network.prefixLength = c.prefixLength := by
  cases c <;> rfl

theorem family_network (c : Cidr) : c.network.family = c.family := by
  cases c <;> rfl

/-- A range and its network differ in their addresses, if at all. -/
theorem isNetworkAddress_iff_eq (c : Cidr) : c.isNetworkAddress ↔ c = c.network := by
  rw [isNetworkAddress, decide_eq_true_iff]
  constructor
  · intro h
    cases c with
    | v4 r => exact congrArg (fun bits => v4 ⟨bits, r.length⟩) (Address.v4.inj h)
    | v6 r => exact congrArg (fun bits => v6 ⟨bits, r.length⟩) (Address.v6.inj h)
  · exact congrArg address

theorem isNetworkAddress_iff (c : Cidr) : c.isNetworkAddress ↔ c.IsAligned := by
  rw [isNetworkAddress, decide_eq_true_iff]
  cases c with
  | v4 r => exact (iff_of_eq (Address.v4.injEq _ _)).trans r.eq_network_iff
  | v6 r => exact (iff_of_eq (Address.v6.injEq _ _)).trans r.eq_network_iff

/-- No bit behind the prefix is set in a network. -/
theorem isAligned_network (c : Cidr) : c.network.IsAligned := by
  intro i _ hlength
  rw [prefixLength_network] at hlength
  rw [bit_network, decide_eq_false (Nat.not_lt.2 hlength), Bool.false_and]

/-! ## The check -/

theorem validateSubnet_eq (c : Cidr) :
    c.validateSubnet =
      if c.address.IsZero then .error (.unspecified c)
      else if c.IsAligned then .ok ()
      else .error (.notNetworkAddress c c.network) := by
  unfold validateSubnet
  exact if_congr c.address.isUnspecified_iff rfl (if_congr c.isNetworkAddress_iff rfl rfl)

/-- The text of a network is taken for a subnet if a bit of it is set. -/
theorem parseSubnet_network (c : Cidr) :
    parseSubnet c.network.text =
      if c.network.address.IsZero then .error (.unspecified c.network) else .ok c.network := by
  show (parse c.network.text >>= fun d => d.validateSubnet >>= fun _ => pure d) = _
  rw [parse_text]
  show (c.network.validateSubnet >>= fun _ => pure c.network) = _
  rw [validateSubnet_eq, if_pos c.isAligned_network]
  split <;> rfl

/-- **Networks and subnets.** The network of a range keeps the bits of the prefix, clears the others,
and keeps the length and the family; a second time, nothing changes. A range is a network address if
it is its own network. It is a subnet if some bit is set and none behind the prefix is. It is refused
as unspecified if no bit is set, and otherwise, if there are host bits, with its network as what is
expected instead. The text of that network denotes it, and it is taken for a subnet, unless
no bit of it is set: then it is refused as unspecified. -/
theorem validateSubnet_outcome (c : Cidr) :
    (∀ i, c.network.address.bit i = if i < c.prefixLength then c.address.bit i else false) ∧
      c.network.prefixLength = c.prefixLength ∧ c.network.family = c.family ∧
      c.network.network = c.network ∧
      (c.isNetworkAddress ↔ c = c.network) ∧
      (c.validateSubnet = .ok () ↔ ¬ c.address.IsZero ∧ c.IsAligned) ∧
      (c.validateSubnet = .error (.unspecified c) ↔ c.address.IsZero) ∧
      (c.validateSubnet = .error (.notNetworkAddress c c.network) ↔
        ¬ c.address.IsZero ∧ ¬ c.IsAligned) ∧
      parse c.network.text = .ok c.network ∧
      parseSubnet c.network.text =
        if c.network.address.IsZero then .error (.unspecified c.network) else .ok c.network := by
  refine ⟨?_, c.prefixLength_network, c.family_network, c.network_network,
    c.isNetworkAddress_iff_eq, ?_, ?_, ?_, parse_text c.network, c.parseSubnet_network⟩
  · intro i
    rw [bit_network]
    by_cases hlength : i < c.prefixLength <;> simp [hlength]
  -- The three ways to end exclude each other.
  all_goals
    rw [validateSubnet_eq]
    by_cases hzero : c.address.IsZero <;> by_cases haligned : c.IsAligned <;>
      simp [hzero, haligned]

/-- The host bits are all that is set here, so the network that is suggested is no subnet. -/
example : (parse "0.0.0.5/24").toOption.map (·.network.text) = some "0.0.0.0/24" := by
  decide +kernel

end Cidr
end InstallManifest.Net
