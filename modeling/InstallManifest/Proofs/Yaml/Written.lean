import InstallManifest.Proofs.Yaml.Showing

/-!
# What a reader finds in the text of a tree

The text of a tree gives its entries and items in their order, tags without the mark in front of
their names, and every number that is none as the same word; apart from that, a reader finds the
tree itself. `Value.isReadAs` says so. A reader also refuses a mapping with a key that comes twice,
so the trees that it does give have different keys throughout (`Value.hasDistinctKeys`). Both
together make a `Showing`: whoever reads the tree that was found, field by field, reads what was
written.
-/
namespace InstallManifest.Yaml
open Decimal

/-- Whether the first number is written as a text that is read as the second one. -/
def Number.isReadAs : Number → Number → Bool
  | int m, int n => m == n
  | float x, float y => x == y || x.isNaN && y.isNaN
  | _, _ => false

namespace Number

theorem same_refl (n : Number) : n.same n := by
  match n with
  | int n => simp [same]
  | float x => cases hx : x.isNaN <;> simp [same, Binary64.same, hx]

theorem same_of_isReadAs {m n : Number} (h : m.isReadAs n) : n.same m := by
  match m, n with
  | int m, int n =>
    obtain rfl : m = n := by simpa [isReadAs] using h
    exact same_refl _
  | float x, float y =>
    simp only [isReadAs, Bool.or_eq_true, Bool.and_eq_true, beq_iff_eq] at h
    rcases h with rfl | ⟨hx, hy⟩
    · exact same_refl _
    · simp [same, Binary64.same, hx, hy]

end Number

namespace Value

mutual

/-- Whether the second tree is the first one as a reader of its text finds it. -/
def isReadAs : Value → Value → Bool
  | null, null => true
  | bool b, bool c => b == c
  | number m, number n => m.isReadAs n
  | string s, string t => s == t
  | seq vs, seq ws => itemsAreReadAs vs ws
  | map es, map fs => entriesAreReadAs es fs
  | tagged s v, tagged t w => bareTag s == t && bareTag t == t && v.isReadAs w
  | _, _ => false

def itemsAreReadAs : List Value → List Value → Bool
  | [], [] => true
  | v :: vs, w :: ws => v.isReadAs w && itemsAreReadAs vs ws
  | _, _ => false

def entriesAreReadAs : List (Value × Value) → List (Value × Value) → Bool
  | [], [] => true
  | (k, v) :: es, (l, w) :: fs => k.isReadAs l && v.isReadAs w && entriesAreReadAs es fs
  | _, _ => false

end

mutual

/-- Whether no mapping of a tree has a key twice. -/
def hasDistinctKeys : Value → Bool
  | seq vs => itemsHaveDistinctKeys vs
  | map es => entriesHaveDistinctKeys [] es
  | tagged _ v => v.hasDistinctKeys
  | _ => true

def itemsHaveDistinctKeys : List Value → Bool
  | [] => true
  | v :: vs => v.hasDistinctKeys && itemsHaveDistinctKeys vs

/-- Whether the keys of entries differ from each other and from the keys in front of them. -/
def entriesHaveDistinctKeys (seen : List Value) : List (Value × Value) → Bool
  | [] => true
  | (k, v) :: es =>
    k.hasDistinctKeys && (seen.find? k.same).isNone && v.hasDistinctKeys &&
      entriesHaveDistinctKeys (k :: seen) es

end

/-! ## The shape of what is found -/

section Shapes
variable {v w : Value}

theorem eq_of_isReadAs_string {s : String} (h : (string s).isReadAs w) : w = string s := by
  cases w <;> simp_all [isReadAs]

theorem eq_of_isReadAs_bool {b : Bool} (h : (bool b).isReadAs w) : w = bool b := by
  cases w <;> simp_all [isReadAs]

theorem eq_of_isReadAs_int {n : Int} (h : (int n).isReadAs w) : w = int n := by
  match w with
  | number (.int m) => simp_all [int, isReadAs, Number.isReadAs]
  | number (.float x) => simp [int, isReadAs, Number.isReadAs] at h
  | null | bool _ | string _ | seq _ | map _ | tagged _ _ => simp [int, isReadAs] at h

theorem eq_of_isReadAs_float {x : Binary64} (hx : x.isFinite) (h : (number (.float x)).isReadAs w) :
    w = number (.float x) := by
  have hnan : x.isNaN = false := by
    simp_all [Binary64.isFinite, Binary64.isNaN]
    omega
  match w with
  | number (.float y) => simp_all [isReadAs, Number.isReadAs]
  | number (.int n) => simp [isReadAs, Number.isReadAs] at h
  | null | bool _ | string _ | seq _ | map _ | tagged _ _ => simp [isReadAs] at h

theorem itemsAreReadAs_iff {vs ws : List Value} :
    itemsAreReadAs vs ws ↔ List.Forall₂ (fun v w => v.isReadAs w) vs ws := by
  induction vs generalizing ws with
  | nil => cases ws <;> simp [itemsAreReadAs]
  | cons v vs ih => cases ws <;> simp [itemsAreReadAs, ih]

theorem entriesAreReadAs_iff {es fs : List (Value × Value)} :
    entriesAreReadAs es fs ↔
      List.Forall₂ (fun e f => e.1.isReadAs f.1 ∧ e.2.isReadAs f.2) es fs := by
  induction es generalizing fs with
  | nil => cases fs <;> simp [entriesAreReadAs]
  | cons e es ih => cases fs <;> simp [entriesAreReadAs, ih, and_assoc]

theorem exists_of_isReadAs_seq {vs : List Value} (h : (seq vs).isReadAs w) :
    ∃ ws, w = seq ws ∧ List.Forall₂ (fun v w => v.isReadAs w) vs ws := by
  match w with
  | seq ws => exact ⟨ws, rfl, itemsAreReadAs_iff.1 (by simpa [isReadAs] using h)⟩
  | null | bool _ | number _ | string _ | map _ | tagged _ _ => simp [isReadAs] at h

theorem exists_of_isReadAs_map {es : List (Value × Value)} (h : (map es).isReadAs w) :
    ∃ fs, w = map fs ∧
      List.Forall₂ (fun e f => e.1.isReadAs f.1 ∧ e.2.isReadAs f.2) es fs := by
  match w with
  | map fs => exact ⟨fs, rfl, entriesAreReadAs_iff.1 (by simpa [isReadAs] using h)⟩
  | null | bool _ | number _ | string _ | seq _ | tagged _ _ => simp [isReadAs] at h

theorem itemsHaveDistinctKeys_iff {vs : List Value} :
    itemsHaveDistinctKeys vs ↔ ∀ v ∈ vs, v.hasDistinctKeys := by
  induction vs with
  | nil => simp [itemsHaveDistinctKeys]
  | cons v vs ih => simp [itemsHaveDistinctKeys, ih]

theorem hasDistinctKeys_of_entries {seen : List Value} {es : List (Value × Value)}
    (h : entriesHaveDistinctKeys seen es) : ∀ e ∈ es, e.2.hasDistinctKeys := by
  induction es generalizing seen with
  | nil => simp
  | cons e es ih =>
    simp only [entriesHaveDistinctKeys, Bool.and_eq_true] at h
    intro f hf
    rcases List.mem_cons.1 hf with rfl | hf
    · exact h.1.2
    · exact ih h.2 f hf

end Shapes

/-! ## Values show what was written -/

theorem readInt_int {fits : Int → Bool} {n : Int} (h : fits n) (expected : String) :
    readInt fits expected (int n) = .ok n := by
  simp [readInt, int, untag, h]

theorem isUnsigned_toNat (n : UInt32) : Width.isUnsigned 32 n.toNat := by
  have h : (n.toNat : Int) < Width.count 32 := Int.ofNat_lt.2 n.toNat_lt
  simp [Width.isUnsigned, h]

theorem isSigned_toInt32 (n : Int32) : Width.isSigned 32 n.toInt := by
  have h : -(Width.count 31 : Int) ≤ n.toInt := n.le_toInt
  have h' : n.toInt < Width.count 31 := n.toInt_lt
  simp [Width.isSigned, h, h']

theorem isSigned_toInt64 (n : Int64) : Width.isSigned 64 n.toInt := by
  have h : -(Width.count 63 : Int) ≤ n.toInt := n.le_toInt
  have h' : n.toInt < Width.count 63 := n.toInt_lt
  simp [Width.isSigned, h, h']

theorem readUInt32_toNat (n : UInt32) : readUInt32 (int n.toNat) = .ok n := by
  rw [readUInt32, readInt_int (isUnsigned_toNat n)]
  exact congrArg Except.ok (UInt32.ofNat_toNat)

theorem readInt32_toInt (n : Int32) : readInt32 (int n.toInt) = .ok n := by
  rw [readInt32, readInt_int (isSigned_toInt32 n)]
  exact congrArg Except.ok (Int32.ofInt_toInt n)

theorem readInt64_toInt (n : Int64) : readInt64 (int n.toInt) = .ok n := by
  rw [readInt64, readInt_int (isSigned_toInt64 n)]
  exact congrArg Except.ok (Int64.ofInt_toInt n)

theorem readText_of_isReadAs {k l : Value} {s : String} (h : k.isReadAs l) (hk : k = string s)
    (expected : String) : l.readText expected = .ok s := by
  subst hk
  rw [eq_of_isReadAs_string h]
  rfl

/-- **A tree that was found in a text shows the tree that was written.** -/
def showing : Showing Value where
  Shows w v := w.hasDistinctKeys ∧ v.isReadAs w
  string h := by rw [eq_of_isReadAs_string h.2]; rfl
  uint32 h := by rw [eq_of_isReadAs_int h.2]; exact readUInt32_toNat _
  int32 h := by rw [eq_of_isReadAs_int h.2]; exact readInt32_toInt _
  isMissing {w v} h hv := by
    cases w <;> first | rfl | (cases v <;> simp_all [isReadAs])
  items h := by
    obtain ⟨ws, rfl, hws⟩ := exists_of_isReadAs_seq h.2
    have hdistinct := itemsHaveDistinctKeys_iff.1 (by simpa [hasDistinctKeys] using h.1)
    exact ⟨ws, rfl, (List.forall₂_and_left _ _).2 ⟨hdistinct, hws.flip⟩⟩
  entries expected h := by
    obtain ⟨fs, rfl, hfs⟩ := exists_of_isReadAs_map h.2
    have hdistinct := hasDistinctKeys_of_entries (by simpa [hasDistinctKeys] using h.1)
    refine ⟨_, rfl, List.forall₂_map_left_iff.2 ?_⟩
    refine ((List.forall₂_and_left _ _).2 ⟨hdistinct, hfs.flip⟩).imp ?_
    rintro f e ⟨hf, hkey, hvalue⟩
    exact ⟨fun k hk => readText_of_isReadAs hkey hk _, hf, hvalue⟩

/-! ## Free-form data -/

mutual

/-- Free-form data comes out of a tree that was found as it is: the names of its tags are bare
already, so no two of its keys become the same. -/
theorem readAny_eq_self {v w : Value} (h : v.isReadAs w) (hw : w.hasDistinctKeys) :
    w.readAny = .ok w := by
  match v, w with
  | tagged s v, tagged t w =>
    simp only [isReadAs, Bool.and_eq_true, beq_iff_eq] at h
    simp only [readAny, readAny_eq_self h.2 (by simpa [hasDistinctKeys] using hw), h.1.2]
    rfl
  | seq vs, seq ws =>
    simp only [isReadAs, hasDistinctKeys] at h hw
    simp only [readAny, readAnyItems_eq_self h hw]
    rfl
  | map es, map fs =>
    simp only [isReadAs, hasDistinctKeys] at h hw
    simp only [readAny, readAnyEntries_eq_self h hw]
    rfl
  | _, null | _, bool _ | _, number _ | _, string _ => rfl

theorem readAnyItems_eq_self {vs ws : List Value} (h : itemsAreReadAs vs ws)
    (hw : itemsHaveDistinctKeys ws) : readAnyItems ws = .ok ws := by
  match vs, ws with
  | _, [] => rfl
  | v :: vs, w :: ws =>
    simp only [itemsAreReadAs, itemsHaveDistinctKeys, Bool.and_eq_true] at h hw
    simp only [readAnyItems, readAny_eq_self h.1 hw.1, readAnyItems_eq_self h.2 hw.2]
    rfl

theorem readAnyEntries_eq_self {seen : List Value} {es fs : List (Value × Value)}
    (h : entriesAreReadAs es fs) (hw : entriesHaveDistinctKeys seen fs) :
    readAnyEntries seen fs = .ok fs := by
  match es, fs with
  | _, [] => rfl
  | (k, v) :: es, (l, w) :: fs =>
    simp only [entriesAreReadAs, entriesHaveDistinctKeys, Bool.and_eq_true,
      Option.isNone_iff_eq_none] at h hw
    obtain ⟨⟨⟨hl, hnew⟩, hw⟩, hfs⟩ := hw
    simp only [readAnyEntries, readAny_eq_self h.1.1 hl, bind, Except.bind, hnew,
      readAny_eq_self h.1.2 hw, readAnyEntries_eq_self h.2 hfs]
    rfl

end

theorem containedIn_of_mem {k v : Value} {others fs : List (Value × Value)} {l w : Value}
    (he : (k, v) ∈ others) (hk : l.same k) (hv : w.same v) (h : containedIn others fs) :
    containedIn others ((l, w) :: fs) := by
  simp only [containedIn, Bool.and_eq_true, List.any_eq_true]
  exact ⟨⟨(k, v), he, hk, hv⟩, h⟩

mutual

/-- What is found in the text of a tree equals the tree. -/
theorem same_of_isReadAs {v w : Value} (h : v.isReadAs w) : w.same v := by
  match v, w with
  | null, null => rfl
  | bool b, bool c => simp_all [isReadAs, same]
  | number m, number n => simpa [same] using Number.same_of_isReadAs (by simpa [isReadAs] using h)
  | string s, string t => simp_all [isReadAs, same]
  | seq vs, seq ws => simpa [same] using sameItems_of_areReadAs (by simpa [isReadAs] using h)
  | map es, map fs =>
    have hes : entriesAreReadAs es fs := by simpa [isReadAs] using h
    have hlength := (entriesAreReadAs_iff.1 hes).length_eq
    simp [same, hlength, containedIn_of_areReadAs (List.Subset.refl es) hes]
  | tagged s v, tagged t w =>
    simp only [isReadAs, Bool.and_eq_true, beq_iff_eq] at h
    simp [same, h.1.1, h.1.2, same_of_isReadAs h.2]

theorem sameItems_of_areReadAs {vs ws : List Value} (h : itemsAreReadAs vs ws) :
    sameItems ws vs := by
  match vs, ws with
  | [], [] => rfl
  | v :: vs, w :: ws =>
    simp only [itemsAreReadAs, Bool.and_eq_true] at h
    simp [sameItems, same_of_isReadAs h.1, sameItems_of_areReadAs h.2]

theorem containedIn_of_areReadAs {others es fs : List (Value × Value)} (hes : es ⊆ others)
    (h : entriesAreReadAs es fs) : containedIn others fs := by
  match es, fs with
  | [], [] => rfl
  | (k, v) :: es, (l, w) :: fs =>
    simp only [entriesAreReadAs, Bool.and_eq_true] at h
    exact containedIn_of_mem (hes List.mem_cons_self) (same_of_isReadAs h.1.1)
      (same_of_isReadAs h.1.2)
      (containedIn_of_areReadAs (fun e he => hes (List.mem_cons_of_mem _ he)) h.2)

end

end Value
end InstallManifest.Yaml
