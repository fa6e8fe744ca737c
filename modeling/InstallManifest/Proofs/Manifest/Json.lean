import InstallManifest.Manifest.Json
import InstallManifest.Proofs.Yaml.Written

/-!
# Free-form metadata

Free-form data of the metadata is read back as it was written. Its numbers are finite and its keys
ascend, so nothing is lost to a number that has no text of its own or to a repeated key.
-/
namespace InstallManifest.Json
open Yaml Value

mutual

/-- **Canonical data is read back from every tree that is found in its text.** -/
theorem ofValue_of_isReadAs {j : Json} (hj : j.isCanonical) {w : Value}
    (h : j.toValue.isReadAs w) : ofValue w = .ok j := by
  match j with
  | null =>
    cases w <;> simp_all [toValue, isReadAs, ofValue]
  | bool b =>
    rw [eq_of_isReadAs_bool h]
    rfl
  | number (.int n) =>
    rw [eq_of_isReadAs_int h]
    rfl
  | number (.float x) =>
    have hfinite : x.isFinite = true := hj
    obtain rfl := eq_of_isReadAs_float hfinite h
    simp [ofValue, hfinite]
  | string s =>
    rw [eq_of_isReadAs_string h]
    rfl
  | array items =>
    obtain ⟨ws, rfl, hws⟩ := exists_of_isReadAs_seq h
    simp only [ofValue, ofValues_of_areReadAs hj (itemsAreReadAs_iff.2 hws)]
    rfl
  | object es =>
    obtain ⟨fs, rfl, hfs⟩ := exists_of_isReadAs_map h
    simp only [isCanonical, Bool.and_eq_true] at hj
    have hes : Entries.Ascending ([] ++ es) := ascends_map_iff.1 hj.1
    have hread := ofEntries_of_areReadAs true hes hj.2 (entriesAreReadAs_iff.2 hfs)
    simp only [ofValue, hread]
    rfl

theorem ofValues_of_areReadAs {js : List Json} (hj : areCanonical js) {ws : List Value}
    (h : itemsAreReadAs (toValues js) ws) : ofValues ws = .ok js := by
  match js, ws with
  | [], [] => rfl
  | j :: js, w :: ws =>
    simp only [areCanonical, toValues, itemsAreReadAs, Bool.and_eq_true] at hj h
    simp only [ofValues, ofValue_of_isReadAs hj.1 h.1, ofValues_of_areReadAs hj.2 h.2]
    rfl

/-- The entries behind `acc` are put behind each other, because the keys ascend. -/
theorem ofEntries_of_areReadAs (isFirst : Bool) {acc es : List (String × Json)}
    (hes : Entries.Ascending (acc ++ es)) (hj : entriesAreCanonical es)
    {fs : List (Value × Value)} (h : entriesAreReadAs (toEntries es) fs) :
    ofEntries isFirst acc fs = .ok (acc ++ es) := by
  match es, fs with
  | [], [] => simp [ofEntries]
  | (k, j) :: es, (l, w) :: fs =>
    simp only [entriesAreCanonical, toEntries, entriesAreReadAs, Bool.and_eq_true] at hj h
    have hlast : Entries.insert k j acc = acc ++ [(k, j)] :=
      Entries.insert_of_forall_lt fun e he =>
        (List.pairwise_append.1 hes).2.2 e he (k, j) List.mem_cons_self
    have hnext : acc ++ (k, j) :: es = (acc ++ [(k, j)]) ++ es := by simp
    rw [hnext] at hes ⊢
    simp only [ofEntries, readText_of_isReadAs h.1.1 rfl, ofValue_of_isReadAs hj.1 h.1.2,
      bind, Except.bind, hlast]
    exact ofEntries_of_areReadAs false hes hj.2 h.2

end

theorem Payload.read_of_isReadAs (p : Payload) {w : Value} (h : p.json.toValue.isReadAs w) :
    Payload.read w = .ok p := by
  have hread : ofValue w = .ok p.json := ofValue_of_isReadAs p.canonical h
  unfold Payload.read
  split
  next j hj =>
    obtain rfl : j = p.json := by simpa [hj] using hread
    rfl
  next e he => simp [he] at hread

theorem toValue_ne_null {j : Json} (h : j ≠ null) : j.toValue ≠ Value.null := by
  cases j <;> simp_all [toValue]

/-! ## Equality -/

mutual

theorem same_refl (j : Json) : j.same j := by
  match j with
  | null | bool _ | string _ => simp [same]
  | number n => simpa [same] using n.same_refl
  | array items => simpa [same] using sameItems_refl items
  | object es => simpa [same] using sameEntries_refl es

theorem sameItems_refl (js : List Json) : sameItems js js := by
  match js with
  | [] => rfl
  | j :: js => simp [sameItems, same_refl j, sameItems_refl js]

theorem sameEntries_refl (es : List (String × Json)) : sameEntries es es := by
  match es with
  | [] => rfl
  | (_, j) :: es => simp [sameEntries, same_refl j, sameEntries_refl es]

end

end InstallManifest.Json
