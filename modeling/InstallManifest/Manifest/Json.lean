import InstallManifest.Data.Result
import InstallManifest.Data.SortedMap
import InstallManifest.Yaml.Reader

/-!
Free-form data inside object metadata. It knows no tags, its objects are maps from texts, and its
numbers are finite. `Payload` holds the data that satisfies this.
-/
namespace InstallManifest
open Yaml

inductive Json where
  | null
  | bool (b : Bool)
  | number (n : Number)
  | string (s : String)
  | array (items : List Json)
  | object (entries : List (String × Json))
deriving Inhabited, Repr

namespace Json

/-- Whether the keys of a list of entries ascend. -/
def ascends : List String → Bool
  | k :: l :: keys => k < l && ascends (l :: keys)
  | _ => true

mutual

/-- Whether keys ascend and numbers are finite, throughout. -/
def isCanonical : Json → Bool
  | number (.float x) => x.isFinite
  | array items => areCanonical items
  | object es => ascends (es.map (·.1)) && entriesAreCanonical es
  | _ => true

def areCanonical : List Json → Bool
  | [] => true
  | j :: js => isCanonical j && areCanonical js

def entriesAreCanonical : List (String × Json) → Bool
  | [] => true
  | (_, j) :: es => isCanonical j && entriesAreCanonical es

end

mutual

/-- Equality up to the sign of zero. -/
def same : Json → Json → Bool
  | null, null => true
  | bool b, bool c => b == c
  | number m, number n => m.same n
  | string s, string t => s == t
  | array xs, array ys => sameItems xs ys
  | object es, object fs => sameEntries es fs
  | _, _ => false

def sameItems : List Json → List Json → Bool
  | [], [] => true
  | x :: xs, y :: ys => x.same y && sameItems xs ys
  | _, _ => false

def sameEntries : List (String × Json) → List (String × Json) → Bool
  | [], [] => true
  | (k, x) :: es, (l, y) :: fs => k == l && x.same y && sameEntries es fs
  | _, _ => false

end

mutual

def toValue : Json → Value
  | null => .null
  | bool b => .bool b
  | number n => .number n
  | string s => .string s
  | array items => .seq (toValues items)
  | object es => .map (toEntries es)

def toValues : List Json → List Value
  | [] => []
  | j :: js => toValue j :: toValues js

def toEntries : List (String × Json) → List (Value × Value)
  | [] => []
  | (k, j) :: es => (.string k, toValue j) :: toEntries es

end

mutual

/-- The data that a value denotes. A number that is not finite becomes null, and the last entry of
a key counts. -/
def ofValue : Value → Except ReadError Json
  | .null => .ok null
  | .bool b => .ok (bool b)
  | .number (.int n) => .ok (number (.int n))
  | .number (.float x) => .ok (if x.isFinite then number (.float x) else null)
  | .string s => .ok (string s)
  | .seq items => (ofValues items).map array
  | .map entries => (ofEntries true [] entries).map object
  | .tagged t v => Value.mismatch (.tagged t v) "any valid JSON value"

def ofValues : List Value → Except ReadError (List Json)
  | [] => .ok []
  | v :: vs => do
    let j ← ofValue v
    return j :: (← ofValues vs)

/-- Put entries into an object. What is expected of a key depends on whether it is the first. -/
def ofEntries (isFirst : Bool) (object : List (String × Json)) :
    List (Value × Value) → Except ReadError (List (String × Json))
  | [] => .ok object
  | (k, v) :: entries => do
    let key ← k.readText (if isFirst then "a string key" else "a string")
    let j ← ofValue v
    ofEntries false (Entries.insert key j object) entries

end

/-! ## Reading gives canonical data -/

theorem ascends_iff {keys : List String} : ascends keys ↔ keys.Pairwise (· < ·) := by
  fun_induction ascends keys with
  | case1 k l keys ih =>
    simp only [Bool.and_eq_true, decide_eq_true_eq, ih, List.pairwise_cons]
    constructor
    · rintro ⟨hkl, hl, hkeys⟩
      refine ⟨fun m hm => ?_, hl, hkeys⟩
      rcases List.mem_cons.1 hm with rfl | hm
      · exact hkl
      · exact String.lt_trans hkl (hl m hm)
    · rintro ⟨hk, hl, hkeys⟩
      exact ⟨hk l List.mem_cons_self, hl, hkeys⟩
  | case2 keys h =>
    match keys, h with
    | [], _ => simp
    | [k], _ => simp
    | k :: l :: keys, h => exact (h k l keys rfl).elim

theorem ascends_map_iff {es : List (String × Json)} :
    ascends (es.map (·.1)) ↔ Entries.Ascending es := by
  rw [ascends_iff, Entries.Ascending, List.pairwise_map]

theorem entriesAreCanonical_iff {es : List (String × Json)} :
    entriesAreCanonical es ↔ ∀ e ∈ es, e.2.isCanonical := by
  induction es with
  | nil => simp [entriesAreCanonical]
  | cons e es ih => simp [entriesAreCanonical, ih]

theorem isCanonical_object_iff {es : List (String × Json)} :
    (object es).isCanonical ↔ Entries.Ascending es ∧ ∀ e ∈ es, e.2.isCanonical := by
  simp [isCanonical, ascends_map_iff, entriesAreCanonical_iff]

theorem isCanonical_object_insert {es : List (String × Json)} {k : String} {j : Json}
    (h : (object es).isCanonical) (hj : j.isCanonical) :
    (object (Entries.insert k j es)).isCanonical := by
  rw [isCanonical_object_iff] at h ⊢
  refine ⟨h.1.insert k j, fun e he => ?_⟩
  rcases Entries.mem_insert he with rfl | he
  · exact hj
  · exact h.2 e he

mutual

theorem isCanonical_of_ofValue {v : Value} {j : Json} (h : ofValue v = .ok j) :
    j.isCanonical := by
  match v with
  | .null => cases h; rfl
  | .bool b => cases h; rfl
  | .number (.int n) => cases h; rfl
  | .number (.float x) =>
    cases h
    by_cases hx : x.isFinite
    · simp [hx, isCanonical]
    · simp [hx, isCanonical]
  | .string s => cases h; rfl
  | .seq items =>
    obtain ⟨js, hjs, rfl⟩ := Result.exists_of_map h
    simpa [isCanonical] using areCanonical_of_ofValues hjs
  | .map entries =>
    obtain ⟨es, hes, rfl⟩ := Result.exists_of_map h
    exact isCanonical_of_ofEntries rfl hes
  | .tagged t v => cases h

theorem areCanonical_of_ofValues {vs : List Value} {js : List Json} (h : ofValues vs = .ok js) :
    areCanonical js := by
  match vs with
  | [] => cases h; rfl
  | v :: vs =>
    obtain ⟨j, hj, h⟩ := Result.exists_of_bind h
    obtain ⟨js, hjs, h⟩ := Result.exists_of_bind h
    cases h
    simp [areCanonical, isCanonical_of_ofValue hj, areCanonical_of_ofValues hjs]

theorem isCanonical_of_ofEntries {isFirst : Bool} {es fs : List (String × Json)}
    {entries : List (Value × Value)} (hes : (object es).isCanonical)
    (h : ofEntries isFirst es entries = .ok fs) : (object fs).isCanonical := by
  match entries with
  | [] => cases h; exact hes
  | (k, v) :: entries =>
    obtain ⟨key, _, h⟩ := Result.exists_of_bind h
    obtain ⟨j, hj, h⟩ := Result.exists_of_bind h
    exact isCanonical_of_ofEntries
      (isCanonical_object_insert hes (isCanonical_of_ofValue hj)) h

end

/-- Canonical data. -/
structure Payload where
  json : Json
  canonical : json.isCanonical

namespace Payload

/-- The payload that a value denotes. -/
def read : Value.Reader Payload := fun v =>
  match h : ofValue v with
  | .ok j => .ok ⟨j, isCanonical_of_ofValue h⟩
  | .error e => .error e

def same (p q : Payload) : Bool := p.json.same q.json

end Payload

end Json
end InstallManifest
