import InstallManifest.Proofs.Yaml.Written
import InstallManifest.Yaml.Printer

/-!
# Trees that are printed alike

A text does not say everything about its tree: a mark in front of the name of a tag is not seen in
it, and neither is which number stands behind the word for one that is none. Trees are `Alike` if
nothing that is printed tells them apart, and a tree that is made of parts like those of another one
is like that one. What a reader finds in the text of a tree is like the tree
(`Value.alike_of_isReadAs`), so its text is the one that was read.
-/
namespace InstallManifest.Yaml
open Decimal

/-- All numbers that are none have the same word. -/
theorem Number.text_eq_of_isReadAs {m n : Number} (h : m.isReadAs n) : m.text = n.text := by
  match m, n with
  | int m, int n =>
    obtain rfl : m = n := by simpa [isReadAs] using h
    rfl
  | float x, float y =>
    simp only [isReadAs, Bool.or_eq_true, Bool.and_eq_true, beq_iff_eq] at h
    rcases h with rfl | ⟨hx, hy⟩
    · rfl
    · simp only [text, Binary64.Layout.text, hx, hy, if_true]

namespace Value

/-- Whether nothing that is printed tells two trees apart, wherever they stand. -/
structure Alike (v w : Value) : Prop where
  part (slot : Slot) (indent : Nat) : v.part slot indent = w.part slot indent
  simpleKey : simpleKey? v = simpleKey? w
  isAmbiguousKey : v.isAmbiguousKey = w.isAmbiguousKey
  writeError (underTag : Bool) : v.writeError? underTag = w.writeError? underTag

namespace Alike
variable {v w : Value}

theorem refl (v : Value) : Alike v v := ⟨fun _ _ => rfl, rfl, rfl, fun _ => rfl⟩

theorem rel_refl (v : Option Value) : Option.Rel Alike v v := by
  cases v with
  | none => exact .none
  | some v => exact .some (.refl v)

theorem text (h : Alike v w) : v.text = w.text := by
  rw [Value.text, Value.text, h.writeError, h.part]

/-! ## Parts -/

theorem number {m n : Number} (h : m.text = n.text) : Alike (number m) (number n) where
  part slot indent := by simp only [Value.part, word, h]
  simpleKey := by simp only [simpleKey?, word, h]
  isAmbiguousKey := rfl
  writeError _ := rfl

theorem tagged {s t : String} (hname : tagSuffix s = tagSuffix t) (h : Alike v w) :
    Alike (tagged s v) (tagged t w) where
  part slot indent := by simp only [Value.part, tagText, hname, h.part]
  simpleKey := by simp only [simpleKey?, tagText, hname, h.simpleKey]
  isAmbiguousKey := rfl
  writeError underTag := by simp only [writeError?, h.writeError]

theorem items {vs ws : List Value} (h : List.Forall₂ Alike vs ws) (isFirst : Bool) (indent : Nat) :
    items isFirst indent vs = items isFirst indent ws := by
  induction h generalizing isFirst with
  | nil => rfl
  | cons hv _ ih => simp only [Value.items, hv.part, ih]

theorem writeErrorOfItems {vs ws : List Value} (h : List.Forall₂ Alike vs ws) :
    writeErrorOfItems? vs = writeErrorOfItems? ws := by
  induction h with
  | nil => rfl
  | cons hv _ ih => simp only [writeErrorOfItems?, hv.writeError, ih]

theorem seq {vs ws : List Value} (h : List.Forall₂ Alike vs ws) : Alike (seq vs) (seq ws) where
  part slot indent := by
    have hempty : vs.isEmpty = ws.isEmpty := by cases h <;> rfl
    simp only [Value.part, hempty, items h]
  simpleKey := by cases h <;> rfl
  isAmbiguousKey := rfl
  writeError _ := by simp only [writeError?, writeErrorOfItems h]

/-- Entries with keys and values that are alike. -/
abbrev Entries (es fs : List (Value × Value)) : Prop :=
  List.Forall₂ (fun e f => Alike e.1 f.1 ∧ Alike e.2 f.2) es fs

theorem entries {es fs : List (Value × Value)} (h : Entries es fs) (isFirst : Bool)
    (indent : Nat) : entries isFirst indent es = entries isFirst indent fs := by
  induction h generalizing isFirst with
  | nil => rfl
  | @cons e f _ _ he _ ih =>
    obtain ⟨k, v⟩ := e
    obtain ⟨l, w⟩ := f
    have hkey : shortKey? k = shortKey? l := by rw [shortKey?, shortKey?, he.1.simpleKey]
    simp only [Value.entries, hkey, he.1.part, he.2.part, ih]

theorem writeErrorOfEntries {es fs : List (Value × Value)} (h : Entries es fs) :
    writeErrorOfEntries? es = writeErrorOfEntries? fs := by
  induction h with
  | nil => rfl
  | @cons e f _ _ he _ ih =>
    obtain ⟨k, v⟩ := e
    obtain ⟨l, w⟩ := f
    simp only [writeErrorOfEntries?, he.1.writeError, he.2.writeError, ih]

theorem map {es fs : List (Value × Value)} (h : Entries es fs) : Alike (map es) (map fs) where
  part slot indent := by
    have hempty : es.isEmpty = fs.isEmpty := by cases h <;> rfl
    simp only [Value.part, hempty, entries h]
  simpleKey := by cases h <;> rfl
  isAmbiguousKey := by
    cases h with
    | nil => rfl
    | cons _ hrest => cases hrest <;> rfl
  writeError underTag := by
    have hentries := writeErrorOfEntries h
    cases h with
    | nil => rfl
    | @cons e f _ _ he hrest =>
      obtain ⟨k, v⟩ := e
      obtain ⟨l, w⟩ := f
      cases hrest with
      | nil => simp only [writeError?, he.1.isAmbiguousKey, hentries]
      | cons => simp only [writeError?, hentries]

end Alike

/-! ## What was found -/

theorem tagSuffix_eq_of_bareTag {s t : String} (hs : bareTag s = t) (ht : bareTag t = t) :
    tagSuffix s = tagSuffix t := by
  rw [tagSuffix, tagSuffix, hs, ht]

mutual

/-- **What a reader finds in the text of a tree is printed like the tree.** -/
theorem alike_of_isReadAs {v w : Value} (h : v.isReadAs w) : Alike v w := by
  match v, w with
  | null, null => exact .refl null
  | bool b, bool c =>
    obtain rfl : b = c := by simpa [isReadAs] using h
    exact .refl _
  | number m, number n => exact .number (Number.text_eq_of_isReadAs (by simpa [isReadAs] using h))
  | string s, string t =>
    obtain rfl : s = t := by simpa [isReadAs] using h
    exact .refl _
  | seq vs, seq ws => exact .seq (itemsAlike_of_areReadAs (by simpa [isReadAs] using h))
  | map es, map fs => exact .map (entriesAlike_of_areReadAs (by simpa [isReadAs] using h))
  | tagged s v, tagged t w =>
    simp only [isReadAs, Bool.and_eq_true, beq_iff_eq] at h
    exact .tagged (tagSuffix_eq_of_bareTag h.1.1 h.1.2) (alike_of_isReadAs h.2)

theorem itemsAlike_of_areReadAs {vs ws : List Value} (h : itemsAreReadAs vs ws) :
    List.Forall₂ Alike vs ws := by
  match vs, ws with
  | [], [] => exact .nil
  | v :: vs, w :: ws =>
    simp only [itemsAreReadAs, Bool.and_eq_true] at h
    exact .cons (alike_of_isReadAs h.1) (itemsAlike_of_areReadAs h.2)

theorem entriesAlike_of_areReadAs {es fs : List (Value × Value)} (h : entriesAreReadAs es fs) :
    Alike.Entries es fs := by
  match es, fs with
  | [], [] => exact .nil
  | (k, v) :: es, (l, w) :: fs =>
    simp only [entriesAreReadAs, Bool.and_eq_true] at h
    exact .cons ⟨alike_of_isReadAs h.1.1, alike_of_isReadAs h.1.2⟩
      (entriesAlike_of_areReadAs h.2)

end

end Value
end InstallManifest.Yaml
