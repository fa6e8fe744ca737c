import InstallManifest.Proofs.Yaml.Written
import InstallManifest.Yaml.Bytes

/-!
# Trees that come from documents

A reader compares every key of a mapping with the keys in front of
it, at every depth and behind every alias, so no mapping of its tree has a key twice.
-/
namespace InstallManifest.Yaml
open Value

namespace Document

namespace Counting
variable {α β : Type} {m n : Nat}

/-- Where the outcome of a composed computation comes from. -/
theorem exists_of_bind {x : Counting α} {f : α → Counting β} {b : β}
    (h : (x >>= f) m = .ok (b, n)) : ∃ a k, x m = .ok (a, k) ∧ f a k = .ok (b, n) := by
  obtain ⟨⟨a, k⟩, ha, hb⟩ := Result.exists_of_bind (show (x m >>= fun p => f p.1 p.2) = _ from h)
  exact ⟨a, k, ha, hb⟩

theorem of_located {x : Counting α} {path : Path} {a : α}
    (h : located path x m = .ok (a, n)) : x m = .ok (a, n) :=
  Result.mapError_eq_ok.1 h

end Counting

/-- Every tree that a reader gives has different keys. -/
def NodeReader.GivesDistinctKeys (read : NodeReader) : Prop :=
  ∀ path node m v n, read path node m = .ok (v, n) → v.hasDistinctKeys

section Collections
variable {read : NodeReader} {path : Path} {m n : Nat}

theorem itemsHaveDistinctKeys_of_readItems (hread : read.GivesDistinctKeys) {i : Nat}
    {items : List Node} {vs : List Value} (h : readItems read path i items m = .ok (vs, n)) :
    itemsHaveDistinctKeys vs := by
  induction items generalizing i m vs with
  | nil =>
    cases h
    rfl
  | cons item items ih =>
    obtain ⟨v, k, hv, h⟩ := Counting.exists_of_bind h
    obtain ⟨ws, l, hws, h⟩ := Counting.exists_of_bind h
    cases h
    simp [itemsHaveDistinctKeys, hread _ _ _ _ _ hv, ih hws]

theorem entriesHaveDistinctKeys_of_readEntries (hread : read.GivesDistinctKeys)
    {seen : List Value} {entries : List (Node × Node)} {es : List (Value × Value)}
    (h : readEntries read path seen entries m = .ok (es, n)) :
    entriesHaveDistinctKeys seen es := by
  induction entries generalizing seen m es with
  | nil =>
    cases h
    rfl
  | cons entry entries ih =>
    obtain ⟨key, node⟩ := entry
    obtain ⟨k, l, hk, h⟩ := Counting.exists_of_bind h
    cases hfind : seen.find? k.same with
    | some earlier => simp [hfind, Counting.fail] at h
    | none =>
      simp only [hfind] at h
      obtain ⟨v, l, hv, h⟩ := Counting.exists_of_bind h
      obtain ⟨fs, l, hfs, h⟩ := Counting.exists_of_bind h
      cases h
      simp [entriesHaveDistinctKeys, hread _ _ _ _ _ hk, hfind, hread _ _ _ _ _ hv, ih hfs]

theorem hasDistinctKeys_of_scalarValue {meaning : Plain.Meaning} {v : Value}
    (h : scalarValue meaning = .ok v) : v.hasDistinctKeys := by
  cases meaning <;> cases h <;> rfl

theorem hasDistinctKeys_of_readContent {inner : Option NodeReader}
    (hinner : ∀ read ∈ inner, read.GivesDistinctKeys) {content : Content} {v : Value}
    (h : readContent inner path content m = .ok (v, n)) : v.hasDistinctKeys := by
  cases content with
  | scalar tag text presentation =>
    unfold readContent at h
    cases hmeaning : Content.meaning tag text presentation >>= scalarValue with
    | error cause => simp [hmeaning] at h
    | ok w =>
      simp only [hmeaning, Except.ok.injEq, Prod.mk.injEq] at h
      obtain ⟨meaning, -, hw⟩ := Result.exists_of_bind hmeaning
      exact h.1 ▸ hasDistinctKeys_of_scalarValue hw
  | seq tag items =>
    cases inner with
    | none => simp [readContent, Counting.fail] at h
    | some read =>
      obtain ⟨vs, l, hvs, h⟩ := Counting.exists_of_bind h
      cases h
      exact itemsHaveDistinctKeys_of_readItems (hinner read rfl) hvs
  | map tag entries =>
    cases inner with
    | none => simp [readContent, Counting.fail] at h
    | some read =>
      obtain ⟨es, l, hes, h⟩ := Counting.exists_of_bind h
      cases h
      exact entriesHaveDistinctKeys_of_readEntries (hinner read rfl) hes

theorem readWith_givesDistinctKeys (d : Document) {inner : Option NodeReader}
    (hinner : ∀ read ∈ inner, read.GivesDistinctKeys) :
    (d.readWith inner).GivesDistinctKeys := by
  intro path node m v n h
  obtain ⟨content, k, -, h⟩ := Counting.exists_of_bind (Counting.of_located h)
  obtain ⟨w, l, hw, h⟩ := Counting.exists_of_bind h
  have hdistinct := hasDistinctKeys_of_readContent hinner hw
  -- A local tag is put around the tree, and every other one is gone.
  have htag : v = w ∨ ∃ name, v = tagged name w := by
    cases htag : content.tag <;> simp only [htag] at h <;> cases h <;> simp
  rcases htag with rfl | ⟨name, rfl⟩
  · exact hdistinct
  · simpa [hasDistinctKeys] using hdistinct

end Collections

theorem readNode_givesDistinctKeys (d : Document) (depth : Nat) :
    (d.readNode depth).GivesDistinctKeys := by
  induction depth with
  | zero => exact d.readWith_givesDistinctKeys (by simp)
  | succ depth ih => exact d.readWith_givesDistinctKeys (by simpa using ih)

theorem hasDistinctKeys_of_value {d : Document} {v : Value} (h : d.value = .ok v) :
    v.hasDistinctKeys := by
  unfold value at h
  cases hroot : d.root with
  | none =>
    simp only [hroot] at h
    cases h
    rfl
  | some content =>
    simp only [hroot] at h
    obtain ⟨⟨w, n⟩, hw, hv⟩ := Result.exists_of_map h
    exact hv ▸ readNode_givesDistinctKeys d maxDepth _ _ _ _ _ hw

end Document

/-- **No key comes twice in a tree that was read from bytes.** -/
theorem Value.hasDistinctKeys_of_ofBytes {bytes : ByteArray} {v : Value}
    (h : Value.ofBytes bytes = .ok v) : v.hasDistinctKeys := by
  obtain ⟨d, -, hd⟩ := Result.exists_of_bind h
  exact Document.hasDistinctKeys_of_value hd

end InstallManifest.Yaml
