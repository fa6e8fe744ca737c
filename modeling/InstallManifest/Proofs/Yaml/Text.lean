import InstallManifest.Proofs.Yaml.Document

/-!
# Texts as bytes

The bytes of a text are read as the characters of the text, so whether a tree is
read back from its own bytes (`Value.IsReadBack`) can be settled on characters. The text of a
mapping that is not empty has a colon, so its bytes are never blank.
-/
namespace InstallManifest.Yaml

/-! ## Bytes -/

theorem toList_loop_eq (bytes : ByteArray) (i : Nat) (front : List UInt8) :
    ByteArray.toList.loop bytes i front = front.reverse ++ bytes.data.toList.drop i := by
  induction i, front using ByteArray.toList.loop.induct bytes with
  | case1 i front hi ih =>
    have hlength : i < bytes.data.toList.length := by simpa using hi
    have hget : bytes.get! i = bytes.data.toList[i] := getElem!_pos bytes.data i hi
    rw [ByteArray.toList.loop, if_pos hi, ih, List.drop_eq_getElem_cons hlength, hget]
    simp
  | case2 i front hi =>
    have hlength : bytes.data.toList.length ≤ i := by simpa using hi
    rw [ByteArray.toList.loop, if_neg hi, List.drop_eq_nil_of_le hlength, List.append_nil]

theorem toList_eq_data (bytes : ByteArray) : bytes.toList = bytes.data.toList := by
  rw [ByteArray.toList, toList_loop_eq]
  simp

/-- A character of one byte is found among the bytes of a text. -/
theorem mem_toList_toUTF8 {c : Char} (hc : c.utf8Size = 1) {s : String} (h : c ∈ s.toList) :
    c.toUInt8 ∈ s.toUTF8.toList := by
  obtain ⟨before, after, hs⟩ := List.append_of_mem h
  have hbytes : s.toUTF8 = before.utf8Encode ++ [c].utf8Encode ++ after.utf8Encode := by
    rw [String.toUTF8_eq_toByteArray, ← String.utf8Encode_toList, hs, ← List.utf8Encode_append,
      ← List.utf8Encode_append]
    simp
  rw [toList_eq_data, hbytes]
  simp [List.utf8Encode_singleton, String.utf8EncodeChar_eq_singleton hc]

theorem isBlankBytes_toUTF8 {s : String} (h : ':' ∈ s.toList) : isBlankBytes s.toUTF8 = false := by
  rw [isBlankBytes, List.all_eq_false]
  exact ⟨_, mem_toList_toUTF8 (by decide) h, by decide⟩

theorem fromUTF8?_toUTF8 (s : String) : String.fromUTF8? s.toUTF8 = some s := by
  rw [String.toUTF8_eq_toByteArray, String.fromUTF8?, dif_pos s.isValidUTF8]
  rfl

/-! ## Documents -/

/-- The document of some characters. -/
def Document.ofChars? (cs : List Char) : Option Document :=
  if cs.all isAllowed then do
    let tokens ← Token.ofChars? cs
    let events ← Event.ofTokens? tokens
    ofEvents? events
  else none

theorem Document.ofBytes_toUTF8 (s : String) :
    ofBytes s.toUTF8 =
      match ofChars? s.toList with
      | some d => .ok d
      | none => .error .malformed := by
  have hdecode : Encoding.decode s.toUTF8 =
      if s.toList.all isAllowed then some s.toList else none := by
    rw [Encoding.decode, fromUTF8?_toUTF8]
    rfl
  unfold ofBytes ofChars?
  rw [hdecode]
  split <;> rfl

namespace Value

/-- Whether a tree is what a reader finds in some characters. -/
def isFoundIn (v : Value) (cs : List Char) : Bool :=
  match Document.ofChars? cs with
  | none => false
  | some d =>
    match d.value with
    | .ok w => v.isReadAs w
    | .error _ => false

/-- **Whether a tree is read back**: a reader of its bytes, if it can be written, finds the tree. -/
def IsReadBack (v : Value) : Prop :=
  ∀ bytes, v.toBytes = .ok bytes → ∃ w, Value.ofBytes bytes = .ok w ∧ v.isReadAs w

theorem isFoundIn_iff {v : Value} {s : String} :
    v.isFoundIn s.toList ↔ ∃ w, Value.ofBytes s.toUTF8 = .ok w ∧ v.isReadAs w := by
  unfold isFoundIn Value.ofBytes
  rw [Document.ofBytes_toUTF8]
  cases Document.ofChars? s.toList with
  | none => simp [bind, Except.bind]
  | some d => cases hd : d.value <;> simp [bind, Except.bind, hd]

theorem toBytes_eq_ok_iff {v : Value} {bytes : ByteArray} :
    v.toBytes = .ok bytes ↔
      v.writeError? false = none ∧ bytes = (String.ofList (part .root 0 v)).toUTF8 := by
  unfold toBytes text
  cases v.writeError? false <;> simp [Except.map, eq_comm]

/-- What holds of the bytes of a tree, if there are any, holds of those of its text. -/
theorem forall_toBytes_iff {v : Value} {P : ByteArray → Prop} :
    (∀ bytes, v.toBytes = .ok bytes → P bytes) ↔
      (v.writeError? false = none → P (String.ofList (part .root 0 v)).toUTF8) := by
  constructor
  · exact fun h hwrite => h _ (toBytes_eq_ok_iff.2 ⟨hwrite, rfl⟩)
  · intro h bytes hbytes
    obtain ⟨hwrite, rfl⟩ := toBytes_eq_ok_iff.1 hbytes
    exact h hwrite

theorem isReadBack_iff {v : Value} :
    v.IsReadBack ↔ (v.writeError? false = none → v.isFoundIn (part .root 0 v)) := by
  have hfound := isFoundIn_iff (v := v) (s := String.ofList (part .root 0 v))
  rw [String.toList_ofList] at hfound
  rw [hfound]
  exact forall_toBytes_iff

instance (v : Value) : Decidable v.IsReadBack := decidable_of_iff _ isReadBack_iff.symm

/-! ## The colon of a mapping -/

theorem colon_mem_entries {es : List (Value × Value)} (h : es ≠ []) (isFirst : Bool)
    (indent : Nat) : ':' ∈ entries isFirst indent es := by
  obtain ⟨⟨k, v⟩, es, rfl⟩ := List.exists_cons_of_ne_nil h
  unfold entries
  cases shortKey? k <;> simp

theorem colon_mem_part {es : List (Value × Value)} (h : es ≠ []) :
    ':' ∈ part .root 0 (map es) := by
  simp [part, h, colon_mem_entries h]

/-- The bytes of a mapping are not blank. -/
theorem isBlankBytes_of_toBytes_map {es : List (Value × Value)} (h : es ≠ []) {bytes : ByteArray}
    (hbytes : (map es).toBytes = .ok bytes) : isBlankBytes bytes = false := by
  obtain ⟨-, rfl⟩ := toBytes_eq_ok_iff.1 hbytes
  exact isBlankBytes_toUTF8 (by simpa using colon_mem_part h)

end Value
end InstallManifest.Yaml
