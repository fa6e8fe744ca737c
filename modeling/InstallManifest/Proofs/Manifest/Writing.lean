import InstallManifest.Manifest.Basic
import InstallManifest.Yaml.Printer

/-!
# When a manifest can be written

What has no text are some tags and some keys, and a manifest has
neither outside its status: its keys are texts, and its free-form metadata knows no tags. So a
manifest can be written exactly if its status can.
-/
namespace InstallManifest
open Yaml

namespace Yaml.Value

/-- Whether nothing in a tree is without a text. -/
def HasText (v : Value) : Prop := v.writeError? false = none

theorem hasText_iff {v : Value} : v.HasText ↔ ∃ s, v.text = .ok s := by
  unfold HasText text
  cases v.writeError? false <;> simp

theorem writeErrorOfItems?_eq_none_iff {vs : List Value} :
    writeErrorOfItems? vs = none ↔ ∀ v ∈ vs, v.HasText := by
  induction vs with
  | nil => simp [writeErrorOfItems?]
  | cons v vs ih => simp [writeErrorOfItems?, HasText, ih]

theorem hasText_seq_iff {vs : List Value} : (seq vs).HasText ↔ ∀ v ∈ vs, v.HasText := by
  rw [HasText, writeError?, writeErrorOfItems?_eq_none_iff]

theorem writeErrorOfEntries?_eq_none_iff {es : List (Value × Value)} :
    writeErrorOfEntries? es = none ↔ ∀ e ∈ es, e.1.HasText ∧ e.2.HasText := by
  induction es with
  | nil => simp [writeErrorOfEntries?]
  | cons e es ih => simp [writeErrorOfEntries?, HasText, ih, and_assoc]

/-- A text as a key is never taken for a tag. -/
theorem hasText_map_iff {es : List (Value × Value)} (hkeys : ∀ e ∈ es, ∃ s, e.1 = string s) :
    (map es).HasText ↔ ∀ e ∈ es, e.2.HasText := by
  -- Only a mapping with one entry is looked at for a tag.
  have hwrite : (map es).writeError? false = writeErrorOfEntries? es := by
    match es with
    | [] | _ :: _ :: _ => rfl
    | [(k, v)] =>
      obtain ⟨s, hs⟩ := hkeys (k, v) List.mem_cons_self
      obtain rfl : k = string s := hs
      simp [writeError?, isAmbiguousKey]
  rw [HasText, hwrite, writeErrorOfEntries?_eq_none_iff]
  refine ⟨fun h e he => (h e he).2, fun h e he => ⟨?_, h e he⟩⟩
  obtain ⟨s, hs⟩ := hkeys e he
  rw [hs]
  rfl

end Yaml.Value

/-! ## Records -/

namespace Yaml
variable {α β : Type}

/-- Whether everything that a field writes has a text. -/
def Field.HasText (f : Field Value α) : Prop := ∀ x v, f.write x = some v → v.HasText

namespace Field.HasText
variable {name : String} {c : Codec Value β} {set : β → α → α}

theorem always {get : α → β} (hc : ∀ y, (c.write y).HasText) :
    (Field.always name get set c).HasText := by
  intro x v hv
  obtain rfl : c.write (get x) = v := Option.some.inj hv
  exact hc _

theorem omitting {isTrivial : β → Bool} {get : α → β} (hc : ∀ y, (c.write y).HasText) :
    (Field.omitting isTrivial name get set c).HasText := by
  intro x v hv
  obtain ⟨-, rfl⟩ : _ ∧ c.write (get x) = v := by simpa [Field.omitting] using hv
  exact hc _

theorem text {get : α → String} {set : String → α → α} : (Field.text name get set).HasText :=
  omitting fun _ => rfl

theorem optional {get : α → Option β} {set : Option β → α → α}
    (hc : ∀ y, (c.write y).HasText) : (Field.optional name get set c).HasText := by
  intro x v hv
  obtain ⟨y, -, rfl⟩ := Option.map_eq_some_iff.1 hv
  exact hc y

end Field.HasText

theorem Codec.hasText_list {c : Codec Value β} (hc : ∀ y, (c.write y).HasText) (ys : List β) :
    (c.list.write ys).HasText := by
  refine Value.hasText_seq_iff.2 fun v hv => ?_
  obtain ⟨y, -, rfl⟩ := List.mem_map.1 hv
  exact hc y

theorem Record.hasText_iff {r : Record Value α} {x : α} :
    (r.toValue x).HasText ↔ ∀ f ∈ r.fields, ∀ v, f.write x = some v → v.HasText := by
  unfold Record.toValue
  rw [Value.hasText_map_iff]
  · constructor
    · intro h f hf v hv
      exact h (.string f.name, v) (List.mem_filterMap.2 ⟨f, hf, by rw [hv]; rfl⟩)
    · intro h e he
      obtain ⟨f, hf, hwrite⟩ := List.mem_filterMap.1 he
      obtain ⟨v, hv, rfl⟩ := Option.map_eq_some_iff.1 hwrite
      exact h f hf v hv
  · intro e he
    obtain ⟨f, -, hwrite⟩ := List.mem_filterMap.1 he
    obtain ⟨v, -, rfl⟩ := Option.map_eq_some_iff.1 hwrite
    exact ⟨f.name, rfl⟩

theorem Record.hasText {r : Record Value α} (h : ∀ f ∈ r.fields, f.HasText) (x : α) :
    (r.toValue x).HasText := Record.hasText_iff.2 fun f hf => h f hf x

end Yaml
open Yaml Value

/-! ## The parts of a manifest -/

namespace Json

mutual

theorem hasText_toValue (j : Json) : j.toValue.HasText := by
  match j with
  | null | bool _ | number _ | string _ => rfl
  | array items => exact hasText_seq_iff.2 (hasText_toValues items)
  | object es =>
    refine (hasText_map_iff fun e he => ?_).2 fun e he => ?_
    · exact (toEntries_shape es e he).1
    · exact (toEntries_shape es e he).2

theorem hasText_toValues (js : List Json) : ∀ v ∈ toValues js, v.HasText := by
  match js with
  | [] => simp [toValues]
  | j :: js => simpa [toValues] using ⟨hasText_toValue j, hasText_toValues js⟩

/-- The entries of an object have texts as keys, and their values have a text. -/
theorem toEntries_shape (es : List (String × Json)) :
    ∀ e ∈ toEntries es, (∃ s, e.1 = Value.string s) ∧ e.2.HasText := by
  match es with
  | [] => simp [toEntries]
  | (k, j) :: es =>
    simpa [toEntries] using ⟨hasText_toValue j, fun k v => toEntries_shape es (k, v)⟩

end

end Json

theorem OwnerReference.hasText (x : OwnerReference) : (record.toValue x).HasText := by
  have htext (name : String) (get : OwnerReference → String)
      (set : String → OwnerReference → OwnerReference) : (textField name get set).HasText := by
    intro x v hv
    obtain rfl : Value.string (get x) = v := Option.some.inj hv
    rfl
  refine Record.hasText ?_ x
  simp only [record, List.forall_mem_cons]
  exact ⟨htext _ _ _, .optional fun _ => rfl, .optional fun _ => rfl, htext _ _ _, htext _ _ _,
    htext _ _ _, by simp⟩

theorem ManagedFields.hasText (x : ManagedFields) : (record.toValue x).HasText := by
  refine Record.hasText ?_ x
  simp only [record, List.forall_mem_cons]
  exact ⟨.optional fun _ => rfl, .optional fun _ => rfl,
    .optional fun p => Json.hasText_toValue p.json, .optional fun _ => rfl, .optional fun _ => rfl,
    .optional fun _ => rfl, .optional fun _ => rfl, by simp⟩

theorem ObjectMeta.hasText_texts (m : SortedMap String) : (texts.write m).HasText := by
  refine (hasText_map_iff fun e he => ?_).2 fun e he => ?_
  · obtain ⟨p, -, rfl⟩ := List.mem_map.1 he
    exact ⟨p.1, rfl⟩
  · obtain ⟨p, -, rfl⟩ := List.mem_map.1 he
    rfl

theorem ObjectMeta.hasText (x : ObjectMeta) : (record.toValue x).HasText := by
  refine Record.hasText ?_ x
  simp only [record, List.forall_mem_cons]
  exact ⟨.optional hasText_texts, .optional fun _ => rfl, .optional fun _ => rfl,
    .optional fun _ => rfl, .optional (Codec.hasText_list fun _ => rfl), .optional fun _ => rfl,
    .optional fun _ => rfl, .optional hasText_texts,
    .optional (Codec.hasText_list ManagedFields.hasText), .optional fun _ => rfl,
    .optional fun _ => rfl, .optional (Codec.hasText_list OwnerReference.hasText),
    .optional fun _ => rfl, .optional fun _ => rfl, .optional fun _ => rfl, by simp⟩

theorem hasText_rangeField {α : Type} (isRequired : Bool) (get : α → String)
    (set : String → α → α) : (rangeField (σ := Value) isRequired get set).HasText := by
  intro x v hv
  obtain rfl : Value.string (get x) = v := Option.some.inj hv
  rfl

theorem ClusterRange.hasText (isRequired : Bool) (x : ClusterRange) :
    ((record (σ := Value) isRequired).toValue x).HasText := by
  refine Record.hasText ?_ x
  simp only [record, List.forall_mem_cons]
  exact ⟨hasText_rangeField _ _ _, .always fun _ => rfl, by simp⟩

theorem MachineRange.hasText (isRequired : Bool) (x : MachineRange) :
    ((record (σ := Value) isRequired).toValue x).HasText := by
  refine Record.hasText ?_ x
  simp only [record, List.forall_mem_cons]
  exact ⟨hasText_rangeField _ _ _, by simp⟩

namespace Manifest

theorem Reference.hasText (name : String) (x : Reference) : ((record name).toValue x).HasText := by
  refine Record.hasText ?_ x
  simp only [record, List.forall_mem_cons]
  exact ⟨.always fun _ => rfl, by simp⟩

theorem Networking.hasText (x : Networking) : (record.toValue x).HasText := by
  refine Record.hasText ?_ x
  simp only [record, List.forall_mem_cons]
  exact ⟨.omitting (Codec.hasText_list (MachineRange.hasText false)),
    .omitting (Codec.hasText_list (ClusterRange.hasText false)),
    .omitting (Codec.hasText_list fun _ => rfl), .text, .optional fun _ => rfl,
    by simp⟩

theorem Requirements.hasText (x : Requirements) : (record.toValue x).HasText := by
  refine Record.hasText ?_ x
  simp only [record, List.forall_mem_cons]
  exact ⟨.always fun _ => rfl, .always fun _ => rfl, by simp⟩

theorem Spec.hasText (x : Spec) : (record.toValue x).HasText := by
  refine Record.hasText ?_ x
  simp only [record, List.forall_mem_cons]
  exact ⟨.optional (Reference.hasText _), .always (Reference.hasText _),
    .always Networking.hasText, .text, .always Requirements.hasText,
    .optional fun _ => rfl, .optional fun _ => rfl, by simp⟩

/-- **A manifest has a text exactly if its status has one.** -/
theorem hasText_iff {m : Manifest} : m.toValue.HasText ↔ ∀ v, m.status = some v → v.HasText := by
  refine Record.hasText_iff.trans ?_
  simp only [record, List.forall_mem_cons]
  constructor
  · rintro ⟨-, -, -, -, hstatus, -⟩ v hv
    exact hstatus v (by simp [Field.optional, hv, Codec.any])
  · intro h
    refine ⟨Field.HasText.text m, Field.HasText.text m, Field.HasText.always ObjectMeta.hasText m,
      Field.HasText.always Spec.hasText m, fun v hv => ?_, by simp⟩
    obtain ⟨w, hw, rfl⟩ := Option.map_eq_some_iff.1 hv
    exact h w hw

end Manifest
end InstallManifest
