import InstallManifest.Proofs.Manifest.Restore
import InstallManifest.Proofs.Manifest.Strictness

/-!
# What is never read

Some manifests come out of no document: a status that is null stands for no status, so it is never
read as one, and free-form data of the metadata is null only where a number stands that is not
finite (`Manifest.payloads_of_ofValue`). A record is read entry by entry, and of the entries under
one name the last one counts (`Record.forall_of_read`).
-/
namespace InstallManifest
open Yaml

namespace Yaml.Value

/-- The last value under a name, whatever tags the name carries. -/
def lastUnder? (name : String) : List (Value × Value) → Option Value
  | [] => none
  | (k, v) :: es => (lastUnder? name es).or (if k.text? = some name then some v else none)

/-- The value under a name in a mapping, whatever tags are around the two. The last one counts. -/
def under? (name : String) (v : Value) : Option Value :=
  match v.untag with
  | map es => lastUnder? name es
  | _ => none

theorem under?_of_readEntries {v : Value} {es : List (Value × Value)} {expected name : String}
    (h : v.readEntries expected = .ok es) : v.under? name = lastUnder? name es := by
  unfold readEntries at h
  unfold under?
  split at h
  next hmap =>
    obtain rfl := Except.ok.inj h
    rw [hmap]
  next hnull =>
    obtain rfl := Except.ok.inj h
    rw [hnull]
    rfl
  next => cases h

mutual

/-- Whether all numbers of a tree are finite. -/
def isFinite : Value → Bool
  | number (.float x) => x.isFinite
  | seq vs => itemsAreFinite vs
  | map es => entriesAreFinite es
  | tagged _ v => v.isFinite
  | _ => true

def itemsAreFinite : List Value → Bool
  | [] => true
  | v :: vs => v.isFinite && itemsAreFinite vs

def entriesAreFinite : List (Value × Value) → Bool
  | [] => true
  | (k, v) :: es => k.isFinite && v.isFinite && entriesAreFinite es

end

section Finite
variable {v w : Value}

theorem isFinite_untag (v : Value) : v.untag.isFinite = v.isFinite := by
  induction v using untag.induct with
  | case1 tag v ih => rw [untag, ih, isFinite]
  | case2 v hv => rw [untag]; exact hv

theorem itemsAreFinite_iff {vs : List Value} : itemsAreFinite vs ↔ ∀ v ∈ vs, v.isFinite := by
  induction vs with
  | nil => simp [itemsAreFinite]
  | cons v vs ih => simp [itemsAreFinite, ih]

theorem isFinite_of_lastUnder? {es : List (Value × Value)} {name : String}
    (hes : entriesAreFinite es) (hw : lastUnder? name es = some w) : w.isFinite := by
  induction es with
  | nil => cases hw
  | cons e es ih =>
    simp only [entriesAreFinite, Bool.and_eq_true] at hes
    rw [lastUnder?, Option.or_eq_some_iff] at hw
    obtain hlast | ⟨-, hhere⟩ := hw
    · exact ih hes.2 hlast
    · obtain ⟨-, rfl⟩ : e.1.text? = some name ∧ e.2 = w := by simpa using hhere
      exact hes.1.2

theorem isFinite_of_under? {name : String} (hv : v.isFinite) (hw : v.under? name = some w) :
    w.isFinite := by
  rw [← isFinite_untag] at hv
  unfold under? at hw
  split at hw
  next es hes =>
    rw [hes, isFinite] at hv
    exact isFinite_of_lastUnder? hv hw
  next => cases hw

theorem isFinite_of_readItems {vs : List Value} (hv : v.isFinite) (h : v.readItems = .ok vs) :
    ∀ w ∈ vs, w.isFinite := by
  rw [← isFinite_untag] at hv
  unfold readItems at h
  split at h
  next hvs =>
    obtain rfl := Except.ok.inj h
    rw [hvs, isFinite, itemsAreFinite_iff] at hv
    exact hv
  next =>
    obtain rfl := Except.ok.inj h
    simp
  next => cases h

end Finite
end Yaml.Value

open Value

/-! ## Records -/

namespace Yaml
variable {α β : Type}

/-- Whether taking a value into a record makes something hold of the record. -/
def Field.Gives (P : α → Prop) (w : Value) (f : Field Value α) : Prop :=
  ∀ change, f.read w = .ok change → ∀ x, P (change x)

/-- Whether taking a value into a record keeps what holds of the record so far. -/
def Field.Keeps (P : α → Prop) (f : Field Value α) : Prop :=
  ∀ w change, f.read w = .ok change → ∀ x, P x → P (change x)

section Fields
variable {P : α → Prop} {w : Value} {name : String} {c : Codec Value β}

theorem Field.Gives.always {get : α → β} {set : β → α → α}
    (h : ∀ y, c.read w = .ok y → ∀ x, P (set y x)) : (Field.always name get set c).Gives P w := by
  intro change hchange
  obtain ⟨y, hy, rfl⟩ := Result.exists_of_map hchange
  exact h y hy

theorem Field.Gives.optional {get : α → Option β} {set : Option β → α → α}
    (hnone : ∀ x, P (set none x))
    (h : w ≠ .null → ∀ y, c.read w = .ok y → ∀ x, P (set (some y) x)) :
    (Field.optional name get set c).Gives P w := by
  intro change hchange
  obtain ⟨-, rfl⟩ | ⟨hnull, y, hy, rfl⟩ := Field.exists_of_read_optional hchange
  · exact hnone
  · exact h hnull y hy

theorem Field.Keeps.always {get : α → β} {set : β → α → α} (h : ∀ y x, P x → P (set y x)) :
    (Field.always name get set c).Keeps P := by
  intro w change hchange
  obtain ⟨y, -, rfl⟩ := Result.exists_of_map hchange
  exact h y

theorem Field.Keeps.text {get : α → String} {set : String → α → α}
    (h : ∀ s x, P x → P (set s x)) : (Field.text name get set).Keeps P :=
  show (Field.always name get set .string).Keeps P from .always h

theorem Field.Keeps.optional {get : α → Option β} {set : Option β → α → α}
    (h : ∀ y x, P x → P (set y x)) : (Field.optional name get set c).Keeps P := by
  intro w change hchange
  obtain ⟨-, rfl⟩ | ⟨-, y, -, rfl⟩ := Field.exists_of_read_optional hchange
  · exact h none
  · exact h (some y)

end Fields

namespace Record
variable {r : Record Value α} {P : α → Prop} {name : String}

/-- Along the entries, what the value under a name gives holds from the last such entry on. -/
theorem forall_of_readEntries (hname : name ∈ r.fields.map (·.name)) {es : List (Value × Value)}
    {seen : List String} {x : α} {outcome : List String × α}
    (hread : r.readEntries seen x (Keys.parts es) = .ok outcome)
    (hx : P x ∨ (lastUnder? name es).isSome)
    (h : ∀ f ∈ r.fields, f.name ≠ name ∧ f.Keeps P ∨
      f.name = name ∧ ∀ w ∈ lastUnder? name es, f.Gives P w) : P outcome.2 := by
  induction es generalizing seen x with
  | nil =>
    obtain rfl := Except.ok.inj hread
    exact hx.resolve_right (by simp [lastUnder?])
  | cons e es ih =>
    obtain ⟨k, v⟩ := e
    have hlater : ∀ w ∈ lastUnder? name es, w ∈ lastUnder? name ((k, v) :: es) :=
      fun w hw => Option.or_eq_some_iff.2 (.inl hw)
    have hrest : ∀ f ∈ r.fields, f.name ≠ name ∧ f.Keeps P ∨
        f.name = name ∧ ∀ w ∈ lastUnder? name es, f.Gives P w := fun f hf =>
      (h f hf).imp_right fun ⟨heq, hgives⟩ => ⟨heq, fun w hw => hgives w (hlater w hw)⟩
    obtain ⟨key, hkey, hentry⟩ := Keys.readEntries_cons_eq_ok_iff.1 hread
    have htext : k.text? = some key := Keys.text?_of_readText hkey
    cases hlast : lastUnder? name es with
    | some w =>
      obtain ⟨-, hnext⟩ | ⟨f, change, -, -, -, hnext⟩ := hentry
      · exact ih hnext (.inr (by rw [hlast]; rfl)) hrest
      · exact ih hnext (.inr (by rw [hlast]; rfl)) hrest
    | none =>
      have hunder : lastUnder? name ((k, v) :: es) = if key = name then some v else none := by
        simp [lastUnder?, hlast, htext]
      rw [hunder] at hx h
      obtain ⟨hnone, hnext⟩ | ⟨f, change, hf, -, hchange, hnext⟩ := hentry
      · -- The name is that of a field, so this is another one.
        have hkeyname : key ≠ name := by
          rintro rfl
          obtain ⟨f, hf, hfname⟩ := List.mem_map.1 hname
          exact absurd hfname (by simpa using List.find?_eq_none.1 hnone f hf)
        exact ih hnext (.inl (hx.resolve_right (by simp [hkeyname]))) hrest
      · have hfname : f.name = key := by simpa using List.find?_some hf
        obtain ⟨hother, hkeeps⟩ | ⟨hsame, hgives⟩ := h f (List.mem_of_find?_eq_some hf)
        · have hx' : P x := hx.resolve_right (by simp [← hfname, hother])
          exact ih hnext (.inl (hkeeps v change hchange x hx')) hrest
        · have hv : v ∈ if key = name then some v else none := by simp [← hfname, hsame]
          exact ih hnext (.inl (hgives v hv change hchange x)) hrest

/-- **What the value under a name gives holds of the record that is read**, if it holds without the
name and no other field has a part in it. -/
theorem forall_of_read (name : String) (hname : name ∈ r.fields.map (·.name)) {v : Value} {x : α}
    (hread : r.read v = .ok x) (hblank : P r.blank)
    (h : ∀ f ∈ r.fields, f.name ≠ name ∧ f.Keeps P ∨
      f.name = name ∧ ∀ w ∈ v.under? name, f.Gives P w) : P x := by
  have hentries : (do r.ofEntries (← Source.entries r.name v)) = .ok x :=
    Result.mapError_eq_ok.1 hread
  obtain ⟨parts, hparts, hrecord⟩ := Result.exists_of_bind hentries
  obtain ⟨es, hes, hparts⟩ := Result.exists_of_bind hparts
  obtain rfl : Keys.parts es = parts := Except.ok.inj hparts
  obtain ⟨outcome, houtcome, hrecord⟩ := Result.exists_of_bind hrecord
  rw [under?_of_readEntries hes] at h
  have hx : P outcome.2 := forall_of_readEntries hname houtcome (.inl hblank) h
  dsimp only at hrecord
  split at hrecord
  next => cases hrecord
  next =>
    obtain rfl := Except.ok.inj hrecord
    exact hx

end Record
end Yaml

/-! ## Parts of a manifest -/

/-- Only null and numbers that are not finite are null as free-form data. -/
theorem Json.ne_null_of_ofValue {v : Value} {j : Json} (h : ofValue v = .ok j) (hv : v ≠ .null)
    (hfinite : v.isFinite) : j ≠ null := by
  rintro rfl
  match v with
  | .null => exact hv rfl
  | .bool _ | .number (.int _) | .string _ => cases h
  | .number (.float x) =>
    have hx : x.isFinite := hfinite
    simp [ofValue, hx] at h
  | .seq _ =>
    obtain ⟨_, -, h⟩ := Result.exists_of_map h
    cases h
  | .map _ =>
    obtain ⟨_, -, h⟩ := Result.exists_of_map h
    cases h
  | .tagged _ _ => cases h

theorem Json.Payload.ofValue_of_read {v : Value} {p : Payload} (h : read v = .ok p) :
    ofValue v = .ok p.json := by
  unfold read at h
  split at h
  next hj =>
    obtain rfl := Except.ok.inj h
    exact hj
  next => cases h

theorem ManagedFields.payload_of_read {v : Value} {x : ManagedFields}
    (hread : record.read v = .ok x) (hv : v.isFinite) : ∀ p ∈ x.fieldsV1, p.json ≠ .null := by
  refine Record.forall_of_read "fieldsV1" (P := fun x => ∀ p ∈ x.fieldsV1, p.json ≠ .null)
    (by decide) hread (by simp [record, blank]) ?_
  simp only [record, List.forall_mem_cons]
  refine ⟨?_, ?_, .inr ⟨rfl, fun w hw => .optional (by simp) fun hnull p hp x => ?_⟩, ?_, ?_, ?_,
    ?_, by simp⟩
  case refine_3 =>
    have hp' : p.json ≠ .null := Json.ne_null_of_ofValue (Json.Payload.ofValue_of_read hp) hnull
      (isFinite_of_under? hv hw)
    simpa using hp'
  all_goals exact .inl ⟨by decide, .optional fun _ _ h => h⟩

theorem ObjectMeta.payloads_of_read {v : Value} {x : ObjectMeta} (hread : record.read v = .ok x)
    (hv : ∀ w ∈ v.under? "managedFields", w.isFinite) : ∀ p ∈ x.payloads, p.json ≠ .null := by
  refine Record.forall_of_read "managedFields" (P := fun x => ∀ p ∈ x.payloads, p.json ≠ .null)
    (by decide) hread (by simp [record, blank, payloads]) ?_
  simp only [record, List.forall_mem_cons]
  refine ⟨?_, ?_, ?_, ?_, ?_, ?_, ?_, ?_, .inr ⟨rfl, fun w hw => .optional (by simp [payloads]) ?_⟩,
    ?_, ?_, ?_, ?_, ?_, ?_, by simp⟩
  case refine_9 =>
    intro _ l hl x p hp
    -- The payload is that of an entry, and the entry was read from an item.
    obtain ⟨items, hitems, hl⟩ := Result.exists_of_bind hl
    obtain ⟨e, he, hpayload⟩ : ∃ e ∈ l, e.fieldsV1 = some p := by simpa [payloads] using hp
    obtain ⟨item, hitem, hread⟩ := Result.exists_mem_of_mapM_eq_ok hl he
    exact ManagedFields.payload_of_read hread (isFinite_of_readItems (hv w hw) hitems item hitem) p
      hpayload
  all_goals exact .inl ⟨by decide, .optional fun _ _ h => h⟩

namespace Manifest
variable {v : Value} {m : Manifest}

/-- **No payload is null** if the managed fields of the document hold nothing but finite numbers. -/
theorem payloads_of_ofValue (h : ofValue v = .ok m)
    (hv : ∀ w ∈ v.under? "metadata", ∀ fields ∈ w.under? "managedFields", fields.isFinite) :
    ∀ p ∈ m.metadata.payloads, p.json ≠ .null := by
  refine Record.forall_of_read "metadata" (P := fun m => ∀ p ∈ m.metadata.payloads, p.json ≠ .null)
    (by decide) h (by simp [record, blank, ObjectMeta.blank, ObjectMeta.payloads]) ?_
  simp only [record, List.forall_mem_cons]
  exact ⟨.inl ⟨by decide, .text fun _ _ h => h⟩, .inl ⟨by decide, .text fun _ _ h => h⟩,
    .inr ⟨rfl, fun w hw => .always fun x hx _ => ObjectMeta.payloads_of_read hx (hv w hw)⟩,
    .inl ⟨by decide, .always fun _ _ h => h⟩, .inl ⟨by decide, .optional fun _ _ h => h⟩, by simp⟩

theorem eq_null_of_readAny (h : v.readAny = .ok .null) : v = .null := by
  match v with
  | .null => rfl
  | .bool _ | .number _ | .string _ => cases h
  | .seq _ | .map _ | .tagged _ _ =>
    rw [readAny] at h
    obtain ⟨_, -, h⟩ := Result.exists_of_bind h
    cases h

/-- **No status is null.** -/
theorem status_of_ofValue (h : ofValue v = .ok m) : m.status ≠ some .null := by
  refine Record.forall_of_read "status" (P := fun m => m.status ≠ some .null) (by decide) h
    (by simp [record, blank]) ?_
  simp only [record, List.forall_mem_cons]
  refine ⟨.inl ⟨by decide, .text fun _ _ h => h⟩, .inl ⟨by decide, .text fun _ _ h => h⟩,
    .inl ⟨by decide, .always fun _ _ h => h⟩, .inl ⟨by decide, .always fun _ _ h => h⟩,
    .inr ⟨rfl, fun w _ => .optional (by simp) fun hnull y hy _ hstatus => hnull ?_⟩, by simp⟩
  obtain rfl : y = .null := Option.some.inj hstatus
  exact eq_null_of_readAny hy

end Manifest
end InstallManifest
