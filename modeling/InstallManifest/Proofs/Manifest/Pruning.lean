import InstallManifest.Proofs.Data.Result
import InstallManifest.Proofs.Manifest.Keys
import InstallManifest.Proofs.Manifest.Modes
import InstallManifest.Proofs.Manifest.Report

/-!
# Documents without their unknown keys

What strict decoding reports, lenient decoding has no use for. Taking the reported keys out of a
document (`Value.without`) is the same as keeping what the table of keys admits (`Keys.prune`), and
every reader of a part of a manifest finds in the pruned part what it finds in the whole
(`Keys.Spares`). So the two modes differ by nothing but the report
(`Manifest.decode_strict_of_lenient`).
-/
namespace InstallManifest
open Yaml Value

namespace Yaml.Value

mutual

/-- The value without the keys at some places. The place of the value itself comes first. What
stands under a tag is left as it is. -/
def without (paths : List Path) (path : Path) : Value → Value
  | map es => map (withoutEntries paths path es)
  | seq vs => seq (withoutItems paths path 0 vs)
  | v => v

def withoutEntries (paths : List Path) (path : Path) :
    List (Value × Value) → List (Value × Value)
  | [] => []
  | (k, v) :: es =>
    if path ++ [Keys.step k] ∈ paths then withoutEntries paths path es
    else (k, v.without paths (path ++ [Keys.step k])) :: withoutEntries paths path es

def withoutItems (paths : List Path) (path : Path) (index : Nat) : List Value → List Value
  | [] => []
  | v :: vs => v.without paths (path ++ [.item index]) :: withoutItems paths path (index + 1) vs

end

mutual

/-- Without any of its keys at the given places, a value stays as it is. -/
theorem without_eq_self {paths : List Path} {path : Path} {v : Value}
    (h : ∀ below, v.HasKey false below → path ++ below ∉ paths) : v.without paths path = v := by
  match v with
  | map es => rw [without, withoutEntries_eq_self h]
  | seq vs =>
    rw [without, withoutItems_eq_self fun i w hw below hkey => ?_]
    rw [Nat.zero_add]
    exact h _ (.item hw hkey)
  | null | Value.bool _ | number _ | string _ | tagged _ _ => rfl

theorem withoutEntries_eq_self {paths : List Path} {path : Path} {es : List (Value × Value)}
    (h : ∀ below, (map es).HasKey false below → path ++ below ∉ paths) :
    withoutEntries paths path es = es := by
  match es with
  | [] => rfl
  | (k, v) :: es =>
    have hstep : path ++ [Keys.step k] ∉ paths := h _ (.here List.mem_cons_self)
    have hvalue : v.without paths (path ++ [Keys.step k]) = v := by
      refine without_eq_self fun below hkey => ?_
      rw [List.append_assoc, List.singleton_append]
      exact h _ (.entry List.mem_cons_self hkey)
    have hrest : withoutEntries paths path es = es :=
      withoutEntries_eq_self fun below hkey => h below (HasKey.map_cons_iff.2 (.inr hkey))
    rw [withoutEntries, if_neg hstep, hvalue, hrest]

theorem withoutItems_eq_self {paths : List Path} {path : Path} {index : Nat} {vs : List Value}
    (h : ∀ i w, vs[i]? = some w → ∀ below, w.HasKey false below →
      path ++ .item (index + i) :: below ∉ paths) :
    withoutItems paths path index vs = vs := by
  match vs with
  | [] => rfl
  | v :: vs =>
    have hvalue : v.without paths (path ++ [.item index]) = v := by
      refine without_eq_self fun below hkey => ?_
      rw [List.append_assoc, List.singleton_append]
      exact h 0 v rfl below hkey
    have hrest : withoutItems paths path (index + 1) vs = vs := by
      refine withoutItems_eq_self fun i w hw below hkey => ?_
      rw [Nat.add_right_comm, Nat.add_assoc]
      exact h (i + 1) w hw below hkey
    rw [withoutItems, hvalue, hrest]

end

end Yaml.Value

namespace Keys

mutual

/-- The value without the keys that are not allowed. -/
def prune : Value → Keys → Value
  | .map es, fields known => .map (pruneEntries es known)
  | .seq vs, items inner => .seq (pruneItems vs inner)
  | v, _ => v

def pruneEntries : List (Value × Value) → List (String × Keys) → List (Value × Value)
  | [], _ => []
  | (k, v) :: es, known =>
    match under? known k with
    | some keys => (k, prune v keys) :: pruneEntries es known
    | none => pruneEntries es known

def pruneItems : List Value → Keys → List Value
  | [], _ => []
  | v :: vs, inner => prune v inner :: pruneItems vs inner

end

/-! ## Pruning takes out what is reported -/

mutual

/-- Taking out the keys at the places that a table refuses is pruning. -/
theorem without_eq_prune {paths : List Path} {path : Path} (v : Value) (keys : Keys)
    (h : ∀ below, v.HasKey false below → (path ++ below ∈ paths ↔ keys.refuses below)) :
    v.without paths path = prune v keys := by
  match v, keys with
  | map es, fields known => rw [without, prune, withoutEntries_eq_prune es known h]
  | seq vs, items inner =>
    rw [without, prune, withoutItems_eq_prune vs inner fun i w hw below hkey => ?_]
    rw [Nat.zero_add]
    exact h _ (.item hw hkey)
  | v, any =>
    rw [without_eq_self fun below hkey => by simp [h below hkey, refuses_any]]
    cases v <;> rfl
  -- Where the value is of another kind than the table, nothing in it is refused.
  | map es, items inner =>
    refine without_eq_self fun below hkey => ?_
    obtain ⟨k, below, rfl⟩ := hkey.exists_step
    simp [h _ hkey, refuses_items_step]
  | seq vs, fields known =>
    refine without_eq_self fun below hkey => ?_
    obtain ⟨i, v, below, -, rfl, -⟩ := HasKey.seq_iff.1 hkey
    simp [h _ hkey, refuses_fields_item]
  | null, fields _ | Value.bool _, fields _ | number _, fields _ | string _, fields _
  | tagged _ _, fields _ => rfl
  | null, items _ | Value.bool _, items _ | number _, items _ | string _, items _
  | tagged _ _, items _ => rfl

theorem withoutEntries_eq_prune {paths : List Path} {path : Path} (es : List (Value × Value))
    (known : List (String × Keys))
    (h : ∀ below, (map es).HasKey false below →
      (path ++ below ∈ paths ↔ (fields known).refuses below)) :
    withoutEntries paths path es = pruneEntries es known := by
  match es with
  | [] => rfl
  | (k, v) :: es =>
    have hstep : path ++ [step k] ∈ paths ↔ (fields known).refuses [step k] :=
      h _ (.here List.mem_cons_self)
    have hrest : withoutEntries paths path es = pruneEntries es known :=
      withoutEntries_eq_prune es known fun below hkey =>
        h below (HasKey.map_cons_iff.2 (.inr hkey))
    rw [withoutEntries, pruneEntries, hrest]
    cases hkeys : under? known k with
    | none =>
      rw [if_pos (hstep.2 (refuses_step_of_none hkeys []))]
    | some keys =>
      have hkept : path ++ [step k] ∉ paths := by
        rw [hstep, refuses_step_of_some hkeys, refuses_nil]
        simp
      rw [if_neg hkept, without_eq_prune v keys fun below hkey => ?_]
      rw [List.append_assoc, List.singleton_append, h _ (.entry List.mem_cons_self hkey),
        refuses_step_of_some hkeys]

theorem withoutItems_eq_prune {paths : List Path} {path : Path} {index : Nat} (vs : List Value)
    (inner : Keys)
    (h : ∀ i w, vs[i]? = some w → ∀ below, w.HasKey false below →
      (path ++ .item (index + i) :: below ∈ paths ↔ inner.refuses below)) :
    withoutItems paths path index vs = pruneItems vs inner := by
  match vs with
  | [] => rfl
  | v :: vs =>
    have hrest : withoutItems paths path (index + 1) vs = pruneItems vs inner := by
      refine withoutItems_eq_prune vs inner fun i w hw below hkey => ?_
      rw [Nat.add_right_comm, Nat.add_assoc]
      exact h (i + 1) w hw below hkey
    rw [withoutItems, pruneItems, hrest, without_eq_prune v inner fun below hkey => ?_]
    rw [List.append_assoc, List.singleton_append]
    exact h 0 v rfl below hkey

end

/-- **Pruning takes out exactly what is reported.** -/
theorem without_unknown (v : Value) (keys : Keys) :
    v.without (unknown [] v keys) [] = prune v keys := by
  refine without_eq_prune v keys fun below hkey => ?_
  rw [List.nil_append, mem_unknown_iff]
  exact and_iff_right hkey

mutual

/-- Nothing is reported of what has been pruned. -/
theorem admits_prune (v : Value) (keys : Keys) : keys.Admits (prune v keys) := by
  match v, keys with
  | map es, fields known => exact admits_fields (admits_pruneEntries es known)
  | seq vs, items inner => exact admits_items (admits_pruneItems vs inner)
  | v, any => exact admits_any _
  | map es, items inner => exact fun path => by simp [prune, unknown]
  | seq vs, fields known => exact fun path => by simp [prune, unknown]
  | null, _ | Value.bool _, _ | number _, _ | string _, _ | tagged _ _, _ =>
    exact fun path => by simp [prune, unknown]

theorem admits_pruneEntries (es : List (Value × Value)) (known : List (String × Keys)) :
    ∀ e ∈ pruneEntries es known, ∃ keys, under? known e.1 = some keys ∧ keys.Admits e.2 := by
  match es with
  | [] => simp [pruneEntries]
  | (k, v) :: es =>
    rw [pruneEntries]
    cases hkeys : under? known k with
    | none => exact admits_pruneEntries es known
    | some keys =>
      exact List.forall_mem_cons.2
        ⟨⟨keys, hkeys, admits_prune v keys⟩, admits_pruneEntries es known⟩

theorem admits_pruneItems (vs : List Value) (inner : Keys) :
    ∀ w ∈ pruneItems vs inner, inner.Admits w := by
  match vs with
  | [] => simp [pruneItems]
  | v :: vs =>
    rw [pruneItems]
    exact List.forall_mem_cons.2 ⟨admits_prune v inner, admits_pruneItems vs inner⟩

end

end Keys
end InstallManifest
