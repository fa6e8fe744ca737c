import InstallManifest.Data.Result
import InstallManifest.Yaml.Record
import Mathlib.Data.List.Forall2

/-!
# When a record that has been written is read back as itself

A `Showing` relates sources to the trees that they show: whoever reads a source finds what its tree
says. `Codec.Restores` says that a part is read back from every source that shows what was written
for it. For a record this is settled field by field (`Field.Builds`): reading takes the written
fields in their order, each one changes the record that has been read so far, and the question is
what the last change leads to. `Record.exists_read` puts the fields together.
-/
namespace InstallManifest.Yaml

/-- **Sources that show trees.** Each law says what reading a source gives that shows a tree of one
kind. -/
structure Showing (σ : Type) [Source σ] where
  Shows : σ → Value → Prop
  string {src : σ} {s : String} : Shows src (.string s) → Source.string src = .ok s
  uint32 {src : σ} {n : UInt32} : Shows src (.int n.toNat) → Source.uint32 src = .ok n
  int32 {src : σ} {n : Int32} : Shows src (.int n.toInt) → Source.int32 src = .ok n
  isMissing {src : σ} {v : Value} : Shows src v → v ≠ .null → Source.isMissing src = .ok false
  items {src : σ} {vs : List Value} : Shows src (.seq vs) →
    ∃ parts, Source.items src = .ok parts ∧ List.Forall₂ Shows parts vs
  entries {src : σ} {es : List (Value × Value)} (expected : String) : Shows src (.map es) →
    ∃ parts, Source.entries expected src = .ok parts ∧
      List.Forall₂ (fun p e => (∀ k, e.1 = .string k → p.1 = .ok k) ∧ Shows p.2 e.2) parts es

variable {σ α β : Type} [Source σ] {S : Showing σ}

/-! ## Parts -/

/-- Every source that shows what is written for `x` is read as `x`. -/
def Codec.Restores (S : Showing σ) (c : Codec σ α) (x : α) : Prop :=
  ∀ src, S.Shows src (c.write x) → c.read src = .ok x

namespace Codec

theorem restores_string (s : String) : Codec.string.Restores S s := fun _ h => S.string h

theorem restores_uint32 (n : UInt32) : Codec.uint32.Restores S n := fun _ h => S.uint32 h

theorem restores_int32 (n : Int32) : Codec.int32.Restores S n := fun _ h => S.int32 h

theorem mapM_read {c : Codec σ α} {parts : List σ} {xs : List α}
    (hc : ∀ x ∈ xs, c.Restores S x) (h : List.Forall₂ S.Shows parts (xs.map c.write)) :
    parts.mapM c.read = .ok xs := by
  induction xs generalizing parts with
  | nil =>
    cases h
    rfl
  | cons x xs ih =>
    obtain ⟨src, parts, hsrc, hparts, rfl⟩ := List.forall₂_cons_right_iff.1 h
    have hx : c.read src = .ok x := hc x List.mem_cons_self src hsrc
    have hxs : parts.mapM c.read = .ok xs :=
      ih (fun y hy => hc y (List.mem_cons_of_mem x hy)) hparts
    rw [List.mapM_cons, hx, hxs]
    rfl

theorem restores_list {c : Codec σ α} {xs : List α} (hc : ∀ x ∈ xs, c.Restores S x) :
    c.list.Restores S xs := by
  intro src h
  obtain ⟨parts, hparts, hshow⟩ := S.items h
  show (Source.items src >>= fun parts => parts.mapM c.read) = .ok xs
  rw [hparts]
  exact mapM_read hc hshow

end Codec

/-! ## Fields -/

namespace Field

/-- **What the fields of a record build.** Reading what `x` has written under some fields, on top of
the record `z`, ends with a record that satisfies `Q`, whatever sources show the written parts. -/
def Builds (S : Showing σ) (x : α) (Q : α → Prop) : List (Field σ α) → α → Prop
  | [], z => Q z
  | f :: fs, z =>
    match f.write x with
    | none => Builds S x Q fs z
    | some v => ∀ src, S.Shows src v → ∃ change, f.read src = .ok change ∧ Builds S x Q fs (change z)

namespace Builds
variable {x z : α} {Q : α → Prop} {fs : List (Field σ α)} {name : String}

/-- A field that is written, and read as a change to the record. -/
theorem written {f : Field σ α} {v : Value} {change : α → α} (hv : f.write x = some v)
    (hread : ∀ src, S.Shows src v → f.read src = .ok change)
    (h : Builds S x Q fs (change z)) : Builds S x Q (f :: fs) z := by
  unfold Builds
  rw [hv]
  exact fun src hsrc => ⟨change, hread src hsrc, h⟩

theorem unwritten {f : Field σ α} (hv : f.write x = none) (h : Builds S x Q fs z) :
    Builds S x Q (f :: fs) z := by
  unfold Builds
  rw [hv]
  exact h

theorem always {get : α → β} {set : β → α → α} {c : Codec σ β} (hc : c.Restores S (get x))
    (h : Builds S x Q fs (set (get x) z)) : Builds S x Q (.always name get set c :: fs) z := by
  refine written rfl (fun src hsrc => ?_) h
  show (c.read src).map set = .ok (set (get x))
  rw [hc src hsrc]
  rfl

/-- A part that is left out leaves the record as it is, so it has to be trivial there already. -/
theorem omitting {isTrivial : β → Bool} {get : α → β} {set : β → α → α} {c : Codec σ β}
    (hz : isTrivial (get x) → set (get x) z = z) (hc : c.Restores S (get x))
    (h : Builds S x Q fs (set (get x) z)) :
    Builds S x Q (.omitting isTrivial name get set c :: fs) z := by
  by_cases ht : isTrivial (get x) = true
  · refine unwritten ?_ (hz ht ▸ h)
    simp [Field.omitting, ht]
  · have hv : (Field.omitting isTrivial name get set c).write x = some (c.write (get x)) := by
      simp [Field.omitting, ht]
    refine written hv (fun src hsrc => ?_) h
    show (c.read src).map set = .ok (set (get x))
    rw [hc src hsrc]
    rfl

theorem text {get : α → String} {set : String → α → α} (hz : set "" z = z)
    (h : Builds S x Q fs (set (get x) z)) : Builds S x Q (.text name get set :: fs) z := by
  refine omitting (fun ht => ?_) (Codec.restores_string _) h
  rw [String.isEmpty_iff.1 ht, hz]

theorem list {get : α → List β} {set : List β → α → α} {c : Codec σ β} (hz : set [] z = z)
    (hc : ∀ b ∈ get x, c.Restores S b) (h : Builds S x Q fs (set (get x) z)) :
    Builds S x Q (.list name get set c :: fs) z := by
  refine omitting (fun ht => ?_) (Codec.restores_list hc) h
  rw [List.isEmpty_iff.1 ht, hz]

/-- An optional part is read back unless it is written as null, which stands for its absence. -/
theorem optional {get : α → Option β} {set : Option β → α → α} {c : Codec σ β}
    (hz : set none z = z) (hnull : ∀ b, get x = some b → c.write b ≠ .null)
    (hc : ∀ b, get x = some b → c.Restores S b) (h : Builds S x Q fs (set (get x) z)) :
    Builds S x Q (.optional name get set c :: fs) z := by
  cases hx : get x with
  | none =>
    refine unwritten (by simp [Field.optional, hx]) ?_
    rwa [hx, hz] at h
  | some b =>
    rw [hx] at h
    have hv : (Field.optional name get set c).write x = some (c.write b) := by
      simp [Field.optional, hx]
    refine written hv (fun src hsrc => ?_) h
    simp only [Field.optional, S.isMissing hsrc (hnull b hx), hc b hx src hsrc]
    rfl

theorem optionalString {get : α → Option String} {set : Option String → α → α}
    (hz : set none z = z) (h : Builds S x Q fs (set (get x) z)) :
    Builds S x Q (.optional name get set .string :: fs) z :=
  optional hz (fun _ _ => Value.noConfusion) (fun s _ => Codec.restores_string s) h

end Builds
end Field

/-! ## Records -/

namespace Record
variable {r : Record σ α} {x : α} {Q : α → Prop}

/-- The entries of some fields of a record. -/
def written (fs : List (Field σ α)) (x : α) : List (Value × Value) :=
  fs.filterMap fun f => (f.write x).map fun v => (.string f.name, v)

omit [Source σ] in
theorem written_cons (f : Field σ α) (fs : List (Field σ α)) (x : α) :
    written (f :: fs) x =
      ((f.write x).map fun v => (Value.string f.name, v)).toList ++ written fs x := by
  cases h : f.write x <;> simp [written, h]

section Names
variable {done fs : List (Field σ α)} {f : Field σ α} {seen : List String}

omit [Source σ] in
theorem find?_name (hn : ((done ++ f :: fs).map (·.name)).Nodup) :
    (done ++ f :: fs).find? (fun g => g.name == f.name) = some f := by
  rw [List.map_append, List.nodup_append] at hn
  rw [List.find?_append, List.find?_eq_none.2]
  · simp
  · intro g hg
    simpa using hn.2.2 g.name (List.mem_map_of_mem hg) f.name (by simp)

omit [Source σ] in
/-- The name of a field is new to whoever has seen names of fields in front of it only. -/
theorem name_not_mem (hn : ((done ++ f :: fs).map (·.name)).Nodup)
    (hseen : ∀ k ∈ seen, k ∈ done.map (·.name)) : f.name ∉ seen := by
  intro hk
  rw [List.map_append, List.nodup_append] at hn
  exact hn.2.2 f.name (hseen _ hk) f.name (by simp) rfl

omit [Source σ] in
theorem seen_of_seen (hseen : ∀ k ∈ seen, k ∈ done.map (·.name)) :
    ∀ k ∈ seen, k ∈ (done ++ [f]).map (·.name) := by
  intro k hk
  rw [List.map_append]
  exact List.mem_append_left _ (hseen k hk)

omit [Source σ] in
theorem seen_of_seen_cons (hseen : ∀ k ∈ seen, k ∈ done.map (·.name)) :
    ∀ k ∈ f.name :: seen, k ∈ (done ++ [f]).map (·.name) := by
  intro k hk
  rcases List.mem_cons.1 hk with rfl | hk
  · simp
  · exact seen_of_seen hseen k hk

end Names

/-- Reading the entries of the fields that are left, behind those of the fields that are done. -/
theorem exists_readEntries (hn : (r.fields.map (·.name)).Nodup) {done fs : List (Field σ α)}
    (hfields : r.fields = done ++ fs) {z : α} (h : Field.Builds S x Q fs z) {seen : List String}
    (hseen : ∀ k ∈ seen, k ∈ done.map (·.name)) {parts : List (Except ReadError String × σ)}
    (hparts : List.Forall₂ (fun p e => (∀ k, e.1 = .string k → p.1 = .ok k) ∧ S.Shows p.2 e.2)
      parts (written fs x)) :
    ∃ seen' y, r.readEntries seen z parts = .ok (seen', y) ∧ Q y ∧ (∀ k ∈ seen, k ∈ seen') ∧
      ∀ f ∈ fs, (f.write x).isSome → f.name ∈ seen' := by
  -- Along the fields: `done` are those in front, and only their names have been seen.
  induction fs generalizing done z seen parts with
  | nil =>
    cases hparts
    exact ⟨seen, z, rfl, h, fun _ hk => hk, by simp⟩
  | cons f fs ih =>
    have hnext : r.fields = (done ++ [f]) ++ fs := by simp [hfields]
    rw [written_cons] at hparts
    unfold Field.Builds at h
    cases hv : f.write x with
    | none =>
      simp only [hv] at h hparts
      obtain ⟨seen', y, hread, hy, hsub, hnames⟩ := ih hnext h (seen_of_seen hseen) hparts
      refine ⟨seen', y, hread, hy, hsub, fun g hg hsome => ?_⟩
      rcases List.mem_cons.1 hg with rfl | hg
      · simp [hv] at hsome
      · exact hnames g hg hsome
    | some v =>
      simp only [hv, Option.map_some, Option.toList_some, List.singleton_append] at h hparts
      obtain ⟨⟨key, src⟩, rest, ⟨hkey, hshow⟩, hrest, rfl⟩ :=
        List.forall₂_cons_right_iff.1 hparts
      -- The name finds this very field, and no field in front of it has the name.
      obtain rfl : key = .ok f.name := hkey f.name rfl
      obtain ⟨change, hchange, h⟩ := h src hshow
      have hfind : r.fields.find? (fun g => g.name == f.name) = some f :=
        hfields ▸ find?_name (hfields ▸ hn)
      have hnew : f.name ∉ seen := name_not_mem (hfields ▸ hn) hseen
      obtain ⟨seen', y, hread, hy, hsub, hnames⟩ := ih hnext h (seen_of_seen_cons hseen) hrest
      refine ⟨seen', y, ?_, hy, fun k hk => hsub k (List.mem_cons_of_mem _ hk),
        fun g hg hsome => ?_⟩
      · simp only [readEntries, bind, Except.bind, hfind, hnew, and_false, if_false, hchange]
        exact hread
      · rcases List.mem_cons.1 hg with rfl | hg
        · exact hsub _ List.mem_cons_self
        · exact hnames g hg hsome

/-- **What is read where a record has been written.** The names of its fields have to differ, and
the required ones have to be written. -/
theorem exists_read (hn : (r.fields.map (·.name)).Nodup)
    (hreq : ∀ f ∈ r.fields, f.isRequired → (f.write x).isSome)
    (h : Field.Builds S x Q r.fields r.blank) {src : σ} (hsrc : S.Shows src (r.toValue x)) :
    ∃ y, r.read src = .ok y ∧ Q y := by
  obtain ⟨parts, hparts, hshow⟩ := S.entries r.name hsrc
  -- The reader starts with a blank record and without any names.
  have hnone : ∀ k ∈ ([] : List String), k ∈ ([] : List (Field σ α)).map (·.name) := by simp
  obtain ⟨seen, y, hread, hy, -, hnames⟩ := exists_readEntries hn rfl h hnone hshow
  have hcomplete : (r.fields.find? fun f => f.isRequired && f.name ∉ seen) = none := by
    rw [List.find?_eq_none]
    intro f hf hbad
    simp only [Bool.and_eq_true, decide_eq_true_eq] at hbad
    exact hbad.2 (hnames f hf (hreq f hf hbad.1))
  refine ⟨y, ?_, hy⟩
  simp only [read, ofEntries, hparts, bind, Except.bind, hread, hcomplete]
  rfl

theorem restores (hn : (r.fields.map (·.name)).Nodup)
    (hreq : ∀ f ∈ r.fields, f.isRequired → (f.write x).isSome)
    (h : Field.Builds S x (· = x) r.fields r.blank) : r.codec.Restores S x := by
  intro src hsrc
  obtain ⟨y, hread, rfl⟩ := exists_read hn hreq h hsrc
  exact hread

end Record
end InstallManifest.Yaml
