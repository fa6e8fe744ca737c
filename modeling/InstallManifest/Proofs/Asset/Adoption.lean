import InstallManifest.Asset
import InstallManifest.Data.Result

/-!
# What an asset takes over

Generating and loading have many ways to fail and only one to succeed: a manifest that is resolved
and valid is taken over, together with its file. `Call.Adopts` says for each call which asset that
is; `Call.step` that a call either adopts it, whatever the asset was before, or changes nothing.
-/
namespace InstallManifest
namespace Asset
variable {α : Type} {a : Asset} {warning : String} {answer : α} {r : Resolution} {f : File}
  {resolution : Except ManifestError Resolution} {file : Resolution → Except ManifestError File}

/-! ## Taking over a resolution -/

theorem ofResolution_eq_ok_iff {r : Resolution} {file : Except ManifestError File} {a : Asset} :
    ofResolution r file = .ok a ↔
      ∃ f, file = .ok f ∧ check (some r.manifest) = .ok () ∧ a = ⟨some r.manifest, some f⟩ := by
  constructor
  · intro h
    obtain ⟨f, hf, h⟩ := Result.exists_of_bind h
    obtain ⟨⟨⟩, hcheck, h⟩ := Result.exists_of_bind h
    exact ⟨f, hf, hcheck, (Except.ok.inj h).symm⟩
  · rintro ⟨f, rfl, hcheck, rfl⟩
    simp [ofResolution, hcheck, bind, Except.bind, pure, Except.pure]

theorem adopt_of_ok (hresolution : resolution = .ok r) (hfile : file r = .ok f)
    (hcheck : check (some r.manifest) = .ok ()) :
    a.adopt warning answer resolution file =
      ⟨⟨some r.manifest, some f⟩, r.notices warning, .ok answer⟩ := by
  have hasset : ofResolution r (file r) = .ok ⟨some r.manifest, some f⟩ :=
    ofResolution_eq_ok_iff.2 ⟨f, hfile, hcheck, rfl⟩
  simp only [adopt, hresolution, hasset]

/-- Either something fails, and the asset is kept, or a valid manifest is taken over. -/
theorem adopt_cases (a : Asset) (warning : String) (answer : α)
    (resolution : Except ManifestError Resolution)
    (file : Resolution → Except ManifestError File) :
    (∃ notices e, a.adopt warning answer resolution file = ⟨a, notices, .error e⟩) ∨
    ∃ r f, resolution = .ok r ∧ file r = .ok f ∧ check (some r.manifest) = .ok () ∧
      a.adopt warning answer resolution file =
        ⟨⟨some r.manifest, some f⟩, r.notices warning, .ok answer⟩ := by
  cases resolution with
  | error e => exact .inl ⟨[], e, rfl⟩
  | ok r =>
    cases hasset : ofResolution r (file r) with
    | error e => exact .inl ⟨r.notices warning, e, by simp only [adopt, hasset]⟩
    | ok a' =>
      obtain ⟨f, hf, hcheck, -⟩ := ofResolution_eq_ok_iff.1 hasset
      exact .inr ⟨r, f, rfl, hf, hcheck, adopt_of_ok rfl hf hcheck⟩

/-- Whatever becomes of a resolution, what it announces is announced. -/
theorem notices_adopt (a : Asset) (warning : String) (answer : α)
    (resolution : Except ManifestError Resolution)
    (file : Resolution → Except ManifestError File) :
    (a.adopt warning answer resolution file).notices =
      match resolution with
      | .ok r => r.notices warning
      | .error _ => [] := by
  cases resolution with
  | error e => rfl
  | ok r =>
    unfold adopt
    cases hasset : ofResolution r (file r) <;> simp only [hasset]

/-! ## Generating and loading -/

theorem fileOf_eq_ok_iff {m : Manifest} {f : File} :
    fileOf m = .ok f ↔ ∃ data, m.encode = .ok data ∧ f = ⟨fileName, data⟩ := by
  unfold fileOf
  cases m.encode <;> simp [eq_comm]

theorem resolveFile_eq_ok_iff {f : File} {mode : ParseMode} {policy : DefaultsPolicy} :
    resolveFile f mode policy = .ok r ↔
      ∃ m, Manifest.decode mode f.data = .ok m ∧ m.resolve (some .blank) policy = .ok r := by
  constructor
  · intro h
    obtain ⟨m, hm, h⟩ := Result.exists_of_bind h
    exact ⟨m, Result.mapError_eq_ok.1 hm, h⟩
  · rintro ⟨m, hm, h⟩
    simp [resolveFile, hm, h, bind, Except.bind]

end Asset

/-! ## Calls -/

/-- A call on an asset, with all that it is given. -/
inductive Call : Type 1 where
  | generate (config : Option InstallConfig) (settings : Settings) (policy : DefaultsPolicy)
  | load {σ : Type} [AssetStore σ] (store : σ) (settings : Settings) (policy : DefaultsPolicy)

namespace Call
open Asset

/-- The asset after a call. -/
def after (call : Call) (a : Asset) : Asset :=
  match call with
  | generate config settings policy => (a.generate config settings policy).asset
  | load store settings policy => (a.load store settings policy).asset

/-- Whether a call answers that it has taken over a manifest: one that was to be generated from a
configuration, or one that was there to be loaded. -/
def isAdopting (call : Call) (a : Asset) : Bool :=
  match call with
  | generate none _ _ => false
  | generate (some c) settings policy => ((a.generate (some c) settings policy).result matches .ok _)
  | load store settings policy => ((a.load store settings policy).result matches .ok true)

/-- The asset that a call makes if nothing fails. The asset that it is called on has no part in
it. -/
inductive Adopts : Call → Asset → Prop
  | generate {c : InstallConfig} {settings : Settings} {policy : DefaultsPolicy} {r : Resolution}
      {data : ByteArray} (hbuild : Manifest.build c settings policy = .ok r)
      (hencode : r.manifest.encode = .ok data) (hcheck : check (some r.manifest) = .ok ()) :
      Adopts (.generate (some c) settings policy) ⟨some r.manifest, some ⟨fileName, data⟩⟩
  | load {σ : Type} [AssetStore σ] {store : σ} {settings : Settings} {policy : DefaultsPolicy}
      {f : File} {m : Manifest} {r : Resolution} (hfetch : AssetStore.fetch store fileName = .ok f)
      (hdecode : Manifest.decode settings.parseMode f.data = .ok m)
      (hresolve : m.resolve (some .blank) policy = .ok r)
      (hcheck : check (some r.manifest) = .ok ()) :
      Adopts (.load store settings policy) ⟨some r.manifest, some f⟩

end Call

namespace Asset
variable {a : Asset} {c : InstallConfig} {settings : Settings} {policy : DefaultsPolicy}
  {r : Resolution} {σ : Type} [AssetStore σ] {store : σ} {f : File} {m : Manifest}

theorem generate_of_ok {data : ByteArray} (hbuild : Manifest.build c settings policy = .ok r)
    (hencode : r.manifest.encode = .ok data) (hcheck : check (some r.manifest) = .ok ()) :
    a.generate (some c) settings policy =
      ⟨⟨some r.manifest, some ⟨fileName, data⟩⟩, r.notices Resolution.buildWarning, .ok ()⟩ :=
  adopt_of_ok hbuild (fileOf_eq_ok_iff.2 ⟨data, hencode, rfl⟩) hcheck

theorem load_of_ok (hfetch : AssetStore.fetch store fileName = .ok f)
    (hdecode : Manifest.decode settings.parseMode f.data = .ok m)
    (hresolve : m.resolve (some .blank) policy = .ok r)
    (hcheck : check (some r.manifest) = .ok ()) :
    a.load store settings policy =
      ⟨⟨some r.manifest, some f⟩, r.notices Resolution.loadWarning, .ok true⟩ := by
  simp only [load, hfetch]
  exact adopt_of_ok (resolveFile_eq_ok_iff.2 ⟨m, hdecode, hresolve⟩) rfl hcheck

/-- Generating from a configuration fails and keeps the asset, or adopts what was built. -/
theorem generate_cases (a : Asset) (c : InstallConfig) (settings : Settings)
    (policy : DefaultsPolicy) :
    (∃ notices e, a.generate (some c) settings policy = ⟨a, notices, .error e⟩) ∨
    ∃ r data, Manifest.build c settings policy = .ok r ∧ r.manifest.encode = .ok data ∧
      check (some r.manifest) = .ok () := by
  obtain h | ⟨r, f, hbuild, hfile, hcheck, -⟩ := adopt_cases a Resolution.buildWarning ()
    (Manifest.build c settings policy) (fun r => fileOf r.manifest)
  · exact .inl h
  · obtain ⟨data, hencode, -⟩ := fileOf_eq_ok_iff.1 hfile
    exact .inr ⟨r, data, hbuild, hencode, hcheck⟩

/-- What is generated is what is built. -/
theorem exists_of_generate (h : (a.generate (some c) settings policy).result = .ok ()) :
    ∃ r, Manifest.build c settings policy = .ok r ∧
      (a.generate (some c) settings policy).asset.manifest = some r.manifest := by
  rcases a.generate_cases c settings policy with
    ⟨notices, e, hend⟩ | ⟨r, data, hbuild, hencode, hcheck⟩
  · rw [hend] at h
    cases h
  · refine ⟨r, hbuild, ?_⟩
    rw [generate_of_ok hbuild hencode hcheck]

/-- Loading fails or finds nothing, and keeps the asset, or adopts what was found. -/
theorem load_cases (a : Asset) (store : σ) (settings : Settings) (policy : DefaultsPolicy) :
    (∃ notices e, a.load store settings policy = ⟨a, notices, .error e⟩) ∨
    a.load store settings policy = ⟨a, [], .ok false⟩ ∨
    ∃ f m r, AssetStore.fetch store fileName = .ok f ∧
      Manifest.decode settings.parseMode f.data = .ok m ∧
      m.resolve (some .blank) policy = .ok r ∧ check (some r.manifest) = .ok () := by
  cases hfetch : AssetStore.fetch store fileName with
  | error e =>
    by_cases he : e.isNotFound
    · exact .inr (.inl (by simp [load, hfetch, he]))
    · exact .inl ⟨[], .notLoaded fileName e, by simp [load, hfetch, he]⟩
  | ok f =>
    have hload : a.load store settings policy = a.adopt Resolution.loadWarning true
        (resolveFile f settings.parseMode policy) fun _ => .ok f := by
      simp only [load, hfetch]
    obtain ⟨notices, e, h⟩ | ⟨r, f', hresolution, -, hcheck, -⟩ := adopt_cases a
      Resolution.loadWarning true (resolveFile f settings.parseMode policy) fun _ => .ok f
    · exact .inl ⟨notices, e, hload.trans h⟩
    · obtain ⟨m, hdecode, hresolve⟩ := resolveFile_eq_ok_iff.1 hresolution
      exact .inr (.inr ⟨f, m, r, rfl, hdecode, hresolve, hcheck⟩)

/-- A manifest that is taken over has been fetched, decoded and resolved. -/
theorem exists_of_load (h : (a.load store settings policy).result = .ok true) :
    ∃ f m r, AssetStore.fetch store fileName = .ok f ∧
      Manifest.decode settings.parseMode f.data = .ok m ∧ m.resolve (some .blank) policy = .ok r ∧
      (a.load store settings policy).asset.manifest = some r.manifest := by
  rcases a.load_cases store settings policy with
    ⟨notices, e, hend⟩ | hend | ⟨f, m, r, hfetch, hdecode, hresolve, hcheck⟩
  · rw [hend] at h
    cases h
  · rw [hend] at h
    cases h
  · refine ⟨f, m, r, hfetch, hdecode, hresolve, ?_⟩
    rw [load_of_ok hfetch hdecode hresolve hcheck]

end Asset

namespace Call
variable {call : Call} {a b : Asset}

theorem Adopts.after_eq (h : call.Adopts b) (a : Asset) :
    call.isAdopting a ∧ call.after a = b := by
  cases h with
  | generate hbuild hencode hcheck =>
    simp [isAdopting, after, Asset.generate_of_ok hbuild hencode hcheck]
  | load hfetch hdecode hresolve hcheck =>
    simp [isAdopting, after, Asset.load_of_ok hfetch hdecode hresolve hcheck]

/-- **What one call does**: it adopts an asset and says so, or it leaves everything as it was. -/
theorem step (call : Call) (a : Asset) :
    (call.isAdopting a ∧ call.Adopts (call.after a)) ∨
      (call.isAdopting a = false ∧ call.after a = a) := by
  match call with
  | generate none settings policy =>
    -- Nothing is built, and the asset is only asked whether it is valid.
    exact .inr ⟨rfl, rfl⟩
  | generate (some c) settings policy =>
    obtain ⟨notices, e, h⟩ | ⟨r, data, hbuild, hencode, hcheck⟩ :=
      a.generate_cases c settings policy
    · exact .inr (by simp [isAdopting, after, h])
    · have hadopts : Adopts (.generate (some c) settings policy) _ :=
        .generate hbuild hencode hcheck
      obtain ⟨hanswer, hafter⟩ := hadopts.after_eq a
      exact .inl ⟨hanswer, hafter ▸ hadopts⟩
  | load store settings policy =>
    obtain ⟨notices, e, h⟩ | h | ⟨f, m, r, hfetch, hdecode, hresolve, hcheck⟩ :=
      a.load_cases store settings policy
    · exact .inr (by simp [isAdopting, after, h])
    · exact .inr (by simp [isAdopting, after, h])
    · have hadopts : Adopts (.load store settings policy) _ :=
        .load hfetch hdecode hresolve hcheck
      obtain ⟨hanswer, hafter⟩ := hadopts.after_eq a
      exact .inl ⟨hanswer, hafter ▸ hadopts⟩

/-- A call that adopts makes of every asset what it makes of an empty one. -/
theorem after_eq_ite (call : Call) (a : Asset) :
    call.after a = if call.isAdopting a then call.after .empty else a := by
  obtain ⟨hanswer, hadopts⟩ | ⟨hanswer, hafter⟩ := call.step a
  · rw [if_pos hanswer, (hadopts.after_eq .empty).2]
  · rw [hafter, hanswer, if_neg (by simp)]

end Call
end InstallManifest
