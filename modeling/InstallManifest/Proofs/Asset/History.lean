import InstallManifest.Proofs.Asset.Adoption
import InstallManifest.Proofs.Asset.Persistence

/-!
# The history of an asset

Calls may follow each other on an asset in any order, with stores that change in between, and an
asset may be given up for a new one. Whatever was called and answered, the asset is the one that the
last adopting call makes of an empty one (`run_calls`). So a property that holds of what each call
adopts holds of every asset that comes about (`IsFrom.run`), and that is how manifest and file are
shown to belong together.
-/
namespace InstallManifest

/-- What may be done with an asset. -/
inductive Action : Type 1 where
  /-- Go on with an empty one. -/
  | renew
  | call (call : Call)

namespace Action

/-- The asset after an action. -/
def after (action : Action) (a : Asset) : Asset :=
  match action with
  | renew => .empty
  | call c => c.after a

end Action

namespace Asset

/-- The asset after one action after the other. -/
def run (a : Asset) : List Action → Asset
  | [] => a
  | action :: actions => (action.after a).run actions

/-! ## The last call that adopts -/

/-- The last of some calls that answers that it has taken over a manifest, when the first of them is
called on a given asset. -/
def lastAdopting (a : Asset) : List Call → Option Call
  | [] => none
  | call :: calls =>
    (lastAdopting (call.after a) calls).or (if call.isAdopting a then some call else none)

theorem run_calls (a : Asset) (calls : List Call) :
    a.run (calls.map .call) = ((a.lastAdopting calls).map (·.after .empty)).getD a := by
  induction calls generalizing a with
  | nil => rfl
  | cons call calls ih =>
    have hrun : a.run ((call :: calls).map .call) = (call.after a).run (calls.map .call) := rfl
    rw [hrun, ih, lastAdopting]
    cases hlast : (call.after a).lastAdopting calls with
    | some last => rfl
    | none =>
      -- Nothing is adopted after the call, so it is the last one if it adopts at all.
      rw [call.after_eq_ite a]
      split <;> rfl

/-! ## Where a manifest comes from -/

/-- Whether an asset is empty, or what one of some calls adopts. -/
def IsFrom (P : Call → Prop) (a : Asset) : Prop := a = .empty ∨ ∃ call, P call ∧ call.Adopts a

variable {P : Call → Prop} {a : Asset} {actions : List Action}

theorem IsFrom.after (ha : a.IsFrom P) {action : Action}
    (haction : ∀ call, action = .call call → P call) : (action.after a).IsFrom P := by
  cases action with
  | renew => exact .inl rfl
  | call call =>
    obtain ⟨-, hadopts⟩ | ⟨-, hkeep⟩ := call.step a
    · exact .inr ⟨call, haction call rfl, hadopts⟩
    · have hsame : (Action.call call).after a = a := hkeep
      rwa [hsame]

theorem IsFrom.run (ha : a.IsFrom P) (hactions : ∀ call, .call call ∈ actions → P call) :
    (a.run actions).IsFrom P := by
  -- The property is about the asset that the actions start with, so it moves on with it.
  induction actions generalizing a with
  | nil => exact ha
  | cons action actions ih =>
    have hafter : (action.after a).IsFrom P :=
      ha.after fun call hcall => hactions call (hcall ▸ List.mem_cons_self)
    exact ih hafter fun call hcall => hactions call (List.mem_cons_of_mem action hcall)

/-- Every asset comes from one of the calls that were made. -/
theorem isFrom_run (actions : List Action) :
    (empty.run actions).IsFrom fun call => .call call ∈ actions :=
  IsFrom.run (.inl rfl) fun _ hcall => hcall

/-- An asset with a manifest is accepted as it is, because the manifest was valid when it was taken
over. -/
theorem finish_eq_ok_iff (ha : a.IsFrom P) : a.finish = .ok () ↔ ∃ m, a.manifest = some m := by
  obtain rfl | ⟨call, -, hadopts⟩ := ha
  · simp [finish, check, empty]
  · cases hadopts with
    | generate hbuild hencode hcheck => simpa [finish] using hcheck
    | load hfetch hdecode hresolve hcheck => simpa [finish] using hcheck

/-- **Only the last adopting call counts.** After any calls on an empty asset, the asset is the one
that the last adopting call makes of an empty one, or empty if there was none. So a call that fails,
or finds nothing, or is given no configuration leaves it as it is; and without a configuration,
generating succeeds exactly if there is a manifest. -/
theorem run_eq_after_lastAdopting (calls : List Call) :
    let a := empty.run (calls.map .call)
    a = ((empty.lastAdopting calls).map (·.after .empty)).getD .empty ∧
      (∀ call : Call, call.after a = if call.isAdopting a then call.after .empty else a) ∧
      ∀ settings policy,
        (a.generate none settings policy).result = .ok () ↔ ∃ m, a.manifest = some m := by
  intro a
  refine ⟨run_calls .empty calls, fun call => call.after_eq_ite a, fun settings policy => ?_⟩
  have hresult : (a.generate none settings policy).result = a.finish := rfl
  rw [hresult]
  exact finish_eq_ok_iff (isFrom_run (calls.map .call))

end Asset

/-! ## Manifest and file -/

/-- Whether a call loads files under the name that it asks for. -/
def Call.NamesFile (call : Call) : Prop :=
  match call with
  | generate _ _ _ => True
  | load store _ _ => AssetStore.NamesFiles store

/-- Whether what a call generates is read back from its own bytes. -/
def Call.IsReadBack (call : Call) : Prop :=
  match call with
  | generate (some c) settings policy =>
    ∀ m ∈ (Asset.empty.generate (some c) settings policy).asset.manifest, m.toValue.IsReadBack
  | _ => True

/-- Whether a call loads a file and supplies a network type for it, should it have none. -/
def Call.SuppliesType (call : Call) (f : File) (t : String) : Prop :=
  match call with
  | generate _ _ _ => False
  | load store _ policy =>
    AssetStore.fetch store Asset.fileName = .ok f ∧ (policy .blank).networkType? = some t

namespace Asset

/-- What holds of an asset after any actions. -/
structure IsCoherent (actions : List Action) (a : Asset) : Prop where
  /-- There is a manifest exactly if there is a file. -/
  both : a.manifest.isSome = a.file.isSome
  /-- There is at most one file, and it has the name that manifests are kept under. -/
  files : a.files.length ≤ 1 ∧ ∀ f ∈ a.files, f.name = fileName
  /-- A manifest that is there is valid, and its network type is resolved. -/
  valid : ∀ m ∈ a.manifest, m.networkType ≠ "" ∧ a.finish = .ok ()
  /-- The file holds the manifest, or the manifest without a network type; then a call that loaded
  this very file has added its default. -/
  decoded : ∀ f ∈ a.file, ∃ m d, a.manifest = some m ∧ Manifest.decode .lenient f.data = .ok d ∧
    (d.networkType ≠ "" ∧ m = d ∨ d.networkType = "" ∧
      ∃ call t, .call call ∈ actions ∧ call.SuppliesType f t ∧ m = d.withNetworkType t)

section Coherence
variable {c : InstallConfig} {settings : Settings} {policy : DefaultsPolicy} {r : Resolution}

theorem isCoherent_generated {data : ByteArray} (hbuild : Manifest.build c settings policy = .ok r)
    (hencode : r.manifest.encode = .ok data) (hcheck : check (some r.manifest) = .ok ())
    (hread : r.manifest.toValue.IsReadBack) :
    IsCoherent actions ⟨some r.manifest, some ⟨fileName, data⟩⟩ := by
  have htype : r.manifest.networkType ≠ "" := Manifest.networkType_ne_empty_of_build hbuild
  have hdecode : Manifest.decode .lenient data = .ok r.manifest :=
    Manifest.decode_build hbuild hread hencode .lenient
  refine ⟨rfl, by simp [files], ?_, ?_⟩
  · rintro m ⟨⟩
    exact ⟨htype, hcheck⟩
  · rintro f ⟨⟩
    exact ⟨r.manifest, r.manifest, rfl, hdecode, .inl ⟨htype, rfl⟩⟩

theorem isCoherent_loaded {σ : Type} [AssetStore σ] {store : σ} {f : File} {d : Manifest}
    (hcall : .call (.load store settings policy) ∈ actions)
    (hfetch : AssetStore.fetch store fileName = .ok f)
    (hdecode : Manifest.decode settings.parseMode f.data = .ok d)
    (hresolve : d.resolve (some .blank) policy = .ok r)
    (hcheck : check (some r.manifest) = .ok ()) (hname : f.name = fileName) :
    IsCoherent actions ⟨some r.manifest, some f⟩ := by
  obtain ⟨t, ht, htype⟩ := Manifest.exists_withNetworkType_of_resolve hresolve
  refine ⟨rfl, by simpa [files] using hname, ?_, ?_⟩
  · rintro m ⟨⟩
    refine ⟨?_, hcheck⟩
    rw [htype]
    exact ht
  · rintro f' ⟨⟩
    refine ⟨r.manifest, d, rfl, Manifest.decode_lenient hdecode, ?_⟩
    -- A blank configuration has no network type, so it never comes from there.
    obtain ⟨hd, rfl⟩ | ⟨-, t, ht, -⟩ | ⟨hd, -, t, ht, rfl⟩ := Manifest.resolve_cases hresolve
    · exact .inl ⟨hd, rfl⟩
    · cases ht
    · exact .inr ⟨hd, _, t, hcall, ⟨hfetch, ht⟩, rfl⟩

end Coherence

theorem isCoherent_of_adopts {call : Call} (hcall : .call call ∈ actions) (hnames : call.NamesFile)
    (hread : call.IsReadBack) (ha : call.Adopts a) : a.IsCoherent actions := by
  cases ha with
  | @generate c settings policy r data hbuild hencode hcheck =>
    refine isCoherent_generated hbuild hencode hcheck (hread r.manifest ?_)
    rw [generate_of_ok hbuild hencode hcheck]
    rfl
  | load hfetch hdecode hresolve hcheck =>
    exact isCoherent_loaded hcall hfetch hdecode hresolve hcheck (hnames fileName _ hfetch)

theorem isCoherent_empty (actions : List Action) : empty.IsCoherent actions :=
  ⟨rfl, by simp [files, empty], by simp [empty], by simp [empty]⟩

/-- A manifest is generated; then there is none to be loaded, and then one that was written by
hand. -/
def editedHistory : List Action := [
  .call (.generate (some quotedConfig) .standard Defaults.installer),
  .call (.load (Directory.ofPath .emptyDir [] "assets") .standard Defaults.installer),
  .call (.load (MemoryStore.ofFile ⟨fileName, "kind: edited\nnote: 1\n".toUTF8⟩)
    ⟨"4.15.0", "", .lenient⟩ Defaults.installer)]

end Asset
end InstallManifest
