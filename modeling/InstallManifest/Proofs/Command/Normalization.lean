import InstallManifest.Proofs.Command.Agreement
import InstallManifest.Proofs.Command.Failure
import InstallManifest.Proofs.Manifest.Printing
import InstallManifest.Proofs.Manifest.Reading

/-!
# Showing what was shown

A document can say the same in many ways, and what showing prints of it is one of them: keys that no
manifest has are gone, and so are nulls, marks of tags and fractions of seconds, and there is a
network type. Nothing of this is left to do a second time, so whoever stores what was printed and
shows it again sees it unchanged, in whichever mode (`Command.show_again`).
-/
namespace InstallManifest
open AssetStore Yaml

namespace Manifest

/-- The check looks at the specification only. -/
theorem problems_congr {m m' : Manifest} (h : m'.spec = m.spec) : m'.problems = m.problems := by
  simp only [problems, h]

theorem metadata_resolved (m : Manifest) : m.resolved.metadata = m.metadata := by
  unfold resolved
  split <;> rfl

theorem status_resolved (m : Manifest) : m.resolved.status = m.status := by
  unfold resolved
  split <;> rfl

end Manifest

namespace Command
variable {σ : Type} [AssetStore σ] {store : σ} {settings : Settings} {f : File} {m : Manifest}

/-- The manifest that is shown. -/
def shown (store : σ) (settings : Settings) : Option Manifest :=
  (Asset.empty.load store settings Defaults.installer).asset.manifest

/-- What is shown of a file with a valid manifest. -/
theorem show_of_valid (hfetch : fetch store Asset.fileName = .ok f)
    (hdecode : Manifest.decode settings.parseMode f.data = .ok m) (hproblems : m.problems = [])
    {text : String} (htext : m.resolved.toValue.text = .ok text) :
    shown store settings = some m.resolved ∧ (run .show store settings).output = text ∧
      (run .show store settings).result = .ok () := by
  obtain ⟨notices, hload⟩ := Asset.exists_load_of_valid (a := .empty) hfetch hdecode hproblems
  simp [shown, run, runShow, report, hload, htext]

/-- What is shown is the manifest of the file, with a network type. -/
theorem exists_of_show (hshow : (run .show store settings).result = .ok ()) :
    ∃ f m, fetch store Asset.fileName = .ok f ∧
      Manifest.decode settings.parseMode f.data = .ok m ∧ m.problems = [] ∧
      shown store settings = some m.resolved ∧
      m.resolved.toValue.text = .ok (run .show store settings).output := by
  have hnone := result_eq_ok_iff.1 hshow
  cases hfetch : fetch store Asset.fileName with
  | error e =>
    cases he : e.isNotFound with
    | true => exact absurd (.missing hfetch he) (hnone .file)
    | false => exact absurd (.notLoaded nofun hfetch he) (hnone .file)
  | ok f =>
    cases hdecode : Manifest.decode settings.parseMode f.data with
    | error e => exact absurd (.notDecoded nofun hfetch hdecode) (hnone .manifest)
    | ok m =>
      have hproblems : m.problems = [] :=
        by_contra fun hm => hnone .manifest (.notValid nofun hfetch hdecode hm)
      cases htext : m.resolved.toValue.text with
      | error e => exact absurd (.notEncoded hfetch hdecode hproblems htext) (hnone .text)
      | ok text =>
        obtain ⟨hshown, houtput, -⟩ := show_of_valid hfetch hdecode hproblems htext
        exact ⟨f, m, rfl, hdecode, hproblems, hshown, by rw [houtput, htext]⟩

/-- A valid manifest with a network type is shown as it is. -/
theorem show_of_decode (hfetch : fetch store Asset.fileName = .ok f)
    (hdecode : Manifest.decode settings.parseMode f.data = .ok m) (htype : m.networkType ≠ "")
    (hproblems : m.problems = []) {text : String} (htext : m.toValue.text = .ok text) :
    run .show store settings = ⟨store, text, [], .ok ()⟩ := by
  have hcheck : Asset.check (some m) = .ok () := by
    simp [Asset.check, hproblems, ErrorList.toResult]
  have hload : Asset.empty.load store settings Defaults.installer =
      ⟨⟨some m, some f⟩, [], .ok true⟩ :=
    Asset.load_of_ok hfetch hdecode (Manifest.resolve_of_ne_empty htype) hcheck
  exact report_of_load hload (by rw [htext]; rfl)

/-- **Showing normalises.** Let a manifest be shown, of which the managed fields hold nothing but
finite numbers, and let what was printed be stored in the place of a manifest, in any store. Whoever
shows it again, in whichever mode, sees the same text, and nothing is announced. -/
theorem show_again {τ : Type} [AssetStore τ] {source : τ} {settings : Settings}
    (hshow : (run .show source settings).result = .ok ())
    (hfinite : ∀ f v, fetch source Asset.fileName = .ok f → Value.ofBytes f.data = .ok v →
      ∀ w ∈ v.under? "metadata", ∀ fields ∈ w.under? "managedFields", fields.isFinite)
    (htimes : ∀ m ∈ shown source settings, ∀ t ∈ m.metadata.times,
      Time.Timestamp.parse t.text = .ok t.whole)
    (hread : ∀ m ∈ shown source settings, m.toValue.IsReadBack)
    [LawfulStore σ] {store store' : σ}
    (hwrite : write store ⟨Asset.fileName, (run .show source settings).output.toUTF8⟩ =
      (store', .ok ())) (settings' : Settings) :
    run .show store' settings' = ⟨store', (run .show source settings).output, [], .ok ()⟩ := by
  obtain ⟨f, m, hfetch, hdecode, hproblems, hshown, htext⟩ := exists_of_show hshow
  obtain ⟨-, v, hv, -, hvalue, -⟩ := Manifest.decode_eq_ok_iff.1 hdecode
  have hpayloads : ∀ p ∈ m.resolved.metadata.payloads, p.json ≠ .null := by
    rw [m.metadata_resolved]
    exact Manifest.payloads_of_ofValue hvalue (hfinite f v hfetch hv)
  have hstatus : m.resolved.status ≠ some .null := by
    rw [m.status_resolved]
    exact Manifest.status_of_ofValue hvalue
  -- What is decoded of the text has the same text, and what is checked is the same, too.
  obtain ⟨m', hdecode', hspec, htext'⟩ := Manifest.exists_decode_text (htimes _ hshown) hpayloads
    hstatus (hread _ hshown) htext
  have htype : m'.networkType ≠ "" := by
    rw [Manifest.networkType, hspec]
    exact m.networkType_resolved_ne
  have hproblems' : m'.problems = [] := by
    rw [Manifest.problems_congr hspec, m.problems_resolved, hproblems]
  have hfetch' : fetch store' Asset.fileName = .ok ⟨Asset.fileName, _⟩ :=
    LawfulStore.keeps store _ _ hwrite
  exact show_of_decode hfetch' (hdecode' _) htype hproblems' htext'

/-- The text of a manifest that was written by hand: a key that no manifest has, a null, a fraction
of a second, no network type, and a status with a tag around a number that is none. -/
def roughText : String :=
  "mood: good\nmetadata:\n  labels: null\n  creationTimestamp: 2024-02-03T04:05:06.789Z\n" ++
    "  managedFields:\n  - fieldsV1: 0.5\nstatus: !seen\n  load: .nan\n"

/-- A store with the manifest that was written by hand. -/
def roughStore : MemoryStore := .ofFile ⟨Asset.fileName, roughText.toUTF8⟩

/-- Settings that put up with it. -/
def lenient : Settings := { Settings.standard with parseMode := .lenient }

theorem show_again_rough : ∃ text store', (run .show roughStore lenient).output = text ∧
    text ≠ roughText ∧ write MemoryStore.empty ⟨Asset.fileName, text.toUTF8⟩ = (store', .ok ()) ∧
    run .show store' .standard = ⟨store', text, [], .ok ()⟩ := by
  have hfetch : fetch roughStore Asset.fileName = .ok ⟨Asset.fileName, roughText.toUTF8⟩ :=
    MemoryStore.fetch_ofFile ⟨Asset.fileName, roughText.toUTF8⟩
  obtain ⟨m, hdecode, hproblems, htimes, hread, text, htext, hne⟩ :
      ∃ m, Manifest.decode lenient.parseMode roughText.toUTF8 = .ok m ∧ m.problems = [] ∧
        (∀ t ∈ m.resolved.metadata.times, Time.Timestamp.parse t.text = .ok t.whole) ∧
        m.resolved.toValue.IsReadBack ∧
        ∃ text, m.resolved.toValue.text = .ok text ∧ text ≠ roughText := by decide +kernel
  obtain ⟨v, hv, hnumbers⟩ : ∃ v, Value.ofBytes roughText.toUTF8 = .ok v ∧
      ∀ w ∈ v.under? "metadata", ∀ fields ∈ w.under? "managedFields", fields.isFinite := by
    decide +kernel
  obtain ⟨hshown, houtput, hshow⟩ : shown roughStore lenient = some m.resolved ∧
      (run .show roughStore lenient).output = text ∧
      (run .show roughStore lenient).result = .ok () :=
    show_of_valid hfetch hdecode hproblems htext
  have hfinite : ∀ f v', fetch roughStore Asset.fileName = .ok f → Value.ofBytes f.data = .ok v' →
      ∀ w ∈ v'.under? "metadata", ∀ fields ∈ w.under? "managedFields", fields.isFinite := by
    intro f v' hfetch' hv'
    obtain rfl := Except.ok.inj (hfetch.symm.trans hfetch')
    obtain rfl : v = v' := Except.ok.inj (hv.symm.trans hv')
    exact hnumbers
  have hprinted : ∀ m' ∈ shown roughStore lenient, m.resolved = m' :=
    fun m' hm' => Option.some.inj (hshown.symm.trans hm')
  have hwrite := MemoryStore.write_eq .empty
    ⟨Asset.fileName, (run .show roughStore lenient).output.toUTF8⟩
  have hagain := show_again hshow hfinite (fun m' hm' => hprinted m' hm' ▸ htimes)
    (fun m' hm' => hprinted m' hm' ▸ hread) hwrite .standard
  rw [houtput] at hwrite hagain
  exact ⟨text, _, houtput, hne, hwrite, hagain⟩

end Command
end InstallManifest
