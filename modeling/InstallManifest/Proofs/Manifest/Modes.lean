import InstallManifest.Data.Result
import InstallManifest.Manifest.Codec

/-!
# What bytes have to be to hold a manifest

Both modes ask for the same, and the strict one also for keys that are all known.
-/
namespace InstallManifest.Manifest
open Yaml

variable {mode : ParseMode} {data : ByteArray} {m : Manifest}

theorem decodeValue_eq_ok_iff {v : Value} :
    decodeValue mode v = .ok m ↔
      v.same .null = false ∧ ofValue v = .ok m ∧
        (mode = .strict → Keys.unknown [] v Keys.manifest = []) := by
  by_cases hnull : v.same .null = true
  · simp [decodeValue, hnull, bind, Except.bind]
  cases hvalue : ofValue v with
  | error e => simp [decodeValue, hnull, hvalue, bind, Except.bind]
  | ok m' =>
    have hdecode : decodeValue mode v =
        if mode = .strict ∧ Keys.unknown [] v Keys.manifest ≠ [] then
          .error (.unknownKeys (Keys.unknown [] v Keys.manifest))
        else .ok m' := by
      simp [decodeValue, hnull, hvalue, bind, Except.bind, pure, Except.pure]
    rw [hdecode]
    split
    next hunknown => simp [hunknown]
    next hknown =>
      have hall : mode = .strict → Keys.unknown [] v Keys.manifest = [] := by simpa using hknown
      simpa [hnull] using fun _ => hall

/-- **What a document has to be**: it is not blank, it is not null, and it has the fields of the
manifest. Only the strict mode minds keys that are not known. -/
theorem decode_eq_ok_iff :
    decode mode data = .ok m ↔
      isBlankBytes data = false ∧ ∃ v, Value.ofBytes data = .ok v ∧
        v.same .null = false ∧ ofValue v = .ok m ∧
          (mode = .strict → Keys.unknown [] v Keys.manifest = []) := by
  cases hblank : isBlankBytes data with
  | true => simp [decode, hblank, bind, Except.bind]
  | false =>
    cases hv : Value.ofBytes data with
    | error e => simp [decode, hblank, hv, bind, Except.bind]
    | ok v =>
      have hdecode : decode mode data = decodeValue mode v := by
        simp [decode, hblank, hv, bind, Except.bind]
      rw [hdecode, decodeValue_eq_ok_iff]
      simp

/-- What is decoded in one mode is decoded when unknown keys are ignored. -/
theorem decode_lenient (h : decode mode data = .ok m) : decode .lenient data = .ok m := by
  obtain ⟨hblank, v, hv, hnull, hvalue, -⟩ := decode_eq_ok_iff.1 h
  exact decode_eq_ok_iff.2 ⟨hblank, v, hv, hnull, hvalue, by simp⟩

end InstallManifest.Manifest
