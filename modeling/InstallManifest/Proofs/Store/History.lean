import InstallManifest.Proofs.Store.Places

/-!
# What a store is expected to answer

Files are written to a store and fetched from it, one after the other. What has been asked for so
far determines what to expect of the next operation (`History.answer`): every write succeeds, and
a fetch finds the data that was written last under exactly the name that it asks for. A store that
has been seen to do so step by step answers every sequence of operations in this way
(`AssetStore.answers_eq_of_step`), and memory is such a store (`MemoryStore.answers_empty`).
-/
namespace InstallManifest
open Store

namespace Store

/-- An operation on a store. -/
inductive Operation where
  | write (f : File)
  | fetch (name : String)

namespace Operation

/-- The name that an operation is about. -/
def name : Operation → String
  | write f => f.name
  | fetch name => name

/-- The data that an operation puts under a name. -/
def written? (name : String) : Operation → Option ByteArray
  | write f => if f.name = name then some f.data else none
  | fetch _ => none

end Operation

/-- What a store answers: why an operation failed, or the file that was fetched. -/
abbrev Answer := Except StoreError (Option File)

end Store

namespace AssetStore
variable {σ : Type} [AssetStore σ]

/-- Do one operation. -/
def perform (s : σ) : Operation → σ × Answer
  | .write f => ((write s f).1, (write s f).2.map fun _ => none)
  | .fetch name => (s, (fetch s name).map some)

/-- The store after some operations, one after the other. -/
def after (s : σ) : List Operation → σ
  | [] => s
  | op :: ops => after (perform s op).1 ops

/-- The answers to some operations, one after the other. -/
def answers (s : σ) : List Operation → List Answer
  | [] => []
  | op :: ops => (perform s op).2 :: answers (perform s op).1 ops

end AssetStore

/-! ## Histories -/

namespace History

/-- The data that was written last under a name. -/
def lastWritten? (past : List Operation) (name : String) : Option ByteArray :=
  past.reverse.findSome? (Operation.written? name)

/-- The answer that is expected of an operation, after the ones before it. -/
def answer (past : List Operation) : Operation → Answer
  | .write _ => .ok none
  | .fetch name =>
    match lastWritten? past name with
    | some data => .ok (some ⟨name, data⟩)
    | none => .error (.notFound name)

/-- The answers that are expected of some operations, after the ones before them. -/
def answersAfter (past : List Operation) : List Operation → List Answer
  | [] => []
  | op :: ops => answer past op :: answersAfter (past ++ [op]) ops

variable (past : List Operation)

theorem lastWritten?_concat (op : Operation) (name : String) :
    lastWritten? (past ++ [op]) name = (op.written? name).or (lastWritten? past name) := by
  rw [lastWritten?, List.reverse_concat, List.findSome?_cons]
  cases op.written? name <;> rfl

theorem lastWritten?_concat_fetch (name other : String) :
    lastWritten? (past ++ [.fetch name]) other = lastWritten? past other :=
  lastWritten?_concat past (.fetch name) other

theorem lastWritten?_concat_write (f : File) :
    lastWritten? (past ++ [.write f]) f.name = some f.data := by
  rw [lastWritten?_concat, Operation.written?, if_pos rfl, Option.some_or]

theorem lastWritten?_concat_write_of_ne {f : File} {name : String} (hne : f.name ≠ name) :
    lastWritten? (past ++ [.write f]) name = lastWritten? past name := by
  rw [lastWritten?_concat, Operation.written?, if_neg hne, Option.none_or]

end History

namespace AssetStore
variable {σ : Type} [AssetStore σ]

/-- **A run is as good as its steps.** If a store remembers the past, answers an operation as
expected, and then remembers this one too, it answers all operations as expected. -/
theorem answers_eq_of_step {Remembers : σ → List Operation → Prop} {all : List Operation}
    (hstep : ∀ s past, ∀ op ∈ all, Remembers s past →
      (perform s op).2 = History.answer past op ∧ Remembers (perform s op).1 (past ++ [op]))
    {s : σ} {past ops : List Operation} (hpast : Remembers s past) (hops : ops ⊆ all) :
    answers s ops = History.answersAfter past ops := by
  induction ops generalizing s past with
  | nil => rfl
  | cons op ops ih =>
    obtain ⟨hop, hrest⟩ := List.cons_subset.1 hops
    obtain ⟨hanswer, hnext⟩ := hstep s past op hop hpast
    rw [answers, History.answersAfter, hanswer, ih hnext hrest]

end AssetStore

/-! ## Memory -/

namespace MemoryStore

/-- Whether a store holds what was written last, under every name. -/
def Remembers (s : MemoryStore) (past : List Operation) : Prop :=
  ∀ name, s.get? name = History.lastWritten? past name

variable {s : MemoryStore} {past : List Operation}

theorem remembers_write (h : s.Remembers past) (f : File) :
    (s.insert f.name f.data).Remembers (past ++ [.write f]) := by
  intro name
  by_cases hname : f.name = name
  · rw [← hname, History.lastWritten?_concat_write]
    exact SortedMap.find?_insert _ _ _
  · rw [History.lastWritten?_concat_write_of_ne past hname, ← h name]
    exact get?_insert_of_ne (Ne.symm hname) s f.data

theorem step_of_remembers (op : Operation) (h : s.Remembers past) :
    (AssetStore.perform s op).2 = History.answer past op ∧
      (AssetStore.perform s op).1.Remembers (past ++ [op]) := by
  cases op with
  | write f => exact ⟨rfl, remembers_write h f⟩
  | fetch name =>
    refine ⟨?_, fun other => ?_⟩
    · cases hget : s.get? name with
      | none => simp [AssetStore.perform, AssetStore.fetch, History.answer, ← h name, hget,
          Except.map]
      | some data => simp [AssetStore.perform, AssetStore.fetch, History.answer, ← h name, hget,
          Except.map]
    · rw [History.lastWritten?_concat_fetch]
      exact h other

/-- **Memory answers as expected**, whatever the names are. -/
theorem answers_empty (ops : List Operation) :
    AssetStore.answers empty ops = History.answersAfter [] ops :=
  AssetStore.answers_eq_of_step (fun _ _ op _ h => step_of_remembers op h) (fun _ => rfl)
    (List.Subset.refl ops)

end MemoryStore
end InstallManifest
