import InstallManifest.Proofs.Store.Places

/-!
# What a write to a directory does

To write a file is to make the directories of its path and then to put it there, so a write can fail
with some of the work done. What it leaves behind then is directories and nothing else: no file is
there that was not there before, none is gone, and none has other data. A write that succeeds is
noticed in the place of its name and in no other one (`Directory.write_law`).
-/
namespace InstallManifest
open Store

/-- What was not there before is a directory, if no file has changed. -/
theorem Tree.isDir_of_new {t t' new : Tree} {place : List String}
    (hfiles : t'.data? place = t.data? place) (hold : t.get? place = none)
    (hnew : t'.get? place = some new) : new.isDir := by
  cases new with
  | dir entries => rfl
  | file data =>
    rw [data?_eq_some_iff.2 hnew, data?, hold] at hfiles
    cases hfiles

namespace Directory
variable {d : Directory} {f : File}

/-- Nothing is done about a name that does not stay below the root. -/
theorem write_of_not_isConfined (h : isConfined f.name = false) :
    d.write f = (d, .error (.invalidName f.name)) := by
  simp [write, h]

theorem isConfined_of_invalidName {name : String}
    (h : (d.write f).2 = .error (.invalidName name)) : isConfined f.name = false := by
  by_contra hconfined
  rw [Bool.not_eq_false] at hconfined
  unfold write at h
  rw [if_neg (not_not_intro hconfined)] at h
  dsimp only at h
  split at h
  · cases h
  · split at h <;> cases h

/-- **What a write does.** The root stays where it is, and every directory is kept with all names in
it. If the write succeeds, its file is the next one to be fetched under its name, every other file
of the tree is as it was, and what was fetched under a name that stands for another place is still
fetched. If it fails, every file is as it was, and whatever is new is a directory; and if the name
is refused, nothing is new at all. -/
theorem write_law (d : Directory) (f : File) :
    let d' := (d.write f).1
    let answer := (d.write f).2
    d' = { d with tree := d'.tree } ∧ d.tree.Preserves d'.tree ∧
    (answer = .ok () →
      d'.fetch f.name = .ok f ∧ d'.tree.data? (d.place f.name) = some f.data ∧
      (∀ p ≠ d.place f.name, d'.tree.data? p = d.tree.data? p) ∧
      ∀ name g, d.place name ≠ d.place f.name → d.fetch name = .ok g → d'.fetch name = .ok g) ∧
    ∀ e, answer = .error e →
      (∀ p, d'.tree.data? p = d.tree.data? p) ∧
      (∀ p new, d.tree.get? p = none → d'.tree.get? p = some new → new.isDir) ∧
      ∀ name, e = .invalidName name → d' = d := by
  intro d' answer
  have hwrite : d.write f = (d', answer) := rfl
  have hroot : d' = { d with tree := d'.tree } := by
    obtain ⟨tree, htree, -⟩ := d.write_cases f
    have htree : d' = { d with tree := tree } := htree
    rw [htree]
  cases hanswer : answer with
  | ok _ =>
    rw [hanswer] at hwrite
    obtain ⟨hkeeps, hthere, hothers⟩ := data?_of_write_ok hwrite
    exact ⟨hroot, hkeeps, fun _ => ⟨d.keeps f d' hwrite, hthere, hothers,
      fun name g hplace => fetch_of_write hwrite hplace⟩, nofun⟩
  | error e =>
    obtain ⟨hfiles, hkeeps⟩ := keeps_of_write_error hanswer
    refine ⟨hroot, hkeeps, nofun, fun e' he => ⟨hfiles, ?_, ?_⟩⟩
    · exact fun p new hold hnew => Tree.isDir_of_new (hfiles p) hold hnew
    · rintro name rfl
      obtain rfl := Except.error.inj he
      rw [write_of_not_isConfined (isConfined_of_invalidName hanswer)] at hwrite
      exact (congrArg Prod.fst hwrite).symm

/-- A directory with a file in it, and with another directory. -/
def furnished : Directory :=
  .ofPath (.dir [("srv", .dir [("a", .file "1".toUTF8), ("d", .emptyDir)])]) ["srv"] "."

theorem write_law_furnished :
    (furnished.write ⟨"n//./b", "2".toUTF8⟩).1.fetch "n//./b" = .ok ⟨"n//./b", "2".toUTF8⟩ ∧
    (furnished.write ⟨"n//./b", "2".toUTF8⟩).1.fetch "a" = .ok ⟨"a", "1".toUTF8⟩ ∧
    (∀ p, (furnished.write ⟨"n/m/", "2".toUTF8⟩).1.tree.data? p = furnished.tree.data? p) ∧
    (∃ new, furnished.tree.get? ["srv", "n"] = none ∧
      (furnished.write ⟨"n/m/", "2".toUTF8⟩).1.tree.get? ["srv", "n"] = some new ∧ new.isDir) ∧
    (furnished.write ⟨"n/../b", "2".toUTF8⟩).1 = furnished := by
  obtain ⟨-, -, hok, -⟩ := write_law furnished ⟨"n//./b", "2".toUTF8⟩
  obtain ⟨hfetch, -, -, hothers⟩ := hok (by decide +kernel)
  obtain ⟨-, -, -, hfails⟩ := write_law furnished ⟨"n/m/", "2".toUTF8⟩
  obtain ⟨hfiles, hnew, -⟩ := hfails (.io "./n/m/" .isDirectory) (by decide +kernel)
  obtain ⟨-, -, -, hrefused⟩ := write_law furnished ⟨"n/../b", "2".toUTF8⟩
  obtain ⟨-, -, hsame⟩ := hrefused (.invalidName "n/../b") (by decide +kernel)
  have hmade : (furnished.write ⟨"n/m/", "2".toUTF8⟩).1.tree.get? ["srv", "n"] =
      some .emptyDir := by rfl
  exact ⟨hfetch, hothers "a" ⟨"a", "1".toUTF8⟩ (by decide +kernel) (by decide +kernel), hfiles,
    ⟨_, rfl, hmade, hnew ["srv", "n"] _ rfl hmade⟩, hsame _ rfl⟩

end Directory
end InstallManifest
