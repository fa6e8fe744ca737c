import InstallManifest.Proofs.Store.Absence
import InstallManifest.Proofs.Store.History

/-!
# A directory is a store like memory

In memory a name is a key, and in a directory it is a way down a tree that is made while files are
written. If no name leads through the place of another one, nobody can tell the difference: from an
empty root on, a directory answers all operations as memory does (`Directory.answers_eq_memory`).
What carries the proof is how the tree represents the history (`Directory.Remembers`): every name
has the file in its place that was written last, no other file is on the way to it, and as long as
the root is not there, nothing has been written.
-/
namespace InstallManifest
open Store

namespace Directory
variable {d : Directory} {f : File} {name : String} {names : List String} {tree : Tree}
  {past : List Operation}

/-! ## Writing below the root -/

/-- To make the parent of a file is to make what its path has in front of the name. -/
theorem makeParents_trimEnd {cs : List String}
    (hcheck : Path.check (Path.ofComponents (Path.trimEnd cs)) = .ok ())
    (h : d.tree.makeDirs d.start cs = (tree, .ok ())) :
    d.makeParents (Path.trimEnd cs) = (tree, .ok ()) := by
  obtain ⟨rest, hcs, hstay⟩ := Path.exists_eq_trimEnd_append cs
  have hsplit : d.tree.makeDirs d.start (Path.trimEnd cs ++ rest) = (tree, .ok ()) := by
    rwa [← hcs]
  obtain ⟨tree', hfront, hrest⟩ := Tree.exists_of_makeDirs_append hsplit
  obtain rfl : tree = tree' := Tree.eq_of_makeDirs_of_forall_isStay hstay hrest
  rw [makeParents, hcheck]
  exact hfront

/-- **A file can be written** under a plain name if the root can be made, no file is on the way from
there and no directory in its place. -/
theorem exists_write {entries : List (String × Tree)} (hplain : Path.IsPlain f.name)
    (hlimits : d.IsWithinLimits f.name)
    (hmade : d.tree.makeDirs d.start (Path.front d.root) = (tree, .ok ()))
    (hroot : tree.get? d.rootPlace = some (.dir entries))
    (hway : ∀ way, way <+: Path.components f.name → way ≠ Path.components f.name →
      tree.data? (d.rootPlace ++ way) = none)
    (hfree : (tree.get? (d.place f.name)).any Tree.isDir = false) :
    ∃ tree', d.write f = ({ d with tree := tree' }, .ok ()) ∧
      tree.IsWritten tree' (d.place f.name) f.data := by
  obtain ⟨hcheck, hsize⟩ := hlimits
  have hconfined := isConfined_of_isPlain hplain
  obtain ⟨outer, last, hcomponents⟩ := Path.exists_components_eq_concat f.name
  have hpath : Path.components (d.path f.name) = Path.front d.root ++ outer ++ [last] := by
    rw [components_path hconfined, hcomponents, List.append_assoc]
  have hplace : d.place f.name = d.rootPlace ++ outer ++ [last] := by
    rw [place_of_isPlain hplain, hcomponents, List.append_assoc]
  have houter (way : List String) (hupto : way <+: outer) :
      tree.data? (d.rootPlace ++ way) = none := by
    rw [hcomponents] at hway
    refine hway way (hupto.trans (List.prefix_append outer [last])) fun heq => ?_
    exact Tree.not_concat_isPrefix_self outer last (heq ▸ hupto)
  obtain ⟨tree₁, tree₂, hmakes, hwrite, hwritten⟩ := Tree.exists_write hmade hroot
    (hcomponents ▸ hplain) (hcomponents ▸ hsize) houter (hplace ▸ hfree) f.data
  have hlast : Tree.isStay last = false :=
    (hplain last (by rw [hcomponents]; exact List.mem_concat_self)).1
  have hparents : d.makeParents (Path.parent (Path.components (d.path f.name))) =
      (tree₁, .ok ()) := by
    rw [hpath, Path.parent_concat hlast]
    refine makeParents_trimEnd (Path.check_ofComponents ?_ hcheck) hmakes
    obtain ⟨rest, hrest, -⟩ := Path.exists_eq_trimEnd_append (Path.front d.root ++ outer)
    exact ⟨rest ++ [last], by rw [hpath, ← List.append_assoc, ← hrest]⟩
  rw [← hpath] at hwrite
  refine ⟨tree₂, write_eq_ok_iff.2 ⟨hconfined, hcheck, tree₁, tree₂, hparents, hwrite, rfl⟩, ?_⟩
  rw [hplace]
  exact hwritten

/-! ## What a directory remembers -/

/-- Names that a directory can keep files under, all at once. -/
structure KeepsApart (d : Directory) (names : List String) : Prop where
  plain : ∀ name ∈ names, Path.IsPlain name
  limits : ∀ name ∈ names, d.IsWithinLimits name
  /-- No name leads through the place of another one. -/
  apart : ∀ name ∈ names, ∀ name' ∈ names,
    Path.components name <+: Path.components name' → name = name'

/-- How a directory represents what was written under some names: in its tree, once the root has
been made there. -/
structure Remembers (d : Directory) (names : List String) (past : List Operation) (tree : Tree) :
    Prop where
  makes : d.tree.makeDirs d.start (Path.front d.root) = (tree, .ok ())
  /-- The root is made when the first file is written. -/
  unmade : tree ≠ d.tree → ∀ name ∈ names, History.lastWritten? past name = none
  root : ∃ entries, tree.get? d.rootPlace = some (.dir entries)
  files : ∀ name ∈ names, tree.get? (d.place name) = (History.lastWritten? past name).map .file
  ways : ∀ name ∈ names, ∀ way, way <+: Path.components name → way ≠ Path.components name →
    tree.data? (d.rootPlace ++ way) = none

theorem fetch_of_remembers (hnames : d.KeepsApart names) (h : d.Remembers names past tree)
    (hname : name ∈ names) : d.fetch name =
      match History.lastWritten? past name with
      | some data => .ok ⟨name, data⟩
      | none => .error (.notFound name) := by
  have hplain := hnames.plain name hname
  have hlimits := hnames.limits name hname
  have hconfined := isConfined_of_isPlain hplain
  have hplace := place_of_isPlain (d := d) hplain
  have hfile := h.files name hname
  obtain ⟨rfl, hwalk⟩ | ⟨hne, hwalk⟩ := Tree.walk_of_makeDirs h.makes
  · cases hlast : History.lastWritten? past name with
    | none =>
      refine (fetch_eq_notFound_iff hconfined hlimits).2 (.inr ⟨hwalk, ?_⟩)
      rw [Tree.names_of_forall_name hplain]
      refine ⟨?_, h.ways name hname⟩
      rw [← hplace, hfile, hlast, Option.map_none]
    | some data =>
      rw [hlast, Option.map_some, hplace] at hfile
      refine fetch_of_read hconfined hlimits.1 ?_
      rw [components_path hconfined, Tree.read_append, hwalk]
      exact Tree.read_of_walk (Tree.walk_of_get? hplain hlimits.2 hfile) hfile
  · -- The root is not there, so nothing has been written yet.
    rw [h.unmade hne name hname]
    exact (fetch_eq_notFound_iff hconfined hlimits).2 (.inl hwalk)

theorem exists_write_of_remembers (hnames : d.KeepsApart names) (h : d.Remembers names past tree)
    (hname : f.name ∈ names) : ∃ tree', d.write f = ({ d with tree := tree' }, .ok ()) ∧
      { d with tree := tree' }.Remembers names (past ++ [Operation.write f]) tree' := by
  obtain ⟨entries, hroot⟩ := h.root
  have hplain := hnames.plain f.name hname
  have hfree : (tree.get? (d.place f.name)).any Tree.isDir = false := by
    rw [h.files f.name hname]
    cases History.lastWritten? past f.name <;> rfl
  obtain ⟨tree', hwrite, hwritten⟩ := exists_write hplain (hnames.limits f.name hname) h.makes hroot
    (h.ways f.name hname) hfree
  obtain ⟨entries', hroot', -⟩ := hwritten.preserves d.rootPlace entries hroot
  refine ⟨tree', hwrite, Tree.makeDirs_again h.makes hwritten.preserves, fun hne => absurd rfl hne,
    ⟨entries', hroot'⟩, fun name hmem => ?_, fun name hmem way hupto hne => ?_⟩
  · by_cases hsame : f.name = name
    · subst hsame
      rw [History.lastWritten?_concat_write]
      exact hwritten.there
    · have hway : ¬ d.place name <+: d.place f.name := by
        rw [place_of_isPlain (hnames.plain name hmem), place_of_isPlain hplain,
          List.prefix_append_right_inj]
        exact fun hupto => hsame (hnames.apart name hmem f.name hname hupto).symm
      rw [History.lastWritten?_concat_write_of_ne past hsame, ← h.files name hmem]
      exact hwritten.get?_eq (d.place name) hway
  · have hother : d.rootPlace ++ way ≠ d.place f.name := by
      rw [place_of_isPlain hplain]
      intro heq
      obtain rfl := List.append_cancel_left heq
      exact hne (congrArg Path.components (hnames.apart f.name hname name hmem hupto))
    rw [← h.ways name hmem way hupto hne]
    exact hwritten.data?_eq _ hother

/-- **One operation** on a directory that remembers the past is answered as expected, and is
remembered in turn. -/
theorem step_of_remembers (hnames : d.KeepsApart names) (h : d.Remembers names past tree)
    {op : Operation} (hop : op.name ∈ names) :
    (AssetStore.perform d op).2 = History.answer past op ∧
      (AssetStore.perform d op).1.KeepsApart names ∧
        ∃ tree', (AssetStore.perform d op).1.Remembers names (past ++ [op]) tree' := by
  cases op with
  | write f =>
    obtain ⟨tree', hwrite, hremembers⟩ := exists_write_of_remembers hnames h hop
    have hperform : AssetStore.write d f = ({ d with tree := tree' }, .ok ()) := hwrite
    rw [AssetStore.perform, hperform]
    exact ⟨rfl, ⟨hnames.plain, hnames.limits, hnames.apart⟩, tree', hremembers⟩
  | fetch name =>
    have hfetch : AssetStore.fetch d name = _ := fetch_of_remembers hnames h hop
    refine ⟨?_, hnames, tree, h.makes, fun hne other hmem => ?_, h.root, fun other hmem => ?_,
      h.ways⟩
    · rw [AssetStore.perform, hfetch, History.answer]
      cases History.lastWritten? past name <;> rfl
    · rw [History.lastWritten?_concat_fetch]
      exact h.unmade hne other hmem
    · rw [History.lastWritten?_concat_fetch]
      exact h.files other hmem

/-! ## Roots to begin with -/

/-- Whether the root can be made, and is empty then: it was empty before, or it was not there. -/
def IsVacant (d : Directory) : Prop :=
  ∃ tree, d.tree.makeDirs d.start (Path.front d.root) = (tree, .ok ()) ∧
    tree.get? d.rootPlace = some .emptyDir

theorem isVacant_of_empty (hwalk : d.tree.walk d.start (Path.front d.root) = .ok d.rootPlace)
    (hempty : d.tree.get? d.rootPlace = some .emptyDir) : d.IsVacant :=
  ⟨d.tree, Tree.makeDirs_of_walk hwalk hempty, hempty⟩

/-- A root that is missing is vacant, unless its path goes up again after the first name that is
missing. Two dots there could lead back to a place that is not empty. -/
theorem isVacant_of_missing {above below place : List String} {entries : List (String × Tree)}
    (hroot : Path.front d.root = above ++ name :: below)
    (hwalk : d.tree.walk d.start above = .ok place) (hdir : d.tree.get? place = some (.dir entries))
    (hmissing : entries.lookup name = none) (hstay : Tree.isStay name = false)
    (hup : ".." ∉ name :: below)
    (hsize : ∀ c ∈ name :: below, ¬ Tree.maxNameSize < c.utf8ByteSize) : d.IsVacant := by
  obtain ⟨hname, hbelow⟩ := List.ne_and_not_mem_of_not_mem_cons hup
  obtain ⟨hnamesize, hbelowsize⟩ := List.forall_mem_cons.1 hsize
  have hplace : Tree.resolve d.start above = place := (Tree.walk_eq_resolve hwalk).symm
  have hnew : (d.tree.put .emptyDir (place ++ [name])).get? (place ++ [name]) = some .emptyDir :=
    Tree.get?_put .emptyDir hdir
  obtain ⟨tree, hmakes, hempty⟩ := Tree.exists_makeDirs_emptyDir hnew hbelow hbelowsize
  refine ⟨tree, ?_, ?_⟩
  · rw [hroot, Tree.makeDirs_append (Tree.makeDirs_of_walk hwalk hdir), hplace,
      Tree.makeDirs_cons_of_none hdir hstay hname.symm hnamesize hmissing, hmakes]
  · rw [rootPlace, hroot, Tree.resolve_append, hplace, Tree.resolve_of_not_mem place hup,
      Tree.names_cons_of_not_isStay (by simp [hstay])]
    simpa using hempty

theorem IsVacant.exists_remembers (h : d.IsVacant) (hnames : d.KeepsApart names) :
    ∃ tree, d.Remembers names [] tree := by
  obtain ⟨tree, hmakes, hroot⟩ := h
  refine ⟨tree, hmakes, fun _ _ _ => rfl, ⟨[], hroot⟩, fun name hmem => ?_,
    fun name _ way _ _ => ?_⟩
  · obtain ⟨outer, last, hcomponents⟩ := Path.exists_components_eq_concat name
    rw [place_of_isPlain (hnames.plain name hmem), Tree.get?_append, hroot, hcomponents]
    cases outer <;> rfl
  · rw [Tree.data?, Tree.get?_append, hroot]
    cases way <;> rfl

/-- **A directory answers as memory does.** Start with a root that is empty or not there, and take
names that are plain, within the limits of the file system, and apart from each other. Whatever is
written and fetched under these names, both stores give the same answers: every write succeeds, and
every fetch finds what was written last under exactly its name, or reports that there is nothing. -/
theorem answers_eq_memory (hvacant : d.IsVacant) {ops : List Operation}
    (hnames : d.KeepsApart (ops.map Operation.name)) :
    AssetStore.answers d ops = AssetStore.answers MemoryStore.empty ops ∧
      AssetStore.answers d ops = History.answersAfter [] ops := by
  let names := ops.map Operation.name
  let Represents (s : Directory) (past : List Operation) : Prop :=
    s.KeepsApart names ∧ ∃ tree, s.Remembers names past tree
  have hstep (s : Directory) (past : List Operation) (op : Operation) (hop : op ∈ ops)
      (h : Represents s past) : (AssetStore.perform s op).2 = History.answer past op ∧
        Represents (AssetStore.perform s op).1 (past ++ [op]) := by
    obtain ⟨hapart, tree, hremembers⟩ := h
    exact step_of_remembers hapart hremembers (List.mem_map_of_mem hop)
  have hanswers : AssetStore.answers d ops = History.answersAfter [] ops :=
    AssetStore.answers_eq_of_step hstep ⟨hnames, hvacant.exists_remembers hnames⟩
      (List.Subset.refl ops)
  exact ⟨hanswers.trans (MemoryStore.answers_empty ops).symm, hanswers⟩

/-- A store in an empty directory, or in one that is to be made there. -/
def inSrv (root : String) : Directory := Directory.ofPath (.dir [("srv", .emptyDir)]) ["srv"] root

/-- Two files are written next to each other, and one of them again. -/
def sampleOperations : List Operation := [
  .fetch "a/b", .write ⟨"a/b", "1".toUTF8⟩, .write ⟨"a/c", "2".toUTF8⟩, .fetch "a/b",
  .write ⟨"a/b", "3".toUTF8⟩, .fetch "a/b", .fetch "a/c", .fetch "d"]

def sampleAnswers : List Answer := [
  .error (.notFound "a/b"), .ok none, .ok none, .ok (some ⟨"a/b", "1".toUTF8⟩), .ok none,
  .ok (some ⟨"a/b", "3".toUTF8⟩), .ok (some ⟨"a/c", "2".toUTF8⟩), .error (.notFound "d")]

theorem answers_eq_memory_inSrv :
    (∀ root ∈ [".", "./out/assets/"], (inSrv root).IsVacant ∧
      (inSrv root).KeepsApart (sampleOperations.map Operation.name) ∧
      AssetStore.answers (inSrv root) sampleOperations = sampleAnswers) ∧
    AssetStore.answers MemoryStore.empty sampleOperations = sampleAnswers := by
  have hroot : Path.front "./out/assets/" = ["."] ++ "out" :: ["assets"] := by decide +kernel
  have hvacant : ∀ root ∈ [".", "./out/assets/"], (inSrv root).IsVacant := by
    refine List.forall_mem_cons.2 ⟨?_, List.forall_mem_singleton.2 ?_⟩
    · exact isVacant_of_empty (by decide +kernel) (by rfl)
    · exact isVacant_of_missing hroot rfl rfl rfl (by decide) (by decide) (by decide +kernel)
  have hapart : ∀ root ∈ [".", "./out/assets/"],
      (inSrv root).KeepsApart (sampleOperations.map Operation.name) := fun root hmem =>
    ⟨by decide +kernel, by revert root; decide +kernel, by decide +kernel⟩
  have hexpected : History.answersAfter [] sampleOperations = sampleAnswers := by decide +kernel
  refine ⟨fun root hmem => ⟨hvacant root hmem, hapart root hmem, ?_⟩, ?_⟩
  · exact (answers_eq_memory (hvacant root hmem) (hapart root hmem)).2.trans hexpected
  · exact (MemoryStore.answers_empty sampleOperations).trans hexpected

end Directory
end InstallManifest
