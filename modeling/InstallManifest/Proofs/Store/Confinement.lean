import InstallManifest.Proofs.Store.Absence
import InstallManifest.Proofs.Store.Effect
import InstallManifest.Proofs.Store.History
import InstallManifest.Proofs.Store.Reach
import Mathlib.Data.List.Infix

/-!
# Names stay below the root

Whether a name is taken is decided by its steps, but the path of a file is put together as a text.
Both agree on every name: one that is taken adds its own names to the steps of the root and nothing
else (`Path.steps_join`), so what it stands for is below the root. A directory may still have to
look further, because the way to the root is outside of it; all that it can reach is below the root
or on that way (`Directory.Reaches`). So whatever is asked of it, the files that are not below its
root stay as they are, and might as well be others (`Directory.confinement_law`).
-/
namespace InstallManifest
open Store

/-! ## Names that are refused -/

namespace Directory
variable {d : Directory} {f : File} {name other : String} {p : List String}

/-- Whether a name is empty, absolute, or goes up somewhere. -/
def IsRefused (name : String) : Prop :=
  name = "" ∨ Path.isAbsolute name = true ∨ ".." ∈ Path.components name

instance (name : String) : Decidable (IsRefused name) := inferInstanceAs (Decidable (_ ∨ _ ∨ _))

theorem isConfined_eq_true_iff : isConfined name = true ↔ ¬ IsRefused name := by
  rw [isConfined_iff, IsRefused, not_or, not_or, Bool.not_eq_true]

theorem isConfined_eq_false_iff : isConfined name = false ↔ IsRefused name := by
  rw [← Bool.not_eq_true, isConfined_eq_true_iff, not_not]

theorem fetch_eq_invalidName_iff :
    d.fetch name = .error (.invalidName other) ↔ other = name ∧ IsRefused name := by
  by_cases hname : isConfined name = true
  · refine iff_of_false (fun h => ?_) fun h => isConfined_eq_true_iff.1 hname h.2
    unfold fetch at h
    rw [if_neg (not_not_intro hname)] at h
    dsimp only at h
    split at h <;> cases h
  · rw [fetch, if_pos hname]
    have hrefused : IsRefused name := isConfined_eq_false_iff.1 (Bool.eq_false_iff.2 hname)
    simp [hrefused, eq_comm]

theorem write_eq_invalidName_iff :
    (d.write f).2 = .error (.invalidName other) ↔ other = f.name ∧ IsRefused f.name := by
  constructor
  · intro h
    have hname : isConfined f.name = false := isConfined_of_invalidName h
    rw [write_of_not_isConfined hname] at h
    obtain rfl : f.name = other := by simpa using h
    exact ⟨rfl, isConfined_eq_false_iff.1 hname⟩
  · rintro ⟨rfl, hrefused⟩
    rw [write_of_not_isConfined (isConfined_eq_false_iff.2 hrefused)]

/-! ## What a directory reaches -/

theorem rootPlace_eq (d : Directory) :
    d.rootPlace = Tree.resolve d.start (Path.components d.root) := by
  obtain ⟨rest, hcomponents, hrest⟩ := Path.exists_components_eq_front_append d.root
  have hup : ".." ∉ rest := fun h => absurd (hrest ".." h) (by decide)
  have hnames : Tree.names rest = [] := List.filter_eq_nil_iff.2 fun c hc => by simp [hrest c hc]
  rw [hcomponents, Tree.resolve_append, Tree.resolve_of_not_mem _ hup, hnames, List.append_nil,
    rootPlace]

/-- **The places within reach** of a directory are those below its root, and those that the path of
the root leads through. -/
def Reaches (d : Directory) (p : List String) : Prop :=
  d.rootPlace <+: p ∨
    ∃ way, way <+: Path.components d.root ∧ p = Tree.resolve d.start way

/-- The path of a file leads through nothing that is out of reach. -/
theorem leadsThrough_reaches (hname : isConfined name = true) :
    Tree.LeadsThrough d.Reaches d.start (Path.components (d.path name)) := by
  intro way hway
  obtain ⟨-, -, hup⟩ := isConfined_iff.1 hname
  obtain ⟨rest, hcomponents, -⟩ := Path.exists_components_eq_front_append d.root
  rw [components_path hname] at hway
  rcases List.prefix_or_prefix_of_prefix hway (List.prefix_append _ _) with hfront | hbelow
  · exact .inr ⟨way, hfront.trans ⟨rest, hcomponents.symm⟩, rfl⟩
  · obtain ⟨below, rfl⟩ := hbelow
    have hupto : below <+: Path.components name := (List.prefix_append_right_inj _).1 hway
    rw [Tree.resolve_append, Tree.resolve_of_not_mem _ fun h => hup (hupto.subset h)]
    exact .inl (List.prefix_append _ _)

/-- The parent of a path is a part of it. -/
theorem leadsThrough_parent (hname : isConfined name = true) :
    Tree.LeadsThrough d.Reaches d.start (Path.parent (Path.components (d.path name))) :=
  (leadsThrough_reaches hname).upTo (Path.parent_isPrefix _)

/-! ## What a directory changes -/

/-- What a store does to the tree that its directory is in: it stays where it is and keeps all
directories, no file changes that is not below its root, and nothing else that is out of reach. -/
structure StaysInside (d d' : Directory) : Prop where
  root : d' = { d with tree := d'.tree }
  preserves : d.tree.Preserves d'.tree
  files : ∀ p, ¬ d.rootPlace <+: p → d'.tree.data? p = d.tree.data? p
  kinds : ∀ p, ¬ d.Reaches p → d'.tree.kind? p = d.tree.kind? p

theorem StaysInside.refl (d : Directory) : d.StaysInside d :=
  ⟨rfl, .refl d.tree, fun _ _ => rfl, fun _ _ => rfl⟩

theorem StaysInside.trans {d' d'' : Directory} (h : d.StaysInside d') (h' : d'.StaysInside d'') :
    d.StaysInside d'' := by
  obtain ⟨tree, rfl⟩ : ∃ tree, d' = { d with tree := tree } := ⟨_, h.root⟩
  exact ⟨h'.root, h.preserves.trans h'.preserves,
    fun p hp => (h'.files p hp).trans (h.files p hp),
    fun p hp => (h'.kinds p hp).trans (h.kinds p hp)⟩

theorem kind?_makeParents {cs : List String} (h : Tree.LeadsThrough (· ≠ p) d.start cs) :
    (d.makeParents cs).1.kind? p = d.tree.kind? p := by
  unfold makeParents
  split
  next => rfl
  next => exact Tree.kind?_makeDirs h

theorem kind?_write (hp : ¬ d.Reaches p) : (d.write f).1.tree.kind? p = d.tree.kind? p := by
  have hmisses (q : List String) (hq : d.Reaches q) : q ≠ p := fun h => hp (h ▸ hq)
  unfold write
  split
  next => rfl
  next hname =>
    have hconfined : isConfined f.name = true := not_not.1 hname
    have hpath := (leadsThrough_reaches (d := d) hconfined).target
    have hparents : (d.makeParents (Path.parent (Path.components (d.path f.name)))).1.kind? p =
        d.tree.kind? p := kind?_makeParents ((leadsThrough_parent hconfined).mono hmisses)
    dsimp only
    split
    next =>
      dsimp only
      exact hparents
    next =>
      split
      next =>
        dsimp only
        exact hparents
      next hwrite =>
        obtain ⟨_, -, hwrite⟩ := Result.exists_of_bind hwrite
        exact (Tree.kind?_of_write hwrite (hmisses _ hpath).symm).trans hparents

theorem staysInside_write (d : Directory) (f : File) : d.StaysInside (d.write f).1 := by
  have hroot : (d.write f).1 = { d with tree := (d.write f).1.tree } := by
    obtain ⟨tree, htree, -⟩ := d.write_cases f
    rw [htree]
  cases hanswer : (d.write f).2 with
  | error e =>
    obtain ⟨hfiles, hkeeps⟩ := keeps_of_write_error hanswer
    exact ⟨hroot, hkeeps, fun p _ => hfiles p, fun _ hp => kind?_write hp⟩
  | ok _ =>
    have hwrite : d.write f = ((d.write f).1, .ok ()) := Prod.ext rfl hanswer
    obtain ⟨hkeeps, -, hothers⟩ := data?_of_write_ok hwrite
    refine ⟨hroot, hkeeps, fun p hp => hothers p ?_, fun _ hp => kind?_write hp⟩
    rintro rfl
    rw [place_eq_append (write_eq_ok_iff.1 hwrite).1] at hp
    exact hp (List.prefix_append _ _)

theorem staysInside_perform (d : Directory) (op : Operation) :
    d.StaysInside (AssetStore.perform d op).1 := by
  cases op with
  | write f => exact d.staysInside_write f
  | fetch name => exact .refl d

/-- **A run stays inside**, because each step does. -/
theorem staysInside_after (d : Directory) (ops : List Operation) :
    d.StaysInside (AssetStore.after d ops) := by
  induction ops generalizing d with
  | nil => exact .refl d
  | cons op ops ih => exact (d.staysInside_perform op).trans (ih _)

/-! ## What a directory looks at -/

/-- Whether a store cannot tell a directory from another one: they are in the same place, what is
within reach is of the same kind, and the files below the root are the same. -/
structure LooksLike (d d' : Directory) : Prop where
  root : d' = { d with tree := d'.tree }
  agree : Tree.AgreeOn d.Reaches (d.rootPlace <+: ·) d.tree d'.tree

theorem LooksLike.of_agree {t t' : Tree}
    (h : Tree.AgreeOn d.Reaches (d.rootPlace <+: ·) t t') :
    LooksLike { d with tree := t } { d with tree := t' } :=
  ⟨rfl, h⟩

theorem LooksLike.fetch_eq {d' : Directory} (h : d.LooksLike d') (name : String) :
    d.fetch name = d'.fetch name := by
  obtain ⟨tree, rfl⟩ : ∃ tree, d' = { d with tree := tree } := ⟨_, h.root⟩
  unfold fetch
  split
  next => rfl
  next hname =>
    have hconfined : isConfined name = true := not_not.1 hname
    have hpath := leadsThrough_reaches (d := d) hconfined
    have hinside : d.rootPlace <+: Tree.resolve d.start (Path.components (d.path name)) := by
      have hplace : d.place name = _ := place_eq_append hconfined
      rw [← place, hplace]
      exact List.prefix_append _ _
    have hread := h.agree.read_eq hpath hinside
    dsimp only [path] at hread ⊢
    rw [hread]

theorem LooksLike.makeParents {d' : Directory} {cs : List String} (h : d.LooksLike d')
    (hcs : Tree.LeadsThrough d.Reaches d.start cs) :
    (d.makeParents cs).2 = (d'.makeParents cs).2 ∧
      Tree.AgreeOn d.Reaches (d.rootPlace <+: ·) (d.makeParents cs).1 (d'.makeParents cs).1 := by
  obtain ⟨tree, rfl⟩ : ∃ tree, d' = { d with tree := tree } := ⟨_, h.root⟩
  unfold Directory.makeParents
  split
  next => exact ⟨rfl, h.agree⟩
  next => exact h.agree.makeDirs hcs

theorem LooksLike.write {d' : Directory} (h : d.LooksLike d') (f : File) :
    (d.write f).2 = (d'.write f).2 ∧ (d.write f).1.LooksLike (d'.write f).1 := by
  obtain ⟨tree, rfl⟩ : ∃ tree, d' = { d with tree := tree } := ⟨_, h.root⟩
  by_cases hname : isConfined f.name = true
  · obtain ⟨hmade, hagree⟩ := h.makeParents (leadsThrough_parent hname)
    have hpath := leadsThrough_reaches (d := d) hname
    unfold Directory.write
    rw [if_neg (not_not_intro hname), if_neg (not_not_intro hname)]
    dsimp only [path] at hmade hagree hpath ⊢
    rw [← hmade]
    split
    next => exact ⟨rfl, .of_agree hagree⟩
    next =>
      cases Path.check (Path.join d.root f.name) with
      | error failure => exact ⟨rfl, .of_agree hagree⟩
      | ok _ =>
        dsimp only [bind, Except.bind]
        obtain ⟨failure, hfails, hfails'⟩ | ⟨t, t', hwrites, hwrites', hagree'⟩ :=
          hagree.write hpath f.data
        · rw [hfails, hfails']
          exact ⟨rfl, .of_agree hagree⟩
        · rw [hwrites, hwrites']
          exact ⟨rfl, .of_agree hagree'⟩
  · rw [write_of_not_isConfined (Bool.eq_false_iff.2 hname),
      write_of_not_isConfined (Bool.eq_false_iff.2 hname)]
    exact ⟨rfl, h⟩

theorem LooksLike.perform {d' : Directory} (h : d.LooksLike d') (op : Operation) :
    (AssetStore.perform d op).2 = (AssetStore.perform d' op).2 ∧
      (AssetStore.perform d op).1.LooksLike (AssetStore.perform d' op).1 := by
  cases op with
  | write f =>
    obtain ⟨hanswer, hlooks⟩ := h.write f
    refine ⟨?_, hlooks⟩
    show (d.write f).2.map _ = (d'.write f).2.map _
    rw [hanswer]
  | fetch name =>
    refine ⟨?_, h⟩
    show (d.fetch name).map some = (d'.fetch name).map some
    rw [h.fetch_eq name]

/-- **Directories that look alike answer alike**, to the end of a run. -/
theorem LooksLike.answers_eq {d' : Directory} (h : d.LooksLike d') (ops : List Operation) :
    AssetStore.answers d ops = AssetStore.answers d' ops := by
  induction ops generalizing d d' with
  | nil => rfl
  | cons op ops ih =>
    obtain ⟨hanswer, hlooks⟩ := h.perform op
    rw [AssetStore.answers, AssetStore.answers, hanswer, ih hlooks]

/-! ## Confinement -/

/-- **A directory keeps to its root.** A name is refused, whatever the tree is, exactly if it is
empty, absolute, or goes up somewhere, and then nothing is done. The path of any other name has the
steps of the root and then the names in it, without its empty components and dots, so it leads to a
place below the root. Whatever is written and fetched, one after the other: what is fetched is in a
file below the root, no file elsewhere is made, changed or lost, no directory is lost, and none is
made elsewhere but on the way to the root. Nor is anything elsewhere looked at: with other files and
directories in its place, all answers would be the same. -/
theorem confinement_law (d : Directory) :
    (∀ name other, d.fetch name = .error (.invalidName other) ↔
      other = name ∧ IsRefused name) ∧
    (∀ f other, (d.write f).2 = .error (.invalidName other) ↔
      other = f.name ∧ IsRefused f.name) ∧
    (∀ f, IsRefused f.name → (d.write f).1 = d) ∧
    d.rootPlace = Tree.resolve d.start (Path.components d.root) ∧
    (∀ name, ¬ IsRefused name →
      let inside := Tree.names (Path.components name)
      (Path.steps (d.path name)).filter (· ≠ .here) =
        (Path.steps d.root).filter (· ≠ .here) ++ inside.map .down ∧
      (d.root ≠ "" → Path.steps (d.path name) = Path.steps d.root ++ inside.map .down) ∧
      d.place name = d.rootPlace ++ inside ∧
      ∀ target, d.tree.walk d.start (Path.components (d.path name)) = .ok target →
        target = d.rootPlace ++ inside) ∧
    ∀ ops,
      let d' := AssetStore.after d ops
      d' = { d with tree := d'.tree } ∧ d.tree.Preserves d'.tree ∧
      (∀ name f, d'.fetch name = .ok f →
        d'.tree.data? (d.rootPlace ++ Tree.names (Path.components name)) = some f.data) ∧
      (∀ p, ¬ d.rootPlace <+: p → d'.tree.data? p = d.tree.data? p) ∧
      (∀ p, ¬ d.Reaches p → d'.tree.kind? p = d.tree.kind? p) ∧
      ∀ tree, Tree.AgreeOn d.Reaches (d.rootPlace <+: ·) d.tree tree →
        AssetStore.answers { d with tree := tree } ops = AssetStore.answers d ops := by
  refine ⟨fun _ _ => fetch_eq_invalidName_iff, fun _ _ => write_eq_invalidName_iff,
    fun f hrefused => ?_, d.rootPlace_eq, fun name hname => ?_, fun ops => ?_⟩
  · rw [write_of_not_isConfined (isConfined_eq_false_iff.2 hrefused)]
  · have hconfined : isConfined name = true := isConfined_eq_true_iff.2 hname
    obtain ⟨-, habsolute, hup⟩ := isConfined_iff.1 hconfined
    have hplace : d.place name = _ := place_eq_append hconfined
    exact ⟨Path.filter_steps_join d.root habsolute hup,
      fun hroot => Path.steps_join hroot habsolute hup, hplace,
      fun target hwalk => (Tree.walk_eq_resolve hwalk).trans hplace⟩
  · obtain ⟨hroot, hkeeps, hfiles, hkinds⟩ := d.staysInside_after ops
    refine ⟨hroot, hkeeps, fun name f hfetch => ?_, hfiles, hkinds, fun tree hagree => ?_⟩
    · obtain rfl : f.name = name := namesFiles _ name f hfetch
      have hplace := place_eq_append (d := AssetStore.after d ops) (fetch_eq_ok_iff.1 hfetch).1
      have hdata := data?_of_fetch hfetch
      rw [hplace, hroot] at hdata
      exact hdata
    · have hlooks : d.LooksLike { d with tree := tree } := ⟨rfl, hagree⟩
      exact (hlooks.answers_eq ops).symm

/-- A store that is not there yet, next to a file that is none of its business. -/
def outpost (secret : Tree) : Directory :=
  .ofPath (.dir [("etc", secret), ("srv", .emptyDir)]) ["srv"] "./out/"

/-- Attempts to get out of the store, and spellings of a name in it. -/
def excursions : List Operation := [
  .fetch "/etc", .fetch "a/../../../etc", .write ⟨"./..", "x".toUTF8⟩, .fetch "",
  .write ⟨"./.../b//c", "1".toUTF8⟩, .fetch ".../b/./c"]

theorem confinement_law_outpost :
    let d := outpost (.file "secret".toUTF8)
    let d' := AssetStore.after d excursions
    AssetStore.answers d excursions = [
      .error (.invalidName "/etc"), .error (.invalidName "a/../../../etc"),
      .error (.invalidName "./.."), .error (.invalidName ""), .ok none,
      .ok (some ⟨".../b/./c", "1".toUTF8⟩)] ∧
    (d.write ⟨"./..", "x".toUTF8⟩).1 = d ∧
    Path.steps (d.path "./.../b//c") = [.here, .down "out", .down "...", .down "b", .down "c"] ∧
    d'.tree.data? ["srv", "out", "...", "b", "c"] = some "1".toUTF8 ∧
    d'.tree.data? ["etc"] = some "secret".toUTF8 ∧
    AssetStore.answers (outpost .emptyDir) excursions = AssetStore.answers d excursions := by
  intro d d'
  obtain ⟨-, -, hrefused, -, htaken, hrun⟩ := confinement_law d
  obtain ⟨-, hsteps, -, -⟩ := htaken "./.../b//c" (by decide +kernel)
  obtain ⟨-, -, hfetched, hfiles, -, hlooks⟩ := hrun excursions
  have hroot : d.rootPlace = ["srv", "out"] := by decide +kernel
  have hagree : Tree.AgreeOn d.Reaches (d.rootPlace <+: ·) d.tree (outpost .emptyDir).tree := by
    have hbelow (p : List String) (hp : d.rootPlace <+: p) :
        d.tree.get? p = (outpost .emptyDir).tree.get? p := by
      obtain ⟨below, rfl⟩ := hp
      rw [hroot]
      rfl
    have hway : ∀ way ∈ (Path.components d.root).inits,
        d.tree.kind? (Tree.resolve d.start way) =
          (outpost .emptyDir).tree.kind? (Tree.resolve d.start way) := by
      decide +kernel
    constructor
    · rintro p (hp | ⟨way, hprefix, rfl⟩)
      · rw [Tree.kind?, Tree.kind?, hbelow p hp]
      · exact hway way ((List.mem_inits way _).2 hprefix)
    · intro p hp
      rw [Tree.data?, Tree.data?, hbelow p hp]
  have hagain : d'.fetch ".../b/./c" = .ok ⟨".../b/./c", "1".toUTF8⟩ := by decide +kernel
  refine ⟨by decide +kernel, hrefused _ (by decide +kernel), ?_, ?_, ?_, hlooks _ hagree⟩
  · exact (hsteps (by decide)).trans (by decide +kernel)
  · have hplace : d.rootPlace ++ Tree.names (Path.components ".../b/./c") =
        ["srv", "out", "...", "b", "c"] := by decide +kernel
    rw [← hplace]
    exact hfetched _ _ hagain
  · exact (hfiles ["etc"] (by rw [hroot]; decide)).trans rfl

end Directory
end InstallManifest
