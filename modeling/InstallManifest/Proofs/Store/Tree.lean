import InstallManifest.Data.Result
import InstallManifest.Store.Tree
import Mathlib.Data.List.DropRight

/-!
# What a file that was put into a tree leaves as it was

A file is put where no directory stands, so every directory of the tree is still there afterwards,
with every name that it had (`Tree.Preserves`). Walks ask for nothing but directories and names in
them, so a path leads where it led before, and reading a path that was written finds what was
written there (`Tree.read_of_write`).
-/
namespace InstallManifest

theorem Entries.lookup_insert_of_ne {α : Type} {k l : String} (h : l ≠ k) (x : α)
    (es : List (String × α)) : (insert k x es).lookup l = es.lookup l := by
  have hlk : (l == k) = false := beq_false_of_ne h
  induction es with
  | nil => rw [insert, List.lookup_cons, hlk]
  | cons e es ih =>
    obtain ⟨m, y⟩ := e
    unfold insert
    split
    next => rw [List.lookup_cons, hlk]
    next =>
      split
      next heq =>
        obtain rfl : k = m := heq
        rw [List.lookup_cons, hlk, List.lookup_cons, hlk]
      next => rw [List.lookup_cons, List.lookup_cons, ih]

namespace Tree
variable {t t' : Tree} {place path : List String} {name : String} {data : ByteArray}
  {entries : List (String × Tree)}

theorem get?_dir_cons (name : String) (place : List String) :
    (dir entries).get? (name :: place) =
      (entries.lookup name).bind fun child => child.get? place := rfl

theorem get?_append (t : Tree) (place below : List String) :
    t.get? (place ++ below) = (t.get? place).bind fun there => there.get? below := by
  induction place generalizing t with
  | nil => rfl
  | cons name place ih =>
    cases t with
    | file data => rfl
    | dir entries =>
      rw [List.cons_append, get?_dir_cons, get?_dir_cons, Option.bind_assoc]
      simp only [ih]

theorem get?_concat (hplace : t.get? place = some (dir entries)) (name : String) :
    t.get? (place ++ [name]) = entries.lookup name := by
  rw [get?_append, hplace, Option.bind_some, get?_dir_cons]
  exact Option.bind_fun_some _

/-! ## What a put leaves -/

/-- Whether every directory of a tree is one of another tree, with at least the same names. -/
def Preserves (t t' : Tree) : Prop :=
  ∀ place entries, t.get? place = some (dir entries) → ∃ entries',
    t'.get? place = some (dir entries') ∧
      ∀ name, (entries.lookup name).isSome → (entries'.lookup name).isSome

/-- There is no directory in a file. -/
theorem preserves_of_isDir_eq_false (h : t.isDir = false) (t' : Tree) : t.Preserves t' := by
  intro place entries hplace
  cases t with
  | dir _ => cases h
  | file data => cases place <;> cases hplace

/-- A directory is preserved if what stood under a name is preserved by what stands there now. -/
theorem preserves_insert {new : Tree}
    (h : ∀ child, entries.lookup name = some child → child.Preserves new) :
    (dir entries).Preserves (dir (Entries.insert name new entries)) := by
  intro place inner hplace
  cases place with
  | nil =>
    obtain rfl : entries = inner := by simpa [get?] using hplace
    refine ⟨_, rfl, fun other hother => ?_⟩
    by_cases hsame : other = name
    · rw [hsame, Entries.lookup_insert]
      rfl
    · rwa [Entries.lookup_insert_of_ne hsame]
  | cons other place =>
    rw [get?_dir_cons] at hplace
    rw [get?_dir_cons]
    by_cases hsame : other = name
    · obtain ⟨child, hchild, hinner⟩ := Option.bind_eq_some_iff.1 hplace
      rw [hsame] at hchild
      rw [hsame, Entries.lookup_insert]
      exact h child hchild place inner hinner
    · rw [Entries.lookup_insert_of_ne hsame]
      exact ⟨inner, hplace, fun _ hname => hname⟩

/-- A place below a name, in a directory. -/
theorem exists_of_get?_cons (h : t.get? (name :: place) = some t') :
    ∃ outer child, t = dir outer ∧ outer.lookup name = some child ∧ child.get? place = some t' := by
  cases t with
  | file data => cases h
  | dir outer =>
    rw [get?_dir_cons] at h
    obtain ⟨child, hchild, hinner⟩ := Option.bind_eq_some_iff.1 h
    exact ⟨outer, child, rfl, hchild, hinner⟩

theorem put_cons {child : Tree} (hchild : entries.lookup name = some child) (new : Tree)
    (place : List String) :
    (dir entries).put new (name :: place) =
      dir (Entries.insert name (child.put new place) entries) := by
  rw [put, hchild]
  rfl

/-- Putting something under a name, in a directory where no directory has it. -/
theorem preserves_put (new : Tree) (hplace : t.get? place = some (dir entries))
    (hname : (entries.lookup name).any isDir = false) :
    t.Preserves (t.put new (place ++ [name])) := by
  induction place generalizing t with
  | nil =>
    obtain rfl : t = dir entries := by simpa [get?] using hplace
    refine preserves_insert fun child hchild => preserves_of_isDir_eq_false ?_ _
    simpa [hchild] using hname
  | cons other place ih =>
    obtain ⟨outer, child, rfl, hchild, hinner⟩ := exists_of_get?_cons hplace
    rw [List.cons_append, put_cons hchild]
    refine preserves_insert fun child' hchild' => ?_
    obtain rfl : child = child' := Option.some.inj (hchild.symm.trans hchild')
    exact ih hinner

theorem get?_put (new : Tree) (hplace : t.get? place = some (dir entries)) :
    (t.put new (place ++ [name])).get? (place ++ [name]) = some new := by
  induction place generalizing t with
  | nil =>
    obtain rfl : t = dir entries := by simpa [get?] using hplace
    show (dir (Entries.insert name _ entries)).get? [name] = some new
    rw [get?_dir_cons, Entries.lookup_insert]
    rfl
  | cons other place ih =>
    obtain ⟨outer, child, rfl, hchild, hinner⟩ := exists_of_get?_cons hplace
    rw [List.cons_append, put_cons hchild, get?_dir_cons, Entries.lookup_insert]
    exact ih hinner

/-! ## Walks -/

/-- **A step of a walk** is made in a directory. Wherever a directory stands in its place that has
the name that was found, the step leads to the same place, whatever path is left after it. -/
theorem exists_step_of_walk {c : String} {target : List String}
    (h : t.walk place (c :: path) = .ok target) :
    ∃ entries place', t.get? place = some (dir entries) ∧ t.walk place' path = .ok target ∧
      ∀ (t' : Tree) entries' path', t'.get? place = some (dir entries') →
        ((entries.lookup c).isSome → (entries'.lookup c).isSome) →
          t'.walk place (c :: path') = t'.walk place' path' := by
  unfold walk at h
  split at h
  next => cases h
  next => cases h
  next entries hget =>
    split at h
    next hstay =>
      refine ⟨entries, place, hget, h, fun t' entries' path' hget' _ => ?_⟩
      simp only [walk, hget', hstay, if_true]
    next hstay =>
      split at h
      next hup =>
        refine ⟨entries, place.dropLast, hget, h, fun t' entries' path' hget' _ => ?_⟩
        simp only [walk, hget', if_neg hstay, if_pos hup]
      next hup =>
        split at h
        next => cases h
        next hsize =>
          split at h
          next hname =>
            refine ⟨entries, place ++ [c], hget, h, fun t' entries' path' hget' hnames => ?_⟩
            simp only [walk, hget', if_neg hstay, if_neg hup, if_neg hsize, if_pos (hnames hname)]
          next => cases h

theorem walk_of_preserves (ht : t.Preserves t') {target : List String}
    (h : t.walk place path = .ok target) : t'.walk place path = .ok target := by
  induction path generalizing place with
  | nil => exact h
  | cons c path ih =>
    obtain ⟨entries, place', hget, hrest, hstep⟩ := exists_step_of_walk h
    obtain ⟨entries', hget', hnames⟩ := ht place entries hget
    rw [hstep t' entries' path hget' (hnames c)]
    exact ih hrest

/-- A path is walked part by part, and the first part that fails ends the walk. -/
theorem walk_append_eq (t : Tree) (place path path' : List String) :
    t.walk place (path ++ path') = t.walk place path >>= fun target => t.walk target path' := by
  induction path generalizing place with
  | nil => rfl
  | cons c path ih =>
    rw [List.cons_append, walk, walk]
    cases hget : t.get? place with
    | none => rfl
    | some there =>
      cases there with
      | file data => rfl
      | dir entries =>
        dsimp only
        split
        next => exact ih place
        next =>
          split
          next => exact ih place.dropLast
          next =>
            split
            next => rfl
            next =>
              split
              next => exact ih (place ++ [c])
              next => rfl

theorem walk_append {target : List String} (h : t.walk place path = .ok target)
    (path' : List String) : t.walk place (path ++ path') = t.walk target path' := by
  rw [walk_append_eq, h]
  rfl

theorem walk_cons_of_isStay (hget : t.get? place = some (dir entries)) (hstay : isStay name = true)
    (path : List String) : t.walk place (name :: path) = t.walk place path := by
  simp only [walk, hget, if_pos hstay]

/-- A step to a name that is there. -/
theorem walk_cons_of_lookup (hget : t.get? place = some (dir entries)) (hstay : isStay name = false)
    (hup : name ≠ "..") (hsize : ¬ maxNameSize < name.utf8ByteSize)
    (hname : (entries.lookup name).isSome) (path : List String) :
    t.walk place (name :: path) = t.walk (place ++ [name]) path := by
  simp only [walk, hget, hstay, Bool.false_eq_true, if_false, if_neg hup, if_neg hsize,
    if_pos hname]

theorem read_of_walk {target : List String} (hwalk : t.walk place path = .ok target)
    (hfile : t.get? target = some (file data)) : t.read place path = .ok data := by
  simp only [read, hwalk, bind, Except.bind, hfile]
  rfl

/-! ## Writing -/

/-- What a file is written in is a directory, and there is no directory in its place. -/
theorem exists_of_writeIn (h : t.writeIn place path name data = .ok t') :
    ∃ target entries, t.walk place path = .ok target ∧ t.get? target = some (dir entries) ∧
      ¬ maxNameSize < name.utf8ByteSize ∧ (entries.lookup name).any isDir = false ∧
        t' = t.put (file data) (target ++ [name]) := by
  obtain ⟨target, hwalk, h⟩ := Result.exists_of_bind h
  split at h
  next entries hget =>
    split at h
    next => cases h
    next hsize =>
      split at h
      next => cases h
      next hdir =>
        exact ⟨target, entries, hwalk, hget, hsize, by simpa using hdir, (Except.ok.inj h).symm⟩
  next => cases h
  next => cases h

/-- A path that does not get shorter without the empty components at its end has none there. -/
theorem trimmed_of_length
    (h : ¬ ((path.reverse.dropWhile (· = "")).reverse).length < path.length) :
    (∀ c, path.getLast? = some c → c ≠ "") ∧ (path.reverse.dropWhile (· = "")).reverse = path := by
  have hall : path.reverse.dropWhile (· = "") = path.reverse := by
    refine (List.dropWhile_suffix _).eq_of_length_le ?_
    simpa using h
  refine ⟨fun c hc hempty => ?_, by rw [hall, List.reverse_reverse]⟩
  have hhead := List.head?_dropWhile_not (fun c : String => decide (c = "")) path.reverse
  rw [hall, List.head?_reverse, hc] at hhead
  simp [hempty] at hhead

theorem write_concat (hstay : isStay name = false) (hup : name ≠ "..") (front : List String) :
    t.write place (front ++ [name]) data = t.writeIn place front name data := by
  have hname : name ≠ "" ∧ name ≠ "." := by simpa [isStay] using hstay
  have hcore : ((front ++ [name]).reverse.dropWhile (· = "")).reverse = front ++ [name] := by
    simp [hname.1]
  simp only [write, hcore, List.getLast?_concat, hname.2, hup, or_self, if_false,
    Nat.lt_irrefl, List.dropLast_concat]

/-- A path that does not end with a name is not written to, but walked along at most. -/
theorem exists_walk_of_write_refused
    (h : ¬ ∃ front name, path = front ++ [name] ∧ isStay name = false ∧ name ≠ "..") :
    ∃ core, core <+: path ∧ ∀ (t : Tree) place data,
      t.write place path data = t.walk place core >>= fun _ => .error .isDirectory := by
  unfold write
  dsimp only
  split
  next => exact ⟨[], List.nil_prefix, fun _ _ _ => rfl⟩
  next last hlast =>
    split
    next => exact ⟨_, List.rdropWhile_prefix (· = "") path, fun _ _ _ => rfl⟩
    next hdots =>
      split
      next => exact ⟨[], List.nil_prefix, fun _ _ _ => rfl⟩
      next hlength =>
        -- Nothing was cut off at the end, so the last component is a name after all.
        obtain ⟨hlastEmpty, hpath⟩ := trimmed_of_length hlength
        rw [hpath] at hlast
        obtain ⟨front, hfront⟩ := List.getLast?_eq_some_iff.1 hlast
        rw [not_or] at hdots
        refine absurd ⟨front, last, hfront, ?_, hdots.2⟩ h
        simp [isStay, hdots.1, hlastEmpty last hlast]

/-- A path that can be written to ends with a name. -/
theorem exists_of_write (h : t.write place path data = .ok t') :
    ∃ front name, path = front ++ [name] ∧ isStay name = false ∧ name ≠ ".." ∧
      t.writeIn place front name data = .ok t' := by
  by_cases hname : ∃ front name, path = front ++ [name] ∧ isStay name = false ∧ name ≠ ".."
  · obtain ⟨front, name, rfl, hstay, hup⟩ := hname
    rw [write_concat hstay hup] at h
    exact ⟨front, name, rfl, hstay, hup, h⟩
  · obtain ⟨core, -, hwrite⟩ := exists_walk_of_write_refused hname
    rw [hwrite] at h
    obtain ⟨_, -, h⟩ := Result.exists_of_bind h
    cases h

/-- **A path that was written is read as what was written there.** -/
theorem read_of_write (h : t.write place path data = .ok t') : t'.read place path = .ok data := by
  obtain ⟨front, name, rfl, hstay, hup, hwrite⟩ := exists_of_write h
  obtain ⟨target, entries, hwalk, hget, hsize, hname, rfl⟩ := exists_of_writeIn hwrite
  have hpreserves : t.Preserves (t.put (file data) (target ++ [name])) :=
    preserves_put (file data) hget hname
  have hfile : (t.put (file data) (target ++ [name])).get? (target ++ [name]) = some (file data) :=
    get?_put (file data) hget
  -- The directory that was written in is still where the walk to it leads, and has the name now.
  obtain ⟨entries', hget', -⟩ := hpreserves target entries hget
  have hthere : (entries'.lookup name).isSome := by
    rw [← get?_concat hget', hfile]
    rfl
  have hread : (t.put (file data) (target ++ [name])).walk place (front ++ [name]) =
      .ok (target ++ [name]) := by
    rw [walk_append (walk_of_preserves hpreserves hwalk),
      walk_cons_of_lookup hget' hstay hup hsize hthere]
    rfl
  exact read_of_walk hread hfile

end Tree
end InstallManifest
