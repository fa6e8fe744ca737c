import InstallManifest.Proofs.Store.Tree

/-!
# What writing to a tree changes

A path spells out the place it leads to (`Tree.walk_eq_resolve`), so a place is a name for a file
that no operation can change. Making directories changes no file, and writing one changes the file
in its place and no other (`Tree.data?_of_write`). Doing either once more finds everything as it
should be and changes nothing at all (`Tree.makeDirs_again`, `Tree.write_again`).
-/
namespace InstallManifest

theorem Entries.insert_insert {α : Type} (k : String) (x y : α) (es : List (String × α)) :
    insert k x (insert k y es) = insert k x es := by
  induction es with
  | nil => simp [insert]
  | cons e es ih =>
    rw [insert]
    split
    next hlt => simp [insert, hlt]
    next hlt =>
      split
      next heq => simp [insert, heq]
      next heq => rw [insert, if_neg hlt, if_neg heq, insert, if_neg hlt, if_neg heq, ih]

namespace Tree
variable {t t' : Tree} {place path : List String} {c name : String} {data : ByteArray}
  {entries : List (String × Tree)}

/-! ## Places -/

/-- The place that the components of a path spell out, whatever stands there. -/
def resolve (place : List String) : List String → List String
  | [] => place
  | c :: path =>
    if isStay c then resolve place path
    else if c = ".." then resolve place.dropLast path
    else resolve (place ++ [c]) path

theorem resolve_append (place path below : List String) :
    resolve place (path ++ below) = resolve (resolve place path) below := by
  induction path generalizing place with
  | nil => rfl
  | cons c path ih =>
    rw [List.cons_append, resolve, resolve]
    split
    next => exact ih place
    next =>
      split
      next => exact ih place.dropLast
      next => exact ih (place ++ [c])

/-- The names among the components of a path: those that do not stay where they are. -/
def names (path : List String) : List String := path.filter fun c => !isStay c

theorem names_cons_of_isStay (hstay : isStay c = true) (path : List String) :
    names (c :: path) = names path := by
  simp [names, hstay]

theorem names_cons_of_not_isStay (hstay : ¬ isStay c = true) (path : List String) :
    names (c :: path) = c :: names path := by
  simp [names, hstay]

theorem names_of_forall_name (h : ∀ c ∈ path, isStay c = false ∧ c ≠ "..") : names path = path :=
  List.filter_eq_self.2 fun c hc => by simp [(h c hc).1]

/-- A path that does not go up leads down by its names. -/
theorem resolve_of_not_mem (place : List String) (hup : ".." ∉ path) :
    resolve place path = place ++ names path := by
  induction path generalizing place with
  | nil => rw [resolve, names, List.filter_nil, List.append_nil]
  | cons c path ih =>
    obtain ⟨hc, hpath⟩ := List.ne_and_not_mem_of_not_mem_cons hup
    by_cases hstay : isStay c = true
    · rw [resolve, if_pos hstay, ih place hpath, names_cons_of_isStay hstay]
    · rw [resolve, if_neg hstay, if_neg hc.symm, ih (place ++ [c]) hpath,
        names_cons_of_not_isStay hstay, List.append_assoc, List.singleton_append]

/-- Names lead down. -/
theorem resolve_of_forall_name (place : List String)
    (h : ∀ c ∈ path, isStay c = false ∧ c ≠ "..") : resolve place path = place ++ path := by
  rw [resolve_of_not_mem place fun hup => (h ".." hup).2 rfl, names_of_forall_name h]

theorem walk_eq_resolve {target : List String} (h : t.walk place path = .ok target) :
    target = resolve place path := by
  induction path generalizing place with
  | nil => exact (Except.ok.inj h).symm
  | cons c path ih =>
    unfold walk at h
    split at h
    next => cases h
    next => cases h
    next =>
      rw [resolve]
      by_cases hstay : isStay c
      · rw [if_pos hstay] at h ⊢
        exact ih h
      · rw [if_neg hstay] at h ⊢
        by_cases hup : c = ".."
        · rw [if_pos hup] at h ⊢
          exact ih h
        · rw [if_neg hup] at h ⊢
          split at h
          next => cases h
          next =>
            split at h
            next => exact ih h
            next => cases h

/-! ## Putting something in a place -/

theorem data?_eq_some_iff : t.data? place = some data ↔ t.get? place = some (file data) := by
  unfold data?
  cases t.get? place with
  | none => simp
  | some there => cases there <;> simp

/-- What is read is in the place that the path spells out, if there is a way to it. -/
theorem read_eq_ok_iff : t.read place path = .ok data ↔
    t.walk place path = .ok (resolve place path) ∧ t.data? (resolve place path) = some data := by
  constructor
  · intro h
    obtain ⟨target, hwalk, h⟩ := Result.exists_of_bind h
    obtain rfl := walk_eq_resolve hwalk
    refine ⟨hwalk, data?_eq_some_iff.2 ?_⟩
    split at h
    next hget =>
      obtain rfl := Except.ok.inj h
      exact hget
    next => cases h
    next => cases h
  · rintro ⟨hwalk, hdata⟩
    exact read_of_walk hwalk (data?_eq_some_iff.1 hdata)

/-- What is put under a name, with nothing below it, is not noticed anywhere but there and in the
directories that it is in. -/
theorem get?_put_of_not_prefix {new : Tree} (hnew : ∀ c below, new.get? (c :: below) = none)
    (hplace : t.get? place = some (dir entries)) (hname : (entries.lookup name).any isDir = false)
    {q : List String} (hq : ¬ q <+: place ++ [name]) :
    (t.put new (place ++ [name])).get? q = t.get? q := by
  induction place generalizing t q with
  | nil =>
    obtain rfl : t = dir entries := by simpa [get?] using hplace
    cases q with
    | nil => exact absurd List.nil_prefix hq
    | cons other below =>
      show (dir (Entries.insert name new entries)).get? (other :: below) = _
      rw [get?_dir_cons, get?_dir_cons]
      by_cases hsame : other = name
      · subst hsame
        have hbelow : below ≠ [] := fun h => hq (by rw [h]; exact List.prefix_rfl)
        obtain ⟨c, below, rfl⟩ := List.exists_cons_of_ne_nil hbelow
        rw [Entries.lookup_insert, Option.bind_some, hnew]
        -- What stood there was no directory, so nothing was below it either.
        rcases hchild : entries.lookup other with _ | (data | inner)
        · rfl
        · rfl
        · rw [hchild] at hname
          cases hname
      · rw [Entries.lookup_insert_of_ne hsame]
  | cons outer place ih =>
    obtain ⟨siblings, child, rfl, hchild, hinner⟩ := exists_of_get?_cons hplace
    rw [List.cons_append, put_cons hchild]
    cases q with
    | nil => exact absurd List.nil_prefix hq
    | cons other below =>
      rw [get?_dir_cons, get?_dir_cons]
      by_cases hsame : other = outer
      · subst hsame
        have hbelow : ¬ below <+: place ++ [name] := fun h =>
          hq ((List.prefix_cons_inj other).2 h)
        rw [Entries.lookup_insert, hchild, Option.bind_some, Option.bind_some]
        exact ih hinner hbelow
      · rw [Entries.lookup_insert_of_ne hsame]

/-- There is a directory on every way to a directory. -/
theorem exists_dir_of_prefix {way : List String} (hplace : t.get? place = some (dir entries))
    (hway : way <+: place) : ∃ outer, t.get? way = some (dir outer) := by
  obtain ⟨below, rfl⟩ := hway
  obtain ⟨there, hthere, hbelow⟩ :=
    Option.bind_eq_some_iff.1 ((get?_append t way below).symm.trans hplace)
  cases below with
  | nil =>
    obtain rfl : there = dir entries := by simpa [get?] using hbelow
    exact ⟨entries, hthere⟩
  | cons name below =>
    obtain ⟨outer, -, rfl, -⟩ := exists_of_get?_cons hbelow
    exact ⟨outer, hthere⟩

/-- What is put under a name, in a directory where no directory has it, changes no other file. -/
theorem data?_put_of_ne {new : Tree} (hnew : ∀ c below, new.get? (c :: below) = none)
    (hplace : t.get? place = some (dir entries)) (hname : (entries.lookup name).any isDir = false)
    {q : List String} (hq : q ≠ place ++ [name]) :
    (t.put new (place ++ [name])).data? q = t.data? q := by
  by_cases hupto : q <+: place ++ [name]
  · -- Every other place on the way is a directory, and stays one.
    have hway : q <+: place := (List.prefix_concat_iff.1 hupto).resolve_left hq
    obtain ⟨outer, hget⟩ := exists_dir_of_prefix hplace hway
    obtain ⟨outer', hget', -⟩ := preserves_put new hplace hname q outer hget
    rw [data?, data?, hget, hget']
  · rw [data?, data?, get?_put_of_not_prefix hnew hplace hname hupto]

theorem put_put (new old : Tree) (hplace : t.get? place = some (dir entries)) :
    (t.put old (place ++ [name])).put new (place ++ [name]) = t.put new (place ++ [name]) := by
  induction place generalizing t with
  | nil =>
    obtain rfl : t = dir entries := by simpa [get?] using hplace
    show dir (Entries.insert name new (Entries.insert name old entries)) = _
    rw [Entries.insert_insert]
    rfl
  | cons outer place ih =>
    obtain ⟨siblings, child, rfl, hchild, hinner⟩ := exists_of_get?_cons hplace
    rw [List.cons_append, put_cons hchild, put_cons hchild, put_cons (Entries.lookup_insert _ _ _),
      Entries.insert_insert, ih hinner]

/-- A new directory is no file, and there was none in its place. -/
theorem data?_put_emptyDir (hplace : t.get? place = some (dir entries))
    (hname : entries.lookup name = none) (q : List String) :
    (t.put emptyDir (place ++ [name])).data? q = t.data? q := by
  by_cases hq : q = place ++ [name]
  · rw [hq, data?, data?, get?_concat hplace, hname, get?_put emptyDir hplace]
    rfl
  · exact data?_put_of_ne (fun _ _ => rfl) hplace (by rw [hname]; rfl) hq

/-! ## Directories -/

theorem Preserves.refl (t : Tree) : t.Preserves t :=
  fun _ entries hplace => ⟨entries, hplace, fun _ hname => hname⟩

theorem Preserves.trans {t'' : Tree} (h : t.Preserves t') (h' : t'.Preserves t'') :
    t.Preserves t'' := by
  intro place entries hplace
  obtain ⟨entries', hplace', hnames⟩ := h place entries hplace
  obtain ⟨entries'', hplace'', hnames'⟩ := h' place entries' hplace'
  exact ⟨entries'', hplace'', fun name hname => hnames' name (hnames name hname)⟩

/-- A directory is still in the one that it was in. -/
theorem Preserves.exists_lookup (h : t.Preserves t') {inner entries' : List (String × Tree)}
    (hbelow : t.get? (place ++ [name]) = some (dir inner))
    (hplace' : t'.get? place = some (dir entries')) :
    ∃ inner', entries'.lookup name = some (dir inner') := by
  obtain ⟨inner', hbelow', -⟩ := h (place ++ [name]) inner hbelow
  exact ⟨inner', (get?_concat hplace' name).symm.trans hbelow'⟩

/-- **Making directories** changes no file and keeps every directory. -/
theorem makeDirs_keeps (t : Tree) (place path : List String) :
    (∀ q, (t.makeDirs place path).1.data? q = t.data? q) ∧
      t.Preserves (t.makeDirs place path).1 := by
  induction path generalizing t place with
  | nil => exact ⟨fun _ => rfl, .refl t⟩
  | cons c path ih =>
    unfold makeDirs
    split
    next => exact ⟨fun _ => rfl, .refl t⟩
    next => exact ⟨fun _ => rfl, .refl t⟩
    next entries hget =>
      split
      next => exact ih t place
      next =>
        split
        next => exact ih t place.dropLast
        next =>
          split
          next => exact ⟨fun _ => rfl, .refl t⟩
          next =>
            split
            next hname =>
              obtain ⟨hfiles, hdirs⟩ := ih (t.put emptyDir (place ++ [c])) (place ++ [c])
              have hput : t.Preserves (t.put emptyDir (place ++ [c])) :=
                preserves_put emptyDir hget (by rw [hname]; rfl)
              refine ⟨fun q => ?_, hput.trans hdirs⟩
              rw [hfiles q, data?_put_emptyDir hget hname q]
            next => exact ih t (place ++ [c])
            next => exact ⟨fun _ => rfl, .refl t⟩

theorem preserves_of_makeDirs {made : Except IOFailure Unit}
    (h : t.makeDirs place path = (t', made)) : t.Preserves t' := by
  have hkeeps := (makeDirs_keeps t place path).2
  rwa [h] at hkeeps

/-- **Directories are made once.** As long as they are there, making them again does nothing. -/
theorem makeDirs_again {t'' : Tree} (h : t.makeDirs place path = (t', .ok ()))
    (hdirs : t'.Preserves t'') : t''.makeDirs place path = (t'', .ok ()) := by
  induction path generalizing t place with
  | nil => rfl
  | cons c path ih =>
    have hkeeps : t.Preserves t'' := (preserves_of_makeDirs h).trans hdirs
    unfold makeDirs at h
    split at h
    next => cases h
    next => cases h
    next entries hget =>
      obtain ⟨entries', hget', -⟩ := hkeeps place entries hget
      rw [makeDirs, hget']
      dsimp only
      by_cases hstay : isStay c
      · rw [if_pos hstay] at h ⊢
        exact ih h
      · rw [if_neg hstay] at h ⊢
        by_cases hup : c = ".."
        · rw [if_pos hup] at h ⊢
          exact ih h
        · rw [if_neg hup] at h ⊢
          by_cases hsize : maxNameSize < c.utf8ByteSize
          · rw [if_pos hsize] at h
            cases h
          · rw [if_neg hsize] at h ⊢
            -- Whether it was there or has been made, there is a directory with this name now.
            split at h
            next hname =>
              have hmade := (preserves_of_makeDirs h).trans hdirs
              obtain ⟨inner', hname'⟩ := hmade.exists_lookup (get?_put emptyDir hget) hget'
              rw [hname']
              exact ih h
            next inner hname =>
              have hbelow := (get?_concat hget c).trans hname
              obtain ⟨inner', hname'⟩ := hkeeps.exists_lookup hbelow hget'
              rw [hname']
              exact ih h
            next => cases h

/-! ## Writing -/

/-- A file is put in the place that its path spells out. -/
theorem exists_put_of_write (h : t.write place path data = .ok t') :
    ∃ target name entries, resolve place path = target ++ [name] ∧
      t.get? target = some (dir entries) ∧ (entries.lookup name).any isDir = false ∧
        t' = t.put (file data) (target ++ [name]) := by
  obtain ⟨front, name, rfl, hstay, hup, hwrite⟩ := exists_of_write h
  obtain ⟨target, entries, hwalk, hget, -, hname, rfl⟩ := exists_of_writeIn hwrite
  refine ⟨target, name, entries, ?_, hget, hname, rfl⟩
  have hlast : ∀ c ∈ [name], isStay c = false ∧ c ≠ ".." :=
    List.forall_mem_singleton.2 ⟨hstay, hup⟩
  rw [resolve_append, ← walk_eq_resolve hwalk, resolve_of_forall_name target hlast]

/-- **Writing a file** keeps every directory, and changes what the path spells out and no other
file. -/
theorem data?_of_write (h : t.write place path data = .ok t') :
    t.Preserves t' ∧ t'.data? (resolve place path) = some data ∧
      ∀ q, q ≠ resolve place path → t'.data? q = t.data? q := by
  obtain ⟨target, name, entries, hplace, hget, hname, rfl⟩ := exists_put_of_write h
  rw [hplace]
  exact ⟨preserves_put (file data) hget hname, data?_eq_some_iff.2 (get?_put (file data) hget),
    fun q hq => data?_put_of_ne (fun _ _ => rfl) hget hname hq⟩

/-- **A file is written once.** Writing the same again changes nothing. -/
theorem write_again (h : t.write place path data = .ok t') :
    t'.write place path data = .ok t' := by
  have hkeeps := (data?_of_write h).1
  obtain ⟨front, name, rfl, hstay, hup, hwrite⟩ := exists_of_write h
  obtain ⟨target, entries, hwalk, hget, hsize, hname, rfl⟩ := exists_of_writeIn hwrite
  obtain ⟨entries', hget', -⟩ := hkeeps target entries hget
  -- What is there under the name is the file that was written.
  have hfile : entries'.lookup name = some (file data) := by
    rw [← get?_concat hget', get?_put (file data) hget]
  have hdir : (entries'.lookup name).any isDir = false := by rw [hfile]; rfl
  rw [write_concat hstay hup, writeIn, walk_of_preserves hkeeps hwalk]
  simp only [bind, Except.bind, hget', if_neg hsize, hdir, put_put (file data) (file data) hget]
  rfl

end Tree
end InstallManifest
