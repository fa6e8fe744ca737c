import InstallManifest.Proofs.Store.Frame

/-!
# How far a path reaches

What is done along a path can be noticed only in the places that the parts of the path lead to, and
depends on nothing but what stands in these. What stands there is mostly a matter of its kind: a
directory lets a walk through, a file stops it, and only the file at the end is ever read. So all of
it can be told from the kinds of things (`Tree.kind?`), step by step (`Tree.walk_cons_eq`,
`Tree.makeDirs_cons_eq`), and trees that agree on them cannot be told apart (`Tree.AgreeOn`).
-/
namespace InstallManifest.Tree
variable {t t' new : Tree} {place path p : List String} {c name : String} {data : ByteArray}
  {places seen read : List String → Prop}

/-- Whether a directory stands in a place, or a file, or nothing. -/
def kind? (t : Tree) (place : List String) : Option Bool := (t.get? place).map isDir

theorem exists_of_kind? (h : t.kind? place = some true) :
    ∃ entries, t.get? place = some (dir entries) := by
  obtain ⟨there, hget, hdir⟩ := Option.map_eq_some_iff.1 h
  cases there with
  | file data => cases hdir
  | dir entries => exact ⟨entries, hget⟩

theorem kind?_of_dir {entries : List (String × Tree)} (h : t.get? place = some (dir entries)) :
    t.kind? place = some true := by
  rw [kind?, h]
  rfl

theorem kind?_concat {entries : List (String × Tree)} (h : t.get? place = some (dir entries))
    (name : String) : t.kind? (place ++ [name]) = (entries.lookup name).map isDir := by
  rw [kind?, get?_concat h]

/-! ## Step by step -/

theorem resolve_singleton_of_name (hstay : ¬ isStay c = true) (hup : c ≠ "..") :
    resolve place [c] = place ++ [c] := by
  simp [resolve, hstay, hup]

theorem resolve_cons (place : List String) (c : String) (path : List String) :
    resolve place (c :: path) = resolve (resolve place [c]) path :=
  resolve_append place [c] path

/-- A step of a walk, told from the kinds of things. -/
theorem walk_cons_eq (t : Tree) (place : List String) (c : String) (path : List String) :
    t.walk place (c :: path) =
      match t.kind? place with
      | none => .error .notFound
      | some false => .error .notDirectory
      | some true =>
        if isStay c ∨ c = ".." then t.walk (resolve place [c]) path
        else if maxNameSize < c.utf8ByteSize then .error .nameTooLong
        else if (t.kind? (resolve place [c])).isSome then t.walk (resolve place [c]) path
        else .error .notFound := by
  rw [walk]
  rcases hget : t.get? place with _ | (data | entries)
  · simp [kind?, hget]
  · simp [kind?, hget, isDir]
  · rw [kind?_of_dir hget]
    by_cases hstay : isStay c = true
    · simp [hstay, resolve]
    · by_cases hup : c = ".."
      · rw [hup] at hstay ⊢
        simp [hstay, resolve]
      · rw [resolve_singleton_of_name hstay hup, kind?_concat hget]
        cases hname : entries.lookup c <;> simp [hstay, hup, hname]

/-- A step of making directories, told from the kinds of things. -/
theorem makeDirs_cons_eq (t : Tree) (place : List String) (c : String) (path : List String) :
    t.makeDirs place (c :: path) =
      match t.kind? place with
      | none => (t, .error .notFound)
      | some false => (t, .error .notDirectory)
      | some true =>
        if isStay c ∨ c = ".." then t.makeDirs (resolve place [c]) path
        else if maxNameSize < c.utf8ByteSize then (t, .error .nameTooLong)
        else
          match t.kind? (resolve place [c]) with
          | none => (t.put emptyDir (place ++ [c])).makeDirs (resolve place [c]) path
          | some true => t.makeDirs (resolve place [c]) path
          | some false => (t, .error (if path = [] then .occupied else .notDirectory)) := by
  rw [makeDirs]
  rcases hget : t.get? place with _ | (data | entries)
  · simp [kind?, hget]
  · simp [kind?, hget, isDir]
  · rw [kind?_of_dir hget]
    by_cases hstay : isStay c = true
    · simp [hstay, resolve]
    · by_cases hup : c = ".."
      · rw [hup] at hstay ⊢
        simp [hstay, resolve]
      · rw [resolve_singleton_of_name hstay hup, kind?_concat hget]
        rcases hname : entries.lookup c with _ | (data | inner) <;>
          simp [hstay, hup, hname, isDir]

/-- Writing a file in a directory, told from the kinds of things. -/
theorem writeIn_eq (t : Tree) (place path : List String) (name : String) (data : ByteArray) :
    t.writeIn place path name data = t.walk place path >>= fun target =>
      match t.kind? target with
      | none => .error .notFound
      | some false => .error .notDirectory
      | some true =>
        if maxNameSize < name.utf8ByteSize then .error .nameTooLong
        else if t.kind? (target ++ [name]) = some true then .error .isDirectory
        else .ok (t.put (file data) (target ++ [name])) := by
  unfold writeIn
  refine congrArg (t.walk place path >>= ·) (funext fun target => ?_)
  rcases hget : t.get? target with _ | (data' | entries)
  · simp [kind?, hget]
  · simp [kind?, hget, isDir]
  · rw [kind?_of_dir hget, kind?_concat hget]
    rcases hname : entries.lookup name with _ | (data' | inner) <;>
      simp [hname, isDir, pure, Except.pure]

/-! ## Where a path leads -/

/-- Whether a path leads through some places only: it does so with each of its parts. -/
def LeadsThrough (places : List String → Prop) (place path : List String) : Prop :=
  ∀ way, way <+: path → places (resolve place way)

namespace LeadsThrough

theorem start (h : LeadsThrough places place path) : places place := h [] List.nil_prefix

theorem target (h : LeadsThrough places place path) : places (resolve place path) :=
  h path List.prefix_rfl

theorem upTo {path' : List String} (h : LeadsThrough places place path)
    (hupto : path' <+: path) : LeadsThrough places place path' :=
  fun way hway => h way (hway.trans hupto)

theorem mono {places' : List String → Prop} (h : LeadsThrough places place path)
    (hplaces : ∀ p, places p → places' p) : LeadsThrough places' place path :=
  fun way hway => hplaces _ (h way hway)

/-- After one step, the rest of the path. -/
theorem rest (h : LeadsThrough places place (c :: path)) :
    LeadsThrough places (resolve place [c]) path := by
  intro way hway
  rw [← resolve_cons]
  exact h (c :: way) ((List.prefix_cons_inj c).2 hway)

end LeadsThrough

/-! ## What is changed -/

/-- Nothing is noticed elsewhere of what is put under a name, with nothing below it, in a directory
where no directory has the name. -/
theorem put_elsewhere (hnew : ∀ c below, new.get? (c :: below) = none)
    (hdir : t.kind? place = some true) (hname : t.kind? (place ++ [name]) ≠ some true)
    (hp : p ≠ place ++ [name]) :
    (t.put new (place ++ [name])).kind? p = t.kind? p ∧
      (t.put new (place ++ [name])).data? p = t.data? p := by
  obtain ⟨entries, hget⟩ := exists_of_kind? hdir
  have hfree : (entries.lookup name).any isDir = false := by
    rw [kind?_concat hget] at hname
    cases hchild : entries.lookup name <;> simp [hchild] at hname ⊢
    exact hname
  refine ⟨?_, data?_put_of_ne hnew hget hfree hp⟩
  by_cases hupto : p <+: place ++ [name]
  · -- Every other place on the way is a directory, and stays one.
    have hway : p <+: place := (List.prefix_concat_iff.1 hupto).resolve_left hp
    obtain ⟨outer, houter⟩ := exists_dir_of_prefix hget hway
    obtain ⟨outer', houter', -⟩ := preserves_put new hget hfree p outer houter
    rw [kind?_of_dir houter, kind?_of_dir houter']
  · rw [kind?, kind?, get?_put_of_not_prefix hnew hget hfree hupto]

/-- **Making directories** changes nothing in a place that the path does not lead through. -/
theorem kind?_makeDirs (h : LeadsThrough (· ≠ p) place path) :
    (t.makeDirs place path).1.kind? p = t.kind? p := by
  induction path generalizing t place with
  | nil => rfl
  | cons c path ih =>
    rw [makeDirs_cons_eq]
    split
    next => rfl
    next => rfl
    next hdir =>
      split
      next => exact ih h.rest
      next hstep =>
        obtain ⟨hstay, hup⟩ := not_or.1 hstep
        have hnext : resolve place [c] = place ++ [c] := resolve_singleton_of_name hstay hup
        split
        next => rfl
        next =>
          split
          next hnone =>
            have hp : p ≠ place ++ [c] := by
              rw [← hnext]
              exact h.rest.start.symm
            rw [hnext] at hnone
            rw [ih h.rest]
            exact (put_elsewhere (fun _ _ => rfl) hdir (by simp [hnone]) hp).1
          next => exact ih h.rest
          next => rfl

/-- **Writing a file** changes nothing in a place that the path does not lead to. -/
theorem kind?_of_write (h : t.write place path data = .ok t') (hp : p ≠ resolve place path) :
    t'.kind? p = t.kind? p := by
  obtain ⟨target, name, entries, hplace, hget, hfree, rfl⟩ := exists_put_of_write h
  rw [hplace] at hp
  refine (put_elsewhere (fun _ _ => rfl) (kind?_of_dir hget) ?_ hp).1
  rw [kind?_concat hget]
  cases hchild : entries.lookup name <;> simp [hchild] at hfree ⊢
  exact hfree

/-! ## What is looked at -/

/-- Whether two trees have things of the same kinds in some places, and the same files in others. -/
structure AgreeOn (seen read : List String → Prop) (t t' : Tree) : Prop where
  kinds : ∀ p, seen p → t.kind? p = t'.kind? p
  files : ∀ p, read p → t.data? p = t'.data? p

namespace AgreeOn

theorem put (h : AgreeOn seen read t t') (hnew : ∀ c below, new.get? (c :: below) = none)
    (hplace : seen place) (hthere : seen (place ++ [name])) (hdir : t.kind? place = some true)
    (hname : t.kind? (place ++ [name]) ≠ some true) :
    AgreeOn seen read (t.put new (place ++ [name])) (t'.put new (place ++ [name])) := by
  have hdir' : t'.kind? place = some true := by rwa [← h.kinds place hplace]
  have hname' : t'.kind? (place ++ [name]) ≠ some true := by rwa [← h.kinds _ hthere]
  have hput : (t.put new (place ++ [name])).get? (place ++ [name]) =
      (t'.put new (place ++ [name])).get? (place ++ [name]) := by
    obtain ⟨entries, hget⟩ := exists_of_kind? hdir
    obtain ⟨entries', hget'⟩ := exists_of_kind? hdir'
    rw [get?_put new hget, get?_put new hget']
  constructor
  · intro p hp
    by_cases hsame : p = place ++ [name]
    · rw [hsame, kind?, kind?, hput]
    · rw [(put_elsewhere hnew hdir hname hsame).1, (put_elsewhere hnew hdir' hname' hsame).1]
      exact h.kinds p hp
  · intro p hp
    by_cases hsame : p = place ++ [name]
    · rw [hsame, data?, data?, hput]
    · rw [(put_elsewhere hnew hdir hname hsame).2, (put_elsewhere hnew hdir' hname' hsame).2]
      exact h.files p hp

theorem walk_eq (h : AgreeOn seen read t t') (hpath : LeadsThrough seen place path) :
    t.walk place path = t'.walk place path := by
  induction path generalizing place with
  | nil => rfl
  | cons c path ih =>
    rw [walk_cons_eq, walk_cons_eq, h.kinds place hpath.start, h.kinds _ hpath.rest.start,
      ih hpath.rest]

/-- What is read is the only file whose data matter. -/
theorem read_eq (h : AgreeOn seen read t t') (hpath : LeadsThrough seen place path)
    (hread : read (resolve place path)) : t.read place path = t'.read place path := by
  unfold Tree.read
  rw [h.walk_eq hpath]
  cases hwalk : t'.walk place path with
  | error failure => rfl
  | ok target =>
    obtain rfl := walk_eq_resolve hwalk
    have hkind := h.kinds _ hpath.target
    have hdata := h.files _ hread
    dsimp only [bind, Except.bind]
    rcases hget : t.get? (resolve place path) with _ | (data | entries) <;>
      rcases hget' : t'.get? (resolve place path) with _ | (data' | entries') <;>
      simp_all [kind?, data?, isDir]

/-- **Making directories** ends in the same way, and trees that agree still do so then. -/
theorem makeDirs (h : AgreeOn seen read t t') (hpath : LeadsThrough seen place path) :
    (t.makeDirs place path).2 = (t'.makeDirs place path).2 ∧
      AgreeOn seen read (t.makeDirs place path).1 (t'.makeDirs place path).1 := by
  induction path generalizing t t' place with
  | nil => exact ⟨rfl, h⟩
  | cons c path ih =>
    rw [makeDirs_cons_eq, makeDirs_cons_eq, ← h.kinds place hpath.start,
      ← h.kinds _ hpath.rest.start]
    split
    next => exact ⟨rfl, h⟩
    next => exact ⟨rfl, h⟩
    next hdir =>
      split
      next => exact ih h hpath.rest
      next hstep =>
        obtain ⟨hstay, hup⟩ := not_or.1 hstep
        have hnext : resolve place [c] = place ++ [c] := resolve_singleton_of_name hstay hup
        split
        next => exact ⟨rfl, h⟩
        next =>
          split
          next hnone =>
            have hthere : seen (place ++ [c]) := by
              rw [← hnext]
              exact hpath.rest.start
            rw [hnext] at hnone
            exact ih (h.put (fun _ _ => rfl) hpath.start hthere hdir (by simp [hnone])) hpath.rest
          next => exact ih h hpath.rest
          next => exact ⟨rfl, h⟩

/-- What it means that something is done to two trees in the same way: it fails for both, for the
same reason, or succeeds for both, and they agree then. -/
def Alike (seen read : List String → Prop) (x y : Except IOFailure Tree) : Prop :=
  (∃ failure, x = .error failure ∧ y = .error failure) ∨
    ∃ t t', x = .ok t ∧ y = .ok t' ∧ AgreeOn seen read t t'

theorem writeIn (h : AgreeOn seen read t t') (hpath : LeadsThrough seen place path)
    (hthere : seen (resolve place path ++ [name])) :
    Alike seen read (t.writeIn place path name data) (t'.writeIn place path name data) := by
  rw [writeIn_eq, writeIn_eq, ← h.walk_eq hpath]
  cases hwalk : t.walk place path with
  | error failure => exact .inl ⟨failure, rfl, rfl⟩
  | ok target =>
    obtain rfl := walk_eq_resolve hwalk
    dsimp only [bind, Except.bind]
    rw [← h.kinds _ hpath.target, ← h.kinds _ hthere]
    split
    next => exact .inl ⟨_, rfl, rfl⟩
    next => exact .inl ⟨_, rfl, rfl⟩
    next hdir =>
      split
      next => exact .inl ⟨_, rfl, rfl⟩
      next =>
        split
        next => exact .inl ⟨_, rfl, rfl⟩
        next hfree =>
          exact .inr ⟨_, _, rfl, rfl, h.put (fun _ _ => rfl) hpath.target hthere hdir hfree⟩

/-- **Writing a file** ends in the same way, and trees that agree still do so then. -/
theorem write (h : AgreeOn seen read t t') (hpath : LeadsThrough seen place path)
    (data : ByteArray) :
    Alike seen read (t.write place path data) (t'.write place path data) := by
  by_cases hname : ∃ front name, path = front ++ [name] ∧ isStay name = false ∧ name ≠ ".."
  · obtain ⟨front, name, rfl, hstay, hup⟩ := hname
    have hthere : seen (resolve place front ++ [name]) := by
      have hlast : ∀ c ∈ [name], isStay c = false ∧ c ≠ ".." :=
        List.forall_mem_singleton.2 ⟨hstay, hup⟩
      rw [← resolve_of_forall_name _ hlast, ← resolve_append]
      exact hpath.target
    rw [write_concat hstay hup, write_concat hstay hup]
    exact h.writeIn (hpath.upTo (List.prefix_append front [name])) hthere
  · obtain ⟨core, hcore, hwrite⟩ := exists_walk_of_write_refused hname
    rw [hwrite, hwrite, h.walk_eq (hpath.upTo hcore)]
    cases t'.walk place core with
    | error failure => exact .inl ⟨failure, rfl, rfl⟩
    | ok target => exact .inl ⟨_, rfl, rfl⟩

end AgreeOn

end InstallManifest.Tree
