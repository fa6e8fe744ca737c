import InstallManifest.Proofs.Store.Frame

/-!
# Going down in a tree

A path without two dots goes down, name by name. Two things can end a walk along it: a name that is
missing, and a file that stands where a directory would have to be. Only the first is reported as
missing, so that is what is found exactly if nothing is there and no file is on the way
(`Tree.read_eq_notFound_iff`). If no file is on the way, the directories that are missing can be
made and a file can be written there (`Tree.exists_write`), and nothing changes in the tree but on
the way to it (`Tree.IsWritten`).
-/
namespace InstallManifest.Tree
variable {t t' t'' : Tree} {place path : List String} {c name : String} {data : ByteArray}
  {entries : List (String × Tree)}

/-! ## Nothing there -/

/-- Whether nothing stands in a place below another one, and no file on the way to it. -/
def IsMissing (t : Tree) (place below : List String) : Prop :=
  t.get? (place ++ below) = none ∧
    ∀ way, way <+: below → way ≠ below → t.data? (place ++ way) = none

theorem get?_append_of_none (h : t.get? place = none) (below : List String) :
    t.get? (place ++ below) = none := by
  rw [get?_append, h, Option.bind_none]

theorem data?_of_none (h : t.get? place = none) : t.data? place = none := by
  rw [data?, h]

theorem data?_of_dir (h : t.get? place = some (dir entries)) : t.data? place = none := by
  rw [data?, h]

theorem isMissing_of_none (h : t.get? place = none) (below : List String) :
    t.IsMissing place below :=
  ⟨get?_append_of_none h below, fun way _ _ => data?_of_none (get?_append_of_none h way)⟩

theorem isMissing_nil_iff : t.IsMissing place [] ↔ t.get? place = none := by
  constructor
  · intro h
    simpa using h.1
  · exact fun h => isMissing_of_none h []

theorem isMissing_cons_iff {below : List String} : t.IsMissing place (c :: below) ↔
    t.data? place = none ∧ t.IsMissing (place ++ [c]) below := by
  have hplace (way : List String) : place ++ c :: way = place ++ [c] ++ way :=
    List.append_cons place c way
  constructor
  · rintro ⟨hthere, hway⟩
    refine ⟨?_, by rwa [← hplace], fun way hupto hne => ?_⟩
    · simpa using hway [] (List.nil_prefix) (List.cons_ne_nil c below).symm
    · rw [← hplace]
      exact hway (c :: way) ((List.prefix_cons_inj c).2 hupto) fun h => hne (List.cons.inj h).2
  · rintro ⟨hdata, hthere, hway⟩
    refine ⟨by rwa [hplace], fun way hupto hne => ?_⟩
    obtain rfl | ⟨way, rfl, hbelow⟩ := List.prefix_cons_iff.1 hupto
    · simpa using hdata
    · rw [hplace]
      exact hway way hbelow fun h => hne (congrArg (c :: ·) h)

/-- Nothing is missing below a file, because the file is on the way. -/
theorem not_isMissing_of_file {way below : List String} (hway : way <+: below)
    (hfile : t.data? (place ++ way) = some data) : ¬ t.IsMissing place below := by
  rintro ⟨hnone, hways⟩
  have hdata : t.data? (place ++ way) = none := by
    by_cases hsame : way = below
    · rw [hsame]
      exact data?_of_none hnone
    · exact hways way hway hsame
  rw [hfile] at hdata
  cases hdata

/-! ## Steps of a walk -/

theorem read_append (t : Tree) (place path path' : List String) :
    t.read place (path ++ path') = t.walk place path >>= fun target => t.read target path' := by
  unfold read
  rw [walk_append_eq, bind_assoc]

theorem read_cons (h : t.walk place (c :: path) = t.walk place' path) :
    t.read place (c :: path) = t.read place' path := by
  unfold read
  rw [h]

/-- **The ends of a way down.** To read along a path that goes down finds that nothing is there, or
comes to a file on the way, or gets to what is there. -/
theorem read_cases (t : Tree) (place : List String) (hup : ".." ∉ path)
    (hsize : ∀ c ∈ path, ¬ maxNameSize < c.utf8ByteSize) :
    (t.read place path = .error .notFound ∧ t.IsMissing place (names path)) ∨
    (t.read place path = .error .notDirectory ∧
      ∃ way data, way <+: names path ∧ t.data? (place ++ way) = some data) ∨
    (t.read place path ≠ .error .notFound ∧ ∃ there, t.get? (place ++ names path) = some there) := by
  induction path generalizing place with
  | nil =>
    rw [names, List.filter_nil, List.append_nil, isMissing_nil_iff]
    rcases hget : t.get? place with _ | (data | entries)
    · exact .inl ⟨by simp [read, walk, hget, bind, Except.bind], rfl⟩
    · exact .inr (.inr ⟨by simp [read, walk, hget, bind, Except.bind, pure, Except.pure], _, rfl⟩)
    · exact .inr (.inr ⟨by simp [read, walk, hget, bind, Except.bind], _, rfl⟩)
  | cons c path ih =>
    obtain ⟨hc, hpath⟩ := List.ne_and_not_mem_of_not_mem_cons hup
    obtain ⟨hcsize, hpathsize⟩ := List.forall_mem_cons.1 hsize
    rcases hget : t.get? place with _ | (data | entries)
    · exact .inl ⟨by simp [read, walk, hget, bind, Except.bind], isMissing_of_none hget _⟩
    · refine .inr (.inl ⟨by simp [read, walk, hget, bind, Except.bind], [], data, ?_, ?_⟩)
      · exact List.nil_prefix
      · rw [List.append_nil]
        exact data?_eq_some_iff.2 hget
    · by_cases hstay : isStay c = true
      · rw [read_cons (walk_cons_of_isStay hget hstay path), names_cons_of_isStay hstay]
        exact ih place hpath hpathsize
      · rw [names_cons_of_not_isStay hstay, isMissing_cons_iff, List.append_cons place c (names path)]
        cases hname : entries.lookup c with
        | none =>
          have hbelow : t.get? (place ++ [c]) = none := (get?_concat hget c).trans hname
          refine .inl ⟨?_, data?_of_dir hget, isMissing_of_none hbelow _⟩
          simp [read, walk, hget, hstay, hc.symm, hcsize, hname, bind, Except.bind]
        | some child =>
          have hstep : t.walk place (c :: path) = t.walk (place ++ [c]) path :=
            walk_cons_of_lookup hget (by simpa using hstay) hc.symm hcsize (by simp [hname]) path
          rw [read_cons hstep]
          obtain ⟨hread, hmissing⟩ | ⟨hread, way, data, hway, hfile⟩ | hthere :=
            ih (place ++ [c]) hpath hpathsize
          · exact .inl ⟨hread, data?_of_dir hget, hmissing⟩
          · refine .inr (.inl ⟨hread, c :: way, data, (List.prefix_cons_inj c).2 hway, ?_⟩)
            rwa [List.append_cons]
          · exact .inr (.inr hthere)

/-- **What is missing.** Reading along a path that goes down finds nothing exactly if nothing is
there and no file is on the way. -/
theorem read_eq_notFound_iff (hup : ".." ∉ path)
    (hsize : ∀ c ∈ path, ¬ maxNameSize < c.utf8ByteSize) :
    t.read place path = .error .notFound ↔ t.IsMissing place (names path) := by
  obtain ⟨hread, hmissing⟩ | ⟨hread, way, data, hway, hfile⟩ | ⟨hread, there, hthere⟩ :=
    t.read_cases place hup hsize
  · exact iff_of_true hread hmissing
  · rw [hread]
    exact iff_of_false (by simp) (not_isMissing_of_file hway hfile)
  · refine iff_of_false hread fun hmissing => ?_
    rw [hmissing.1] at hthere
    cases hthere

/-- Nothing can be read below a file. -/
theorem read_of_file_on_way (hup : ".." ∉ path) (hsize : ∀ c ∈ path, ¬ maxNameSize < c.utf8ByteSize)
    {way : List String} (hway : way <+: names path) (hne : way ≠ names path)
    (hfile : t.data? (place ++ way) = some data) : t.read place path = .error .notDirectory := by
  obtain ⟨-, hmissing⟩ | ⟨hread, -⟩ | ⟨-, there, hthere⟩ := t.read_cases place hup hsize
  · exact absurd hmissing (not_isMissing_of_file hway hfile)
  · exact hread
  · obtain ⟨below, hbelow⟩ := hway
    have hcons : below ≠ [] := fun h => hne (by rw [← hbelow, h, List.append_nil])
    obtain ⟨c, below, rfl⟩ := List.exists_cons_of_ne_nil hcons
    rw [← hbelow, ← List.append_assoc, get?_append, data?_eq_some_iff.1 hfile] at hthere
    cases hthere

/-- A plain path leads to what is in its place. -/
theorem walk_of_get? (hnames : ∀ c ∈ path, isStay c = false ∧ c ≠ "..")
    (hsize : ∀ c ∈ path, ¬ maxNameSize < c.utf8ByteSize) (h : t.get? (place ++ path) = some t') :
    t.walk place path = .ok (place ++ path) := by
  induction path generalizing place with
  | nil => rw [walk, List.append_nil]
  | cons c path ih =>
    obtain ⟨⟨hstay, hup⟩, hrest⟩ := List.forall_mem_cons.1 hnames
    obtain ⟨hcsize, hrestsize⟩ := List.forall_mem_cons.1 hsize
    obtain ⟨there, hget, hbelow⟩ := Option.bind_eq_some_iff.1 ((get?_append t place _).symm.trans h)
    obtain ⟨entries, child, rfl, hchild, -⟩ := exists_of_get?_cons hbelow
    have hstep : t.walk place (c :: path) = t.walk (place ++ [c]) path :=
      walk_cons_of_lookup hget hstay hup hcsize (by simp [hchild]) path
    rw [List.append_cons] at h ⊢
    rw [hstep]
    exact ih hrest hrestsize h

/-! ## Making directories -/

/-- A directory that is missing is made. -/
theorem makeDirs_cons_of_none (hget : t.get? place = some (dir entries)) (hstay : isStay c = false)
    (hup : c ≠ "..") (hsize : ¬ maxNameSize < c.utf8ByteSize) (hname : entries.lookup c = none)
    (path : List String) : t.makeDirs place (c :: path) =
      (t.put emptyDir (place ++ [c])).makeDirs (place ++ [c]) path := by
  simp only [makeDirs, hget, hstay, Bool.false_eq_true, if_false, if_neg hup, if_neg hsize, hname]

/-- **A step of making directories** that succeeds leads to the same place, and leaves the same
tree, whatever path is left after it. Either a walk makes the same step, or it finds nothing where
there is a new directory now. -/
theorem exists_step_of_makeDirs (h : t.makeDirs place (c :: path) = (t'', .ok ())) :
    ∃ (t' : Tree) (place' : List String), t'.makeDirs place' path = (t'', .ok ()) ∧
      (∀ path', t.makeDirs place (c :: path') = t'.makeDirs place' path' ∧
        resolve place (c :: path') = resolve place' path') ∧
      (t' = t ∧ t.walk place (c :: path) = t.walk place' path ∨
        t.walk place (c :: path) = .error .notFound ∧ t.get? place' = none ∧
          t'.get? place' = some emptyDir) := by
  unfold makeDirs at h
  split at h
  next => cases h
  next => cases h
  next entries hget =>
    by_cases hstay : isStay c = true
    · rw [if_pos hstay] at h
      refine ⟨t, place, h, fun path' => ?_, .inl ⟨rfl, ?_⟩⟩
      · simp only [makeDirs, hget, resolve, if_pos hstay, and_self]
      · simp only [walk, hget, if_pos hstay]
    · rw [if_neg hstay] at h
      by_cases hup : c = ".."
      · rw [if_pos hup] at h
        refine ⟨t, place.dropLast, h, fun path' => ?_, .inl ⟨rfl, ?_⟩⟩
        · simp only [makeDirs, hget, resolve, if_neg hstay, if_pos hup, and_self]
        · simp only [walk, hget, if_neg hstay, if_pos hup]
      · rw [if_neg hup] at h
        by_cases hsize : maxNameSize < c.utf8ByteSize
        · rw [if_pos hsize] at h
          cases h
        · rw [if_neg hsize] at h
          split at h
          next hname =>
            refine ⟨t.put emptyDir (place ++ [c]), place ++ [c], h, fun path' => ?_,
              .inr ⟨?_, (get?_concat hget c).trans hname, get?_put emptyDir hget⟩⟩
            · simp only [makeDirs, hget, resolve, if_neg hstay, if_neg hup, if_neg hsize, hname,
                and_self]
            · simp [walk, hget, if_neg hstay, if_neg hup, if_neg hsize, hname]
          next inner hname =>
            refine ⟨t, place ++ [c], h, fun path' => ?_, .inl ⟨rfl, ?_⟩⟩
            · simp only [makeDirs, hget, resolve, if_neg hstay, if_neg hup, if_neg hsize, hname,
                and_self]
            · simp [walk, hget, if_neg hstay, if_neg hup, if_neg hsize, hname]
          next => cases h

theorem makeDirs_append (h : t.makeDirs place path = (t', .ok ())) (path' : List String) :
    t.makeDirs place (path ++ path') = t'.makeDirs (resolve place path) path' := by
  induction path generalizing t place with
  | nil =>
    obtain rfl : t = t' := congrArg Prod.fst h
    rfl
  | cons c path ih =>
    obtain ⟨t₁, place₁, hrest, hstep, -⟩ := exists_step_of_makeDirs h
    rw [List.cons_append, (hstep (path ++ path')).1, (hstep path).2]
    exact ih hrest

theorem exists_of_makeDirs_append {path' : List String}
    (h : t.makeDirs place (path ++ path') = (t'', .ok ())) :
    ∃ t', t.makeDirs place path = (t', .ok ()) ∧
      t'.makeDirs (resolve place path) path' = (t'', .ok ()) := by
  induction path generalizing t place with
  | nil => exact ⟨t, rfl, h⟩
  | cons c path ih =>
    obtain ⟨t₁, place₁, hrest, hstep, -⟩ := exists_step_of_makeDirs h
    obtain ⟨t', hfront, hback⟩ := ih hrest
    refine ⟨t', (hstep path).1.trans hfront, ?_⟩
    rwa [(hstep path).2]

/-- Where directories could be made, a walk gets through if none was missing, and otherwise comes to
the first one that was. -/
theorem walk_of_makeDirs (h : t.makeDirs place path = (t', .ok ())) :
    t' = t ∧ t.walk place path = .ok (resolve place path) ∨
      t' ≠ t ∧ t.walk place path = .error .notFound := by
  induction path generalizing place with
  | nil =>
    obtain rfl : t = t' := congrArg Prod.fst h
    exact .inl ⟨rfl, rfl⟩
  | cons c path ih =>
    obtain ⟨t₁, place₁, hrest, hstep, ⟨rfl, hwalk⟩ | ⟨hwalk, hnone, hmade⟩⟩ :=
      exists_step_of_makeDirs h
    · rw [hwalk, (hstep path).2]
      exact ih hrest
    · refine .inr ⟨fun hsame => ?_, hwalk⟩
      obtain ⟨entries, hthere, -⟩ := preserves_of_makeDirs hrest place₁ [] hmade
      rw [hsame, hnone] at hthere
      cases hthere

/-- A walk gets through directories that have been made. -/
theorem walk_made (h : t.makeDirs place path = (t', .ok ())) :
    t'.walk place path = .ok (resolve place path) := by
  have hagain : t'.makeDirs place path = (t', .ok ()) := makeDirs_again h (.refl t')
  obtain ⟨-, hwalk⟩ | ⟨hne, -⟩ := walk_of_makeDirs hagain
  · exact hwalk
  · exact absurd rfl hne

/-- To stay where one is makes nothing. -/
theorem eq_of_makeDirs_of_forall_isStay (hstay : ∀ c ∈ path, isStay c = true)
    (h : t.makeDirs place path = (t', .ok ())) : t' = t := by
  induction path with
  | nil => exact (congrArg Prod.fst h).symm
  | cons c path ih =>
    obtain ⟨hc, hpath⟩ := List.forall_mem_cons.1 hstay
    refine ih hpath ?_
    unfold makeDirs at h
    split at h
    next => cases h
    next => cases h
    next => rwa [if_pos hc] at h

/-- **Directories can be made** as long as no file is on the way. -/
theorem exists_makeDirs (hplace : t.get? place = some (dir entries))
    (hnames : ∀ c ∈ path, isStay c = false ∧ c ≠ "..")
    (hsize : ∀ c ∈ path, ¬ maxNameSize < c.utf8ByteSize)
    (hway : ∀ way, way <+: path → t.data? (place ++ way) = none) :
    ∃ (t' : Tree) (entries' : List (String × Tree)), t.makeDirs place path = (t', .ok ()) ∧
      t'.get? (place ++ path) = some (dir entries') := by
  induction path generalizing t place entries with
  | nil => exact ⟨t, entries, rfl, by rwa [List.append_nil]⟩
  | cons c path ih =>
    obtain ⟨⟨hstay, hup⟩, hrest⟩ := List.forall_mem_cons.1 hnames
    obtain ⟨hcsize, hrestsize⟩ := List.forall_mem_cons.1 hsize
    have hbelow (way : List String) (hupto : way <+: path) :
        t.data? (place ++ [c] ++ way) = none := by
      rw [← List.append_cons]
      exact hway (c :: way) ((List.prefix_cons_inj c).2 hupto)
    have hthere : t.get? (place ++ [c]) = entries.lookup c := get?_concat hplace c
    rw [List.append_cons]
    rcases hname : entries.lookup c with _ | (data | inner)
    · rw [makeDirs_cons_of_none hplace hstay hup hcsize hname]
      refine ih (get?_put emptyDir hplace) hrest hrestsize fun way hupto => ?_
      rw [data?_put_emptyDir hplace hname]
      exact hbelow way hupto
    · have hfile : t.data? (place ++ [c]) = some data := data?_eq_some_iff.2 (hthere.trans hname)
      have hnone : t.data? (place ++ [c]) = none := by
        simpa using hbelow [] List.nil_prefix
      rw [hfile] at hnone
      cases hnone
    · have hstep : t.makeDirs place (c :: path) = t.makeDirs (place ++ [c]) path := by
        simp only [makeDirs, hplace, hstay, Bool.false_eq_true, if_false, if_neg hup, if_neg hcsize,
          hname]
      rw [hstep]
      exact ih (hthere.trans hname) hrest hrestsize hbelow

/-- Directories that are there are not made. -/
theorem makeDirs_of_walk {target : List String} (h : t.walk place path = .ok target)
    (hdir : t.get? target = some (dir entries)) : t.makeDirs place path = (t, .ok ()) := by
  induction path generalizing place with
  | nil => rfl
  | cons c path ih =>
    unfold walk at h
    split at h
    next => cases h
    next => cases h
    next inner hget =>
      rw [makeDirs, hget]
      dsimp only
      by_cases hstay : isStay c = true
      · rw [if_pos hstay] at h ⊢
        exact ih h
      · rw [if_neg hstay] at h ⊢
        by_cases hup : c = ".."
        · rw [if_pos hup] at h ⊢
          exact ih h
        · rw [if_neg hup] at h ⊢
          by_cases hsize : maxNameSize < c.utf8ByteSize
          · rw [if_pos hsize] at h
            cases h
          · rw [if_neg hsize] at h ⊢
            have hthere : t.get? (place ++ [c]) = inner.lookup c := get?_concat hget c
            rcases hname : inner.lookup c with _ | (data | below)
            · simp [hname] at h
            · -- The walk ends at the file, if it gets there at all.
              rw [hname] at hthere h
              cases path with
              | nil =>
                obtain rfl : place ++ [c] = target := by simpa [walk] using h
                rw [hthere] at hdir
                cases hdir
              | cons c' path => simp [walk, hthere] at h
            · rw [hname] at h
              exact ih h

/-- Below a new directory there is nothing but what is made there. -/
theorem exists_makeDirs_emptyDir (hplace : t.get? place = some emptyDir) (hup : ".." ∉ path)
    (hsize : ∀ c ∈ path, ¬ maxNameSize < c.utf8ByteSize) :
    ∃ t', t.makeDirs place path = (t', .ok ()) ∧
      t'.get? (place ++ names path) = some emptyDir := by
  induction path generalizing t place with
  | nil => exact ⟨t, rfl, by rwa [names, List.filter_nil, List.append_nil]⟩
  | cons c path ih =>
    obtain ⟨hc, hpath⟩ := List.ne_and_not_mem_of_not_mem_cons hup
    obtain ⟨hcsize, hpathsize⟩ := List.forall_mem_cons.1 hsize
    have hget : t.get? place = some (dir []) := hplace
    by_cases hstay : isStay c = true
    · have hstep : t.makeDirs place (c :: path) = t.makeDirs place path := by
        simp only [makeDirs, hget, if_pos hstay]
      rw [hstep, names_cons_of_isStay hstay]
      exact ih hplace hpath hpathsize
    · rw [makeDirs_cons_of_none hget (by simpa using hstay) hc.symm hcsize List.lookup_nil,
        names_cons_of_not_isStay hstay, List.append_cons place c (names path)]
      exact ih (get?_put emptyDir hget) hpath hpathsize

/-! ## What is not on the way -/

/-- **Making directories** changes nothing that is not on the way to them. -/
theorem get?_makeDirs (hnames : ∀ c ∈ path, isStay c = false ∧ c ≠ "..") {q : List String}
    (hq : ¬ q <+: place ++ path) : (t.makeDirs place path).1.get? q = t.get? q := by
  induction path generalizing t place with
  | nil => rfl
  | cons c path ih =>
    obtain ⟨⟨hstay, hup⟩, hrest⟩ := List.forall_mem_cons.1 hnames
    rw [List.append_cons] at hq
    unfold makeDirs
    split
    next => rfl
    next => rfl
    next entries hget =>
      rw [if_neg (by simp [hstay]), if_neg hup]
      split
      next => rfl
      next =>
        split
        next hname =>
          have hfirst : ¬ q <+: place ++ [c] := fun h => hq (h.trans (List.prefix_append _ _))
          rw [ih hrest hq]
          exact get?_put_of_not_prefix (fun _ _ => rfl) hget (by rw [hname]; rfl) hfirst
        next => exact ih hrest hq
        next => rfl

/-! ## Writing -/

/-- What it does to a tree to write a file in a place. -/
structure IsWritten (t t' : Tree) (place : List String) (data : ByteArray) : Prop where
  /-- All directories are kept. -/
  preserves : t.Preserves t'
  /-- The file is in its place. -/
  there : t'.get? place = some (file data)
  /-- What is not on the way to it is as it was. -/
  get?_eq : ∀ q, ¬ q <+: place → t'.get? q = t.get? q
  /-- No other file is changed, be it on the way or not. -/
  data?_eq : ∀ q, q ≠ place → t'.data? q = t.data? q

theorem isWritten_of_write (h : t.write place path data = .ok t') :
    t.IsWritten t' (resolve place path) data := by
  obtain ⟨hkeeps, hdata, hothers⟩ := data?_of_write h
  refine ⟨hkeeps, data?_eq_some_iff.1 hdata, fun q hq => ?_, hothers⟩
  obtain ⟨target, name, entries, hplace, hget, hname, rfl⟩ := exists_put_of_write h
  rw [hplace] at hq
  exact get?_put_of_not_prefix (fun _ _ => rfl) hget hname hq

/-- Directories on the way to the file may be made first. -/
theorem IsWritten.of_makeDirs (hnames : ∀ c ∈ path, isStay c = false ∧ c ≠ "..")
    (hmade : t.makeDirs place path = (t', .ok ()))
    (h : t'.IsWritten t'' (place ++ path ++ [name]) data) :
    t.IsWritten t'' (place ++ path ++ [name]) data := by
  refine ⟨(preserves_of_makeDirs hmade).trans h.preserves, h.there, fun q hq => ?_, fun q hq => ?_⟩
  · have hway : ¬ q <+: place ++ path := fun hupto => hq (hupto.trans (List.prefix_append _ _))
    have hmakes := get?_makeDirs (t := t) hnames hway
    rw [hmade] at hmakes
    rw [h.get?_eq q hq, hmakes]
  · have hmakes := (t.makeDirs_keeps place path).1 q
    rw [hmade] at hmakes
    rw [h.data?_eq q hq, hmakes]

theorem not_concat_isPrefix_self (place : List String) (name : String) : ¬ place ++ [name] <+: place := by
  intro h
  have hlength := h.length_le
  rw [List.length_append, List.length_singleton] at hlength
  omega

/-- **A file can be written** below a directory if no file is on the way to it and no directory in
its place. The directory may have to be made first, too. -/
theorem exists_write {outer : List String} (hmade : t.makeDirs place path = (t', .ok ()))
    (hdir : t'.get? (resolve place path) = some (dir entries))
    (hnames : ∀ c ∈ outer ++ [name], isStay c = false ∧ c ≠ "..")
    (hsize : ∀ c ∈ outer ++ [name], ¬ maxNameSize < c.utf8ByteSize)
    (hway : ∀ way, way <+: outer → t'.data? (resolve place path ++ way) = none)
    (hfree : (t'.get? (resolve place path ++ outer ++ [name])).any isDir = false)
    (data : ByteArray) :
    ∃ t₁ t₂, t.makeDirs place (path ++ outer) = (t₁, .ok ()) ∧
      t₁.write place (path ++ outer ++ [name]) data = .ok t₂ ∧
      t'.IsWritten t₂ (resolve place path ++ outer ++ [name]) data := by
  obtain ⟨houter, hname⟩ := List.forall_mem_append.1 hnames
  obtain ⟨houtersize, hnamesize⟩ := List.forall_mem_append.1 hsize
  obtain ⟨hstay, hup⟩ := List.forall_mem_singleton.1 hname
  obtain ⟨t₁, inner, hdirs, hinner⟩ := exists_makeDirs hdir houter houtersize hway
  have hall : t.makeDirs place (path ++ outer) = (t₁, .ok ()) :=
    (makeDirs_append hmade outer).trans hdirs
  have hthere : resolve place (path ++ outer) = resolve place path ++ outer := by
    rw [resolve_append, resolve_of_forall_name _ houter]
  -- Nothing but directories was made on the way, so there is still no directory in the way.
  have hlookup : (inner.lookup name).any isDir = false := by
    have hkeeps := get?_makeDirs (t := t') houter
      (not_concat_isPrefix_self (resolve place path ++ outer) name)
    rw [hdirs] at hkeeps
    rw [← get?_concat hinner, hkeeps, hfree]
  have hwrite : t₁.write place (path ++ outer ++ [name]) data =
      .ok (t₁.put (file data) (resolve place path ++ outer ++ [name])) := by
    rw [write_concat hstay hup, writeIn, walk_made hall, hthere]
    simp [bind, Except.bind, pure, Except.pure, hinner, hnamesize, hlookup]
  have hplace : resolve place (path ++ outer ++ [name]) =
      resolve place path ++ outer ++ [name] := by
    rw [resolve_append, hthere, resolve_of_forall_name _ hname]
  have hwritten := isWritten_of_write hwrite
  rw [hplace] at hwritten
  exact ⟨t₁, _, hall, hwrite, hwritten.of_makeDirs houter hdirs⟩

end InstallManifest.Tree
