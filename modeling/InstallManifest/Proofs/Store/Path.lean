import InstallManifest.Proofs.Store.Frame
import InstallManifest.Store.Path
import Mathlib.Data.List.DropRight

/-!
# The components of a path

A path has the components of the parts that it is joined of (`Path.components_join`), and no other
path has the same ones (`Path.components_injective`). Read step by step, it has the steps of the
first part, and then goes down by the names of the second one if that does not go up
(`Path.steps_join`). If a file system takes a path, it takes those of the directories on the way
(`Path.check_ofComponents`). A name is plain if its components are names, and so lead down from
wherever they start.
-/
namespace InstallManifest.Store.Path
variable {path path' root name : String} {cs : List String}

theorem exists_splitSlashes_eq_cons (cs : List Char) : ∃ w ws, splitSlashes cs = w :: ws := by
  cases cs with
  | nil => exact ⟨[], [], rfl⟩
  | cons c cs =>
    rw [splitSlashes]
    split
    next => exact ⟨_, _, rfl⟩
    next =>
      split
      next => exact ⟨_, _, rfl⟩
      next => exact ⟨_, _, rfl⟩

theorem splitSlashes_append (front back : List Char) :
    splitSlashes (front ++ '/' :: back) = splitSlashes front ++ splitSlashes back := by
  induction front with
  | nil => simp [splitSlashes]
  | cons c front ih =>
    obtain ⟨w, ws, hfront⟩ := exists_splitSlashes_eq_cons front
    rw [List.cons_append, splitSlashes, splitSlashes, ih, hfront]
    split <;> rfl

/-- Nothing but the slashes is lost. -/
theorem intercalate_splitSlashes (cs : List Char) : ['/'].intercalate (splitSlashes cs) = cs := by
  induction cs with
  | nil => rfl
  | cons c cs ih =>
    obtain ⟨w, ws, hcs⟩ := exists_splitSlashes_eq_cons cs
    rw [hcs] at ih
    rw [splitSlashes, hcs]
    split
    next hslash => rw [List.intercalate_cons_cons, ih, hslash, List.nil_append, List.cons_append,
      List.nil_append]
    next => rw [List.intercalate_cons_cons_left, ih]

theorem components_injective (h : components path = components path') : path = path' := by
  have hsplit : splitSlashes path.toList = splitSlashes path'.toList :=
    (List.map_inj_right fun _ _ => String.ofList_injective).1 h
  refine String.toList_injective ?_
  rw [← intercalate_splitSlashes path.toList, hsplit, intercalate_splitSlashes]

theorem exists_components_eq_concat (path : String) :
    ∃ cs last, components path = cs ++ [last] := by
  obtain ⟨w, ws, hsplit⟩ := exists_splitSlashes_eq_cons path.toList
  have hne : components path ≠ [] := by simp [components, hsplit]
  exact ⟨_, _, (List.dropLast_append_getLast hne).symm⟩

/-- The components that a path puts in front of those of a name that it is joined to. A slash at its
end is the one that separates them. -/
def front (root : String) : List String :=
  if root = "" then []
  else if root.toList.getLast? = some '/' then (components root).dropLast
  else components root

theorem front_of_slash {root : String} {cs : List Char} (hroot : root.toList = cs ++ ['/']) :
    front root = (splitSlashes cs).map String.ofList := by
  have hne : root ≠ "" := by
    rintro rfl
    cases cs <;> cases hroot
  have hslash : root.toList.getLast? = some '/' := List.getLast?_eq_some_iff.2 ⟨cs, hroot⟩
  rw [front, if_neg hne, if_pos hslash, components, hroot, splitSlashes_append]
  simp [splitSlashes]

/-- A component that is left out there is empty. -/
theorem exists_components_eq_front_append (root : String) :
    ∃ rest, components root = front root ++ rest ∧ ∀ c ∈ rest, Tree.isStay c = true := by
  have hempty : ∀ c ∈ [""], Tree.isStay c = true := by decide
  by_cases hroot : root = ""
  · exact ⟨[""], by rw [hroot]; rfl, hempty⟩
  · by_cases hslash : root.toList.getLast? = some '/'
    · obtain ⟨cs, hcs⟩ := List.getLast?_eq_some_iff.1 hslash
      refine ⟨[""], ?_, hempty⟩
      rw [components, front_of_slash hcs, hcs, splitSlashes_append, List.map_append]
      rfl
    · exact ⟨[], by rw [front, if_neg hroot, if_neg hslash, List.append_nil], by simp⟩

theorem front_ne_nil {root : String} (hroot : root ≠ "") : front root ≠ [] := by
  have hsplit (cs : List Char) : (splitSlashes cs).map String.ofList ≠ [] := by
    obtain ⟨w, ws, hcs⟩ := exists_splitSlashes_eq_cons cs
    simp [hcs]
  by_cases hslash : root.toList.getLast? = some '/'
  · obtain ⟨cs, hcs⟩ := List.getLast?_eq_some_iff.1 hslash
    rw [front_of_slash hcs]
    exact hsplit cs
  · rw [front, if_neg hroot, if_neg hslash]
    exact hsplit root.toList

/-- Joined paths have the components of both, one after the other. -/
theorem components_join (root : String) {name : String} (hname : isAbsolute name = false) :
    components (join root name) = front root ++ components name := by
  by_cases hempty : root = ""
  · rw [join, if_pos (.inr hempty), front, if_pos hempty, List.nil_append]
  · by_cases hslash : root.toList.getLast? = some '/'
    · obtain ⟨cs, hcs⟩ := List.getLast?_eq_some_iff.1 hslash
      have hjoin : (join root name).toList = cs ++ '/' :: name.toList := by
        simp [join, hname, hempty, hcs]
      rw [components, hjoin, splitSlashes_append, List.map_append, front_of_slash hcs]
      rfl
    · have hjoin : (join root name).toList = root.toList ++ '/' :: name.toList := by
        simp [join, hname, hempty, hslash]
      rw [components, hjoin, splitSlashes_append, List.map_append, front, if_neg hempty,
        if_neg hslash]
      rfl

/-! ## Steps -/

theorem isInward_of_step? {c : String} {step : Step} (h : step? c = some step) :
    step.isInward = true ↔ c ≠ ".." := by
  unfold step? at h
  split at h
  next => cases h
  next =>
    split at h
    next hup =>
      obtain rfl := Option.some.inj h
      exact iff_of_false Bool.false_ne_true (not_not_intro hup)
    next hup =>
      obtain rfl := Option.some.inj h
      exact iff_of_true rfl hup

/-- All steps of a path go inward exactly if it is relative and none of its components goes up. -/
theorem all_isInward_steps_iff : (steps path).all Step.isInward = true ↔
    isAbsolute path = false ∧ ".." ∉ components path := by
  have hfirst : (firstStep? path).toList.all Step.isInward = true ↔ isAbsolute path = false := by
    unfold firstStep?
    split
    next habsolute => simp [habsolute, Step.isInward]
    next habsolute => split <;> simp [habsolute, Step.isInward]
  have hrest : ((components path).filterMap step?).all Step.isInward = true ↔
      ".." ∉ components path := by
    rw [List.all_eq_true]
    constructor
    · intro hall hup
      have hstep : step? ".." = some .up := by decide
      exact absurd (hall _ (List.mem_filterMap.2 ⟨"..", hup, hstep⟩)) Bool.false_ne_true
    · intro hup step hmem
      obtain ⟨c, hc, hstep⟩ := List.mem_filterMap.1 hmem
      exact (isInward_of_step? hstep).2 (ne_of_mem_of_not_mem hc hup)
  rw [steps, List.all_append, Bool.and_eq_true, hfirst, hrest]

/-! ## Steps of joined paths -/

theorem filterMap_step?_of_isStay (h : ∀ c ∈ cs, Tree.isStay c = true) :
    cs.filterMap step? = [] :=
  List.filterMap_eq_nil_iff.2 fun c hc => by rw [step?, if_pos (h c hc)]

/-- Components that do not go up go down by their names. -/
theorem filterMap_step?_of_not_mem (hup : ".." ∉ cs) :
    cs.filterMap step? = (Tree.names cs).map .down := by
  induction cs with
  | nil => rfl
  | cons c cs ih =>
    obtain ⟨hc, hcs⟩ := List.ne_and_not_mem_of_not_mem_cons hup
    by_cases hstay : Tree.isStay c = true
    · have hstep : step? c = none := by rw [step?, if_pos hstay]
      rw [List.filterMap_cons_none hstep, Tree.names_cons_of_isStay hstay, ih hcs]
    · have hstep : step? c = some (.down c) := by rw [step?, if_neg hstay, if_neg hc.symm]
      rw [List.filterMap_cons_some hstep, Tree.names_cons_of_not_isStay hstay, List.map_cons,
        ih hcs]

theorem isAbsolute_join (hroot : root ≠ "") (hname : isAbsolute name = false) :
    isAbsolute (join root name) = isAbsolute root := by
  obtain ⟨rest, hrest⟩ : ∃ rest, (join root name).toList = root.toList ++ rest := by
    unfold join
    rw [if_neg (by simp [hname, hroot])]
    split
    next => exact ⟨name.toList, String.toList_append⟩
    next => exact ⟨'/' :: name.toList, by simp⟩
  have hne : root.toList ≠ [] := by simpa using hroot
  obtain ⟨c, cs, hcs⟩ := List.exists_cons_of_ne_nil hne
  rw [isAbsolute, isAbsolute, hrest, hcs]
  rfl

theorem firstStep?_join (hroot : root ≠ "") (hname : isAbsolute name = false) :
    firstStep? (join root name) = firstStep? root := by
  obtain ⟨rest, hcomponents, -⟩ := exists_components_eq_front_append root
  obtain ⟨c, cs, hfront⟩ := List.exists_cons_of_ne_nil (front_ne_nil hroot)
  have hfirst : (components (join root name)).head? = (components root).head? := by
    rw [components_join root hname, hcomponents, hfront]
    rfl
  rw [firstStep?, firstStep?, isAbsolute_join hroot hname, hfirst]

/-- **The steps of a joined path** are those of the root, and then the names down. -/
theorem steps_join (hroot : root ≠ "") (hname : isAbsolute name = false)
    (hup : ".." ∉ components name) :
    steps (join root name) = steps root ++ (Tree.names (components name)).map .down := by
  obtain ⟨rest, hcomponents, hrest⟩ := exists_components_eq_front_append root
  rw [steps, steps, firstStep?_join hroot hname, components_join root hname, hcomponents,
    List.filterMap_append, List.filterMap_append, filterMap_step?_of_isStay hrest,
    filterMap_step?_of_not_mem hup, List.append_nil, List.append_assoc]

theorem filter_map_down (names : List String) :
    (names.map Step.down).filter (· ≠ .here) = names.map .down := by
  simp

/-- The same for every root, the empty one included. Dots at the start of a path are left out. -/
theorem filter_steps_join (root : String) (hname : isAbsolute name = false)
    (hup : ".." ∉ components name) :
    (steps (join root name)).filter (· ≠ .here) =
      (steps root).filter (· ≠ .here) ++ (Tree.names (components name)).map .down := by
  by_cases hroot : root = ""
  · have hjoin : join root name = name := by rw [join, if_pos (.inr hroot)]
    have hempty : steps root = [] := by
      rw [hroot]
      decide
    have hfirst : (firstStep? name).toList.filter (· ≠ Step.here) = [] := by
      rw [firstStep?, hname, if_neg Bool.false_ne_true]
      split <;> simp
    rw [hjoin, hempty, steps, List.filter_append, hfirst, filterMap_step?_of_not_mem hup,
      filter_map_down]
    rfl
  · rw [steps_join hroot hname hup, List.filter_append, filter_map_down]

/-! ## Parents -/

theorem trimEnd_concat {last : String} (hlast : Tree.isStay last = false) (cs : List String) :
    trimEnd (cs ++ [last]) = cs ++ [last] := by
  cases cs with
  | nil => rfl
  | cons c cs =>
    have htrim : (cs ++ [last]).rdropWhile Tree.isStay = cs ++ [last] :=
      List.rdropWhile_concat_neg Tree.isStay cs last (by simp [hlast])
    exact congrArg (c :: ·) htrim

/-- The parent of a path that ends with a name is what is in front of the name. -/
theorem parent_concat {last : String} (hlast : Tree.isStay last = false) (cs : List String) :
    parent (cs ++ [last]) = trimEnd cs := by
  rw [parent, trimEnd_concat hlast, List.dropLast_concat]

theorem exists_eq_trimEnd_append (cs : List String) :
    ∃ rest, cs = trimEnd cs ++ rest ∧ ∀ c ∈ rest, Tree.isStay c = true := by
  cases cs with
  | nil => exact ⟨[], rfl, by simp⟩
  | cons c cs =>
    refine ⟨cs.rtakeWhile Tree.isStay, ?_, fun c hc => List.mem_rtakeWhile_imp hc⟩
    show c :: cs = c :: (cs.rdropWhile Tree.isStay ++ cs.rtakeWhile Tree.isStay)
    rw [List.rdropWhile, List.rtakeWhile, ← List.reverse_append, List.takeWhile_append_dropWhile,
      List.reverse_reverse]

theorem trimEnd_isPrefix (cs : List String) : trimEnd cs <+: cs := by
  obtain ⟨rest, hrest, -⟩ := exists_eq_trimEnd_append cs
  exact ⟨rest, hrest.symm⟩

theorem parent_isPrefix (cs : List String) : parent cs <+: cs :=
  ((trimEnd_isPrefix _).trans (List.dropLast_prefix _)).trans (trimEnd_isPrefix cs)

/-! ## What a file system takes -/

theorem check_eq_ok_iff :
    check path = .ok () ↔ '\x00' ∉ path.toList ∧ path.utf8ByteSize < maxSize := by
  unfold check
  by_cases hnul : '\x00' ∈ path.toList
  · simp [hnul]
  · by_cases hsize : maxSize ≤ path.utf8ByteSize
    · simp [hnul, hsize]
    · simp [hnul, hsize, Nat.lt_of_not_le hsize]

theorem exists_intercalate_append (separator : List Char) (ws ws' : List (List Char)) :
    ∃ rest, separator.intercalate (ws ++ ws') = separator.intercalate ws ++ rest := by
  induction ws with
  | nil => exact ⟨separator.intercalate ws', rfl⟩
  | cons w ws ih =>
    cases ws with
    | nil =>
      cases ws' with
      | nil => exact ⟨[], by simp⟩
      | cons w' ws' =>
        refine ⟨separator ++ separator.intercalate (w' :: ws'), ?_⟩
        rw [List.singleton_append, List.intercalate_cons_cons, List.intercalate_singleton,
          List.append_assoc]
    | cons v ws =>
      obtain ⟨rest, hrest⟩ := ih
      refine ⟨rest, ?_⟩
      rw [List.cons_append, List.cons_append, List.intercalate_cons_cons, ← List.cons_append, hrest,
        List.intercalate_cons_cons, List.append_assoc (w ++ separator)]

/-- The text of a path starts with that of the path to every place above. -/
theorem exists_ofComponents_append (cs cs' : List String) :
    ∃ rest, ofComponents (cs ++ cs') = ofComponents cs ++ rest := by
  obtain ⟨rest, hrest⟩ := exists_intercalate_append "/".toList (cs.map String.toList)
    (cs'.map String.toList)
  refine ⟨String.ofList rest, String.toList_injective ?_⟩
  have htext : (String.ofList rest).toList = rest := String.toList_ofList
  rw [ofComponents, ofComponents, String.toList_append, String.toList_intercalate,
    String.toList_intercalate, List.map_append, hrest, htext]

theorem ofComponents_components (path : String) : ofComponents (components path) = path := by
  refine String.toList_injective ?_
  have htexts : (components path).map String.toList = splitSlashes path.toList := by
    simp [components, Function.comp_def]
  have hslash : "/".toList = ['/'] := rfl
  rw [ofComponents, String.toList_intercalate, htexts, hslash, intercalate_splitSlashes]

/-- A path that leads to a place above that of another one is taken if the other one is. -/
theorem check_ofComponents {cs : List String} (hupto : cs <+: components path)
    (h : check path = .ok ()) : check (ofComponents cs) = .ok () := by
  obtain ⟨hnul, hsize⟩ := check_eq_ok_iff.1 h
  obtain ⟨cs', hcs⟩ := hupto
  obtain ⟨rest, hrest⟩ := exists_ofComponents_append cs cs'
  have hpath : path = ofComponents cs ++ rest := by
    rw [← hrest, hcs, ofComponents_components]
  rw [hpath] at hnul hsize
  rw [String.utf8ByteSize_append] at hsize
  refine check_eq_ok_iff.2 ⟨fun hmem => hnul ?_, by omega⟩
  rw [String.toList_append]
  exact List.mem_append_left _ hmem

/-! ## Plain names -/

/-- Whether all components of a path are names. -/
def IsPlain (path : String) : Prop :=
  ∀ c ∈ components path, Tree.isStay c = false ∧ c ≠ ".."

instance (path : String) : Decidable (IsPlain path) :=
  inferInstanceAs (Decidable (∀ c ∈ components path, Tree.isStay c = false ∧ c ≠ ".."))

/-- An absolute path starts with an empty component. -/
theorem IsPlain.isAbsolute_eq_false (h : IsPlain path) : isAbsolute path = false := by
  refine Bool.eq_false_iff.2 fun habsolute => ?_
  obtain ⟨cs, hcs⟩ : ∃ cs, path.toList = '/' :: cs :=
    List.head?_eq_some_iff.1 (beq_iff_eq.1 habsolute)
  have hempty : "" ∈ components path := by
    rw [components, hcs, splitSlashes, if_pos rfl]
    exact List.mem_cons_self
  exact absurd (h "" hempty).1 (by decide)

end InstallManifest.Store.Path
