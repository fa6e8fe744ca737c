import InstallManifest.Proofs.Yaml.Plain
import InstallManifest.Proofs.Yaml.Text

/-!
# What a reader of documents finds

A reader of a document settles at each place what a scalar means there, so what it has to find is
not a tree of values but the keys, the lists and the texts of the scalars. `Document.presents` says
when these are the ones of a tree. A text has to be one that does not stand for null where it could,
that is, where it is plain. An integer is plain and in decimal, which makes it an integer again
(`Plain.integer?_signedDecimal`) and keeps it from being taken for null.

Texts, integers, lists and mappings with texts as keys is all that a configuration consists of, so
no other tree is presented.
-/
namespace InstallManifest.Yaml
open Value

namespace Document

mutual

/-- Whether a content of a document is a tree, part by part. Aliases are followed. -/
def presents (d : Document) : Value → Content → Bool
  | .string s, .scalar .absent text presentation =>
    text == s && !(presentation == .plain && (s == "" || Plain.isNull s))
  | .number (.int n), .scalar .absent text .plain => text == Text.Numeral.signedDecimal n
  | .seq vs, .seq _ nodes => d.presentsItems vs nodes
  | .map es, .map _ nodes => d.presentsEntries es nodes
  | _, _ => false

def presentsItems (d : Document) : List Value → List Node → Bool
  | [], [] => true
  | v :: vs, node :: nodes => d.presents v (d.content node) && d.presentsItems vs nodes
  | _, _ => false

def presentsEntries (d : Document) : List (Value × Value) → List (Node × Node) → Bool
  | [], [] => true
  | (k, v) :: es, (key, node) :: nodes =>
    d.presents k (d.content key) && d.presents v (d.content node) && d.presentsEntries es nodes
  | _, _ => false

end

/-! ## The shape of what is found -/

section Shapes
variable {d : Document} {content : Content}

theorem exists_of_presents_string {s : String} (h : d.presents (.string s) content) :
    ∃ presentation, content = .scalar .absent s presentation ∧
      (presentation = .plain → ¬ (s = "" ∨ Plain.isNull s)) := by
  match content with
  | .scalar .absent text presentation =>
    simp only [presents, Bool.and_eq_true, beq_iff_eq] at h
    obtain ⟨rfl, h⟩ := h
    exact ⟨presentation, rfl, by rintro rfl; simpa using h⟩
  | .scalar (.named _) _ _ | .scalar .null _ _ | .scalar .bool _ _ | .scalar .int _ _
  | .scalar .float _ _ | .scalar .other _ _ | .scalar .garbled _ _ | .seq _ _ | .map _ _ =>
    simp [presents] at h

theorem eq_of_presents_int {n : Int} (h : d.presents (.int n) content) :
    content = .scalar .absent (Text.Numeral.signedDecimal n) .plain := by
  unfold Value.int at h
  match content with
  | .scalar .absent text .plain =>
    obtain rfl : text = _ := by simpa [presents] using h
    rfl
  | .scalar .absent _ .literal | .scalar .absent _ .other
  | .scalar (.named _) _ _ | .scalar .null _ _ | .scalar .bool _ _ | .scalar .int _ _
  | .scalar .float _ _ | .scalar .other _ _ | .scalar .garbled _ _ | .seq _ _ | .map _ _ =>
    simp [presents] at h

theorem presentsItems_iff {vs : List Value} {nodes : List Node} :
    d.presentsItems vs nodes ↔
      List.Forall₂ (fun node v => d.presents v (d.content node)) nodes vs := by
  induction vs generalizing nodes with
  | nil => cases nodes <;> simp [presentsItems]
  | cons v vs ih => cases nodes <;> simp [presentsItems, ih]

theorem presentsEntries_iff {es : List (Value × Value)} {nodes : List (Node × Node)} :
    d.presentsEntries es nodes ↔
      List.Forall₂ (fun node e => d.presents e.1 (d.content node.1) ∧
        d.presents e.2 (d.content node.2)) nodes es := by
  induction es generalizing nodes with
  | nil => cases nodes <;> simp [presentsEntries]
  | cons e es ih => cases nodes <;> simp [presentsEntries, ih, and_assoc]

theorem exists_of_presents_seq {vs : List Value} (h : d.presents (.seq vs) content) :
    ∃ tag nodes, content = .seq tag nodes ∧
      List.Forall₂ (fun node v => d.presents v (d.content node)) nodes vs := by
  match content with
  | .seq tag nodes => exact ⟨tag, nodes, rfl, presentsItems_iff.1 (by simpa [presents] using h)⟩
  | .scalar _ _ _ | .map _ _ => simp [presents] at h

theorem exists_of_presents_map {es : List (Value × Value)} (h : d.presents (.map es) content) :
    ∃ tag nodes, content = .map tag nodes ∧
      List.Forall₂ (fun node e => d.presents e.1 (d.content node.1) ∧
        d.presents e.2 (d.content node.2)) nodes es := by
  match content with
  | .map tag nodes => exact ⟨tag, nodes, rfl, presentsEntries_iff.1 (by simpa [presents] using h)⟩
  | .scalar _ _ _ | .seq _ _ => simp [presents] at h

end Shapes
end Document

/-! ## Wider integers -/

theorem isUnsigned_of_le {a b : Nat} (hle : a ≤ b) {n : Int} (h : Width.isUnsigned a n) :
    Width.isUnsigned b n := by
  have hcount : Width.count a ≤ Width.count b := Nat.pow_le_pow_right (by decide) hle
  simp only [Width.isUnsigned, Bool.and_eq_true, decide_eq_true_eq] at h ⊢
  omega

theorem isSigned_of_le {a b : Nat} (hle : a ≤ b) {n : Int} (h : Width.isSigned a n) :
    Width.isSigned b n := by
  have hcount : Width.count (a - 1) ≤ Width.count (b - 1) :=
    Nat.pow_le_pow_right (by decide) (Nat.sub_le_sub_right hle 1)
  simp only [Width.isSigned, Bool.and_eq_true, decide_eq_true_eq] at h ⊢
  omega

/-! ## Places show what was written -/

namespace Place
variable {p : Place}

/-- Whether a place shows a tree. -/
def Shows (p : Place) (v : Value) : Prop := p.document.presents v p.content

theorem integerText?_of_shows_int {n : Int} (h : p.Shows (.int n)) :
    p.integerText? = some (Text.Numeral.signedDecimal n) := by
  unfold integerText?
  rw [Document.eq_of_presents_int h]

theorem readText_of_shows {s : String} (h : p.Shows (.string s)) (expected : String) :
    p.readText expected = .ok s := by
  obtain ⟨presentation, hcontent, -⟩ := Document.exists_of_presents_string h
  unfold readText
  rw [hcontent]

theorem readUInt32_of_shows {n : UInt32} (h : p.Shows (.int n.toNat)) :
    p.readUInt32 = .ok n := by
  have hfits : Width.isUnsigned 32 n.toNat := isUnsigned_toNat n
  have htext : Text.Numeral.signedDecimal (n.toNat : Int) = Text.Numeral.decimal n.toNat := rfl
  unfold readUInt32
  rw [integerText?_of_shows_int h, htext, Option.bind_some, Plain.natural?_decimal,
    Option.filter_some, if_pos (isUnsigned_of_le (by decide) hfits)]
  simp only [hfits, if_true, UInt32.ofNat_toNat]

theorem readInt32_of_shows {n : Int32} (h : p.Shows (.int n.toInt)) : p.readInt32 = .ok n := by
  have hfits : Width.isSigned 32 n.toInt := isSigned_toInt32 n
  unfold readInt32
  rw [integerText?_of_shows_int h, Option.bind_some, Plain.integer?_signedDecimal,
    Option.filter_some, if_pos (isSigned_of_le (by decide) hfits)]
  simp only [hfits, if_true, Int32.ofInt_toInt]

theorem isMissing_of_shows {v : Value} (h : p.Shows v) : p.isMissing = .ok false := by
  unfold isMissing
  match v with
  | .string s =>
    obtain ⟨presentation, hcontent, hplain⟩ := Document.exists_of_presents_string h
    rw [hcontent]
    cases presentation with
    | plain => simpa using hplain rfl
    | literal | other => rfl
  | .number (.int n) =>
    -- A text that stands for null is read as no integer, and this one is read as `n`.
    rw [Document.eq_of_presents_int h]
    have hsome := Plain.integer?_signedDecimal n
    have hnot : ¬ (Text.Numeral.signedDecimal n = "" ∨
        Plain.isNull (Text.Numeral.signedDecimal n)) := by
      intro hnull
      rw [Plain.integer?_eq_none hnull] at hsome
      cases hsome
    simpa using hnot
  | .seq vs =>
    obtain ⟨tag, nodes, hcontent, -⟩ := Document.exists_of_presents_seq h
    rw [hcontent]
  | .map es =>
    obtain ⟨tag, nodes, hcontent, -⟩ := Document.exists_of_presents_map h
    rw [hcontent]
  | .null | .bool _ | .number (.float _) | .tagged _ _ => simp [Shows, Document.presents] at h

/-- The parts of a list show its items, whatever their paths are. -/
theorem forall₂_mapIdx {d : Document} {path : Nat → Path} {nodes : List Node} {vs : List Value}
    (h : List.Forall₂ (fun node v => d.presents v (d.content node)) nodes vs) :
    List.Forall₂ Shows (nodes.mapIdx fun i node => ⟨d, path i, d.content node⟩) vs := by
  -- On the items, for all paths: the items behind the first one have their indices shifted.
  induction h generalizing path with
  | nil => exact .nil
  | cons hv _ ih =>
    rw [List.mapIdx_cons]
    exact .cons hv ih

/-- **A place shows the tree that its document presents there.** -/
def showing : Showing Place where
  Shows := Shows
  string h := readText_of_shows h _
  uint32 h := readUInt32_of_shows h
  int32 h := readInt32_of_shows h
  isMissing h _ := isMissing_of_shows h
  items {p vs} h := by
    obtain ⟨tag, nodes, hcontent, hnodes⟩ := Document.exists_of_presents_seq h
    refine ⟨nodes.mapIdx fun i node => p.descend (.item i) node, ?_, forall₂_mapIdx hnodes⟩
    show p.readItems = _
    unfold readItems
    rw [hcontent]
  entries {p es} expected h := by
    obtain ⟨tag, nodes, hcontent, hnodes⟩ := Document.exists_of_presents_map h
    refine ⟨nodes.map fun node => (p.readKey node.1, p.descend (.toValueOf node.1) node.2), ?_,
      List.forall₂_map_left_iff.2 (hnodes.imp fun node e hnode => ⟨fun k hk => ?_, hnode.2⟩)⟩
    · show p.readEntries expected = _
      unfold readEntries
      rw [hcontent]
    · exact readText_of_shows (hk ▸ hnode.1) _

end Place

/-! ## Documents that were written -/

namespace Value

/-- Whether the document of some characters presents a tree. -/
def isPresentedIn (v : Value) (cs : List Char) : Bool :=
  match Document.ofChars? cs with
  | none => false
  | some d => d.presents v (Place.root d).content

/-- **Whether a tree is found again**: the document of its bytes, if it can be written, presents the
tree. -/
def IsPresented (v : Value) : Prop :=
  ∀ bytes, v.toBytes = .ok bytes →
    ∃ d, Document.ofBytes bytes = .ok d ∧ (Place.root d).Shows v

theorem isPresentedIn_iff {v : Value} {s : String} :
    v.isPresentedIn s.toList ↔
      ∃ d, Document.ofBytes s.toUTF8 = .ok d ∧ (Place.root d).Shows v := by
  unfold isPresentedIn
  rw [Document.ofBytes_toUTF8]
  cases Document.ofChars? s.toList <;> simp [Place.Shows, Place.root]

theorem isPresented_iff {v : Value} :
    v.IsPresented ↔ (v.writeError? false = none → v.isPresentedIn (part .root 0 v)) := by
  have hfound := isPresentedIn_iff (v := v) (s := String.ofList (part .root 0 v))
  rw [String.toList_ofList] at hfound
  rw [hfound]
  exact forall_toBytes_iff

instance (v : Value) : Decidable v.IsPresented := decidable_of_iff _ isPresented_iff.symm

end Value
end InstallManifest.Yaml
