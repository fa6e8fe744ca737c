import InstallManifest.Net.Address
import InstallManifest.Proofs.Text.Numeral

/-!
# Addresses are read back

The text of an address, in front of something that does not go on like it, is read as the number of
its bits. A text of IPv6 is read group by group, with a try at a dotted quad in front of each group;
that fails, because no dot follows the first run of decimal digits. Where the longest run of zero
groups is elided, the reader of the groups in front of it stops at the second colon, and as many
zeros are put back as there are groups missing.
-/
namespace InstallManifest.Net.Address
open Text Numeral

/-- Whether a text does not go on like the text of an address. -/
def Ends (rest : List Char) : Prop :=
  ∀ c ∈ rest.head?, c ≠ '.' ∧ c ≠ ':' ∧ isDigit 16 c = false

variable {rest : List Char}

theorem endsDigits_of_le {radix radix' : Nat} (h : radix ≤ radix')
    (hrest : EndsDigits radix' rest) : EndsDigits radix rest := by
  intro c hc
  have hdigit := hrest c hc
  unfold isDigit at hdigit ⊢
  split at hdigit
  next d hd =>
    simp only [decide_eq_false_iff_not] at hdigit ⊢
    omega
  next hd => rfl

theorem Ends.endsDigits (h : Ends rest) : EndsDigits 16 rest := fun c hc => (h c hc).2.2

theorem char?_cons (c : Char) (cs : List Char) : char? c (c :: cs) = some cs := if_pos rfl

theorem Ends.char?_eq_none (h : Ends rest) : char? ':' rest = none := by
  cases rest with
  | nil => rfl
  | cons c rest => exact if_neg (h c rfl).2.1

/-! ## Lists of numerals -/

/-- Numerals with a separator in front of each one. -/
def followed (radix : Nat) (separator : Char) (ns : List Nat) : List Char :=
  ns.flatMap fun n => separator :: digits radix n

theorem joined_cons (radix : Nat) (separator : Char) (n : Nat) (ns : List Nat) :
    joined radix separator (n :: ns) = digits radix n ++ followed radix separator ns := by
  induction ns generalizing n with
  | nil => simp [joined, followed]
  | cons m ns ih =>
    rw [joined, ih m]
    · rfl
    · simp

/-! ## Dotted quads -/

theorem read?_octet {s : Form} (hs : s.leadingZeros) {n : Nat} (hn : n < 256)
    (h : EndsDigits 10 rest) : read? s.octet (digits 10 n ++ rest) = some (n, rest) := by
  have hlength : (digits 10 n).length ≤ 3 :=
    (Nat.length_toDigits_le_iff (by decide) (by decide)).2 (by omega)
  have hradix : 1 < s.octet.radix := show 1 < 10 by decide
  have hradix' : s.octet.radix ≤ 16 := show 10 ≤ 16 by decide
  exact read?_digits hs hradix hradix' hn hlength h

theorem octets_lt (bits : BitVec 32) : ∀ n ∈ octets bits, n < 256 := by
  intro n hn
  obtain ⟨shift, -, rfl⟩ := List.mem_map.1 hn
  exact Nat.mod_lt _ (by decide)

/-- The number of four octets. -/
theorem ofOctets_eq (bits : BitVec 32) :
    ((bits.toNat >>> 24 % 256 * 256 + bits.toNat >>> 16 % 256) * 256 +
      bits.toNat >>> 8 % 256) * 256 + bits.toNat >>> 0 % 256 = bits.toNat := by
  have hlt := bits.isLt
  simp only [Nat.shiftRight_eq_div_pow]
  omega

theorem quad?_octets {s : Form} (hs : s.leadingZeros) (bits : BitVec 32)
    (h : EndsDigits 10 rest) :
    quad? s (joined 10 '.' (octets bits) ++ rest) = some (bits.toNat, rest) := by
  have hlt := octets_lt bits
  have hvalue := ofOctets_eq bits
  have hdot : ∀ cs, EndsDigits 10 ('.' :: cs) := EndsDigits.cons (by decide)
  simp only [octets, List.map_cons, List.map_nil, List.forall_mem_cons] at hlt
  obtain ⟨ha, hb, hc, hd, -⟩ := hlt
  simp only [octets, List.map_cons, List.map_nil, joined_cons, followed, List.flatMap_cons,
    List.flatMap_nil, List.append_nil, List.append_assoc, List.cons_append]
  simp only [quad?, read?_octet hs ha (hdot _), read?_octet hs hb (hdot _),
    read?_octet hs hc (hdot _), read?_octet hs hd h, char?_cons, bind, Option.bind, hvalue]

/-- There is no dotted quad where no dot follows the first run of decimal digits. -/
theorem quad?_eq_none (s : Form) {cs : List Char}
    (h : (cs.dropWhile (isDigit 10)).head? ≠ some '.') : quad? s cs = none := by
  unfold quad?
  cases hread : read? s.octet cs with
  | none => rfl
  | some p =>
    obtain ⟨n, behind⟩ := p
    obtain rfl : cs.dropWhile (isDigit 10) = behind := by
      unfold read? at hread
      dsimp only at hread
      split at hread
      · cases hread
      · split at hread
        · cases hread
        · exact congrArg Prod.snd (Option.some.inj hread)
    have hdot : char? '.' (cs.dropWhile (isDigit 10)) = none := by
      cases hcs : cs.dropWhile (isDigit 10) with
      | nil => rfl
      | cons c cs' =>
        rw [hcs, List.head?_cons, ne_eq, Option.some.injEq] at h
        exact if_neg h
    simp only [bind, Option.bind, hdot]

/-- What is in front of a text that is no decimal digit is found when decimal digits are dropped. -/
theorem head?_dropWhile_append {p : Char → Bool} {cs : List Char} {c : Char}
    (h : ((cs ++ rest).dropWhile p).head? = some c) :
    c ∈ cs ∨ (rest.dropWhile p).head? = some c := by
  induction cs with
  | nil => exact .inr h
  | cons d cs ih =>
    rw [List.cons_append, List.dropWhile_cons] at h
    split at h
    · exact (ih h).imp_left (List.mem_cons_of_mem d)
    · rw [List.head?_cons, Option.some.injEq] at h
      exact .inl (h ▸ List.mem_cons_self)

/-- A hexadecimal numeral in front of something that is no dot does not start a dotted quad. -/
theorem quad?_digits_eq_none (s : Form) (n : Nat) (h : EndsDigits 16 rest)
    (hdot : rest.head? ≠ some '.') : quad? s (digits 16 n ++ rest) = none := by
  refine quad?_eq_none s fun hhead => ?_
  rcases head?_dropWhile_append hhead with hmem | hhead
  · have hdigit := isDigit_of_mem_digits (by decide) (by decide) n '.' hmem
    exact absurd hdigit (by decide)
  · rw [dropWhile_of_endsDigits (endsDigits_of_le (by decide) h)] at hhead
    exact hdot hhead

/-! ## Groups -/

/-- Whether a text behind a group is not a part of it: it goes on with neither a digit nor a dot. -/
structure EndsGroup (rest : List Char) : Prop where
  digits : EndsDigits 16 rest
  dot : rest.head? ≠ some '.'

/-- Whether a text behind a list of groups does not hold another one. -/
structure EndsGroups (rest : List Char) : Prop where
  group : EndsGroup rest
  colon : ∀ cs, char? ':' rest = some cs → EndsGroup cs

theorem endsGroup_colon (cs : List Char) : EndsGroup (':' :: cs) := ⟨.cons (by decide) _, by simp⟩

theorem endsGroups_colon_colon (cs : List Char) : EndsGroups (':' :: ':' :: cs) where
  group := endsGroup_colon _
  colon cs' hcs' := by
    obtain rfl : ':' :: cs = cs' := Option.some.inj ((char?_cons ':' _).symm.trans hcs')
    exact endsGroup_colon cs

theorem Ends.endsGroups (h : Ends rest) : EndsGroups rest where
  group := ⟨h.endsDigits, fun hdot => (h '.' hdot).1 rfl⟩
  colon cs hcs := by simp [h.char?_eq_none] at hcs

theorem endsGroup_followed (gs : List Nat) (h : EndsGroup rest) :
    EndsGroup (followed 16 ':' gs ++ rest) := by
  cases gs with
  | nil => exact h
  | cons g gs => exact endsGroup_colon _

theorem read?_group {g : Nat} (hg : g < 65536) (h : EndsGroup rest) :
    read? Form.group (digits 16 g ++ rest) = some (g, rest) := by
  have hlength : (digits 16 g).length ≤ 4 :=
    (Nat.length_toDigits_le_iff (by decide) (by decide)).2 (by omega)
  exact read?_digits (b := Form.group) rfl (by decide) (by decide) hg hlength h.digits

variable {s : Form} {limit : Nat} {first : Bool} {cs : List Char}

/-- No group is read where no digit is. -/
theorem readGroups_of_endsGroup (h : ∀ cs', afterColon? first cs = some cs' → EndsGroup cs') :
    readGroups s limit first cs = ([], false, cs) := by
  cases limit with
  | zero => rfl
  | succ limit =>
    have hquad : (afterColon? first cs >>= quad? s) = none := by
      cases hcs : afterColon? first cs with
      | none => rfl
      | some cs' =>
        have hend : EndsDigits 10 cs' := endsDigits_of_le (by decide) (h cs' hcs).digits
        exact quad?_eq_none s (by rw [dropWhile_of_endsDigits hend]; exact (h cs' hcs).dot)
    have hgroup : (afterColon? first cs >>= read? Form.group) = none := by
      cases hcs : afterColon? first cs with
      | none => rfl
      | some cs' => exact read?_of_endsDigits Form.group (h cs' hcs).digits
    simp only [readGroups, hquad, hgroup, ite_self]

theorem readGroups_cons {g : Nat} (hcs : afterColon? first cs = some (digits 16 g ++ rest))
    (hg : g < 65536) (h : EndsGroup rest) :
    readGroups s (limit + 1) first cs =
      (g :: (readGroups s limit false rest).1, (readGroups s limit false rest).2) := by
  have hquad : (afterColon? first cs >>= quad? s) = none := by
    rw [hcs]
    exact quad?_digits_eq_none s g h.digits h.dot
  have hgroup : (afterColon? first cs >>= read? Form.group) = some (g, rest) := by
    rw [hcs]
    exact read?_group hg h
  simp only [readGroups, hquad, hgroup, ite_self]

theorem readGroups_followed {gs : List Nat} (hgs : ∀ g ∈ gs, g < 65536)
    (hlimit : gs.length ≤ limit) (h : EndsGroups rest) :
    readGroups s limit false (followed 16 ':' gs ++ rest) = (gs, false, rest) := by
  induction gs generalizing limit with
  | nil => exact readGroups_of_endsGroup fun cs' hcs' => h.colon cs' hcs'
  | cons g gs ih =>
    obtain ⟨limit, rfl⟩ : ∃ k, limit = k + 1 := ⟨limit - 1, by simp at hlimit; omega⟩
    have hcs : afterColon? false (followed 16 ':' (g :: gs) ++ rest) =
        some (digits 16 g ++ (followed 16 ':' gs ++ rest)) := by
      simp [afterColon?, char?, followed]
    rw [readGroups_cons hcs (hgs g List.mem_cons_self) (endsGroup_followed gs h.group),
      ih (fun g' hg' => hgs g' (List.mem_cons_of_mem g hg')) (by simp at hlimit; omega)]

/-- **Groups are read back**, up to where their list ends. -/
theorem readGroups_joined {gs : List Nat} (hgs : ∀ g ∈ gs, g < 65536)
    (hlimit : gs.length ≤ limit) (h : EndsGroups rest) :
    readGroups s limit true (joined 16 ':' gs ++ rest) = (gs, false, rest) := by
  cases gs with
  | nil =>
    refine readGroups_of_endsGroup fun cs' hcs' => ?_
    obtain rfl : rest = cs' := Option.some.inj hcs'
    exact h.group
  | cons g gs =>
    obtain ⟨limit, rfl⟩ : ∃ k, limit = k + 1 := ⟨limit - 1, by simp at hlimit; omega⟩
    have hcs : afterColon? true (joined 16 ':' (g :: gs) ++ rest) =
        some (digits 16 g ++ (followed 16 ':' gs ++ rest)) := by
      rw [joined_cons, List.append_assoc]
      rfl
    rw [readGroups_cons hcs (hgs g List.mem_cons_self) (endsGroup_followed gs h.group),
      readGroups_followed (fun g' hg' => hgs g' (List.mem_cons_of_mem g hg'))
        (by simp at hlimit; omega) h]

/-! ## Runs of zeros -/

theorem eq_replicate_leadingZeros (gs : List Nat) :
    gs = List.replicate (leadingZeros gs) 0 ++ gs.drop (leadingZeros gs) := by
  induction gs with
  | nil => rfl
  | cons g gs ih =>
    by_cases hg : g = 0
    · subst hg
      have hzeros : leadingZeros (0 :: gs) = leadingZeros gs + 1 := rfl
      rw [hzeros, List.replicate_succ, List.drop_succ_cons, List.cons_append, ← ih]
    · have hzeros : leadingZeros (g :: gs) = 0 := by simp [leadingZeros, hg]
      rw [hzeros]
      rfl

/-- Whatever is chosen in a fold was there. -/
theorem foldl_longest_mem (runs : List (Nat × Nat)) (best : Nat × Nat) :
    let chosen := runs.foldl (fun best run => if best.2 < run.2 then run else best) best
    chosen = best ∨ chosen ∈ runs := by
  induction runs generalizing best with
  | nil => exact .inl rfl
  | cons run runs ih =>
    dsimp only at ih ⊢
    rw [List.foldl_cons]
    rcases ih (if best.2 < run.2 then run else best) with h | h
    · rw [h]
      split
      · exact .inr List.mem_cons_self
      · exact .inl rfl
    · exact .inr (List.mem_cons_of_mem run h)

/-- Where the longest run of zeros stands, if it is not empty. -/
theorem eq_append_longestZeros {gs : List Nat} (h : 0 < (longestZeros gs).2) :
    gs = gs.take (longestZeros gs).1 ++ (List.replicate (longestZeros gs).2 0 ++
      gs.drop ((longestZeros gs).1 + (longestZeros gs).2)) := by
  rcases foldl_longest_mem _ (0, 0) with hmem | hmem
  · have hzero : longestZeros gs = (0, 0) := hmem
    rw [hzero] at h
    exact absurd h (by decide)
  · obtain ⟨start, -, hstart⟩ := List.mem_map.1 hmem
    have hrun : (start, leadingZeros (gs.drop start)) = longestZeros gs := hstart
    rw [← hrun, ← List.drop_drop, ← eq_replicate_leadingZeros, List.take_append_drop]

/-! ## Addresses of IPv6 -/

theorem length_groups (bits : BitVec 128) : (groups bits).length = 8 := rfl

theorem groups_lt (bits : BitVec 128) : ∀ g ∈ groups bits, g < 65536 := by
  intro g hg
  obtain ⟨shift, -, rfl⟩ := List.mem_map.1 hg
  exact Nat.mod_lt _ (by decide)

/-- A group goes behind the groups in front of it. -/
theorem shiftRight_group (n k : Nat) :
    n >>> (k + 16) * 65536 + n >>> k % 65536 = n >>> k := by
  rw [Nat.shiftRight_add, Nat.shiftRight_eq_div_pow (n >>> k) 16]
  exact Nat.div_add_mod' _ _

theorem ofGroups_groups (bits : BitVec 128) : ofGroups (groups bits) = bits.toNat := by
  have hfront : bits.toNat >>> 112 % 65536 = bits.toNat >>> 112 := by
    have hlt := bits.isLt
    rw [Nat.shiftRight_eq_div_pow]
    omega
  simp only [ofGroups, groups, List.map_cons, List.map_nil, List.foldl_cons, List.foldl_nil,
    Nat.zero_mul, Nat.zero_add, hfront]
  rw [shiftRight_group _ 96, shiftRight_group _ 80, shiftRight_group _ 64, shiftRight_group _ 48,
    shiftRight_group _ 32, shiftRight_group _ 16, shiftRight_group _ 0]
  rfl

theorem hex?_of_eight {front : List Nat} {embedded : Bool}
    (hfront : readGroups s 8 true cs = (front, embedded, rest)) (hlength : front.length = 8) :
    hex? s cs = some (ofGroups front, rest) := by
  simp only [hex?, hfront, hlength, if_true]
  rfl

theorem hex?_of_elided {front back : List Nat} {embedded : Bool} {behind : List Char}
    (hfront : readGroups s 8 true cs = (front, false, ':' :: ':' :: behind))
    (hlength : front.length < 8)
    (hback : readGroups s (8 - (front.length + s.leastElided)) true behind =
      (back, embedded, rest)) :
    hex? s cs = some
      (ofGroups (front ++ List.replicate (8 - front.length - back.length) 0 ++ back), rest) := by
  simp only [hex?, hfront, if_neg (Nat.ne_of_lt hlength), Bool.false_eq_true, if_false,
    char?_cons, bind, Option.bind, hback]
  rfl

/-- Two lists of groups around an elision. -/
theorem hex?_joined_elided {front back : List Nat} (hfront : ∀ g ∈ front, g < 65536)
    (hback : ∀ g ∈ back, g < 65536) (hlength : front.length + back.length < 8) (h : Ends rest) :
    hex? .range (joined 16 ':' front ++ ':' :: ':' :: (joined 16 ':' back ++ rest)) = some
      (ofGroups (front ++ List.replicate (8 - front.length - back.length) 0 ++ back), rest) := by
  have hreadFront : readGroups .range 8 true
      (joined 16 ':' front ++ ':' :: ':' :: (joined 16 ':' back ++ rest)) =
        (front, false, ':' :: ':' :: (joined 16 ':' back ++ rest)) :=
    readGroups_joined hfront (by omega) (endsGroups_colon_colon _)
  have hreadBack : readGroups .range (8 - (front.length + 0)) true (joined 16 ':' back ++ rest) =
      (back, false, rest) :=
    readGroups_joined hback (by omega) h.endsGroups
  exact hex?_of_elided hreadFront (by omega) hreadBack

/-- The groups around the longest run of zeros, if it is elided. -/
theorem exists_compressed_eq {gs : List Nat} (h : 1 < (longestZeros gs).2) :
    ∃ front count back, 0 < count ∧ gs = front ++ List.replicate count 0 ++ back ∧
      compressed gs = joined 16 ':' front ++ ':' :: ':' :: joined 16 ':' back := by
  refine ⟨gs.take (longestZeros gs).1, (longestZeros gs).2,
    gs.drop ((longestZeros gs).1 + (longestZeros gs).2), by omega, ?_, ?_⟩
  · rw [List.append_assoc]
    exact eq_append_longestZeros (by omega)
  · simp [compressed, h]

theorem compressed_eq_joined {gs : List Nat} (h : ¬ 1 < (longestZeros gs).2) :
    compressed gs = joined 16 ':' gs := by
  simp [compressed, h]

/-- **Eight groups are read back**, whether or not some zeros among them are elided. -/
theorem hex?_compressed {gs : List Nat} (hlength : gs.length = 8) (hgs : ∀ g ∈ gs, g < 65536)
    (h : Ends rest) : hex? .range (compressed gs ++ rest) = some (ofGroups gs, rest) := by
  by_cases hzeros : 1 < (longestZeros gs).2
  · obtain ⟨front, count, back, hcount, hsplit, hcompressed⟩ := exists_compressed_eq hzeros
    have hlengths := congrArg List.length hsplit
    simp only [List.length_append, List.length_replicate, hlength] at hlengths
    have hfront : ∀ g ∈ front, g < 65536 := fun g hg => hgs g (by simp [hsplit, hg])
    have hback : ∀ g ∈ back, g < 65536 := fun g hg => hgs g (by simp [hsplit, hg])
    -- As many zeros are put back as were elided, because there are eight groups.
    have hmissing : 8 - front.length - back.length = count := by omega
    rw [hcompressed, List.append_assoc, List.cons_append, List.cons_append,
      hex?_joined_elided hfront hback (by omega) h, hmissing, ← hsplit]
  · rw [compressed_eq_joined hzeros]
    exact hex?_of_eight (readGroups_joined hgs (Nat.le_of_eq hlength) h.endsGroups) hlength

/-! ## Embedded dotted quads -/

theorem toNat_eq_of_mapped? {bits : BitVec 128} {quad : BitVec 32} (h : mapped? bits = some quad) :
    bits.toNat = 65535 * 4294967296 + quad.toNat := by
  unfold mapped? at h
  split at h
  next hfront =>
    obtain rfl : BitVec.ofNat 32 bits.toNat = quad := Option.some.inj h
    rw [Nat.shiftRight_eq_div_pow] at hfront
    rw [BitVec.toNat_ofNat]
    omega
  next => cases h

/-- A dotted quad ends a list of groups. -/
theorem readGroups_quad {n : Nat} (hcs : (afterColon? first cs >>= quad? s) = some (n, rest)) :
    readGroups s (limit + 2) first cs = ([n / 65536, n % 65536], true, rest) := by
  simp only [readGroups, hcs, Nat.le_add_left, if_true]

theorem hex?_mapped (quad : BitVec 32) (h : Ends rest) :
    hex? .range ("::ffff:".toList ++ joined 10 '.' (octets quad) ++ rest) =
      some (65535 * 4294967296 + quad.toNat, rest) := by
  obtain ⟨behind, hbehind⟩ : ∃ cs, cs = joined 10 '.' (octets quad) ++ rest := ⟨_, rfl⟩
  -- No group stands in front of the elision; behind it there are one group and the quad.
  have hfront : readGroups .range 8 true (':' :: ':' :: (digits 16 65535 ++ ':' :: behind)) =
      ([], false, ':' :: ':' :: (digits 16 65535 ++ ':' :: behind)) := by
    refine readGroups_of_endsGroup fun cs' hcs' => ?_
    obtain rfl : _ = cs' := Option.some.inj hcs'
    exact endsGroup_colon _
  have hquad : (afterColon? false (':' :: behind) >>= quad? .range) = some (quad.toNat, rest) := by
    show quad? .range behind = _
    rw [hbehind]
    exact quad?_octets rfl quad (endsDigits_of_le (by decide) h.endsDigits)
  have hback : readGroups .range 8 true (digits 16 65535 ++ ':' :: behind) =
      ([65535, quad.toNat / 65536, quad.toNat % 65536], true, rest) := by
    rw [readGroups_cons rfl (by decide) (endsGroup_colon behind), readGroups_quad hquad]
  have htext : "::ffff:".toList ++ joined 10 '.' (octets quad) ++ rest =
      ':' :: ':' :: (digits 16 65535 ++ ':' :: behind) := by
    rw [hbehind]
    rfl
  rw [htext, hex?_of_elided hfront (by decide) hback]
  have hvalue : ofGroups ([] ++ List.replicate (8 - 0 - 3) 0 ++
      [65535, quad.toNat / 65536, quad.toNat % 65536]) = 65535 * 4294967296 + quad.toNat := by
    simp only [ofGroups, List.nil_append, List.foldl_append, List.foldl_cons, List.foldl_nil]
    have hzeros : (List.replicate (8 - 0 - 3) 0).foldl (fun n g => n * 65536 + g) 0 = 0 := rfl
    rw [hzeros]
    omega
  exact congrArg (fun n => some (n, rest)) hvalue

/-! ## Both families -/

/-- The text of an address of IPv6 is read as the number of its bits. -/
theorem hex?_chars (bits : BitVec 128) (h : Ends rest) :
    hex? .range ((v6 bits).chars ++ rest) = some (bits.toNat, rest) := by
  cases hmapped : mapped? bits with
  | some quad =>
    simp only [chars, hmapped]
    rw [hex?_mapped quad h, ← toNat_eq_of_mapped? hmapped]
  | none =>
    simp only [chars, hmapped]
    rw [hex?_compressed (length_groups bits) (groups_lt bits) h, ofGroups_groups]

/-- Whether a text starts with a colon, or with a group and a colon. -/
def StartsGroups (cs : List Char) : Prop :=
  (∃ behind, cs = ':' :: behind) ∨ ∃ g behind, cs = digits 16 g ++ ':' :: behind

theorem StartsGroups.append (h : StartsGroups cs) (rest : List Char) :
    StartsGroups (cs ++ rest) := by
  obtain ⟨behind, rfl⟩ | ⟨g, behind, rfl⟩ := h
  · exact .inl ⟨behind ++ rest, rfl⟩
  · exact .inr ⟨g, behind ++ rest, by simp⟩

theorem StartsGroups.quad?_eq_none (h : StartsGroups cs) (s : Form) : quad? s cs = none := by
  obtain ⟨behind, rfl⟩ | ⟨g, behind, rfl⟩ := h
  · have hend : EndsDigits 10 (':' :: behind) := .cons (by decide) behind
    exact Address.quad?_eq_none s (by simp [dropWhile_of_endsDigits hend])
  · exact quad?_digits_eq_none s g (endsGroup_colon behind).digits (endsGroup_colon behind).dot

theorem startsGroups_joined (gs : List Nat) (behind : List Char) :
    StartsGroups (joined 16 ':' gs ++ ':' :: behind) := by
  cases gs with
  | nil => exact .inl ⟨behind, rfl⟩
  | cons g gs =>
    rw [joined_cons, List.append_assoc]
    cases gs with
    | nil => exact .inr ⟨g, behind, rfl⟩
    | cons g' gs => exact .inr ⟨g, _, rfl⟩

/-- The text of an address of IPv6 cannot be taken for one of IPv4. -/
theorem startsGroups_chars (bits : BitVec 128) : StartsGroups (v6 bits).chars := by
  cases hmapped : mapped? bits with
  | some quad =>
    simp only [chars, hmapped]
    exact .inl ⟨_, rfl⟩
  | none =>
    simp only [chars, hmapped]
    by_cases hzeros : 1 < (longestZeros (groups bits)).2
    · obtain ⟨front, count, back, -, -, hcompressed⟩ := exists_compressed_eq hzeros
      rw [hcompressed]
      exact startsGroups_joined front _
    · rw [compressed_eq_joined hzeros]
      exact .inr ⟨_, _, joined_cons 16 ':' _ _⟩

end InstallManifest.Net.Address
