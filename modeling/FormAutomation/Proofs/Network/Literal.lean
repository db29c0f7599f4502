import FormAutomation.Network.Address
import FormAutomation.Proofs.Text.Case

/-!
# Addresses in any letter case

A host is judged twice: whether it is written as an address is asked of the host as it
is, and whether it is internal of the host in small letters.  The two have to agree, or a
host could be taken for an address by the one and for no address by the other, and would
not be looked at by either.

They agree.  Letter case matters nowhere in the text of an address, and small letters
make no percent sign, so a scope stays a scope.
-/

namespace FormAutomation.Network

namespace Address

open Text (small IsPlain marks toLower_eq_iff)

/-! ## Digits -/

@[simp] theorem hexValue?_toLower (c : Char) : hexValue? c.toLower = hexValue? c :=
  Text.toLower_cases (P := fun c d => hexValue? d = hexValue? c) c rfl (by decide)

@[simp] theorem isDigit_toLower (c : Char) : c.toLower.isDigit = c.isDigit :=
  Text.toLower_cases (P := fun c d => d.isDigit = c.isDigit) c rfl (by decide)

theorem toLower_of_isDigit {c : Char} (h : c.isDigit = true) : c.toLower = c := by
  revert h
  exact Text.toLower_cases (P := fun c d => c.isDigit = true → d = c) c (fun _ => rfl) (by decide)

/-! ## Texts in small letters -/

/-- Splitting at a character that no other one becomes. -/
theorem splitOn_map {f : Char → Char} {separator : Char} (hf : ∀ c, f c = separator ↔ c = separator)
    (cs : List Char) :
    Text.splitOn separator (cs.map f) = (Text.splitOn separator cs).map (List.map f) := by
  induction cs with
  | nil => rfl
  | cons c cs ih =>
    by_cases h : c = separator
    · have hseparator : f separator = separator := (hf separator).2 rfl
      simp only [List.map_cons, Text.splitOn, h, hseparator, if_true, ih, List.map_nil]
    · have hfc : f c ≠ separator := fun e => h ((hf c).1 e)
      simp only [List.map_cons, Text.splitOn, h, hfc, if_false, ih]
      rcases Text.splitOn separator cs with _ | ⟨first, rest⟩
      · rfl
      · rfl

/-- Whether a mark stands in a text is the same in small letters. -/
theorem contains_small {mark : Char} (hm : mark ∈ marks) (cs : List Char) :
    (small cs).contains mark = cs.contains mark := by
  induction cs with
  | nil => rfl
  | cons c cs ih =>
    have hmark : (mark == c.toLower) = (mark == c) := by
      rw [Bool.eq_iff_iff, beq_iff_eq, beq_iff_eq, eq_comm, toLower_eq_iff hm, eq_comm]
    rw [small, List.map_cons, List.contains_cons, List.contains_cons, ih, hmark]

theorem octet?_small (cs : List Char) : octet? (small cs) = octet? cs := by
  have hdigits : (small cs).all Char.isDigit = cs.all Char.isDigit := by
    rw [List.all_map]
    congr 1
    funext c
    exact isDigit_toLower c
  by_cases h : cs.all Char.isDigit = true
  · have hsame : small cs = cs := by
      refine (List.map_congr_left fun c hc => ?_).trans (List.map_id cs)
      exact toLower_of_isDigit (List.all_eq_true.1 h c hc)
    rw [hsame]
  · simp [octet?, hdigits, h]

theorem quad?_small (cs : List Char) : quad? (small cs) = quad? cs := by
  have hparts : (Text.splitOn '.' (small cs)).map octet? = (Text.splitOn '.' cs).map octet? := by
    rw [small, splitOn_map (toLower_eq_iff (by decide)), List.map_map]
    exact List.map_congr_left fun part _ => octet?_small part
  unfold quad?
  rw [hparts]

theorem group?_small (cs : List Char) : group? (small cs) = group? cs := by
  simp [group?, List.foldlM_map]

theorem groups?_small (parts : List (List Char)) : groups? (parts.map small) = groups? parts := by
  induction parts with
  | nil => rfl
  | cons part rest ih =>
    rcases rest with _ | ⟨next, rest⟩
    · rw [List.map_cons, List.map_nil, groups?, groups?, contains_small (by decide), quad?_small,
        group?_small]
    · change (do
        let n ← group? (small part)
        let ns ← groups? ((next :: rest).map small)
        some (n :: ns)) = _
      rw [group?_small, ih]
      rfl

/-- Parts before and after a cut in small letters. -/
abbrev smallCut (cut : List (List Char) × List (List Char)) : List (List Char) × List (List Char) :=
  (cut.1.map small, cut.2.map small)

theorem isEmpty_small (cs : List Char) : (small cs).isEmpty = cs.isEmpty :=
  List.isEmpty_map

theorem map_small_eq_singleton_nil {parts : List (List Char)} :
    parts.map small = [[]] ↔ parts = [[]] := by
  rcases parts with _ | ⟨part, _ | ⟨next, rest⟩⟩ <;> simp

theorem drop_length_takeWhile {α : Type} (p : α → Bool) (xs : List α) :
    xs.drop (xs.takeWhile p).length = xs.dropWhile p := by
  induction xs with
  | nil => rfl
  | cons x xs ih =>
    cases h : p x with
    | true => simpa [h] using ih
    | false => simp [h]

/-- Where the first part says something, the cut is at the first empty one. -/
theorem cut?_of_cons {parts : List (List Char)} (h : ∃ c part rest, (c :: part) :: rest = parts) :
    cut? parts
      = match parts.dropWhile (!·.isEmpty) with
        | [] => some none
        | _ :: after =>
          if (parts.takeWhile (!·.isEmpty)).isEmpty then none
          else if after = [[]] then some (some (parts.takeWhile (!·.isEmpty), []))
          else if after.isEmpty || after.any List.isEmpty then none
          else some (some (parts.takeWhile (!·.isEmpty), after)) := by
  rw [← drop_length_takeWhile]
  obtain ⟨c, part, rest, rfl⟩ := h
  rfl

theorem cut?_small (parts : List (List Char)) :
    cut? (parts.map small) = (cut? parts).map (Option.map smallCut) := by
  have hany : ∀ parts : List (List Char), (parts.map small).any List.isEmpty
      = parts.any List.isEmpty := by
    intro parts
    rw [List.any_map]
    congr 1
    funext part
    exact isEmpty_small part
  have htest : ((fun part => !part.isEmpty) ∘ small) = fun part : List Char => !part.isEmpty := by
    funext part
    simp
  rcases parts with _ | ⟨_ | ⟨c, part⟩, rest⟩
  · rfl
  · rcases rest with _ | ⟨_ | ⟨d, next⟩, rest⟩
    · rfl
    · -- two empty parts at the start
      simp only [List.map_cons, cut?, hany, map_small_eq_singleton_nil, List.map_nil]
      split
      · rfl
      · split
        · rfl
        · rfl
    · rfl
  · -- the cut is at the first empty part
    generalize hparts : (c :: part) :: rest = parts
    rw [cut?_of_cons ⟨c, part, rest, hparts⟩,
      cut?_of_cons ⟨_, _, _, congrArg (List.map small) hparts⟩, List.takeWhile_map,
      List.dropWhile_map, htest]
    generalize parts.takeWhile (!·.isEmpty) = before
    generalize parts.dropWhile (!·.isEmpty) = rest
    rcases rest with _ | ⟨first, after⟩
    · rfl
    · simp only [List.map_cons, List.isEmpty_map, map_small_eq_singleton_nil, hany]
      split
      · rfl
      · split
        · rfl
        · split
          · rfl
          · rfl

theorem long?_small (cs : List Char) : long? (small cs) = long? cs := by
  have hparts : Text.splitOn ':' (small cs) = (Text.splitOn ':' cs).map small :=
    splitOn_map (toLower_eq_iff (by decide)) cs
  have hdots : ∀ parts : List (List Char), (parts.map small).any (·.contains '.')
      = parts.any (·.contains '.') := by
    intro parts
    rw [List.any_map]
    congr 1
    funext part
    exact contains_small (by decide) part
  unfold long?
  rw [hparts]
  generalize Text.splitOn ':' cs = parts
  simp only [List.length_map, cut?_small]
  rcases cut? parts with _ | _ | ⟨before, after⟩
  · rfl
  · simp only [Option.map_some, Option.map_none, Option.bind_eq_bind, Option.bind_some,
      groups?_small]
  · simp only [Option.map_some, Option.bind_eq_bind, Option.bind_some, groups?_small, hdots]

/-! ## How addresses are spelled -/

/-- A character of a text is a separator or stands in one of the pieces. -/
theorem mem_splitOn (separator : Char) {c : Char} {cs : List Char} (h : c ∈ cs) :
    c = separator ∨ ∃ part ∈ Text.splitOn separator cs, c ∈ part := by
  induction cs with
  | nil => cases h
  | cons d cs ih =>
    by_cases hd : d = separator
    · rw [Text.splitOn, if_pos hd]
      rcases List.mem_cons.1 h with rfl | h
      · exact .inl hd
      · rcases ih h with hc | ⟨part, hpart, hmem⟩
        · exact .inl hc
        · exact .inr ⟨part, List.mem_cons_of_mem _ hpart, hmem⟩
    · rw [Text.splitOn, if_neg hd]
      rcases hs : Text.splitOn separator cs with _ | ⟨first, rest⟩
      · exact absurd hs (Text.splitOn_ne_nil separator cs)
      rw [hs] at ih
      rcases List.mem_cons.1 h with rfl | h
      · exact .inr ⟨c :: first, List.mem_cons_self, List.mem_cons_self⟩
      · rcases ih h with hc | ⟨part, hpart, hmem⟩
        · exact .inl hc
        · rcases List.mem_cons.1 hpart with rfl | hpart
          · exact .inr ⟨d :: part, List.mem_cons_self, List.mem_cons_of_mem _ hmem⟩
          · exact .inr ⟨part, List.mem_cons_of_mem _ hpart, hmem⟩

theorem lt_of_isDigit {c : Char} (h : c.isDigit = true) : c.toNat < 128 := by
  simp only [Char.isDigit, Bool.and_eq_true, decide_eq_true_eq, UInt32.le_iff_toNat_le] at h
  exact Nat.lt_of_le_of_lt h.2 (by decide)

theorem lt_of_hexValue? {c : Char} {n : Nat} (h : hexValue? c = some n) : c.toNat < 128 := by
  unfold hexValue? at h
  split at h
  · next hdigit => exact lt_of_isDigit hdigit
  · split at h
    · next hsmall => exact Nat.lt_of_le_of_lt (Char.le_def.1 hsmall.2) (by decide)
    · split at h
      · next hcapital => exact Nat.lt_of_le_of_lt (Char.le_def.1 hcapital.2) (by decide)
      · cases h

/-- What addresses without a scope are written in: hexadecimal digits, dots and colons. -/
def IsSpelling (cs : List Char) : Prop :=
  ∀ c ∈ cs, c = ':' ∨ c = '.' ∨ ∃ n, hexValue? c = some n

theorem IsSpelling.isPlain {cs : List Char} (h : IsSpelling cs) : IsPlain cs := by
  intro c hc
  rcases h c hc with rfl | rfl | ⟨n, hn⟩
  · decide
  · decide
  · exact lt_of_hexValue? hn

theorem IsSpelling.not_mem {cs : List Char} (h : IsSpelling cs) {c : Char} (hcolon : c ≠ ':')
    (hdot : c ≠ '.') (hhex : hexValue? c = none) : c ∉ cs := by
  intro hc
  rcases h c hc with hc | hc | ⟨n, hn⟩
  · exact hcolon hc
  · exact hdot hc
  · rw [hhex] at hn
    cases hn

theorem isDigit_of_octet? {c : Char} {cs : List Char} {n : Nat} (h : octet? cs = some n)
    (hc : c ∈ cs) : c.isDigit = true := by
  unfold octet? at h
  split at h
  · cases h
  · next hdigits =>
    simp only [Bool.or_eq_true, Bool.not_eq_true', not_or, Bool.not_eq_false] at hdigits
    exact List.all_eq_true.1 hdigits.1.2 c hc

theorem isDigit_of_quad? {c : Char} {cs : List Char} {n : Nat} (h : quad? cs = some n)
    (hc : c ∈ cs) : c = '.' ∨ c.isDigit = true := by
  have hparts : ∀ octet ∈ (Text.splitOn '.' cs).map octet?, octet ≠ none := by
    unfold quad? at h
    split at h
    · next ha => simp [ha]
    · cases h
  rcases mem_splitOn '.' hc with hdot | ⟨part, hpart, hmem⟩
  · exact .inl hdot
  · obtain ⟨n, hn⟩ := Option.ne_none_iff_exists'.1 (hparts _ (List.mem_map_of_mem hpart))
    exact .inr (isDigit_of_octet? hn hmem)

theorem isSpelling_of_quad? {cs : List Char} {n : Nat} (h : quad? cs = some n) :
    IsSpelling cs := by
  intro c hc
  rcases isDigit_of_quad? h hc with rfl | hdigit
  · exact .inr (.inl rfl)
  · exact .inr (.inr ⟨_, if_pos hdigit⟩)

theorem hexValue?_of_group? {c : Char} {cs : List Char} {n : Nat} (h : group? cs = some n)
    (hc : c ∈ cs) : ∃ value, hexValue? c = some value := by
  have hfold : ∀ (cs : List Char) (n m : Nat),
      cs.foldlM (fun n c => (hexValue? c).map (16 * n + ·)) n = some m →
        ∀ c ∈ cs, ∃ value, hexValue? c = some value := by
    intro cs
    induction cs with
    | nil => exact fun _ _ _ _ hc => absurd hc List.not_mem_nil
    | cons c cs ih =>
      intro n m hm
      rw [List.foldlM_cons] at hm
      obtain ⟨k, hk, hrest⟩ := Option.bind_eq_some_iff.1 hm
      obtain ⟨value, hvalue, -⟩ := Option.map_eq_some_iff.1 hk
      intro d hd
      rcases List.mem_cons.1 hd with rfl | hd
      · exact ⟨value, hvalue⟩
      · exact ih k m hrest d hd
  unfold group? at h
  split at h
  · cases h
  · exact hfold cs 0 n h c hc

/-- The first of the parts that groups are read from is a group, or the only one and a dotted
quad. -/
theorem exists_of_groups?_cons {part : List Char} {rest : List (List Char)} {groups : List Nat}
    (h : groups? (part :: rest) = some groups) :
    (rest = [] ∧ ∃ n, quad? part = some n ∧ groups = [n / 65536, n % 65536])
      ∨ ∃ n ns, group? part = some n ∧ groups? rest = some ns ∧ groups = n :: ns := by
  rcases rest with _ | ⟨next, rest⟩
  · rw [groups?] at h
    split at h
    · obtain ⟨n, hn, rfl⟩ := Option.map_eq_some_iff.1 h
      exact .inl ⟨rfl, n, hn, rfl⟩
    · obtain ⟨n, hn, rfl⟩ := Option.map_eq_some_iff.1 h
      exact .inr ⟨n, [], hn, rfl, rfl⟩
  · change ((group? part).bind fun n => (groups? (next :: rest)).bind fun ns =>
      some (n :: ns)) = some groups at h
    obtain ⟨n, hn, h⟩ := Option.bind_eq_some_iff.1 h
    obtain ⟨ns, hns, h⟩ := Option.bind_eq_some_iff.1 h
    exact .inr ⟨n, ns, hn, hns, (Option.some.inj h).symm⟩

/-- Each part that groups are read from is a group or a dotted quad. -/
theorem group_or_quad_of_groups? {parts : List (List Char)} {groups : List Nat}
    (h : groups? parts = some groups) :
    ∀ part ∈ parts, (∃ n, group? part = some n) ∨ ∃ n, quad? part = some n := by
  induction parts generalizing groups with
  | nil => exact fun _ hpart => absurd hpart List.not_mem_nil
  | cons part rest ih =>
    intro part' hpart'
    rcases exists_of_groups?_cons h with ⟨rfl, n, hn, -⟩ | ⟨n, ns, hn, hns, -⟩
    · exact .inr ⟨n, List.mem_singleton.1 hpart' ▸ hn⟩
    · rcases List.mem_cons.1 hpart' with rfl | hpart'
      · exact .inl ⟨n, hn⟩
      · exact ih hns part' hpart'

theorem isSpelling_of_groups? {parts : List (List Char)} {groups : List Nat}
    (h : groups? parts = some groups) : ∀ part ∈ parts, IsSpelling part := by
  intro part hpart
  rcases group_or_quad_of_groups? h part hpart with ⟨n, hn⟩ | ⟨n, hn⟩
  · exact fun c hc => .inr (.inr (hexValue?_of_group? hn hc))
  · exact isSpelling_of_quad? hn

/-- A cut takes no part away that says something. -/
theorem mem_of_cut? {parts before after : List (List Char)}
    (h : cut? parts = some (some (before, after))) :
    ∀ part ∈ parts, part = [] ∨ part ∈ before ∨ part ∈ after := by
  rcases parts with _ | ⟨_ | ⟨c, part⟩, rest⟩
  · cases h
  · rcases rest with _ | ⟨_ | ⟨d, next⟩, rest⟩
    · cases h
    · simp only [cut?] at h
      split at h
      · next hrest =>
        subst hrest
        simp
      · split at h
        · cases h
        · simp only [Option.some.injEq, Prod.mk.injEq] at h
          obtain ⟨rfl, rfl⟩ := h
          simp
    · cases h
  · generalize hparts : (c :: part) :: rest = parts at h
    rw [cut?_of_cons ⟨c, part, rest, hparts⟩] at h
    have hsplit := List.takeWhile_append_dropWhile (p := fun part : List Char => !part.isEmpty)
      (l := parts)
    have hfirst := List.head?_dropWhile_not (fun part : List Char => !part.isEmpty) parts
    split at h
    · cases h
    · next first rest hrest =>
      -- the part at the cut is empty
      rw [hrest] at hsplit hfirst
      have hempty : first = [] := by simpa using hfirst
      rw [← hsplit]
      split at h
      · cases h
      · split at h
        · next hlast =>
          simp only [Option.some.injEq, Prod.mk.injEq] at h
          obtain ⟨rfl, rfl⟩ := h
          simp +contextual [hempty, hlast, or_imp]
        · split at h
          · cases h
          · simp only [Option.some.injEq, Prod.mk.injEq] at h
            obtain ⟨rfl, rfl⟩ := h
            simp +contextual [hempty, or_imp]

/-- A number of 128 bits is read from parts between colons: from all that say something eight
groups are read, with a run of zeros somewhere between them. -/
theorem exists_groups_of_long? {cs : List Char} {bits : Nat} (h : long? cs = some bits) :
    2 < (Text.splitOn ':' cs).length ∧ ∃ before after high low zeros,
      (∀ part ∈ Text.splitOn ':' cs, part = [] ∨ part ∈ before ∨ part ∈ after)
        ∧ groups? before = some high ∧ groups? after = some low
        ∧ (high ++ List.replicate zeros 0 ++ low).length = 8
        ∧ bits = ofGroups (high ++ List.replicate zeros 0 ++ low) := by
  unfold long? at h
  generalize Text.splitOn ':' cs = parts at h ⊢
  dsimp only at h
  split at h
  · cases h
  next hparts =>
  refine ⟨by omega, ?_⟩
  obtain ⟨cut, hcut, h⟩ := Option.bind_eq_some_iff.1 h
  rcases cut with _ | ⟨before, after⟩
  · obtain ⟨groups, hgroups, h⟩ := Option.bind_eq_some_iff.1 h
    split at h
    · next hlength =>
      refine ⟨parts, [], groups, [], 0, fun part hpart => .inr (.inl hpart), hgroups, rfl, ?_, ?_⟩
      · simp [hlength]
      · simp [(Option.some.inj h).symm]
    · cases h
  · dsimp only at h
    split at h
    · cases h
    obtain ⟨high, hhigh, h⟩ := Option.bind_eq_some_iff.1 h
    obtain ⟨low, hlow, h⟩ := Option.bind_eq_some_iff.1 h
    split at h
    · next hlength =>
      refine ⟨before, after, high, low, _, mem_of_cut? hcut, hhigh, hlow, ?_,
        (Option.some.inj h).symm⟩
      simp only [List.length_append, List.length_replicate]
      omega
    · cases h

theorem isSpelling_of_long? {cs : List Char} {n : Nat} (h : long? cs = some n) :
    IsSpelling cs := by
  obtain ⟨-, before, after, high, low, -, hparts, hhigh, hlow, -⟩ := exists_groups_of_long? h
  intro c hc
  rcases mem_splitOn ':' hc with rfl | ⟨part, hpart, hmem⟩
  · exact .inl rfl
  · rcases hparts part hpart with rfl | hpart | hpart
    · exact absurd hmem List.not_mem_nil
    · exact isSpelling_of_groups? hhigh part hpart c hmem
    · exact isSpelling_of_groups? hlow part hpart c hmem

/-! ## The lower case of an address -/

/-- A scope comes after the first percent sign; it says something and has none of its own. -/
theorem withoutScope?_eq_some_iff {cs address : List Char} :
    withoutScope? cs = some address ↔ '%' ∉ address
      ∧ (cs = address ∨ ∃ scope, cs = address ++ '%' :: scope ∧ scope ≠ [] ∧ '%' ∉ scope) := by
  have hmark : ∀ address : List Char, '%' ∉ address → ∀ c ∈ address, decide (c ≠ '%') = true := by
    intro address h c hc
    simpa using fun e : c = '%' => h (e ▸ hc)
  unfold withoutScope?
  dsimp only
  rw [drop_length_takeWhile]
  constructor
  · intro h
    have hsplit := List.takeWhile_append_dropWhile (p := fun c : Char => decide (c ≠ '%')) (l := cs)
    have hfirst := List.head?_dropWhile_not (fun c : Char => decide (c ≠ '%')) cs
    have hnone : '%' ∉ cs.takeWhile (fun c : Char => decide (c ≠ '%')) := by
      intro hmem
      simpa using List.all_eq_true.1 List.all_takeWhile '%' hmem
    split at h
    · next hrest =>
      obtain rfl := Option.some.inj h
      rw [hrest, List.append_nil] at hsplit
      exact ⟨hnone, .inl hsplit.symm⟩
    · next mark scope hrest =>
      split at h
      · cases h
      · next hscope =>
        obtain rfl := Option.some.inj h
        rw [hrest] at hsplit hfirst
        obtain rfl : mark = '%' := by simpa using hfirst
        simp only [Bool.or_eq_true, List.isEmpty_iff, List.contains_iff_mem, not_or] at hscope
        exact ⟨hnone, .inr ⟨scope, hsplit.symm, hscope.1, hscope.2⟩⟩
  · rintro ⟨hnone, rfl | ⟨scope, rfl, hne, hscope⟩⟩
    · rw [← List.append_nil cs, List.takeWhile_append_of_pos (hmark cs hnone),
        List.dropWhile_append_of_pos (hmark cs hnone)]
      simp
    · rw [List.takeWhile_append_of_pos (hmark address hnone),
        List.dropWhile_append_of_pos (hmark address hnone)]
      simp [hne, hscope]

/-- Without its scope, an address in lower case is the same address. -/
theorem withoutScope?_lower {cs address : List Char} (h : withoutScope? cs = some address)
    (hplain : IsPlain address) :
    withoutScope? (Text.lowerAfter [] cs) = some (small address) := by
  obtain ⟨hnone, hcs⟩ := withoutScope?_eq_some_iff.1 h
  have hsmall : '%' ∉ small address := by
    intro hmem
    obtain ⟨c, hc, hlower⟩ := List.mem_map.1 hmem
    exact hnone ((toLower_eq_iff (by decide) c).1 hlower ▸ hc)
  refine withoutScope?_eq_some_iff.2 ⟨hsmall, ?_⟩
  rcases hcs with rfl | ⟨scope, rfl, hne, hmark⟩
  · exact .inl (Text.lowerAfter_of_isPlain hplain)
  · refine .inr ⟨_, Text.lowerAfter_append hplain [] ('%' :: scope), ?_, ?_⟩
    · exact Text.lowerAfter_ne_nil hne _
    · exact fun hmem => hmark (Text.mem_of_mem_lowerAfter (by decide) scope _ hmem)

/-- A dotted quad has no scope. -/
theorem quad?_of_percent {cs : List Char} (h : '%' ∈ cs) : quad? cs = none :=
  Option.eq_none_iff_forall_ne_some.2 fun _ hn => absurd (isDigit_of_quad? hn h) (by decide)

/-- What is no dotted quad is none in lower case either. -/
theorem quad?_lower {cs address : List Char} (h : withoutScope? cs = some address)
    (hplain : IsPlain address) (hq : quad? cs = none) :
    quad? (Text.lowerAfter [] cs) = none := by
  obtain ⟨-, rfl | ⟨scope, rfl, -, -⟩⟩ := withoutScope?_eq_some_iff.1 h
  · rw [Text.lowerAfter_of_isPlain hplain, quad?_small, hq]
  · refine quad?_of_percent ?_
    rw [Text.lowerAfter_append hplain, Text.lowerAfter_cons, Text.lowerImage_of_lt (by decide)]
    simp [show '%'.toLower = '%' from rfl]

/-- Letter case does not matter to what address a text writes. -/
theorem parse?_lower {text : String} {address : Address} (h : parse? text = some address) :
    parse? (Text.lower text) = some address := by
  unfold parse? Text.lower at *
  dsimp only at *
  rw [String.toList_ofList]
  generalize text.toList = cs at h ⊢
  cases hq : quad? cs with
  | some bits =>
    -- a dotted quad is its own lower case
    rw [Text.lowerAfter_of_isPlain (isSpelling_of_quad? hq).isPlain, quad?_small, hq]
    simpa [hq] using h
  | none =>
    simp only [hq] at h
    split at h
    · cases h
    next hslash =>
    obtain ⟨n, hn, rfl⟩ := Option.map_eq_some_iff.1 h
    obtain ⟨long, hscope, hlong⟩ := Option.bind_eq_some_iff.1 hn
    have hplain := (isSpelling_of_long? hlong).isPlain
    have hslash' : '/' ∉ Text.lowerAfter [] cs := by
      intro hmem
      exact hslash (List.contains_iff_mem.2 (Text.mem_of_mem_lowerAfter (by decide) cs [] hmem))
    simp [quad?_lower hscope hplain hq, hslash', withoutScope?_lower hscope hplain, long?_small,
      hlong]

end Address

/-- The host is not written as an address for private use. -/
def IsPublic (host : String) : Prop :=
  ∀ address, Address.parse? (withoutBrackets host) = some address → address.isPrivate = false

/-- A host that is not internal is not written as an address for private use. -/
theorem isPublic_of_isInternal {host : String} (h : isInternal host = false) : IsPublic host := by
  intro address haddress
  have hlower := Address.parse?_lower haddress
  simp only [isInternal, hlower, Bool.or_eq_false_iff] at h
  exact h.2

end FormAutomation.Network
