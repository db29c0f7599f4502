import FormAutomation.Proofs.Network.Contact
import Mathlib.Data.Nat.Digits.Defs

/-!
# One text for each address

An address has many spellings and one canonical text.  Reading the canonical text gives the
address back: of the groups only a run of zeros is left out, and the cut stands for as many
zeros as are missing; where the last two groups are written as a dotted quad, the quad has
their number.

So whether a host is internal depends on the address that it writes, not on how it writes
it.  In particular, a host that is an address is judged as what it is resolved to.
-/

namespace FormAutomation.Network

namespace Address

/-! ## How large numbers get -/

/-- The number of an address has no more bits than the address. -/
def InRange : Address → Prop
  | .v4 bits => bits < 2 ^ 32
  | .v6 bits => bits < 2 ^ 128

theorem lt_of_octet? {cs : List Char} {n : Nat} (h : octet? cs = some n) : n < 256 := by
  unfold octet? at h
  split at h
  · cases h
  split at h
  · cases h
  dsimp only at h
  split at h
  · next hlt => exact Option.some.inj h ▸ hlt
  · cases h

theorem lt_of_quad? {cs : List Char} {bits : Nat} (h : quad? cs = some bits) : bits < 2 ^ 32 := by
  have hoctets : ∀ n, some n ∈ (Text.splitOn '.' cs).map octet? → n < 256 := by
    intro n hn
    obtain ⟨part, -, hpart⟩ := List.mem_map.1 hn
    exact lt_of_octet? hpart
  unfold quad? at h
  split at h
  · next a b c d hparts =>
    rw [hparts] at hoctets
    have ha := hoctets a (by simp)
    have hb := hoctets b (by simp)
    have hc := hoctets c (by simp)
    have hd := hoctets d (by simp)
    obtain rfl := Option.some.inj h
    omega
  · cases h

theorem hexValue?_lt {c : Char} {n : Nat} (h : hexValue? c = some n) : n < 16 := by
  unfold hexValue? at h
  split at h
  · next hdigit =>
    have hle : c.toNat ≤ '9'.toNat := (Char.isDigit_iff_toNat.1 hdigit).2
    obtain rfl := Option.some.inj h
    exact Nat.lt_of_le_of_lt (Nat.sub_le_sub_right hle 48) (by decide)
  split at h
  · next hsmall =>
    have hle : c.toNat ≤ 'f'.toNat := hsmall.2
    obtain rfl := Option.some.inj h
    exact Nat.lt_of_le_of_lt (Nat.sub_le_sub_right hle 87) (by decide)
  split at h
  · next hcapital =>
    have hle : c.toNat ≤ 'F'.toNat := hcapital.2
    obtain rfl := Option.some.inj h
    exact Nat.lt_of_le_of_lt (Nat.sub_le_sub_right hle 55) (by decide)
  · cases h

/-- A number read digit by digit is bounded by how many digits were read. -/
theorem lt_of_foldlM {α : Type} {base n m : Nat} {value? : α → Option Nat} {digits : List α}
    (hlt : ∀ digit ∈ digits, ∀ value, value? digit = some value → value < base)
    (h : digits.foldlM (fun n digit => (value? digit).map (base * n + ·)) n = some m) :
    m < (n + 1) * base ^ digits.length := by
  induction digits generalizing n with
  | nil =>
    obtain rfl := Option.some.inj h
    simp
  | cons digit digits ih =>
    obtain ⟨hdigit, hdigits⟩ := List.forall_mem_cons.1 hlt
    rw [List.foldlM_cons] at h
    obtain ⟨k, hk, hrest⟩ := Option.bind_eq_some_iff.1 h
    obtain ⟨value, hvalue, rfl⟩ := Option.map_eq_some_iff.1 hk
    have hstep : base * n + value + 1 ≤ (n + 1) * base := by
      rw [Nat.add_mul, Nat.one_mul, Nat.mul_comm n]
      have hvalue' := hdigit value hvalue
      omega
    calc m < (base * n + value + 1) * base ^ digits.length := ih hdigits hrest
      _ ≤ ((n + 1) * base) * base ^ digits.length := Nat.mul_le_mul_right _ hstep
      _ = (n + 1) * base ^ (digit :: digits).length := by
        rw [List.length_cons, Nat.pow_succ', Nat.mul_assoc]

theorem lt_of_group? {cs : List Char} {n : Nat} (h : group? cs = some n) : n < 65536 := by
  unfold group? at h
  split at h
  · cases h
  · next hlength =>
    have hle : cs.length ≤ 4 := by
      simp only [Bool.or_eq_true, decide_eq_true_eq, not_or] at hlength
      omega
    calc n < (0 + 1) * 16 ^ cs.length := lt_of_foldlM (fun _ _ _ => hexValue?_lt) h
      _ ≤ (0 + 1) * 16 ^ 4 := Nat.mul_le_mul_left _ (Nat.pow_le_pow_right (by decide) hle)
      _ = 65536 := by decide

theorem lt_of_groups? {parts : List (List Char)} {groups : List Nat}
    (h : groups? parts = some groups) : ∀ group ∈ groups, group < 65536 := by
  induction parts generalizing groups with
  | nil =>
    obtain rfl := Option.some.inj h
    exact fun _ hgroup => absurd hgroup List.not_mem_nil
  | cons part rest ih =>
    rcases exists_of_groups?_cons h with ⟨-, n, hn, rfl⟩ | ⟨n, ns, hn, hns, rfl⟩
    · have hlt := lt_of_quad? hn
      simp only [List.forall_mem_cons, List.not_mem_nil, false_implies, implies_true, and_true]
      omega
    · exact List.forall_mem_cons.2 ⟨lt_of_group? hn, ih hns⟩

theorem ofGroups_lt {groups : List Nat} (h : ∀ group ∈ groups, group < 65536) :
    ofGroups groups < 65536 ^ groups.length := by
  have hread : groups.foldlM (fun n group => (some group).map (65536 * n + ·)) 0
      = some (ofGroups groups) := List.foldlM_pure
  -- each group is a digit in base 65536
  have hdigits : ∀ group ∈ groups, ∀ value, some group = some value → value < 65536 :=
    fun group hgroup value hvalue => Option.some.inj hvalue ▸ h group hgroup
  have hlt := lt_of_foldlM hdigits hread
  rwa [Nat.zero_add, Nat.one_mul] at hlt

theorem lt_of_long? {cs : List Char} {bits : Nat} (h : long? cs = some bits) :
    bits < 2 ^ 128 := by
  obtain ⟨-, before, after, high, low, zeros, -, hhigh, hlow, hlength, rfl⟩ :=
    exists_groups_of_long? h
  have hlt : ∀ group ∈ high ++ List.replicate zeros 0 ++ low, group < 65536 := by
    simp only [List.mem_append, or_imp, forall_and]
    refine ⟨⟨lt_of_groups? hhigh, fun group hgroup => ?_⟩, lt_of_groups? hlow⟩
    rw [List.eq_of_mem_replicate hgroup]
    decide
  have hbits := ofGroups_lt hlt
  rw [hlength] at hbits
  exact hbits

theorem inRange_of_parse? {text : String} {address : Address} (h : parse? text = some address) :
    address.InRange := by
  rcases parse?_eq_some_iff.1 h with ⟨bits, hq, rfl⟩ | ⟨-, -, long, bits, -, hbits, rfl⟩
  · exact lt_of_quad? hq
  · exact lt_of_long? hbits

/-! ## Digits read back -/

theorem octet?_decimal : ∀ n < 256, octet? (decimal n) = some n := by
  decide +kernel

theorem not_mem_decimal {c : Char} (h : c.isDigit = false) (n : Nat) : c ∉ decimal n := by
  intro hc
  rw [Nat.isDigit_of_mem_toDigits (by decide) (by decide) hc] at h
  cases h

theorem quad?_quadText (bits : Nat) : quad? (quadText bits) = some (bits % 2 ^ 32) := by
  have hpart : ∀ n, Text.splitOn '.' (decimal n) = [decimal n] :=
    fun n => Text.splitOn_of_not_mem (not_mem_decimal rfl n)
  have hoctet : ∀ n, octet? (decimal (n % 256)) = some (n % 256) :=
    fun n => octet?_decimal _ (Nat.mod_lt _ (by decide))
  unfold quad? quadText
  simp only [Text.splitOn_append, hpart, List.append_assoc, List.cons_append, List.nil_append,
    List.map_cons, List.map_nil, hoctet, Option.some.injEq]
  omega

theorem hexValue?_digitChar : ∀ digit < 16, hexValue? (Nat.digitChar digit) = some digit := by
  decide

theorem group?_toDigits {n : Nat} (h : n < 65536) : group? (Nat.toDigits 16 n) = some n := by
  have hfold : (Nat.toDigits 16 n).foldlM (fun n c => (hexValue? c).map (16 * n + ·)) 0
      = some n := by
    clear h
    -- the last digit comes off the end
    induction n using Nat.strongRecOn with
    | _ n ih =>
      rw [Nat.toDigits_eq_if (by decide)]
      split
      · next hlt => simp [hexValue?_digitChar n hlt]
      · rw [List.foldlM_append, ih (n / 16) (by omega)]
        simp only [List.foldlM_cons, List.foldlM_nil, Option.map_some, Option.pure_def,
          hexValue?_digitChar (n % 16) (Nat.mod_lt _ (by decide)), Option.bind_eq_bind,
          Option.bind_fun_some, Option.bind_some, Option.some.injEq]
        omega
  have hlength : (Nat.toDigits 16 n).length ≤ 4 := Nat.toDigits_length 16 n 4 (by decide) h
  rw [group?, if_neg, hfold]
  simpa [Nat.toDigits_ne_nil] using hlength

theorem not_mem_of_group? {cs : List Char} {n : Nat} (h : group? cs = some n) {c : Char}
    (hc : hexValue? c = none) : c ∉ cs := by
  intro hmem
  obtain ⟨value, hvalue⟩ := hexValue?_of_group? h hmem
  rw [hc] at hvalue
  cases hvalue

theorem groups?_cons {part : List Char} {rest : List (List Char)} {n : Nat} {ns : List Nat}
    (hn : group? part = some n) (hns : groups? rest = some ns) :
    groups? (part :: rest) = some (n :: ns) := by
  rcases rest with _ | ⟨next, rest⟩
  · have hdot : '.' ∉ part := not_mem_of_group? hn rfl
    obtain rfl := Option.some.inj hns
    rw [groups?, if_neg (by simpa using hdot), hn]
    rfl
  · change ((group? part).bind fun n => (groups? (next :: rest)).bind fun ns =>
      some (n :: ns)) = some (n :: ns)
    rw [hn, hns]
    rfl

/-- Groups in base sixteen. -/
abbrev digits (groups : List Nat) : List (List Char) :=
  groups.map (Nat.toDigits 16)

theorem groups?_digits_append {groups ns : List Nat} {rest : List (List Char)}
    (h : ∀ group ∈ groups, group < 65536) (hns : groups? rest = some ns) :
    groups? (digits groups ++ rest) = some (groups ++ ns) := by
  induction groups with
  | nil => exact hns
  | cons group groups ih =>
    obtain ⟨hgroup, hgroups⟩ := List.forall_mem_cons.1 h
    exact groups?_cons (group?_toDigits hgroup) (ih hgroups)

theorem groups?_digits {groups : List Nat} (h : ∀ group ∈ groups, group < 65536) :
    groups? (digits groups) = some groups := by
  simpa using groups?_digits_append h (rfl : groups? [] = some [])

/-! ## Groups read back -/

/-- A part that groups are read from says something, and no colon is in it. -/
theorem ne_nil_of_groups? {parts : List (List Char)} {groups : List Nat}
    (h : groups? parts = some groups) : ∀ part ∈ parts, part ≠ [] ∧ ':' ∉ part := by
  intro part hpart
  rcases group_or_quad_of_groups? h part hpart with ⟨n, hn⟩ | ⟨n, hn⟩
  · refine ⟨?_, not_mem_of_group? hn rfl⟩
    rintro rfl
    cases hn
  · refine ⟨?_, fun hc => absurd (isDigit_of_quad? hn hc) (by decide)⟩
    rintro rfl
    cases hn

/-- The pieces of a text that joins some parts: an empty one, if there are none. -/
def pieces (parts : List (List Char)) : List (List Char) :=
  if parts = [] then [[]] else parts

theorem length_pieces_pos (parts : List (List Char)) : 0 < (pieces parts).length := by
  unfold pieces
  split
  · exact Nat.one_pos
  · next hne => exact List.length_pos_iff.2 hne

theorem splitOn_joined {parts : List (List Char)} {groups : List Nat}
    (h : groups? parts = some groups) :
    Text.splitOn ':' ([':'].intercalate parts) = pieces parts := by
  unfold pieces
  split
  · next hnil =>
    rw [hnil]
    rfl
  · next hne =>
    exact Text.splitOn_intercalate hne fun part hpart => (ne_nil_of_groups? h part hpart).2

/-- Where no part is empty, there is no cut. -/
theorem cut?_of_ne_nil {parts : List (List Char)} (h : ∀ part ∈ parts, part ≠ []) :
    cut? parts = some none := by
  rcases parts with _ | ⟨_ | ⟨c, part⟩, rest⟩
  · rfl
  · exact absurd rfl (h [] List.mem_cons_self)
  · have hdrop : ((c :: part) :: rest).dropWhile (!·.isEmpty) = [] :=
      List.dropWhile_eq_nil_iff.2 fun part hpart => by simpa using h part hpart
    rw [cut?_of_cons ⟨c, part, rest, rfl⟩, hdrop]

/-- The cut is at the empty part. -/
theorem cut?_gap {high low : List (List Char)} (hhigh : ∀ part ∈ high, part ≠ [])
    (hlow : ∀ part ∈ low, part ≠ []) :
    cut? (pieces high ++ [] :: pieces low) = some (some (high, low)) := by
  -- what follows the cut is no second one
  have hany : low.any List.isEmpty = false := by simpa using hlow
  have hlast : low ≠ [[]] := by
    rintro rfl
    exact hlow [] List.mem_cons_self rfl
  rcases high with _ | ⟨_ | ⟨c, part⟩, rest⟩
  · -- the text starts with the cut
    rcases low with _ | ⟨next, low⟩
    · rfl
    · simp [pieces, cut?, hany, hlast]
  · exact absurd rfl (hhigh [] List.mem_cons_self)
  · have hpos : ∀ part' ∈ (c :: part) :: rest, (!part'.isEmpty) = true :=
      fun part' hpart' => by simpa using hhigh part' hpart'
    rw [pieces, if_neg (List.cons_ne_nil _ _),
      cut?_of_cons ⟨c, part, _, (List.cons_append ..).symm⟩,
      List.takeWhile_append_of_pos hpos, List.dropWhile_append_of_pos hpos]
    rcases low with _ | ⟨next, low⟩
    · simp [pieces]
    · simp [pieces, hany, hlast]

/-- Eight groups read back. -/
theorem long?_of_groups? {parts : List (List Char)} {groups : List Nat}
    (h : groups? parts = some groups) (hparts : 2 < parts.length) (hlength : groups.length = 8) :
    long? ([':'].intercalate parts) = some (ofGroups groups) := by
  have hne : parts ≠ [] := List.ne_nil_of_length_pos (Nat.lt_trans (by decide) hparts)
  have hcut := cut?_of_ne_nil fun part hpart => (ne_nil_of_groups? h part hpart).1
  unfold long?
  rw [splitOn_joined h, pieces, if_neg hne]
  simp [hcut, h, hlength, Nat.not_lt.2 hparts]

/-- Groups on both sides of a run of zeros read back. -/
theorem long?_gap {high groups low : List Nat} {rest : List (List Char)} {zeros : Nat}
    (hhigh : ∀ group ∈ high, group < 65536) (hlow : groups? rest = some low)
    (hgroups : high ++ List.replicate zeros 0 ++ low = groups) (hzeros : 0 < zeros)
    (hlength : groups.length = 8) :
    long? (groupsText high ++ ':' :: ':' :: [':'].intercalate rest) = some (ofGroups groups) := by
  have hdigits := groups?_digits hhigh
  have hcut := cut?_gap (fun part hpart => (ne_nil_of_groups? hdigits part hpart).1)
    fun part hpart => (ne_nil_of_groups? hlow part hpart).1
  -- between the two colons there is an empty part
  have hparts : Text.splitOn ':' (groupsText high ++ ':' :: ':' :: [':'].intercalate rest)
      = pieces (digits high) ++ [] :: pieces rest := by
    rw [← splitOn_joined hdigits, ← splitOn_joined hlow, Text.splitOn_append]
    rfl
  have hmany : ¬ (pieces (digits high) ++ [] :: pieces rest).length < 3 := by
    have hbefore := length_pieces_pos (digits high)
    have hafter := length_pieces_pos rest
    rw [List.length_append, List.length_cons]
    omega
  have hdot : (digits high).any (·.contains '.') = false := by
    simpa using fun group hgroup => not_mem_of_group? (group?_toDigits (hhigh group hgroup)) rfl
  rw [← hgroups, List.length_append, List.length_append, List.length_replicate] at hlength
  have hzeros' : 8 - high.length - low.length = zeros := by omega
  have hfew : high.length + low.length < 8 := by omega
  unfold long?
  rw [hparts, ← hgroups]
  simp only [hmany, if_false, hcut, hdot, hdigits, hlow, hzeros', hfew, if_true,
    Option.bind_eq_bind, Option.bind_some, Bool.false_eq_true]

/-! ## The longest run of zeros -/

theorem take_leadingZeros (groups : List Nat) :
    groups.take (leadingZeros groups) = List.replicate (leadingZeros groups) 0 := by
  have hprefix := List.takeWhile_prefix (p := (· == 0)) (l := groups)
  rw [leadingZeros, ← List.prefix_iff_eq_take.1 hprefix]
  refine List.eq_replicate_iff.2 ⟨rfl, fun group hgroup => ?_⟩
  simpa using List.all_eq_true.1 List.all_takeWhile group hgroup

/-- What starts where the longest run starts, and is as long, is zeros. -/
theorem take_longestRun (groups : List Nat) :
    (groups.drop (longestRun groups).1).take (longestRun groups).2
      = List.replicate (longestRun groups).2 0 := by
  unfold longestRun
  -- wherever the search stands, what it has found so far is a run of zeros
  refine List.foldlRecOn (motive := fun best : Nat × Nat =>
    (groups.drop best.1).take best.2 = List.replicate best.2 0) _ _ rfl fun best hbest i _ => ?_
  dsimp only
  split
  · exact take_leadingZeros _
  · exact hbest

/-- Groups are what stands before a run of zeros, the run, and what stands after it. -/
theorem eq_append_longestRun {groups : List Nat} {start length : Nat}
    (h : longestRun groups = (start, length)) :
    groups.take start ++ List.replicate length 0 ++ groups.drop (start + length) = groups := by
  have hrun := take_longestRun groups
  rw [h] at hrun
  rw [← hrun, List.append_assoc, ← List.drop_drop, List.take_append_drop, List.take_append_drop]

/-! ## The canonical text -/

theorem groupsOf_lt (bits : Nat) : ∀ group ∈ groupsOf bits, group < 65536 := by
  intro group hgroup
  obtain ⟨i, -, rfl⟩ := List.mem_map.1 hgroup
  exact Nat.mod_lt _ (by decide)

theorem groupsOf_eq (bits : Nat) :
    groupsOf bits = [bits / 2 ^ 112 % 65536, bits / 2 ^ 96 % 65536, bits / 2 ^ 80 % 65536,
      bits / 2 ^ 64 % 65536, bits / 2 ^ 48 % 65536, bits / 2 ^ 32 % 65536, bits / 2 ^ 16 % 65536,
      bits / 2 ^ 0 % 65536] :=
  rfl

theorem ofGroups_groupsOf {bits : Nat} (h : bits < 2 ^ 128) : ofGroups (groupsOf bits) = bits := by
  -- the groups down to one of them make up the number without the bits below it
  have hstep : ∀ k l, l = k + 16 →
      65536 * (bits / 2 ^ l) + bits / 2 ^ k % 65536 = bits / 2 ^ k := by
    rintro k l rfl
    rw [Nat.pow_add, ← Nat.div_div_eq_div_mul]
    exact Nat.div_add_mod _ 65536
  have hfirst : bits / 2 ^ 112 % 65536 = bits / 2 ^ 112 := Nat.mod_eq_of_lt (by omega)
  rw [groupsOf_eq]
  simp only [ofGroups, List.foldl_cons, List.foldl_nil, Nat.mul_zero, Nat.zero_add, hfirst]
  rw [hstep 96 112 rfl, hstep 80 96 rfl, hstep 64 80 rfl, hstep 48 64 rfl, hstep 32 48 rfl,
    hstep 16 32 rfl, hstep 0 16 rfl, Nat.pow_zero, Nat.div_one]

/-- The last two groups are those of the last 32 bits. -/
theorem drop_groupsOf (bits : Nat) :
    (groupsOf bits).drop 6 = [bits % 2 ^ 32 / 65536, bits % 2 ^ 32 % 65536] := by
  have hhigh : bits / 2 ^ 16 % 65536 = bits % 2 ^ 32 / 65536 := by omega
  have hlow : bits / 2 ^ 0 % 65536 = bits % 2 ^ 32 % 65536 := by omega
  rw [← hhigh, ← hlow, groupsOf_eq]
  rfl

theorem groups?_quadText (bits : Nat) :
    groups? [quadText bits] = some ((groupsOf bits).drop 6) := by
  have hdot : (quadText bits).contains '.' = true := by simp [quadText]
  rw [groups?, if_pos hdot, quad?_quadText, drop_groupsOf]
  rfl

theorem long?_longText {bits : Nat} (h : bits < 2 ^ 128) : long? (longText bits) = some bits := by
  have hlength : (groupsOf bits).length = 8 := rfl
  have hlt := groupsOf_lt bits
  have hnone : ∀ group ∈ ([] : List Nat), group < 65536 := nofun
  have hffff : ∀ group ∈ [0xFFFF], group < 65536 := by decide
  obtain ⟨⟨start, length⟩, hrun⟩ : ∃ run, longestRun (groupsOf bits) = run := ⟨_, rfl⟩
  have hgroups := eq_append_longestRun hrun
  -- whichever way the text is written, the groups are read from it
  refine Eq.trans ?_ (congrArg some (ofGroups_groupsOf h))
  simp only [longText, hrun]
  split
  · exact long?_of_groups? (groups?_digits hlt) (by rw [List.length_map, hlength]; decide) hlength
  next hlong =>
  split
  · next hquad =>
    obtain ⟨rfl, rfl⟩ := hquad
    have hread := long?_gap hnone (groups?_quadText bits) hgroups (by decide) hlength
    rwa [List.intercalate_singleton] at hread
  split
  · next hmapped =>
    obtain ⟨rfl, rfl, hones⟩ := hmapped
    obtain ⟨hfive, hones⟩ := List.getElem?_eq_some_iff.1 hones
    rw [List.drop_eq_getElem_cons hfive, hones] at hgroups
    have hlow := groups?_digits_append hffff (groups?_quadText bits)
    have hread := long?_gap hnone hlow hgroups (by decide) hlength
    rwa [digits, List.map_singleton, List.singleton_append, List.intercalate_cons_cons,
      List.intercalate_singleton] at hread
  · exact long?_gap (fun group hgroup => hlt group (List.mem_of_mem_take hgroup))
      (groups?_digits fun group hgroup => hlt group (List.mem_of_mem_drop hgroup)) hgroups
      (by omega) hlength

theorem parse?_of_long? {cs : List Char} {bits : Nat} (h : long? cs = some bits) :
    parse? (String.ofList cs) = some (.v6 bits) := by
  have hspelled := isSpelling_of_long? h
  have hcolon : ':' ∈ cs := by
    by_contra hno
    have hparts := (exists_groups_of_long? h).1
    rw [Text.splitOn_of_not_mem hno] at hparts
    exact absurd hparts (Nat.not_lt.2 (Nat.le_succ 1))
  have hquad : quad? cs = none := Option.eq_none_iff_forall_ne_some.2 fun _ hn =>
    absurd (isDigit_of_quad? hn hcolon) (by decide)
  have hslash : '/' ∉ cs := hspelled.not_mem (by decide) (by decide) rfl
  have hpercent : '%' ∉ cs := hspelled.not_mem (by decide) (by decide) rfl
  refine parse?_eq_some_iff.2 (.inr ?_)
  rw [String.toList_ofList]
  exact ⟨hquad, hslash, cs, bits, withoutScope?_eq_some_iff.2 ⟨hpercent, .inl rfl⟩, h, rfl⟩

/-- The canonical text of an address writes it. -/
theorem parse?_toText {address : Address} (h : address.InRange) :
    parse? address.toText = some address := by
  cases address with
  | v4 bits =>
    refine parse?_eq_some_iff.2 (.inl ⟨bits, ?_, rfl⟩)
    rw [toText, String.toList_ofList, quad?_quadText, Nat.mod_eq_of_lt h]
  | v6 bits => exact parse?_of_long? (long?_longText h)

theorem isSpelling_toText {address : Address} (h : address.InRange) :
    IsSpelling address.toText.toList := by
  cases address with
  | v4 bits =>
    rw [toText, String.toList_ofList]
    exact isSpelling_of_quad? (quad?_quadText bits)
  | v6 bits =>
    rw [toText, String.toList_ofList]
    exact isSpelling_of_long? (long?_longText h)

end Address

/-! ## Hosts that are addresses -/

open Address (parse?)

/-- A text that writes an address is judged by the address alone. -/
structure JudgedByAddress (text : String) (address : Address) : Prop where
  /-- it is internal exactly if the address is for private use -/
  judged : isInternal text = address.isPrivate
  /-- whatever else writes the address is judged alike -/
  spelled : ∀ other, parse? (withoutBrackets other) = some address →
    isInternal other = isInternal text
  /-- if the address stands for one of 32 bits, whatever writes that is judged alike -/
  mapped : ∀ quad other, address = .v6 (0xFFFF * 2 ^ 32 + quad) →
    parse? (withoutBrackets other) = some (.v4 quad) → isInternal other = isInternal text
  /-- the canonical text of the address writes it as it stands, and is judged alike -/
  canonical : parse? address.toText = some address
    ∧ withoutBrackets address.toText = address.toText
    ∧ isInternal address.toText = isInternal text
  /-- a literal without brackets and scope is judged as what it is resolved to -/
  literal : ∀ other, parse? other = some address → '%' ∉ other.toList →
    isInternal other = isInternal address.toText

theorem mapped?_of_parse? {text : String} {quad : Nat} (h : parse? text = some (.v4 quad)) :
    Address.mapped? (0xFFFF * 2 ^ 32 + quad) = some quad := by
  have hlt : quad < 2 ^ 32 := Address.inRange_of_parse? h
  rw [Address.mapped?, if_pos (by omega)]
  exact congrArg some (by omega)

/-- Whether a host that is an address is internal does not depend on how it is written. -/
theorem judgedByAddress_of_parse? {text : String} {address : Address}
    (h : parse? (withoutBrackets text) = some address) : JudgedByAddress text address := by
  have hrange := Address.inRange_of_parse? h
  have hread := Address.parse?_toText hrange
  have hbare : withoutBrackets address.toText = address.toText :=
    Address.withoutBrackets_of_not_isBracket
      (Address.isBracket_of_isSpelling (Address.isSpelling_toText hrange))
  have hjudged := isInternal_of_parse? h
  have hcanonical : isInternal address.toText = address.isPrivate :=
    isInternal_of_parse? (hbare.symm ▸ hread)
  refine ⟨hjudged, fun other hother => ?_, ?_, ⟨hread, hbare, hcanonical.trans hjudged.symm⟩,
    fun other hother hscope => ?_⟩
  · exact (isInternal_of_parse? hother).trans hjudged.symm
  · -- the number that is mapped fits 32 bits, as a text writes it
    rintro quad other rfl hother
    rw [isInternal_of_parse? hother, hjudged, Address.isPrivate, Address.isPrivate,
      mapped?_of_parse? hother]
  · -- without a percent sign no brackets can be taken from a scope
    have hno : ¬ HasBracketScope other := by
      rintro ⟨spelling, scope, hsplit, -⟩
      exact hscope (hsplit ▸ List.mem_append_right _ List.mem_cons_self)
    rw [isInternal_of_parse? (Address.parse?_withoutBrackets hother hno), hcanonical]

/-- An address that stands for one of 32 bits is judged alike in brackets and capitals, in
groups with a scope, and as the one that it stands for. -/
theorem judgedByAddress_mapped :
    parse? (withoutBrackets "[::FFFF:10.0.0.1]") = some (.v6 (0xFFFF * 2 ^ 32 + 0x0A000001))
      ∧ JudgedByAddress "[::FFFF:10.0.0.1]" (.v6 (0xFFFF * 2 ^ 32 + 0x0A000001))
      ∧ isInternal "0:0:0:0:0:ffff:a00:1%eth0" = isInternal "[::FFFF:10.0.0.1]"
      ∧ isInternal "10.0.0.1" = isInternal "[::FFFF:10.0.0.1]" := by
  have h : parse? (withoutBrackets "[::FFFF:10.0.0.1]")
      = some (.v6 (0xFFFF * 2 ^ 32 + 0x0A000001)) := by decide
  have hjudged := judgedByAddress_of_parse? h
  exact ⟨h, hjudged, hjudged.spelled _ (by decide), hjudged.mapped _ _ rfl (by decide)⟩

end FormAutomation.Network
