import FormAutomation.Network.Address

/-!
# Addresses set aside

The registries of special-purpose addresses name the blocks that are set aside, and say of
most of them whether they can be reached from everywhere.  An address in a block that
cannot is *reserved*, unless it lies in a smaller one that can.  Some addresses of 128 bits
stand for one of 32 bits, which was *mapped* into them or *translated*; these are reserved
exactly if that one is.

What is private is decided by lists of its own.  They overlook some of what is reserved:
the space that providers share among their customers, a relay, three blocks that were set
aside later, and whatever is translated.  All else that is reserved is private as well.
-/

namespace FormAutomation.Network

namespace Address

/-! ## Blocks in blocks -/

namespace Block

variable {width : Nat} {block other : Block} {bits : Nat}

/-- Whether a block holds all of another one. -/
def covers (width : Nat) (block other : Block) : Bool :=
  decide (block.length ≤ other.length) && block.contains width other.base

/-- Whether no number lies in both blocks. -/
def isApart (width : Nat) (block other : Block) : Bool :=
  !block.covers width other && !other.covers width block

theorem contains_iff :
    block.contains width bits = true
      ↔ bits / Nat.pow 2 (width - block.length) = block.base / Nat.pow 2 (width - block.length) :=
  beq_iff_eq

/-- Numbers that agree in their first bits agree in fewer of them. -/
theorem div_eq_of_length_le {m n : Nat} (hl : block.length ≤ other.length)
    (h : m / Nat.pow 2 (width - other.length) = n / Nat.pow 2 (width - other.length)) :
    m / Nat.pow 2 (width - block.length) = n / Nat.pow 2 (width - block.length) := by
  obtain ⟨k, hk⟩ := Nat.exists_eq_add_of_le (Nat.sub_le_sub_left hl width)
  have hpow : Nat.pow 2 (width - block.length)
      = Nat.pow 2 (width - other.length) * Nat.pow 2 k := by
    rw [hk]
    exact Nat.pow_add 2 _ _
  rw [hpow, ← Nat.div_div_eq_div_mul, ← Nat.div_div_eq_div_mul, h]

theorem contains_of_covers (h : block.covers width other = true)
    (hc : other.contains width bits = true) : block.contains width bits = true := by
  obtain ⟨hl, hbase⟩ := Bool.and_eq_true_iff.1 h
  rw [contains_iff] at hbase hc ⊢
  exact (div_eq_of_length_le (of_decide_eq_true hl) hc).trans hbase

/-- Of two blocks that have a number in common, the larger one holds the other. -/
theorem covers_of_contains (hc : block.contains width bits = true)
    (ho : other.contains width bits = true) (hl : block.length ≤ other.length) :
    block.covers width other = true := by
  refine Bool.and_eq_true_iff.2 ⟨decide_eq_true hl, ?_⟩
  rw [contains_iff] at hc ho ⊢
  exact (div_eq_of_length_le hl ho).symm.trans hc

theorem contains_eq_false_of_isApart (h : block.isApart width other = true)
    (hc : block.contains width bits = true) : other.contains width bits = false := by
  rw [Bool.eq_false_iff]
  intro ho
  obtain ⟨hblock, hother⟩ := Bool.and_eq_true_iff.1 h
  rcases Nat.le_total block.length other.length with hl | hl
  · rw [covers_of_contains hc ho hl] at hblock
    cases hblock
  · rw [covers_of_contains ho hc hl] at hother
    cases hother

end Block

/-! ## What a list overlooks -/

theorem isInside_iff {width : Nat} {blocks excepted : List Block} {bits : Nat} :
    isInside width blocks excepted bits = true
      ↔ (∃ block ∈ blocks, block.contains width bits = true)
        ∧ ∀ block ∈ excepted, block.contains width bits = false := by
  simp [isInside]

/-- Blocks that lie in some blocks with exceptions, and in which others with exceptions of
their own have no part. -/
structure IsGap (width : Nat) (reserved reachable judged excepted overlooked : List Block) :
    Prop where
  /-- the rest of the first ones lies in the others -/
  rest : ∀ block ∈ reserved, ∃ outer ∈ judged ++ overlooked, outer.covers width block = true
  /-- the gap lies in the first ones -/
  within : ∀ block ∈ overlooked, ∃ outer ∈ reserved, outer.covers width block = true
  /-- what is excepted from the others is excepted from the first ones -/
  spared : ∀ block ∈ excepted, ∃ outer ∈ reachable, outer.covers width block = true
  /-- nothing in the gap lies in the others, or is excepted from the first ones -/
  apart : ∀ block ∈ overlooked, ∀ other ∈ judged ++ reachable, block.isApart width other = true

/-- A gap is what lies in the first blocks and not in the others. -/
theorem IsGap.isInside_iff {width : Nat}
    {reserved reachable judged excepted overlooked : List Block}
    (h : IsGap width reserved reachable judged excepted overlooked) {bits : Nat} :
    isInside width overlooked [] bits = true
      ↔ isInside width reserved reachable bits = true
        ∧ isInside width judged excepted bits = false := by
  rw [← Bool.not_eq_true, Address.isInside_iff, Address.isInside_iff, Address.isInside_iff]
  constructor
  · rintro ⟨⟨block, hblock, hbits⟩, -⟩
    have hapart : ∀ other ∈ judged ++ reachable, other.contains width bits = false := by
      intro other hother
      exact Block.contains_eq_false_of_isApart (h.apart block hblock other hother) hbits
    obtain ⟨outer, houter, hcovers⟩ := h.within block hblock
    refine ⟨⟨⟨outer, houter, Block.contains_of_covers hcovers hbits⟩,
      fun other hother => hapart other (List.mem_append_right _ hother)⟩, ?_⟩
    rintro ⟨⟨other, hother, hcontains⟩, -⟩
    rw [hapart other (List.mem_append_left _ hother)] at hcontains
    cases hcontains
  · rintro ⟨⟨⟨block, hblock, hbits⟩, hreachable⟩, hjudged⟩
    obtain ⟨outer, houter, hcovers⟩ := h.rest block hblock
    have hcontains := Block.contains_of_covers hcovers hbits
    rcases List.mem_append.1 houter with houter | houter
    · -- it would be judged, as it is not excepted
      refine absurd ⟨⟨outer, houter, hcontains⟩, fun other hother => ?_⟩ hjudged
      rw [Bool.eq_false_iff]
      intro hother'
      obtain ⟨wider, hwider, hcovers'⟩ := h.spared other hother
      have hwide := Block.contains_of_covers hcovers' hother'
      rw [hreachable wider hwider] at hwide
      cases hwide
    · exact ⟨⟨outer, houter, hcontains⟩, nofun⟩

/-! ## The registries -/

/-- The blocks of 32 bits that cannot be reached from everywhere. -/
def reservedQuads : List Block :=
  [⟨ofQuad 0 0 0 0, 8⟩, ⟨ofQuad 0 0 0 0, 32⟩, ⟨ofQuad 10 0 0 0, 8⟩, ⟨ofQuad 100 64 0 0, 10⟩,
   ⟨ofQuad 127 0 0 0, 8⟩, ⟨ofQuad 169 254 0 0, 16⟩, ⟨ofQuad 172 16 0 0, 12⟩,
   ⟨ofQuad 192 0 0 0, 24⟩, ⟨ofQuad 192 0 0 0, 29⟩, ⟨ofQuad 192 0 0 8, 32⟩,
   ⟨ofQuad 192 0 0 170, 32⟩, ⟨ofQuad 192 0 0 171, 32⟩, ⟨ofQuad 192 0 2 0, 24⟩,
   ⟨ofQuad 192 88 99 2, 32⟩, ⟨ofQuad 192 168 0 0, 16⟩, ⟨ofQuad 198 18 0 0, 15⟩,
   ⟨ofQuad 198 51 100 0, 24⟩, ⟨ofQuad 203 0 113 0, 24⟩, ⟨ofQuad 240 0 0 0, 4⟩,
   ⟨ofQuad 255 255 255 255, 32⟩]

/-- The blocks of 32 bits that were set aside and can be reached from everywhere. -/
def reachableQuads : List Block :=
  [⟨ofQuad 192 0 0 9, 32⟩, ⟨ofQuad 192 0 0 10, 32⟩, ⟨ofQuad 192 31 196 0, 24⟩,
   ⟨ofQuad 192 52 193 0, 24⟩, ⟨ofQuad 192 175 48 0, 24⟩]

/-- The reserved blocks of 32 bits that are taken for public: the space that providers
share among their customers, and a relay. -/
def overlookedQuads : List Block :=
  [⟨ofQuad 100 64 0 0, 10⟩, ⟨ofQuad 192 88 99 2, 32⟩]

/-- The blocks of 128 bits that cannot be reached from everywhere. -/
def reservedLong : List Block :=
  [⟨1, 128⟩, ⟨0, 128⟩, ⟨ofGroups [0x64, 0xFF9B, 1, 0, 0, 0, 0, 0], 48⟩,
   ⟨ofGroups [0x100, 0, 0, 0, 0, 0, 0, 0], 64⟩, ⟨ofGroups [0x100, 0, 0, 1, 0, 0, 0, 0], 64⟩,
   ⟨ofGroups [0x2001, 0, 0, 0, 0, 0, 0, 0], 23⟩, ⟨ofGroups [0x2001, 2, 0, 0, 0, 0, 0, 0], 48⟩,
   ⟨ofGroups [0x2001, 0xDB8, 0, 0, 0, 0, 0, 0], 32⟩, ⟨ofGroups [0x3FFF, 0, 0, 0, 0, 0, 0, 0], 20⟩,
   ⟨ofGroups [0x5F00, 0, 0, 0, 0, 0, 0, 0], 16⟩, ⟨ofGroups [0xFC00, 0, 0, 0, 0, 0, 0, 0], 7⟩,
   ⟨ofGroups [0xFE80, 0, 0, 0, 0, 0, 0, 0], 10⟩]

/-- The blocks of 128 bits that were set aside and can be reached from everywhere. -/
def reachableLong : List Block :=
  [⟨ofGroups [0x2001, 1, 0, 0, 0, 0, 0, 1], 128⟩, ⟨ofGroups [0x2001, 1, 0, 0, 0, 0, 0, 2], 128⟩,
   ⟨ofGroups [0x2001, 1, 0, 0, 0, 0, 0, 3], 128⟩, ⟨ofGroups [0x2001, 3, 0, 0, 0, 0, 0, 0], 32⟩,
   ⟨ofGroups [0x2001, 4, 0x112, 0, 0, 0, 0, 0], 48⟩,
   ⟨ofGroups [0x2001, 0x20, 0, 0, 0, 0, 0, 0], 28⟩, ⟨ofGroups [0x2001, 0x30, 0, 0, 0, 0, 0, 0], 28⟩,
   ⟨ofGroups [0x2620, 0x4F, 0x8000, 0, 0, 0, 0, 0], 48⟩]

/-- The reserved blocks of 128 bits that are taken for public; all of them were set aside
later. -/
def overlookedLong : List Block :=
  [⟨ofGroups [0x100, 0, 0, 1, 0, 0, 0, 0], 64⟩, ⟨ofGroups [0x3FFF, 0, 0, 0, 0, 0, 0, 0], 20⟩,
   ⟨ofGroups [0x5F00, 0, 0, 0, 0, 0, 0, 0], 16⟩]

/-- The addresses of 128 bits into which those of 32 are translated. -/
def translation : Block :=
  ⟨ofGroups [0x64, 0xFF9B, 0, 0, 0, 0, 0, 0], 96⟩

/-- The number of 32 bits that is translated into one of 128 bits. -/
def translated? (bits : Nat) : Option Nat :=
  if translation.contains 128 bits then some (bits % 0x100000000) else none

/-- Whether an address cannot be reached from everywhere, or stands for one that cannot. -/
def isReserved : Address → Bool
  | .v4 bits => isInside 32 reservedQuads reachableQuads bits
  | .v6 bits =>
    match (mapped? bits).or (translated? bits) with
    | some quad => isInside 32 reservedQuads reachableQuads quad
    | none => isInside 128 reservedLong reachableLong bits

/-- Whether an address is reserved and taken for public. -/
def isOverlooked : Address → Bool
  | .v4 bits => isInside 32 overlookedQuads [] bits
  | .v6 bits =>
    match mapped? bits, translated? bits with
    | some quad, _ => isInside 32 overlookedQuads [] quad
    | none, some quad => isInside 32 reservedQuads reachableQuads quad
    | none, none => isInside 128 overlookedLong [] bits

theorem isGap_quads :
    IsGap 32 reservedQuads reachableQuads privateQuads exceptedQuads overlookedQuads where
  rest := by decide
  within := by decide
  spared := by decide
  apart := by decide

theorem isGap_long :
    IsGap 128 reservedLong reachableLong privateLong exceptedLong overlookedLong where
  rest := by decide
  within := by decide
  spared := by decide
  apart := by decide

/-- No translated address is taken for private. -/
theorem isInside_of_translated {bits quad : Nat} (h : translated? bits = some quad) :
    isInside 128 privateLong exceptedLong bits = false := by
  have hin : translation.contains 128 bits = true := by
    unfold translated? at h
    split at h
    · assumption
    · cases h
  have hapart : ∀ block ∈ privateLong, translation.isApart 128 block = true := by decide
  rw [← Bool.not_eq_true, isInside_iff]
  rintro ⟨⟨block, hblock, hbits⟩, -⟩
  rw [Block.contains_eq_false_of_isApart (hapart block hblock) hin] at hbits
  cases hbits

/-- What is overlooked is exactly what is reserved and not taken for private. -/
theorem isOverlooked_iff {address : Address} :
    address.isOverlooked = true ↔ address.isReserved = true ∧ address.isPrivate = false := by
  cases address with
  | v4 bits => exact isGap_quads.isInside_iff
  | v6 bits =>
    rw [isOverlooked, isReserved, isPrivate]
    rcases hm : mapped? bits with _ | quad
    · rcases ht : translated? bits with _ | quad
      · exact isGap_long.isInside_iff
      · exact (and_iff_left (isInside_of_translated ht)).symm
    · exact isGap_quads.isInside_iff

end Address

end FormAutomation.Network
