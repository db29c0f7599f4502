import FormAutomation.Text.Case
import Mathlib.Tactic.ByContra

/-!
# Letter case in ASCII

On a text in ASCII letter case goes character by character: there is one small letter for
each capital one, and no other character has a letter case.  Beyond ASCII a character may
become several, but none of them is a mark, so that marks which set the parts of a text
apart set the same parts apart in lower case.
-/

namespace FormAutomation.Text

/-! ## Small letters -/

/-- A character with a small letter other than itself is one of the 26 capital letters. -/
theorem exists_of_toLower_ne {c : Char} (h : c.toLower ≠ c) :
    ∃ n < 26, c = Char.ofNat (65 + n) := by
  have hrange : 65 ≤ c.toNat ∧ c.toNat ≤ 90 := by
    by_contra hnot
    refine h (dif_neg fun hupper => hnot ?_)
    simpa [UInt32.le_iff_toNat_le] using hupper
  refine ⟨c.toNat - 65, by omega, ?_⟩
  rw [Nat.add_sub_cancel' hrange.1, Char.ofNat_toNat]

/-- What is true of any character by itself, and of each capital letter and its small one, is
true of every character and its small letter. -/
theorem toLower_cases {P : Char → Char → Prop} (c : Char) (hsame : P c c)
    (hcapital : ∀ n < 26, P (Char.ofNat (65 + n)) (Char.ofNat (97 + n))) : P c c.toLower := by
  have hsmall : ∀ n < 26, (Char.ofNat (65 + n)).toLower = Char.ofNat (97 + n) := by decide
  by_cases h : c.toLower = c
  · rwa [h]
  · obtain ⟨n, hn, rfl⟩ := exists_of_toLower_ne h
    rw [hsmall n hn]
    exact hcapital n hn

/-- Marks that set the parts of an address apart. -/
def marks : List Char := [':', '.', '%', '/']

/-- A mark is no letter. -/
theorem toLower_eq_iff {mark : Char} (hm : mark ∈ marks) (c : Char) :
    c.toLower = mark ↔ c = mark := by
  have hletters : ∀ n < 26, Char.ofNat (65 + n) ∉ marks ∧ Char.ofNat (97 + n) ∉ marks := by decide
  refine toLower_cases (P := fun c d => d = mark ↔ c = mark) c Iff.rfl fun n hn => ?_
  obtain ⟨hcapital, hsmall⟩ := hletters n hn
  constructor
  · rintro rfl
    exact absurd hm hsmall
  · rintro rfl
    exact absurd hm hcapital

/-- A text in small letters. -/
abbrev small (cs : List Char) : List Char :=
  cs.map Char.toLower

/-- The text is in ASCII. -/
def IsPlain (cs : List Char) : Prop :=
  ∀ c ∈ cs, c.toNat < 128

theorem isPlain_of_all {cs : List Char} (h : cs.all (·.toNat < 128) = true) : IsPlain cs := by
  simpa [IsPlain] using h

/-! ## Lower case -/

/-- What stands for a character in the lower case of a text, by what is before it and what is
after it. -/
def lowerImage (before : List Char) (c : Char) (after : List Char) : List Char :=
  if c == 'Σ' then
    if nextIsCased before && !nextIsCased after then ['ς'] else ['σ']
  else lowerChar c

theorem lowerAfter_cons (before : List Char) (c : Char) (after : List Char) :
    lowerAfter before (c :: after)
      = lowerImage before c after ++ lowerAfter (c :: before) after :=
  rfl

theorem lowerImage_of_lt {c : Char} (h : c.toNat < 128) (before after : List Char) :
    lowerImage before c after = [c.toLower] := by
  have hsigma : ¬ (c == 'Σ') = true := by
    intro e
    rw [beq_iff_eq.1 e] at h
    exact absurd h (by decide)
  rw [lowerImage, if_neg hsigma, lowerChar, if_pos h]

/-- A number stands for a character, or for the null character. -/
theorem ofNat_cases (n : Nat) : Char.ofNat n = Char.ofNat 0 ∨ (Char.ofNat n).toNat = n := by
  by_cases h : n.isValidChar
  · right
    rw [Char.ofNat, dif_pos h]
    rfl
  · exact .inl (dif_neg h)

/-- Lower case beyond ASCII starts with the letters. -/
theorem le_of_mem_mapCase {c d : Char} (hc : 128 ≤ c.toNat)
    (hd : d ∈ mapCase lowerExpansions lowerRuns c) : d = Char.ofNat 0 ∨ 65 ≤ d.toNat := by
  have hexpansions : ∀ expansion ∈ lowerExpansions, ∀ n ∈ expansion.2,
      65 ≤ (Char.ofNat n).toNat := by decide
  have hruns : ∀ run ∈ lowerRuns, 65 ≤ run.first + run.offset := by decide +kernel
  unfold mapCase at hd
  split at hd
  · next image himage =>
    obtain ⟨front, back, hmem, -⟩ := List.lookup_eq_some_iff.1 himage
    obtain ⟨n, hn, rfl⟩ := List.mem_map.1 hd
    exact .inr (hexpansions (c.toNat, image) (by simp [hmem]) n hn)
  · obtain rfl := List.mem_singleton.1 hd
    cases hfind : lowerRuns.findSome? (·.image? c.toNat) with
    | none => exact .inr (Nat.le_trans (by decide) hc)
    | some image =>
      obtain ⟨run, hrun, himage⟩ := List.exists_of_findSome?_eq_some hfind
      have hbase := hruns run hrun
      unfold CaseRun.image? at himage
      split at himage
      · next hcovers =>
        obtain rfl := Option.some.inj himage
        simp only [Bool.and_eq_true, decide_eq_true_eq] at hcovers
        rw [Option.getD_some]
        rcases ofNat_cases (c.toNat + run.offset).toNat with hnull | hsame
        · exact .inl hnull
        · right
          rw [hsame]
          omega
      · cases himage

/-- A mark that comes up in the lower case of a text stood in the text. -/
theorem mem_of_mem_lowerAfter {mark : Char} (hm : mark ∈ marks) (cs : List Char) :
    ∀ before, mark ∈ lowerAfter before cs → mark ∈ cs := by
  have hbelow : mark ≠ Char.ofNat 0 ∧ mark.toNat < 65 ∧ mark ≠ 'ς' ∧ mark ≠ 'σ' := by
    simp only [marks, List.mem_cons, List.not_mem_nil, or_false] at hm
    rcases hm with rfl | rfl | rfl | rfl <;> decide
  induction cs with
  | nil => exact fun _ h => absurd h List.not_mem_nil
  | cons c cs ih =>
    intro before h
    rw [lowerAfter_cons] at h
    rcases List.mem_append.1 h with h | h
    · have hc : mark = c := by
        unfold lowerImage lowerChar at h
        split at h
        · split at h
          · exact absurd (List.mem_singleton.1 h) hbelow.2.2.1
          · exact absurd (List.mem_singleton.1 h) hbelow.2.2.2
        · split at h
          · exact ((toLower_eq_iff hm c).1 (List.mem_singleton.1 h).symm).symm
          · next hc =>
            rcases le_of_mem_mapCase (Nat.le_of_not_lt hc) h with hnull | hle
            · exact absurd hnull hbelow.1
            · exact absurd hbelow.2.1 (Nat.not_lt.2 hle)
      exact hc ▸ List.mem_cons_self
    · exact List.mem_cons_of_mem _ (ih _ h)

theorem lowerAfter_ne_nil {cs : List Char} (h : cs ≠ []) (before : List Char) :
    lowerAfter before cs ≠ [] := by
  have hexpansions : ∀ expansion ∈ lowerExpansions, expansion.2 ≠ [] := by decide
  rcases cs with _ | ⟨c, cs⟩
  · exact absurd rfl h
  rw [lowerAfter_cons]
  refine List.append_ne_nil_of_left_ne_nil ?_ _
  unfold lowerImage lowerChar mapCase
  split
  · split <;> simp
  · split
    · simp
    · split
      · next image himage =>
        obtain ⟨front, back, hmem, -⟩ := List.lookup_eq_some_iff.1 himage
        simpa using hexpansions (c.toNat, image) (by simp [hmem])
      · simp

/-- The lower case of a text that starts in ASCII. -/
theorem lowerAfter_append {cs : List Char} (h : IsPlain cs) :
    ∀ before rest, lowerAfter before (cs ++ rest)
      = small cs ++ lowerAfter (cs.reverse ++ before) rest := by
  induction cs with
  | nil => exact fun _ _ => rfl
  | cons c cs ih =>
    intro before rest
    rw [List.cons_append, lowerAfter_cons, lowerImage_of_lt (h c List.mem_cons_self),
      ih fun d hd => h d (List.mem_cons_of_mem c hd)]
    simp

theorem lowerAfter_of_isPlain {cs : List Char} (h : IsPlain cs) :
    lowerAfter [] cs = small cs := by
  simpa [lowerAfter] using lowerAfter_append h [] []

/-! ## Upper case -/

/-- Two texts in ASCII are the same but for letter case. -/
structure SameLetters (s t : String) : Prop where
  /-- the one is in ASCII -/
  plain_left : IsPlain s.toList
  /-- and so is the other -/
  plain_right : IsPlain t.toList
  /-- in capitals they are the same -/
  capitals : s.toList.map Char.toUpper = t.toList.map Char.toUpper

theorem flatMap_upperChar_of_isPlain {cs : List Char} (h : IsPlain cs) :
    cs.flatMap upperChar = cs.map Char.toUpper := by
  induction cs with
  | nil => rfl
  | cons c cs ih =>
    rw [List.flatMap_cons, upperChar, if_pos (h c List.mem_cons_self),
      ih fun d hd => h d (List.mem_cons_of_mem c hd)]
    rfl

theorem SameLetters.upper_eq {s t : String} (h : SameLetters s t) : upper s = upper t := by
  rw [upper, upper, flatMap_upperChar_of_isPlain h.plain_left,
    flatMap_upperChar_of_isPlain h.plain_right, h.capitals]

end FormAutomation.Text
