import FormAutomation.Proofs.Text.Case

/-!
# Capitals stay capitals

Putting a text in capitals twice does no more than doing it once.  A character becomes one
or several, and each of these is left as it is.

Beyond ASCII it is the tables that say so: no code point that a run leads to is covered by
a run, and none has an expansion.  This is read off the runs as a whole, by where they
start and end, and not character by character.
-/

namespace FormAutomation.Text

namespace CaseRun

/-- The first code point that a run leads to. -/
def imageFirst (run : CaseRun) : Nat :=
  (run.first + run.offset).toNat

/-- The last code point that a run leads to. -/
def imageLast (run : CaseRun) : Nat :=
  (run.last + run.offset).toNat

/-- Whether a run leads to no code point that another one covers: it leads to where the
other has not started or has ended, or both take every other code point, and not the same
ones. -/
def misses (run other : CaseRun) : Bool :=
  Nat.blt run.imageLast other.first || Nat.blt other.last run.imageFirst
    || (Nat.beq run.stride 2 || Nat.beq run.first run.last)
      && Nat.beq other.stride 2 && Nat.beq ((run.imageFirst + other.first) % 2) 1

theorem image?_eq_some_iff {run : CaseRun} {n : Nat} {c : Char} :
    run.image? n = some c ↔ run.first ≤ n ∧ n ≤ run.last ∧ (n - run.first) % run.stride = 0
      ∧ Char.ofNat (n + run.offset).toNat = c := by
  simp [image?, and_assoc]

/-- What a run that misses another one leads to is not covered by that one. -/
theorem image?_of_misses {run other : CaseRun} {n m : Nat} {c : Char}
    (h : run.misses other = true) (hbase : 0 ≤ run.first + run.offset)
    (hn : run.image? n = some c) (hm : (n + run.offset).toNat = m) : other.image? m = none := by
  obtain ⟨hfirst, hlast, hstride, -⟩ := image?_eq_some_iff.1 hn
  simp only [misses, imageFirst, imageLast, Bool.or_eq_true, Bool.and_eq_true, Nat.blt_eq,
    Nat.beq_eq] at h
  refine Option.eq_none_iff_forall_ne_some.2 fun d hd => ?_
  obtain ⟨hfirst', hlast', hstride', -⟩ := image?_eq_some_iff.1 hd
  rcases h with (hbefore | hafter) | ⟨⟨halternate, htwo⟩, hodd⟩
  · omega
  · omega
  · rw [htwo] at hstride'
    rcases halternate with htwo' | hsingle
    · rw [htwo'] at hstride
      omega
    · omega

end CaseRun

/-- The runs that a capital is not covered by; the small letters of ASCII and the
characters that have an expansion count as runs too. -/
def smallRuns : List CaseRun :=
  ⟨97, 122, 1, -32⟩ :: upperRuns ++ upperExpansions.map fun expansion =>
    ⟨expansion.1, expansion.1, 2, 0⟩

theorem upperChar_of_uncovered {c : Char} (h : ∀ run ∈ smallRuns, run.image? c.toNat = none) :
    upperChar c = [c] := by
  have hcovers : ∀ run ∈ smallRuns, ¬ (run.first ≤ c.toNat ∧ c.toNat ≤ run.last
      ∧ (c.toNat - run.first) % run.stride = 0) := by
    rintro run hrun ⟨hfirst, hlast, hstride⟩
    have hsome := CaseRun.image?_eq_some_iff.2 ⟨hfirst, hlast, hstride, rfl⟩
    simp [h run hrun] at hsome
  by_cases hascii : c.toNat < 128
  · -- in ASCII only the small letters have another capital
    have hsmall := hcovers ⟨97, 122, 1, -32⟩ (by simp [smallRuns])
    have hupper : c.toUpper = c := by
      refine dif_neg fun hrange => hsmall ?_
      simpa [UInt32.le_iff_toNat_le, Nat.mod_one] using hrange
    rw [upperChar, if_pos hascii, hupper]
  · have hexpansion : upperExpansions.lookup c.toNat = none := by
      refine Option.eq_none_iff_forall_ne_some.2 fun image himage => ?_
      obtain ⟨front, back, hsplit, -⟩ := List.lookup_eq_some_iff.1 himage
      refine hcovers ⟨c.toNat, c.toNat, 2, 0⟩ ?_ (by simp)
      exact List.mem_append_right _ (List.mem_map.2 ⟨(c.toNat, image), by simp [hsplit], rfl⟩)
    have hruns : upperRuns.findSome? (·.image? c.toNat) = none :=
      List.findSome?_eq_none_iff.2 fun run hrun => h run (by simp [smallRuns, hrun])
    simp [upperChar, hascii, mapCase, hexpansion, hruns]

/-- What a run leads to is a capital. -/
theorem upperChar_of_image? {run : CaseRun} (hrun : run ∈ upperRuns) {n : Nat} {c : Char}
    (h : run.image? n = some c) : upperChar c = [c] := by
  have hmisses : (upperRuns.all fun run => smallRuns.all run.misses) = true := by decide +kernel
  have hbases : ∀ run ∈ upperRuns, 0 ≤ run.first + run.offset := by decide +kernel
  obtain ⟨-, -, -, himage⟩ := CaseRun.image?_eq_some_iff.1 h
  rcases ofNat_cases (n + run.offset).toNat with hnull | hsame
  · rw [← himage, hnull]
    rfl
  · rw [himage] at hsame
    refine upperChar_of_uncovered fun other hother => ?_
    have hmiss := List.all_eq_true.1 (List.all_eq_true.1 hmisses run hrun) other hother
    exact CaseRun.image?_of_misses hmiss (hbases run hrun) h hsame.symm

/-- Whatever a character becomes in capitals stays as it is. -/
theorem upperChar_of_mem {c d : Char} (h : d ∈ upperChar c) : upperChar d = [d] := by
  have hascii : ∀ n < 128, upperChar (Char.ofNat n).toUpper = [(Char.ofNat n).toUpper] := by decide
  have hexpansions : ∀ expansion ∈ upperExpansions, ∀ n ∈ expansion.2,
      upperChar (Char.ofNat n) = [Char.ofNat n] := by decide +kernel
  by_cases hc : c.toNat < 128
  · rw [upperChar, if_pos hc, List.mem_singleton] at h
    have hupper := hascii c.toNat hc
    rwa [Char.ofNat_toNat, ← h] at hupper
  · rw [upperChar, if_neg hc, mapCase] at h
    split at h
    · next image himage =>
      obtain ⟨front, back, hsplit, -⟩ := List.lookup_eq_some_iff.1 himage
      obtain ⟨n, hn, rfl⟩ := List.mem_map.1 h
      exact hexpansions (c.toNat, image) (by simp [hsplit]) n hn
    · next hexpansion =>
      obtain rfl := List.mem_singleton.1 h
      rcases hruns : upperRuns.findSome? (·.image? c.toNat) with _ | image
      · -- no run covers it, so it is its own capital
        simp [upperChar, hc, mapCase, hexpansion, hruns]
      · obtain ⟨run, hrun, himage⟩ := List.exists_of_findSome?_eq_some hruns
        rw [hruns, Option.getD_some]
        exact upperChar_of_image? hrun himage

/-- A text in capitals is left as it is. -/
theorem upper_upper (s : String) : upper (upper s) = upper s := by
  have hall : ∀ cs : List Char, (∀ c ∈ cs, upperChar c = [c]) → cs.flatMap upperChar = cs := by
    intro cs
    induction cs with
    | nil => exact fun _ => rfl
    | cons c cs ih =>
      intro h
      rw [List.flatMap_cons, h c List.mem_cons_self,
        ih fun d hd => h d (List.mem_cons_of_mem c hd)]
      rfl
  rw [upper, upper, String.toList_ofList, hall]
  intro c hc
  obtain ⟨d, -, hd⟩ := List.mem_flatMap.1 hc
  exact upperChar_of_mem hd

end FormAutomation.Text
