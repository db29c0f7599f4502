import FormAutomation.Check.Issue
import Mathlib.Data.List.Nodup
import Mathlib.Data.List.TakeWhile
import Mathlib.Data.Prod.Lex
import Mathlib.Data.String.Basic

/-!
# What a report lists

A report has a line for each issue.  The lines come in the order of a key, which has the
severity first, then the code, then the node and the edge; issues of one key come in the
order in which they were found.  There is one such list only.

So a report tells errors before everything else, and where no two issues have the same key it
does not matter in which order they were found.
-/

namespace FormAutomation.Issue

/-- What a report goes by: how severe an issue is, its code, its node and its edge; a node or
an edge that is not there is an empty text. -/
def reportKey (issue : Issue) : ℕ ×ₗ String ×ₗ String ×ₗ String :=
  toLex (issue.rank, toLex (issue.code, toLex (issue.node.getD "", issue.edge.getD "")))

/-- The list has the issues in the order of a report. -/
structure IsListing (issues listed : List Issue) : Prop where
  /-- nothing is lost, and nothing is told twice -/
  perm : listed.Perm issues
  /-- keys do not go down -/
  sorted : listed.Pairwise fun a b => a.reportKey ≤ b.reportKey
  /-- issues of one key stay as they were found -/
  stable : ∀ key, listed.filter (·.reportKey = key) = issues.filter (·.reportKey = key)

/-- Issues, one on each line. -/
def lines (issues : List Issue) : String :=
  "\n".intercalate (issues.map fun issue => s!"- {issue.line}")

/-- The text reports the issues. -/
structure IsReport (issues : List Issue) (text : String) : Prop where
  /-- it lists them -/
  listing : ∃ listed, IsListing issues listed ∧ text = lines listed
  /-- and there is no other way to list them -/
  only : ∀ listed, IsListing issues listed → text = lines listed
  /-- every error comes before everything else -/
  errorsFirst : ∃ errors others, IsListing issues (errors ++ others)
    ∧ (∀ issue ∈ errors, issue.isError = true) ∧ ∀ issue ∈ others, issue.isError = false
  /-- distinct keys are listed alike, however they were found -/
  ofPerm : (issues.map reportKey).Nodup → ∀ found, found.Perm issues → report found = text

/-! ## The order of a report -/

variable {a b : Issue} {issues listed : List Issue}

theorem reportKey_le_iff :
    a.reportKey ≤ b.reportKey
      ↔ a.rank < b.rank ∨ a.rank = b.rank ∧ (a.code < b.code ∨ a.code = b.code
        ∧ (a.node.getD "" < b.node.getD "" ∨ a.node.getD "" = b.node.getD ""
          ∧ a.edge.getD "" ≤ b.edge.getD "")) := by
  simp only [reportKey, Prod.Lex.toLex_le_toLex]

theorem isLE_reportOrder_iff : (reportOrder a b).isLE = true ↔ a.reportKey ≤ b.reportKey := by
  have hlast : ∀ s t : String, (compare s t).isLE = true ↔ s ≤ t := by
    intro s t
    rw [Ordering.isLE_iff_ne_gt]
    exact compare_le_iff_le
  have htext : ∀ (s t : String) (o : Ordering),
      ((compare s t).then o).isLE = true ↔ s < t ∨ s = t ∧ o.isLE = true := by
    intro s t o
    rw [Ordering.isLE_then_iff_or]
    exact or_congr compare_lt_iff_lt (and_congr_left' compare_eq_iff_eq)
  have hrank : ∀ (m n : ℕ) (o : Ordering),
      ((compare m n).then o).isLE = true ↔ m < n ∨ m = n ∧ o.isLE = true := by
    intro m n o
    rw [Ordering.isLE_then_iff_or]
    exact or_congr compare_lt_iff_lt (and_congr_left' compare_eq_iff_eq)
  rw [reportKey_le_iff, reportOrder, hrank, htext, htext, hlast]

theorem reportOrder_trans (a b c : Issue) (hab : (reportOrder a b).isLE = true)
    (hbc : (reportOrder b c).isLE = true) : (reportOrder a c).isLE = true :=
  isLE_reportOrder_iff.2 ((isLE_reportOrder_iff.1 hab).trans (isLE_reportOrder_iff.1 hbc))

theorem reportOrder_total (a b : Issue) :
    ((reportOrder a b).isLE || (reportOrder b a).isLE) = true := by
  rw [Bool.or_eq_true, isLE_reportOrder_iff, isLE_reportOrder_iff]
  exact le_total a.reportKey b.reportKey

/-! ## Listings -/

theorem filter_inReportOrder (issues : List Issue) (key : ℕ ×ₗ String ×ₗ String ×ₗ String) :
    (inReportOrder issues).filter (·.reportKey = key) = issues.filter (·.reportKey = key) := by
  -- issues of one key are in order as they were found, so sorting leaves them so
  have hsame : (issues.filter (·.reportKey = key)).Pairwise
      fun a b => (reportOrder a b).isLE = true := by
    refine List.pairwise_of_forall_mem_list fun a ha b hb => isLE_reportOrder_iff.2 (le_of_eq ?_)
    rw [of_decide_eq_true (List.mem_filter.1 ha).2, of_decide_eq_true (List.mem_filter.1 hb).2]
  have hsub : (issues.filter (·.reportKey = key)).Sublist (inReportOrder issues) :=
    List.sublist_mergeSort reportOrder_trans reportOrder_total hsame List.filter_sublist
  have hkept := hsub.filter (·.reportKey = key)
  rw [List.filter_filter] at hkept
  simp only [Bool.and_self] at hkept
  refine (hkept.eq_of_length ?_).symm
  exact ((List.mergeSort_perm issues _).filter _).length_eq.symm

/-- The issues in the order of a report are listed. -/
theorem isListing_inReportOrder (issues : List Issue) : IsListing issues (inReportOrder issues) where
  perm := List.mergeSort_perm issues _
  sorted := (List.pairwise_mergeSort reportOrder_trans reportOrder_total issues).imp
    isLE_reportOrder_iff.1
  stable := filter_inReportOrder issues

/-- Two lists in the order of the keys that have the same issues of each key are the same. -/
theorem eq_of_filter_eq {first second : List Issue}
    (hf : first.Pairwise fun a b => a.reportKey ≤ b.reportKey)
    (hs : second.Pairwise fun a b => a.reportKey ≤ b.reportKey)
    (h : ∀ key, first.filter (·.reportKey = key) = second.filter (·.reportKey = key)) :
    first = second := by
  -- an issue of one list is in the other, too
  have hmem : ∀ {one other : List Issue},
      (∀ key, one.filter (·.reportKey = key) = other.filter (·.reportKey = key)) →
        ∀ issue ∈ one, issue ∈ other := by
    intro one other h issue hissue
    have hkey : issue ∈ one.filter (·.reportKey = issue.reportKey) :=
      List.mem_filter.2 ⟨hissue, decide_eq_true rfl⟩
    rw [h] at hkey
    exact (List.mem_filter.1 hkey).1
  induction first generalizing second with
  | nil =>
    cases second with
    | nil => rfl
    | cons b second =>
      exact absurd (hmem (fun key => (h key).symm) b List.mem_cons_self) List.not_mem_nil
  | cons a first ih =>
    cases second with
    | nil => exact absurd (hmem h a List.mem_cons_self) List.not_mem_nil
    | cons b second =>
      obtain ⟨hfirst, hfrest⟩ := List.pairwise_cons.1 hf
      obtain ⟨hsecond, hsrest⟩ := List.pairwise_cons.1 hs
      -- neither head is beyond the other
      have hab : a.reportKey ≤ b.reportKey := by
        rcases List.mem_cons.1 (hmem (fun key => (h key).symm) b List.mem_cons_self) with rfl | hb
        · exact le_refl _
        · exact hfirst b hb
      have hba : b.reportKey ≤ a.reportKey := by
        rcases List.mem_cons.1 (hmem h a List.mem_cons_self) with rfl | ha
        · exact le_refl _
        · exact hsecond a ha
      have hkey : a.reportKey = b.reportKey := le_antisymm hab hba
      have hhead := h b.reportKey
      rw [List.filter_cons_of_pos (by simpa using hkey), List.filter_cons_of_pos (by simp)] at hhead
      obtain ⟨rfl, htail⟩ := List.cons.inj hhead
      refine congrArg (a :: ·) (ih hfrest hsrest fun key => ?_)
      have hall := h key
      by_cases ha : a.reportKey = key
      · subst ha
        exact htail
      · rwa [List.filter_cons_of_neg (by simpa using ha),
          List.filter_cons_of_neg (by simpa using ha)] at hall

theorem IsListing.unique {other : List Issue} (h : IsListing issues listed)
    (h' : IsListing issues other) : listed = other :=
  eq_of_filter_eq h.sorted h'.sorted fun key => (h.stable key).trans (h'.stable key).symm

/-- Where no two issues have the same key, they are listed alike in whatever order they were
found. -/
theorem inReportOrder_eq_of_perm {found : List Issue} (hp : found.Perm issues)
    (hd : (issues.map reportKey).Nodup) : inReportOrder found = inReportOrder issues := by
  have hfound := isListing_inReportOrder found
  have hissues := isListing_inReportOrder issues
  refine List.Perm.eq_of_pairwise (fun a b ha hb hab hba => ?_) hfound.sorted hissues.sorted
    ((hfound.perm.trans hp).trans hissues.perm.symm)
  have ha' : a ∈ issues := hp.subset (hfound.perm.subset ha)
  exact List.inj_on_of_nodup_map hd ha' (hissues.perm.subset hb) (le_antisymm hab hba)

/-! ## Errors -/

theorem rank_le_of_reportKey_le (h : a.reportKey ≤ b.reportKey) : a.rank ≤ b.rank := by
  rcases reportKey_le_iff.1 h with h | ⟨h, -⟩
  · exact le_of_lt h
  · exact le_of_eq h

/-- Errors are what ranks first. -/
theorem isError_iff_rank : a.isError = true ↔ a.rank = 0 := by
  unfold rank
  split
  · simp_all
  · split <;> simp_all

/-- A listing has errors in front, and none behind. -/
theorem IsListing.errors_append (h : IsListing issues listed) :
    ∃ errors others, listed = errors ++ others ∧ (∀ issue ∈ errors, issue.isError = true)
      ∧ ∀ issue ∈ others, issue.isError = false := by
  refine ⟨listed.takeWhile isError, listed.dropWhile isError,
    List.takeWhile_append_dropWhile.symm, fun issue => List.mem_takeWhile_imp, ?_⟩
  have hrest := h.sorted.sublist (List.dropWhile_sublist isError)
  rcases hcons : listed.dropWhile isError with _ | ⟨first, rest⟩
  · exact nofun
  rw [hcons] at hrest
  have hfirst : first.isError = false := by
    have hnot := List.head_dropWhile_not isError (l := listed) (by simp [hcons])
    simpa [hcons] using hnot
  intro issue hissue
  rcases List.mem_cons.1 hissue with rfl | hissue
  · exact hfirst
  · -- it ranks no higher than the first issue that is no error
    have hrank := rank_le_of_reportKey_le ((List.pairwise_cons.1 hrest).1 issue hissue)
    rw [Bool.eq_false_iff] at hfirst ⊢
    intro herror
    rw [isError_iff_rank.1 herror, Nat.le_zero] at hrank
    exact hfirst (isError_iff_rank.2 hrank)

/-- What is reported of issues lists them, and in no other order than that of a report. -/
theorem isReport_report (issues : List Issue) : IsReport issues (report issues) where
  listing := ⟨_, isListing_inReportOrder issues, rfl⟩
  only listed h := congrArg lines ((isListing_inReportOrder issues).unique h)
  errorsFirst := by
    have hlisting := isListing_inReportOrder issues
    obtain ⟨errors, others, hsplit, herrors, hothers⟩ := hlisting.errors_append
    exact ⟨errors, others, hsplit ▸ hlisting, herrors, hothers⟩
  ofPerm hd found hp := congrArg lines (inReportOrder_eq_of_perm hp hd)

/-- A warning that was found before an error, and the other way round. -/
theorem isReport_report_warningAndError :
    let warning : Issue := ⟨"W1", "warning", "Odd.", some "a", none, none⟩
    let error : Issue := ⟨"E1", "error", "Wrong.", none, some "b", none⟩
    IsListing [warning, error] [error, warning]
      ∧ report [warning, error] = lines [error, warning]
      ∧ ([warning, error].map reportKey).Nodup ∧ [error, warning].Perm [warning, error]
      ∧ report [error, warning] = report [warning, error] := by
  intro warning error
  have hreport := isReport_report [warning, error]
  have hdistinct : ([warning, error].map reportKey).Nodup := by decide
  have hne : error.reportKey ≠ warning.reportKey := by decide
  have hperm : [error, warning].Perm [warning, error] := .swap ..
  have hlisted : IsListing [warning, error] [error, warning] := by
    refine ⟨hperm, List.pairwise_pair.2 (reportKey_le_iff.2 (.inl (by decide))), fun key => ?_⟩
    by_cases hkey : warning.reportKey = key
    · simp [hkey, hkey ▸ hne]
    · simp [List.filter_cons, hkey]
  exact ⟨hlisted, hreport.only _ hlisted, hdistinct, hperm, hreport.ofPerm hdistinct _ hperm⟩

end FormAutomation.Issue
