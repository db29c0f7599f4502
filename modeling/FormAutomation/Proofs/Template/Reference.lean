import FormAutomation.Template
import Mathlib.Data.List.Basic

/-!
# What a template refers to

What becomes of a template depends on the context through its references alone: two
contexts in which these have the same values fill it alike.  The references are listed
each once, in the order in which they come up first.
-/

namespace FormAutomation

/-! ## Lists without repeats -/

/-- The names are those that are mentioned, each once, in the order in which they come up
first. -/
structure ListsOnce (mentioned names : List String) : Prop where
  /-- what is mentioned is listed, and nothing else -/
  mem_iff : ∀ name, name ∈ names ↔ name ∈ mentioned
  /-- nothing is listed twice -/
  nodup : names.Nodup
  /-- what comes up first is listed first -/
  ordered : names.Pairwise fun name other => mentioned.idxOf name < mentioned.idxOf other

/-- What is left of a list keeps its order. -/
theorem idxOf_lt_of_filter {p : String → Bool} {names : List String} {name other : String}
    (hname : p name = true) (hother : p other = true)
    (h : (names.filter p).idxOf name < (names.filter p).idxOf other) :
    names.idxOf name < names.idxOf other := by
  induction names with
  | nil => exact absurd h (Nat.lt_irrefl _)
  | cons first rest ih =>
    cases hfirst : p first with
    | true =>
      rw [List.filter_cons_of_pos hfirst] at h
      by_cases hn : first = name
      · subst hn
        have hne : first ≠ other := by
          rintro rfl
          exact Nat.lt_irrefl _ h
        rw [List.idxOf_cons_self, List.idxOf_cons_ne _ hne]
        exact Nat.succ_pos _
      · by_cases ho : first = other
        · subst ho
          rw [List.idxOf_cons_self] at h
          exact absurd h (Nat.not_lt_zero _)
        · rw [List.idxOf_cons_ne _ hn, List.idxOf_cons_ne _ ho] at h ⊢
          exact Nat.succ_lt_succ (ih (Nat.lt_of_succ_lt_succ h))
    | false =>
      -- what is left out is neither of the two
      have hn : first ≠ name := by
        rintro rfl
        rw [hname] at hfirst
        cases hfirst
      have ho : first ≠ other := by
        rintro rfl
        rw [hother] at hfirst
        cases hfirst
      rw [List.filter_cons_of_neg (by simp [hfirst])] at h
      rw [List.idxOf_cons_ne _ hn, List.idxOf_cons_ne _ ho]
      exact Nat.succ_lt_succ (ih h)

theorem listsOnce_eraseDups (mentioned : List String) :
    ListsOnce mentioned mentioned.eraseDups := by
  match mentioned with
  | [] => exact ⟨by simp, by simp, by simp⟩
  | first :: rest =>
    have ih := listsOnce_eraseDups (rest.filter fun name => !name == first)
    have hother : ∀ name ∈ (rest.filter fun name => !name == first).eraseDups, name ≠ first := by
      intro name hmem
      simpa using (List.mem_filter.1 (List.mem_eraseDups.1 hmem)).2
    refine ⟨fun name => List.mem_eraseDups, ?_, ?_⟩
    · rw [List.eraseDups_cons, List.nodup_cons]
      exact ⟨fun hmem => hother _ hmem rfl, ih.nodup⟩
    · rw [List.eraseDups_cons, List.pairwise_cons]
      constructor
      · intro name hmem
        rw [List.idxOf_cons_self, List.idxOf_cons_ne _ (hother name hmem).symm]
        exact Nat.succ_pos _
      · refine ih.ordered.imp_of_mem fun {name other} hname hmem hlt => ?_
        have hn := hother name hname
        have ho := hother other hmem
        rw [List.idxOf_cons_ne _ hn.symm, List.idxOf_cons_ne _ ho.symm]
        exact Nat.succ_lt_succ (idxOf_lt_of_filter (by simpa using hn) (by simpa using ho) hlt)
termination_by mentioned.length
decreasing_by exact Nat.lt_succ_of_le (List.length_filter_le _ _)

/-! ## References -/

/-- The contexts give these references the same values. -/
def Context.AgreeOn (names : List String) (context other : Context) : Prop :=
  ∀ name ∈ names, context.resolve name = other.resolve name

namespace Template

theorem mem_references_iff {template reference : String} :
    reference ∈ references template ↔ Piece.token reference ∈ pieces template := by
  rw [references, List.mem_eraseDups, List.mem_filterMap]
  constructor
  · rintro ⟨_ | name, hmem, hname⟩
    · cases hname
    · obtain rfl := Option.some.inj hname
      exact hmem
  · intro hmem
    exact ⟨_, hmem, rfl⟩

/-- A template is filled alike in two contexts that agree on its references. -/
theorem fill_of_agreeOn {template : String} {context other : Context}
    (h : Context.AgreeOn (references template) context other) :
    fill template context = fill template other := by
  refine fill_congr fun reference hmem => ?_
  rw [h reference (mem_references_iff.2 hmem)]

end Template

end FormAutomation
