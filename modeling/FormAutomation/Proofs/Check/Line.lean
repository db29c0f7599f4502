import FormAutomation.Check.Issue
import Mathlib.Data.List.DropRight

/-!
# What a line of a report shows

A line shows how severe an issue is, its code, what is wrong, where, and what can be done, in
this order.  What is wrong is shown without the points at its end, and one point is put behind
the place.  The line ends there, or with a hint, of which white space is cut off at the end.
-/

namespace FormAutomation

namespace Text

variable {p : Char → Bool} {cs rest : List Char}

/-- What is cut off at the end is of the class, and what is left does not end so. -/
theorem exists_append_of_dropRightWhile (p : Char → Bool) (cs : List Char) :
    ∃ cut, cs = dropRightWhile p cs ++ cut ∧ (∀ c ∈ cut, p c = true)
      ∧ ∀ h, p ((dropRightWhile p cs).getLast h) = false := by
  refine ⟨cs.rtakeWhile p, List.rdropWhile_append_rtakeWhile.symm, ?_, ?_⟩
  · exact fun c hc => List.mem_rtakeWhile_imp hc
  · exact fun h => Bool.eq_false_iff.2 (List.rdropWhile_last_not p cs h)

/-- Nothing is cut off beyond a character that is not of the class. -/
theorem dropRightWhile_append {c : Char} (hc : c ∈ rest) (hp : p c = false) :
    dropRightWhile p (cs ++ rest) = cs ++ dropRightWhile p rest := by
  have hne : (rest.reverse.dropWhile p).isEmpty = false := by
    rw [Bool.eq_false_iff, Ne, List.isEmpty_iff, List.dropWhile_eq_nil_iff]
    intro hall
    rw [hall c (List.mem_reverse.2 hc)] at hp
    cases hp
  simp only [dropRightWhile, List.reverse_append, List.dropWhile_append, hne, Bool.false_eq_true,
    if_false, List.reverse_append, List.reverse_reverse]

/-- A list that ends with a character that is not of the class is left as it is. -/
theorem dropRightWhile_concat {c : Char} (hp : p c = false) :
    dropRightWhile p (cs ++ [c]) = cs ++ [c] :=
  List.rdropWhile_concat_neg p cs c (by simp [hp])

end Text

namespace Issue

variable {issue : Issue}

/-- A text is what is shown of it with points behind it, and what is shown does not end with
one. -/
theorem exists_points (s : String) :
    ∃ points, s.toList = (withoutPoints s).toList ++ points ∧ (∀ c ∈ points, c = '.')
      ∧ ∀ h, (withoutPoints s).toList.getLast h ≠ '.' := by
  obtain ⟨points, happend, hpoints, hlast⟩ :=
    Text.exists_append_of_dropRightWhile (· == '.') s.toList
  rw [withoutPoints, String.toList_ofList]
  refine ⟨points, happend, fun c hc => beq_iff_eq.1 (hpoints c hc), ?_⟩
  intro h heq
  have := hlast h
  simp [heq] at this

theorem append_ne_empty {name s : String} (h : name ≠ "") : name ++ s ≠ "" := by
  simp [h]

/-- The place is the node and the edge, or the one of them that there is. -/
theorem place_eq (issue : Issue) :
    issue.place = match said issue.node, said issue.edge with
      | none, none => ""
      | some node, none => s!" (node={node})"
      | none, some edge => s!" (edge={edge})"
      | some node, some edge => s!" (node={node}, edge={edge})" := by
  unfold place
  rcases said issue.node with _ | node <;> rcases said issue.edge with _ | edge
  · rfl
  · have hname : " (" ++ "edge=" = " (edge=" := by decide
    change (if "edge=" ++ edge = "" then "" else " (" ++ ("edge=" ++ edge) ++ ")")
      = " (edge=" ++ edge ++ ")"
    rw [if_neg (append_ne_empty (by decide)), ← hname]
    simp only [String.append_assoc]
  · have hname : " (" ++ "node=" = " (node=" := by decide
    change (if "node=" ++ node = "" then "" else " (" ++ ("node=" ++ node) ++ ")")
      = " (node=" ++ node ++ ")"
    rw [if_neg (append_ne_empty (by decide)), ← hname]
    simp only [String.append_assoc]
  · have hnames : " (" ++ "node=" = " (node=" ∧ ", " ++ "edge=" = ", edge=" := by decide
    have hparts : ", ".intercalate ["node=" ++ node, "edge=" ++ edge]
        = "node=" ++ node ++ ", " ++ ("edge=" ++ edge) := rfl
    change (if ", ".intercalate ["node=" ++ node, "edge=" ++ edge] = "" then ""
        else " (" ++ ", ".intercalate ["node=" ++ node, "edge=" ++ edge] ++ ")")
      = " (node=" ++ node ++ ", edge=" ++ edge ++ ")"
    rw [hparts, String.append_assoc, String.append_assoc,
      if_neg (append_ne_empty (by decide)), ← hnames.1, ← hnames.2]
    simp only [String.append_assoc]

/-- What a line shows before the hint. -/
def shown (issue : Issue) : String :=
  s!"[{Text.upper issue.severity}] {issue.code}: {withoutPoints issue.message}{issue.place}."

/-- What a line shows of a hint. -/
def hintShown (hint : String) : String :=
  String.ofList (Text.dropRightWhile Text.isBlank s!" Hint: {hint}".toList)

/-- Without a hint the line ends with a point. -/
theorem line_of_noHint (h : said issue.hint = none) : issue.line = issue.shown := by
  obtain ⟨cs, hcs⟩ : ∃ cs, issue.shown.toList = cs ++ ['.'] := ⟨_, String.toList_append⟩
  simp only [line, h]
  change String.ofList (Text.dropRightWhile Text.isBlank (issue.shown ++ "").toList) = issue.shown
  rw [String.append_empty, hcs, Text.dropRightWhile_concat (by decide), ← hcs, String.ofList_toList]

/-- A hint is put behind it, and white space at the end is cut off. -/
theorem line_of_hint {hint : String} (h : said issue.hint = some hint) :
    issue.line = issue.shown ++ hintShown hint := by
  have hmem : ':' ∈ s!" Hint: {hint}".toList := by
    change ':' ∈ (" Hint: " ++ hint).toList
    rw [String.toList_append]
    exact List.mem_append_left _ (by decide)
  simp only [line, h]
  change String.ofList (Text.dropRightWhile Text.isBlank
    (issue.shown ++ s!" Hint: {hint}").toList) = _
  rw [String.toList_append, Text.dropRightWhile_append hmem (by decide), String.ofList_append,
    String.ofList_toList, hintShown]

/-- A line shows its issue. -/
structure IsLine (issue : Issue) (line : String) : Prop where
  /-- in front are severity, code, message and place, behind them a hint if there is one -/
  parts : line = issue.shown ++ ((said issue.hint).map hintShown).getD ""
  /-- the message is shown without the points at its end -/
  message : ∃ points, issue.message.toList = (withoutPoints issue.message).toList ++ points
    ∧ (∀ c ∈ points, c = '.') ∧ ∀ h, (withoutPoints issue.message).toList.getLast h ≠ '.'
  /-- the place is the node and the edge, or the one of them that there is -/
  place : issue.place = match said issue.node, said issue.edge with
    | none, none => ""
    | some node, none => s!" (node={node})"
    | none, some edge => s!" (edge={edge})"
    | some node, some edge => s!" (node={node}, edge={edge})"

/-- What is reported of an issue is a line that shows it. -/
theorem isLine_line (issue : Issue) : issue.IsLine issue.line where
  parts := by
    rcases h : said issue.hint with _ | hint
    · rw [line_of_noHint h, Option.map_none, Option.getD_none, String.append_empty]
    · exact line_of_hint h
  message := exists_points issue.message
  place := place_eq issue

end Issue

end FormAutomation
