import FormAutomation.Proofs.Template.Occurrence
import FormAutomation.Proofs.Template.Reference
import Mathlib.Algebra.Order.BigOperators.Group.List
import Mathlib.Algebra.Order.Group.Nat

/-!
# How a template is cut

The scan counts the characters of a token that it still has to pass.  What comes of it needs no
such count: the template is *cut* into its tokens and the single characters between them, from
left to right.  What is said of the pieces is proved along the cut, with one case for each kind
of piece.

So the references that are listed are those of the tokens that occur, and they come in the
order of their first tokens.  They are exactly what filling a template reads: two contexts that
give them the same texts fill it alike, and none of them could be left out of the list.
-/

namespace FormAutomation.Template

/-- A template is cut into its pieces. -/
inductive IsCut : List Char → List Piece → Prop where
  /-- nothing is left -/
  | done : IsCut [] []
  /-- a character that begins no token is a piece by itself -/
  | literal {c : Char} {cs : List Char} {rest : List Piece} (h : tokenAt? (c :: cs) = none)
      (hcut : IsCut cs rest) : IsCut (c :: cs) (.literal c :: rest)
  /-- a token is one piece -/
  | token {reference token cs : List Char} {rest : List Piece} (h : IsToken reference token)
      (hcut : IsCut cs rest) : IsCut (token ++ cs) (.token (String.ofList reference) :: rest)

theorem scan_eq_drop (skip : Nat) (cs : List Char) : scan skip cs = scan 0 (cs.drop skip) := by
  induction cs generalizing skip with
  | nil => cases skip <;> rfl
  | cons c cs ih =>
    cases skip with
    | zero => rfl
    | succ skip => rw [scan, ih, List.drop_succ_cons]

/-- The scan cuts a template into its pieces. -/
theorem isCut_scan (cs : List Char) : IsCut cs (scan 0 cs) := by
  match cs with
  | [] => exact .done
  | c :: cs =>
    rcases hfound : tokenAt? (c :: cs) with _ | found
    · rw [scan, hfound]
      exact .literal hfound (isCut_scan cs)
    · obtain ⟨token, rest, htoken, hsplit, hwidth⟩ := isToken_of_tokenAt? hfound
      have hlong := htoken.braces.2.2
      -- what the scan passes is the rest of the token
      have hrest : cs.drop (found.width - 1) = rest := by
        have hdrop : (c :: cs).drop found.width = rest := by
          rw [hsplit, hwidth, List.drop_left]
        rwa [hwidth, show token.length = token.length - 1 + 1 by omega, List.drop_succ_cons,
          ← hwidth] at hdrop
      have hshorter : rest.length < (c :: cs).length := by
        rw [hsplit, List.length_append]
        omega
      rw [scan, hfound]
      dsimp only
      rw [scan_eq_drop, hrest, hsplit]
      exact .token htoken (isCut_scan rest)
termination_by cs.length

theorem isCut_pieces (template : String) : IsCut template.toList (pieces template) :=
  isCut_scan _

/-! ## Occurrences along a cut -/

section

variable {c : Char} {cs token token' : List Char} {reference reference' : List Char} {place : Nat}

theorem not_occurs_nil : ¬ Occurs [] place reference token := by
  intro hoccurs
  have hlong := hoccurs.isToken.braces.2.2
  have hle := hoccurs.stands.length_le
  simp only [List.drop_nil, List.length_nil] at hle
  omega

/-- A character that begins no token moves those behind it by one place. -/
theorem occurs_cons_iff (h : tokenAt? (c :: cs) = none) :
    Occurs (c :: cs) place reference token ↔
      ∃ k, place = k + 1 ∧ Occurs cs k reference token := by
  constructor
  · intro hoccurs
    cases place with
    | zero =>
      have hfound := hoccurs.tokenAt?
      rw [List.drop_zero, h] at hfound
      cases hfound
    | succ k => exact ⟨k, rfl, Occurs.tail.1 hoccurs⟩
  · rintro ⟨k, rfl, hoccurs⟩
    exact Occurs.tail.2 hoccurs

/-- Behind a token stand the others. -/
theorem IsToken.occurs_append_iff (h : IsToken reference token) :
    Occurs (token ++ cs) place reference' token' ↔
      (place = 0 ∧ reference' = reference ∧ token' = token)
        ∨ ∃ k, place = token.length + k ∧ Occurs cs k reference' token' := by
  have hhead : Occurs (token ++ cs) 0 reference token := ⟨h, List.prefix_append _ _⟩
  constructor
  · intro hoccurs
    rcases Nat.eq_zero_or_pos place with rfl | hpos
    · obtain ⟨rfl, rfl⟩ := hoccurs.unique hhead
      exact .inl ⟨rfl, rfl, rfl⟩
    · obtain ⟨k, rfl⟩ := Nat.exists_eq_add_of_le (by simpa using hhead.apart hoccurs hpos)
      refine .inr ⟨k, rfl, hoccurs.isToken, ?_⟩
      simpa only [List.drop_length_add_append] using hoccurs.stands
  · rintro (⟨rfl, rfl, rfl⟩ | ⟨k, rfl, hoccurs⟩)
    · exact hhead
    · refine ⟨hoccurs.isToken, ?_⟩
      simpa only [List.drop_length_add_append] using hoccurs.stands

end

/-! ## The references of a cut -/

/-- The references of some pieces, one for each token. -/
def referencesOf (ps : List Piece) : List String :=
  ps.filterMap Piece.reference?

@[simp] theorem referencesOf_literal (c : Char) (ps : List Piece) :
    referencesOf (.literal c :: ps) = referencesOf ps := rfl

@[simp] theorem referencesOf_token (name : String) (ps : List Piece) :
    referencesOf (.token name :: ps) = name :: referencesOf ps := rfl

/-- A reference comes up before another one: it has a token that stands before all tokens of
the other. -/
def ComesBefore (template : List Char) (name other : String) : Prop :=
  ∃ place token, Occurs template place name.toList token
    ∧ ∀ place' token', Occurs template place' other.toList token' → place < place'

section

variable {cs : List Char} {ps : List Piece}

/-- The references of the pieces are those of the tokens that occur. -/
theorem IsCut.mem_referencesOf_iff (h : IsCut cs ps) {name : String} :
    name ∈ referencesOf ps ↔ ∃ place token, Occurs cs place name.toList token := by
  induction h with
  | done =>
    refine iff_of_false List.not_mem_nil ?_
    rintro ⟨place, token, hoccurs⟩
    exact not_occurs_nil hoccurs
  | literal hnone hcut ih =>
    rw [referencesOf_literal, ih]
    constructor
    · rintro ⟨place, token, hoccurs⟩
      exact ⟨place + 1, token, (occurs_cons_iff hnone).2 ⟨place, rfl, hoccurs⟩⟩
    · rintro ⟨place, token, hoccurs⟩
      obtain ⟨k, -, hoccurs⟩ := (occurs_cons_iff hnone).1 hoccurs
      exact ⟨k, token, hoccurs⟩
  | @token reference token cs rest htoken hcut ih =>
    rw [referencesOf_token, List.mem_cons, ih]
    constructor
    · rintro (rfl | ⟨place, token', hoccurs⟩)
      · exact ⟨0, token, htoken.occurs_append_iff.2 (.inl ⟨rfl, String.toList_ofList, rfl⟩)⟩
      · exact ⟨_, token', htoken.occurs_append_iff.2 (.inr ⟨place, rfl, hoccurs⟩)⟩
    · rintro ⟨place, token', hoccurs⟩
      rcases htoken.occurs_append_iff.1 hoccurs with ⟨-, rfl, -⟩ | ⟨k, -, hoccurs⟩
      · exact .inl String.ofList_toList.symm
      · exact .inr ⟨k, token', hoccurs⟩

/-- The references of the pieces come in the order of their first tokens. -/
theorem IsCut.comesBefore (h : IsCut cs ps) {name other : String}
    (hlt : (referencesOf ps).idxOf name < (referencesOf ps).idxOf other) :
    ComesBefore cs name other := by
  induction h with
  | done => exact absurd hlt (Nat.lt_irrefl _)
  | literal hnone hcut ih =>
    obtain ⟨place, token, hoccurs, hfirst⟩ := ih hlt
    refine ⟨place + 1, token, (occurs_cons_iff hnone).2 ⟨place, rfl, hoccurs⟩, ?_⟩
    intro place' token' hother
    obtain ⟨k, rfl, hbehind⟩ := (occurs_cons_iff hnone).1 hother
    exact Nat.succ_lt_succ (hfirst k token' hbehind)
  | @token reference token cs rest htoken hcut ih =>
    rw [referencesOf_token] at hlt
    -- the other one is not the first, so none of its tokens is this one
    have hne : String.ofList reference ≠ other := by
      rintro rfl
      rw [List.idxOf_cons_self] at hlt
      exact Nat.not_lt_zero _ hlt
    have hbehind : ∀ place' token', Occurs (token ++ cs) place' other.toList token' →
        ∃ k, place' = token.length + k ∧ Occurs cs k other.toList token' := by
      intro place' token' hother
      rcases htoken.occurs_append_iff.1 hother with ⟨-, hsame, -⟩ | hbehind
      · exact absurd (by rw [← hsame, String.ofList_toList]) hne
      · exact hbehind
    by_cases hname : String.ofList reference = name
    · subst hname
      refine ⟨0, token, htoken.occurs_append_iff.2 (.inl ⟨rfl, String.toList_ofList, rfl⟩), ?_⟩
      intro place' token' hother
      obtain ⟨k, rfl, -⟩ := hbehind place' token' hother
      have hlong := htoken.braces.2.2
      omega
    · rw [List.idxOf_cons_ne _ hname, List.idxOf_cons_ne _ hne] at hlt
      obtain ⟨place, token', hoccurs, hfirst⟩ := ih (Nat.lt_of_succ_lt_succ hlt)
      refine ⟨_, token', htoken.occurs_append_iff.2 (.inr ⟨place, rfl, hoccurs⟩), ?_⟩
      intro place' token'' hother
      obtain ⟨k, rfl, hlater⟩ := hbehind place' token'' hother
      exact Nat.add_lt_add_left (hfirst k token'' hlater) _

end

/-! ## Filling the pieces -/

/-- The text that a context has for a reference. -/
def textOf (context : Context) (name : String) : List Char :=
  (context.resolve name).toText.toList

/-- What some pieces become. -/
def fillPieces (context : Context) (ps : List Piece) : List Char :=
  ps.flatMap (Piece.fill context)

section

variable {context : Context} {cs : List Char} {ps : List Piece}

@[simp] theorem fillPieces_nil : fillPieces context [] = [] := rfl

@[simp] theorem fillPieces_literal (c : Char) :
    fillPieces context (.literal c :: ps) = c :: fillPieces context ps := rfl

@[simp] theorem fillPieces_token (name : String) :
    fillPieces context (.token name :: ps) = textOf context name ++ fillPieces context ps := rfl

@[simp] theorem fillPieces_append (before after : List Piece) :
    fillPieces context (before ++ after) = fillPieces context before ++ fillPieces context after :=
  List.flatMap_append

theorem toList_fill (template : String) (context : Context) :
    (fill template context).toList = fillPieces context (pieces template) :=
  String.toList_ofList

/-- Without references every piece is a character of the template. -/
theorem IsCut.fillPieces_eq (h : IsCut cs ps) (hnone : referencesOf ps = []) :
    fillPieces context ps = cs := by
  induction h with
  | done => rfl
  | literal _ hcut ih => rw [fillPieces_literal, ih hnone]
  | token _ hcut => cases hnone

/-- Texts of which none is shorter and one is longer make a longer whole. -/
theorem length_fillPieces_lt {other : Context} {name : String} (h : Piece.token name ∈ ps)
    (hle : ∀ name', Piece.token name' ∈ ps →
      (textOf context name').length ≤ (textOf other name').length)
    (hlt : (textOf context name).length < (textOf other name).length) :
    (fillPieces context ps).length < (fillPieces other ps).length := by
  rw [fillPieces, fillPieces, List.length_flatMap, List.length_flatMap]
  refine List.sum_lt_sum _ _ ?_ ⟨_, h, hlt⟩
  intro piece hmem
  cases piece with
  | literal c => exact Nat.le_refl _
  | token name' => exact hle name' hmem

end

/-! ## What filling reads -/

/-- The references of a template are what filling it reads. -/
structure ReadsReferences (template : String) : Prop where
  /-- they are those of the tokens that occur in the template -/
  listed : ∀ name, name ∈ references template ↔
    ∃ place token, Occurs template.toList place name.toList token
  /-- each is listed once -/
  once : (references template).Nodup
  /-- in the order of their first tokens -/
  ordered : (references template).Pairwise (ComesBefore template.toList)
  /-- two contexts that give them the same texts fill the template alike -/
  enough : ∀ context other : Context,
    (∀ name ∈ references template,
      (context.resolve name).toText = (other.resolve name).toText) →
    fill template context = fill template other
  /-- and for each of them there are two that give the others the same values and do not -/
  needed : ∀ name ∈ references template, ∃ context other : Context,
    (∀ name' ∈ references template, name' ≠ name → context.resolve name' = other.resolve name')
      ∧ fill template context ≠ fill template other
  /-- a template without references stays as it is -/
  untouched : references template = [] → ∀ context : Context, fill template context = template

/-- A context in which every one of some names has the same value. -/
theorem lookup_map_of_mem {names : List String} {name : String} (v : Value) (h : name ∈ names) :
    List.lookup name (names.map fun n => (n, v)) = some v := by
  induction names with
  | nil => cases h
  | cons first rest ih =>
    rw [List.map_cons, Entries.lookup_cons]
    split
    · rfl
    · next hne => exact ih ((List.mem_cons.1 h).resolve_left hne)

/-- Every reference of a template is needed to fill it. -/
theorem exists_fill_ne {template name : String} (h : name ∈ references template) :
    ∃ context other : Context,
      (∀ name' ∈ references template, name' ≠ name → context.resolve name' = other.resolve name')
        ∧ fill template context ≠ fill template other := by
  -- every reference is an entry, so that none is read as a path
  let context : Context := (references template).map fun n => (n, .text "")
  let other : Context := Entries.put context name (.text "x")
  have hcontext : ∀ name' ∈ references template, context.resolve name' = .text "" :=
    fun name' hmem => Context.resolve_of_lookup (lookup_map_of_mem _ hmem)
  have hsame : ∀ name' ∈ references template, name' ≠ name → other.resolve name' = .text "" := by
    intro name' hmem hne
    refine Context.resolve_of_lookup ?_
    rw [Entries.lookup_put, if_neg hne]
    exact lookup_map_of_mem _ hmem
  have hother : other.resolve name = .text "x" := by
    refine Context.resolve_of_lookup ?_
    rw [Entries.lookup_put, if_pos rfl]
  refine ⟨context, other, fun name' hmem hne => ?_, fun hfill => ?_⟩
  · rw [hcontext name' hmem, hsame name' hmem hne]
  · have hlength : (fillPieces context (pieces template)).length
        < (fillPieces other (pieces template)).length := by
      refine length_fillPieces_lt (mem_references_iff.1 h) (fun name' hmem => ?_) ?_
      · rw [textOf, hcontext name' (mem_references_iff.2 hmem)]
        exact Nat.zero_le _
      · rw [textOf, textOf, hcontext name h, hother]
        decide
    rw [← toList_fill, ← toList_fill, hfill] at hlength
    exact Nat.lt_irrefl _ hlength

theorem mem_references_iff_occurs {template name : String} :
    name ∈ references template ↔
      ∃ place token, Occurs template.toList place name.toList token := by
  rw [references, List.mem_eraseDups]
  exact (isCut_pieces template).mem_referencesOf_iff

theorem fill_of_references_eq_nil {template : String} (h : references template = [])
    (context : Context) : fill template context = template := by
  have hnone : referencesOf (pieces template) = [] := by
    rw [List.eq_nil_iff_forall_not_mem] at h ⊢
    exact fun name hmem => h name (List.mem_eraseDups.2 hmem)
  rw [← String.toList_inj, toList_fill, (isCut_pieces template).fillPieces_eq hnone]

/-- Filling a template reads its references, all of them and nothing else. -/
theorem readsReferences_fill (template : String) : ReadsReferences template where
  listed := fun _ => mem_references_iff_occurs
  once := (listsOnce_eraseDups _).nodup
  ordered := by
    have hplaces := (listsOnce_eraseDups (referencesOf (pieces template))).ordered
    exact hplaces.imp (isCut_pieces template).comesBefore
  enough := by
    intro context other h
    exact fill_congr fun name hmem => h name (mem_references_iff.2 hmem)
  needed := fun _ => exists_fill_ne
  untouched := fill_of_references_eq_nil

end FormAutomation.Template
