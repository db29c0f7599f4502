import FormAutomation.Template
import Mathlib.Data.List.Forall2
import Mathlib.Data.List.TakeWhile
import Mathlib.Tactic.ByContra

/-!
# Where tokens stand

A token *occurs* at a place of a template if its characters stand there in a row.  This
says nothing of how templates are read: the scan goes from left to right and passes the
whole of a token once it has found one, so it might miss a token that begins inside
another, or find a shorter one first.

It does not, because white space and the characters of references are different
characters, and braces are neither.  A place begins at most one token, tokens at
different places have no character in common, and each of them is replaced.
-/

namespace FormAutomation.Template

/-- The characters are a token of a reference. -/
structure IsToken (reference token : List Char) : Prop where
  /-- the reference says something -/
  named : reference ≠ []
  /-- and is made of what references are made of -/
  allowed : ∀ c ∈ reference, isReferenceChar c = true
  /-- it stands in double braces, with white space around it -/
  spelled : ∃ left right, (∀ c ∈ left, Text.isBlank c = true) ∧ (∀ c ∈ right, Text.isBlank c = true)
    ∧ token = '{' :: '{' :: (left ++ (reference ++ (right ++ ['}', '}'])))

/-- The token of a reference stands in a template after so many characters. -/
structure Occurs (template : List Char) (place : Nat) (reference token : List Char) : Prop where
  /-- it is a token -/
  isToken : IsToken reference token
  /-- and stands there -/
  stands : token <+: template.drop place

/-- No token begins before a place of a template and ends after it. -/
def IsBoundary (template : List Char) (place : Nat) : Prop :=
  ∀ start reference token, Occurs template start reference token → start < place →
    start + token.length ≤ place

/-- What the character at a place of a template becomes in a context. -/
inductive Becomes (template : List Char) (context : Context) (place : Nat) : List Char → Prop where
  /-- the first one of a token becomes the text of what the reference finds -/
  | replaced {reference token : List Char} (h : Occurs template place reference token) :
      Becomes template context place (context.resolve (String.ofList reference)).toText.toList
  /-- the others of a token become nothing -/
  | dropped {start : Nat} {reference token : List Char} (h : Occurs template start reference token)
      (hs : start < place) (he : place < start + token.length) : Becomes template context place []
  /-- one that belongs to no token stays -/
  | stays {c : Char} (hc : template[place]? = some c)
      (h : ∀ start reference token, Occurs template start reference token →
        place < start ∨ start + token.length ≤ place) : Becomes template context place [c]

/-- The tokens of a template are replaced, each by itself, and nothing else is. -/
structure ReplacesTokens (template : String) : Prop where
  /-- a place begins one token at most -/
  unique : ∀ {place : Nat} {reference reference' token token' : List Char},
    Occurs template.toList place reference token → Occurs template.toList place reference' token' →
      reference = reference' ∧ token = token'
  /-- tokens at different places have no character in common -/
  apart : ∀ {place place' : Nat} {reference reference' token token' : List Char},
    Occurs template.toList place reference token →
      Occurs template.toList place' reference' token' → place < place' →
        place + token.length ≤ place'
  /-- what is filled in is what the characters become one after the other; the text of a
  value goes in as it is -/
  parts : ∀ context : Context, ∃ parts : List (List Char),
    List.Forall₂ (Becomes template.toList context) (List.range template.toList.length) parts
      ∧ fill template context = String.ofList parts.flatten
  /-- two halves with no token between them are filled each by itself -/
  halves : ∀ left right : String, template = left ++ right →
    IsBoundary template.toList left.toList.length → ∀ context : Context,
      fill template context = fill left context ++ fill right context

/-! ## Characters -/

/-- White space is in no reference. -/
theorem isReferenceChar_of_isBlank {c : Char} (h : Text.isBlank c = true) :
    isReferenceChar c = false := by
  have hall : ∀ range ∈ Text.blankRanges,
      ∀ n ∈ List.range' range.1 (range.2 + 1 - range.1),
        isReferenceChar (Char.ofNat n) = false := by
    decide +kernel
  obtain ⟨range, hrange, hlow, hhigh⟩ := Text.Ranges.contains_iff.1 h
  have hmem : c.toNat ∈ List.range' range.1 (range.2 + 1 - range.1) := by
    rw [List.mem_range'_1]
    omega
  have hc := hall range hrange _ hmem
  rwa [Char.ofNat_toNat] at hc

/-- An opening brace is neither white space nor in a reference. -/
theorem IsToken.ne_brace {reference token : List Char} (h : IsToken reference token) {place : Nat}
    (hp : 2 ≤ place) : token[place]? ≠ some '{' := by
  obtain ⟨left, right, hleft, hright, rfl⟩ := h.spelled
  obtain ⟨n, rfl⟩ := Nat.exists_eq_add_of_le' hp
  intro hbrace
  rw [List.getElem?_cons_succ, List.getElem?_cons_succ] at hbrace
  have hmem := List.mem_of_getElem? hbrace
  simp only [List.mem_append, List.mem_cons, List.not_mem_nil, or_false] at hmem
  rcases hmem with hmem | hmem | hmem | hmem
  · exact absurd (hleft _ hmem) (by decide)
  · exact absurd (h.allowed _ hmem) (by decide)
  · exact absurd (hright _ hmem) (by decide)
  · exact absurd hmem (by decide)

theorem IsToken.braces {reference token : List Char} (h : IsToken reference token) :
    token[0]? = some '{' ∧ token[1]? = some '{' ∧ 2 < token.length := by
  obtain ⟨left, right, -, -, rfl⟩ := h.spelled
  refine ⟨rfl, rfl, ?_⟩
  simp only [List.length_cons, List.length_append]
  omega

/-! ## The token at the head -/

theorem isToken_of_tokenAt? {cs : List Char} {found : Token} (h : tokenAt? cs = some found) :
    ∃ token rest, IsToken found.reference token ∧ cs = token ++ rest
      ∧ found.width = token.length := by
  unfold tokenAt? at h
  split at h
  · next inside =>
    dsimp only at h
    generalize hafter : ((inside.dropWhile Text.isBlank).dropWhile isReferenceChar).dropWhile
      Text.isBlank = after at h
    split at h
    · next rest =>
      split at h
      · cases h
      · next hne =>
        obtain rfl := Option.some.inj h
        let left := inside.takeWhile Text.isBlank
        let reference := (inside.dropWhile Text.isBlank).takeWhile isReferenceChar
        let right := ((inside.dropWhile Text.isBlank).dropWhile isReferenceChar).takeWhile
          Text.isBlank
        have hinside : inside = left ++ (reference ++ (right ++ '}' :: '}' :: rest)) := by
          rw [← hafter, List.takeWhile_append_dropWhile, List.takeWhile_append_dropWhile,
            List.takeWhile_append_dropWhile]
        have hsplit : '{' :: '{' :: inside
            = '{' :: '{' :: (left ++ (reference ++ (right ++ ['}', '}']))) ++ rest := by
          rw [hinside]
          simp
        refine ⟨_, rest, ⟨fun hnil => hne (List.isEmpty_iff.2 hnil), ?_, left, right, ?_, ?_, rfl⟩,
          hsplit, ?_⟩
        · exact fun c hc => List.mem_takeWhile_imp hc
        · exact fun c hc => List.mem_takeWhile_imp hc
        · exact fun c hc => List.mem_takeWhile_imp hc
        · dsimp only
          rw [hsplit, List.length_append, Nat.add_sub_cancel]
    · cases h
  · cases h

/-- A token at the head is found, whatever follows it. -/
theorem IsToken.tokenAt?_append {reference token : List Char} (h : IsToken reference token)
    (rest : List Char) : tokenAt? (token ++ rest) = some ⟨reference, token.length⟩ := by
  obtain ⟨left, right, hleft, hright, rfl⟩ := h.spelled
  obtain ⟨c, more, rfl⟩ := List.exists_cons_of_ne_nil h.named
  have hc : isReferenceChar c = true := h.allowed c List.mem_cons_self
  have hblank : Text.isBlank c = false := by
    rw [Bool.eq_false_iff]
    intro hb
    rw [isReferenceChar_of_isBlank hb] at hc
    cases hc
  -- what follows a reference is white space or a brace, and belongs to no reference
  have hstop : ∀ tail, (right ++ '}' :: tail).takeWhile isReferenceChar = []
      ∧ (right ++ '}' :: tail).dropWhile isReferenceChar = right ++ '}' :: tail := by
    intro tail
    cases right with
    | nil => exact ⟨rfl, rfl⟩
    | cons d right =>
      have hd := isReferenceChar_of_isBlank (hright d List.mem_cons_self)
      simp [hd]
  have hinside : left ++ ((c :: more) ++ (right ++ ['}', '}'])) ++ rest
      = left ++ ((c :: more) ++ (right ++ '}' :: '}' :: rest)) := by
    simp
  have hopen : (left ++ ((c :: more) ++ (right ++ '}' :: '}' :: rest))).dropWhile Text.isBlank
      = (c :: more) ++ (right ++ '}' :: '}' :: rest) := by
    rw [List.dropWhile_append_of_pos hleft, List.cons_append,
      List.dropWhile_cons_of_neg (by simp [hblank])]
  have htake : ((c :: more) ++ (right ++ '}' :: '}' :: rest)).takeWhile isReferenceChar
      = c :: more := by
    rw [List.takeWhile_append_of_pos h.allowed, (hstop _).1, List.append_nil]
  have hdrop : ((c :: more) ++ (right ++ '}' :: '}' :: rest)).dropWhile isReferenceChar
      = right ++ '}' :: '}' :: rest := by
    rw [List.dropWhile_append_of_pos h.allowed, (hstop _).2]
  have hclose : (right ++ '}' :: '}' :: rest).dropWhile Text.isBlank = '}' :: '}' :: rest := by
    rw [List.dropWhile_append_of_pos hright]
    rfl
  rw [List.cons_append, List.cons_append, hinside]
  simp only [tokenAt?, hopen, htake, hdrop, hclose, List.isEmpty_cons, Bool.false_eq_true, if_false]
  congr 2
  simp only [List.length_cons, List.length_append, List.length_nil]
  omega

/-! ## Occurrences -/

variable {template : List Char} {place place' : Nat}
  {reference reference' token token' : List Char}

/-- A token that occurs at a place is the one that is found there. -/
theorem Occurs.tokenAt? (h : Occurs template place reference token) :
    tokenAt? (template.drop place) = some ⟨reference, token.length⟩ := by
  obtain ⟨rest, hrest⟩ := h.stands
  rw [← hrest]
  exact h.isToken.tokenAt?_append rest

theorem exists_occurs_of_tokenAt? {found : Token}
    (h : Template.tokenAt? (template.drop place) = some found) :
    ∃ token, Occurs template place found.reference token ∧ found.width = token.length := by
  obtain ⟨token, rest, htoken, hsplit, hwidth⟩ := isToken_of_tokenAt? h
  exact ⟨token, ⟨htoken, rest, hsplit.symm⟩, hwidth⟩

theorem Occurs.unique (h : Occurs template place reference token)
    (h' : Occurs template place reference' token') : reference = reference' ∧ token = token' := by
  obtain ⟨hreference, hwidth⟩ : reference = reference' ∧ token.length = token'.length := by
    simpa using Option.some.inj (h.tokenAt?.symm.trans h'.tokenAt?)
  have hstart := List.prefix_of_prefix_length_le h.stands h'.stands (Nat.le_of_eq hwidth)
  exact ⟨hreference, hstart.eq_of_length hwidth⟩

theorem Occurs.getElem? (h : Occurs template place reference token) {k : Nat}
    (hk : k < token.length) : template[place + k]? = token[k]? := by
  rw [← List.getElem?_drop]
  obtain ⟨rest, hrest⟩ := h.stands
  rw [← hrest, List.getElem?_append_left hk]

/-- A token begins where two braces stand, and no two stand inside another one. -/
theorem Occurs.apart (h : Occurs template place reference token)
    (h' : Occurs template place' reference' token') (hlt : place < place') :
    place + token.length ≤ place' := by
  by_contra hover
  obtain ⟨k, rfl⟩ := Nat.exists_eq_add_of_lt hlt
  obtain ⟨hfirst, hsecond, hlong⟩ := h'.isToken.braces
  have hnext : template[place + (k + 2)]? = some '{' := by
    have hsame := h'.getElem? (k := 1) (by omega)
    rw [hsecond] at hsame
    rwa [show place + (k + 2) = place + k + 1 + 1 by omega]
  by_cases hk : k + 2 < token.length
  · rw [h.getElem? hk] at hnext
    exact h.isToken.ne_brace (by omega) hnext
  · -- the other one would begin with the last brace of this one
    have hlast := h'.getElem? (k := 0) (by omega)
    rw [hfirst, show place + k + 1 + 0 = place + (k + 1) by omega, h.getElem? (by omega)] at hlast
    have hlength := h.isToken.braces.2.2
    exact h.isToken.ne_brace (by omega) hlast

theorem Occurs.tail {c : Char} {cs : List Char} :
    Occurs (c :: cs) (place + 1) reference token ↔ Occurs cs place reference token := by
  constructor
  · rintro ⟨htoken, hstands⟩
    exact ⟨htoken, by simpa using hstands⟩
  · rintro ⟨htoken, hstands⟩
    exact ⟨htoken, by simpa using hstands⟩

/-! ## The scan -/

/-- The scan stands at a place with so many characters of a token still to pass. -/
structure IsPassing (template : List Char) (place skip : Nat) : Prop where
  /-- what began before ends before those are passed -/
  covered : ∀ start reference token, Occurs template start reference token → start < place →
    start + token.length ≤ place + skip
  /-- and if there are any they belong to such a token -/
  belongs : 0 < skip → ∃ start reference token, Occurs template start reference token
    ∧ start < place ∧ place + skip ≤ start + token.length

theorem IsPassing.initial : IsPassing template 0 0 :=
  ⟨fun _ _ _ _ h => absurd h (Nat.not_lt_zero _), fun h => absurd h (Nat.lt_irrefl 0)⟩

/-- No token begins inside another one. -/
theorem IsPassing.pass {skip : Nat} (h : IsPassing template place (skip + 1)) :
    IsPassing template (place + 1) skip := by
  obtain ⟨start, reference, token, hoccurs, hbefore, hcovers⟩ := h.belongs (Nat.succ_pos skip)
  refine ⟨fun start' reference' token' h' hlt => ?_, fun _ => ?_⟩
  · rcases Nat.lt_succ_iff_lt_or_eq.1 hlt with hlt | rfl
    · have := h.covered _ _ _ h' hlt
      omega
    · have := hoccurs.apart h' hbefore
      omega
  · exact ⟨start, reference, token, hoccurs, by omega, by omega⟩

theorem IsPassing.enter (h : IsPassing template place 0)
    (hoccurs : Occurs template place reference token) :
    IsPassing template (place + 1) (token.length - 1) := by
  have hlong := hoccurs.isToken.braces.2.2
  refine ⟨fun start' reference' token' h' hlt => ?_, fun _ => ?_⟩
  · rcases Nat.lt_succ_iff_lt_or_eq.1 hlt with hlt | rfl
    · have := h.covered _ _ _ h' hlt
      omega
    · obtain ⟨-, rfl⟩ := hoccurs.unique h'
      omega
  · exact ⟨place, reference, token, hoccurs, by omega, by omega⟩

theorem IsPassing.stay (h : IsPassing template place 0)
    (hnone : tokenAt? (template.drop place) = none) : IsPassing template (place + 1) 0 := by
  refine ⟨fun start' reference' token' h' hlt => ?_, fun h => absurd h (Nat.lt_irrefl 0)⟩
  rcases Nat.lt_succ_iff_lt_or_eq.1 hlt with hlt | rfl
  · have := h.covered _ _ _ h' hlt
    omega
  · rw [h'.tokenAt?] at hnone
    cases hnone

/-- From every place on, the scan yields what the characters become. -/
theorem exists_parts_scan (context : Context) {cs : List Char} {skip : Nat}
    (hcs : template.drop place = cs) (hpassing : IsPassing template place skip) :
    ∃ parts : List (List Char),
      List.Forall₂ (Becomes template context) (List.range' place cs.length) parts
        ∧ (scan skip cs).flatMap (Piece.fill context) = parts.flatten := by
  induction cs generalizing place skip with
  | nil => exact ⟨[], .nil, by simp [scan]⟩
  | cons c cs ih =>
    have htail : template.drop (place + 1) = cs := by
      rw [← List.drop_drop, hcs]
      rfl
    rw [List.length_cons, List.range'_succ]
    cases skip with
    | succ skip =>
      obtain ⟨start, reference, token, hoccurs, hbefore, hcovers⟩ :=
        hpassing.belongs (Nat.succ_pos skip)
      obtain ⟨parts, hparts, hscan⟩ := ih htail hpassing.pass
      refine ⟨[] :: parts, .cons (.dropped hoccurs hbefore (by omega)) hparts, ?_⟩
      rw [scan, hscan]
      rfl
    | zero =>
      rcases hfound : tokenAt? (c :: cs) with _ | found
      · obtain ⟨parts, hparts, hscan⟩ := ih htail (hpassing.stay (hcs ▸ hfound))
        refine ⟨[c] :: parts, .cons (.stays ?_ ?_) hparts, ?_⟩
        · have hhead : (template.drop place)[0]? = some c := by
            rw [hcs]
            rfl
          simpa using hhead
        · intro start reference token hoccurs
          rcases Nat.lt_trichotomy start place with hlt | rfl | hlt
          · exact .inr (hpassing.covered _ _ _ hoccurs hlt)
          · have hsome := hoccurs.tokenAt?
            rw [hcs, hfound] at hsome
            cases hsome
          · exact .inl hlt
        · simp only [scan, hfound, List.flatMap_cons, hscan, List.flatten_cons]
          rfl
      · obtain ⟨token, hoccurs, hwidth⟩ := exists_occurs_of_tokenAt? (hcs ▸ hfound)
        obtain ⟨parts, hparts, hscan⟩ := ih htail (hpassing.enter hoccurs)
        refine ⟨_ :: parts, .cons (.replaced hoccurs) hparts, ?_⟩
        simp only [scan, hfound, hwidth, List.flatMap_cons, hscan, List.flatten_cons]
        rfl

/-- A scan goes on behind a boundary as it would begin there. -/
theorem scan_append {left right : List Char} {skip : Nat} (hskip : skip ≤ left.length)
    (h : IsBoundary (left ++ right) left.length) :
    scan skip (left ++ right) = scan skip left ++ scan 0 right := by
  induction left generalizing skip with
  | nil =>
    obtain rfl := Nat.le_zero.1 hskip
    simp [scan]
  | cons c left ih =>
    have htail : IsBoundary (left ++ right) left.length := by
      intro start reference token hoccurs hlt
      have := h _ _ _ (Occurs.tail (c := c).2 hoccurs) (by simpa using hlt)
      rw [List.length_cons] at this
      omega
    cases skip with
    | succ skip =>
      rw [List.cons_append, scan, scan, ih (Nat.le_of_succ_le_succ hskip) htail]
    | zero =>
      rcases hfound : tokenAt? (c :: (left ++ right)) with _ | found
      · -- a token in the left half would be one of the whole
        have hnone : tokenAt? (c :: left) = none := by
          rw [Option.eq_none_iff_forall_ne_some]
          intro found hsome
          obtain ⟨token, rest, htoken, hsplit, -⟩ := isToken_of_tokenAt? hsome
          rw [← List.cons_append, hsplit, List.append_assoc, htoken.tokenAt?_append] at hfound
          cases hfound
        simp only [List.cons_append, scan, hfound, hnone, ih (Nat.zero_le _) htail]
      · have hstart : tokenAt? ((c :: (left ++ right)).drop 0) = some found := hfound
        obtain ⟨token, hoccurs, hwidth⟩ := exists_occurs_of_tokenAt? hstart
        have hends : token.length ≤ (c :: left).length := by
          simpa using h 0 _ _ hoccurs (Nat.succ_pos _)
        -- a token that does not cross the boundary is one of the left half
        have hsome : tokenAt? (c :: left) = some found := by
          have hleft : token <+: c :: left := by
            have hwhole : token <+: c :: left ++ right := by simpa using hoccurs.stands
            exact List.prefix_of_prefix_length_le hwhole (List.prefix_append _ _) hends
          obtain ⟨rest, hrest⟩ := hleft
          rw [← hrest, hoccurs.isToken.tokenAt?_append, ← hwidth]
        have hskip' : found.width - 1 ≤ left.length := by
          rw [hwidth]
          rw [List.length_cons] at hends
          omega
        simp only [List.cons_append, scan, hfound, hsome, ih hskip' htail]

/-- Filling a template replaces the tokens that occur in it, all of them, each by the text
of what its reference finds, and leaves every other character as it is. -/
theorem replacesTokens_fill (template : String) : ReplacesTokens template where
  unique := Occurs.unique
  apart := Occurs.apart
  parts := by
    intro context
    obtain ⟨parts, hparts, hscan⟩ :=
      exists_parts_scan context (List.drop_zero (l := template.toList)) .initial
    refine ⟨parts, ?_, ?_⟩
    · rwa [List.range_eq_range']
    · rw [fill, pieces, hscan]
  halves := by
    rintro left right rfl hboundary context
    rw [String.toList_append] at hboundary
    simp only [fill, pieces, String.toList_append, scan_append (Nat.zero_le _) hboundary,
      List.flatMap_append, String.ofList_append]

end FormAutomation.Template
