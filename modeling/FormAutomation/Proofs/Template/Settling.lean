import FormAutomation.Proofs.Template.Cut

/-!
# Filling a filled template again

What is filled in is not looked at again, and one would think that a second filling finds
nothing to replace if no text that was filled in has two opening braces in a row.  But filling
joins what stood on the two sides of a token, with the text between them, and the whole may be a
token: where there is nothing to fill in for `x`, `{{na{{x}}me}}` becomes `{{name}}`.

Such *joined* tokens are all that a second filling finds, and unless it fills in two opening
braces in a row itself it changes every template that has one.  None is joined when the template
has no two opening braces in a row other than those of its tokens and no text that is filled in
ends in one: then no two of them come in a row in the filled template at all.
-/

namespace FormAutomation.Template

/-! ## Opening braces -/

/-- Two opening braces stand in a row. -/
def HasPair (cs : List Char) : Prop :=
  ['{', '{'] <:+: cs

instance (cs : List Char) : Decidable (HasPair cs) :=
  inferInstanceAs (Decidable (['{', '{'] <:+: cs))

theorem hasPair_cons_iff {c : Char} {cs : List Char} :
    HasPair (c :: cs) ↔ (c = '{' ∧ cs.head? = some '{') ∨ HasPair cs := by
  rw [HasPair, List.infix_cons_iff, List.cons_prefix_cons]
  cases cs with
  | nil => simp [HasPair]
  | cons d cs => simp [HasPair, List.cons_prefix_cons, eq_comm]

/-- Where two texts meet, two braces may come in a row. -/
theorem HasPair.of_append {a b : List Char} (h : HasPair (a ++ b)) :
    HasPair a ∨ (a.getLast? = some '{' ∧ b.head? = some '{') ∨ HasPair b := by
  induction a with
  | nil => exact .inr (.inr h)
  | cons c a ih =>
    rw [List.cons_append, hasPair_cons_iff] at h
    rcases h with ⟨rfl, hhead⟩ | h
    · cases a with
      | nil => exact .inr (.inl ⟨rfl, hhead⟩)
      | cons d a => exact .inl (hasPair_cons_iff.2 (.inl ⟨rfl, hhead⟩))
    · rcases ih h with h | ⟨hlast, hhead⟩ | h
      · exact .inl (hasPair_cons_iff.2 (.inr h))
      · refine .inr (.inl ⟨?_, hhead⟩)
        rw [List.getLast?_cons, hlast]
        rfl
      · exact .inr (.inr h)

theorem hasPair_of_getElem? {cs : List Char} {k : Nat} (h : cs[k]? = some '{')
    (h' : cs[k + 1]? = some '{') : HasPair cs := by
  induction cs generalizing k with
  | nil => cases h
  | cons c cs ih =>
    cases k with
    | zero =>
      rw [Nat.zero_add, List.getElem?_cons_succ, ← List.head?_eq_getElem?] at h'
      exact hasPair_cons_iff.2 (.inl ⟨by simpa using h, h'⟩)
    | succ k => exact hasPair_cons_iff.2 (.inr (ih (by simpa using h) (by simpa using h')))

theorem IsToken.hasPair {reference token : List Char} (h : IsToken reference token) :
    HasPair token :=
  hasPair_of_getElem? h.braces.1 h.braces.2.1

/-- A token has two opening braces in a row, and so has every text in which it stands. -/
theorem Occurs.hasPair {template reference token : List Char} {place : Nat}
    (h : Occurs template place reference token) : HasPair template :=
  h.isToken.hasPair.trans (h.stands.isInfix.trans (List.drop_suffix _ _).isInfix)

/-- Wherever two opening braces stand in a row, a token begins. -/
def OpensTokens (template : List Char) : Prop :=
  ∀ place, template[place]? = some '{' → template[place + 1]? = some '{' →
    ∃ reference token, Occurs template place reference token

section

variable {context : Context} {c : Char} {cs : List Char} {ps : List Piece}

theorem OpensTokens.tail (h : OpensTokens (c :: cs)) : OpensTokens cs := by
  intro place hfirst hsecond
  obtain ⟨reference, token, hoccurs⟩ := h (place + 1) hfirst hsecond
  exact ⟨reference, token, Occurs.tail.1 hoccurs⟩

theorem OpensTokens.drop (h : OpensTokens cs) (n : Nat) : OpensTokens (cs.drop n) := by
  induction n generalizing cs with
  | zero => exact h
  | succ n ih =>
    cases cs with
    | nil => exact h
    | cons c cs => exact ih h.tail

/-- A character that begins no token is not the first one of two opening braces. -/
theorem OpensTokens.head?_ne (h : OpensTokens ('{' :: cs)) (hnone : tokenAt? ('{' :: cs) = none) :
    cs.head? ≠ some '{' := by
  intro hbrace
  rw [List.head?_eq_getElem?] at hbrace
  obtain ⟨reference, token, hoccurs⟩ := h 0 rfl hbrace
  have hsome := hoccurs.tokenAt?
  rw [List.drop_zero, hnone] at hsome
  cases hsome

/-! ## What the texts are like -/

/-- Every text that is filled in for a token among some pieces satisfies a predicate. -/
def TextsAre (P : List Char → Prop) (context : Context) (ps : List Piece) : Prop :=
  ∀ name, Piece.token name ∈ ps → P (textOf context name)

theorem TextsAre.tail {P : List Char → Prop} {piece : Piece}
    (h : TextsAre P context (piece :: ps)) : TextsAre P context ps :=
  fun name hmem => h name (List.mem_cons_of_mem _ hmem)

theorem textsAre_pieces_iff {P : List Char → Prop} {template : String} :
    TextsAre P context (pieces template) ↔ ∀ name ∈ references template, P (textOf context name) := by
  simp only [TextsAre, mem_references_iff]

/-- A filled template begins as the template does, if that begins with no opening brace. -/
theorem IsCut.head?_fillPieces (h : IsCut cs ps) (hhead : cs.head? ≠ some '{') :
    (fillPieces context ps).head? = cs.head? := by
  cases h with
  | done => rfl
  | literal hnone hcut => rfl
  | token htoken hcut =>
    obtain ⟨left, right, -, -, rfl⟩ := htoken.spelled
    exact absurd rfl hhead

/-- No two opening braces come in a row if those of the template begin tokens and the texts
that are filled in neither have two nor end in one. -/
theorem IsCut.not_hasPair_fillPieces (h : IsCut cs ps) (hopens : OpensTokens cs)
    (htexts : TextsAre (fun text => ¬ HasPair text ∧ text.getLast? ≠ some '{') context ps) :
    ¬ HasPair (fillPieces context ps) := by
  induction h with
  | done =>
    rw [fillPieces_nil]
    decide
  | literal hnone hcut ih =>
    intro hpair
    rw [fillPieces_literal] at hpair
    rcases hasPair_cons_iff.1 hpair with ⟨rfl, hhead⟩ | hpair
    · have hne := hopens.head?_ne hnone
      rw [hcut.head?_fillPieces hne] at hhead
      exact hne hhead
    · exact ih hopens.tail htexts.tail hpair
  | @token reference token cs rest htoken hcut ih =>
    intro hpair
    rw [fillPieces_token] at hpair
    obtain ⟨hplain, hend⟩ := htexts _ List.mem_cons_self
    have hbehind : OpensTokens cs := by
      simpa only [List.drop_left] using hopens.drop token.length
    rcases hpair.of_append with hpair | ⟨hlast, -⟩ | hpair
    · exact hplain hpair
    · exact hend hlast
    · exact ih hbehind htexts.tail hpair

/-! ## Joined tokens -/

/-- A token that begins a filled template begins the template, or reaches the place of one of its
tokens. -/
theorem IsCut.prefix_or_reaches (h : IsCut cs ps) {token : List Char}
    (hp : token <+: fillPieces context ps) :
    token <+: cs ∨ ∃ before name after, ps = before ++ .token name :: after
      ∧ (fillPieces context before).length < token.length := by
  induction h generalizing token with
  | done => exact .inl hp
  | @literal c cs rest hnone hcut ih =>
    cases token with
    | nil => exact .inl List.nil_prefix
    | cons d token =>
      rw [fillPieces_literal] at hp
      obtain ⟨rfl, htail⟩ := List.cons_prefix_cons.1 hp
      rcases ih htail with htail | ⟨before, name, after, rfl, hlt⟩
      · exact .inl (List.cons_prefix_cons.2 ⟨rfl, htail⟩)
      · refine .inr ⟨.literal d :: before, name, after, rfl, ?_⟩
        rw [fillPieces_literal]
        exact Nat.succ_lt_succ hlt
  | @token reference token' cs rest htoken hcut =>
    cases token with
    | nil => exact .inl List.nil_prefix
    | cons d token => exact .inr ⟨[], _, rest, rfl, Nat.succ_pos _⟩

/-- A token of the filled template reaches over a place where the template has one. -/
theorem IsCut.exists_reached (h : IsCut cs ps) {place : Nat} {reference token : List Char}
    (hoccurs : Occurs (fillPieces context ps) place reference token) :
    ∃ before name after, ps = before ++ .token name :: after
      ∧ (fillPieces context before).length < place + token.length
      ∧ place < (fillPieces context before).length + (textOf context name).length := by
  induction h generalizing place with
  | done => exact absurd hoccurs not_occurs_nil
  | @literal c cs rest hnone hcut ih =>
    cases place with
    | zero =>
      rcases (IsCut.literal hnone hcut).prefix_or_reaches hoccurs.stands with
        hp | ⟨before, name, after, hsplit, hlt⟩
      · -- the token would be one of the template
        have hoccurs' : Occurs (c :: cs) 0 reference token := ⟨hoccurs.isToken, hp⟩
        have hsome := hoccurs'.tokenAt?
        rw [List.drop_zero, hnone] at hsome
        cases hsome
      · refine ⟨before, name, after, hsplit, by omega, ?_⟩
        -- the character stands before the place that is reached
        cases before with
        | nil => cases hsplit
        | cons piece before =>
          obtain ⟨rfl, -⟩ := List.cons.inj hsplit
          rw [fillPieces_literal, List.length_cons]
          omega
    | succ k =>
      obtain ⟨before, name, after, rfl, hlt, hgt⟩ := ih (Occurs.tail.1 hoccurs)
      refine ⟨.literal c :: before, name, after, rfl, ?_⟩
      rw [fillPieces_literal, List.length_cons]
      omega
  | @token reference' token' cs rest htoken hcut ih =>
    rcases Nat.lt_or_ge place (textOf context (String.ofList reference')).length with hlt | hge
    · have hlong := hoccurs.isToken.braces.2.2
      refine ⟨[], _, rest, rfl, ?_⟩
      rw [fillPieces_nil, List.length_nil]
      omega
    · obtain ⟨k, rfl⟩ := Nat.exists_eq_add_of_le hge
      have hrest : Occurs (fillPieces context rest) k reference token := by
        refine ⟨hoccurs.isToken, ?_⟩
        have hstands := hoccurs.stands
        rwa [fillPieces_token, List.drop_length_add_append] at hstands
      obtain ⟨before, name, after, rfl, hlt, hgt⟩ := ih hrest
      refine ⟨.token (String.ofList reference') :: before, name, after, rfl, ?_⟩
      rw [fillPieces_token, List.length_append]
      omega

/-- A token that reaches over neither end of a text that is filled in stands in that text. -/
theorem infix_textOf_of_occurs {before after : List Piece} {name : String} {place : Nat}
    {reference token : List Char}
    (hoccurs : Occurs (fillPieces context (before ++ .token name :: after)) place reference token)
    (hstart : (fillPieces context before).length ≤ place)
    (hstop : place + token.length
      ≤ (fillPieces context before).length + (textOf context name).length) :
    token <:+: textOf context name := by
  obtain ⟨k, rfl⟩ := Nat.exists_eq_add_of_le hstart
  have hstands := hoccurs.stands
  rw [fillPieces_append, fillPieces_token, List.drop_length_add_append,
    List.drop_append_of_le_length (by omega)] at hstands
  have hinside : token <+: (textOf context name).drop k := by
    refine List.prefix_of_prefix_length_le hstands (List.prefix_append _ _) ?_
    rw [List.length_drop]
    omega
  exact hinside.isInfix.trans (List.drop_suffix _ _).isInfix

/-! ## What a second filling changes -/

/-- A filled template that stays as it is has no tokens.  A text without two opening braces in a
row ends before the second brace of the token that it replaces, so from the first token on what
is filled in lags behind. -/
theorem IsCut.not_mem_of_fillPieces_eq (h : IsCut cs ps)
    (htexts : TextsAre (fun text => ¬ HasPair text) context ps) (behind ahead : List Char)
    (hle : behind.length ≤ ahead.length)
    (hsame : behind ++ fillPieces context ps = ahead ++ cs) :
    behind.length = ahead.length ∧ ∀ name, Piece.token name ∉ ps := by
  induction h generalizing behind ahead with
  | done =>
    rw [fillPieces_nil, List.append_nil, List.append_nil] at hsame
    exact ⟨by rw [hsame], fun name => List.not_mem_nil⟩
  | @literal c cs rest hnone hcut ih =>
    have hnext : (behind ++ [c]) ++ fillPieces context rest = (ahead ++ [c]) ++ cs := by
      rw [List.append_assoc, List.append_assoc]
      exact hsame
    obtain ⟨hlength, hnames⟩ := ih htexts.tail _ _ (by simpa using hle) hnext
    refine ⟨by simpa using hlength, fun name hmem => ?_⟩
    rcases List.mem_cons.1 hmem with heq | hmem
    · cases heq
    · exact hnames name hmem
  | @token reference token cs rest htoken hcut ih =>
    exfalso
    let text := textOf context (String.ofList reference)
    obtain ⟨hfirst, hsecond, hlong⟩ := htoken.braces
    have hall : behind ++ (text ++ fillPieces context rest) = ahead ++ (token ++ cs) := hsame
    have hends : behind.length + text.length ≤ ahead.length + 1 := by
      by_contra hover
      obtain ⟨lag, hlag⟩ := Nat.exists_eq_add_of_le hle
      -- the text would have both braces
      have hat : ∀ k, k < 2 → text[lag + k]? = token[k]? := by
        intro k hk
        have hget := congrArg (·[ahead.length + k]?) hall
        rw [List.getElem?_append_right (by omega), List.getElem?_append_left (by omega),
          List.getElem?_append_right (by omega), List.getElem?_append_left (by omega)] at hget
        rwa [show ahead.length + k - behind.length = lag + k by omega,
          Nat.add_sub_cancel_left] at hget
      refine htexts _ List.mem_cons_self (hasPair_of_getElem? (k := lag) ?_ ?_)
      · exact (hat 0 (by omega)).trans hfirst
      · exact (hat 1 (by omega)).trans hsecond
    have hlater : (behind ++ text).length ≤ (ahead ++ token).length := by
      rw [List.length_append, List.length_append]
      omega
    obtain ⟨hlength, -⟩ := ih htexts.tail _ _ hlater
      (by rw [List.append_assoc, List.append_assoc, hall])
    rw [List.length_append, List.length_append] at hlength
    omega

end

/-- No text that a context fills in for a template has two opening braces in a row. -/
def BringsNoPair (template : String) (context : Context) : Prop :=
  ∀ name ∈ references template, ¬ HasPair (textOf context name)

instance (template : String) (context : Context) : Decidable (BringsNoPair template context) :=
  inferInstanceAs (Decidable (∀ name ∈ references template, ¬ HasPair (textOf context name)))

/-- What filling a filled template again does. -/
structure Settles (template : String) (context : Context) : Prop where
  /-- it changes nothing if the template has no two opening braces in a row but those that begin
  its tokens, and no text that was filled in ends in one -/
  settled : OpensTokens template.toList →
    (∀ name ∈ references template, (textOf context name).getLast? ≠ some '{') →
    fill (fill template context) context = fill template context
  /-- if what it fills in has no two in a row either, it changes nothing exactly when it finds no
  token -/
  unchanged_iff : BringsNoPair (fill template context) context →
    (fill (fill template context) context = fill template context
      ↔ ∀ place reference token,
        ¬ Occurs (fill template context).toList place reference token)
  /-- and a token that it finds is joined: it takes in the place of a token of the template, and
  more than the text that was filled in there -/
  joined : ∀ place reference token,
    Occurs (fill template context).toList place reference token →
    ∃ before name after, pieces template = before ++ .token name :: after
      ∧ let start := (fillPieces context before).length
        let stop := start + (textOf context name).length
        start < place + token.length ∧ place < stop
          ∧ (place < start ∨ stop < place + token.length)

section

variable {template : String} {context : Context}

theorem references_eq_nil_iff :
    references template = []
      ↔ ∀ place reference token, ¬ Occurs template.toList place reference token := by
  rw [List.eq_nil_iff_forall_not_mem]
  constructor
  · intro hnone place reference token hoccurs
    refine hnone (String.ofList reference) (mem_references_iff_occurs.2 ⟨place, token, ?_⟩)
    rwa [String.toList_ofList]
  · intro hnone name hname
    obtain ⟨place, token, hoccurs⟩ := mem_references_iff_occurs.1 hname
    exact hnone place _ token hoccurs

theorem references_eq_nil_of_fill_eq (htexts : BringsNoPair template context)
    (hsame : fill template context = template) : references template = [] := by
  have hcut : [] ++ fillPieces context (pieces template) = [] ++ template.toList := by
    rw [← toList_fill, hsame]
  have hnone := ((isCut_pieces template).not_mem_of_fillPieces_eq (textsAre_pieces_iff.2 htexts)
    [] [] (Nat.le_refl _) hcut).2
  rw [List.eq_nil_iff_forall_not_mem]
  exact fun name hname => hnone name (mem_references_iff.1 hname)

/-- A second filling finds the tokens that the first one has joined, and nothing else. -/
theorem settles_fill (h : BringsNoPair template context) : Settles template context where
  settled := by
    intro hopens hend
    have hnone : ¬ HasPair (fill template context).toList := by
      rw [toList_fill]
      exact (isCut_pieces template).not_hasPair_fillPieces hopens
        (textsAre_pieces_iff.2 fun name hname => ⟨h name hname, hend name hname⟩)
    refine fill_of_references_eq_nil (references_eq_nil_iff.2 ?_) context
    exact fun place reference token hoccurs => hnone hoccurs.hasPair
  unchanged_iff := by
    intro htexts
    rw [← references_eq_nil_iff]
    exact ⟨references_eq_nil_of_fill_eq htexts, fun hnone => fill_of_references_eq_nil hnone context⟩
  joined := by
    intro place reference token hoccurs
    rw [toList_fill] at hoccurs
    obtain ⟨before, name, after, hsplit, hlt, hgt⟩ :=
      (isCut_pieces template).exists_reached hoccurs
    refine ⟨before, name, after, hsplit, hlt, hgt, ?_⟩
    by_contra hinside
    rw [not_or, Nat.not_lt, Nat.not_lt] at hinside
    -- the token would stand in the text, which has no two braces in a row
    rw [hsplit] at hoccurs
    have hname : name ∈ references template := by
      rw [mem_references_iff, hsplit]
      exact List.mem_append_right _ List.mem_cons_self
    exact h name hname
      (hoccurs.isToken.hasPair.trans (infix_textOf_of_occurs hoccurs hinside.1 hinside.2))

end

/-- A greeting with a brace before a token, and one in what is filled in. -/
def greeting : String :=
  "\x7b \x7b\x7b title \x7d\x7d\x7b\x7bname\x7d\x7d\x7d from \x7b\x7buser.city\x7d\x7d"

/-- The visitor who is greeted. -/
def visitor : Context :=
  [("name", .text "Ann \x7b"), ("user", .object [("city", .text "Graz")])]

/-- No token is joined of the two. -/
theorem settles_fill_greeting :
    BringsNoPair greeting visitor ∧ Settles greeting visitor
      ∧ fill (fill greeting visitor) visitor = fill greeting visitor := by
  have htexts : BringsNoPair greeting visitor := by decide +kernel
  exact ⟨htexts, settles_fill htexts, by decide +kernel⟩

/-- A token inside of what becomes one. -/
def nested : String :=
  "\x7b\x7bna\x7b\x7bx\x7d\x7dme\x7d\x7d"

/-- A context without anything for the token inside. -/
def named : Context :=
  [("name", .text "Ann")]

/-- A token that is joined is replaced by a second filling. -/
theorem fill_fill_nested_ne :
    BringsNoPair nested named ∧ fill nested named = "\x7b\x7bname\x7d\x7d"
      ∧ fill (fill nested named) named = "Ann"
      ∧ fill (fill nested named) named ≠ fill nested named := by
  decide +kernel

end FormAutomation.Template
