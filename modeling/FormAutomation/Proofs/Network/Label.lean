import FormAutomation.Network.Url
import FormAutomation.Proofs.Network.Literal
import Mathlib.Data.List.Forall2
import Mathlib.Data.List.TakeWhile

/-!
# The characters of hosts

The characters that show where a host begins and ends are in no label of a domain name, be
it the label as it travels or as people are shown it.  A host that travels and is no
address is in ASCII and has none of them either.

A label in the ASCII form stands for one that is not in ASCII: the form of an ASCII label
would end with a hyphen, and no form does.  So a host that starts with a form is shown to
people as something else.
-/

namespace FormAutomation.Network

/-- Whether the character shows where a host ends, or where its scope begins. -/
def isDelimiter (c : Char) : Bool :=
  isBracket c || c == ':' || c == '%'

/-- Whether the character can be in a host that travels as a name. -/
def isHostChar (c : Char) : Bool :=
  DomainName.isBasic c && !isBracket c && c != ':'

theorem isDelimiter_iff {c : Char} : isDelimiter c = true ↔ c ∈ ['[', ']', ':', '%'] := by
  simp only [isDelimiter, isBracket, Bool.or_eq_true, beq_iff_eq, List.mem_cons, List.not_mem_nil,
    or_false, or_assoc]

theorem isHostChar_of_not_isDelimiter {c : Char} (hb : DomainName.isBasic c = true)
    (hd : isDelimiter c = false) : isHostChar c = true := by
  simp only [isDelimiter, Bool.or_eq_false_iff] at hd
  simp [isHostChar, hb, hd.1.1, bne, hd.1.2]

theorem isDelimiter_toLower (c : Char) : isDelimiter c.toLower = isDelimiter c :=
  Text.toLower_cases (P := fun c d => isDelimiter d = isDelimiter c) c rfl (by decide)

theorem isHostChar_toLower (c : Char) : isHostChar c.toLower = isHostChar c :=
  Text.toLower_cases (P := fun c d => isHostChar d = isHostChar c) c rfl (by decide)

/-! ## ASCII forms -/

section AsciiForm

open Text.Punycode

/-- The character is a digit of a distance. -/
def IsDistanceDigit (c : Char) : Prop :=
  ∃ n < 36, c = digit n

theorem isDistanceDigit_of_mem_distanceDigits {bias k q : Nat} :
    ∀ c ∈ distanceDigits bias k q, IsDistanceDigit c := by
  have hle : ∀ k, threshold k bias ≤ 26 := by
    intro k
    unfold threshold
    split
    · omega
    · split <;> omega
  fun_induction distanceDigits bias k q with
  | case1 k q t hlt =>
    intro c hc
    obtain rfl := List.mem_singleton.1 hc
    exact ⟨q, by have := hle k; omega, rfl⟩
  | case2 k q t hge ih =>
    intro c hc
    rcases List.mem_cons.1 hc with rfl | hc
    · have hbound := hle k
      have hrest : (q - t) % (36 - t) < 36 - t := Nat.mod_lt _ (by omega)
      exact ⟨t + (q - t) % (36 - t), by omega, rfl⟩
    · exact ih c hc

theorem isDistanceDigit_pass {w : Writing} (h : ∀ c ∈ w.digits, IsDistanceDigit c) (n : Nat)
    (d : Char) : ∀ c ∈ (Text.Punycode.pass n w d).digits, IsDistanceDigit c := by
  unfold Text.Punycode.pass
  split
  · exact h
  · split
    · intro c hc
      rcases List.mem_append.1 hc with hc | hc
      · exact h c hc
      · exact isDistanceDigit_of_mem_distanceDigits c hc
    · exact h

theorem isDistanceDigit_insertAll {label : List Char} (others : List Nat) {n : Nat} {w : Writing}
    (h : ∀ c ∈ w.digits, IsDistanceDigit c) :
    ∀ c ∈ (insertAll label others n w).digits, IsDistanceDigit c := by
  have hfold : ∀ (cs : List Char) (m : Nat) (w : Writing), (∀ c ∈ w.digits, IsDistanceDigit c) →
      ∀ c ∈ (cs.foldl (Text.Punycode.pass m) w).digits, IsDistanceDigit c := by
    intro cs m
    induction cs with
    | nil => exact fun _ h => h
    | cons d cs ih => exact fun w h => ih _ (isDistanceDigit_pass h m d)
  induction others generalizing n w with
  | nil => exact h
  | cons m rest ih => exact ih (hfold label m _ h)

theorem mem_encode {label : List Char} {c : Char} (h : c ∈ encode label) :
    (c ∈ label ∧ DomainName.isBasic c = true) ∨ c = '-' ∨ IsDistanceDigit c := by
  have hnone : ∀ c ∈ ([] : List Char), IsDistanceDigit c := nofun
  unfold encode at h
  dsimp only at h
  rcases List.mem_append.1 h with h | h
  · rcases List.mem_append.1 h with h | h
    · exact .inl (List.mem_filter.1 h)
    · split at h
      · cases h
      · exact .inr (.inl (List.mem_singleton.1 h))
  · exact .inr (.inr (isDistanceDigit_insertAll _ hnone c h))

/-- A label in ASCII has a form that ends with a hyphen. -/
theorem encode_of_all_isBasic {label : List Char} (hne : label ≠ [])
    (h : ∀ c ∈ label, DomainName.isBasic c = true) : encode label = label ++ ['-'] := by
  have hbasic : label.filter isBasic = label := List.filter_eq_self.2 h
  have hothers : label.filter (!isBasic ·) = [] :=
    List.filter_eq_nil_iff.2 fun c hc => by simpa [isBasic, DomainName.isBasic] using h c hc
  have hempty : label.isEmpty = false := by simpa using hne
  rw [encode, hbasic, hothers, hempty]
  simp [insertAll]
end AsciiForm

namespace DomainName

open Text (charOfPoint)

/-! ## Labels as people are shown them -/

/-- Nothing is known of a delimiter that would let it into a label. -/
theorem not_isDelimiter_of_checkCharacters_cons {points : List Nat} {label before after : List Char}
    {c : Char} (h : checkCharacters points label before (c :: after) = .ok ()) :
    isDelimiter c = false := by
  have hpermitted : ['[', ']', ':', '%'].all (fun c => !LabelClasses.isPermitted c
      && c != '\u200C' && c != '\u200D') = true := by decide +kernel
  have hfits : ∀ c ∈ ['[', ']', ':', '%'], ∀ before after, fits? label c before after = none := by
    intro c hc before after
    simp only [List.mem_cons, List.not_mem_nil, or_false] at hc
    rcases hc with rfl | rfl | rfl | rfl <;> rfl
  rw [Bool.eq_false_iff]
  intro hc
  rw [isDelimiter_iff] at hc
  have hc' := List.all_eq_true.1 hpermitted c hc
  simp only [Bool.and_eq_true, Bool.not_eq_true', bne_iff_ne] at hc'
  obtain ⟨⟨hno, hjoiner⟩, hjoiner'⟩ := hc'
  simp only [checkCharacters, hno, Bool.false_eq_true, if_false, hjoiner, hjoiner', or_self,
    hfits c hc before after] at h
  cases h

/-- The check of a label goes on with the next character. -/
theorem checkCharacters_of_cons {points : List Nat} {label before after : List Char} {c : Char}
    (h : checkCharacters points label before (c :: after) = .ok ()) :
    checkCharacters points label (c :: before) after = .ok () := by
  simp only [checkCharacters] at h
  split at h
  · exact h
  · split at h
    · rcases hj : checkJoiner points c before after with fault | _
      · rw [hj] at h
        cases h
      · rw [hj] at h
        exact h
    · split at h
      · exact h
      · cases h
      · cases h

theorem not_isDelimiter_of_checkCharacters {points : List Nat} {label before cs : List Char}
    (h : checkCharacters points label before cs = .ok ()) : ∀ c ∈ cs, isDelimiter c = false := by
  induction cs generalizing before with
  | nil => exact fun c hc => absurd hc List.not_mem_nil
  | cons d cs ih =>
    intro c hc
    rcases List.mem_cons.1 hc with rfl | hc
    · exact not_isDelimiter_of_checkCharacters_cons h
    · exact ih (checkCharacters_of_cons h) c hc

theorem checkCharacters_of_checkPoints {points : List Nat} (h : checkPoints points = .ok ()) :
    points.map charOfPoint ≠ []
      ∧ checkCharacters points (points.map charOfPoint) [] (points.map charOfPoint) = .ok () := by
  unfold checkPoints at h
  simp only [throw, throwThe, MonadExceptOf.throw, bind, Except.bind] at h
  split at h
  · cases h
  next hne =>
  refine ⟨by simpa using hne, ?_⟩
  repeat' split at h
  all_goals first
    | cases h
    | assumption

/-- A label is shown as what its ASCII form stands for, or else in small letters. -/
inductive LabelShown (label : List Char) : List Char → Prop where
  /-- the label is an ASCII form, and it is the one that what is shown has -/
  | form {points : List Nat} (hcheck : checkPoints points = .ok ())
      (hform : label.map Char.toLower
        = formMark ++ Text.Punycode.encode (points.map charOfPoint))
      (hlast : (Text.Punycode.encode (points.map charOfPoint)).getLast? ≠ some '-') :
      LabelShown label (points.map charOfPoint)
  /-- the label is none -/
  | plain (hcheck : checkLabel (label.map Char.toLower) = .ok ())
      (hmark : ¬ formMark <+: label.map Char.toLower) :
      LabelShown label (label.map Char.toLower)

theorem LabelShown.of_eq_ok {label shown : List Char} (h : labelShown label = .ok shown) :
    LabelShown label shown := by
  unfold labelShown at h
  dsimp only at h
  split at h
  · next hmark =>
    rw [List.isPrefixOf_iff_prefix] at hmark
    obtain ⟨form, hlabel⟩ := hmark
    have hdrop : (label.map Char.toLower).drop 4 = form := by
      rw [← hlabel]
      rfl
    rw [hdrop] at h
    split at h
    · cases h
    split at h
    · cases h
    next hlast =>
    split at h
    · cases h
    next points hpoints =>
    rcases hcheck : checkPoints points with fault | _
    · rw [hcheck] at h
      cases h
    rw [hcheck] at h
    simp only [bind, Except.bind] at h
    split at h
    · next hform =>
      obtain rfl := Except.ok.inj h
      subst hform
      exact .form hcheck hlabel.symm hlast
    · cases h
  · next hmark =>
    rw [List.isPrefixOf_iff_prefix] at hmark
    rcases hcheck : checkLabel (label.map Char.toLower) with fault | _
    · rw [hcheck] at h
      cases h
    · rw [hcheck] at h
      obtain rfl := Except.ok.inj h
      exact .plain hcheck hmark

theorem map_charOfPoint_toNat (cs : List Char) : (cs.map Char.toNat).map charOfPoint = cs := by
  rw [List.map_map]
  refine (List.map_congr_left fun c _ => ?_).trans (List.map_id cs)
  have hpoint : Text.isCharPoint c.toNat = true := by
    have hvalid := c.valid
    simp only [Text.isCharPoint, Bool.or_eq_true, Bool.and_eq_true, decide_eq_true_eq]
    simp only [UInt32.isValidChar, Nat.isValidChar] at hvalid
    change c.toNat < 0xD800 ∨ 0xDFFF < c.toNat ∧ c.toNat < 0x110000 at hvalid
    omega
  rw [Function.comp_apply, charOfPoint, if_pos hpoint, Char.ofNat_toNat, id]

theorem not_isDelimiter_of_checkLabel {label : List Char} (h : checkLabel label = .ok ()) :
    ∀ c ∈ label, isDelimiter c = false := by
  have hcheck := (checkCharacters_of_checkPoints h).2
  rw [map_charOfPoint_toNat] at hcheck
  exact not_isDelimiter_of_checkCharacters hcheck

theorem LabelShown.not_isDelimiter {label shown : List Char} (h : LabelShown label shown) :
    ∀ c ∈ shown, isDelimiter c = false := by
  cases h with
  | form hcheck =>
    exact not_isDelimiter_of_checkCharacters (checkCharacters_of_checkPoints hcheck).2
  | plain hcheck => exact not_isDelimiter_of_checkLabel hcheck

/-- What an ASCII form stands for is not in ASCII. -/
theorem LabelShown.exists_not_isBasic {label shown : List Char} (h : LabelShown label shown)
    (hmark : formMark <+: label.map Char.toLower) : ∃ c ∈ shown, isBasic c = false := by
  cases h with
  | plain _ hnot => exact absurd hmark hnot
  | @form points hcheck _ hlast =>
    by_contra hnone
    refine hlast ?_
    rw [encode_of_all_isBasic (checkCharacters_of_checkPoints hcheck).1]
    · exact List.getLast?_concat
    · intro c hc
      rw [← Bool.not_eq_false]
      exact fun hc' => hnone ⟨c, hc, hc'⟩

/-! ## Labels as they travel -/

theorem isHostChar_of_mem_form {label : List Char} (h : ∀ c ∈ label, isDelimiter c = false) :
    ∀ c ∈ formMark ++ Text.Punycode.encode label, isHostChar c = true := by
  have hmark : formMark.all isHostChar = true := by decide
  have hdigit : ∀ n < 36, isHostChar (Text.Punycode.digit n) = true := by decide
  intro c hc
  rcases List.mem_append.1 hc with hc | hc
  · exact List.all_eq_true.1 hmark c hc
  · rcases mem_encode hc with ⟨hmem, hbasic⟩ | rfl | ⟨n, hn, rfl⟩
    · exact isHostChar_of_not_isDelimiter hbasic (h c hmem)
    · rfl
    · exact hdigit n hn

/-- A label in ASCII travels as it is, if it can be shown; any other in its ASCII form. -/
inductive LabelSent (label : List Char) : List Char → Prop where
  /-- the label is in ASCII -/
  | same {shown : List Char} (hbasic : ∀ c ∈ label, isBasic c = true)
      (hshown : LabelShown label shown) : LabelSent label label
  /-- the label is not -/
  | form (hcheck : checkLabel label = .ok ()) :
      LabelSent label (formMark ++ Text.Punycode.encode label)

/-- What passes a last check is the result. -/
theorem eq_of_guard {p : Prop} [Decidable p] {fault : Fault} {name result : List Char}
    (h : (if p then .error fault else .ok name : Except Fault (List Char)) = .ok result) :
    name = result := by
  split at h
  · cases h
  · exact Except.ok.inj h

theorem LabelSent.of_eq_ok {label sent : List Char} (h : labelSent label = .ok sent) :
    LabelSent label sent := by
  unfold labelSent at h
  simp only [throw, throwThe, MonadExceptOf.throw, bind, Except.bind] at h
  by_cases hall : label.all isBasic = true
  · rw [if_pos hall] at h
    rcases hlabel : labelShown label with fault | shown
    · rw [hlabel] at h
      cases h
    · rw [hlabel] at h
      obtain rfl := eq_of_guard h
      exact .same (List.all_eq_true.1 hall) (.of_eq_ok hlabel)
  · rw [if_neg hall] at h
    rcases hlabel : checkLabel label with fault | _
    · rw [hlabel] at h
      cases h
    · rw [hlabel] at h
      obtain rfl := eq_of_guard h
      exact .form hlabel

theorem LabelShown.isHostChar {label shown : List Char} (h : LabelShown label shown) :
    ∀ c ∈ label, isBasic c = true → isHostChar c = true := by
  intro c hc hbasic
  have hlower : c.toLower ∈ label.map Char.toLower := List.mem_map_of_mem hc
  cases h with
  | form hcheck hform =>
    rw [hform] at hlower
    rw [← isHostChar_toLower]
    exact isHostChar_of_mem_form
      (not_isDelimiter_of_checkCharacters (checkCharacters_of_checkPoints hcheck).2) _ hlower
  | plain hcheck =>
    refine isHostChar_of_not_isDelimiter hbasic ?_
    rw [← isDelimiter_toLower]
    exact not_isDelimiter_of_checkLabel hcheck _ hlower

/-- A label that travels is in ASCII, without brackets and colons. -/
theorem LabelSent.isHostChar {label sent : List Char} (h : LabelSent label sent) :
    ∀ c ∈ sent, isHostChar c = true := by
  cases h with
  | same hbasic hshown => exact fun c hc => hshown.isHostChar c hc (hbasic c hc)
  | form hcheck => exact isHostChar_of_mem_form (not_isDelimiter_of_checkLabel hcheck)

/-! ## Whole names -/

theorem map_of_mapM {change : List Char → Except Fault (List Char)}
    {parts changed : List (List Char)} (h : parts.mapM change = .ok changed) :
    parts.map change = changed.map .ok := by
  induction parts generalizing changed with
  | nil =>
    obtain rfl := Except.ok.inj h
    rfl
  | cons part parts ih =>
    rw [List.mapM_cons] at h
    rcases hpart : change part with fault | first
    · rw [hpart] at h
      cases h
    rcases hrest : parts.mapM change with fault | rest
    · rw [hpart, hrest] at h
      cases h
    · rw [hpart, hrest] at h
      obtain rfl := Except.ok.inj h
      rw [List.map_cons, List.map_cons, hpart, ih hrest]

/-- A name is converted label by label; there may be a dot behind the last one. -/
theorem convert_eq_ok {change : List Char → Except Fault (List Char)} {limit : Nat → Nat → Bool}
    {name result : List Char} (h : convert change limit name = .ok result) :
    ∃ changed, (labels name).1.map change = changed.map .ok
      ∧ (result = ['.'].intercalate changed ∨ result = ['.'].intercalate (changed ++ [[]])) := by
  unfold convert at h
  simp only [throw, throwThe, MonadExceptOf.throw, bind, Except.bind] at h
  split at h
  · cases h
  rcases hlabels : labels name with ⟨parts, dot⟩
  rw [hlabels] at h
  dsimp only at h
  split at h
  · cases h
  split at h
  · cases h
  next changed hchanged =>
  refine ⟨changed, map_of_mapM hchanged, ?_⟩
  rw [← eq_of_guard h]
  cases dot
  · exact .inl rfl
  · exact .inr rfl

theorem mem_intercalate {separator c : Char} {parts : List (List Char)}
    (h : c ∈ [separator].intercalate parts) : c = separator ∨ ∃ part ∈ parts, c ∈ part := by
  induction parts with
  | nil => cases h
  | cons part parts ih =>
    rcases parts with _ | ⟨next, parts⟩
    · rw [List.intercalate_singleton] at h
      exact .inr ⟨part, List.mem_cons_self, h⟩
    · rw [List.intercalate_cons_cons, List.mem_append, List.mem_append] at h
      rcases h with (h | h) | h
      · exact .inr ⟨part, List.mem_cons_self, h⟩
      · exact .inl (List.mem_singleton.1 h)
      · rcases ih h with hc | ⟨part', hpart, hc⟩
        · exact .inl hc
        · exact .inr ⟨part', List.mem_cons_of_mem _ hpart, hc⟩

/-- A character of a converted name is a dot or in a label that was converted. -/
theorem mem_convert {change : List Char → Except Fault (List Char)} {limit : Nat → Nat → Bool}
    {name result : List Char} (h : convert change limit name = .ok result) {c : Char}
    (hc : c ∈ result) :
    c = '.' ∨ ∃ part ∈ (labels name).1, ∃ changed, change part = .ok changed ∧ c ∈ changed := by
  obtain ⟨changed, hall, hresult⟩ := convert_eq_ok h
  have hmem : c = '.' ∨ ∃ part ∈ changed, c ∈ part := by
    rcases hresult with rfl | rfl
    · exact mem_intercalate hc
    · rcases mem_intercalate hc with hc | ⟨part, hpart, hc⟩
      · exact .inl hc
      · rcases List.mem_append.1 hpart with hpart | hpart
        · exact .inr ⟨part, hpart, hc⟩
        · rw [List.mem_singleton.1 hpart] at hc
          cases hc
  rcases hmem with hdot | ⟨part, hpart, hc⟩
  · exact .inl hdot
  · have hpart' : .ok part ∈ (labels name).1.map change := hall ▸ List.mem_map_of_mem hpart
    obtain ⟨label, hlabel, hchange⟩ := List.mem_map.1 hpart'
    exact .inr ⟨label, hlabel, part, hchange, hc⟩

theorem subset_intercalate {separator part : List Char} {parts : List (List Char)}
    (h : part ∈ parts) : part ⊆ separator.intercalate parts := by
  induction parts with
  | nil => cases h
  | cons first parts ih =>
    rcases parts with _ | ⟨next, parts⟩
    · rw [List.intercalate_singleton, List.mem_singleton.1 h]
      exact List.Subset.refl _
    · rw [List.intercalate_cons_cons]
      rcases List.mem_cons.1 h with rfl | h
      · exact fun c hc => List.mem_append_left _ (List.mem_append_left _ hc)
      · exact fun c hc => List.mem_append_right _ (ih h hc)

/-- Every label that was converted is in the converted name. -/
theorem subset_convert {change : List Char → Except Fault (List Char)} {limit : Nat → Nat → Bool}
    {name result label : List Char} (h : convert change limit name = .ok result)
    (hlabel : label ∈ (labels name).1) :
    ∃ changed, change label = .ok changed ∧ changed ⊆ result := by
  obtain ⟨changed, hall, hresult⟩ := convert_eq_ok h
  have hmem : change label ∈ changed.map .ok := hall ▸ List.mem_map_of_mem hlabel
  obtain ⟨part, hpart, hchange⟩ := List.mem_map.1 hmem
  refine ⟨part, hchange.symm, ?_⟩
  rcases hresult with rfl | rfl
  · exact subset_intercalate hpart
  · exact subset_intercalate (List.mem_append_left _ hpart)

/-- Without dots in it, the beginning of a text is the beginning of its first piece. -/
theorem exists_splitOn_append {separator : Char} {start : List Char} (h : separator ∉ start)
    (cs : List Char) :
    ∃ first rest, Text.splitOn separator (start ++ cs) = (start ++ first) :: rest := by
  induction start with
  | nil =>
    obtain ⟨first, rest, hsplit⟩ := List.exists_cons_of_ne_nil (Text.splitOn_ne_nil separator cs)
    exact ⟨first, rest, hsplit⟩
  | cons c start ih =>
    obtain ⟨first, rest, hsplit⟩ := ih fun hc => h (List.mem_cons_of_mem c hc)
    have hc : c ≠ separator := fun e => h (e ▸ List.mem_cons_self)
    refine ⟨first, rest, ?_⟩
    rw [List.cons_append, Text.splitOn, if_neg hc, hsplit]
    rfl

/-- A name that starts with the mark of an ASCII form has a label that does. -/
theorem exists_label_of_formMark {name : List Char} (h : formMark <+: name) :
    ∃ label ∈ (labels name).1, formMark <+: label := by
  obtain ⟨after, rfl⟩ := h
  have hsame : formMark.map (fun c => if isDot c then '.' else c) = formMark := rfl
  have hdot : '.' ∉ formMark := by decide
  obtain ⟨first, rest, hsplit⟩ :=
    exists_splitOn_append hdot (after.map fun c => if isDot c then '.' else c)
  refine ⟨formMark ++ first, ?_, List.prefix_append _ _⟩
  rw [labels, List.map_append, hsame, hsplit]
  split
  · next before hreverse =>
    -- the empty piece behind the last dot is not this one
    have hmem : formMark ++ first ∈ ([] : List Char) :: before := by
      rw [← hreverse]
      exact List.mem_reverse.2 List.mem_cons_self
    exact List.mem_reverse.2 (List.mem_of_ne_of_mem (List.cons_ne_nil _ _) hmem)
  · exact List.mem_cons_self

theorem isHostChar_of_sent {name result : List Char} (h : sent name = .ok result) :
    ∀ c ∈ result, isHostChar c = true := by
  intro c hc
  rcases mem_convert h hc with rfl | ⟨label, -, changed, hchange, hc⟩
  · rfl
  · exact (LabelSent.of_eq_ok hchange).isHostChar c hc

theorem not_isDelimiter_of_shown {name result : List Char} (h : shown name = .ok result) :
    ∀ c ∈ result, isDelimiter c = false := by
  intro c hc
  rcases mem_convert h hc with rfl | ⟨label, -, changed, hchange, hc⟩
  · rfl
  · exact (LabelShown.of_eq_ok hchange).not_isDelimiter c hc

/-- A name that starts with the mark of an ASCII form is shown beyond ASCII. -/
theorem exists_not_isBasic_of_shown {name result : List Char} (h : shown name = .ok result)
    (hmark : formMark <+: name) : ∃ c ∈ result, isBasic c = false := by
  obtain ⟨label, hlabel, hstart⟩ := exists_label_of_formMark hmark
  obtain ⟨changed, hchange, hsub⟩ := subset_convert h hlabel
  obtain ⟨c, hc, hbasic⟩ :=
    (LabelShown.of_eq_ok hchange).exists_not_isBasic (List.IsPrefix.map Char.toLower hstart)
  exact ⟨c, hsub hc, hbasic⟩

end DomainName

end FormAutomation.Network
