import FormAutomation.Proofs.Number.Exact
import FormAutomation.Value.Reader

/-!
# Reading quoted texts and numbers

A quoted text is read character by character: each is found again from the way in which it was
written, as itself, as a letter after a backslash or as a code point.  A whole number is read by
its digits.

What a reader does at the head of a text does not hang on what comes after it, as long as that
does not go on with a number.
-/

namespace FormAutomation.Json

/-! ## White space -/

theorem skipSpace_append {blanks : List Char} (h : ∀ c ∈ blanks, isSpace c = true)
    (cs : List Char) (n : Nat) : skipSpace (blanks ++ cs) n = skipSpace cs (n + blanks.length) := by
  induction blanks generalizing n with
  | nil => rfl
  | cons c blanks ih =>
    rw [List.cons_append, skipSpace, if_pos (h c List.mem_cons_self),
      ih fun d hd => h d (List.mem_cons_of_mem c hd), List.length_cons, Nat.add_right_comm,
      Nat.add_assoc]

theorem skipSpace_cons {c : Char} (h : isSpace c = false) (cs : List Char) (n : Nat) :
    skipSpace (c :: cs) n = ⟨c :: cs, n⟩ := by
  rw [skipSpace, h]
  rfl

/-! ## Quoted texts -/

section

variable {start n : Nat} {c : Char} {cs ds : List Char} {cursor : Cursor}

/-- What belongs to an escape is passed. -/
theorem readQuoted_skip (start : Nat) (escape cs : List Char) (n : Nat) :
    readQuoted start escape.length (escape ++ cs) n
      = readQuoted start 0 cs (n + escape.length) := by
  induction escape generalizing n with
  | nil => rfl
  | cons c escape ih =>
    rw [List.cons_append, List.length_cons, readQuoted, ih, Nat.add_right_comm, Nat.add_assoc]

theorem readQuoted_escape (escape : List Char)
    (he : readEscape start n (escape ++ cs) = .ok (c, escape.length))
    (h : readQuoted start 0 cs (n + (escape.length + 1)) = .ok (ds, cursor)) :
    readQuoted start 0 ('\\' :: (escape ++ cs)) n = .ok (c :: ds, cursor) := by
  rw [Nat.add_comm escape.length, ← Nat.add_assoc] at h
  rw [readQuoted, if_neg (by decide), if_pos rfl, he]
  simp only [bind, Except.bind, readQuoted_skip, h]

theorem readQuoted_plain (hquote : c ≠ '"') (hescape : c ≠ '\\') (hcontrol : ¬ c.toNat < 0x20)
    (h : readQuoted start 0 cs (n + 1) = .ok (ds, cursor)) :
    readQuoted start 0 (c :: cs) n = .ok (c :: ds, cursor) := by
  rw [readQuoted, if_neg hquote, if_neg hescape, if_neg hcontrol, h]
  rfl

theorem hexValue?_hexDigit {d : Nat} (h : d < 16) : hexValue? (hexDigit d) = some d := by
  have hall : ∀ d < 16, hexValue? (hexDigit d) = some d := by decide
  exact hall d h

/-- A control character is read from its code point. -/
theorem readEscape_codePoint (h : c.toNat < 0x20) (d : Char) (cs : List Char) :
    readEscape start n (['u', '0', '0', hexDigit (c.toNat / 16), hexDigit (c.toNat % 16)]
      ++ d :: cs) = .ok (c, 5) := by
  have hquad : hexQuad? ('0' :: '0' :: hexDigit (c.toNat / 16) :: hexDigit (c.toNat % 16)
      :: d :: cs) = some c.toNat := by
    have hzero : hexValue? '0' = some 0 := by decide
    simp only [hexQuad?, hzero, hexValue?_hexDigit (show c.toNat / 16 < 16 by omega),
      hexValue?_hexDigit (show c.toNat % 16 < 16 by omega), bind, Option.bind]
    congr 1
    omega
  have hlong : ¬ ('0' :: '0' :: hexDigit (c.toNat / 16) :: hexDigit (c.toNat % 16)
      :: d :: cs).length < 5 := by
    simp only [List.length_cons]
    omega
  have hpoint : codePoint c.toNat = c := by
    rw [codePoint, if_neg (by omega), Char.ofNat_toNat]
  simp only [List.cons_append, List.nil_append, readEscape, if_neg hlong, hquad]
  rw [if_neg (by omega), hpoint]

/-- A character inside a quoted text is read as itself, however it was written. -/
theorem readQuoted_escapeChar
    (h : readQuoted start 0 cs (n + (escapeChar c).length) = .ok (ds, cursor)) :
    readQuoted start 0 (escapeChar c ++ cs) n = .ok (c :: ds, cursor) := by
  have hletter : ∀ letter : Char, readEscape start n (letter :: cs) = .ok (c, 1) →
      readQuoted start 0 cs (n + 2) = .ok (ds, cursor) →
      readQuoted start 0 ('\\' :: letter :: cs) n = .ok (c :: ds, cursor) :=
    fun letter he h => readQuoted_escape [letter] he h
  unfold escapeChar at h ⊢
  split_ifs at h ⊢ with hquote hescape hline hreturn htab hback hfeed hcontrol
  · exact hletter '"' (by rw [hquote]; rfl) h
  · exact hletter '\\' (by rw [hescape]; rfl) h
  · exact hletter 'n' (by rw [hline]; rfl) h
  · exact hletter 'r' (by rw [hreturn]; rfl) h
  · exact hletter 't' (by rw [htab]; rfl) h
  · have hc : c = Char.ofNat 8 := by rw [← hback, Char.ofNat_toNat]
    exact hletter 'b' (by rw [hc]; rfl) h
  · have hc : c = Char.ofNat 12 := by rw [← hfeed, Char.ofNat_toNat]
    exact hletter 'f' (by rw [hc]; rfl) h
  · -- five characters are wanted after the backslash, so something has to follow the digits
    rcases cs with _ | ⟨d, cs⟩
    · cases h
    · exact readQuoted_escape _ (readEscape_codePoint hcontrol d cs) h
  · exact readQuoted_plain hquote hescape hcontrol h

end

/-- A quoted text is read up to its closing quote. -/
theorem readQuoted_flatMap (start : Nat) (cs rest : List Char) (n : Nat) :
    readQuoted start 0 (cs.flatMap escapeChar ++ '"' :: rest) n
      = .ok (cs, ⟨rest, n + ((cs.flatMap escapeChar).length + 1)⟩) := by
  induction cs generalizing n with
  | nil => rfl
  | cons c cs ih =>
    rw [List.flatMap_cons, List.append_assoc]
    refine readQuoted_escapeChar ?_
    rw [ih, List.length_append, Nat.add_assoc, Nat.add_assoc]

theorem readText_quote (s : String) (rest : List Char) (n : Nat) :
    readText (s.toList.flatMap escapeChar ++ '"' :: rest) n
      = .ok (s, ⟨rest, n + (quote s).length⟩) := by
  have hlength : n + (quote s).length
      = n + 1 + ((s.toList.flatMap escapeChar).length + 1) := by
    simp only [quote, List.length_cons, List.length_append, List.length_nil]
    omega
  rw [readText, readQuoted_flatMap, hlength]
  simp only [bind, Except.bind, String.ofList_toList]

/-! ## Numbers -/

/-- A number does not go on with these characters. -/
def EndsNumber (rest : List Char) : Prop :=
  ∀ c, rest.head? = some c → c.isDigit = false ∧ c ≠ '.' ∧ c ≠ 'e' ∧ c ≠ 'E'

theorem EndsNumber.nil : EndsNumber [] := nofun

theorem EndsNumber.cons {c : Char} (h : c.isDigit = false ∧ c ≠ '.' ∧ c ≠ 'e' ∧ c ≠ 'E')
    (cs : List Char) : EndsNumber (c :: cs) := by
  intro d hd
  obtain rfl := Option.some.inj hd
  exact h

/-- A number other than zero is written without a zero in front. -/
theorem exists_digitsOf_eq_cons {k : Nat} (hk : k ≠ 0) :
    ∃ d ds, Decimal.digitsOf k = d :: ds ∧ d ≠ '0' := by
  induction k using Nat.strong_induction_on with
  | _ k ih =>
    unfold Decimal.digitsOf
    rcases Nat.lt_or_ge k 10 with hlt | hge
    · exact ⟨k.digitChar, [], Nat.toDigits_of_lt_base hlt, by simpa using hk⟩
    · obtain ⟨d, ds, hds, hd⟩ := ih (k / 10) (by omega) (by omega)
      rw [Nat.toDigits_of_base_le (by decide) hge, ← Decimal.digitsOf, hds]
      exact ⟨d, ds ++ [(k % 10).digitChar], rfl, hd⟩

theorem isDigit_of_mem_digitsOf {c : Char} {k : Nat} (h : c ∈ Decimal.digitsOf k) :
    c.isDigit = true :=
  Nat.isDigit_of_mem_toDigits (by decide) (by decide) h

theorem wholePart_digitsOf (k : Nat) {rest : List Char} (h : EndsNumber rest) :
    wholePart (Decimal.digitsOf k ++ rest) = Decimal.digitsOf k := by
  by_cases hk : k = 0
  · subst hk
    rfl
  · obtain ⟨d, ds, hds, hd⟩ := exists_digitsOf_eq_cons hk
    have hdigits : ∀ c ∈ d :: ds, c.isDigit = true := fun c hc =>
      isDigit_of_mem_digitsOf (hds ▸ hc)
    have hstop : rest.takeWhile Char.isDigit = [] := by
      rcases rest with _ | ⟨c, rest⟩
      · rfl
      · exact List.takeWhile_cons_of_neg (by simp [(h c rfl).1])
    rw [hds, List.cons_append, wholePart, if_neg hd, if_pos (hdigits d List.mem_cons_self),
      List.takeWhile_append_of_pos fun c hc => hdigits c (List.mem_cons_of_mem d hc), hstop,
      List.append_nil]

/-- Digits are read as the whole number that they write. -/
theorem readMagnitude_digitsOf (negative : Bool) (k : Nat) {rest : List Char}
    (h : EndsNumber rest) (n sign : Nat) :
    readMagnitude negative (Decimal.digitsOf k ++ rest) n sign
      = .ok (.int (if negative then -(k : Int) else k),
        ⟨rest, n + sign + (Decimal.digitsOf k).length⟩) := by
  have hne : (Decimal.digitsOf k).isEmpty = false :=
    List.isEmpty_eq_false_iff.2 (isNumeral_digitsOf k).ne_nil
  have hfraction : fractionPart rest = [] := by
    unfold fractionPart
    split
    · exact absurd rfl (h '.' rfl).2.1
    · rfl
  have hexponent : exponentPart rest = none := by
    rcases rest with _ | ⟨c, rest⟩
    · rfl
    · have hmark : ¬ (c = 'e' ∨ c = 'E') := not_or.2 (h c rfl).2.2
      simp only [exponentPart, if_neg hmark]
  simp only [readMagnitude, wholePart_digitsOf k h, hne, List.drop_left, hfraction,
    List.isEmpty_nil, List.drop_zero, hexponent, (isNumeral_digitsOf k).value, Bool.false_eq_true,
    if_false, if_true, Nat.add_zero]

theorem words_eq : words = [(['n', 'u', 'l', 'l'], .null), (['t', 'r', 'u', 'e'], .bool true),
    (['f', 'a', 'l', 's', 'e'], .bool false), (['N', 'a', 'N'], .float .nan),
    (['I', 'n', 'f', 'i', 'n', 'i', 't', 'y'], .float (.infinity false)),
    (['-', 'I', 'n', 'f', 'i', 'n', 'i', 't', 'y'], .float (.infinity true))] := rfl

/-- No word starts with a digit, nor with a minus before one. -/
theorem words_find?_eq_none {d : Char} (h : d.isDigit = true) (cs : List Char)
    (hcs : cs.head? = some d ∨ ∃ more, cs = '-' :: more ∧ more.head? = some d) :
    (words.find? fun word => word.1.isPrefixOf cs) = none := by
  have hne : ∀ c : Char, c.isDigit = false → c ≠ d := by
    rintro c hc rfl
    rw [hc] at h
    cases h
  have hletters := And.intro (hne 'n' (by decide)) <| And.intro (hne 't' (by decide)) <|
    And.intro (hne 'f' (by decide)) <| And.intro (hne 'N' (by decide)) <|
    And.intro (hne 'I' (by decide)) (hne '-' (by decide))
  rcases hcs with hhead | ⟨more, rfl, hhead⟩
  · obtain ⟨more, rfl⟩ := List.head?_eq_some_iff.1 hhead
    simp [words_eq, hletters]
  · obtain ⟨more, rfl⟩ := List.head?_eq_some_iff.1 hhead
    simp [words_eq, hletters]

/-- A whole number is read up to the end of its digits. -/
theorem readScalar_intText (i : Int) {rest : List Char} (h : EndsNumber rest) (n : Nat) :
    readScalar (intText i ++ rest) n = .ok (.int i, ⟨rest, n + (intText i).length⟩) := by
  have hdigits := fun negative => readMagnitude_digitsOf negative i.natAbs h n
  obtain ⟨d, ds, hds⟩ := List.exists_cons_of_ne_nil (isNumeral_digitsOf i.natAbs).ne_nil
  have hd : d.isDigit = true := isDigit_of_mem_digitsOf (hds ▸ List.mem_cons_self)
  by_cases hsign : i < 0
  · have hwrite : intText i = '-' :: Decimal.digitsOf i.natAbs := by
      rw [intText, if_pos hsign, List.singleton_append]
    have hvalue : -(i.natAbs : Int) = i := by omega
    have hwords := words_find?_eq_none hd ('-' :: (Decimal.digitsOf i.natAbs ++ rest))
      (.inr ⟨_, rfl, by rw [hds]; rfl⟩)
    rw [hwrite, List.cons_append, readScalar, hwords]
    simp only [readNumber, hdigits, if_true, hvalue, List.length_cons, Nat.add_assoc,
      Nat.add_comm 1]
  · have hwrite : intText i = Decimal.digitsOf i.natAbs := by
      rw [intText, if_neg hsign, List.nil_append]
    have hvalue : (i.natAbs : Int) = i := by omega
    have hminus : d ≠ '-' := by
      rintro rfl
      cases hd
    have hwords := words_find?_eq_none hd (Decimal.digitsOf i.natAbs ++ rest)
      (.inl (by rw [hds]; rfl))
    have hnumber : readNumber (Decimal.digitsOf i.natAbs ++ rest) n
        = readMagnitude false (Decimal.digitsOf i.natAbs ++ rest) n 0 := by
      rw [hds, List.cons_append, readNumber]
      rintro more hcons
      exact hminus (List.cons.inj hcons).1
    rw [hwrite, readScalar, hwords]
    simp only [hnumber, hdigits, Bool.false_eq_true, if_false, hvalue, Nat.add_zero]

/-- A whole number starts with a minus or a digit. -/
theorem exists_intText_eq_cons (i : Int) :
    ∃ c cs, intText i = c :: cs ∧ ∀ d : Char, d ≠ '-' → d.isDigit = false → c ≠ d := by
  obtain ⟨c, cs, hcons⟩ := List.exists_cons_of_ne_nil (intText_ne_nil i)
  refine ⟨c, cs, hcons, ?_⟩
  rintro d hminus hdigit rfl
  rcases mem_intText (hcons ▸ List.mem_cons_self) with hc | hc
  · exact hminus hc
  · rw [hdigit] at hc
    cases hc

end FormAutomation.Json
