import FormAutomation.Proofs.Value.LineEnds
import FormAutomation.Proofs.Value.Scalar

/-!
# Tokens and the ends of lines

Inside a token no line can end: a quoted text with the end of a line in it is none, and a number
or a word stops before it.  So a token at the head of a text is read alike if the ends of the
lines are written otherwise, at whatever offset it stands, and what is left differs in the same
way.

The reader of quoted texts looks ahead: behind an escaped half of a surrogate pair it looks for
the other half, also if there is none.
-/

namespace FormAutomation.Json

/-! ## Quoted texts -/

/-- What stands at the head is read, and this much is left. -/
def ReadsAt {β : Type*} (read : List Char → Nat → Except Fault (β × Cursor)) (cs : List Char)
    (b : β) (rest : List Char) : Prop :=
  rest.length < cs.length ∧ ∀ n, ∃ k, read cs n = .ok (b, ⟨rest, k⟩)

theorem ne_lineEnd_of_hexValue? {c : Char} {k : Nat} (h : hexValue? c = some k) :
    c ≠ '\r' ∧ c ≠ '\n' := by
  constructor
  · rintro rfl
    cases h
  · rintro rfl
    cases h

/-- Four digits are read by themselves. -/
theorem exists_of_hexQuad? {cs : List Char} {q : Nat} (h : hexQuad? cs = some q) :
    ∃ four rest, cs = four ++ rest ∧ four.length = 4 ∧ ('\r' ∉ four ∧ '\n' ∉ four)
      ∧ ∀ other, hexQuad? (four ++ other) = some q := by
  unfold hexQuad? at h
  split at h
  · next a b c d rest =>
    obtain ⟨va, ha, h⟩ := Option.bind_eq_some_iff.1 h
    obtain ⟨vb, hb, h⟩ := Option.bind_eq_some_iff.1 h
    obtain ⟨vc, hc, h⟩ := Option.bind_eq_some_iff.1 h
    obtain ⟨vd, hd, h⟩ := Option.bind_eq_some_iff.1 h
    obtain ⟨har, han⟩ := ne_lineEnd_of_hexValue? ha
    obtain ⟨hbr, hbn⟩ := ne_lineEnd_of_hexValue? hb
    obtain ⟨hcr, hcn⟩ := ne_lineEnd_of_hexValue? hc
    obtain ⟨hdr, hdn⟩ := ne_lineEnd_of_hexValue? hd
    refine ⟨[a, b, c, d], rest, rfl, rfl, ⟨?_, ?_⟩, fun other => ?_⟩
    · simp [har.symm, hbr.symm, hcr.symm, hdr.symm]
    · simp [han.symm, hbn.symm, hcn.symm, hdn.symm]
    · simpa [hexQuad?, ha, hb, hc, hd] using h
  · cases h

/-- Behind half of a surrogate pair the other half is looked for. -/
structure LooksFurther (high : Nat) (rest : List Char) : Prop where
  /-- this is the first half -/
  isHalf : 0xD800 ≤ high ∧ high ≤ 0xDBFF
  /-- an escaped code point comes next -/
  escaped : ['\\', 'u'] <+: rest
  /-- it may have its digits, and a character comes behind -/
  long : 7 ≤ rest.length

/-- What two escaped code points stand for, and how many characters were needed. -/
def pairPoint (high low : Nat) : Char × Nat :=
  if 0xDC00 ≤ low ∧ low ≤ 0xDFFF then
    (Char.ofNat (0x10000 + (high - 0xD800) * 0x400 + (low - 0xDC00)), 11)
  else (codePoint high, 5)

section

variable {start n high low : Nat} {four rest : List Char}

theorem looksFurther_iff (hfour : four.length = 4) :
    (0xD800 ≤ high ∧ high ≤ 0xDBFF ∧ 11 ≤ (four ++ rest).length
      ∧ ((four ++ rest).drop 4).take 2 = ['\\', 'u']) ↔ LooksFurther high rest := by
  have hdrop : (four ++ rest).drop 4 = rest := by rw [← hfour, List.drop_left]
  have hescaped : ['\\', 'u'] <+: rest ↔ rest.take 2 = ['\\', 'u'] := by
    rw [List.prefix_iff_eq_take, eq_comm]
    rfl
  rw [hdrop, List.length_append, hfour, ← hescaped]
  constructor
  · rintro ⟨hlow, hhigh, hlong, hescaped⟩
    exact ⟨⟨hlow, hhigh⟩, hescaped, by omega⟩
  · rintro ⟨⟨hlow, hhigh⟩, hescaped, hlong⟩
    exact ⟨hlow, hhigh, by omega, hescaped⟩

theorem not_length_lt_five (hfour : four.length = 4) (hrest : rest ≠ []) :
    ¬ (four ++ rest).length < 5 := by
  have hpos := List.length_pos_iff.2 hrest
  rw [List.length_append, hfour]
  omega

/-- A code point alone. -/
theorem readEscape_of_not_looksFurther (hfour : four.length = 4) (hrest : rest ≠ [])
    (hquad : hexQuad? (four ++ rest) = some high) (hl : ¬ LooksFurther high rest) :
    readEscape start n ('u' :: (four ++ rest)) = .ok (codePoint high, 5) := by
  simp only [readEscape, if_neg (not_length_lt_five hfour hrest), hquad,
    if_neg (mt (looksFurther_iff hfour).1 hl)]

/-- Two code points one after the other. -/
theorem readEscape_of_looksFurther (hfour : four.length = 4)
    (hquad : hexQuad? (four ++ '\\' :: 'u' :: rest) = some high)
    (hl : LooksFurther high ('\\' :: 'u' :: rest)) :
    readEscape start n ('u' :: (four ++ '\\' :: 'u' :: rest)) = match hexQuad? rest with
      | none => .error ⟨.codePointEscape, n + 7⟩
      | some low => .ok (pairPoint high low) := by
  have hdrop : (four ++ '\\' :: 'u' :: rest).drop 6 = rest := by
    rw [show 6 = four.length + 2 by rw [hfour], ← List.drop_drop, List.drop_left]
    rfl
  simp only [readEscape, if_neg (not_length_lt_five hfour (List.cons_ne_nil _ _)), hquad, hdrop,
    if_pos ((looksFurther_iff hfour).2 hl), pairPoint]
  rcases hexQuad? rest with _ | low
  · rfl
  · by_cases hlow : 0xDC00 ≤ low ∧ low ≤ 0xDFFF
    · simp only [if_pos hlow]
    · simp only [if_neg hlow]

end

/-- What is looked for behind half of a surrogate pair is no end of a line. -/
theorem LooksFurther.of_sameLines {high : Nat} {cs ds : List Char} (hs : SameLines cs ds)
    (h : LooksFurther high ds) : LooksFurther high cs where
  isHalf := h.isHalf
  escaped := by
    rw [← List.isPrefixOf_iff_prefix, hs.isPrefixOf_eq (by decide) (by decide),
      List.isPrefixOf_iff_prefix]
    exact h.escaped
  long := h.long.trans hs.length_le

/-- The half that was found is found again. -/
theorem LooksFurther.sameLines {high : Nat} {four more ds : List Char}
    (h : LooksFurther high ('\\' :: 'u' :: (four ++ more))) (hfour : four.length = 4)
    (hds : ds ≠ []) : LooksFurther high ('\\' :: 'u' :: (four ++ ds)) where
  isHalf := h.isHalf
  escaped := List.prefix_append ['\\', 'u'] (four ++ ds)
  long := by
    have hpos := List.length_pos_iff.2 hds
    simp only [List.length_cons, List.length_append, hfour]
    omega

/-- This escape is read, whatever comes behind it but for the ends of lines. -/
def ReadsEscape (escape rest : List Char) (d : Char) : Prop :=
  '\r' ∉ escape ∧ ∀ start n ds, SameLines rest ds →
    readEscape start n (escape ++ ds) = .ok (d, escape.length)

theorem readsEscape_letter {c d : Char} (hu : c ≠ 'u') (h : letterEscape? c = some d)
    (rest : List Char) : ReadsEscape [c] rest d := by
  refine ⟨?_, fun start n ds _ => ?_⟩
  · rw [List.mem_singleton]
    rintro rfl
    cases h
  · simp only [List.singleton_append, readEscape, h]
    rfl

theorem readsEscape_quad {high : Nat} {four rest : List Char} (hfour : four.length = 4)
    (hr : '\r' ∉ four) (hrest : rest ≠ [])
    (hquad : ∀ other, hexQuad? (four ++ other) = some high) (hl : ¬ LooksFurther high rest) :
    ReadsEscape ('u' :: four) rest (codePoint high) := by
  refine ⟨?_, fun start n ds hs => ?_⟩
  · simpa using hr
  · rw [List.cons_append, List.length_cons, hfour]
    exact readEscape_of_not_looksFurther hfour (hs.ne_nil hrest) (hquad ds)
      fun h => hl (h.of_sameLines hs)

section

variable {high low : Nat} {four four' more : List Char}

/-- Two code points one after the other are read alike. -/
theorem readEscape_pair (hfour : four.length = 4) (hfour' : four'.length = 4)
    (hquad : ∀ other, hexQuad? (four ++ other) = some high)
    (hquad' : ∀ other, hexQuad? (four' ++ other) = some low)
    (hl : LooksFurther high ('\\' :: 'u' :: (four' ++ more))) {ds : List Char}
    (hs : SameLines more ds) (start n : Nat) :
    readEscape start n ('u' :: (four ++ '\\' :: 'u' :: (four' ++ ds)))
      = .ok (pairPoint high low) := by
  have hmore : more ≠ [] := by
    rintro rfl
    simpa [hfour'] using hl.long
  rw [readEscape_of_looksFurther hfour (hquad _) (hl.sameLines hfour' (hs.ne_nil hmore)), hquad']

theorem readsEscape_pair (hfour : four.length = 4) (hfour' : four'.length = 4)
    (hr : '\r' ∉ four) (hr' : '\r' ∉ four')
    (hquad : ∀ other, hexQuad? (four ++ other) = some high)
    (hquad' : ∀ other, hexQuad? (four' ++ other) = some low)
    (hl : LooksFurther high ('\\' :: 'u' :: (four' ++ more))) :
    ∃ escape rest, 'u' :: (four ++ '\\' :: 'u' :: (four' ++ more)) = escape ++ rest
      ∧ escape.length = (pairPoint high low).2 ∧ ReadsEscape escape rest (pairPoint high low).1 := by
  have hread := fun start n ds (hs : SameLines more ds) =>
    readEscape_pair hfour hfour' hquad hquad' hl hs start n
  by_cases hlow : 0xDC00 ≤ low ∧ low ≤ 0xDFFF
  · -- the other half belongs to the escape
    simp only [pairPoint, if_pos hlow] at hread ⊢
    refine ⟨'u' :: (four ++ '\\' :: 'u' :: four'), more, by simp, by simp [hfour, hfour'],
      by simp [hr, hr'], fun start n ds hs => ?_⟩
    simpa [hfour, hfour'] using hread start n ds hs
  · -- what was looked for is no other half, but it was looked at
    simp only [pairPoint, if_neg hlow] at hread ⊢
    refine ⟨'u' :: four, '\\' :: 'u' :: (four' ++ more), by simp, by simp [hfour],
      by simp [hr], fun start n ds hs => ?_⟩
    have hword : '\r' ∉ ['\\', 'u'] ++ four' := by simp [hr']
    obtain ⟨ds, rfl, hds⟩ := SameLines.of_append hword (by simpa using hs)
    simpa [hfour] using hread start n ds hds

end

/-- An escape is read alike whatever comes behind it, but for the ends of lines. -/
theorem exists_of_readEscape {start n width : Nat} {d : Char} {cs : List Char}
    (h : readEscape start n cs = .ok (d, width)) :
    ∃ escape rest, cs = escape ++ rest ∧ escape.length = width ∧ ReadsEscape escape rest d := by
  rcases cs with _ | ⟨c, digits⟩
  · cases h
  by_cases hu : c = 'u'
  · subst hu
    -- four digits, and a character behind them
    have hlong : ¬ digits.length < 5 := by
      intro hshort
      rw [readEscape, if_pos hshort] at h
      cases h
    obtain ⟨high, hquad⟩ : ∃ high, hexQuad? digits = some high := by
      rcases hnone : hexQuad? digits with _ | high
      · simp only [readEscape, if_neg hlong, hnone] at h
        cases h
      · exact ⟨high, rfl⟩
    obtain ⟨four, rest, rfl, hfour, ⟨hr, -⟩, hread⟩ := exists_of_hexQuad? hquad
    have hrest : rest ≠ [] := by
      rintro rfl
      simp [hfour] at hlong
    by_cases hl : LooksFurther high rest
    · obtain ⟨more, rfl⟩ := hl.escaped
      simp only [List.cons_append, List.nil_append] at *
      rw [readEscape_of_looksFurther hfour hquad hl] at h
      rcases hnone : hexQuad? more with _ | low
      · simp only [hnone] at h
        cases h
      · obtain ⟨four', more, rfl, hfour', ⟨hr', -⟩, hread'⟩ := exists_of_hexQuad? hnone
        simp only [hnone, Except.ok.injEq] at h
        have hpair := readsEscape_pair hfour hfour' hr hr' hread hread' hl
        rwa [h] at hpair
    · rw [readEscape_of_not_looksFurther hfour hrest hquad hl] at h
      cases h
      exact ⟨_, rest, rfl, by rw [List.length_cons, hfour],
        readsEscape_quad hfour hr hrest hread hl⟩
  · rw [readEscape] at h
    · rcases hletter : letterEscape? c with _ | e
      · simp only [hletter] at h
        cases h
      · simp only [hletter] at h
        cases h
        exact ⟨[c], digits, rfl, rfl, readsEscape_letter hu hletter digits⟩
    · exact hu

theorem exists_of_readQuoted {start n : Nat} {cs ds chars : List Char} {cursor : Cursor}
    (h : readQuoted start 0 cs n = .ok (chars, cursor)) (hs : SameLines cs ds) :
    ∃ more, SameLines cursor.rest more ∧ more.length < ds.length
      ∧ ∀ start n, ∃ k, readQuoted start 0 ds n = .ok (chars, ⟨more, k⟩) := by
  induction hlength : cs.length using Nat.strong_induction_on
    generalizing cs ds chars n with
  | _ length ih =>
  subst hlength
  rcases cs with _ | ⟨c, cs⟩
  · cases h
  rw [readQuoted] at h
  by_cases hquote : c = '"'
  · -- the closing quote
    subst hquote
    rw [if_pos rfl] at h
    cases h
    obtain ⟨more, rfl, hmore⟩ := hs.of_cons (by decide)
    exact ⟨more, hmore, by simp, fun start n => ⟨_, rfl⟩⟩
  rw [if_neg hquote] at h
  by_cases hescape : c = '\\'
  · subst hescape
    rw [if_pos rfl] at h
    rcases he : readEscape start n cs with fault | ⟨d, width⟩
    · simp only [he, bind, Except.bind] at h
      cases h
    obtain ⟨escape, rest, rfl, rfl, hr, hread⟩ := exists_of_readEscape he
    simp only [he, bind, Except.bind, readQuoted_skip] at h
    rcases hq : readQuoted start 0 rest (n + 1 + escape.length) with fault | ⟨chars, cursor⟩
    · simp only [hq] at h
      cases h
    simp only [hq] at h
    cases h
    obtain ⟨tail, rfl, htail⟩ := hs.of_cons (by decide)
    obtain ⟨ds, rfl, hds⟩ := htail.of_append hr
    have hlonger : ∀ cs : List Char, cs.length < ('\\' :: (escape ++ cs)).length := fun cs => by
      rw [List.length_cons, List.length_append]
      omega
    obtain ⟨more, hmore, hshort, hall⟩ := ih _ (hlonger rest) hq hds rfl
    refine ⟨more, hmore, hshort.trans (hlonger ds), fun start n => ?_⟩
    obtain ⟨k, hk⟩ := hall start (n + (escape.length + 1))
    exact ⟨k, readQuoted_escape escape (hread start n ds hds) hk⟩
  · rw [if_neg hescape] at h
    by_cases hcontrol : c.toNat < 0x20
    · rw [if_pos hcontrol] at h
      cases h
    rw [if_neg hcontrol] at h
    rcases hq : readQuoted start 0 cs (n + 1) with fault | ⟨chars, cursor⟩
    · simp only [hq, bind, Except.bind] at h
      cases h
    simp only [hq, bind, Except.bind] at h
    cases h
    have hreturn : c ≠ '\r' := by
      rintro rfl
      exact hcontrol (by decide)
    obtain ⟨ds, rfl, hds⟩ := hs.of_cons hreturn
    obtain ⟨more, hmore, hshort, hall⟩ := ih _ (Nat.lt_succ_self _) hq hds rfl
    refine ⟨more, hmore, Nat.lt_succ_of_lt hshort, fun start n => ?_⟩
    obtain ⟨k, hk⟩ := hall start (n + 1)
    exact ⟨k, readQuoted_plain hquote hescape hcontrol hk⟩

/-- A quoted text is read alike: no line ends in it. -/
theorem exists_of_readText {n : Nat} {cs ds : List Char} {text : String} {cursor : Cursor}
    (h : readText cs n = .ok (text, cursor)) (hs : SameLines cs ds) :
    ∃ more, SameLines cursor.rest more ∧ ReadsAt readText ds text more := by
  rcases hq : readQuoted n 0 cs (n + 1) with fault | ⟨chars, cursor⟩
  · simp only [readText, hq, bind, Except.bind] at h
    cases h
  simp only [readText, hq, bind, Except.bind] at h
  cases h
  obtain ⟨more, hmore, hshort, hall⟩ := exists_of_readQuoted hq hs
  refine ⟨more, hmore, hshort, fun n => ?_⟩
  obtain ⟨k, hk⟩ := hall n (n + 1)
  exact ⟨k, by simp only [readText, hk, bind, Except.bind]⟩

/-! ## Numbers -/

namespace SameLines

variable {cs ds : List Char}

theorem not_mem_digits (cs : List Char) : '\r' ∉ cs.takeWhile Char.isDigit := fun h => by
  have hdigit := List.mem_takeWhile_imp h
  cases hdigit

/-- A row of digits is the same. -/
theorem digits_eq (h : SameLines cs ds) :
    cs.takeWhile Char.isDigit = ds.takeWhile Char.isDigit :=
  h.takeWhile_eq rfl rfl

theorem drop_digits (h : SameLines cs ds) :
    SameLines (cs.drop (cs.takeWhile Char.isDigit).length)
      (ds.drop (cs.takeWhile Char.isDigit).length) :=
  h.drop (not_mem_digits cs) (List.takeWhile_prefix _)

theorem wholePart_eq (h : SameLines cs ds) : wholePart cs = wholePart ds := by
  cases h with
  | nil => rfl
  | cons c h => rw [wholePart, wholePart, h.digits_eq]
  | single h => rfl
  | double h => rfl

theorem drop_wholePart (h : SameLines cs ds) :
    SameLines (cs.drop (wholePart cs).length) (ds.drop (wholePart cs).length) := by
  rcases cs with _ | ⟨c, cs⟩
  · exact h
  rw [wholePart]
  split_ifs with hzero hdigit
  · subst hzero
    exact h.drop (by decide) (List.prefix_append ['0'] cs)
  · obtain ⟨ds, rfl, hds⟩ := h.of_cons (by rintro rfl; cases hdigit)
    exact hds.drop_digits
  · exact h

theorem fractionPart_eq (h : SameLines cs ds) : fractionPart cs = fractionPart ds := by
  cases h with
  | nil => rfl
  | cons c h =>
    by_cases hpoint : c = '.'
    · subst hpoint
      exact h.digits_eq
    · rw [fractionPart, fractionPart] <;> exact fun more hmore => hpoint (List.cons.inj hmore).1
  | single h => rfl
  | double h => rfl

theorem drop_fractionPart (h : SameLines cs ds) :
    let width := if (fractionPart cs).isEmpty then 0 else (fractionPart cs).length + 1
    SameLines (cs.drop width) (ds.drop width) := by
  unfold fractionPart
  split
  · next cs =>
    obtain ⟨ds, rfl, hds⟩ := h.of_cons (by decide)
    by_cases hnone : (cs.takeWhile Char.isDigit).isEmpty = true
    · simpa only [if_pos hnone, List.drop_zero] using h
    · simpa only [if_neg hnone, List.drop_succ_cons] using hds.drop_digits
  · exact h

end SameLines

/-- The sign in front of digits: whether it is a minus, and how many characters it takes. -/
def signPart : List Char → Bool × Nat
  | [] => (false, 0)
  | c :: _ => if c = '-' then (true, 1) else if c = '+' then (false, 1) else (false, 0)

theorem exponentPart_cons {c : Char} (hc : c = 'e' ∨ c = 'E') (cs : List Char) :
    exponentPart (c :: cs) =
      let digits := (cs.drop (signPart cs).2).takeWhile Char.isDigit
      if digits.isEmpty then none
      else some ((signPart cs).1, digits, 1 + (signPart cs).2 + digits.length) := by
  refine (if_pos hc).trans ?_
  rcases cs with _ | ⟨d, cs⟩
  · rfl
  by_cases hminus : d = '-'
  · subst hminus
    rfl
  by_cases hplus : d = '+'
  · subst hplus
    rfl
  · simp [signPart, hminus, hplus]

theorem exponentPart_of_ne {c : Char} (hc : ¬ (c = 'e' ∨ c = 'E')) (cs : List Char) :
    exponentPart (c :: cs) = none :=
  if_neg hc

namespace SameLines

variable {cs ds : List Char}

theorem signPart_eq (h : SameLines cs ds) : signPart cs = signPart ds := by
  cases h with
  | nil => rfl
  | cons c h => rfl
  | single h => rfl
  | double h => rfl

theorem drop_signPart (h : SameLines cs ds) :
    SameLines (cs.drop (signPart cs).2) (ds.drop (signPart cs).2) := by
  rcases cs with _ | ⟨c, cs⟩
  · exact h
  rw [signPart]
  split_ifs with hminus hplus
  · subst hminus
    exact h.drop (by decide) (List.prefix_append ['-'] cs)
  · subst hplus
    exact h.drop (by decide) (List.prefix_append ['+'] cs)
  · exact h

theorem exponentPart_eq (h : SameLines cs ds) : exponentPart cs = exponentPart ds := by
  cases h with
  | nil => rfl
  | @cons c cs ds h =>
    by_cases hc : c = 'e' ∨ c = 'E'
    · rw [exponentPart_cons hc, exponentPart_cons hc, ← h.signPart_eq, h.drop_signPart.digits_eq]
    · rw [exponentPart_of_ne hc, exponentPart_of_ne hc]
  | single h => rfl
  | double h => rfl

theorem drop_exponentPart {down : Bool} {digits : List Char} {width : Nat} (h : SameLines cs ds)
    (he : exponentPart cs = some (down, digits, width)) :
    SameLines (cs.drop width) (ds.drop width) := by
  rcases cs with _ | ⟨c, cs⟩
  · cases he
  by_cases hc : c = 'e' ∨ c = 'E'
  · obtain ⟨ds, rfl, hds⟩ := h.of_cons (by rintro rfl; revert hc; decide)
    simp only [exponentPart_cons hc] at he
    split_ifs at he with hnone
    simp only [Option.some.injEq, Prod.mk.injEq] at he
    obtain ⟨-, -, rfl⟩ := he
    rw [Nat.add_assoc, Nat.add_comm 1, List.drop_succ_cons, List.drop_succ_cons,
      ← List.drop_drop, ← List.drop_drop]
    exact hds.drop_signPart.drop_digits
  · rw [exponentPart_of_ne hc] at he
    cases he

end SameLines

theorem prefix_wholePart (cs : List Char) : wholePart cs <+: cs := by
  rcases cs with _ | ⟨c, cs⟩
  · exact List.nil_prefix
  rw [wholePart]
  split_ifs with hzero hdigit
  · subst hzero
    exact List.prefix_append ['0'] cs
  · exact List.cons_prefix_cons.2 ⟨rfl, List.takeWhile_prefix _⟩
  · exact List.nil_prefix

theorem exists_of_readMagnitude {negative : Bool} {n sign : Nat} {cs ds : List Char} {v : Value}
    {cursor : Cursor} (h : readMagnitude negative cs n sign = .ok (v, cursor))
    (hs : SameLines cs ds) :
    ∃ more, SameLines cursor.rest more ∧ more.length < ds.length
      ∧ ∀ n sign, ∃ k, readMagnitude negative ds n sign = .ok (v, ⟨more, k⟩) := by
  have hwhole := hs.drop_wholePart
  have hfraction := hwhole.drop_fractionPart
  by_cases hnone : (wholePart cs).isEmpty = true
  · simp only [readMagnitude, if_pos hnone] at h
    cases h
  -- the whole part at least is taken
  have hshort : (ds.drop (wholePart cs).length).length < ds.length := by
    have hpos : 0 < (wholePart cs).length := by simpa [List.length_pos_iff] using hnone
    have hle := hs.wholePart_eq ▸ (prefix_wholePart ds).length_le
    rw [List.length_drop]
    omega
  have hdrop : ∀ (k : Nat) (more : List Char), (more.drop k).length ≤ more.length := fun k more =>
    (List.drop_sublist k more).length_le
  simp only [readMagnitude, if_neg hnone] at h
  simp only [readMagnitude, ← hs.wholePart_eq, ← hwhole.fractionPart_eq, ← hfraction.exponentPart_eq,
    if_neg hnone]
  rcases hexponent : exponentPart _ with _ | ⟨down, digits, width⟩
  · simp only [hexponent] at h ⊢
    cases h
    exact ⟨_, hfraction, (hdrop _ _).trans_lt hshort, fun n sign => ⟨_, rfl⟩⟩
  · simp only [hexponent] at h ⊢
    cases h
    exact ⟨_, hfraction.drop_exponentPart hexponent,
      ((hdrop _ _).trans (hdrop _ _)).trans_lt hshort, fun n sign => ⟨_, rfl⟩⟩

theorem exists_of_readNumber {n : Nat} {cs ds : List Char} {v : Value} {cursor : Cursor}
    (h : readNumber cs n = .ok (v, cursor)) (hs : SameLines cs ds) :
    ∃ more, SameLines cursor.rest more ∧ ReadsAt readNumber ds v more := by
  by_cases hminus : ∃ digits, cs = '-' :: digits
  · obtain ⟨digits, rfl⟩ := hminus
    obtain ⟨ds, rfl, hds⟩ := hs.of_cons (by decide)
    obtain ⟨more, hmore, hshort, hall⟩ := exists_of_readMagnitude h hds
    exact ⟨more, hmore, Nat.lt_succ_of_lt hshort, fun n => hall n 1⟩
  · have hne := not_exists.1 hminus
    have hplain : ∀ {cs : List Char}, (∀ digits, cs ≠ '-' :: digits) → ∀ n,
        readNumber cs n = readMagnitude false cs n 0 := fun hne n => by
      rw [readNumber]
      exact hne
    rw [hplain hne] at h
    obtain ⟨more, hmore, hshort, hall⟩ := exists_of_readMagnitude h hs
    exact ⟨more, hmore, hshort, fun n => by rw [hplain (hs.ne_cons (by decide) hne)]; exact hall n 0⟩

theorem plain_words : ∀ word ∈ words, '\r' ∉ word.1 ∧ '\n' ∉ word.1 ∧ word.1 ≠ [] := by
  rw [words_eq]
  decide

/-- A word or a number is read alike: no line ends in it. -/
theorem exists_of_readScalar {n : Nat} {cs ds : List Char} {v : Value} {cursor : Cursor}
    (h : readScalar cs n = .ok (v, cursor)) (hs : SameLines cs ds) :
    ∃ more, SameLines cursor.rest more ∧ ReadsAt readScalar ds v more := by
  have hfind : (words.find? fun word => word.1.isPrefixOf cs)
      = words.find? fun word => word.1.isPrefixOf ds := by
    have hsame : ∀ word ∈ words, word.1.isPrefixOf cs = word.1.isPrefixOf ds := fun word hword =>
      hs.isPrefixOf_eq (plain_words word hword).1 (plain_words word hword).2.1
    rw [← List.head?_filter, ← List.head?_filter, List.filter_congr hsame]
  rcases hword : words.find? fun word => word.1.isPrefixOf cs with _ | ⟨word, value⟩
  · simp only [readScalar, hword] at h
    obtain ⟨more, hmore, hshort, hall⟩ := exists_of_readNumber h hs
    refine ⟨more, hmore, hshort, fun n => ?_⟩
    simpa only [readScalar, ← hfind, hword] using hall n
  · obtain ⟨hr, hn, hne⟩ := plain_words _ (List.mem_of_find?_eq_some hword)
    have hprefix : word <+: cs := by simpa using List.find?_some hword
    simp only [readScalar, hword] at h
    cases h
    refine ⟨_, hs.drop hr hprefix, ?_, fun n => ⟨n + word.length, ?_⟩⟩
    · rw [← List.isPrefixOf_iff_prefix, hs.isPrefixOf_eq hr hn, List.isPrefixOf_iff_prefix]
        at hprefix
      have hpos : 0 < word.length := List.length_pos_iff.2 hne
      have hle : word.length ≤ ds.length := hprefix.length_le
      change (ds.drop word.length).length < ds.length
      rw [List.length_drop]
      omega
    · simp only [readScalar, ← hfind, hword]

end FormAutomation.Json
