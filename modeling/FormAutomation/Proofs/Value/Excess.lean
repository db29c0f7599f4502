import FormAutomation.Proofs.Value.Marks

/-!
# Values that do not ask too much

The search for marks goes along with the reader.  What the reader takes for a value it passes,
and it comes upon a mark for every bracket and every whole number in it.  So the value of a text
that does not ask too much has short numbers and is not nested deeply.
-/

namespace FormAutomation

/-- The whole numbers of a value have no more digits than are converted, and its brackets are
nested in no more than so many levels. -/
inductive Value.Fits : Nat → Value → Prop where
  /-- nothing -/
  | null {levels : Nat} : Fits levels .null
  /-- a truth value -/
  | bool {levels : Nat} (b : Bool) : Fits levels (.bool b)
  /-- a short whole number -/
  | int {levels : Nat} {n : Int} (h : n.natAbs < Nat.pow 10 Numeral.longest) : Fits levels (.int n)
  /-- a number with a point or an exponent -/
  | float {levels : Nat} (x : Binary64) : Fits levels (.float x)
  /-- a text -/
  | text {levels : Nat} (s : String) : Fits levels (.text s)
  /-- a list, whose items are one level deeper -/
  | list {levels : Nat} {items : List Value} (h : ∀ v ∈ items, Fits levels v) :
      Fits (levels + 1) (.list items)
  /-- an object, whose entries are one level deeper -/
  | object {levels : Nat} {fields : Entries Value} (h : ∀ entry ∈ fields, Fits levels entry.2) :
      Fits (levels + 1) (.object fields)

namespace Entries

variable {α : Type} {name : String} {a : α} {entry : String × α}

theorem eq_or_mem_of_mem_put {entries : Entries α} (h : entry ∈ entries.put name a) :
    entry = (name, a) ∨ entry ∈ entries := by
  induction entries with
  | nil => exact .inl (List.mem_singleton.1 h)
  | cons first rest ih =>
    rw [put] at h
    split at h
    · exact (List.mem_cons.1 h).imp_right (List.mem_cons_of_mem first)
    · obtain rfl | h := List.mem_cons.1 h
      · exact .inr List.mem_cons_self
      · exact (ih h).imp_right (List.mem_cons_of_mem first)

/-- Entries come from those that they are made of. -/
theorem mem_of_mem_overlay {base patch : Entries α} (h : entry ∈ base.overlay patch) :
    entry ∈ base ∨ entry ∈ patch := by
  induction patch generalizing base with
  | nil => exact .inl h
  | cons first rest ih =>
    rcases ih h with hbase | hrest
    · exact (eq_or_mem_of_mem_put hbase).elim (fun heq => .inr (heq ▸ List.mem_cons_self)) .inl
    · exact .inr (List.mem_cons_of_mem first hrest)

theorem mem_of_mem_ofList {pairs : List (String × α)} (h : entry ∈ ofList pairs) :
    entry ∈ pairs :=
  (mem_of_mem_overlay h).resolve_left List.not_mem_nil

end Entries

namespace Text

theorem digitValue?_lt {c : Char} {d : Nat} (h : digitValue? c = some d) : d < 10 := by
  obtain ⟨z, hz, rfl⟩ := Option.map_eq_some_iff.1 h
  have hin := List.find?_some hz
  simp only [Bool.and_eq_true, decide_eq_true_eq] at hin
  omega

/-- Digits write a number with as many places. -/
theorem digitsValue_lt (cs : List Char) : digitsValue cs < Nat.pow 10 cs.length := by
  induction cs with
  | nil => exact Nat.one_pos
  | cons c cs ih =>
    have hdigit : digitsValue [c] < 10 := by
      rw [digitsValue, List.foldl_cons, List.foldl_nil, Nat.mul_zero, Nat.zero_add]
      rcases hc : digitValue? c with _ | d
      · exact Nat.succ_pos 9
      · exact digitValue?_lt hc
    have happend := digitsValue_append [c] cs
    rw [List.singleton_append] at happend
    have hpow : Nat.pow 10 (c :: cs).length = 10 * Nat.pow 10 cs.length := Nat.pow_succ'
    have hle := Nat.mul_le_mul_right (Nat.pow 10 cs.length) (Nat.le_of_lt_succ hdigit)
    omega

end Text

namespace Json

/-! ## Tokens -/

theorem eq_half_of_mem_escapeMark {cs : List Char} {mark : Mark}
    (h : mark ∈ (escapeMark cs).1.toList) : mark = .half := by
  unfold escapeMark at h
  split at h
  · cases h
  · split at h
    · split_ifs at h
      · cases h
      · cases h
      · exact List.mem_singleton.1 h
    · cases h
  · cases h

/-- A quoted text is passed up to its closing quote, and nothing but halves is marked. -/
theorem exists_marks_of_readQuoted {start skip n : Nat} {cs chars : List Char} {cursor : Cursor}
    (h : readQuoted start skip cs n = .ok (chars, cursor)) :
    ∃ halves, (∀ mark ∈ halves, mark = .half)
      ∧ marks true skip cs = halves ++ marks false 0 cursor.rest := by
  induction cs generalizing skip n chars cursor with
  | nil => cases skip <;> cases h
  | cons c cs ih =>
    cases skip with
    | succ skip => exact ih h
    | zero =>
      rw [readQuoted] at h
      rw [marks]
      split_ifs at h ⊢ with hquote hescape
      · cases h
        exact ⟨[], List.forall_mem_nil _, rfl⟩
      · obtain ⟨⟨d, width⟩, he, h⟩ := exists_of_bind_eq_ok h
        obtain ⟨⟨ds, cursor⟩, hrest, h⟩ := exists_of_bind_eq_ok h
        cases h
        obtain ⟨halves, hhalves, hmarks⟩ := ih hrest
        rw [escapeMark_of_readEscape he, hmarks, ← List.append_assoc]
        refine ⟨_, fun mark hmark => ?_, rfl⟩
        exact (List.mem_append.1 hmark).elim eq_half_of_mem_escapeMark (hhalves mark)
      · obtain ⟨⟨ds, cursor⟩, hrest, h⟩ := exists_of_bind_eq_ok h
        cases h
        exact ih hrest

theorem exists_marks_of_readText {n : Nat} {cs : List Char} {s : String} {cursor : Cursor}
    (h : readText cs n = .ok (s, cursor)) :
    ∃ halves, (∀ mark ∈ halves, mark = .half)
      ∧ marks true 0 cs = halves ++ marks false 0 cursor.rest := by
  obtain ⟨⟨ds, cursor⟩, hquoted, h⟩ := exists_of_bind_eq_ok h
  cases h
  exact exists_marks_of_readQuoted hquoted

section

variable {negative : Bool} {n sign : Nat} {cs : List Char} {v : Value} {cursor : Cursor}

theorem pos_of_exponentPart {digits : List Char} {down : Bool} {width : Nat}
    (h : exponentPart cs = some (down, digits, width)) : 0 < width := by
  rcases cs with _ | ⟨c, cs⟩
  · cases h
  by_cases hc : c = 'e' ∨ c = 'E'
  · simp only [exponentPart_cons hc] at h
    split_ifs at h
    simp only [Option.some.injEq, Prod.mk.injEq] at h
    omega
  · rw [exponentPart_of_ne hc] at h
    cases h

/-- What is read of a number: a whole number has nothing behind its whole part. -/
theorem of_readMagnitude (h : readMagnitude negative cs n sign = .ok (v, cursor)) :
    wholePart cs ≠ [] ∧ cursor.rest = cs.drop ((wholePart cs).length + tailWidth cs)
      ∧ (tailWidth cs ≠ 0 ∧ (∃ x, v = .float x) ∨ tailWidth cs = 0
        ∧ ∃ i : Int, v = .int i ∧ i.natAbs = Text.digitsValue (wholePart cs)) := by
  by_cases hnone : (wholePart cs).isEmpty = true
  · simp only [readMagnitude, if_pos hnone] at h
    cases h
  have hfraction : ∀ ds : List Char,
      (if (fractionPart ds).isEmpty then 0 else (fractionPart ds).length + 1) = fractionWidth ds :=
    fun _ => rfl
  refine ⟨mt List.isEmpty_iff.2 hnone, ?_⟩
  simp only [readMagnitude, if_neg hnone, hfraction] at h
  simp only [tailWidth, exponentWidth, ← List.drop_drop]
  rcases hexponent : exponentPart _ with _ | ⟨down, digits, width⟩
  · simp only [hexponent] at h ⊢
    cases h
    refine ⟨rfl, ?_⟩
    rw [fractionWidth]
    split
    · refine .inr ⟨rfl, _, rfl, ?_⟩
      split
      · exact Int.natAbs_neg _
      · rfl
    · exact .inl ⟨Nat.succ_ne_zero _, _, rfl⟩
  · have hpos := pos_of_exponentPart hexponent
    simp only [hexponent] at h ⊢
    cases h
    exact ⟨rfl, .inl ⟨by omega, _, rfl⟩⟩

theorem exists_digit_of_wholePart (h : wholePart cs ≠ []) :
    ∃ c tail, cs = c :: tail ∧ c.isDigit = true := by
  rcases cs with _ | ⟨c, tail⟩
  · exact absurd rfl h
  refine ⟨c, tail, rfl, ?_⟩
  by_contra hc
  refine h ?_
  rw [wholePart, if_neg hc, if_neg]
  rintro rfl
  exact hc rfl

/-- What is marked of a value that is no container: its digits if it is a whole number, and
nothing else. -/
inductive IsMarked : Value → List Mark → Prop where
  /-- nothing -/
  | null : IsMarked .null []
  /-- a truth value -/
  | bool (b : Bool) : IsMarked (.bool b) []
  /-- a whole number -/
  | int {i : Int} {digits : Nat} (h : i.natAbs < Nat.pow 10 digits) :
      IsMarked (.int i) [.whole digits]
  /-- a number with a point or an exponent -/
  | float (x : Binary64) : IsMarked (.float x) []

/-- A number is passed, and what is marked is right. -/
theorem exists_marks_of_readMagnitude (h : readMagnitude negative cs n sign = .ok (v, cursor)) :
    ∃ found, IsMarked v found ∧ marks false 0 cs = found ++ marks false 0 cursor.rest := by
  obtain ⟨hwhole, hrest, hv⟩ := of_readMagnitude h
  obtain ⟨c, tail, rfl, hc⟩ := exists_digit_of_wholePart hwhole
  rw [marks_digit hc, ← hrest, wholeMark?]
  rcases hv with ⟨htail, x, rfl⟩ | ⟨htail, i, rfl, hi⟩
  · rw [if_neg htail]
    exact ⟨[], .float x, rfl⟩
  · rw [if_pos htail]
    exact ⟨[_], .int (hi ▸ Text.digitsValue_lt _), rfl⟩

theorem exists_marks_of_readNumber (h : readNumber cs n = .ok (v, cursor)) :
    ∃ found, IsMarked v found ∧ marks false 0 cs = found ++ marks false 0 cursor.rest := by
  unfold readNumber at h
  split at h
  · -- a minus is passed by itself
    obtain ⟨found, hfound, hmarks⟩ := exists_marks_of_readMagnitude h
    exact ⟨found, hfound, hmarks⟩
  · exact exists_marks_of_readMagnitude h

/-- A word is passed without a mark. -/
theorem marks_word {word : List Char} (hw : ∀ c ∈ word, c ≠ '"' ∧ c.isDigit = false
    ∧ bracketMark? c = none) (cs : List Char) : marks false 0 (word ++ cs) = marks false 0 cs := by
  induction word with
  | nil => rfl
  | cons c word ih =>
    obtain ⟨hquote, hdigit, hbracket⟩ := hw c List.mem_cons_self
    rw [List.cons_append, marks, if_neg hquote, hdigit, if_neg (by decide), hbracket,
      ih fun d hd => hw d (List.mem_cons_of_mem c hd)]
    rfl

theorem unmarked_words : ∀ word ∈ words,
    ∀ c ∈ word.1, c ≠ '"' ∧ c.isDigit = false ∧ bracketMark? c = none := by
  have hall : words.all (fun word => word.1.all fun c =>
      c != '"' && !c.isDigit && (bracketMark? c).isNone) = true := by
    rw [words_eq]
    rfl
  intro word hword c hc
  have hchar := List.all_eq_true.1 (List.all_eq_true.1 hall word hword) c hc
  simpa [and_assoc] using hchar

theorem isMarked_of_words : ∀ word ∈ words, IsMarked word.2 [] := by
  intro word hword
  rw [words_eq] at hword
  simp only [List.mem_cons, List.not_mem_nil, or_false] at hword
  rcases hword with rfl | rfl | rfl | rfl | rfl | rfl
  · exact .null
  · exact .bool true
  · exact .bool false
  all_goals exact .float _

/-- A word or a number is passed, and what is marked is right. -/
theorem exists_marks_of_readScalar (h : readScalar cs n = .ok (v, cursor)) :
    ∃ found, IsMarked v found ∧ marks false 0 cs = found ++ marks false 0 cursor.rest := by
  rcases hword : words.find? fun word => word.1.isPrefixOf cs with _ | ⟨word, value⟩
  · simp only [readScalar, hword] at h
    exact exists_marks_of_readNumber h
  · have hmem := List.mem_of_find?_eq_some hword
    have hprefix : word <+: cs := by simpa using List.find?_some hword
    obtain ⟨rest, rfl⟩ := hprefix
    simp only [readScalar, hword] at h
    cases h
    refine ⟨[], isMarked_of_words _ hmem, ?_⟩
    rw [List.drop_left, List.nil_append, marks_word (unmarked_words _ hmem)]

end

/-! ## Values -/

theorem marks_skipSpace (cs : List Char) (n : Nat) :
    marks false 0 (skipSpace cs n).rest = marks false 0 cs := by
  induction cs generalizing n with
  | nil => rfl
  | cons c cs ih =>
    rw [skipSpace]
    split
    · next hspace =>
      have hblank : c = ' ' ∨ c = '\t' ∨ c = '\n' ∨ c = '\r' := by
        simpa [isSpace, or_assoc] using hspace
      rw [ih]
      rcases hblank with rfl | rfl | rfl | rfl <;> rfl
    · rfl

theorem marks_behind (cs : List Char) : marks false 0 (behind cs) = marks false 0 cs :=
  marks_skipSpace cs 0

/-- Behind white space a sign is passed. -/
theorem marks_of_behind_eq {cs rest : List Char} {c : Char} (h : behind cs = c :: rest)
    (hc : c ≠ '"' ∧ c.isDigit = false) :
    marks false 0 cs = (bracketMark? c).toList ++ marks false 0 rest := by
  rw [← marks_behind, h, marks, if_neg hc.1, hc.2, if_neg (by decide)]

/-- How many brackets are open behind a part: the items of a list close one, and so do the
entries of an object. -/
def Part.depthBehind (depth : Nat) : Part → Nat
  | .value _ => depth
  | .items _ => depth - 1
  | .entries _ => depth - 1

/-- The values of a part fit. -/
def Part.Fit (levels : Nat) : Part → Prop
  | .value v => v.Fits levels
  | .items values => ∀ v ∈ values, v.Fits levels
  | .entries fields => ∀ entry ∈ fields, entry.2.Fits levels

/-- Where these marks are no excess the values of the part fit. -/
def Part.IsJudged (part : Part) (found : List Mark) : Prop :=
  ∀ depth more, firstExcess? depth (found ++ more) = none →
    part.Fit (deepest - depth) ∧ firstExcess? (part.depthBehind depth) more = none

/-- The search passes the part and finds marks by which the part is judged. -/
def Part.IsSearched (part : Part) (cs rest : List Char) : Prop :=
  ∃ found, marks false 0 cs = found ++ marks false 0 rest ∧ part.IsJudged found

theorem firstExcess?_halves {halves : List Mark} (h : ∀ mark ∈ halves, mark = .half) (depth : Nat)
    (more : List Mark) : firstExcess? depth (halves ++ more) = firstExcess? depth more := by
  induction halves with
  | nil => rfl
  | cons mark halves ih =>
    obtain rfl := h mark List.mem_cons_self
    exact ih fun other hother => h other (List.mem_cons_of_mem _ hother)

theorem isJudged_of_isMarked {v : Value} {found : List Mark} (h : IsMarked v found) :
    (Part.value v).IsJudged found := by
  intro depth more hnone
  cases h with
  | null => exact ⟨.null, hnone⟩
  | bool b => exact ⟨.bool b, hnone⟩
  | float x => exact ⟨.float x, hnone⟩
  | @int i digits hi =>
    rw [List.singleton_append, firstExcess?] at hnone
    split_ifs at hnone with hlong
    have hpow : ∀ {longest : Nat}, digits ≤ longest → i.natAbs < Nat.pow 10 longest := fun hle =>
      hi.trans_le (Nat.pow_le_pow_right (Nat.succ_pos 9) hle)
    exact ⟨.int (hpow (Nat.not_lt.1 hlong)), hnone⟩

/-- What opens a bracket and what closes it. -/
theorem firstExcess?_opening {depth : Nat} {more : List Mark}
    (h : firstExcess? depth (.opening :: more) = none) :
    depth < deepest ∧ firstExcess? (depth + 1) more = none := by
  rw [firstExcess?] at h
  split_ifs at h with hdeep
  exact ⟨Nat.not_le.1 hdeep, h⟩

namespace Part.IsSearched

variable {cs more next after further rest : List Char} {v : Value} {values : List Value}
  {name s : String} {fields : List (String × Value)}

theorem text (h : ReadsAt readText cs s rest) : (value (.text s)).IsSearched ('"' :: cs) rest := by
  obtain ⟨k, hk⟩ := h.2 0
  obtain ⟨halves, hhalves, hmarks⟩ := exists_marks_of_readText hk
  refine ⟨halves, hmarks, fun depth more hnone => ⟨.text s, ?_⟩⟩
  rwa [firstExcess?_halves hhalves] at hnone

theorem scalar (h : ReadsAt readScalar cs v rest) : (value v).IsSearched cs rest := by
  obtain ⟨k, hk⟩ := h.2 0
  obtain ⟨found, hfound, hmarks⟩ := exists_marks_of_readScalar hk
  exact ⟨found, hmarks, isJudged_of_isMarked hfound⟩

/-- Behind a bracket that opens everything is one level deeper. -/
theorem opening {c : Char} {part inside : Part} (h : inside.IsSearched (behind cs) rest)
    (hc : bracketMark? c = some .opening ∧ c ≠ '"' ∧ c.isDigit = false)
    (hfit : ∀ levels, inside.Fit levels → part.Fit (levels + 1))
    (hbehind : ∀ depth, inside.depthBehind (depth + 1) = part.depthBehind depth) :
    part.IsSearched (c :: cs) rest := by
  obtain ⟨found, hmarks, hjudged⟩ := h
  refine ⟨.opening :: found, ?_, fun depth more hnone => ?_⟩
  · rw [marks, if_neg hc.2.1, hc.2.2, if_neg (by decide), hc.1, ← marks_behind, hmarks]
    rfl
  · obtain ⟨hdeep, hnone⟩ := firstExcess?_opening hnone
    obtain ⟨hinside, hmore⟩ := hjudged (depth + 1) more hnone
    refine ⟨?_, hbehind depth ▸ hmore⟩
    rw [show deepest - depth = deepest - (depth + 1) + 1 by omega]
    exact hfit _ hinside

/-- A bracket that closes leads back. -/
theorem closing {c : Char} {part inside : Part} (h : inside.IsSearched cs more)
    (hmore : behind more = c :: rest)
    (hc : bracketMark? c = some .closing ∧ c ≠ '"' ∧ c.isDigit = false)
    (hfit : ∀ levels, inside.Fit levels → part.Fit levels)
    (hbehind : ∀ depth, part.depthBehind depth = inside.depthBehind depth - 1) :
    part.IsSearched cs rest := by
  obtain ⟨found, hmarks, hjudged⟩ := h
  refine ⟨found ++ [.closing], ?_, fun depth others hnone => ?_⟩
  · rw [hmarks, marks_of_behind_eq hmore hc.2, hc.1, List.append_assoc]
    rfl
  · rw [List.append_assoc] at hnone
    obtain ⟨hinside, hnone⟩ := hjudged depth _ hnone
    exact ⟨hfit _ hinside, hbehind depth ▸ hnone⟩

/-- What comes behind a sign between two parts is judged where the first was. -/
theorem andThen {c : Char} {first second whole : Part} (h : first.IsSearched cs more)
    (hmore : behind more = c :: next) (h' : second.IsSearched (behind next) rest)
    (hc : bracketMark? c = none ∧ c ≠ '"' ∧ c.isDigit = false)
    (hfit : ∀ levels, first.Fit levels → second.Fit levels → whole.Fit levels)
    (hfirst : ∀ depth, first.depthBehind depth = depth)
    (hbehind : ∀ depth, whole.depthBehind depth = second.depthBehind depth) :
    whole.IsSearched cs rest := by
  obtain ⟨found, hmarks, hjudged⟩ := h
  obtain ⟨found', hmarks', hjudged'⟩ := h'
  refine ⟨found ++ found', ?_, fun depth others hnone => ?_⟩
  · rw [hmarks, marks_of_behind_eq hmore hc.2, hc.1, ← marks_behind next, hmarks',
      List.append_assoc]
    rfl
  · rw [List.append_assoc] at hnone
    obtain ⟨hone, hnone⟩ := hjudged depth _ hnone
    obtain ⟨htwo, hnone⟩ := hjudged' _ _ (hfirst depth ▸ hnone)
    exact ⟨hfit _ hone htwo, hbehind depth ▸ hnone⟩

theorem noItems (rest : List Char) : (items []).IsSearched (']' :: rest) rest :=
  ⟨[.closing], rfl, fun _ _ hnone => ⟨nofun, hnone⟩⟩

theorem noEntries (rest : List Char) : (entries []).IsSearched ('}' :: rest) rest :=
  ⟨[.closing], rfl, fun _ _ hnone => ⟨nofun, hnone⟩⟩

theorem list (h : (items values).IsSearched (behind cs) rest) :
    (value (.list values)).IsSearched ('[' :: cs) rest :=
  h.opening (by decide) (fun _ hfit => .list hfit) fun _ => rfl

theorem object (h : (entries fields).IsSearched (behind cs) rest) :
    (value (.object (Entries.ofList fields))).IsSearched ('{' :: cs) rest := by
  refine h.opening (by decide) (fun levels hfit => ?_) fun _ => rfl
  exact .object fun entry hentry => hfit entry (Entries.mem_of_mem_ofList hentry)

/-- The name of an entry is no mark. -/
theorem named (hn : ReadsAt readText cs name more) (hc : behind more = ':' :: next)
    (hv : (value v).IsSearched (behind next) rest) : (value v).IsSearched ('"' :: cs) rest :=
  (text hn).andThen hc hv (by decide) (fun _ _ hfit => hfit) (fun _ => rfl) fun _ => rfl

theorem lastItem (hv : (value v).IsSearched cs more) (h : behind more = ']' :: rest) :
    (items [v]).IsSearched cs rest :=
  hv.closing h (by decide) (fun _ hfit => List.forall_mem_singleton.2 hfit) fun _ => rfl

theorem item (hv : (value v).IsSearched cs more) (hc : behind more = ',' :: next)
    (h : (items values).IsSearched (behind next) rest) : (items (v :: values)).IsSearched cs rest :=
  hv.andThen hc h (by decide) (fun _ hfit hfits => List.forall_mem_cons.2 ⟨hfit, hfits⟩)
    (fun _ => rfl) fun _ => rfl

theorem lastEntry (hv : (value v).IsSearched cs more) (h : behind more = '}' :: rest) :
    (entries [(name, v)]).IsSearched cs rest :=
  hv.closing h (by decide) (fun _ hfit => List.forall_mem_singleton.2 hfit) fun _ => rfl

theorem entry (hv : (value v).IsSearched cs more) (hc : behind more = ',' :: next)
    (h : (entries fields).IsSearched (behind next) rest) :
    (entries ((name, v) :: fields)).IsSearched cs rest :=
  hv.andThen hc h (by decide) (fun _ hfit hfits => List.forall_mem_cons.2 ⟨hfit, hfits⟩)
    (fun _ => rfl) fun _ => rfl

end Part.IsSearched

/-- The search passes what stands in a text. -/
theorem Stands.isSearched {part : Part} {cs rest : List Char} (h : Stands part cs rest) :
    part.IsSearched cs rest := by
  induction h with
  | text h => exact .text h
  | scalar hc h => exact .scalar h
  | emptyList h => exact .list (h ▸ Part.IsSearched.noItems _)
  | list hc h ih => exact ih.list
  | emptyObject h => exact .object (h ▸ Part.IsSearched.noEntries _)
  | object hc h ih => exact ih.object
  | lastItem hv h ih => exact ih.lastItem h
  | item hv hc h ihv ih => exact ihv.item hc ih
  | lastField hn hc hv h ih => exact (Part.IsSearched.named hn hc ih).lastEntry h
  | field hn hc hv hs h ihv ih => exact (Part.IsSearched.named hn hc ihv).entry hs ih

/-- A text that does not ask too much writes a value with short numbers that is not nested
deeply. -/
theorem fits_of_excess? {text : String} {v : Value} (hp : parse text = .ok v)
    (h : excess? text = none) : v.Fits deepest := by
  obtain ⟨-, rest, hv, hend⟩ := parse_eq_ok_iff.1 hp
  obtain ⟨found, hmarks, hjudged⟩ := hv.isSearched
  rw [marks_behind] at hmarks
  simp only [excess?, hp, Option.or_eq_none_iff] at h
  rw [hmarks] at h
  exact (hjudged 0 _ h.1).1

/-- Brackets that go on opening come to as many as there may be calls. -/
theorem isBottomless_replicate {n depth : Nat} (hn : 0 < n) (h : mostCalls ≤ depth + n)
    (more : List Mark) : isBottomless depth (List.replicate n .opening ++ more) = true := by
  induction n generalizing depth with
  | zero => cases hn
  | succ n ih =>
    rw [List.replicate_succ, List.cons_append, isBottomless, Bool.or_eq_true, decide_eq_true_eq]
    rcases Nat.eq_zero_or_pos n with rfl | hpos
    · exact .inl h
    · exact .inr (ih hpos (by omega))

/-- As many brackets in a row as there may be calls are not followed. -/
theorem firstExcess?_replicate {n : Nat} (h : mostCalls ≤ n) (more : List Mark) :
    firstExcess? 0 (List.replicate n .opening ++ more) = some .depth := by
  have hdeepest : deepest < mostCalls := by decide
  -- the first brackets are followed, and then it is looked for the others
  have hfollowed : ∀ k depth, depth + k = deepest →
      firstExcess? depth (List.replicate (k + (n - deepest)) .opening ++ more) = some .depth := by
    intro k
    induction k with
    | zero =>
      intro depth hdepth
      obtain ⟨m, hm⟩ : ∃ m, n - deepest = m + 1 := Nat.exists_eq_add_one.2 (by omega)
      have hpos : 0 < m := by
        have hwide : deepest + 1 < mostCalls := by decide
        omega
      have hbottomless : isBottomless (depth + 1) (List.replicate m .opening ++ more) = true :=
        isBottomless_replicate hpos (by omega) more
      rw [Nat.zero_add, hm, List.replicate_succ, List.cons_append, firstExcess?,
        if_pos (by omega), if_pos hbottomless]
    | succ k ih =>
      intro depth hdepth
      rw [Nat.add_right_comm, List.replicate_succ, List.cons_append, firstExcess?,
        if_neg (by omega)]
      exact ih (depth + 1) (by omega)
  have hsplit : deepest + (n - deepest) = n := Nat.add_sub_cancel' (by omega)
  rw [← hsplit]
  exact hfollowed deepest 0 (Nat.zero_add _)

-- brackets in quotes do not count
example : excess? "[\"[\", 10, \"\\ud83d\\ude00\"]" = none := by decide +kernel

end Json

end FormAutomation
