import FormAutomation.Proofs.Value.Token

/-!
# What a text writes

The reader of values is given fuel, which runs out if values are nested too deeply.  What it
reads is told here without fuel, by a relation between what stands at the head of a text, the
text, and what is left of it.  The reader finds what stands there, and for this the length of
what it reads is fuel enough.

With this, how the lines of a text end makes no difference to what the text writes.
-/

namespace FormAutomation.Json

/-! ## White space -/

/-- What comes behind white space. -/
def behind (cs : List Char) : List Char :=
  (skipSpace cs 0).rest

theorem exists_skipSpace (cs : List Char) (n : Nat) : ∃ k, skipSpace cs n = ⟨behind cs, k⟩ := by
  unfold behind
  generalize 0 = m
  induction cs generalizing n m with
  | nil => exact ⟨n, rfl⟩
  | cons c cs ih =>
    rw [skipSpace, skipSpace]
    split
    · exact ih _ _
    · exact ⟨n, rfl⟩

theorem length_behind_le (cs : List Char) : (behind cs).length ≤ cs.length := by
  unfold behind
  generalize 0 = m
  induction cs generalizing m with
  | nil => exact Nat.le_refl 0
  | cons c cs ih =>
    rw [skipSpace]
    split
    · exact Nat.le_succ_of_le (ih _)
    · exact Nat.le_refl _

theorem SameLines.behind {cs ds : List Char} (h : SameLines cs ds) :
    SameLines (behind cs) (behind ds) :=
  h.skipSpace 0 0

theorem SameLines.exists_behind_eq {cs ds more : List Char} {c : Char} (hc : c ≠ '\r')
    (h : SameLines cs ds) (hb : Json.behind cs = c :: more) :
    ∃ more', Json.behind ds = c :: more' ∧ SameLines more more' :=
  (hb ▸ h.behind).of_cons hc

/-! ## What stands in a text -/

/-- What can be read in a text. -/
inductive Part where
  /-- a value -/
  | value (v : Value)
  /-- the items of a list, up to its closing bracket -/
  | items (values : List Value)
  /-- the entries of an object, up to its closing brace -/
  | entries (fields : List (String × Value))

/-- The part stands at the head of the text, and this is left. -/
inductive Stands : Part → List Char → List Char → Prop where
  /-- a quoted text -/
  | text {cs rest : List Char} {s : String} (h : ReadsAt readText cs s rest) :
      Stands (.value (.text s)) ('"' :: cs) rest
  /-- a word or a number -/
  | scalar {cs rest : List Char} {v : Value}
      (hc : ∀ more, cs ≠ '"' :: more ∧ cs ≠ '[' :: more ∧ cs ≠ '{' :: more)
      (h : ReadsAt readScalar cs v rest) : Stands (.value v) cs rest
  /-- a list without items -/
  | emptyList {cs rest : List Char} (h : behind cs = ']' :: rest) :
      Stands (.value (.list [])) ('[' :: cs) rest
  /-- a list with items -/
  | list {cs rest : List Char} {values : List Value} (hc : ∀ after, behind cs ≠ ']' :: after)
      (h : Stands (.items values) (behind cs) rest) :
      Stands (.value (.list values)) ('[' :: cs) rest
  /-- an object without entries -/
  | emptyObject {cs rest : List Char} (h : behind cs = '}' :: rest) :
      Stands (.value (.object [])) ('{' :: cs) rest
  /-- an object with entries -/
  | object {cs rest : List Char} {fields : List (String × Value)}
      (hc : ∀ after, behind cs ≠ '}' :: after) (h : Stands (.entries fields) (behind cs) rest) :
      Stands (.value (.object (Entries.ofList fields))) ('{' :: cs) rest
  /-- the last item -/
  | lastItem {cs more rest : List Char} {v : Value} (hv : Stands (.value v) cs more)
      (h : behind more = ']' :: rest) : Stands (.items [v]) cs rest
  /-- an item, and further ones -/
  | item {cs more next rest : List Char} {v : Value} {values : List Value}
      (hv : Stands (.value v) cs more) (hc : behind more = ',' :: next)
      (h : Stands (.items values) (behind next) rest) : Stands (.items (v :: values)) cs rest
  /-- the last entry -/
  | lastField {cs more next after rest : List Char} {name : String} {v : Value}
      (hn : ReadsAt readText cs name more) (hc : behind more = ':' :: next)
      (hv : Stands (.value v) (behind next) after) (h : behind after = '}' :: rest) :
      Stands (.entries [(name, v)]) ('"' :: cs) rest
  /-- an entry, and further ones -/
  | field {cs more next after further rest : List Char} {name : String} {v : Value}
      {fields : List (String × Value)} (hn : ReadsAt readText cs name more)
      (hc : behind more = ':' :: next) (hv : Stands (.value v) (behind next) after)
      (hs : behind after = ',' :: further) (h : Stands (.entries fields) (behind further) rest) :
      Stands (.entries ((name, v) :: fields)) ('"' :: cs) rest

/-- The reader reads the part with this fuel, and this is left. -/
def Part.IsRead (fuel : Nat) (cs : List Char) (n : Nat) (rest : List Char) : Part → Prop
  | .value v => ∃ k, readValue fuel cs n = .ok (v, ⟨rest, k⟩)
  | .items values => ∃ k, readItems fuel cs n = .ok (values, ⟨rest, k⟩)
  | .entries fields => ∃ k, readFields fuel cs n = .ok (fields, ⟨rest, k⟩)

/-! ## What is read stands there -/

theorem exists_of_bind_eq_ok {α β : Type} {x : Except Fault α} {f : α → Except Fault β} {b : β}
    (h : x >>= f = .ok b) : ∃ a, x = .ok a ∧ f a = .ok b := by
  rcases x with fault | a
  · cases h
  · exact ⟨a, rfl, h⟩

theorem readsAt_of_readText {cs : List Char} {n : Nat} {s : String} {cursor : Cursor}
    (h : readText cs n = .ok (s, cursor)) : ReadsAt readText cs s cursor.rest := by
  obtain ⟨more, -, hread⟩ := exists_of_readText h (.refl cs)
  obtain ⟨k, hk⟩ := hread.2 n
  rw [h] at hk
  cases hk
  exact hread

theorem readsAt_of_readScalar {cs : List Char} {n : Nat} {v : Value} {cursor : Cursor}
    (h : readScalar cs n = .ok (v, cursor)) : ReadsAt readScalar cs v cursor.rest := by
  obtain ⟨more, -, hread⟩ := exists_of_readScalar h (.refl cs)
  obtain ⟨k, hk⟩ := hread.2 n
  rw [h] at hk
  cases hk
  exact hread

section

variable {fuel n k : Nat} {cs rest : List Char}

theorem stands_of_readValue {v : Value}
    (ih : ∀ part {n cs rest}, Part.IsRead fuel cs n rest part → Stands part cs rest)
    (h : readValue (fuel + 1) cs n = .ok (v, ⟨rest, k⟩)) : Stands (.value v) cs rest := by
  unfold readValue at h
  split at h
  · cases h
  · next cs =>
    obtain ⟨⟨s, cursor⟩, htext, h⟩ := exists_of_bind_eq_ok h
    cases h
    exact .text (readsAt_of_readText htext)
  · next cs =>
    obtain ⟨m, hskip⟩ := exists_skipSpace cs (n + 1)
    simp only [hskip] at h
    split at h
    · next after hafter =>
      cases h
      exact .emptyList hafter
    · next hne =>
      obtain ⟨⟨values, cursor⟩, hitems, h⟩ := exists_of_bind_eq_ok h
      cases h
      exact .list hne (ih (.items values) ⟨_, hitems⟩)
  · next cs =>
    obtain ⟨m, hskip⟩ := exists_skipSpace cs (n + 1)
    simp only [hskip] at h
    split at h
    · next after hafter =>
      cases h
      exact .emptyObject hafter
    · next hne =>
      obtain ⟨⟨fields, cursor⟩, hfields, h⟩ := exists_of_bind_eq_ok h
      cases h
      exact .object hne (ih (.entries fields) ⟨_, hfields⟩)
  · next hquote hlist hobject =>
    exact .scalar (fun more => ⟨hquote more, hlist more, hobject more⟩) (readsAt_of_readScalar h)

theorem stands_of_readItems {values : List Value}
    (ih : ∀ part {n cs rest}, Part.IsRead fuel cs n rest part → Stands part cs rest)
    (h : readItems (fuel + 1) cs n = .ok (values, ⟨rest, k⟩)) : Stands (.items values) cs rest := by
  unfold readItems at h
  obtain ⟨⟨v, cursor⟩, hv, h⟩ := exists_of_bind_eq_ok h
  have hvalue := ih (.value v) ⟨_, hv⟩
  obtain ⟨m, hskip⟩ := exists_skipSpace cursor.rest cursor.offset
  simp only [hskip] at h
  split at h
  · next after hafter =>
    cases h
    exact .lastItem hvalue hafter
  · next next hnext =>
    obtain ⟨m', hskip'⟩ := exists_skipSpace next (m + 1)
    simp only [hskip'] at h
    obtain ⟨⟨values, cursor⟩, hitems, h⟩ := exists_of_bind_eq_ok h
    cases h
    exact .item hvalue hnext (ih (.items values) ⟨_, hitems⟩)
  · cases h

theorem stands_of_readFields {fields : List (String × Value)}
    (ih : ∀ part {n cs rest}, Part.IsRead fuel cs n rest part → Stands part cs rest)
    (h : readFields (fuel + 1) cs n = .ok (fields, ⟨rest, k⟩)) :
    Stands (.entries fields) cs rest := by
  unfold readFields at h
  split at h
  · next cs =>
    obtain ⟨⟨name, cursor⟩, htext, h⟩ := exists_of_bind_eq_ok h
    have hname := readsAt_of_readText htext
    obtain ⟨m, hskip⟩ := exists_skipSpace cursor.rest cursor.offset
    simp only [hskip] at h
    split at h
    · next next hnext =>
      obtain ⟨m', hskip'⟩ := exists_skipSpace next (m + 1)
      simp only [hskip'] at h
      obtain ⟨⟨v, cursor⟩, hv, h⟩ := exists_of_bind_eq_ok h
      have hvalue := ih (.value v) ⟨_, hv⟩
      obtain ⟨m'', hskip''⟩ := exists_skipSpace cursor.rest cursor.offset
      simp only [hskip''] at h
      split at h
      · next after hafter =>
        cases h
        exact .lastField hname hnext hvalue hafter
      · next further hfurther =>
        obtain ⟨l, hl⟩ := exists_skipSpace further (m'' + 1)
        simp only [hl] at h
        obtain ⟨⟨fields, cursor⟩, hfields, h⟩ := exists_of_bind_eq_ok h
        cases h
        exact .field hname hnext hvalue hfurther (ih (.entries fields) ⟨_, hfields⟩)
      · cases h
    · cases h
  · cases h

end

/-- What is read with some fuel stands there. -/
theorem stands_of_isRead {fuel : Nat} (part : Part) {n : Nat} {cs rest : List Char}
    (h : part.IsRead fuel cs n rest) : Stands part cs rest := by
  induction fuel generalizing part cs n rest with
  | zero =>
    cases part <;>
    · obtain ⟨k, h⟩ := h
      cases h
  | succ fuel ih =>
    cases part with
    | value v =>
      obtain ⟨k, h⟩ := h
      exact stands_of_readValue ih h
    | items values =>
      obtain ⟨k, h⟩ := h
      exact stands_of_readItems ih h
    | entries fields =>
      obtain ⟨k, h⟩ := h
      exact stands_of_readFields ih h

/-! ## What stands there is read -/

/-- The part is read with as much fuel as it has characters. -/
structure Part.IsFound (part : Part) (cs rest : List Char) : Prop where
  /-- it has some -/
  shorter : rest.length < cs.length
  /-- that much fuel is enough, at whatever offset -/
  isRead : ∀ fuel n, cs.length ≤ fuel + rest.length → part.IsRead fuel cs n rest

theorem length_of_behind_eq {cs more : List Char} {c : Char} (h : behind cs = c :: more) :
    more.length < cs.length := by
  have hle := length_behind_le cs
  rw [h, List.length_cons] at hle
  omega

namespace Part.IsFound

variable {cs more next after further rest : List Char} {v : Value} {values : List Value}
  {name s : String} {fields : List (String × Value)}

theorem of_succ {part : Part} (hshort : rest.length < cs.length)
    (h : ∀ fuel n, cs.length ≤ fuel + 1 + rest.length → part.IsRead (fuel + 1) cs n rest) :
    part.IsFound cs rest where
  shorter := hshort
  isRead := by
    rintro (_ | fuel) n hfuel
    · omega
    · exact h fuel n hfuel

theorem text (h : ReadsAt readText cs s rest) : (value (.text s)).IsFound ('"' :: cs) rest := by
  refine of_succ (Nat.lt_succ_of_lt h.1) fun fuel n _ => ?_
  obtain ⟨k, hk⟩ := h.2 n
  refine ⟨k, ?_⟩
  rw [readValue, hk]
  rfl

theorem scalar (hc : ∀ more, cs ≠ '"' :: more ∧ cs ≠ '[' :: more ∧ cs ≠ '{' :: more)
    (h : ReadsAt readScalar cs v rest) : (value v).IsFound cs rest := by
  refine of_succ h.1 fun fuel n _ => ?_
  obtain ⟨k, hk⟩ := h.2 n
  refine ⟨k, ?_⟩
  rw [readValue]
  · exact hk
  · rintro rfl
    exact absurd h.1 (Nat.not_lt_zero _)
  · exact fun more => (hc more).1
  · exact fun more => (hc more).2.1
  · exact fun more => (hc more).2.2

theorem emptyList (h : behind cs = ']' :: rest) : (value (.list [])).IsFound ('[' :: cs) rest := by
  refine of_succ (Nat.lt_succ_of_lt (length_of_behind_eq h)) fun fuel n _ => ?_
  obtain ⟨m, hskip⟩ := exists_skipSpace cs (n + 1)
  refine ⟨m + 1, ?_⟩
  rw [readValue, hskip]
  simp only [h]

theorem list (hc : ∀ after, behind cs ≠ ']' :: after) (h : (items values).IsFound (behind cs) rest) :
    (value (.list values)).IsFound ('[' :: cs) rest := by
  have hle := length_behind_le cs
  have hshort := h.shorter
  refine of_succ (by rw [List.length_cons]; omega) fun fuel n hfuel => ?_
  rw [List.length_cons] at hfuel
  obtain ⟨m, hskip⟩ := exists_skipSpace cs (n + 1)
  obtain ⟨k, hk⟩ := h.isRead fuel m (by omega)
  refine ⟨k, ?_⟩
  rw [readValue, hskip]
  split
  · next after hafter => exact absurd hafter (hc after)
  · simp only [hk, bind, Except.bind]

theorem emptyObject (h : behind cs = '}' :: rest) :
    (value (.object [])).IsFound ('{' :: cs) rest := by
  refine of_succ (Nat.lt_succ_of_lt (length_of_behind_eq h)) fun fuel n _ => ?_
  obtain ⟨m, hskip⟩ := exists_skipSpace cs (n + 1)
  refine ⟨m + 1, ?_⟩
  rw [readValue, hskip]
  simp only [h]

theorem object (hc : ∀ after, behind cs ≠ '}' :: after)
    (h : (entries fields).IsFound (behind cs) rest) :
    (value (.object (Entries.ofList fields))).IsFound ('{' :: cs) rest := by
  have hle := length_behind_le cs
  have hshort := h.shorter
  refine of_succ (by rw [List.length_cons]; omega) fun fuel n hfuel => ?_
  rw [List.length_cons] at hfuel
  obtain ⟨m, hskip⟩ := exists_skipSpace cs (n + 1)
  obtain ⟨k, hk⟩ := h.isRead fuel m (by omega)
  refine ⟨k, ?_⟩
  rw [readValue, hskip]
  split
  · next after hafter => exact absurd hafter (hc after)
  · simp only [hk, bind, Except.bind]

theorem lastItem (hv : (value v).IsFound cs more) (h : behind more = ']' :: rest) :
    (items [v]).IsFound cs rest := by
  have hshort := hv.shorter
  have hend := length_of_behind_eq h
  refine of_succ (by omega) fun fuel n hfuel => ?_
  obtain ⟨k, hk⟩ := hv.isRead fuel n (by omega)
  obtain ⟨m, hskip⟩ := exists_skipSpace more k
  refine ⟨m + 1, ?_⟩
  rw [readItems, hk]
  simp only [bind, Except.bind, hskip, h]

theorem item (hv : (value v).IsFound cs more) (hc : behind more = ',' :: next)
    (h : (items values).IsFound (behind next) rest) : (items (v :: values)).IsFound cs rest := by
  have hshort := hv.shorter
  have hcomma := length_of_behind_eq hc
  have hnext := length_behind_le next
  have hitems := h.shorter
  refine of_succ (by omega) fun fuel n hfuel => ?_
  obtain ⟨k, hk⟩ := hv.isRead fuel n (by omega)
  obtain ⟨m, hskip⟩ := exists_skipSpace more k
  obtain ⟨m', hskip'⟩ := exists_skipSpace next (m + 1)
  obtain ⟨l, hl⟩ := h.isRead fuel m' (by omega)
  refine ⟨l, ?_⟩
  rw [readItems, hk]
  simp only [bind, Except.bind, hskip, hc, hskip', hl]

theorem lastField (hn : ReadsAt readText cs name more) (hc : behind more = ':' :: next)
    (hv : (value v).IsFound (behind next) after) (h : behind after = '}' :: rest) :
    (entries [(name, v)]).IsFound ('"' :: cs) rest := by
  have hname := hn.1
  have hcolon := length_of_behind_eq hc
  have hnext := length_behind_le next
  have hshort := hv.shorter
  have hend := length_of_behind_eq h
  refine of_succ (by rw [List.length_cons]; omega) fun fuel n hfuel => ?_
  rw [List.length_cons] at hfuel
  obtain ⟨k, hk⟩ := hn.2 n
  obtain ⟨m, hskip⟩ := exists_skipSpace more k
  obtain ⟨m', hskip'⟩ := exists_skipSpace next (m + 1)
  obtain ⟨l, hl⟩ := hv.isRead fuel m' (by omega)
  obtain ⟨l', hskip''⟩ := exists_skipSpace after l
  refine ⟨l' + 1, ?_⟩
  rw [readFields, hk]
  simp only [bind, Except.bind, hskip, hc, hskip', hl, hskip'', h]

theorem field (hn : ReadsAt readText cs name more) (hc : behind more = ':' :: next)
    (hv : (value v).IsFound (behind next) after) (hs : behind after = ',' :: further)
    (h : (entries fields).IsFound (behind further) rest) :
    (entries ((name, v) :: fields)).IsFound ('"' :: cs) rest := by
  have hname := hn.1
  have hcolon := length_of_behind_eq hc
  have hnext := length_behind_le next
  have hshort := hv.shorter
  have hcomma := length_of_behind_eq hs
  have hfurther := length_behind_le further
  have hfields := h.shorter
  refine of_succ (by rw [List.length_cons]; omega) fun fuel n hfuel => ?_
  rw [List.length_cons] at hfuel
  obtain ⟨k, hk⟩ := hn.2 n
  obtain ⟨m, hskip⟩ := exists_skipSpace more k
  obtain ⟨m', hskip'⟩ := exists_skipSpace next (m + 1)
  obtain ⟨l, hl⟩ := hv.isRead fuel m' (by omega)
  obtain ⟨l', hskip''⟩ := exists_skipSpace after l
  obtain ⟨j, hfirst⟩ := exists_skipSpace further (l' + 1)
  obtain ⟨j', hj⟩ := h.isRead fuel j (by omega)
  refine ⟨j', ?_⟩
  rw [readFields, hk]
  simp only [bind, Except.bind, hskip, hc, hskip', hl, hskip'', hs, hfirst, hj]

end Part.IsFound

/-- What stands at the head is found. -/
theorem Stands.isFound {part : Part} {cs rest : List Char} (h : Stands part cs rest) :
    part.IsFound cs rest := by
  induction h with
  | text h => exact .text h
  | scalar hc h => exact .scalar hc h
  | emptyList h => exact .emptyList h
  | list hc h ih => exact .list hc ih
  | emptyObject h => exact .emptyObject h
  | object hc h ih => exact .object hc ih
  | lastItem hv h ih => exact .lastItem ih h
  | item hv hc h ihv ih => exact .item ihv hc ih
  | lastField hn hc hv h ih => exact .lastField hn hc ih h
  | field hn hc hv hs h ihv ih => exact .field hn hc ihv hs ih

/-- A text writes a value if this stands behind white space, and nothing but white space comes
behind it: the reader has fuel enough for all that a text may write. -/
theorem parse_eq_ok_iff {text : String} {v : Value} :
    parse text = .ok v ↔ text.toList.head? ≠ some '\uFEFF'
      ∧ ∃ rest, Stands (.value v) (behind text.toList) rest ∧ behind rest = [] := by
  obtain ⟨n, hskip⟩ := exists_skipSpace text.toList 0
  simp only [parse, hskip]
  constructor
  · intro h
    split at h
    · cases h
    · next hmark =>
      obtain ⟨⟨v, cursor⟩, hv, h⟩ := exists_of_bind_eq_ok h
      obtain ⟨m, hskip'⟩ := exists_skipSpace cursor.rest cursor.offset
      simp only [hskip'] at h
      split_ifs at h with hend
      cases h
      refine ⟨fun hhead => ?_, cursor.rest, stands_of_isRead (.value v) ⟨_, hv⟩,
        List.isEmpty_iff.1 hend⟩
      obtain ⟨more, hmore⟩ := List.head?_eq_some_iff.1 hhead
      exact hmark more hmore
  · rintro ⟨hmark, rest, hv, hend⟩
    have hle := length_behind_le text.toList
    split
    · next more hmore => exact absurd (by rw [hmore]; rfl) hmark
    · obtain ⟨k, hk⟩ := hv.isFound.isRead (2 * text.toList.length + 2) n (by omega)
      obtain ⟨m, hskip'⟩ := exists_skipSpace rest k
      simp only [hk, bind, Except.bind, hskip', hend, List.isEmpty_nil, if_true]

/-! ## Objects -/

theorem readMagnitude_ne_object {negative : Bool} {cs : List Char} {n sign : Nat}
    {fields : Entries Value} {cursor : Cursor} :
    readMagnitude negative cs n sign ≠ .ok (.object fields, cursor) := by
  intro h
  simp only [readMagnitude] at h
  split_ifs at h <;> split at h <;> cases h

/-- No word and no number is an object. -/
theorem readScalar_ne_object {cs : List Char} {n : Nat} {fields : Entries Value}
    {cursor : Cursor} : readScalar cs n ≠ .ok (.object fields, cursor) := by
  intro h
  rcases hword : words.find? fun word => word.1.isPrefixOf cs with _ | ⟨word, value⟩
  · simp only [readScalar, hword] at h
    unfold readNumber at h
    split at h <;> exact readMagnitude_ne_object h
  · have hmem := List.mem_of_find?_eq_some hword
    simp only [readScalar, hword] at h
    cases h
    simp [words_eq] at hmem

/-- A text that writes an object starts with a brace, but for white space. -/
theorem exists_behind_of_parse {text : String} {fields : Entries Value}
    (h : parse text = .ok (.object fields)) : ∃ more, behind text.toList = '{' :: more := by
  obtain ⟨-, rest, hv, -⟩ := parse_eq_ok_iff.1 h
  generalize behind text.toList = cs at hv ⊢
  cases hv with
  | scalar hc h =>
    obtain ⟨k, hk⟩ := h.2 0
    exact absurd hk readScalar_ne_object
  | emptyObject h => exact ⟨_, rfl⟩
  | object hc h => exact ⟨_, rfl⟩

/-! ## Ends of lines -/

/-- What stands at the head stands there however lines end. -/
theorem Stands.of_sameLines {part : Part} {cs ds rest : List Char} (h : Stands part cs rest)
    (hs : SameLines cs ds) : ∃ rest', SameLines rest rest' ∧ Stands part ds rest' := by
  induction h generalizing ds with
  | text h =>
    obtain ⟨ds, rfl, hds⟩ := hs.of_cons (by decide)
    obtain ⟨k, hk⟩ := h.2 0
    obtain ⟨rest', hrest, hread⟩ := exists_of_readText hk hds
    exact ⟨rest', hrest, .text hread⟩
  | scalar hc h =>
    obtain ⟨k, hk⟩ := h.2 0
    obtain ⟨rest', hrest, hread⟩ := exists_of_readScalar hk hs
    have hquote := hs.ne_cons (by decide) fun more => (hc more).1
    have hlist := hs.ne_cons (by decide) fun more => (hc more).2.1
    have hobject := hs.ne_cons (by decide) fun more => (hc more).2.2
    exact ⟨rest', hrest, .scalar (fun more => ⟨hquote more, hlist more, hobject more⟩) hread⟩
  | emptyList h =>
    obtain ⟨ds, rfl, hds⟩ := hs.of_cons (by decide)
    obtain ⟨rest', hb, hrest⟩ := hds.exists_behind_eq (by decide) h
    exact ⟨rest', hrest, .emptyList hb⟩
  | list hc h ih =>
    obtain ⟨ds, rfl, hds⟩ := hs.of_cons (by decide)
    obtain ⟨rest', hrest, hitems⟩ := ih hds.behind
    exact ⟨rest', hrest, .list (hds.behind.ne_cons (by decide) hc) hitems⟩
  | emptyObject h =>
    obtain ⟨ds, rfl, hds⟩ := hs.of_cons (by decide)
    obtain ⟨rest', hb, hrest⟩ := hds.exists_behind_eq (by decide) h
    exact ⟨rest', hrest, .emptyObject hb⟩
  | object hc h ih =>
    obtain ⟨ds, rfl, hds⟩ := hs.of_cons (by decide)
    obtain ⟨rest', hrest, hfields⟩ := ih hds.behind
    exact ⟨rest', hrest, .object (hds.behind.ne_cons (by decide) hc) hfields⟩
  | lastItem hv h ih =>
    obtain ⟨more, hmore, hvalue⟩ := ih hs
    obtain ⟨rest', hb, hrest⟩ := hmore.exists_behind_eq (by decide) h
    exact ⟨rest', hrest, .lastItem hvalue hb⟩
  | item hv hc h ihv ih =>
    obtain ⟨more, hmore, hvalue⟩ := ihv hs
    obtain ⟨next, hb, hnext⟩ := hmore.exists_behind_eq (by decide) hc
    obtain ⟨rest', hrest, hitems⟩ := ih hnext.behind
    exact ⟨rest', hrest, .item hvalue hb hitems⟩
  | lastField hn hc hv h ih =>
    obtain ⟨ds, rfl, hds⟩ := hs.of_cons (by decide)
    obtain ⟨k, hk⟩ := hn.2 0
    obtain ⟨more, hmore, hname⟩ := exists_of_readText hk hds
    obtain ⟨next, hcolon, hnext⟩ := hmore.exists_behind_eq (by decide) hc
    obtain ⟨after, hafter, hvalue⟩ := ih hnext.behind
    obtain ⟨rest', hb, hrest⟩ := hafter.exists_behind_eq (by decide) h
    exact ⟨rest', hrest, .lastField hname hcolon hvalue hb⟩
  | field hn hc hv hs' h ihv ih =>
    obtain ⟨ds, rfl, hds⟩ := hs.of_cons (by decide)
    obtain ⟨k, hk⟩ := hn.2 0
    obtain ⟨more, hmore, hname⟩ := exists_of_readText hk hds
    obtain ⟨next, hcolon, hnext⟩ := hmore.exists_behind_eq (by decide) hc
    obtain ⟨after, hafter, hvalue⟩ := ihv hnext.behind
    obtain ⟨further, hcomma, hfurther⟩ := hafter.exists_behind_eq (by decide) hs'
    obtain ⟨rest', hrest, hfields⟩ := ih hfurther.behind
    exact ⟨rest', hrest, .field hname hcolon hvalue hcomma hfields⟩

/-- How its lines end makes no difference to what a text writes. -/
theorem parse_of_sameLines {cs ds : List Char} {v : Value}
    (h : parse (String.ofList cs) = .ok v) (hs : SameLines cs ds) :
    parse (String.ofList ds) = .ok v := by
  rw [parse_eq_ok_iff, String.toList_ofList] at h ⊢
  obtain ⟨hmark, rest, hv, hend⟩ := h
  obtain ⟨rest', hrest, hv'⟩ := hv.of_sameLines hs.behind
  refine ⟨?_, rest', hv', ?_⟩
  · intro hhead
    obtain ⟨more, rfl⟩ := List.head?_eq_some_iff.1 hhead
    obtain ⟨more, rfl, -⟩ := hs.of_cons_right (by decide)
    exact hmark rfl
  · exact (hend ▸ hrest.behind).of_nil

end FormAutomation.Json
