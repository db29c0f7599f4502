import FormAutomation.Proofs.Value.Scalar

/-!
# Reading what was written

A value without doubles is read back from its text as it was, with the entries of its objects in
the order in which they stood.  The pieces of a text are read one after the other, quoted texts
and numbers as they were written, items and entries each by itself; what follows a piece is a
comma, a bracket or nothing, and no number goes on with these.

White space after commas and colons makes no difference.
-/

namespace FormAutomation

/-- Built of null, truth values, whole numbers and texts by lists and objects; the names of an
object are distinct. -/
inductive Value.IsBuilt : Value → Prop where
  /-- null -/
  | null : IsBuilt .null
  /-- a truth value -/
  | bool (b : Bool) : IsBuilt (.bool b)
  /-- a whole number -/
  | int (n : Int) : IsBuilt (.int n)
  /-- a text -/
  | text (s : String) : IsBuilt (.text s)
  /-- a list of such values -/
  | list {items : List Value} (h : ∀ v ∈ items, IsBuilt v) : IsBuilt (.list items)
  /-- an object of such values -/
  | object {fields : List (String × Value)} (hn : (fields.map (·.1)).Nodup)
      (h : ∀ entry ∈ fields, IsBuilt entry.2) : IsBuilt (.object fields)

namespace Value

attribute [simp] IsBuilt.null IsBuilt.bool IsBuilt.int IsBuilt.text

@[simp] theorem isBuilt_list_iff {items : List Value} :
    (Value.list items).IsBuilt ↔ ∀ v ∈ items, v.IsBuilt := by
  constructor
  · intro hbuilt
    cases hbuilt with
    | list h => exact h
  · exact .list

@[simp] theorem isBuilt_object_iff {fields : List (String × Value)} :
    (Value.object fields).IsBuilt
      ↔ (fields.map (·.1)).Nodup ∧ ∀ entry ∈ fields, entry.2.IsBuilt := by
  constructor
  · intro hbuilt
    cases hbuilt with
    | object hn h => exact ⟨hn, h⟩
  · rintro ⟨hn, h⟩
    exact .object hn h

end Value

namespace Json

/-! ## Marks -/

/-- A mark, with white space behind it at most. -/
def IsMark (mark : Char) (text : List Char) : Prop :=
  ∃ blanks, (∀ c ∈ blanks, isSpace c = true) ∧ text = mark :: blanks

theorem IsMark.length_pos {mark : Char} {text : List Char} (h : IsMark mark text) :
    0 < text.length := by
  obtain ⟨blanks, -, rfl⟩ := h
  exact Nat.succ_pos _

/-- Commas and colons are what they are called. -/
structure Spacing.IsMarked (spacing : Spacing) : Prop where
  /-- a comma -/
  comma : IsMark ',' spacing.comma
  /-- a colon -/
  colon : IsMark ':' spacing.colon

theorem Spacing.isMarked_compact : Spacing.compact.IsMarked where
  comma := ⟨[], nofun, rfl⟩
  colon := ⟨[], nofun, rfl⟩

theorem Spacing.isMarked_loose : Spacing.loose.IsMarked where
  comma := ⟨[' '], List.forall_mem_singleton.2 rfl, rfl⟩
  colon := ⟨[' '], List.forall_mem_singleton.2 rfl, rfl⟩

/-! ## How values start -/

/-- A value starts with a character that no reader passes or takes for an end. -/
def StartsValue (cs : List Char) : Prop :=
  ∃ c more, cs = c :: more ∧ isSpace c = false ∧ c ≠ ']' ∧ c ≠ '}' ∧ c ≠ '\uFEFF'

theorem startsValue_write (spacing : Spacing) {v : Value} (h : v.IsBuilt) :
    StartsValue (write spacing v) := by
  cases h with
  | null => exact ⟨_, _, rfl, by decide⟩
  | bool b => cases b <;> exact ⟨_, _, rfl, by decide⟩
  | int i =>
    obtain ⟨c, more, hwrite, hc⟩ := exists_intText_eq_cons i
    have hspace : isSpace c = false := by
      simp [isSpace, hc ' ' (by decide) (by decide), hc '\t' (by decide) (by decide),
        hc '\n' (by decide) (by decide), hc '\r' (by decide) (by decide)]
    exact ⟨c, more, hwrite, hspace, hc _ (by decide) (by decide), hc _ (by decide) (by decide),
      hc _ (by decide) (by decide)⟩
  | text s => exact ⟨_, _, rfl, by decide⟩
  | list h => exact ⟨_, _, rfl, by decide⟩
  | object hn h => exact ⟨_, _, rfl, by decide⟩

/-- The text of a value is read as the value, and what follows it is left. -/
def IsReadBack (spacing : Spacing) (v : Value) : Prop :=
  ∀ fuel rest n, (write spacing v).length ≤ fuel → EndsNumber rest →
    readValue fuel (write spacing v ++ rest) n
      = .ok (v, ⟨rest, n + (write spacing v).length⟩)

theorem StartsValue.skipSpace_append {cs : List Char} (h : StartsValue cs) (rest : List Char)
    (n : Nat) : skipSpace (cs ++ rest) n = ⟨cs ++ rest, n⟩ := by
  obtain ⟨c, more, rfl, hspace, -⟩ := h
  exact skipSpace_cons hspace _ n

theorem StartsValue.head?_append_ne {cs : List Char} (h : StartsValue cs) (rest : List Char) :
    (cs ++ rest).head? ≠ some ']' ∧ (cs ++ rest).head? ≠ some '}' := by
  obtain ⟨c, more, rfl, -, hlist, hobject, -⟩ := h
  simp [hlist, hobject]

/-- Behind a mark a reader comes to the value. -/
theorem IsMark.exists_skipSpace {mark : Char} {text cs : List Char} (h : IsMark mark text)
    (hcs : StartsValue cs) (rest : List Char) :
    ∃ tail, text ++ (cs ++ rest) = mark :: tail
      ∧ ∀ n, skipSpace tail (n + 1) = ⟨cs ++ rest, n + text.length⟩ := by
  obtain ⟨blanks, hblanks, rfl⟩ := h
  refine ⟨blanks ++ (cs ++ rest), rfl, fun n => ?_⟩
  rw [skipSpace_append hblanks, hcs.skipSpace_append, List.length_cons, Nat.add_assoc,
    Nat.add_comm 1]

/-! ## Items and entries -/

section

variable {fuel n m k : Nat} {cs tail more rest : List Char} {v : Value} {values : List Value}
  {name : String} {fields : List (String × Value)} {cursor : Cursor}

theorem readItems_last (hv : readValue fuel cs n = .ok (v, ⟨']' :: rest, m⟩)) :
    readItems (fuel + 1) cs n = .ok ([v], ⟨rest, m + 1⟩) := by
  rw [readItems, hv]
  rfl

theorem readItems_comma (hv : readValue fuel cs n = .ok (v, ⟨',' :: tail, m⟩))
    (hskip : skipSpace tail (m + 1) = ⟨more, k⟩)
    (h : readItems fuel more k = .ok (values, cursor)) :
    readItems (fuel + 1) cs n = .ok (v :: values, cursor) := by
  rw [readItems, hv]
  simp only [bind, Except.bind]
  rw [skipSpace_cons (by decide)]
  simp only [hskip, h]

/-- The name, the colon and the value of an entry stand at the head. -/
def ReadsEntry (fuel : Nat) (cs : List Char) (n : Nat) (name : String) (v : Value)
    (cursor : Cursor) : Prop :=
  ∃ text tail more m k, cs = '"' :: text ∧ readText text n = .ok (name, ⟨':' :: tail, m⟩)
    ∧ skipSpace tail (m + 1) = ⟨more, k⟩ ∧ readValue fuel more k = .ok (v, cursor)

theorem readFields_last (h : ReadsEntry fuel cs n name v ⟨'}' :: rest, m⟩) :
    readFields (fuel + 1) cs n = .ok ([(name, v)], ⟨rest, m + 1⟩) := by
  obtain ⟨text, tail, more, m, k, rfl, hname, hskip, hv⟩ := h
  rw [readFields, hname]
  simp only [bind, Except.bind]
  rw [skipSpace_cons (by decide)]
  simp only [hskip, hv]
  rfl

theorem readFields_comma (h : ReadsEntry fuel cs n name v ⟨',' :: tail, m⟩)
    (hskip : skipSpace tail (m + 1) = ⟨more, k⟩)
    (hfields : readFields fuel more k = .ok (fields, cursor)) :
    readFields (fuel + 1) cs n = .ok ((name, v) :: fields, cursor) := by
  obtain ⟨text, tail', more', m', k', rfl, hname, hskip', hv⟩ := h
  rw [readFields, hname]
  simp only [bind, Except.bind]
  rw [skipSpace_cons (by decide)]
  simp only [hskip', hv]
  rw [skipSpace_cons (by decide)]
  simp only [hskip, hfields]

end

section

variable {spacing : Spacing}

theorem startsValue_writeItems (spacing : Spacing) {v : Value} (h : v.IsBuilt) (items : List Value) :
    StartsValue (writeItems spacing (v :: items)) := by
  obtain ⟨c, more, hwrite, hc⟩ := startsValue_write spacing h
  cases items with
  | nil => exact ⟨c, more, hwrite, hc⟩
  | cons w items =>
    refine ⟨c, more ++ spacing.comma ++ writeItems spacing (w :: items), ?_, hc⟩
    simp only [writeItems, hwrite, List.cons_append]

/-- Items that are read back one by one are read back as a list. -/
theorem readItems_write (hs : spacing.IsMarked) {v : Value} {items : List Value}
    (hbuilt : ∀ w ∈ v :: items, w.IsBuilt) (hread : ∀ w ∈ v :: items, IsReadBack spacing w)
    (fuel : Nat) (hfuel : (writeItems spacing (v :: items)).length ≤ fuel) (rest : List Char)
    (n : Nat) :
    readItems (fuel + 1) (writeItems spacing (v :: items) ++ ']' :: rest) n
      = .ok (v :: items, ⟨rest, n + (writeItems spacing (v :: items)).length + 1⟩) := by
  induction items generalizing v fuel n with
  | nil =>
    exact readItems_last (hread v List.mem_cons_self fuel _ n hfuel (.cons (by decide) rest))
  | cons w items ih =>
    obtain ⟨tail, hcomma, hskip⟩ := hs.comma.exists_skipSpace
      (startsValue_writeItems spacing (hbuilt w (by simp)) items) (']' :: rest)
    rw [writeItems, List.length_append, List.length_append] at hfuel ⊢
    have hmark := hs.comma.length_pos
    obtain ⟨fuel, rfl⟩ : ∃ fewer, fuel = fewer + 1 := ⟨fuel - 1, by omega⟩
    -- the comma ends the number that the first item may be
    have hv := hread v List.mem_cons_self (fuel + 1) (',' :: tail) n (by omega)
      (.cons (by decide) tail)
    have hitems := ih (fun x hx => hbuilt x (List.mem_cons_of_mem v hx))
      (fun x hx => hread x (List.mem_cons_of_mem v hx)) fuel (by omega)
      (n + (write spacing v).length + spacing.comma.length)
    rw [List.append_assoc, List.append_assoc, hcomma]
    simpa only [Nat.add_assoc] using readItems_comma hv (hskip _) hitems

/-- An entry: its name, a colon and its value. -/
def writeEntry (spacing : Spacing) (entry : String × Value) : List Char :=
  quote entry.1 ++ spacing.colon ++ write spacing entry.2

theorem writeFields_singleton (entry : String × Value) :
    writeFields spacing [entry] = writeEntry spacing entry := rfl

theorem writeFields_cons (entry next : String × Value) (fields : List (String × Value)) :
    writeFields spacing (entry :: next :: fields)
      = writeEntry spacing entry ++ spacing.comma ++ writeFields spacing (next :: fields) := rfl

theorem startsValue_writeFields (spacing : Spacing) (entry : String × Value) (fields : List (String × Value)) :
    StartsValue (writeFields spacing (entry :: fields)) := by
  cases fields <;> exact ⟨_, _, rfl, by decide⟩

/-- An entry whose value is read back is read back. -/
theorem readsEntry_writeEntry (hs : spacing.IsMarked) {entry : String × Value}
    (hbuilt : entry.2.IsBuilt) (hread : IsReadBack spacing entry.2) (fuel : Nat)
    (rest : List Char) (n : Nat) (hfuel : (writeEntry spacing entry).length ≤ fuel)
    (hrest : EndsNumber rest) :
    ReadsEntry fuel (writeEntry spacing entry ++ rest) n entry.1 entry.2
      ⟨rest, n + (writeEntry spacing entry).length⟩ := by
  obtain ⟨tail, hcolon, hskip⟩ := hs.colon.exists_skipSpace (startsValue_write spacing hbuilt) rest
  rw [writeEntry, List.length_append, List.length_append] at hfuel ⊢
  have hname := readText_quote entry.1 (':' :: tail) n
  have hv := hread fuel rest (n + (quote entry.1).length + spacing.colon.length) (by omega) hrest
  refine ⟨_, tail, _, _, _, ?_, hname, hskip _, by simpa only [Nat.add_assoc] using hv⟩
  rw [List.append_assoc, List.append_assoc, hcolon]
  simp only [quote, List.cons_append, List.append_assoc, List.nil_append]

/-- Entries whose values are read back one by one are read back as entries. -/
theorem readFields_write (hs : spacing.IsMarked) {entry : String × Value}
    {fields : List (String × Value)} (hbuilt : ∀ e ∈ entry :: fields, e.2.IsBuilt)
    (hread : ∀ e ∈ entry :: fields, IsReadBack spacing e.2) (fuel : Nat)
    (hfuel : (writeFields spacing (entry :: fields)).length ≤ fuel) (rest : List Char) (n : Nat) :
    readFields (fuel + 1) (writeFields spacing (entry :: fields) ++ '}' :: rest) n
      = .ok (entry :: fields, ⟨rest, n + (writeFields spacing (entry :: fields)).length + 1⟩) := by
  induction fields generalizing entry fuel n with
  | nil =>
    rw [writeFields_singleton] at hfuel ⊢
    exact readFields_last (readsEntry_writeEntry hs (hbuilt entry List.mem_cons_self)
      (hread entry List.mem_cons_self) fuel _ n hfuel (.cons (by decide) rest))
  | cons next fields ih =>
    obtain ⟨tail, hcomma, hskip⟩ := hs.comma.exists_skipSpace
      (startsValue_writeFields spacing next fields) ('}' :: rest)
    rw [writeFields_cons, List.length_append, List.length_append] at hfuel ⊢
    have hmark := hs.comma.length_pos
    obtain ⟨fuel, rfl⟩ : ∃ fewer, fuel = fewer + 1 := ⟨fuel - 1, by omega⟩
    have hfields := ih (fun e he => hbuilt e (List.mem_cons_of_mem entry he))
      (fun e he => hread e (List.mem_cons_of_mem entry he)) fuel (by omega)
      (n + (writeEntry spacing entry).length + spacing.comma.length)
    have hentry := readsEntry_writeEntry hs (hbuilt entry List.mem_cons_self)
      (hread entry List.mem_cons_self) (fuel + 1) (',' :: tail) n (by omega)
      (.cons (by decide) tail)
    rw [List.append_assoc, List.append_assoc, hcomma]
    simpa only [Nat.add_assoc] using readFields_comma hentry (hskip _) hfields

end

/-! ## Values -/

section

variable {spacing : Spacing}

/-- A character that opens nothing starts a word or a number. -/
theorem readValue_scalar {c : Char} (h : c ≠ '"' ∧ c ≠ '[' ∧ c ≠ '{') (fuel : Nat)
    (cs : List Char) (n : Nat) : readValue (fuel + 1) (c :: cs) n = readScalar (c :: cs) n := by
  rw [readValue]
  · exact nofun
  · exact fun more hcons => h.1 (List.cons.inj hcons).1
  · exact fun more hcons => h.2.1 (List.cons.inj hcons).1
  · exact fun more hcons => h.2.2 (List.cons.inj hcons).1

theorem readValue_text (fuel : Nat) (s : String) (rest : List Char) (n : Nat) :
    readValue (fuel + 1) (quote s ++ rest) n = .ok (.text s, ⟨rest, n + (quote s).length⟩) := by
  have hsplit : quote s ++ rest = '"' :: (s.toList.flatMap escapeChar ++ '"' :: rest) := by
    simp only [quote, List.cons_append, List.append_assoc, List.nil_append]
  rw [hsplit, readValue, readText_quote]
  rfl

theorem readValue_int (fuel : Nat) (i : Int) {rest : List Char} (h : EndsNumber rest) (n : Nat) :
    readValue (fuel + 1) (intText i ++ rest) n
      = .ok (.int i, ⟨rest, n + (intText i).length⟩) := by
  obtain ⟨c, more, hwrite, hc⟩ := exists_intText_eq_cons i
  have hopens : c ≠ '"' ∧ c ≠ '[' ∧ c ≠ '{' :=
    ⟨hc _ (by decide) (by decide), hc _ (by decide) (by decide), hc _ (by decide) (by decide)⟩
  rw [← readScalar_intText i h n, hwrite, List.cons_append, readValue_scalar hopens]

theorem readValue_list {items : List Value} {cs : List Char} {cursor : Cursor} {fuel n : Nat}
    (hstart : skipSpace cs (n + 1) = ⟨cs, n + 1⟩) (hhead : cs.head? ≠ some ']')
    (h : readItems fuel cs (n + 1) = .ok (items, cursor)) :
    readValue (fuel + 1) ('[' :: cs) n = .ok (.list items, cursor) := by
  rw [readValue, hstart]
  dsimp only
  split
  · exact absurd rfl hhead
  · rw [h]
    rfl

theorem readValue_object {fields : List (String × Value)} {cs : List Char} {cursor : Cursor}
    {fuel n : Nat} (hstart : skipSpace cs (n + 1) = ⟨cs, n + 1⟩) (hhead : cs.head? ≠ some '}')
    (h : readFields fuel cs (n + 1) = .ok (fields, cursor)) :
    readValue (fuel + 1) ('{' :: cs) n = .ok (.object (Entries.ofList fields), cursor) := by
  rw [readValue, hstart]
  dsimp only
  split
  · exact absurd rfl hhead
  · rw [h]
    rfl

theorem IsReadBack.of_succ {v : Value} (hbuilt : v.IsBuilt)
    (h : ∀ fuel rest n, (write spacing v).length ≤ fuel + 1 → EndsNumber rest →
      readValue (fuel + 1) (write spacing v ++ rest) n
        = .ok (v, ⟨rest, n + (write spacing v).length⟩)) : IsReadBack spacing v := by
  intro fuel rest n hfuel hrest
  obtain ⟨c, more, hwrite, -⟩ := startsValue_write spacing hbuilt
  cases fuel with
  | zero =>
    rw [hwrite] at hfuel
    cases hfuel
  | succ fuel => exact h fuel rest n hfuel hrest

/-- A value without doubles is read back from what was written of it. -/
theorem isReadBack_of_isBuilt (hs : spacing.IsMarked) {v : Value} (h : v.IsBuilt) :
    IsReadBack spacing v := by
  induction h with
  | null => exact .of_succ .null fun _ _ _ _ _ => rfl
  | bool b => exact .of_succ (.bool b) fun _ _ _ _ _ => by cases b <;> rfl
  | int i => exact .of_succ (.int i) fun fuel _ n _ hrest => readValue_int fuel i hrest n
  | text s => exact .of_succ (.text s) fun fuel rest n _ _ => readValue_text fuel s rest n
  | @list items h ih =>
    refine .of_succ (.list h) fun fuel rest n hfuel _ => ?_
    cases items with
    | nil => rfl
    | cons v items =>
      have hlength : (write spacing (.list (v :: items))).length
          = (writeItems spacing (v :: items)).length + 1 + 1 := by
        rw [write, List.length_cons, List.length_append, List.length_singleton]
      obtain ⟨fuel, rfl⟩ : ∃ fewer, fuel = fewer + 1 := ⟨fuel - 1, by omega⟩
      have hstart := startsValue_writeItems spacing (h v List.mem_cons_self) items
      have hitems := readItems_write hs h ih fuel (by omega) rest (n + 1)
      have hvalue := readValue_list (hstart.skipSpace_append _ _) (hstart.head?_append_ne _).1
        hitems
      rw [hlength, write, List.cons_append, List.append_assoc, List.singleton_append, hvalue]
      congr 3
      omega
  | @object fields hn h ih =>
    refine .of_succ (.object hn h) fun fuel rest n hfuel _ => ?_
    cases fields with
    | nil => rfl
    | cons entry fields =>
      have hlength : (write spacing (.object (entry :: fields))).length
          = (writeFields spacing (entry :: fields)).length + 1 + 1 := by
        rw [write, List.length_cons, List.length_append, List.length_singleton]
      obtain ⟨fuel, rfl⟩ : ∃ fewer, fuel = fewer + 1 := ⟨fuel - 1, by omega⟩
      have hstart := startsValue_writeFields spacing entry fields
      have hfields := readFields_write hs h ih fuel (by omega) rest (n + 1)
      have hvalue := readValue_object (hstart.skipSpace_append _ _) (hstart.head?_append_ne _).2
        hfields
      rw [hlength, write, List.cons_append, List.append_assoc, List.singleton_append, hvalue,
        Entries.ofList_eq_self hn]
      congr 3
      omega

end

/-- The text of a value without doubles is read as that value. -/
theorem parse_write {spacing : Spacing} (hs : spacing.IsMarked) {v : Value} (h : v.IsBuilt) :
    parse (String.ofList (write spacing v)) = .ok v := by
  obtain ⟨c, more, hwrite, hspace, -, -, hmark⟩ := startsValue_write spacing h
  have hread := isReadBack_of_isBuilt hs h (2 * (write spacing v).length + 2) [] 0 (by omega) .nil
  have hskip := skipSpace_cons hspace more 0
  rw [List.append_nil] at hread
  rw [parse, String.toList_ofList, hwrite]
  split
  · next hcons => exact absurd (List.cons.inj hcons).1 hmark
  · rw [hskip, ← hwrite]
    dsimp only
    rw [hread]
    rfl

theorem parse_compact {v : Value} (h : v.IsBuilt) : parse v.compact = .ok v :=
  parse_write Spacing.isMarked_compact h

theorem parse_loose {v : Value} (h : v.IsBuilt) : parse v.loose = .ok v :=
  parse_write Spacing.isMarked_loose h

end Json

end FormAutomation
