import FormAutomation.Command.Basic
import FormAutomation.Proofs.Payload.Refusal
import FormAutomation.Proofs.Text.Utf8
import FormAutomation.Proofs.Value.Excess

/-!
# What the program finds to work on

The program works on the workflow of a file, and on values that are given or are in a file of
their own.  It finds them, or it can tell why there are none, or it is not prepared for what
it meets: a file that is no UTF-8 is not told as one that cannot be read, a type that cannot be
looked up is not told as a payload that is refused, and a number that is not converted is not
told as a text that is no JSON.  Of texts that are a strain nothing is told.

An argument that holds values is first tried as the path of a file, which it may be too long
to be; then it is not read.
-/

namespace FormAutomation.Command

/-! ## What is found -/

/-- The file of a path holds this text in UTF-8, apart from how its lines end. -/
def HasText (files : Files) (path text : String) : Prop :=
  '\x00' ∉ path.toList ∧ ∃ cs, files (plainPath path) = .ok (Text.Utf8.encode cs)
    ∧ text = String.ofList (plainLines cs)

/-- The file of a path holds a text that does not ask too much and loads as this workflow. -/
def HasWorkflow (files : Files) (path : String) (workflow : Workflow) : Prop :=
  ∃ text, HasText files path text ∧ Json.excess? text = none
    ∧ Payload.loadWorkflow (.text text) = .ok workflow

/-- There is no workflow, which the program can tell. -/
inductive WorkflowRefused (files : Files) (path : String) : Prop where
  /-- the file cannot be read -/
  | unread {why : FileFault} (hz : '\x00' ∉ path.toList)
      (hf : files (plainPath path) = .error why)
  /-- its text does not load, although the type of every node can be looked up -/
  | unloaded {text : String} (ht : HasText files path text) (he : Json.excess? text = none)
      (hn : Payload.typeFault? (.text text) = none)
      (hl : ∀ workflow, Payload.loadWorkflow (.text text) ≠ .ok workflow)

/-- There is no workflow for a reason that the program is not prepared for. -/
inductive WorkflowTrips (files : Files) (path : String) : Obstacle → Prop where
  /-- the path holds a character of zero -/
  | zero (hz : '\x00' ∈ path.toList) : WorkflowTrips files path (.read .zeroInPath)
  /-- the file is no UTF-8 -/
  | encoding {bytes : List UInt8} {why : Text.Utf8.Fault} (hz : '\x00' ∉ path.toList)
      (hf : files (plainPath path) = .ok bytes) (hd : Text.Utf8.decode bytes = .error why) :
      WorkflowTrips files path (.read (.encoding why))
  /-- the type of a node cannot be looked up -/
  | unnamedType {text : String} {fault : Payload.Migration.Fault} (ht : HasText files path text)
      (he : Json.excess? text = none) (hn : Payload.typeFault? (.text text) = some fault) :
      WorkflowTrips files path (.payload (.migration fault))
  /-- the text asks too much -/
  | excess {text : String} {excess : Json.Excess} (ht : HasText files path text)
      (he : Json.excess? text = some excess) : WorkflowTrips files path (.ofExcess excess)

/-- The text that an argument for values stands for: that of a file, if it is the path of
one, and else its own. -/
inductive ValuesText (files : Files) (argument : String) : String → Prop where
  /-- the argument is the path of a file -/
  | file {text : String} (ht : HasText files argument text) : ValuesText files argument text
  /-- the argument cannot be a path -/
  | zero (hz : '\x00' ∈ argument.toList) : ValuesText files argument argument
  /-- there is no file of the path -/
  | inline {why : FileFault} (hz : '\x00' ∉ argument.toList)
      (hf : files (plainPath argument) = .error why) (hn : why.showsNoFile = true) :
      ValuesText files argument argument

/-- The values that an argument stands for, if one is given that is not empty, are these. -/
inductive HasValues (files : Files) : Option String → Entries Value → Prop where
  /-- no argument is given -/
  | none {values : Option String} (hg : filled values = none) : HasValues files values []
  /-- the text of the argument is a JSON object -/
  | object {values : Option String} {argument text : String} {fields : Entries Value}
      (hg : filled values = some argument) (ht : ValuesText files argument text)
      (he : Json.excess? text = none) (hp : Json.parse text = .ok (.object fields)) : HasValues files values fields

/-- There are no values, which the program can tell. -/
inductive ValuesRefused (files : Files) (values : Option String) : Prop where
  /-- it cannot be told whether there is a file -/
  | unread {argument : String} {why : FileFault} (hg : filled values = some argument)
      (hz : '\x00' ∉ argument.toList) (hf : files (plainPath argument) = .error why)
      (hn : why.showsNoFile = false)
  /-- the text of the argument is no JSON object -/
  | noObject {argument text : String} (hg : filled values = some argument)
      (ht : ValuesText files argument text) (he : Json.excess? text = none)
      (hp : ∀ fields, Json.parse text ≠ .ok (.object fields))

/-- There are no values for a reason that the program is not prepared for. -/
inductive ValuesTrip (files : Files) (values : Option String) : Obstacle → Prop where
  /-- the file is no UTF-8 -/
  | encoding {argument : String} {bytes : List UInt8} {why : Text.Utf8.Fault}
      (hg : filled values = some argument) (hz : '\x00' ∉ argument.toList)
      (hf : files (plainPath argument) = .ok bytes) (hd : Text.Utf8.decode bytes = .error why) :
      ValuesTrip files values (.read (.encoding why))
  /-- the text of the argument asks too much -/
  | excess {argument text : String} {excess : Json.Excess} (hg : filled values = some argument)
      (ht : ValuesText files argument text) (he : Json.excess? text = some excess) :
      ValuesTrip files values (.ofExcess excess)

/-! ## Files -/

variable {files : Files} {path text : String} {workflow : Workflow} {values : Option String}
  {fields : Entries Value} {obstacle : Obstacle}

theorem text_of_zero (hz : '\x00' ∈ path.toList) : files.text path = .error .zeroInPath :=
  if_pos (List.contains_iff_mem.2 hz)

theorem text_of_not_zero (hz : '\x00' ∉ path.toList) :
    files.text path = match files (plainPath path) with
      | .ok bytes => textOf bytes
      | .error why => .error (.file why (plainPath path)) :=
  if_neg fun h => hz (List.contains_iff_mem.1 h)

theorem text?_of_zero (hz : '\x00' ∈ path.toList) : files.text? path = .ok none :=
  if_pos (List.contains_iff_mem.2 hz)

theorem text?_of_not_zero (hz : '\x00' ∉ path.toList) :
    files.text? path = match files (plainPath path) with
      | .ok bytes => (textOf bytes).map some
      | .error why => if why.showsNoFile then .ok none else .error (.file why (plainPath path)) :=
  if_neg fun h => hz (List.contains_iff_mem.1 h)

theorem text_of_hasText (h : HasText files path text) : files.text path = .ok text := by
  obtain ⟨hz, cs, hf, rfl⟩ := h
  rw [text_of_not_zero hz, hf]
  simp only [textOf, Text.Utf8.decode_encode]

theorem text?_of_hasText (h : HasText files path text) : files.text? path = .ok (some text) := by
  obtain ⟨hz, cs, hf, rfl⟩ := h
  rw [text?_of_not_zero hz, hf]
  simp only [textOf, Text.Utf8.decode_encode, Except.map]

/-- The bytes of a file are a text, or they are no UTF-8. -/
theorem hasText_or_encoding {bytes : List UInt8} (hz : '\x00' ∉ path.toList)
    (hf : files (plainPath path) = .ok bytes) :
    (∃ text, HasText files path text) ∨ ∃ why, Text.Utf8.decode bytes = .error why := by
  rcases hd : Text.Utf8.decode bytes with why | cs
  · exact .inr ⟨why, rfl⟩
  · rw [Text.Utf8.decode_eq_ok_iff.1 hd] at hf
    exact .inl ⟨_, hz, cs, hf, rfl⟩

/-! ## Workflows -/

theorem endsWell_loadWorkflow (payload : Value) :
    Payload.EndsWell Payload.Schema.workflowNames payload (Payload.loadWorkflow payload) :=
  Payload.endsWell_loadBy (fun _ => Payload.Schema.blames_workflow) payload

theorem checkText_of_none (h : Json.excess? text = none) : checkText text = .ok () := by
  rw [checkText, h]

theorem checkText_of_some {excess : Json.Excess} (h : Json.excess? text = some excess) :
    checkText text = .error (.ofExcess excess) := by
  rw [checkText, h]

/-- Nothing is said of an excess. -/
theorem report?_ofExcess (excess : Json.Excess) : (Obstacle.ofExcess excess).report? = none := by
  cases excess <;> rfl

theorem workflow_cases (files : Files) (path : String) :
    (∃ workflow, HasWorkflow files path workflow) ∨ WorkflowRefused files path
      ∨ ∃ obstacle, WorkflowTrips files path obstacle := by
  by_cases hz : '\x00' ∈ path.toList
  · exact .inr (.inr ⟨_, .zero hz⟩)
  rcases hf : files (plainPath path) with why | bytes
  · exact .inr (.inl (.unread hz hf))
  rcases hasText_or_encoding hz hf with ⟨text, ht⟩ | ⟨why, hd⟩
  · rcases he : Json.excess? text with _ | excess
    · rcases hn : Payload.typeFault? (.text text) with _ | fault
      · by_cases hl : ∃ workflow, Payload.loadWorkflow (.text text) = .ok workflow
        · obtain ⟨workflow, hl⟩ := hl
          exact .inl ⟨workflow, text, ht, he, hl⟩
        · exact .inr (.inl (.unloaded ht he hn fun workflow h => hl ⟨workflow, h⟩))
      · exact .inr (.inr ⟨_, .unnamedType ht he hn⟩)
    · exact .inr (.inr ⟨_, .excess ht he⟩)
  · exact .inr (.inr ⟨_, .encoding hz hf hd⟩)

theorem readWorkflow_of_hasText (h : HasText files path text) (he : Json.excess? text = none) :
    readWorkflow files path = (Payload.loadWorkflow (.text text)).mapError .payload := by
  simp only [readWorkflow, text_of_hasText h, checkText_of_none he, Except.mapError, bind,
    Except.bind]

theorem readWorkflow_of_hasWorkflow (h : HasWorkflow files path workflow) :
    readWorkflow files path = .ok workflow := by
  obtain ⟨text, ht, he, hl⟩ := h
  rw [readWorkflow_of_hasText ht he, hl]
  rfl

/-- The program has something to say of the obstacle. -/
def Obstacle.IsTold (obstacle : Obstacle) : Prop :=
  ∃ report, obstacle.report? = some report

theorem readWorkflow_of_refused (h : WorkflowRefused files path) :
    ∃ obstacle, readWorkflow files path = .error obstacle ∧ obstacle.IsTold := by
  cases h with
  | unread hz hf =>
    rw [readWorkflow, text_of_not_zero hz, hf]
    exact ⟨_, rfl, _, rfl⟩
  | @unloaded text ht he hn hl =>
    rw [readWorkflow_of_hasText ht he]
    obtain ⟨workflow, h⟩ | ⟨fault, h, hrefusal⟩ := (endsWell_loadWorkflow (.text text)).refused hn
    · exact absurd h (hl workflow)
    · rw [h]
      refine ⟨.payload fault, rfl, ?_⟩
      cases fault with
      | migration fault => cases hrefusal
      | _ => exact ⟨_, rfl⟩

theorem readWorkflow_of_trips (h : WorkflowTrips files path obstacle) :
    readWorkflow files path = .error obstacle ∧ obstacle.report? = none := by
  cases h with
  | zero hz =>
    rw [readWorkflow, text_of_zero hz]
    exact ⟨rfl, rfl⟩
  | encoding hz hf hd =>
    rw [readWorkflow, text_of_not_zero hz, hf]
    simp only [textOf, hd]
    exact ⟨rfl, rfl⟩
  | unnamedType ht he hn =>
    rw [readWorkflow_of_hasText ht he, (endsWell_loadWorkflow _).unrefused _ hn]
    exact ⟨rfl, rfl⟩
  | excess ht he =>
    refine ⟨?_, report?_ofExcess _⟩
    simp only [readWorkflow, text_of_hasText ht, checkText_of_some he, Except.mapError, bind,
      Except.bind]

/-! ## Values -/

theorem values_cases (files : Files) (values : Option String) :
    (∃ fields, HasValues files values fields) ∨ ValuesRefused files values
      ∨ ∃ obstacle, ValuesTrip files values obstacle := by
  rcases hg : filled values with _ | argument
  · exact .inl ⟨[], .none hg⟩
  -- whatever the text is, it asks too much, or it is a JSON object or not
  have htext : ∀ text, ValuesText files argument text →
      (∃ fields, HasValues files values fields) ∨ ValuesRefused files values
        ∨ ∃ obstacle, ValuesTrip files values obstacle := by
    intro text ht
    rcases he : Json.excess? text with _ | excess
    · by_cases hp : ∃ fields, Json.parse text = .ok (.object fields)
      · obtain ⟨fields, hp⟩ := hp
        exact .inl ⟨fields, .object hg ht he hp⟩
      · exact .inr (.inl (.noObject hg ht he fun fields h => hp ⟨fields, h⟩))
    · exact .inr (.inr ⟨_, .excess hg ht he⟩)
  by_cases hz : '\x00' ∈ argument.toList
  · exact htext argument (.zero hz)
  rcases hf : files (plainPath argument) with why | bytes
  · rcases hn : why.showsNoFile with _ | _
    · exact .inr (.inl (.unread hg hz hf hn))
    · exact htext argument (.inline hz hf hn)
  · rcases hasText_or_encoding hz hf with ⟨text, ht⟩ | ⟨why, hd⟩
    · exact htext text (.file ht)
    · exact .inr (.inr ⟨_, .encoding hg hz hf hd⟩)

theorem text?_of_valuesText {argument : String} (h : ValuesText files argument text) :
    ∃ text?, files.text? argument = .ok text? ∧ text?.getD argument = text := by
  cases h with
  | file ht => exact ⟨_, text?_of_hasText ht, rfl⟩
  | zero hz => exact ⟨_, text?_of_zero hz, rfl⟩
  | inline hz hf hn =>
    rw [text?_of_not_zero hz, hf]
    simp only [hn, if_true]
    exact ⟨_, rfl, rfl⟩

theorem readValues_of_valuesText {argument : String} (hg : filled values = some argument)
    (h : ValuesText files argument text) : readValues files values = valuesOf text := by
  obtain ⟨text?, htext, rfl⟩ := text?_of_valuesText h
  simp only [readValues, hg, htext, Except.mapError, bind, Except.bind]

theorem valuesOf_of_none (h : Json.excess? text = none) :
    valuesOf text = match Json.parse text with
      | .ok (.object fields) => .ok fields
      | .ok _ => .error .noObject
      | .error why => .error (.values why text) := by
  rw [valuesOf, checkText_of_none h]
  rfl

theorem valuesOf_of_some {excess : Json.Excess} (h : Json.excess? text = some excess) :
    valuesOf text = .error (.ofExcess excess) := by
  rw [valuesOf, checkText_of_some h]
  rfl

theorem readValues_of_hasValues (h : HasValues files values fields) :
    readValues files values = .ok fields := by
  cases h with
  | none hg => simp only [readValues, hg]
  | object hg ht he hp =>
    rw [readValues_of_valuesText hg ht, valuesOf_of_none he, hp]

/-- Values that are found have short numbers and are not nested deeply. -/
theorem fits_of_hasValues (h : HasValues files values fields) :
    (Value.object fields).Fits Json.deepest := by
  cases h with
  | none hg => exact .object nofun
  | object hg ht he hp => exact Json.fits_of_excess? hp he

theorem readValues_of_refused (h : ValuesRefused files values) :
    ∃ obstacle, readValues files values = .error obstacle ∧ obstacle.IsTold := by
  cases h with
  | @unread argument why hg hz hf hn =>
    refine ⟨.read (.file why (plainPath argument)), ?_, _, rfl⟩
    simp only [readValues, hg, text?_of_not_zero hz, hf, hn, Bool.false_eq_true, if_false,
      Except.mapError, bind, Except.bind]
  | @noObject argument text hg ht he hp =>
    rw [readValues_of_valuesText hg ht, valuesOf_of_none he]
    rcases hparse : Json.parse text with why | v
    · exact ⟨.values why text, rfl, _, rfl⟩
    · cases v with
      | object fields => exact absurd hparse (hp fields)
      | _ => exact ⟨.noObject, rfl, _, rfl⟩

theorem readValues_of_trip (h : ValuesTrip files values obstacle) :
    readValues files values = .error obstacle ∧ obstacle.report? = none := by
  cases h with
  | encoding hg hz hf hd =>
    refine ⟨?_, rfl⟩
    simp only [readValues, hg, text?_of_not_zero hz, hf, textOf, hd, Except.map, Except.mapError,
      bind, Except.bind]
  | excess hg ht he =>
    exact ⟨(readValues_of_valuesText hg ht).trans (valuesOf_of_some he), report?_ofExcess _⟩

end FormAutomation.Command
