import FormAutomation.Proofs.Command.Arguments
import FormAutomation.Proofs.Command.Ending
import FormAutomation.Proofs.Value.Marks
import FormAutomation.Proofs.Value.ReadBack

/-!
# Values in the call and values in a file

The values of a form may be given in the call or in a file, and a run is to be the same for
both.  The lines of a file are read with their ends written in one way, which JSON does not mind.

What is given in the call is tried as the path of a file first.  There are faults that show that
there is no file of the path, and others that do not, as of a path with a step that is too long:
then the program ends without having read the values, although they are right there.  Where there
is no such fault, the program ends alike.
-/

namespace FormAutomation.Command

/-! ## Texts and files -/

/-- The file of a path holds this text. -/
structure Holds (files : Files) (path text : String) : Prop where
  /-- there is a path -/
  named : path ≠ ""
  /-- it can be one -/
  plain : '\x00' ∉ path.toList
  /-- the file is the text in UTF-8 -/
  bytes : files (plainPath path) = .ok (Text.Utf8.encode text.toList)

/-- There is a file of the path. -/
def IsFile (files : Files) (path : String) : Prop :=
  '\x00' ∉ path.toList ∧ ∃ bytes, files (plainPath path) = .ok bytes

/-- It cannot be told whether there is a file of the path. -/
structure IsUntold (files : Files) (path : String) (why : FileFault) : Prop where
  /-- it can be a path -/
  plain : '\x00' ∉ path.toList
  /-- the file cannot be read -/
  fault : files (plainPath path) = .error why
  /-- which does not show that there is none -/
  hides : why.showsNoFile = false

theorem sameLines_plainLines (cs : List Char) : Json.SameLines cs (plainLines cs) := by
  fun_induction plainLines cs with
  | case1 => exact .nil
  | case2 cs ih => exact .double ih
  | case3 cs hfeed ih => exact .single ih
  | case4 c cs hpair hreturn ih => exact .cons c ih

variable {files : Files} {path text : String} {fields : Entries Value} {why : FileFault}

theorem Holds.hasText (h : Holds files path text) :
    HasText files path (String.ofList (plainLines text.toList)) :=
  ⟨h.plain, text.toList, h.bytes, rfl⟩

/-- A text that is read from a file writes what it writes. -/
theorem parse_plainLines {v : Value} (h : Json.parse text = .ok v) :
    Json.parse (String.ofList (plainLines text.toList)) = .ok v := by
  refine Json.parse_of_sameLines ?_ (sameLines_plainLines text.toList)
  rwa [String.ofList_toList]

/-- And it asks as much. -/
theorem excess?_plainLines {v : Value} (h : Json.parse text = .ok v) :
    Json.excess? (String.ofList (plainLines text.toList)) = Json.excess? text := by
  rw [← String.ofList_toList (s := text)] at h
  rw [Json.excess?_of_sameLines h (sameLines_plainLines text.toList), String.ofList_toList]

/-! ## The values that are found -/

theorem ne_empty_of_parse (h : Json.parse text = .ok (.object fields)) : text ≠ "" := by
  rintro rfl
  obtain ⟨more, hmore⟩ := Json.exists_behind_of_parse h
  cases hmore

theorem filled_some (h : text ≠ "") : filled (some text) = some text := by
  simp [filled, h]

/-- A text that is read from a file has the values that it has. -/
theorem valuesOf_plainLines (hobject : Json.parse text = .ok (.object fields)) :
    valuesOf (String.ofList (plainLines text.toList)) = valuesOf text := by
  rw [valuesOf, valuesOf, checkText, checkText, excess?_plainLines hobject,
    parse_plainLines hobject, hobject]

/-- The values of a file are found. -/
theorem readValues_of_holds (hobject : Json.parse text = .ok (.object fields))
    (h : Holds files path text) : readValues files (some path) = valuesOf text := by
  rw [readValues_of_valuesText (filled_some h.named) (.file h.hasText), valuesOf_plainLines hobject]

/-- The values of the call are found, unless it cannot be told whether they are a path. -/
theorem readValues_of_told (hobject : Json.parse text = .ok (.object fields))
    (hno : ¬ IsFile files text) (ht : ∀ why, ¬ IsUntold files text why) :
    readValues files (some text) = valuesOf text := by
  refine readValues_of_valuesText (filled_some (ne_empty_of_parse hobject)) ?_
  by_cases hz : '\x00' ∈ text.toList
  · exact .zero hz
  rcases hf : files (plainPath text) with why | bytes
  · refine .inline hz hf ?_
    by_contra hhides
    exact ht why ⟨hz, hf, Bool.eq_false_iff.2 hhides⟩
  · exact absurd ⟨hz, bytes, hf⟩ hno

/-- The text of an object has values, or it asks too much, of which nothing is said. -/
theorem not_isTold_of_valuesOf {obstacle : Obstacle}
    (hobject : Json.parse text = .ok (.object fields)) (h : valuesOf text = .error obstacle) :
    ¬ obstacle.IsTold := by
  rintro ⟨report, hreport⟩
  rcases he : Json.excess? text with _ | excess
  · rw [valuesOf_of_none he, hobject] at h
    cases h
  · rw [valuesOf_of_some he] at h
    cases h
    rw [report?_ofExcess] at hreport
    cases hreport

theorem readValues_of_untold (hne : text ≠ "") (h : IsUntold files text why) :
    readValues files (some text) = .error (.read (.file why (plainPath text))) := by
  simp only [readValues, filled_some hne, text?_of_not_zero h.plain, h.fault, h.hides,
    Bool.false_eq_true, if_false, Except.mapError, bind, Except.bind]

/-! ## How the run ends -/

variable {σ : Type} {around : Surroundings σ} {graph : String} {values values' : Option String}
  {event field : Option String} {budget : Budget} {json : Bool} {workflow : Workflow}

/-- All that a run takes from its values is what is read of them. -/
theorem conclude_congr (h : readValues around.files values = readValues around.files values') :
    conclude around (.run graph values event field budget json)
      = conclude around (.run graph values' event field budget json) := by
  simp only [conclude, perform, run, h]

theorem conclude_of_untold (hne : text ≠ "") (hl : HasLevel around)
    (hw : HasWorkflow around.files graph workflow) (h : IsUntold around.files text why) :
    conclude around (.run graph (some text) event field budget json)
      = .ok { printed := Terminal.printed around.width
                s!"Failed to read input: {why.message (plainPath text)}"
              status := 2 } := by
  rw [conclude, perform_of_no_values hl hw (readValues_of_untold hne h)]
  rfl

/-- Without a level or a workflow the values are not looked at. -/
theorem conclude_of_unworkable
    (h : ¬ (HasLevel around ∧ ∃ workflow, HasWorkflow around.files graph workflow)) :
    conclude around (.run graph values event field budget json)
      = conclude around (.run graph values' event field budget json) := by
  rcases hlevel : LogLevel.configured around.environment none with why | level
  · rw [conclude, conclude, perform_of_not_hasLevel hlevel, perform_of_not_hasLevel hlevel]
  have hl : HasLevel around := ⟨level, hlevel⟩
  obtain ⟨obstacle, hread⟩ : ∃ obstacle, readWorkflow around.files graph = .error obstacle := by
    rcases workflow_cases around.files graph with hw | hrefused | ⟨obstacle, htrips⟩
    · exact absurd ⟨hl, hw⟩ h
    · obtain ⟨obstacle, hread, -⟩ := readWorkflow_of_refused hrefused
      exact ⟨obstacle, hread⟩
    · exact ⟨obstacle, (readWorkflow_of_trips htrips).1⟩
  rw [conclude, conclude, perform_of_no_workflow hl rfl hread, perform_of_no_workflow hl rfl hread]

/-- With a workflow there is something to work on, unless it is told why there are no values. -/
theorem status_ne_two (hw : HasWorkflow around.files graph workflow)
    (hv : ∀ obstacle, readValues around.files values = .error obstacle → ¬ obstacle.IsTold) :
    (conclude around (.run graph values event field budget json)).map (·.status) ≠ .ok 2 := by
  obtain ⟨ending, hends⟩ := exists_endsWith around (.run graph values event field budget json)
  rw [status_of_endsWith hends]
  rintro rfl
  cases hends with
  | workflowRefused _ hp h =>
    obtain rfl := Option.some.inj hp
    obtain ⟨obstacle, hread, -⟩ := readWorkflow_of_refused h
    rw [readWorkflow_of_hasWorkflow hw] at hread
    cases hread
  | valuesRefused _ _ h =>
    obtain ⟨obstacle, hread, htold⟩ := readValues_of_refused h
    exact hv obstacle hread htold

/-! ## What comes of arguments -/

/-- What comes of arguments. -/
inductive Outcome where
  /-- what was asked for is carried out -/
  | ended (result : Except Obstacle Done)
  /-- help is printed -/
  | helped (command : Option CommandKind)
  /-- the arguments are wrong -/
  | refused (why : ArgumentFault)

/-- What comes of the arguments of the program. -/
def outcome (around : Surroundings σ) (arguments : List String) : Outcome :=
  match asked arguments with
  | .invocation invocation => .ended (conclude around invocation)
  | .help command => .helped command
  | .fault why => .refused why

theorem outcome_of_asked {arguments : List String} {invocation : Invocation}
    (h : asked arguments = .invocation invocation) :
    outcome around arguments = .ended (conclude around invocation) := by
  rw [outcome, h]

/-- The program comes to look at the values of the call, and it cannot tell whether they are the
path of a file. -/
structure IsKept (around : Surroundings σ) (graph values : String) (options : List String)
    (why : FileFault) : Prop where
  /-- no other values are given -/
  counts : AsksFor graph fun values => asked (runArguments graph values options)
  /-- a level is set for the log -/
  level : HasLevel around
  /-- there is a workflow -/
  workflow : ∃ workflow, HasWorkflow around.files graph workflow
  /-- it cannot be told whether there is a file -/
  untold : IsUntold around.files values why

theorem isWord_of_parse (h : Json.parse text = .ok (.object fields)) : IsWord text := by
  intro hhead
  obtain ⟨cs, hcs⟩ := List.head?_eq_some_iff.1 hhead
  obtain ⟨more, hmore⟩ := Json.exists_behind_of_parse h
  rw [hcs] at hmore
  cases hmore

section

variable {options : List String}

/-- The program says why it is kept from the values, and ends with the status of two. -/
theorem outcome_of_isKept (hobject : Json.parse text = .ok (.object fields))
    (hk : IsKept around graph text options why) :
    outcome around (runArguments graph text options)
      = .ended (.ok {
          printed := Terminal.printed around.width
            s!"Failed to read input: {why.message (plainPath text)}"
          status := 2 }) := by
  obtain ⟨event, field, budget, json, hrun⟩ := hk.counts
  obtain ⟨workflow, hw⟩ := hk.workflow
  rw [outcome_of_asked (hrun text (isWord_of_parse hobject)),
    conclude_of_untold (ne_empty_of_parse hobject) hk.level hw hk.untold]

/-- It would not have ended so with the values of a file. -/
theorem outcome_ne_of_isKept (hp : IsWord path) (hobject : Json.parse text = .ok (.object fields))
    (hf : Holds around.files path text) (hk : IsKept around graph text options why) :
    outcome around (runArguments graph text options)
      ≠ outcome around (runArguments graph path options) := by
  intro hsame
  rw [outcome_of_isKept hobject hk] at hsame
  obtain ⟨event, field, budget, json, hrun⟩ := hk.counts
  obtain ⟨workflow, hw⟩ := hk.workflow
  rw [outcome_of_asked (hrun path hp)] at hsame
  have htwo : (conclude around (.run graph (some path) event field budget json)).map (·.status)
      = .ok 2 := by
    rw [← Outcome.ended.inj hsame]
    rfl
  refine status_ne_two hw (fun obstacle hread => ?_) htwo
  rw [readValues_of_holds hobject hf] at hread
  exact not_isTold_of_valuesOf hobject hread

/-- Where the program is not kept from the values, it makes no difference where they are. -/
theorem outcome_eq_of_not_isKept (hg : IsWord graph) (hp : IsWord path)
    (hobject : Json.parse text = .ok (.object fields)) (hf : Holds around.files path text)
    (hno : ¬ IsFile around.files text) (hnone : ∀ why, ¬ IsKept around graph text options why) :
    outcome around (runArguments graph text options)
      = outcome around (runArguments graph path options) := by
  have ht := isWord_of_parse hobject
  rcases asksAlike_runArguments hg options with ⟨answer, hall⟩ | hfor
  · -- the values are not looked at
    have hsame : asked (runArguments graph text options) = asked (runArguments graph path options) :=
      (hall text ht).trans (hall path hp).symm
    rw [outcome, outcome, hsame]
  obtain ⟨event, field, budget, json, hrun⟩ := id hfor
  rw [outcome_of_asked (hrun text ht), outcome_of_asked (hrun path hp)]
  refine congrArg Outcome.ended ?_
  by_cases hwork : HasLevel around ∧ ∃ workflow, HasWorkflow around.files graph workflow
  · -- it is told that there is no file, so both have the same values
    have htold : ∀ why, ¬ IsUntold around.files text why := fun why hu =>
      hnone why ⟨hfor, hwork.1, hwork.2, hu⟩
    refine conclude_congr ?_
    rw [readValues_of_told hobject hno htold, readValues_of_holds hobject hf]
  · exact conclude_of_unworkable hwork

end

/-! ## Texts that are too long for a path -/

section

variable {cs : List Char}

/-- A text without slashes is a path of one step. -/
theorem pathSteps_of_not_mem (hs : '/' ∉ cs) (hne : cs ≠ []) (hd : cs ≠ ['.']) :
    pathSteps (String.ofList cs) = [cs] := by
  rw [pathSteps, String.toList_ofList, Text.splitOn_of_not_mem hs]
  simp [hne, hd]

theorem plainPath_of_not_mem (hs : '/' ∉ cs) (hne : cs ≠ []) (hd : cs ≠ ['.']) :
    plainPath (String.ofList cs) = String.ofList cs := by
  obtain ⟨c, more, rfl⟩ := List.exists_cons_of_ne_nil hne
  have hc : c ≠ '/' := fun h => hs (h ▸ List.mem_cons_self)
  have hroot : pathRoot (String.ofList (c :: more)) = [] := by
    rw [pathRoot, String.toList_ofList, List.takeWhile_cons_of_neg (by simpa using hc)]
    rfl
  rw [plainPath, hroot, pathSteps_of_not_mem hs hne hd, List.intercalate_singleton,
    List.nil_append]

/-- A text without slashes that is longer than a step may be is too long for a path. -/
theorem isTooLong_of_not_mem (hs : '/' ∉ cs)
    (hl : longestStep < (String.ofList cs).utf8ByteSize) :
    isTooLong (plainPath (String.ofList cs)) = true := by
  have hne : cs ≠ [] := by
    rintro rfl
    exact absurd hl (by decide)
  have hd : cs ≠ ['.'] := by
    rintro rfl
    exact absurd hl (by decide)
  rw [plainPath_of_not_mem hs hne hd, isTooLong, pathSteps_of_not_mem hs hne hd]
  simp [hl]

end

/-- A workflow of one page. -/
def onePage : String :=
  "\x7b\"id\": \"w\", \"nodes\": [\x7b\"id\": \"a\", \"type\": \"page\"\x7d]\x7d"

/-- A place with that workflow, and with these values in a file. -/
def desk (values : String) : Surroundings Unit where
  environment := []
  files := fun path =>
    if isTooLong path then .error .nameTooLong
    else if path = "wf.json" then .ok (Text.Utf8.encode onePage.toList)
    else if path = "v.json" then .ok (Text.Utf8.encode values.toList)
    else .error .missing
  width := 80
  network := Network.Client.nowhere
  state := ()

theorem hasLevel_desk (values : String) : HasLevel (desk values) := by
  have hlevel : LogLevel.configured [] none = .ok 20 := by decide +kernel
  exact ⟨20, hlevel⟩

theorem files_desk_of_isTooLong (values : String) {path : String} (h : isTooLong path = true) :
    (desk values).files path = .error .nameTooLong :=
  if_pos h

theorem holds_desk (values : String) : Holds (desk values).files "v.json" values where
  named := by decide
  plain := by decide
  bytes := by
    have hpath : plainPath "v.json" = "v.json" := by decide +kernel
    have hshort : ¬ isTooLong "v.json" = true := by decide +kernel
    rw [hpath]
    simp only [desk, if_neg hshort, if_neg (show ¬ "v.json" = "wf.json" by decide), if_true]

theorem exists_hasWorkflow_desk (values : String) :
    ∃ workflow, HasWorkflow (desk values).files "wf.json" workflow := by
  have hpage : Holds (desk values).files "wf.json" onePage := by
    refine ⟨by decide, by decide, ?_⟩
    have hpath : plainPath "wf.json" = "wf.json" := by decide +kernel
    have hshort : ¬ isTooLong "wf.json" = true := by decide +kernel
    rw [hpath]
    simp only [desk, if_neg hshort, if_true]
  let read := Payload.loadWorkflow (.text (String.ofList (plainLines onePage.toList)))
  have hload : read.toOption.isSome = true := by decide +kernel
  rcases hworkflow : read with why | workflow
  · rw [hworkflow] at hload
    cases hload
  · exact ⟨workflow, _, hpage.hasText, by decide +kernel, hworkflow⟩

/-- Values of three lines. -/
def threeLines : String := "\x7b\r\n\"name\":\r\"Ann\"\n\x7d"

theorem exists_object_of_kindName {v : Value} (h : v.kindName = "dict") :
    ∃ fields, v = .object fields := by
  cases v with
  | object fields => exact ⟨fields, rfl⟩
  | list items => exact absurd h (show "list" ≠ "dict" by decide)
  | _ => exact absurd h (show "NoneType" ≠ "dict" by decide)

theorem parse_threeLines : ∃ fields, Json.parse threeLines = .ok (.object fields) := by
  have hkind : ((Json.parse threeLines).map Value.kindName).toOption = some "dict" := by
    decide +kernel
  rcases hparse : Json.parse threeLines with why | v
  · rw [hparse] at hkind
    cases hkind
  · rw [hparse] at hkind
    obtain ⟨fields, rfl⟩ := exists_object_of_kindName (Option.some.inj hkind)
    exact ⟨fields, rfl⟩

theorem files_desk_threeLines :
    (desk threeLines).files (plainPath threeLines) = .error .missing := by
  decide +kernel

theorem not_isKept_threeLines (options : List String) (why : FileFault) :
    ¬ IsKept (desk threeLines) "wf.json" threeLines options why := fun hk => by
  have hfault := hk.untold.fault
  rw [files_desk_threeLines] at hfault
  cases hfault
  cases hk.untold.hides

/-- Values with a note. -/
def note (cs : List Char) : Value :=
  .object [("note", .text (String.ofList cs))]

theorem parse_note (cs : List Char) : Json.parse (note cs).loose = .ok (note cs) :=
  Json.parse_loose (.object (List.pairwise_singleton _ _) (List.forall_mem_singleton.2 (.text _)))

/-- The text of values with a note in which no character is escaped. -/
theorem loose_note {cs : List Char} (h : cs.flatMap Json.escapeChar = cs) :
    (note cs).loose
      = String.ofList ("\x7b\"note\": \"".toList ++ (cs ++ "\"\x7d".toList)) := by
  have hnote : Json.quote (String.ofList cs) = '"' :: (cs ++ ['"']) := by
    rw [Json.quote, String.toList_ofList, h]
  rw [Value.loose, note, Json.write, Json.writeFields, Json.write, hnote]
  simp [Json.quote, Json.Spacing.loose, Json.escapeChar]

/-- The program is kept from a note that is too long for a step of a path. -/
theorem isKept_note {cs : List Char} (h : cs.flatMap Json.escapeChar = cs)
    (hs : '/' ∉ "\x7b\"note\": \"".toList ++ (cs ++ "\"\x7d".toList))
    (hz : '\x00' ∉ "\x7b\"note\": \"".toList ++ (cs ++ "\"\x7d".toList))
    (hl : longestStep
      < (String.ofList ("\x7b\"note\": \"".toList ++ (cs ++ "\"\x7d".toList))).utf8ByteSize) :
    IsKept (desk (note cs).loose) "wf.json" (note cs).loose ["--json"] .nameTooLong where
  counts := (asksAlike_runArguments (by decide) ["--json"]).asksFor (by decide +kernel)
  level := hasLevel_desk _
  workflow := exists_hasWorkflow_desk _
  untold := by
    rw [loose_note h]
    refine ⟨by rwa [String.toList_ofList], ?_, rfl⟩
    exact files_desk_of_isTooLong _ (isTooLong_of_not_mem hs hl)

/-- A note of three hundred characters. -/
def longNote : String :=
  (note (List.replicate 300 'x')).loose

/-! ## The whole -/

/-- A run on the values of the call comes to the same as one on a file that holds them, unless
the program is kept from them.  Then it says why, and ends with the status of two. -/
theorem outcome_inline_iff (around : Surroundings σ) (options : List String) (hg : IsWord graph)
    (hp : IsWord path) (hobject : Json.parse text = .ok (.object fields))
    (hf : Holds around.files path text) (hno : ¬ IsFile around.files text) :
    (outcome around (runArguments graph text options)
        = outcome around (runArguments graph path options)
      ↔ ∀ why, ¬ IsKept around graph text options why)
    ∧ ∀ why, IsKept around graph text options why →
      outcome around (runArguments graph text options)
        = .ended (.ok {
            printed := Terminal.printed around.width
              s!"Failed to read input: {why.message (plainPath text)}"
            status := 2 }) :=
  ⟨⟨fun hsame _ hk => outcome_ne_of_isKept hp hobject hf hk hsame,
    outcome_eq_of_not_isKept hg hp hobject hf hno⟩, fun _ => outcome_of_isKept hobject⟩

/-- Values of three lines are told apart from a path, and the ends of their lines make no
difference. -/
theorem outcome_threeLines_eq : ∃ fields, IsWord "wf.json" ∧ IsWord "v.json"
    ∧ Json.parse threeLines = .ok (.object fields)
    ∧ Holds (desk threeLines).files "v.json" threeLines
    ∧ ¬ IsFile (desk threeLines).files threeLines
    ∧ outcome (desk threeLines) (runArguments "wf.json" threeLines ["--json"])
      = outcome (desk threeLines) (runArguments "wf.json" "v.json" ["--json"]) := by
  obtain ⟨fields, hobject⟩ := parse_threeLines
  have hno : ¬ IsFile (desk threeLines).files threeLines := by
    rintro ⟨-, bytes, hbytes⟩
    rw [files_desk_threeLines] at hbytes
    cases hbytes
  have hsame := (outcome_inline_iff (desk threeLines) ["--json"] (by decide) (by decide) hobject
    (holds_desk _) hno).1.2 (not_isKept_threeLines _)
  exact ⟨fields, by decide, by decide, hobject, holds_desk _, hno, hsame⟩

/-- Values that are given in the call are not read if they are too long for a path. -/
theorem outcome_longNote_ne :
    Json.parse longNote = .ok (note (List.replicate 300 'x'))
      ∧ Holds (desk longNote).files "v.json" longNote
      ∧ ¬ IsFile (desk longNote).files longNote
      ∧ outcome (desk longNote) (runArguments "wf.json" longNote ["--json"])
        ≠ outcome (desk longNote) (runArguments "wf.json" "v.json" ["--json"]) := by
  have hk : IsKept (desk longNote) "wf.json" longNote ["--json"] .nameTooLong :=
    isKept_note (by decide +kernel) (by decide +kernel) (by decide +kernel) (by decide +kernel)
  refine ⟨parse_note _, holds_desk _, ?_,
    outcome_ne_of_isKept (by decide) (parse_note _) (holds_desk _) hk⟩
  rintro ⟨-, bytes, hbytes⟩
  rw [hk.untold.fault] at hbytes
  cases hbytes

end FormAutomation.Command
