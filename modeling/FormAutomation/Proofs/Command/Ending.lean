import FormAutomation.Proofs.Command.Reading
import FormAutomation.Proofs.Network.Gate
import FormAutomation.Proofs.Network.Watched
import FormAutomation.Proofs.Terminal.Table

/-!
# How the program ends

The program is to end with a status whatever it is given: zero when all is well, one when a
workflow has errors or a run did not succeed, and two when there was nothing to work on.

It does so but for what it is not prepared for.  Some of this is in the files.  The rest is
around them: the name of the log level, a budget that is given but is no number, and the
table of a run, which is read as markup, so that a name in it may close a style that was
never opened.

The ways to end are given as a relation, which says of files, texts and values what has to be
the case.  The program ends in the ways of the relation, and in no other.

Where a text, an index or a response is a strain, the relation names the strain in place of an
ending: it is told that there is one, and not how the program ends then.
-/

namespace FormAutomation.Command

/-! ## The ways to end -/

/-- The file that an invocation works on. -/
def Invocation.file? : Invocation → Option String
  | .validate file _ => some file
  | .run file _ _ _ _ _ => some file
  | .templates => none

/-- The number of nodes that may be executed, if one is said or nothing is. -/
def Budget.number? (settings : Settings) : Budget → Option Int
  | .usual => some settings.maxSteps
  | .ofInt n => some n
  | .empty => none

variable {σ : Type}

/-- A level is set for the log. -/
def HasLevel (around : Surroundings σ) : Prop :=
  ∃ level, LogLevel.configured around.environment none = .ok level

/-- The run that an invocation asks for is made, with this strain and this result. -/
def Makes (around : Surroundings σ) (path : String) (values event field : Option String)
    (budget : Budget) (strain? : Option Strain) (result : RunResult) : Prop :=
  let settings := Settings.ofEnvironment around.environment
  ∃ workflow fields steps, HasWorkflow around.files path workflow
    ∧ HasValues around.files values fields ∧ budget.number? settings = some steps
    ∧ let made := workflow.run (.ofNumbers steps settings.callTimeout settings.gate) fields
        (some ((client settings).caller around.network.watched))
        ((filled event).map fun name => { name := some name, field : FormEvent })
        ([], none, around.state)
      strain? = workflow.strain?.or made.caller.2.1 ∧ result = made.result

/-- What is to be printed of a run can be printed: only its table is read as markup. -/
def CanPrint (around : Surroundings σ) (json : Bool) (result : RunResult) : Prop :=
  json = true ∨ result.rejected ≠ [] ∨ (runTable result).IsReadable around.width

/-- The ways to end: with a status, or for a reason that the program is not prepared for.  A
strain stands for an ending that is not told. -/
inductive EndsWith (around : Surroundings σ) : Invocation → Except Obstacle Nat → Prop where
  /-- no level is set for the log -/
  | noLevel {invocation : Invocation} {why : LogLevel.Fault}
      (h : LogLevel.configured around.environment none = .error why) :
      EndsWith around invocation (.error (.logLevel why))
  /-- the workflows to begin with are listed -/
  | listed (hl : HasLevel around) : EndsWith around .templates (.ok 0)
  /-- the program is not prepared for the file -/
  | workflowTrips {invocation : Invocation} {path : String} {obstacle : Obstacle}
      (hl : HasLevel around) (hp : invocation.file? = some path)
      (h : WorkflowTrips around.files path obstacle) : EndsWith around invocation (.error obstacle)
  /-- there is no workflow -/
  | workflowRefused {invocation : Invocation} {path : String} (hl : HasLevel around)
      (hp : invocation.file? = some path) (h : WorkflowRefused around.files path) :
      EndsWith around invocation (.ok 2)
  /-- no error is found in the workflow -/
  | valid {path : String} {json : Bool} {workflow : Workflow} (hl : HasLevel around)
      (hw : HasWorkflow around.files path workflow)
      (h : ∀ issue ∈ workflow.toGraph.issues, issue.isError = false) :
      EndsWith around (.validate path json) (.ok 0)
  /-- an error is found in the workflow -/
  | invalid {path : String} {json : Bool} {workflow : Workflow} (hl : HasLevel around)
      (hw : HasWorkflow around.files path workflow)
      (h : ∃ issue ∈ workflow.toGraph.issues, issue.isError = true) :
      EndsWith around (.validate path json) (.ok 1)
  /-- the program is not prepared for the file of the values -/
  | valuesTrip {path : String} {values event field : Option String} {budget : Budget}
      {json : Bool} {workflow : Workflow} {obstacle : Obstacle} (hl : HasLevel around)
      (hw : HasWorkflow around.files path workflow)
      (h : ValuesTrip around.files values obstacle) :
      EndsWith around (.run path values event field budget json) (.error obstacle)
  /-- there are no values -/
  | valuesRefused {path : String} {values event field : Option String} {budget : Budget}
      {json : Bool} {workflow : Workflow} (hl : HasLevel around)
      (hw : HasWorkflow around.files path workflow) (h : ValuesRefused around.files values) :
      EndsWith around (.run path values event field budget json) (.ok 2)
  /-- the budget is given, but no number -/
  | noBudget {path : String} {values event field : Option String} {json : Bool}
      {workflow : Workflow} {fields : Entries Value} (hl : HasLevel around)
      (hw : HasWorkflow around.files path workflow) (hv : HasValues around.files values fields) :
      EndsWith around (.run path values event field .empty json)
        (.error (.budget (.wholeOf "list")))
  /-- the run is a strain, and nothing is told of how it ends -/
  | strained {path : String} {values event field : Option String} {budget : Budget}
      {json : Bool} {result : RunResult} {why : Strain} (hl : HasLevel around)
      (hm : Makes around path values event field budget (some why) result) :
      EndsWith around (.run path values event field budget json) (.error (.strain why))
  /-- the run is made, but its table cannot be read -/
  | unprinted {path : String} {values event field : Option String} {budget : Budget}
      {result : RunResult} {why : Terminal.Markup.Fault} (hl : HasLevel around)
      (hm : Makes around path values event field budget none result) (hr : result.rejected = [])
      (h : (runTable result).printed around.width = .error why) :
      EndsWith around (.run path values event field budget false) (.error (.markup why))
  /-- the run succeeds -/
  | succeeded {path : String} {values event field : Option String} {budget : Budget}
      {json : Bool} {result : RunResult} (hl : HasLevel around)
      (hm : Makes around path values event field budget none result)
      (hp : CanPrint around json result) (h : result.succeeded = true) :
      EndsWith around (.run path values event field budget json) (.ok 0)
  /-- the run does not succeed -/
  | failed {path : String} {values event field : Option String} {budget : Budget}
      {json : Bool} {result : RunResult} (hl : HasLevel around)
      (hm : Makes around path values event field budget none result)
      (hp : CanPrint around json result) (h : result.succeeded = false) :
      EndsWith around (.run path values event field budget json) (.ok 1)

/-! ## Invocations -/

variable {around : Surroundings σ} {invocation : Invocation} {values event field : Option String}
  {budget : Budget} {json : Bool} {result : RunResult} {workflow : Workflow}
  {fields : Entries Value} {obstacle : Obstacle}

theorem isReadable_startersTable (width : Nat) : startersTable.IsReadable width := by
  have hread : ∀ {text : String}, (Terminal.Markup.visible text).toOption.isSome = true →
      ∃ shown, Terminal.Markup.visible text = .ok shown := by
    intro text h
    rcases htext : Terminal.Markup.visible text with fault | shown
    · rw [htext] at h
      cases h
    · exact ⟨shown, rfl⟩
  have htitle : (Terminal.Markup.visible startersTable.title).toOption.isSome = true := by
    decide +kernel
  have hcells : ∀ i < startersTable.columns.length, ∀ text ∈ startersTable.columnTexts i,
      (Terminal.Markup.visible text).toOption.isSome = true := by
    decide +kernel
  exact .inr ⟨hread htitle, .inr fun i hi text htext => hread (hcells i hi text htext)⟩

theorem status_of_done {done : Done} (h : perform around invocation = .ok done) :
    (conclude around invocation).map (·.status) = .ok done.status := by
  rw [conclude, h]
  rfl

/-- What the program has something to say of is told with the status of two. -/
theorem status_of_isTold (h : perform around invocation = .error obstacle)
    (ht : obstacle.IsTold) : (conclude around invocation).map (·.status) = .ok 2 := by
  obtain ⟨report, hreport⟩ := ht
  rw [conclude, h]
  simp only [hreport]
  rfl

theorem status_of_untold (h : perform around invocation = .error obstacle)
    (ht : obstacle.report? = none) :
    (conclude around invocation).map (·.status) = .error obstacle := by
  rw [conclude, h]
  simp only [ht]
  rfl

theorem perform_of_not_hasLevel {why : LogLevel.Fault}
    (h : LogLevel.configured around.environment none = .error why) :
    perform around invocation = .error (.logLevel why) := by
  simp only [perform, h, Except.mapError, bind, Except.bind]

theorem perform_of_hasLevel (h : HasLevel around) :
    perform around invocation = match invocation with
      | .validate path json => validate around path json
      | .run path values event field budget json =>
        let event := (filled event).map fun name => { name := some name, field : FormEvent }
        run around path values event budget json
      | .templates => listStarters around := by
  obtain ⟨level, hlevel⟩ := h
  cases invocation <;> simp only [perform, hlevel, Except.mapError, bind, Except.bind]

/-- Without a workflow there is nothing that an invocation could work on. -/
theorem perform_of_no_workflow {path : String} (hl : HasLevel around)
    (hp : invocation.file? = some path) (h : readWorkflow around.files path = .error obstacle) :
    perform around invocation = .error obstacle := by
  rw [perform_of_hasLevel hl]
  cases invocation with
  | validate file json =>
    obtain rfl := Option.some.inj hp
    simp only [validate, h, bind, Except.bind]
  | run file values event field budget json =>
    obtain rfl := Option.some.inj hp
    simp only [run, h, bind, Except.bind]
  | templates => cases hp

/-- A workflow is examined, and whether it is valid is the status. -/
theorem perform_validate {path : String} (hl : HasLevel around)
    (hw : HasWorkflow around.files path workflow) :
    ∃ done, perform around (.validate path json) = .ok done
      ∧ done.status = if workflow.toGraph.isValid then 0 else 1 := by
  rw [perform_of_hasLevel hl]
  simp only [validate, readWorkflow_of_hasWorkflow hw, bind, Except.bind]
  exact ⟨_, rfl, rfl⟩

/-- Without values a workflow is not run. -/
theorem perform_of_no_values {path : String} (hl : HasLevel around)
    (hw : HasWorkflow around.files path workflow)
    (h : readValues around.files values = .error obstacle) :
    perform around (.run path values event field budget json) = .error obstacle := by
  rw [perform_of_hasLevel hl]
  simp only [run, readWorkflow_of_hasWorkflow hw, h, bind, Except.bind]

/-- Without a number for a budget a workflow is not run either. -/
theorem perform_of_no_budget {path : String} (hl : HasLevel around)
    (hw : HasWorkflow around.files path workflow) (hv : HasValues around.files values fields) :
    perform around (.run path values event field .empty json)
      = .error (.budget (.wholeOf "list")) := by
  rw [perform_of_hasLevel hl]
  simp only [run, readWorkflow_of_hasWorkflow hw, readValues_of_hasValues hv, bind, Except.bind]
  rfl

theorem runOptions_of_number? {settings : Settings} {steps : Int}
    (h : budget.number? settings = some steps) :
    runOptions settings budget = .ok (.ofNumbers steps settings.callTimeout settings.gate) := by
  cases budget with
  | empty => cases h
  | _ =>
    obtain rfl := Option.some.inj h
    rfl

/-- A run that is made is the run over the network itself, that is not watched. -/
theorem exists_run_of_makes {path : String} {strain? : Option Strain}
    (hm : Makes around path values event field budget strain? result) :
    let settings := Settings.ofEnvironment around.environment
    ∃ workflow fields steps, HasWorkflow around.files path workflow
      ∧ HasValues around.files values fields ∧ budget.number? settings = some steps
      ∧ result = (workflow.run (.ofNumbers steps settings.callTimeout settings.gate) fields
          (some ((client settings).caller around.network))
          ((filled event).map fun name => { name := some name, field : FormEvent })
          ([], around.state)).result := by
  obtain ⟨workflow, fields, steps, hw, hv, hb, -, rfl⟩ := hm
  have hlike := (client (Settings.ofEnvironment around.environment)).answersLike_watched
    around.network
  refine ⟨workflow, fields, steps, hw, hv, hb, ?_⟩
  exact (congrArg Run.result (hlike.run_map workflow _ fields _ ([], none, around.state))).symm

/-- A run that is made comes to what its strain and its result come to. -/
theorem perform_of_makes {path : String} (hl : HasLevel around) (json : Bool)
    {strain? : Option Strain} (hm : Makes around path values event field budget strain? result) :
    ∃ sent, perform around (.run path values event field budget json)
      = finish around.width json strain? result sent := by
  obtain ⟨workflow, fields, steps, hw, hv, hb, rfl, rfl⟩ := hm
  rw [perform_of_hasLevel hl]
  simp only [run, readWorkflow_of_hasWorkflow hw, readValues_of_hasValues hv,
    runOptions_of_number? hb, bind, Except.bind]
  exact ⟨_, rfl⟩

/-- What is printed of a run that was made, if there is a table, depends on the table. -/
theorem printedRun_of_made {width : Nat} (h : result.rejected = []) :
    printedRun width result = (((runTable result).printed width).mapError .markup).map
      (· ++ printedLines width (effectLines result)) := by
  rw [printedRun, h, if_neg (by simp)]
  rcases (runTable result).printed width with why | table
  · rfl
  · rfl

/-- What can be printed is printed. -/
theorem exists_printedResult (h : CanPrint around json result) :
    ∃ printed, printedResult around.width json result = .ok printed := by
  unfold printedResult
  by_cases hj : json = true
  · rw [if_pos hj]
    exact ⟨_, rfl⟩
  rw [if_neg hj]
  by_cases hr : result.rejected = []
  · have htable : (runTable result).IsReadable around.width := by
      rcases h with h | h | h
      · exact absurd h hj
      · exact absurd hr h
      · exact h
    obtain ⟨table, htable⟩ := Terminal.Table.exists_printed_iff.2 htable
    rw [printedRun_of_made hr, htable]
    exact ⟨_, rfl⟩
  · rw [printedRun, if_pos (by simpa using hr)]
    exact ⟨_, rfl⟩

/-- What can be printed of a run is printed, and whether it succeeded is the status. -/
theorem exists_finish_of_canPrint (h : CanPrint around json result)
    (sent : List Network.WireRequest) :
    ∃ done, finish around.width json none result sent = .ok done
      ∧ done.status = if result.succeeded then 0 else 1 := by
  obtain ⟨printed, hprinted⟩ := exists_printedResult h
  simp only [finish, checkStrain, hprinted, bind, Except.bind]
  exact ⟨_, rfl, rfl⟩

theorem canPrint_or_unprinted (around : Surroundings σ) (json : Bool) (result : RunResult) :
    CanPrint around json result ∨ json = false ∧ result.rejected = []
      ∧ ∃ why, (runTable result).printed around.width = .error why := by
  cases json with
  | true => exact .inl (.inl rfl)
  | false =>
    by_cases hr : result.rejected = []
    · rcases htable : (runTable result).printed around.width with why | table
      · exact .inr ⟨rfl, hr, why, rfl⟩
      · exact .inl (.inr (.inr (Terminal.Table.exists_printed_iff.1 ⟨table, htable⟩)))
    · exact .inl (.inr (.inl hr))

/-! ## The whole -/

/-- There is a way to end, whatever is given. -/
theorem exists_endsWith (around : Surroundings σ) (invocation : Invocation) :
    ∃ ending, EndsWith around invocation ending := by
  rcases hlevel : LogLevel.configured around.environment none with why | level
  · exact ⟨_, .noLevel hlevel⟩
  have hl : HasLevel around := ⟨level, hlevel⟩
  -- where there is a file, a workflow is found in it, or there is nothing to work on
  have hwork : ∀ path, invocation.file? = some path →
      (∀ workflow, HasWorkflow around.files path workflow →
        ∃ ending, EndsWith around invocation ending) →
          ∃ ending, EndsWith around invocation ending := by
    intro path hp hfound
    rcases workflow_cases around.files path with ⟨workflow, hw⟩ | hrefused | ⟨obstacle, htrips⟩
    · exact hfound workflow hw
    · exact ⟨_, .workflowRefused hl hp hrefused⟩
    · exact ⟨_, .workflowTrips hl hp htrips⟩
  cases invocation with
  | validate path json =>
    refine hwork path rfl fun workflow hw => ?_
    by_cases herror : ∃ issue ∈ workflow.toGraph.issues, issue.isError = true
    · exact ⟨_, .invalid hl hw herror⟩
    · refine ⟨_, .valid hl hw fun issue hissue => ?_⟩
      rw [Bool.eq_false_iff]
      exact fun h => herror ⟨issue, hissue, h⟩
  | run path values event field budget json =>
    refine hwork path rfl fun workflow hw => ?_
    rcases values_cases around.files values with ⟨fields, hv⟩ | hrefused | ⟨obstacle, htrip⟩
    · rcases hb : budget.number? (Settings.ofEnvironment around.environment) with _ | steps
      · cases budget with
        | empty => exact ⟨_, .noBudget hl hw hv⟩
        | _ => cases hb
      · obtain ⟨strain?, result, hm⟩ :
            ∃ strain? result, Makes around path values event field budget strain? result :=
          ⟨_, _, workflow, fields, steps, hw, hv, hb, rfl, rfl⟩
        cases strain? with
        | some why => exact ⟨_, .strained hl hm⟩
        | none =>
        rcases canPrint_or_unprinted around json result with hprint | ⟨rfl, hr, why, htable⟩
        · rcases hs : result.succeeded with _ | _
          · exact ⟨_, .failed hl hm hprint hs⟩
          · exact ⟨_, .succeeded hl hm hprint hs⟩
        · exact ⟨_, .unprinted hl hm hr htable⟩
    · exact ⟨_, .valuesRefused hl hw hrefused⟩
    · exact ⟨_, .valuesTrip hl hw htrip⟩
  | templates => exact ⟨_, .listed hl⟩

/-- The program ends in every way that it may end in. -/
theorem status_of_endsWith {ending : Except Obstacle Nat} (h : EndsWith around invocation ending) :
    (conclude around invocation).map (·.status) = ending := by
  cases h with
  | noLevel h => exact status_of_untold (perform_of_not_hasLevel h) rfl
  | listed hl =>
    obtain ⟨printed, hprinted⟩ :=
      Terminal.Table.exists_printed_iff.2 (isReadable_startersTable around.width)
    have hdone : perform around .templates = .ok { printed, status := 0 } := by
      rw [perform_of_hasLevel hl]
      simp only [listStarters, hprinted, Except.mapError, bind, Except.bind]
      rfl
    exact status_of_done hdone
  | workflowTrips hl hp h =>
    obtain ⟨hread, huntold⟩ := readWorkflow_of_trips h
    exact status_of_untold (perform_of_no_workflow hl hp hread) huntold
  | workflowRefused hl hp h =>
    obtain ⟨obstacle, hread, htold⟩ := readWorkflow_of_refused h
    exact status_of_isTold (perform_of_no_workflow hl hp hread) htold
  | @valid path json workflow hl hw h =>
    obtain ⟨done, hdone, hstatus⟩ := perform_validate hl hw
    have hvalid : workflow.toGraph.isValid = true := by simpa [Graph.isValid] using h
    rw [status_of_done hdone, hstatus, if_pos hvalid]
  | @invalid path json workflow hl hw h =>
    obtain ⟨done, hdone, hstatus⟩ := perform_validate hl hw
    have hvalid : ¬ workflow.toGraph.isValid = true := by simpa [Graph.isValid] using h
    rw [status_of_done hdone, hstatus, if_neg hvalid]
  | valuesTrip hl hw h =>
    obtain ⟨hread, huntold⟩ := readValues_of_trip h
    exact status_of_untold (perform_of_no_values hl hw hread) huntold
  | valuesRefused hl hw h =>
    obtain ⟨obstacle, hread, htold⟩ := readValues_of_refused h
    exact status_of_isTold (perform_of_no_values hl hw hread) htold
  | noBudget hl hw hv => exact status_of_untold (perform_of_no_budget hl hw hv) rfl
  | strained hl hm =>
    obtain ⟨sent, hperform⟩ := perform_of_makes hl _ hm
    exact status_of_untold hperform rfl
  | unprinted hl hm hr h =>
    obtain ⟨sent, hperform⟩ := perform_of_makes hl false hm
    refine status_of_untold (hperform.trans ?_) rfl
    simp only [finish, checkStrain, printedResult, Bool.false_eq_true, if_false,
      printedRun_of_made hr, h]
    rfl
  | @succeeded path values event field budget json result hl hm hp h =>
    obtain ⟨sent, hperform⟩ := perform_of_makes hl json hm
    obtain ⟨done, hdone, hstatus⟩ := exists_finish_of_canPrint hp sent
    rw [status_of_done (hperform.trans hdone), hstatus, h, if_pos rfl]
  | @failed path values event field budget json result hl hm hp h =>
    obtain ⟨sent, hperform⟩ := perform_of_makes hl json hm
    obtain ⟨done, hdone, hstatus⟩ := exists_finish_of_canPrint hp sent
    rw [status_of_done (hperform.trans hdone), hstatus, h, if_neg Bool.false_ne_true]

/-- A workflow with a node whose type is a list. -/
def listType : List UInt8 :=
  Text.Utf8.encode "\x7b\"nodes\": [\x7b\"id\": \"a\", \"type\": []\x7d]\x7d".toList

end FormAutomation.Command
