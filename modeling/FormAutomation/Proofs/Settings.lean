import FormAutomation.Command.Basic
import FormAutomation.Proofs.Number.Order

/-!
# Settings are safe

Every environment gives settings, and options of a run and a client can be made of them.  A
run executes one node at least, and it waits for calls and for the network as long as a
number says that is not too small, whatever the variables hold: what is no number, or not
even the double that is none, leaves what is usual or the least in force.

A client keeps to public hosts unless a variable says in so many words that it need not.
-/

namespace FormAutomation.Settings

/-- The number that is in force where a variable may say one: its own, the least one if it
says less or says none that can be compared, and the usual one if it says nothing. -/
inductive InForce (least usual : Binary64) (text? : Option String) : Binary64 → Prop where
  /-- nothing is said, or nothing that can be read -/
  | usual (h : ∀ text, text? = some text → Numeral.readDouble text.toList = none) :
      InForce least usual text? usual
  /-- a number above the least one is said -/
  | said {text : String} {x : Binary64} (ht : text? = some text)
      (hr : Numeral.readDouble text.toList = some x) (hx : least.lt x = true) :
      InForce least usual text? x
  /-- what is said is not above the least one -/
  | raised {text : String} {x : Binary64} (ht : text? = some text)
      (hr : Numeral.readDouble text.toList = some x) (hx : least.lt x = false) :
      InForce least usual text? least

/-- The number of nodes that is in force where a variable may say one. -/
inductive BudgetInForce (text? : Option String) : Int → Prop where
  /-- nothing is said, or nothing that can be read -/
  | usual (h : ∀ text, text? = some text → Numeral.readInt text.toList = none) :
      BudgetInForce text? 100
  /-- a number is said, which is raised to one -/
  | said {text : String} {n : Int} (ht : text? = some text)
      (hr : Numeral.readInt text.toList = some n) : BudgetInForce text? (max 1 n)

/-- The options and the client of settings do no harm, and they are what the environment
says. -/
structure AreSafe (environment : Entries String) (options : RunOptions)
    (client : Network.Client) : Prop where
  /-- a node may be executed -/
  budget : 1 ≤ options.budget
  /-- the number of nodes is that of the environment -/
  budgetSaid : BudgetInForce (environment.lookup "FORMFLOW_MAX_STEPS") options.budget
  /-- a call may take a tenth of a second, and the time is a number -/
  call : RunOptions.leastTimeout.le options.timeout = true ∧ options.timeout.isNaN = false
  /-- the time is that of the environment -/
  callSaid : InForce RunOptions.leastTimeout (.ofNat 30)
    (environment.lookup "FORMFLOW_CALL_TIMEOUT_SECONDS") options.timeout
  /-- an exchange may take a second, and the time is a number -/
  http : (Binary64.ofNat 1).le client.timeout = true ∧ client.timeout.isNaN = false
  /-- the time is that of the environment -/
  httpSaid : InForce (.ofNat 1) (.ofNat 20)
    (environment.lookup "FORMFLOW_HTTP_TIMEOUT_SECONDS") client.timeout
  /-- internal hosts are let through if the environment says so, and only then -/
  letsThrough : client.blockPrivate = false ↔ ∃ text,
    environment.lookup "FORMFLOW_BLOCK_PRIVATE_HOSTS" = some text
      ∧ Text.lower (Text.trim text) ∈ ["0", "false", "no", "off"]

/-! ## Variables -/

variable {environment : Entries String} {name : String}

/-- An empty variable says as little as one that is not there. -/
theorem said_bind {α : Type*} (read : List Char → Option α) (h : read [] = none) :
    (said environment name).bind (read ·.toList)
      = (environment.lookup name).bind (read ·.toList) := by
  rw [said]
  rcases environment.lookup name with _ | text
  · rfl
  · by_cases ht : text = ""
    · subst ht
      exact h.symm
    · simp [Option.filter, ht]

theorem budgetInForce_whole :
    BudgetInForce (environment.lookup name) (max 1 (whole environment name 100)) := by
  rw [whole, said_bind Numeral.readInt rfl]
  rcases hl : environment.lookup name with _ | text
  · exact .usual nofun
  · rw [Option.bind_some]
    rcases hr : Numeral.readInt text.toList with _ | n
    · refine .usual fun text' ht => ?_
      obtain rfl := Option.some.inj ht
      exact hr
    · exact .said rfl hr

theorem inForce_number {least usual : Binary64} (h : least.lt usual = true) :
    InForce least usual (environment.lookup name)
      (least.atLeast (number environment name usual)) := by
  rw [number, said_bind Numeral.readDouble rfl, Binary64.atLeast]
  rcases hl : environment.lookup name with _ | text
  · rw [Option.bind_none, Option.getD_none, if_pos h]
    exact .usual nofun
  · rw [Option.bind_some]
    rcases hr : Numeral.readDouble text.toList with _ | x
    · rw [Option.getD_none, if_pos h]
      refine .usual fun text' ht => ?_
      obtain rfl := Option.some.inj ht
      exact hr
    · rw [Option.getD_some]
      split
      · next hx => exact .said rfl hr hx
      · next hx => exact .raised rfl hr (Bool.eq_false_iff.2 hx)

/-- What is usually so is not so only if a variable says this in a word. -/
theorem truth_eq_false_iff :
    truth environment name true = false
      ↔ ∃ text, environment.lookup name = some text
        ∧ Text.lower (Text.trim text) ∈ falseWords := by
  have hapart : ∀ word ∈ falseWords, trueWords.contains word = false := by decide
  unfold truth
  rcases environment.lookup name with _ | text
  · simp
  dsimp only
  constructor
  · intro h
    refine ⟨text, rfl, ?_⟩
    split at h
    · cases h
    · split at h
      · next hword => exact List.contains_iff_mem.1 hword
      · cases h
  · rintro ⟨text', ht, hword⟩
    obtain rfl := Option.some.inj ht
    rw [hapart _ hword, List.contains_iff_mem.2 hword]
    rfl

/-! ## The whole -/

/-- The options of the settings alone. -/
theorem runOptions_nil (settings : Settings) :
    settings.runOptions []
      = .ok (.ofNumbers settings.maxSteps settings.callTimeout settings.gate) :=
  rfl

/-- Every environment gives settings of which options and a client can be made that do no
harm. -/
theorem areSafe_ofEnvironment (environment : Entries String) :
    ∃ options, (ofEnvironment environment).runOptions [] = .ok options
      ∧ AreSafe environment options (Command.client (ofEnvironment environment)) := by
  refine ⟨_, runOptions_nil _, ?_⟩
  have hbudget : BudgetInForce (environment.lookup "FORMFLOW_MAX_STEPS")
      (ofEnvironment environment).maxSteps := budgetInForce_whole
  -- it was raised to one already
  have hraised : ((max 1 (ofEnvironment environment).maxSteps).toNat : Int)
      = (ofEnvironment environment).maxSteps := by
    have hone : 1 ≤ (ofEnvironment environment).maxSteps := Int.le_max_left 1 _
    omega
  have hleast : RunOptions.leastTimeout.lt (.ofNat 30) = true := by decide +kernel
  have hsecond : (Binary64.ofNat 1).lt (.ofNat 20) = true := by decide +kernel
  refine ⟨?_, ?_, ?_, ?_, ?_, ?_, ?_⟩
  · exact (RunOptions.ofNumbers _ _ _).budget_pos
  · exact hraised.symm ▸ hbudget
  · exact Binary64.le_atLeast (Binary64.isNaN_of_lt hleast).1 _
  · exact inForce_number hleast
  · exact Binary64.le_atLeast (Binary64.isNaN_of_lt hsecond).1 _
  · exact inForce_number hsecond
  · exact truth_eq_false_iff

end FormAutomation.Settings
