import FormAutomation.Value.Numeric

/-!
# The options of a run

A run has a budget of steps, of at least one, and waits at least a tenth of a
second for a call.  It may be set to refuse graphs that are not valid.
-/

namespace FormAutomation

/-- The options of a run. -/
structure RunOptions where
  /-- how many nodes may be executed -/
  budget : Nat
  /-- how many seconds a call may take -/
  timeout : Binary64
  /-- whether a graph that is not valid is refused -/
  gate : Bool
  /-- at least one node may be executed -/
  budget_pos : 0 < budget
  deriving DecidableEq

namespace RunOptions

/-- The name of the budget among options. -/
def budgetName : String := "max_steps"

/-- The name of the time limit among options. -/
def timeoutName : String := "call_timeout_seconds"

/-- The name of the gate among options. -/
def gateName : String := "gate_on_validation"

/-- The shortest time limit, a tenth of a second. -/
def leastTimeout : Binary64 := .ofDecimal false 1 (-1)

/-- The options of these numbers, raised to the least ones that are allowed. -/
def ofNumbers (budget : Int) (timeout : Binary64) (gate : Bool) : RunOptions where
  budget := (max 1 budget).toNat
  timeout := leastTimeout.atLeast timeout
  gate := gate
  budget_pos := by omega

/-- What takes no time is never too late. -/
theorem ofNumbers_timeout_not_lt (budget : Int) (timeout : Binary64) (gate : Bool) :
    (ofNumbers budget timeout gate).timeout.lt (.zero false) = false := by
  rw [Bool.eq_false_iff]
  intro h
  exact absurd (Binary64.lt_of_atLeast_lt h) (by decide +kernel)

/-- What holds where no option is given. -/
def defaults : Entries Value :=
  [(budgetName, .int 100), (timeoutName, .float (.ofNat 30)), (gateName, .bool false)]

/-- The options that entries give, over those that hold otherwise. -/
def ofEntries (base given : Entries Value) : Except Value.NumberFault RunOptions := do
  let entries := base.overlay given
  let budget ← ((entries.lookup budgetName).getD .null).toWhole
  let timeout ← ((entries.lookup timeoutName).getD .null).toDouble
  .ok (ofNumbers budget timeout ((entries.lookup gateName).getD .null).isMeaningful)

end RunOptions

end FormAutomation
