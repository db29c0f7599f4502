import FormAutomation.Value.Basic

/-!
# Complaints about a payload

A payload is checked as a whole: every place that does not fit is a complaint of
its own, named by the way that leads to it.  `Checked` is a result that keeps
the complaints of all its parts; joining two results keeps those of both, the
first part's first.
-/

namespace FormAutomation.Payload

/-- What is wrong at a place. -/
inductive Problem where
  /-- a field that has to be there is missing -/
  | missing
  /-- a text is expected -/
  | textExpected
  /-- the text has to say something -/
  | emptyText
  /-- a list is expected -/
  | listExpected
  /-- an object is expected -/
  | objectExpected
  /-- an object of a certain sort is expected -/
  | recordExpected (sort : String)
  /-- a node is expected -/
  | nodeExpected
  /-- the node has no type -/
  | untyped
  /-- there is no such type of node -/
  | unknownType (type : String) (known : List String)
  /-- one of some words is expected -/
  | choice (options : List String)
  /-- a truth value is expected -/
  | truthExpected
  /-- the text or number stands for no truth value -/
  | noTruth
  /-- a whole number is expected -/
  | wholeExpected
  /-- a number is expected -/
  | numberExpected
  /-- two nodes have the same id -/
  | duplicate (id : String)
  deriving DecidableEq

/-- Words in single quotes with commas between them. -/
def quotedWords (words : List String) : String :=
  ", ".intercalate (words.map fun word => s!"'{word}'")

/-- Words in single quotes, the last after an "or". -/
def eitherOf (words : List String) : String :=
  match words.reverse with
  | [] => ""
  | [word] => s!"'{word}'"
  | last :: before => s!"{quotedWords before.reverse} or '{last}'"

/-- What is said of a problem. -/
def Problem.message : Problem → String
  | .missing => "Field required"
  | .textExpected => "Input should be a valid string"
  | .emptyText => "String should have at least 1 character"
  | .listExpected => "Input should be a valid tuple"
  | .objectExpected => "Input should be a valid dictionary"
  | .recordExpected sort => s!"Input should be a valid dictionary or instance of {sort}"
  | .nodeExpected => "Input should be a valid dictionary or object to extract fields from"
  | .untyped => "Unable to extract tag using discriminator 'type'"
  | .unknownType type known =>
    s!"Input tag '{type}' found using 'type' does not match any of the expected tags: "
      ++ quotedWords known
  | .choice options => s!"Input should be {eitherOf options}"
  | .truthExpected => "Input should be a valid boolean"
  | .noTruth => "Input should be a valid boolean, unable to interpret input"
  | .wholeExpected => "Input should be a valid integer"
  | .numberExpected => "Input should be a valid number"
  | .duplicate id => s!"Value error, Duplicate node id '{id}'."

/-- A problem and the way that leads to its place. -/
structure Complaint where
  /-- names and indices from the top -/
  location : List String
  /-- what is wrong there -/
  problem : Problem
  deriving DecidableEq

/-- What is said of a complaint. -/
def Complaint.message (complaint : Complaint) : String :=
  let location := ".".intercalate complaint.location
  if location = "" then complaint.problem.message
  else s!"{location}: {complaint.problem.message}"

/-! ## Results that keep every complaint -/

universe u

/-- A result, or all complaints about what it was to be read from. -/
abbrev Checked (α : Type u) := Except (List Complaint) α

namespace Checked

variable {α β γ : Type u}

/-- A single complaint. -/
def refuse (location : List String) (problem : Problem) : Checked α :=
  .error [⟨location, problem⟩]

/-- Both results, or the complaints of both. -/
def both (x : Checked α) (y : Checked β) : Checked (α × β) :=
  match x, y with
  | .ok a, .ok b => .ok (a, b)
  | .ok _, .error e => .error e
  | .error e, .ok _ => .error e
  | .error e, .error e' => .error (e ++ e')

/-- The results of all items, numbered from `index`, or the complaints of
all. -/
def all (read : Nat → γ → Checked α) : Nat → List γ → Checked (List α)
  | _, [] => .ok []
  | index, item :: rest =>
    match read index item, all read (index + 1) rest with
    | .ok a, .ok as => .ok (a :: as)
    | .ok _, .error e => .error e
    | .error e, .ok _ => .error e
    | .error e, .error e' => .error (e ++ e')

theorem both_eq_ok {x : Checked α} {y : Checked β} {p : α × β} :
    both x y = .ok p ↔ x = .ok p.1 ∧ y = .ok p.2 := by
  obtain ⟨a, b⟩ := p
  cases x <;> cases y <;> simp [both]

end Checked

end FormAutomation.Payload
