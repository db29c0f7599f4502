import FormAutomation.Condition

/-!
# What a node does

There are eight kinds of nodes.  Each carries the configuration of its kind and
no other; what an author may have left open is optional, and it is the checks
that report it, not the loading.
-/

namespace FormAutomation

/-- The kinds of nodes. -/
inductive NodeKind where
  /-- where a run starts -/
  | trigger
  /-- a page of the form -/
  | page
  /-- a request whose response is kept -/
  | callApi
  /-- a request whose response fills a select field -/
  | fetchOptions
  /-- values set on the form -/
  | setData
  /-- a message shown -/
  | showDialog
  /-- another page opened -/
  | redirect
  /-- a branch taken -/
  | condition
  deriving DecidableEq

namespace NodeKind

/-- The kinds in the order in which messages list them. -/
def all : List NodeKind :=
  [.trigger, .page, .callApi, .fetchOptions, .setData, .showDialog, .redirect, .condition]

/-- The name of a kind. -/
def name : NodeKind → String
  | .trigger => "trigger"
  | .page => "page"
  | .callApi => "callApi"
  | .fetchOptions => "fetchOptions"
  | .setData => "setData"
  | .showDialog => "showDialog"
  | .redirect => "redirect"
  | .condition => "condition"

/-- The kind of a name. -/
def ofName? (name : String) : Option NodeKind :=
  all.find? (·.name == name)

theorem ofName?_name (kind : NodeKind) : ofName? kind.name = some kind := by
  cases kind <;> rfl

/-- Kinds are told apart by their names. -/
theorem name_inj {kind other : NodeKind} : kind.name = other.name ↔ kind = other := by
  refine ⟨fun h => ?_, congrArg name⟩
  have hfound := ofName?_name kind
  rw [h, ofName?_name] at hfound
  exact (Option.some.inj hfound).symm

end NodeKind

/-- What can happen on a form. -/
inductive EventKind where
  /-- a page is opened -/
  | pageLoad
  /-- a field gets another value -/
  | fieldChange
  /-- the form is sent -/
  | formSubmit
  deriving DecidableEq

namespace EventKind

/-- The events in the order in which messages list them. -/
def all : List EventKind :=
  [.pageLoad, .fieldChange, .formSubmit]

/-- The name of an event. -/
def name : EventKind → String
  | .pageLoad => "pageLoad"
  | .fieldChange => "fieldChange"
  | .formSubmit => "formSubmit"

/-- The event of a name. -/
def ofName? (name : String) : Option EventKind :=
  all.find? (·.name == name)

theorem ofName?_name (kind : EventKind) : ofName? kind.name = some kind := by
  cases kind <;> rfl

end EventKind

/-- The request methods. -/
inductive Method where
  | get
  | post
  | put
  | patch
  | delete
  deriving DecidableEq

namespace Method

/-- The methods in the order in which messages list them. -/
def all : List Method :=
  [.get, .post, .put, .patch, .delete]

/-- The name of a method. -/
def name : Method → String
  | .get => "GET"
  | .post => "POST"
  | .put => "PUT"
  | .patch => "PATCH"
  | .delete => "DELETE"

/-- The method of a name. -/
def ofName? (name : String) : Option Method :=
  all.find? (·.name == name)

theorem ofName?_name (method : Method) : ofName? method.name = some method := by
  cases method <;> rfl

end Method

/-- A request to be made, its address and body still templates. -/
structure Endpoint where
  /-- the template of the address -/
  url : Option String
  /-- the method -/
  method : Method
  /-- the headers, in order -/
  headers : Entries String
  /-- the template of the body -/
  bodyTemplate : Option String
  deriving DecidableEq

/-- How a response becomes the options of a select field. -/
structure OptionSource where
  /-- where the items stand in the response -/
  responsePath : Option String
  /-- the entry of an item that is shown -/
  labelKey : String
  /-- the entry of an item that is stored -/
  valueKey : String
  /-- the field that gets the options -/
  targetField : Option String
  deriving DecidableEq

/-- A value to be set: where it comes from and the field it goes to. -/
structure Assignment where
  /-- where the value is read -/
  source : String
  /-- the field that gets it; empty for none -/
  target : String
  deriving DecidableEq

/-- What a node does, with the configuration for it. -/
inductive Action where
  /-- starts a run on an event, for one field only if a field is given -/
  | trigger (event : Option EventKind) (field : Option String)
  /-- stands for a page -/
  | page (page : Option String)
  /-- makes a request -/
  | callApi (endpoint : Endpoint)
  /-- makes a request and fills a select field -/
  | fetchOptions (endpoint : Endpoint) (options : OptionSource)
  /-- sets values -/
  | setData (mapping : List Assignment)
  /-- shows a message -/
  | showDialog (title message : Option String)
  /-- opens another page -/
  | redirect (url : Option String) (newTab : Bool)
  /-- compares a value and takes a branch -/
  | condition (field : Option String) (operator : Option Condition.Operator)
      (value : Option Scalar)
  deriving DecidableEq

/-- The kind of an action. -/
def Action.kind : Action → NodeKind
  | .trigger .. => .trigger
  | .page .. => .page
  | .callApi .. => .callApi
  | .fetchOptions .. => .fetchOptions
  | .setData .. => .setData
  | .showDialog .. => .showDialog
  | .redirect .. => .redirect
  | .condition .. => .condition

end FormAutomation
