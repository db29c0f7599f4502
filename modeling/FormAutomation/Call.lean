import FormAutomation.Context

/-!
# Calls

Nodes that need something from outside ask a *caller*.  A caller is given a
request and the context and answers with a value or a fault, after some time; it
keeps a state of its own, so that it may answer the same request differently the
next time.  A run without a caller cannot make requests.
-/

namespace FormAutomation

/-- What is asked for. -/
structure Request where
  /-- the address -/
  url : String
  /-- the method -/
  method : String
  /-- the headers in order -/
  headers : Entries String
  /-- the body, if there is one -/
  body : Option String
  deriving DecidableEq

/-- The request as an object. -/
def Request.toValue (request : Request) : Value :=
  .object ([("url", .text request.url), ("method", .text request.method)]
    ++ (if request.headers.isEmpty then []
      else [("headers", .object (request.headers.map fun (name, s) => (name, .text s)))])
    ++ (request.body.map fun s => ("body", Value.text s)).toList)

/-- Why a request has no answer.  A signal, such as that the caller is cancelled, is no
fault: it breaks off the run as well. -/
inductive CallFault where
  /-- the caller says why the node fails -/
  | nodeFailed (message : String)
  /-- the call failed -/
  | callFailed (message : String)
  deriving DecidableEq

/-- What comes back, and after how many seconds. -/
structure Reply where
  /-- the response, or why there is none -/
  response : Except CallFault Value
  /-- the seconds that it took -/
  delay : Binary64

/-- Answers requests, with a state that the answers may depend on.  An answer is a value of
its own: a caller is given the context to read it, and one that hands it back, to be
changed with it later, is none of these. -/
structure Caller (σ : Type) where
  /-- the answer to a request in a context -/
  call : Request → Context → σ → Reply × σ

end FormAutomation
