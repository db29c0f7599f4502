import FormAutomation.Terminal.Handler.Expression
import FormAutomation.Text.Blank

/-!
# Handlers

A tag of markup may name what happens when its text is clicked on, with
parameters: `[@click=open('a')]`.  The parameters are a value written down, or the
name of a handler with such values in brackets after it.  What they are does not
show on a plain terminal, but they have to be well written.
-/

namespace FormAutomation.Terminal.Handler

open Text

/-- Why parameters cannot be read. -/
inductive Fault where
  /-- the part that is read is no expression, and why -/
  | ill (read reason : String)
  /-- something of another kind is wrong -/
  | other (reason : String)
  deriving DecidableEq

/-- The part of parameters that is read: the brackets after the name of a
handler, or all where there is no such name. -/
def valuePart (parameters : List Char) : List Char :=
  let rest := parameters.dropWhile fun c => isWordChar c || c == '.'
  if rest.isEmpty then ['(', ')']
  else if rest.head? = some '(' ∧ rest.getLast? = some ')' ∧ !rest.contains '\n' then rest
  else parameters

/-- Whether a token can be a part of a value. -/
def isValuePart : Token → Bool
  | .word word => constants.contains word
  | .sign s => ["(", ")", "\x7b", "\x7d", ",", ":", "...", "+", "-"].contains s
  | _ => true

/-- Checks that nothing follows but ends of lines. -/
def finish (ts : Tokens) : Except Halt Unit :=
  let rest := ts.dropWhile (·.1 == .lineEnd)
  if ahead rest = .ending then .ok () else stop rest

/-- Reads expressions with commas between them, of which the last may be
followed by one.  Fuel is the number of tokens; a token takes part in reading at
most a dozen rules. -/
def expressions : Nat → Tokens → Except Halt Unit
  | 0, ts => stop ts
  | fuel + 1, ts => do
    let (_, rest) ← expression (12 * (fuel + 1)) 0 ts
    match rest with
    | (.sign ",", _) :: more =>
      if startsExpression (ahead more) || atFlaw more then expressions fuel more else finish more
    | _ => finish rest

/-- The first flaw of tokens. -/
def flaw? (ts : Tokens) : Option String :=
  ts.findSome? fun token =>
    match token.1 with
    | .flaw reason => some reason
    | _ => none

/-- What is said of reading that does not go on.  A flaw further on comes first. -/
def Halt.reason : Halt → String
  | .stuck rest =>
    match ahead rest with
    | .unclosed bracket => s!"'{bracket}' was never closed"
    | _ => (flaw? rest).getD "invalid syntax"
  | .mistake reason rest => (flaw? rest).getD reason

/-- Checks the parameters of a handler. -/
def check (parameters : String) : Except Fault Unit :=
  let read := String.ofList (valuePart (trim parameters).toList)
  let ts := tokensOf read
  if read.toList.contains '\x00' then .error (.other "source code string cannot contain null bytes")
  else
    match expressions (ts.length + 2) ts with
    | .error halt => .error (.ill read halt.reason)
    | .ok () =>
      if ts.all fun token => isValuePart token.1 then .ok ()
      else .error (.other "malformed node or string")

end FormAutomation.Terminal.Handler
