import FormAutomation.Terminal.Handler.Token

/-!
# Expressions of parameters

Parameters are an expression: words, numbers and texts, joined by operators and
put together in tuples, sets, tables and calls.  Reading either goes on to what
follows the expression, or gets stuck at a token that cannot come next, or meets a
known mistake and says what it is.

An expression has a *kind*, which tells whether a value could be assigned to it
and what it would be called in a message.
-/

namespace FormAutomation.Terminal.Handler

/-- What an expression is. -/
inductive Kind where
  /-- a name -/
  | name (word : String)
  /-- one of the words that stand for a value -/
  | constant (word : String)
  /-- a number or text -/
  | literal
  /-- three points -/
  | ellipsis
  /-- several expressions in brackets -/
  | tuple
  /-- a set -/
  | set
  /-- a table -/
  | table
  /-- a part of something -/
  | attribute
  /-- a call -/
  | call
  /-- an operation with numbers -/
  | operation
  /-- a comparison, or one of those that are made of truth values -/
  | condition
  deriving DecidableEq

/-- What an expression is called that nothing can be assigned to; nothing for
those of which another fault is found first. -/
def Kind.assigned? : Kind → Option String
  | .name _ => some "name"
  | .literal => some "literal"
  | .ellipsis => some "ellipsis"
  | .tuple => some "tuple"
  | .set => some "set display"
  | .table => some "dict literal"
  | .attribute => some "attribute"
  | .call => some "function call"
  | .operation => some "expression"
  | .constant _ => none
  | .condition => none

/-- The tokens that are still to be read. -/
abbrev Tokens := List (Token × Nat)

/-- Why reading does not go on. -/
inductive Halt where
  /-- a token cannot come next -/
  | stuck (rest : Tokens)
  /-- a known mistake was met -/
  | mistake (reason : String) (rest : Tokens)

/-! ## Words and signs -/

/-- The token at the head. -/
def ahead (ts : Tokens) : Token :=
  (ts.head?.map (·.1)).getD .ending

/-- Whether reading cannot go beyond the head. -/
def atFlaw (ts : Tokens) : Bool :=
  match ahead ts with
  | .flaw _ => true
  | .unclosed _ => true
  | _ => false

/-- The words that stand for a value. -/
def constants : List String :=
  ["False", "None", "True"]

/-- The words that are no names. -/
def keywords : List String :=
  ["and", "as", "assert", "async", "await", "break", "class", "continue", "def", "del", "elif",
   "else", "except", "finally", "for", "from", "global", "if", "import", "in", "is", "lambda",
   "nonlocal", "not", "or", "pass", "raise", "return", "try", "while", "with", "yield"]

/-- The words that are names only where nothing else is meant. -/
def softKeywords : List String :=
  ["_", "case", "match"]

/-- The names of what once was called without brackets. -/
def bareCalls : List String :=
  ["print", "exec"]

/-- Whether an expression can start with the token. -/
def startsExpression : Token → Bool
  | .word word => !keywords.contains word || word == "not" || word == "lambda" || word == "await"
  | .number => true
  | .text => true
  | .sign s => ["(", "[", "\x7b", "~", "...", "+", "-"].contains s
  | _ => false

/-- The operators with numbers. -/
def arithmetic : List String :=
  ["+", "-", "*", "/", "//", "%", "@", "**", "|", "&", "^", "<<", ">>"]

/-- The operators that compare. -/
def comparisons : List String :=
  ["<", ">", "<=", ">=", "==", "!="]

/-- The operator at the head: whether it is one with numbers, and what follows. -/
def operator? : Tokens → Option (Bool × Tokens)
  | (.sign s, _) :: rest =>
    if arithmetic.contains s then some (true, rest)
    else if comparisons.contains s then some (false, rest)
    else none
  | (.word "is", _) :: (.word "not", _) :: rest => some (false, rest)
  | (.word "not", _) :: (.word "in", _) :: rest => some (false, rest)
  | (.word word, _) :: rest =>
    if ["and", "or", "in", "is"].contains word then some (false, rest) else none
  | _ => none

/-- What follows texts in a row. -/
def afterTexts : Tokens → Tokens
  | (.text, _) :: rest => afterTexts rest
  | ts => ts

/-- Stuck at the head. -/
def stop {α : Type} (ts : Tokens) : Except Halt α :=
  .error (.stuck ts)

/-- A mistake, unless reading cannot go beyond the head: then that is the fault. -/
def mistake {α : Type} (reason : String) (ts : Tokens) : Except Halt α :=
  if atFlaw ts then stop ts else .error (.mistake reason ts)

/-! ## Expressions -/

mutual

/-- A word, number or text, or what stands in brackets.  Fuel is the number of
tokens. -/
def atom : Nat → Tokens → Except Halt (Kind × Tokens)
  | 0, ts => stop ts
  | fuel + 1, ts =>
    match ts with
    | (.word word, _) :: rest =>
      if constants.contains word then .ok (.constant word, rest)
      else if keywords.contains word then stop ts
      else .ok (.name word, rest)
    | (.number, _) :: rest => .ok (.literal, rest)
    | (.text, _) :: rest => .ok (.literal, afterTexts rest)
    | (.sign "...", _) :: rest => .ok (.ellipsis, rest)
    | (.sign "(", _) :: rest => group fuel rest
    | (.sign "\x7b", _) :: rest => braces fuel rest
    | _ => stop ts

/-- An atom with the parts that are taken of it and the calls that are made. -/
def primary : Nat → Tokens → Except Halt (Kind × Tokens)
  | 0, ts => stop ts
  | fuel + 1, ts => do
    let (kind, rest) ← atom fuel ts
    trailers fuel kind rest

/-- The parts that are taken and the calls that are made of something. -/
def trailers : Nat → Kind → Tokens → Except Halt (Kind × Tokens)
  | 0, _, ts => stop ts
  | fuel + 1, kind, ts =>
    match ts with
    | (.sign ".", _) :: rest =>
      match rest with
      | (.word word, _) :: more =>
        if keywords.contains word || constants.contains word then stop rest
        else trailers fuel .attribute more
      | _ => stop rest
    | (.sign "(", _) :: rest => do
      let (_, rest) ← arguments fuel none rest
      trailers fuel .call rest
    | _ => .ok (kind, ts)

/-- Expressions joined by operators. -/
def operation : Nat → Tokens → Except Halt (Kind × Tokens)
  | 0, ts => stop ts
  | fuel + 1, ts =>
    match ts with
    | (.sign s, _) :: rest =>
      if ["+", "-", "~"].contains s then do
        let (kind, rest) ← operation fuel rest
        return (if kind = .condition then kind else .operation, rest)
      else chain fuel ts
    | (.word "not", _) :: rest => do
      let (_, rest) ← operation fuel rest
      return (.condition, rest)
    | _ => chain fuel ts

/-- An expression without an operator before it, and what is joined to it. -/
def chain : Nat → Tokens → Except Halt (Kind × Tokens)
  | 0, ts => stop ts
  | fuel + 1, ts => do
    let (kind, rest) ← primary fuel ts
    match operator? rest with
    | none => return (kind, rest)
    | some (numeric, more) =>
      let (other, rest) ← operation fuel more
      return (if numeric && other ≠ .condition then .operation else .condition, rest)

/-- An expression with the choice that may stand in it.  Where one that could
stand alone follows inside brackets, a comma is missing. -/
def expression : Nat → Nat → Tokens → Except Halt (Kind × Tokens)
  | 0, _, ts => stop ts
  | fuel + 1, depth, ts => do
    let (kind, rest) ← operation fuel ts
    match rest with
    | (.word "if", _) :: more =>
      let (_, more) ← operation fuel more
      match more with
      | (.word "else", _) :: more =>
        let (_, more) ← expression fuel depth more
        return (.condition, more)
      | (.sign ":", _) :: _ => stop more
      | _ => mistake "expected 'else' after 'if' expression" more
    | _ =>
      if startsExpression (ahead rest) then
        match kind, ahead rest with
        | .name word, next =>
          if bareCalls.contains word then
            let (_, after) ← plain fuel rest
            mistake
              s!"Missing parentheses in call to '{word}'. Did you mean {word}(...)?" after
          else if depth = 0 || softKeywords.contains word || next = .text then
            return (kind, rest)
          else missingComma fuel kind rest
        | _, _ => if depth = 0 then return (kind, rest) else missingComma fuel kind rest
      else return (kind, rest)

/-- An expression without a look at what follows. -/
def plain : Nat → Tokens → Except Halt (Kind × Tokens)
  | 0, ts => stop ts
  | fuel + 1, ts => do
    let (kind, rest) ← operation fuel ts
    match rest with
    | (.word "if", _) :: more =>
      match operation fuel more with
      | .ok (_, (.word "else", _) :: more) =>
        let (_, more) ← plain fuel more
        return (.condition, more)
      | .ok (_, more) => if atFlaw more then stop more else return (kind, rest)
      | .error halt => .error halt
    | _ => return (kind, rest)

/-- A comma is missing before an expression, if it is one. -/
def missingComma : Nat → Kind → Tokens → Except Halt (Kind × Tokens)
  | 0, _, ts => stop ts
  | fuel + 1, kind, ts =>
    match plain fuel ts with
    | .ok (_, after) => mistake "invalid syntax. Perhaps you forgot a comma?" after
    | .error (.stuck after) => if atFlaw after then stop after else .ok (kind, ts)
    | .error halt => .error halt

/-- An expression inside brackets, to which a name may be given. -/
def namedExpression : Nat → Nat → Tokens → Except Halt (Kind × Tokens)
  | 0, _, ts => stop ts
  | fuel + 1, depth, ts =>
    match ts with
    | (.word word, level) :: (.sign ":=", _) :: more =>
      if keywords.contains word || constants.contains word then
        expression fuel depth ((.word word, level) :: (.sign ":=", level) :: more)
      else expression fuel depth more
    | _ => do
      let (kind, rest) ← expression fuel depth ts
      match rest with
      | (.sign "=", _) :: more =>
        match operation fuel more with
        | .ok (other, after) =>
          let again := ahead after = .sign "=" ∨ ahead after = .sign ":="
          if atFlaw after then stop after
          else if again ∨ other = .condition then return (kind, rest)
          else
            match ahead ts, kind with
            | .word _, .name _ =>
              mistake "invalid syntax. Maybe you meant '==' or ':=' instead of '='?" after
            | _, kind =>
              match kind.assigned? with
              | some called =>
                mistake s!"cannot assign to {called} here. Maybe you meant '==' instead of '='?"
                  after
              | none => return (kind, rest)
        | .error (.stuck after) => if atFlaw after then stop after else return (kind, rest)
        | .error halt => .error halt
      | _ => return (kind, rest)

/-- An expression, or one that is spread out; which of both it is. -/
def element : Nat → Nat → Tokens → Except Halt ((Bool × Kind) × Tokens)
  | 0, _, ts => stop ts
  | fuel + 1, depth, ts =>
    match ts with
    | (.sign "*", _) :: rest => do
      let (kind, rest) ← operation fuel rest
      return ((true, kind), rest)
    | _ => do
      let (kind, rest) ← namedExpression fuel depth ts
      return ((false, kind), rest)

/-- What stands in round brackets, after the opening one. -/
def group : Nat → Tokens → Except Halt (Kind × Tokens)
  | 0, ts => stop ts
  | fuel + 1, ts =>
    match ts with
    | (.sign ")", _) :: rest => .ok (.tuple, rest)
    | (.sign "**", _) :: rest =>
      match operation fuel rest with
      | .ok (_, (.sign ")", _) :: after) =>
        mistake "cannot use double starred expression here" after
      | _ => stop ts
    | _ => do
      let ((spread, kind), rest) ← element fuel 1 ts
      match rest with
      | (.sign ")", _) :: after =>
        if spread then mistake "cannot use starred expression here" after
        else return (kind, after)
      | (.sign ",", _) :: rest => elements fuel ")" .tuple rest
      | _ => stop rest

/-- Expressions with commas between them up to a closing sign. -/
def elements : Nat → String → Kind → Tokens → Except Halt (Kind × Tokens)
  | 0, _, _, ts => stop ts
  | fuel + 1, close, kind, ts =>
    if ahead ts = .sign close then .ok (kind, ts.drop 1)
    else do
      let (_, rest) ← element fuel 1 ts
      match rest with
      | (.sign ",", _) :: rest => elements fuel close kind rest
      | _ => if ahead rest = .sign close then return (kind, rest.drop 1) else stop rest

/-- What stands in curly brackets, after the opening one. -/
def braces : Nat → Tokens → Except Halt (Kind × Tokens)
  | 0, ts => stop ts
  | fuel + 1, ts =>
    match ts with
    | (.sign "\x7d", _) :: rest => .ok (.table, rest)
    | (.sign "**", _) :: rest => do
      let (_, rest) ← operation fuel rest
      entries fuel rest
    | _ => do
      let ((spread, _), rest) ← element fuel 1 ts
      match rest with
      | (.sign ":", _) :: more => if spread then stop rest else entryValue fuel more
      | (.sign ",", _) :: more => elements fuel "\x7d" .set more
      | (.sign "\x7d", _) :: more => return (.set, more)
      | _ => stop rest

/-- The value of an entry of a table, and the entries after it. -/
def entryValue : Nat → Tokens → Except Halt (Kind × Tokens)
  | 0, ts => stop ts
  | fuel + 1, ts =>
    match ts with
    | (.sign "\x7d", _) :: _ =>
      mistake "expression expected after dictionary key and ':'" ts
    | (.sign ",", _) :: _ => mistake "expression expected after dictionary key and ':'" ts
    | (.sign "*", _) :: rest =>
      match operation fuel rest with
      | .ok (_, after) =>
        mistake "cannot use a starred expression in a dictionary value" after
      | .error _ => stop ts
    | _ => do
      let (_, rest) ← expression fuel 1 ts
      entries fuel rest

/-- The entries of a table after one of them. -/
def entries : Nat → Tokens → Except Halt (Kind × Tokens)
  | 0, ts => stop ts
  | fuel + 1, ts =>
    match ts with
    | (.sign "\x7d", _) :: rest => .ok (.table, rest)
    | (.sign ",", _) :: rest =>
      match rest with
      | (.sign "\x7d", _) :: rest => .ok (.table, rest)
      | (.sign "**", _) :: rest => do
        let (_, rest) ← operation fuel rest
        entries fuel rest
      | _ => do
        let (_, rest) ← expression fuel 1 rest
        match rest with
        | (.sign ":", _) :: rest => entryValue fuel rest
        | _ => mistake "':' expected after dictionary key" rest
    | _ => stop ts

/-- The arguments of a call after the opening bracket.  Given is what kind of
argument was there that others may not follow: one with a name, or a table that
is spread out. -/
def arguments : Nat → Option Bool → Tokens → Except Halt (Kind × Tokens)
  | 0, _, ts => stop ts
  | fuel + 1, before, ts =>
    let next (before : Option Bool) (rest : Tokens) : Except Halt (Kind × Tokens) :=
      match rest with
      | (.sign ",", _) :: rest => arguments fuel before rest
      | (.sign ")", _) :: rest => .ok (.call, rest)
      | _ => stop rest
    match ts with
    | (.sign ")", _) :: rest => .ok (.call, rest)
    | (.sign "**", _) :: rest => do
      let (_, rest) ← expression fuel 1 rest
      next (some true) rest
    | (.sign "*", _) :: rest =>
      if before = some true then
        mistake "iterable argument unpacking follows keyword argument unpacking" rest
      else do
        let (_, rest) ← expression fuel 1 rest
        next before rest
    | (.word word, _) :: (.sign "=", _) :: rest =>
      if constants.contains word then mistake s!"cannot assign to {word}" rest
      else if keywords.contains word then stop ts
      else do
        let (_, rest) ← expression fuel 1 rest
        next (some (before.getD false)) rest
    | _ => do
      let (_, rest) ← argument fuel ts
      match before with
      | none => next none rest
      | some spread =>
        mistake (if spread then "positional argument follows keyword argument unpacking"
          else "positional argument follows keyword argument") rest

/-- An argument without a name. -/
def argument : Nat → Tokens → Except Halt (Kind × Tokens)
  | 0, ts => stop ts
  | fuel + 1, ts => do
    let start := match ts with
      | (.word word, _) :: (.sign ":=", _) :: more =>
        if keywords.contains word || constants.contains word then ts else more
      | _ => ts
    let (kind, rest) ← expression fuel 1 start
    match rest with
    | (.sign "=", _) :: _ =>
      mistake "expression cannot contain assignment, perhaps you meant \"==\"?" rest
    | _ => return (kind, rest)

end

end FormAutomation.Terminal.Handler
