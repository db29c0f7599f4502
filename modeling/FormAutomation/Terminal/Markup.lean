import FormAutomation.Terminal.Handler
import FormAutomation.Terminal.Style
import FormAutomation.Text.Quoted

/-!
# Markup

Text for a terminal may carry tags in brackets that say how it is to look:
`[bold]`, closed by `[/bold]` or by `[/]`, which closes the latest.  A tag with an
at sign names a handler, the parameters of which are read when it is closed.  On
a plain terminal all that is left of tags is that they do not show, and that a
closing tag without an opening one is a fault.  A backslash before a tag takes
its meaning away.
-/

namespace FormAutomation.Terminal.Markup

open Text

/-! ## Tags -/

/-- A part of a text with markup. -/
inductive Piece where
  /-- text that shows -/
  | plain (text : List Char)
  /-- what stands between the brackets of a tag, and its position -/
  | tag (content : List Char) (position : Nat)

/-- Whether a tag can start with the character. -/
def startsTag (c : Char) : Bool :=
  ('a' ≤ c && c ≤ 'z') || c == '#' || c == '/' || c == '@'

/-- What stands between the brackets of a tag at the head, and what follows. -/
def readTag : List Char → Option (List Char × List Char)
  | '[' :: c :: cs =>
    if startsTag c then
      match cs.span fun d => d != '[' && d != ']' with
      | (content, ']' :: rest) => some (c :: content, rest)
      | _ => none
    else none
  | _ => none

/-- What a tag with backslashes before it stands for: two of them are one that
shows, and one that is left over makes the tag show. -/
def escaped (backslashes position : Nat) (content : List Char) : List Piece :=
  (if backslashes < 2 then [] else [.plain (List.replicate (backslashes / 2) '\\')])
    ++ (if backslashes % 2 = 1 then [.plain ('[' :: content ++ [']'])]
      else [.tag content (position + backslashes)])

/-- The pieces of a text from a position on.  Given is the plain text so far, in
reverse; fuel is the number of characters. -/
def piecesFrom : Nat → Nat → List Char → List Char → List Piece
  | 0, _, before, _ => [.plain before.reverse]
  | _ + 1, _, before, [] => [.plain before.reverse]
  | fuel + 1, position, before, c :: cs =>
    let (slashes, rest) := (c :: cs).span (· == '\\')
    match readTag rest with
    | some (content, after) =>
      let stop := position + slashes.length + content.length + 2
      .plain before.reverse :: escaped slashes.length position content
        ++ piecesFrom fuel stop [] after
    | none =>
      match slashes with
      | [] => piecesFrom fuel (position + 1) (c :: before) cs
      | _ => piecesFrom fuel (position + slashes.length) (slashes.reverse ++ before) rest

/-- The pieces of a text. -/
def pieces (cs : List Char) : List Piece :=
  piecesFrom (cs.length + 1) 0 [] cs

/-! ## Reading -/

/-- Why a text with markup cannot be shown. -/
inductive Fault where
  /-- a closing tag names a style that is not open -/
  | unopened (content : List Char) (position : Nat)
  /-- a closing tag stands where nothing is open -/
  | nothingOpen (position : Nat)
  /-- a share of a colour is missing -/
  | missingShare
  /-- the parameters of a handler cannot be read -/
  | handler (parameters : String) (why : Handler.Fault)
  deriving DecidableEq

/-- What is said of a fault. -/
def Fault.message : Fault → String
  | .unopened content position =>
    let shown := String.ofList content
    s!"closing tag '[{shown}]' at position {position} doesn't match any open tag"
  | .nothingOpen position =>
    s!"closing tag '[/]' at position {position} has nothing to close"
  | .missingShare => "invalid literal for int() with base 10: ''"
  | .handler parameters why =>
    let given := quoted parameters
    match why with
    | .ill read reason =>
      let read := quoted read
      s!"error parsing {read} in {given}; {reason}"
    | .other reason => s!"error parsing {given}; {reason}"

/-- A tag that is open. -/
structure Opened where
  /-- its style, in the form by which styles are compared -/
  style : String
  /-- what follows its equals sign -/
  parameters : Option String
  deriving DecidableEq

/-- The form of a style. -/
def form (style : String) : Except Fault String :=
  match Style.form style with
  | some form => .ok form
  | none => .error .missingShare

/-- Reads the parameters of a tag that is closed, if it names a handler. -/
def close (tag : Opened) : Except Fault Unit :=
  match tag.parameters with
  | some parameters =>
    if tag.style.startsWith "@" ∧ parameters ≠ "" then
      (Handler.check parameters).mapError (.handler parameters)
    else .ok ()
  | none => .ok ()

/-- The tags that are open without the latest of a style, and that one. -/
def takeOut (style : String) : List Opened → Option (Opened × List Opened)
  | [] => none
  | tag :: rest =>
    if tag.style = style then some (tag, rest)
    else (takeOut style rest).map fun (found, rest) => (found, tag :: rest)

/-- The tags that are open after a tag, the latest first. -/
def afterTag (opened : List Opened) (content : List Char) (position : Nat) :
    Except Fault (List Opened) := do
  let (name, rest) := content.span (· != '=')
  match name with
  | '/' :: closing =>
    let closing := trim (String.ofList closing)
    let latest ←
      if closing = "" then
        match opened with
        | [] => .error (.nothingOpen position)
        | tag :: rest => .ok (tag, rest)
      else
        match takeOut (← form closing) opened with
        | none => .error (.unopened content position)
        | some found => .ok found
    close latest.1
    return latest.2
  | _ =>
    let style ← form (String.ofList name)
    let parameters := match rest with
      | [] => none
      | _ :: parameters => some (String.ofList parameters)
    return ⟨style, parameters⟩ :: opened

/-- A text without the backslashes that stand before brackets. -/
def unescaped : List Char → List Char
  | '\\' :: '[' :: cs => '[' :: unescaped cs
  | c :: cs => c :: unescaped cs
  | [] => []

/-- What is seen of plain text. -/
def visiblePlain (text : List Char) : List Char :=
  shown (Emoji.pictured (unescaped text))

/-- What is seen of pieces while some tags are open. -/
def visibleFrom (opened : List Opened) : List Piece → Except Fault (List Char)
  | [] => .ok []
  | .plain text :: rest => (visibleFrom opened rest).map (visiblePlain text ++ ·)
  | .tag content position :: rest => do
    visibleFrom (← afterTag opened content position) rest

/-- What is seen of a text with markup. -/
def visible (text : String) : Except Fault (List Char) :=
  visibleFrom [] (pieces text.toList)

end FormAutomation.Terminal.Markup
