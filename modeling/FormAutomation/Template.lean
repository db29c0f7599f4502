import FormAutomation.Context
import FormAutomation.Text.Blank
import FormAutomation.Text.Word
import FormAutomation.Value.Writer

/-!
# Templates

A template is a text with tokens in it.  A token is a reference in double
braces, with white space allowed around it; a reference is made of word
characters, points, hyphens and square brackets.  Filling a template puts the
text of each reference's value in the place of its token and leaves every other
character as it is; what was put in is not looked at again.

The scan runs from left to right.  Where no token starts, one character is
passed, so a brace too many before a token does not hide it.
-/

namespace FormAutomation.Template

/-- What a reference is made of. -/
def isReferenceChar (c : Char) : Bool :=
  Text.isWordChar c || c == '.' || c == '-' || c == '[' || c == ']'

/-- A token: its reference, and how many characters it takes. -/
structure Token where
  /-- what the braces hold -/
  reference : List Char
  /-- the length of the token -/
  width : Nat
  deriving DecidableEq

/-- The token at the head. -/
def tokenAt? (cs : List Char) : Option Token :=
  match cs with
  | '{' :: '{' :: inside =>
    let reference := (inside.dropWhile Text.isBlank).takeWhile isReferenceChar
    let after := ((inside.dropWhile Text.isBlank).dropWhile isReferenceChar).dropWhile Text.isBlank
    match after with
    | '}' :: '}' :: rest =>
      if reference.isEmpty then none else some ⟨reference, cs.length - rest.length⟩
    | _ => none
  | _ => none

/-- A part of a template. -/
inductive Piece where
  /-- a character that stays -/
  | literal (c : Char)
  /-- a token, by its reference -/
  | token (reference : String)
  deriving DecidableEq

/-- The pieces of a template, after a number of characters that belong to a
token already found. -/
def scan : Nat → List Char → List Piece
  | _, [] => []
  | skip + 1, _ :: cs => scan skip cs
  | 0, c :: cs =>
    match tokenAt? (c :: cs) with
    | some token => .token (String.ofList token.reference) :: scan (token.width - 1) cs
    | none => .literal c :: scan 0 cs

/-- The pieces of a template. -/
def pieces (template : String) : List Piece :=
  scan 0 template.toList

/-- What a piece becomes. -/
def Piece.fill (context : Context) : Piece → List Char
  | .literal c => [c]
  | .token reference => (context.resolve reference).toText.toList

/-- The template with its tokens replaced. -/
def fill (template : String) (context : Context) : String :=
  String.ofList ((pieces template).flatMap (Piece.fill context))

/-- The reference of a piece. -/
def Piece.reference? : Piece → Option String
  | .literal _ => none
  | .token reference => some reference

/-- The references of a template, each once, in the order of their first
tokens. -/
def references (template : String) : List String :=
  ((pieces template).filterMap Piece.reference?).eraseDups

/-! ## Laws -/

/-- A template is filled alike in two contexts that give its references the
same text. -/
theorem fill_congr {template : String} {context other : Context}
    (h : ∀ reference, Piece.token reference ∈ pieces template →
      (context.resolve reference).toText = (other.resolve reference).toText) :
    fill template context = fill template other := by
  unfold fill
  congr 1
  have same : ∀ piece ∈ pieces template, piece.fill context = piece.fill other := by
    intro piece hp
    cases piece with
    | literal c => rfl
    | token reference => simp [Piece.fill, h reference hp]
  generalize pieces template = ps at same
  induction ps with
  | nil => rfl
  | cons piece rest ih =>
    simp only [List.flatMap_cons]
    rw [same piece (List.mem_cons_self ..),
      ih fun q hq => same q (List.mem_cons_of_mem _ hq)]

end FormAutomation.Template
