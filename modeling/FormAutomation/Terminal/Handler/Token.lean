import FormAutomation.Text.Printable
import FormAutomation.Text.Quoted
import FormAutomation.Text.Word

/-!
# Tokens of parameters

The parameters of a handler are words, numbers, texts in quotes and signs.  Every
token knows how many brackets are open after it.  Where the characters are no
token there is a *flaw*, and nothing is read beyond it; the last token is such a
flaw or the end.
-/

namespace FormAutomation.Terminal.Handler

open Text

/-- A part of parameters. -/
inductive Token where
  /-- a word -/
  | word (name : String)
  /-- a number -/
  | number
  /-- a text in quotes -/
  | text
  /-- a sign of one or more characters -/
  | sign (characters : String)
  /-- the end of a line that is not inside brackets -/
  | lineEnd
  /-- the end -/
  | ending
  /-- the end inside brackets, the last of which is this one -/
  | unclosed (bracket : Char)
  /-- characters that are no token, and why -/
  | flaw (reason : String)
  deriving DecidableEq

/-! ## Numbers -/

/-- Whether a word can hold the character. -/
def isWordPart (c : Char) : Bool :=
  c.isAlphanum || c == '_' || 128 ≤ c.toNat

/-- The words that may follow a number without a blank. -/
def afterNumber : List String :=
  ["and", "else", "for", "if", "in", "is", "or"]

/-- What follows a number of some kind, which must be no part of a word. -/
def endNumber (kind : String) (cs : List Char) : Except String (List Char) :=
  match cs with
  | [] => .ok []
  | c :: _ =>
    if isWordPart c && !afterNumber.any (fun word => word.toList.isPrefixOf cs) then
      .error s!"invalid {kind} literal"
    else .ok cs

/-- What follows digits, between two of which a low line may stand. -/
def digits (isDigit : Char → Bool) : List Char → Except Unit (List Char)
  | [] => .ok []
  | '_' :: c :: cs => if isDigit c then digits isDigit cs else .error ()
  | ['_'] => .error ()
  | c :: cs => if isDigit c then digits isDigit cs else .ok (c :: cs)

/-- What follows digits of base ten. -/
def decimals (cs : List Char) : Except String (List Char) :=
  (digits Char.isDigit cs).mapError fun _ => "invalid decimal literal"

/-- What follows digits of another base, at least one. -/
def based (kind : String) (isDigit : Char → Bool) (cs : List Char) : Except String (List Char) :=
  let wrong (cs : List Char) : String :=
    match cs.find? (· ≠ '_') with
    | some c =>
      if c.isDigit && kind != "hexadecimal" then s!"invalid digit '{c}' in {kind} literal"
      else s!"invalid {kind} literal"
    | none => s!"invalid {kind} literal"
  let start := if cs.head? = some '_' then cs.drop 1 else cs
  if !start.head?.any isDigit then .error (wrong start)
  else
    match digits isDigit start with
    | .error () => .error s!"invalid {kind} literal"
    | .ok rest => if rest.head?.any Char.isDigit then .error (wrong rest) else endNumber kind rest

/-- What follows the fraction and exponent of a number and the sign of an
imaginary one; given is whether the number needs one of them. -/
def endDecimal (leadingZero : Bool) (cs : List Char) : Except String (List Char) := do
  let (fraction, cs) ←
    match cs with
    | '.' :: cs => pure (true, ← if cs.head?.any Char.isDigit then decimals cs else .ok cs)
    | cs => pure (false, cs)
  let isExponent (c : Char) : Bool := c == 'e' || c == 'E'
  let isImaginary (c : Char) : Bool := c == 'j' || c == 'J'
  let (exponent, cs) ←
    match cs with
    | e :: s :: cs =>
      if !isExponent e then pure (false, e :: s :: cs)
      else if s.isDigit then pure (true, ← decimals (s :: cs))
      else if s = '+' ∨ s = '-' then
        if cs.head?.any Char.isDigit then pure (true, ← decimals cs)
        else .error "invalid decimal literal"
      else pure (false, e :: s :: cs)
    | cs => pure (false, cs)
  match cs with
  | c :: rest =>
    if isImaginary c then endNumber "imaginary" rest
    else if leadingZero && !fraction && !exponent then
      .error ("leading zeros in decimal integer literals are not permitted; " ++
        "use an 0o prefix for octal integers")
    else endNumber "decimal" cs
  | [] =>
    if leadingZero && !fraction && !exponent then
      .error ("leading zeros in decimal integer literals are not permitted; " ++
        "use an 0o prefix for octal integers")
    else .ok []

/-- What follows the number at the head. -/
def number (cs : List Char) : Except String (List Char) := do
  match cs with
  | '0' :: c :: rest =>
    if c = 'x' ∨ c = 'X' then
      based "hexadecimal" (fun c => c.isDigit || ('a' ≤ c && c ≤ 'f') || ('A' ≤ c && c ≤ 'F')) rest
    else if c = 'o' ∨ c = 'O' then based "octal" (fun c => '0' ≤ c && c ≤ '7') rest
    else if c = 'b' ∨ c = 'B' then based "binary" (fun c => c == '0' || c == '1') rest
    else
      let rest ← decimals (c :: rest)
      let given := cs.take (cs.length - rest.length)
      endDecimal (given.any fun c => c ≠ '0' && c ≠ '_') rest
  | '.' :: _ => endDecimal false cs
  | cs => endDecimal false (← decimals cs)

/-! ## Texts -/

/-- What follows the closing quotes of a text; nothing where it is not closed.
One in three quotes may go over several lines. -/
def closeText (quote : Char) (long : Bool) : List Char → Option (List Char)
  | [] => none
  | '\\' :: _ :: cs => closeText quote long cs
  | c :: cs =>
    if c = quote then
      if !long then some cs
      else if [quote, quote].isPrefixOf cs then some (cs.drop 2)
      else closeText quote long cs
    else if c = '\n' ∧ !long then none
    else closeText quote long cs

/-- What follows the text at the head, the opening quote of which was read. -/
def text (quote : Char) (line : Nat) (cs : List Char) : Except String (List Char) :=
  let lines (cs : List Char) : Nat := line + (cs.filter (· = '\n')).length
  if [quote, quote].isPrefixOf cs then
    match closeText quote true (cs.drop 2) with
    | some rest => .ok rest
    | none =>
      let last := lines cs
      .error s!"unterminated triple-quoted string literal (detected at line {last})"
  else
    match closeText quote false cs with
    | some rest => .ok rest
    | none => .error s!"unterminated string literal (detected at line {line})"

/-- What may stand before a quote to tell the kind of text. -/
def textMarks : List String :=
  ["b", "br", "f", "fr", "r", "rb", "rf", "u"]

/-! ## Words and signs -/

/-- A code point in messages. -/
def pointText (c : Char) : String :=
  let digits := (Nat.toDigits 16 c.toNat).map Char.toUpper
  String.ofList ('U' :: '+' :: List.replicate (4 - digits.length) '0' ++ digits)

/-- Why a character is no token. -/
def strayReason (c : Char) : String :=
  if isPrintable c then s!"invalid character '{c}' ({pointText c})"
  else s!"invalid non-printable character {pointText c}"

/-- The signs of more than one character, the longest first. -/
def longSigns : List String :=
  ["**=", "//=", "<<=", ">>=", "...", "!=", "%=", "&=", "**", "*=", "+=", "-=", "->", "//", "/=",
   ":=", "<<", "<=", "<>", "==", ">=", ">>", "@=", "^=", "|="]

/-- The sign at the head. -/
def signAt (cs : List Char) : List Char :=
  match longSigns.find? fun sign => sign.toList.isPrefixOf cs with
  | some sign => sign.toList
  | none => cs.take 1

/-- The brackets that open, each with the one that closes it. -/
def brackets : List (Char × Char) :=
  [('(', ')'), ('[', ']'), ('\x7b', '\x7d')]

/-- How many brackets may be open. -/
def deepest : Nat := 200

/-! ## Telling tokens apart -/

/-- The brackets that are open after a bracket, the latest first, each with its
line; or what is wrong with it. -/
def afterBracket (opened : List (Char × Nat)) (line : Nat) (c : Char) :
    Except String (List (Char × Nat)) :=
  if (brackets.lookup c).isSome then
    if deepest ≤ opened.length then .error "too many nested parentheses"
    else .ok ((c, line) :: opened)
  else if brackets.any fun pair => pair.2 == c then
    match opened with
    | [] => .error s!"unmatched '{c}'"
    | (bracket, place) :: rest =>
      if brackets.lookup bracket = some c then .ok rest
      else
        let elsewhere := if place = line then "" else s!" on line {place}"
        .error
          s!"closing parenthesis '{c}' does not match opening parenthesis '{bracket}'{elsewhere}"
  else .ok opened

/-- The tokens of characters, each with the number of brackets open after it.
Given are the brackets that are open and the line; fuel is the number of
characters. -/
def tokens : Nat → List (Char × Nat) → Nat → List Char → List (Token × Nat)
  | 0, opened, _, _ => [(.ending, opened.length)]
  | _ + 1, [], _, [] => [(.ending, 0)]
  | _ + 1, (bracket, _) :: rest, _, [] => [(.unclosed bracket, rest.length + 1)]
  | fuel + 1, opened, line, c :: cs =>
    let depth := opened.length
    let go (token : Token) (read : Except String (List Char)) : List (Token × Nat) :=
      match read with
      | .ok rest => (token, depth) :: tokens fuel opened line rest
      | .error reason => [(.flaw reason, depth)]
    if c = ' ' ∨ c = '\t' ∨ c = '\x0c' then tokens fuel opened line cs
    else if c = '\n' then
      if opened.isEmpty then (.lineEnd, depth) :: tokens fuel opened (line + 1) cs
      else tokens fuel opened (line + 1) cs
    else if c = '#' then tokens fuel opened line (cs.dropWhile (· ≠ '\n'))
    else if c = '\\' then
      match cs with
      | '\n' :: cs => tokens fuel opened (line + 1) cs
      | [] => [(.flaw "unexpected EOF while parsing", depth)]
      | _ => [(.flaw "unexpected character after line continuation character", depth)]
    else if c = '"' ∨ c = '\'' then go .text (text c line cs)
    else if c.isDigit || (c = '.' && cs.head?.any Char.isDigit) then go .number (number (c :: cs))
    else if isWordPart c then
      let (word, rest) := (c :: cs).span isWordPart
      match rest with
      | quote :: more =>
        if (quote = '"' || quote = '\'')
            && textMarks.contains (String.ofList (word.map Char.toLower)) then
          go .text (text quote line more)
        else
          match word.find? fun c => !isWordChar c with
          | some stray => [(.flaw (strayReason stray), depth)]
          | none => go (.word (String.ofList word)) (.ok rest)
      | [] =>
        match word.find? fun c => !isWordChar c with
        | some stray => [(.flaw (strayReason stray), depth)]
        | none => go (.word (String.ofList word)) (.ok rest)
    else if !isPrintable c then [(.flaw (strayReason c), depth)]
    else
      let sign := signAt (c :: cs)
      match afterBracket opened line c with
      | .error reason => [(.flaw reason, depth)]
      | .ok opened =>
        (.sign (String.ofList sign), opened.length)
          :: tokens fuel opened line ((c :: cs).drop sign.length)

/-- The tokens of a text. -/
def tokensOf (text : String) : List (Token × Nat) :=
  tokens (text.length + 1) [] 1 text.toList

end FormAutomation.Terminal.Handler
