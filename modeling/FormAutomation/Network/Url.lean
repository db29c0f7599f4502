import FormAutomation.Network.Address
import FormAutomation.Network.DomainName
import FormAutomation.Number.Notation
import FormAutomation.Number.Numeral
import FormAutomation.Text.Utf8

/-!
# Addresses of resources

An address is taken apart into its scheme, the authority that answers for it, a
path, a query and a fragment.  Each part is brought into one form: letters of
the scheme and the host small, the default port left out, steps to the same and
to the parent directory taken, and every character that may not stand in a part
written as its bytes in percent.
-/

namespace FormAutomation.Network

/-- The address of a resource, in its one form. -/
structure Url where
  /-- the scheme; empty for none -/
  scheme : String
  /-- the user and password -/
  userinfo : String
  /-- the host as it travels -/
  host : String
  /-- the port, if it is not the default one -/
  port : Option Int
  /-- the path -/
  path : String
  /-- the query, if there is one -/
  query : Option String
  /-- the fragment, if there is one -/
  fragment : Option String
  deriving DecidableEq

namespace Url

/-- Why a text is no address. -/
inductive Fault where
  /-- it is too long -/
  | tooLong
  /-- it holds a control character -/
  | control (c : Char) (position : Nat)
  /-- its port is no number -/
  | port (text : List Char)
  /-- its host is a dotted quad out of range -/
  | quad (host : List Char)
  /-- its host is in brackets, but no address -/
  | bracketed (host : List Char)
  /-- its host is no domain name -/
  | domain (host : List Char)
  /-- its path follows a host without a slash -/
  | pathAfterHost
  /-- its path starts with two slashes, but there is no host -/
  | pathLikeHost
  /-- its path starts with a colon, but there is no scheme -/
  | pathLikeScheme
  deriving DecidableEq

/-- What is said of a fault. -/
def Fault.message : Fault → String
  | .tooLong => "URL too long"
  | .control c position =>
    let shown := Text.quoted c.toString
    s!"Invalid non-printable ASCII character in URL, {shown} at position {position}."
  | .port text =>
    let shown := Text.quoted (String.ofList text)
    s!"Invalid port: {shown}"
  | .quad host =>
    let shown := Text.quoted (String.ofList host)
    s!"Invalid IPv4 address: {shown}"
  | .bracketed host =>
    let shown := Text.quoted (String.ofList host)
    s!"Invalid IPv6 address: {shown}"
  | .domain host =>
    let shown := Text.quoted (String.ofList host)
    s!"Invalid IDNA hostname: {shown}"
  | .pathAfterHost => "For absolute URLs, path must be empty or begin with '/'"
  | .pathLikeHost => "Relative URLs cannot have a path starting with '//'"
  | .pathLikeScheme => "Relative URLs cannot have a path starting with ':'"

/-! ## Percent signs -/

/-- A byte in percent. -/
def percentByte (b : UInt8) : List Char :=
  '%' :: (Text.hexDigits 2 b.toNat).map Char.toUpper

/-- The text with all but some characters written in percent. -/
def percent (isSafe : Char → Bool) (cs : List Char) : List Char :=
  cs.flatMap fun c => if isSafe c then [c] else (String.utf8EncodeChar c).flatMap percentByte

/-- Whether a character can be printed and is none of some others. -/
def isVisibleBut (others : List Char) (c : Char) : Bool :=
  0x20 < c.toNat && c.toNat < 0x7F && !others.contains c

/-- What may stand in a fragment. -/
def inFragment : Char → Bool :=
  isVisibleBut ['"', '<', '>', '\x60']

/-- What may stand in a query. -/
def inQuery : Char → Bool :=
  isVisibleBut ['"', '#', '<', '>']

/-- What may stand in a path. -/
def inPath : Char → Bool :=
  isVisibleBut ['"', '#', '<', '>', '?', '\x60', '{', '}']

/-- What may stand in a user and password. -/
def inUserinfo : Char → Bool :=
  isVisibleBut ['"', '#', '<', '>', '?', '\x60', '{', '}', '/', ';', '=', '@', '[', '\\', ']',
    '^', '|']

/-- What may stand in a host. -/
def inHost (c : Char) : Bool :=
  c.toNat < 128 && (c.isAlphanum || "-._~!$&'()*+,;=\"\x60\x7b\x7d%|\\".toList.contains c)

/-- The bytes that a text in percent stands for. -/
def percentBytes : List Char → List UInt8
  | [] => []
  | [c] => String.utf8EncodeChar c
  | [c, d] => String.utf8EncodeChar c ++ String.utf8EncodeChar d
  | c :: d :: e :: rest =>
    match (if c = '%' then Address.hexValue? d else none), Address.hexValue? e with
    | some high, some low => UInt8.ofNat (16 * high + low) :: percentBytes rest
    | _, _ => String.utf8EncodeChar c ++ percentBytes (d :: e :: rest)

/-- The text that one in percent stands for. -/
def unpercent (s : String) : String :=
  String.ofList (Text.Utf8.decodeLossy (percentBytes s.toList))

/-! ## Parts -/

/-- A part up to the first of some characters, and what follows. -/
def upTo (ends : List Char) (cs : List Char) : List Char × List Char :=
  cs.span fun c => !ends.contains c

/-- Whether the character can stand in a scheme after its first letter. -/
def isSchemeChar (c : Char) : Bool :=
  c.isAlphanum || c == '+' || c == '.' || c == '-'

/-- The scheme at the head, and what follows its colon.  A colon at the very
start belongs to an empty one. -/
def splitScheme (cs : List Char) : List Char × List Char :=
  match cs.span isSchemeChar with
  | ([], ':' :: rest) => ([], rest)
  | (c :: more, ':' :: rest) => if c.isAlpha then (c :: more, rest) else ([], cs)
  | _ => ([], cs)

/-- The authority after two slashes, and what follows it. -/
def splitAuthority : List Char → List Char × List Char
  | '/' :: '/' :: rest => upTo ['/', '?', '#'] rest
  | cs => ([], cs)

/-- What follows a mark, if that stands at the head, up to some characters. -/
def splitAfter (mark : Char) (ends : List Char) : List Char → Option (List Char) × List Char
  | [] => (none, [])
  | c :: cs =>
    if c = mark then
      let (part, rest) := upTo ends cs
      (some part, rest)
    else (none, c :: cs)

/-- What stands before the last of a character, and what after it; without one
nothing stands before. -/
def splitAtLast (mark : Char) (cs : List Char) : List Char × List Char :=
  let after := (cs.reverse.takeWhile (· ≠ mark)).reverse
  ((cs.take (cs.length - after.length)).dropLast, after)

/-- The host and port of an authority without user and password.  A host in
brackets goes up to the last closing one. -/
def splitHost (cs : List Char) : List Char × List Char :=
  let (inside, after) := splitAtLast ']' cs
  let (host, rest) :=
    if cs.head? = some '[' ∧ cs.contains ']' then (inside ++ [']'], after)
    else cs.span (· ≠ ':')
  match rest with
  | ':' :: port => (host, port)
  | port => (host, port)

/-- The default ports of schemes. -/
def defaultPorts : List (String × Int) :=
  [("ftp", 21), ("http", 80), ("https", 443), ("ws", 80), ("wss", 443)]

/-- The port of a text, if there is one and it is not the default one. -/
def readPort (scheme port : List Char) : Except Fault (Option Int) :=
  if port.isEmpty then .ok none
  else
    match Numeral.readInt port with
    | none => .error (.port port)
    | some n =>
      .ok (if defaultPorts.lookup (String.ofList scheme) = some n then none else some n)

/-- Whether a host is four numbers with points between them. -/
def isQuad (host : List Char) : Bool :=
  let parts := Text.splitOn '.' host
  parts.length == 4 && parts.all fun part => !part.isEmpty && part.all Char.isDigit

/-- The host as it travels. -/
def readHost (host : List Char) : Except Fault (List Char) :=
  if host.isEmpty then .ok []
  else if isQuad host then
    match Address.quad? host with
    | some _ => .ok host
    | none => .error (.quad host)
  else if host.head? = some '[' ∧ host.getLast? = some ']' ∧ 1 < host.length then
    let inside := (host.drop 1).dropLast
    if inside.contains '/' then .error (.bracketed host)
    else
      match (Address.withoutScope? inside).bind Address.long? with
      | some _ => .ok inside
      | none => .error (.bracketed host)
  else if host.all DomainName.isBasic then .ok (percent inHost (host.map Char.toLower))
  else
    match DomainName.sent (Text.lower (String.ofList host)).toList with
    | .ok sent => .ok sent
    | .error _ => .error (.domain host)

/-- A step of a path taken: one to the same directory goes nowhere, one to the
parent undoes the last step but the first empty one. -/
def takeStep (steps : List (List Char)) (step : List Char) : List (List Char) :=
  if step = ['.'] then steps
  else if step = ['.', '.'] then
    if steps = [[]] then steps else steps.dropLast
  else steps ++ [step]

/-- A path with its steps taken. -/
def directPath (path : List Char) : List Char :=
  let steps := Text.splitOn '/' path
  if steps.contains ['.'] || steps.contains ['.', '.'] then
    ['/'].intercalate (steps.foldl takeStep [])
  else path

/-- The longest text that is taken for an address. -/
def maxLength : Nat := 65536

/-- Whether the character is a control character of ASCII. -/
def isControl (c : Char) : Bool :=
  c.toNat < 0x20 || c.toNat == 0x7F

/-- Checks that a path fits what stands before it. -/
def checkPath (path : List Char) (hasScheme hasAuthority : Bool) : Except Fault Unit :=
  if hasAuthority then
    if path.isEmpty || path.head? == some '/' then .ok () else .error .pathAfterHost
  else if hasScheme then .ok ()
  else if path.take 2 = ['/', '/'] then .error .pathLikeHost
  else if path.head? = some ':' then .error .pathLikeScheme
  else .ok ()

/-- The address that a text writes. -/
def parse (text : String) : Except Fault Url := do
  let cs := text.toList
  if maxLength < cs.length then throw .tooLong
  match cs.findIdx? isControl with
  | some i => throw (.control (cs[i]?.getD ' ') i)
  | none =>
    let (scheme, rest) := splitScheme cs
    let (authority, rest) := splitAuthority rest
    let (path, rest) := upTo ['?', '#'] rest
    let (query, rest) := splitAfter '?' ['#'] rest
    let (fragment, _) := splitAfter '#' [] rest
    let (userinfo, place) := splitAtLast '@' authority
    let (host, port) := splitHost place
    let userinfo := percent inUserinfo userinfo
    let host ← readHost host
    let port ← readPort scheme port
    let hasScheme := !scheme.isEmpty
    let hasAuthority := !userinfo.isEmpty || !host.isEmpty || port.isSome
    checkPath path hasScheme hasAuthority
    let path := if hasScheme || hasAuthority then directPath path else path
    .ok
      { scheme := String.ofList (scheme.map Char.toLower)
        userinfo := String.ofList userinfo
        host := String.ofList host
        port
        path := String.ofList (percent inPath path)
        query := query.map fun query => String.ofList (percent inQuery query)
        fragment := fragment.map fun fragment => String.ofList (percent inFragment fragment) }

/-! ## The whole -/

/-- The host and port as they travel. -/
def place (url : Url) : String :=
  let host := if url.host.toList.contains ':' then s!"[{url.host}]" else url.host
  match url.port with
  | some port =>
    let shown := String.ofList (intText port)
    s!"{host}:{shown}"
  | none => host

/-- The address as a text. -/
def toText (url : Url) : String :=
  let authority := (if url.userinfo = "" then "" else s!"{url.userinfo}@") ++ url.place
  (if url.scheme = "" then "" else s!"{url.scheme}:")
    ++ (if authority = "" then "" else s!"//{authority}")
    ++ url.path
    ++ (match url.query with
      | some query => s!"?{query}"
      | none => "")
    ++ (match url.fragment with
      | some fragment => s!"#{fragment}"
      | none => "")

/-- The host that people are shown. -/
def shownHost (url : Url) : Except DomainName.Fault String :=
  if DomainName.formMark.isPrefixOf url.host.toList then
    (DomainName.shown url.host.toList).map String.ofList
  else .ok url.host

/-- The user and password, if one of them is there. -/
def credentials (url : Url) : Option (String × String) :=
  let (user, rest) := url.userinfo.toList.span (· ≠ ':')
  let user := unpercent (String.ofList user)
  let password := unpercent (String.ofList (rest.drop 1))
  if user = "" ∧ password = "" then none else some (user, password)

end Url

end FormAutomation.Network
