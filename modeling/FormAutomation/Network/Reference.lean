import FormAutomation.Network.Url

/-!
# References to other addresses

A response may point to another address and leave out what that address shares
with the one that was asked: the scheme, or the scheme and the authority.  Such
a *reference* is read in the light of the address that was asked.

A reference is taken as the text of what was read of it.  That text may show a
scheme where none was read: a colon at the very start stands for an empty scheme
and is not part of the text, so that a scheme after it comes to the front.
-/

namespace FormAutomation.Network.Reference

/-- Why a reference leads nowhere. -/
inductive Fault where
  /-- the brackets around its host do not match, or something stands beside them -/
  | brackets
  /-- what stands in brackets is no address of a host -/
  | noAddress (host : String)
  /-- what stands in brackets is an address that needs none -/
  | shortAddress
  /-- what stands in brackets is an address of a later kind, ill-formed -/
  | laterAddress
  /-- what it comes to is no address -/
  | url (why : Url.Fault)
  deriving DecidableEq

/-- What is said of a fault. -/
def Fault.message : Fault → String
  | .brackets => "Invalid IPv6 URL"
  | .noAddress host =>
    let shown := Text.quoted host
    s!"{shown} does not appear to be an IPv4 or IPv6 address"
  | .shortAddress => "An IPv4 address cannot be in brackets"
  | .laterAddress => "IPvFuture address is invalid"
  | .url why => why.message

/-- Whether a text is an address of a later kind: the letter v, digits in base
sixteen, a point and something more. -/
def isLaterAddress (host : List Char) : Bool :=
  let (digits, rest) := (host.drop 1).span fun c => (Address.hexValue? c).isSome
  host.head? == some 'v' && !digits.isEmpty && rest.head? == some '.' && 1 < rest.length

/-- Checks what stands in brackets. -/
def checkInside (host : List Char) : Except Fault Unit :=
  if host.head? = some 'v' then
    if isLaterAddress host then .ok () else .error .laterAddress
  else
    match Address.parse? (String.ofList host) with
    | some (.v6 _) => .ok ()
    | some (.v4 _) => .error .shortAddress
    | none => .error (.noAddress (String.ofList host))

/-- Checks the brackets of an authority: its host stands between them or has
none, and only a port may follow. -/
def checkBrackets (authority : List Char) : Except Fault Unit :=
  if authority.contains '[' != authority.contains ']' then .error .brackets
  else if authority.contains '[' then
    let (_, place) := Url.splitAtLast '@' authority
    match place.span (· ≠ '[') with
    | ([], _ :: rest) =>
      let (host, after) := rest.span (· ≠ ']')
      match after.drop 1 with
      | [] => checkInside host
      | ':' :: _ => checkInside host
      | _ => .error .brackets
    | (_, _ :: _) => .error .brackets
    | (host, []) => checkInside (host.takeWhile (· ≠ ':'))
  else .ok ()

/-- The path that a path stands for beside another. -/
def besidePath (base path : List Char) : List Char :=
  if path.head? = some '/' then path
  else
    let directory := (base.reverse.dropWhile (· ≠ '/')).reverse
    Url.directPath ((if directory.isEmpty then ['/'] else directory) ++ path)

/-- The address that a reference stands for at another address. -/
def resolve (base reference : Url) : Except Fault Url := do
  let text := reference.toText.toList
  let (scheme, rest) := Url.splitScheme text
  let (authority, _) := Url.splitAuthority rest
  checkBrackets authority
  let isForeign := !scheme.isEmpty && String.ofList (scheme.map Char.toLower) != base.scheme
  if isForeign || !authority.isEmpty then
    let scheme := if isForeign then scheme else base.scheme.toList
    (Url.parse (String.ofList (scheme ++ ':' :: rest))).mapError .url
  else if reference.path = "" then
    return { base with
      query := reference.query.orElse fun _ => base.query
      fragment := reference.fragment }
  else
    return { base with
      path := String.ofList (besidePath base.path.toList reference.path.toList)
      query := reference.query
      fragment := reference.fragment }

end FormAutomation.Network.Reference
