import FormAutomation.Call
import FormAutomation.Network.Url
import FormAutomation.Text.Base64

/-!
# Exchanges

What travels in an exchange over the network: a request as it leaves the
machine, and the response that comes back.  The names of headers are compared
without regard to letter case and travel in small letters.

A *carrier* looks names up and carries requests.  It keeps a state, so that the
same question may be answered otherwise the next time.  This takes its time, and
whoever asks may give up before.
-/

namespace FormAutomation.Network

/-- Headers in order; names may repeat. -/
abbrev Headers := List (String × String)

namespace Headers

/-- The name of a header as it travels. -/
def travelling (name : String) : String :=
  String.ofList (name.toList.map Char.toLower)

/-- Whether there is a header of a name. -/
def has (headers : Headers) (name : String) : Bool :=
  headers.any (·.1 == name)

/-- The value of a name, several of them joined. -/
def value? (headers : Headers) (name : String) : Option String :=
  match (headers.filter (·.1 == name)).map (·.2) with
  | [] => none
  | values => some (", ".intercalate values)

/-- The headers with one value for a name: in the place of the first of that
name, or at the end. -/
def put (name value : String) : Headers → Headers
  | [] => [(name, value)]
  | header :: rest =>
    if header.1 = name then (name, value) :: rest.filter (·.1 ≠ name)
    else header :: put name value rest

end Headers

/-- A request as it leaves the machine. -/
structure WireRequest where
  /-- the method in capital letters -/
  method : String
  /-- the address -/
  url : Url
  /-- the headers in order -/
  headers : Headers
  /-- the content -/
  content : List UInt8
  deriving DecidableEq

/-- A response. -/
structure Response where
  /-- the status -/
  status : Int
  /-- the headers in order -/
  headers : Headers
  /-- the content -/
  content : List UInt8
  deriving DecidableEq

/-- Why a request that was sent has no response. -/
inductive TransportFault where
  /-- the exchange failed -/
  | failed (message : String)
  /-- something of another kind went wrong -/
  | foreign (kind message : String)
  deriving DecidableEq

/-- What lies outside the machine. -/
structure Carrier (σ : Type) where
  /-- the addresses of a host for a port, or what is said when it has none -/
  resolve : String → Int → σ → Except String (List String) × σ
  /-- the response to a request within some seconds -/
  send : Binary64 → WireRequest → σ → Except TransportFault Response × σ
  /-- the seconds that all of this takes for a request -/
  delay : Request → σ → Binary64 := fun _ _ => .ofNat 0

/-! ## Requests on their way out -/

/-- Where a text has characters that cannot travel: the first of them, its
place, and the last of the run that it begins. -/
structure HeaderFault where
  /-- the first character beyond ASCII -/
  char : Char
  /-- its position -/
  first : Nat
  /-- the position of the last such character in a row -/
  last : Nat
  deriving DecidableEq

/-- What is said of a fault. -/
def HeaderFault.message (fault : HeaderFault) : String :=
  if fault.first = fault.last then
    let shown := String.ofList (Text.escapedPoint fault.char.toNat)
    s!"'ascii' codec can't encode character '{shown}' in position {fault.first}: " ++
      "ordinal not in range(128)"
  else
    s!"'ascii' codec can't encode characters in position {fault.first}-{fault.last}: " ++
      "ordinal not in range(128)"

/-- Checks that a text can travel in a header. -/
def checkHeaderText (text : String) : Except HeaderFault Unit :=
  let (before, rest) := text.toList.span DomainName.isBasic
  match rest with
  | [] => .ok ()
  | c :: _ =>
    let run := rest.takeWhile fun c => !DomainName.isBasic c
    .error ⟨c, before.length, before.length + run.length - 1⟩

/-- Headers as they travel. -/
def travellingHeaders : List (String × String) → Except HeaderFault Headers
  | [] => .ok []
  | (name, value) :: rest => do
    checkHeaderText name
    checkHeaderText value
    return (Headers.travelling name, value) :: (← travellingHeaders rest)

/-- Whether the methods of this name announce their content even when there is
none. -/
def announcesContent (method : String) : Bool :=
  method == "POST" || method == "PUT" || method == "PATCH"

/-- The header for the user and password of an address. -/
def authorization (user password : String) : String :=
  let bytes := Text.Utf8.encode s!"{user}:{password}".toList
  let shown := String.ofList (Text.Base64.encode bytes)
  s!"Basic {shown}"

/-- The headers of a request: the place and an announcement of no content come
first, an announcement of content last, each unless the given headers say it;
the user and password of the address replace any others. -/
def wireHeaders (method : String) (url : Url) (given : Headers) (content : List UInt8) :
    Headers :=
  let announced := given.has "content-length"
  let own := announced || given.has "transfer-encoding"
  let size := toString content.length
  let headers :=
    (if given.has "host" then [] else [("host", url.place)])
      ++ (if content.isEmpty && !own && announcesContent method then [("content-length", "0")]
        else [])
      ++ given
      ++ (if content.isEmpty || announced then [] else [("content-length", size)])
  match url.credentials with
  | some (user, password) => Headers.put "authorization" (authorization user password) headers
  | none => headers

end FormAutomation.Network
