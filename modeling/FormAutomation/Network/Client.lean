import FormAutomation.Call
import FormAutomation.Network.ContentCoding
import FormAutomation.Network.ContentType
import FormAutomation.Network.Exchange
import FormAutomation.Network.Reference
import FormAutomation.Value.Excess

/-!
# Requests over the network

A client answers a request by one exchange over the network.  When it keeps to
public hosts, the host of the address is judged first, and where it is a name
every address it stands for: one that is internal is enough to refuse.  All
refusals come before anything is sent, and nothing is sent twice.

What comes back is the response, a value where its content type says JSON and
the content is, else a text.
-/

namespace FormAutomation.Network

/-- How requests are made. -/
structure Client where
  /-- whether requests to internal hosts are refused -/
  blockPrivate : Bool
  /-- how many seconds an exchange may take -/
  timeout : Binary64

namespace Client

/-- Why a request has no answer. -/
inductive Fault where
  /-- its address cannot be read -/
  | invalidUrl (text : String) (why : Url.Fault)
  /-- its address is none of the web -/
  | notAbsolute (text : String)
  /-- the name of its host cannot be shown -/
  | hostName (why : DomainName.Fault)
  /-- its host is internal -/
  | internalHost (host : String)
  /-- its host has no address -/
  | unresolved (host message : String)
  /-- its host has an address that is internal -/
  | internalAddress (host address : String)
  /-- a header cannot travel -/
  | header (why : HeaderFault)
  /-- the exchange failed -/
  | failed (method : String) (url : Url) (message : String)
  /-- something of another kind went wrong -/
  | foreign (kind message : String)
  /-- the response points to an address that cannot be read -/
  | location (method : String) (url : Url) (why : Url.Fault)
  /-- the response points to an address that cannot be completed -/
  | incompleteLocation (why : Url.Fault)
  /-- the response refers to an address that cannot be made out -/
  | reference (why : Reference.Fault)
  /-- the status of the response says that it is none -/
  | status (method : String) (url : Url) (status : Int)
  /-- it cannot be told in which character set the text of the response is -/
  | contentType (why : ContentType.Fault)
  /-- the text of the response cannot be read -/
  | text (why : Text.Charset.Fault)
  deriving DecidableEq

/-- What is said of a fault. -/
def Fault.message : Fault → String
  | .invalidUrl given why =>
    let reason := why.message
    s!"Invalid URL '{given}': {reason}"
  | .notAbsolute given => s!"Invalid URL '{given}': expected an absolute http(s) URL."
  | .hostName why => why.message
  | .internalHost host => s!"Requests to internal host '{host}' are not allowed."
  | .unresolved host message => s!"Could not resolve host '{host}': {message}"
  | .internalAddress host address =>
    s!"Host '{host}' resolves to internal address '{address}'; request refused."
  | .header why => why.message
  | .failed method url message =>
    let shown := url.toText
    s!"{method} {shown} failed: {message}"
  | .foreign _ message => message
  | .location method url why =>
    let shown := url.toText
    let reason := why.message
    s!"{method} {shown} failed: Invalid URL in location header: {reason}."
  | .incompleteLocation why => why.message
  | .reference why => why.message
  | .status method url code =>
    let shown := url.toText
    s!"{method} {shown} returned HTTP {code}."
  | .contentType fault => fault.message
  | .text fault => fault.message

/-! ## Before anything is sent -/

/-- Whether an address is one of the web. -/
def isWeb (url : Url) : Bool :=
  url.scheme == "http" || url.scheme == "https"

/-- The address of a request and its host as people are shown it, if the request
may go there as far as they tell. -/
def checkHost (client : Client) (text : String) : Except Fault (Url × String) := do
  let url ← (Url.parse text).mapError (.invalidUrl text)
  if !isWeb url then throw (.notAbsolute text)
  let host ← url.shownHost.mapError .hostName
  if host = "" then throw (.notAbsolute text)
  if client.blockPrivate && isInternal host then throw (.internalHost host)
  return (url, host)

/-- The port of an address, that of its scheme if it has none. -/
def port (url : Url) : Int :=
  match url.port with
  | some n => if n = 0 then (if url.scheme = "https" then 443 else 80) else n
  | none => if url.scheme = "https" then 443 else 80

/-- Whether a host may be asked as far as its addresses tell. -/
def checkAddresses (host : String) : Except String (List String) → Except Fault Unit
  | .error message => .error (.unresolved host message)
  | .ok addresses =>
    match addresses.find? isInternal with
    | some address => .error (.internalAddress host address)
    | none => .ok ()

/-- The header that every request has unless it says otherwise. -/
def defaultHeaders : Entries String :=
  [("Content-Type", "application/json")]

/-- A request as it leaves the machine. -/
def wire (url : Url) (request : Request) : Except Fault WireRequest := do
  let method := Text.upper request.method
  let given ← (travellingHeaders (Entries.overlay defaultHeaders request.headers)).mapError .header
  if !given.has "host" then (checkHeaderText url.place).mapError .header
  let content :=
    if method = "GET" then [] else Text.Utf8.encode (request.body.getD "").toList
  return { method, url, headers := wireHeaders method url given content, content }

/-! ## What comes back -/

/-- Whether a status points to another address. -/
def isRedirect (status : Int) : Bool :=
  [301, 302, 303, 307, 308].contains status

/-- The address that a response points to.  One with a scheme and no host is
completed by the host that was asked, and one without a scheme is a reference. -/
def pointedAt (sent : WireRequest) (location : String) : Except Fault Url := do
  let url ← (Url.parse location).mapError (.location sent.method sent.url)
  if url.scheme = "" then
    (Reference.resolve sent.url url).mapError .reference
  else
    let host ← url.shownHost.mapError .hostName
    if host = "" then
      (Url.checkPath url.path.toList true true).mapError .incompleteLocation
      return { url with host := sent.url.host }
    else return url

/-- Checks that the address that a response points to could be asked: its host
has to be one that can be shown, and where it lies elsewhere its place has to
travel in a header. -/
def checkLocation (sent : WireRequest) (location : String) : Except Fault Unit := do
  let url ← pointedAt sent location
  let _ ← url.shownHost.mapError .hostName
  if url.scheme = sent.url.scheme ∧ url.place = sent.url.place then return ()
  (checkHeaderText url.place).mapError .header

/-- The character set that a response names for its text. -/
def textCharset (response : Response) : Except Fault Text.Charset := do
  let charset? ← match response.headers.value? "content-type" with
    | some contentType => (ContentType.charset? contentType).mapError .contentType
    | none => pure none
  return charset?.getD .utf8

/-- The content of a response as a text. -/
def contentText (response : Response) : Except Fault String := do
  if response.content.isEmpty then return ""
  let cs ← ((← textCharset response).decodeLossy response.content).mapError .text
  return String.ofList cs

/-- Whether a response says JSON. -/
def saysJson (response : Response) : Bool :=
  ContentType.isJson ((response.headers.value? "content-type").getD "")

/-- The content of a response as the text of a value, if it can be one. -/
def jsonText? (response : Response) : Option String :=
  ((Text.Charset.detected response.content).decode? response.content).map String.ofList

/-- The content of a response as a value, if it says JSON and is. -/
def contentJson? (response : Response) : Option Value :=
  if saysJson response then (jsonText? response).bind Json.value? else none

/-- Checks that a response is one: it points to no address that could not be asked,
and its status is none of a failure. -/
def checkResponse (sent : WireRequest) (response : Response) : Except Fault Unit := do
  if isRedirect response.status then
    match response.headers.value? "location" with
    | some location => checkLocation sent location
    | none => pure ()
  if 400 ≤ response.status then throw (.status sent.method sent.url response.status)

/-- What a response says. -/
def read (sent : WireRequest) (response : Response) : Except Fault Value := do
  checkResponse sent response
  match contentJson? response with
  | some value => return value
  | none => return .text (← contentText response)

/-- A response with its content as it was before it was coded. -/
def decoded (sent : WireRequest) (response : Response) : Except Fault Response := do
  let codings := ContentCoding.ofHeader ((response.headers.value? "content-encoding").getD "")
  let content ← (ContentCoding.undoAll codings response.content).mapError fun why =>
    .failed sent.method sent.url why.message
  return { response with content }

/-- What came of sending a request. -/
def receive (sent : WireRequest) : Except TransportFault Response → Except Fault Value
  | .error (.failed message) => .error (.failed sent.method sent.url message)
  | .error (.foreign kind message) => .error (.foreign kind message)
  | .ok response => do read sent (← decoded sent response)

/-! ## The whole -/

/-- A request answered, and what the network was asked for it. -/
structure Exchange (σ : Type) where
  /-- the answer, or why there is none -/
  response : Except Fault Value
  /-- the hosts and ports that were looked up -/
  lookups : List (String × Int)
  /-- the requests that were sent -/
  sent : List WireRequest
  /-- the state of the network -/
  state : σ

variable {σ : Type}

/-- Sends a request to an address that was let through. -/
def transmit (client : Client) (network : Carrier σ) (request : Request) (url : Url)
    (lookups : List (String × Int)) (state : σ) : Exchange σ :=
  match wire url request with
  | .error fault => { response := .error fault, lookups, sent := [], state }
  | .ok sent =>
    let (answer, state) := network.send client.timeout sent state
    { response := receive sent answer, lookups, sent := [sent], state }

/-- Answers a request. -/
def exchange (client : Client) (network : Carrier σ) (request : Request) (state : σ) :
    Exchange σ :=
  match client.checkHost request.url with
  | .error fault => { response := .error fault, lookups := [], sent := [], state }
  | .ok (url, host) =>
    let name := withoutBrackets host
    if client.blockPrivate && !isLiteral name then
      let (answer, state) := network.resolve name (port url) state
      let lookups := [(name, port url)]
      match checkAddresses name answer with
      | .error fault => { response := .error fault, lookups, sent := [], state }
      | .ok () => client.transmit network request url lookups state
    else client.transmit network request url [] state

/-- Whether anything was asked of the network. -/
def Exchange.isAsked (exchange : Exchange σ) : Bool :=
  !exchange.lookups.isEmpty || !exchange.sent.isEmpty

/-- The client as a caller of a run; what went over the network is kept with the
state.  A request that is refused takes no time, and one that is given up while it
is under way counts as sent. -/
def caller (client : Client) (network : Carrier σ) : Caller (List WireRequest × σ) where
  call request _ state :=
    let exchange := client.exchange network request state.2
    ({ response := exchange.response.mapError fun fault => .callFailed fault.message
       delay := if exchange.isAsked then network.delay request state.2 else .ofNat 0 },
     (state.1 ++ exchange.sent, exchange.state))

end Client

end FormAutomation.Network
