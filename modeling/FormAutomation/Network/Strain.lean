import FormAutomation.Network.Client

/-!
# Responses that ask too much

A response that says JSON is read like any other JSON, so it may be a strain.  It
may also hold half of a surrogate pair by its bytes: what says JSON is read so that
halves are kept, and there are character sets in which a half has an escape.  The
texts of this library cannot hold halves, and nothing is told of what comes of them.

A carrier that is *watched* keeps the first strain among its responses.
-/

namespace FormAutomation.Network

/-- Whether bytes that are no text in a set may be one if halves are kept. -/
def mayBeHalves : Text.Charset → List UInt8 → Bool
  | .utf8, bytes => (bytes.zip bytes.tail).any fun (a, b) => a == 0xED && 0xA0 ≤ b
  | .utf8Marked, bytes => (bytes.zip bytes.tail).any fun (a, b) => a == 0xED && 0xA0 ≤ b
  | _, _ => true

/-- Whether a half may be escaped in the set. -/
def escapesHalves : Text.Charset → Bool
  | .utf7 => true
  | .backslash _ => true
  | .punycode => true
  | _ => false

/-- The strain of the JSON in a response. -/
def jsonStrain? (response : Response) : Option Strain :=
  match Client.jsonText? response with
  | some text =>
    match Json.excess? text with
    | some (.strain why) => some why
    | some .depth => some .depth
    | _ => none
  | none =>
    if mayBeHalves (Text.Charset.detected response.content) response.content then some .half
    else none

/-- The strain of the text of a response: a half stands as the replacement
character. -/
def textStrain? (response : Response) : Option Strain :=
  match Client.textCharset response, Client.contentText response with
  | .ok charset, .ok text =>
    if escapesHalves charset && text.toList.contains '\uFFFD' then some .half else none
  | _, _ => none

/-- The strain of a response, if there is one. -/
def Response.strain? (sent : WireRequest) (response : Response) : Option Strain :=
  match Client.decoded sent response with
  | .error _ => none
  | .ok response =>
    match Client.checkResponse sent response with
    | .error _ => none
    | .ok () =>
      let ofJson := if Client.saysJson response then jsonStrain? response else none
      let ofText := if (Client.contentJson? response).isSome then none else textStrain? response
      ofJson.or ofText

/-- The strain of an answer, if it is a response. -/
def answerStrain? (sent : WireRequest) : Except TransportFault Response → Option Strain
  | .ok response => response.strain? sent
  | .error _ => none

/-- A carrier of which the first strain among its responses is kept. -/
def Carrier.watched {σ : Type} (network : Carrier σ) : Carrier (Option Strain × σ) where
  resolve host port state :=
    let (answer, state') := network.resolve host port state.2
    (answer, (state.1, state'))
  send limit sent state :=
    let (answer, state') := network.send limit sent state.2
    (answer, (state.1.or (answerStrain? sent answer), state'))
  delay request state := network.delay request state.2

end FormAutomation.Network
