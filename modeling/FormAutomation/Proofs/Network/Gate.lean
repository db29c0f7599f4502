import FormAutomation.Network.Client
import FormAutomation.Proofs.Network.Literal

/-!
# Requests stay outside

A client that keeps to public hosts judges a request before it sends it: by the address
alone as far as that goes, and where the host is a name by every address that the name
stands for.  What it does not admit it does not send, and what it admits it sends once,
to the address that was judged.

A request that is not admitted fails as a call, with one exception.  A host in the ASCII
form of a name beyond ASCII need not be such a form; then its name cannot be shown, and
it is this that the client tells, not that the address is invalid.
-/

namespace FormAutomation.Network.Client

variable {σ : Type}

/-! ## What is admitted -/

/-- The text is an address that lies outside as far as it tells, and people are shown its
host this way. -/
structure LiesOutside (text : String) (url : Url) (host : String) : Prop where
  /-- the text can be read as an address -/
  parsed : Url.parse text = .ok url
  /-- which is one of the web -/
  web : isWeb url = true
  /-- its host can be shown -/
  shown : url.shownHost = .ok host
  /-- and is there -/
  named : host ≠ ""
  /-- and is not internal -/
  outside : isInternal host = false

/-- The request may be sent to this address. -/
structure Admits (network : Carrier σ) (request : Request) (state : σ) (url : Url)
    (host : String) : Prop extends LiesOutside request.url url host where
  /-- the host is written as an address, or is a name that stands for addresses none of
  which is internal -/
  resolved : isLiteral (withoutBrackets host) = true
    ∨ ∃ addresses, (network.resolve (withoutBrackets host) (port url) state).1 = .ok addresses
      ∧ ∀ address ∈ addresses, isInternal address = false

/-- Whether the client tells of the fault as the failure of a call.  The others come from
the parts that it is made of. -/
def Fault.isCallError : Fault → Bool
  | .hostName _ => false
  | .header _ => false
  | .foreign _ _ => false
  | .incompleteLocation _ => false
  | .reference _ => false
  | .contentType _ => false
  | .text _ => false
  | _ => true

/-- The lookups that a host needs: none if it is written as an address. -/
def lookupsFor (url : Url) (host : String) : List (String × Int) :=
  if isLiteral (withoutBrackets host) then [] else [(withoutBrackets host, port url)]

/-- The state of the network after lookups, and after requests that were sent. -/
def stateAfter (client : Client) (network : Carrier σ) (state : σ)
    (lookups : List (String × Int)) (sent : List WireRequest) : σ :=
  sent.foldl (fun state wire => (network.send client.timeout wire state).2)
    (lookups.foldl (fun state lookup => (network.resolve lookup.1 lookup.2 state).2) state)

/-- The exchange keeps to what is admitted. -/
structure IsGuarded (client : Client) (network : Carrier σ) (request : Request) (state : σ)
    (exchange : Exchange σ) : Prop where
  /-- at most one request is sent -/
  once : exchange.sent.length ≤ 1
  /-- the network was asked for these lookups and these requests, and for nothing else -/
  asked : exchange.state = client.stateAfter network state exchange.lookups exchange.sent
  /-- what is sent was admitted, after the lookups that its host needs -/
  admitted : ∀ wire ∈ exchange.sent, ∃ host, Admits network request state wire.url host
    ∧ exchange.lookups = lookupsFor wire.url host
  /-- neither the host that it is sent to nor what the host stands for is written as an
  address for private use, in any letter case -/
  reaches : ∀ wire ∈ exchange.sent, ∃ host, wire.url.shownHost = .ok host ∧ IsPublic host
    ∧ ∀ lookup ∈ exchange.lookups, ∃ addresses,
      (network.resolve lookup.1 lookup.2 state).1 = .ok addresses
        ∧ ∀ address ∈ addresses, IsPublic address
  /-- what is admitted is sent, if it can travel -/
  sends : ∀ url host wire, Admits network request state url host →
    Client.wire url request = .ok wire → exchange.sent = [wire]
  /-- anything else fails, and nothing is sent -/
  refused : (∀ url host, ¬ Admits network request state url host) →
    exchange.sent = [] ∧ ∃ fault, exchange.response = .error fault
      ∧ (fault.isCallError = true ∨ ∃ url why, Url.parse request.url = .ok url
        ∧ isWeb url = true ∧ url.shownHost = .error why ∧ fault = .hostName why)

/-! ## The host by itself -/

/-- A text is one address, and its host is shown in one way. -/
theorem LiesOutside.unique {text host host' : String} {url url' : Url}
    (h : LiesOutside text url host) (h' : LiesOutside text url' host') :
    url' = url ∧ host' = host := by
  obtain rfl : url' = url := Except.ok.inj (h'.parsed.symm.trans h.parsed)
  exact ⟨rfl, Except.ok.inj (h'.shown.symm.trans h.shown)⟩

/-- How the check of a host ends if the client keeps to public hosts. -/
inductive HostChecked (text : String) : Except Fault (Url × String) → Prop where
  /-- the address lies outside -/
  | passed {url : Url} {host : String} (h : LiesOutside text url host) :
      HostChecked text (.ok (url, host))
  /-- the host cannot be shown -/
  | unshown {url : Url} {why : DomainName.Fault} (hp : Url.parse text = .ok url)
      (hw : isWeb url = true) (hs : url.shownHost = .error why) :
      HostChecked text (.error (.hostName why))
  /-- the call fails, and the address does not lie outside -/
  | failed {fault : Fault} (hf : fault.isCallError = true)
      (hn : ∀ url host, ¬ LiesOutside text url host) : HostChecked text (.error fault)

theorem hostChecked {client : Client} (hb : client.blockPrivate = true) (text : String) :
    HostChecked text (client.checkHost text) := by
  unfold checkHost
  rcases hp : Url.parse text with fault | url
  · refine .failed rfl fun url host h => ?_
    rw [h.parsed] at hp
    cases hp
  -- from here on the text is this address, and no other
  have hurl : ∀ {url' host}, LiesOutside text url' host → url' = url := by
    intro url' host h
    exact Except.ok.inj (h.parsed.symm.trans hp)
  rcases hw : isWeb url with _ | _
  · simp only [Except.mapError, bind, Except.bind, hw]
    refine .failed rfl fun url' host h => ?_
    obtain rfl := hurl h
    rw [h.web] at hw
    cases hw
  rcases hs : url.shownHost with why | host
  · simp only [Except.mapError, bind, Except.bind, hw, hs]
    exact .unshown hp hw hs
  have hhost : ∀ {url' host'}, LiesOutside text url' host' → host' = host := by
    intro url' host' h
    obtain rfl := hurl h
    exact Except.ok.inj (h.shown.symm.trans hs)
  by_cases hn : host = ""
  · simp only [Except.mapError, bind, Except.bind, hw, hs, hn]
    refine .failed rfl fun url' host' h => ?_
    obtain rfl := hhost h
    exact h.named hn
  rcases hi : isInternal host with _ | _
  · simp only [Except.mapError, bind, Except.bind, hw, hs, hn, hb, hi]
    exact .passed ⟨hp, hw, hs, hn, hi⟩
  · simp only [Except.mapError, bind, Except.bind, hw, hs, hn, hb, hi]
    refine .failed rfl fun url' host' h => ?_
    obtain rfl := hhost h
    rw [h.outside] at hi
    cases hi

/-! ## Exchanges -/

variable {client : Client} {network : Carrier σ} {request : Request} {state state' : σ}
  {url : Url} {host : String} {lookups : List (String × Int)}
  {answer : Except String (List String)}

/-- Addresses are let through exactly if none of them is internal. -/
theorem checkAddresses_eq_ok_iff :
    checkAddresses host answer = .ok ()
      ↔ ∃ addresses, answer = .ok addresses ∧ ∀ address ∈ addresses, isInternal address = false := by
  rcases answer with message | addresses
  · simp [checkAddresses]
  · rcases hfind : addresses.find? isInternal with _ | address
    · have hnone := List.find?_eq_none.1 hfind
      simpa [checkAddresses, hfind] using hnone
    · have hmem := List.mem_of_find?_eq_some hfind
      have hinternal := List.find?_some hfind
      simp only [checkAddresses, hfind, reduceCtorEq, Except.ok.injEq, exists_eq_left', false_iff]
      intro h
      rw [h address hmem] at hinternal
      cases hinternal

/-- Where addresses are not let through, the call fails. -/
theorem isCallError_of_checkAddresses {fault : Fault}
    (h : checkAddresses host answer = .error fault) : fault.isCallError = true := by
  unfold checkAddresses at h
  split at h
  · obtain rfl := Except.error.inj h
    rfl
  · split at h
    · obtain rfl := Except.error.inj h
      rfl
    · cases h

/-- A request that leaves is made of its own parts: its headers travel over those that are usual,
and it has no content if it gets something. -/
theorem exists_of_wire {wire : WireRequest} (h : Client.wire url request = .ok wire) :
    ∃ given content, travellingHeaders (Entries.overlay defaultHeaders request.headers) = .ok given
      ∧ content = (if Text.upper request.method = "GET" then []
        else Text.Utf8.encode (request.body.getD "").toList)
      ∧ wire = { method := Text.upper request.method, url
                 headers := wireHeaders (Text.upper request.method) url given content, content } := by
  unfold Client.wire at h
  simp only [bind, Except.bind] at h
  rcases hgiven : travellingHeaders (Entries.overlay defaultHeaders request.headers)
    with fault | given
  · rw [hgiven] at h
    cases h
  rw [hgiven] at h
  refine ⟨given, _, rfl, rfl, ?_⟩
  simp only [Except.mapError] at h
  split at h
  · split at h
    · cases h
    · exact (Except.ok.inj h).symm
  · exact (Except.ok.inj h).symm

/-- A request travels to the address that it was made out for. -/
theorem url_of_wire {wire : WireRequest} (h : Client.wire url request = .ok wire) :
    wire.url = url := by
  obtain ⟨given, content, -, -, rfl⟩ := exists_of_wire h
  rfl

/-- The lookups that an admitted host needs find public addresses only. -/
theorem Admits.isPublic_of_lookup (h : Admits network request state url host)
    {lookup : String × Int} (hmem : lookup ∈ lookupsFor url host) :
    ∃ addresses, (network.resolve lookup.1 lookup.2 state).1 = .ok addresses
      ∧ ∀ address ∈ addresses, IsPublic address := by
  unfold lookupsFor at hmem
  split at hmem
  · cases hmem
  · next hliteral =>
    obtain rfl := List.mem_singleton.1 hmem
    rcases h.resolved with hl | ⟨addresses, hresolve, houtside⟩
    · exact absurd hl hliteral
    · exact ⟨addresses, hresolve, fun address ha => isPublic_of_isInternal (houtside address ha)⟩

/-- A request that is admitted is sent once, if it can travel. -/
theorem isGuarded_transmit (h : Admits network request state url host)
    (hl : lookups = lookupsFor url host)
    (hs : state' = lookups.foldl (fun state lookup => (network.resolve lookup.1 lookup.2 state).2)
      state) :
    client.IsGuarded network request state
      (client.transmit network request url lookups state') := by
  have hrefused : ¬ ∀ url host, ¬ Admits network request state url host := fun hn => hn url host h
  unfold transmit
  rcases hw : wire url request with fault | sent
  · -- the request cannot travel, so it is not sent after all
    refine ⟨Nat.zero_le _, hs, nofun, nofun, ?_, fun hn => absurd hn hrefused⟩
    intro url' host' wire' h' hw'
    obtain ⟨rfl, -⟩ := h.unique h'.toLiesOutside
    rw [hw] at hw'
    cases hw'
  · have hurl := url_of_wire hw
    refine ⟨Nat.le_refl 1, ?_, ?_, ?_, ?_, fun hn => absurd hn hrefused⟩
    · rw [stateAfter, ← hs]
      rfl
    · intro wire' hmem
      obtain rfl := List.mem_singleton.1 hmem
      exact ⟨host, hurl ▸ h, hurl ▸ hl⟩
    · intro wire' hmem
      obtain rfl := List.mem_singleton.1 hmem
      have hshown : wire'.url.shownHost = .ok host := by
        rw [hurl]
        exact h.shown
      refine ⟨host, hshown, isPublic_of_isInternal h.outside, ?_⟩
      intro lookup hlookup
      have hlookups : lookup ∈ lookups := hlookup
      exact h.isPublic_of_lookup (hl ▸ hlookups)
    · intro url' host' wire' h' hw'
      obtain ⟨rfl, -⟩ := h.unique h'.toLiesOutside
      rw [hw] at hw'
      obtain rfl := Except.ok.inj hw'
      rfl

/-- A request that is not admitted is not sent. -/
theorem isGuarded_refused {fault : Fault}
    (hn : ∀ url host, ¬ Admits network request state url host)
    (hs : state' = lookups.foldl (fun state lookup => (network.resolve lookup.1 lookup.2 state).2)
      state)
    (hf : fault.isCallError = true ∨ ∃ url why, Url.parse request.url = .ok url
      ∧ isWeb url = true ∧ url.shownHost = .error why ∧ fault = .hostName why) :
    client.IsGuarded network request state
      { response := .error fault, lookups, sent := [], state := state' } where
  once := Nat.zero_le _
  asked := hs
  admitted := nofun
  reaches := nofun
  sends := fun url host _ h => absurd h (hn url host)
  refused := fun _ => ⟨rfl, fault, rfl, hf⟩

/-! ## The ways of an exchange -/

theorem exchange_of_error {fault : Fault} (h : client.checkHost request.url = .error fault) :
    client.exchange network request state
      = { response := .error fault, lookups := [], sent := [], state } := by
  simp only [exchange, h]

theorem exchange_of_literal (h : client.checkHost request.url = .ok (url, host))
    (hl : isLiteral (withoutBrackets host) = true) :
    client.exchange network request state = client.transmit network request url [] state := by
  simp [exchange, h, hl]

theorem exchange_of_internal {fault : Fault} (hb : client.blockPrivate = true)
    (h : client.checkHost request.url = .ok (url, host))
    (hl : isLiteral (withoutBrackets host) = false)
    (hr : network.resolve (withoutBrackets host) (port url) state = (answer, state'))
    (hc : checkAddresses (withoutBrackets host) answer = .error fault) :
    client.exchange network request state
      = { response := .error fault, lookups := [(withoutBrackets host, port url)], sent := []
          state := state' } := by
  simp [exchange, h, hl, hb, hr, hc]

theorem exchange_of_outside (hb : client.blockPrivate = true)
    (h : client.checkHost request.url = .ok (url, host))
    (hl : isLiteral (withoutBrackets host) = false)
    (hr : network.resolve (withoutBrackets host) (port url) state = (answer, state'))
    (hc : checkAddresses (withoutBrackets host) answer = .ok ()) :
    client.exchange network request state
      = client.transmit network request url [(withoutBrackets host, port url)] state' := by
  simp [exchange, h, hl, hb, hr, hc]

/-- Every exchange of a client that keeps to public hosts keeps to what is admitted,
whatever is asked for and whatever the network answers. -/
theorem isGuarded_exchange (timeout : Binary64) (network : Carrier σ) (request : Request)
    (state : σ) :
    (Client.mk true timeout).IsGuarded network request state
      ((Client.mk true timeout).exchange network request state) := by
  have hchecked : HostChecked _ ((Client.mk true timeout).checkHost _) := hostChecked rfl request.url
  generalize hcheck : (Client.mk true timeout).checkHost request.url = checked at hchecked
  cases hchecked with
  | unshown hp hw hs =>
    rw [exchange_of_error hcheck]
    refine isGuarded_refused ?_ rfl (.inr ⟨_, _, hp, hw, hs, rfl⟩)
    intro url' host' h
    obtain rfl : url' = _ := Except.ok.inj (h.parsed.symm.trans hp)
    rw [h.shown] at hs
    cases hs
  | failed hf hn =>
    rw [exchange_of_error hcheck]
    exact isGuarded_refused (fun url host h => hn url host h.toLiesOutside) rfl (.inl hf)
  | @passed url host h =>
    cases hl : isLiteral (withoutBrackets host) with
    | true =>
      rw [exchange_of_literal hcheck hl]
      exact isGuarded_transmit ⟨h, .inl hl⟩ (by simp [lookupsFor, hl]) rfl
    | false =>
      rcases hr : network.resolve (withoutBrackets host) (port url) state with ⟨answer, state'⟩
      have hs : state' = [(withoutBrackets host, port url)].foldl
          (fun state lookup => (network.resolve lookup.1 lookup.2 state).2) state := by
        simp [hr]
      rcases hc : checkAddresses (withoutBrackets host) answer with fault | _
      · rw [exchange_of_internal rfl hcheck hl hr hc]
        refine isGuarded_refused ?_ hs (.inl (isCallError_of_checkAddresses hc))
        intro url' host' h'
        obtain ⟨rfl, rfl⟩ := h.unique h'.toLiesOutside
        rcases h'.resolved with hliteral | hresolved
        · rw [hl] at hliteral
          cases hliteral
        · rw [hr] at hresolved
          rw [checkAddresses_eq_ok_iff.2 hresolved] at hc
          cases hc
      · rw [exchange_of_outside rfl hcheck hl hr hc]
        refine isGuarded_transmit ⟨h, .inr ?_⟩ (by simp [lookupsFor, hl]) hs
        rw [hr]
        exact checkAddresses_eq_ok_iff.1 hc

/-- A network in which no host has an address. -/
def nowhere : Carrier Unit where
  resolve _ _ state := (.error "no address", state)
  send _ _ state := (.error (.failed "no answer"), state)

/-- A form that ends with a hyphen is refused, but not as a call that failed. -/
theorem unshown_ne_callError :
    ¬ ∀ request : Request, (∀ url host, ¬ Admits nowhere request () url host) →
      ∃ fault, ((Client.mk true (.ofNat 20)).exchange nowhere request ()).response = .error fault
        ∧ fault.isCallError = true := by
  intro h
  have hparse : Url.parse "https://xn--a-.com/"
      = .ok ⟨"https", "", "xn--a-.com", none, "/", none, none⟩ := rfl
  have hshown : Url.shownHost ⟨"https", "", "xn--a-.com", none, "/", none, none⟩
      = .error .formEndsWithHyphen := rfl
  have hcheck : (Client.mk true (.ofNat 20)).checkHost "https://xn--a-.com/"
      = .error (.hostName .formEndsWithHyphen) := rfl
  have hnot : ∀ url host, ¬ Admits nowhere ⟨"https://xn--a-.com/", "GET", [], none⟩ () url host := by
    intro url host hadmits
    obtain rfl := Except.ok.inj (hparse.symm.trans hadmits.parsed)
    have hhost := hshown.symm.trans hadmits.shown
    cases hhost
  obtain ⟨fault, hfault, hcall⟩ := h ⟨"https://xn--a-.com/", "GET", [], none⟩ hnot
  rw [exchange_of_error hcheck] at hfault
  obtain rfl := Except.error.inj hfault
  cases hcall

end FormAutomation.Network.Client
