import FormAutomation.Proofs.Network.Contact
import FormAutomation.Proofs.Network.Label

/-!
# Which name is looked up

A client that keeps to public hosts looks a name up before it contacts it.  The name that it
looks up is the one that people are shown, and the one that it contacts is the one that
travels.  The two are the same, but for a name that starts with the mark of an ASCII form:
what it stands for is looked up, and the form is contacted.
-/

namespace FormAutomation.Network

/-! ## Hosts -/

theorem isHostChar_of_inHost {c : Char} (h : Url.inHost c = true) : isHostChar c = true := by
  have hother : ['[', ']', ':'].all (fun c => !Url.inHost c) = true := by decide
  have hno : c ∉ ['[', ']', ':'] := by
    intro hc
    have hc' := List.all_eq_true.1 hother c hc
    rw [h] at hc'
    cases hc'
  have hbasic : DomainName.isBasic c = true := (Bool.and_eq_true_iff.1 h).1
  simp only [List.mem_cons, List.not_mem_nil, or_false, not_or] at hno
  simp [isHostChar, isBracket, hbasic, hno]

theorem isHostChar_of_mem_percentByte (b : UInt8) :
    ∀ c ∈ Url.percentByte b, isHostChar c = true := by
  have hdigits : ∀ d < 16,
      isHostChar (if d < 10 then Char.ofNat (48 + d) else Char.ofNat (87 + d)).toUpper = true := by
    decide
  intro c hc
  rcases List.mem_cons.1 hc with rfl | hc
  · rfl
  · obtain ⟨digit, hdigit, rfl⟩ := List.mem_map.1 hc
    obtain ⟨i, -, rfl⟩ := List.mem_map.1 (List.mem_reverse.1 hdigit)
    exact hdigits _ (Nat.mod_lt _ (by decide))

theorem isHostChar_of_mem_percent {cs : List Char} :
    ∀ c ∈ Url.percent Url.inHost cs, isHostChar c = true := by
  intro c hc
  obtain ⟨d, -, hd⟩ := List.mem_flatMap.1 hc
  split at hd
  · next hsafe =>
    rw [List.mem_singleton.1 hd]
    exact isHostChar_of_inHost hsafe
  · obtain ⟨b, -, hb⟩ := List.mem_flatMap.1 hd
    exact isHostChar_of_mem_percentByte b c hb

/-- A text with the spelling of an address is written as one. -/
theorem isLiteral_of_long? {cs : List Char} {bits : Nat} (hslash : '/' ∉ cs)
    (h : (Address.withoutScope? cs).bind Address.long? = some bits) :
    isLiteral (String.ofList cs) = true := by
  obtain ⟨long, hscope, hlong⟩ := Option.bind_eq_some_iff.1 h
  rw [isLiteral, Option.isSome_iff_exists]
  rcases hquad : Address.quad? cs with _ | quad
  · refine ⟨.v6 bits, Address.parse?_eq_some_iff.2 (.inr ?_)⟩
    rw [String.toList_ofList]
    exact ⟨hquad, hslash, long, bits, hscope, hlong, rfl⟩
  · refine ⟨.v4 quad, Address.parse?_eq_some_iff.2 (.inl ⟨quad, ?_, rfl⟩)⟩
    rw [String.toList_ofList, hquad]

/-- A host that travels is an address, or it is in ASCII without brackets and colons. -/
theorem isLiteral_or_isHostChar {text host : List Char} (h : Url.readHost text = .ok host) :
    isLiteral (String.ofList host) = true ∨ ∀ c ∈ host, isHostChar c = true := by
  unfold Url.readHost at h
  split at h
  · obtain rfl := Except.ok.inj h
    exact .inr nofun
  split at h
  · split at h
    · next bits hquad =>
      obtain rfl := Except.ok.inj h
      have hparse : Address.parse? (String.ofList text) = some (.v4 bits) := by
        refine Address.parse?_eq_some_iff.2 (.inl ⟨bits, ?_, rfl⟩)
        rw [String.toList_ofList, hquad]
      exact .inl (Option.isSome_iff_exists.2 ⟨_, hparse⟩)
    · cases h
  split at h
  · dsimp only at h
    split at h
    · cases h
    next hslash =>
    split at h
    · next bits hbits =>
      obtain rfl := Except.ok.inj h
      exact .inl (isLiteral_of_long? (by simpa using hslash) hbits)
    · cases h
  split at h
  · obtain rfl := Except.ok.inj h
    exact .inr fun c hc => isHostChar_of_mem_percent c hc
  · split at h
    · next sent hsent =>
      obtain rfl := Except.ok.inj h
      exact .inr fun c hc => DomainName.isHostChar_of_sent hsent c hc
    · cases h

/-- The host of an address that was read was read from a part of it. -/
theorem exists_readHost_of_parse {text : String} {url : Url} (h : Url.parse text = .ok url) :
    ∃ part, Url.readHost part = .ok url.host.toList := by
  unfold Url.parse at h
  simp only [throw, throwThe, MonadExceptOf.throw, bind, Except.bind] at h
  split at h
  · cases h
  split at h
  · cases h
  split at h
  · cases h
  next host hhost =>
  split at h
  · cases h
  split at h
  · cases h
  obtain rfl := Except.ok.inj h
  exact ⟨_, hhost.trans (congrArg _ String.toList_ofList.symm)⟩

/-! ## Names as they are looked up -/

/-- A text beyond ASCII is no address, unless a scope is in it. -/
theorem isLiteral_of_not_isBasic {text : String} (hscope : '%' ∉ text.toList)
    (h : ∃ c ∈ text.toList, DomainName.isBasic c = false) : isLiteral text = false := by
  rw [isLiteral, Option.isSome_eq_false_iff, Option.isNone_iff_eq_none,
    Option.eq_none_iff_forall_ne_some]
  intro address haddress
  rcases Address.spelling_or_scope haddress with hspelled | ⟨spelling, scope, hsplit, -⟩
  · obtain ⟨c, hc, hbasic⟩ := h
    have hlt := hspelled.isPlain c hc
    rw [DomainName.isBasic, decide_eq_false_iff_not] at hbasic
    exact hbasic hlt
  · exact hscope (hsplit ▸ List.mem_append_right _ List.mem_cons_self)

/-- A name that can be shown is looked up as it is shown, which is how it travels unless it
travels in an ASCII form. -/
theorem looked_of_shownHost {url : Url} {name : String}
    (hhost : ∀ c ∈ url.host.toList, isHostChar c = true) (hl : isLiteral url.host = false)
    (h : url.shownHost = .ok name) :
    withoutBrackets name = name ∧ isLiteral name = false
      ∧ (name = url.host ↔ ¬ DomainName.formMark <+: url.host.toList) := by
  unfold Url.shownHost at h
  rw [← List.isPrefixOf_iff_prefix]
  by_cases hmark : DomainName.formMark.isPrefixOf url.host.toList = true
  · rw [if_pos hmark] at h
    rcases hshown : DomainName.shown url.host.toList with fault | result
    · rw [hshown] at h
      cases h
    rw [hshown] at h
    obtain rfl := Except.ok.inj h
    have hdelimiter := DomainName.not_isDelimiter_of_shown hshown
    have hbeyond :=
      DomainName.exists_not_isBasic_of_shown hshown (List.isPrefixOf_iff_prefix.1 hmark)
    have hscope : '%' ∉ result := fun hc => absurd (hdelimiter _ hc) (by decide)
    rw [← String.toList_ofList (l := result)] at hdelimiter hbeyond hscope
    refine ⟨Address.withoutBrackets_of_not_isBracket fun c hc => ?_,
      isLiteral_of_not_isBasic hscope hbeyond, iff_of_false ?_ (not_not_intro hmark)⟩
    · have hc' := hdelimiter c hc
      simp only [isDelimiter, Bool.or_eq_false_iff] at hc'
      exact hc'.1.1
    · -- what travels is in ASCII
      intro hsame
      obtain ⟨c, hc, hbasic⟩ := hbeyond
      rw [hsame] at hc
      have hc' := hhost c hc
      rw [isHostChar, hbasic] at hc'
      cases hc'
  · rw [if_neg hmark] at h
    obtain rfl := Except.ok.inj h
    refine ⟨Address.withoutBrackets_of_not_isBracket fun c hc => ?_, hl, iff_of_true rfl hmark⟩
    have hc' := hhost c hc
    simp only [isHostChar, Bool.and_eq_true, Bool.not_eq_true'] at hc'
    exact hc'.1.2

/-! ## Headers that say where a request goes -/

theorem filter_put {name other value : String} (h : name ≠ other) (headers : Headers) :
    (Headers.put name value headers).filter (·.1 == other) = headers.filter (·.1 == other) := by
  have hname : (name == other) = false := by simpa using h
  induction headers with
  | nil => simp [Headers.put, hname]
  | cons header rest ih =>
    rw [Headers.put]
    split
    · next hsame =>
      have hrest : (rest.filter (·.1 ≠ name)).filter (·.1 == other)
          = rest.filter (·.1 == other) := by
        rw [List.filter_filter]
        refine List.filter_congr fun header _ => ?_
        rcases hother : header.1 == other with _ | _
        · rfl
        · simp [beq_iff_eq.1 hother, h.symm]
      rw [List.filter_cons_of_neg (by simp [hname]),
        List.filter_cons_of_neg (by simp [hsame, hname]), hrest]
    · rw [List.filter_cons, List.filter_cons, ih]

/-- A header that may be there is no header of another name. -/
theorem filter_optional {name other : String} (h : name ≠ other) (value : String) (p : Bool) :
    ((if p then [(name, value)] else []).filter (·.1 == other) = [])
      ∧ (if p then [] else [(name, value)]).filter (·.1 == other) = [] := by
  have hname : (name == other) = false := by simpa using h
  cases p
  · simp [hname]
  · simp [hname]

/-- A request is given headers that say where it goes, how long its content is and who sends it,
and no others. -/
theorem filter_wireHeaders_eq_append {name : String} (hl : "content-length" ≠ name)
    (ha : "authorization" ≠ name) (method : String) (url : Url) (given : Headers)
    (content : List UInt8) :
    (wireHeaders method url given content).filter (·.1 == name)
      = (if given.has "host" then [] else [("host", url.place)]).filter (·.1 == name)
        ++ given.filter (·.1 == name) := by
  have hheaders : ∀ (p q : Bool) (zero size : String),
      ((if given.has "host" then [] else [("host", url.place)])
          ++ (if p then [("content-length", zero)] else []) ++ given
          ++ (if q then [] else [("content-length", size)])).filter (·.1 == name)
        = (if given.has "host" then [] else [("host", url.place)]).filter (·.1 == name)
          ++ given.filter (·.1 == name) := by
    intro p q zero size
    rw [List.filter_append, List.filter_append, List.filter_append, (filter_optional hl zero p).1,
      (filter_optional hl size q).2, List.append_nil, List.append_nil]
  unfold wireHeaders
  dsimp only
  split
  · rw [filter_put ha]
    exact hheaders _ _ _ _
  · exact hheaders _ _ _ _

/-- A request says where it goes as it was told to, and otherwise as its address does. -/
theorem filter_wireHeaders (method : String) (url : Url) (given : Headers) (content : List UInt8) :
    (wireHeaders method url given content).filter (·.1 == "host")
      = if given.has "host" then given.filter (·.1 == "host") else [("host", url.place)] := by
  rw [filter_wireHeaders_eq_append (by decide) (by decide)]
  rcases hhas : given.has "host" with _ | _
  · have hnone : given.filter (·.1 == "host") = [] :=
      List.filter_eq_nil_iff.2 (by simpa [Headers.has] using hhas)
    rw [hnone]
    rfl
  · rfl

/-- A name and a port as they travel. -/
def placeOf (name : String) : Option Int → String
  | some port =>
    let shown := String.ofList (intText port)
    s!"{name}:{shown}"
  | none => name

theorem place_of_isHostChar {url : Url} (h : ∀ c ∈ url.host.toList, isHostChar c = true) :
    url.place = placeOf url.host url.port := by
  have hcolon : ¬ url.host.toList.contains ':' = true := by
    rw [List.contains_iff_mem]
    exact fun hc => absurd (h _ hc) (by decide)
  rw [Url.place, if_neg hcolon]
  rcases url.port with _ | port
  · rfl
  · rfl

namespace Client

variable {σ : Type} {client : Client} {network : Carrier σ} {request : Request} {state : σ}
  {url : Url} {wire : WireRequest}

/-- The headers of a request are those that it was given, as they travel, and a few more. -/
theorem headers_of_wire (h : Client.wire url request = .ok wire) :
    ∃ given, travellingHeaders (Entries.overlay defaultHeaders request.headers) = .ok given
      ∧ wire.headers = wireHeaders wire.method url given wire.content := by
  obtain ⟨given, content, hgiven, -, hwire⟩ := exists_of_wire h
  exact ⟨given, hgiven, by rw [hwire]⟩

/-- What is sent is the request as it travels. -/
theorem wire_of_mem_sent (h : wire ∈ (client.exchange network request state).sent) :
    Client.wire wire.url request = .ok wire := by
  have htransmit : ∀ url lookups state,
      wire ∈ (client.transmit network request url lookups state).sent →
        Client.wire wire.url request = .ok wire := by
    intro url lookups state hmem
    unfold transmit at hmem
    split at hmem
    · cases hmem
    · next sent hsent =>
      obtain rfl := List.mem_singleton.1 hmem
      rw [url_of_wire hsent, hsent]
  unfold exchange at h
  split at h
  · cases h
  · dsimp only at h
    split at h
    · split at h
      · cases h
      · exact htransmit _ _ _ h
    · exact htransmit _ _ _ h

/-- What was sent goes to the name that was looked up, as far as this is so. -/
structure GoesToLooked (request : Request) (exchange : Exchange σ) (wire : WireRequest) : Prop where
  /-- one name was looked up, for the port that is contacted: the host as people are shown it.
  It is the host that is contacted unless this starts with the mark of an ASCII form -/
  looked : ∃ name, exchange.lookups = [(name, port wire.url)] ∧ wire.url.shownHost = .ok name
    ∧ (name = wire.url.host ↔ ¬ DomainName.formMark <+: wire.url.host.toList)
  /-- the host that is contacted is in ASCII, without brackets and colons -/
  travels : ∀ c ∈ wire.url.host.toList, isHostChar c = true
  /-- the headers name the host that is contacted, with its port, unless those of the request
  say where it goes -/
  named : ∃ given, travellingHeaders (Entries.overlay defaultHeaders request.headers) = .ok given
    ∧ wire.headers.filter (·.1 == "host")
      = if given.has "host" then given.filter (·.1 == "host")
        else [("host", placeOf wire.url.host wire.url.port)]

/-- A client that keeps to public hosts contacts the name that it has looked up, but for names
in the ASCII form of one beyond ASCII: it looks up the latter, and contacts the former. -/
theorem goesToLooked_exchange (timeout : Binary64) (network : Carrier σ) (request : Request)
    (state : σ) :
    let exchange := (Client.mk true timeout).exchange network request state
    ∀ wire ∈ exchange.sent, isLiteral wire.url.host = false →
      GoesToLooked request exchange wire := by
  intro exchange wire hwire hl
  obtain ⟨name, hadmits, hlookups⟩ := admits_of_mem_sent rfl hwire
  have hhost : ∀ c ∈ wire.url.host.toList, isHostChar c = true := by
    obtain ⟨part, hpart⟩ := exists_readHost_of_parse hadmits.parsed
    rcases isLiteral_or_isHostChar hpart with hliteral | hhost
    · rw [String.ofList_toList, hl] at hliteral
      cases hliteral
    · exact hhost
  obtain ⟨hbare, hname, hsame⟩ := looked_of_shownHost hhost hl hadmits.shown
  rw [lookupsFor, hbare, if_neg (by simp [hname])] at hlookups
  obtain ⟨given, hgiven, hheaders⟩ := headers_of_wire (wire_of_mem_sent hwire)
  refine ⟨⟨name, hlookups, hadmits.shown, hsame⟩, hhost, given, hgiven, ?_⟩
  rw [hheaders, filter_wireHeaders, place_of_isHostChar hhost]

/-- The request to a name in ASCII. -/
def plainName : Request := ⟨"http://example.com/", "GET", [], none⟩

/-- The name is looked up and contacted. -/
theorem goesToLooked_exchange_plainName :
    let exchange := (Client.mk true (.ofNat 20)).exchange elsewhere plainName ()
    ∃ wire ∈ exchange.sent, wire.url.host = "example.com" ∧ isLiteral wire.url.host = false
      ∧ GoesToLooked plainName exchange wire := by
  have hhosts : ((Client.mk true (.ofNat 20)).exchange elsewhere plainName ()).sent.map
      (·.url.host) = ["example.com"] := rfl
  obtain ⟨wire, hwire, hhost⟩ := List.mem_map.1 (hhosts ▸ List.mem_cons_self)
  have hl : isLiteral wire.url.host = false := by
    rw [hhost]
    decide
  exact ⟨wire, hwire, hhost, hl,
    goesToLooked_exchange (.ofNat 20) elsewhere plainName () wire hwire hl⟩

/-- The request to a name beyond ASCII. -/
def sharpName : Request := ⟨"https://faß.de/", "GET", [], none⟩

/-- A name beyond ASCII is looked up, but it is its ASCII form that is contacted. -/
theorem looked_ne_contacted :
    let exchange := (Client.mk true (.ofNat 20)).exchange elsewhere sharpName ()
    ∃ wire ∈ exchange.sent, isLiteral wire.url.host = false
      ∧ wire.url.host = "xn--fa-hia.de" ∧ exchange.lookups = [("faß.de", 443)] := by
  have hboth : ((Client.mk true (.ofNat 20)).exchange elsewhere sharpName ()).sent.map
        (·.url.host) = ["xn--fa-hia.de"]
      ∧ ((Client.mk true (.ofNat 20)).exchange elsewhere sharpName ()).lookups
        = [("faß.de", 443)] := by decide +kernel
  obtain ⟨wire, hwire, hhost⟩ := List.mem_map.1 (hboth.1 ▸ List.mem_cons_self)
  refine ⟨wire, hwire, ?_, hhost, hboth.2⟩
  rw [hhost]
  decide

end Client

end FormAutomation.Network
