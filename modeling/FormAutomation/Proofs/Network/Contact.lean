import FormAutomation.Proofs.Network.Gate
import FormAutomation.Proofs.Network.Reserved
import Mathlib.Data.List.TakeWhile

/-!
# Which addresses are contacted

A client that keeps to public hosts is to contact no address that is reserved, neither one
that its request names nor one that a name stands for.  It does not contact those that it
takes for private.  So there are two ways around: the addresses that it overlooks, and a
way of writing any address that it does not understand.  Brackets are taken off both ends
of a host, and an address may have a scope of nothing but brackets; without it, the text
is no address, and it is looked up as if it were a name.
-/

namespace FormAutomation.Network

/-! ## Addresses between brackets -/

/-- The text has a scope of nothing but brackets. -/
def HasBracketScope (text : String) : Prop :=
  ∃ address scope : List Char,
    text.toList = address ++ '%' :: scope ∧ ∀ c ∈ scope, isBracket c = true

namespace Address

theorem parse?_eq_some_iff {text : String} {address : Address} :
    parse? text = some address
      ↔ (∃ bits, quad? text.toList = some bits ∧ address = .v4 bits)
        ∨ quad? text.toList = none ∧ '/' ∉ text.toList
          ∧ ∃ long bits, withoutScope? text.toList = some long ∧ long? long = some bits
            ∧ address = .v6 bits := by
  unfold parse?
  dsimp only
  generalize text.toList = cs
  rcases quad? cs with _ | bits
  · by_cases hslash : '/' ∈ cs
    · simp [hslash]
    · have hlong : ((withoutScope? cs).bind long?).map v6 = some address
          ↔ ∃ long bits, withoutScope? cs = some long ∧ long? long = some bits
            ∧ address = v6 bits := by
        simp only [Option.map_eq_some_iff, Option.bind_eq_some_iff]
        constructor
        · rintro ⟨bits, ⟨long, hscope, hbits⟩, rfl⟩
          exact ⟨long, bits, hscope, hbits, rfl⟩
        · rintro ⟨long, bits, hscope, hbits, rfl⟩
          exact ⟨bits, ⟨long, hscope, hbits⟩, rfl⟩
      simpa [hslash] using hlong
  · simp [eq_comm]

/-- An address is spelled as it is, or up to a scope; of the scope any part that says
something will do. -/
theorem spelling_or_scope {text : String} {address : Address} (h : parse? text = some address) :
    IsSpelling text.toList
      ∨ ∃ spelling scope, text.toList = spelling ++ '%' :: scope ∧ IsSpelling spelling
        ∧ ∀ text' : String, ∀ part : List Char, text'.toList = spelling ++ '%' :: part →
          part ⊆ scope → part ≠ [] → parse? text' = some address := by
  rcases parse?_eq_some_iff.1 h with ⟨bits, hq, -⟩ | ⟨-, hslash, long, bits, hlong, hbits, rfl⟩
  · exact .inl (isSpelling_of_quad? hq)
  · obtain ⟨hmark, hsame | ⟨scope, hsplit, -, hscope⟩⟩ := withoutScope?_eq_some_iff.1 hlong
    · rw [hsame]
      exact .inl (isSpelling_of_long? hbits)
    · refine .inr ⟨long, scope, hsplit, isSpelling_of_long? hbits, ?_⟩
      intro text' part hpart hsub hne
      have hmem : ∀ c ∈ text'.toList, c ∈ text.toList := by
        intro c
        rw [hpart, hsplit, List.mem_append, List.mem_append, List.mem_cons, List.mem_cons]
        exact Or.imp_right (Or.imp_right fun hc => hsub hc)
      have hpercent : '%' ∈ text'.toList := by
        rw [hpart]
        exact List.mem_append_right _ List.mem_cons_self
      have hlong' : withoutScope? text'.toList = some long :=
        withoutScope?_eq_some_iff.2
          ⟨hmark, .inr ⟨part, hpart, hne, fun hc => hscope (hsub hc)⟩⟩
      exact parse?_eq_some_iff.2 (.inr ⟨quad?_of_percent hpercent,
        fun hc => hslash (hmem _ hc), long, bits, hlong', hbits, rfl⟩)

theorem isBracket_of_isSpelling {cs : List Char} (h : IsSpelling cs) :
    ∀ c ∈ cs, isBracket c = false := by
  intro c hc
  rw [Bool.eq_false_iff]
  intro hbracket
  rw [isBracket, Bool.or_eq_true, beq_iff_eq, beq_iff_eq] at hbracket
  rcases hbracket with rfl | rfl
  · exact h.not_mem (by decide) (by decide) rfl hc
  · exact h.not_mem (by decide) (by decide) rfl hc

/-! ## Brackets taken off -/

theorem dropWhile_of_all_not {p : Char → Bool} {cs : List Char} (h : ∀ c ∈ cs, p c = false) :
    cs.dropWhile p = cs := by
  cases cs with
  | nil => rfl
  | cons c cs => exact List.dropWhile_cons_of_neg (by simp [h c List.mem_cons_self])

theorem dropWhile_append_cons {p : Char → Bool} {c : Char} (h : p c = false) (cs rest : List Char) :
    (cs ++ c :: rest).dropWhile p = cs.dropWhile p ++ c :: rest := by
  induction cs with
  | nil => exact List.dropWhile_cons_of_neg (by simp [h])
  | cons d cs ih =>
    rcases hd : p d with _ | _
    · simp [hd]
    · simp [hd, ih]

theorem toList_withoutBrackets (text : String) :
    (withoutBrackets text).toList
      = ((text.toList.dropWhile isBracket).reverse.dropWhile isBracket).reverse :=
  String.toList_ofList

theorem withoutBrackets_of_not_isBracket {text : String}
    (h : ∀ c ∈ text.toList, isBracket c = false) : withoutBrackets text = text := by
  rw [← String.toList_inj, toList_withoutBrackets, dropWhile_of_all_not h,
    dropWhile_of_all_not fun c hc => h c (List.mem_reverse.1 hc), List.reverse_reverse]

/-- An address stays one if brackets are taken off, unless its scope goes with them. -/
theorem parse?_withoutBrackets {text : String} {address : Address}
    (h : parse? text = some address) (hb : ¬ HasBracketScope text) :
    parse? (withoutBrackets text) = some address := by
  rcases spelling_or_scope h with hspelled | ⟨spelling, scope, hsplit, hspelled, hpart⟩
  · rw [withoutBrackets_of_not_isBracket (isBracket_of_isSpelling hspelled)]
    exact h
  · have hpercent : isBracket '%' = false := rfl
    refine hpart _ (scope.reverse.dropWhile isBracket).reverse ?_ ?_ ?_
    · rw [toList_withoutBrackets, hsplit, dropWhile_append_cons hpercent,
        dropWhile_of_all_not (isBracket_of_isSpelling hspelled), List.reverse_append,
        List.reverse_cons, List.append_assoc, List.singleton_append,
        dropWhile_append_cons hpercent]
      simp
    · intro c hc
      exact List.mem_reverse.1 ((List.dropWhile_suffix _).subset (List.mem_reverse.1 hc))
    · -- something other than brackets is in the scope
      intro hnil
      refine hb ⟨spelling, scope, hsplit, fun c hc => ?_⟩
      rw [List.reverse_eq_nil_iff, List.dropWhile_eq_nil_iff] at hnil
      exact hnil c (List.mem_reverse.2 hc)

end Address

/-- An address is internal exactly if it is private. -/
theorem isInternal_of_parse? {text : String} {address : Address}
    (h : Address.parse? (withoutBrackets text) = some address) :
    isInternal text = address.isPrivate := by
  have hown : ∀ name ∈ ownNames, (Address.parse? name).all Address.isPrivate = true := by decide
  have hlower := Address.parse?_lower h
  rw [isInternal, hlower]
  dsimp only
  rcases hprivate : address.isPrivate with _ | _
  · -- the own names that are addresses are private
    rw [Bool.or_false, List.contains_eq_mem, decide_eq_false_iff_not]
    intro hmem
    have hall := hown _ hmem
    rw [hlower, Option.all_some, hprivate] at hall
    cases hall
  · exact Bool.or_true _

/-- No address begins like the ASCII form of a name beyond ASCII. -/
theorem not_formMark_prefix {text : String} {address : Address}
    (h : Address.parse? text = some address) : ¬ DomainName.formMark <+: text.toList := by
  have hmark : ∀ spelling : List Char, Address.IsSpelling spelling → 'x' ∉ spelling :=
    fun _ hspelled => hspelled.not_mem (by decide) (by decide) rfl
  rintro ⟨rest, hrest⟩
  rcases Address.spelling_or_scope h with hspelled | ⟨spelling, scope, hsplit, hspelled, -⟩
  · exact hmark _ hspelled (hrest ▸ List.mem_cons_self)
  · -- a scope comes after a percent sign, which is not how a name begins either
    rw [← hrest] at hsplit
    cases spelling with
    | nil => cases hsplit
    | cons c spelling =>
      obtain ⟨rfl, -⟩ := List.cons.inj hsplit
      exact hmark _ hspelled List.mem_cons_self

/-- The host of an address is shown as it is. -/
theorem shownHost_of_parse? {url : Url} {address : Address}
    (h : Address.parse? url.host = some address) : url.shownHost = .ok url.host := by
  rw [Url.shownHost, if_neg]
  rw [List.isPrefixOf_iff_prefix]
  exact not_formMark_prefix h

/-! ## What is contacted -/

/-- The text writes no reserved address, but for those that the client does not see. -/
def IsCleared (text : String) : Prop :=
  ∀ address, Address.parse? text = some address → address.isReserved = true →
    address.isOverlooked = true ∨ HasBracketScope text

theorem isCleared_of_isInternal {text : String} (h : isInternal text = false) :
    IsCleared text := by
  intro address haddress hreserved
  by_cases hb : HasBracketScope text
  · exact .inr hb
  · rw [isInternal_of_parse? (Address.parse?_withoutBrackets haddress hb)] at h
    exact .inl (Address.isOverlooked_iff.2 ⟨hreserved, h⟩)

namespace Client

variable {σ : Type} {client : Client} {network : Carrier σ} {request : Request} {state : σ}

/-- What is sent was admitted, after the lookups that its host needs. -/
theorem admits_of_mem_sent (hb : client.blockPrivate = true) {wire : WireRequest}
    (h : wire ∈ (client.exchange network request state).sent) :
    ∃ host, Admits network request state wire.url host
      ∧ (client.exchange network request state).lookups = lookupsFor wire.url host := by
  have hchecked := hostChecked hb request.url
  generalize hcheck : client.checkHost request.url = checked at hchecked
  cases hchecked with
  | unshown =>
    rw [exchange_of_error hcheck] at h
    cases h
  | failed =>
    rw [exchange_of_error hcheck] at h
    cases h
  | @passed url host houtside =>
    rcases hl : isLiteral (withoutBrackets host) with _ | _
    · rcases hr : network.resolve (withoutBrackets host) (port url) state with ⟨answer, state'⟩
      rcases hc : checkAddresses (withoutBrackets host) answer with fault | _
      · rw [exchange_of_internal hb hcheck hl hr hc] at h
        cases h
      · rw [exchange_of_outside hb hcheck hl hr hc] at h ⊢
        have hadmits : Admits network request state url host :=
          ⟨houtside, .inr (hr ▸ checkAddresses_eq_ok_iff.1 hc)⟩
        exact (isGuarded_transmit hadmits (by simp [lookupsFor, hl]) (by simp [hr])).admitted wire h
    · rw [exchange_of_literal hcheck hl] at h ⊢
      exact (isGuarded_transmit ⟨houtside, .inl hl⟩ (by simp [lookupsFor, hl]) rfl).admitted wire h

/-- What a client admits, it has not seen to be reserved. -/
theorem Admits.isCleared {url : Url} {host : String}
    (h : Admits network request state url host) : IsCleared url.host := by
  intro address haddress
  obtain rfl : host = url.host :=
    Except.ok.inj (h.shown.symm.trans (shownHost_of_parse? haddress))
  exact isCleared_of_isInternal h.outside address haddress

/-- Neither has it of anything that the host stands for. -/
theorem Admits.isCleared_of_lookup {url : Url} {host : String}
    (h : Admits network request state url host) {lookup : String × Int}
    (hmem : lookup ∈ lookupsFor url host) :
    ∃ addresses, (network.resolve lookup.1 lookup.2 state).1 = .ok addresses
      ∧ ∀ text ∈ addresses, IsCleared text := by
  rcases hl : isLiteral (withoutBrackets host) with _ | _
  · rw [lookupsFor, if_neg (by simp [hl])] at hmem
    obtain rfl := List.mem_singleton.1 hmem
    rcases h.resolved with hliteral | ⟨addresses, hresolve, houtside⟩
    · rw [hl] at hliteral
      cases hliteral
    · exact ⟨addresses, hresolve, fun text ht => isCleared_of_isInternal (houtside text ht)⟩
  · rw [lookupsFor, if_pos hl] at hmem
    cases hmem

/-- A text that lies outside passes the check. -/
theorem checkHost_of_liesOutside (hb : client.blockPrivate = true) {text : String} {url : Url}
    {host : String} (h : LiesOutside text url host) : client.checkHost text = .ok (url, host) := by
  have hchecked := hostChecked hb text
  generalize client.checkHost text = checked at hchecked
  cases hchecked with
  | passed h' =>
    obtain ⟨rfl, rfl⟩ := h.unique h'
    rfl
  | unshown hp hw hs =>
    obtain rfl := Except.ok.inj (h.parsed.symm.trans hp)
    rw [h.shown] at hs
    cases hs
  | failed hf hn => exact absurd h (hn url host)

/-- A request to an address that is overlooked is sent, if it can travel. -/
theorem sent_of_isOverlooked (hb : client.blockPrivate = true) {url : Url} {address : Address}
    {wire : WireRequest} (hp : Url.parse request.url = .ok url) (hw : isWeb url = true)
    (ha : Address.parse? url.host = some address) (ho : address.isOverlooked = true)
    (hs : ¬ HasBracketScope url.host) (ht : Client.wire url request = .ok wire) :
    (client.exchange network request state).sent = [wire] := by
  have hbare := Address.parse?_withoutBrackets ha hs
  have hnamed : url.host ≠ "" := by
    intro hempty
    rw [hempty] at ha
    cases ha
  have hinternal : isInternal url.host = false := by
    rw [isInternal_of_parse? hbare]
    exact (Address.isOverlooked_iff.1 ho).2
  have houtside : LiesOutside request.url url url.host :=
    ⟨hp, hw, shownHost_of_parse? ha, hnamed, hinternal⟩
  have hliteral : isLiteral (withoutBrackets url.host) = true := by
    rw [isLiteral, hbare]
    rfl
  have hadmits : Admits network request state url url.host := ⟨houtside, .inl hliteral⟩
  rw [exchange_of_literal (checkHost_of_liesOutside hb houtside) hliteral]
  exact (isGuarded_transmit hadmits (by simp [lookupsFor, hliteral]) rfl).sends _ _ _ hadmits ht

/-- A client that keeps to public hosts contacts no reserved address, but for those that
are overlooked and those whose scope is nothing but brackets; and it does contact those
that are overlooked. -/
theorem clears_exchange (timeout : Binary64) (network : Carrier σ) (request : Request)
    (state : σ) :
    let exchange := (Client.mk true timeout).exchange network request state
    (∀ wire ∈ exchange.sent, IsCleared wire.url.host
        ∧ ∀ lookup ∈ exchange.lookups, ∃ addresses,
          (network.resolve lookup.1 lookup.2 state).1 = .ok addresses
            ∧ ∀ text ∈ addresses, IsCleared text)
      ∧ ∀ url address wire, Url.parse request.url = .ok url → isWeb url = true →
        Address.parse? url.host = some address → address.isOverlooked = true →
          ¬ HasBracketScope url.host → Client.wire url request = .ok wire →
            exchange.sent = [wire] := by
  intro exchange
  constructor
  · intro wire hwire
    obtain ⟨host, hadmits, hlookups⟩ := admits_of_mem_sent rfl hwire
    refine ⟨hadmits.isCleared, fun lookup hlookup => ?_⟩
    rw [hlookups] at hlookup
    exact hadmits.isCleared_of_lookup hlookup
  · intro url address wire hp hw ha ho hs ht
    exact sent_of_isOverlooked rfl hp hw ha ho hs ht

/-- The request to an address that providers share among their customers. -/
def sharedSpace : Request := ⟨"http://100.64.0.1/", "GET", [], none⟩

/-- The address is overlooked, so the request is sent. -/
theorem clears_exchange_sharedSpace :
    ∃ wire, ((Client.mk true (.ofNat 20)).exchange nowhere sharedSpace ()).sent = [wire]
      ∧ IsCleared wire.url.host := by
  have hparse : Url.parse sharedSpace.url
      = .ok ⟨"http", "", "100.64.0.1", none, "/", none, none⟩ := rfl
  have haddress : Address.parse? "100.64.0.1" = some (.v4 (Address.ofQuad 100 64 0 1)) := rfl
  have hscope : ¬ HasBracketScope "100.64.0.1" := by
    rintro ⟨address, scope, hsplit, -⟩
    have hmem : '%' ∈ "100.64.0.1".toList := hsplit ▸ List.mem_append_right _ List.mem_cons_self
    exact absurd hmem (by decide)
  obtain ⟨wire, hwire⟩ : ∃ wire, Client.wire ⟨"http", "", "100.64.0.1", none, "/", none, none⟩
      sharedSpace = .ok wire := ⟨_, rfl⟩
  obtain ⟨hcleared, hsent⟩ := clears_exchange (.ofNat 20) nowhere sharedSpace ()
  have hone := hsent _ _ wire hparse (by decide) haddress (by decide) hscope hwire
  exact ⟨wire, hone, (hcleared wire (hone ▸ List.mem_cons_self)).1⟩

/-- A network in which every host has one address, which is public. -/
def elsewhere : Carrier Unit where
  resolve _ _ state := (.ok ["93.184.216.34"], state)
  send _ _ state := (.error (.failed "no answer"), state)

/-- An address that is reserved is contacted because it is overlooked, and the address of
the own machine because of its scope. -/
theorem reserved_contacted :
    (∃ wire ∈ ((Client.mk true (.ofNat 20)).exchange nowhere sharedSpace ()).sent,
      ∃ address, Address.parse? wire.url.host = some address ∧ address.isReserved = true)
      ∧ ∃ wire ∈ ((Client.mk true (.ofNat 20)).exchange elsewhere
          ⟨"http://[::1%]]/", "GET", [], none⟩ ()).sent,
        ∃ address, Address.parse? wire.url.host = some address ∧ address.isReserved = true
          ∧ address.isPrivate = true := by
  have hshared : ((Client.mk true (.ofNat 20)).exchange nowhere sharedSpace ()).sent.map
      (·.url.host) = ["100.64.0.1"] := rfl
  have hscope : ((Client.mk true (.ofNat 20)).exchange elsewhere
      ⟨"http://[::1%]]/", "GET", [], none⟩ ()).sent.map (·.url.host) = ["::1%]"] := rfl
  obtain ⟨wire, hwire, hhost⟩ := List.mem_map.1 (hshared ▸ List.mem_cons_self)
  obtain ⟨wire', hwire', hhost'⟩ := List.mem_map.1 (hscope ▸ List.mem_cons_self)
  refine ⟨⟨wire, hwire, .v4 (Address.ofQuad 100 64 0 1), ?_, by decide⟩,
    ⟨wire', hwire', .v6 1, ?_, by decide, by decide⟩⟩
  · rw [hhost]
    rfl
  · rw [hhost']
    rfl

end Client

end FormAutomation.Network
