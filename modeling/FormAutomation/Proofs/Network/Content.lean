import FormAutomation.Proofs.Network.CheckedName

/-!
# What a request carries

A request carries its body as UTF-8, unless it is one of those that carry nothing, and a
header says of what type this is.  JSON is usual, and a request may say otherwise.

The names of headers are compared without regard to letter case once they travel.  Before
that they are not: a type that is given under the usual spelling of the name takes the place
of the usual type, and one that is given under another spelling travels beside it.
-/

namespace FormAutomation

/-! ## Entries of a kind -/

namespace Entries

variable {α : Type*} {p : String → Bool}

theorem filter_put_of_pos {name : String} (h : p name = true) (entries : Entries α) (a : α) :
    (put entries name a).filter (p ·.1) = put (entries.filter (p ·.1)) name a := by
  induction entries with
  | nil => simp [put, h]
  | cons entry rest ih =>
    by_cases hname : entry.1 = name
    · simp [put, hname, h]
    · by_cases hentry : p entry.1 = true
      · simp [put, hname, hentry, ih]
      · simp [put, hname, hentry, ih]

theorem filter_put_of_neg {name : String} (h : p name = false) (entries : Entries α) (a : α) :
    (put entries name a).filter (p ·.1) = entries.filter (p ·.1) := by
  induction entries with
  | nil => simp [put, h]
  | cons entry rest ih =>
    by_cases hname : entry.1 = name
    · simp [put, hname, h]
    · simp [put, hname, List.filter_cons, ih]

/-- Among the entries of a kind only those of a patch matter that are of this kind. -/
theorem filter_overlay (base patch : Entries α) :
    (overlay base patch).filter (p ·.1)
      = overlay (base.filter (p ·.1)) (patch.filter (p ·.1)) := by
  induction patch generalizing base with
  | nil => rfl
  | cons entry rest ih =>
    have hstep : overlay base (entry :: rest) = overlay (put base entry.1 entry.2) rest := rfl
    rw [hstep, ih]
    rcases hentry : p entry.1 with _ | _
    · rw [filter_put_of_neg hentry, List.filter_cons_of_neg (by simp [hentry])]
    · rw [filter_put_of_pos hentry, List.filter_cons_of_pos (by simp [hentry])]
      rfl

end Entries

namespace Network

/-! ## Headers on their way -/

/-- Headers travel as they are, with their names in small letters. -/
theorem eq_map_of_travellingHeaders {headers : List (String × String)} {given : Headers}
    (h : travellingHeaders headers = .ok given) :
    given = headers.map fun header => (Headers.travelling header.1, header.2) := by
  induction headers generalizing given with
  | nil => exact (Except.ok.inj h).symm
  | cons header rest ih =>
    rw [travellingHeaders] at h
    rcases hname : checkHeaderText header.1 with fault | _
    · simp [hname, bind, Except.bind] at h
    rcases hvalue : checkHeaderText header.2 with fault | _
    · simp [hname, hvalue, bind, Except.bind] at h
    rcases hrest : travellingHeaders rest with fault | more
    · simp [hname, hvalue, hrest, bind, Except.bind] at h
    simp only [hname, hvalue, hrest, bind, Except.bind] at h
    rw [← Except.ok.inj h, ih hrest]
    rfl

/-- What a request says of other things it says as it was told to. -/
theorem filter_wireHeaders_of_other {name : String}
    (h : name ∉ ["host", "content-length", "authorization"]) (method : String) (url : Url)
    (given : Headers) (content : List UInt8) :
    (wireHeaders method url given content).filter (·.1 == name)
      = given.filter (·.1 == name) := by
  simp only [List.mem_cons, List.not_mem_nil, or_false, not_or] at h
  obtain ⟨hhost, hlength, hauthorization⟩ := h
  rw [filter_wireHeaders_eq_append (Ne.symm hlength) (Ne.symm hauthorization),
    (filter_optional (Ne.symm hhost) url.place (given.has "host")).2, List.nil_append]

/-! ## Types -/

/-- Whether a header of this name says of what type the content is. -/
def isContentType (name : String) : Bool :=
  Headers.travelling name == "content-type"

/-- The types that a request gives for its content, with the spellings of the name. -/
def typesGiven (request : Request) : Entries String :=
  request.headers.filter (isContentType ·.1)

/-- The types that are on the wire. -/
def WireRequest.types (wire : WireRequest) : List String :=
  (wire.headers.filter (·.1 == "content-type")).map (·.2)

/-- The type that is usual. -/
def usualType : String := "application/json"

/-- The request carries this content, and says so. -/
structure Carries (request : Request) (wire : WireRequest) : Prop where
  /-- the method is in capital letters -/
  method : wire.method = Text.upper request.method
  /-- a body travels as UTF-8 if anything does -/
  body : ∀ body, request.body = some body → wire.method ≠ "GET" →
    wire.content = Text.Utf8.encode body.toList
  /-- and there is no content otherwise -/
  empty : request.body = none ∨ wire.method = "GET" → wire.content = []
  /-- the usual type comes first, unless it is given under the usual spelling, and each other
  spelling has one of its own -/
  types : wire.types = (Entries.overlay Client.defaultHeaders (typesGiven request)).map (·.2)
  /-- where one is given at most, there is one on the wire, the given one if there is any,
  exactly if the name is in the usual spelling -/
  one : ∀ given : Option (String × String), typesGiven request = given.toList →
    (wire.types = [(given.map (·.2)).getD usualType] ↔ ∀ entry ∈ given, entry.1 = "Content-Type")
  /-- under another spelling it is beside the usual one -/
  two : ∀ name value, typesGiven request = [(name, value)] → name ≠ "Content-Type" →
    wire.types = [usualType, value]

namespace Client

variable {σ : Type} {request : Request} {wire : WireRequest} {url : Url}

theorem typesGiven_defaultHeaders :
    Client.defaultHeaders.filter (isContentType ·.1) = [("Content-Type", usualType)] := rfl

theorem types_of_wire (h : Client.wire url request = .ok wire) :
    wire.types = (Entries.overlay Client.defaultHeaders (typesGiven request)).map (·.2) := by
  obtain ⟨given, hgiven, hheaders⟩ := headers_of_wire h
  have hkept : wire.headers.filter (·.1 == "content-type")
      = ((Entries.overlay Client.defaultHeaders request.headers).filter (isContentType ·.1)).map
        fun header => (Headers.travelling header.1, header.2) := by
    rw [hheaders, filter_wireHeaders_of_other (by decide), eq_map_of_travellingHeaders hgiven,
      List.filter_map]
    rfl
  rw [WireRequest.types, hkept, Entries.filter_overlay, typesGiven_defaultHeaders, List.map_map]
  rfl

/-- One type that is given takes the place of the usual one, or stands beside it. -/
theorem types_of_one {name value : String} (h : Client.wire url request = .ok wire)
    (hg : typesGiven request = [(name, value)]) :
    wire.types = if name = "Content-Type" then [value] else [usualType, value] := by
  rw [types_of_wire h, hg]
  by_cases hname : name = "Content-Type"
  · rw [if_pos hname, hname]
    rfl
  · rw [if_neg hname]
    simp [Entries.overlay, Entries.put, defaultHeaders, usualType, Ne.symm hname]

theorem types_of_none (h : Client.wire url request = .ok wire) (hg : typesGiven request = []) :
    wire.types = [usualType] := by
  rw [types_of_wire h, hg]
  rfl

/-- A request that travels carries what it should, but for the types that it gives under other
spellings. -/
theorem carries_of_wire (h : Client.wire url request = .ok wire) : Carries request wire := by
  have htypes := types_of_wire h
  obtain ⟨given, content, -, hcontent, hwire⟩ := exists_of_wire h
  have hmethod : wire.method = Text.upper request.method := by rw [hwire]
  have hsent : wire.content = content := by rw [hwire]
  rw [← hsent, ← hmethod] at hcontent
  refine ⟨hmethod, ?_, ?_, htypes, ?_, ?_⟩
  · intro body hbody hget
    rw [hcontent, if_neg hget, hbody]
    rfl
  · rintro (hbody | hget)
    · rw [hcontent, hbody, Option.getD_none]
      exact ite_self _
    · rw [hcontent, if_pos hget]
  · intro given hg
    cases given with
    | none => exact iff_of_true (types_of_none h hg) nofun
    | some entry =>
      obtain ⟨name, value⟩ := entry
      have htypes := types_of_one h hg
      by_cases hname : name = "Content-Type"
      · rw [if_pos hname] at htypes
        refine iff_of_true htypes fun entry hentry => ?_
        rw [← Option.some.inj hentry]
        exact hname
      · rw [if_neg hname] at htypes
        refine iff_of_false ?_ fun hall => hname (hall _ rfl)
        rw [htypes]
        exact fun htwo => nomatch htwo
  · intro name value hg hname
    rw [types_of_one h hg, if_neg hname]

/-- Whatever is sent carries the body of its request as UTF-8, and it says of what type this
is: once, unless the request says so under another spelling of the name. -/
theorem carries_exchange (client : Client) (network : Carrier σ) (request : Request) (state : σ) :
    ∀ wire ∈ (client.exchange network request state).sent, Carries request wire :=
  fun _ hwire => carries_of_wire (wire_of_mem_sent hwire)

/-- A request that posts a text and says that it is one. -/
def posting (name : String) : Request :=
  ⟨"http://example.com/", "post", [("X-Key", "k"), (name, "text/plain")], some "naïve"⟩

/-- Under the usual spelling the type of a text is the only one, and the text travels. -/
theorem carries_exchange_posting :
    ∃ wire ∈ ((Client.mk true (.ofNat 20)).exchange elsewhere (posting "Content-Type") ()).sent,
      wire.method = "POST" ∧ wire.types = ["text/plain"]
        ∧ wire.content = [110, 97, 195, 175, 118, 101] := by
  have hmethods : ((Client.mk true (.ofNat 20)).exchange elsewhere (posting "Content-Type") ()).sent.map
      (·.method) = ["POST"] := by decide +kernel
  obtain ⟨wire, hwire, hmethod⟩ := List.mem_map.1 (hmethods ▸ List.mem_cons_self)
  have hcarries := carries_exchange (Client.mk true (.ofNat 20)) elsewhere (posting "Content-Type") ()
    wire hwire
  refine ⟨wire, hwire, hmethod, ?_, ?_⟩
  · exact (hcarries.one (some ("Content-Type", "text/plain")) (by decide)).2 (by simp)
  · rw [hcarries.body "naïve" rfl (by rw [hmethod]; decide)]
    decide

/-- Under another spelling there are two types on the wire, and the first is not the one that
the request gives. -/
theorem types_posting_ne_given :
    ∃ wire ∈ ((Client.mk true (.ofNat 20)).exchange elsewhere (posting "content-type") ()).sent,
      typesGiven (posting "content-type") = [("content-type", "text/plain")]
        ∧ wire.types = ["application/json", "text/plain"] := by
  have htypes : ((Client.mk true (.ofNat 20)).exchange elsewhere (posting "content-type") ()).sent.map
      (·.types) = [["application/json", "text/plain"]] := by decide +kernel
  obtain ⟨wire, hwire, hwire'⟩ := List.mem_map.1 (htypes ▸ List.mem_cons_self)
  exact ⟨wire, hwire, by decide, hwire'⟩

end Client

end Network

end FormAutomation
