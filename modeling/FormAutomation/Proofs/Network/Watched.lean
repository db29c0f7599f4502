import FormAutomation.Network.Strain
import FormAutomation.Proofs.Run.Simulation

/-!
# Watching a network

A carrier that is watched carries as before: an exchange has the same answer, looks up the same
hosts and sends the same requests, and the network is left in the same state.  What is kept
besides is the first strain among the responses.

So a run over a watched network is the run over the network itself, and nothing is lost by
asking afterwards whether there was a strain in it.
-/

namespace FormAutomation.Network

variable {σ : Type} {client : Client} {network : Carrier σ} {request : Request} {state : σ}

/-- What a watched exchange has in common with the exchange itself. -/
structure Client.Exchange.IsWatched (watched : Client.Exchange (Option Strain × σ))
    (plain : Client.Exchange σ) : Prop where
  /-- the answer -/
  response : watched.response = plain.response
  /-- the hosts that were looked up -/
  lookups : watched.lookups = plain.lookups
  /-- the requests that were sent -/
  sent : watched.sent = plain.sent
  /-- what is left behind of the network -/
  state : watched.state.2 = plain.state

namespace Client

theorem isWatched_transmit (client : Client) (network : Carrier σ) (request : Request) (url : Url)
    (lookups : List (String × Int)) (strain? : Option Strain) (state : σ) :
    (client.transmit network.watched request url lookups (strain?, state)).IsWatched
      (client.transmit network request url lookups state) := by
  unfold transmit
  rcases wire url request with fault | sent
  · exact ⟨rfl, rfl, rfl, rfl⟩
  · exact ⟨rfl, rfl, rfl, rfl⟩

/-- An exchange is not disturbed by being watched. -/
theorem isWatched_exchange (client : Client) (network : Carrier σ) (request : Request)
    (strain? : Option Strain) (state : σ) :
    (client.exchange network.watched request (strain?, state)).IsWatched
      (client.exchange network request state) := by
  unfold exchange
  rcases client.checkHost request.url with fault | ⟨url, host⟩
  · exact ⟨rfl, rfl, rfl, rfl⟩
  · dsimp only
    split
    · rcases hr : network.resolve (withoutBrackets host) (port url) state with ⟨answer, state'⟩
      simp only [Carrier.watched, hr]
      rcases checkAddresses (withoutBrackets host) answer with fault | _
      · exact ⟨rfl, rfl, rfl, rfl⟩
      · exact isWatched_transmit ..
    · exact isWatched_transmit ..

/-- A client that is watched answers like one that is not. -/
theorem answersLike_watched (client : Client) (network : Carrier σ) :
    (client.caller network.watched).AnswersLike (fun state => (state.1, state.2.2))
      (client.caller network) where
  call request context state := by
    have h := isWatched_exchange client network request state.2.1 state.2.2
    simp only [caller, Exchange.isAsked, h.response, h.lookups, h.sent, h.state]
    rfl

end Client

end FormAutomation.Network
