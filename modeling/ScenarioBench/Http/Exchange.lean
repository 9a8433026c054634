import ScenarioBench.Bench.World
import ScenarioBench.Http.Encoding
import ScenarioBench.Http.Error

/-! Exchanging a request for an answer. -/

set_option autoImplicit false

namespace ScenarioBench.Http

def address (text : String) : Except Error Url :=
  match Url.read? text with
  | some url => .ok url
  | none => .error (.unusable (Url.foreign? text))

def reportsError (status : Nat) : Bool :=
  400 ≤ status && status < 600

/-- A request as it is sent to an address: a user in the address is told first, and what the request
is given follows all the same. -/
def authorized (url : Url) (request : Request) : Request :=
  match url.user with
  | some (name, password) =>
    { request with authorizations := basic name password :: request.authorizations }
  | none => request

/-- Send a request and wait for its answer. Nothing is sent with an authorization that cannot be
sent, and a status that reports an error is one. -/
def exchange (network : Network) (url : Url) (request : Request) : Act Error Response := fun world =>
  if request.authorizations.all isSendable then
    let sent := authorized url request
    let (reached, answer) := network world.requests url.authority sent
    -- The record is of what reached a server, which a refused connection did not.
    let after := if reached then { world with requests := world.requests ++ [sent] } else world
    (match answer with
      | none => .error (.noAnswer url.text)
      | some response =>
        if reportsError response.status then .error (.refused response.status url.text)
        else .ok response,
      after)
  else (.error (.unusable none), world)

section
variable (network : Network) (url : Url) (request : Request) (world : World)

@[simp] theorem exchange_commands : (exchange network url request world).2.commands = world.commands := by
  unfold exchange
  split
  · dsimp only
    split <;> rfl
  · rfl

/-- At most the one request reaches a server. -/
theorem exchange_requests : ∃ sent,
    (exchange network url request world).2.requests = world.requests ++ sent ∧
      sent.Sublist [authorized url request] := by
  unfold exchange
  split
  · dsimp only
    split
    · exact ⟨[authorized url request], rfl, .refl _⟩
    · exact ⟨[], (List.append_nil _).symm, List.nil_sublist _⟩
  · exact ⟨[], (List.append_nil _).symm, List.nil_sublist _⟩

end

end ScenarioBench.Http
