import ScenarioBench.Text.Octets

/-! Requests, answers and the servers that exchange them, as far as the launcher uses them. -/

set_option autoImplicit false

namespace ScenarioBench.Http

structure Part where
  headers : List String
  content : Octets
  deriving DecidableEq, Repr

inductive Method where
  | post
  | delete
  deriving DecidableEq, Repr

inductive Body where
  | none
  | form (fields : List (String × String))
  | multipart (parts : List Part)
  deriving DecidableEq, Repr

structure Request where
  method : Method
  target : String
  authorizations : List String
  body : Body
  verifyPeer : Bool
  deriving DecidableEq, Repr

structure Response where
  status : Nat
  content : Octets
  deriving DecidableEq, Repr

/-- The server at the end of every connection, given the requests that reached it before: its answer,
or `none` when the connection is not made or closed unanswered. The flag tells whether the request
reached the server. -/
abbrev Network := List Request → String → Request → Bool × Option Response

def unreachable : Network := fun _ _ _ => (false, none)

end ScenarioBench.Http
