import WebClient.Endpoint.Query
import WebClient.Gateway.Exchange
import WebClient.Reply.Payload

/-!
# Auth — login, registration and identity
-/

namespace WebClient
namespace Endpoint
namespace Auth

def login (username password : String) : Call :=
  .post "/auth/login"
    (object [("username", .string username), ("password", .string password)])

def register (username email password : String) : Call :=
  .post "/auth/register"
    (object [("username", .string username), ("email", .string email),
      ("password", .string password)])

/-- Asks who the token belongs to.  A refusal shows no message of its own. -/
def currentUser : Call := (Call.get "/auth/user").silent

def logout : Call := (Call.bare .post "/logout").silent

end Auth
end Endpoint

namespace Reply

/-- The identity in an answer about the current user. -/
def identity (reply : Reply) : Except Failure IdentityPayload :=
  reply.decodeData IdentityPayload.decode

end Reply
end WebClient
