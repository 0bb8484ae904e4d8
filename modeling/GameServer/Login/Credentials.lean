import GameServer.Login.Policy
import GameServer.Session.Info

/- This file makes a request of what a client claims in its login block. -/

namespace GameServer

/-- The claims of a login block together with its validated keys. -/
structure Credentials where
  userId : UInt32
  username : String
  password : String
  sessionKeys : SessionKeys
  reconnecting : Bool
deriving DecidableEq

/-- The claims of a block. -/
def Credentials.ofLogin (block : LoginBlock) (sessionKeys : SessionKeys) : Credentials where
  userId := block.userId
  username := block.username
  password := block.password
  sessionKeys := sessionKeys
  reconnecting := block.reconnecting

/-- An authenticator decides about the claims of one session. -/
structure AuthenticationRequest where
  session : SessionInfo
  credentials : Credentials
deriving DecidableEq

/-- Neither the password nor the keys are shown. -/
def Credentials.diagnostic (credentials : Credentials) : String :=
  Diagnostic.partialRecord "Credentials"
    [("user_id", toString credentials.userId.toNat),
      ("username", Diagnostic.quoted credentials.username),
      ("password", Diagnostic.redacted),
      ("reconnecting", Diagnostic.bool credentials.reconnecting)]

/-- A request shows its session and its claims. -/
def AuthenticationRequest.diagnostic (request : AuthenticationRequest) : String :=
  Diagnostic.record "AuthenticationRequest"
    [("session", request.session.diagnostic), ("credentials", request.credentials.diagnostic)]

theorem Credentials.diagnostic_secrets (credentials : Credentials) (password : String)
    (sessionKeys : SessionKeys) :
    { credentials with password, sessionKeys }.diagnostic = credentials.diagnostic := rfl

end GameServer
