import GameServer.Keystream
import GameServer.Message.Basic
import GameServer.Text.Diagnostic

/- This file checks the rules for a login block that need no authenticator. -/

namespace GameServer

/-- A policy fixes what a login block must look like. -/
structure LoginPolicy where
  clientVersion : UInt16
  /-- The block must repeat the server key. -/
  verifyServerKey : Bool
deriving DecidableEq

namespace LoginPolicy

/-- The policy of the current client. -/
def standard : LoginPolicy := ⟨317, true⟩

/-- Every login block begins with this byte. -/
def magic : UInt8 := 255

/-- An unencrypted block names this operation. -/
def operation : UInt8 := 10

/-- The keys of a block, if there are four. -/
def keys? (keys : List UInt32) : Option SessionKeys :=
  match keys with
  | [first, second, third, fourth] => some #v[first, second, third, fourth]
  | _ => none

/-- The last two keys together repeat the server key. -/
def echoedKey (keys : SessionKeys) : UInt64 :=
  Bytes.toUInt64 (keys.get 2) (keys.get 3)

/-- The first rule that is broken decides the code of the refusal. -/
def validate (policy : LoginPolicy) (block : LoginBlock) (serverKey : UInt64) :
    Except ResponseCode SessionKeys :=
  if block.magic ≠ magic then
    .error .loginServerRejectedSession
  else if block.clientVersion ≠ policy.clientVersion then
    .error .gameUpdated
  else if 1 < block.detail then
    .error .loginServerRejectedSession
  else if block.operation ≠ operation then
    .error .loginServerRejectedSession
  else
    match keys? block.sessionKeys with
    | none => .error .badSessionId
    | some keys =>
        if policy.verifyServerKey && echoedKey keys != serverKey then .error .badSessionId
        else .ok keys

theorem keys?_eq_some_iff (keys : List UInt32) (found : SessionKeys) :
    keys? keys = some found ↔ keys = found.toList := by
  constructor
  · intro same
    unfold keys? at same
    split at same
    · cases same
      rfl
    · cases same
  · intro same
    match found with
    | ⟨⟨[first, second, third, fourth]⟩, _⟩ =>
        subst same
        rfl

/-- A policy shows both of its rules. -/
def diagnostic (policy : LoginPolicy) : String :=
  Diagnostic.record "LoginPolicy"
    [("client_version", toString policy.clientVersion.toNat),
      ("verify_server_key", Diagnostic.bool policy.verifyServerKey)]

end LoginPolicy

end GameServer
