/- This file defines the status codes of a login. -/

namespace GameServer

/-- The client shows a different notice for each code. -/
inductive ResponseCode where
  | delay
  | ok
  | invalidCredentials
  | accountDisabled
  | accountOnline
  | gameUpdated
  | serverFull
  | loginServerOffline
  | tooManyConnections
  | badSessionId
  | loginServerRejectedSession
  | membersAccountRequired
  | couldNotComplete
  | updating
  | reconnectionOk
  | tooManyLogins
  | inMembersArea
  | invalidLoginServer
  | profileTransfer
  | other (value : UInt8)
deriving DecidableEq

namespace ResponseCode

/-- A code travels as this byte. -/
def value : ResponseCode → UInt8
  | .delay => 1
  | .ok => 2
  | .invalidCredentials => 3
  | .accountDisabled => 4
  | .accountOnline => 5
  | .gameUpdated => 6
  | .serverFull => 7
  | .loginServerOffline => 8
  | .tooManyConnections => 9
  | .badSessionId => 10
  | .loginServerRejectedSession => 11
  | .membersAccountRequired => 12
  | .couldNotComplete => 13
  | .updating => 14
  | .reconnectionOk => 15
  | .tooManyLogins => 16
  | .inMembersArea => 17
  | .invalidLoginServer => 20
  | .profileTransfer => 21
  | .other value => value

/-- A byte is read as the named code of that value, if there is one. -/
def ofValue (value : UInt8) : ResponseCode :=
  match value.toNat with
  | 1 => .delay
  | 2 => .ok
  | 3 => .invalidCredentials
  | 4 => .accountDisabled
  | 5 => .accountOnline
  | 6 => .gameUpdated
  | 7 => .serverFull
  | 8 => .loginServerOffline
  | 9 => .tooManyConnections
  | 10 => .badSessionId
  | 11 => .loginServerRejectedSession
  | 12 => .membersAccountRequired
  | 13 => .couldNotComplete
  | 14 => .updating
  | 15 => .reconnectionOk
  | 16 => .tooManyLogins
  | 17 => .inMembersArea
  | 20 => .invalidLoginServer
  | 21 => .profileTransfer
  | _ => .other value

/-- A code is canonical if it is the code that its own value is read as. -/
def Canonical (code : ResponseCode) : Prop := ofValue code.value = code

instance (code : ResponseCode) : Decidable code.Canonical :=
  inferInstanceAs (Decidable (_ = _))

/-- Two values admit the player, however the code is spelled. -/
def isSuccess (code : ResponseCode) : Bool :=
  code.value == 2 || code.value == 15

/-- The word for a named code. -/
def label? : ResponseCode → Option String
  | .delay => some "Delay"
  | .ok => some "Ok"
  | .invalidCredentials => some "InvalidCredentials"
  | .accountDisabled => some "AccountDisabled"
  | .accountOnline => some "AccountOnline"
  | .gameUpdated => some "GameUpdated"
  | .serverFull => some "ServerFull"
  | .loginServerOffline => some "LoginServerOffline"
  | .tooManyConnections => some "TooManyConnections"
  | .badSessionId => some "BadSessionId"
  | .loginServerRejectedSession => some "LoginServerRejectedSession"
  | .membersAccountRequired => some "MembersAccountRequired"
  | .couldNotComplete => some "CouldNotComplete"
  | .updating => some "Updating"
  | .reconnectionOk => some "ReconnectionOk"
  | .tooManyLogins => some "TooManyLogins"
  | .inMembersArea => some "InMembersArea"
  | .invalidLoginServer => some "InvalidLoginServer"
  | .profileTransfer => some "ProfileTransfer"
  | .other _ => none

/-- A named code is written with its value, and an unnamed one is its value. -/
def text (code : ResponseCode) : String :=
  match code.label? with
  | some label => label ++ "(" ++ toString code.value.toNat ++ ")"
  | none => toString code.value.toNat

theorem value_ofValue (value : UInt8) : (ofValue value).value = value := by
  unfold ofValue
  split
  case h_20 => rfl
  all_goals
    next same => exact UInt8.toNat_inj.mp same.symm

theorem canonical_ofValue (value : UInt8) : (ofValue value).Canonical := by
  rw [Canonical, value_ofValue]

theorem isSuccess_iff (code : ResponseCode) :
    code.isSuccess = true ↔ code.value = 2 ∨ code.value = 15 := by
  simp [isSuccess]

end ResponseCode

end GameServer
