/- This file lists the phases of a session in their order. -/

namespace GameServer

/-- A session passes through the login into the game and ends closed. -/
inductive Phase where
  /-- Only a handshake is accepted. -/
  | awaitingHandshake
  /-- The handshake was answered, and only a login block is accepted. -/
  | awaitingLogin
  /-- The login block is being checked, and nothing is decoded. -/
  | authenticating
  /-- The player is in the game. -/
  | inGame
  /-- Nothing more is sent or received. -/
  | closed
deriving DecidableEq

namespace Phase

/-- Errors say in these words what a phase accepts. -/
def expectation : Phase → String
  | .awaitingHandshake => "a handshake"
  | .awaitingLogin => "a login block"
  | .authenticating => "nothing while authenticating"
  | .inGame => "a game message"
  | .closed => "nothing on a closed session"

/-- The place of a phase on the way of a session. -/
def rank : Phase → Nat
  | .awaitingHandshake => 0
  | .awaitingLogin => 1
  | .authenticating => 2
  | .inGame => 3
  | .closed => 4

end Phase

end GameServer
