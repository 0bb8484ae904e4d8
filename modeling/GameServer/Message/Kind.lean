/- This file lists the kinds of message that a client and a server exchange. -/

namespace GameServer

/-- A message has one of nine kinds, whichever opcode carries it. -/
inductive Message.Kind where
  | handshake
  | login
  | ping
  | chat
  | walk
  | command
  | handshakeResponse
  | loginResponse
  | serverChat
deriving DecidableEq

namespace Message.Kind

/-- Errors name a kind by this word. -/
def name : Kind → String
  | .handshake => "handshake"
  | .login => "login"
  | .ping => "ping"
  | .chat => "chat"
  | .walk => "walk"
  | .command => "command"
  | .handshakeResponse => "handshake-response"
  | .loginResponse => "login-response"
  | .serverChat => "server-chat"

/-- All kinds stand in the order of the login and of the game. -/
def all : List Kind :=
  [.handshake, .login, .ping, .chat, .walk, .command, .handshakeResponse, .loginResponse,
    .serverChat]

/-- The rank is the place of a kind among all kinds. -/
def rank : Kind → Nat
  | .handshake => 0
  | .login => 1
  | .ping => 2
  | .chat => 3
  | .walk => 4
  | .command => 5
  | .handshakeResponse => 6
  | .loginResponse => 7
  | .serverChat => 8

theorem getElem?_rank (kind : Kind) : all[kind.rank]? = some kind := by
  cases kind <;> rfl

theorem mem_all (kind : Kind) : kind ∈ all :=
  List.mem_of_getElem? (getElem?_rank kind)

/-- Kinds are listed by rank, and equal kinds keep their order. -/
def sort (kinds : List Kind) : List Kind :=
  kinds.mergeSort fun left right => left.rank ≤ right.rank

end Message.Kind

end GameServer
