import GameServer.Payload.GameStage
import GameServer.Table.Basic

/- This file lists the opcode tables of the game client. -/

namespace GameServer.Table

/-- The opcodes before the login: the handshake and the two logins. -/
def loginInbound : List Reads :=
  [⟨14, .fixed 1, .handshake⟩, ⟨16, .declared .short, .login⟩,
    ⟨reconnectOpcode, .declared .short, .login⟩]

/-- The client reads both responses by their size. -/
def loginOutbound : List Writes :=
  [⟨.headless, .handshakeResponse⟩, ⟨.headless, .loginResponse⟩]

/-- This table is active until the player is in the game. -/
def login : Table := .of "login" loginInbound loginOutbound

/-- The opcodes in the game: pings, chat, commands and the four kinds of walk. -/
def gameInbound : List Reads :=
  [⟨0, .fixed 0, .ping⟩, ⟨4, .declared .byte, .chat⟩, ⟨103, .declared .byte, .command⟩,
    ⟨81, .declared .byte, .walk⟩, ⟨minimapOpcode, .declared .byte, .walk⟩,
    ⟨164, .declared .byte, .walk⟩, ⟨98, .declared .byte, .walk⟩]

/-- The server writes lines of text. -/
def gameOutbound : List Writes :=
  [⟨.framed 253 (.declared .byte), .serverChat⟩]

/-- This table is active in the game. -/
def game : Table := .of "game" gameInbound gameOutbound

theorem build_login : build "login" loginInbound loginOutbound = .ok login := rfl

theorem build_game : build "game" gameInbound gameOutbound = .ok game := rfl

end GameServer.Table
