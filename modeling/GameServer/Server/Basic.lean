import GameServer.Dispatch
import GameServer.Login.Credentials
import GameServer.Settings.Basic
import GameServer.Table.Standard

/- A server is made of tables, handlers, settings and an authenticator. -/

namespace GameServer

/-- An authenticator decides or breaks down. -/
inductive Verdict where
  | decided (code : ResponseCode)
  | crashed
deriving DecidableEq

/-- A login is concluded with the byte of the code, and a breakdown has a code of its own. -/
def Verdict.outcome : Verdict → ResponseCode
  | .decided code => .ofValue code.value
  | .crashed => .couldNotComplete

/-- An authenticator decides at once, or later, or never. -/
abbrev Authenticator := AuthenticationRequest → Option Verdict

/-- All connections of a server share these parts. -/
structure Server where
  settings : Settings
  dispatcher : Dispatcher
  loginTable : Table
  gameTable : Table
  authenticator : Authenticator

namespace Server

/-- The kinds of message that the login writes. -/
def responses : List Message.Kind := [.handshakeResponse, .loginResponse]

/-- A server can start if its login table binds both responses. -/
def check (server : Server) : Except ProtocolError Unit :=
  server.loginTable.require responses

/-- A server with the tables of the client and without handlers. -/
def standard (authenticator : Authenticator) : Server :=
  ⟨.standard, .empty, .login, .game, authenticator⟩

theorem check_standard (authenticator : Authenticator) :
    (standard authenticator).check = .ok () := rfl

/-- The authenticator is not shown. -/
def diagnostic (server : Server) : String :=
  Diagnostic.partialRecord "ServerContext"
    [("login_table", Diagnostic.quoted server.loginTable.name),
      ("game_table", Diagnostic.quoted server.gameTable.name),
      ("dispatch", server.dispatcher.diagnostic),
      ("config", server.settings.diagnostic)]

end Server

end GameServer
