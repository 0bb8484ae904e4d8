import GameServer.Dispatch
import GameServer.Text.Blank

/- This file answers the commands that a player types in the game. -/

namespace GameServer

/-- Every command line has one line of answer. -/
def commandReply (player : Option Player) (line : String) : String :=
  match Text.words line with
  | [] => "Type ::help for commands"
  | "help" :: _ => "Commands: help, whoami, echo <text>"
  | "whoami" :: _ =>
      match player with
      | some player =>
          "You are " ++ player.username ++ " (id " ++ toString player.userId.toNat ++ ")"
      | none => "You are nobody"
  | "echo" :: rest => " ".intercalate rest
  | word :: _ => "Unknown command: " ++ word

/-- A handler that never replies. -/
def Handler.silent (label : String) : Handler := ⟨label, fun _ _ _ => []⟩

/-- A command is answered with a line of server text. -/
def Handler.command : Handler where
  label := "command"
  replies _ player message :=
    match message with
    | .command line => [.serverChat (commandReply player line)]
    | _ => []

/-- The handlers of the small server. -/
def Dispatcher.small : Dispatcher :=
  let steps := [(Message.Kind.ping, Handler.silent "ping"), (.chat, .silent "chat"),
    (.walk, .silent "walk"), (.command, .command)]
  steps.foldl (fun dispatcher step => (dispatcher.register step.1 step.2).2) .empty

end GameServer
