import GameServer.Accounts
import GameServer.Commands
import GameServer.Settings.Read
import GameServer.World

/- The small server serves one client on the standard streams. -/

namespace GameServer

/-- The account list of a small server decides at once. -/
def SmallServer.toServer (small : SmallServer) : Server :=
  let accounts := AccountList.ofPairs small.accounts
  { Server.standard fun request =>
      some (.decided (accounts.check request.credentials.username request.credentials.password))
    with settings := small.settings, dispatcher := .small }

/-- The only client has this number. -/
def Main.client : SessionInfo := ⟨1, none⟩

/-- The clock of a world is set to the seconds that have passed. -/
def Main.untilNow (world : World) : IO World := do
  let seconds := (← IO.monoMsNow) / 1000
  return { world with now := max world.now seconds }

/-- A key that is not zero. -/
def Main.serverKey : IO UInt64 := do
  return (← IO.rand 1 9223372036854775808).toUInt64

/-- What the server wrote after the given number of bytes goes out. -/
def Main.emit (output : IO.FS.Stream) (world : World) (sent : Nat) : IO Nat := do
  match world.find? client.connection with
  | none => return sent
  | some connection =>
      let written := connection.session.pipe.written
      output.write (written.drop sent).toList.toByteArray
      output.flush
      return written.size

/-- Whether the client is still served. -/
def Main.isServing (world : World) : Bool :=
  match world.find? client.connection with
  | none => false
  | some connection => connection.result?.isNone

/-- The bytes of the client are handed to the server as they come. -/
partial def Main.relay (input output : IO.FS.Stream) (world : World) (sent : Nat) : IO Unit := do
  let sent ← Main.emit output world sent
  if Main.isServing world then
    let bytes ← input.read 4096
    let event := if bytes.isEmpty then World.Event.finish client.connection
      else World.Event.deliver client.connection bytes.data.toList
    let (world, _) := (← Main.untilNow world).step event
    Main.relay input output world sent

/-- The settings of the small server, or its defaults without a file. -/
def Main.load (arguments : List String) : IO (Except SettingsError SmallServer) := do
  match arguments with
  | [] => return .ok .standard
  | path :: _ =>
      try
        let bytes ← IO.FS.readBinFile path
        return Settings.ofFile SmallServer.ofText (some bytes.data.toList)
      catch _ => return .error .missingFile

/-- The small server serves the client on the standard streams. -/
def Main.serve (server : Server) : IO UInt32 := do
  match server.check with
  | .error error =>
      (← IO.getStderr).putStrLn error.message
      return 1
  | .ok () =>
      let world ← Main.untilNow (World.start server)
      let (world, _) := world.step (.connect client (← Main.serverKey) [])
      Main.relay (← IO.getStdin) (← IO.getStdout) world 0
      return 0

end GameServer

/-- The small server begins with its settings. -/
def main (arguments : List String) : IO UInt32 := do
  match ← GameServer.Main.load arguments with
  | .ok small => GameServer.Main.serve small.toServer
  | .error error =>
      (← IO.getStderr).putStrLn (error.fileMessage?.getD "invalid config")
      return 1
