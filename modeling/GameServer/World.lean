import GameServer.Connection.Progress

/- This file runs a server with its clock, its players and all of its connections. -/

namespace GameServer

/-- Time passes in whole seconds. -/
structure World where
  server : Server
  now : Nat
  registry : PlayerRegistry
  connections : List Connection

/-- What happens to a server from outside. -/
inductive World.Event where
  | connect (info : SessionInfo) (serverKey : UInt64) (sent : Bytes)
  | deliver (connection : ConnectionId) (bytes : Bytes)
  | finish (connection : ConnectionId)
  | disturb (connection : ConnectionId) (call : Pipe.Call)
  | resolve (connection : ConnectionId) (verdict : Verdict)
  | advance (seconds : Nat)

namespace World

/-- Nobody is connected yet. -/
def start (server : Server) : World :=
  ⟨server, 0, .empty server.settings.maxPlayers, []⟩

/-- The number of a connection. -/
def numberOf (connection : Connection) : ConnectionId := connection.session.info.connection

/-- The connection of that number. -/
def find? (world : World) (number : ConnectionId) : Option Connection :=
  world.connections.find? fun connection => numberOf connection == number

/-- One connection is changed and the others stay. -/
def update (world : World) (number : ConnectionId) (change : Connection → Connection) : World :=
  { world with
    connections := world.connections.map fun connection =>
      if numberOf connection = number then change connection else connection }

/-- The pipe of one connection is changed. -/
def updatePipe (world : World) (number : ConnectionId) (change : Pipe → Pipe) : World :=
  world.update number fun connection =>
    { connection with
      session := { connection.session with pipe := change connection.session.pipe } }

/-- A connection takes the place of an earlier one of the same number. -/
def connect (world : World) (info : SessionInfo) (serverKey : UInt64) (sent : Bytes) : World :=
  let fresh := Connection.start world.server info (Pipe.fresh.deliver sent) serverKey world.now
  { world with
    connections :=
      world.connections.filter (fun other => numberOf other != info.connection) ++ [fresh] }

/-- An event happens, and the connections have not moved yet. -/
def apply (world : World) : Event → World
  | .connect info serverKey sent => world.connect info serverKey sent
  | .deliver number bytes => world.updatePipe number (·.deliver bytes)
  | .finish number => world.updatePipe number (·.finish)
  | .disturb number call => world.updatePipe number (·.disturb call)
  | .resolve number verdict => world.update number (·.resolve verdict)
  | .advance seconds => { world with now := world.now + seconds }

/-- The connections run one after the other with one registry. -/
def runAll (server : Server) (now : Nat) (registry : PlayerRegistry) :
    List Connection → List Connection × PlayerRegistry × List Report
  | [] => ([], registry, [])
  | connection :: rest =>
      let (settled, after, reports) := connection.run server now registry
      let (others, last, later) := runAll server now after rest
      (settled :: others, last, reports ++ later)

/-- Every connection runs until it waits. -/
def settle (world : World) : World × List Report :=
  let (connections, registry, reports) :=
    runAll world.server world.now world.registry world.connections
  ({ world with connections, registry }, reports)

/-- An event happens, and the server runs until it only waits. -/
def step (world : World) (event : Event) : World × List Report :=
  (world.apply event).settle

theorem find?_connect (world : World) (info : SessionInfo) (serverKey : UInt64) (sent : Bytes) :
    (world.connect info serverKey sent).find? info.connection =
      some (Connection.start world.server info (Pipe.fresh.deliver sent) serverKey world.now) := by
  have gone : (world.connections.filter fun other => numberOf other != info.connection).find?
      (fun other => numberOf other == info.connection) = none := by
    rw [List.find?_eq_none]
    intro other member
    simpa using (List.mem_filter.mp member).2
  simp only [find?, connect, List.find?_append, gone, Option.none_or]
  simp [numberOf, Connection.start, Session.start]

end World

end GameServer
