import GameServer.Player.Registry
import GameServer.Server.Basic
import GameServer.Session.Read

/- This file moves one connection from its first byte to its end. -/

namespace GameServer

/-- A login block that passed all rules waits for a verdict. -/
structure LoginAttempt where
  player : Player
  keys : SessionKeys
  verdict : Option Verdict
deriving DecidableEq

/-- A connection passes through these stages. Each holds the time at which its wait began. -/
inductive Stage where
  | handshake (since : Nat)
  | login (since : Nat)
  | authenticating (attempt : LoginAttempt) (since : Nat)
  | playing (player : Player) (since : Nat)
  /-- The player that was in the game is still in the registry. -/
  | leaving (result : Except SessionError Unit) (player : Player)
  | finished (result : Except SessionError Unit)

/-- A connection is a session at a stage. -/
structure Connection where
  session : Session
  stage : Stage

/-- What a connection does for others to see. -/
inductive Report where
  | called (call : HandlerCall)
  | asked (request : AuthenticationRequest)

/-- A connection moves with the registry at hand. -/
structure Connection.Move where
  connection : Connection
  registry : PlayerRegistry
  reports : List Report
  /-- Nothing more can be done for now. -/
  waits : Bool

/-- What a session hears within a limit of time. -/
inductive Session.Hearing where
  | message (message : Message)
  | ended
  | waiting
  | failed (error : SessionError)

namespace Session

/-- The clock is looked at only when there is nothing to hear. -/
def hear (session : Session) (since limit now : Nat) : Hearing × Session :=
  match session.read with
  | .ok (.message message) next => (.message message, next)
  | .ok .ended next => (.ended, next)
  | .ok .waiting next => (if since + limit ≤ now then .failed .timedOut else .waiting, next)
  | .error error next => (.failed error, next)

/-- Messages are queued in order until one cannot be encoded. -/
def queueAll : List Message → Action Unit
  | [] => fun session => .ok () session
  | message :: rest => (queue message).andThen (queueAll rest)

/-- All replies are queued before the first is written. -/
def sendAll (messages : List Message) : Action Unit := (queueAll messages).andThen flush

/-- Only the client of a refused login is told why, and it may not hear it. -/
def conclude (session : Session) (result : Except SessionError Unit) : Session :=
  match result with
  | .ok () => session.close
  | .error error =>
      match error.refusal? with
      | none => session.close
      | some code =>
          match send (.loginResponse (.refusal code)) session with
          | .ok () told => told.close
          | .error _ told => told.close

end Session

namespace Connection

/-- A new connection waits for its handshake. -/
def start (server : Server) (info : SessionInfo) (pipe : Pipe) (serverKey : UInt64) (now : Nat) :
    Connection :=
  ⟨Session.start info pipe (.plain server.loginTable server.settings.maxPayload) serverKey,
    .handshake now⟩

/-- A connection ends with a result before its player was in the game. -/
def finish (session : Session) (result : Except SessionError Unit) (registry : PlayerRegistry)
    (reports : List Report) : Move :=
  ⟨⟨session.conclude result, .finished result⟩, registry, reports, false⟩

/-- A connection ends, and its player will leave the game. -/
def leave (session : Session) (result : Except SessionError Unit) (player : Player)
    (registry : PlayerRegistry) (reports : List Report) : Move :=
  ⟨⟨session.conclude result, .leaving result player⟩, registry, reports, false⟩

/-- A connection waits and may have read part of a frame. -/
def wait (session : Session) (stage : Stage) (registry : PlayerRegistry) : Move :=
  ⟨⟨session, stage⟩, registry, [], true⟩

/-- A message is offered to its handler. -/
def offer (server : Server) (session : Session) (player : Option Player) (message : Message) :
    List Report × List Message :=
  let (call, context) := server.dispatcher.dispatch ⟨session.info, player, []⟩ message
  (call.toList.map .called, context.outbox)

/-- The handshake is offered to its handler and answered, and replies before the game are
dropped. -/
def awaitHandshake (server : Server) (now : Nat) (registry : PlayerRegistry) (session : Session)
    (since : Nat) : Move :=
  match session.hear since server.settings.handshakeLimit now with
  | (.failed error, next) => finish next (.error error) registry []
  | (.ended, next) => finish next (.ok ()) registry []
  | (.waiting, next) => wait next (.handshake since) registry
  | (.message message, next) =>
      let (reports, _) := offer server next none message
      match Session.respondToHandshake next with
      | .error error next => finish next (.error error) registry reports
      | .ok () next => ⟨⟨next, .login now⟩, registry, reports, false⟩

/-- A wait for a verdict is a wait for any of these. -/
inductive Branch where
  | verdict
  | deadline
  | bytes
deriving DecidableEq

/-- A login block that breaks no rule goes to the authenticator. A deadline that is there at once may
come before the authenticator begins, and then it is not asked. -/
def authenticate (server : Server) (now : Nat) (registry : PlayerRegistry) (session : Session)
    (block : LoginBlock) (keys : SessionKeys) (reports : List Report) (picks : List Branch) :
    Move :=
  match Session.beginAuthentication session with
  | .error error next => finish next (.error error) registry reports
  | .ok () next =>
      let credentials := Credentials.ofLogin block keys
      let request : AuthenticationRequest := ⟨next.info, credentials⟩
      let player : Player :=
        { userId := credentials.userId
          username := credentials.username
          privilege := 0
          reconnecting := credentials.reconnecting
          connection := next.info.connection }
      if server.settings.authenticationLimit = 0 ∧ picks.headD .deadline = .deadline then
        ⟨⟨next, .authenticating ⟨player, keys, none⟩ now⟩, registry, reports, false⟩
      else
        let attempt : LoginAttempt := ⟨player, keys, server.authenticator request⟩
        ⟨⟨next, .authenticating attempt now⟩, registry, reports ++ [.asked request], false⟩

/-- The message after the handshake must be a login block that breaks no rule. -/
def awaitLogin (server : Server) (now : Nat) (registry : PlayerRegistry) (session : Session)
    (since : Nat) (picks : List Branch) : Move :=
  match session.hear since server.settings.handshakeLimit now with
  | (.failed error, next) => finish next (.error error) registry []
  | (.ended, next) => finish next (.ok ()) registry []
  | (.waiting, next) => wait next (.login since) registry
  | (.message message, next) =>
      let (reports, _) := offer server next none message
      match message with
      | .login block =>
          match server.settings.loginPolicy.validate block next.serverKey with
          | .error code => finish next (.error (.rejected code)) registry reports
          | .ok keys => authenticate server now registry next block keys reports picks
      | other =>
          finish next (.error (.protocol (.unexpected other.kind .awaitingLogin))) registry reports

/-- A player enters the game only with a code of success and a place in the registry. -/
def concludeLogin (server : Server) (now : Nat) (registry : PlayerRegistry) (session : Session)
    (attempt : LoginAttempt) (code : ResponseCode) : Move :=
  let player := attempt.player
  if code.isSuccess then
    match registry.join player with
    | .error refusal => finish session (.error (.authenticationFailed refusal)) registry []
    | .ok joined =>
        let welcome := (Session.send (.loginResponse ⟨code, player.privilege, false⟩)).andThen
          (Session.enterGame server.gameTable (.server attempt.keys))
        match welcome session with
        | .error error next => leave next (.error error) player joined []
        | .ok () next => ⟨⟨next, .playing player now⟩, joined, [], false⟩
  else finish session (.error (.authenticationFailed code)) registry []

/-- An opcode and a length field stand in front of a payload. -/
def frameOverhead : Nat := 3

/-- Thirty years of 365 days, in seconds. -/
def thirtyYears : Nat := 30 * 365 * 86400

/-- The second at which the wait for a verdict ends. It is set once, and no timer is set for a time
that is more than thirty years away. A session that hears compares the time that has passed with its
limit, however long that is. -/
def verdictDue (since limit : Nat) : Nat :=
  if limit ≤ thirtyYears then since + limit else since + thirtyYears

theorem verdictDue_le (since limit : Nat) :
    since ≤ verdictDue since limit ∧ verdictDue since limit ≤ since + limit := by
  unfold verdictDue
  split <;> omega

/-- What comes of a branch that is ready. -/
inductive Outcome where
  | ends (moved : Move)
  | reads (next : Session)

/-- One branch of the wait for a verdict, if it is ready. Bytes are received only up to the size of
one frame. -/
def poll (server : Server) (now : Nat) (registry : PlayerRegistry) (session : Session)
    (attempt : LoginAttempt) (since : Nat) : Branch → Option Outcome
  | .verdict =>
      attempt.verdict.map fun verdict =>
        .ends (concludeLogin server now registry session attempt verdict.outcome)
  | .deadline =>
      if verdictDue since server.settings.authenticationLimit ≤ now then
        some (.ends (concludeLogin server now registry session attempt .loginServerOffline))
      else none
  | .bytes =>
      if server.settings.maxPayload + frameOverhead ≤ session.received.bytes.size then none
      else
        match session.buffer with
        | .error error next => some (.ends (finish next (.error error) registry []))
        | .ok .ended next => some (.ends (finish next (.ok ()) registry []))
        | .ok .waiting _ => none
        | .ok (.bytes _) next => some (.reads next)

/-- The first branch that is ready is taken, and the picked one before the others. -/
def select (server : Server) (now : Nat) (registry : PlayerRegistry) (session : Session)
    (attempt : LoginAttempt) (since : Nat) (pick : Branch) : Option Outcome :=
  [pick, .deadline, .verdict, .bytes].findSome? (poll server now registry session attempt since)

/-- The wait for a verdict takes any branch that is ready, and goes on behind bytes that it has
received. The picks say which branch is taken each time. -/
def awaitVerdict (server : Server) (now : Nat) (registry : PlayerRegistry) (session : Session)
    (attempt : LoginAttempt) (since : Nat) (picks : List Branch) : Move :=
  match select server now registry session attempt since (picks.headD .deadline) with
  | none => wait session (.authenticating attempt since) registry
  | some (.ends moved) => moved
  | some (.reads next) =>
      match picks with
      | [] => ⟨⟨next, .authenticating attempt since⟩, registry, [], false⟩
      | _ :: rest => awaitVerdict server now registry next attempt since rest

/-- Every message of the game is offered to its handler, and the replies are sent. -/
def play (server : Server) (now : Nat) (registry : PlayerRegistry) (session : Session)
    (player : Player) (since : Nat) : Move :=
  match session.hear since server.settings.idleLimit now with
  | (.failed error, next) => leave next (.error error) player registry []
  | (.ended, next) => leave next (.ok ()) player registry []
  | (.waiting, next) => wait next (.playing player since) registry
  | (.message message, next) =>
      let (reports, replies) := offer server next (some player) message
      match Session.sendAll replies next with
      | .error error next => leave next (.error error) player registry reports
      | .ok () next => ⟨⟨next, .playing player now⟩, registry, reports, false⟩

/-- One move of a connection. -/
def move (server : Server) (now : Nat) (registry : PlayerRegistry) (connection : Connection)
    (picks : List Branch) : Move :=
  let session := connection.session
  match connection.stage with
  | .handshake since => awaitHandshake server now registry session since
  | .login since => awaitLogin server now registry session since picks
  | .authenticating attempt since => awaitVerdict server now registry session attempt since picks
  | .playing player since => play server now registry session player since
  | .leaving result player =>
      ⟨⟨session, .finished result⟩, (registry.remove player.username player.connection).2, [], false⟩
  | .finished _ => ⟨connection, registry, [], true⟩

/-- The verdict on the attempt that waits for one. -/
def resolve (connection : Connection) (verdict : Verdict) : Connection :=
  match connection.stage with
  | .authenticating attempt since =>
      { connection with stage := .authenticating { attempt with verdict := some verdict } since }
  | _ => connection

/-- The result of a connection that has ended. -/
def result? (connection : Connection) : Option (Except SessionError Unit) :=
  match connection.stage with
  | .leaving result _ => some result
  | .finished result => some result
  | _ => none

end Connection

end GameServer
