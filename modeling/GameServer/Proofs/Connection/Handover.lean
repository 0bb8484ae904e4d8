import GameServer.Proofs.Connection.Waiting
import GameServer.Proofs.Framer.RoundTrip
import GameServer.Proofs.Session.Receipts

/- This file shows that no byte is lost between the framer of the login and that of the game. -/

namespace GameServer

namespace Framer

/-- A plain framer stays as it is when it writes. -/
theorem encode_plain {table : Table} {limit : Nat} {message : Message} {middle : Framer}
    {front : Bytes}
    (encoded : encode message (plain table limit, []) = .ok () (middle, front)) :
    middle = plain table limit := by
  cases (Attempt.ofMessage message).tries (plain table limit) with
  | refused error unfit fails =>
      have refused : encode message (plain table limit, []) = .error error _ := fails []
      rw [refused] at encoded
      cases encoded
  | accepted draft bytes drafted fits writes =>
      have accepted : encode message (plain table limit, []) = .ok () (plain table limit, bytes) :=
        writes []
      rw [accepted] at encoded
      cases encoded
      rfl

theorem encodeAll_plain {table : Table} {limit : Nat} {messages : List Message} {next : Framer}
    {bytes : Bytes} (encoded : (plain table limit).encodeAll messages = .ok (next, bytes)) :
    next = plain table limit := by
  induction messages generalizing bytes with
  | nil =>
      cases encoded
      rfl
  | cons message rest ih =>
      obtain ⟨middle, front, more, first, others, _⟩ := encodeAll_cons_ok encoded
      rw [encode_plain first] at others
      exact ih others

/-- Draining goes on without more bytes. -/
theorem Drains.goesOn {framer next last : Framer} {source middle left : Bytes}
    {results later : List (Except ProtocolError Message)}
    (one : framer.Drains source results next middle) (two : next.Drains middle later last left) :
    framer.Drains source (results ++ later) last left := by
  rw [← List.append_nil middle] at two
  rw [← List.append_nil source]
  exact one.trans two

/-- Writing has no part in draining, however many messages are written. -/
theorem drains_encodeAll {framer next : Framer} {messages : List Message} {bytes : Bytes}
    (source : Bytes) (encoded : framer.encodeAll messages = .ok (next, bytes)) :
    framer.Drains source [] next source := by
  induction messages generalizing framer bytes with
  | nil =>
      cases encoded
      exact .refl _ source
  | cons message rest ih =>
      obtain ⟨middle, front, more, first, others, _⟩ := encodeAll_cons_ok encoded
      exact (drains_encode source first).goesOn (ih others)

end Framer

namespace Session

variable {session next : Session} {table : Table} {limit : Nat}

/-- The response to the handshake leaves a plain framer as it was. -/
theorem respond_plain (plain : session.framer = .plain table limit)
    (phase : session.phase = .awaitingHandshake)
    (accepted : respondToHandshake session = .ok () next) :
    next.framer = .plain table limit ∧ next.phase = .awaitingLogin ∧
      next.serverKey = session.serverKey ∧ next.unread = session.unread := by
  rw [respondToHandshake, during_eq _ _ _ session phase (by decide), send_eq] at accepted
  obtain ⟨middle, sent, later⟩ := andThen_ok _ _ session next () accepted
  obtain ⟨bytes, encoded, kept, _⟩ := sendAll_flushes _ session middle sent
  rw [plain] at encoded
  cases later
  exact ⟨Framer.encodeAll_plain encoded, rfl, kept.serverKey, kept.unread⟩

/-- The game begins with a framer of its own and the bytes that were not read. -/
theorem welcome_plain {game : Table} {pair : KeystreamPair} {reply : LoginReply}
    (plain : session.framer = .plain table limit)
    (accepted : (send (.loginResponse reply)).andThen (enterGame game pair) session =
      .ok () next) :
    next.framer = .ciphered game limit pair ∧ next.phase = .inGame ∧
      next.unread = session.unread := by
  rw [send_eq] at accepted
  obtain ⟨middle, sent, entered⟩ := andThen_ok _ _ session next () accepted
  obtain ⟨bytes, encoded, kept, _⟩ := sendAll_flushes _ session middle sent
  rw [plain] at encoded
  have still := Framer.encodeAll_plain encoded
  obtain ⟨_, begun⟩ := during_ok entered
  cases begun
  refine ⟨?_, rfl, kept.unread⟩
  rw [still]
  rfl

end Session

/-- The bytes are a frame of the table, and its codec decodes the message from it. -/
def Table.IsFrame (table : Table) (bytes : Bytes) (message : Message) : Prop :=
  ∃ binding payload, table.find? binding.opcode = some binding ∧
    binding.rule.Admits payload.length ∧ bytes = Framer.wire binding.rule ⟨binding.opcode, payload⟩ ∧
    binding.codec.decode binding.opcode payload = .ok message

theorem Framer.isFrame_of_decodes {table : Table} {limit : Nat} {source left : Bytes}
    {message : Message} {next : Framer}
    (decodes : (plain table limit).Decodes source (.ok (some message)) next left) :
    ∃ frame, table.IsFrame frame message ∧ source = frame ++ left ∧ next = plain table limit := by
  obtain ⟨binding, payload, whole, bound, obeyed, decoded, final⟩ := plain_decodes decodes
  exact ⟨_, ⟨binding, payload, bound, LengthRule.admits_of_check obeyed, rfl, decoded⟩, whole, final⟩

namespace Connection

/-- The client has sent a frame with a handshake and a frame with a login block that breaks no rule,
and these bytes behind them. -/
def Opened (server : Server) (serverKey : UInt64) (keys : SessionKeys) (sent left : Bytes) : Prop :=
  ∃ greeting login nameHash block, sent = greeting ++ login ++ left ∧
    server.loginTable.IsFrame greeting (.handshake nameHash) ∧
    server.loginTable.IsFrame login (.login block) ∧
    server.settings.loginPolicy.validate block serverKey = .ok keys

theorem Opened.append {server : Server} {serverKey : UInt64} {keys : SessionKeys}
    {sent left : Bytes} (opened : Opened server serverKey keys sent left) (more : Bytes) :
    Opened server serverKey keys (sent ++ more) (left ++ more) := by
  obtain ⟨greeting, login, nameHash, block, same, rest⟩ := opened
  exact ⟨greeting, login, nameHash, block, by rw [same, List.append_assoc], rest⟩

/-- The framer of the login of a server. -/
abbrev loginFramer (server : Server) : Framer :=
  .plain server.loginTable server.settings.maxPayload

/-- The framer of the game of a server. -/
abbrev gameFramer (server : Server) (keys : SessionKeys) : Framer :=
  .ciphered server.gameTable server.settings.maxPayload (.server keys)

/-- A session before its login has read up to some place in these bytes. -/
structure Follows (server : Server) (serverKey : UInt64) (phase : Phase) (source : Bytes)
    (session : Session) : Prop where
  phase : session.phase = phase
  serverKey : session.serverKey = serverKey
  leads : (loginFramer server).LeadsTo source session.framer session.unread

/-- Where a connection stands in the bytes that its client has sent. -/
inductive Listening (server : Server) (serverKey : UInt64) (sent : Bytes)
    (connection : Connection) : Prop where
  | handshake (since : Nat) (stage : connection.stage = .handshake since)
      (follows : Follows server serverKey .awaitingHandshake sent connection.session)
  | login (since : Nat) (stage : connection.stage = .login since) (greeting rest : Bytes)
      (nameHash : UInt8) (frame : server.loginTable.IsFrame greeting (.handshake nameHash))
      (split : sent = greeting ++ rest)
      (follows : Follows server serverKey .awaitingLogin rest connection.session)
  | authenticating (attempt : LoginAttempt) (since : Nat)
      (stage : connection.stage = .authenticating attempt since)
      (phase : connection.session.phase = .authenticating)
      (framer : connection.session.framer = loginFramer server)
      (opened : Opened server serverKey attempt.keys sent connection.session.unread)
  | playing (player : Player) (since : Nat) (stage : connection.stage = .playing player since)
      (phase : connection.session.phase = .inGame) (keys : SessionKeys) (left : Bytes)
      (opened : Opened server serverKey keys sent left)
      (results : List (Except ProtocolError Message))
      (drains : (gameFramer server keys).Drains left results connection.session.framer
        connection.session.unread)
  | leaving (result : Except SessionError Unit) (player : Player)
      (stage : connection.stage = .leaving result player)
  | finished (result : Except SessionError Unit) (stage : connection.stage = .finished result)

section Follows

variable {server : Server} {serverKey : UInt64} {phase : Phase} {source : Bytes}
  {session next : Session}

theorem Follows.continues (follows : Follows server serverKey phase source session)
    (continues : session.Continues next) : Follows server serverKey phase source next where
  phase := continues.kept.phase.trans follows.phase
  serverKey := continues.kept.serverKey.trans follows.serverKey
  leads := follows.leads.trans continues.leads

/-- A message is read off one frame, and the framer is at rest behind it. -/
theorem Follows.settles {message : Message}
    (follows : Follows server serverKey phase source session)
    (settles : session.Settles (.ok (some message)) next) :
    ∃ frame, server.loginTable.IsFrame frame message ∧ source = frame ++ next.unread ∧
      next.framer = loginFramer server ∧ next.phase = phase ∧ next.serverKey = serverKey := by
  obtain ⟨frame, isFrame, split, framer⟩ :=
    Framer.isFrame_of_decodes (follows.leads.decodes settles.decodes)
  exact ⟨frame, isFrame, split, framer, settles.kept.phase.trans follows.phase,
    settles.kept.serverKey.trans follows.serverKey⟩

end Follows

section Move

variable {server : Server} {serverKey : UInt64} {sent : Bytes} {session : Session}
  (now : Nat) (registry : PlayerRegistry) (since : Nat)

theorem listening_handshake
    (follows : Follows server serverKey .awaitingHandshake sent session) :
    Listening server serverKey sent
      (awaitHandshake server now registry session since).connection := by
  have opened := Session.isClosed_of_phase follows.phase (by decide)
  have hears := session.hears_hear since server.settings.handshakeLimit now opened
  unfold awaitHandshake
  generalize session.hear since server.settings.handshakeLimit now = heard at hears
  obtain ⟨hearing, next⟩ := heard
  dsimp only at hears ⊢
  cases hears with
  | failed error next fails => exact .finished _ rfl
  | late next continues starved elapsed => exact .finished _ rfl
  | ended next continues starved finished => exact .finished _ rfl
  | waiting next continues starved going early =>
      exact .handshake since rfl (follows.continues continues)
  | message message next settles accepted =>
      obtain ⟨greeting, isFrame, split, framer, phase, key⟩ := follows.settles settles
      rw [follows.phase] at accepted
      cases message with
      | handshake nameHash =>
          dsimp only
          split
          · exact .finished _ rfl
          · next greeted responded =>
              obtain ⟨still, after, kept, unread⟩ := Session.respond_plain framer phase responded
              refine .login now rfl greeting next.unread nameHash isFrame split
                ⟨after, kept.trans key, ?_⟩
              dsimp only
              rw [still, unread]
              exact .refl _ _
      | _ => cases accepted

/-- A login block that breaks no rule leaves the framer at rest behind its frame. -/
theorem listening_authenticate {block : LoginBlock} {keys : SessionKeys} {reports : List Report}
    (framer : session.framer = loginFramer server) (phase : session.phase = .awaitingLogin)
    (opened : Opened server serverKey keys sent session.unread) (picks : List Branch) :
    Listening server serverKey sent
      (authenticate server now registry session block keys reports picks).connection := by
  have begun : Session.beginAuthentication session =
      .ok () { session with phase := .authenticating } := by
    rw [Session.beginAuthentication, Session.during_eq _ _ _ session phase (by decide)]
    rfl
  rw [authenticate, begun]
  dsimp only
  split
  · exact .authenticating _ now rfl rfl framer opened
  · exact .authenticating _ now rfl rfl framer opened

theorem listening_login {greeting rest : Bytes} {nameHash : UInt8}
    (frame : server.loginTable.IsFrame greeting (.handshake nameHash))
    (split : sent = greeting ++ rest)
    (follows : Follows server serverKey .awaitingLogin rest session) (picks : List Branch) :
    Listening server serverKey sent
      (awaitLogin server now registry session since picks).connection := by
  have opened := Session.isClosed_of_phase follows.phase (by decide)
  have hears := session.hears_hear since server.settings.handshakeLimit now opened
  unfold awaitLogin
  generalize session.hear since server.settings.handshakeLimit now = heard at hears
  obtain ⟨hearing, next⟩ := heard
  dsimp only at hears ⊢
  cases hears with
  | failed error next fails => exact .finished _ rfl
  | late next continues starved elapsed => exact .finished _ rfl
  | ended next continues starved finished => exact .finished _ rfl
  | waiting next continues starved going early =>
      exact .login since rfl greeting rest nameHash frame split (follows.continues continues)
  | message message next settles accepted =>
      obtain ⟨login, isFrame, behind, framer, phase, key⟩ := follows.settles settles
      rw [follows.phase] at accepted
      cases message with
      | login block =>
          dsimp only
          cases valid : server.settings.loginPolicy.validate block next.serverKey with
          | error code => exact .finished _ rfl
          | ok keys =>
              refine listening_authenticate now registry framer phase
                ⟨greeting, login, nameHash, block, ?_, frame, isFrame, ?_⟩ picks
              · rw [split, behind, List.append_assoc]
              · rw [← key]
                exact valid
      | _ => cases accepted

/-- What becomes of a session that waits for a verdict. -/
inductive Decides (server : Server) (session : Session) (attempt : LoginAttempt) (since now : Nat)
    (moved : Move) : Prop where
  | enters (stage : moved.connection.stage = .playing attempt.player now)
      (framer : moved.connection.session.framer = gameFramer server attempt.keys)
      (phase : moved.connection.session.phase = .inGame)
      (unread : moved.connection.session.unread = session.unread)
  | leaving (result : Except SessionError Unit) (player : Player)
      (stage : moved.connection.stage = .leaving result player)
  | finished (result : Except SessionError Unit) (stage : moved.connection.stage = .finished result)
  | stays (stage : moved.connection.stage = .authenticating attempt since)
      (receives : session.OnlyReceives moved.connection.session [])

/-- The game begins with all bytes that were not read. -/
theorem decides_concludeLogin (attempt : LoginAttempt) (code : ResponseCode)
    (framer : session.framer = loginFramer server) :
    Decides server session attempt since now
      (concludeLogin server now registry session attempt code) := by
  dsimp only [concludeLogin]
  split
  · split
    · exact .finished _ rfl
    · split
      · exact .leaving _ _ rfl
      · next next welcomed =>
          obtain ⟨game, phase, unread⟩ := Session.welcome_plain framer welcomed
          exact .enters rfl game phase unread
  · exact .finished _ rfl

/-- What is received before the session decides is not read. -/
theorem Decides.before {next : Session} {attempt : LoginAttempt} {moved : Move}
    (decides : Decides server next attempt since now moved)
    (receives : session.OnlyReceives next []) : Decides server session attempt since now moved := by
  cases decides with
  | enters stage framer phase unread =>
      refine .enters stage framer phase ?_
      rw [unread, receives.unread, List.append_nil]
  | leaving result player stage => exact .leaving result player stage
  | finished result stage => exact .finished result stage
  | stays stage later => exact .stays stage (receives.trans later)

theorem Awaits.decides {attempt : LoginAttempt} {moved : Move}
    (awaits : Awaits server now registry attempt since session moved)
    (phase : session.phase = .authenticating) (framer : session.framer = loginFramer server) :
    Decides server session attempt since now moved := by
  have isOpen {session : Session} (phase : session.phase = .authenticating) :
      session.isClosed = false := Session.isClosed_of_phase phase (by decide)
  induction awaits with
  | decided | late => exact decides_concludeLogin now registry since attempt _ framer
  | failed | left => exact .finished _ rfl
  | waits session => exact .stays rfl (.refl session)
  | reads session next count undecided early room taken =>
      exact .stays rfl (.ofBuffer (isOpen phase) taken)
  | again session next count moved room taken later ih =>
      have receives := Session.OnlyReceives.ofBuffer (isOpen phase) taken
      exact (ih (receives.phase.trans phase) (receives.framer.trans framer)).before now since
        receives

/-- A player enters the game only with the framer of the game and all bytes that were not read. -/
theorem enters_awaitVerdict (attempt : LoginAttempt) (phase : session.phase = .authenticating)
    (framer : session.framer = loginFramer server) (picks : List Branch) {player : Player}
    {begun : Nat}
    (playing : (awaitVerdict server now registry session attempt since picks).connection.stage =
      .playing player begun) :
    let next := (awaitVerdict server now registry session attempt since picks).connection.session
    next.framer = gameFramer server attempt.keys ∧ next.unread = session.unread := by
  cases (awaits_awaitVerdict session picks).decides now registry since phase framer with
  | enters stage game entered unread => exact ⟨game, unread⟩
  | leaving result player stage => cases stage.symm.trans playing
  | finished result stage => cases stage.symm.trans playing
  | stays stage receives => cases stage.symm.trans playing

theorem listening_verdict {attempt : LoginAttempt} (phase : session.phase = .authenticating)
    (framer : session.framer = loginFramer server)
    (opened : Opened server serverKey attempt.keys sent session.unread) (picks : List Branch) :
    Listening server serverKey sent
      (awaitVerdict server now registry session attempt since picks).connection := by
  cases (awaits_awaitVerdict session picks).decides now registry since phase framer with
  | enters stage game playing unread =>
      refine .playing _ now stage playing attempt.keys session.unread opened [] ?_
      rw [game, unread]
      exact .refl _ _
  | leaving result player stage => exact .leaving result player stage
  | finished result stage => exact .finished result stage
  | stays stage receives =>
      refine .authenticating attempt since stage (receives.phase.trans phase)
        (receives.framer.trans framer) ?_
      rw [receives.unread, List.append_nil]
      exact opened

theorem listening_play {player : Player} {keys : SessionKeys} {left : Bytes}
    (phase : session.phase = .inGame) (opened : Opened server serverKey keys sent left)
    (results : List (Except ProtocolError Message))
    (drains : (gameFramer server keys).Drains left results session.framer session.unread) :
    Listening server serverKey sent
      (play server now registry session player since).connection := by
  have hears := session.hears_hear since server.settings.idleLimit now
    (Session.isClosed_of_phase phase (by decide))
  unfold play
  generalize session.hear since server.settings.idleLimit now = heard at hears
  obtain ⟨hearing, next⟩ := heard
  dsimp only at hears ⊢
  cases hears with
  | failed error next fails => exact .leaving _ _ rfl
  | late next continues starved elapsed => exact .leaving _ _ rfl
  | ended next continues starved finished => exact .leaving _ _ rfl
  | waiting next continues starved going early =>
      exact .playing player since rfl (continues.kept.phase.trans phase) keys left opened _
        (drains.goesOn continues.leads.drains)
  | message message next settles accepted =>
      dsimp only
      split
      · exact .leaving _ _ rfl
      · next after sent =>
          obtain ⟨bytes, encoded, kept, _⟩ := Session.sendAll_flushes _ next after sent
          have read := drains.goesOn (settles.decodes.drains nofun)
          have written : next.framer.Drains next.unread [] after.framer after.unread := by
            rw [kept.unread]
            exact Framer.drains_encodeAll next.unread encoded
          exact .playing player now rfl (kept.phase.trans (settles.kept.phase.trans phase)) keys
            left opened _ (read.goesOn written)

end Move

variable {server : Server} {serverKey : UInt64} {sent : Bytes} {connection : Connection}

theorem Listening.at_authenticating {attempt : LoginAttempt} {since : Nat}
    (listening : Listening server serverKey sent connection)
    (stage : connection.stage = .authenticating attempt since) :
    connection.session.phase = .authenticating ∧
      connection.session.framer = loginFramer server ∧
      Opened server serverKey attempt.keys sent connection.session.unread := by
  cases listening with
  | authenticating other begun same phase framer opened =>
      cases stage.symm.trans same
      exact ⟨phase, framer, opened⟩
  | handshake begun same => cases stage.symm.trans same
  | login begun same => cases stage.symm.trans same
  | playing player begun same => cases stage.symm.trans same
  | leaving result player same => cases stage.symm.trans same
  | finished result same => cases stage.symm.trans same

theorem Listening.at_playing {player : Player} {since : Nat}
    (listening : Listening server serverKey sent connection)
    (stage : connection.stage = .playing player since) :
    ∃ keys left results, Opened server serverKey keys sent left ∧
      (gameFramer server keys).Drains left results connection.session.framer
        connection.session.unread := by
  cases listening with
  | playing other begun same phase keys left opened results drains =>
      exact ⟨keys, left, results, opened, drains⟩
  | handshake begun same => cases stage.symm.trans same
  | login begun same => cases stage.symm.trans same
  | authenticating attempt begun same => cases stage.symm.trans same
  | leaving result player same => cases stage.symm.trans same
  | finished result same => cases stage.symm.trans same

theorem Listening.move (listening : Listening server serverKey sent connection) (now : Nat)
    (registry : PlayerRegistry) (picks : List Branch) :
    Listening server serverKey sent (connection.move server now registry picks).connection := by
  cases listening with
  | handshake since stage follows =>
      rw [Connection.move, stage]
      exact listening_handshake now registry since follows
  | login since stage greeting rest nameHash frame split follows =>
      rw [Connection.move, stage]
      exact listening_login now registry since frame split follows picks
  | authenticating attempt since stage phase framer opened =>
      rw [Connection.move, stage]
      exact listening_verdict now registry since phase framer opened picks
  | playing player since stage phase keys left opened results drains =>
      rw [Connection.move, stage]
      exact listening_play now registry since phase opened results drains
  | leaving result player stage =>
      rw [Connection.move, stage]
      exact .finished result rfl
  | finished result stage =>
      rw [Connection.move, stage]
      exact .finished result stage

/-- A change of the pipe that adds these bytes. -/
theorem Listening.onPipe (listening : Listening server serverKey sent connection) (pipe : Pipe)
    (bytes : Bytes) (arrived : pipe.arrived.toList = connection.session.pipe.arrived.toList ++ bytes) :
    Listening server serverKey (sent ++ bytes) { connection with session.pipe := pipe } := by
  have unread : Session.unread { connection.session with pipe } =
      connection.session.unread ++ bytes := by
    rw [Session.unread, Session.unread, arrived, List.append_assoc]
  cases listening with
  | handshake since stage follows =>
      refine .handshake since stage ⟨follows.phase, follows.serverKey, ?_⟩
      dsimp only
      rw [unread]
      exact follows.leads.append bytes
  | login since stage greeting rest nameHash frame split follows =>
      refine .login since stage greeting (rest ++ bytes) nameHash frame ?_
        ⟨follows.phase, follows.serverKey, ?_⟩
      · rw [split, List.append_assoc]
      · dsimp only
        rw [unread]
        exact follows.leads.append bytes
  | authenticating attempt since stage phase framer opened =>
      refine .authenticating attempt since stage phase framer ?_
      dsimp only
      rw [unread]
      exact opened.append bytes
  | playing player since stage phase keys left opened results drains =>
      refine .playing player since stage phase keys (left ++ bytes) (opened.append bytes)
        (results ++ []) ?_
      dsimp only
      rw [unread]
      exact drains.trans (.refl _ _)
  | leaving result player stage => exact .leaving result player stage
  | finished result stage => exact .finished result stage

theorem Listening.resolve (listening : Listening server serverKey sent connection)
    (verdict : Verdict) : Listening server serverKey sent (connection.resolve verdict) := by
  rw [Connection.resolve]
  cases listening with
  | handshake since stage follows =>
      rw [stage]
      exact .handshake since stage follows
  | login since stage greeting rest nameHash frame split follows =>
      rw [stage]
      exact .login since stage greeting rest nameHash frame split follows
  | authenticating attempt since stage phase framer opened =>
      rw [stage]
      exact .authenticating _ since rfl phase framer opened
  | playing player since stage phase keys left opened results drains =>
      rw [stage]
      exact .playing player since stage phase keys left opened results drains
  | leaving result player stage =>
      rw [stage]
      exact .leaving result player stage
  | finished result stage =>
      rw [stage]
      exact .finished result stage

end Connection

theorem Stage.authenticating_of_left {stage : Stage} (left : stage.left = 3) :
    ∃ attempt since, stage = .authenticating attempt since := by
  cases stage with
  | authenticating attempt since => exact ⟨attempt, since, rfl⟩
  | _ => cases left

theorem Stage.playing_of_left {stage : Stage} (left : stage.left = 2) :
    ∃ player since, stage = .playing player since := by
  cases stage with
  | playing player since => exact ⟨player, since, rfl⟩
  | _ => cases left

namespace Life

open Connection (Happening)

/-- Whatever happens, the connection goes on where it stands in the bytes of its client. -/
theorem listening_next {server : Server} {serverKey : UInt64} {life : Life}
    (listening : Connection.Listening server serverKey life.sent life.connection)
    (happening : Happening) :
    Connection.Listening server serverKey (life.next server happening).sent
      (life.next server happening).connection := by
  cases happening with
  | deliver bytes => exact listening.onPipe _ bytes (ByteQueue.toList_push _ _)
  | finish =>
      have still := listening.onPipe life.connection.session.pipe.finish [] (List.append_nil _).symm
      rw [List.append_nil] at still
      exact still
  | disturb call =>
      have still := listening.onPipe (life.connection.session.pipe.disturb call) []
        (by rw [List.append_nil]; cases call <;> rfl)
      rw [List.append_nil] at still
      exact still
  | answer verdict => exact listening.resolve verdict
  | move seconds registry picks => exact listening.move (life.now + seconds) registry picks

theorem listening_run (server : Server) (info : SessionInfo) (serverKey : UInt64) (now : Nat)
    (history : List Happening) :
    let life := (Life.start server info serverKey now).run server history
    Connection.Listening server serverKey life.sent life.connection := by
  dsimp only
  induction history using List.reverseRecOn with
  | nil => exact .handshake now rfl ⟨rfl, rfl, .refl _ _⟩
  | append_singleton history happening ih =>
      rw [run_concat]
      exact listening_next ih happening

/-- While a connection waits for a verdict it only receives bytes, and it takes what comes first. A
move ends the wait only as that moment allows. The framer of the login is then at rest, and what was
not read is all that the client has sent behind its login frame. From there the framer of the game
goes on. -/
theorem lossless_run (server : Server) :
    (∀ (born : Life) (attempt : LoginAttempt) (since : Nat),
      born.connection.stage = .authenticating attempt since →
      born.connection.session.phase = .authenticating →
      ∀ history,
        (born.Waits server attempt since history ∧ ∀ seconds registry picks,
          (born.ReturnsNow server attempt since history seconds registry picks ∨
            born.GoesOnNow server attempt since history seconds registry picks) ∧
          born.FirstNow server attempt since history seconds registry picks) ∨
        ∃ waiting seconds registry picks rest,
          history = waiting ++ .move seconds registry picks :: rest ∧
          born.Waits server attempt since waiting ∧
          born.ReturnsNow server attempt since waiting seconds registry picks ∧
          born.FirstNow server attempt since waiting seconds registry picks) ∧
    ∀ (info : SessionInfo) (serverKey : UInt64) (now : Nat)
        (history : List Happening),
      let life := (Life.start server info serverKey now).run server history
      let session := life.connection.session
      (∀ attempt since, life.connection.stage = .authenticating attempt since →
        session.phase = .authenticating ∧
        session.framer = .plain server.loginTable server.settings.maxPayload ∧
        Connection.Opened server serverKey attempt.keys life.sent session.unread ∧
        ∀ seconds registry picks player begun,
          let next := (life.moveAfter server seconds registry picks).connection
          next.stage = .playing player begun →
            next.session.framer = .ciphered server.gameTable server.settings.maxPayload
              (.server attempt.keys) ∧
            next.session.unread = session.unread) ∧
      ∀ player since, life.connection.stage = .playing player since →
        ∃ keys left results, Connection.Opened server serverKey keys life.sent left ∧
          (Framer.ciphered server.gameTable server.settings.maxPayload (.server keys)).Drains left
            results session.framer session.unread := by
  refine ⟨?_, ?_⟩
  · intro born attempt since stage begun history
    rcases waits_run stage begun history with
      waits | ⟨waiting, seconds, registry, picks, rest, split, waits, returns⟩
    · refine .inl ⟨waits, fun seconds registry picks => ?_⟩
      exact ⟨waits.cases begun seconds registry picks, waits.first begun seconds registry picks⟩
    · exact .inr ⟨waiting, seconds, registry, picks, rest, split, waits, returns,
        waits.first begun seconds registry picks⟩
  · intro info serverKey now history
    have listening := listening_run server info serverKey now history
    dsimp only at listening ⊢
    generalize (Life.start server info serverKey now).run server history = life at listening
    refine ⟨?_, ?_⟩
    · intro attempt since stage
      obtain ⟨phase, framer, opened⟩ := listening.at_authenticating stage
      refine ⟨phase, framer, opened, ?_⟩
      intro seconds registry picks player begun playing
      rw [moveAfter, Connection.move, stage] at playing ⊢
      exact Connection.enters_awaitVerdict _ registry since attempt phase framer picks playing
    · intro player since stage
      exact listening.at_playing stage

/-- The authenticator of this server takes its time, and a ping goes unanswered. -/
def slowServer : Server :=
  { Server.standard fun _ => none with
    dispatcher := (Dispatcher.empty.register .ping ⟨"ping", fun _ _ _ => []⟩).2 }

/-- The life of a client who has the server key of its login block. -/
def patientLife : Life := start slowServer ⟨1, none⟩ 0x0000000300000004 0

/-- The client does not wait for an answer to its login: two more bytes come with it. -/
def eagerHistory : List Happening :=
  [.deliver ([14, 0] ++ loginFrame ++ [5, 6]), .move 0 (.empty 1) [], .move 0 (.empty 1) []]

/-- One byte more comes before the answer. -/
def eagerWait : List Happening := [.deliver [7], .answer (.decided .ok)]

theorem lossless_run_of_eager :
    let waiting := patientLife.run slowServer eagerHistory
    let answered := patientLife.run slowServer (eagerHistory ++ eagerWait)
    let entered := patientLife.run slowServer (eagerHistory ++ eagerWait ++ [.move 0 (.empty 1) []])
    (∃ attempt since, waiting.connection.stage = .authenticating attempt since ∧
      waiting.connection.session.phase = .authenticating ∧
      waiting.Waits slowServer attempt since eagerWait) ∧
    (∃ attempt since player begun, answered.connection.stage = .authenticating attempt since ∧
      entered.connection.stage = .playing player begun ∧
      entered.connection.session.framer = Connection.gameFramer slowServer attempt.keys ∧
      entered.connection.session.unread = answered.connection.session.unread) ∧
    ∃ keys left, Connection.Opened slowServer 0x0000000300000004 keys entered.sent left := by
  intro waiting answered entered
  have run := lossless_run slowServer
  have ends := run.2 ⟨1, none⟩ 0x0000000300000004 0
  obtain ⟨attempt, since, waits⟩ : ∃ attempt since,
      waiting.connection.stage = .authenticating attempt since :=
    Stage.authenticating_of_left (by decide +kernel)
  obtain ⟨known, before, asked⟩ : ∃ attempt since,
      answered.connection.stage = .authenticating attempt since :=
    Stage.authenticating_of_left (by decide +kernel)
  obtain ⟨player, begun, plays⟩ : ∃ player begun,
      entered.connection.stage = .playing player begun :=
    Stage.playing_of_left (by decide +kernel)
  have moved : entered.connection =
      (answered.moveAfter slowServer 0 (.empty 1) []).connection :=
    congrArg Life.connection (run_concat slowServer patientLife _ _)
  have phase := ((ends eagerHistory).1 attempt since waits).1
  refine ⟨⟨attempt, since, waits, phase, ?_⟩, ⟨known, before, player, begun, asked, plays, ?_⟩, ?_⟩
  · rcases run.1 waiting attempt since waits phase eagerWait with
      ⟨still, _⟩ | ⟨front, seconds, registry, picks, rest, split, _⟩
    · exact still
    · have member : Happening.move seconds registry picks ∈ eagerWait := by simp [split]
      simp [eagerWait] at member
  · rw [moved] at plays ⊢
    exact ((ends (eagerHistory ++ eagerWait)).1 known before asked).2.2.2 0 (.empty 1) [] player
      begun plays
  · obtain ⟨keys, left, _, opened, _⟩ := (ends (eagerHistory ++ eagerWait ++ _)).2 player begun plays
    exact ⟨keys, left, opened⟩

/-- An end that comes behind the verdict may still be taken first. -/
example :
    let life := patientLife.run slowServer (eagerHistory ++ eagerWait ++ [.finish])
    (life.moveAfter slowServer 0 (.empty 1) [.bytes, .bytes]).connection.stage.left = 0 ∧
      (life.moveAfter slowServer 0 (.empty 1) [.verdict]).connection.stage.left = 2 := by
  decide +kernel

end Life

end GameServer
