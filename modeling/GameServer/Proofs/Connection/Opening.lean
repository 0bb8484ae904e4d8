import GameServer.Proofs.Connection.History
import GameServer.Proofs.Login.Opening
import GameServer.Proofs.Session.Greeting
import GameServer.Proofs.Session.Reading

/- This file leads a connection up to its question to the authenticator. -/

namespace GameServer

/-- A report of a handler that was called without a player. -/
def Report.Anonymous : Report → Prop
  | .called call => call.player = none
  | .asked _ => False

/-- The player that a request would bring into the game. -/
def AuthenticationRequest.player (request : AuthenticationRequest) : Player where
  userId := request.credentials.userId
  username := request.credentials.username
  privilege := 0
  reconnecting := request.credentials.reconnecting
  connection := request.session.connection

/-- The reports of the handler of a message. -/
def Server.calls (server : Server) (info : SessionInfo) (player : Option Player)
    (message : Message) : List Report :=
  (server.dispatcher.dispatch ⟨info, player, []⟩ message).1.toList.map .called

/-- The replies of the handler of a message. -/
def Server.replies (server : Server) (info : SessionInfo) (player : Option Player)
    (message : Message) : List Message :=
  (server.dispatcher.dispatch ⟨info, player, []⟩ message).2.outbox

theorem Server.calls_player (server : Server) (info : SessionInfo) (player : Option Player)
    (message : Message) :
    ∀ report ∈ server.calls info player message,
      ∃ call, report = .called call ∧ call.player = player := by
  intro report reported
  simp only [Server.calls, Dispatcher.dispatch] at reported
  split at reported
  · simp only [Option.toList_some, List.map_cons, List.map_nil, List.mem_singleton] at reported
    exact ⟨_, reported, rfl⟩
  · cases reported

theorem Server.calls_anonymous (server : Server) (info : SessionInfo) (message : Message) :
    ∀ report ∈ server.calls info none message, report.Anonymous := by
  intro report reported
  obtain ⟨call, same, player⟩ := server.calls_player info none message report reported
  rw [same]
  exact player

namespace Session

theorem conclude_isClosed (session : Session) (result : Except SessionError Unit) :
    (session.conclude result).isClosed = true := by
  unfold conclude
  split
  · exact close_isClosed session
  · split
    · exact close_isClosed session
    · split <;> exact close_isClosed _

/-- A session that waits for bytes has no message before it. -/
theorem Starved.not_decodes {session : Session} {framer next : Framer} {source left : Bytes}
    {message : Message} (starved : session.Starved)
    (leads : framer.LeadsTo source session.framer session.unread) :
    ¬ framer.Decodes source (.ok (some message)) next left := by
  intro decodes
  obtain ⟨_, same⟩ := decodes
  obtain ⟨_, leads⟩ := leads
  have outcome := congrArg Framer.Cut.outcome ((leads []).symm.trans (same []))
  have pending := Framer.Cut.outcome_of_open _ starved.2
  rw [List.append_nil, Framer.Cut.outcome_behind, pending] at outcome
  cases outcome

end Session

namespace Connection

/-- A session before the game has read up to some place in the bytes that its client has sent. -/
structure Listens (server : Server) (info : SessionInfo) (serverKey : UInt64) (phase : Phase)
    (source : Bytes) (session : Session) : Prop where
  phase : session.phase = phase
  info : session.info = info
  serverKey : session.serverKey = serverKey
  queued : session.queued.toList = []
  leads : (Framer.plain .login server.settings.maxPayload).LeadsTo source session.framer
    session.unread

section Listens

variable {server : Server} {info : SessionInfo} {serverKey : UInt64} {phase : Phase}
  {source : Bytes} {session : Session}

theorem Listens.onPipe (listens : Listens server info serverKey phase source session)
    (pipe : Pipe) (bytes : Bytes)
    (arrived : pipe.arrived.toList = session.pipe.arrived.toList ++ bytes) :
    Listens server info serverKey phase (source ++ bytes) { session with pipe } where
  phase := listens.phase
  info := listens.info
  serverKey := listens.serverKey
  queued := listens.queued
  leads := by
    have appended := listens.leads.append bytes
    simpa only [Session.unread, arrived, List.append_assoc] using appended

theorem Listens.continues {next : Session}
    (listens : Listens server info serverKey phase source session)
    (continues : session.Continues next) :
    Listens server info serverKey phase source next where
  phase := continues.kept.phase.trans listens.phase
  info := continues.kept.info.trans listens.info
  serverKey := continues.kept.serverKey.trans listens.serverKey
  queued := by rw [continues.kept.queued, listens.queued]
  leads := listens.leads.trans continues.leads

end Listens

theorem Listens.handshake {server : Server} {info : SessionInfo} {serverKey : UInt64}
    {source : Bytes} {session next : Session} {message : Message}
    (listens : Listens server info serverKey .awaitingHandshake source session)
    (settles : session.Settles (.ok message) next)
    (accepted : Session.accepts session.phase message.kind = true) :
    ∃ nameHash, message = .handshake nameHash ∧ source = 14 :: nameHash :: next.unread ∧
      next.Plain server.settings.maxPayload .awaitingHandshake := by
  rw [listens.phase] at accepted
  obtain ⟨nameHash, found, bytes, framer⟩ :=
    Framer.handshake_decodes (eq_of_beq accepted) (listens.leads.decodes settles.decodes)
  refine ⟨nameHash, found, bytes, settles.kept.phase.trans listens.phase, framer, ?_⟩
  rw [settles.kept.queued, listens.queued]

theorem Listens.login {server : Server} {info : SessionInfo} {serverKey : UInt64}
    {source : Bytes} {session next : Session} {message : Message}
    (listens : Listens server info serverKey .awaitingLogin source session)
    (settles : session.Settles (.ok message) next)
    (accepted : Session.accepts session.phase message.kind = true) :
    ∃ block, message = .login block ∧ source.IsLogin block next.unread ∧
      next.Plain server.settings.maxPayload .awaitingLogin := by
  rw [listens.phase] at accepted
  obtain ⟨block, found, bytes, framer⟩ :=
    Framer.login_decodes (eq_of_beq accepted) (listens.leads.decodes settles.decodes)
  refine ⟨block, found, bytes, settles.kept.phase.trans listens.phase, framer, ?_⟩
  rw [settles.kept.queued, listens.queued]

/-- Why a session before the game may end: it is late, or its pipe fails or has ended, or the client
has sent something else than what is wanted. -/
inductive Hindered (server : Server) (source : Bytes) (session : Session) (since now : Nat)
    (wanted : Message → Prop) : Prop where
  | late (timedOut :
      (session.hear since server.settings.handshakeLimit now).1 = .failed .timedOut)
  | disturbed (unsound : ¬ session.pipe.Sound false)
  | unwanted (outcome : Except ProtocolError (Option Message)) (next : Framer) (left : Bytes)
      (decodes :
        (Framer.plain .login server.settings.maxPayload).Decodes source outcome next left)
      (other : ∀ message, outcome = .ok (some message) → ¬ wanted message)

/-- A client in time whose bytes are the beginning of what is wanted is not hindered. -/
theorem not_hindered {server : Server} {source more left : Bytes} {session : Session}
    {since now : Nat} {wanted : Message → Prop} {message : Message} {next : Framer}
    (decodes : (Framer.plain .login server.settings.maxPayload).Decodes (source ++ more)
      (.ok (some message)) next left)
    (fits : wanted message) (sound : session.pipe.Sound false)
    (timely :
      (session.hear since server.settings.handshakeLimit now).1 ≠ .failed .timedOut) :
    ¬ Hindered server source session since now wanted := by
  intro hindered
  cases hindered with
  | late timedOut => exact timely timedOut
  | disturbed unsound => exact unsound sound
  | unwanted outcome after rest decoded other =>
      exact other message (decoded.unique decodes).1.symm fits

/-- A session that hears no message and does not wait is hindered. -/
theorem Listens.hindered {server : Server} {info : SessionInfo} {serverKey : UInt64}
    {phase : Phase} {source : Bytes} {session next : Session} {since now : Nat}
    {hearing : Session.Hearing}
    (listens : Listens server info serverKey phase source session)
    (hears : session.Hears since server.settings.handshakeLimit now hearing next)
    (heard : (session.hear since server.settings.handshakeLimit now).1 = hearing)
    (mute : ∀ message, hearing ≠ .message message) (going : hearing ≠ .waiting)
    (wanted : Message → Prop)
    (fitting : ∀ message, wanted message → Session.accepts phase message.kind = true) :
    Hindered server source session since now wanted := by
  cases hears with
  | message message next settles accepted => exact absurd rfl (mute message)
  | waiting next continues starved still early => exact absurd rfl going
  | late next continues starved late => exact .late heard
  | ended next continues starved finished =>
      refine .disturbed ?_
      intro sound
      rw [sound.ended] at finished
      cases finished
  | failed error next fails =>
      cases fails with
      | unexpected message next settles refused =>
          refine .unwanted _ _ _ (listens.leads.decodes settles.decodes) ?_
          intro found same fits
          cases same
          rw [listens.phase, fitting message fits] at refused
          cases refused
      | broken error next settles =>
          refine .unwanted _ _ _ (listens.leads.decodes settles.decodes) ?_
          intro found same
          cases same
      | cutShort next continues starved finished =>
          refine .disturbed ?_
          intro sound
          rw [sound.ended] at finished
          cases finished
      | disturbed next continues fault =>
          refine .disturbed ?_
          intro sound
          rw [sound.readFault] at fault
          cases fault

theorem offer_eq (server : Server) (session : Session) (player : Option Player)
    (message : Message) :
    offer server session player message =
      (server.calls session.info player message, server.replies session.info player message) := rfl

/-- What a move comes to that waits for a handshake. -/
inductive AwaitsHandshake (server : Server) (info : SessionInfo) (serverKey : UInt64)
    (source : Bytes) (session : Session) (since now : Nat) (moved : Move) : Prop where
  | ends (result : Except SessionError Unit) (stage : moved.connection.stage = .finished result)
      (anonymous : ∀ report ∈ moved.reports, report.Anonymous) (going : moved.waits = false)
      (hindered : Hindered server source session since now fun message =>
        ∃ nameHash, message = .handshake nameHash)
  | waits (stage : moved.connection.stage = .handshake since) (quiet : moved.reports = [])
      (continues : session.Continues moved.connection.session)
      (starved : moved.connection.session.Starved)
  | answers (nameHash : UInt8) (rest : Bytes) (sent : source = 14 :: nameHash :: rest)
      (stage : moved.connection.stage = .login now)
      (reports : moved.reports = server.calls info none (.handshake nameHash))
      (going : moved.waits = false)
      (written : moved.connection.session.pipe.written.toList =
        session.pipe.written.toList ++ handshakeAnswer serverKey)
      (listens : Listens server info serverKey .awaitingLogin rest moved.connection.session)
      (sound : session.pipe.Sound false → moved.connection.session.pipe.Sound false)

theorem awaitsHandshake {server : Server} {info : SessionInfo} {serverKey : UInt64}
    {source : Bytes} {session : Session}
    (listens : Listens server info serverKey .awaitingHandshake source session) (now : Nat)
    (registry : PlayerRegistry) (since : Nat) (moved : Move)
    (same : awaitHandshake server now registry session since = moved) :
    AwaitsHandshake server info serverKey source session since now moved := by
  have opened := Session.isClosed_of_phase listens.phase (by decide)
  have hears := session.hears_hear since server.settings.handshakeLimit now opened
  have hindered := listens.hindered hears rfl
  have fitting (message : Message) (wanted : ∃ nameHash, message = .handshake nameHash) :
      Session.accepts .awaitingHandshake message.kind = true := by
    obtain ⟨nameHash, found⟩ := wanted
    rw [found]
    rfl
  unfold awaitHandshake at same
  generalize session.hear since server.settings.handshakeLimit now = heard at hears hindered same
  obtain ⟨hearing, next⟩ := heard
  dsimp only at hears hindered same
  cases hears with
  | failed error next fails =>
      subst same
      exact .ends _ rfl (List.forall_mem_nil _) rfl
        (hindered (by simp) (by simp) _ fitting)
  | late next continues starved elapsed =>
      subst same
      exact .ends _ rfl (List.forall_mem_nil _) rfl
        (hindered (by simp) (by simp) _ fitting)
  | ended next continues starved finished =>
      subst same
      exact .ends _ rfl (List.forall_mem_nil _) rfl
        (hindered (by simp) (by simp) _ fitting)
  | waiting next continues starved going early =>
      subst same
      exact .waits rfl rfl continues starved
  | message message next settles accepted =>
      obtain ⟨nameHash, found, bytes, plain⟩ := listens.handshake settles accepted
      have named := settles.kept.info.trans listens.info
      dsimp only at same
      rw [offer_eq, named, found] at same
      dsimp only at same
      split at same
      · next error told refused =>
          subst same
          refine .ends _ rfl (server.calls_anonymous info _) rfl (.disturbed ?_)
          intro sound
          obtain ⟨greeted, responded⟩ :=
            Session.respond_sound _ next plain (settles.kept.sound sound).writable
          rw [responded] at refused
          cases refused
      · next greeted responded =>
          subst same
          obtain ⟨after, kept, written⟩ := Session.respond_ok _ next greeted plain responded
          have key := settles.kept.serverKey.trans listens.serverKey
          rw [key, settles.kept.written] at written
          refine .answers nameHash next.unread bytes rfl rfl rfl written ?_ ?_
          · have unread : greeted.unread = next.unread := kept.unread
            refine ⟨after.phase, kept.info.trans named,
              kept.serverKey.trans key, after.queued, ?_⟩
            rw [after.framer]
            exact unread ▸ .refl _ _
          · intro sound
            exact kept.sound (settles.kept.sound sound)

/-- A login block that breaks no rule is asked about, unless there is no time for an answer. -/
theorem authenticate_cases {server : Server} {limit : Nat} {session : Session}
    (plain : session.Plain limit .awaitingLogin) (now : Nat) (registry : PlayerRegistry)
    (block : LoginBlock) (keys : SessionKeys) (reports : List Report) (picks : List Branch)
    (moved : Move)
    (same : authenticate server now registry session block keys reports picks = moved) :
    let request : AuthenticationRequest := ⟨session.info, .ofLogin block keys⟩
    moved.connection.session = { session with phase := .authenticating } ∧ moved.waits = false ∧
      ((server.settings.authenticationLimit = 0 ∧ moved.reports = reports ∧
          moved.connection.stage = .authenticating ⟨request.player, keys, none⟩ now) ∨
        (moved.reports = reports ++ [.asked request] ∧
          moved.connection.stage =
            .authenticating ⟨request.player, keys, server.authenticator request⟩ now)) := by
  have begun : Session.beginAuthentication session =
      .ok () { session with phase := .authenticating } := by
    rw [Session.beginAuthentication, Session.during_eq _ _ _ session plain.phase (by decide)]
    rfl
  rw [authenticate, begun] at same
  dsimp only at same
  split at same
  · next none =>
      subst same
      exact ⟨rfl, rfl, .inl ⟨none.1, rfl, rfl⟩⟩
  · subst same
    exact ⟨rfl, rfl, .inr ⟨rfl, rfl⟩⟩

/-- A move asks about a login block that breaks no rule. -/
structure Asks (server : Server) (info : SessionInfo) (serverKey : UInt64) (session : Session)
    (source : Bytes) (moved : Move) (now : Nat) (request : AuthenticationRequest)
    (block : LoginBlock) (left : Bytes) : Prop where
  login : source.IsLogin block left
  valid : server.settings.loginPolicy.validate block serverKey =
    .ok request.credentials.sessionKeys
  repeats : request = ⟨info, .ofLogin block request.credentials.sessionKeys⟩
  reports : moved.reports = server.calls info none (.login block) ++ [.asked request]
  plain : moved.connection.session.Plain server.settings.maxPayload .authenticating
  info : moved.connection.session.info = info
  written : moved.connection.session.pipe.written = session.pipe.written
  sound : session.pipe.Sound false → moved.connection.session.pipe.Sound false
  unread : moved.connection.session.unread = left
  stage : moved.connection.stage =
    .authenticating ⟨request.player, request.credentials.sessionKeys, server.authenticator request⟩
      now
  going : moved.waits = false

/-- What a move comes to that waits for a login block. -/
inductive AwaitsLogin (server : Server) (info : SessionInfo) (serverKey : UInt64)
    (source : Bytes) (session : Session) (since now : Nat) (moved : Move) : Prop where
  | ends (result : Except SessionError Unit) (stage : moved.connection.stage = .finished result)
      (anonymous : ∀ report ∈ moved.reports, report.Anonymous) (going : moved.waits = false)
      (hindered : Hindered server source session since now fun message =>
        ∃ block keys, message = .login block ∧
          server.settings.loginPolicy.validate block serverKey = .ok keys)
  | waits (stage : moved.connection.stage = .login since) (quiet : moved.reports = [])
      (continues : session.Continues moved.connection.session)
      (starved : moved.connection.session.Starved)
  /-- There is no time for an answer. -/
  | hopeless (player : Player) (keys : SessionKeys)
      (stage : moved.connection.stage = .authenticating ⟨player, keys, none⟩ now)
      (limit : server.settings.authenticationLimit = 0)
      (opened : moved.connection.session.isClosed = false)
      (anonymous : ∀ report ∈ moved.reports, report.Anonymous) (going : moved.waits = false)
  | asks (request : AuthenticationRequest) (block : LoginBlock) (left : Bytes)
      (asks : Asks server info serverKey session source moved now request block left)

theorem awaitsLogin {server : Server} {info : SessionInfo} {serverKey : UInt64}
    {source : Bytes} {session : Session}
    (listens : Listens server info serverKey .awaitingLogin source session) (now : Nat)
    (registry : PlayerRegistry) (since : Nat) (picks : List Branch) (moved : Move)
    (same : awaitLogin server now registry session since picks = moved) :
    AwaitsLogin server info serverKey source session since now moved := by
  have opened := Session.isClosed_of_phase listens.phase (by decide)
  have hears := session.hears_hear since server.settings.handshakeLimit now opened
  have hindered := listens.hindered hears rfl
  have fitting (message : Message) (wanted : ∃ block keys, message = .login block ∧
      server.settings.loginPolicy.validate block serverKey = .ok keys) :
      Session.accepts .awaitingLogin message.kind = true := by
    obtain ⟨block, keys, found, _⟩ := wanted
    rw [found]
    rfl
  unfold awaitLogin at same
  generalize session.hear since server.settings.handshakeLimit now = heard at hears hindered same
  obtain ⟨hearing, next⟩ := heard
  dsimp only at hears hindered same
  cases hears with
  | failed error next fails =>
      subst same
      exact .ends _ rfl (List.forall_mem_nil _) rfl
        (hindered (by simp) (by simp) _ fitting)
  | late next continues starved elapsed =>
      subst same
      exact .ends _ rfl (List.forall_mem_nil _) rfl
        (hindered (by simp) (by simp) _ fitting)
  | ended next continues starved finished =>
      subst same
      exact .ends _ rfl (List.forall_mem_nil _) rfl
        (hindered (by simp) (by simp) _ fitting)
  | waiting next continues starved going early =>
      subst same
      exact .waits rfl rfl continues starved
  | message message next settles accepted =>
      obtain ⟨block, found, login, plain⟩ := listens.login settles accepted
      have key := settles.kept.serverKey.trans listens.serverKey
      have named := settles.kept.info.trans listens.info
      subst found
      dsimp only at same
      rw [offer_eq, named, key] at same
      dsimp only at same
      cases valid : server.settings.loginPolicy.validate block serverKey with
      | error code =>
          rw [valid] at same
          subst same
          refine .ends _ rfl (server.calls_anonymous info _) rfl
            (.unwanted _ _ _ (listens.leads.decodes settles.decodes) ?_)
          intro found same ⟨other, keys, login, fine⟩
          cases same
          cases login
          rw [valid] at fine
          cases fine
      | ok keys =>
          rw [valid] at same
          obtain ⟨after, going, asked⟩ :=
            authenticate_cases plain now registry block keys _ picks moved same
          rw [named] at asked
          rcases asked with ⟨none, reports, stage⟩ | ⟨reports, stage⟩
          · refine .hopeless _ keys stage none ?_ ?_ going
            · rw [after]
              rfl
            · rw [reports]
              exact server.calls_anonymous info _
          · refine .asks _ block next.unread ⟨login, valid, rfl, reports,
              ⟨?_, ?_, ?_⟩, ?_, ?_, ?_, ?_, stage, going⟩
            · rw [after]
            · rw [after]
              exact plain.framer
            · rw [after]
              exact plain.queued
            · rw [after]
              exact named
            · rw [after]
              exact settles.kept.written
            · rw [after]
              exact settles.kept.sound
            · rw [after]
              rfl

end Connection

end GameServer
