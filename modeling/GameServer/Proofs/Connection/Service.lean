import GameServer.Proofs.Connection.Opening
import GameServer.Proofs.Framer.Messages
import GameServer.Proofs.Framer.Streams

/- This file shows what a server makes of the messages that its client sends in the game. -/

namespace GameServer

namespace Server

/-- Messages are offered to their handlers in order, and the replies are written, until some cannot
be encoded. -/
def serve (server : Server) (info : SessionInfo) (player : Player) (framer : Framer) :
    List Message → List Report × Bytes
  | [] => ([], [])
  | message :: rest =>
      let calls := server.calls info (some player) message
      match framer.encodeAll (server.replies info (some player) message) with
      | .error _ => (calls, [])
      | .ok (next, bytes) =>
          let later := server.serve info player next rest
          (calls ++ later.1, bytes ++ later.2)

/-- The messages in a byte string are served. -/
def service (server : Server) (info : SessionInfo) (player : Player) (framer : Framer)
    (source : Bytes) : List Report × Bytes :=
  server.serve info player framer (framer.messages source)

variable {server : Server} {info : SessionInfo} {player : Player}

/-- What is served does not depend on where the framer stands in its reading. -/
theorem serve_like {left right : Framer} (like : Framer.WritesLike left right)
    (messages : List Message) :
    server.serve info player left messages = server.serve info player right messages := by
  induction messages generalizing left right with
  | nil => rfl
  | cons message rest ih =>
      simp only [serve]
      rcases like.encodeAll (server.replies info (some player) message) with
        ⟨error, mine, other⟩ | ⟨before, after, bytes, mine, other, next⟩
      · rw [mine, other]
      · rw [mine, other]
        dsimp only
        rw [ih next]

/-- A server that can write all replies serves all messages. -/
theorem serve_of_encodes (framer : Framer) (messages : List Message)
    (encodes : ∀ message ∈ messages, ∀ reply ∈ server.replies info (some player) message,
      framer.Encodes reply) :
    ∃ last bytes,
      framer.encodeAll (messages.flatMap (server.replies info (some player))) = .ok (last, bytes) ∧
      server.serve info player framer messages =
        (messages.flatMap (server.calls info (some player)), bytes) := by
  induction messages generalizing framer with
  | nil => exact ⟨framer, [], rfl, rfl⟩
  | cons message rest ih =>
      obtain ⟨next, front, written, table⟩ :=
        framer.encodeAll_of_encodes _ (encodes message List.mem_cons_self)
      obtain ⟨last, bytes, others, served⟩ := ih next fun later member reply replied =>
        (encodes later (List.mem_cons_of_mem _ member) reply replied).of_table table
      refine ⟨last, front ++ bytes, ?_, ?_⟩
      · rw [List.flatMap_cons]
        exact Framer.encodeAll_append written _ others
      · simp only [serve, written, served, List.flatMap_cons]

section Service

variable {framer next : Framer} {source left : Bytes}

theorem service_leads (leads : framer.LeadsTo source next left) (more : Bytes) :
    server.service info player framer (source ++ more) =
      server.service info player next (left ++ more) := by
  rw [service, service, leads.messages more]
  exact serve_like leads.writesLike _

theorem service_of_open (unsettled : (framer.decode source).settled = false) :
    server.service info player framer source = ([], []) := by
  rw [service, Framer.messages_of_open unsettled]
  rfl

theorem service_broken {error : ProtocolError}
    (decodes : framer.Decodes source (.error error) next left) (more : Bytes) :
    server.service info player framer (source ++ more) = ([], []) := by
  rw [service, decodes.messages_error more]
  rfl

/-- A message is served, and the rest after it with the framer that has written the replies. -/
theorem service_answered {message : Message} {after : Framer} {bytes : Bytes}
    (decodes : framer.Decodes source (.ok message) next left)
    (encoded : next.encodeAll (server.replies info (some player) message) = .ok (after, bytes))
    (more : Bytes) :
    server.service info player framer (source ++ more) =
      (server.calls info (some player) message ++
          (server.service info player after (left ++ more)).1,
        bytes ++ (server.service info player after (left ++ more)).2) := by
  rw [service, decodes.messages_ok more, serve_like decodes.writesLike, serve, encoded, service,
    Framer.messages_encodeAll _ next after bytes _ encoded]

/-- Replies that cannot be encoded end the service. -/
theorem service_refused {message : Message} {error : ProtocolError}
    (decodes : framer.Decodes source (.ok message) next left)
    (refused : next.encodeAll (server.replies info (some player) message) = .error error)
    (more : Bytes) :
    server.service info player framer (source ++ more) =
      (server.calls info (some player) message, []) := by
  rw [service, decodes.messages_ok more, serve_like decodes.writesLike, serve, refused]

end Service

end Server

namespace PayloadCodec

theorem returns_readPath {property : Message → Prop} (walks : ∀ route, property (.walk route))
    (path trailer : Bytes) : (readPath path trailer).Returns property := by
  unfold readPath
  split
  · exact Reader.returns_refuse _
  · split
    · exact Reader.returns_refuse _
    · split
      · exact Reader.returns_pure (walks _)
      · exact Reader.returns_refuse _

theorem returns_readWalk {property : Message → Prop} (walks : ∀ route, property (.walk route))
    (opcode : UInt8) : (readWalk opcode).Returns property := by
  unfold readWalk
  refine Reader.returns_bind fun payload => ?_
  split
  · split
    · exact Reader.returns_refuse _
    · exact returns_readPath walks _ _
  · exact returns_readPath walks _ _

/-- Every message that a codec of the game decodes is accepted in the game. -/
theorem game_decode (binding : Inbound) (bound : Table.game.find? binding.opcode = some binding)
    (opcode : UInt8) (payload : Bytes) (message : Message)
    (decoded : binding.codec.decode opcode payload = .ok message) :
    Session.accepts .inGame message.kind = true := by
  obtain ⟨reads, member, same⟩ := Table.exists_of_find?_of bound
  subst same
  simp only [Table.gameInbound, List.mem_cons, List.not_mem_nil, or_false] at member
  have accepted {reader : Reader Message} {kind : Message.Kind}
      (returns : reader.Returns fun message => Session.accepts .inGame message.kind = true)
      (read : Reader.message kind reader payload = .ok message) :
      Session.accepts .inGame message.kind = true :=
    Reader.message_ok _ returns read
  rcases member with same | same | same | same | same | same | same
  all_goals subst same
  · exact accepted (Reader.returns_pure rfl) decoded
  · refine accepted ?_ decoded
    refine Reader.returns_bind fun effects => ?_
    refine Reader.returns_bind fun color => ?_
    refine Reader.returns_bind fun text => ?_
    exact Reader.returns_pure rfl
  · exact accepted (Reader.returns_map fun line => rfl) decoded
  all_goals exact accepted (returns_readWalk (fun route => rfl) _) decoded

end PayloadCodec

namespace Framer

/-- A message among bytes that a framer at rest reads was decoded by a codec of its table. -/
theorem mem_messages (framer : Framer) (idle : framer.progress = .idle) (source : Bytes)
    (message : Message) (member : message ∈ framer.messages source) :
    ∃ binding opcode payload, framer.table.find? binding.opcode = some binding ∧
      binding.codec.decode opcode payload = .ok message := by
  have less := decode_work_lt framer source
  rw [messages_eq] at member
  split at member
  · next first found =>
      obtain ⟨binding, frame, taken, decoded⟩ := decode_some framer source first found
      obtain ⟨byte, _, _, bound, _, after⟩ := takeFrame_some framer source binding frame idle taken
      have named := Table.opcode_of_find? _ _ _ bound
      have final : (framer.decode source).framer =
          { (framer.reveal byte).2 with progress := .idle } := after
      rcases List.mem_cons.mp member with same | later
      · subst same
        exact ⟨binding, frame.opcode, frame.payload, named ▸ bound, decoded⟩
      · have fewer := less (Cut.settled_of_some _ first found)
        obtain ⟨other, opcode, payload, known, read⟩ :=
          mem_messages (framer.decode source).framer (by rw [final]) _ message later
        have table : (framer.decode source).framer.table = framer.table := by
          rw [final]
          exact (reveal_rules framer byte).1
        rw [table] at known
        exact ⟨other, opcode, payload, known, read⟩
  · cases member
termination_by framer.work source
decreasing_by exact fewer

/-- Every message that the framer of the game decodes is accepted in the game. -/
theorem accepts_of_mem_messages (limit : Nat) (pair : KeystreamPair) (source : Bytes)
    (message : Message) (member : message ∈ (ciphered .game limit pair).messages source) :
    Session.accepts .inGame message.kind = true := by
  obtain ⟨binding, opcode, payload, bound, decoded⟩ := mem_messages _ rfl source message member
  exact PayloadCodec.game_decode binding bound opcode payload message decoded

/-- The opcode of a ping is hidden by the next byte of the keystream. -/
theorem decode_ping (limit : Nat) (pair : KeystreamPair) (more : Bytes) :
    (ciphered .game limit pair).decode (pair.incoming.nextByte.1 :: more) =
      ⟨.ok (some .ping), ciphered .game limit (pair.skipIncoming 1), 1, more⟩ := by
  have shown := reveal_hidden (ciphered .game limit pair) pair 0 rfl
  rw [UInt8.zero_add] at shown
  have taken := takeFrame_frame _ _ _ _ (Reads.entry ⟨0, .fixed 0, .ping⟩) [] more rfl shown rfl
    rfl (Nat.zero_le _)
  simp only [Reads.entry, LengthRule.header, List.append_nil, List.cons_append,
    List.nil_append] at taken
  rw [decode, taken]
  rfl

end Framer

namespace Session

/-- A session hears the message that stands before it. -/
theorem hear_message {session : Session} {message : Message} {next : Framer} {left : Bytes}
    (opened : session.isClosed = false) (sound : session.pipe.readFault = false)
    (decodes : session.framer.Decodes session.unread (.ok (some message)) next left)
    (accepted : accepts session.phase message.kind = true) (since limit now : Nat) :
    (session.hear since limit now).1 = .message message ∧
      (session.hear since limit now).2.info = session.info := by
  have whole := List.append_nil session.unread ▸ decodes
  have hears := session.hears_hear since limit now opened
  generalize session.hear since limit now = heard at hears
  obtain ⟨hearing, next⟩ := heard
  dsimp only at hears ⊢
  cases hears with
  | message other next settles =>
      cases (settles.decodes.unique whole).1
      exact ⟨rfl, settles.kept.info⟩
  | waiting next continues starved => exact absurd decodes (starved.not_decodes continues.leads)
  | ended next continues starved => exact absurd decodes (starved.not_decodes continues.leads)
  | late next continues starved => exact absurd decodes (starved.not_decodes continues.leads)
  | failed error next fails =>
      cases fails with
      | unexpected other next settles refused =>
          cases (settles.decodes.unique whole).1
          rw [accepted] at refused
          cases refused
      | broken error next settles => cases (settles.decodes.unique whole).1
      | cutShort next continues starved =>
          exact absurd decodes (starved.not_decodes continues.leads)
      | disturbed next continues fault =>
          rw [sound] at fault
          cases fault

/-- Only a refused login is told of its end. -/
theorem conclude_pipe (session : Session) (result : Except SessionError Unit)
    (silent : ∀ error, result = .error error → error.refusal? = none) :
    (session.conclude result).pipe.written = session.pipe.written ∧
      (session.conclude result).pipe.ended = session.pipe.ended := by
  cases result with
  | ok value => exact close_pipe session
  | error error =>
      rw [conclude, silent error rfl]
      exact close_pipe session

/-- A session in the game, which will decode no message that does not belong there. -/
structure Gaming (info : SessionInfo) (session : Session) : Prop where
  phase : session.phase = .inGame
  info : session.info = info
  queued : session.queued.toList = []
  fitting : ∀ more, ∀ message ∈ session.framer.messages (session.unread ++ more),
    accepts .inGame message.kind = true

/-- With these reports and with what was written, the second session has served what the first one
had before it and it has not. -/
def Serves (server : Server) (info : SessionInfo) (player : Player) (before : Session)
    (reports : List Report) (after : Session) : Prop :=
  ∃ bytes, after.pipe.written.toList = before.pipe.written.toList ++ bytes ∧
    ∀ more,
      server.service info player before.framer (before.unread ++ more) =
        (reports ++ (server.service info player after.framer (after.unread ++ more)).1,
          bytes ++ (server.service info player after.framer (after.unread ++ more)).2)

/-- With these reports, the session is served to the end, unless more bytes come. -/
def Served (server : Server) (info : SessionInfo) (player : Player) (session : Session)
    (reports : List Report) : Prop :=
  ∀ more, (session.pipe.ended = true → more = []) →
    server.service info player session.framer (session.unread ++ more) = (reports, [])

variable {server : Server} {info : SessionInfo} {player : Player} {session next : Session}

theorem Continues.serves (continues : Continues session next) :
    Serves server info player session [] next := by
  refine ⟨[], ?_, ?_⟩
  · rw [continues.kept.written, List.append_nil]
  · intro more
    rw [Server.service_leads continues.leads]
    rfl

theorem Starved.service (starved : next.Starved) :
    server.service info player next.framer next.unread = ([], []) :=
  Server.service_of_open starved.2

/-- A session whose client has stopped sending and that waits for bytes is served. -/
theorem Continues.served (continues : Continues session next) (starved : next.Starved)
    (finished : session.pipe.ended = true) : Served server info player session [] := by
  intro more none
  rw [Server.service_leads continues.leads, none finished, List.append_nil, starved.service]

theorem Gaming.continues (gaming : Gaming info session) (continues : Continues session next) :
    Gaming info next where
  phase := continues.kept.phase.trans gaming.phase
  info := continues.kept.info.trans gaming.info
  queued := by rw [continues.kept.queued, gaming.queued]
  fitting more message member := by
    rw [← continues.leads.messages] at member
    exact gaming.fitting more message member

/-- A session in the game decodes only what it accepts. -/
theorem Gaming.accepts (gaming : Gaming info session) {message : Message}
    (settles : Settles session (.ok message) next) :
    Session.accepts session.phase message.kind = true := by
  rw [gaming.phase]
  refine gaming.fitting [] message ?_
  rw [settles.decodes.messages_ok]
  exact List.mem_cons_self

/-- The replies to a message are sent, and the session stays in the game. -/
theorem Gaming.answered (gaming : Gaming info session) {message : Message} {after : Session}
    (settles : Settles session (.ok message) next)
    (sent : sendAll (server.replies info (some player) message) next = .ok () after) :
    Gaming info after ∧ KeptByWrite next after ∧
      Serves server info player session (server.calls info (some player) message) after := by
  have clean : next.queued.toList = [] := by rw [settles.kept.queued, gaming.queued]
  obtain ⟨bytes, encoded, kept, queued, written⟩ := sendAll_ok _ next after clean sent
  have unread := kept.unread
  refine ⟨⟨?_, ?_, queued, ?_⟩, kept, bytes, ?_, ?_⟩
  · rw [kept.phase, settles.kept.phase, gaming.phase]
  · rw [kept.info, settles.kept.info, gaming.info]
  · intro more later member
    rw [unread, Framer.messages_encodeAll _ _ _ _ _ encoded] at member
    refine gaming.fitting more later ?_
    rw [settles.decodes.messages_ok]
    exact List.mem_cons_of_mem _ member
  · rw [written, settles.kept.written]
  · intro more
    rw [Server.service_answered settles.decodes encoded, unread]

end Session

namespace Connection

/-- The message that stands before a player's connection is offered to its handler. -/
theorem reports_play {server : Server} {session : Session} {message : Message} {next : Framer}
    {left : Bytes} (opened : session.isClosed = false) (sound : session.pipe.readFault = false)
    (decodes : session.framer.Decodes session.unread (.ok (some message)) next left)
    (accepted : Session.accepts session.phase message.kind = true) (now : Nat)
    (registry : PlayerRegistry) (player : Player) (since : Nat) :
    (play server now registry session player since).reports =
      server.calls session.info (some player) message := by
  obtain ⟨heard, named⟩ := Session.hear_message opened sound decodes accepted since
    server.settings.idleLimit now
  rw [play]
  generalize session.hear since server.settings.idleLimit now = hears at heard named
  obtain ⟨hearing, next⟩ := hears
  dsimp only at heard named ⊢
  subst heard
  dsimp only
  rw [offer_eq, named]
  dsimp only
  split <;> rfl

/-- What a move of a player's connection comes to if it is not late. -/
inductive Plays (server : Server) (info : SessionInfo) (player : Player) (session : Session)
    (ended : Bool) (moved : Move) : Prop where
  | goesOn (since : Nat) (stage : moved.connection.stage = .playing player since)
      (gaming : moved.connection.session.Gaming info)
      (sound : moved.connection.session.pipe.Sound ended)
      (serves : session.Serves server info player moved.reports moved.connection.session)
  | ends (result : Except SessionError Unit)
      (stage : moved.connection.stage = .leaving result player)
      (written : moved.connection.session.pipe.written = session.pipe.written)
      (finished : moved.connection.session.pipe.ended = session.pipe.ended)
      (served : session.Served server info player moved.reports)

theorem plays_play {server : Server} {info : SessionInfo} {session : Session} {ended : Bool}
    (gaming : session.Gaming info) (sound : session.pipe.Sound ended) (now : Nat)
    (registry : PlayerRegistry) (player : Player) (since : Nat)
    (timely : (session.hear since server.settings.idleLimit now).1 ≠ .failed .timedOut) :
    Plays server info player session ended (play server now registry session player since) := by
  have opened := Session.isClosed_of_phase gaming.phase (by decide)
  have hears := session.hears_hear since server.settings.idleLimit now opened
  generalize same : play server now registry session player since = moved
  unfold play at same
  generalize session.hear since server.settings.idleLimit now = heard at hears timely same
  obtain ⟨hearing, next⟩ := heard
  dsimp only at hears timely same
  -- An end that the client is not told of leaves the pipe as the read has left it.
  have left (next : Session) (kept : session.KeptByRead next)
      (result : Except SessionError Unit) (reports : List Report)
      (silent : ∀ error, result = .error error → error.refusal? = none)
      (served : session.Served server info player reports) :
      Plays server info player session ended (leave next result player registry reports) := by
    obtain ⟨written, finished⟩ := next.conclude_pipe result silent
    exact .ends result rfl (written.trans kept.written) (finished.trans kept.ended) served
  cases hears with
  | late next continues starved elapsed => exact absurd rfl timely
  | waiting next continues starved going early =>
      subst same
      exact .goesOn since rfl (gaming.continues continues) (continues.kept.sound sound)
        continues.serves
  | ended next continues starved finished =>
      subst same
      refine left next continues.kept _ _ ?_ (continues.served starved finished)
      intro error none
      cases none
  | failed error next fails =>
      subst same
      cases fails with
      | unexpected message next settles refused =>
          rw [gaming.accepts settles] at refused
          cases refused
      | broken error next settles =>
          refine left next settles.kept _ _ ?_ ?_
          · intro other same
            cases same
            rfl
          · intro more _
            exact Server.service_broken settles.decodes more
      | cutShort next continues starved finished =>
          refine left next continues.kept _ _ ?_ (continues.served starved finished)
          intro other same
          cases same
          rfl
      | disturbed next continues fault =>
          rw [sound.readFault] at fault
          cases fault
  | message message next settles accepted =>
      have named := settles.kept.info.trans gaming.info
      have going := (settles.kept.isClosed).trans opened
      have writable := (settles.kept.sound sound).writable
      dsimp only at same
      rw [offer_eq, named] at same
      dsimp only at same
      split at same
      · next error after refused =>
          subst same
          obtain ⟨cause, failed, wording, pipe⟩ :=
            Session.sendAll_error _ next after error going writable refused
          subst wording
          obtain ⟨written, finished⟩ := after.conclude_pipe (.error (.protocol cause)) (by
            intro other same
            cases same
            rfl)
          refine .ends _ rfl ?_ ?_ ?_
          · exact written.trans (pipe ▸ settles.kept.written)
          · exact finished.trans (pipe ▸ settles.kept.ended)
          · intro more _
            exact Server.service_refused settles.decodes failed more
      · next after sent =>
          subst same
          obtain ⟨stays, kept, serves⟩ := gaming.answered settles sent
          exact .goesOn now rfl stays (kept.sound (settles.kept.sound sound)) serves

/-- A player's connection waits only when every message has been served. -/
theorem service_of_waits {server : Server} {info : SessionInfo} {session : Session}
    (gaming : session.Gaming info) (now : Nat) (registry : PlayerRegistry) (player : Player)
    (since : Nat) (waits : (play server now registry session player since).waits = true) :
    server.service info player session.framer session.unread = ([], []) := by
  have opened := Session.isClosed_of_phase gaming.phase (by decide)
  have hears := session.hears_hear since server.settings.idleLimit now opened
  unfold play at waits
  generalize session.hear since server.settings.idleLimit now = heard at hears waits
  obtain ⟨hearing, next⟩ := heard
  dsimp only at hears waits
  cases hears with
  | waiting next continues starved going early =>
      have leads : server.service info player session.framer (session.unread ++ []) =
          server.service info player next.framer (next.unread ++ []) :=
        Server.service_leads continues.leads []
      rw [List.append_nil, List.append_nil] at leads
      rw [leads, starved.service]
  | message message next settles accepted =>
      dsimp only at waits
      split at waits <;> cases waits
  | ended next continues starved finished => cases waits
  | failed error next fails => cases waits
  | late next continues starved elapsed => cases waits

/-- A verdict is never waited for twice. -/
theorem concludeLogin_waits (server : Server) (now : Nat) (registry : PlayerRegistry)
    (session : Session) (attempt : LoginAttempt) (code : ResponseCode) :
    (concludeLogin server now registry session attempt code).waits = false := by
  unfold concludeLogin
  dsimp only
  split
  · split
    · rfl
    · split <;> rfl
  · rfl

/-- A branch that ends the wait leaves nothing to wait for. -/
theorem waits_of_ends {server : Server} {now : Nat} {registry : PlayerRegistry} {session : Session}
    {attempt : LoginAttempt} {since : Nat} {branch : Branch} {moved : Move}
    (ends : poll server now registry session attempt since branch = some (.ends moved)) :
    moved.waits = false := by
  cases branch with
  | verdict =>
      obtain ⟨verdict, _, same⟩ := Option.map_eq_some_iff.mp ends
      cases same
      exact concludeLogin_waits server now registry session attempt verdict.outcome
  | deadline =>
      simp only [poll] at ends
      split at ends
      · cases ends
        exact concludeLogin_waits server now registry session attempt _
      · cases ends
  | bytes =>
      simp only [poll] at ends
      split at ends
      · cases ends
      · split at ends
        · cases ends
          rfl
        · cases ends
          rfl
        · cases ends
        · cases ends

/-- Nobody waits who has a verdict. -/
theorem Awaits.undecided_of_waits {server : Server} {now : Nat} {registry : PlayerRegistry}
    {session : Session} {attempt : LoginAttempt} {since : Nat} {moved : Move}
    (awaits : Awaits server now registry attempt since session moved)
    (waits : moved.waits = true) : attempt.verdict = none := by
  induction awaits with
  | decided | late => cases (concludeLogin_waits ..).symm.trans waits
  | failed | left | reads => cases waits
  | waits session undecided => exact undecided
  | again session next count moved room taken later ih => exact ih waits

/-- A player who has joined the registry is told so, and then the game begins with the bytes that
were not decoded. -/
theorem concludeLogin_ok {server : Server} (reference : server.gameTable = .game) {limit : Nat}
    {session : Session} (plain : session.Plain limit .authenticating) {ended : Bool}
    (sound : session.pipe.Sound ended) (now : Nat) {registry joined : PlayerRegistry}
    (attempt : LoginAttempt) {code : ResponseCode} (success : code.isSuccess = true)
    (joining : registry.join attempt.player = .ok joined) (common : attempt.player.privilege = 0) :
    ∃ next, concludeLogin server now registry session attempt code =
        ⟨⟨next, .playing attempt.player now⟩, joined, [], false⟩ ∧
      next.Gaming session.info ∧ next.framer = .ciphered .game limit (.server attempt.keys) ∧
      next.unread = session.unread ∧ next.pipe.Sound ended ∧
      next.pipe.written.toList = session.pipe.written.toList ++ loginAnswer code := by
  have opened := Session.isClosed_of_phase plain.phase (by decide)
  have encoded := Framer.encodeAll_loginResponse limit code
  rw [← plain.framer] at encoded
  obtain ⟨told, sent⟩ := Session.sendAll_sound _ session _ _ opened sound.writable encoded
  obtain ⟨bytes, same, kept, queued, written⟩ := Session.sendAll_ok _ session told plain.queued sent
  rw [encoded, Except.ok.injEq, Prod.mk.injEq] at same
  obtain ⟨framer, answer⟩ := same
  subst answer
  have phase := kept.phase.trans plain.phase
  have enters : Session.enterGame server.gameTable (.server attempt.keys) told = .ok ()
      { told with phase := .inGame, framer := .ciphered .game limit (.server attempt.keys) } := by
    rw [Session.enterGame, Session.during_eq _ _ _ told phase (by decide), reference, ← framer,
      plain.framer]
    rfl
  refine ⟨{ told with phase := .inGame, framer := .ciphered .game limit (.server attempt.keys) },
    ?_, ⟨rfl, kept.info, queued, ?_⟩, rfl, kept.unread, kept.sound sound, written⟩
  · rw [concludeLogin, if_pos success, joining]
    dsimp only
    rw [common, Session.Action.andThen, Session.send_eq, sent]
    dsimp only
    rw [enters]
  · intro more message member
    exact Framer.accepts_of_mem_messages limit _ _ message member

end Connection

end GameServer
