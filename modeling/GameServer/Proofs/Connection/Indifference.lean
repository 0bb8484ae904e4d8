import GameServer.Proofs.Connection.Admission
import GameServer.Proofs.Connection.Places
import GameServer.Proofs.Session.Written

/- This file shows that a login does not depend on handlers. -/

namespace GameServer

/-- The game goes on at this stage. -/
def Stage.isPlaying : Stage → Bool
  | .playing _ _ => true
  | _ => false

/-- The same server with other handlers. -/
def Server.withDispatcher (server : Server) (dispatcher : Dispatcher) : Server :=
  { server with dispatcher }

namespace Connection

open Life (questions)

/-- Nothing but the calls of handlers tells the moves apart. -/
structure Move.Alike (one two : Move) : Prop where
  connection : two.connection = one.connection
  registry : two.registry = one.registry
  waits : two.waits = one.waits
  questions : questions two.reports = questions one.reports

theorem Move.Alike.refl (moved : Move) : moved.Alike moved := ⟨rfl, rfl, rfl, rfl⟩

/-- A handler asks the authenticator nothing. -/
theorem questions_offer (server : Server) (session : Session) (player : Option Player)
    (message : Message) : questions (offer server session player message).1 = [] := by
  rw [offer, Dispatcher.dispatch]
  cases server.dispatcher.handler? message.kind <;> rfl

section Alike

variable {server : Server} {other : Dispatcher} {now : Nat} {registry : PlayerRegistry}
  {session : Session} {since : Nat}

theorem awaitHandshake_alike :
    (awaitHandshake server now registry session since).Alike
      (awaitHandshake (server.withDispatcher other) now registry session since) := by
  simp only [awaitHandshake, Server.withDispatcher]
  generalize session.hear since server.settings.handshakeLimit now = heard
  obtain ⟨hearing, next⟩ := heard
  cases hearing with
  | failed error => exact .refl _
  | ended => exact .refl _
  | waiting => exact .refl _
  | message message =>
      dsimp only
      cases Session.respondToHandshake next with
      | error error last =>
          exact ⟨rfl, rfl, rfl, (questions_offer _ _ _ _).trans (questions_offer _ _ _ _).symm⟩
      | ok value last =>
          exact ⟨rfl, rfl, rfl, (questions_offer _ _ _ _).trans (questions_offer _ _ _ _).symm⟩

theorem authenticate_alike (block : LoginBlock) (keys : SessionKeys) {reports more : List Report}
    (same : questions more = questions reports) (picks : List Branch) :
    (authenticate server now registry session block keys reports picks).Alike
      (authenticate (server.withDispatcher other) now registry session block keys more picks) := by
  have undispatched : authenticate (server.withDispatcher other) now registry session block keys
      more picks = authenticate server now registry session block keys more picks := rfl
  rw [undispatched, authenticate, authenticate]
  cases Session.beginAuthentication session with
  | error error next => exact ⟨rfl, rfl, rfl, same⟩
  | ok value next =>
      dsimp only
      by_cases hopeless :
          server.settings.authenticationLimit = 0 ∧ picks.headD .deadline = .deadline
      · rw [if_pos hopeless, if_pos hopeless]
        exact ⟨rfl, rfl, rfl, same⟩
      · rw [if_neg hopeless, if_neg hopeless]
        refine ⟨rfl, rfl, rfl, ?_⟩
        rw [Life.questions_append, Life.questions_append, same]

theorem awaitLogin_alike (picks : List Branch) :
    (awaitLogin server now registry session since picks).Alike
      (awaitLogin (server.withDispatcher other) now registry session since picks) := by
  have offers (session : Session) (message : Message) :
      questions (offer (server.withDispatcher other) session none message).1 =
        questions (offer server session none message).1 :=
    (questions_offer _ _ _ _).trans (questions_offer _ _ _ _).symm
  have settings : (server.withDispatcher other).settings = server.settings := rfl
  simp only [awaitLogin, settings]
  generalize session.hear since server.settings.handshakeLimit now = heard
  obtain ⟨hearing, next⟩ := heard
  cases hearing with
  | failed error => exact .refl _
  | ended => exact .refl _
  | waiting => exact .refl _
  | message message =>
      cases message with
      | login block =>
          dsimp only
          cases server.settings.loginPolicy.validate block next.serverKey with
          | error code => exact ⟨rfl, rfl, rfl, offers next _⟩
          | ok keys => exact authenticate_alike block keys (offers next _) picks
      | _ => exact ⟨rfl, rfl, rfl, offers next _⟩

/-- The wait for a verdict calls no handler. -/
theorem awaitVerdict_withDispatcher (attempt : LoginAttempt) (picks : List Branch) :
    awaitVerdict (server.withDispatcher other) now registry session attempt since picks =
      awaitVerdict server now registry session attempt since picks := by
  have selects (session : Session) (pick : Branch) :
      select (server.withDispatcher other) now registry session attempt since pick =
        select server now registry session attempt since pick := rfl
  induction picks generalizing session with
  | nil => rw [awaitVerdict.eq_def, awaitVerdict.eq_def server, selects]
  | cons pick rest ih =>
      rw [awaitVerdict.eq_def, awaitVerdict.eq_def server, selects]
      simp only [ih]

/-- A connection outside the game moves in the same way whatever handlers there are. -/
theorem move_alike (server : Server) (other : Dispatcher) (now : Nat) (registry : PlayerRegistry)
    (connection : Connection) (picks : List Branch)
    (quiet : connection.stage.isPlaying = false) :
    (connection.move server now registry picks).Alike
      (connection.move (server.withDispatcher other) now registry picks) := by
  obtain ⟨session, stage⟩ := connection
  cases stage with
  | handshake since => exact awaitHandshake_alike
  | login since => exact awaitLogin_alike picks
  | authenticating attempt since =>
      rw [move, move]
      dsimp only
      rw [awaitVerdict_withDispatcher]
      exact .refl _
  | playing player since => cases quiet
  | leaving result player => exact .refl _
  | finished result => exact .refl _

end Alike

/-- The last bytes that the session has written tell the client of the success of the login. -/
def Welcomed (server : Server) (session : Session) (player : Player) : Prop :=
  ∃ code framer front bytes, code.isSuccess = true ∧
    Framer.encode (.loginResponse ⟨code, player.privilege, false⟩)
      (.plain server.loginTable server.settings.maxPayload, []) = .ok () (framer, bytes) ∧
    session.pipe.written.toList = front ++ bytes

/-- The session comes from the beginning of a connection. -/
def Begun (server : Server) (session : Session) : Prop :=
  ∃ info pipe serverKey,
    (Session.start info pipe (.plain server.loginTable server.settings.maxPayload)
      serverKey).Reaches session

/-- Before the game everything is written with the framer of the login. -/
theorem Begun.writesLike {server : Server} {session : Session} (begun : Begun server session)
    (before : session.phase = .authenticating) :
    session.framer.WritesLike (.plain server.loginTable server.settings.maxPayload) := by
  obtain ⟨info, pipe, serverKey, events, rfl⟩ := begun
  obtain ⟨course, _⟩ := Session.course_of_start info pipe server.loginTable .idle
    server.settings.maxPayload serverKey events
  have framed := course.framed
  generalize Session.entries _ events = entered at framed
  cases framed with
  | plain same bare => exact ⟨same, congrArg (Option.map _) bare⟩
  | ciphered entered pair same hidden within =>
      rcases within with within | within <;> cases before.symm.trans within

theorem concludeLogin_welcomed {server : Server} {now : Nat} {registry : PlayerRegistry}
    {session : Session} {attempt : LoginAttempt} {code : ResponseCode} {player : Player}
    {since : Nat} (begun : Begun server session)
    (playing : (concludeLogin server now registry session attempt code).connection.stage =
      .playing player since) :
    Welcomed server (concludeLogin server now registry session attempt code).connection.session
      player := by
  unfold concludeLogin at playing ⊢
  dsimp only at playing ⊢
  split at playing
  · next success =>
      rw [if_pos success]
      split at playing
      · cases playing
      · next joined joining =>
          split at playing
          · cases playing
          · next last welcome =>
              cases playing
              obtain ⟨middle, sent, entered⟩ := Session.andThen_ok _ _ session last () welcome
              obtain ⟨place, entered⟩ := Session.during_ok entered
              have stays := Session.stays_send
                (.loginResponse ⟨code, attempt.player.privilege, false⟩) session
              rw [sent, Session.after] at stays
              obtain ⟨queuing, queued, flushed⟩ := Session.andThen_ok _ _ session middle () sent
              obtain ⟨bytes, encoded, same⟩ := Session.queue_ok _ session queuing queued
              obtain ⟨_, _, _, written⟩ := Session.flush_ok queuing middle flushed
              have like := (begun.writesLike (stays.phase.symm.trans place)).encode
                (.loginResponse ⟨code, attempt.player.privilege, false⟩)
              rw [encoded] at like
              rcases like with ⟨error, _, _, failed, _⟩ | ⟨_, framer, _, mine, plain, _⟩
              · cases failed
              · cases mine
                cases entered
                refine ⟨code, framer, session.pipe.written.toList ++ session.queued.toList, bytes,
                  success, plain, ?_⟩
                rw [written, same]
                simp only [ByteQueue.toList_push, List.append_assoc]
  · cases playing

theorem Begun.reaches {server : Server} {session next : Session} (begun : Begun server session)
    (reaches : session.Reaches next) : Begun server next := by
  obtain ⟨info, pipe, serverKey, before⟩ := begun
  exact ⟨info, pipe, serverKey, before.trans reaches⟩

theorem Awaits.welcomed {server : Server} {now : Nat} {registry : PlayerRegistry}
    {session : Session} {attempt : LoginAttempt} {player : Player} {since began : Nat}
    {moved : Move} (awaits : Awaits server now registry attempt began session moved)
    (begun : Begun server session) (playing : moved.connection.stage = .playing player since) :
    Welcomed server moved.connection.session player := by
  induction awaits with
  | decided | late => exact concludeLogin_welcomed begun playing
  | failed | left | waits | reads => cases playing
  | again session next count moved room taken later ih =>
      have reaches := session.reaches_buffer
      rw [taken] at reaches
      exact ih (begun.reaches reaches) playing

/-- The game begins with a response to the login. -/
theorem move_welcomed {server : Server} {now : Nat} {registry : PlayerRegistry}
    {connection : Connection} {player : Player} {since : Nat}
    (begun : Begun server connection.session) (quiet : connection.stage.isPlaying = false)
    {picks : List Branch}
    (playing : (connection.move server now registry picks).connection.stage =
      .playing player since) :
    Welcomed server (connection.move server now registry picks).connection.session player := by
  have joined : connection.stage.candidate? = some player := by
    have inside : (connection.move server now registry picks).connection.stage.player? =
        some player := by
      rw [playing]
      rfl
    cases (move_moves server now registry connection picks).transit with
    | stays same outside =>
        have before := outside.symm.trans inside
        cases stage : connection.stage with
        | leaving result player =>
            rw [Connection.move, stage] at playing
            cases playing
        | playing player since =>
            rw [stage] at quiet
            cases quiet
        | handshake | login | authenticating | finished =>
            rw [stage] at before
            cases before
    | joins other outside candidate joining entered =>
        rw [candidate, ← entered, inside]
    | leaves result other stage after =>
        rw [after] at playing
        cases playing
  obtain ⟨session, stage⟩ := connection
  cases stage with
  | authenticating attempt began =>
      exact (awaits_awaitVerdict session picks).welcomed begun playing
  | handshake | login | finished => cases joined
  | playing => cases quiet
  | leaving => cases playing

end Connection

namespace Life

open Connection (Happening Begun Welcomed)

/-- The life at the moment at which the game begins, or the last one if it does not begin. -/
def upToGame (server : Server) (life : Life) : List Happening → Life
  | [] => life
  | happening :: rest =>
      if life.connection.stage.isPlaying then life
      else upToGame server (life.next server happening) rest

/-- The player that joins in what happens, with the registry that is left. -/
def admitted (server : Server) (life : Life) : Happening → List (Player × PlayerRegistry)
  | .move seconds registry picks =>
      let moved := life.moveAfter server seconds registry picks
      match life.connection.stage.player?, moved.connection.stage.player? with
      | none, some player => [(player, moved.registry)]
      | _, _ => []
  | _ => []

/-- The players that join one after another. -/
def admissions (server : Server) (life : Life) : List Happening → List (Player × PlayerRegistry)
  | [] => []
  | happening :: rest =>
      life.admitted server happening ++ admissions server (life.next server happening) rest

/-- Nothing but the calls of handlers tells the lives apart. -/
structure Alike (one two : Life) : Prop where
  now : two.now = one.now
  connection : two.connection = one.connection
  sent : two.sent = one.sent
  questions : questions two.reports = questions one.reports

theorem Alike.refl (life : Life) : life.Alike life := ⟨rfl, rfl, rfl, rfl⟩

variable {server : Server} {other : Dispatcher} {life mirror : Life} {happening : Happening}
  {history : List Happening}

/-- What happens outside the game is the same whatever handlers there are. -/
theorem Alike.next (alike : life.Alike mirror)
    (quiet : life.connection.stage.isPlaying = false) (happening : Happening) :
    (life.next server happening).Alike (mirror.next (server.withDispatcher other) happening) ∧
      mirror.admitted (server.withDispatcher other) happening = life.admitted server happening := by
  obtain ⟨now, connection, reports, sent⟩ := life
  obtain ⟨later, twin, others, more⟩ := mirror
  obtain ⟨now, connection, sent, questions⟩ := alike
  dsimp only at now connection sent questions
  subst now connection sent
  cases happening with
  | deliver | finish => exact ⟨⟨rfl, rfl, rfl, questions⟩, rfl⟩
  | disturb call => exact ⟨⟨rfl, rfl, rfl, questions⟩, rfl⟩
  | answer verdict => exact ⟨⟨rfl, rfl, rfl, questions⟩, rfl⟩
  | move seconds registry picks =>
      have moves := Connection.move_alike server other (later + seconds) registry twin picks quiet
      refine ⟨⟨rfl, moves.connection, rfl, ?_⟩, ?_⟩
      · simp only [Life.next, moveAfter, questions_append, questions, moves.questions]
      · simp only [admitted, moveAfter, moves.connection, moves.registry]

/-- In the game nobody joins and nothing is asked. -/
theorem quiet_run {player : Player} (played : life.connection.Played player)
    (history : List Happening) :
    questions (life.run server history).reports = questions life.reports ∧
      life.admissions server history = [] := by
  induction history generalizing life with
  | nil => exact ⟨rfl, rfl⟩
  | cons happening rest ih =>
      obtain ⟨same, none⟩ := ih (played.next server happening)
      rw [admissions, none, List.append_nil]
      cases happening with
      | deliver | finish | disturb | answer => exact ⟨same, rfl⟩
      | move seconds registry picks =>
          have quiet := (played.move server (life.now + seconds) registry picks).1
          refine ⟨?_, ?_⟩
          · refine same.trans ?_
            have anonymous :
                questions (life.moveAfter server seconds registry picks).reports = [] := by
              rw [questions, List.filterMap_eq_nil_iff]
              intro report reported
              obtain ⟨call, called, _⟩ := quiet report reported
              rw [called]
            rw [Life.next, questions_append, anonymous, List.append_nil]
          · rcases played with ⟨since, stage⟩ | ⟨result, stage⟩ | ⟨result, stage⟩
            · rw [admitted, stage]
              rfl
            · rw [admitted, stage]
              rfl
            · simp only [admitted, moveAfter, Connection.move, stage]
              rfl

/-- Up to the game nothing differs but the calls of handlers, and later nobody joins and nothing is
asked. -/
theorem alike_run (alike : life.Alike mirror) (history : List Happening) :
    let twin := server.withDispatcher other
    (life.upToGame server history).Alike (mirror.upToGame twin history) ∧
      questions (mirror.run twin history).reports = questions (life.run server history).reports ∧
      mirror.admissions twin history = life.admissions server history := by
  intro twin
  induction history generalizing life mirror with
  | nil => exact ⟨alike, alike.questions, rfl⟩
  | cons happening rest ih =>
      cases playing : life.connection.stage.isPlaying with
      | false =>
          obtain ⟨next, admitted⟩ := alike.next playing happening
          obtain ⟨gate, questions, admissions⟩ := ih next
          have same : mirror.connection.stage.isPlaying = false := by
            rw [alike.connection, playing]
          refine ⟨?_, questions, ?_⟩
          · rw [upToGame, upToGame, playing, same]
            exact gate
          · rw [Life.admissions, Life.admissions, admitted, admissions]
      | true =>
          have same : mirror.connection.stage.isPlaying = true := by
            rw [alike.connection, playing]
          have played : ∃ player, life.connection.Played player := by
            cases stage : life.connection.stage with
            | playing player since => exact ⟨player, .inl ⟨since, stage⟩⟩
            | handshake | login | authenticating | leaving | finished =>
                rw [stage] at playing
                cases playing
          obtain ⟨player, played⟩ := played
          have mirrored : mirror.connection.Played player := by
            rw [alike.connection]
            exact played
          obtain ⟨one, none⟩ := quiet_run played (happening :: rest)
          obtain ⟨two, nobody⟩ := quiet_run mirrored (happening :: rest)
          refine ⟨?_, ?_, ?_⟩
          · rw [upToGame, upToGame, playing, same]
            exact alike
          · rw [two, one, alike.questions]
          · rw [nobody, none]

/-- A game that has not begun leaves the life where it is. -/
theorem upToGame_of_quiet
    (quiet : (life.upToGame server history).connection.stage.isPlaying = false) :
    life.upToGame server history = life.run server history := by
  induction history generalizing life with
  | nil => rfl
  | cons happening rest ih =>
      rw [upToGame] at quiet ⊢
      split at quiet
      · next playing =>
          rw [playing] at quiet
          cases quiet
      · next before =>
          rw [if_neg before]
          exact ih quiet

theorem reaches_next (server : Server) (life : Life) (happening : Happening) :
    life.connection.session.Reaches (life.next server happening).connection.session := by
  cases happening with
  | deliver bytes => exact ⟨[.deliver bytes], rfl⟩
  | finish => exact ⟨[.finish], rfl⟩
  | disturb call => exact ⟨[.disturb call], rfl⟩
  | answer verdict =>
      have same : (life.connection.resolve verdict).session = life.connection.session := by
        rw [Connection.resolve]
        split <;> rfl
      rw [next, same]
      exact .refl _
  | move seconds registry picks =>
      exact (Connection.move_moves server (life.now + seconds) registry life.connection
        picks).session

theorem reaches_run (server : Server) (life : Life) (history : List Happening) :
    life.connection.session.Reaches (life.run server history).connection.session := by
  induction history generalizing life with
  | nil => exact .refl _
  | cons happening rest ih => exact (reaches_next server life happening).trans (ih _)

/-- What happens in the game happens after what leads up to it. -/
theorem upToGame_reaches (server : Server) (life : Life) (history : List Happening) :
    (life.upToGame server history).connection.session.Reaches
      (life.run server history).connection.session := by
  induction history generalizing life with
  | nil => exact .refl _
  | cons happening rest ih =>
      rw [upToGame]
      split
      · exact reaches_run server life (happening :: rest)
      · exact ih _

/-- A game that begins does so with a response to the login. -/
theorem welcomed_upToGame {player : Player} {since : Nat}
    (begun : Begun server life.connection.session)
    (quiet : life.connection.stage.isPlaying = false)
    (playing : (life.upToGame server history).connection.stage = .playing player since) :
    Welcomed server (life.upToGame server history).connection.session player := by
  induction history generalizing life with
  | nil =>
      rw [upToGame] at playing
      rw [playing] at quiet
      cases quiet
  | cons happening rest ih =>
      have later : Begun server (life.next server happening).connection.session :=
        begun.reaches (reaches_next server life happening)
      rw [upToGame, if_neg (by rw [quiet]; exact Bool.false_ne_true)] at playing ⊢
      cases still : (life.next server happening).connection.stage.isPlaying with
      | false => exact ih later still playing
      | true =>
          have here : (life.next server happening).upToGame server rest =
              life.next server happening := by
            cases rest with
            | nil => rfl
            | cons => rw [upToGame, if_pos still]
          rw [here] at playing ⊢
          cases happening with
          | deliver | finish | disturb =>
              have same : life.connection.stage = .playing player since := playing
              rw [same] at quiet
              cases quiet
          | answer verdict =>
              have same : (life.connection.resolve verdict).stage = .playing player since := playing
              rw [Connection.resolve] at same
              split at same
              · cases same
              · rw [same] at quiet
                cases quiet
          | move seconds registry picks => exact Connection.move_welcomed begun quiet playing

/-- Two servers that differ in their handlers alone serve the same connection: up to the game it
writes the same bytes, of which the last ones tell of the success of the login if the game begins,
the authenticator is asked the same, the same player joins the same registry, and if the game does
not begin, both connections are in the same state and so have the same result. -/
theorem indifferent_run (server : Server) (other : Dispatcher) (info : SessionInfo)
    (serverKey : UInt64) (now : Nat) (history : List Happening) :
    let twin := server.withDispatcher other
    let born := start server info serverKey now
    let reborn := start twin info serverKey now
    let gate := born.upToGame server history
    let life := born.run server history
    let mirror := reborn.run twin history
    (reborn.upToGame twin history).connection.session.pipe.written =
        gate.connection.session.pipe.written ∧
      gate.connection.session.pipe.written.toList <+:
        life.connection.session.pipe.written.toList ∧
      gate.connection.session.pipe.written.toList <+:
        mirror.connection.session.pipe.written.toList ∧
      (∀ player since, gate.connection.stage = .playing player since →
        Welcomed server gate.connection.session player) ∧
      questions mirror.reports = questions life.reports ∧
      reborn.admissions twin history = born.admissions server history ∧
      (gate.connection.stage.isPlaying = false → mirror.connection = life.connection) := by
  intro twin born reborn gate life mirror
  obtain ⟨alike, asked, joined⟩ := alike_run (Alike.refl born) history
  have begun : Begun server born.connection.session := ⟨info, .fresh, serverKey, .refl _⟩
  have same : (reborn.upToGame twin history).connection = gate.connection := alike.connection
  have written : (reborn.upToGame twin history).connection.session.pipe.written =
      gate.connection.session.pipe.written := by rw [same]
  refine ⟨written, (upToGame_reaches server born history).written, ?_,
    fun player since => welcomed_upToGame begun rfl, asked, joined, fun quiet => ?_⟩
  · rw [← written]
    exact (upToGame_reaches twin reborn history).written
  · have still : (reborn.upToGame twin history).connection.stage.isPlaying = false := by
      rw [same]
      exact quiet
    have mine := congrArg connection (upToGame_of_quiet quiet)
    have yours := congrArg connection (upToGame_of_quiet still)
    exact yours.symm.trans (same.trans mine)

end Life

end GameServer
