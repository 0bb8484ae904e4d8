import GameServer.Proofs.Connection.Visit

/- This file shows what comes of a visit, and that there are visits of every kind. -/

namespace GameServer

open Connection (Happening)

/-- A visitor whose history goes without mishaps, until the authenticator has answered and nothing is
left to be done. -/
structure Visit (server : Server) extends Visitor server where
  begun : Nat
  history : List Happening
  smooth : Life.Along (Life.Smooth server code) server (.start server info serverKey begun) history
  sent : ((Life.start server info serverKey begun).run server history).sent =
    14 :: nameHash :: frame ++ game
  answered : ∀ attempt since,
    ((Life.start server info serverKey begun).run server history).connection.stage =
      .authenticating attempt since → attempt.verdict ≠ none
  rests : ∃ registry picks,
    (((Life.start server info serverKey begun).run server history).moveAfter server 0 registry
      picks).waits = true

namespace Visit

variable {server : Server}

/-- The life of the visitor when everything has happened. -/
def final (visit : Visit server) : Life :=
  (Life.start server visit.info visit.serverKey visit.begun).run server visit.history

/-- What the visitor can read. -/
def written (visit : Visit server) : Bytes :=
  visit.final.connection.session.pipe.written.toList

theorem outcome_eq (visit : Visit server) (login : server.loginTable = .login)
    (game : server.gameTable = .game) :
    visit.outcome visit.game = (visit.final.reports, visit.written) := by
  have within : visit.final.sent <+: visit.opening ++ visit.game :=
    ⟨[], (List.append_nil _).trans visit.sent⟩
  have stands := visit.stands_run login game visit.begun visit.history visit.smooth within
  obtain ⟨registry, picks, rests⟩ := visit.rests
  exact stands.served visit.sent visit.answered rests

end Visit

/-- Every wait has some time. -/
structure Settings.Patient (settings : Settings) : Prop where
  handshake : 0 < settings.handshakeLimit
  authentication : 0 < settings.authenticationLimit
  idle : 0 < settings.idleLimit

theorem Settings.standard_patient : Settings.standard.Patient :=
  ⟨by decide, by decide, by decide⟩

namespace Life

/-- A connection that moves often enough comes to rest. -/
theorem exists_rest (server : Server) (life : Life) (registry : PlayerRegistry) :
    ∃ count, ((life.run server (.replicate count (.move 0 registry []))).moveAfter server 0
      registry []).waits = true := by
  by_cases waits : (life.moveAfter server 0 registry []).waits = true
  · exact ⟨0, waits⟩
  · obtain ⟨count, rests⟩ := exists_rest server (life.next server (.move 0 registry [])) registry
    exact ⟨count + 1, rests⟩
termination_by life.connection.progress
decreasing_by
  exact Connection.progress_move server (life.now + 0) registry life.connection []
    (Bool.eq_false_iff.mpr waits)

theorem lt_verdictDue (since : Nat) {limit : Nat} (some : 0 < limit) :
    since < Connection.verdictDue since limit := by
  unfold Connection.verdictDue Connection.thirtyYears
  split <;> omega

/-- No time has run out at the first second, and an empty registry admits everybody. -/
theorem inTime_zero (server : Server) (patient : server.settings.Patient) (life : Life) :
    life.InTime server 0 (.empty 1) := by
  have handshake := patient.handshake
  have idle := patient.idle
  unfold InTime
  split
  · exact Session.hear_timely _ _ _ _ (by omega)
  · exact Session.hear_timely _ _ _ _ (by omega)
  · next attempt since stage =>
      have due := lt_verdictDue since patient.authentication
      exact ⟨by omega, fun _ => ⟨_, rfl⟩⟩
  · exact Session.hear_timely _ _ _ _ (by omega)
  · trivial
  · trivial

end Life

namespace Visitor

variable {server : Server} (visitor : Visitor server)

/-- Everything that the client sends comes at once, and then the connection moves so many times. -/
def atOnce (count : Nat) : List Happening :=
  .deliver (visitor.opening ++ visitor.game) :: .replicate count (.move 0 (.empty 1) [])

theorem atOnce_succ (count : Nat) :
    visitor.atOnce (count + 1) = visitor.atOnce count ++ [.move 0 (.empty 1) []] := by
  rw [atOnce, List.replicate_succ', ← List.cons_append, atOnce]

/-- The life of a client whose bytes come at once. -/
def lifeAtOnce (count : Nat) : Life :=
  (Life.start server visitor.info visitor.serverKey 0).run server (visitor.atOnce count)

theorem lifeAtOnce_succ (count : Nat) :
    visitor.lifeAtOnce (count + 1) =
      (visitor.lifeAtOnce count).next server (.move 0 (.empty 1) []) := by
  rw [lifeAtOnce, atOnce_succ, Life.run_concat]
  rfl

theorem lifeAtOnce_sent (count : Nat) :
    (visitor.lifeAtOnce count).now = 0 ∧
      (visitor.lifeAtOnce count).sent = visitor.opening ++ visitor.game := by
  induction count with
  | zero => exact ⟨rfl, rfl⟩
  | succ count ih =>
      rw [lifeAtOnce_succ]
      exact ih

theorem smooth_atOnce (patient : server.settings.Patient) (count : Nat) :
    Life.Along (Life.Smooth server visitor.code) server
      (.start server visitor.info visitor.serverKey 0) (visitor.atOnce count) := by
  induction count with
  | zero => exact Life.along_nil.concat rfl
  | succ count ih =>
      rw [atOnce_succ]
      apply ih.concat
      have early := (visitor.lifeAtOnce_sent count).1
      have timely := (visitor.lifeAtOnce count).inTime_zero server patient
      rw [← early] at timely
      exact timely

/-- An authenticator that answers at once leaves no question open. -/
theorem answered_of_stands {life : Life} (stands : visitor.Stands life)
    (patient : server.settings.Patient) (prompt : server.authenticator visitor.request ≠ none)
    (attempt : LoginAttempt) (since : Nat)
    (waits : life.connection.stage = .authenticating attempt since) : attempt.verdict ≠ none := by
  cases stands with
  | handshake later stage | login later rest stage | playing later received ended stage =>
      rw [stage] at waits
      cases waits
  | hopeless player keys stage limit =>
      have some := patient.authentication
      omega
  | asked verdict later received stage sent plain info unread sound waiting =>
      rw [stage] at waits
      cases waits
      exact fun none => prompt (waiting none)
  | gone received stage =>
      rcases stage with ⟨result, stage⟩ | ⟨result, stage⟩
      all_goals
        rw [stage] at waits
        cases waits

/-- Whatever a client sends in the game, there is a visit in which it does. -/
theorem exists_visit (login : server.loginTable = .login) (game : server.gameTable = .game)
    (patient : server.settings.Patient) (prompt : server.authenticator visitor.request ≠ none) :
    ∃ visit : Visit server, visit.toVisitor = visitor := by
  obtain ⟨count, rests⟩ := (visitor.lifeAtOnce 0).exists_rest server (.empty 1)
  have same : visitor.lifeAtOnce count =
      (visitor.lifeAtOnce 0).run server (.replicate count (.move 0 (.empty 1) [])) := rfl
  rw [← same] at rests
  have smooth := visitor.smooth_atOnce patient count
  have sent := (visitor.lifeAtOnce_sent count).2
  have within : (visitor.lifeAtOnce count).sent <+: visitor.opening ++ visitor.game :=
    ⟨[], (List.append_nil _).trans sent⟩
  have stands := visitor.stands_run login game 0 _ smooth within
  exact ⟨⟨visitor, 0, visitor.atOnce count, smooth, sent,
    visitor.answered_of_stands stands patient prompt, .empty 1, [], rests⟩, rfl⟩

end Visitor

namespace Visit

/-- The handlers see what a server serves of the messages of the game, each with the player. The
client reads the two responses of the login and the replies. If all replies can be encoded, the
handlers see exactly those messages, and the client reads exactly those replies. -/
theorem service_run (server : Server) (login : server.loginTable = .login)
    (game : server.gameTable = .game) (visit : Visit server) :
    visit.final.reports = visit.greeting ++
        (server.serve visit.info visit.player visit.framer visit.messages).1 ∧
      visit.written = handshakeAnswer visit.serverKey ++ loginAnswer visit.code ++
        (server.serve visit.info visit.player visit.framer visit.messages).2 ∧
      ((∀ message ∈ visit.messages,
          ∀ reply ∈ server.replies visit.info (some visit.player) message,
            visit.framer.Encodes reply) →
        ∃ last bytes,
          visit.framer.encodeAll
            (visit.messages.flatMap (server.replies visit.info (some visit.player))) =
              .ok (last, bytes) ∧
          visit.final.reports = visit.greeting ++
            visit.messages.flatMap (server.calls visit.info (some visit.player)) ∧
          visit.written =
            handshakeAnswer visit.serverKey ++ loginAnswer visit.code ++ bytes) := by
  have outcome := visit.outcome_eq login game
  rw [Visitor.outcome, Server.service, Prod.mk.injEq] at outcome
  obtain ⟨reports, written⟩ := outcome
  refine ⟨reports.symm, written.symm, ?_⟩
  intro encodes
  obtain ⟨last, bytes, encoded, served⟩ :=
    Server.serve_of_encodes visit.framer visit.messages encodes
  rw [Visitor.messages] at served
  rw [served] at reports written
  exact ⟨last, bytes, encoded, reports.symm, written.symm⟩

/-- The authenticator accepts everybody at once, and a ping is answered with these messages. -/
def pingServer (replies : List Message) : Server :=
  { Server.standard fun _ => some (.decided .ok) with
    dispatcher := (Dispatcher.empty.register .ping ⟨"ping", fun _ _ _ => replies⟩).2 }

/-- A client in the game writes two pings. -/
def pings (keys : SessionKeys) : Bytes :=
  let pair := KeystreamPair.server keys
  [pair.incoming.nextByte.1, (pair.skipIncoming 1).incoming.nextByte.1]

theorem messages_pings (limit : Nat) (keys : SessionKeys) :
    (Framer.ciphered .game limit (.server keys)).messages (pings keys) = [.ping, .ping] := by
  rw [pings, Framer.messages_eq, Framer.decode_ping]
  dsimp only
  rw [Framer.messages_eq, Framer.decode_ping]
  dsimp only
  rw [Framer.messages_of_open rfl]

theorem pingServer_prompt (replies : List Message) (request : AuthenticationRequest) :
    (pingServer replies).authenticator request = some (.decided .ok) := rfl

theorem outcome_pingServer (replies : List Message) (request : AuthenticationRequest)
    (verdict : Verdict) (same : (pingServer replies).authenticator request = some verdict) :
    verdict.outcome = .ok := by
  rw [pingServer_prompt] at same
  cases same
  rfl

theorem isSuccess_ok : ResponseCode.ok.isSuccess = true := rfl

theorem loginSample_valid :
    Settings.standard.loginPolicy.validate loginSample 0x0000000300000004 =
      .ok loginKeys := by
  decide +kernel

/-- A client that writes two pings. -/
def pinger (replies : List Message) : Visitor (pingServer replies) where
  info := ⟨1, none⟩
  serverKey := 0x0000000300000004
  nameHash := 0
  frame := loginFrame
  block := loginSample
  keys := loginKeys
  code := .ok
  game := pings loginKeys
  login := decodes_loginFrame
  valid := loginSample_valid
  immediate := outcome_pingServer replies _
  success := isSuccess_ok

theorem exists_pinger (replies : List Message) :
    ∃ visit : Visit (pingServer replies), visit.messages = [.ping, .ping] := by
  have prompt : (pingServer replies).authenticator (pinger replies).request ≠ none := by
    rw [pingServer_prompt]
    exact Option.some_ne_none _
  obtain ⟨visit, same⟩ := (pinger replies).exists_visit rfl rfl Settings.standard_patient prompt
  refine ⟨visit, ?_⟩
  rw [same]
  exact messages_pings _ _

theorem encodes_pong (limit : Nat) (pair : KeystreamPair) :
    (Framer.ciphered .game limit pair).Encodes (.serverChat "pong") := ⟨_, rfl⟩

theorem service_run_of_pinger :
    ∃ visit : Visit (pingServer [.serverChat "pong"]), ∃ last bytes,
      visit.framer.encodeAll [.serverChat "pong", .serverChat "pong"] = .ok (last, bytes) ∧
      visit.final.reports = visit.greeting ++
        [.called ⟨"ping", visit.info, some visit.player, .ping⟩,
          .called ⟨"ping", visit.info, some visit.player, .ping⟩] ∧
      visit.written = handshakeAnswer visit.serverKey ++ loginAnswer visit.code ++ bytes := by
  obtain ⟨visit, messages⟩ := exists_pinger [.serverChat "pong"]
  have run := (service_run (pingServer [.serverChat "pong"]) rfl rfl visit).2.2
  rw [messages] at run
  refine ⟨visit, run ?_⟩
  intro message sent reply replied
  have ping : message = .ping := by simpa using sent
  subst ping
  have pong : reply = .serverChat "pong" := List.mem_singleton.mp replied
  subst pong
  exact encodes_pong _ _

end Visit

/-- The handlers see every message that is sent in the game. -/
def Server.SeesAll (server : Server) : Prop :=
  ∀ visit : Visit server, visit.final.reports = visit.greeting ++
    visit.messages.flatMap (server.calls visit.info (some visit.player))

/-- A ping cannot be encoded, and a server that answers with one sees no second ping. -/
theorem Server.not_seesAll : ¬ (Visit.pingServer [.ping]).SeesAll := by
  intro all
  obtain ⟨visit, messages⟩ := Visit.exists_pinger [.ping]
  have seen := all visit
  have outcome := congrArg Prod.fst (visit.outcome_eq rfl rfl)
  have service : (visit.outcome visit.game).1 = visit.greeting ++
      [.called ⟨"ping", visit.info, some visit.player, .ping⟩] := by
    rw [Visitor.outcome, Server.service, ← Visitor.messages, messages]
    rfl
  rw [service] at outcome
  dsimp only at outcome
  rw [← outcome, messages, List.append_cancel_left_eq] at seen
  cases seen

end GameServer
