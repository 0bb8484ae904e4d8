import GameServer.Proofs.Connection.Admission
import GameServer.Proofs.Connection.Service

/- This file follows a client that logs in and plays without mishaps, however its bytes come. -/

namespace GameServer

/-- A verdict was taken, or none will be. -/
def Stage.Decided : Stage → Prop
  | .handshake _ => False
  | .login _ => False
  | .authenticating _ _ => False
  | .playing _ _ => True
  | .leaving _ _ => True
  | .finished _ => True

namespace Life

open Connection (Happening Listens)

/-- A move at this second finds that no time has run out, and the registry admits a player who was
accepted. -/
def InTime (server : Server) (life : Life) (now : Nat) (registry : PlayerRegistry) : Prop :=
  match life.connection.stage with
  | .handshake since | .login since =>
      (life.connection.session.hear since server.settings.handshakeLimit now).1 ≠
        .failed .timedOut
  | .authenticating attempt since =>
      now < Connection.verdictDue since server.settings.authenticationLimit ∧
        (attempt.verdict ≠ none → ∃ joined, registry.join attempt.player = .ok joined)
  | .playing _ since =>
      (life.connection.session.hear since server.settings.idleLimit now).1 ≠ .failed .timedOut
  | .leaving _ _ => True
  | .finished _ => True

/-- The client sends nothing after its end, and does not end before the connection has taken the
verdict. No call on the pipe fails, the authenticator answers when it is asked and with this code,
and the connection moves in time. -/
def Smooth (server : Server) (code : ResponseCode) (life : Life) : Happening → Prop
  | .deliver _ => life.connection.session.pipe.ended = false
  | .finish => life.connection.stage.Decided
  | .disturb _ => False
  | .answer verdict => life.Answers (.answer verdict) ∧ verdict.outcome = code
  | .move seconds registry _ => life.InTime server (life.now + seconds) registry

theorem sent_next (server : Server) (life : Life) (happening : Happening) :
    life.sent <+: (life.next server happening).sent := by
  cases happening with
  | deliver bytes => exact List.prefix_append _ _
  | finish => exact List.prefix_rfl
  | disturb call => exact List.prefix_rfl
  | answer verdict => exact List.prefix_rfl
  | move seconds registry picks => exact List.prefix_rfl

end Life

/-- A client with a login frame that the server accepts, and with a code of success that waits for
it. -/
structure Visitor (server : Server) where
  info : SessionInfo
  serverKey : UInt64
  nameHash : UInt8
  /-- The login frame. -/
  frame : Bytes
  block : LoginBlock
  keys : SessionKeys
  code : ResponseCode
  /-- What the client sends behind its login frame. -/
  game : Bytes
  login : (Framer.plain .login server.settings.maxPayload).Decodes frame (.ok (some (.login block)))
    (.plain .login server.settings.maxPayload) []
  valid : server.settings.loginPolicy.validate block serverKey = .ok keys
  immediate : ∀ verdict, server.authenticator ⟨info, .ofLogin block keys⟩ = some verdict →
    verdict.outcome = code
  success : code.isSuccess = true

namespace Visitor

open Connection (Happening Listens)

variable {server : Server} (visitor : Visitor server)

/-- What the client sends before the game. -/
def opening : Bytes := 14 :: visitor.nameHash :: visitor.frame

/-- The question to the authenticator. -/
def request : AuthenticationRequest := ⟨visitor.info, .ofLogin visitor.block visitor.keys⟩

/-- The player that the client becomes. -/
def player : Player := visitor.request.player

/-- The framer of the game. -/
def framer : Framer := .ciphered .game server.settings.maxPayload (.server visitor.keys)

/-- The messages that the client sends in the game. -/
def messages : List Message := visitor.framer.messages visitor.game

/-- What is reported before the game. -/
def greeting : List Report :=
  server.calls visitor.info none (.handshake visitor.nameHash) ++
    server.calls visitor.info none (.login visitor.block) ++ [.asked visitor.request]

/-- What is written before the game. -/
def answer : Bytes := handshakeAnswer visitor.serverKey ++ loginAnswer visitor.code

/-- What is reported and written when the client has sent these bytes in the game. -/
def outcome (received : Bytes) : List Report × Bytes :=
  let service := server.service visitor.info visitor.player visitor.framer received
  (visitor.greeting ++ service.1, visitor.answer ++ service.2)

/-- Where a visit stands. -/
inductive Stands (life : Life) : Prop where
  | handshake (since : Nat) (stage : life.connection.stage = .handshake since)
      (listens : Listens server visitor.info visitor.serverKey .awaitingHandshake life.sent
        life.connection.session)
      (sound : life.connection.session.pipe.Sound false)
      (written : life.connection.session.pipe.written.toList = []) (silent : life.reports = [])
  | login (since : Nat) (rest : Bytes) (stage : life.connection.stage = .login since)
      (sent : life.sent = 14 :: visitor.nameHash :: rest)
      (listens : Listens server visitor.info visitor.serverKey .awaitingLogin rest
        life.connection.session)
      (sound : life.connection.session.pipe.Sound false)
      (written : life.connection.session.pipe.written.toList = handshakeAnswer visitor.serverKey)
      (greeted : life.reports = server.calls visitor.info none (.handshake visitor.nameHash))
  /-- An authenticator that has no time is not asked. -/
  | hopeless (player : Player) (keys : SessionKeys)
      (stage : life.connection.stage = .authenticating ⟨player, keys, none⟩ life.now)
      (limit : server.settings.authenticationLimit = 0)
      (silent : ∀ report ∈ life.reports, report.Anonymous)
  | asked (verdict : Option Verdict) (since : Nat) (received : Bytes)
      (stage : life.connection.stage =
        .authenticating ⟨visitor.player, visitor.keys, verdict⟩ since)
      (sent : life.sent = visitor.opening ++ received)
      (plain : life.connection.session.Plain server.settings.maxPayload .authenticating)
      (info : life.connection.session.info = visitor.info)
      (unread : life.connection.session.unread = received)
      (sound : life.connection.session.pipe.Sound false)
      (waiting : verdict = none → server.authenticator visitor.request = none)
      (decided : ∀ answer, verdict = some answer → answer.outcome = visitor.code)
      (written : life.connection.session.pipe.written.toList = handshakeAnswer visitor.serverKey)
      (greeted : life.reports = visitor.greeting)
  | playing (since : Nat) (received : Bytes) (ended : Bool)
      (stage : life.connection.stage = .playing visitor.player since)
      (sent : life.sent = visitor.opening ++ received)
      (gaming : life.connection.session.Gaming visitor.info)
      (sound : life.connection.session.pipe.Sound ended)
      (serves : ∀ more, visitor.outcome (received ++ more) =
        let service := server.service visitor.info visitor.player life.connection.session.framer
          (life.connection.session.unread ++ more)
        (life.reports ++ service.1, life.connection.session.pipe.written.toList ++ service.2))
  | gone (received : Bytes)
      (stage : (∃ result, life.connection.stage = .leaving result visitor.player) ∨
        ∃ result, life.connection.stage = .finished result)
      (sent : life.sent = visitor.opening ++ received)
      (served : ∀ more, (life.connection.session.pipe.ended = true → more = []) →
        visitor.outcome (received ++ more) =
          (life.reports, life.connection.session.pipe.written.toList))

variable {visitor} {life : Life}

theorem stands_start (visitor : Visitor server) (reference : server.loginTable = .login)
    (now : Nat) : visitor.Stands (.start server visitor.info visitor.serverKey now) := by
  refine .handshake now rfl ⟨rfl, rfl, rfl, rfl, ?_⟩ ⟨rfl, rfl, rfl, rfl⟩ rfl rfl
  simp only [Life.start, Connection.start, reference]
  exact .refl _ _

/-- The bytes that come are served with the ones before them. -/
theorem Stands.deliver (stands : visitor.Stands life) (bytes : Bytes)
    (going : life.connection.session.pipe.ended = false) :
    visitor.Stands (life.next server (.deliver bytes)) := by
  have arrived := ByteQueue.toList_push life.connection.session.pipe.arrived bytes
  have unread : (life.next server (.deliver bytes)).connection.session.unread =
      life.connection.session.unread ++ bytes := by
    rw [Session.unread, Session.unread, List.append_assoc]
    exact congrArg _ arrived
  cases stands with
  | handshake since stage listens sound written silent =>
      exact .handshake since stage (listens.onPipe _ bytes arrived)
        (sound.deliver bytes) written silent
  | login since rest stage sent listens sound written greeted =>
      refine .login since (rest ++ bytes) stage ?_ (listens.onPipe _ bytes arrived)
        (sound.deliver bytes) written greeted
      exact congrArg (· ++ bytes) sent
  | hopeless player keys stage limit silent => exact .hopeless player keys stage limit silent
  | asked verdict since received stage sent plain info whole sound waiting decided written
      greeted =>
      refine .asked verdict since (received ++ bytes) stage ?_
        ⟨plain.phase, plain.framer, plain.queued⟩ info ?_
        (sound.deliver bytes) waiting decided written greeted
      · rw [← List.append_assoc, ← sent]
        rfl
      · rw [unread, whole]
  | playing since received ended stage sent gaming sound serves =>
      refine .playing since (received ++ bytes) ended stage ?_
        ⟨gaming.phase, gaming.info, gaming.queued, ?_⟩
        (sound.deliver bytes) ?_
      · rw [← List.append_assoc, ← sent]
        rfl
      · intro more message member
        rw [unread, List.append_assoc] at member
        exact gaming.fitting (bytes ++ more) message member
      · intro more
        rw [unread, List.append_assoc, List.append_assoc]
        exact serves (bytes ++ more)
  | gone received stage sent served =>
      refine .gone (received ++ bytes) stage ?_ ?_
      · rw [← List.append_assoc, ← sent]
        rfl
      · intro more _
        rw [List.append_assoc]
        refine served (bytes ++ more) ?_
        intro ended
        exact absurd (going.symm.trans ended) Bool.false_ne_true

/-- A client that ends has nothing more to be served. -/
theorem Stands.finish (stands : visitor.Stands life) (decided : life.connection.stage.Decided) :
    visitor.Stands (life.next server .finish) := by
  cases stands with
  | handshake since stage | login since rest stage | hopeless player keys stage
  | asked verdict since received stage =>
      rw [stage] at decided
      cases decided
  | playing since received ended stage sent gaming sound serves =>
      exact .playing since received true stage sent
        ⟨gaming.phase, gaming.info, gaming.queued, gaming.fitting⟩
        sound.finish serves
  | gone received stage sent served =>
      refine .gone received stage sent ?_
      intro more ended
      exact served more fun _ => ended rfl

/-- The authenticator answers only the question of the visit. -/
theorem Stands.answer (stands : visitor.Stands life) (verdict : Verdict)
    (lawful : life.Answers (.answer verdict)) (same : verdict.outcome = visitor.code) :
    visitor.Stands (life.next server (.answer verdict)) := by
  have unheard (decided : ∀ attempt since, life.connection.stage ≠ .authenticating attempt since) :
      visitor.Stands (life.next server (.answer verdict)) := by
    rw [Life.next, life.connection.resolve_decided verdict decided]
    exact stands
  cases stands with
  | handshake since stage | login since rest stage | playing since received ended stage =>
      exact unheard fun _ _ other => by rw [stage] at other; cases other
  | hopeless player keys stage limit silent =>
      obtain ⟨request, asked⟩ := lawful.1
      exact absurd (silent _ asked) id
  | asked decision since received stage sent plain info whole sound waiting decided written
      greeted =>
      have next : life.next server (.answer verdict) =
          { life with
            connection.stage :=
              .authenticating ⟨visitor.player, visitor.keys, some verdict⟩ since } := by
        rw [Life.next, Connection.resolve, stage]
      rw [next]
      refine .asked (some verdict) since received rfl sent plain info whole sound ?_ ?_
        written greeted
      · intro none
        cases none
      · intro answer found
        cases found
        exact same
  | gone received stage =>
      refine unheard fun _ _ other => ?_
      rcases stage with ⟨result, stage⟩ | ⟨result, stage⟩
      all_goals
        rw [stage] at other
        cases other

/-- The first message of the script is a handshake. -/
theorem decodes_opening (visitor : Visitor server) (source more : Bytes)
    (script : source ++ more = visitor.opening ++ visitor.game) :
    (Framer.plain .login server.settings.maxPayload).Decodes (source ++ more)
      (.ok (some (.handshake visitor.nameHash))) (.plain .login server.settings.maxPayload)
      (visitor.frame ++ visitor.game) := by
  rw [script]
  exact Framer.decodes_handshake _ _ _

/-- The second message of the script is a login block. -/
theorem decodes_login (visitor : Visitor server) (source more : Bytes)
    (script : 14 :: visitor.nameHash :: source ++ more = visitor.opening ++ visitor.game) :
    (Framer.plain .login server.settings.maxPayload).Decodes (source ++ more)
      (.ok (some (.login visitor.block))) (.plain .login server.settings.maxPayload)
      visitor.game := by
  have rest : source ++ more = visitor.frame ++ visitor.game := by
    simpa [opening] using script
  rw [rest]
  exact visitor.login.append visitor.game

/-- A handshake that has come is answered. -/
theorem Stands.moveHandshake {since seconds : Nat} {registry : PlayerRegistry}
    {picks : List Connection.Branch}
    (stage : life.connection.stage = .handshake since)
    (listens : Listens server visitor.info visitor.serverKey .awaitingHandshake life.sent
      life.connection.session)
    (sound : life.connection.session.pipe.Sound false)
    (written : life.connection.session.pipe.written.toList = []) (silent : life.reports = [])
    (within : life.sent <+: visitor.opening ++ visitor.game)
    (timely : life.InTime server (life.now + seconds) registry) :
    visitor.Stands (life.next server (.move seconds registry picks)) := by
  obtain ⟨more, script⟩ := within
  rw [Life.InTime, stage] at timely
  generalize same : life.moveAfter server seconds registry picks = moved
  rw [Life.next, same]
  rw [Life.moveAfter, Connection.move, stage] at same
  cases Connection.awaitsHandshake listens _ registry since moved same with
  | ends result after anonymous going hindered =>
      have fine := visitor.decodes_opening _ _ script
      exact absurd hindered (Connection.not_hindered fine ⟨_, rfl⟩ sound timely)
  | waits after quiet continues =>
      refine .handshake since after (listens.continues continues) (continues.kept.sound sound)
        ?_ ?_
      · rw [← written, ← continues.kept.written]
      · rw [silent, quiet]
        rfl
  | answers nameHash rest sent after reports going answer waits stays =>
      have named : nameHash = visitor.nameHash := by
        rw [sent, opening] at script
        simp only [List.cons_append, List.cons.injEq] at script
        exact script.2.1
      subst named
      refine .login _ rest after sent waits (stays sound) ?_ ?_
      · rw [answer, written, List.nil_append]
      · rw [silent, reports, List.nil_append]

/-- What is asked is the question of the visit. -/
theorem asked_of_asks {rest left more : Bytes} {block : LoginBlock} {session : Session}
    {moved : Connection.Move} {now : Nat} {request : AuthenticationRequest}
    (asks : Connection.Asks server visitor.info visitor.serverKey session rest moved now request
      block left)
    (script : 14 :: visitor.nameHash :: rest ++ more = visitor.opening ++ visitor.game) :
    block = visitor.block ∧ request = visitor.request ∧ rest = visitor.frame ++ left := by
  obtain ⟨other, found, login, _⟩ := Framer.login_decodes rfl (visitor.decodes_login _ _ script)
  cases found
  obtain ⟨repeated, rests⟩ := asks.login.unique login
  have keys : request.credentials.sessionKeys = visitor.keys := by
    have valid := asks.valid
    rw [← repeated, visitor.valid, Except.ok.injEq] at valid
    exact valid.symm
  refine ⟨repeated.symm, ?_, ?_⟩
  · rw [asks.repeats, keys, ← repeated]
    rfl
  · have whole : rest ++ more = visitor.frame ++ visitor.game := by
      simpa [opening] using script
    rw [rests, ← List.append_assoc] at whole
    exact List.append_cancel_right whole

/-- A login block that has come is asked about. -/
theorem Stands.moveLogin {since seconds : Nat} {registry : PlayerRegistry}
    {picks : List Connection.Branch} {rest : Bytes}
    (stage : life.connection.stage = .login since)
    (sent : life.sent = 14 :: visitor.nameHash :: rest)
    (listens : Listens server visitor.info visitor.serverKey .awaitingLogin rest
      life.connection.session)
    (sound : life.connection.session.pipe.Sound false)
    (written : life.connection.session.pipe.written.toList = handshakeAnswer visitor.serverKey)
    (greeted : life.reports = server.calls visitor.info none (.handshake visitor.nameHash))
    (within : life.sent <+: visitor.opening ++ visitor.game)
    (timely : life.InTime server (life.now + seconds) registry) :
    visitor.Stands (life.next server (.move seconds registry picks)) := by
  obtain ⟨more, script⟩ := within
  rw [sent] at script
  rw [Life.InTime, stage] at timely
  generalize same : life.moveAfter server seconds registry picks = moved
  rw [Life.next, same]
  rw [Life.moveAfter, Connection.move, stage] at same
  cases Connection.awaitsLogin listens _ registry since picks moved same with
  | ends result after anonymous going hindered =>
      have fine := visitor.decodes_login _ _ script
      exact absurd hindered
        (Connection.not_hindered fine ⟨_, _, rfl, visitor.valid⟩ sound timely)
  | waits after quiet continues =>
      refine .login since rest after sent (listens.continues continues)
        (continues.kept.sound sound) ?_ ?_
      · rw [← written, ← continues.kept.written]
      · rw [greeted, quiet, List.append_nil]
  | hopeless player keys after limit opened anonymous =>
      refine .hopeless player keys after limit ?_
      rw [greeted]
      exact Life.anonymous_append (server.calls_anonymous _ _) anonymous
  | asks request block left asks =>
      obtain ⟨repeated, question, frame⟩ := asked_of_asks asks script
      subst repeated question
      refine .asked _ _ left asks.stage ?_ asks.plain asks.info asks.unread
        (asks.sound sound) ?_ visitor.immediate ?_ ?_
      · rw [sent, frame]
        rfl
      · exact id
      · rw [asks.written, written]
      · rw [greeted, asks.reports, ← List.append_assoc]
        rfl

/-- A player who was accepted comes into the game, and until then nothing is served. -/
theorem Stands.moveAsked (reference : server.gameTable = .game) {since seconds : Nat}
    {registry : PlayerRegistry} {picks : List Connection.Branch} {verdict : Option Verdict}
    {received : Bytes}
    (stage : life.connection.stage =
      .authenticating ⟨visitor.player, visitor.keys, verdict⟩ since)
    (sent : life.sent = visitor.opening ++ received)
    (plain : life.connection.session.Plain server.settings.maxPayload .authenticating)
    (info : life.connection.session.info = visitor.info)
    (unread : life.connection.session.unread = received)
    (sound : life.connection.session.pipe.Sound false)
    (waiting : verdict = none → server.authenticator visitor.request = none)
    (decided : ∀ answer, verdict = some answer → answer.outcome = visitor.code)
    (written : life.connection.session.pipe.written.toList = handshakeAnswer visitor.serverKey)
    (greeted : life.reports = visitor.greeting)
    (timely : life.InTime server (life.now + seconds) registry) :
    visitor.Stands (life.next server (.move seconds registry picks)) := by
  have opened := Session.isClosed_of_phase plain.phase (by decide)
  rw [Life.InTime, stage] at timely
  obtain ⟨early, admits⟩ := timely
  have awaits := Life.awaits_moveAfter stage server seconds registry picks
  generalize same : life.moveAfter server seconds registry picks = moved at awaits
  rw [Life.next, same]
  cases verdict with
  | none =>
      cases Connection.awaitsVerdict opened awaits with
      | ends result after quiet closed late =>
          exact absurd (late rfl sound) (Nat.not_le_of_lt early)
      | waits undecided early after quiet kept framer rests =>
          refine .asked none since received after sent
            ⟨kept.phase.trans plain.phase, framer.trans plain.framer, ?_⟩ (kept.info.trans info)
            (rests.trans unread) (kept.sound sound) waiting ?_ ?_ ?_
          · rw [kept.queued, plain.queued]
          · intro answer found
            cases found
          · rw [kept.written, written]
          · rw [quiet, List.append_nil, greeted]
      | joins answer joined found => cases found
  | some answer =>
      obtain ⟨joined, joining⟩ := admits (Option.some_ne_none answer)
      have success := visitor.success
      rw [← decided answer rfl] at success
      obtain ⟨last, reads, concludes⟩ :=
        (awaits.first opened).verdict answer rfl early sound.ended sound.readFault
      have kept := reads.kept opened
      have receives := reads.onlyReceives opened
      have whole : last.unread = received := by
        rw [receives.unread, List.append_nil, unread]
      have still : last.Plain server.settings.maxPayload .authenticating :=
        ⟨kept.phase.trans plain.phase, receives.framer.trans plain.framer, by
          rw [kept.queued, plain.queued]⟩
      obtain ⟨next, moves, gaming, framer, rests, stays, told⟩ :=
        Connection.concludeLogin_ok reference still (kept.sound sound) (life.now + seconds)
          ⟨visitor.player, visitor.keys, some answer⟩ success joining rfl
      rw [moves] at concludes
      subst concludes
      rw [kept.info, info] at gaming
      refine .playing _ received false rfl sent gaming stays ?_
      intro more
      dsimp only
      rw [framer, rests, whole, told, kept.written, written, decided answer rfl, greeted,
        List.append_nil]
      rfl

/-- A message of the game is served, or none is left to be served. -/
theorem Stands.movePlaying {since seconds : Nat} {registry : PlayerRegistry}
    {picks : List Connection.Branch} {received : Bytes} {ended : Bool}
    (stage : life.connection.stage = .playing visitor.player since)
    (sent : life.sent = visitor.opening ++ received)
    (gaming : life.connection.session.Gaming visitor.info)
    (sound : life.connection.session.pipe.Sound ended)
    (serves : ∀ more, visitor.outcome (received ++ more) =
      let service := server.service visitor.info visitor.player life.connection.session.framer
        (life.connection.session.unread ++ more)
      (life.reports ++ service.1, life.connection.session.pipe.written.toList ++ service.2))
    (timely : life.InTime server (life.now + seconds) registry) :
    visitor.Stands (life.next server (.move seconds registry picks)) := by
  rw [Life.InTime, stage] at timely
  have plays := Connection.plays_play gaming sound _ registry visitor.player since timely
  generalize same : life.moveAfter server seconds registry picks = moved
  rw [Life.next, same]
  rw [Life.moveAfter, Connection.move, stage] at same
  replace plays : Connection.Plays server visitor.info visitor.player life.connection.session
    ended moved := same ▸ plays
  cases plays with
  | goesOn later after stays fine served =>
      obtain ⟨bytes, written, service⟩ := served
      refine .playing later received ended after sent stays fine ?_
      intro more
      rw [serves more, service more]
      dsimp only
      rw [written, List.append_assoc, List.append_assoc]
  | ends result after written finished served =>
      refine .gone received (.inl ⟨result, after⟩) sent ?_
      intro more none
      rw [finished] at none
      rw [serves more, served more none]
      dsimp only
      rw [written, List.append_nil]

/-- A move in time leads from one stand of a visit to the next. -/
theorem Stands.move (stands : visitor.Stands life) (reference : server.gameTable = .game)
    {seconds : Nat} {registry : PlayerRegistry} {picks : List Connection.Branch}
    (within : life.sent <+: visitor.opening ++ visitor.game)
    (timely : life.InTime server (life.now + seconds) registry) :
    visitor.Stands (life.next server (.move seconds registry picks)) := by
  cases stands with
  | handshake since stage listens sound written silent =>
      exact moveHandshake stage listens sound written silent within timely
  | login since rest stage sent listens sound written greeted =>
      exact moveLogin stage sent listens sound written greeted within timely
  | hopeless player keys stage limit silent =>
      rw [Life.InTime, stage, limit] at timely
      have due := (Connection.verdictDue_le life.now 0).2
      exact absurd timely.1 (by omega)
  | asked verdict since received stage sent plain info unread sound waiting decided written
      greeted =>
      exact moveAsked reference stage sent plain info unread sound waiting decided written greeted
        timely
  | playing since received ended stage sent gaming sound serves =>
      exact movePlaying stage sent gaming sound serves timely
  | gone received stage sent served =>
      have still : life.next server (.move seconds registry picks) =
          { life with
            now := life.now + seconds
            connection.stage :=
              (life.moveAfter server seconds registry picks).connection.stage } ∧
          ∃ result, (life.moveAfter server seconds registry picks).connection.stage =
            .finished result := by
        rcases stage with ⟨result, stage⟩ | ⟨result, stage⟩
        all_goals
          rw [Life.next, Life.moveAfter, Connection.move, stage]
          dsimp only
          rw [List.append_nil]
        · exact ⟨rfl, result, rfl⟩
        · exact ⟨rfl, result, stage⟩
      rw [still.1]
      exact .gone received (.inr still.2) sent served

theorem Stands.next (stands : visitor.Stands life) (reference : server.gameTable = .game)
    {happening : Happening} (smooth : life.Smooth server visitor.code happening)
    (within : life.sent <+: visitor.opening ++ visitor.game) :
    visitor.Stands (life.next server happening) := by
  cases happening with
  | deliver bytes => exact stands.deliver bytes smooth
  | finish => exact stands.finish smooth
  | disturb call => cases smooth
  | answer verdict => exact stands.answer verdict smooth.1 smooth.2
  | move seconds registry picks => exact stands.move reference within smooth

/-- A visit stands somewhere at every moment, as long as the client keeps to its script. -/
theorem stands_run (visitor : Visitor server) (login : server.loginTable = .login)
    (game : server.gameTable = .game) (begun : Nat) (history : List Happening)
    (smooth : Life.Along (Life.Smooth server visitor.code) server
      (.start server visitor.info visitor.serverKey begun) history)
    (within : ((Life.start server visitor.info visitor.serverKey begun).run server history).sent <+:
      visitor.opening ++ visitor.game) :
    visitor.Stands ((Life.start server visitor.info visitor.serverKey begun).run server history) := by
  induction history using List.reverseRecOn with
  | nil => exact visitor.stands_start login begun
  | append_singleton history happening ih =>
      rw [Life.run_concat] at within ⊢
      have before := (Life.sent_next server _ happening).trans within
      exact (ih smooth.init before).next game smooth.last before

/-- Nothing is left to be done when a visit that has decided comes to rest. -/
theorem Stands.served (stands : visitor.Stands life)
    (sent : life.sent = visitor.opening ++ visitor.game)
    (answered : ∀ attempt since, life.connection.stage = .authenticating attempt since →
      attempt.verdict ≠ none)
    {registry : PlayerRegistry} {picks : List Connection.Branch}
    (rests : (life.moveAfter server 0 registry picks).waits = true) :
    visitor.outcome visitor.game =
      (life.reports, life.connection.session.pipe.written.toList) := by
  have whole (received : Bytes) (same : life.sent = visitor.opening ++ received) :
      received = visitor.game := List.append_cancel_left (same.symm.trans sent)
  have awaits (attempt : LoginAttempt) (since : Nat)
      (stage : life.connection.stage = .authenticating attempt since) :=
    Life.awaits_moveAfter stage server 0 registry picks
  generalize same : life.moveAfter server 0 registry picks = moved at rests awaits
  rw [Life.moveAfter, Connection.move] at same
  cases stands with
  | handshake since stage listens sound written silent =>
      rw [stage] at same
      cases Connection.awaitsHandshake listens _ registry since moved same with
      | ends result after anonymous going =>
          rw [going] at rests
          cases rests
      | waits after quiet continues starved =>
          have found := visitor.decodes_opening _ [] ((List.append_nil _).trans sent)
          rw [List.append_nil] at found
          exact absurd found (starved.not_decodes (listens.continues continues).leads)
      | answers nameHash rest begun after reports going =>
          rw [going] at rests
          cases rests
  | login since rest stage begun listens sound written greeted =>
      rw [stage] at same
      cases Connection.awaitsLogin listens _ registry since picks moved same with
      | ends result after anonymous going =>
          rw [going] at rests
          cases rests
      | waits after quiet continues starved =>
          have found := visitor.decodes_login rest []
            ((List.append_nil _).trans (begun.symm.trans sent))
          rw [List.append_nil] at found
          exact absurd found (starved.not_decodes (listens.continues continues).leads)
      | hopeless player keys after limit opened anonymous going =>
          rw [going] at rests
          cases rests
      | asks request block left asks =>
          rw [asks.going] at rests
          cases rests
  | hopeless player keys stage => exact absurd rfl (answered _ _ stage)
  | asked verdict since received stage =>
      exact absurd ((awaits _ _ stage).undecided_of_waits rests) (answered _ _ stage)
  | playing since received ended stage begun gaming sound serves =>
      have game := whole received begun
      subst game
      rw [stage] at same
      replace same : Connection.play server (life.now + 0) registry life.connection.session
        visitor.player since = moved := same
      rw [← same] at rests
      have done := Connection.service_of_waits gaming _ registry visitor.player since rests
      have final := serves []
      simp only [List.append_nil, done] at final
      exact final
  | gone received stage begun served =>
      have game := whole received begun
      subst game
      have final := served [] fun _ => rfl
      rw [List.append_nil] at final
      exact final

end Visitor

end GameServer
