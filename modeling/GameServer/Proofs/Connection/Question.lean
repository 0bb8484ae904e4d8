import GameServer.Proofs.Connection.Stages

/- This file follows a question to the authenticator until it is answered. -/

namespace GameServer

/-- Nothing was decoded or written, no handler was called, and no read has seen the end of the
stream. -/
structure Life.OnlyWaits (before after : Life) : Prop where
  reports : after.reports = before.reports
  framer : after.connection.session.framer = before.connection.session.framer
  info : after.connection.session.info = before.connection.session.info
  phase : after.connection.session.phase = before.connection.session.phase
  queued : after.connection.session.queued = before.connection.session.queued
  written : after.connection.session.pipe.written = before.connection.session.pipe.written
  unread : ∃ bytes, after.sent = before.sent ++ bytes ∧
    after.connection.session.unread = before.connection.session.unread ++ bytes
  stage : ∃ attempt since, after.connection.stage = .authenticating attempt since

theorem Life.OnlyWaits.trans {first second third : Life} (one : first.OnlyWaits second)
    (two : second.OnlyWaits third) : first.OnlyWaits third where
  reports := two.reports.trans one.reports
  framer := two.framer.trans one.framer
  info := two.info.trans one.info
  phase := two.phase.trans one.phase
  queued := two.queued.trans one.queued
  written := two.written.trans one.written
  unread := by
    obtain ⟨early, sent, unread⟩ := one.unread
    obtain ⟨late, more, others⟩ := two.unread
    refine ⟨early ++ late, ?_, ?_⟩
    · rw [more, sent, List.append_assoc]
    · rw [others, unread, List.append_assoc]
  stage := two.stage

/-- A move in which the authenticator is asked. -/
structure Question where
  /-- What happened before. -/
  before : List Connection.Happening
  seconds : Nat
  registry : PlayerRegistry
  picks : List Connection.Branch
  request : AuthenticationRequest

namespace Question

open Connection (Happening)

/-- The history of the question and of what happened later. -/
def followedBy (question : Question) (later : List Happening) : List Happening :=
  question.before ++ .move question.seconds question.registry question.picks :: later

theorem followedBy_append (question : Question) (first second : List Happening) :
    question.followedBy (first ++ second) = question.followedBy first ++ second := by
  rw [followedBy, followedBy, List.append_assoc, List.cons_append]

variable (server : Server) (born : Life) (question : Question)

/-- The life of the connection when these things have happened since the question. -/
def lifeAfter (later : List Happening) : Life := born.run server (question.followedBy later)

/-- The authenticator was asked in that move. -/
def Asked : Prop :=
  .asked question.request ∈
    ((born.run server question.before).moveAfter server question.seconds question.registry
      question.picks).reports

/-- The second at which the question was asked. -/
def time : Nat := (born.run server question.before).now + question.seconds

/-- The second at which the time for an answer ends. -/
def due : Nat :=
  Connection.verdictDue (question.time server born) server.settings.authenticationLimit

/-- The connection has only waited, at every moment since the question. -/
def Held (later : List Happening) : Prop :=
  ∀ soon rest, later = soon ++ rest →
    (question.lifeAfter server born []).OnlyWaits (question.lifeAfter server born soon)

/-- The authenticator has answered, at once or later but in time. -/
def Returned (later : List Happening) (verdict : Verdict) : Prop :=
  server.authenticator question.request = some verdict ∨
    ∃ soon rest, later = soon ++ .answer verdict :: rest ∧
      (question.lifeAfter server born soon).now ≤ question.due server born

/-- The connection has only waited until it ended without a player, and nothing was reported since
the question. -/
structure Refused (later : List Happening) : Prop where
  held : ∃ waiting seconds registry picks rest,
    later = waiting ++ .move seconds registry picks :: rest ∧ question.Held server born waiting
  reports : (question.lifeAfter server born later).reports =
    (question.lifeAfter server born []).reports
  stage : ∃ result, (question.lifeAfter server born later).connection.stage = .finished result
  closed : (question.lifeAfter server born later).connection.session.isClosed = true

end Question

/-- The authenticator was asked about the player and has answered in time with a code of success,
and then the player joined the registry. -/
def Life.Admission (server : Server) (born : Life) (history : List Connection.Happening)
    (player : Player) : Prop :=
  ∃ (question : Question) (waiting : List Connection.Happening) (seconds : Nat)
      (registry : PlayerRegistry) (picks : List Connection.Branch)
      (later : List Connection.Happening) (verdict : Verdict) (joined : PlayerRegistry),
    history = question.followedBy (waiting ++ .move seconds registry picks :: later) ∧
    question.Asked server born ∧ player = question.request.player ∧
    question.Held server born waiting ∧ question.Returned server born waiting verdict ∧
    (question.lifeAfter server born waiting).connection.stage =
      .authenticating ⟨player, question.request.credentials.sessionKeys, some verdict⟩
        (question.time server born) ∧
    (verdict.outcome.value = 2 ∨ verdict.outcome.value = 15) ∧
    registry.join player = .ok joined

theorem Life.Admission.append {server : Server} {born : Life}
    {history : List Connection.Happening} {player : Player}
    (admission : Life.Admission server born history player) (more : List Connection.Happening) :
    Life.Admission server born (history ++ more) player := by
  obtain ⟨question, waiting, seconds, registry, picks, later, verdict, joined, same, rest⟩ :=
    admission
  refine ⟨question, waiting, seconds, registry, picks, later ++ more, verdict, joined, ?_, rest⟩
  rw [same, ← Question.followedBy_append, List.append_assoc, List.cons_append]

/-- The player is in the game, or was. -/
def Connection.Played (connection : Connection) (player : Player) : Prop :=
  (∃ since, connection.stage = .playing player since) ∨
    (∃ result, connection.stage = .leaving result player) ∨
    ∃ result, connection.stage = .finished result

/-- Once a player was in the game, handlers are called with that player alone. -/
theorem Connection.Played.move {connection : Connection} {player : Player}
    (played : connection.Played player) (server : Server) (now : Nat)
    (registry : PlayerRegistry) (picks : List Branch) :
    (∀ report ∈ (connection.move server now registry picks).reports,
        ∃ call, report = .called call ∧ call.player = some player) ∧
      (connection.move server now registry picks).connection.Played player := by
  rcases played with ⟨since, stage⟩ | ⟨result, stage⟩ | ⟨result, stage⟩
  · obtain ⟨calls, after⟩ := play_cases now registry connection.session player since _ rfl
    rw [Connection.move, stage]
    refine ⟨calls, ?_⟩
    rcases after with ⟨since, playing⟩ | ⟨result, leaving⟩
    · exact .inl ⟨since, playing⟩
    · exact .inr (.inl ⟨result, leaving⟩)
  · rw [Connection.move, stage]
    exact ⟨List.forall_mem_nil _, .inr (.inr ⟨result, rfl⟩)⟩
  · rw [Connection.move, stage]
    exact ⟨List.forall_mem_nil _, .inr (.inr ⟨result, stage⟩)⟩

/-- Something comes from outside if it is not a move of the connection. -/
def Connection.Happening.Outside : Connection.Happening → Prop
  | .move _ _ _ => False
  | _ => True

theorem Connection.Happening.outside_or_move (happening : Connection.Happening) :
    happening.Outside ∨ ∃ seconds registry picks, happening = .move seconds registry picks := by
  cases happening with
  | move seconds registry picks => exact .inr ⟨seconds, registry, picks, rfl⟩
  | deliver bytes => exact .inl trivial
  | finish => exact .inl trivial
  | disturb call => exact .inl trivial
  | answer verdict => exact .inl trivial

/-- A verdict is heard only while one is awaited. -/
theorem Connection.resolve_decided (connection : Connection) (verdict : Verdict)
    (decided : ∀ attempt since, connection.stage ≠ .authenticating attempt since) :
    connection.resolve verdict = connection := by
  unfold resolve
  split
  · next attempt since stage => exact absurd stage (decided attempt since)
  · rfl

/-- What comes from outside changes the stage only if a verdict is awaited. -/
theorem Life.next_outside (server : Server) (life : Life) (happening : Connection.Happening)
    (outside : happening.Outside)
    (decided : ∀ attempt since, life.connection.stage ≠ .authenticating attempt since) :
    (life.next server happening).connection.stage = life.connection.stage ∧
      (life.next server happening).reports = life.reports ∧
      (life.next server happening).connection.session.isClosed =
        life.connection.session.isClosed := by
  cases happening with
  | deliver bytes => exact ⟨rfl, rfl, rfl⟩
  | finish => exact ⟨rfl, rfl, rfl⟩
  | disturb call => cases call <;> exact ⟨rfl, rfl, rfl⟩
  | answer verdict =>
      rw [next, life.connection.resolve_decided verdict decided]
      exact ⟨rfl, rfl, rfl⟩
  | move seconds registry picks => cases outside

theorem Connection.Played.next {life : Life} {player : Player}
    (played : life.connection.Played player) (server : Server) (happening : Happening) :
    (life.next server happening).connection.Played player := by
  rcases happening.outside_or_move with outside | ⟨seconds, registry, picks, same⟩
  · have decided (attempt : LoginAttempt) (since : Nat) :
        life.connection.stage ≠ .authenticating attempt since := by
      intro other
      rcases played with ⟨_, stage⟩ | ⟨_, stage⟩ | ⟨_, stage⟩
      all_goals
        rw [stage] at other
        cases other
    have same := (Life.next_outside server life happening outside decided).1
    rw [Played, same]
    exact played
  · subst same
    exact (played.move server (life.now + seconds) registry picks).2

namespace Question

open Connection (Happening)

variable {server : Server} {born : Life} {question : Question} {later : List Happening}
  {happening : Happening}

theorem lifeAfter_concat (server : Server) (born : Life) (question : Question)
    (later : List Happening) (happening : Happening) :
    question.lifeAfter server born (later ++ [happening]) =
      (question.lifeAfter server born later).next server happening := by
  rw [lifeAfter, followedBy_append, Life.run_concat]
  rfl

theorem Held.last (held : question.Held server born later) :
    (question.lifeAfter server born []).OnlyWaits (question.lifeAfter server born later) :=
  held later [] (List.append_nil later).symm

theorem Held.concat (held : question.Held server born later)
    (waits : (question.lifeAfter server born later).OnlyWaits
      (question.lifeAfter server born (later ++ [happening]))) :
    question.Held server born (later ++ [happening]) := by
  intro soon rest same
  rcases List.eq_nil_or_concat rest with empty | ⟨front, last, split⟩
  · subst empty
    rw [List.append_nil] at same
    exact same ▸ held.last.trans waits
  · subst split
    rw [List.concat_eq_append, ← List.append_assoc] at same
    exact held soon front (List.append_inj' same rfl).1

theorem Returned.append {verdict : Verdict} (returned : question.Returned server born later verdict)
    (more : List Happening) : question.Returned server born (later ++ more) verdict := by
  rcases returned with immediate | ⟨soon, rest, same, timely⟩
  · exact .inl immediate
  · refine .inr ⟨soon, rest ++ more, ?_, timely⟩
    rw [same, List.append_assoc, List.cons_append]

/-- No verdict is in yet, or it is in and was not looked at. -/
structure Undecided (server : Server) (born : Life) (question : Question) (later : List Happening)
    (verdict : Option Verdict) : Prop where
  stage : (question.lifeAfter server born later).connection.stage =
    .authenticating ⟨question.request.player, question.request.credentials.sessionKeys, verdict⟩
      (question.time server born)
  opened : (question.lifeAfter server born later).connection.session.isClosed = false
  held : question.Held server born later
  returned : ∀ answer, verdict = some answer → question.Returned server born later answer
  timely : verdict = none →
    (question.lifeAfter server born later).now ≤ question.due server born

/-- What has become of a question. -/
inductive Course (server : Server) (born : Life) (question : Question)
    (later : List Happening) : Prop where
  | undecided (verdict : Option Verdict) (waiting : question.Undecided server born later verdict)
  | refused (ended : question.Refused server born later)
  | admitted (player : Player)
      (admission : Life.Admission server born (question.followedBy later) player)
      (played : (question.lifeAfter server born later).connection.Played player)

theorem Undecided.stays {verdict after : Option Verdict} {next : Life}
    (waiting : question.Undecided server born later verdict)
    (same : (question.lifeAfter server born later).next server happening = next)
    (waits : (question.lifeAfter server born later).OnlyWaits next)
    (stage : next.connection.stage =
      .authenticating ⟨question.request.player, question.request.credentials.sessionKeys, after⟩
        (question.time server born))
    (opened : next.connection.session.isClosed = false)
    (returned : ∀ answer, after = some answer →
      question.Returned server born (later ++ [happening]) answer)
    (timely : after = none → next.now ≤ question.due server born) :
    question.Undecided server born (later ++ [happening]) after := by
  rw [← same, ← lifeAfter_concat] at waits stage opened timely
  exact ⟨stage, opened, waiting.held.concat waits, returned, timely⟩

/-- A change of the pipe that adds these bytes leaves the connection waiting. -/
theorem Undecided.onPipe {verdict : Option Verdict}
    (waiting : question.Undecided server born later verdict) (next : Life) (bytes : Bytes)
    (same : (question.lifeAfter server born later).next server happening = next)
    (now : next.now = (question.lifeAfter server born later).now)
    (reports : next.reports = (question.lifeAfter server born later).reports)
    (sent : next.sent = (question.lifeAfter server born later).sent ++ bytes)
    (stage : next.connection.stage = (question.lifeAfter server born later).connection.stage)
    (pipe : ∃ pipe, next.connection.session =
        { (question.lifeAfter server born later).connection.session with pipe } ∧
      pipe.written = (question.lifeAfter server born later).connection.session.pipe.written ∧
      pipe.arrived.toList =
        (question.lifeAfter server born later).connection.session.pipe.arrived.toList ++ bytes) :
    question.Undecided server born (later ++ [happening]) verdict := by
  obtain ⟨changed, session, written, arrived⟩ := pipe
  have unread : next.connection.session.unread =
      (question.lifeAfter server born later).connection.session.unread ++ bytes := by
    rw [session, Session.unread, Session.unread, arrived, List.append_assoc]
  rw [waiting.stage] at stage
  have waits : (question.lifeAfter server born later).OnlyWaits next := by
    refine ⟨reports, ?_, ?_, ?_, ?_, ?_, ⟨bytes, sent, unread⟩, ⟨_, _, stage⟩⟩
    all_goals rw [session]
    exact written
  refine waiting.stays same waits stage ?_
    (fun answer found => (waiting.returned answer found).append _) ?_
  · rw [session]
    exact waiting.opened
  · rw [now]
    exact waiting.timely

/-- An authenticator that was asked and has not answered may do so in time. -/
theorem Undecided.answer {verdict : Option Verdict} {answer : Verdict}
    (waiting : question.Undecided server born later verdict)
    (lawful : (question.lifeAfter server born later).Answers (.answer answer)) :
    question.Undecided server born (later ++ [.answer answer]) (some answer) := by
  have stage := waiting.stage
  have unanswered := lawful.2 _ _ stage
  dsimp only at unanswered
  have resolved : (question.lifeAfter server born later).connection.resolve answer =
      { (question.lifeAfter server born later).connection with
        stage := .authenticating
          ⟨question.request.player, question.request.credentials.sessionKeys, some answer⟩
          (question.time server born) } := by
    rw [Connection.resolve, stage]
  have next : (question.lifeAfter server born later).next server (.answer answer) =
      { question.lifeAfter server born later with
        connection.stage := .authenticating
          ⟨question.request.player, question.request.credentials.sessionKeys, some answer⟩
          (question.time server born) } := by
    rw [Life.next, resolved]
  refine waiting.stays next ⟨rfl, rfl, rfl, rfl, rfl, rfl, ⟨[], ?_, ?_⟩, ⟨_, _, rfl⟩⟩ rfl
    waiting.opened ?_ ?_
  · exact (List.append_nil _).symm
  · exact (List.append_nil _).symm
  · intro other same
    cases same
    exact .inr ⟨later, [], rfl, waiting.timely unanswered⟩
  · intro none
    cases none

/-- A move either waits, or ends the connection, or brings the player into the game. -/
theorem Undecided.move {verdict : Option Verdict} {seconds : Nat} {registry : PlayerRegistry}
    {picks : List Connection.Branch} (waiting : question.Undecided server born later verdict)
    (asked : question.Asked server born) :
    question.Course server born (later ++ [.move seconds registry picks]) := by
  have held := waiting.held.last
  generalize same :
    (question.lifeAfter server born later).moveAfter server seconds registry picks = moved
  have awaits := Connection.awaitsVerdict waiting.opened
    (Life.awaits_moveAfter waiting.stage server seconds registry picks)
  rw [same] at awaits
  have next : question.lifeAfter server born (later ++ [.move seconds registry picks]) =
      { question.lifeAfter server born later with
        now := (question.lifeAfter server born later).now + seconds
        connection := moved.connection
        reports := (question.lifeAfter server born later).reports ++ moved.reports } := by
    rw [lifeAfter_concat, Life.next, same]
  cases awaits with
  | ends result stage quiet closed late =>
      refine .refused ⟨⟨later, seconds, registry, picks, [], rfl, waiting.held⟩, ?_, ⟨result, ?_⟩, ?_⟩
      · rw [next, quiet, ← held.reports, List.append_nil]
      · rw [next]
        exact stage
      · rw [next]
        exact closed
  | waits undecided early stage quiet kept framer unread =>
      refine .undecided verdict (waiting.stays (lifeAfter_concat _ _ _ _ _).symm ?_ ?_ ?_ ?_ ?_)
      · rw [next]
        refine ⟨?_, framer, kept.info, kept.phase, kept.queued, kept.written,
          ⟨[], (List.append_nil _).symm, ?_⟩, ⟨_, _, stage⟩⟩
        · rw [quiet, List.append_nil]
        · rw [List.append_nil]
          exact unread
      · rw [next]
        exact stage
      · rw [next]
        exact kept.isClosed.trans waiting.opened
      · exact fun answer found => (waiting.returned answer found).append _
      · intro _
        rw [next]
        exact Nat.le_of_lt early
  | joins answer joined decided success joining quiet stage =>
      refine .admitted question.request.player ?_ ?_
      · refine ⟨question, later, seconds, registry, picks, [], answer, joined, rfl, asked, rfl,
          waiting.held, waiting.returned answer decided, ?_, ?_, joining⟩
        · rw [← decided]
          exact waiting.stage
        · exact (ResponseCode.isSuccess_iff _).mp success
      · rw [Connection.Played, next]
        rcases stage with ⟨since, playing⟩ | ⟨result, leaving⟩
        · exact .inl ⟨since, playing⟩
        · exact .inr (.inl ⟨result, leaving⟩)

theorem Refused.next (refused : question.Refused server born later) :
    question.Refused server born (later ++ [happening]) := by
  obtain ⟨result, stage⟩ := refused.stage
  obtain ⟨waiting, until_, with_, picked, rest, split, held⟩ := refused.held
  have waited : ∃ waiting seconds registry picks rest,
      later ++ [happening] = waiting ++ .move seconds registry picks :: rest ∧
        question.Held server born waiting := by
    refine ⟨waiting, until_, with_, picked, rest ++ [happening], ?_, held⟩
    rw [split, List.append_assoc, List.cons_append]
  rcases happening.outside_or_move with outside | ⟨seconds, registry, picks, same⟩
  · obtain ⟨same, reports, closed⟩ := Life.next_outside server _ happening outside
      (fun attempt since other => by rw [stage] at other; cases other)
    rw [← lifeAfter_concat] at same reports closed
    exact ⟨waited, reports.trans refused.reports, ⟨result, same.trans stage⟩,
      closed.trans refused.closed⟩
  · subst same
    have moved : (question.lifeAfter server born later).moveAfter server seconds registry picks =
        ⟨(question.lifeAfter server born later).connection, registry, [], true⟩ := by
      rw [Life.moveAfter, Connection.move, stage]
    have next := lifeAfter_concat server born question later (.move seconds registry picks)
    rw [Life.next, moved] at next
    dsimp only at next
    rw [List.append_nil] at next
    refine ⟨waited, ?_, ⟨result, ?_⟩, ?_⟩
    · rw [next]
      exact refused.reports
    · rw [next]
      exact stage
    · rw [next]
      exact refused.closed

/-- Whatever happens next, the question keeps its course. -/
theorem Course.next (course : question.Course server born later) (asked : question.Asked server born)
    (lawful : (question.lifeAfter server born later).Answers happening) :
    question.Course server born (later ++ [happening]) := by
  cases course with
  | undecided verdict waiting =>
      cases happening with
      | deliver bytes =>
          exact .undecided verdict (waiting.onPipe _ bytes rfl rfl rfl rfl rfl
            ⟨_, rfl, rfl, ByteQueue.toList_push _ _⟩)
      | finish =>
          exact .undecided verdict (waiting.onPipe _ [] rfl rfl rfl (List.append_nil _).symm rfl
            ⟨_, rfl, rfl, (List.append_nil _).symm⟩)
      | disturb call =>
          refine .undecided verdict (waiting.onPipe _ [] rfl rfl rfl (List.append_nil _).symm rfl
            ⟨_, rfl, ?_, ?_⟩)
          · cases call <;> rfl
          · rw [List.append_nil]
            cases call <;> rfl
      | answer verdict => exact .undecided _ (waiting.answer lawful)
      | move seconds registry picks => exact waiting.move asked
  | refused ended => exact .refused ended.next
  | admitted player admission played =>
      refine .admitted player ?_ ?_
      · rw [followedBy_append]
        exact admission.append _
      · rw [lifeAfter_concat]
        exact played.next server happening

/-- Since the question, every report is of a handler that was called with an admitted player. -/
theorem Course.reports (course : question.Course server born later) (seconds : Nat)
    (registry : PlayerRegistry) (picks : List Connection.Branch) :
    ∀ report ∈ ((question.lifeAfter server born later).moveAfter server seconds registry
        picks).reports,
      ∃ call player, report = .called call ∧ call.player = some player ∧
        Life.Admission server born (question.followedBy later) player := by
  intro report reported
  cases course with
  | undecided verdict waiting =>
      have silent : ((question.lifeAfter server born later).moveAfter server seconds registry
          picks).reports = [] := by
        cases Connection.awaitsVerdict waiting.opened
            (Life.awaits_moveAfter waiting.stage server seconds registry picks) with
        | ends result stage quiet => exact quiet
        | waits undecided early stage quiet => exact quiet
        | joins answer joined decided success joining quiet => exact quiet
      rw [silent] at reported
      cases reported
  | refused ended =>
      obtain ⟨result, stage⟩ := ended.stage
      rw [Life.moveAfter, Connection.move, stage] at reported
      cases reported
  | admitted player admission played =>
      obtain ⟨call, same, named⟩ := (played.move server _ registry picks).1 report reported
      exact ⟨call, player, same, named, admission⟩

end Question

end GameServer
