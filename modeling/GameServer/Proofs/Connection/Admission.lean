import GameServer.Proofs.Connection.Handover
import GameServer.Proofs.Connection.Question
import GameServer.Proofs.Connection.Service
import Mathlib.Data.List.Induction

/- This file shows that no handler has a player whom the authenticator has not accepted. -/

namespace GameServer

namespace Life

open Connection (Happening Listens)

/-- A connection that has not asked. -/
inductive Opening (server : Server) (info : SessionInfo) (serverKey : UInt64) (life : Life) :
    Prop where
  | handshake (since : Nat) (stage : life.connection.stage = .handshake since)
      (listens : Listens server info serverKey .awaitingHandshake life.sent
        life.connection.session)
      (written : life.connection.session.pipe.written.toList = []) (silent : life.reports = [])
  | login (since : Nat) (nameHash : UInt8) (rest : Bytes)
      (stage : life.connection.stage = .login since) (sent : life.sent = 14 :: nameHash :: rest)
      (listens : Listens server info serverKey .awaitingLogin rest life.connection.session)
      (written : life.connection.session.pipe.written.toList = handshakeAnswer serverKey)
      (greeted : life.reports = server.calls info none (.handshake nameHash))
  | hopeless (player : Player) (keys : SessionKeys) (since : Nat)
      (stage : life.connection.stage = .authenticating ⟨player, keys, none⟩ since)
      (opened : life.connection.session.isClosed = false)
      (silent : ∀ report ∈ life.reports, report.Anonymous)
  | finished (result : Except SessionError Unit)
      (stage : life.connection.stage = .finished result)
      (silent : ∀ report ∈ life.reports, report.Anonymous)

variable {server : Server} {info : SessionInfo} {serverKey : UInt64} {life : Life}

theorem anonymous_of_nil {reports : List Report} (none : reports = []) :
    ∀ report ∈ reports, report.Anonymous := by
  rw [none]
  exact List.forall_mem_nil _

theorem Opening.anonymous (opening : life.Opening server info serverKey) :
    ∀ report ∈ life.reports, report.Anonymous := by
  cases opening with
  | handshake since stage listens written silent => exact anonymous_of_nil silent
  | login since nameHash rest stage sent listens written greeted =>
      rw [greeted]
      exact server.calls_anonymous info _
  | hopeless player keys since stage opened silent => exact silent
  | finished result stage silent => exact silent

theorem opening_start (server : Server) (reference : server.loginTable = .login)
    (info : SessionInfo) (serverKey : UInt64) (now : Nat) :
    (start server info serverKey now).Opening server info serverKey := by
  refine .handshake now rfl ⟨rfl, rfl, rfl, rfl, ?_⟩ rfl rfl
  simp only [start, Connection.start, reference]
  exact .refl _ _

/-- A change of the pipe that adds these bytes leaves the connection where it is. -/
theorem Opening.onPipe (opening : life.Opening server info serverKey) (next : Life) (pipe : Pipe)
    (bytes : Bytes) (reports : next.reports = life.reports) (sent : next.sent = life.sent ++ bytes)
    (stage : next.connection.stage = life.connection.stage)
    (session : next.connection.session = { life.connection.session with pipe })
    (arrived : pipe.arrived.toList = life.connection.session.pipe.arrived.toList ++ bytes)
    (written : pipe.written = life.connection.session.pipe.written) :
    next.Opening server info serverKey := by
  have anonymous := opening.anonymous
  rw [← reports] at anonymous
  cases opening with
  | handshake since waits listens nothing silent =>
      refine .handshake since (stage.trans waits) ?_ ?_ (reports.trans silent)
      · rw [session, sent]
        exact listens.onPipe pipe bytes arrived
      · rw [session, written]
        exact nothing
  | login since nameHash rest waits whole listens answer greeted =>
      refine .login since nameHash (rest ++ bytes) (stage.trans waits) ?_ ?_ ?_
        (reports.trans greeted)
      · rw [sent, whole]
        rfl
      · rw [session]
        exact listens.onPipe pipe bytes arrived
      · rw [session, written]
        exact answer
  | hopeless player keys since waits opened =>
      refine .hopeless player keys since (stage.trans waits) ?_ anonymous
      rw [session]
      exact opened
  | finished result before => exact .finished result (stage.trans before) anonymous

/-- An answer is not heard by a connection that has not asked. -/
theorem Opening.outside (opening : life.Opening server info serverKey) (happening : Happening)
    (outside : happening.Outside) (lawful : life.Answers happening) :
    (life.next server happening).Opening server info serverKey := by
  cases happening with
  | deliver bytes =>
      exact opening.onPipe _ _ bytes rfl rfl rfl rfl (ByteQueue.toList_push _ _) rfl
  | finish =>
      exact opening.onPipe _ _ [] rfl (List.append_nil _).symm rfl rfl
        (List.append_nil _).symm rfl
  | disturb call =>
      refine opening.onPipe _ (life.connection.session.pipe.disturb call) [] rfl
        (List.append_nil _).symm rfl rfl ?_ ?_
      · rw [List.append_nil]
        cases call <;> rfl
      · cases call <;> rfl
  | answer verdict =>
      obtain ⟨request, asked⟩ := lawful.1
      exact absurd (opening.anonymous _ asked) id
  | move seconds registry picks => cases outside

theorem anonymous_append {reports more : List Report}
    (silent : ∀ report ∈ reports, report.Anonymous) (others : ∀ report ∈ more, report.Anonymous) :
    ∀ report ∈ reports ++ more, report.Anonymous := by
  intro report reported
  rcases List.mem_append.mp reported with early | late
  · exact silent report early
  · exact others report late

/-- The client has sent a handshake and a login block, and the next move asks about the block. -/
structure Asking (server : Server) (info : SessionInfo) (serverKey : UInt64) (life : Life)
    (seconds : Nat) (registry : PlayerRegistry) (picks : List Connection.Branch)
    (request : AuthenticationRequest) (nameHash : UInt8) (rest : Bytes) (block : LoginBlock)
    (left : Bytes) : Prop where
  sent : life.sent = 14 :: nameHash :: rest
  greeted : life.reports = server.calls info none (.handshake nameHash)
  answered : life.connection.session.pipe.written.toList = handshakeAnswer serverKey
  asks : Connection.Asks server info serverKey life.connection.session rest
    (life.moveAfter server seconds registry picks) (life.now + seconds) request block left

/-- A connection that has not asked does not ask in this move, or it asks what it may ask. -/
theorem Opening.move (opening : life.Opening server info serverKey) (seconds : Nat)
    (registry : PlayerRegistry) (picks : List Connection.Branch) :
    ((life.next server (.move seconds registry picks)).Opening server info serverKey ∧
        ∀ report ∈ (life.moveAfter server seconds registry picks).reports, report.Anonymous) ∨
      ∃ request nameHash rest block left,
        Asking server info serverKey life seconds registry picks request nameHash rest block
          left := by
  have silent := opening.anonymous
  generalize same : life.moveAfter server seconds registry picks = moved
  have next : life.next server (.move seconds registry picks) =
      { life with
        now := life.now + seconds
        connection := moved.connection
        reports := life.reports ++ moved.reports } := by
    rw [Life.next, same]
  have made := same
  cases opening with
  | handshake since stage listens written nothing =>
      rw [moveAfter, Connection.move, stage] at made
      cases Connection.awaitsHandshake listens _ registry since moved made with
      | ends result after anonymous =>
          refine .inl ⟨?_, anonymous⟩
          rw [next]
          exact .finished result after (anonymous_append silent anonymous)
      | waits after quiet continues =>
          refine .inl ⟨?_, anonymous_of_nil quiet⟩
          rw [next]
          refine .handshake since after (listens.continues continues) ?_ ?_
          · rw [← written, ← continues.kept.written]
          · rw [nothing, quiet]
            rfl
      | answers nameHash rest sent after reports going answer waits =>
          refine .inl ⟨?_, ?_⟩
          · rw [next]
            refine .login _ nameHash rest after sent waits ?_ ?_
            · rw [answer, written, List.nil_append]
            · rw [nothing, reports, List.nil_append]
          · rw [reports]
            exact server.calls_anonymous info _
  | login since nameHash rest stage sent listens written greeted =>
      rw [moveAfter, Connection.move, stage] at made
      cases Connection.awaitsLogin listens _ registry since picks moved made with
      | ends result after anonymous =>
          refine .inl ⟨?_, anonymous⟩
          rw [next]
          exact .finished result after (anonymous_append silent anonymous)
      | waits after quiet continues =>
          refine .inl ⟨?_, anonymous_of_nil quiet⟩
          rw [next]
          refine .login since nameHash rest after sent (listens.continues continues) ?_ ?_
          · rw [← written, ← continues.kept.written]
          · rw [greeted, quiet, List.append_nil]
      | hopeless player keys after limit opened anonymous =>
          refine .inl ⟨?_, anonymous⟩
          rw [next]
          exact .hopeless player keys _ after opened (anonymous_append silent anonymous)
      | asks request block left asks =>
          exact .inr ⟨request, nameHash, rest, block, left, sent, greeted, written, same ▸ asks⟩
  | hopeless player keys since stage opened =>
      have awaits := awaits_moveAfter stage server seconds registry picks
      rw [made] at awaits
      cases Connection.awaitsVerdict opened awaits with
      | ends result after quiet =>
          refine .inl ⟨?_, anonymous_of_nil quiet⟩
          rw [next]
          exact .finished result after (anonymous_append silent (anonymous_of_nil quiet))
      | waits undecided early after quiet kept =>
          refine .inl ⟨?_, anonymous_of_nil quiet⟩
          rw [next]
          exact .hopeless player keys since after (kept.isClosed.trans opened)
            (anonymous_append silent (anonymous_of_nil quiet))
      | joins verdict joined decided => cases decided
  | finished result stage =>
      rw [moveAfter, Connection.move, stage] at made
      subst made
      refine .inl ⟨?_, anonymous_of_nil rfl⟩
      rw [next]
      exact .finished result stage (anonymous_append silent (anonymous_of_nil rfl))

/-- What is true when the authenticator is asked. -/
structure Entitled (server : Server) (info : SessionInfo) (serverKey : UInt64) (life : Life)
    (request : AuthenticationRequest) : Prop where
  /-- The authenticator was not asked before, and no handler had a player. -/
  silent : ∀ report ∈ life.reports, report.Anonymous
  session : request.session = info
  /-- The handshake was answered. -/
  answered : life.connection.session.pipe.written.toList = handshakeAnswer serverKey
  /-- The client has sent a handshake and a login block that breaks no rule, and the request repeats
  what the block says. -/
  repeats : ∃ nameHash rest block left, life.sent = 14 :: nameHash :: rest ∧
    Bytes.IsLogin rest block left ∧
    server.settings.loginPolicy.validate block serverKey = .ok request.credentials.sessionKeys ∧
    request.credentials = .ofLogin block request.credentials.sessionKeys

theorem Asking.entitled {seconds : Nat} {registry : PlayerRegistry} {picks : List Connection.Branch}
    {request : AuthenticationRequest} {nameHash : UInt8} {rest left : Bytes} {block : LoginBlock}
    (asking : Asking server info serverKey life seconds registry picks request nameHash rest block
      left) :
    life.Entitled server info serverKey request where
  silent := by
    rw [asking.greeted]
    exact server.calls_anonymous info _
  session := congrArg AuthenticationRequest.session asking.asks.repeats
  answered := asking.answered
  repeats := ⟨nameHash, rest, block, left, asking.sent, asking.asks.login, asking.asks.valid,
    congrArg AuthenticationRequest.credentials asking.asks.repeats⟩

/-- Either nothing was asked yet, or one question is on its course. -/
inductive Standing (server : Server) (born : Life) (info : SessionInfo) (serverKey : UInt64)
    (history : List Happening) : Prop where
  | opening (opening : (born.run server history).Opening server info serverKey)
  | asked (question : Question) (later : List Happening)
      (same : history = question.followedBy later) (asked : question.Asked server born)
      (course : question.Course server born later)

/-- A connection that has not asked asks what it may ask. -/
theorem Opening.asking {born : Life} {question : Question}
    (opening : (born.run server question.before).Opening server info serverKey)
    (asked : question.Asked server born) :
    ∃ nameHash rest block left,
      Asking server info serverKey (born.run server question.before) question.seconds
        question.registry question.picks question.request nameHash rest block left := by
  rcases opening.move question.seconds question.registry question.picks with ⟨_, anonymous⟩ |
    ⟨request, nameHash, rest, block, left, asking⟩
  · exact absurd (anonymous _ asked) id
  · rw [Question.Asked, asking.asks.reports] at asked
    rcases List.mem_append.mp asked with early | late
    · exact absurd (server.calls_anonymous info _ _ early) id
    · cases List.mem_singleton.mp late
      exact ⟨nameHash, rest, block, left, asking⟩

/-- A question begins its course when it is asked. -/
theorem Asking.course {born : Life} {question : Question} {nameHash : UInt8} {rest left : Bytes}
    {block : LoginBlock}
    (asking : Asking server info serverKey (born.run server question.before) question.seconds
      question.registry question.picks question.request nameHash rest block left) :
    question.Course server born [] := by
  have begun : question.lifeAfter server born [] =
      (born.run server question.before).next server
        (.move question.seconds question.registry question.picks) :=
    run_concat server born question.before _
  have stage := (congrArg (·.connection.stage) begun).trans asking.asks.stage
  have opened := (congrArg (·.connection.session.isClosed) begun).trans
    (Session.isClosed_of_phase asking.asks.plain.phase (by decide))
  refine .undecided _ ⟨stage, opened, ?_, ?_, ?_⟩
  · intro soon rest same
    have empty := (List.append_eq_nil_iff.mp same.symm).1
    subst empty
    exact ⟨rfl, rfl, rfl, rfl, rfl, rfl, ⟨[], (List.append_nil _).symm, (List.append_nil _).symm⟩,
      _, _, stage⟩
  · intro answer immediate
    exact .inl immediate
  · intro _
    rw [begun]
    exact (Connection.verdictDue_le _ _).1

theorem Standing.next {born : Life} {history : List Happening} {happening : Happening}
    (standing : Standing server born info serverKey history)
    (lawful : (born.run server history).Answers happening) :
    Standing server born info serverKey (history ++ [happening]) := by
  cases standing with
  | opening opening =>
      rcases happening.outside_or_move with outside | ⟨seconds, registry, picks, same⟩
      · refine .opening ?_
        rw [run_concat]
        exact opening.outside happening outside lawful
      · subst same
        rcases opening.move seconds registry picks with ⟨after, _⟩ | ⟨request, _, _, _, _, asking⟩
        · refine .opening ?_
          rw [run_concat]
          exact after
        · have asked : Question.Asked server born ⟨history, seconds, registry, picks, request⟩ := by
            rw [Question.Asked, asking.asks.reports]
            exact List.mem_append_right _ List.mem_cons_self
          exact .asked ⟨history, seconds, registry, picks, request⟩ [] rfl asked asking.course
  | asked question later same asked course =>
      subst same
      refine .asked question (later ++ [happening]) (question.followedBy_append _ _).symm asked ?_
      exact course.next asked lawful

theorem standing_run {born : Life} (opening : born.Opening server info serverKey)
    (history : List Happening) (lawful : Lawful server born history) :
    Standing server born info serverKey history := by
  induction history using List.reverseRecOn with
  | nil => exact .opening opening
  | append_singleton history happening ih => exact (ih lawful.init).next lawful.last

/-- The questions among the reports. -/
def questions (reports : List Report) : List AuthenticationRequest :=
  reports.filterMap fun
    | .asked request => some request
    | .called _ => none

theorem questions_append (first second : List Report) :
    questions (first ++ second) = questions first ++ questions second :=
  List.filterMap_append

theorem questions_anonymous {reports : List Report}
    (silent : ∀ report ∈ reports, report.Anonymous) : questions reports = [] := by
  rw [questions, List.filterMap_eq_nil_iff]
  intro report reported
  cases report with
  | called call => rfl
  | asked request => exact absurd (silent _ reported) id

theorem mem_of_questions {reports : List Report} {request : AuthenticationRequest}
    (asked : request ∈ questions reports) : .asked request ∈ reports := by
  obtain ⟨report, reported, found⟩ := List.mem_filterMap.mp asked
  cases report with
  | called call => cases found
  | asked other =>
      cases found
      exact reported

/-- A move asks at most one question, and none after an earlier one. -/
theorem Standing.questions_move {born : Life} {history : List Happening}
    (standing : Standing server born info serverKey history) (seconds : Nat)
    (registry : PlayerRegistry) (picks : List Connection.Branch)
    (once : (questions (born.run server history).reports).length ≤ 1) :
    (questions
      ((born.run server history).next server (.move seconds registry picks)).reports).length ≤
        1 := by
  have reports : ((born.run server history).next server (.move seconds registry picks)).reports =
      (born.run server history).reports ++
        ((born.run server history).moveAfter server seconds registry picks).reports := rfl
  rw [reports, questions_append]
  cases standing with
  | opening opening =>
      rw [questions_anonymous opening.anonymous, List.nil_append]
      rcases opening.move seconds registry picks with
        ⟨_, anonymous⟩ | ⟨request, _, _, block, _, asking⟩
      · rw [questions_anonymous anonymous]
        exact Nat.zero_le 1
      · rw [asking.asks.reports, questions_append,
          questions_anonymous (server.calls_anonymous info (.login block)), List.nil_append]
        exact Nat.le_refl 1
  | asked question later same asked course =>
      subst same
      have none : questions ((question.lifeAfter server born later).moveAfter server seconds
          registry picks).reports = [] := by
        rw [questions, List.filterMap_eq_nil_iff]
        intro report reported
        obtain ⟨call, player, called, _⟩ := course.reports seconds registry picks report reported
        rw [called]
      rw [Question.lifeAfter] at none
      rw [none, List.append_nil]
      exact once

theorem length_questions_run {born : Life} (opening : born.Opening server info serverKey)
    (history : List Happening) (lawful : Lawful server born history) :
    (questions (born.run server history).reports).length ≤ 1 := by
  induction history using List.reverseRecOn with
  | nil =>
      rw [run_nil, questions_anonymous opening.anonymous]
      exact Nat.zero_le 1
  | append_singleton history happening ih =>
      have once := ih lawful.init
      rw [run_concat]
      rcases happening.outside_or_move with outside | ⟨seconds, registry, picks, same⟩
      · have reports : ((born.run server history).next server happening).reports =
            (born.run server history).reports := by
          cases happening with
          | move seconds registry picks => cases outside
          | deliver bytes => rfl
          | finish => rfl
          | disturb call => rfl
          | answer verdict => rfl
        rw [reports]
        exact once
      · subst same
        exact (standing_run opening history lawful.init).questions_move seconds registry picks
          once

/-- After a question the connection waits, or is refused, or brings a player into the game. -/
theorem course_run {born : Life} (opening : born.Opening server info serverKey)
    {question : Question} {later : List Happening}
    (lawful : Lawful server born (question.followedBy later)) (asked : question.Asked server born) :
    (∃ nameHash rest block left,
      Asking server info serverKey (born.run server question.before) question.seconds
        question.registry question.picks question.request nameHash rest block left) ∧
      question.Course server born later := by
  have before : Standing server born info serverKey question.before :=
    standing_run opening question.before lawful.front
  cases before with
  | opening opening =>
      obtain ⟨nameHash, rest, block, left, asking⟩ := opening.asking asked
      refine ⟨⟨nameHash, rest, block, left, asking⟩, ?_⟩
      induction later using List.reverseRecOn with
      | nil => exact asking.course
      | append_singleton later happening ih =>
          rw [Question.followedBy_append] at lawful
          exact (ih lawful.init).next asked lawful.last
  | asked other later same earlier course =>
      rw [Question.Asked, same] at asked
      obtain ⟨call, player, called, _⟩ := course.reports _ _ _ _ asked
      cases called

/-- The authenticator is asked at most once, about what the client has sent in its handshake and its
login block. Nothing is decoded and no handler runs until it has answered. Handlers have a player
only if it has answered in time with a code of success and the player has joined the registry. -/
theorem admission_run (server : Server) (reference : server.loginTable = .login)
    (info : SessionInfo) (serverKey : UInt64) (now : Nat) (history : List Happening)
    (lawful : Lawful server (start server info serverKey now) history) :
    (questions ((start server info serverKey now).run server history).reports).length ≤ 1 ∧
      (∀ (question : Question) (later : List Happening), history = question.followedBy later →
        question.Asked server (start server info serverKey now) →
          ((start server info serverKey now).run server question.before).Entitled server info
            serverKey question.request ∧
          (question.Held server (start server info serverKey now) later ∨
            question.Refused server (start server info serverKey now) later ∨
            ∃ player, Admission server (start server info serverKey now) history player)) ∧
      ∀ before seconds registry picks later call player,
        history = before ++ .move seconds registry picks :: later →
        .called call ∈ (((start server info serverKey now).run server before).moveAfter server
          seconds registry picks).reports →
        call.player = some player →
          Admission server (start server info serverKey now) before player ∧
            player.connection = info.connection := by
  have opening := opening_start server reference info serverKey now
  refine ⟨length_questions_run opening history lawful, ?_, ?_⟩
  · intro question later same asked
    subst same
    obtain ⟨⟨_, _, _, _, asking⟩, course⟩ := course_run opening lawful asked
    refine ⟨asking.entitled, ?_⟩
    cases course with
    | undecided verdict waiting => exact .inl waiting.held
    | refused ended => exact .inr (.inl ended)
    | admitted player admission played => exact .inr (.inr ⟨player, admission⟩)
  · intro before seconds registry picks later call player same called named
    subst same
    cases standing_run opening before lawful.front with
    | opening opening =>
        rcases opening.move seconds registry picks with
          ⟨_, anonymous⟩ | ⟨request, _, _, _, _, asking⟩
        · have nobody : call.player = none := anonymous _ called
          rw [nobody] at named
          cases named
        · rw [asking.asks.reports] at called
          rcases List.mem_append.mp called with early | late
          · have nobody : call.player = none := server.calls_anonymous info _ _ early
            rw [nobody] at named
            cases named
          · cases List.mem_singleton.mp late
    | asked question later same asked course =>
        subst same
        obtain ⟨other, admitted, same, others, admission⟩ :=
          course.reports seconds registry picks _ called
        cases same
        rw [others] at named
        cases named
        refine ⟨admission, ?_⟩
        obtain ⟨question, waiting, _, _, _, _, _, _, same, asked, found, _⟩ := admission
        rw [same] at lawful
        obtain ⟨⟨_, _, _, _, asking⟩, _⟩ := course_run opening lawful.front asked
        rw [found]
        exact congrArg SessionInfo.connection asking.entitled.session

/-- The question about the patient client, whose handshake and login block come at once. -/
def patientQuestion : Question where
  before :=
    [.deliver ([14, 0] ++ loginFrame), .move 0 (.empty 1) []]
  seconds := 0
  registry := .empty 1
  picks := []
  request := ⟨⟨1, none⟩, ⟨42, "ab", "cd", loginKeys, false⟩⟩

theorem patientQuestion_asked : patientQuestion.Asked slowServer patientLife := by
  have asked : (questions ((patientLife.run slowServer patientQuestion.before).moveAfter
      slowServer 0 (.empty 1) []).reports) = [patientQuestion.request] := by
    decide +kernel
  exact mem_of_questions (asked ▸ List.mem_cons_self)

/-- The answer comes three seconds after the question. -/
def patientHistory : List Happening :=
  patientQuestion.followedBy
    [.move 3 (.empty 1) [], .answer (.decided .ok), .move 0 (.empty 1) []]

/-- The attempt that waits for its verdict. -/
def attempt? (life : Life) : Option LoginAttempt :=
  match life.connection.stage with
  | .authenticating attempt _ => some attempt
  | _ => none

theorem exists_of_attempt? {life : Life} {attempt : LoginAttempt}
    (found : life.attempt? = some attempt) :
    ∃ since, life.connection.stage = .authenticating attempt since := by
  unfold attempt? at found
  split at found
  · next other since stage =>
      cases found
      exact ⟨since, stage⟩
  · cases found

theorem patientHistory_lawful : Lawful slowServer patientLife patientHistory := by
  have waits : Lawful slowServer patientLife
      (patientQuestion.followedBy [.move 3 (.empty 1) []]) := by
    refine lawful_of_silence _ ?_
    intro verdict member
    simp [patientQuestion, Question.followedBy] at member
  have asked : questions (patientLife.run slowServer
      (patientQuestion.followedBy [.move 3 (.empty 1) []])).reports = [patientQuestion.request] := by
    decide +kernel
  have silent : (patientLife.run slowServer
      (patientQuestion.followedBy [.move 3 (.empty 1) []])).attempt? =
        some ⟨patientQuestion.request.player, loginKeys, none⟩ := by
    decide +kernel
  obtain ⟨begun, waiting⟩ := exists_of_attempt? silent
  refine (waits.concat ?_).concat trivial
  refine ⟨⟨_, mem_of_questions (asked ▸ List.mem_cons_self)⟩, ?_⟩
  intro attempt since stage
  cases waiting.symm.trans stage
  rfl

/-- The patient client comes into the game with nothing left to be read. -/
theorem patientHistory_enters :
    let life := patientLife.run slowServer patientHistory
    (∃ player since, life.connection.stage = .playing player since) ∧
      life.connection.session.framer = Connection.gameFramer slowServer loginKeys ∧
      life.connection.session.unread = [] := by
  intro life
  let answered := patientLife.run slowServer
    (patientQuestion.followedBy [.move 3 (.empty 1) [], .answer (.decided .ok)])
  have moved : life.connection = (answered.moveAfter slowServer 0 (.empty 1) []).connection := rfl
  obtain ⟨since, waiting⟩ : ∃ since, answered.connection.stage =
      .authenticating ⟨patientQuestion.request.player, loginKeys, some (.decided .ok)⟩ since :=
    exists_of_attempt? (by decide +kernel)
  have plays : ∃ player since, life.connection.stage = .playing player since :=
    Stage.playing_of_left (by decide +kernel)
  refine ⟨plays, ?_⟩
  obtain ⟨player, begun, plays⟩ := plays
  have listening := listening_run slowServer ⟨1, none⟩ 0x0000000300000004 0
    (patientQuestion.followedBy [.move 3 (.empty 1) [], .answer (.decided .ok)])
  obtain ⟨phase, framer, _⟩ := listening.at_authenticating waiting
  have nothing : answered.connection.session.unread = [] := by decide +kernel
  rw [← nothing]
  rw [moved, moveAfter, Connection.move, waiting] at plays ⊢
  exact Connection.enters_awaitVerdict _ (.empty 1) since _ phase framer [] plays

/-- A ping that comes in the game is offered to its handler. It is hidden by the byte that the
framer of the game holds, and no keystream is computed. -/
theorem reports_ping {server : Server} {life : Life} {player : Player} {since limit : Nat}
    {pair : KeystreamPair} (stage : life.connection.stage = .playing player since)
    (phase : life.connection.session.phase = .inGame)
    (framer : life.connection.session.framer = .ciphered .game limit pair)
    (unread : life.connection.session.unread = [])
    (sound : life.connection.session.pipe.readFault = false) (seconds : Nat)
    (registry : PlayerRegistry) (picks : List Connection.Branch) :
    ((life.next server (.deliver [pair.incoming.nextByte.1])).moveAfter server seconds registry
      picks).reports = server.calls life.connection.session.info (some player) .ping := by
  let session : Session :=
    { life.connection.session with
      pipe := life.connection.session.pipe.deliver [pair.incoming.nextByte.1] }
  have receives : life.connection.session.OnlyReceives session [pair.incoming.nextByte.1] :=
    .ofPipe _ _ _ rfl (ByteQueue.toList_push _ _)
  have whole := receives.unread
  rw [unread, List.nil_append] at whole
  have decodes : (Framer.ciphered .game limit pair).Decodes [pair.incoming.nextByte.1]
      (.ok (some .ping)) (.ciphered .game limit (pair.skipIncoming 1)) [] :=
    ⟨1, fun more => Framer.decode_ping limit pair more⟩
  rw [← framer, ← whole] at decodes
  have opened : session.isClosed = false := Session.isClosed_of_phase phase (by decide)
  have accepted : Session.accepts session.phase Message.ping.kind = true :=
    (congrArg (Session.accepts · Message.ping.kind) phase).trans rfl
  rw [moveAfter, Connection.move, next, onPipe]
  dsimp only
  rw [stage]
  exact Connection.reports_play opened sound decodes accepted _ registry player since

/-- In the game the patient client sends a ping. -/
def pingHistory : List Happening :=
  patientHistory ++ [.deliver [(KeystreamPair.server loginKeys).incoming.nextByte.1]]

theorem pingHistory_reports :
    ∃ player, ((patientLife.run slowServer pingHistory).moveAfter slowServer 0 (.empty 1)
      []).reports = [.called ⟨"ping", ⟨1, none⟩, some player, .ping⟩] := by
  obtain ⟨⟨player, since, plays⟩, framer, unread⟩ := patientHistory_enters
  have phase : (patientLife.run slowServer patientHistory).connection.session.phase = .inGame := by
    decide +kernel
  have sound : (patientLife.run slowServer patientHistory).connection.session.pipe.readFault =
      false := by
    decide +kernel
  have named : (patientLife.run slowServer patientHistory).connection.session.info = ⟨1, none⟩ := by
    decide +kernel
  refine ⟨player, ?_⟩
  rw [pingHistory, run_concat, reports_ping plays phase framer unread sound, named]
  rfl

theorem admission_run_of_patient :
    Lawful slowServer patientLife (pingHistory ++ [.move 0 (.empty 1) []]) ∧
      (patientLife.run slowServer patientQuestion.before).Entitled slowServer ⟨1, none⟩
        0x0000000300000004 patientQuestion.request ∧
      ∃ player,
        .called ⟨"ping", ⟨1, none⟩, some player, .ping⟩ ∈
          ((patientLife.run slowServer pingHistory).moveAfter slowServer 0 (.empty 1) []).reports ∧
        Admission slowServer patientLife pingHistory player ∧ player.connection = 1 := by
  have lawful : Lawful slowServer patientLife (pingHistory ++ [.move 0 (.empty 1) []]) := by
    refine Along.concat ?_ trivial
    exact patientHistory_lawful.concat trivial
  obtain ⟨_, question, handlers⟩ := admission_run slowServer rfl ⟨1, none⟩ 0x0000000300000004 0 _
    lawful
  obtain ⟨player, reports⟩ := pingHistory_reports
  have called : .called ⟨"ping", ⟨1, none⟩, some player, .ping⟩ ∈
      ((patientLife.run slowServer pingHistory).moveAfter slowServer 0 (.empty 1) []).reports := by
    rw [reports]
    exact List.mem_singleton_self _
  exact ⟨lawful, (question patientQuestion _ rfl patientQuestion_asked).1, player, called,
    handlers pingHistory 0 (.empty 1) [] [] _ player rfl called rfl⟩

end Life

end GameServer
