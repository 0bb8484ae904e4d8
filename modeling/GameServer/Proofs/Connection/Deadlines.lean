import GameServer.Proofs.Connection.Admission
import GameServer.Proofs.Connection.Service
import GameServer.Proofs.Session.Written
import Mathlib.Data.List.Induction

/- This file shows that no client puts off the deadlines of its connection. -/

namespace GameServer

/-- The game has not begun at this stage, and the connection has not ended. -/
def Stage.beforeGame : Stage → Bool
  | .handshake _ => true
  | .login _ => true
  | .authenticating _ _ => true
  | _ => false

/-- The deadline of this stage has not passed, and neither had those before it. -/
def Stage.Timely (settings : Settings) (begun now : Nat) : Stage → Prop
  | .handshake since => since = begun ∧ now ≤ since + settings.handshakeLimit
  | .login since =>
      since ≤ begun + settings.handshakeLimit ∧ now ≤ since + settings.handshakeLimit
  | .authenticating _ since =>
      since ≤ begun + 2 * settings.handshakeLimit ∧ now ≤ since + settings.authenticationLimit
  | .playing _ since => now ≤ since + settings.idleLimit
  | .leaving _ _ => True
  | .finished _ => True

theorem Stage.Timely.bound {settings : Settings} {begun now : Nat} {stage : Stage}
    (timely : stage.Timely settings begun now) (before : stage.beforeGame = true) :
    now ≤ begun + 2 * settings.handshakeLimit + settings.authenticationLimit := by
  cases stage with
  | handshake since =>
      obtain ⟨first, early⟩ := timely
      omega
  | login since =>
      obtain ⟨first, early⟩ := timely
      omega
  | authenticating attempt since =>
      obtain ⟨first, early⟩ := timely
      omega
  | playing | leaving | finished => cases before

namespace Session

/-- What a read of a session makes it hear at a time. -/
inductive Attends (session : Session) (due time : Nat) : Hearing → Session → Prop where
  | message (message : Message) (next : Session)
      (reading : session.read = .ok (.message message) next) :
      Attends session due time (.message message) next
  | ended (next : Session) (reading : session.read = .ok .ended next) :
      Attends session due time .ended next
  | failed (error : SessionError) (next : Session) (reading : session.read = .error error next) :
      Attends session due time (.failed error) next
  | waiting (next : Session) (reading : session.read = .ok .waiting next) (early : time < due) :
      Attends session due time .waiting next
  | late (next : Session) (reading : session.read = .ok .waiting next) (elapsed : due ≤ time) :
      Attends session due time (.failed .timedOut) next

theorem attends_hear (session : Session) (since limit time : Nat) :
    session.Attends (since + limit) time (session.hear since limit time).1
      (session.hear since limit time).2 := by
  rw [hear]
  cases reading : session.read with
  | error error next => exact .failed error next reading
  | ok incoming next =>
      cases incoming with
      | message message => exact .message message next reading
      | ended => exact .ended next reading
      | waiting =>
          by_cases elapsed : since + limit ≤ time
          · simp only [if_pos elapsed]
            exact .late next reading elapsed
          · simp only [if_neg elapsed]
            exact .waiting next reading (Nat.lt_of_not_le elapsed)

/-- A session that is too late for a message says nothing more. -/
theorem conclude_timedOut {session next : Session} (waiting : session.read = .ok .waiting next) :
    (next.conclude (.error .timedOut)).pipe.written = session.pipe.written ∧
      (next.conclude (.error .timedOut)).isClosed = true := by
  have kept := session.kept_read
  rw [waiting] at kept
  exact ⟨next.close_pipe.1.trans kept.written, next.close_isClosed⟩

/-- Time has passed only if there was nothing to read. -/
def Idles (session : Session) (now time : Nat) : Prop :=
  time = now ∨ ∃ next, session.read = .ok .waiting next

theorem Idles.punctual {session : Session} {now time due : Nat} (idles : session.Idles now time)
    (timely : now ≤ due) (busy : ∀ next, session.read ≠ .ok .waiting next) : time ≤ due := by
  rcases idles with same | ⟨next, waiting⟩
  · rw [same]
    exact timely
  · exact absurd waiting (busy next)

end Session

namespace Connection

/-- What becomes at a time of a connection that waits for a message until it is due. -/
inductive Heeds (connection : Connection) (due time : Nat) (handled : Stage → Prop)
    (ended : Except SessionError Unit → Stage) (moved : Move) : Prop where
  | waits (early : time < due) (same : moved.connection.stage = connection.stage)
  | handles (punctual : time ≤ due) (message : Message) (next : Session)
      (heard : connection.session.read = .ok (.message message) next)
      (after : handled moved.connection.stage)
  | ends (punctual : time ≤ due) (result : Except SessionError Unit)
      (after : moved.connection.stage = ended result)
  | late (elapsed : due ≤ time) (after : moved.connection.stage = ended (.error .timedOut))
      (written : moved.connection.session.pipe.written = connection.session.pipe.written)
      (closed : moved.connection.session.isClosed = true) (quiet : moved.reports = [])

/-- What becomes at a time of a connection that waits for a verdict and for no longer than a
limit. -/
inductive Concludes (attempt : LoginAttempt) (since limit time : Nat) (moved : Move) : Prop where
  | waits (early : time < since + limit)
      (same : moved.connection.stage = .authenticating attempt since)
  | ends (punctual : time ≤ since + limit)
      (after : moved.connection.stage = .playing attempt.player time ∨
        (∃ result, moved.connection.stage = .leaving result attempt.player) ∨
        ∃ result, moved.connection.stage = .finished result)
  | late (elapsed : verdictDue since limit ≤ time)
      (after : moved.connection.stage =
        .finished (.error (.authenticationFailed .loginServerOffline)))

/-- What a connection at a stage makes of what it hears. -/
inductive Reacts (registry : PlayerRegistry) (stage : Stage) (handled : Stage → Prop)
    (ended : Except SessionError Unit → Stage) : Session.Hearing × Session → Move → Prop where
  | waits (next : Session) :
      Reacts registry stage handled ended (.waiting, next) (wait next stage registry)
  | handles (message : Message) (next : Session) (moved : Move)
      (after : handled moved.connection.stage) (going : moved.waits = false) :
      Reacts registry stage handled ended (.message message, next) moved
  | rejects (message : Message) (next : Session) (moved : Move) (result : Except SessionError Unit)
      (after : moved.connection.stage = ended result) (going : moved.waits = false) :
      Reacts registry stage handled ended (.message message, next) moved
  | stops (next : Session) (moved : Move) (result : Except SessionError Unit)
      (after : moved.connection.stage = ended result) (going : moved.waits = false) :
      Reacts registry stage handled ended (.ended, next) moved
  | fails (error : SessionError) (next : Session) (moved : Move)
      (after : moved.connection = ⟨next.conclude (.error error), ended (.error error)⟩)
      (quiet : moved.reports = []) (going : moved.waits = false) :
      Reacts registry stage handled ended (.failed error, next) moved

section Reacts

variable {registry : PlayerRegistry} {session : Session} {stage : Stage}
  {handled : Stage → Prop} {ended : Except SessionError Unit → Stage}
  {since limit now time : Nat} {moved : Move}

/-- Whoever reacts to what is heard in time heeds the deadline. -/
theorem Reacts.heeds
    (reacts : Reacts registry stage handled ended (session.hear since limit time) moved)
    (timely : now ≤ since + limit) (idles : session.Idles now time) :
    Heeds ⟨session, stage⟩ (since + limit) time handled ended moved := by
  have attends := session.attends_hear since limit time
  generalize session.hear since limit time = heard at reacts attends
  cases reacts with
  | waits next =>
      cases attends with
      | waiting next reading early => exact .waits early rfl
  | handles message next moved after =>
      cases attends with
      | message message next reading =>
          have punctual := idles.punctual timely fun _ => by rw [reading]; nofun
          exact .handles punctual message next reading after
  | rejects message next moved result after =>
      cases attends with
      | message message next reading =>
          exact .ends (idles.punctual timely fun _ => by rw [reading]; nofun) result after
  | stops next moved result after =>
      cases attends with
      | ended next reading =>
          exact .ends (idles.punctual timely fun _ => by rw [reading]; nofun) result after
  | fails error next moved after quiet =>
      cases attends with
      | failed error next reading =>
          exact .ends (idles.punctual timely fun _ => by rw [reading]; nofun) _ (by rw [after])
      | late next reading elapsed =>
          obtain ⟨written, closed⟩ := Session.conclude_timedOut reading
          exact .late elapsed (by rw [after]) (by rw [after]; exact written)
            (by rw [after]; exact closed) quiet

/-- Whoever waits has nothing to read, and a deadline ahead. -/
theorem Reacts.waiting
    (reacts : Reacts registry stage handled ended (session.hear since limit now) moved)
    (waits : moved.waits = true) :
    ∃ next, session.read = .ok .waiting next ∧ now < since + limit ∧
      moved = wait next stage registry := by
  have attends := session.attends_hear since limit now
  generalize session.hear since limit now = heard at reacts attends
  cases reacts with
  | waits next =>
      cases attends with
      | waiting next reading early => exact ⟨next, reading, early, rfl⟩
  | handles _ _ _ _ going => cases going.symm.trans waits
  | rejects _ _ _ _ _ going => cases going.symm.trans waits
  | stops _ _ _ _ going => cases going.symm.trans waits
  | fails _ _ _ _ _ going => cases going.symm.trans waits

end Reacts

section Heeds

variable {server : Server} {now time : Nat} {registry : PlayerRegistry} {session : Session}
  {since : Nat}

theorem awaitHandshake_reacts :
    Reacts registry (.handshake since) (· = .login time) .finished
      (session.hear since server.settings.handshakeLimit time)
      (awaitHandshake server time registry session since) := by
  unfold awaitHandshake
  generalize session.hear since server.settings.handshakeLimit time = heard
  obtain ⟨hearing, next⟩ := heard
  cases hearing with
  | failed error => exact .fails error next _ rfl rfl rfl
  | ended => exact .stops next _ (.ok ()) rfl rfl
  | waiting => exact .waits next
  | message message =>
      dsimp only
      split
      · exact .rejects message next _ _ rfl rfl
      · exact .handles message next _ rfl rfl

theorem authenticate_stage (block : LoginBlock) (keys : SessionKeys) (reports : List Report)
    (picks : List Branch) :
    let moved := authenticate server time registry session block keys reports picks
    moved.waits = false ∧
      ((∃ attempt, moved.connection.stage = .authenticating attempt time) ∨
        ∃ result, moved.connection.stage = .finished result) := by
  unfold authenticate
  split
  · exact ⟨rfl, .inr ⟨_, rfl⟩⟩
  · dsimp only
    split
    · exact ⟨rfl, .inl ⟨_, rfl⟩⟩
    · exact ⟨rfl, .inl ⟨_, rfl⟩⟩

theorem awaitLogin_reacts (picks : List Branch) :
    Reacts registry (.login since) (fun stage => ∃ attempt, stage = .authenticating attempt time)
      .finished (session.hear since server.settings.handshakeLimit time)
      (awaitLogin server time registry session since picks) := by
  unfold awaitLogin
  generalize session.hear since server.settings.handshakeLimit time = heard
  obtain ⟨hearing, next⟩ := heard
  cases hearing with
  | failed error => exact .fails error next _ rfl rfl rfl
  | ended => exact .stops next _ (.ok ()) rfl rfl
  | waiting => exact .waits next
  | message message =>
      dsimp only
      split
      · split
        · exact .rejects _ next _ _ rfl rfl
        · next keys valid =>
            obtain ⟨going, asked | ⟨result, refused⟩⟩ := authenticate_stage _ keys _ picks
            · exact .handles _ next _ asked going
            · exact .rejects _ next _ result refused going
      · exact .rejects _ next _ _ rfl rfl

theorem play_reacts {player : Player} :
    Reacts registry (.playing player since) (· = .playing player time) (.leaving · player)
      (session.hear since server.settings.idleLimit time)
      (play server time registry session player since) := by
  unfold play
  generalize session.hear since server.settings.idleLimit time = heard
  obtain ⟨hearing, next⟩ := heard
  cases hearing with
  | failed error => exact .fails error next _ rfl rfl rfl
  | ended => exact .stops next _ (.ok ()) rfl rfl
  | waiting => exact .waits next
  | message message =>
      dsimp only
      split
      · exact .rejects message next _ _ rfl rfl
      · exact .handles message next _ rfl rfl

theorem concludeLogin_stage (attempt : LoginAttempt) (code : ResponseCode) :
    let stage := (concludeLogin server time registry session attempt code).connection.stage
    stage = .playing attempt.player time ∨ (∃ result, stage = .leaving result attempt.player) ∨
      ∃ result, stage = .finished result := by
  unfold concludeLogin
  dsimp only
  split
  · split
    · exact .inr (.inr ⟨_, rfl⟩)
    · split
      · exact .inr (.inl ⟨_, rfl⟩)
      · exact .inl rfl
  · exact .inr (.inr ⟨_, rfl⟩)

/-- A wait that stays where nobody picks a branch has nothing to do before its time. -/
theorem quiet_of_waits {attempt : LoginAttempt}
    (waits : (awaitVerdict server now registry session attempt since []).waits = true) :
    attempt.verdict = none ∧ now < verdictDue since server.settings.authenticationLimit ∧
      Blocked server session := by
  rw [awaitVerdict] at waits
  split at waits
  · next none => exact select_eq_none none
  · next moved ends =>
      obtain ⟨branch, _, ends⟩ := List.exists_of_findSome?_eq_some ends
      rw [waits_of_ends ends] at waits
      cases waits
  · cases waits

/-- A verdict that is known is not put off, and one that is not known in time is not awaited. -/
theorem Awaits.concludes {attempt : LoginAttempt} {moved : Move}
    (awaits : Awaits server time registry attempt since session moved)
    (timely : now ≤ since + server.settings.authenticationLimit)
    (idles : time = now ∨ attempt.verdict = none ∧ Blocked server session) :
    Concludes attempt since server.settings.authenticationLimit time moved := by
  have bound := (verdictDue_le since server.settings.authenticationLimit).2
  induction awaits with
  | decided session verdict known =>
      refine .ends ?_ (concludeLogin_stage attempt verdict.outcome)
      rcases idles with same | ⟨undecided, _⟩
      · rw [same]
        exact timely
      · cases known.symm.trans undecided
  | late session elapsed => exact .late elapsed rfl
  | failed session next error room failed =>
      rcases idles with same | ⟨_, blocked⟩
      · exact .ends (same ▸ timely) (.inr (.inr ⟨_, rfl⟩))
      · obtain ⟨_, quiet⟩ := blocked.quiet room
        cases failed.symm.trans quiet
  | left session next room ended =>
      rcases idles with same | ⟨_, blocked⟩
      · exact .ends (same ▸ timely) (.inr (.inr ⟨_, rfl⟩))
      · obtain ⟨_, quiet⟩ := blocked.quiet room
        cases ended.symm.trans quiet
  | waits session undecided early => exact .waits (Nat.lt_of_lt_of_le early bound) rfl
  | reads session next count undecided early => exact .waits (Nat.lt_of_lt_of_le early bound) rfl
  | again session next count moved room taken later ih =>
      rcases idles with same | ⟨_, blocked⟩
      · exact ih (.inl same)
      · obtain ⟨_, quiet⟩ := blocked.quiet room
        cases taken.symm.trans quiet

end Heeds

/-- The wait for an answer has begun no later for the answer. -/
theorem timely_resolve {settings : Settings} {begun now : Nat} {connection : Connection}
    (verdict : Verdict) (timely : connection.stage.Timely settings begun now) :
    (connection.resolve verdict).stage.Timely settings begun now := by
  obtain ⟨session, stage⟩ := connection
  cases stage with
  | handshake | login | authenticating | playing | leaving | finished => exact timely

end Connection

namespace Life

open Connection (Happening Heeds Concludes)

/-- A connection moves as soon as it has something to do: writing and joining take no time, which
passes only while the connection waits. -/
def Prompt (server : Server) (life : Life) : Happening → Prop
  | .move seconds registry _ => seconds = 0 ∨ (life.moveAfter server 0 registry []).waits = true
  | _ => True

/-- No deadline has passed. -/
abbrev Timely (server : Server) (begun : Nat) (life : Life) : Prop :=
  life.connection.stage.Timely server.settings begun life.now

variable {server : Server} {begun : Nat} {life : Life} {seconds : Nat} {registry : PlayerRegistry}
  {picks : List Connection.Branch}

/-- A session that waits for a message has nothing to read while time passes. -/
theorem Prompt.idles (prompt : life.Prompt server (.move seconds registry picks))
    {waiting : Session → Prop}
    (listens : (life.moveAfter server 0 registry []).waits = true →
      ∃ next, life.connection.session.read = .ok .waiting next ∧ waiting next) :
    life.connection.session.Idles life.now (life.now + seconds) := by
  rcases prompt with none | waits
  · exact .inl (by rw [none, Nat.add_zero])
  · obtain ⟨next, reading, _⟩ := listens waits
    exact .inr ⟨next, reading⟩

/-- What a move comes to before the deadline of its stage, and behind it. -/
structure Keeps (server : Server) (begun : Nat) (life : Life) (seconds : Nat)
    (registry : PlayerRegistry) (picks : List Connection.Branch) : Prop where
  handshake : ∀ since, life.connection.stage = .handshake since →
    since = begun ∧
      Heeds life.connection (since + server.settings.handshakeLimit) (life.now + seconds)
        (· = .login (life.now + seconds)) .finished (life.moveAfter server seconds registry picks)
  login : ∀ since, life.connection.stage = .login since →
    since ≤ begun + server.settings.handshakeLimit ∧
      Heeds life.connection (since + server.settings.handshakeLimit) (life.now + seconds)
        (fun stage => ∃ attempt, stage = .authenticating attempt (life.now + seconds)) .finished
        (life.moveAfter server seconds registry picks)
  authenticating : ∀ attempt since, life.connection.stage = .authenticating attempt since →
    since ≤ begun + 2 * server.settings.handshakeLimit ∧
      Concludes attempt since server.settings.authenticationLimit (life.now + seconds)
        (life.moveAfter server seconds registry picks)
  playing : ∀ player since, life.connection.stage = .playing player since →
    Heeds life.connection (since + server.settings.idleLimit) (life.now + seconds)
      (· = .playing player (life.now + seconds)) (.leaving · player)
      (life.moveAfter server seconds registry picks)
  leaving : ∀ result player, life.connection.stage = .leaving result player →
    (life.moveAfter server seconds registry picks).connection =
        ⟨life.connection.session, .finished result⟩ ∧
      (life.moveAfter server seconds registry picks).registry =
        (registry.remove player.username player.connection).2
  finished : ∀ result, life.connection.stage = .finished result →
    (life.moveAfter server seconds registry picks).connection = life.connection

/-- A connection that no deadline has passed keeps the deadline of its stage. -/
theorem Timely.keeps (timely : life.Timely server begun)
    (prompt : life.Prompt server (.move seconds registry picks)) :
    life.Keeps server begun seconds registry picks := by
  obtain ⟨now, ⟨session, stage⟩, reports, sent⟩ := life
  constructor
  case handshake =>
    rintro since ⟨⟩
    obtain ⟨first, early⟩ := timely
    have idles := prompt.idles Connection.awaitHandshake_reacts.waiting
    exact ⟨first, Connection.awaitHandshake_reacts.heeds early idles⟩
  case login =>
    rintro since ⟨⟩
    obtain ⟨first, early⟩ := timely
    have idles := prompt.idles (Connection.awaitLogin_reacts []).waiting
    exact ⟨first, (Connection.awaitLogin_reacts picks).heeds early idles⟩
  case authenticating =>
    rintro attempt since ⟨⟩
    obtain ⟨first, early⟩ := timely
    refine ⟨first, (Connection.awaits_awaitVerdict session picks).concludes early ?_⟩
    rcases prompt with none | waits
    · exact .inl (by rw [none, Nat.add_zero])
    · obtain ⟨undecided, _, blocked⟩ := Connection.quiet_of_waits waits
      exact .inr ⟨undecided, blocked⟩
  case playing =>
    rintro player since ⟨⟩
    have idles := prompt.idles Connection.play_reacts.waiting
    exact Connection.play_reacts.heeds timely idles
  case leaving =>
    rintro result player ⟨⟩
    exact ⟨rfl, rfl⟩
  case finished =>
    rintro result ⟨⟩
    rfl

/-- Behind a move that keeps its deadline no other one has passed yet. -/
theorem Keeps.timely (keeps : life.Keeps server begun seconds registry picks) :
    (life.next server (.move seconds registry picks)).Timely server begun := by
  rw [Timely]
  change Stage.Timely _ _ (life.now + seconds)
    (life.moveAfter server seconds registry picks).connection.stage
  cases stage : life.connection.stage with
  | handshake since =>
      obtain ⟨first, heeds⟩ := keeps.handshake since stage
      cases heeds with
      | waits early same =>
          rw [same, stage]
          exact ⟨first, Nat.le_of_lt early⟩
      | handles punctual message next heard after =>
          rw [after]
          exact ⟨first ▸ punctual, Nat.le_add_right _ _⟩
      | ends punctual result after | late elapsed after =>
          rw [after]
          trivial
  | login since =>
      obtain ⟨first, heeds⟩ := keeps.login since stage
      cases heeds with
      | waits early same =>
          rw [same, stage]
          exact ⟨first, Nat.le_of_lt early⟩
      | handles punctual message next heard after =>
          obtain ⟨attempt, asked⟩ := after
          rw [asked]
          exact ⟨by omega, Nat.le_add_right _ _⟩
      | ends punctual result after | late elapsed after =>
          rw [after]
          trivial
  | authenticating attempt since =>
      obtain ⟨first, concludes⟩ := keeps.authenticating attempt since stage
      cases concludes with
      | waits early same =>
          rw [same]
          exact ⟨first, Nat.le_of_lt early⟩
      | ends punctual after =>
          rcases after with playing | ⟨result, leaving⟩ | ⟨result, finished⟩
          · rw [playing]
            exact Nat.le_add_right _ _
          · rw [leaving]
            trivial
          · rw [finished]
            trivial
      | late elapsed after =>
          rw [after]
          trivial
  | playing player since =>
      cases keeps.playing player since stage with
      | waits early same =>
          rw [same, stage]
          exact Nat.le_of_lt early
      | handles punctual message next heard after =>
          rw [after]
          exact Nat.le_add_right _ _
      | ends punctual result after | late elapsed after =>
          rw [after]
          trivial
  | leaving result player =>
      rw [(keeps.leaving result player stage).1]
      trivial
  | finished result =>
      rw [keeps.finished result stage, stage]
      trivial

/-- No deadline is put off from outside. -/
theorem Timely.next {happening : Happening} (timely : life.Timely server begun)
    (prompt : life.Prompt server happening) :
    (life.next server happening).Timely server begun := by
  cases happening with
  | deliver | finish | disturb => exact timely
  | answer verdict => exact Connection.timely_resolve verdict timely
  | move seconds registry picks => exact (timely.keeps prompt).timely

theorem timely_run (server : Server) (info : SessionInfo) (serverKey : UInt64) (begun : Nat)
    (history : List Happening)
    (prompt : Along (Prompt server) server (start server info serverKey begun) history) :
    ((start server info serverKey begun).run server history).Timely server begun := by
  induction history using List.reverseRecOn with
  | nil => exact ⟨rfl, Nat.le_add_right _ _⟩
  | append_singleton history happening ih =>
      rw [run_concat]
      exact (ih prompt.init).next prompt.last

/-- Whatever a client sends and whenever it does, no stage of its connection outlasts the deadline
that stood when the stage began, or when the last message of the game was handled. At the deadline
the connection ends, and a player in the game leaves in the next move. -/
theorem deadlines_run (server : Server) (info : SessionInfo) (serverKey : UInt64) (begun : Nat)
    (history : List Happening)
    (prompt : Along (Prompt server) server (start server info serverKey begun) history) :
    let life := (start server info serverKey begun).run server history
    life.Timely server begun ∧
      (life.connection.stage.beforeGame = true →
        life.now ≤ begun + 2 * server.settings.handshakeLimit +
          server.settings.authenticationLimit) ∧
      ∀ seconds registry picks, life.Prompt server (.move seconds registry picks) →
        life.Keeps server begun seconds registry picks := by
  have timely := timely_run server info serverKey begun history prompt
  refine ⟨timely, timely.bound, ?_⟩
  intro seconds registry picks prompt
  exact timely.keeps prompt

/-- A client that sends one byte now and then. Its handshake comes whole, its login block does
not. -/
def dribblingHistory : List Happening :=
  [.deliver [14], .move 0 (.empty 1) [], .move 4 (.empty 1) [], .deliver [0], .move 0 (.empty 1) [],
    .deliver [16], .move 0 (.empty 1) [], .move 4 (.empty 1) [], .deliver [42],
    .move 0 (.empty 1) []]

theorem dribblingHistory_prompt :
    Along (Prompt slowServer) slowServer patientLife dribblingHistory := by
  refine along_cons trivial (along_cons (.inl rfl) (along_cons (.inr ?_) ?_))
  · decide +kernel
  refine along_cons trivial (along_cons (.inl rfl) ?_)
  refine along_cons trivial (along_cons (.inl rfl) (along_cons (.inr ?_) ?_))
  · decide +kernel
  exact along_cons trivial (along_cons (.inl rfl) along_nil)

theorem deadlines_run_of_dribbling :
    Along (Prompt slowServer) slowServer patientLife dribblingHistory ∧
      (patientLife.run slowServer dribblingHistory).Prompt slowServer (.move 1 (.empty 1) []) ∧
      (patientLife.run slowServer dribblingHistory).Keeps slowServer 0 1 (.empty 1) [] ∧
      ((patientLife.run slowServer dribblingHistory).moveAfter slowServer 1
        (.empty 1) []).connection.result? = some (.error .timedOut) := by
  have prompt : (patientLife.run slowServer dribblingHistory).Prompt slowServer
      (.move 1 (.empty 1) []) := .inr (by decide +kernel)
  have run := deadlines_run slowServer ⟨1, none⟩ 0x0000000300000004 0 dribblingHistory
    dribblingHistory_prompt
  exact ⟨dribblingHistory_prompt, prompt, run.2.2 1 (.empty 1) [] prompt, by decide +kernel⟩

end Life

end GameServer
