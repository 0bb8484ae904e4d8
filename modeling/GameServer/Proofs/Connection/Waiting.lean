import GameServer.Proofs.Connection.Stages
import Mathlib.Data.List.Induction

/- This file shows that a wait for a verdict only receives bytes, whatever happens meanwhile. -/

namespace GameServer

/-- A session has only received bytes since then, and these bytes were delivered to it. -/
structure Session.OnlyReceives (before after : Session) (delivered : Bytes) : Prop where
  info : after.info = before.info
  framer : after.framer = before.framer
  phase : after.phase = before.phase
  queued : after.queued = before.queued
  serverKey : after.serverKey = before.serverKey
  written : after.pipe.written = before.pipe.written
  received : ∃ taken, after.received.bytes.toList = before.received.bytes.toList ++ taken ∧
    before.pipe.arrived.toList ++ delivered = taken ++ after.pipe.arrived.toList

namespace Session

theorem OnlyReceives.trans {first second third : Session} {early late : Bytes}
    (one : OnlyReceives first second early) (two : OnlyReceives second third late) :
    OnlyReceives first third (early ++ late) where
  info := two.info.trans one.info
  framer := two.framer.trans one.framer
  phase := two.phase.trans one.phase
  queued := two.queued.trans one.queued
  serverKey := two.serverKey.trans one.serverKey
  written := two.written.trans one.written
  received := by
    obtain ⟨front, received, arrived⟩ := one.received
    obtain ⟨back, later, rest⟩ := two.received
    refine ⟨front ++ back, ?_, ?_⟩
    · rw [later, received, List.append_assoc]
    · rw [← List.append_assoc, arrived, List.append_assoc, rest, List.append_assoc]

/-- A change of the pipe that adds these bytes. -/
theorem OnlyReceives.ofPipe (session : Session) (pipe : Pipe) (bytes : Bytes)
    (written : pipe.written = session.pipe.written)
    (arrived : pipe.arrived.toList = session.pipe.arrived.toList ++ bytes) :
    OnlyReceives session { session with pipe } bytes :=
  ⟨rfl, rfl, rfl, rfl, rfl, written, [], (List.append_nil _).symm, arrived.symm⟩

theorem OnlyReceives.refl (session : Session) : OnlyReceives session session [] :=
  .ofPipe session session.pipe [] rfl (List.append_nil _).symm

theorem OnlyReceives.unread {before after : Session} {delivered : Bytes}
    (receives : OnlyReceives before after delivered) :
    after.unread = before.unread ++ delivered := by
  obtain ⟨taken, received, arrived⟩ := receives.received
  rw [Session.unread, Session.unread, received, List.append_assoc, List.append_assoc, arrived]

/-- Bytes that are read off the pipe stand behind those that were received. -/
theorem OnlyReceives.ofBuffer {session next : Session} {count : Nat}
    (opened : session.isClosed = false) (taken : session.buffer = .ok (.bytes count) next) :
    OnlyReceives session next [] := by
  rw [buffer, whileOpen_of_open _ session opened] at taken
  cases same : session.pipe.read session.room with
  | mk reading pipe =>
      rw [same] at taken
      cases reading with
      | bytes bytes =>
          cases taken
          obtain ⟨front, left, _⟩ := Pipe.read_bytes session.pipe pipe session.room bytes same
          subst front left
          refine ⟨rfl, rfl, rfl, rfl, rfl, rfl,
            session.pipe.arrived.toList.take session.room, ?_, ?_⟩
          · simp only [receive, ReceiveBuffer.bytes_push, ReceiveBuffer.bytes_ready,
              ByteQueue.toList_push]
          · simp only [receive, ByteQueue.toList_drop, List.take_append_drop, List.append_nil]
      | waiting => cases taken
      | ended => cases taken
      | failed => cases taken

theorem OnlyReceives.isClosed {before after : Session} {delivered : Bytes}
    (receives : OnlyReceives before after delivered) : after.isClosed = before.isClosed := by
  rw [Session.isClosed, Session.isClosed, receives.phase]

/-- Reads receive bytes one after another, and each of them begins below the bound. -/
inductive Receives (bound : Nat) : Session → Session → Prop where
  | none (session : Session) : Receives bound session session
  | read (session next last : Session) (count : Nat)
      (room : session.received.bytes.size < bound)
      (taken : session.buffer = .ok (.bytes count) next) (later : Receives bound next last) :
      Receives bound session last

theorem Receives.onlyReceives {bound : Nat} {session last : Session}
    (receives : Receives bound session last) (opened : session.isClosed = false) :
    session.OnlyReceives last [] := by
  induction receives with
  | none session => exact .refl session
  | read session next last count room taken later ih =>
      have first := OnlyReceives.ofBuffer opened taken
      exact first.trans (ih (first.isClosed.trans opened))

theorem Receives.kept {bound : Nat} {session last : Session}
    (receives : Receives bound session last) (opened : session.isClosed = false) :
    session.KeptByRead last := by
  induction receives with
  | none session => exact .refl session
  | read session next last count room taken later ih =>
      have buffers := session.buffers_buffer opened
      rw [taken] at buffers
      cases buffers with
      | bytes count next kept framer unread =>
          exact kept.trans (ih (kept.isClosed.trans opened))

end Session

namespace Connection

/-- A wait for a verdict reads only while less than this has been received. -/
def waitBound (server : Server) : Nat := server.settings.maxPayload + 3

variable (server : Server) (registry : PlayerRegistry) (session : Session) (attempt : LoginAttempt)
  (since now : Nat)

/-- The wait for a verdict ends with this move, after some bytes were received. -/
inductive Returns (moved : Move) : Prop where
  | decided (next : Session) (received : session.Receives (waitBound server) next)
      (code : ResponseCode) (verdict : attempt.verdict = some (.decided code))
      (concludes : moved = concludeLogin server now registry next attempt (.ofValue code.value))
  | crashed (next : Session) (received : session.Receives (waitBound server) next)
      (verdict : attempt.verdict = some .crashed)
      (concludes : moved = concludeLogin server now registry next attempt .couldNotComplete)
  | late (next : Session) (received : session.Receives (waitBound server) next)
      (elapsed : verdictDue since server.settings.authenticationLimit ≤ now)
      (concludes : moved = concludeLogin server now registry next attempt .loginServerOffline)
  | left (next : Session) (received : session.Receives (waitBound server) next)
      (room : next.received.bytes.size < waitBound server)
      (silent : next.pipe.arrived.toList = []) (ended : next.pipe.ended = true)
      (finishes : moved = finish next (.ok ()) registry [])
  | failed (next : Session) (received : session.Receives (waitBound server) next)
      (room : next.received.bytes.size < waitBound server) (fault : next.pipe.readFault = true)
      (finishes : moved = finish { next with pipe := { next.pipe with readFault := false } }
        (.error (.transport .readFailed)) registry [])

/-- The wait for a verdict goes on after this move, and some bytes were received. -/
inductive GoesOn (moved : Move) : Prop where
  | full (next : Session) (received : session.Receives (waitBound server) next)
      (undecided : attempt.verdict = none)
      (early : now < verdictDue since server.settings.authenticationLimit)
      (full : waitBound server ≤ next.received.bytes.size)
      (waits : moved = wait next (.authenticating attempt since) registry)
  | silent (next : Session) (received : session.Receives (waitBound server) next)
      (undecided : attempt.verdict = none)
      (early : now < verdictDue since server.settings.authenticationLimit)
      (silent : next.pipe.arrived.toList = []) (going : next.pipe.ended = false)
      (waits : moved = wait next (.authenticating attempt since) registry)
  | receives (next : Session) (received : session.Receives (waitBound server) next)
      (undecided : attempt.verdict = none)
      (early : now < verdictDue since server.settings.authenticationLimit)
      (fewer : next.work < session.work)
      (reads : moved = ⟨⟨next, .authenticating attempt since⟩, registry, [], false⟩)

/-- What comes first ends the wait. While the stream brings neither an end nor a fault, this is the
verdict if the time has not run out, and the time if there is no verdict. -/
structure First (moved : Move) : Prop where
  verdict : ∀ verdict, attempt.verdict = some verdict →
    now < verdictDue since server.settings.authenticationLimit →
    session.pipe.ended = false → session.pipe.readFault = false →
      ∃ next, session.Receives (waitBound server) next ∧
        moved = concludeLogin server now registry next attempt verdict.outcome
  deadline : attempt.verdict = none →
    verdictDue since server.settings.authenticationLimit ≤ now →
    session.pipe.ended = false → session.pipe.readFault = false →
      ∃ next, session.Receives (waitBound server) next ∧
        moved = concludeLogin server now registry next attempt .loginServerOffline

variable {server registry session attempt since now} {moved : Move}

/-- What ends the wait after more bytes ends it in all. -/
theorem Returns.before {next : Session}
    (returns : Returns server registry next attempt since now moved) (count : Nat)
    (room : session.received.bytes.size < waitBound server)
    (taken : session.buffer = .ok (.bytes count) next) :
    Returns server registry session attempt since now moved := by
  have first {last : Session} (later : next.Receives (waitBound server) last) :=
    Session.Receives.read session next last count room taken later
  cases returns with
  | decided last received code verdict concludes =>
      exact .decided last (first received) code verdict concludes
  | crashed last received verdict concludes =>
      exact .crashed last (first received) verdict concludes
  | late last received elapsed concludes => exact .late last (first received) elapsed concludes
  | left last received full silent ended finishes =>
      exact .left last (first received) full silent ended finishes
  | failed last received full fault finishes =>
      exact .failed last (first received) full fault finishes

theorem GoesOn.before {next : Session}
    (goesOn : GoesOn server registry next attempt since now moved) (count : Nat)
    (room : session.received.bytes.size < waitBound server)
    (taken : session.buffer = .ok (.bytes count) next) :
    GoesOn server registry session attempt since now moved := by
  have first {last : Session} (later : next.Receives (waitBound server) last) :=
    Session.Receives.read session next last count room taken later
  cases goesOn with
  | full last received undecided early full waits =>
      exact .full last (first received) undecided early full waits
  | silent last received undecided early silent going waits =>
      exact .silent last (first received) undecided early silent going waits
  | receives last received undecided early fewer reads =>
      have less := Session.buffer_work_lt session next count taken
      exact .receives last (first received) undecided early (Nat.lt_trans fewer less) reads

theorem Awaits.cases (awaits : Awaits server now registry attempt since session moved)
    (opened : session.isClosed = false) :
    Returns server registry session attempt since now moved ∨
      GoesOn server registry session attempt since now moved := by
  induction awaits with
  | decided session verdict known =>
      cases verdict with
      | decided code => exact .inl (.decided session (.none session) code known rfl)
      | crashed => exact .inl (.crashed session (.none session) known rfl)
  | late session elapsed => exact .inl (.late session (.none session) elapsed rfl)
  | failed session next error room failed =>
      have buffers := session.buffers_buffer opened
      rw [failed] at buffers
      cases buffers with
      | failed fault => exact .inl (.failed session (.none session) room fault rfl)
  | left session next room ended =>
      have buffers := session.buffers_buffer opened
      rw [ended] at buffers
      cases buffers with
      | ended silent finished => exact .inl (.left session (.none session) room silent finished rfl)
  | waits session undecided early blocked =>
      rcases blocked with full | ⟨next, quiet⟩
      · exact .inr (.full session (.none session) undecided early full rfl)
      · have buffers := session.buffers_buffer opened
        rw [quiet] at buffers
        cases buffers with
        | waiting silent going =>
            exact .inr (.silent session (.none session) undecided early silent going rfl)
  | reads session next count undecided early room taken =>
      have fewer := Session.buffer_work_lt session next count taken
      exact .inr (.receives next (.read session next next count room taken (.none next)) undecided
        early fewer rfl)
  | again session next count moved room taken later ih =>
      have kept : next.isClosed = session.isClosed :=
        (Session.OnlyReceives.ofBuffer opened taken).isClosed
      rcases ih (kept.trans opened) with returns | goesOn
      · exact .inl (returns.before count room taken)
      · exact .inr (goesOn.before count room taken)

/-- A connection that goes on waiting has only received bytes. -/
theorem GoesOn.onlyReceives (goesOn : GoesOn server registry session attempt since now moved)
    (opened : session.isClosed = false) :
    moved.connection.stage = .authenticating attempt since ∧ moved.reports = [] ∧
      session.OnlyReceives moved.connection.session [] := by
  cases goesOn with
  | full next received undecided early full waits =>
      rw [waits]
      exact ⟨rfl, rfl, received.onlyReceives opened⟩
  | silent next received undecided early silent going waits =>
      rw [waits]
      exact ⟨rfl, rfl, received.onlyReceives opened⟩
  | receives next received undecided early fewer reads =>
      rw [reads]
      exact ⟨rfl, rfl, received.onlyReceives opened⟩

theorem GoesOn.quiet (goesOn : GoesOn server registry session attempt since now moved) :
    attempt.verdict = none ∧ now < verdictDue since server.settings.authenticationLimit := by
  cases goesOn with
  | full next received undecided early | silent next received undecided early
  | receives next received undecided early => exact ⟨undecided, early⟩

/-- While the stream brings neither an end nor a fault, a wait ends with the verdict or with the
time. -/
theorem Returns.concludes (returns : Returns server registry session attempt since now moved)
    (opened : session.isClosed = false) (going : session.pipe.ended = false)
    (sound : session.pipe.readFault = false) :
    ∃ next code, session.Receives (waitBound server) next ∧
      moved = concludeLogin server now registry next attempt code ∧
      ((∃ verdict, attempt.verdict = some verdict ∧ code = verdict.outcome) ∨
        (verdictDue since server.settings.authenticationLimit ≤ now ∧
          code = .loginServerOffline)) := by
  cases returns with
  | decided next received code known concludes =>
      exact ⟨next, _, received, concludes, .inl ⟨_, known, rfl⟩⟩
  | crashed next received known concludes =>
      exact ⟨next, _, received, concludes, .inl ⟨_, known, rfl⟩⟩
  | late next received elapsed concludes =>
      exact ⟨next, _, received, concludes, .inr ⟨elapsed, rfl⟩⟩
  | left next received room silent ended =>
      rw [(received.kept opened).ended, going] at ended
      cases ended
  | failed next received room fault =>
      rw [(received.kept opened).readFault sound] at fault
      cases fault

theorem Awaits.first (awaits : Awaits server now registry attempt since session moved)
    (opened : session.isClosed = false) :
    First server registry session attempt since now moved where
  verdict verdict known early going sound := by
    rcases awaits.cases opened with returns | goesOn
    · obtain ⟨next, code, received, concludes, ⟨given, answer, same⟩ | ⟨elapsed, _⟩⟩ :=
        returns.concludes opened going sound
      · cases known.symm.trans answer
        exact ⟨next, received, same ▸ concludes⟩
      · exact absurd early (Nat.not_lt_of_le elapsed)
    · cases known.symm.trans goesOn.quiet.1
  deadline undecided elapsed going sound := by
    rcases awaits.cases opened with returns | goesOn
    · obtain ⟨next, code, received, concludes, ⟨given, answer, _⟩ | ⟨_, same⟩⟩ :=
        returns.concludes opened going sound
      · cases undecided.symm.trans answer
      · exact ⟨next, received, same ▸ concludes⟩
    · exact absurd goesOn.quiet.2 (Nat.not_lt_of_le elapsed)

/-- The bytes that something brings from the client. -/
def Happening.delivery : Happening → Bytes
  | .deliver bytes => bytes
  | _ => []

/-- All bytes that the client sends meanwhile. -/
def delivered (history : List Happening) : Bytes := history.flatMap Happening.delivery

/-- The verdict that is known after this. -/
def Happening.known (verdict : Option Verdict) : Happening → Option Verdict
  | .answer given => some given
  | _ => verdict

end Connection

/-- The attempt with the verdict that is known after all this. -/
def LoginAttempt.after (attempt : LoginAttempt) (history : List Connection.Happening) :
    LoginAttempt :=
  { attempt with verdict := history.foldl Connection.Happening.known attempt.verdict }

theorem LoginAttempt.after_concat (attempt : LoginAttempt)
    (history : List Connection.Happening) (happening : Connection.Happening) :
    attempt.after (history ++ [happening]) =
      { attempt.after history with verdict := happening.known (attempt.after history).verdict } := by
  simp only [after, List.foldl_append, List.foldl_cons, List.foldl_nil]

theorem Connection.delivered_concat (history : List Happening) (happening : Happening) :
    delivered (history ++ [happening]) = delivered history ++ happening.delivery := by
  simp only [delivered, List.flatMap_append, List.flatMap_cons, List.flatMap_nil, List.append_nil]

namespace Life

open Connection (Happening delivered)

/-- A connection has only waited for a verdict, and has only received bytes however many more are
read off the pipe. -/
structure Waits (server : Server) (born : Life) (attempt : LoginAttempt) (since : Nat)
    (history : List Happening) : Prop where
  stage : (born.run server history).connection.stage =
    .authenticating (attempt.after history) since
  reads : ∀ last,
    (born.run server history).connection.session.Receives (Connection.waitBound server) last →
      born.connection.session.OnlyReceives last (delivered history)
  reports : (born.run server history).reports = born.reports

/-- The wait for a verdict ends with the next move. -/
def ReturnsNow (server : Server) (born : Life) (attempt : LoginAttempt) (since : Nat)
    (history : List Happening) (seconds : Nat) (registry : PlayerRegistry)
    (picks : List Connection.Branch) : Prop :=
  let life := born.run server history
  Connection.Returns server registry life.connection.session (attempt.after history) since
    (life.now + seconds) (life.moveAfter server seconds registry picks)

/-- The wait for a verdict goes on after the next move. -/
def GoesOnNow (server : Server) (born : Life) (attempt : LoginAttempt) (since : Nat)
    (history : List Happening) (seconds : Nat) (registry : PlayerRegistry)
    (picks : List Connection.Branch) : Prop :=
  let life := born.run server history
  Connection.GoesOn server registry life.connection.session (attempt.after history) since
    (life.now + seconds) (life.moveAfter server seconds registry picks)

/-- The next move takes what comes first. -/
def FirstNow (server : Server) (born : Life) (attempt : LoginAttempt) (since : Nat)
    (history : List Happening) (seconds : Nat) (registry : PlayerRegistry)
    (picks : List Connection.Branch) : Prop :=
  let life := born.run server history
  Connection.First server registry life.connection.session (attempt.after history) since
    (life.now + seconds) (life.moveAfter server seconds registry picks)

section Waits

variable {server : Server} {born : Life} {attempt : LoginAttempt} {since : Nat}
  {history : List Happening}

theorem Waits.receives (waits : born.Waits server attempt since history) :
    born.connection.session.OnlyReceives (born.run server history).connection.session
      (delivered history) :=
  waits.reads _ (.none _)

theorem Waits.opened (waits : born.Waits server attempt since history)
    (begun : born.connection.session.phase = .authenticating) :
    (born.run server history).connection.session.isClosed = false :=
  Session.isClosed_of_phase (waits.receives.phase.trans begun) (by decide)

/-- It is enough to have received bytes so far. -/
theorem waits_of_receives (begun : born.connection.session.phase = .authenticating)
    (stage : (born.run server history).connection.stage =
      .authenticating (attempt.after history) since)
    (receives : born.connection.session.OnlyReceives
      (born.run server history).connection.session (delivered history))
    (reports : (born.run server history).reports = born.reports) :
    born.Waits server attempt since history where
  stage := stage
  reads last more := by
    have opened : (born.run server history).connection.session.isClosed = false :=
      Session.isClosed_of_phase (receives.phase.trans begun) (by decide)
    have whole := receives.trans (more.onlyReceives opened)
    rw [List.append_nil] at whole
    exact whole
  reports := reports

/-- Every move of a connection that waits ends the wait or goes on with it. -/
theorem Waits.cases (waits : born.Waits server attempt since history)
    (begun : born.connection.session.phase = .authenticating) (seconds : Nat)
    (registry : PlayerRegistry) (picks : List Connection.Branch) :
    born.ReturnsNow server attempt since history seconds registry picks ∨
      born.GoesOnNow server attempt since history seconds registry picks :=
  (awaits_moveAfter waits.stage server seconds registry picks).cases (waits.opened begun)

theorem Waits.first (waits : born.Waits server attempt since history)
    (begun : born.connection.session.phase = .authenticating) (seconds : Nat)
    (registry : PlayerRegistry) (picks : List Connection.Branch) :
    born.FirstNow server attempt since history seconds registry picks :=
  (awaits_moveAfter waits.stage server seconds registry picks).first (waits.opened begun)

/-- What comes from outside only brings bytes or a verdict. -/
theorem Waits.outside (waits : born.Waits server attempt since history)
    (begun : born.connection.session.phase = .authenticating) (happening : Happening)
    (next : Life) (same : (born.run server history).next server happening = next)
    (stage : next.connection.stage = .authenticating (attempt.after (history ++ [happening])) since)
    (receives : (born.run server history).connection.session.OnlyReceives
      next.connection.session happening.delivery)
    (reports : next.reports = (born.run server history).reports) :
    born.Waits server attempt since (history ++ [happening]) := by
  refine waits_of_receives begun ?_ ?_ ?_
  · rw [run_concat, same]
    exact stage
  · rw [run_concat, same, Connection.delivered_concat]
    exact waits.receives.trans receives
  · rw [run_concat, same]
    exact reports.trans waits.reports

/-- One more thing leaves the connection waiting, unless it is a move that ends the wait. -/
theorem Waits.next (waits : born.Waits server attempt since history)
    (begun : born.connection.session.phase = .authenticating) (happening : Happening) :
    born.Waits server attempt since (history ++ [happening]) ∨
      ∃ seconds registry picks, happening = .move seconds registry picks ∧
        born.ReturnsNow server attempt since history seconds registry picks := by
  have stage := waits.stage
  cases happening with
  | deliver bytes =>
      refine .inl (waits.outside begun _ _ rfl ?_ ?_ rfl)
      · rw [LoginAttempt.after_concat]
        exact stage
      · exact .ofPipe _ _ bytes rfl (ByteQueue.toList_push _ _)
  | finish =>
      refine .inl (waits.outside begun _ _ rfl ?_ ?_ rfl)
      · rw [LoginAttempt.after_concat]
        exact stage
      · exact .ofPipe _ _ [] rfl (List.append_nil _).symm
  | disturb call =>
      refine .inl (waits.outside begun _ _ rfl ?_ ?_ rfl)
      · rw [LoginAttempt.after_concat]
        exact stage
      · refine .ofPipe _ _ [] ?_ ?_
        · cases call <;> rfl
        · rw [List.append_nil]
          cases call <;> rfl
  | answer verdict =>
      have resolved : (born.run server history).connection.resolve verdict =
          { (born.run server history).connection with
            stage := .authenticating { attempt.after history with verdict := some verdict }
              since } := by
        rw [Connection.resolve, stage]
      refine .inl (waits.outside begun _ _ rfl ?_ ?_ rfl)
      · rw [Life.next, resolved, LoginAttempt.after_concat]
        rfl
      · rw [Life.next, resolved]
        exact .refl _
  | move seconds registry picks =>
      rcases waits.cases begun seconds registry picks with returns | goesOn
      · exact .inr ⟨seconds, registry, picks, rfl, returns⟩
      · obtain ⟨still, quiet, receives⟩ := goesOn.onlyReceives (waits.opened begun)
        refine .inl (waits.outside begun _ _ rfl ?_ receives ?_)
        · rw [LoginAttempt.after_concat]
          exact still
        · rw [Life.next, quiet, List.append_nil]

/-- A connection that has begun to wait waits on, or a move has ended the wait. -/
theorem waits_run (stage : born.connection.stage = .authenticating attempt since)
    (begun : born.connection.session.phase = .authenticating) (history : List Happening) :
    born.Waits server attempt since history ∨
      ∃ waiting seconds registry picks rest,
        history = waiting ++ .move seconds registry picks :: rest ∧
        born.Waits server attempt since waiting ∧
        born.ReturnsNow server attempt since waiting seconds registry picks := by
  induction history using List.reverseRecOn with
  | nil => exact .inl (waits_of_receives begun stage (.refl _) rfl)
  | append_singleton history happening ih =>
      rcases ih with waits | ⟨waiting, seconds, registry, picks, rest, split, waits, returns⟩
      · rcases waits.next begun happening with still | ⟨seconds, registry, picks, same, returns⟩
        · exact .inl still
        · exact .inr ⟨history, seconds, registry, picks, [], by rw [same], waits, returns⟩
      · refine .inr ⟨waiting, seconds, registry, picks, rest ++ [happening], ?_, waits, returns⟩
        rw [split, List.append_assoc, List.cons_append]

end Waits

end Life

end GameServer
