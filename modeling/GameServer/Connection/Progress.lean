import GameServer.Connection.Wait
import GameServer.Framer.Progress

/- This file shows that a connection that is left alone comes to a wait. -/

namespace GameServer

namespace Framer

theorem isIdle_hide (framer : Framer) (opcode : UInt8) :
    (framer.hide opcode).2.isIdle = framer.isIdle := by
  unfold hide
  split <;> rfl

theorem isIdle_putFrame (opcode : UInt8) (rule : LengthRule) (payload : Bytes)
    (before after : Framer × Bytes) (same : putFrame opcode rule payload before = .ok () after) :
    after.1.isIdle = before.1.isIdle := by
  obtain ⟨framer, written⟩ := before
  simp only [putFrame] at same
  split at same
  · cases same
  · cases same
    exact isIdle_hide framer opcode

theorem isIdle_encode (message : Message) (before after : Framer × Bytes)
    (same : encode message before = .ok () after) : after.1.isIdle = before.1.isIdle := by
  obtain ⟨framer, written⟩ := before
  simp only [encode] at same
  split at same
  · cases same
  · split at same
    · cases same
    · split at same
      · cases same
        rfl
      · exact isIdle_putFrame _ _ _ _ _ same

end Framer

namespace Session

/-- The bytes on the pipe count more than the bytes received, and those as in the framer. -/
def work (session : Session) : Nat :=
  3 * session.pipe.arrived.size + session.framer.work session.received.bytes.toList

/-- Two sessions have the same incoming side if the same bytes are at the same place. -/
def SameIncoming (left right : Session) : Prop :=
  left.pipe.arrived = right.pipe.arrived ∧ left.received = right.received ∧
    left.framer.isIdle = right.framer.isIdle

theorem SameIncoming.trans {first second third : Session} (one : SameIncoming first second)
    (two : SameIncoming second third) : SameIncoming first third :=
  ⟨one.1.trans two.1, one.2.1.trans two.2.1, one.2.2.trans two.2.2⟩

theorem SameIncoming.work_eq {left right : Session} (same : SameIncoming left right) :
    left.work = right.work := by
  simp only [work, Framer.work, same.1, same.2.1, same.2.2]

theorem queue_incoming (message : Message) (session next : Session)
    (same : queue message session = .ok () next) : SameIncoming next session := by
  obtain ⟨_, same⟩ := whileOpen_ok _ session next () same
  split at same
  · next framer queued encoded =>
      cases same
      exact ⟨rfl, rfl, Framer.isIdle_encode message _ _ encoded⟩
  · cases same

theorem queueAll_incoming (messages : List Message) (session next : Session)
    (same : queueAll messages session = .ok () next) : SameIncoming next session := by
  induction messages generalizing session with
  | nil =>
      cases same
      exact ⟨rfl, rfl, rfl⟩
  | cons message rest ih =>
      obtain ⟨middle, queued, later⟩ := andThen_ok _ _ session next () same
      exact (ih middle later).trans (queue_incoming message session middle queued)

theorem flush_incoming (session next : Session) (same : flush session = .ok () next) :
    SameIncoming next session := by
  have flushes := session.flushes (whileOpen_ok _ session next () same).1
  rw [same] at flushes
  cases flushes with
  | sent => exact ⟨rfl, rfl, rfl⟩

theorem sendAll_incoming (messages : List Message) (session next : Session)
    (same : sendAll messages session = .ok () next) : SameIncoming next session := by
  obtain ⟨middle, queued, written⟩ := andThen_ok _ _ session next () same
  exact (flush_incoming middle next written).trans
    (queueAll_incoming messages session middle queued)

theorem bytes_consume (session : Session) :
    (session.consume (session.framer.decode session.received.bytes.toList)).received.bytes.toList =
      (session.framer.decode session.received.bytes.toList).rest := by
  simp only [consume, ReceiveBuffer.bytes_reserve, ReceiveBuffer.bytes_drop,
    ByteQueue.toList_drop, Framer.decode_rest]

theorem work_decodeNext_le (session : Session) : session.decodeNext.2.work ≤ session.work := by
  unfold decodeNext
  split
  · exact Nat.le_refl _
  · have fewer := Framer.decode_work_le session.framer session.received.bytes.toList
    rw [work, bytes_consume]
    exact Nat.add_le_add_left fewer _

theorem work_decodeNext_lt (session decoded : Session) (message : Message)
    (found : session.decodeNext = (.ok (some message), decoded)) :
    decoded.work < session.work := by
  unfold decodeNext at found
  split at found
  · cases found
  · rw [Prod.mk.injEq] at found
    have fewer := Framer.decode_work_lt session.framer session.received.bytes.toList
      (Framer.Cut.settled_of_some _ message found.1)
    rw [← found.2, work, bytes_consume]
    exact Nat.add_lt_add_left fewer _

theorem work_receive_lt (session : Session) (pipe : Pipe) (bytes : Bytes)
    (taken : session.pipe.read session.room = (.bytes bytes, pipe)) :
    (session.receive pipe bytes).work < session.work := by
  obtain ⟨front, left, full⟩ := Pipe.read_bytes session.pipe pipe session.room bytes taken
  have some : 0 < session.room := session.received.room_ready_pos
  subst front left
  simp only [work, receive, ReceiveBuffer.bytes_push, ReceiveBuffer.bytes_ready,
    ByteQueue.toList_push, ByteQueue.size_drop, Framer.work_append, List.length_take,
    ByteQueue.length_toList]
  omega

theorem readOpen_work_lt (session next : Session) (message : Message)
    (same : session.readOpen = .ok (.message message) next) : next.work < session.work := by
  fun_induction readOpen session with
  | case1 => cases same
  | case2 session found decoded settled =>
      unfold accept at same
      split at same
      · injection same with _ final
        subst final
        exact work_decodeNext_lt session decoded found settled
      · cases same
  | case3 => cases same
  | case4 => cases same
  | case5 =>
      unfold atEnd at same
      split at same
      all_goals cases same
  | case6 session decoded pending bytes pipe taken ih =>
      have kept := pipe_decodeNext session
      have consumed := work_decodeNext_le session
      rw [pending] at kept consumed
      rw [← kept] at taken
      have received := work_receive_lt decoded pipe bytes taken
      exact Nat.lt_of_lt_of_le (Nat.lt_trans (ih same) received) consumed

theorem hear_work_lt (session : Session) (since limit now : Nat) (message : Message)
    (heard : (session.hear since limit now).1 = .message message) :
    (session.hear since limit now).2.work < session.work := by
  unfold hear at *
  split at *
  · next found next same =>
      unfold read at same
      split at same
      · cases same
      · exact readOpen_work_lt session next found same
  · cases heard
  · split at heard
    all_goals cases heard
  · cases heard

theorem buffer_work_lt (session next : Session) (count : Nat)
    (same : session.buffer = .ok (.bytes count) next) : next.work < session.work := by
  obtain ⟨_, same⟩ := whileOpen_ok _ session next _ same
  split at same
  · cases same
  · cases same
  · cases same
  · next bytes pipe taken =>
      cases same
      exact work_receive_lt session pipe bytes taken

end Session

/-- The number of stages that are still to come. -/
def Stage.left : Stage → Nat
  | .handshake _ => 5
  | .login _ => 4
  | .authenticating _ _ => 3
  | .playing _ _ => 2
  | .leaving _ _ => 1
  | .finished _ => 0

namespace Connection

/-- A connection is ahead of another if it is at a later stage, or has less work at the same
stage. -/
def Ahead (after before : Connection) : Prop :=
  after.stage.left < before.stage.left ∨
    after.stage.left = before.stage.left ∧ after.session.work < before.session.work

theorem awaitHandshake_ahead (server : Server) (now : Nat) (registry : PlayerRegistry)
    (session : Session) (since : Nat) (next : Move)
    (same : awaitHandshake server now registry session since = next)
    (going : next.waits = false) : Ahead next.connection ⟨session, .handshake since⟩ := by
  unfold awaitHandshake at same
  split at same
  · subst same
    exact Or.inl (show 0 < 5 by decide)
  · subst same
    exact Or.inl (show 0 < 5 by decide)
  · subst same
    cases going
  · dsimp only at same
    split at same
    · subst same
      exact Or.inl (show 0 < 5 by decide)
    · subst same
      exact Or.inl (show 4 < 5 by decide)

theorem authenticate_ahead (server : Server) (now : Nat) (registry : PlayerRegistry)
    (session before : Session) (block : LoginBlock) (keys : SessionKeys) (reports : List Report)
    (picks : List Branch) (since : Nat) :
    Ahead (authenticate server now registry session block keys reports picks).connection
      ⟨before, .login since⟩ := by
  unfold authenticate
  split
  · exact Or.inl (show 0 < 4 by decide)
  · dsimp only
    split <;> exact Or.inl (show 3 < 4 by decide)

theorem awaitLogin_ahead (server : Server) (now : Nat) (registry : PlayerRegistry)
    (session : Session) (since : Nat) (picks : List Branch) (next : Move)
    (same : awaitLogin server now registry session since picks = next)
    (going : next.waits = false) : Ahead next.connection ⟨session, .login since⟩ := by
  unfold awaitLogin at same
  split at same
  · subst same
    exact Or.inl (show 0 < 4 by decide)
  · subst same
    exact Or.inl (show 0 < 4 by decide)
  · subst same
    cases going
  · dsimp only at same
    split at same
    · split at same
      · subst same
        exact Or.inl (show 0 < 4 by decide)
      · subst same
        exact authenticate_ahead server now registry _ session _ _ _ picks since
    · subst same
      exact Or.inl (show 0 < 4 by decide)

theorem concludeLogin_ahead (server : Server) (now : Nat) (registry : PlayerRegistry)
    (session before : Session) (attempt : LoginAttempt) (code : ResponseCode) (since : Nat) :
    Ahead (concludeLogin server now registry session attempt code).connection
      ⟨before, .authenticating attempt since⟩ := by
  unfold concludeLogin
  dsimp only
  split
  · split
    · exact Or.inl (show 0 < 3 by decide)
    · split
      · exact Or.inl (show 1 < 3 by decide)
      · exact Or.inl (show 2 < 3 by decide)
  · exact Or.inl (show 0 < 3 by decide)

theorem Awaits.ahead {server : Server} {now : Nat} {registry : PlayerRegistry}
    {session : Session} {attempt : LoginAttempt} {since : Nat} {next : Move}
    (awaits : Awaits server now registry attempt since session next)
    (going : next.waits = false) :
    Ahead next.connection ⟨session, .authenticating attempt since⟩ := by
  induction awaits with
  | decided session | late session =>
      exact concludeLogin_ahead server now registry session session attempt _ since
  | failed | left => exact Or.inl (show 0 < 3 by decide)
  | waits => cases going
  | reads session next count undecided early room taken =>
      exact Or.inr ⟨rfl, Session.buffer_work_lt session next count taken⟩
  | again session next count moved room taken later ih =>
      have fewer := Session.buffer_work_lt session next count taken
      rcases ih going with later | ⟨same, less⟩
      · exact Or.inl later
      · exact Or.inr ⟨same, Nat.lt_trans less fewer⟩

theorem play_ahead (server : Server) (now : Nat) (registry : PlayerRegistry)
    (session : Session) (player : Player) (since : Nat) (next : Move)
    (same : play server now registry session player since = next)
    (going : next.waits = false) : Ahead next.connection ⟨session, .playing player since⟩ := by
  unfold play at same
  split at same
  · subst same
    exact Or.inl (show 1 < 2 by decide)
  · subst same
    exact Or.inl (show 1 < 2 by decide)
  · subst same
    cases going
  · next message heard found =>
      dsimp only at same
      split at same
      · subst same
        exact Or.inl (show 1 < 2 by decide)
      · next sent done =>
          subst same
          have fewer := Session.hear_work_lt session since server.settings.idleLimit now message
            (by rw [found])
          rw [found] at fewer
          have kept := (Session.sendAll_incoming _ heard sent done).work_eq
          exact Or.inr ⟨rfl, Nat.lt_of_le_of_lt (Nat.le_of_eq kept) fewer⟩

/-- A move that does not wait gets ahead. -/
theorem move_ahead (server : Server) (now : Nat) (registry : PlayerRegistry)
    (connection : Connection) (picks : List Branch)
    (going : (move server now registry connection picks).waits = false) :
    Ahead (move server now registry connection picks).connection connection := by
  obtain ⟨session, stage⟩ := connection
  cases stage with
  | handshake since => exact awaitHandshake_ahead server now registry session since _ rfl going
  | login since => exact awaitLogin_ahead server now registry session since picks _ rfl going
  | authenticating attempt since => exact (awaits_awaitVerdict session picks).ahead going
  | playing player since => exact play_ahead server now registry session player since _ rfl going
  | leaving result player => exact Or.inl (show 0 < 1 by decide)
  | finished result => cases going

/-- The stages that are left come first, and then the work. -/
def progress (connection : Connection) : Nat × Nat :=
  (connection.stage.left, connection.session.work)

theorem progress_move (server : Server) (now : Nat) (registry : PlayerRegistry)
    (connection : Connection) (picks : List Branch)
    (going : (move server now registry connection picks).waits = false) :
    Prod.Lex (· < ·) (· < ·) (move server now registry connection picks).connection.progress
      connection.progress := by
  rcases move_ahead server now registry connection picks going with later | ⟨same, fewer⟩
  · exact Prod.Lex.left _ _ later
  · exact Prod.Lex.right' _ (Nat.le_of_eq same) fewer

/-- A connection moves until it waits, and picks nothing. Its reports stand in front of earlier
ones, the last one first. -/
def runAfter (server : Server) (now : Nat) (earlier : List Report) (registry : PlayerRegistry)
    (connection : Connection) : Connection × PlayerRegistry × List Report :=
  let next := move server now registry connection []
  let reports := next.reports.reverse ++ earlier
  if _waiting : next.waits = true then (next.connection, next.registry, reports)
  else runAfter server now reports next.registry next.connection
termination_by connection.progress
decreasing_by exact progress_move server now registry connection [] (by simpa using _waiting)

theorem runAfter_eq (server : Server) (now : Nat) (earlier : List Report)
    (registry : PlayerRegistry) (connection : Connection) :
    runAfter server now earlier registry connection =
      let (final, last, reports) := runAfter server now [] registry connection
      (final, last, reports ++ earlier) := by
  rw [runAfter.eq_def _ _ earlier, runAfter.eq_def _ _ []]
  by_cases waits : (move server now registry connection []).waits = true
  · simp only [dif_pos waits, List.append_nil]
  · simp only [dif_neg waits]
    rw [runAfter_eq server now (_ ++ earlier), runAfter_eq server now (_ ++ [])]
    simp only [List.append_nil, List.append_assoc]
termination_by connection.progress
decreasing_by
  all_goals exact progress_move server now registry connection [] (by simpa using waits)

/-- A connection moves until it waits, and reports in order. -/
def run (server : Server) (now : Nat) (registry : PlayerRegistry) (connection : Connection) :
    Connection × PlayerRegistry × List Report :=
  let (final, last, reports) := runAfter server now [] registry connection
  (final, last, reports.reverse)

/-- A run is one move, and another run unless that move waits. -/
theorem run_eq (server : Server) (now : Nat) (registry : PlayerRegistry)
    (connection : Connection) :
    run server now registry connection =
      let next := move server now registry connection []
      if next.waits = true then (next.connection, next.registry, next.reports)
      else
        let (final, last, later) := run server now next.registry next.connection
        (final, last, next.reports ++ later) := by
  rw [run, runAfter]
  by_cases waits : (move server now registry connection []).waits = true
  · simp only [dif_pos waits, if_pos waits, List.append_nil, List.reverse_reverse]
  · simp only [dif_neg waits, if_neg waits]
    rw [runAfter_eq]
    simp only [run, List.append_nil, List.reverse_append, List.reverse_reverse]

end Connection

end GameServer
