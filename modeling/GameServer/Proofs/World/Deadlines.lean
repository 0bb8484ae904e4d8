import GameServer.Proofs.Connection.Deadlines
import GameServer.Proofs.World.Turns

/- This file shows that a server which never leaves anything undone keeps all deadlines. -/

namespace GameServer

namespace Session

variable {session next : Session}

/-- The pipe of a session that waits is open and undisturbed. -/
theorem calm_of_waiting (waiting : session.readOpen = .ok .waiting next) :
    next.pipe.readFault = false ∧ next.pipe.ended = false := by
  fun_induction readOpen session with
  | case1 | case4 => cases waiting
  | case2 => exact absurd waiting (accept_ne_waiting _ _ _)
  | case5 => exact absurd waiting (atEnd_ne_waiting _ _)
  | case6 session decoded pending bytes pipe taken ih => exact ih waiting
  | case3 session decoded pending pipe quiet =>
      rw [EStateM.Result.ok.injEq] at waiting
      have kept := pipe_decodeNext session
      rw [pending] at kept
      rw [← waiting.2, kept]
      refine ⟨?_, Pipe.ended_of_waiting session.pipe pipe _ quiet⟩
      cases fault : session.pipe.readFault with
      | false => rfl
      | true =>
          rw [Pipe.read, if_pos fault] at quiet
          cases quiet

theorem Settles.not_starved {outcome : Except ProtocolError (Option Message)}
    (settles : Settles session outcome next) (found : outcome ≠ .ok none) : ¬session.Starved := by
  intro starved
  obtain ⟨taken, decodes⟩ := settles.decodes
  have cut := decodes []
  have pending := Framer.Cut.outcome_of_open _ starved.2
  rw [List.append_nil] at cut
  rw [cut] at pending
  exact found pending

/-- A session that waits goes on waiting if nothing arrives. -/
theorem read_again (waiting : session.read = .ok .waiting next) :
    ∃ last, next.read = .ok .waiting last := by
  cases closed : session.isClosed with
  | true =>
      rw [read, if_pos closed] at waiting
      cases waiting
  | false =>
      rw [read, if_neg (by rw [closed]; exact Bool.false_ne_true)] at waiting
      -- The pipe is as calm as before, and the framer has taken all that it can.
      obtain ⟨sound, going⟩ := calm_of_waiting waiting
      have reads := session.reads_readOpen
      rw [waiting] at reads
      cases reads with
      | waiting _ continues starved =>
          have opened := continues.kept.isClosed.trans closed
          rw [read, if_neg (by rw [opened]; exact Bool.false_ne_true)]
          have again := next.reads_readOpen
          generalize next.readOpen = result at again
          cases again with
          | waiting last => exact ⟨last, rfl⟩
          | message message last settles => exact absurd starved (settles.not_starved (by simp))
          | ended last continues starved finished => cases going.symm.trans finished
          | failed error last fails =>
              cases fails with
              | unexpected message last settles =>
                  exact absurd starved (settles.not_starved (by simp))
              | broken error last settles => exact absurd starved (settles.not_starved (by simp))
              | cutShort last continues starved finished => cases going.symm.trans finished
              | disturbed last continues fault => cases sound.symm.trans fault

end Session

namespace Connection

/-- The connection has nothing to do at this time. -/
def Rests (server : Server) (now : Nat) (connection : Connection) : Prop :=
  ∀ registry, (connection.move server now registry []).waits = true

section Rests

variable {server : Server} {now since : Nat} {registry : PlayerRegistry} {session : Session}

/-- A connection that waits has come to rest. -/
theorem rests_move {connection : Connection}
    (waits : (connection.move server now registry []).waits = true) :
    (connection.move server now registry []).connection.Rests server now := by
  obtain ⟨session, stage⟩ := connection
  cases stage with
  | handshake since =>
      change (awaitHandshake server now registry session since).connection.Rests server now
      obtain ⟨next, reading, early, moved⟩ := awaitHandshake_reacts.waiting waits
      obtain ⟨last, again⟩ := Session.read_again reading
      rw [moved]
      intro other
      simp only [wait, move, awaitHandshake, Session.hear, again, if_neg (Nat.not_le_of_lt early)]
  | login since =>
      change (awaitLogin server now registry session since []).connection.Rests server now
      obtain ⟨next, reading, early, moved⟩ := (awaitLogin_reacts []).waiting waits
      obtain ⟨last, again⟩ := Session.read_again reading
      rw [moved]
      intro other
      simp only [wait, move, awaitLogin, Session.hear, again, if_neg (Nat.not_le_of_lt early)]
  | playing player since =>
      change (play server now registry session player since).connection.Rests server now
      obtain ⟨next, reading, early, moved⟩ := play_reacts.waiting waits
      obtain ⟨last, again⟩ := Session.read_again reading
      rw [moved]
      intro other
      simp only [wait, move, play, Session.hear, again, if_neg (Nat.not_le_of_lt early)]
  | authenticating attempt since =>
      obtain ⟨undecided, early, blocked⟩ := quiet_of_waits waits
      have rests := awaitVerdict_of_blocked undecided early blocked
      change (awaitVerdict server now registry session attempt since []).connection.Rests server now
      rw [rests registry []]
      intro other
      exact congrArg Move.waits (rests other [])
  | leaving result player => cases waits
  | finished result => exact fun _ => rfl

/-- A connection keeps its name while it runs. -/
theorem info_run (server : Server) (now : Nat) (registry : PlayerRegistry)
    (connection : Connection) :
    (connection.run server now registry).1.session.info = connection.session.info := by
  have moved := connection.info_move server now registry []
  rw [run_eq]
  by_cases waits : (connection.move server now registry []).waits = true
  · rw [if_pos waits]
    exact moved
  · rw [if_neg waits]
    exact (info_run server now (connection.move server now registry []).registry
      (connection.move server now registry []).connection).trans moved
termination_by connection.progress
decreasing_by
  exact progress_move server now registry connection [] (Bool.eq_false_iff.mpr waits)

end Rests

end Connection

/-- A connection that runs until it waits keeps its deadlines and comes to rest. -/
theorem Life.Timely.run {server : Server} {begun : Nat} {life : Life} {seconds : Nat}
    (timely : life.Timely server begun)
    (prompt : seconds = 0 ∨ life.connection.Rests server life.now) (registry : PlayerRegistry) :
    (life.connection.run server (life.now + seconds) registry).1.stage.Timely server.settings begun
        (life.now + seconds) ∧
      (life.connection.run server (life.now + seconds) registry).1.Rests server
        (life.now + seconds) := by
  have moved : (life.next server (.move seconds registry [])).Timely server begun :=
    timely.next (prompt.imp id fun rests => rests registry)
  rw [Connection.run_eq]
  by_cases waits : (life.connection.move server (life.now + seconds) registry []).waits = true
  · rw [if_pos waits]
    exact ⟨moved, Connection.rests_move waits⟩
  · -- Only the first move comes after a while, and all later ones come at once.
    rw [if_neg waits]
    exact Timely.run moved (.inl rfl) _
termination_by life.connection.progress
decreasing_by
  exact Connection.progress_move server (life.now + seconds) registry life.connection []
    (Bool.eq_false_iff.mpr waits)

namespace World

/-- The connection of that number has kept its deadlines since it began and has come to rest. -/
def Keeps (world : World) (number : ConnectionId) (begun : Nat) : Prop :=
  ∀ connection, world.find? number = some connection →
    connection.stage.Timely world.server.settings begun world.now ∧
      connection.Rests world.server world.now

/-- The connection of that number has kept its deadlines up to the time at which it runs again. -/
def Owes (world : World) (number : ConnectionId) (begun : Nat) : Prop :=
  ∀ connection, world.find? number = some connection →
    ∃ earlier seconds, earlier + seconds = world.now ∧
      connection.stage.Timely world.server.settings begun earlier ∧
      (seconds = 0 ∨ connection.Rests world.server earlier)

variable {world : World} {number : ConnectionId} {begun : Nat}

theorem exists_of_find?_runAll {server : Server} {now : Nat} {registry : PlayerRegistry}
    {connections : List Connection} {connection : Connection}
    (found : (runAll server now registry connections).1.find? (numberOf · == number) =
      some connection) :
    ∃ former between, connections.find? (numberOf · == number) = some former ∧
      (former.run server now between).1 = connection := by
  induction connections generalizing registry with
  | nil => cases found
  | cons first rest ih =>
      have named : numberOf (first.run server now registry).1 = numberOf first :=
        congrArg SessionInfo.connection (first.info_run server now registry)
      rw [runAll] at found
      rw [List.find?_cons] at found ⊢
      rw [named] at found
      split at found
      · exact ⟨first, registry, rfl, Option.some.inj found⟩
      · exact ih found

theorem Owes.settle (owes : world.Owes number begun) : world.settle.1.Keeps number begun := by
  intro connection found
  obtain ⟨former, between, known, rfl⟩ := exists_of_find?_runAll found
  obtain ⟨earlier, seconds, now, timely, prompt⟩ := owes former known
  have ran := @Life.Timely.run world.server begun ⟨earlier, former, [], []⟩ seconds timely prompt
    between
  dsimp only at ran
  rw [now] at ran
  exact ran

theorem find?_connect_of_ne {info : SessionInfo} (other : info.connection ≠ number)
    (serverKey : UInt64) (sent : Bytes) :
    (world.connect info serverKey sent).find? number = world.find? number := by
  have fresh : [Connection.start world.server info (Pipe.fresh.deliver sent) serverKey
      world.now].find? (numberOf · == number) = none := by
    rw [List.find?_singleton]
    exact if_neg (mt eq_of_beq other)
  have others : (fun connection => decide ((numberOf connection != info.connection) = true ∧
      (numberOf connection == number) = true)) = (numberOf · == number) := by
    funext connection
    by_cases same : numberOf connection = number
    · simp [same, Ne.symm other]
    · simp [same]
  rw [find?, connect]
  dsimp only
  rw [List.find?_append, fresh, Option.or_none, List.find?_filter, others]
  rfl

theorem find?_update (other : ConnectionId) {change : Connection → Connection}
    (named : ∀ connection, numberOf (change connection) = numberOf connection) :
    (world.update other change).find? number =
      (world.find? number).map fun connection =>
        if numberOf connection = other then change connection else connection := by
  have same : ((numberOf · == number) ∘ fun connection =>
      if numberOf connection = other then change connection else connection) =
        (numberOf · == number) := by
    funext connection
    rw [Function.comp_apply]
    split
    · rw [named]
    · rfl
  rw [find?, update]
  dsimp only
  rw [List.find?_map, same]
  rfl

/-- A change that puts no deadline off may give the connection something to do. -/
theorem Keeps.update (keeps : world.Keeps number begun) (other : ConnectionId)
    {change : Connection → Connection}
    (named : ∀ connection, numberOf (change connection) = numberOf connection)
    (timely : ∀ connection, connection.stage.Timely world.server.settings begun world.now →
      (change connection).stage.Timely world.server.settings begun world.now) :
    (world.update other change).Owes number begun := by
  intro connection found
  rw [find?_update other named] at found
  obtain ⟨former, known, changed⟩ := Option.map_eq_some_iff.mp found
  have before := (keeps former known).1
  refine ⟨world.now, 0, rfl, ?_, .inl rfl⟩
  rw [← changed]
  split
  · exact timely former before
  · exact before

theorem Keeps.apply (keeps : world.Keeps number begun) {event : Event}
    (once : event.number? ≠ some number) : (world.apply event).Owes number begun := by
  cases event with
  | connect info serverKey sent =>
      intro connection found
      have other : info.connection ≠ number := fun same => once (congrArg some same)
      rw [World.apply, find?_connect_of_ne other] at found
      exact ⟨world.now, 0, rfl, (keeps connection found).1, .inl rfl⟩
  | deliver | finish | disturb => exact keeps.update _ (fun _ => rfl) fun _ => id
  | resolve other verdict =>
      exact keeps.update other (numberOf_resolve · verdict) fun connection =>
        Connection.timely_resolve verdict
  | advance seconds =>
      intro connection found
      obtain ⟨timely, rests⟩ := keeps connection found
      exact ⟨world.now, seconds, rfl, timely, .inr rests⟩

/-- A new connection owes nothing yet. -/
theorem owes_connect (world : World) (info : SessionInfo) (serverKey : UInt64) (sent : Bytes) :
    (world.connect info serverKey sent).Owes info.connection world.now := by
  intro connection found
  rw [find?_connect] at found
  cases found
  exact ⟨world.now, 0, rfl, ⟨rfl, Nat.le_add_right _ _⟩, .inl rfl⟩

theorem Keeps.run (keeps : world.Keeps number begun) (events : List Event)
    (once : number ∉ events.filterMap Event.number?) : (world.run events).1.Keeps number begun := by
  induction events generalizing world with
  | nil => exact keeps
  | cons event rest ih =>
      have other : event.number? ≠ some number := fun same =>
        once (List.mem_filterMap.mpr ⟨event, List.mem_cons_self, same⟩)
      refine ih (keeps.apply other).settle fun member => once ?_
      obtain ⟨later, among, same⟩ := List.mem_filterMap.mp member
      exact List.mem_filterMap.mpr ⟨later, List.mem_cons_of_mem event among, same⟩

theorem run_append (world : World) (first second : List Event) :
    (world.run (first ++ second)).1 = ((world.run first).1.run second).1 := by
  induction first generalizing world with
  | nil => rfl
  | cons event rest ih => exact ih (world.step event).1

theorem server_run (world : World) (events : List Event) :
    (world.run events).1.server = world.server := by
  induction events generalizing world with
  | nil => rfl
  | cons event rest ih =>
      refine (ih (world.step event).1).trans ?_
      cases event <;> rfl

/-- A connection that began at some time is in time ever after, and while the server waits the
connection has nothing to do. It does not stay before the game for longer than the sum of the
limits. -/
theorem keeps_run (server : Server) (before after : List Event) (info : SessionInfo)
    (serverKey : UInt64) (sent : Bytes)
    (once : info.connection ∉ after.filterMap Event.number?) :
    let begun := ((start server).run before).1.now
    let world := ((start server).run (before ++ .connect info serverKey sent :: after)).1
    ∀ connection, world.find? info.connection = some connection →
      connection.stage.Timely server.settings begun world.now ∧
        connection.Rests server world.now ∧
        (connection.stage.beforeGame = true →
          world.now ≤ begun + 2 * server.settings.handshakeLimit +
            server.settings.authenticationLimit) := by
  intro begun world connection found
  have same : world = ((((start server).run before).1.step (.connect info serverKey sent)).1.run
      after).1 := run_append (start server) before (.connect info serverKey sent :: after)
  have fresh := (owes_connect ((start server).run before).1 info serverKey sent).settle
  have kept := (fresh.run after once) connection (same ▸ found)
  have settings : world.server = server := server_run (start server) _
  rw [← settings]
  obtain ⟨timely, rests⟩ := same ▸ kept
  exact ⟨timely, rests, timely.bound⟩

end World

end GameServer
