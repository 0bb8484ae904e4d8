import GameServer.Proofs.Connection.History
import GameServer.World

/- This file shows that every connection of a server has a life of its own. -/

namespace GameServer

namespace Life

open Connection (Happening)

/-- The life of some connection of the server. -/
def Lived (server : Server) (life : Life) : Prop :=
  ∃ info serverKey begun history, life = (start server info serverKey begun).run server history

theorem lived_start (server : Server) (info : SessionInfo) (serverKey : UInt64) (now : Nat) :
    Lived server (start server info serverKey now) := ⟨info, serverKey, now, [], rfl⟩

theorem Lived.run {server : Server} {life : Life} (lived : Lived server life)
    (history : List Happening) : Lived server (life.run server history) := by
  obtain ⟨info, serverKey, begun, before, same⟩ := lived
  exact ⟨info, serverKey, begun, before ++ history, by rw [run_append, same]⟩

/-- A connection that runs until it waits makes one move after another. -/
theorem exists_run (server : Server) (life : Life) (seconds : Nat) (registry : PlayerRegistry) :
    ∃ history,
      (life.run server history).now = life.now + seconds ∧
      (life.run server history).connection =
        (life.connection.run server (life.now + seconds) registry).1 ∧
      (life.run server history).reports =
        life.reports ++ (life.connection.run server (life.now + seconds) registry).2.2 := by
  rw [Connection.run_eq]
  by_cases waits : (life.connection.move server (life.now + seconds) registry []).waits = true
  · rw [if_pos waits]
    exact ⟨[.move seconds registry []], rfl, rfl, rfl⟩
  · rw [if_neg waits]
    obtain ⟨history, now, connection, reports⟩ :=
      exists_run server (life.next server (.move seconds registry [])) 0
        (life.connection.move server (life.now + seconds) registry []).registry
    refine ⟨.move seconds registry [] :: history, now, connection, ?_⟩
    exact reports.trans (List.append_assoc _ _ _)
termination_by life.connection.progress
decreasing_by
  exact Connection.progress_move server (life.now + seconds) registry life.connection []
    (Bool.eq_false_iff.mpr waits)

end Life

namespace World

open Life (Lived)

/-- Events happen one after another, and all reports are collected. -/
def run (world : World) : List Event → World × List Report
  | [] => (world, [])
  | event :: rest =>
      let (next, reports) := world.step event
      let (final, later) := next.run rest
      (final, reports ++ later)

/-- The connection is where its life has come to, or these seconds before. -/
def HasLife (server : Server) (now seconds : Nat) (connection : Connection) : Prop :=
  ∃ life, Lived server life ∧ life.connection = connection ∧ life.now + seconds = now

/-- The report was made in some life. -/
def HasReporter (server : Server) (report : Report) : Prop :=
  ∃ life, Lived server life ∧ report ∈ life.reports

theorem hasLife_run {server : Server} {now seconds : Nat} {connection : Connection}
    (before : HasLife server now seconds connection) (registry : PlayerRegistry) :
    HasLife server now 0 (connection.run server now registry).1 ∧
      ∀ report ∈ (connection.run server now registry).2.2, HasReporter server report := by
  obtain ⟨life, lived, same, time⟩ := before
  subst same time
  obtain ⟨history, now, connection, reports⟩ := life.exists_run server seconds registry
  refine ⟨⟨_, lived.run history, connection, now⟩, ?_⟩
  intro report reported
  refine ⟨_, lived.run history, ?_⟩
  rw [reports]
  exact List.mem_append_right _ reported

theorem hasLife_runAll {server : Server} {now seconds : Nat} (registry : PlayerRegistry)
    (connections : List Connection)
    (before : ∀ connection ∈ connections, HasLife server now seconds connection) :
    (∀ connection ∈ (runAll server now registry connections).1,
        HasLife server now 0 connection) ∧
      ∀ report ∈ (runAll server now registry connections).2.2, HasReporter server report := by
  induction connections generalizing registry with
  | nil => exact ⟨List.forall_mem_nil _, List.forall_mem_nil _⟩
  | cons first rest ih =>
      obtain ⟨life, reporters⟩ := hasLife_run (before first List.mem_cons_self) registry
      obtain ⟨lives, others⟩ := ih (first.run server now registry).2.1 fun connection member =>
        before connection (List.mem_cons_of_mem _ member)
      simp only [runAll]
      refine ⟨?_, ?_⟩
      · intro connection member
        rcases List.mem_cons.mp member with same | later
        · rw [same]
          exact life
        · exact lives connection later
      · intro report reported
        rcases List.mem_append.mp reported with early | late
        · exact reporters report early
        · exact others report late

/-- A change that happens in every life happens in the lives of the connections. -/
theorem hasLife_update {world : World} {number : ConnectionId} {change : Connection → Connection}
    (happening : Connection.Happening)
    (lives : ∀ connection ∈ world.connections,
      HasLife world.server world.now 0 connection)
    (changes : ∀ life : Life, change life.connection =
      (life.next world.server happening).connection ∧
        (life.next world.server happening).now = life.now) :
    ∀ connection ∈ (world.update number change).connections,
      HasLife world.server world.now 0 connection := by
  intro connection member
  obtain ⟨former, known, same⟩ := List.mem_map.mp member
  obtain ⟨life, lived, before, time⟩ := lives former known
  split at same
  · subst before same
    obtain ⟨after, now⟩ := changes life
    exact ⟨_, lived.run [happening], after.symm, now.trans time⟩
  · exact ⟨life, lived, before.trans same, time⟩

/-- Only the clock goes on before the connections run. -/
theorem hasLife_apply {world : World}
    (lives : ∀ connection ∈ world.connections, HasLife world.server world.now 0 connection)
    (event : Event) :
    ∃ seconds, ∀ connection ∈ (world.apply event).connections,
      HasLife (world.apply event).server (world.apply event).now seconds connection := by
  cases event with
  | connect info serverKey sent =>
      refine ⟨0, ?_⟩
      intro connection member
      rcases List.mem_append.mp member with other | fresh
      · exact lives connection (List.mem_filter.mp other).1
      · cases List.mem_singleton.mp fresh
        have born := Life.lived_start world.server info serverKey world.now
        exact ⟨_, born.run [.deliver sent], rfl, rfl⟩
  | deliver number bytes =>
      exact ⟨0, hasLife_update (.deliver bytes) lives fun life => ⟨rfl, rfl⟩⟩
  | finish number =>
      exact ⟨0, hasLife_update .finish lives fun life => ⟨rfl, rfl⟩⟩
  | disturb number call =>
      exact ⟨0, hasLife_update (.disturb call) lives fun life => ⟨rfl, rfl⟩⟩
  | resolve number verdict =>
      exact ⟨0, hasLife_update (.answer verdict) lives fun life => ⟨rfl, rfl⟩⟩
  | advance seconds =>
      refine ⟨seconds, ?_⟩
      intro connection member
      obtain ⟨life, lived, same, time⟩ := lives connection member
      exact ⟨life, lived, same, congrArg (· + seconds) time⟩

theorem lives_run (world : World)
    (lives : ∀ connection ∈ world.connections, HasLife world.server world.now 0 connection)
    (events : List Event) :
    (world.run events).1.server = world.server ∧
      (∀ connection ∈ (world.run events).1.connections,
        HasLife world.server (world.run events).1.now 0 connection) ∧
      ∀ report ∈ (world.run events).2, HasReporter world.server report := by
  induction events generalizing world with
  | nil => exact ⟨rfl, lives, List.forall_mem_nil _⟩
  | cons event rest ih =>
      obtain ⟨seconds, applied⟩ := hasLife_apply lives event
      have server : (world.apply event).server = world.server := by cases event <;> rfl
      obtain ⟨settled, reporters⟩ := hasLife_runAll (world.apply event).registry _ applied
      obtain ⟨same, final, others⟩ := ih (world.step event).1 settled
      have kept : (world.step event).1.server = world.server := server
      rw [kept] at same final others
      refine ⟨same, final, ?_⟩
      intro report reported
      rcases List.mem_append.mp reported with early | late
      · exact server ▸ reporters report early
      · exact others report late

/-- Whatever happens, every connection of a server has a life, and every report was made in one. -/
theorem lives_run_start (server : Server) (events : List Event) :
    (∀ connection ∈ ((start server).run events).1.connections,
        HasLife server ((start server).run events).1.now 0 connection) ∧
      ∀ report ∈ ((start server).run events).2, HasReporter server report := by
  exact (lives_run (start server) (List.forall_mem_nil _) events).2

end World

end GameServer
