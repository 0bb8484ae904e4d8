import GameServer.Proofs.Connection.Places
import GameServer.Proofs.World.Lives

/- This file lets a server take turns in any order. -/

namespace GameServer

/-- A connection that is given up leaves the game if it was in it. -/
def Connection.giveUp (connection : Connection) : Connection :=
  match connection.stage with
  | .playing player _ => { connection with stage := .leaving (.error .closed) player }
  | .leaving _ _ => connection
  | .finished _ => connection
  | _ => { connection with stage := .finished (.error .closed) }

namespace World

/-- A turn of a server. -/
inductive Turn where
  | happens (event : Event)
  | moves (number : ConnectionId) (picks : List Connection.Branch)
  | givesUp (number : ConnectionId)

/-- The connection of that number moves with the registry that it finds. -/
def moveOne (world : World) (number : ConnectionId) (picks : List Connection.Branch) : World :=
  match world.find? number with
  | none => world
  | some connection =>
      let moved := connection.move world.server world.now world.registry picks
      { world.update number fun _ => moved.connection with registry := moved.registry }

/-- One turn is taken. -/
def turn (world : World) : Turn → World
  | .happens event => world.apply event
  | .moves number picks => world.moveOne number picks
  | .givesUp number => world.update number Connection.giveUp

/-- Turns are taken one after another. -/
def turns (world : World) (list : List Turn) : World := list.foldl turn world

/-- The number of the connection that an event begins. -/
def Event.number? : Event → Option ConnectionId
  | .connect info _ _ => some info.connection
  | _ => none

/-- The number of the connection that a turn begins. -/
def Turn.number? : Turn → Option ConnectionId
  | .happens event => event.number?
  | _ => none

/-- The numbers of the connections that turns begin. -/
def connects (list : List Turn) : List ConnectionId := list.filterMap Turn.number?

/-- The numbers of all connections. -/
def numbers (world : World) : List ConnectionId := world.connections.map numberOf

theorem connects_cons (turn : Turn) (rest : List Turn) :
    connects (turn :: rest) = turn.number?.toList ++ connects rest := by
  rw [connects, List.filterMap_cons]
  cases turn.number? <;> rfl

theorem connects_append (first second : List Turn) :
    connects (first ++ second) = connects first ++ connects second := List.filterMap_append

theorem turns_append (world : World) (first second : List Turn) :
    world.turns (first ++ second) = (world.turns first).turns second := List.foldl_append

section Split

variable {world : World} {connection : Connection} {front back : List Connection}

/-- The connections in front of one and behind it have other numbers. -/
theorem numberOf_ne_of_split (split : world.connections = front ++ connection :: back)
    (distinct : world.numbers.Nodup) :
    (∀ other ∈ front, numberOf other ≠ numberOf connection) ∧
      ∀ other ∈ back, numberOf other ≠ numberOf connection := by
  rw [numbers, split, List.map_append, List.map_cons, List.nodup_middle, List.nodup_cons,
    ← List.map_append] at distinct
  refine ⟨?_, ?_⟩
  · intro other member same
    exact distinct.1 (same ▸ List.mem_map_of_mem (List.mem_append_left back member))
  · intro other member same
    exact distinct.1 (same ▸ List.mem_map_of_mem (List.mem_append_right front member))

theorem find?_of_split (split : world.connections = front ++ connection :: back)
    (distinct : world.numbers.Nodup) : world.find? (numberOf connection) = some connection := by
  have others := (numberOf_ne_of_split split distinct).1
  have none : front.find? (numberOf · == numberOf connection) = none := by
    rw [List.find?_eq_none]
    intro other member
    simpa using others other member
  rw [find?, split, List.find?_append, none, Option.none_or]
  exact List.find?_cons_of_pos (beq_self_eq_true _)

theorem exists_split {number : ConnectionId} (found : world.find? number = some connection) :
    numberOf connection = number ∧
      ∃ front back, world.connections = front ++ connection :: back := by
  have same := List.find?_some found
  exact ⟨eq_of_beq same, List.append_of_mem (List.mem_of_find?_eq_some found)⟩

/-- Only the connection of the number is changed. -/
theorem connections_update (split : world.connections = front ++ connection :: back)
    (distinct : world.numbers.Nodup) (change : Connection → Connection) :
    (world.update (numberOf connection) change).connections =
      front ++ change connection :: back := by
  obtain ⟨before, behind⟩ := numberOf_ne_of_split split distinct
  have keep (others : List Connection)
      (other : ∀ one ∈ others, numberOf one ≠ numberOf connection) :
      others.map (fun one => if numberOf one = numberOf connection then change one else one) =
        others := by
    rw [List.map_congr_left fun one member => if_neg (other one member), List.map_id']
  rw [update, split, List.map_append, List.map_cons, if_pos rfl, keep front before,
    keep back behind]

/-- The connection of the number moves, and the others stay. -/
theorem moveOne_of_split (split : world.connections = front ++ connection :: back)
    (distinct : world.numbers.Nodup) (picks : List Connection.Branch) :
    let moved := connection.move world.server world.now world.registry picks
    world.moveOne (numberOf connection) picks =
      { world with
        registry := moved.registry
        connections := front ++ moved.connection :: back } := by
  intro moved
  have updated := connections_update split distinct fun _ => moved.connection
  rw [moveOne, find?_of_split split distinct]
  dsimp only
  rw [updated]
  rfl

end Split

section Numbers

variable {world : World}

theorem numbers_update {number : ConnectionId} {change : Connection → Connection}
    (keeps : ∀ connection ∈ world.connections, numberOf connection = number →
      numberOf (change connection) = number) :
    (world.update number change).numbers = world.numbers := by
  rw [numbers, numbers, update, List.map_map]
  refine List.map_congr_left fun connection member => ?_
  by_cases same : numberOf connection = number
  · exact (congrArg numberOf (if_pos same)).trans ((keeps connection member same).trans same.symm)
  · exact congrArg numberOf (if_neg same)

theorem numberOf_giveUp (connection : Connection) :
    numberOf connection.giveUp = numberOf connection := by
  unfold Connection.giveUp
  split <;> rfl

theorem numberOf_resolve (connection : Connection) (verdict : Verdict) :
    numberOf (connection.resolve verdict) = numberOf connection := by
  unfold Connection.resolve
  split <;> rfl

/-- A connection with a new number takes no other's place. -/
theorem connections_connect {info : SessionInfo} (fresh : info.connection ∉ world.numbers)
    (serverKey : UInt64) (sent : Bytes) :
    (world.connect info serverKey sent).connections = world.connections ++
      [Connection.start world.server info (Pipe.fresh.deliver sent) serverKey world.now] := by
  have others : world.connections.filter (numberOf · != info.connection) = world.connections := by
    rw [List.filter_eq_self]
    intro other member
    rw [bne_iff_ne]
    rintro same
    exact fresh (same ▸ List.mem_map_of_mem member)
  rw [connect, others]

theorem fresh_of_nodup {number : ConnectionId} (distinct : (world.numbers ++ [number]).Nodup) :
    number ∉ world.numbers := fun old =>
  (List.nodup_append.mp distinct).2.2 number old number (List.mem_singleton_self number) rfl

/-- A turn adds the number of the connection that it begins. -/
theorem numbers_turn {turn : Turn} (distinct : (world.numbers ++ turn.number?.toList).Nodup) :
    (world.turn turn).numbers = world.numbers ++ turn.number?.toList := by
  cases turn with
  | happens event =>
      cases event with
      | connect info serverKey sent =>
          have added := connections_connect (fresh_of_nodup distinct) serverKey sent
          exact (congrArg (List.map numberOf) added).trans List.map_append
      | deliver | finish | disturb =>
          refine Eq.trans (numbers_update ?_) (List.append_nil _).symm
          exact fun _ _ same => same
      | resolve number verdict =>
          refine (numbers_update fun connection _ same => ?_).trans (List.append_nil _).symm
          exact (numberOf_resolve connection verdict).trans same
      | advance seconds => exact (List.append_nil _).symm
  | moves number picks =>
      refine Eq.trans ?_ (List.append_nil _).symm
      rw [World.turn, moveOne]
      split
      · rfl
      · next connection found =>
          refine numbers_update fun other _ _ => ?_
          have info := connection.info_move world.server world.now world.registry picks
          exact (congrArg SessionInfo.connection info).trans (exists_split found).1
  | givesUp number =>
      refine (numbers_update fun connection _ same => ?_).trans (List.append_nil _).symm
      exact (numberOf_giveUp connection).trans same

/-- The connections of a server have the numbers that its turns have begun. -/
theorem numbers_turns {list : List Turn} (distinct : (world.numbers ++ connects list).Nodup) :
    (world.turns list).numbers = world.numbers ++ connects list := by
  induction list generalizing world with
  | nil => exact (List.append_nil _).symm
  | cons turn rest ih =>
      rw [connects_cons, ← List.append_assoc] at distinct ⊢
      have next := numbers_turn (List.nodup_append.mp distinct).1
      rw [← next] at distinct ⊢
      exact ih distinct

/-- Turns that begin no connection leave the numbers alone. -/
theorem numbers_turns_of_nil {list : List Turn} (none : connects list = [])
    (distinct : world.numbers.Nodup) : (world.turns list).numbers = world.numbers := by
  have same : (world.turns list).numbers = world.numbers ++ connects list :=
    numbers_turns (by rw [none, List.append_nil]; exact distinct)
  rw [same, none, List.append_nil]

end Numbers

/-- A connection that runs until it waits moves a few times. -/
theorem exists_turns_run (world : World) (connection : Connection) (front back : List Connection)
    (split : world.connections = front ++ connection :: back) (distinct : world.numbers.Nodup) :
    ∃ list, connects list = [] ∧
      world.turns list =
        { world with
          registry := (connection.run world.server world.now world.registry).2.1
          connections :=
            front ++ (connection.run world.server world.now world.registry).1 :: back } := by
  have moves := moveOne_of_split split distinct []
  rw [Connection.run_eq]
  by_cases waits : (connection.move world.server world.now world.registry []).waits = true
  · rw [if_pos waits]
    exact ⟨[.moves (numberOf connection) []], rfl, moves⟩
  · rw [if_neg waits]
    -- The connection stands between the same neighbours after its move, and has less left to do.
    have same : (world.moveOne (numberOf connection) []).numbers = world.numbers :=
      numbers_turns_of_nil (show connects [.moves (numberOf connection) []] = [] from rfl) distinct
    obtain ⟨list, none, final⟩ := exists_turns_run (world.moveOne (numberOf connection) [])
      (connection.move world.server world.now world.registry []).connection front back
      (by rw [moves]) (same ▸ distinct)
    refine ⟨.moves (numberOf connection) [] :: list, none, ?_⟩
    rw [moves] at final
    rw [turns, List.foldl_cons, World.turn, moves]
    exact final
termination_by connection.progress
decreasing_by
  exact Connection.progress_move world.server world.now world.registry connection []
    (Bool.eq_false_iff.mpr waits)

/-- Connections that run one after the other move in turns. -/
theorem exists_turns_runAll (world : World) (front back : List Connection)
    (split : world.connections = front ++ back) (distinct : world.numbers.Nodup) :
    ∃ list, connects list = [] ∧
      world.turns list =
        { world with
          registry := (runAll world.server world.now world.registry back).2.1
          connections := front ++ (runAll world.server world.now world.registry back).1 } := by
  induction back generalizing world front with
  | nil =>
      refine ⟨[], rfl, ?_⟩
      rw [runAll, ← split]
      rfl
  | cons connection rest ih =>
      obtain ⟨first, none, ran⟩ := exists_turns_run world connection front rest split distinct
      have same := numbers_turns_of_nil none distinct
      obtain ⟨later, others, final⟩ := ih (world.turns first)
        (front ++ [(connection.run world.server world.now world.registry).1])
        (by rw [ran, List.append_assoc]; rfl) (same ▸ distinct)
      refine ⟨first ++ later, ?_, ?_⟩
      · rw [connects_append, none, others]
        rfl
      · rw [turns_append, final, ran, List.append_assoc]
        rfl

/-- A server that lets its connections run one after another takes turns. -/
theorem exists_turns (world : World) (events : List Event)
    (distinct : (world.numbers ++ events.filterMap Event.number?).Nodup) :
    ∃ list, connects list = events.filterMap Event.number? ∧
      (world.run events).1 = world.turns list := by
  induction events generalizing world with
  | nil => exact ⟨[], rfl, rfl⟩
  | cons event rest ih =>
      have begun : (event :: rest).filterMap Event.number? =
          event.number?.toList ++ rest.filterMap Event.number? := by
        rw [List.filterMap_cons]
        cases event.number? <;> rfl
      rw [begun, ← List.append_assoc] at distinct
      have applied : (world.apply event).numbers = world.numbers ++ event.number?.toList :=
        @numbers_turn world (.happens event) (List.nodup_append.mp distinct).1
      rw [← applied] at distinct
      have apart := (List.nodup_append.mp distinct).1
      -- An event is one turn, and all turns after it until the server waits are moves.
      obtain ⟨moves, none, settled⟩ := exists_turns_runAll (world.apply event) []
        (world.apply event).connections rfl apart
      have stepped : (world.step event).1 = (world.apply event).turns moves := settled.symm
      have same := numbers_turns_of_nil none apart
      rw [← stepped] at same
      rw [← same] at distinct
      obtain ⟨later, others, final⟩ := ih (world.step event).1 distinct
      refine ⟨.happens event :: (moves ++ later), ?_, ?_⟩
      · rw [connects_cons, connects_append, none, others, begun]
        rfl
      · rw [turns, List.foldl_cons, ← turns, turns_append]
        exact (congrArg (·.turns later) stepped) ▸ final

end World

end GameServer
