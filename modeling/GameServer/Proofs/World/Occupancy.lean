import GameServer.Proofs.Login.Opening
import GameServer.Proofs.World.Turns

/- This file keeps the places in the registry together with the connections over all turns. -/

namespace GameServer

open PlayerRegistry (entry)

/-- A move fits the places in the registry to the connection and leaves the others their places. -/
theorem Connection.Transit.places {registry : PlayerRegistry} {connection : Connection}
    {moved : Connection.Move} {others : List Player}
    (transit : Connection.Transit registry connection moved)
    (places : registry.online.Perm ((connection.stage.player?.toList ++ others).map entry))
    (single : registry.Single) (room : registry.size ≤ registry.capacity) :
    moved.registry.online.Perm ((moved.connection.stage.player?.toList ++ others).map entry) ∧
      moved.registry.Single ∧ moved.registry.size ≤ moved.registry.capacity ∧
      moved.registry.capacity = registry.capacity := by
  cases transit with
  | stays same player =>
      rw [same, player]
      exact ⟨places, single, room, rfl⟩
  | joins player outside candidate joining inside =>
      have apart := PlayerRegistry.single_join single joining
      have within := PlayerRegistry.size_join_le _ _ _ joining
      obtain ⟨_, _, joined⟩ := PlayerRegistry.join_ok joining
      rw [outside] at places
      refine ⟨?_, apart, within, by rw [joined]⟩
      rw [inside, joined]
      exact places.cons (entry player)
  | leaves result player stage after removed =>
      have seat : connection.stage.player? = some player := by rw [stage]; rfl
      rw [seat] at places
      have standing : entry player ∈ registry.online := places.mem_iff.mpr List.mem_cons_self
      obtain ⟨capacity, apart, rest⟩ := PlayerRegistry.remove_of_mem single standing
      rw [← removed] at capacity apart rest
      have size : registry.size = moved.registry.size + 1 := rest.length_eq
      refine ⟨?_, apart, by omega, capacity⟩
      rw [after]
      exact (rest.symm.trans places).cons_inv

namespace World

/-- The players whose places belong to these connections. -/
def seats (connections : List Connection) : List Player :=
  connections.filterMap fun connection => connection.stage.player?

/-- The registry holds the players of the connections and nobody else. -/
structure Housed (capacity : Nat) (world : World) : Prop where
  places : world.registry.online.Perm ((seats world.connections).map entry)
  single : world.registry.Single
  room : world.registry.size ≤ world.registry.capacity
  capacity : world.registry.capacity = capacity
  /-- Every player comes from the own connection. -/
  own : ∀ connection ∈ world.connections, ∀ player,
    connection.stage.candidate? = some player → player.connection = numberOf connection

/-- The place of one connection stands beside the places of the others. -/
theorem seats_split (front back : List Connection) (connection : Connection) :
    (seats (front ++ connection :: back)).Perm
      (connection.stage.player?.toList ++ seats (front ++ back)) := by
  have middle : (seats (front ++ connection :: back)).Perm (seats (connection :: (front ++ back))) :=
    List.perm_middle.filterMap _
  refine middle.trans (.of_eq ?_)
  rw [seats, List.filterMap_cons]
  cases connection.stage.player? <;> rfl

theorem candidate?_of_player? {stage : Stage} {player : Player}
    (inside : stage.player? = some player) : stage.candidate? = some player := by
  cases stage with
  | playing | leaving => exact inside
  | handshake | login | authenticating | finished => cases inside

theorem housed_start (server : Server) : Housed server.settings.maxPlayers (start server) where
  places := .refl _
  single := List.nodup_nil
  room := Nat.zero_le _
  capacity := rfl
  own := List.forall_mem_nil _

/-- A change that does not concern the registry and revives no connection that has ended. -/
structure Discreet (change : Connection → Connection) : Prop where
  number : ∀ connection, numberOf (change connection) = numberOf connection
  player : ∀ connection, (change connection).stage.player? = connection.stage.player?
  candidate : ∀ connection player, (change connection).stage.candidate? = some player →
    connection.stage.candidate? = some player
  finished : ∀ connection result, connection.stage = .finished result →
    (change connection).stage = .finished result

theorem discreet_pipe (change : Pipe → Pipe) :
    Discreet fun connection =>
      { connection with
        session := { connection.session with pipe := change connection.session.pipe } } where
  number _ := rfl
  player _ := rfl
  candidate _ _ := id
  finished _ _ := id

theorem discreet_resolve (verdict : Verdict) : Discreet (·.resolve verdict) where
  number connection := numberOf_resolve connection verdict
  player connection := by
    unfold Connection.resolve
    split
    · next attempt since authenticating => rw [authenticating]; rfl
    · rfl
  candidate connection player := by
    unfold Connection.resolve
    split
    · next attempt since authenticating => rw [authenticating]; exact id
    · exact id
  finished connection result gone := by
    unfold Connection.resolve
    rw [gone]
    exact gone

/-- Whoever is given up keeps the place until the next move. -/
theorem discreet_giveUp : Discreet Connection.giveUp where
  number := numberOf_giveUp
  player connection := by
    obtain ⟨session, stage⟩ := connection
    cases stage <;> rfl
  candidate connection player candidate := by
    obtain ⟨session, stage⟩ := connection
    cases stage with
    | playing | leaving | finished => exact candidate
    | handshake | login | authenticating => cases candidate
  finished connection result gone := by
    unfold Connection.giveUp
    rw [gone]
    exact gone

/-- What a turn does to a server. -/
inductive Effect (world : World) : World → Prop where
  | changes (number : ConnectionId) (change : Connection → Connection)
      (discreet : Discreet change) : Effect world (world.update number change)
  | begins (info : SessionInfo) (serverKey : UInt64) (sent : Bytes)
      (fresh : info.connection ∉ world.numbers) : Effect world (world.connect info serverKey sent)
  | advances (seconds : Nat) : Effect world { world with now := world.now + seconds }
  | moves (number : ConnectionId) (picks : List Connection.Branch) :
      Effect world (world.moveOne number picks)

theorem effect_turn {world : World} {turn : Turn}
    (distinct : (world.numbers ++ turn.number?.toList).Nodup) :
    Effect world (world.turn turn) := by
  cases turn with
  | happens event =>
      cases event with
      | connect info serverKey sent =>
          exact .begins info serverKey sent (fresh_of_nodup distinct)
      | deliver number bytes => exact .changes number _ (discreet_pipe (·.deliver bytes))
      | finish number => exact .changes number _ (discreet_pipe (·.finish))
      | disturb number call => exact .changes number _ (discreet_pipe (·.disturb call))
      | resolve number verdict => exact .changes number _ (discreet_resolve verdict)
      | advance seconds => exact .advances seconds
  | moves number picks => exact .moves number picks
  | givesUp number => exact .changes number _ discreet_giveUp

section Steps

variable {capacity : Nat} {world : World}

theorem Housed.update (housed : Housed capacity world) (number : ConnectionId)
    {change : Connection → Connection} (discreet : Discreet change) :
    Housed capacity (world.update number change) where
  places := by
    refine housed.places.trans (.of_eq (congrArg (List.map entry) ?_))
    rw [seats, seats, World.update, List.filterMap_map]
    refine List.filterMap_congr fun connection member => ?_
    rw [Function.comp_apply]
    split
    · exact (discreet.player connection).symm
    · rfl
  single := housed.single
  room := housed.room
  capacity := housed.capacity
  own := by
    intro connection member player candidate
    obtain ⟨former, known, same⟩ := List.mem_map.mp member
    split at same
    · subst same
      rw [discreet.number former]
      exact housed.own former known player (discreet.candidate former player candidate)
    · exact same ▸ housed.own former known player (same ▸ candidate)

/-- A new connection has no place yet. -/
theorem Housed.connect (housed : Housed capacity world) {info : SessionInfo}
    (fresh : info.connection ∉ world.numbers) (serverKey : UInt64) (sent : Bytes) :
    Housed capacity (world.connect info serverKey sent) where
  places := by
    rw [connections_connect fresh, seats, List.filterMap_append]
    exact housed.places.trans (.of_eq (congrArg (List.map entry) (List.append_nil _).symm))
  single := housed.single
  room := housed.room
  capacity := housed.capacity
  own := by
    intro connection member player candidate
    rw [connections_connect fresh, List.mem_append, List.mem_singleton] at member
    rcases member with known | rfl
    · exact housed.own connection known player candidate
    · cases candidate

/-- The place of a connection that moves is given, kept or taken back. -/
theorem Housed.moveOne (housed : Housed capacity world) (distinct : world.numbers.Nodup)
    (number : ConnectionId) (picks : List Connection.Branch) :
    Housed capacity (world.moveOne number picks) := by
  cases found : world.find? number with
  | none =>
      rw [World.moveOne, found]
      exact housed
  | some connection =>
      obtain ⟨rfl, front, back, split⟩ := exists_split found
      have moves := connection.move_moves world.server world.now world.registry picks
      have info := connection.info_move world.server world.now world.registry picks
      rw [moveOne_of_split split distinct]
      generalize connection.move world.server world.now world.registry picks = moved at moves info
      -- The others keep their places, so only the one that moves is compared with the registry.
      have former := housed.places
      rw [split] at former
      obtain ⟨places, single, room, same⟩ := moves.transit.places
        (former.trans ((seats_split front back connection).map entry)) housed.single housed.room
      refine ⟨?_, single, room, same.trans housed.capacity, ?_⟩
      · exact places.trans ((seats_split front back moved.connection).map entry).symm
      · intro one member player candidate
        have known (other : Connection) (among : other ∈ connection :: (front ++ back)) :
            other ∈ world.connections := split ▸ List.perm_middle.mem_iff.mpr among
        rcases List.mem_cons.mp (List.perm_middle.mem_iff.mp member) with rfl | other
        · have number : numberOf moved.connection = numberOf connection :=
            congrArg SessionInfo.connection info
          rw [number]
          rcases moves.own player candidate with earlier | own
          · exact housed.own connection (known connection List.mem_cons_self) player earlier
          · exact own
        · exact housed.own one (known one (List.mem_cons_of_mem _ other)) player candidate

/-- A turn keeps the places and the players together. -/
theorem Housed.turn (housed : Housed capacity world) {turn : Turn}
    (distinct : (world.numbers ++ turn.number?.toList).Nodup) :
    Housed capacity (world.turn turn) := by
  have effect := effect_turn distinct
  generalize world.turn turn = next at effect
  cases effect with
  | changes number change discreet => exact housed.update number discreet
  | begins info serverKey sent fresh => exact housed.connect fresh serverKey sent
  | advances => exact ⟨housed.places, housed.single, housed.room, housed.capacity, housed.own⟩
  | moves number picks => exact housed.moveOne (List.nodup_append.mp distinct).1 number picks

/-- The connection of a number has ended, and its player has left if there was one. -/
def Gone (world : World) (number : ConnectionId) (result : Except SessionError Unit) : Prop :=
  ∃ connection ∈ world.connections,
    numberOf connection = number ∧ connection.stage = .finished result

variable {number : ConnectionId} {result : Except SessionError Unit}

theorem Gone.update (gone : Gone world number result) (other : ConnectionId)
    {change : Connection → Connection} (discreet : Discreet change) :
    Gone (world.update other change) number result := by
  obtain ⟨connection, known, named, finished⟩ := gone
  refine ⟨_, List.mem_map_of_mem known, ?_⟩
  split
  · exact ⟨(discreet.number connection).trans named, discreet.finished connection result finished⟩
  · exact ⟨named, finished⟩

theorem Gone.moveOne (gone : Gone world number result) (distinct : world.numbers.Nodup)
    (other : ConnectionId) (picks : List Connection.Branch) :
    Gone (world.moveOne other picks) number result := by
  cases found : world.find? other with
  | none =>
      rw [World.moveOne, found]
      exact gone
  | some moving =>
      obtain ⟨rfl, front, back, split⟩ := exists_split found
      obtain ⟨connection, known, named, finished⟩ := gone
      rw [split] at known
      rw [moveOne_of_split split distinct]
      rcases List.mem_cons.mp (List.perm_middle.mem_iff.mp known) with rfl | among
      · refine ⟨_, List.perm_middle.mem_iff.mpr List.mem_cons_self, ?_⟩
        rw [Connection.move, finished]
        exact ⟨named, finished⟩
      · exact ⟨connection, List.perm_middle.mem_iff.mpr (List.mem_cons_of_mem _ among), named,
          finished⟩

/-- A connection that has ended stays so. -/
theorem Gone.turn (gone : Gone world number result) {turn : Turn}
    (distinct : (world.numbers ++ turn.number?.toList).Nodup) :
    Gone (world.turn turn) number result := by
  have effect := effect_turn distinct
  generalize world.turn turn = next at effect
  cases effect with
  | changes other change discreet => exact gone.update other discreet
  | begins info serverKey sent fresh =>
      obtain ⟨connection, known, ended⟩ := gone
      have added := connections_connect fresh serverKey sent
      exact ⟨connection, added ▸ List.mem_append_left _ known, ended⟩
  | advances => exact gone
  | moves other picks => exact gone.moveOne (List.nodup_append.mp distinct).1 other picks

end Steps

/-- What every turn keeps is true after all turns. -/
theorem turns_induction {holds : World → Prop} {list : List Turn} {world : World}
    (step : ∀ {world : World} {turn : Turn}, holds world →
      (world.numbers ++ turn.number?.toList).Nodup → holds (world.turn turn))
    (first : holds world) (distinct : (world.numbers ++ connects list).Nodup) :
    holds (world.turns list) := by
  induction list generalizing world with
  | nil => exact first
  | cons turn rest ih =>
      rw [connects_cons, ← List.append_assoc] at distinct
      have apart := (List.nodup_append.mp distinct).1
      rw [← numbers_turn apart] at distinct
      exact ih (step first apart) distinct

theorem Gone.turns {world : World} {number : ConnectionId} {result : Except SessionError Unit}
    {list : List Turn} (gone : Gone world number result)
    (distinct : (world.numbers ++ connects list).Nodup) : Gone (world.turns list) number result :=
  @turns_induction (Gone · number result) list world (fun gone apart => gone.turn apart) gone
    distinct

theorem housed_turns (server : Server) {list : List Turn} (distinct : (connects list).Nodup) :
    Housed server.settings.maxPlayers ((start server).turns list) :=
  turns_induction (fun housed apart => housed.turn apart) (housed_start server) distinct

/-- A server that lets its connections run one after another keeps the places as well. -/
theorem housed_run (server : Server) {events : List Event}
    (distinct : (events.filterMap Event.number?).Nodup) :
    Housed server.settings.maxPlayers ((start server).run events).1 := by
  obtain ⟨list, begun, reached⟩ := exists_turns (start server) events distinct
  rw [reached]
  exact housed_turns server (begun ▸ distinct)

/-- The connections of a server have the numbers that its turns have begun. -/
theorem numbers_start (server : Server) {list : List Turn} (distinct : (connects list).Nodup) :
    ((start server).turns list).numbers = connects list :=
  @numbers_turns (start server) list distinct

section Places

variable {capacity : Nat} {world : World} {connection : Connection} {number : ConnectionId}

/-- A player in the game stands in the registry under the own name. -/
theorem Housed.find?_of_player? (housed : Housed capacity world)
    (known : connection ∈ world.connections) {player : Player}
    (inside : connection.stage.player? = some player) :
    world.registry.find? player.username = some player := by
  have seat : player ∈ seats world.connections :=
    List.mem_filterMap.mpr ⟨connection, known, inside⟩
  have standing : entry player ∈ world.registry.online :=
    housed.places.mem_iff.mpr (List.mem_map_of_mem seat)
  exact PlayerRegistry.find?_of_mem housed.single standing

/-- Each place belongs to a connection, and the player came on it. -/
theorem Housed.exists_connection (housed : Housed capacity world) {place : String × Player}
    (standing : place ∈ world.registry.online) :
    place.1 = place.2.key ∧ ∃ connection ∈ world.connections,
      connection.stage.player? = some place.2 ∧ numberOf connection = place.2.connection := by
  obtain ⟨player, seat, rfl⟩ := List.mem_map.mp (housed.places.mem_iff.mp standing)
  obtain ⟨connection, known, inside⟩ := List.mem_filterMap.mp seat
  have own := housed.own connection known player (candidate?_of_player? inside)
  exact ⟨rfl, connection, known, inside, own.symm⟩

/-- The keys under which the players stand are the keys of their names. -/
theorem Housed.nodup_key (housed : Housed capacity world) :
    (world.registry.online.map fun place => place.2.key).Nodup := by
  have same : (world.registry.online.map fun place => place.2.key) =
      world.registry.online.map Prod.fst :=
    List.map_congr_left fun place standing => (housed.exists_connection standing).1.symm
  exact same ▸ housed.single

/-- No two connections have one number. -/
theorem eq_of_numberOf_eq (distinct : world.numbers.Nodup) {other : Connection}
    (known : connection ∈ world.connections) (too : other ∈ world.connections)
    (same : numberOf connection = numberOf other) : connection = other :=
  List.inj_on_of_nodup_map distinct known too same

/-- A connection that has ended has no place. -/
theorem Housed.connection_ne_of_gone (housed : Housed capacity world)
    (distinct : world.numbers.Nodup) {result : Except SessionError Unit}
    (gone : Gone world number result) :
    ∀ place ∈ world.registry.online, place.2.connection ≠ number := by
  rintro place standing rfl
  obtain ⟨ended, known, named, finished⟩ := gone
  obtain ⟨_, connection, too, inside, own⟩ := housed.exists_connection standing
  rw [← eq_of_numberOf_eq distinct known too (named.trans own.symm), finished] at inside
  cases inside

theorem Gone.registry_moveOne {result : Except SessionError Unit}
    (gone : Gone world number result) (distinct : world.numbers.Nodup)
    (picks : List Connection.Branch) :
    (world.moveOne number picks).registry = world.registry := by
  obtain ⟨ended, known, rfl, finished⟩ := gone
  obtain ⟨front, back, split⟩ := List.append_of_mem known
  rw [moveOne_of_split split distinct, Connection.move, finished]

/-- The result of the connection of a number if it has ended. -/
def resultOf (world : World) (number : ConnectionId) : Option (Except SessionError Unit) :=
  (world.find? number).bind Connection.result?

/-- A refusal leaves the registry alone and ends the connection. -/
theorem moveOne_of_refused (distinct : world.numbers.Nodup) {error : SessionError}
    {picks : List Connection.Branch} (going : world.resultOf number = none)
    (ended : (world.moveOne number picks).resultOf number = some (.error error))
    (told : error.refusal? ≠ none) :
    (world.moveOne number picks).registry = world.registry ∧
      Gone (world.moveOne number picks) number (.error error) := by
  cases found : world.find? number with
  | none =>
      rw [moveOne, found, resultOf, found] at ended
      cases ended
  | some connection =>
      obtain ⟨rfl, front, back, split⟩ := exists_split found
      have info := connection.info_move world.server world.now world.registry picks
      have moves := connection.move_moves world.server world.now world.registry picks
      have named : numberOf
          (connection.move world.server world.now world.registry picks).connection =
            numberOf connection := congrArg SessionInfo.connection info
      have same : (world.moveOne (numberOf connection) picks).numbers = world.numbers :=
        numbers_turns_of_nil (show connects [.moves (numberOf connection) picks] = [] from rfl)
          distinct
      have moved := moveOne_of_split split distinct picks
      have after : (world.moveOne (numberOf connection) picks).find? (numberOf connection) =
          some (connection.move world.server world.now world.registry picks).connection := by
        rw [← named]
        exact find?_of_split (by rw [named, moved]) (by rw [named, same]; exact distinct)
      rw [resultOf, found] at going
      rw [resultOf, after] at ended
      obtain ⟨kept, finished⟩ := moves.refused going ended told
      rw [moved]
      exact ⟨kept, _, List.mem_append_right _ List.mem_cons_self, named, finished⟩

end Places

/-- A connection that is refused does nothing more, whatever turns follow. -/
theorem refused_turns {server : Server} {before later : List Turn} {number : ConnectionId}
    {picks : List Connection.Branch} {error : SessionError}
    (distinct : (connects (before ++ .moves number picks :: later)).Nodup)
    (going : ((start server).turns before).resultOf number = none)
    (ended : ((start server).turns (before ++ [.moves number picks])).resultOf number =
      some (.error error))
    (told : error.refusal? ≠ none) :
    ((start server).turns (before ++ [.moves number picks])).registry =
        ((start server).turns before).registry ∧
      Gone ((start server).turns (before ++ .moves number picks :: later)) number
        (.error error) := by
  have refuses : (start server).turns (before ++ [.moves number picks]) =
      ((start server).turns before).moveOne number picks :=
    turns_append _ before [.moves number picks]
  have begun : connects (before ++ [.moves number picks]) = connects before :=
    (connects_append before [.moves number picks]).trans (List.append_nil _)
  rw [List.append_cons, connects_append, begun] at distinct
  have former := (List.nodup_append.mp distinct).1
  have numbers := numbers_start server former
  have moved := numbers_start server (begun.symm ▸ former)
  rw [begun] at moved
  rw [refuses] at ended
  obtain ⟨same, gone⟩ := moveOne_of_refused (numbers.symm ▸ former) going ended told
  rw [← refuses] at same gone
  -- The later turns start from a server on which the connection has ended.
  refine ⟨same, ?_⟩
  rw [List.append_cons, turns_append]
  exact gone.turns (moved.symm ▸ distinct)

/-- The registry never holds more players than there is room for, nor two of one name. Every player
in the game stands in it, and everyone in it is on one connection, in the game or about to leave it.
A refusal leaves the registry alone, and afterwards nobody is removed for that connection. Once all
connections have ended and left, the registry is empty. -/
theorem occupancy_turns (server : Server) (list : List Turn) (distinct : (connects list).Nodup) :
    let world := (start server).turns list
    world.registry.size ≤ server.settings.maxPlayers ∧
    (world.registry.online.map fun place => place.2.key).Nodup ∧
    (∀ connection ∈ world.connections, ∀ player since,
      connection.stage = .playing player since →
        world.registry.find? player.username = some player ∧
          player.connection = numberOf connection) ∧
    (∀ place ∈ world.registry.online, place.1 = place.2.key ∧
      ∃! connection, connection ∈ world.connections ∧
        connection.stage.player? = some place.2) ∧
    (∀ before number picks later error, list = before ++ .moves number picks :: later →
      ((start server).turns before).resultOf number = none →
      ((start server).turns (before ++ [.moves number picks])).resultOf number =
        some (.error error) →
      error.refusal? ≠ none →
        ((start server).turns (before ++ [.moves number picks])).registry =
            ((start server).turns before).registry ∧
          (∀ others, (world.turn (.moves number others)).registry = world.registry) ∧
          ∀ username, world.registry.remove username number = (none, world.registry)) ∧
    ((∀ connection ∈ world.connections, ∃ result, connection.stage = .finished result) →
      world.registry.online = []) := by
  intro world
  have apart : world.numbers.Nodup := (numbers_start server distinct).symm ▸ distinct
  have housed : Housed server.settings.maxPlayers world := housed_turns server distinct
  refine ⟨housed.capacity ▸ housed.room, housed.nodup_key, ?playing, ?places, ?refused, ?empty⟩
  case playing =>
    intro connection known player since playing
    have inside : connection.stage.player? = some player := by rw [playing]; rfl
    exact ⟨housed.find?_of_player? known inside,
      housed.own connection known player (candidate?_of_player? inside)⟩
  case places =>
    intro place standing
    obtain ⟨key, connection, known, inside, own⟩ := housed.exists_connection standing
    refine ⟨key, connection, ⟨known, inside⟩, ?_⟩
    rintro other ⟨too, among⟩
    have number := housed.own other too place.2 (candidate?_of_player? among)
    exact eq_of_numberOf_eq apart too known (number.symm.trans own.symm)
  case refused =>
    rintro before number picks later error rfl going ended told
    obtain ⟨same, gone⟩ := refused_turns distinct going ended told
    refine ⟨same, gone.registry_moveOne apart, fun username => ?_⟩
    exact PlayerRegistry.remove_of_ne (housed.connection_ne_of_gone apart gone) username
  case empty =>
    intro ended
    have nobody : seats world.connections = [] := by
      rw [seats, List.filterMap_eq_nil_iff]
      intro connection known
      obtain ⟨result, finished⟩ := ended connection known
      rw [finished]
      rfl
    have places := housed.places
    rw [nobody] at places
    exact places.eq_nil

/-- A server whose authenticator lets everybody in at once. -/
def openServer : Server := .standard fun _ => some (.decided .ok)

/-- The turns in which a connection comes as far as the verdict on its login block. -/
def comes (number : ConnectionId) : List Turn :=
  [.happens (.connect ⟨number, none⟩ 0x0000000300000004 ([14, 0] ++ loginFrame)),
    .moves number [], .moves number []]

/-- A player is in the game when the same account comes on a second connection. -/
def comesTwice : List Turn := comes 1 ++ .moves 1 [] :: comes 2

/-- The second connection is refused, and the first one keeps the place. -/
theorem occupancy_turns_of_comesTwice :
    (connects (comesTwice ++ [.moves 2 []])).Nodup ∧
      ((start openServer).turns (comesTwice ++ [.moves 2 []])).resultOf 2 =
        some (.error (.authenticationFailed .accountOnline)) ∧
      ((start openServer).turns comesTwice).registry.size = 1 ∧
      ((start openServer).turns (comesTwice ++ [.moves 2 []])).registry =
        ((start openServer).turns comesTwice).registry ∧
      ∀ username,
        ((start openServer).turns (comesTwice ++ [.moves 2 []])).registry.remove username 2 =
          (none, ((start openServer).turns (comesTwice ++ [.moves 2 []])).registry) := by
  have distinct : (connects (comesTwice ++ [.moves 2 []])).Nodup := by decide
  have going : ((start openServer).turns comesTwice).resultOf 2 = none := by decide +kernel
  have ended : ((start openServer).turns (comesTwice ++ [.moves 2 []])).resultOf 2 =
      some (.error (.authenticationFailed .accountOnline)) := by decide +kernel
  have one : ((start openServer).turns comesTwice).registry.size = 1 := by decide +kernel
  obtain ⟨_, _, _, _, refused, _⟩ :=
    occupancy_turns openServer (comesTwice ++ [.moves 2 []]) distinct
  obtain ⟨same, _, nobody⟩ := refused comesTwice 2 [] [] _ rfl going ended nofun
  exact ⟨distinct, ended, one, same, nobody⟩

end World

end GameServer
