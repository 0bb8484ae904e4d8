import GameServer.Proofs.Framer.Streams
import Mathlib.Data.List.Induction

/- This file lets a server and a client write to each other under one seed. -/

namespace GameServer

/-- The frame that a message is written as, if its kind is bound to an opcode. -/
def Table.frame? (table : Table) (message : Message) : Option Frame :=
  match table.findKind? message.kind with
  | some ⟨_, .framed opcode _, codec⟩ =>
      match (codec.encode message).run [] with
      | .ok _ payload => some ⟨opcode, payload⟩
      | .error _ _ => none
  | _ => none

/-- The message is written, and without an opcode. -/
def Table.WritesBare (table : Table) (message : Message) : Prop :=
  ∃ binding payload, table.findKind? message.kind = some binding ∧
    (binding.codec.encode message).run [] = .ok () payload ∧ binding.framing = .headless

/-- A view reads every opcode that a table writes, under the rule that it is written under. -/
def Table.IsReadBy (table view : Table) : Prop :=
  ∀ kind binding opcode rule, table.findKind? kind = some binding →
    binding.framing = .framed opcode rule →
      ∃ entry, view.find? opcode = some entry ∧ entry.rule = rule

/-- One direction of a connection. -/
structure Duplex.Line where
  /-- The bytes that were written and have not arrived. -/
  flying : Bytes
  /-- The bytes that have arrived and were not read. -/
  arrived : Bytes
  /-- The frames that were written. -/
  sent : List Frame
  /-- What the reads yielded. -/
  received : List (Except ProtocolError Frame)

/-- The client writes with one framer and reads with another. Both have the client's streams. -/
structure Duplex where
  server : Framer
  writer : Framer
  reader : Framer
  /-- From the client to the server. -/
  up : Duplex.Line
  /-- From the server to the client. -/
  down : Duplex.Line

namespace Duplex

/-- Nothing was written yet. -/
def Line.empty : Line := ⟨[], [], [], []⟩

/-- Bytes are on their way, and they are the given frame if there is one. -/
def Line.write (line : Line) (bytes : Bytes) (frame : Option Frame) : Line :=
  { line with flying := line.flying ++ bytes, sent := line.sent ++ frame.toList }

/-- The next bytes arrive. -/
def Line.deliver (line : Line) (count : Nat) : Line :=
  { line with
    arrived := line.arrived ++ line.flying.take count
    flying := line.flying.drop count }

/-- One read of the bytes that have arrived. -/
def Line.read (line : Line) (cut : Framer.Cut (Inbound × Frame)) : Line :=
  { line with
    arrived := cut.rest
    received := line.received ++ cut.results.map (·.map Prod.snd) }

/-- What the two sides and the network between them may do. -/
inductive Event where
  /-- The server tries to write a message. -/
  | tell (message : Message)
  /-- The client tries to write a frame. -/
  | ask (frame : Frame)
  | deliverUp (count : Nat)
  | deliverDown (count : Nat)
  | readUp
  | readDown

/-- The server reads and writes by a table, and the client reads by a view of it. -/
def start (seed : SessionKeys) (table view : Table) (serverLimit clientLimit : Nat) : Duplex where
  server := .ciphered table serverLimit (.server seed)
  writer := .ciphered table clientLimit (.client seed)
  reader := .ciphered view clientLimit (.client seed)
  up := .empty
  down := .empty

/-- A refused attempt writes what it has left behind. -/
def step (duplex : Duplex) : Event → Duplex
  | .tell message =>
      match Framer.encode message (duplex.server, []) with
      | .ok () (server, bytes) =>
          { duplex with
            server, down := duplex.down.write bytes (duplex.server.table.frame? message) }
      | .error _ (server, bytes) => { duplex with server, down := duplex.down.write bytes none }
  | .ask frame =>
      match Framer.encodeFrame frame (duplex.writer, []) with
      | .ok () (writer, bytes) => { duplex with writer, up := duplex.up.write bytes (some frame) }
      | .error _ (writer, bytes) => { duplex with writer, up := duplex.up.write bytes none }
  | .deliverUp count => { duplex with up := duplex.up.deliver count }
  | .deliverDown count => { duplex with down := duplex.down.deliver count }
  | .readUp =>
      let cut := duplex.server.takeFrame duplex.up.arrived
      { duplex with server := cut.framer, up := duplex.up.read cut }
  | .readDown =>
      let cut := duplex.reader.takeFrame duplex.down.arrived
      { duplex with reader := cut.framer, down := duplex.down.read cut }

/-- Events happen one after another. -/
def run (duplex : Duplex) (events : List Event) : Duplex := events.foldl step duplex

end Duplex

namespace Framer

/-- Reading the bytes yields these frames and nothing else, and then the incoming stream is at the
given place. -/
def Yields (stream : Isaac) (reader : Framer) (bytes : Bytes) : List Frame → Prop
  | [] => bytes = [] ∧ reader.isIdle = true ∧ ∃ outgoing, reader.cipher = some ⟨outgoing, stream⟩
  | frame :: rest =>
      let cut := reader.takeFrame bytes
      (∃ binding, cut.outcome = .ok (some (binding, frame))) ∧
        Yields stream cut.framer cut.rest rest

theorem Yields.withOutgoing {stream : Isaac} {reader : Framer} {bytes : Bytes}
    {frames : List Frame} (yields : Yields stream reader bytes frames) (other : Isaac) :
    Yields stream (reader.withOutgoing other) bytes frames := by
  induction frames generalizing reader bytes with
  | nil =>
      obtain ⟨empty, idle, outgoing, ciphered⟩ := yields
      refine ⟨empty, idle, other, ?_⟩
      simp only [Framer.withOutgoing, ciphered, Option.map_some]
  | cons frame rest ih =>
      obtain ⟨taken, later⟩ := yields
      unfold Yields
      rw [takeFrame_withOutgoing]
      exact ⟨taken, ih later⟩

/-- A frame that is written next is yielded last. -/
theorem Yields.append {stream : Isaac} {reader : Framer} {bytes : Bytes} {frames : List Frame}
    (yields : Yields stream reader bytes frames) (binding : Inbound) (opcode : UInt8)
    (payload : Bytes) (found : reader.table.find? opcode = some binding)
    (obeyed : binding.rule.check opcode payload.length = .ok ())
    (small : payload.length ≤ reader.limit) :
    Yields stream.nextByte.2 reader
      (bytes ++ (opcode + stream.nextByte.1) :: binding.rule.header payload.length ++ payload)
      (frames ++ [⟨opcode, payload⟩]) := by
  induction frames generalizing reader bytes with
  | nil =>
      obtain ⟨empty, idle, outgoing, ciphered⟩ := yields
      have waiting : reader.progress = .idle := by
        unfold isIdle at idle
        split at idle
        · assumption
        · cases idle
      have taken := takeFrame_frame reader _ _ opcode binding payload [] waiting
        (reveal_hidden reader ⟨outgoing, stream⟩ opcode ciphered) found obeyed small
      dsimp only at taken
      rw [List.append_nil] at taken
      subst empty
      rw [List.nil_append, List.nil_append, Yields, taken]
      exact ⟨⟨binding, rfl⟩, rfl, rfl, outgoing, rfl⟩
  | cons frame rest ih =>
      obtain ⟨⟨first, taken⟩, later⟩ := yields
      have settled := Cut.settled_of_some _ _ taken
      have rules := takeFrame_rules reader bytes
      rw [List.append_assoc, List.cons_append]
      unfold Yields
      rw [takeFrame_extend reader bytes _ settled]
      refine ⟨⟨first, taken⟩, ?_⟩
      rw [← rules.1] at found
      rw [← rules.2] at small
      have extended := ih later found small
      rw [List.append_assoc] at extended
      exact extended

/-- A read of the bytes that have arrived yields the first frame or nothing, and no frame is lost. -/
theorem Yields.read {stream : Isaac} {reader : Framer} {arrived flying : Bytes}
    {frames : List Frame} (yields : Yields stream reader (arrived ++ flying) frames) :
    let cut := reader.takeFrame arrived
    ∃ taken left, frames = taken ++ left ∧
      cut.results.map (·.map Prod.snd) = taken.map .ok ∧
      Yields stream cut.framer (cut.rest ++ flying) left := by
  dsimp only
  cases settled : (reader.takeFrame arrived).settled with
  | true =>
      have extended := takeFrame_extend reader arrived flying settled
      cases frames with
      | nil =>
          obtain ⟨empty, idle, _⟩ := yields
          have nothing := List.append_eq_nil_iff.mp empty
          exact absurd nothing.1 (nonempty_of_settled reader arrived idle settled)
      | cons frame rest =>
          obtain ⟨⟨binding, taken⟩, later⟩ := yields
          rw [extended] at taken later
          refine ⟨[frame], rest, rfl, ?_, later⟩
          rw [Cut.outcome_extend] at taken
          simp only [Cut.results, taken]
          rfl
  | false =>
      have pending := Cut.outcome_of_open _ settled
      have resumed := takeFrame_resume reader arrived flying settled
      refine ⟨[], frames, rfl, ?_, ?_⟩
      · simp only [Cut.results, pending]
        rfl
      · cases frames with
        | nil =>
            obtain ⟨empty, idle, ciphered⟩ := yields
            have nothing := List.append_eq_nil_iff.mp empty
            rw [nothing.1, nothing.2, takeFrame_nil reader idle]
            exact ⟨rfl, idle, ciphered⟩
        | cons frame rest =>
            obtain ⟨taken, later⟩ := yields
            rw [resumed] at taken later
            exact ⟨taken, later⟩

/-- A reader that waits with all bytes at hand has nothing left to yield. -/
theorem Yields.eq_nil_of_pending {stream : Isaac} {reader : Framer} {bytes : Bytes}
    {frames : List Frame} (yields : Yields stream reader bytes frames)
    (pending : (reader.takeFrame bytes).outcome = .ok none) : frames = [] := by
  cases frames with
  | nil => rfl
  | cons frame rest =>
      obtain ⟨⟨binding, taken⟩, _⟩ := yields
      rw [pending] at taken
      cases taken

end Framer

namespace Duplex

/-- What was sent was received already, or is yielded by the bytes of the line. -/
def Line.Agrees (line : Line) (reader : Framer) (stream : Isaac) : Prop :=
  ∃ waiting, line.received ++ waiting.map .ok = line.sent.map .ok ∧
    Framer.Yields stream reader (line.arrived ++ line.flying) waiting

theorem Line.Agrees.deliver {line : Line} {reader : Framer} {stream : Isaac}
    (agrees : line.Agrees reader stream) (count : Nat) :
    (line.deliver count).Agrees reader stream := by
  obtain ⟨waiting, logged, yields⟩ := agrees
  refine ⟨waiting, logged, ?_⟩
  simpa only [Line.deliver, List.append_assoc, List.take_append_drop] using yields

theorem Line.Agrees.read {line : Line} {reader : Framer} {stream : Isaac}
    (agrees : line.Agrees reader stream) :
    (line.read (reader.takeFrame line.arrived)).Agrees
      (reader.takeFrame line.arrived).framer stream := by
  obtain ⟨waiting, logged, yields⟩ := agrees
  obtain ⟨taken, left, split, results, later⟩ := yields.read
  refine ⟨left, ?_, later⟩
  simp only [Line.read]
  rw [results, List.append_assoc, ← List.map_append, ← split, logged]

theorem Line.Agrees.nothing {line : Line} {reader : Framer} {stream : Isaac}
    (agrees : line.Agrees reader stream) : (line.write [] none).Agrees reader stream := by
  simpa only [Line.write, Option.toList_none, List.append_nil] using agrees

theorem Line.Agrees.withOutgoing {line : Line} {reader : Framer} {stream : Isaac}
    (agrees : line.Agrees reader stream) (other : Isaac) :
    line.Agrees (reader.withOutgoing other) stream := by
  obtain ⟨waiting, logged, yields⟩ := agrees
  exact ⟨waiting, logged, yields.withOutgoing other⟩

/-- A frame that obeys the reader's rule for its opcode may be written at any time. -/
theorem Line.Agrees.put {line : Line} {reader : Framer} {stream : Isaac}
    (agrees : line.Agrees reader stream) (binding : Inbound) (opcode : UInt8) (payload : Bytes)
    (found : reader.table.find? opcode = some binding)
    (obeyed : binding.rule.check opcode payload.length = .ok ())
    (small : payload.length ≤ reader.limit) :
    (line.write
      ((opcode + stream.nextByte.1) :: binding.rule.header payload.length ++ payload)
      (some ⟨opcode, payload⟩)).Agrees reader stream.nextByte.2 := by
  obtain ⟨waiting, logged, yields⟩ := agrees
  refine ⟨waiting ++ [⟨opcode, payload⟩], ?_, ?_⟩
  · simp only [Line.write, Option.toList_some, List.map_append]
    rw [← List.append_assoc, logged]
  · have appended := yields.append binding opcode payload found obeyed small
    simpa only [Line.write, List.append_assoc] using appended

/-- Both lines agree with the streams of their writers, and the framers keep their tables. -/
structure Agrees (table view : Table) (serverLimit clientLimit : Nat) (duplex : Duplex) : Prop where
  serverRules : duplex.server.table = table ∧ duplex.server.limit = serverLimit
  writerTable : duplex.writer.table = table
  readerRules : duplex.reader.table = view ∧ duplex.reader.limit = clientLimit
  up : ∃ pair, duplex.writer.cipher = some pair ∧ duplex.up.Agrees duplex.server pair.outgoing
  down : ∃ pair, duplex.server.cipher = some pair ∧ duplex.down.Agrees duplex.reader pair.outgoing

variable {table view : Table} {serverLimit clientLimit : Nat} {duplex : Duplex}

theorem agrees_start (seed : SessionKeys) (table view : Table) (serverLimit clientLimit : Nat) :
    Agrees table view serverLimit clientLimit (start seed table view serverLimit clientLimit) where
  serverRules := ⟨rfl, rfl⟩
  writerTable := rfl
  readerRules := ⟨rfl, rfl⟩
  up := ⟨_, rfl, [], rfl, rfl, rfl, _, rfl⟩
  down := ⟨_, rfl, [], rfl, rfl, rfl, _, rfl⟩

/-- A message that is written in a frame moves the outgoing stream of the server by one byte. -/
theorem encode_framed {message : Message} {server : Framer} {pair : KeystreamPair}
    {after : Framer × Bytes} (ciphered : server.cipher = some pair)
    (framed : ¬server.table.WritesBare message)
    (accepted : Framer.encode message (server, []) = .ok () after) :
    ∃ kind binding opcode rule payload, server.table.findKind? kind = some binding ∧
      binding.framing = .framed opcode rule ∧
      server.table.frame? message = some ⟨opcode, payload⟩ ∧
      rule.check opcode payload.length = .ok () ∧
      after = (server.withOutgoing pair.outgoing.nextByte.2,
        (opcode + pair.outgoing.nextByte.1) :: rule.header payload.length ++ payload) := by
  obtain ⟨binding, payload, found, written, framing⟩ := Framer.encode_ok message _ after accepted
  obtain ⟨kind, form, codec⟩ := binding
  cases form with
  | headless => exact absurd ⟨_, payload, found, written, rfl⟩ framed
  | framed opcode rule =>
      obtain ⟨obeyed, final⟩ := Framer.putFrame_ok opcode rule payload _ after framing
      rw [Framer.hide_ciphered server pair opcode ciphered] at final
      refine ⟨message.kind, _, opcode, rule, payload, found, rfl, ?_, obeyed, final⟩
      simp only [Table.frame?, found, written]

theorem Agrees.tell (agrees : Agrees table view serverLimit clientLimit duplex)
    (readable : table.IsReadBy view) (message : Message) (framed : ¬table.WritesBare message)
    (small : ∀ frame ∈ (step duplex (.tell message)).down.sent,
      frame.payload.length ≤ clientLimit) :
    Agrees table view serverLimit clientLimit (step duplex (.tell message)) := by
  obtain ⟨pair, ciphered, down⟩ := agrees.down
  obtain ⟨other, hidden, up⟩ := agrees.up
  simp only [step] at small ⊢
  cases attempt : Framer.encode message (duplex.server, []) with
  | error error after =>
      have same := Framer.encode_error message _ after error attempt
      subst same
      exact { agrees with down := ⟨pair, ciphered, down.nothing⟩ }
  | ok value after =>
      rw [← agrees.serverRules.1] at framed
      obtain ⟨kind, binding, opcode, rule, payload, found, framing, logged, obeyed, final⟩ :=
        encode_framed ciphered framed attempt
      rw [agrees.serverRules.1] at found
      obtain ⟨entry, bound, rules⟩ := readable kind binding opcode rule found framing
      simp only [attempt, final, logged] at small ⊢
      have fits := small ⟨opcode, payload⟩ (List.mem_append_right _ List.mem_cons_self)
      rw [← agrees.readerRules.1] at bound
      rw [← agrees.readerRules.2] at fits
      subst rules
      exact
        { agrees with
          up := ⟨other, hidden, up.withOutgoing _⟩
          down := ⟨⟨pair.outgoing.nextByte.2, pair.incoming⟩,
            by simp only [Framer.withOutgoing, ciphered, Option.map_some],
            down.put entry opcode payload bound obeyed fits⟩ }

theorem Agrees.ask (agrees : Agrees table view serverLimit clientLimit duplex) (frame : Frame)
    (small : ∀ sent ∈ (step duplex (.ask frame)).up.sent, sent.payload.length ≤ serverLimit) :
    Agrees table view serverLimit clientLimit (step duplex (.ask frame)) := by
  obtain ⟨pair, ciphered, up⟩ := agrees.up
  simp only [step] at small ⊢
  cases attempt : Framer.encodeFrame frame (duplex.writer, []) with
  | error error after =>
      have same := Framer.encodeFrame_error frame _ after error attempt
      subst same
      exact { agrees with up := ⟨pair, ciphered, up.nothing⟩ }
  | ok value after =>
      obtain ⟨binding, found, put⟩ := Framer.encodeFrame_ok frame _ after attempt
      obtain ⟨obeyed, final⟩ := Framer.putFrame_ok _ _ _ _ after put
      rw [Framer.hide_ciphered duplex.writer pair frame.opcode ciphered] at final
      simp only [attempt, final] at small ⊢
      have fits := small frame (List.mem_append_right _ List.mem_cons_self)
      rw [agrees.writerTable, ← agrees.serverRules.1] at found
      rw [← agrees.serverRules.2] at fits
      exact
        { agrees with
          up := ⟨⟨pair.outgoing.nextByte.2, pair.incoming⟩,
            by simp only [Framer.withOutgoing, ciphered, Option.map_some],
            up.put binding frame.opcode frame.payload found obeyed fits⟩ }

/-- A read leaves the outgoing stream where it is. -/
theorem outgoing_takeFrame {framer : Framer} {pair : KeystreamPair} (source : Bytes)
    (ciphered : framer.cipher = some pair) :
    ∃ after, (framer.takeFrame source).framer.cipher = some after ∧
      after.outgoing = pair.outgoing := by
  rw [Framer.cipher_takeFrame, ciphered]
  exact ⟨_, rfl, rfl⟩

theorem Agrees.readUp (agrees : Agrees table view serverLimit clientLimit duplex) :
    Agrees table view serverLimit clientLimit (step duplex .readUp) := by
  obtain ⟨pair, ciphered, down⟩ := agrees.down
  obtain ⟨other, hidden, up⟩ := agrees.up
  have rules := Framer.takeFrame_rules duplex.server duplex.up.arrived
  obtain ⟨after, kept, same⟩ := outgoing_takeFrame duplex.up.arrived ciphered
  exact
    { agrees with
      serverRules := ⟨rules.1.trans agrees.serverRules.1, rules.2.trans agrees.serverRules.2⟩
      up := ⟨other, hidden, up.read⟩
      down := ⟨after, kept, same ▸ down⟩ }

theorem Agrees.readDown (agrees : Agrees table view serverLimit clientLimit duplex) :
    Agrees table view serverLimit clientLimit (step duplex .readDown) := by
  obtain ⟨pair, ciphered, down⟩ := agrees.down
  have rules := Framer.takeFrame_rules duplex.reader duplex.down.arrived
  exact
    { agrees with
      readerRules := ⟨rules.1.trans agrees.readerRules.1, rules.2.trans agrees.readerRules.2⟩
      down := ⟨pair, ciphered, down.read⟩ }

theorem Agrees.deliverUp (agrees : Agrees table view serverLimit clientLimit duplex)
    (count : Nat) : Agrees table view serverLimit clientLimit (step duplex (.deliverUp count)) := by
  obtain ⟨pair, ciphered, up⟩ := agrees.up
  exact { agrees with up := ⟨pair, ciphered, up.deliver count⟩ }

theorem Agrees.deliverDown (agrees : Agrees table view serverLimit clientLimit duplex)
    (count : Nat) :
    Agrees table view serverLimit clientLimit (step duplex (.deliverDown count)) := by
  obtain ⟨pair, ciphered, down⟩ := agrees.down
  exact { agrees with down := ⟨pair, ciphered, down.deliver count⟩ }

/-- What was sent stays sent. -/
theorem sent_step (duplex : Duplex) (event : Event) :
    duplex.up.sent <+: (step duplex event).up.sent ∧
      duplex.down.sent <+: (step duplex event).down.sent := by
  cases event with
  | tell message =>
      simp only [step]
      split <;> exact ⟨List.prefix_rfl, List.prefix_append _ _⟩
  | ask frame =>
      simp only [step]
      split <;> exact ⟨List.prefix_append _ _, List.prefix_rfl⟩
  | deliverUp count => exact ⟨List.prefix_rfl, List.prefix_rfl⟩
  | deliverDown count => exact ⟨List.prefix_rfl, List.prefix_rfl⟩
  | readUp => exact ⟨List.prefix_rfl, List.prefix_rfl⟩
  | readDown => exact ⟨List.prefix_rfl, List.prefix_rfl⟩

/-- All frames that were sent are within the limit of the side that reads them. -/
def WithinLimits (serverLimit clientLimit : Nat) (duplex : Duplex) : Prop :=
  (∀ frame ∈ duplex.up.sent, frame.payload.length ≤ serverLimit) ∧
    ∀ frame ∈ duplex.down.sent, frame.payload.length ≤ clientLimit

theorem WithinLimits.before {event : Event}
    (small : WithinLimits serverLimit clientLimit (step duplex event)) :
    WithinLimits serverLimit clientLimit duplex := by
  obtain ⟨up, down⟩ := sent_step duplex event
  exact ⟨fun frame sent => small.1 frame (up.subset sent),
    fun frame sent => small.2 frame (down.subset sent)⟩

theorem Agrees.step (agrees : Agrees table view serverLimit clientLimit duplex)
    (readable : table.IsReadBy view) (event : Event)
    (framed : ∀ message, event = .tell message → ¬table.WritesBare message)
    (small : WithinLimits serverLimit clientLimit (Duplex.step duplex event)) :
    Agrees table view serverLimit clientLimit (Duplex.step duplex event) := by
  cases event with
  | tell message => exact agrees.tell readable message (framed message rfl) small.2
  | ask frame => exact agrees.ask frame small.1
  | deliverUp count => exact agrees.deliverUp count
  | deliverDown count => exact agrees.deliverDown count
  | readUp => exact agrees.readUp
  | readDown => exact agrees.readDown

theorem agrees_run (seed : SessionKeys) (readable : table.IsReadBy view) (events : List Event)
    (framed : ∀ message, .tell message ∈ events → ¬table.WritesBare message)
    (small : WithinLimits serverLimit clientLimit
      (run (start seed table view serverLimit clientLimit) events)) :
    Agrees table view serverLimit clientLimit
      (run (start seed table view serverLimit clientLimit) events) := by
  induction events using List.reverseRecOn with
  | nil => exact agrees_start seed table view serverLimit clientLimit
  | append_singleton events event ih =>
      rw [run, List.foldl_append] at small ⊢
      have before := ih (fun message member => framed message (List.mem_append_left _ member))
        small.before
      refine before.step readable event ?_ small
      intro message same
      subst same
      exact framed message (List.mem_append_right _ List.mem_cons_self)

/-- What a reader has received is the beginning of what was sent, and it is all of it once the
line is empty and the reader waits. -/
def Line.Faithful (line : Line) (reader : Framer) : Prop :=
  line.received <+: line.sent.map .ok ∧
    (line.flying = [] → (reader.takeFrame line.arrived).outcome = .ok none →
      line.received = line.sent.map .ok)

theorem Line.Agrees.faithful {line : Line} {reader : Framer} {stream : Isaac}
    (agrees : line.Agrees reader stream) : line.Faithful reader := by
  obtain ⟨waiting, logged, yields⟩ := agrees
  refine ⟨⟨waiting.map .ok, logged⟩, ?_⟩
  intro landed pending
  rw [landed, List.append_nil] at yields
  have nothing := yields.eq_nil_of_pending pending
  rw [nothing, List.map_nil, List.append_nil] at logged
  exact logged

/-- Whatever both sides try and however the bytes travel, both readers receive the frames that were
sent, in order and without an error. -/
theorem faithful_run (seed : SessionKeys) (table view : Table) (serverLimit clientLimit : Nat)
    (events : List Event) (readable : table.IsReadBy view)
    (framed : ∀ message, .tell message ∈ events → ¬table.WritesBare message)
    (small : WithinLimits serverLimit clientLimit
      (run (start seed table view serverLimit clientLimit) events)) :
    (run (start seed table view serverLimit clientLimit) events).up.Faithful
        (run (start seed table view serverLimit clientLimit) events).server ∧
      (run (start seed table view serverLimit clientLimit) events).down.Faithful
        (run (start seed table view serverLimit clientLimit) events).reader := by
  have agrees := agrees_run seed readable events framed small
  obtain ⟨_, _, up⟩ := agrees.up
  obtain ⟨_, _, down⟩ := agrees.down
  exact ⟨up.faithful, down.faithful⟩

/-- The client reads lines of text. -/
def textView : Table := .of "client" [⟨253, .declared .byte, .serverChat⟩] []

theorem game_outbound (kind : Message.Kind) (binding : Outbound)
    (found : Table.game.findKind? kind = some binding) :
    binding = Writes.entry ⟨.framed 253 (.declared .byte), .serverChat⟩ := by
  obtain ⟨writes, member, same⟩ := Table.exists_of_findKind?_of found
  rw [← same, List.mem_singleton.mp member]

theorem game_isReadBy_textView : Table.game.IsReadBy textView := by
  intro kind binding opcode rule found framing
  rw [game_outbound kind binding found] at framing
  cases framing
  exact ⟨_, rfl, rfl⟩

theorem game_not_writesBare (message : Message) : ¬Table.game.WritesBare message := by
  intro ⟨binding, payload, found, written, bare⟩
  rw [game_outbound message.kind binding found] at bare
  cases bare

/-- Both sides write, a frame of the wrong length is refused, and the bytes arrive in pieces. -/
def exchange : List Event :=
  [.tell (.serverChat "hi"), .deliverDown 2, .ask ⟨0, [1]⟩, .readDown, .ask ⟨0, []⟩,
    .deliverDown 3, .deliverUp 1, .readUp, .readDown]

theorem faithful_run_of_exchange :
    WithinLimits 10 10 (run (start #v[1, 2, 3, 4] .game textView 10 10) exchange) ∧
      (run (start #v[1, 2, 3, 4] .game textView 10 10) exchange).down.received <+:
        [.ok ⟨253, Bytes.ofText "hi\n"⟩] := by
  have small : WithinLimits 10 10
      (run (start #v[1, 2, 3, 4] .game textView 10 10) exchange) := by
    unfold WithinLimits
    decide +kernel
  have faithful := faithful_run #v[1, 2, 3, 4] .game textView 10 10 exchange
    game_isReadBy_textView (fun message _ => game_not_writesBare message) small
  have sent : (run (start #v[1, 2, 3, 4] .game textView 10 10) exchange).down.sent =
      [⟨253, Bytes.ofText "hi\n"⟩] := by
    decide +kernel
  have received := faithful.2.1
  rw [sent] at received
  exact ⟨small, received⟩

end Duplex

end GameServer
