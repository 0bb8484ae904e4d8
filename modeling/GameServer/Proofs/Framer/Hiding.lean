import GameServer.Proofs.Framer.Attempts
import GameServer.Proofs.Framer.Boundary

/- This file shows that a cipher changes nothing but opcodes. -/

namespace GameServer

/-- At each of the places the byte is changed, by the change of the place's rank among them. -/
def Bytes.changeAt (change : Nat → UInt8 → UInt8) (places : List Nat) (bytes : Bytes) : Bytes :=
  bytes.mapIdx fun place byte =>
    match places.idxOf? place with
    | some rank => change rank byte
    | none => byte

namespace Bytes

variable (change : Nat → UInt8 → UInt8)

@[simp] theorem length_changeAt (places : List Nat) (bytes : Bytes) :
    (changeAt change places bytes).length = bytes.length := by
  simp [changeAt]

theorem changeAt_same (same : ∀ rank byte, change rank byte = byte) (places : List Nat)
    (bytes : Bytes) : changeAt change places bytes = bytes := by
  apply List.ext_getElem
  · simp
  · intro place _ _
    simp only [changeAt, List.getElem_mapIdx, same]
    split <;> rfl

theorem changeAt_nil (bytes : Bytes) : changeAt change [] bytes = bytes := by
  apply List.ext_getElem
  · simp
  · intro place _ _
    simp [changeAt, List.idxOf?]

theorem changeAt_zero (byte : UInt8) (rest : Bytes) :
    changeAt change [0] (byte :: rest) = change 0 byte :: rest := by
  apply List.ext_getElem
  · simp
  · intro place _ _
    cases place <;> simp [changeAt, List.idxOf?]

/-- Behind a front of some length, the places count on from it. -/
theorem changeAt_append (first later : List Nat) (front rest : Bytes)
    (inside : ∀ place ∈ first, place < front.length) :
    changeAt change (first ++ later.map (· + front.length)) (front ++ rest) =
      changeAt change first front ++
        changeAt (fun rank => change (rank + first.length)) later rest := by
  have behind (place : Nat) (before : place < front.length) :
      (later.map (· + front.length)).findIdx? (· == place) = none := by
    simp only [List.findIdx?_eq_none_iff, List.mem_map, beq_eq_false_iff_ne]
    rintro _ ⟨other, _, rfl⟩
    omega
  have ahead (place : Nat) : first.findIdx? (· == place + front.length) = none := by
    simp only [List.findIdx?_eq_none_iff, beq_eq_false_iff_ne]
    intro other member
    have bound := inside other member
    omega
  have shifted (place : Nat) :
      (later.map (· + front.length)).findIdx? (· == place + front.length) =
        later.findIdx? (· == place) := by
    rw [List.findIdx?_map]
    congr 1
    funext other
    simp [Function.comp]
  rw [changeAt, List.mapIdx_append]
  congr 1
  · apply List.ext_getElem
    · simp
    · intro place bound _
      rw [List.length_mapIdx] at bound
      simp only [changeAt, List.getElem_mapIdx, List.idxOf?, List.findIdx?_append, behind _ bound,
        Option.map_none, Option.or_none]
  · apply List.ext_getElem
    · simp
    · intro place _ _
      simp only [changeAt, List.getElem_mapIdx, List.idxOf?, List.findIdx?_append, ahead, shifted,
        Option.none_or]
      cases later.findIdx? (· == place) <;> rfl

end Bytes

namespace Framer

/-- The bytes of a draft that is not hidden. -/
def Draft.wire (draft : Draft) : Bytes :=
  match draft.framing with
  | .headless => draft.payload
  | .framed opcode rule => opcode :: rule.header draft.payload.length ++ draft.payload

/-- A rule is asked before a framed draft is written. -/
def Draft.judge (draft : Draft) : Except ProtocolError Draft :=
  match draft.framing with
  | .headless => .ok draft
  | .framed opcode rule => (rule.check opcode draft.payload.length).map fun _ => draft

/-- What a table makes of an attempt: the draft that is written for it, or the error that refuses it.
Neither streams nor bytes are asked. -/
def Attempt.judge (table : Table) : Attempt → Except ProtocolError Draft
  | .ofFrame frame => do
      let binding ← table.lookup frame.opcode
      Draft.judge ⟨.framed frame.opcode binding.rule, frame.payload⟩
  | .ofMessage message => do
      let binding ← table.lookupKind message.kind
      match (binding.codec.encode message).run [] with
      | .error error _ => throw error
      | .ok _ payload => Draft.judge ⟨binding.framing, payload⟩

/-- The drafts of the attempts that are not refused. -/
def drafts (table : Table) (attempts : List Attempt) : List Draft :=
  attempts.filterMap fun attempt => (attempt.judge table).toOption

/-- The places of the opcodes in what the drafts are written as. -/
def placesWritten : List Draft → List Nat
  | [] => []
  | draft :: rest =>
      List.range draft.opcodes ++ (placesWritten rest).map (· + draft.wire.length)

/-- How one attempt after another ends. -/
def outcomes (state : Framer × Bytes) : List Attempt → List (Except ProtocolError Unit)
  | [] => []
  | attempt :: rest =>
      let outcome :=
        match attempt.write state with
        | .ok () _ => .ok ()
        | .error error _ => .error error
      outcome :: outcomes (attempt.leave state) rest

/-- The byte of the outgoing stream at a position. A plain framer adds none. -/
def outgoingByte (framer : Framer) (position : Nat) : UInt8 :=
  framer.cipher.elim 0 (·.outgoing.byteAt position)

/-- The opcodes at the places are hidden with one byte of the outgoing stream each. -/
def disguise (framer : Framer) (places : List Nat) (bytes : Bytes) : Bytes :=
  bytes.changeAt (fun rank byte => byte + framer.outgoingByte rank) places

theorem hide_byte (framer : Framer) (opcode : UInt8) :
    (framer.hide opcode).1 = opcode + framer.outgoingByte 0 := by
  obtain ⟨table, cipher, progress, limit⟩ := framer
  cases cipher with
  | none => simp [hide, outgoingByte]
  | some pair =>
      simp only [hide, outgoingByte, Option.elim_some]
      rw [KeystreamPair.hide_byte]

theorem outgoingByte_onward (framer : Framer) (count position : Nat) :
    (framer.onward count).outgoingByte position = framer.outgoingByte (position + count) := by
  obtain ⟨table, cipher, progress, limit⟩ := framer
  cases cipher with
  | none => simp only [outgoingByte, onward, Option.map_none, Option.elim_none]
  | some pair =>
      simp only [outgoingByte, onward, Option.map_some, Option.elim_some]
      rw [KeystreamPair.outgoing_skipOutgoing, Isaac.byteAt_rest, Nat.add_comm]

/-- Behind what was written for one draft, the stream goes on with the opcodes that follow. -/
theorem disguise_append (framer : Framer) (draft : Draft) (later : List Nat) (rest : Bytes)
    (inside : ∀ place ∈ List.range draft.opcodes, place < draft.wire.length) :
    framer.disguise (List.range draft.opcodes ++ later.map (· + draft.wire.length))
        (draft.wire ++ rest) =
      framer.disguise (List.range draft.opcodes) draft.wire ++
        (framer.onward draft.opcodes).disguise later rest := by
  simp only [disguise, outgoingByte_onward]
  rw [Bytes.changeAt_append _ _ _ _ _ inside, List.length_range]

theorem place_lt_wire (draft : Draft) :
    ∀ place ∈ List.range draft.opcodes, place < draft.wire.length := by
  obtain ⟨framing, payload⟩ := draft
  cases framing with
  | headless => simp [Draft.opcodes]
  | framed opcode rule => simp [Draft.opcodes, Draft.wire]

theorem disguise_opcode (framer : Framer) (opcode : UInt8) (tail : Bytes) :
    framer.disguise [0] (opcode :: tail) = (framer.hide opcode).1 :: tail := by
  rw [disguise, Bytes.changeAt_zero, hide_byte]

/-- What writing comes to when the table has judged: a draft is appended, and its opcode is hidden. -/
def settle (framer : Framer) (written : Bytes) :
    Except ProtocolError Draft → EStateM.Result ProtocolError (Framer × Bytes) Unit
  | .error error => .error error (framer, written)
  | .ok draft => .ok () (framer.onward draft.opcodes,
      written ++ framer.disguise (List.range draft.opcodes) draft.wire)

/-- Places behind a front come after those in it. -/
theorem pairwise_places {count size : Nat} {later : List Nat}
    (inside : ∀ place ∈ List.range count, place < size) (ordered : later.Pairwise (· < ·)) :
    (List.range count ++ later.map (· + size)).Pairwise (· < ·) := by
  rw [List.pairwise_append]
  refine ⟨List.pairwise_lt_range, ?_, ?_⟩
  · rw [List.pairwise_map]
    exact ordered.imp fun less => Nat.add_lt_add_right less size
  · intro place member _ behind
    obtain ⟨other, _, rfl⟩ := List.mem_map.mp behind
    have bound := inside place member
    omega

theorem putFrame_eq (framer : Framer) (opcode : UInt8) (rule : LengthRule) (payload written : Bytes) :
    putFrame opcode rule payload (framer, written) =
      framer.settle written (Draft.judge ⟨.framed opcode rule, payload⟩) := by
  simp only [putFrame, Draft.judge]
  cases rule.check opcode payload.length with
  | error error => rfl
  | ok value =>
      have one : Draft.opcodes ⟨.framed opcode rule, payload⟩ = 1 := by simp [Draft.opcodes]
      simp only [Except.map, settle, one, List.range_one, Draft.wire, List.cons_append,
        disguise_opcode, hide_onward, List.append_assoc]

theorem settle_headless (framer : Framer) (payload written : Bytes) :
    framer.settle written (Draft.judge ⟨.headless, payload⟩) = .ok () (framer, written ++ payload) := by
  have none : Draft.opcodes ⟨.headless, payload⟩ = 0 := by simp [Draft.opcodes]
  simp only [Draft.judge, settle, none, onward_zero, List.range_zero, disguise, Bytes.changeAt_nil,
    Draft.wire]

/-- The table decides on an attempt, and the cipher comes in only with its opcode. -/
theorem Attempt.write_eq (attempt : Attempt) (framer : Framer) (written : Bytes) :
    attempt.write (framer, written) = framer.settle written (attempt.judge framer.table) := by
  cases attempt with
  | ofFrame frame =>
      simp only [write, encodeFrame, judge]
      cases framer.table.lookup frame.opcode with
      | error error => rfl
      | ok binding => exact putFrame_eq framer frame.opcode binding.rule frame.payload written
  | ofMessage message =>
      simp only [write, encode, judge]
      cases framer.table.lookupKind message.kind with
      | error error => rfl
      | ok binding =>
          simp only [bind, Except.bind]
          cases (binding.codec.encode message).run [] with
          | error error partly => rfl
          | ok value payload =>
              cases binding.framing with
              | headless => exact (settle_headless framer payload written).symm
              | framed opcode rule => exact putFrame_eq framer opcode rule payload written

theorem Attempt.leave_eq (attempt : Attempt) (framer : Framer) (written : Bytes) :
    attempt.leave (framer, written) =
      match attempt.judge framer.table with
      | .error _ => (framer, written)
      | .ok draft => (framer.onward draft.opcodes,
          written ++ framer.disguise (List.range draft.opcodes) draft.wire) := by
  rw [leave, write_eq]
  cases attempt.judge framer.table <;> rfl

theorem outcomes_eq (framer : Framer) (written : Bytes) (attempts : List Attempt) :
    outcomes (framer, written) attempts =
      attempts.map fun attempt => (attempt.judge framer.table).map fun _ => () := by
  induction attempts generalizing framer written with
  | nil => rfl
  | cons attempt rest ih =>
      rw [outcomes, Attempt.write_eq, Attempt.leave_eq, List.map_cons]
      cases judged : attempt.judge framer.table with
      | error error =>
          rw [ih]
          rfl
      | ok draft =>
          rw [ih]
          rfl

/-- What all attempts leave: the drafts one behind the other, with their opcodes hidden. -/
theorem writeAll_eq (framer : Framer) (written : Bytes) (attempts : List Attempt) :
    let accepted := drafts framer.table attempts
    let places := placesWritten accepted
    writeAll (framer, written) attempts =
      (framer.onward places.length,
        written ++ framer.disguise places (accepted.flatMap Draft.wire)) := by
  induction attempts generalizing framer written with
  | nil => simp [drafts, placesWritten, writeAll, onward_zero, disguise, Bytes.changeAt]
  | cons attempt rest ih =>
      dsimp only at ih ⊢
      rw [writeAll, List.foldl_cons, Attempt.leave_eq, ← writeAll]
      cases judged : attempt.judge framer.table with
      | error error =>
          have skipped : drafts framer.table (attempt :: rest) = drafts framer.table rest := by
            simp [drafts, judged, Except.toOption]
          rw [ih, skipped]
      | ok draft =>
          have kept : drafts framer.table (attempt :: rest) = draft :: drafts framer.table rest := by
            simp [drafts, judged, Except.toOption]
          have table : (framer.onward draft.opcodes).table = framer.table := rfl
          rw [ih, kept, table, List.flatMap_cons, placesWritten,
            disguise_append framer draft _ _ (place_lt_wire draft), onward_onward]
          simp [List.append_assoc]

/-- The places are those of the opcodes. -/
theorem opcodes_at_places (accepted : List Draft) :
    (placesWritten accepted).map ((accepted.flatMap Draft.wire)[·]?) =
      (accepted.filterMap (·.framing.opcode?)).map some := by
  induction accepted with
  | nil => rfl
  | cons draft rest ih =>
      have behind (place : Nat) :
          (draft.wire ++ rest.flatMap Draft.wire)[place + draft.wire.length]? =
            (rest.flatMap Draft.wire)[place]? := by
        rw [List.getElem?_append_right (Nat.le_add_left _ _), Nat.add_sub_cancel]
      simp only [placesWritten, List.flatMap_cons, List.map_append, List.map_map, Function.comp_def,
        behind, ih]
      obtain ⟨framing, payload⟩ := draft
      cases framing with
      | headless => simp [Draft.opcodes, Framing.opcode?]
      | framed opcode rule => simp [Draft.opcodes, Draft.wire, Framing.opcode?]

theorem pairwise_placesWritten (accepted : List Draft) :
    (placesWritten accepted).Pairwise (· < ·) := by
  induction accepted with
  | nil => exact List.Pairwise.nil
  | cons draft rest ih => exact pairwise_places (place_lt_wire draft) ih

/-- The same framer without a cipher. -/
def bare (framer : Framer) : Framer := { framer with cipher := none }

/-- The same cut without a cipher. -/
def Cut.bare {α : Type} (cut : Cut α) : Cut α := { cut with framer := cut.framer.bare }

/-- The byte of the incoming stream at a position. A plain framer subtracts none. -/
def incomingByte (framer : Framer) (position : Nat) : UInt8 :=
  framer.cipher.elim 0 (·.incoming.byteAt position)

/-- The places of the bytes that are taken as opcodes while everything is drained. -/
def placesRead (framer : Framer) (source : Bytes) : List Nat :=
  if _settled : (framer.decode source).settled = true then
    List.range (framer.opcodeRead source).length ++
      (placesRead (framer.decode source).framer (framer.decode source).rest).map
        (· + (framer.decode source).taken)
  else List.range (framer.opcodeRead source).length
termination_by framer.work source
decreasing_by exact decode_work_lt framer source _settled

/-- The opcodes at the places are revealed with one byte of the incoming stream each. -/
def expose (framer : Framer) (places : List Nat) (bytes : Bytes) : Bytes :=
  bytes.changeAt (fun rank byte => byte - framer.incomingByte rank) places

theorem reveal_byte (framer : Framer) (byte : UInt8) :
    (framer.reveal byte).1 = byte - framer.incomingByte 0 := by
  obtain ⟨table, cipher, progress, limit⟩ := framer
  cases cipher with
  | none => simp [reveal, incomingByte]
  | some pair =>
      simp only [reveal, incomingByte, Option.elim_some]
      rw [KeystreamPair.reveal_byte]

theorem incomingByte_takeFrame (framer : Framer) (source : Bytes) (position : Nat) :
    (framer.takeFrame source).framer.incomingByte position =
      framer.incomingByte (position + (framer.opcodeRead source).length) := by
  rw [incomingByte, cipher_takeFrame, incomingByte]
  cases framer.cipher with
  | none => simp only [Option.map_none, Option.elim_none]
  | some pair =>
      simp only [Option.map_some, Option.elim_some]
      rw [KeystreamPair.incoming_skipIncoming, Isaac.byteAt_rest, Nat.add_comm]

theorem bare_fill (framer : Framer) (binding : Inbound) (length : Nat) (source : Bytes) :
    framer.bare.fill binding length source = (framer.fill binding length source).bare := by
  unfold fill
  split <;> rfl

theorem bare_measure (framer : Framer) (binding : Inbound) (field : LengthField) (source : Bytes) :
    framer.bare.measure binding field source = (framer.measure binding field source).bare := by
  unfold measure
  split
  · rfl
  · next length rest found =>
      by_cases tooLong : framer.limit < length
      · rw [if_pos tooLong, if_pos (show framer.bare.limit < length from tooLong)]
        rfl
      · rw [if_neg tooLong, if_neg (show ¬ framer.bare.limit < length from tooLong), bare_fill]
        rfl

/-- A plain framer is given the opcode as the ciphered one reveals it. -/
theorem bare_start (framer : Framer) (byte : UInt8) (rest : Bytes) :
    framer.bare.start ((framer.reveal byte).1 :: rest) = (framer.start (byte :: rest)).bare := by
  have plainly : framer.bare.reveal (framer.reveal byte).1 = ((framer.reveal byte).1, framer.bare) := rfl
  have same : (framer.reveal byte).2.bare = framer.bare := by
    unfold reveal
    split <;> rfl
  have table : framer.bare.table = (framer.reveal byte).2.table :=
    (reveal_rules framer byte).1.symm
  simp only [start, plainly, table]
  split
  · rw [← same]
    rfl
  · split
    · rw [← same, bare_fill]
      rfl
    · rw [← same, bare_measure]
      rfl

theorem bare_takeFrame (framer : Framer) (source : Bytes) :
    framer.bare.takeFrame
        (framer.expose (List.range (framer.opcodeRead source).length) source) =
      (framer.takeFrame source).bare := by
  cases parked : framer.progress with
  | idle =>
      have idle : framer.isIdle = true := by simp [isIdle, parked]
      have still : framer.bare.progress = .idle := parked
      cases source with
      | nil =>
          simp only [takeFrame, still, parked]
          rfl
      | cons byte rest =>
          simp only [takeFrame, still, parked, opcodeRead, idle, if_true, List.take_succ_cons,
            List.take_zero, List.length_singleton, List.range_one, expose, Bytes.changeAt_zero]
          rw [← reveal_byte, bare_start]
  | measuring binding field =>
      have still : framer.bare.progress = .measuring binding field := parked
      simp only [takeFrame, still, parked, opcodeRead, isIdle, Bool.false_eq_true, if_false,
        List.length_nil, List.range_zero, expose, Bytes.changeAt_nil, bare_measure]
  | filling binding length =>
      have still : framer.bare.progress = .filling binding length := parked
      simp only [takeFrame, still, parked, opcodeRead, isIdle, Bool.false_eq_true, if_false,
        List.length_nil, List.range_zero, expose, Bytes.changeAt_nil, bare_fill]

/-- A settled cut would be the same with other bytes behind those that were taken. -/
def Cut.LooksAt {α : Type} (read : Bytes → Cut α) (source front : Bytes) : Prop :=
  source = front ++ (read source).rest ∧ front.length = (read source).taken ∧
    ∀ more, read (front ++ more) = { read source with rest := more }

theorem fill_looksAt (framer : Framer) (binding : Inbound) (length : Nat) (source : Bytes)
    (settled : (framer.fill binding length source).settled = true) :
    ∃ front, Cut.LooksAt (framer.fill binding length) source front := by
  cases found : source.split? length with
  | none => simp [fill, found, Cut.settled] at settled
  | some parts =>
      obtain ⟨payload, rest⟩ := parts
      obtain ⟨whole, rfl⟩ := Bytes.split?_some length source payload rest found
      have filled := fill_payload framer binding payload
      subst whole
      refine ⟨payload, ?_, ?_, fun more => ?_⟩
      · rw [filled]
      · rw [filled]
      · rw [filled, filled]

theorem measure_looksAt (framer : Framer) (binding : Inbound) (field : LengthField)
    (source : Bytes) (settled : (framer.measure binding field source).settled = true) :
    ∃ front, Cut.LooksAt (framer.measure binding field) source front := by
  cases found : field.read? source with
  | none => simp [measure, found, Cut.settled] at settled
  | some parts =>
      obtain ⟨length, rest⟩ := parts
      obtain ⟨whole, short⟩ := field.write_of_read? source rest length found
      have read (more : Bytes) := field.read?_write length more short
      have size := field.length_write length
      subst whole
      simp only [measure, read] at settled
      by_cases tooLong : framer.limit < length
      · refine ⟨field.write length, ?_, ?_, fun more => ?_⟩ <;>
          simp [measure, read, tooLong, size]
      · rw [if_neg tooLong, Cut.settled_behind] at settled
        obtain ⟨payload, front, taken, again⟩ := fill_looksAt framer binding length rest settled
        refine ⟨field.write length ++ payload, ?_, ?_, fun more => ?_⟩
        · simp only [measure, read, if_neg tooLong, Cut.rest_behind, List.append_assoc, ← front]
        · simp [measure, read, tooLong, size, taken, Cut.behind]
        · simp [measure, read, tooLong, again, Cut.behind]

theorem start_looksAt (framer : Framer) (source : Bytes)
    (settled : (framer.start source).settled = true) :
    ∃ front, Cut.LooksAt framer.start source front := by
  cases source with
  | nil => simp [start, Cut.settled] at settled
  | cons byte rest =>
      cases bound : (framer.reveal byte).2.table.lookup (framer.reveal byte).1 with
      | error error =>
          refine ⟨[byte], ?_, ?_, fun more => ?_⟩ <;> simp [start, bound]
      | ok binding =>
          cases rule : binding.rule with
          | fixed length =>
              simp only [start, bound, rule, Cut.settled_behind] at settled
              obtain ⟨front, whole, taken, again⟩ := fill_looksAt _ binding length rest settled
              refine ⟨byte :: front, ?_, ?_, fun more => ?_⟩
              · simp only [start, bound, rule, Cut.rest_behind, List.cons_append, ← whole]
              · simp [start, bound, rule, Cut.behind, taken, Nat.add_comm]
              · simp [start, bound, rule, Cut.behind, again]
          | declared field =>
              simp only [start, bound, rule, Cut.settled_behind] at settled
              obtain ⟨front, whole, taken, again⟩ := measure_looksAt _ binding field rest settled
              refine ⟨byte :: front, ?_, ?_, fun more => ?_⟩
              · simp only [start, bound, rule, Cut.rest_behind, List.cons_append, ← whole]
              · simp [start, bound, rule, Cut.behind, taken, Nat.add_comm]
              · simp [start, bound, rule, Cut.behind, again]

/-- A settled read looks at nothing but the bytes that it takes. -/
theorem takeFrame_looksAt (framer : Framer) (source : Bytes)
    (settled : (framer.takeFrame source).settled = true) :
    ∃ front, Cut.LooksAt framer.takeFrame source front := by
  unfold Cut.LooksAt
  cases parked : framer.progress with
  | idle =>
      simp only [takeFrame, parked] at settled ⊢
      exact start_looksAt framer source settled
  | measuring binding field =>
      simp only [takeFrame, parked] at settled ⊢
      exact measure_looksAt framer binding field source settled
  | filling binding length =>
      simp only [takeFrame, parked] at settled ⊢
      exact fill_looksAt framer binding length source settled

theorem placesRead_of_settled (framer : Framer) (source : Bytes)
    (settled : (framer.decode source).settled = true) :
    framer.placesRead source =
      List.range (framer.opcodeRead source).length ++
        ((framer.decode source).framer.placesRead (framer.decode source).rest).map
          (· + (framer.decode source).taken) := by
  rw [placesRead, dif_pos settled]

theorem placesRead_of_open (framer : Framer) (source : Bytes)
    (unsettled : (framer.decode source).settled = false) :
    framer.placesRead source = List.range (framer.opcodeRead source).length := by
  rw [placesRead, dif_neg (by rw [unsettled]; exact Bool.false_ne_true)]

theorem length_opcodeRead_bare (framer : Framer) (places : List Nat) (source : Bytes) :
    (framer.bare.opcodeRead (framer.expose places source)).length =
      (framer.opcodeRead source).length := by
  have idle : framer.bare.isIdle = framer.isIdle := rfl
  unfold opcodeRead
  rw [idle]
  split
  · simp [expose]
  · rfl

theorem place_lt_front (framer : Framer) (front : Bytes) :
    ∀ place ∈ List.range (framer.opcodeRead front).length, place < front.length := by
  intro place member
  have bound := List.mem_range.mp member
  unfold opcodeRead at bound
  split at bound
  · simp only [List.length_take] at bound
    omega
  · simp at bound

/-- The front that a settled read takes has the opcode of the whole. -/
theorem Cut.LooksAt.opcodeRead {framer : Framer} {source front : Bytes}
    (looks : Cut.LooksAt framer.takeFrame source front)
    (settled : (framer.takeFrame source).settled = true) :
    framer.takeFrame front = { framer.takeFrame source with rest := [] } ∧
      framer.opcodeRead source = framer.opcodeRead front := by
  have alone := looks.2.2 []
  rw [List.append_nil] at alone
  refine ⟨alone, ?_⟩
  have enough : (framer.takeFrame front).settled = true := by
    rw [alone]
    exact settled
  have same := opcodeRead_extend framer front (framer.takeFrame source).rest enough
  rwa [← looks.1] at same

/-- The bytes behind a settled read are exposed with the bytes of the stream that follow. -/
theorem expose_append (framer : Framer) (source front : Bytes) (later : List Nat)
    (looks : Cut.LooksAt framer.takeFrame source front)
    (opcode : framer.opcodeRead source = framer.opcodeRead front) :
    let cut := framer.takeFrame source
    framer.expose (List.range (framer.opcodeRead source).length ++ later.map (· + cut.taken))
        source =
      framer.expose (List.range (framer.opcodeRead front).length) front ++
        cut.framer.expose later cut.rest := by
  obtain ⟨whole, taken, _⟩ := looks
  have split := Bytes.changeAt_append (fun rank byte => byte - framer.incomingByte rank) _ later
    front (framer.takeFrame source).rest (framer.place_lt_front front)
  rw [← whole, taken, List.length_range] at split
  simp only [expose, incomingByte_takeFrame, opcode]
  exact split

/-- A plain framer reads the same frame, and the rest is still to be exposed. -/
theorem takeFrame_exposed (framer : Framer) (source : Bytes) (later : List Nat)
    (settled : (framer.takeFrame source).settled = true) :
    let cut := framer.takeFrame source
    framer.bare.takeFrame (framer.expose
        (List.range (framer.opcodeRead source).length ++ later.map (· + cut.taken)) source) =
      { cut.bare with rest := cut.framer.expose later cut.rest } := by
  obtain ⟨front, looks⟩ := takeFrame_looksAt framer source settled
  obtain ⟨alone, opcode⟩ := looks.opcodeRead settled
  have exposed := bare_takeFrame framer front
  have extended := takeFrame_extend framer.bare
    (framer.expose (List.range (framer.opcodeRead front).length) front)
    ((framer.takeFrame source).framer.expose later (framer.takeFrame source).rest)
    (by rw [exposed, alone]; exact settled)
  dsimp only
  rw [expose_append framer source front later looks opcode, extended, exposed, alone]
  rfl

/-- A plain framer that is given the bytes with their opcodes revealed drains the same. -/
theorem drain_bare (framer : Framer) (source : Bytes) :
    let exposed := framer.expose (framer.placesRead source) source
    framer.bare.drain exposed =
        ((framer.drain source).1, (framer.drain source).2.1.bare, (framer.drain source).2.2) ∧
      framer.bare.placesRead exposed = framer.placesRead source := by
  dsimp only
  fun_induction placesRead framer source with
  | case1 framer source settled ih =>
      have taken := settled
      rw [decode, Cut.settled_message] at taken
      generalize later : (framer.decode source).framer.placesRead (framer.decode source).rest =
        places at ih ⊢
      have same : framer.bare.decode (framer.expose (List.range (framer.opcodeRead source).length ++
          places.map (· + (framer.decode source).taken)) source) =
            { (framer.decode source).bare with
              rest := (framer.decode source).framer.expose places (framer.decode source).rest } := by
        rw [decode]
        exact congrArg Cut.message (takeFrame_exposed framer source places taken)
      have again : (framer.bare.decode (framer.expose
          (List.range (framer.opcodeRead source).length ++
            places.map (· + (framer.decode source).taken)) source)).settled = true := by
        rw [same]
        exact settled
      rw [drain_of_settled framer source settled, drain_of_settled _ _ again,
        placesRead_of_settled _ _ again, length_opcodeRead_bare, same]
      simp only [Cut.bare, ih]
      exact ⟨rfl, trivial⟩
  | case2 framer source unsettled =>
      rw [Bool.not_eq_true] at unsettled
      have same : framer.bare.decode
          (framer.expose (List.range (framer.opcodeRead source).length) source) =
            (framer.decode source).bare := by
        rw [decode, bare_takeFrame]
        rfl
      have pending : (framer.bare.decode
          (framer.expose (List.range (framer.opcodeRead source).length) source)).settled = false := by
        rw [same]
        exact unsettled
      rw [drain_of_open framer source unsettled, drain_of_open _ _ pending,
        placesRead_of_open _ _ pending, length_opcodeRead_bare, same]
      exact ⟨rfl, rfl⟩

theorem pairwise_placesRead (framer : Framer) (source : Bytes) :
    (framer.placesRead source).Pairwise (· < ·) := by
  fun_induction placesRead framer source with
  | case1 framer source settled ih =>
      rw [decode, Cut.settled_message] at settled
      obtain ⟨front, looks⟩ := takeFrame_looksAt framer source settled
      obtain ⟨_, opcode⟩ := looks.opcodeRead settled
      have inside := framer.place_lt_front front
      rw [← opcode, looks.2.1] at inside
      exact pairwise_places inside ih
  | case2 framer source unsettled => exact List.pairwise_lt_range

/-- The bytes at the places are those that are taken as opcodes. -/
theorem opcodesRead_at_places (framer : Framer) (source : Bytes) :
    (framer.placesRead source).map (source[·]?) = (framer.opcodesRead source).map some := by
  have first (framer : Framer) (source : Bytes) :
      (List.range (framer.opcodeRead source).length).map (source[·]?) =
        (framer.opcodeRead source).map some := by
    unfold opcodeRead
    split
    · cases source <;> rfl
    · rfl
  fun_induction placesRead framer source with
  | case1 framer source settled ih =>
      have behind (place : Nat) :
          source[place + (framer.decode source).taken]? = (framer.decode source).rest[place]? := by
        rw [decode_rest, List.getElem?_drop, Nat.add_comm]
      rw [opcodesRead_of_settled framer source settled]
      simp only [List.map_append, List.map_map, Function.comp_def, behind, ih, first]
  | case2 framer source unsettled =>
      rw [Bool.not_eq_true] at unsettled
      rw [opcodesRead_of_open framer source unsettled, first]

/-- A cipher changes nothing but opcodes. A ciphered framer ends every attempt to write as a plain one
does and writes the same bytes, but to the opcode of each frame it adds the next byte of its outgoing
stream, of which nothing else uses one. It drains any bytes as a plain framer drains them when the next
byte of the incoming stream is subtracted from each byte that is taken as an opcode. -/
theorem hides_only_opcodes (framer : Framer) (pair : KeystreamPair) :
    let shown : Framer := { framer with cipher := none }
    let hidden : Framer := { framer with cipher := some pair }
    (∀ (attempts : List Attempt) (written : Bytes),
      let accepted := drafts framer.table attempts
      let bytes : Bytes := accepted.flatMap Draft.wire
      let places := placesWritten accepted
      let disguised := bytes.changeAt (fun rank byte => byte + pair.outgoing.byteAt rank) places
      outcomes (hidden, written) attempts = outcomes (shown, written) attempts ∧
        writeAll (shown, written) attempts = (shown, written ++ bytes) ∧
        writeAll (hidden, written) attempts =
          ({ hidden with cipher := some (pair.skipOutgoing places.length) },
            written ++ disguised) ∧
        disguised.length = bytes.length ∧ places.Pairwise (· < ·) ∧
        places.map (bytes[·]?) = (accepted.filterMap (·.framing.opcode?)).map some) ∧
    ∀ source : Bytes,
      let places := hidden.placesRead source
      let exposed := source.changeAt (fun rank byte => byte - pair.incoming.byteAt rank) places
      shown.drain exposed =
          ((hidden.drain source).1, { (hidden.drain source).2.1 with cipher := none },
            (hidden.drain source).2.2) ∧
        shown.placesRead exposed = places ∧
        (hidden.drain source).2.1.cipher = some (pair.skipIncoming places.length) ∧
        places.Pairwise (· < ·) ∧
        places.map (source[·]?) = (hidden.opcodesRead source).map some := by
  intro shown hidden
  refine ⟨fun attempts written => ?_, fun source => ?_⟩
  · have plainly := writeAll_eq shown written attempts
    have ciphered := writeAll_eq hidden written attempts
    have same (places : List Nat) (bytes : Bytes) : shown.disguise places bytes = bytes :=
      Bytes.changeAt_same _ (fun _ byte => UInt8.add_zero byte) places bytes
    dsimp only at plainly
    rw [same] at plainly
    refine ⟨?_, plainly, ciphered, Bytes.length_changeAt _ _ _, pairwise_placesWritten _,
      opcodes_at_places _⟩
    rw [outcomes_eq, outcomes_eq]
  · obtain ⟨drained, places⟩ := drain_bare hidden source
    have opcodes := opcodesRead_at_places hidden source
    have count := congrArg List.length opcodes
    rw [List.length_map, List.length_map] at count
    refine ⟨drained, places, ?_, pairwise_placesRead _ _, opcodes⟩
    rw [count]
    exact cipher_drain hidden source

end Framer

end GameServer
