import GameServer.Proofs.Framer.Resume
import GameServer.Proofs.Keystream.Position
import GameServer.Table.Standard

/- This file shows that draining does not depend on how the bytes are cut. -/

namespace GameServer.Framer

/-- What a settled cut yields. An open cut yields nothing. -/
def Cut.results {α : Type} (cut : Cut α) : List (Except ProtocolError α) :=
  match cut.outcome with
  | .ok none => []
  | .ok (some value) => [.ok value]
  | .error error => [.error error]

theorem Cut.length_results {α : Type} (cut : Cut α) (settled : cut.settled = true) :
    cut.results.length = 1 := by
  unfold Cut.settled at settled
  unfold results
  split
  · next same => simp [same] at settled
  · rfl
  · rfl

/-- The byte that a read takes as an opcode. A framer in the middle of a frame takes none. -/
def opcodeRead (framer : Framer) (source : Bytes) : Bytes :=
  if framer.isIdle then source.take 1 else []

/-- The bytes that are taken as opcodes while everything is drained, in order. -/
def opcodesRead (framer : Framer) (source : Bytes) : Bytes :=
  if _settled : (framer.decode source).settled = true then
    framer.opcodeRead source ++
      opcodesRead (framer.decode source).framer (framer.decode source).rest
  else framer.opcodeRead source
termination_by framer.work source
decreasing_by exact decode_work_lt framer source _settled

theorem opcodesRead_of_settled (framer : Framer) (source : Bytes)
    (settled : (framer.decode source).settled = true) :
    framer.opcodesRead source =
      framer.opcodeRead source ++
        (framer.decode source).framer.opcodesRead (framer.decode source).rest := by
  rw [opcodesRead, dif_pos settled]

theorem opcodesRead_of_open (framer : Framer) (source : Bytes)
    (unsettled : (framer.decode source).settled = false) :
    framer.opcodesRead source = framer.opcodeRead source := by
  rw [opcodesRead, dif_neg (by rw [unsettled]; exact Bool.false_ne_true)]

theorem drain_of_settled (framer : Framer) (source : Bytes)
    (settled : (framer.decode source).settled = true) :
    framer.drain source =
      let cut := framer.decode source
      (cut.results ++ (cut.framer.drain cut.rest).1, (cut.framer.drain cut.rest).2) := by
  unfold Cut.settled at settled
  unfold Cut.results
  rw [drain]
  split
  · next same => simp [same] at settled
  · next error same => simp only [same, List.cons_append, List.nil_append]
  · next message same => simp only [same, List.cons_append, List.nil_append]

theorem drain_of_open (framer : Framer) (source : Bytes)
    (unsettled : (framer.decode source).settled = false) :
    framer.drain source = ([], (framer.decode source).framer, (framer.decode source).rest) := by
  have pending := Cut.outcome_of_open _ unsettled
  rw [drain]
  split
  · rfl
  · next same => simp [pending] at same
  · next same => simp [pending] at same

/-- Draining looks at a read without the bytes that were taken for it. -/
theorem drain_of_behind (framer resumed : Framer) (source left : Bytes) (count : Nat)
    (same : framer.decode source = (resumed.decode left).behind count) :
    framer.drain source = resumed.drain left := by
  cases settled : (resumed.decode left).settled with
  | true =>
      rw [drain_of_settled framer source (by rw [same]; exact settled),
        drain_of_settled resumed left settled, same]
      rfl
  | false =>
      rw [drain_of_open framer source (by rw [same]; exact settled),
        drain_of_open resumed left settled, same]
      rfl

/-- What is drained in one turn is drained in two turns as well. -/
theorem drain_append (framer : Framer) (source more : Bytes) :
    framer.drain (source ++ more) =
      let first := framer.drain source
      let second := first.2.1.drain (first.2.2 ++ more)
      (first.1 ++ second.1, second.2) := by
  fun_induction opcodesRead framer source with
  | case1 framer source settled ih =>
      have same := decode_extend framer source more settled
      rw [drain_of_settled framer (source ++ more) (by rw [same]; exact settled), same,
        drain_of_settled framer source settled]
      simp only [Cut.framer_extend, Cut.rest_extend, ih, List.append_assoc]
      rfl
  | case2 framer source unsettled =>
      rw [Bool.not_eq_true] at unsettled
      rw [drain_of_open framer source unsettled]
      exact drain_of_behind _ _ _ _ _ (decode_resume framer source more unsettled)

/-- What was drained has nothing left to yield. -/
theorem drain_drain (framer : Framer) (source : Bytes) :
    (framer.drain source).2.1.drain (framer.drain source).2.2 = ([], (framer.drain source).2) := by
  have twice := drain_append framer source []
  simp only [List.append_nil] at twice
  have results := congrArg Prod.fst twice
  have final := congrArg Prod.snd twice
  exact Prod.ext (List.self_eq_append_right.mp results) final.symm

/-- Pieces arrive one after another, and after each of them everything is drained. -/
def drainPieces (framer : Framer) (source : Bytes) :
    List Bytes → List (Except ProtocolError Message) × Framer × Bytes
  | [] => ([], framer, source)
  | piece :: rest =>
      let (results, next, left) := framer.drain (source ++ piece)
      let (later, final) := drainPieces next left rest
      (results ++ later, final)

/-- The bytes that are taken as opcodes while pieces are drained one after another. -/
def opcodesOfPieces (framer : Framer) (source : Bytes) : List Bytes → Bytes
  | [] => []
  | piece :: rest =>
      let (_, next, left) := framer.drain (source ++ piece)
      framer.opcodesRead (source ++ piece) ++ opcodesOfPieces next left rest

/-- A framer with nothing left to yield drains pieces as if they were one. -/
theorem drainPieces_flatten (framer : Framer) (source : Bytes) (pieces : List Bytes)
    (drained : framer.drain source = ([], framer, source)) :
    framer.drainPieces source pieces = framer.drain (source ++ pieces.flatten) := by
  induction pieces generalizing framer source with
  | nil => rw [List.flatten_nil, List.append_nil, drained, drainPieces]
  | cons piece rest ih =>
      rw [List.flatten_cons, ← List.append_assoc, drain_append, drainPieces]
      dsimp only
      rw [ih _ _ (drain_drain framer (source ++ piece))]

@[simp] theorem cipher_fill (framer : Framer) (binding : Inbound) (length : Nat)
    (source : Bytes) : (framer.fill binding length source).framer.cipher = framer.cipher := by
  unfold fill
  split <;> rfl

@[simp] theorem cipher_measure (framer : Framer) (binding : Inbound) (field : LengthField)
    (source : Bytes) : (framer.measure binding field source).framer.cipher = framer.cipher := by
  unfold measure
  split
  · rfl
  · split
    · rfl
    · exact cipher_fill framer binding _ _

theorem cipher_reveal (framer : Framer) (byte : UInt8) :
    (framer.reveal byte).2.cipher = framer.cipher.map (·.skipIncoming 1) := by
  unfold reveal
  cases ciphered : framer.cipher with
  | none => exact ciphered
  | some pair => rfl

theorem cipher_start (framer : Framer) (source : Bytes) :
    (framer.start source).framer.cipher =
      framer.cipher.map (·.skipIncoming (source.take 1).length) := by
  cases source with
  | nil => exact Option.map_id_apply.symm
  | cons byte rest =>
      have moved := cipher_reveal framer byte
      simp only [start]
      split
      · exact moved
      · split
        · rw [Cut.framer_behind, cipher_fill]
          exact moved
        · rw [Cut.framer_behind, cipher_measure]
          exact moved

/-- A read moves the incoming keystream by one word for the opcode that it takes. -/
theorem cipher_takeFrame (framer : Framer) (source : Bytes) :
    (framer.takeFrame source).framer.cipher =
      framer.cipher.map (·.skipIncoming (framer.opcodeRead source).length) := by
  cases parked : framer.progress with
  | idle => simp only [takeFrame, opcodeRead, isIdle, parked, if_true, cipher_start]
  | measuring binding field =>
      simp only [takeFrame, opcodeRead, isIdle, parked, cipher_measure]
      exact Option.map_id_apply.symm
  | filling binding length =>
      simp only [takeFrame, opcodeRead, isIdle, parked, cipher_fill]
      exact Option.map_id_apply.symm

theorem isIdle_fill (framer : Framer) (binding : Inbound) (length : Nat) (source : Bytes) :
    (framer.fill binding length source).framer.isIdle =
      (framer.fill binding length source).settled := by
  unfold fill
  split <;> rfl

theorem isIdle_measure (framer : Framer) (binding : Inbound) (field : LengthField)
    (source : Bytes) :
    (framer.measure binding field source).framer.isIdle =
      (framer.measure binding field source).settled := by
  unfold measure
  split
  · rfl
  · split
    · rfl
    · exact isIdle_fill framer binding _ _

theorem isIdle_start (framer : Framer) (byte : UInt8) (rest : Bytes) :
    (framer.start (byte :: rest)).framer.isIdle = (framer.start (byte :: rest)).settled := by
  simp only [start]
  split
  · rfl
  · split
    · exact isIdle_fill _ _ _ _
    · exact isIdle_measure _ _ _ _

/-- A read that took something leaves the framer idle exactly if it was settled. -/
theorem isIdle_takeFrame (framer : Framer) (source : Bytes)
    (busy : framer.isIdle = false ∨ source ≠ []) :
    (framer.takeFrame source).framer.isIdle = (framer.takeFrame source).settled := by
  cases parked : framer.progress with
  | idle =>
      simp only [takeFrame, parked]
      cases source with
      | nil => simp [isIdle, parked] at busy
      | cons byte rest => exact isIdle_start framer byte rest
  | measuring binding field =>
      simp only [takeFrame, parked]
      exact isIdle_measure framer binding field source
  | filling binding length =>
      simp only [takeFrame, parked]
      exact isIdle_fill framer binding length source

/-- An idle framer does nothing without bytes. -/
theorem takeFrame_nil (framer : Framer) (idle : framer.isIdle = true) :
    framer.takeFrame [] = ⟨.ok none, framer, 0, []⟩ := by
  cases parked : framer.progress with
  | idle =>
      have still : { framer with progress := .idle } = framer := by rw [← parked]
      simp only [takeFrame, parked, start, still]
  | measuring binding field => simp [isIdle, parked] at idle
  | filling binding length => simp [isIdle, parked] at idle

/-- Either there is nothing to read, or a read begins or goes on with a frame. -/
theorem restful_or_busy (framer : Framer) (source : Bytes) :
    framer.isIdle = true ∧ source = [] ∨ framer.isIdle = false ∨ source ≠ [] := by
  by_cases empty : source = []
  · cases idle : framer.isIdle with
    | false => exact Or.inr (Or.inl rfl)
    | true => exact Or.inl ⟨rfl, empty⟩
  · exact Or.inr (Or.inr empty)

/-- Reads that follow one another take their opcodes one after another. -/
theorem opcodeRead_resume (framer : Framer) (source more : Bytes)
    (unsettled : (framer.takeFrame source).settled = false) :
    framer.opcodeRead (source ++ more) =
      framer.opcodeRead source ++
        (framer.takeFrame source).framer.opcodeRead ((framer.takeFrame source).rest ++ more) := by
  rcases framer.restful_or_busy source with ⟨idle, empty⟩ | busy
  · rw [empty, takeFrame_nil framer idle]
    simp only [opcodeRead, idle, List.nil_append, List.take_nil, if_true]
  · have parked := isIdle_takeFrame framer source busy
    rw [unsettled] at parked
    have none : (framer.takeFrame source).framer.opcodeRead
        ((framer.takeFrame source).rest ++ more) = [] := by
      simp only [opcodeRead, parked, Bool.false_eq_true, if_false]
    rw [none, List.append_nil]
    unfold opcodeRead
    split
    · next idle =>
        rw [idle] at busy
        cases source with
        | nil => simp at busy
        | cons byte rest => rfl
    · rfl

theorem nonempty_of_settled (framer : Framer) (source : Bytes) (idle : framer.isIdle = true)
    (settled : (framer.takeFrame source).settled = true) : source ≠ [] := by
  intro empty
  rw [empty, takeFrame_nil framer idle] at settled
  cases settled

theorem opcodeRead_extend (framer : Framer) (source more : Bytes)
    (settled : (framer.takeFrame source).settled = true) :
    framer.opcodeRead (source ++ more) = framer.opcodeRead source := by
  unfold opcodeRead
  split
  · next idle =>
      cases source with
      | nil => exact absurd rfl (nonempty_of_settled framer [] idle settled)
      | cons byte rest => rfl
  · rfl

/-- The opcodes of one turn are the opcodes of two turns. -/
theorem opcodesRead_append (framer : Framer) (source more : Bytes) :
    framer.opcodesRead (source ++ more) =
      framer.opcodesRead source ++
        (framer.drain source).2.1.opcodesRead ((framer.drain source).2.2 ++ more) := by
  fun_induction opcodesRead framer source with
  | case1 framer source settled ih =>
      have same := decode_extend framer source more settled
      have read := settled
      rw [decode, Cut.settled_message] at read
      rw [opcodesRead_of_settled framer (source ++ more) (by rw [same]; exact settled), same,
        drain_of_settled framer source settled, opcodeRead_extend framer source more read]
      simp only [Cut.framer_extend, Cut.rest_extend, ih, List.append_assoc]
  | case2 framer source unsettled =>
      rw [Bool.not_eq_true] at unsettled
      have same := decode_resume framer source more unsettled
      have read := unsettled
      rw [decode, Cut.settled_message] at read
      have opcode := opcodeRead_resume framer source more read
      rw [drain_of_open framer source unsettled]
      dsimp only
      cases later : ((framer.decode source).framer.decode
          ((framer.decode source).rest ++ more)).settled with
      | true =>
          rw [opcodesRead_of_settled framer (source ++ more) (by rw [same]; exact later), same,
            opcode, opcodesRead_of_settled _ _ later, List.append_assoc]
          rfl
      | false =>
          rw [opcodesRead_of_open framer (source ++ more) (by rw [same]; exact later), opcode,
            opcodesRead_of_open _ _ later]
          rfl

theorem cipher_drain (framer : Framer) (source : Bytes) :
    (framer.drain source).2.1.cipher =
      framer.cipher.map (·.skipIncoming (framer.opcodesRead source).length) := by
  fun_induction opcodesRead framer source with
  | case1 framer source settled ih =>
      rw [drain_of_settled framer source settled]
      dsimp only
      rw [ih, decode, Cut.message, cipher_takeFrame, Option.map_map, List.length_append]
      simp only [Function.comp_def, KeystreamPair.skipIncoming_add]
  | case2 framer source unsettled =>
      rw [Bool.not_eq_true] at unsettled
      rw [drain_of_open framer source unsettled]
      exact cipher_takeFrame framer source

/-- A framer in the middle of a frame has read one opcode that has yielded nothing yet. -/
def opcodesHeld (framer : Framer) : Nat := if framer.isIdle then 0 else 1

theorem opcodesHeld_takeFrame (framer : Framer) (source : Bytes) :
    framer.opcodesHeld + (framer.opcodeRead source).length =
      (if (framer.takeFrame source).settled then 1 else 0) +
        (framer.takeFrame source).framer.opcodesHeld := by
  rcases framer.restful_or_busy source with ⟨idle, empty⟩ | busy
  · rw [empty, takeFrame_nil framer idle]
    simp [opcodesHeld, opcodeRead, idle, Cut.settled]
  · have one : framer.opcodesHeld + (framer.opcodeRead source).length = 1 := by
      unfold opcodesHeld opcodeRead
      rcases busy with mid | full
      · simp [mid]
      · cases source with
        | nil => exact absurd rfl full
        | cons byte rest => cases framer.isIdle <;> rfl
    rw [one, opcodesHeld, isIdle_takeFrame framer source busy]
    cases (framer.takeFrame source).settled <;> rfl

/-- Every result and every frame in progress has its own opcode. -/
theorem length_opcodesRead (framer : Framer) (source : Bytes) :
    framer.opcodesHeld + (framer.opcodesRead source).length =
      (framer.drain source).1.length + (framer.drain source).2.1.opcodesHeld := by
  fun_induction opcodesRead framer source with
  | case1 framer source settled ih =>
      have held := opcodesHeld_takeFrame framer source
      have one := Cut.length_results _ settled
      rw [← Cut.settled_message, ← decode, settled, if_pos rfl] at held
      rw [drain_of_settled framer source settled]
      simp only [List.length_append, one]
      have kept : (framer.takeFrame source).framer = (framer.decode source).framer := rfl
      rw [kept] at held
      omega
  | case2 framer source unsettled =>
      rw [Bool.not_eq_true] at unsettled
      have held := opcodesHeld_takeFrame framer source
      rw [← Cut.settled_message, ← decode, unsettled] at held
      rw [drain_of_open framer source unsettled]
      simp only [Bool.false_eq_true, if_false] at held
      exact held

theorem opcodesRead_drain (framer : Framer) (source : Bytes) :
    (framer.drain source).2.1.opcodesRead (framer.drain source).2.2 = [] := by
  have twice := opcodesRead_append framer source []
  simp only [List.append_nil] at twice
  exact List.self_eq_append_right.mp twice

/-- The opcodes of the pieces are the opcodes of the whole. -/
theorem opcodesOfPieces_flatten (framer : Framer) (source : Bytes) (pieces : List Bytes)
    (unread : framer.opcodesRead source = []) (drained : framer.drain source = ([], framer, source)) :
    framer.opcodesOfPieces source pieces = framer.opcodesRead (source ++ pieces.flatten) := by
  induction pieces generalizing framer source with
  | nil => rw [List.flatten_nil, List.append_nil, unread, opcodesOfPieces]
  | cons piece rest ih =>
      rw [List.flatten_cons, ← List.append_assoc, opcodesRead_append, opcodesOfPieces]
      dsimp only
      rw [ih _ _ (opcodesRead_drain framer (source ++ piece)) (drain_drain framer (source ++ piece))]

/-- However the bytes are cut into pieces, the same messages and errors come in the same order, and
the same bytes, the same frame in progress and the same keystreams are left. Every opcode that is
read moves the incoming keystream by one word, and nothing else moves it. -/
theorem drainPieces_eq_of_flatten_eq (framer : Framer) (first second : List Bytes)
    (idle : framer.isIdle = true) (same : first.flatten = second.flatten) :
    let drained := framer.drainPieces [] first
    let opcodes := framer.opcodesOfPieces [] first
    framer.drainPieces [] second = drained ∧
      framer.opcodesOfPieces [] second = opcodes ∧
      drained.2.1.cipher = framer.cipher.map (·.skipIncoming opcodes.length) ∧
      opcodes.length = drained.1.length + drained.2.1.opcodesHeld := by
  have still : framer.decode [] = ⟨.ok none, framer, 0, []⟩ := by
    rw [decode, takeFrame_nil framer idle]
    rfl
  have pending : (framer.decode []).settled = false := by
    rw [still]
    rfl
  have drained : framer.drain [] = ([], framer, []) := by
    rw [drain_of_open framer [] pending, still]
  have unread : framer.opcodesRead [] = [] := by
    rw [opcodesRead_of_open framer [] pending, opcodeRead, List.take_nil, ite_self]
  have whole (pieces : List Bytes) := drainPieces_flatten framer [] pieces drained
  have opcodes (pieces : List Bytes) := opcodesOfPieces_flatten framer [] pieces unread drained
  have counted := length_opcodesRead framer first.flatten
  simp only [List.nil_append] at whole opcodes
  dsimp only
  rw [whole first, whole second, opcodes first, opcodes second, ← same]
  refine ⟨rfl, rfl, cipher_drain framer first.flatten, ?_⟩
  rw [← counted, opcodesHeld, if_pos idle, Nat.zero_add]

/-- A frame whose length field is cut in two, and one that fails, against the same bytes at once. -/
theorem drainPieces_of_split_field :
    let framer := ciphered .login 512 (.server #v[1, 2, 3, 4])
    let pieces : List Bytes := [[16, 0], [2, 255], [1, 14, 7], [99]]
    let whole : List Bytes := [[16, 0, 2, 255, 1, 14, 7, 99]]
    framer.isIdle = true ∧ pieces.flatten = whole.flatten ∧
      framer.drainPieces [] whole = framer.drainPieces [] pieces :=
  ⟨rfl, rfl, (drainPieces_eq_of_flatten_eq (ciphered .login 512 (.server #v[1, 2, 3, 4]))
    [[16, 0], [2, 255], [1, 14, 7], [99]] [[16, 0, 2, 255, 1, 14, 7, 99]] rfl rfl).1⟩

end GameServer.Framer
