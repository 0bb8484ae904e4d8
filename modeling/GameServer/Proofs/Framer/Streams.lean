import GameServer.Proofs.Framer.Chunking

/- This file shows that reading and writing use streams of their own. -/

namespace GameServer

namespace Framer

/-- The same framer with another outgoing stream. -/
def withOutgoing (framer : Framer) (stream : Isaac) : Framer :=
  { framer with cipher := framer.cipher.map fun pair => { pair with outgoing := stream } }

/-- The same cut with another outgoing stream. -/
def Cut.withOutgoing {α : Type} (cut : Cut α) (stream : Isaac) : Cut α :=
  { cut with framer := cut.framer.withOutgoing stream }

theorem reveal_withOutgoing (framer : Framer) (stream : Isaac) (byte : UInt8) :
    (framer.withOutgoing stream).reveal byte =
      ((framer.reveal byte).1, (framer.reveal byte).2.withOutgoing stream) := by
  obtain ⟨table, cipher, progress, limit⟩ := framer
  cases cipher with
  | none => rfl
  | some pair => rfl

theorem fill_withOutgoing (framer : Framer) (stream : Isaac) (binding : Inbound) (length : Nat)
    (source : Bytes) :
    (framer.withOutgoing stream).fill binding length source =
      (framer.fill binding length source).withOutgoing stream := by
  unfold fill
  split <;> rfl

theorem measure_withOutgoing (framer : Framer) (stream : Isaac) (binding : Inbound)
    (field : LengthField) (source : Bytes) :
    (framer.withOutgoing stream).measure binding field source =
      (framer.measure binding field source).withOutgoing stream := by
  unfold measure
  split
  · rfl
  · next length rest found =>
      have limit : (framer.withOutgoing stream).limit = framer.limit := rfl
      rw [limit]
      by_cases tooLong : framer.limit < length
      · rw [if_pos tooLong, if_pos tooLong]
        rfl
      · rw [if_neg tooLong, if_neg tooLong, fill_withOutgoing]
        rfl

theorem start_withOutgoing (framer : Framer) (stream : Isaac) (source : Bytes) :
    (framer.withOutgoing stream).start source = (framer.start source).withOutgoing stream := by
  cases source with
  | nil => rfl
  | cons byte rest =>
      have table : ((framer.reveal byte).2.withOutgoing stream).table =
          (framer.reveal byte).2.table := rfl
      simp only [start, reveal_withOutgoing, table]
      split
      · rfl
      · split
        · rw [fill_withOutgoing]
          rfl
        · rw [measure_withOutgoing]
          rfl

/-- A read does not depend on the outgoing stream. -/
theorem takeFrame_withOutgoing (framer : Framer) (stream : Isaac) (source : Bytes) :
    (framer.withOutgoing stream).takeFrame source =
      (framer.takeFrame source).withOutgoing stream := by
  cases parked : framer.progress with
  | idle =>
      simp only [takeFrame, withOutgoing, parked]
      rw [← parked]
      exact start_withOutgoing framer stream source
  | measuring binding field =>
      simp only [takeFrame, withOutgoing, parked]
      rw [← parked]
      exact measure_withOutgoing framer stream binding field source
  | filling binding length =>
      simp only [takeFrame, withOutgoing, parked]
      rw [← parked]
      exact fill_withOutgoing framer stream binding length source

theorem decode_withOutgoing (framer : Framer) (stream : Isaac) (source : Bytes) :
    (framer.withOutgoing stream).decode source = (framer.decode source).withOutgoing stream := by
  rw [decode, takeFrame_withOutgoing]
  rfl

/-- What no read changes: the table and the limit. -/
def SameRules (left right : Framer) : Prop := left.table = right.table ∧ left.limit = right.limit

theorem SameRules.trans {first second third : Framer} (one : SameRules first second)
    (two : SameRules second third) : SameRules first third :=
  ⟨one.1.trans two.1, one.2.trans two.2⟩

theorem reveal_rules (framer : Framer) (byte : UInt8) : SameRules (framer.reveal byte).2 framer := by
  unfold reveal
  split <;> exact ⟨rfl, rfl⟩

theorem fill_rules (framer : Framer) (binding : Inbound) (length : Nat) (source : Bytes) :
    SameRules (framer.fill binding length source).framer framer := by
  unfold fill
  split <;> exact ⟨rfl, rfl⟩

theorem measure_rules (framer : Framer) (binding : Inbound) (field : LengthField)
    (source : Bytes) : SameRules (framer.measure binding field source).framer framer := by
  unfold measure
  split
  · exact ⟨rfl, rfl⟩
  · split
    · exact ⟨rfl, rfl⟩
    · exact fill_rules framer binding _ _

theorem takeFrame_rules (framer : Framer) (source : Bytes) :
    SameRules (framer.takeFrame source).framer framer := by
  unfold takeFrame
  split
  · cases source with
    | nil => exact ⟨rfl, rfl⟩
    | cons byte rest =>
        have revealed := reveal_rules framer byte
        simp only [start]
        split
        · exact revealed
        · split
          · exact (fill_rules _ _ _ _).trans revealed
          · exact (measure_rules _ _ _ _).trans revealed
  · exact measure_rules framer _ _ source
  · exact fill_rules framer _ _ source

theorem hide_ciphered (framer : Framer) (pair : KeystreamPair) (opcode : UInt8)
    (ciphered : framer.cipher = some pair) :
    framer.hide opcode =
      (opcode + pair.outgoing.nextByte.1, framer.withOutgoing pair.outgoing.nextByte.2) := by
  simp only [hide, withOutgoing, ciphered]
  rfl

/-- What the sender has hidden is revealed if both streams are at the same place. -/
theorem reveal_hidden (framer : Framer) (pair : KeystreamPair) (opcode : UInt8)
    (ciphered : framer.cipher = some pair) :
    framer.reveal (opcode + pair.incoming.nextByte.1) =
      (opcode, { framer with cipher := some (pair.skipIncoming 1) }) := by
  have shown : (pair.reveal (opcode + pair.incoming.nextByte.1)).1 = opcode :=
    UInt8.add_sub_cancel _ _
  simp only [reveal, ciphered]
  rw [← KeystreamPair.reveal_rest pair (opcode + pair.incoming.nextByte.1)]
  exact Prod.ext shown rfl

/-- A frame is written exactly if its length obeys the rule. -/
theorem putFrame_ok (opcode : UInt8) (rule : LengthRule) (payload : Bytes)
    (before after : Framer × Bytes) (accepted : putFrame opcode rule payload before = .ok () after) :
    rule.check opcode payload.length = .ok () ∧
      after = ((before.1.hide opcode).2,
        before.2 ++ (before.1.hide opcode).1 :: rule.header payload.length ++ payload) := by
  simp only [putFrame] at accepted
  split at accepted
  · cases accepted
  · next obeyed =>
      cases accepted
      exact ⟨obeyed, rfl⟩

theorem encodeFrame_ok (frame : Frame) (before after : Framer × Bytes)
    (accepted : encodeFrame frame before = .ok () after) :
    ∃ binding, before.1.table.find? frame.opcode = some binding ∧
      putFrame frame.opcode binding.rule frame.payload before = .ok () after := by
  simp only [encodeFrame, Bindings.lookup] at accepted
  cases found : before.1.table.find? frame.opcode with
  | none => simp [found] at accepted
  | some binding =>
      rw [found] at accepted
      exact ⟨binding, rfl, accepted⟩

theorem encodeFrame_error (frame : Frame) (before after : Framer × Bytes) (error : ProtocolError)
    (refused : encodeFrame frame before = .error error after) : after = before := by
  simp only [encodeFrame] at refused
  split at refused
  · cases refused
    rfl
  · exact putFrame_error _ _ _ _ _ _ refused

/-- A message that is written has a binding whose codec writes the payload. -/
theorem encode_ok (message : Message) (before after : Framer × Bytes)
    (accepted : encode message before = .ok () after) :
    ∃ binding payload, before.1.table.findKind? message.kind = some binding ∧
      (binding.codec.encode message).run [] = .ok () payload ∧
      match binding.framing with
      | .headless => after = (before.1, before.2 ++ payload)
      | .framed opcode rule => putFrame opcode rule payload before = .ok () after := by
  simp only [encode, Bindings.lookupKind] at accepted
  cases found : before.1.table.findKind? message.kind with
  | none => simp [found] at accepted
  | some binding =>
      simp only [found] at accepted
      cases written : (binding.codec.encode message).run [] with
      | error error rest => simp [written] at accepted
      | ok value payload =>
          simp only [written] at accepted
          refine ⟨binding, payload, rfl, written, ?_⟩
          split
          · next bare =>
              simp only [bare, EStateM.Result.ok.injEq, true_and] at accepted
              exact accepted.symm
          · next opcode rule framed =>
              simp only [framed] at accepted
              exact accepted

theorem fill_payload (framer : Framer) (binding : Inbound) (payload more : Bytes) :
    framer.fill binding payload.length (payload ++ more) =
      ⟨.ok (some (binding, ⟨binding.opcode, payload⟩)), { framer with progress := .idle },
        payload.length, more⟩ := by
  rw [fill, Bytes.split?_of_le _ _ (by rw [List.length_append]; omega), List.take_left,
    List.drop_left]

theorem measure_payload (framer : Framer) (binding : Inbound) (field : LengthField)
    (payload more : Bytes) (declared : payload.length ≤ field.capacity)
    (small : payload.length ≤ framer.limit) :
    framer.measure binding field (field.write payload.length ++ (payload ++ more)) =
      ⟨.ok (some (binding, ⟨binding.opcode, payload⟩)), { framer with progress := .idle },
        field.size + payload.length, more⟩ := by
  rw [measure, LengthField.read?_write field payload.length (payload ++ more) declared]
  dsimp only
  rw [if_neg (by omega), fill_payload]
  rfl

/-- A frame under the rule of its opcode is read whole, whatever stands behind it. -/
theorem takeFrame_frame (framer revealed : Framer) (byte opcode : UInt8) (binding : Inbound)
    (payload more : Bytes) (idle : framer.progress = .idle)
    (shown : framer.reveal byte = (opcode, revealed))
    (found : framer.table.find? opcode = some binding)
    (obeyed : binding.rule.check opcode payload.length = .ok ())
    (small : payload.length ≤ framer.limit) :
    framer.takeFrame (byte :: binding.rule.header payload.length ++ payload ++ more) =
      ⟨.ok (some (binding, ⟨opcode, payload⟩)), { revealed with progress := .idle },
        1 + ((binding.rule.header payload.length).length + payload.length), more⟩ := by
  have rules := reveal_rules framer byte
  rw [shown] at rules
  have named := Table.opcode_of_find? framer.table opcode binding found
  rw [← rules.1] at found
  rw [← rules.2] at small
  have looked : revealed.table.lookup opcode = .ok binding := by rw [Bindings.lookup, found]
  simp only [takeFrame, idle, List.cons_append, start, shown, looked]
  unfold LengthRule.check at obeyed
  split
  · next length fixed =>
      simp only [fixed] at obeyed
      split at obeyed
      · next same =>
          subst same
          simp only [fixed, LengthRule.header, List.nil_append, fill_payload, named]
          simp [Cut.behind]
      · cases obeyed
  · next field declared =>
      simp only [declared] at obeyed
      split at obeyed
      · cases obeyed
      · next short =>
          simp only [declared, LengthRule.header, List.append_assoc]
          rw [measure_payload revealed binding field payload more (by omega) small, named,
            LengthField.length_write]
          rfl

end Framer

end GameServer
