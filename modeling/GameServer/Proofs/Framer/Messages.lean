import GameServer.Proofs.Framer.Streams
import GameServer.Proofs.Session.Writing

/- This file decodes all messages in a byte string. -/

namespace GameServer.Framer

/-- The messages in front of the first error. -/
def messages (framer : Framer) (source : Bytes) : List Message :=
  (framer.decodeUntilError source).1.filterMap Except.toOption

theorem messages_eq (framer : Framer) (source : Bytes) :
    framer.messages source =
      match (framer.decode source).outcome with
      | .ok (some message) =>
          message :: (framer.decode source).framer.messages (framer.decode source).rest
      | _ => [] := by
  rw [messages, decodeUntilError]
  split
  · next pending =>
      rw [pending]
      rfl
  · next error failed =>
      rw [failed]
      rfl
  · next message found =>
      rw [found]
      rfl

variable {framer next : Framer} {source left : Bytes}

theorem messages_of_open (unsettled : (framer.decode source).settled = false) :
    framer.messages source = [] := by
  rw [messages_eq, Cut.outcome_of_open _ unsettled]

theorem LeadsTo.messages (leads : framer.LeadsTo source next left) (more : Bytes) :
    framer.messages (source ++ more) = next.messages (left ++ more) := by
  obtain ⟨taken, same⟩ := leads
  rw [messages_eq framer, messages_eq next, same more]
  rfl

theorem Decodes.messages_ok {message : Message}
    (decodes : framer.Decodes source (.ok message) next left) (more : Bytes) :
    framer.messages (source ++ more) = message :: next.messages (left ++ more) := by
  obtain ⟨taken, same⟩ := decodes
  rw [messages_eq framer, same more]

theorem Decodes.messages_error {error : ProtocolError}
    (decodes : framer.Decodes source (.error error) next left) (more : Bytes) :
    framer.messages (source ++ more) = [] := by
  obtain ⟨taken, same⟩ := decodes
  rw [messages_eq framer, same more]

theorem messages_withOutgoing (framer : Framer) (stream : Isaac) (source : Bytes) :
    (framer.withOutgoing stream).messages source = framer.messages source := by
  rw [messages_eq (framer.withOutgoing stream), messages_eq framer, decode_withOutgoing]
  have less := decode_work_lt framer source
  simp only [Cut.withOutgoing]
  split
  · next message found =>
      have fewer := less (Cut.settled_of_some _ message found)
      exact congrArg (message :: ·) (messages_withOutgoing _ stream _)
  · rfl
termination_by framer.work source
decreasing_by exact fewer

/-- Two framers write alike if they have one table and one outgoing stream. -/
structure WritesLike (left right : Framer) : Prop where
  table : left.table = right.table
  outgoing : left.cipher.map (·.outgoing) = right.cipher.map (·.outgoing)

theorem WritesLike.refl (framer : Framer) : WritesLike framer framer := ⟨rfl, rfl⟩

theorem WritesLike.trans {first second third : Framer} (one : WritesLike first second)
    (two : WritesLike second third) : WritesLike first third :=
  ⟨one.table.trans two.table, one.outgoing.trans two.outgoing⟩

theorem WritesLike.symm {left right : Framer} (like : WritesLike left right) :
    WritesLike right left :=
  ⟨like.table.symm, like.outgoing.symm⟩

/-- A read does not change what is written. -/
theorem writesLike_decode (framer : Framer) (source : Bytes) :
    WritesLike framer (framer.decode source).framer := by
  refine ⟨(takeFrame_rules framer source).1.symm, ?_⟩
  have moved := cipher_takeFrame framer source
  rw [decode]
  simp only [Cut.message, moved, Option.map_map]
  cases framer.cipher <;> rfl

theorem LeadsTo.writesLike (leads : framer.LeadsTo source next left) : WritesLike framer next := by
  obtain ⟨taken, same⟩ := leads
  have final := congrArg Cut.framer (same [])
  rw [List.append_nil, List.append_nil] at final
  have first := writesLike_decode framer source
  rw [final] at first
  exact first.trans (writesLike_decode next left).symm

theorem Decodes.writesLike {outcome : Except ProtocolError (Option Message)}
    (decodes : framer.Decodes source outcome next left) : WritesLike framer next := by
  obtain ⟨taken, same⟩ := decodes
  have final := congrArg Cut.framer (same [])
  rw [List.append_nil] at final
  have first := writesLike_decode framer source
  rw [final] at first
  exact first

theorem WritesLike.hide {left right : Framer} (like : WritesLike left right) (opcode : UInt8) :
    (left.hide opcode).1 = (right.hide opcode).1 ∧
      WritesLike (left.hide opcode).2 (right.hide opcode).2 := by
  obtain ⟨table, outgoing⟩ := like
  unfold Framer.hide
  cases mine : left.cipher with
  | none =>
      cases other : right.cipher with
      | none => exact ⟨rfl, table, by rw [mine, other]⟩
      | some pair => simp [mine, other] at outgoing
  | some pair =>
      cases other : right.cipher with
      | none => simp [mine, other] at outgoing
      | some twin =>
          simp only [mine, other, Option.map_some, Option.some.injEq] at outgoing
          simp only [KeystreamPair.hide, outgoing]
          exact ⟨trivial, table, rfl⟩

/-- Both attempts fail with one error, or both write the same bytes. -/
def SameWriting (left right : EStateM.Result ProtocolError (Framer × Bytes) Unit) : Prop :=
  (∃ error before after, left = .error error before ∧ right = .error error after) ∨
    ∃ before after bytes, left = .ok () (before, bytes) ∧ right = .ok () (after, bytes) ∧
      WritesLike before after

theorem WritesLike.putFrame {left right : Framer} (like : WritesLike left right) (opcode : UInt8)
    (rule : LengthRule) (payload written : Bytes) :
    SameWriting (putFrame opcode rule payload (left, written))
      (putFrame opcode rule payload (right, written)) := by
  simp only [Framer.putFrame]
  split
  · exact .inl ⟨_, _, _, rfl, rfl⟩
  · obtain ⟨byte, after⟩ := like.hide opcode
    rw [byte]
    exact .inr ⟨_, _, _, rfl, rfl, after⟩

theorem WritesLike.encode {left right : Framer} (like : WritesLike left right) (message : Message) :
    SameWriting (encode message (left, [])) (encode message (right, [])) := by
  simp only [Framer.encode, like.table]
  split
  · exact .inl ⟨_, _, _, rfl, rfl⟩
  · split
    · exact .inl ⟨_, _, _, rfl, rfl⟩
    · split
      · exact .inr ⟨_, _, _, rfl, rfl, like⟩
      · exact like.putFrame _ _ _ _

/-- Framers that write alike refuse alike, or they write the same bytes and go on alike. -/
theorem WritesLike.encodeAll {left right : Framer} (like : WritesLike left right)
    (messages : List Message) :
    (∃ error, left.encodeAll messages = .error error ∧ right.encodeAll messages = .error error) ∨
      ∃ before after bytes, left.encodeAll messages = .ok (before, bytes) ∧
        right.encodeAll messages = .ok (after, bytes) ∧ WritesLike before after := by
  induction messages generalizing left right with
  | nil => exact .inr ⟨left, right, [], rfl, rfl, like⟩
  | cons message rest ih =>
      simp only [Framer.encodeAll]
      rcases like.encode message with ⟨error, _, _, mine, other⟩ |
        ⟨before, after, bytes, mine, other, next⟩
      · rw [mine, other]
        exact .inl ⟨error, rfl, rfl⟩
      · rw [mine, other]
        dsimp only
        rcases ih next with ⟨error, first, second⟩ | ⟨one, two, more, first, second, last⟩
        · rw [first, second]
          exact .inl ⟨error, rfl, rfl⟩
        · rw [first, second]
          exact .inr ⟨one, two, _, rfl, rfl, last⟩

theorem messages_hide (framer : Framer) (opcode : UInt8) (source : Bytes) :
    (framer.hide opcode).2.messages source = framer.messages source := by
  cases ciphered : framer.cipher with
  | none => simp only [hide, ciphered]
  | some pair =>
      rw [hide_ciphered framer pair opcode ciphered]
      exact messages_withOutgoing framer _ source

/-- Writing does not change what is decoded. -/
theorem messages_encode (message : Message) (framer next : Framer) (bytes source : Bytes)
    (accepted : encode message (framer, []) = .ok () (next, bytes)) :
    next.messages source = framer.messages source := by
  obtain ⟨binding, payload, _, _, framing⟩ := encode_ok message _ _ accepted
  split at framing
  · cases framing
    rfl
  · obtain ⟨_, final⟩ := putFrame_ok _ _ _ _ _ framing
    cases final
    exact messages_hide framer _ source

theorem messages_encodeAll (messages : List Message) (framer next : Framer) (bytes source : Bytes)
    (accepted : framer.encodeAll messages = .ok (next, bytes)) :
    next.messages source = framer.messages source := by
  induction messages generalizing framer bytes with
  | nil =>
      cases accepted
      rfl
  | cons message rest ih =>
      obtain ⟨middle, front, more, encoded, others, rfl⟩ := encodeAll_cons_ok accepted
      rw [ih middle more others]
      exact messages_encode message framer middle front source encoded

theorem encodeAll_append {framer next : Framer} {front bytes : Bytes} {messages : List Message}
    (accepted : framer.encodeAll messages = .ok (next, front)) (more : List Message)
    {last : Framer} (others : next.encodeAll more = .ok (last, bytes)) :
    framer.encodeAll (messages ++ more) = .ok (last, front ++ bytes) := by
  induction messages generalizing framer front with
  | nil =>
      cases accepted
      exact others
  | cons message rest ih =>
      obtain ⟨middle, first, later, encoded, done, rfl⟩ := encodeAll_cons_ok accepted
      rw [List.cons_append, encodeAll, encoded]
      dsimp only
      rw [ih done, List.append_assoc]

/-- The framer can write the message. -/
def Encodes (framer : Framer) (message : Message) : Prop :=
  ∃ after, encode message (framer, []) = .ok () after

theorem hide_table (framer : Framer) (opcode : UInt8) :
    (framer.hide opcode).2.table = framer.table := by
  unfold hide
  split <;> rfl

theorem encode_table {message : Message} {framer next : Framer} {bytes : Bytes}
    (accepted : encode message (framer, []) = .ok () (next, bytes)) : next.table = framer.table := by
  obtain ⟨binding, payload, _, _, framing⟩ := encode_ok message _ _ accepted
  split at framing
  · cases framing
    rfl
  · obtain ⟨_, final⟩ := putFrame_ok _ _ _ _ _ framing
    cases final
    exact hide_table framer _

/-- Whether a message can be written is a matter of the table. -/
theorem Encodes.of_table {framer other : Framer} {message : Message}
    (encodes : framer.Encodes message) (same : other.table = framer.table) :
    other.Encodes message := by
  obtain ⟨after, accepted⟩ := encodes
  obtain ⟨binding, payload, bound, written, framing⟩ := encode_ok message _ _ accepted
  dsimp only at bound
  rw [← same] at bound
  simp only [Encodes, encode, Bindings.lookupKind, bound, written]
  cases shape : binding.framing with
  | headless => exact ⟨_, rfl⟩
  | framed opcode rule =>
      simp only [shape] at framing
      obtain ⟨obeyed, _⟩ := putFrame_ok _ _ _ _ _ framing
      simp only [putFrame, obeyed]
      exact ⟨_, rfl⟩

theorem encodeAll_of_encodes (framer : Framer) (messages : List Message)
    (encodes : ∀ message ∈ messages, framer.Encodes message) :
    ∃ next bytes, framer.encodeAll messages = .ok (next, bytes) ∧ next.table = framer.table := by
  induction messages generalizing framer with
  | nil => exact ⟨framer, [], rfl, rfl⟩
  | cons message rest ih =>
      obtain ⟨⟨middle, front⟩, encoded⟩ := encodes message List.mem_cons_self
      have table := encode_table encoded
      obtain ⟨next, bytes, others, same⟩ := ih middle fun later member =>
        (encodes later (List.mem_cons_of_mem _ member)).of_table table
      refine ⟨next, front ++ bytes, ?_, same.trans table⟩
      simp only [encodeAll, encoded, others]

end GameServer.Framer
