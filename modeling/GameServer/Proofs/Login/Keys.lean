import GameServer.Login.Policy
import GameServer.Proofs.Login.Opening
import GameServer.Proofs.Payload.Grammar
import GameServer.Session.Error

/- This file leads from a login payload to the session keys, or to the first rule that it breaks. -/

namespace GameServer

theorem Bytes.exists_word32 (bytes : Bytes) (four : bytes.length = 4) :
    ∃ word, ofUInt32 word = bytes := by
  match bytes, four with
  | [first, second, third, fourth], _ => exact ⟨_, quarters_toUInt32 first second third fourth⟩

/-- Bytes are words if their number is a multiple of four. -/
theorem Bytes.exists_words32 (count : Nat) (bytes : Bytes) (size : bytes.length = 4 * count) :
    ∃ words : List UInt32, words.length = count ∧ words.flatMap ofUInt32 = bytes := by
  induction count generalizing bytes with
  | zero => exact ⟨[], rfl, (List.length_eq_zero_iff.mp size).symm⟩
  | succ count ih =>
      obtain ⟨word, front⟩ := exists_word32 (bytes.take 4) (by rw [List.length_take]; omega)
      obtain ⟨words, same, back⟩ := ih (bytes.drop 4) (by rw [List.length_drop]; omega)
      refine ⟨word :: words, congrArg (· + 1) same, ?_⟩
      rw [List.flatMap_cons, front, back, List.take_append_drop]

theorem Bytes.length_words32 (words : List UInt32) :
    (words.flatMap ofUInt32).length = 4 * words.length := by
  induction words with
  | nil => rfl
  | cons word words ih =>
      rw [List.flatMap_cons, List.length_append, ih, List.length_cons, ofUInt32]
      simp only [List.length_cons, List.length_nil]
      omega

/-- What stands in a login payload, in this order. -/
structure LoginParts where
  magic : UInt8
  clientVersion : UInt16
  detail : UInt8
  checksums : Vector UInt8 36
  /-- The length byte. -/
  declared : UInt8
  operation : UInt8
  keys : SessionKeys
  userId : Vector UInt8 4
  username : String
  password : String

namespace LoginParts

/-- The bytes behind the length byte. Each text has a line feed behind it. -/
def behind (parts : LoginParts) : Bytes :=
  parts.operation :: parts.keys.toList.flatMap Bytes.ofUInt32 ++ parts.userId.toList ++
    (Bytes.ofText parts.username ++ [10]) ++ (Bytes.ofText parts.password ++ [10])

/-- The whole payload. Words stand with their highest byte first. -/
def bytes (parts : LoginParts) : Bytes :=
  parts.magic :: Bytes.ofUInt16 parts.clientVersion ++ parts.detail :: parts.checksums.toList ++
    parts.declared :: parts.behind

/-- The length byte counts the bytes behind it, and each text is one line. -/
structure WellFormed (parts : LoginParts) : Prop where
  counted : parts.declared.toNat = parts.behind.length
  username : 10 ∉ Bytes.ofText parts.username
  password : 10 ∉ Bytes.ofText parts.password

/-- The block has these parts, as far as a policy looks at them. -/
structure Describe (parts : LoginParts) (block : LoginBlock) : Prop where
  magic : block.magic = parts.magic
  clientVersion : block.clientVersion = parts.clientVersion
  detail : block.detail = parts.detail
  operation : block.operation = parts.operation
  keys : block.sessionKeys = parts.keys.toList

/-- A payload of this layout is decoded. -/
theorem decode_bytes (parts : LoginParts) (formed : parts.WellFormed) (opcode : UInt8) :
    ∃ block, PayloadCodec.login.decode opcode parts.bytes = .ok (.login block) ∧
      parts.Describe block := by
  obtain ⟨checksums, nine, archives⟩ :=
    Bytes.exists_words32 9 parts.checksums.toList parts.checksums.length_toList
  obtain ⟨userId, user⟩ := Bytes.exists_word32 parts.userId.toList parts.userId.length_toList
  let block : LoginBlock :=
    { reconnecting := opcode == reconnectOpcode
      magic := parts.magic
      clientVersion := parts.clientVersion
      detail := parts.detail
      archiveChecksums := ⟨checksums.toArray, nine⟩
      operation := parts.operation
      sessionKeys := parts.keys.toList
      userId
      username := parts.username
      password := parts.password }
  have tail : block.tail = parts.behind := by
    rw [behind, ← user]
    rfl
  have whole : (Message.login block).payload = parts.bytes := by
    rw [Message.payload, tail, ← formed.counted, UInt8.ofNat_toNat, bytes, ← archives]
    simp only [PayloadCodec.loginHeader, List.append_assoc, List.cons_append, List.nil_append]
    rfl
  refine ⟨block, ?_, ⟨rfl, rfl, rfl, rfl, rfl⟩⟩
  rw [← whole]
  refine Reader.message_eq .login (PayloadCodec.readLogin_payload opcode block ?_ ?_)
  · exact ⟨parts.keys.length_toList, beq_iff_eq⟩
  · intro unwritable
    cases unwritable with
    | lineFeed text member found =>
        simp only [Message.texts, List.mem_cons, List.not_mem_nil, or_false] at member
        rcases member with rfl | rfl
        · exact formed.username found
        · exact formed.password found
    | blockTooLong other same long =>
        cases same
        rw [tail, ← formed.counted] at long
        exact absurd parts.declared.toNat_lt (by omega)

/-- A payload that was decoded has the layout. -/
theorem of_decode {opcode : UInt8} {payload : Bytes} {message : Message}
    (decoded : PayloadCodec.login.decode opcode payload = .ok message) :
    ∃ block parts, message = .login block ∧ payload = bytes parts ∧ parts.WellFormed ∧
      parts.Describe block := by
  obtain ⟨block, declared, rfl, ⟨four, _⟩, free, whole, counted⟩ :=
    PayloadCodec.readLogin_ok (Reader.read_of_message decoded)
  let parts : LoginParts :=
    { magic := block.magic
      clientVersion := block.clientVersion
      detail := block.detail
      checksums := ⟨(block.archiveChecksums.toList.flatMap Bytes.ofUInt32).toArray, by
        rw [List.size_toArray, Bytes.length_words32, Vector.length_toList]⟩
      declared
      operation := block.operation
      keys := ⟨block.sessionKeys.toArray, four⟩
      userId := ⟨(Bytes.ofUInt32 block.userId).toArray, rfl⟩
      username := block.username
      password := block.password }
  have tail : parts.behind = block.tail := rfl
  refine ⟨block, parts, rfl, ?_, ⟨counted, ?_, ?_⟩, ⟨rfl, rfl, rfl, rfl, rfl⟩⟩
  · rw [bytes, tail, whole]
    simp only [PayloadCodec.loginHeader, List.append_assoc, List.cons_append, List.nil_append]
    rfl
  · exact free _ List.mem_cons_self
  · exact free _ (List.mem_cons_of_mem _ List.mem_cons_self)

end LoginParts

namespace LoginPolicy

/-- A payload is decoded and its block is validated. -/
def judge (policy : LoginPolicy) (opcode : UInt8) (payload : Bytes) (serverKey : UInt64) :
    Except SessionError SessionKeys :=
  match PayloadCodec.login.decode opcode payload with
  | .error error => .error (.protocol error)
  | .ok (.login block) => (policy.validate block serverKey).mapError .rejected
  | .ok other => .error (.protocol (.unexpected other.kind .awaitingLogin))

/-- The rules for a login payload in their order, each with the value of the code that tells the client
that it is broken. -/
def rules (policy : LoginPolicy) (serverKey : UInt64) (parts : LoginParts) : List (Bool × UInt8) :=
  [(parts.magic == 255, 11),
    (parts.clientVersion == policy.clientVersion, 6),
    (parts.detail ≤ 1, 11),
    (parts.operation == 10, 11),
    (!policy.verifyServerKey ||
      parts.keys[2].toNat * 2 ^ 32 + parts.keys[3].toNat == serverKey.toNat, 10)]

/-- The code of the first rule that is broken. -/
def firstBroken (rules : List (Bool × UInt8)) : Option ResponseCode :=
  (rules.find? fun rule => !rule.1).map fun rule => .ofValue rule.2

theorem firstBroken_cons (holds : Bool) (code : UInt8) (rest : List (Bool × UInt8)) :
    firstBroken ((holds, code) :: rest) =
      if holds = true then firstBroken rest else some (.ofValue code) := by
  cases holds <;> rfl

variable (policy : LoginPolicy) (serverKey : UInt64)

/-- The last two keys repeat the server key if they are its halves. -/
theorem echoedKey_eq_iff (keys : SessionKeys) :
    echoedKey keys = serverKey ↔ keys[2].toNat * 2 ^ 32 + keys[3].toNat = serverKey.toNat := by
  rw [← UInt64.toNat_inj, echoedKey, Bytes.toNat_toUInt64]
  rfl

/-- A block is validated by the rules for its parts. -/
theorem validate_of_describe {parts : LoginParts} {block : LoginBlock}
    (describe : parts.Describe block) :
    policy.validate block serverKey =
      match firstBroken (policy.rules serverKey parts) with
      | some code => .error code
      | none => .ok parts.keys := by
  have four : keys? block.sessionKeys = some parts.keys :=
    (keys?_eq_some_iff _ _).mpr describe.keys
  have echo : (!policy.verifyServerKey ||
      parts.keys[2].toNat * 2 ^ 32 + parts.keys[3].toNat == serverKey.toNat) =
        !(policy.verifyServerKey && echoedKey parts.keys != serverKey) := by
    rw [Bool.not_and, bne, Bool.not_not, Bool.eq_iff_iff, Bool.or_eq_true, Bool.or_eq_true,
      beq_iff_eq, beq_iff_eq, echoedKey_eq_iff]
  rw [validate, four, describe.magic, describe.clientVersion, describe.detail, describe.operation]
  simp only [rules, echo, firstBroken_cons, beq_iff_eq, decide_eq_true_eq]
  -- Both sides look at the same rules one after another.
  by_cases sound : parts.magic = 255
  · rw [if_neg fun other => other sound, if_pos sound]
    by_cases current : parts.clientVersion = policy.clientVersion
    · rw [if_neg fun other => other current, if_pos current]
      by_cases known : parts.detail ≤ 1
      · rw [if_neg (UInt8.not_lt.mpr known), if_pos known]
        by_cases named : parts.operation = 10
        · rw [if_neg fun other => other named, if_pos named]
          cases policy.verifyServerKey && echoedKey parts.keys != serverKey <;> rfl
        · rw [if_neg named]
          exact if_pos named
      · rw [if_neg known]
        exact if_pos (UInt8.not_le.mp known)
    · rw [if_neg current]
      exact if_pos current
  · rw [if_neg sound]
    exact if_pos sound

/-- A payload of the layout of a login block is judged by the rules for its parts. -/
theorem judge_bytes (opcode : UInt8) {parts : LoginParts} (formed : parts.WellFormed) :
    policy.judge opcode parts.bytes serverKey =
      match firstBroken (policy.rules serverKey parts) with
      | some code => .error (.rejected code)
      | none => .ok parts.keys := by
  obtain ⟨block, decoded, describe⟩ := parts.decode_bytes formed opcode
  rw [judge, decoded]
  dsimp only
  rw [policy.validate_of_describe serverKey describe]
  cases firstBroken (policy.rules serverKey parts) <;> rfl

/-- A payload of any other layout is malformed. -/
theorem judge_malformed (opcode : UInt8) {payload : Bytes}
    (other : ¬ ∃ parts : LoginParts, parts.WellFormed ∧ payload = parts.bytes) :
    ∃ fault, policy.judge opcode payload serverKey =
      .error (.protocol (.malformed .login fault)) := by
  rcases Reader.message_cases .login (PayloadCodec.readLogin opcode) payload with
    ⟨message, decoded⟩ | ⟨fault, failed⟩
  · have read : PayloadCodec.login.decode opcode payload = .ok message := decoded
    obtain ⟨block, parts, _, same, formed, _⟩ := LoginParts.of_decode read
    exact absurd ⟨parts, formed, same⟩ other
  · exact ⟨fault, by rw [judge, PayloadCodec.login]; dsimp only; rw [failed]⟩

theorem firstBroken_eq_none_iff (rules : List (Bool × UInt8)) :
    firstBroken rules = none ↔ ∀ rule ∈ rules, rule.1 = true := by
  simp [firstBroken]

/-- No rule is broken. -/
structure Allows (policy : LoginPolicy) (parts : LoginParts) (serverKey : UInt64) : Prop where
  magic : parts.magic = 255
  clientVersion : parts.clientVersion = policy.clientVersion
  detail : parts.detail = 0 ∨ parts.detail = 1
  operation : parts.operation = 10
  echo : policy.verifyServerKey = true →
    parts.keys[2].toNat * 2 ^ 32 + parts.keys[3].toNat = serverKey.toNat

theorem firstBroken_rules (parts : LoginParts) :
    firstBroken (policy.rules serverKey parts) = none ↔ policy.Allows parts serverKey := by
  have flag : parts.detail ≤ 1 ↔ parts.detail = 0 ∨ parts.detail = 1 := by
    simp only [UInt8.le_iff_toNat_le, ← UInt8.toNat_inj, UInt8.reduceToNat]
    omega
  rw [firstBroken_eq_none_iff]
  simp only [rules, List.mem_cons, List.not_mem_nil, or_false, forall_eq_or_imp, forall_eq,
    beq_iff_eq, decide_eq_true_eq, Bool.or_eq_true, Bool.not_eq_true', flag]
  constructor
  · rintro ⟨magic, clientVersion, detail, operation, echo⟩
    refine ⟨magic, clientVersion, detail, operation, fun verify => ?_⟩
    rw [verify] at echo
    exact echo.resolve_left Bool.noConfusion
  · intro allows
    refine ⟨allows.magic, allows.clientVersion, allows.detail, allows.operation, ?_⟩
    cases verify : policy.verifyServerKey with
    | false => exact .inl rfl
    | true => exact .inr (allows.echo verify)

theorem judge_ok_iff (opcode : UInt8) (payload : Bytes) (keys : SessionKeys) :
    policy.judge opcode payload serverKey = .ok keys ↔
      ∃ parts : LoginParts, parts.WellFormed ∧ payload = parts.bytes ∧
        policy.Allows parts serverKey ∧ parts.keys = keys := by
  constructor
  · intro accepted
    by_cases layout : ∃ parts : LoginParts, parts.WellFormed ∧ payload = parts.bytes
    · obtain ⟨parts, formed, rfl⟩ := layout
      rw [judge_bytes policy serverKey opcode formed] at accepted
      cases broken : firstBroken (policy.rules serverKey parts) with
      | some code => simp [broken] at accepted
      | none =>
          rw [broken] at accepted
          cases accepted
          exact ⟨parts, formed, rfl, (firstBroken_rules policy serverKey parts).mp broken, rfl⟩
    · obtain ⟨fault, refused⟩ := judge_malformed policy serverKey opcode layout
      rw [refused] at accepted
      cases accepted
  · rintro ⟨parts, formed, rfl, allowed, rfl⟩
    rw [judge_bytes policy serverKey opcode formed,
      (firstBroken_rules policy serverKey parts).mpr allowed]

end LoginPolicy

/-- The same parts with other keys of the server. -/
def LoginParts.withEcho (parts : LoginParts) (high low : UInt32) : LoginParts :=
  { parts with keys := #v[parts.keys[0], parts.keys[1], high, low] }

theorem LoginParts.WellFormed.withEcho {parts : LoginParts} (formed : parts.WellFormed)
    (high low : UInt32) : (parts.withEcho high low).WellFormed := by
  refine ⟨?_, formed.username, formed.password⟩
  have size : (parts.withEcho high low).behind.length = parts.behind.length := by
    simp only [behind, List.length_append, List.length_cons, Bytes.length_words32,
      Vector.length_toList]
    rfl
  rw [size]
  exact formed.counted

/-- A number of 64 bits has one pair of halves. -/
theorem Bytes.halves_unique (word : UInt64) (high low : UInt32) :
    high.toNat * 2 ^ 32 + low.toNat = word.toNat ↔
      high = (word >>> 32).toUInt32 ∧ low = word.toUInt32 := by
  rw [← toNat_toUInt64, UInt64.toNat_inj]
  constructor
  · rintro rfl
    exact ⟨(high_toUInt64 high low).symm, (low_toUInt64 high low).symm⟩
  · rintro ⟨rfl, rfl⟩
    exact toUInt64_halves word

namespace LoginPolicy

/-- A login payload yields keys exactly if it has the layout of a login block and breaks no rule, and
they are its own. If the server key is verified, one pair of halves passes. The first broken rule decides
the code of a refusal, any other layout is malformed, and a block that was decoded has four keys. -/
theorem judge_payload (policy : LoginPolicy) (opcode : UInt8) (serverKey : UInt64) :
    (∀ payload keys, policy.judge opcode payload serverKey = .ok keys ↔
      ∃ parts : LoginParts, parts.WellFormed ∧ payload = parts.bytes ∧
        policy.Allows parts serverKey ∧ parts.keys = keys) ∧
    (∀ parts : LoginParts, parts.WellFormed →
      (policy.judge opcode parts.bytes serverKey =
        match firstBroken (policy.rules serverKey parts) with
        | some code => .error (.rejected code)
        | none => .ok parts.keys) ∧
      (policy.verifyServerKey = true → parts.magic = 255 →
        parts.clientVersion = policy.clientVersion → parts.detail = 0 ∨ parts.detail = 1 →
        parts.operation = 10 →
        ∃! echo : UInt32 × UInt32, ∃ keys,
          policy.judge opcode (parts.withEcho echo.1 echo.2).bytes serverKey = .ok keys)) ∧
    (∀ payload, (¬ ∃ parts : LoginParts, parts.WellFormed ∧ payload = parts.bytes) →
      ∃ fault, policy.judge opcode payload serverKey =
        .error (.protocol (.malformed .login fault))) ∧
    ∀ payload message, PayloadCodec.login.decode opcode payload = .ok message →
      ∃ block keys, message = .login block ∧ keys? block.sessionKeys = some keys := by
  refine ⟨policy.judge_ok_iff serverKey opcode, fun parts formed => ⟨?_, ?_⟩, ?_, ?_⟩
  · exact policy.judge_bytes serverKey opcode formed
  · intro verify magic clientVersion detail operation
    have passes (high low : UInt32) :
        (∃ keys, policy.judge opcode (parts.withEcho high low).bytes serverKey = .ok keys) ↔
          high = (serverKey >>> 32).toUInt32 ∧ low = serverKey.toUInt32 := by
      have allowed := policy.firstBroken_rules serverKey (parts.withEcho high low)
      rw [policy.judge_bytes serverKey opcode (formed.withEcho high low), ← Bytes.halves_unique]
      constructor
      · rintro ⟨keys, accepted⟩
        cases broken : firstBroken (policy.rules serverKey (parts.withEcho high low)) with
        | some code => simp [broken] at accepted
        | none => exact (allowed.mp broken).echo verify
      · intro echo
        rw [allowed.mpr ⟨magic, clientVersion, detail, operation, fun _ => echo⟩]
        exact ⟨_, rfl⟩
    refine ⟨((serverKey >>> 32).toUInt32, serverKey.toUInt32), (passes _ _).mpr ⟨rfl, rfl⟩, ?_⟩
    rintro ⟨high, low⟩ accepted
    obtain ⟨rfl, rfl⟩ := (passes high low).mp accepted
    rfl
  · exact fun payload other => policy.judge_malformed serverKey opcode other
  · intro payload message decoded
    obtain ⟨block, parts, same, _, _, describe⟩ := LoginParts.of_decode decoded
    exact ⟨block, parts.keys, same, (keys?_eq_some_iff _ _).mpr describe.keys⟩

/-- The parts of the sample payload. -/
def sampleParts : LoginParts where
  magic := 255
  clientVersion := 317
  detail := 0
  checksums := .replicate 36 0
  declared := 27
  operation := 10
  keys := loginKeys
  userId := #v[0, 0, 0, 42]
  username := "ab"
  password := "cd"

theorem wellFormed_sampleParts : sampleParts.WellFormed :=
  ⟨by decide +kernel, by decide +kernel, by decide +kernel⟩

/-- The last two keys of the sample are the halves of one server key, and another one is refused. -/
theorem judge_loginPayload :
    standard.judge 16 loginPayload 0x300000004 = .ok loginKeys ∧
      standard.judge 16 loginPayload 0x300000005 = .error (.rejected .badSessionId) := by
  have whole : loginPayload = sampleParts.bytes := by decide +kernel
  rw [whole]
  refine ⟨?_, ?_⟩
  · exact ((judge_payload standard 16 0x300000004).2.1 sampleParts wellFormed_sampleParts).1.trans
      (by decide +kernel)
  · exact ((judge_payload standard 16 0x300000005).2.1 sampleParts wellFormed_sampleParts).1.trans
      (by decide +kernel)

end LoginPolicy

end GameServer
