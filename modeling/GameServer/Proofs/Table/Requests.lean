import GameServer.Table.Basic
import Mathlib.Data.List.Induction
import Mathlib.Data.List.Nodup

/- This file lists what may be asked of a table and what it answers. -/

namespace GameServer.Bindings

/-- What is asked to be bound. A codec that several opcodes share is asked for once for each. -/
inductive Request where
  | read (binding : Reads)
  | write (binding : Writes)

namespace Request

/-- The entry for reading that is asked for, behind the opcode that it is for. -/
def inbound? : Request → Option (UInt8 × Inbound)
  | .read binding => some (binding.opcode, binding.entry)
  | .write _ => none

/-- The entry for writing that is asked for, behind the kind of its codec. -/
def outbound? : Request → Option (Message.Kind × Outbound)
  | .read _ => none
  | .write binding => some (binding.codec.kind, binding.entry)

/-- What the request binds the opcode to, if it is about this opcode. -/
def reads? (request : Request) (opcode : UInt8) : Option Inbound :=
  match request with
  | .read binding => if binding.opcode = opcode then some binding.entry else none
  | .write _ => none

/-- What the request binds the kind to, if it is about this kind. -/
def writes? (request : Request) (kind : Message.Kind) : Option Outbound :=
  match request with
  | .read _ => none
  | .write binding => if binding.codec.kind = kind then some binding.entry else none

/-- Two requests clash over an opcode that both read, over a kind that both write, or over the opcode
of their frames. A request to read and one to write never clash. -/
def clashes : Request → Request → Bool
  | .read first, .read second => first.opcode == second.opcode
  | .write first, .write second =>
      first.codec.kind == second.codec.kind ||
        first.framing.opcode?.any fun opcode => second.framing.opcode? == some opcode
  | _, _ => false

end Request

/-- A request is granted, or it is said why it is not. -/
def ask (bindings : Bindings) : Request → Except ProtocolError Bindings
  | .read binding => bindings.register binding
  | .write binding => bindings.registerOutbound binding

/-- What is bound after an answer. Nothing is changed by a refusal. -/
def settle (bindings : Bindings) : Except ProtocolError Bindings → Bindings
  | .ok next => next
  | .error _ => bindings

/-- What is bound after a request. -/
def next (bindings : Bindings) (request : Request) : Bindings :=
  bindings.settle (bindings.ask request)

/-- Requests are made one after another. -/
def run (bindings : Bindings) (requests : List Request) : Bindings := requests.foldl next bindings

/-- What is answered to a request, and why. -/
inductive Answers (bindings : Bindings) : Request → Except ProtocolError Bindings → Prop
  | opcodeBound (binding : Reads) (bound : ∃ entry, (binding.opcode, entry) ∈ bindings.inbound) :
      Answers bindings (.read binding) (.error (.opcodeTaken binding.opcode bindings.name))
  | reads (binding : Reads) (free : ∀ entry, (binding.opcode, entry) ∉ bindings.inbound) :
      Answers bindings (.read binding)
        (.ok { bindings with inbound := bindings.inbound ++ [(binding.opcode, binding.entry)] })
  /-- A kind that is bound is refused first, whatever the opcode is. -/
  | kindBound (binding : Writes)
      (bound : ∃ entry, (binding.codec.kind, entry) ∈ bindings.outbound) :
      Answers bindings (.write binding) (.error (.kindTaken binding.codec.kind bindings.name))
  | opcodeFramed (binding : Writes) (opcode : UInt8)
      (free : ∀ entry, (binding.codec.kind, entry) ∉ bindings.outbound)
      (framed : binding.framing.opcode? = some opcode)
      (used : ∃ filed ∈ bindings.outbound, filed.2.framing.opcode? = some opcode) :
      Answers bindings (.write binding) (.error (.opcodeTaken opcode bindings.name))
  | writes (binding : Writes) (free : ∀ entry, (binding.codec.kind, entry) ∉ bindings.outbound)
      (unused : ∀ opcode, binding.framing.opcode? = some opcode →
        ∀ filed ∈ bindings.outbound, filed.2.framing.opcode? ≠ some opcode) :
      Answers bindings (.write binding)
        (.ok { bindings with
          outbound := bindings.outbound ++ [(binding.codec.kind, binding.entry)] })

theorem isSome_lookup_iff {A B : Type} [BEq A] [LawfulBEq A] (entries : List (A × B)) (key : A) :
    (entries.lookup key).isSome = true ↔ ∃ entry, (key, entry) ∈ entries := by
  constructor
  · intro bound
    obtain ⟨entry, found⟩ := Option.isSome_iff_exists.mp bound
    exact ⟨entry, mem_of_lookup found⟩
  · rintro ⟨entry, member⟩
    rw [Option.isSome_iff_ne_none]
    intro none
    exact absurd (beq_self_eq_true key) (by simpa using List.lookup_eq_none_iff.mp none _ member)

theorem frames_iff (bindings : Bindings) (opcode : UInt8) :
    bindings.frames opcode = true ↔
      ∃ filed ∈ bindings.outbound, filed.2.framing.opcode? = some opcode := by
  simp only [frames, List.any_eq_true, beq_iff_eq]

theorem answers_ask (bindings : Bindings) (request : Request) :
    bindings.Answers request (bindings.ask request) := by
  cases request with
  | read binding =>
      rw [ask, register]
      split
      · next bound => exact .opcodeBound binding ((isSome_lookup_iff _ _).mp bound)
      · next free =>
          rw [find?, isSome_lookup_iff] at free
          exact .reads binding fun entry member => free ⟨entry, member⟩
  | write binding =>
      rw [ask, registerOutbound]
      split
      · next bound => exact .kindBound binding ((isSome_lookup_iff _ _).mp bound)
      · next free =>
          rw [findKind?, isSome_lookup_iff] at free
          have kinds (entry : Outbound) : (binding.codec.kind, entry) ∉ bindings.outbound :=
            fun member => free ⟨entry, member⟩
          dsimp only
          split
          · next opcode framed =>
              split
              · next used =>
                  exact .opcodeFramed binding opcode kinds framed
                    ((bindings.frames_iff _).mp used)
              · next unused =>
                  rw [frames_iff] at unused
                  refine .writes binding kinds fun wanted same filed member taken => ?_
                  rw [framed] at same
                  cases same
                  exact unused ⟨filed, member, taken⟩
          · next bare =>
              refine .writes binding kinds fun opcode framed => ?_
              rw [bare] at framed
              cases framed

/-- The representation of a table: each entry is filed under its own opcode or kind and has the kind
of its codec, no opcode is bound twice for reading, and neither a kind nor an opcode of frames is
bound twice for writing. -/
structure Lawful (bindings : Bindings) : Prop where
  filed : bindings.Filed
  opcodes : (bindings.inbound.map Prod.fst).Nodup
  kinds : (bindings.outbound.map Prod.fst).Nodup
  framings : (bindings.outbound.filterMap fun filed => filed.2.framing.opcode?).Nodup

/-- Every entry is found under the key that it is filed under, and under no other one. -/
structure Keyed (bindings : Bindings) : Prop where
  read : ∀ opcode entry,
    bindings.find? opcode = some entry ↔ (opcode, entry) ∈ bindings.inbound
  write : ∀ kind entry,
    bindings.findKind? kind = some entry ↔ (kind, entry) ∈ bindings.outbound

/-- The request has bound its own opcode or kind, and all else is bound as before. -/
structure Binds (bindings : Bindings) (request : Request) (after : Bindings) : Prop where
  name : after.name = bindings.name
  read : ∀ opcode, after.find? opcode = (request.reads? opcode).or (bindings.find? opcode)
  write : ∀ kind, after.findKind? kind = (request.writes? kind).or (bindings.findKind? kind)

/-- A refused request changes nothing, and a granted one binds its own key alone. -/
structure Settles (bindings : Bindings) (request : Request) : Prop where
  answer : bindings.Answers request (bindings.ask request)
  refused : ∀ error, bindings.ask request = .error error → bindings.next request = bindings
  granted : ∀ after, bindings.ask request = .ok after →
    bindings.next request = after ∧ bindings.Binds request after

/-- What is bound stays bound to the same. -/
structure Keeps (bindings later : Bindings) : Prop where
  read : ∀ opcode entry, bindings.find? opcode = some entry → later.find? opcode = some entry
  write : ∀ kind entry, bindings.findKind? kind = some entry → later.findKind? kind = some entry

section Steps

variable {bindings after : Bindings} {request : Request} {answer : Except ProtocolError Bindings}

theorem lawful_empty (name : String) : (empty name).Lawful :=
  ⟨filed_empty name, List.nodup_nil, List.nodup_nil, List.nodup_nil⟩

theorem nodup_map_fst_concat {A B : Type} {entries : List (A × B)} {key : A} {value : B}
    (distinct : (entries.map Prod.fst).Nodup) (free : ∀ other, (key, other) ∉ entries) :
    ((entries ++ [(key, value)]).map Prod.fst).Nodup := by
  rw [List.map_append]
  refine distinct.append (List.nodup_singleton _) ?_
  simpa [List.disjoint_left] using free

theorem Lawful.ask (lawful : bindings.Lawful) (granted : bindings.ask request = .ok after) :
    after.Lawful := by
  have answers := bindings.answers_ask request
  rw [granted] at answers
  cases answers with
  | reads binding free =>
      exact { lawful with
        filed := lawful.filed.register granted
        opcodes := nodup_map_fst_concat lawful.opcodes free }
  | writes binding free unused =>
      refine { lawful with
        filed := lawful.filed.registerOutbound granted
        kinds := nodup_map_fst_concat lawful.kinds free
        framings := ?_ }
      rw [List.filterMap_append]
      refine lawful.framings.append ?_ ?_
      · rw [List.filterMap_cons]
        split
        · exact List.nodup_nil
        · exact List.nodup_singleton _
      · intro opcode held asked
        obtain ⟨filed, member, framed⟩ := List.mem_filterMap.mp held
        obtain ⟨same, own, wanted⟩ := List.mem_filterMap.mp asked
        rw [List.mem_singleton.mp own] at wanted
        exact unused opcode wanted filed member framed

theorem Lawful.next (lawful : bindings.Lawful) (request : Request) :
    (bindings.next request).Lawful := by
  rw [Bindings.next]
  cases granted : bindings.ask request with
  | ok after => exact lawful.ask granted
  | error error => exact lawful

theorem lawful_run (name : String) (requests : List Request) :
    ((empty name).run requests).Lawful := by
  induction requests using List.reverseRecOn with
  | nil => exact lawful_empty name
  | append_singleton requests request ih =>
      rw [run, List.foldl_append]
      exact ih.next request

/-- Under a key that only one entry is filed under, that entry is found. -/
theorem lookup_eq_some_iff_of_nodup {A B : Type} [BEq A] [LawfulBEq A] {entries : List (A × B)}
    (distinct : (entries.map Prod.fst).Nodup) (key : A) (entry : B) :
    entries.lookup key = some entry ↔ (key, entry) ∈ entries := by
  constructor
  · exact mem_of_lookup
  · intro member
    obtain ⟨other, found⟩ := Option.isSome_iff_exists.mp
      ((isSome_lookup_iff entries key).mpr ⟨entry, member⟩)
    have same := List.inj_on_of_nodup_map distinct (mem_of_lookup found) member rfl
    cases same
    exact found

theorem Lawful.keyed (lawful : bindings.Lawful) : bindings.Keyed where
  read := lookup_eq_some_iff_of_nodup lawful.opcodes
  write := lookup_eq_some_iff_of_nodup lawful.kinds

theorem lookup_concat {A B : Type} [BEq A] [LawfulBEq A] [DecidableEq A] (entries : List (A × B))
    (key other : A) (entry : B) :
    (entries ++ [(key, entry)]).lookup other =
      (entries.lookup other).or (if key = other then some entry else none) := by
  rw [List.lookup_append, List.lookup_cons, List.lookup_nil]
  by_cases same : key = other
  · rw [if_pos same, same, beq_self_eq_true]
  · rw [if_neg same, beq_false_of_ne (Ne.symm same)]

/-- An entry that is added is found only where nothing was found before. -/
theorem find?_concat (bindings : Bindings) (binding : Reads) (opcode : UInt8) :
    find? { bindings with inbound := bindings.inbound ++ [(binding.opcode, binding.entry)] } opcode =
      (bindings.find? opcode).or ((Request.read binding).reads? opcode) :=
  lookup_concat bindings.inbound binding.opcode opcode binding.entry

theorem findKind?_concat (bindings : Bindings) (binding : Writes) (kind : Message.Kind) :
    findKind?
        { bindings with outbound := bindings.outbound ++ [(binding.codec.kind, binding.entry)] }
        kind =
      (bindings.findKind? kind).or ((Request.write binding).writes? kind) :=
  lookup_concat bindings.outbound binding.codec.kind kind binding.entry

theorem binds_of_ask (granted : bindings.ask request = .ok after) :
    bindings.Binds request after := by
  have answers := bindings.answers_ask request
  rw [granted] at answers
  cases answers with
  | reads binding free =>
      refine ⟨rfl, fun opcode => ?_, fun kind => rfl⟩
      rw [find?_concat]
      cases found : bindings.find? opcode with
      | none => rw [Option.none_or, Option.or_none]
      | some other =>
          have distinct : binding.opcode ≠ opcode := by
            rintro rfl
            exact free other (mem_of_lookup found)
          rw [Request.reads?, if_neg distinct, Option.or_none, Option.none_or]
  | writes binding free unused =>
      refine ⟨rfl, fun opcode => rfl, fun kind => ?_⟩
      rw [findKind?_concat]
      cases found : bindings.findKind? kind with
      | none => rw [Option.none_or, Option.or_none]
      | some other =>
          have distinct : binding.codec.kind ≠ kind := by
            rintro rfl
            exact free other (mem_of_lookup found)
          rw [Request.writes?, if_neg distinct, Option.or_none, Option.none_or]

theorem settles (bindings : Bindings) (request : Request) : bindings.Settles request where
  answer := bindings.answers_ask request
  refused _ refusal := congrArg bindings.settle refusal
  granted _ granted := ⟨congrArg bindings.settle granted, binds_of_ask granted⟩

/-- An opcode is bound by the first request to read it, and by no later one. -/
theorem Answers.find? (answers : bindings.Answers request answer) (opcode : UInt8) :
    (bindings.settle answer).find? opcode =
      (bindings.find? opcode).or (request.reads? opcode) := by
  cases answers with
  | opcodeBound binding bound =>
      rw [settle, Request.reads?]
      split
      · next same =>
          rw [same, ← isSome_lookup_iff] at bound
          rw [Bindings.find?, Option.or_of_isSome bound]
      · rw [Option.or_none]
  | reads binding free => exact bindings.find?_concat binding opcode
  | kindBound | opcodeFramed | writes => exact Option.or_none.symm

theorem Answers.findKind? (answers : bindings.Answers request answer) {kind : Message.Kind}
    {entry : Outbound} (bound : bindings.findKind? kind = some entry) :
    (bindings.settle answer).findKind? kind = some entry := by
  cases answers with
  | opcodeBound | reads | kindBound | opcodeFramed => exact bound
  | writes binding =>
      refine (bindings.findKind?_concat binding kind).trans ?_
      rw [bound, Option.some_or]

theorem find?_run (bindings : Bindings) (requests : List Request) (opcode : UInt8) :
    (bindings.run requests).find? opcode =
      (bindings.find? opcode).or (requests.findSome? (·.reads? opcode)) := by
  induction requests generalizing bindings with
  | nil => exact Option.or_none.symm
  | cons request rest ih =>
      refine (ih (bindings.next request)).trans ?_
      rw [next, (bindings.answers_ask request).find?, Option.or_assoc, List.findSome?_cons]
      cases request.reads? opcode <;> rfl

theorem keeps_run (bindings : Bindings) (requests : List Request) :
    bindings.Keeps (bindings.run requests) where
  read opcode entry bound := by rw [find?_run, bound, Option.some_or]
  write kind entry bound := by
    induction requests generalizing bindings with
    | nil => exact bound
    | cons request rest ih =>
        exact ih (bindings.next request) ((bindings.answers_ask request).findKind? bound)

end Steps

end GameServer.Bindings
