import GameServer.Proofs.Table.Requests
import GameServer.Table.Standard

/- This file compares the bindings of a table with the requests for them. -/

namespace GameServer

/-- What a client asks for to read the frames of an entry. A bare message has no opcode to bind. -/
def Outbound.mirror? (entry : Outbound) : Option Reads :=
  match entry.framing with
  | .headless => none
  | .framed opcode rule => some ⟨opcode, rule, entry.codec⟩

namespace Bindings

/-- The requests that are granted when they are made one after another. -/
def accepted (bindings : Bindings) : List Request → List Request
  | [] => []
  | request :: rest =>
      match bindings.ask request with
      | .ok next => request :: next.accepted rest
      | .error _ => bindings.accepted rest

/-- The requests that were granted after one more, which must clash with none of those before. -/
def grant (granted : List Request) (request : Request) : List Request :=
  if granted.any request.clashes then granted else granted ++ [request]

/-- The requests that were granted, as their history tells it. -/
def granted (requests : List Request) : List Request := requests.foldl grant []

/-- What was granted is bound, in the order of the requests. -/
structure Holds (bindings : Bindings) (name : String) (granted : List Request) : Prop where
  name : bindings.name = name
  inbound : bindings.inbound = granted.filterMap Request.inbound?
  outbound : bindings.outbound = granted.filterMap Request.outbound?

/-- The peer reads exactly the frames that are written, and knows the kind of each by its opcode. -/
structure Mirrors (bindings : Bindings) (peer : Table) : Prop where
  read : ∀ opcode entry, peer.find? opcode = some entry ↔
    ∃ kind binding reads, (kind, binding) ∈ bindings.outbound ∧ binding.mirror? = some reads ∧
      reads.opcode = opcode ∧ reads.entry = entry
  kind : ∀ kind binding opcode rule, bindings.findKind? kind = some binding →
    binding.framing = .framed opcode rule →
      ∃ entry, peer.find? opcode = some entry ∧ entry.rule = rule ∧ entry.kind = kind

section History

variable {bindings : Bindings} {name : String} {granted : List Request}

theorem holds_empty (name : String) : (empty name).Holds name [] := ⟨rfl, rfl, rfl⟩

theorem Holds.mem_inbound_iff (holds : bindings.Holds name granted) (opcode : UInt8)
    (entry : Inbound) :
    (opcode, entry) ∈ bindings.inbound ↔
      ∃ binding, .read binding ∈ granted ∧ (binding.opcode, binding.entry) = (opcode, entry) := by
  rw [holds.inbound, List.mem_filterMap]
  constructor
  · rintro ⟨request, member, asked⟩
    cases request with
    | read binding => exact ⟨binding, member, Option.some.inj asked⟩
    | write => cases asked
  · rintro ⟨binding, member, same⟩
    exact ⟨_, member, congrArg some same⟩

theorem Holds.mem_outbound_iff (holds : bindings.Holds name granted)
    (filed : Message.Kind × Outbound) :
    filed ∈ bindings.outbound ↔
      ∃ binding, .write binding ∈ granted ∧ (binding.codec.kind, binding.entry) = filed := by
  rw [holds.outbound, List.mem_filterMap]
  constructor
  · rintro ⟨request, member, asked⟩
    cases request with
    | read => cases asked
    | write binding => exact ⟨binding, member, Option.some.inj asked⟩
  · rintro ⟨binding, member, same⟩
    exact ⟨_, member, congrArg some same⟩

theorem Holds.clashes_read_iff (holds : bindings.Holds name granted) (binding : Reads) :
    granted.any (Request.read binding).clashes = true ↔
      ∃ entry, (binding.opcode, entry) ∈ bindings.inbound := by
  simp only [List.any_eq_true, holds.mem_inbound_iff, Prod.mk.injEq]
  constructor
  · rintro ⟨request, member, clash⟩
    cases request with
    | read other => exact ⟨_, other, member, (eq_of_beq clash).symm, rfl⟩
    | write => cases clash
  · rintro ⟨entry, other, member, same, _⟩
    exact ⟨_, member, beq_iff_eq.mpr same.symm⟩

theorem Holds.clashes_write_iff (holds : bindings.Holds name granted) (binding : Writes) :
    granted.any (Request.write binding).clashes = true ↔
      (∃ entry, (binding.codec.kind, entry) ∈ bindings.outbound) ∨
        ∃ opcode, binding.framing.opcode? = some opcode ∧
          ∃ filed ∈ bindings.outbound, filed.2.framing.opcode? = some opcode := by
  have clash_iff (other : Writes) :
      (Request.write binding).clashes (.write other) = true ↔
        other.codec.kind = binding.codec.kind ∨
          ∃ opcode, binding.framing.opcode? = some opcode ∧
            other.framing.opcode? = some opcode := by
    simp only [Request.clashes, Bool.or_eq_true, beq_iff_eq, Option.any_eq_true,
      eq_comm (a := other.codec.kind)]
  simp only [List.any_eq_true, holds.mem_outbound_iff]
  constructor
  · rintro ⟨request, member, clash⟩
    cases request with
    | read => cases clash
    | write other =>
        rcases (clash_iff other).mp clash with same | ⟨opcode, framed, used⟩
        · exact .inl ⟨other.entry, other, member, by rw [same]⟩
        · exact .inr ⟨opcode, framed, _, ⟨other, member, rfl⟩, used⟩
  · rintro (⟨entry, other, member, same⟩ | ⟨opcode, framed, filed, ⟨other, member, same⟩, used⟩)
    · exact ⟨_, member, (clash_iff other).mpr (.inl (congrArg Prod.fst same))⟩
    · subst same
      exact ⟨_, member, (clash_iff other).mpr (.inr ⟨opcode, framed, used⟩)⟩

/-- A request is granted exactly if it clashes with none that was granted before. -/
theorem Holds.ask_cases (holds : bindings.Holds name granted) (request : Request) :
    (granted.any request.clashes = true ∧ ∃ error, bindings.ask request = .error error) ∨
      (granted.any request.clashes = false ∧ ∃ after, bindings.ask request = .ok after ∧
        after.Holds name (granted ++ [request])) := by
  have answers := bindings.answers_ask request
  generalize bindings.ask request = answer at answers
  cases answers with
  | opcodeBound binding bound =>
      exact .inl ⟨(holds.clashes_read_iff binding).mpr bound, _, rfl⟩
  | reads binding free =>
      refine .inr ⟨?_, _, rfl, holds.name, ?_, ?_⟩
      · rw [← Bool.not_eq_true, holds.clashes_read_iff]
        rintro ⟨entry, member⟩
        exact free entry member
      · rw [List.filterMap_append, ← holds.inbound]
        rfl
      · rw [List.filterMap_append, ← holds.outbound]
        exact (List.append_nil _).symm
  | kindBound binding bound =>
      exact .inl ⟨(holds.clashes_write_iff binding).mpr (.inl bound), _, rfl⟩
  | opcodeFramed binding opcode free framed used =>
      exact .inl ⟨(holds.clashes_write_iff binding).mpr (.inr ⟨opcode, framed, used⟩), _, rfl⟩
  | writes binding free unused =>
      refine .inr ⟨?_, _, rfl, holds.name, ?_, ?_⟩
      · rw [← Bool.not_eq_true, holds.clashes_write_iff]
        rintro (⟨entry, member⟩ | ⟨opcode, framed, filed, member, used⟩)
        · exact free entry member
        · exact unused opcode framed filed member used
      · rw [List.filterMap_append, ← holds.inbound]
        exact (List.append_nil _).symm
      · rw [List.filterMap_append, ← holds.outbound]
        rfl

theorem Holds.next (holds : bindings.Holds name granted) (request : Request) :
    (bindings.next request).Holds name (grant granted request) := by
  rw [Bindings.next, grant]
  rcases holds.ask_cases request with ⟨clash, error, refused⟩ | ⟨clear, after, accepted, held⟩
  · rw [refused, if_pos clash]
    exact holds
  · rw [accepted, clear]
    exact held

theorem Holds.run (holds : bindings.Holds name granted) (requests : List Request) :
    (bindings.run requests).Holds name (requests.foldl grant granted) := by
  induction requests generalizing bindings granted with
  | nil => exact holds
  | cons request rest ih => exact ih (holds.next request)

/-- What is granted is what the history of the requests tells. -/
theorem Holds.accepted (holds : bindings.Holds name granted) (requests : List Request) :
    granted ++ bindings.accepted requests = requests.foldl grant granted := by
  induction requests generalizing bindings granted with
  | nil => exact List.append_nil granted
  | cons request rest ih =>
      rw [Bindings.accepted, List.foldl_cons, grant]
      rcases holds.ask_cases request with ⟨clash, error, refused⟩ | ⟨clear, after, accepted, held⟩
      · rw [refused, if_pos clash]
        exact ih holds
      · rw [accepted, clear, if_neg Bool.false_ne_true, ← ih held, List.append_assoc]
        rfl

end History

section Peer

variable {bindings : Bindings} {reads : List Reads}

theorem register_of_free (table : Table) (binding : Reads)
    (free : ∀ entry, (binding.opcode, entry) ∉ table.inbound) :
    ∃ next, table.register binding.opcode binding.rule binding.codec = .ok next ∧
      next.toBindings =
        { table.toBindings with inbound := table.inbound ++ [(binding.opcode, binding.entry)] } := by
  have answer := table.map_register binding
  rw [Bindings.register, if_neg] at answer
  · cases granted : table.register binding.opcode binding.rule binding.codec with
    | ok next =>
        rw [granted] at answer
        exact ⟨next, rfl, Except.ok.inj answer⟩
    | error error =>
        rw [granted] at answer
        cases answer
  · rw [find?, isSome_lookup_iff]
    rintro ⟨entry, member⟩
    exact free entry member

theorem foldlM_register (table : Table) (reads : List Reads)
    (distinct : (table.inbound.map Prod.fst ++ reads.map Reads.opcode).Nodup) :
    ∃ next,
      reads.foldlM (fun table binding => table.register binding.opcode binding.rule binding.codec)
        table = .ok next ∧
      next.toBindings = { table.toBindings with
        inbound := table.inbound ++ reads.map fun binding => (binding.opcode, binding.entry) } := by
  induction reads generalizing table with
  | nil => exact ⟨table, rfl, by rw [List.map_nil, List.append_nil]⟩
  | cons binding rest ih =>
      have free (entry : Inbound) : (binding.opcode, entry) ∉ table.inbound := by
        intro member
        rw [List.nodup_append] at distinct
        exact distinct.2.2 _ (List.mem_map_of_mem member) _ List.mem_cons_self rfl
      obtain ⟨middle, granted, bound⟩ := register_of_free table binding free
      rw [List.map_cons, List.append_cons] at distinct
      obtain ⟨last, others, same⟩ := ih middle (by rw [bound, List.map_append]; exact distinct)
      refine ⟨last, ?_, ?_⟩
      · rw [List.foldlM_cons, granted]
        exact others
      · rw [same, bound]
        simp only [List.map_cons, List.append_assoc, List.cons_append, List.nil_append]

/-- Opcodes are all bound for reading if none of them is asked for twice. -/
theorem build_of_nodup (name : String) (distinct : (reads.map Reads.opcode).Nodup) :
    Table.build name reads [] = .ok (.of name reads []) := by
  obtain ⟨⟨table, filed⟩, granted, same⟩ := foldlM_register (.empty name) reads distinct
  dsimp only at same
  subst same
  rw [Table.build, granted]
  rfl

theorem opcode_mirror? (entry : Outbound) :
    entry.mirror?.map Reads.opcode = entry.framing.opcode? := by
  rw [Outbound.mirror?]
  cases entry.framing <;> rfl

/-- A client can bind the frames of a table in any order. -/
theorem Lawful.mirrors (lawful : bindings.Lawful) (name : String)
    {order : List (Message.Kind × Outbound)} (same : order.Perm bindings.outbound) :
    ∃ peer, Table.build name (order.filterMap fun filed => filed.2.mirror?) [] = .ok peer ∧
      bindings.Mirrors peer := by
  have distinct : ((order.filterMap fun filed => filed.2.mirror?).map Reads.opcode).Nodup := by
    simp only [List.map_filterMap, opcode_mirror?]
    exact (same.filterMap _).nodup_iff.mpr lawful.framings
  have read (opcode : UInt8) (entry : Inbound) :
      (Table.of name (order.filterMap fun filed => filed.2.mirror?) []).find? opcode =
          some entry ↔
        ∃ kind binding reads, (kind, binding) ∈ bindings.outbound ∧
          binding.mirror? = some reads ∧ reads.opcode = opcode ∧ reads.entry = entry := by
    refine (lookup_eq_some_iff_of_nodup ?_ opcode entry).trans ?_
    · rw [Table.of, List.map_map]
      exact distinct
    · simp only [Table.of, List.mem_map, List.mem_filterMap, same.mem_iff, Prod.exists,
        Prod.mk.injEq]
      grind
  refine ⟨_, build_of_nodup name distinct, read, ?_⟩
  intro kind binding opcode rule found framed
  have member := mem_of_lookup found
  obtain ⟨own, named⟩ := lawful.filed.write kind binding member
  exact ⟨Reads.entry ⟨opcode, rule, binding.codec⟩,
    (read opcode _).mpr ⟨kind, binding, _, member, by rw [Outbound.mirror?, framed], rfl, rfl⟩,
    rfl, named.symm.trans own⟩

end Peer

/-- Whatever was asked for since nothing was bound, exactly the requests that were granted are bound,
and these are the ones that clashed with none that was granted before. Each entry is filed under its
own opcode or kind, and has the kind of its codec. An opcode is bound for reading by the first request
for it. Each entry is found under its own key alone, no two kinds are written under one opcode, and
what is bound stays. A request is refused for its kind before being refused for its opcode, a refused
one changes nothing and a granted one changes its own key alone. A client can bind all frames in a
table of its own, and knows the kind of each by its opcode. -/
theorem bindings_run (name : String) (requests : List Request) :
    let bindings := (empty name).run requests
    bindings.Holds name (granted requests) ∧
      (empty name).accepted requests = granted requests ∧
      bindings.size =
        ((empty name).accepted requests).countP (fun request => request.inbound?.isSome) ∧
      (∀ opcode, bindings.find? opcode = requests.findSome? (·.reads? opcode)) ∧
      (∀ opcode entry, (opcode, entry) ∈ bindings.inbound →
        entry.opcode = opcode ∧ entry.kind = entry.codec.kind) ∧
      (∀ kind entry, (kind, entry) ∈ bindings.outbound →
        entry.kind = kind ∧ entry.kind = entry.codec.kind) ∧
      bindings.Lawful ∧ bindings.Keyed ∧
      (∀ request, bindings.Settles request) ∧
      (∀ later, bindings.Keeps (bindings.run later)) ∧
      ∀ view (order : List (Message.Kind × Outbound)), order.Perm bindings.outbound →
        ∃ peer, Table.build view (order.filterMap fun filed => filed.2.mirror?) [] = .ok peer ∧
          bindings.Mirrors peer := by
  intro bindings
  have holds : bindings.Holds name (granted requests) := (holds_empty name).run requests
  have accepted : (empty name).accepted requests = granted requests :=
    (holds_empty name).accepted requests
  have lawful : bindings.Lawful := lawful_run name requests
  have size : bindings.size =
      (granted requests).countP fun request => request.inbound?.isSome := by
    rw [Bindings.size, holds.inbound, List.length_filterMap_eq_countP]
  exact ⟨holds, accepted, accepted ▸ size, (empty name).find?_run requests, lawful.filed.read,
    lawful.filed.write, lawful, lawful.keyed, bindings.settles, bindings.keeps_run,
    fun view order same => lawful.mirrors view same⟩

/-- A ping asks for the opcode that the server's chat has, and then for another one. -/
def disputed : List Request :=
  [.write ⟨.framed 253 (.declared .byte), .serverChat⟩, .write ⟨.framed 253 (.fixed 0), .ping⟩,
    .write ⟨.framed 0 (.fixed 0), .ping⟩]

theorem bindings_run_of_disputed :
    let bindings := (empty "game").run disputed
    let order : List (Message.Kind × Outbound) :=
      [(.ping, ⟨.ping, .framed 0 (.fixed 0), .ping⟩),
        (.serverChat, ⟨.serverChat, .framed 253 (.declared .byte), .serverChat⟩)]
    order.Perm bindings.outbound ∧
      ∃ peer, Table.build "client" (order.filterMap fun filed => filed.2.mirror?) [] = .ok peer ∧
        bindings.Mirrors peer := by
  intro bindings order
  have same : order.Perm bindings.outbound := List.Perm.swap _ _ []
  obtain ⟨_, _, _, _, _, _, _, _, _, _, peers⟩ := bindings_run "game" disputed
  exact ⟨same, peers "client" order same⟩

end Bindings

end GameServer
