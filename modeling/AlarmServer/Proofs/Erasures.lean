import AlarmServer.Proofs.Handles
import AlarmServer.Proofs.Placements

/-!
# Erasures

Where a handle that owns a node is dropped, the runtime is asked to delete the node. If it does,
nothing of the node is left: neither the node nor a hook, a watcher, a reference to it or a record
of its callbacks; and nothing else is touched. If it does not, nothing is touched at all. The
callbacks that are forgotten are values here: they own no handles, so that no other drop follows.

The main result, `Condition.erases_or_spares`, is about handles in every state of a server.
-/

namespace AlarmServer

variable {β : Type}

/-- A node is erased from an address space. -/
structure AddressSpace.Erased (c : NodeId) (sp sp' : AddressSpace β) : Prop where
  /-- The node is gone. -/
  node : sp'.nodes.find? c = none
  /-- Every other node stays as it is, with its references to other nodes in order. -/
  others : ∀ i, i ≠ c → sp'.nodes.find? i = (sp.nodes.find? i).map fun n =>
    { n with references := n.references.filter fun r => r.target ≠ c }
  /-- No reference leads to the node. -/
  unreferenced : ∀ i, ∀ r ∈ sp'.references i, r.target ≠ c
  /-- There is one node less. -/
  size : sp'.nodes.size + 1 = sp.nodes.size
  /-- The hooks of the node are gone, and the other ones stay. -/
  hooks : ∀ i k, sp'.hooks.find? (i, k) = if i = c then none else sp.hooks.find? (i, k)
  /-- The watcher of the node is gone, and the other ones stay. -/
  watchers : ∀ i, sp'.watchers.find? i = if i = c then none else sp.watchers.find? i
  /-- One more node has been deleted. -/
  deleted : sp'.deleted = sp.deleted + 1
  /-- The next identifier is the same. -/
  nextId : sp'.nextId = sp.nextId
  /-- The events are the same. -/
  events : sp'.events = sp.events
  /-- As many events are counted. -/
  published : sp'.published = sp.published

/-- A node is erased from a server. -/
structure Server.Erased (c : NodeId) (s t : Server β) : Prop where
  /-- It is erased from the address space. -/
  space : s.space.Erased c t.space
  /-- The record of the node is gone, and the other ones stay. -/
  registry : ∀ i, t.tables.registry.callbacks? i =
    if i = c then none else s.tables.registry.callbacks? i
  /-- The session stores are the same. -/
  sessions : t.tables.sessions = s.tables.sessions
  /-- The times are the same. -/
  now : t.now = s.now

namespace AddressSpace

variable {sp sp' : AddressSpace β} {c : NodeId}

/-- A node that is deleted with all references to it is erased. -/
theorem erased_of_deleteNode (h : sp.deleteNode c true = .ok sp') : sp.Erased c sp' := by
  obtain ⟨hc, rfl⟩ := deleteNode_eq_ok_iff.1 h
  constructor
  case node => simp [Table.find?_mapValues]
  case others =>
    intro i hi
    simp only [if_true, Table.find?_mapValues, Table.find?_erase, if_neg hi]
    rfl
  case unreferenced =>
    intro i r hr
    simp only [references, if_true, Table.find?_mapValues] at hr
    cases hn : (sp.nodes.erase c).find? i with
    | none => simp [hn] at hr
    | some n =>
      simp only [hn, Option.map_some, Node.forget, List.mem_filter, decide_eq_true_eq] at hr
      exact hr.2
  case size =>
    have htotal := (addsNone_of_deleteNode h).total
    dsimp only at htotal ⊢
    omega
  case hooks =>
    intro i k
    simp [Table.find?_filterKeys]
  case watchers => exact Table.find?_erase _ _
  case deleted => rfl
  case nextId => rfl
  case events => rfl
  case published => rfl

end AddressSpace

namespace Condition

/-- Where a handle that owns a node is dropped, the runtime is asked to delete that. If it fails,
the server is as before. The runtime of the server itself succeeds if the node is there, and then
the node is erased. -/
theorem erases_or_spares (c : Condition) (h : c.ownsNode = true) (s : Server β) :
    ∃ r u t, Server.answer (.deleteNode c.id true) s = .done r u ∧
      (c.drop : Routine β Unit).perform s = .done () t ∧
      (∀ status, r = .error status → s.Beside t) ∧
      ((s.script.next .deleteNode).1 = .genuine →
        (r = .ok () ↔ s.space.nodes.contains c.id = true) ∧ (r = .ok () → s.Erased c.id t)) := by
  obtain ⟨r, u, hanswer, -, hdeletion⟩ := Server.answer_deleteNode c.id s
  refine ⟨r, u, _, hanswer, drop_of_answer h hanswer, ?_⟩
  cases hdeletion with
  | settled hnext hu =>
    refine ⟨?_, fun he => absurd (hnext.symm.trans he) nofun⟩
    rintro status rfl
    exact ⟨hu.space, hu.registry, hu.sessions, hu.now, hu.drawn⟩
  | refused _ hdelete hu =>
    have hmissing := AddressSpace.missing_of_deleteNode hdelete
    refine ⟨fun _ _ => ⟨hu.space, hu.registry, hu.sessions, hu.now, hu.drawn⟩, fun _ => ⟨?_, nofun⟩⟩
    rw [hmissing]
    exact ⟨nofun, nofun⟩
  | deleted _ hdelete hu =>
    refine ⟨nofun, fun _ => ⟨?_, fun _ => ?_⟩⟩
    · exact ⟨fun _ => (AddressSpace.deleteNode_eq_ok_iff.1 hdelete).1, fun _ => rfl⟩
    · have herased := AddressSpace.erased_of_deleteNode hdelete
      exact ⟨hu.space ▸ herased, fun i => (congrArg (·.callbacks? i)
        (congrArg (·.remove c.id) hu.registry)).trans (Table.find?_erase _ _ _),
        hu.sessions, hu.now⟩

end Condition

/-! ### The handle of a guarded condition -/

/-- A handle that owns the guarded condition. -/
def guardedHandle : Condition := ⟨guardedCondition, true⟩

/-- The guarded condition with a reference to it, a watcher and a record. -/
def recordedServer : Server Unit where
  tables :=
    { guardedServer.tables with
      registry := Registry.empty.store guardedCondition .acked ⟨.serverObject, false, ()⟩ }
  space :=
    { guardedServer.space.modifyNode .serverObject (Node.refer .hasCondition guardedCondition) with
      watchers := Table.empty.insert guardedCondition () }
  script := .empty

/-- The same server with a runtime that refuses the next deletion. -/
def refusingServer : Server Unit :=
  { recordedServer with
    script := Script.empty.assign .deleteNode [.settled (.error .badNodeIdUnknown)] }

/-- The guarded condition is erased where its handle is dropped; if the runtime fails it stays. -/
theorem Condition.erases_or_spares_guardedCondition :
    guardedHandle.ownsNode = true ∧
      (∃ t, (guardedHandle.drop : Routine Unit Unit).perform recordedServer = .done () t ∧
        recordedServer.Erased guardedCondition t) ∧
      ∃ t, (guardedHandle.drop : Routine Unit Unit).perform refusingServer = .done () t ∧
        refusingServer.Beside t := by
  have howns : guardedHandle.ownsNode = true := by decide
  refine ⟨howns, ?_, ?_⟩
  · obtain ⟨r, u, t, -, hdrop, -, hgenuine⟩ := guardedHandle.erases_or_spares howns recordedServer
    obtain ⟨hthere, herased⟩ := hgenuine rfl
    exact ⟨t, hdrop, herased (hthere.2 rfl)⟩
  · obtain ⟨r, u, t, hanswer, hdrop, hspared, -⟩ :=
      guardedHandle.erases_or_spares howns refusingServer
    have hr : r = .error .badNodeIdUnknown := by
      cases hanswer
      rfl
    exact ⟨t, hdrop, hspared _ hr⟩

end AlarmServer
