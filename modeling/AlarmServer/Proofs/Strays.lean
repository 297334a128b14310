import AlarmServer.Proofs.Dealings
import Mathlib.Data.List.Perm.Subperm

/-!
# Stray records

A record of the registry is stray if its condition is not there. It becomes stray where a callback
is registered for what is no condition, and where the condition is deleted by the runtime or
something else takes its place. Where an owner deletes its node the record goes with it.
-/

namespace AlarmServer

variable {β : Type}

/-- Is the node a condition? -/
def Role.isCondition (r : Role) : Bool := r.kind = .condition

namespace AddressSpace

/-- Is the node there, and a condition? -/
def isCondition (sp : AddressSpace β) (i : NodeId) : Bool := (sp.role? i).any Role.isCondition

/-- The conditions that are there. -/
def conditions (sp : AddressSpace β) : List NodeId := sp.nodes.keys.filter sp.isCondition

private theorem isCondition_iff {sp : AddressSpace β} {i : NodeId} :
    sp.isCondition i = true ↔ ∃ c, sp.condition i = .ok c := by
  rw [isCondition, role?, Option.any_map, Option.any_eq_true]
  constructor
  · rintro ⟨n, hn, hkind⟩
    cases hbody : n.body with
    | condition c => exact ⟨c, condition_eq_ok_iff.2 ⟨n, hn, hbody⟩⟩
    | _ => simp [Node.role, Role.isCondition, hbody, NodeBody.kind] at hkind
  · rintro ⟨c, hc⟩
    obtain ⟨n, hn, hbody⟩ := condition_eq_ok_iff.1 hc
    exact ⟨n, hn, by simp [Node.role, Role.isCondition, hbody, NodeBody.kind]⟩

private theorem mem_conditions_iff {sp : AddressSpace β} {i : NodeId} :
    i ∈ sp.conditions ↔ sp.isCondition i = true := by
  rw [conditions, List.mem_filter, Table.mem_keys_iff, and_iff_right_iff_imp]
  intro hi
  obtain ⟨c, hc⟩ := isCondition_iff.1 hi
  obtain ⟨n, hn, -⟩ := condition_eq_ok_iff.1 hc
  rw [hn]
  rfl

end AddressSpace

namespace Server

/-- Has a condition a record although it is not there? -/
def isStray (s : Server β) (c : NodeId) : Bool :=
  s.tables.registry.contains c && !s.space.isCondition c

/-- The conditions that have a stray record. -/
def strays (s : Server β) : List NodeId :=
  s.tables.registry.records.keys.filter fun c => !s.space.isCondition c

private theorem mem_strays_iff {s : Server β} {c : NodeId} : c ∈ s.strays ↔ s.isStray c = true := by
  rw [strays, List.mem_filter, Table.mem_keys_iff, isStray, Bool.and_eq_true]
  rfl

/-- A record is of a condition, or it is stray. -/
theorem registry_size_le (s : Server β) :
    s.tables.registry.size ≤ s.space.conditions.length + s.strays.length := by
  have hnodup : s.tables.registry.records.keys.Nodup := s.tables.registry.records.nodup
  have hle : (s.tables.registry.records.keys.filter s.space.isCondition).length ≤
      s.space.conditions.length := by
    apply List.Subperm.length_le
    apply List.subperm_of_subset (hnodup.filter _)
    intro c hc
    exact AddressSpace.mem_conditions_iff.2 (List.mem_filter.1 hc).2
  have hsum := List.length_eq_length_filter_add (l := s.tables.registry.records.keys)
    s.space.isCondition
  have hsize : s.tables.registry.size = s.tables.registry.records.keys.length := by
    rw [Registry.size, Table.size, Table.keys, List.length_map]
  unfold strays
  omega

end Server

/-- What a stretch decides about whether the record of a condition is stray: where a callback is
registered for it, where its owner deletes it, and where it is placed or deleted otherwise. -/
def System.Stretch.strands? (st : (dealings β).Stretch) (c : NodeId) : Option Bool :=
  if st.registersFor? = some c then some (!st.before.space.isCondition c)
  else if st.drops? = some c then some false
  else if st.places? = some c then
    some (st.before.tables.registry.contains c && !st.placedRole?.any Role.isCondition)
  else if st.removes? = some c then some (st.before.tables.registry.contains c)
  else none

/-- A record is stray after a stretch if the stretch has decided so, or if it was before and nothing
was decided. -/
theorem Deed.isStray {st : (dealings β).Stretch} (h : Deed st) (c : NodeId) :
    st.after.isStray c = (st.strands? c).getD (st.before.isStray c) := by
  have hcondition : st.after.space.isCondition c =
      if st.places? = some c then st.placedRole?.any Role.isCondition
      else if st.removes? = some c ∨ st.drops? = some c then false
      else st.before.space.isCondition c := h.any_role? (fun _ _ => rfl) c
  rw [Server.isStray, hcondition, h.contains_registry, System.Stretch.strands?]
  by_cases hregister : st.registersFor? = some c
  · obtain ⟨hplaces, hremoves, hdrops⟩ := st.quiet_of_registersFor hregister
    simp [hregister, hplaces, hremoves, hdrops]
  · by_cases hdrop : st.drops? = some c
    · simp [hregister, hdrop]
    · by_cases hplace : st.places? = some c
      · simp [hregister, hdrop, hplace]
      · by_cases hremove : st.removes? = some c
        · simp [hregister, hdrop, hplace, hremove]
        · simp [hregister, hdrop, hplace, hremove, Server.isStray]

/-- Which records of a run are stray. A record is stray in the end if the last stretch that has
decided about it has left it so, and otherwise not. There are at most as many records as conditions
and stray records. So as long as callbacks are registered for conditions only, and no condition that
has callbacks is deleted but by its owner or gives way to something else, every record is of a
condition, and there are no more records than conditions. -/
theorem strays_of_run {ambient : Ambient} {trace : List (dealings β).Stretch}
    {d : (dealings β).Config} (h : System.Run (.idle (dealings β) (.create ambient)) trace d) :
    (∀ c, d.state.isStray c = (System.latest (·.strands? c) trace).getD false) ∧
    d.state.tables.registry.size ≤ d.state.space.conditions.length + d.state.strays.length ∧
    ((∀ st ∈ trace, ∀ c, st.strands? c ≠ some true) →
      (∀ c, d.state.tables.registry.contains c = true → ∃ cs, d.state.space.condition c = .ok cs) ∧
      d.state.tables.registry.size ≤ d.state.space.conditions.length) := by
  have hstray (c : NodeId) : d.state.isStray c =
      (System.latest (·.strands? c) trace).getD false :=
    h.eq_latest (·.isStray c) fun st hst => (h.deed hst).isStray c
  refine ⟨hstray, d.state.registry_size_le, fun hno => ?_⟩
  have hnone (c : NodeId) : d.state.isStray c = false := by
    rw [hstray]
    cases hlatest : System.latest (·.strands? c) trace with
    | none => rfl
    | some b =>
      obtain ⟨fore, st, rest, rfl, hb, -⟩ := (System.latest_eq_some_iff _ _).1 hlatest
      have hne := hno st (by simp) c
      rw [hb] at hne
      simpa using hne
  constructor
  · intro c hc
    apply AddressSpace.isCondition_iff.1
    simpa [Server.isStray, hc] using hnone c
  · have hempty : d.state.strays = [] := by
      rw [List.eq_nil_iff_forall_not_mem]
      intro c hc
      rw [Server.mem_strays_iff, hnone c] at hc
      cases hc
    have hsize := d.state.registry_size_le
    rw [hempty, List.length_nil] at hsize
    exact hsize

/-- A condition is created in a new server. -/
def conditionCreated : (dealings Bool).Stretch :=
  .first _ 0 (.use createReserved) (.create (.start ⟨0, 0⟩))

/-- A callback is registered for it. -/
def callbackRegistered : (dealings Bool).Stretch :=
  .first _ 1 (.use (registerReserved true)) conditionCreated.after

/-- The handle that owns it is dropped. -/
def ownerDropped : (dealings Bool).Stretch :=
  .first _ 2 (.use (.drop ⟨.numeric 1 1, true⟩)) callbackRegistered.after

/-- The runtime deletes it. -/
def conditionDeleted : (dealings Bool).Stretch :=
  .first _ 2 (.use deleteReserved) callbackRegistered.after

/-- Where an owner deletes its condition no record is stray. -/
theorem strays_ownerDropped :
    ∃ d, System.Run (.idle (dealings Bool) (.create (.start ⟨0, 0⟩)))
        [conditionCreated, callbackRegistered, ownerDropped] d ∧
      callbackRegistered.after.tables.registry.size = 1 ∧
      d.state.tables.registry.size ≤ d.state.space.conditions.length := by
  have hrun : System.Run (.idle (dealings Bool) (.create (.start ⟨0, 0⟩)))
      [conditionCreated, callbackRegistered, ownerDropped] ⟨ownerDropped.after, 3, []⟩ :=
    .cons (.request_of_ends ⟨_, _, rfl⟩ 0 []) <| .cons (.request_of_ends ⟨_, _, rfl⟩ 1 []) <|
    .cons (.request_of_ends ⟨_, _, rfl⟩ 2 []) (.nil _)
  obtain ⟨-, -, hnone⟩ := strays_of_run hrun
  refine ⟨_, hrun, rfl, (hnone ?_).2⟩
  intro st hst c hstrands
  by_cases hc : c = .numeric 1 1
  · subst hc
    revert st
    decide
  · have hne : ¬ some (NodeId.numeric 1 1) = some c := fun he => hc (Option.some.inj he).symm
    have hone : ∃ b, (if some (.numeric 1 1) = some c then b else none) = some true := by
      simp only [List.mem_cons, List.not_mem_nil, or_false] at hst
      rcases hst with rfl | rfl | rfl <;> exact ⟨_, hstrands⟩
    obtain ⟨b, hb⟩ := hone
    rw [if_neg hne] at hb
    cases hb

/-- After a condition that has callbacks was deleted by the runtime its record is left, and there
are more records than conditions. -/
theorem stray_conditionDeleted :
    ∃ d, System.Run (.idle (dealings Bool) (.create (.start ⟨0, 0⟩)))
        [conditionCreated, callbackRegistered, conditionDeleted] d ∧
      d.state.tables.registry.contains (.numeric 1 1) = true ∧
      d.state.space.nodes.contains (.numeric 1 1) = false ∧
      ¬ d.state.tables.registry.size ≤ d.state.space.conditions.length := by
  have hrun : System.Run (.idle (dealings Bool) (.create (.start ⟨0, 0⟩)))
      [conditionCreated, callbackRegistered, conditionDeleted] ⟨conditionDeleted.after, 3, []⟩ :=
    .cons (.request_of_ends ⟨_, _, rfl⟩ 0 []) <| .cons (.request_of_ends ⟨_, _, rfl⟩ 1 []) <|
    .cons (.request_of_ends ⟨_, _, rfl⟩ 2 []) (.nil _)
  exact ⟨_, hrun, rfl, rfl, by decide⟩

end AlarmServer
