import AlarmServer.Proofs.Schemas
import Mathlib.Data.List.Forall2

/-!
# Publications

A publication by a notifier and a client method publish one event if they succeed, and nothing else
publishes any. The event shows a condition just as it can be read when it has been published: each
name that its type declares, what can be read under it, and no other name.
-/

namespace AlarmServer

open Interaction (After found)

variable {β : Type}

/-! ### What a snapshot shows -/

namespace ConditionState

variable {c : ConditionState}

private theorem readProperty_id_eq_ok_iff {k : TransitionKind} {v : Variant} :
    c.readProperty k "Id" = .ok v ↔ ∃ s, c.twoStates.find? k = some s ∧ v = .boolean s.id := by
  simp only [readProperty, except_bind_eq_ok_iff, twoState_eq_ok_iff, if_true, pure, Except.pure,
    Except.ok.injEq, eq_comm (a := v)]

private theorem readProperty_time_eq_ok_iff {k : TransitionKind} {v : Variant} :
    c.readProperty k "TransitionTime" = .ok v ↔ ∃ s, c.twoStates.find? k = some s ∧
      v = (s.transitionTime.map Variant.dateTime).getD .empty := by
  simp only [readProperty, except_bind_eq_ok_iff, twoState_eq_ok_iff]
  refine exists_congr fun s => and_congr_right fun _ => ?_
  cases s.transitionTime <;> simp [pure, Except.pure, eq_comm (a := v)]

end ConditionState

/-! ### Faithful events -/

/-- What the operations that read a condition give under the name that an event has for it. -/
inductive AddressSpace.Shows (sp : AddressSpace β) (i : NodeId) : String → Variant → Prop where
  /-- The value of a field. -/
  | field {f : Field} {v : Variant} (h : sp.readField i (.standard f.name) = .ok v) :
      Shows sp i f.name v
  /-- What a variable shows. -/
  | shown {k : TransitionKind} {v : Variant}
      (h : sp.readField i (.standard k.variableName) = .ok v) : Shows sp i k.variableName v
  /-- The state of a variable. -/
  | id {k : TransitionKind} {v : Variant}
      (h : sp.readProperty i (.standard k.variableName) (.standard "Id") = .ok v) :
      Shows sp i (k.variableName ++ "/Id") v
  /-- The time of the last transition of a variable, if it is set. -/
  | time {k : TransitionKind} {v : Variant}
      (h : sp.readProperty i (.standard k.variableName) (.standard "TransitionTime") = .ok v)
      (hv : v ≠ .empty) : Shows sp i (k.variableName ++ "/TransitionTime") v

/-- The names that an event of the condition has values for: those of its fields and variables, of
the states of its variables, and of the times of transitions that are set. -/
def AddressSpace.Names (sp : AddressSpace β) (i : NodeId) (t : ConditionType) (name : String) :
    Prop :=
  (∃ f ∈ t.fields, name = f.name) ∨ ∃ k ∈ t.kinds, name = k.variableName ∨
    name = k.variableName ++ "/Id" ∨ (name = k.variableName ++ "/TransitionTime" ∧
      ∃ time, sp.readProperty i (.standard k.variableName) (.standard "TransitionTime") =
        .ok (.dateTime time))

/-- The event shows its condition as it can be read. -/
structure ConditionEvent.Faithful (e : ConditionEvent) (sp : AddressSpace β) : Prop where
  /-- It has one value under each name. -/
  nodup : (e.fields.map Prod.fst).Nodup
  /-- It has the names that its condition has values for. -/
  names : ∃ c, sp.condition e.condition = .ok c ∧
    ∀ name, name ∈ e.fields.map Prod.fst ↔ sp.Names e.condition c.type name
  /-- It has what can be read. -/
  values : ∀ name v, (name, v) ∈ e.fields ↔ sp.Shows e.condition name v
  /-- A variable is shown as it is. -/
  states : ∀ (k : TransitionKind) b, (k.variableName ++ "/Id", Variant.boolean b) ∈ e.fields →
    (k.variableName, Variant.localizedText ⟨"en", k.stateText b⟩) ∈ e.fields
  /-- It has its own identifier. -/
  eventId : (Field.eventId.name, Variant.byteString e.eventId.bytes) ∈ e.fields
  /-- It has its own time. -/
  time : (Field.time.name, Variant.dateTime e.time) ∈ e.fields

section

variable {sp : AddressSpace β} {i : NodeId} {c : ConditionState}

private theorem mem_snapshot_iff_shows (hc : sp.condition i = .ok c) (name : String)
    (v : Variant) : (name, v) ∈ c.snapshot ↔ sp.Shows i name v := by
  rw [ConditionState.mem_snapshot_iff]
  constructor
  · rintro (⟨f, hf, rfl, rfl⟩ | ⟨k, s, hs, ⟨rfl, rfl⟩ | ⟨rfl, rfl⟩ | ⟨rfl, t, ht, rfl⟩⟩)
    · refine .field ?_
      rw [AddressSpace.readField_of_condition hc]
      exact ConditionState.read_field_eq_ok_iff.2 ⟨hf, rfl⟩
    · refine .shown ?_
      rw [AddressSpace.readField_of_condition hc]
      exact ConditionState.read_variable_eq_ok_iff.2 ⟨s, hs, rfl⟩
    · refine .id ?_
      rw [AddressSpace.readProperty_of_condition hc]
      exact ConditionState.readProperty_id_eq_ok_iff.2 ⟨s, hs, rfl⟩
    · refine .time ?_ (by simp)
      rw [AddressSpace.readProperty_of_condition hc]
      refine ConditionState.readProperty_time_eq_ok_iff.2 ⟨s, hs, ?_⟩
      rw [ht]
      rfl
  · intro h
    cases h with
    | @field f v h =>
      rw [AddressSpace.readField_of_condition hc] at h
      obtain ⟨hf, rfl⟩ := ConditionState.read_field_eq_ok_iff.1 h
      exact .inl ⟨f, hf, rfl, rfl⟩
    | @shown k v h =>
      rw [AddressSpace.readField_of_condition hc] at h
      obtain ⟨s, hs, rfl⟩ := ConditionState.read_variable_eq_ok_iff.1 h
      exact .inr ⟨k, s, hs, .inl ⟨rfl, rfl⟩⟩
    | @id k v h =>
      rw [AddressSpace.readProperty_of_condition hc] at h
      obtain ⟨s, hs, rfl⟩ := ConditionState.readProperty_id_eq_ok_iff.1 h
      exact .inr ⟨k, s, hs, .inr (.inl ⟨rfl, rfl⟩)⟩
    | @time k v h hv =>
      rw [AddressSpace.readProperty_of_condition hc] at h
      obtain ⟨s, hs, rfl⟩ := ConditionState.readProperty_time_eq_ok_iff.1 h
      cases ht : s.transitionTime with
      | none => simp [ht] at hv
      | some t => exact .inr ⟨k, s, hs, .inr (.inr ⟨rfl, t, ht, by simp⟩)⟩

private theorem mem_snapshot_names_iff (hc : sp.condition i = .ok c) (ht : c.WellTyped)
    (name : String) : name ∈ c.snapshot.map Prod.fst ↔ sp.Names i c.type name := by
  have htime : ∀ k time, sp.readProperty i (.standard k.variableName) (.standard "TransitionTime") =
      .ok (.dateTime time) ↔ ∃ s, c.twoStates.find? k = some s ∧ s.transitionTime = some time := by
    intro k time
    rw [AddressSpace.readProperty_of_condition hc]
    refine ConditionState.readProperty_time_eq_ok_iff.trans ?_
    refine exists_congr fun s => and_congr_right fun _ => ?_
    cases s.transitionTime <;> simp [eq_comm]
  have hentries : name ∈ c.snapshot.map Prod.fst ↔ ∃ v, (name, v) ∈ c.snapshot := by
    simp
  simp only [hentries, ConditionState.mem_snapshot_iff, AddressSpace.Names, htime,
    ← ht.exists_twoState_iff]
  constructor
  · rintro ⟨v, ⟨f, hf, hname, -⟩ | ⟨k, s, hs, hname⟩⟩
    · exact .inl ⟨f, hf, hname⟩
    · refine .inr ⟨k, ⟨s, hs⟩, ?_⟩
      rcases hname with ⟨hname, -⟩ | ⟨hname, -⟩ | ⟨hname, t, ht, -⟩
      · exact .inl hname
      · exact .inr (.inl hname)
      · exact .inr (.inr ⟨hname, t, s, hs, ht⟩)
  · rintro (⟨f, hf, hname⟩ | ⟨k, ⟨s, hs⟩, hname | hname | ⟨hname, t, s', hs', ht⟩⟩)
    · exact ⟨_, .inl ⟨f, hf, hname, rfl⟩⟩
    · exact ⟨_, .inr ⟨k, s, hs, .inl ⟨hname, rfl⟩⟩⟩
    · exact ⟨_, .inr ⟨k, s, hs, .inr (.inl ⟨hname, rfl⟩)⟩⟩
    · exact ⟨_, .inr ⟨k, s', hs', .inr (.inr ⟨hname, t, ht, rfl⟩)⟩⟩

private theorem faithful_of_snapshot {e : ConditionEvent} (hc : sp.condition e.condition = .ok c)
    (ht : c.WellTyped) (hfields : e.fields = c.snapshot)
    (hid : c.fields.find? .eventId = some (.byteString e.eventId.bytes))
    (htime : (Field.time.name, Variant.dateTime e.time) ∈ e.fields) : e.Faithful sp where
  nodup := by
    rw [hfields]
    exact c.nodup_snapshot
  names := by
    refine ⟨c, hc, ?_⟩
    rw [hfields]
    exact mem_snapshot_names_iff hc ht
  values := by
    rw [hfields]
    exact mem_snapshot_iff_shows hc
  states k b h := by
    rw [hfields] at h ⊢
    obtain ⟨s, hs, rfl⟩ := Option.map_eq_some_iff.1 (ConditionState.id_mem_snapshot_iff.1 h)
    exact ConditionState.mem_snapshot_iff.2 (.inr ⟨k, s, hs, .inl ⟨rfl, rfl⟩⟩)
  eventId := by
    have hmem := ConditionState.field_mem_snapshot (c := c) (c.mem_fields_of_base (f := .eventId)
      (by decide))
    rw [ConditionState.field, hid] at hmem
    rw [hfields]
    exact hmem
  time := htime

end

/-! ### Events of stretches and runs -/

/-- The condition that a request publishes where it stops, and the identifier that it gives. -/
def Request.publishes? : (r : Request β) →
    Interaction (upcalls β) (Server β) (Except StatusCode r.Reply) → Option (NodeId × EventId)
  | call (.trigger c _), y => y.gives?.map fun id => (c, id)
  | client _ c, y => y.gives?.map fun id => (c, id)
  | _, _ => none

/-- May the request publish a condition? -/
def Request.Publishes : Request β → Prop
  | call (.trigger ..) => True
  | client .. => True
  | _ => False

/-- The condition that a stretch publishes, and the identifier that it gives. -/
def System.Stretch.publishes? (st : (requests β).Stretch) : Option (NodeId × EventId) :=
  Request.publishes? st.request st.outcome

/-- What a publication has done to the address space. -/
structure AddressSpace.Published (c : NodeId) (id : EventId) (sp sp' : AddressSpace β)
    (e : ConditionEvent) : Prop where
  /-- One event is published. -/
  events : sp'.events = sp.events ++ [e]
  /-- It is about the condition. -/
  condition : e.condition = c
  /-- It has the identifier that is given. -/
  eventId : e.eventId = id
  /-- It has the snapshot of the condition, where the event is noted. -/
  snapshot : ∃ cs, sp'.condition c = .ok cs ∧ e.fields = cs.snapshot ∧
    cs.fields.find? .eventId = some (.byteString id.bytes)

/-- What has been published between two address spaces: nothing, or one event of the condition with
the identifier. -/
def AddressSpace.Publication (sp sp' : AddressSpace β) : Option (NodeId × EventId) → Prop
  | none => sp'.events = sp.events
  | some (c, id) => ∃ e, Published c id sp sp' e

namespace Request

open AddressSpace (Publication)

private theorem not_publishes_of_may {r : Request β} (hr : ¬ r.Publishes) {ch : Change β}
    (h : r.May ch) {sp sp' : AddressSpace β} : ¬ ch.Publishes sp sp' := by
  rintro ⟨id, source, eventId, now, c, rfl, -⟩
  cases makes_of_may h with
  | trigger | publish => exact hr trivial

variable {s : Server β} {es : List (Exchange (upcalls β) (Server β))}

private theorem published_of_trigger {c source : NodeId}
    {y : Interaction (upcalls β) (Server β) (Except StatusCode EventId)}
    (h : After ((Service.trigger c source).run s) es y) :
    Publication (found s es).space y.state.space (y.gives?.map fun id => (c, id)) := by
  rcases Service.trigger_run c source s with ⟨e, hrun⟩ | ⟨cs, t, hc, hrun, hb, -⟩
  · rw [hrun] at h
    obtain ⟨rfl, rfl⟩ := Interaction.after_done_iff.1 h
    rfl
  · rw [hrun] at h
    obtain ⟨rfl, rfl⟩ := Interaction.after_done_iff.1 h
    let id := EventId.drawn s.drawn
    refine ⟨(cs.noted id s.now).event c source id s.now, ?_, rfl, rfl, cs.noted id s.now, ?_, rfl,
      ?_⟩
    · rw [Interaction.state_done, hb.space]
      rfl
    · rw [Interaction.state_done, hb.space]
      exact AddressSpace.condition_setCondition hc _
    · simp [ConditionState.noted, Table.find?_insert, id]

private theorem published_of_client {m : ClientMethod} {c : NodeId}
    {y : Interaction (upcalls β) (Server β) (Except StatusCode EventId)}
    (h : After ((m.perform c).run s) es y) :
    Publication (found s es).space y.state.space (y.gives?.map fun id => (c, id)) := by
  have hatomic : m.Atomic c s es y := ClientMethod.outcome_of_after h
  cases y with
  | ask q t resume =>
    obtain ⟨rfl, hb⟩ := hatomic
    exact congrArg _ hb.space
  | done r t =>
    cases r with
    | error e => exact congrArg _ hatomic.1.space
    | ok id =>
      obtain ⟨n, cs, cs', event, hn, -, hn', htrans, hevents, htells⟩ := hatomic.2.condition
      refine ⟨event, hevents, htells.condition, htells.eventId, cs', ?_, htells.fields,
        htrans.eventId⟩
      exact AddressSpace.condition_eq_ok_iff.2 ⟨_, hn', rfl⟩

end Request

/-- A stretch that publishes a condition publishes one event of it, and no other stretch publishes
any. -/
theorem System.Stretch.Genuine.publication {st : (requests β).Stretch} (h : st.Genuine) :
    AddressSpace.Publication st.before.space st.after.space st.publishes? := by
  have hnone (hr : ¬ Request.Publishes st.request) :
      AddressSpace.Publication st.before.space st.after.space none := by
    refine h.changed.same AddressSpace.events ?_
    intro ch sp sp' hm ha
    rcases (Change.effect_of_apply ha).events with he | he
    · exact he
    · exact absurd he (Request.not_publishes_of_may hr hm)
  obtain ⟨serial, r, s, es, before, y⟩ := st
  have hbefore : before = found s es := h.before
  have hafter : After ((Request.perform r).run s) es y := h.outcome
  subst hbefore
  cases r with
  | client m c => exact Request.published_of_client hafter
  | call c =>
    cases c with
    | trigger c source => exact Request.published_of_trigger hafter
    | _ => exact hnone not_false
  | _ => exact hnone not_false

/-- The counter of the events tells how many there are. -/
def AddressSpace.Counted (sp : AddressSpace β) : Prop := sp.published = sp.events.length

private theorem counted_of_apply {ch : Change β} {sp sp' : AddressSpace β}
    (ha : ch.apply sp = .ok sp') (h : sp.Counted) : sp'.Counted := by
  cases ch with
  | addObject parent name =>
    obtain ⟨⟨id, sp₁⟩, hadd, rfl⟩ := except_map_eq_ok_iff.1 ha
    obtain ⟨-, -, rfl⟩ := AddressSpace.addPart_eq_ok_iff.1 hadd
    exact h
  | addVariable parent name value level =>
    obtain ⟨⟨id, sp₁⟩, hadd, rfl⟩ := except_map_eq_ok_iff.1 ha
    obtain ⟨-, -, rfl⟩ := AddressSpace.addPart_eq_ok_iff.1 hadd
    exact h
  | createCondition now r =>
    obtain ⟨⟨id, sp₁⟩, hadd, rfl⟩ := except_map_eq_ok_iff.1 ha
    obtain ⟨type, source, sp₂, -, -, -, -, hid, rfl⟩ :=
      AddressSpace.createCondition_eq_ok_iff.1 hadd
    have hcounted : sp₂.Counted := by
      rcases AddressSpace.conditionId_eq_ok_iff.1 hid with ⟨-, -, -, rfl⟩ | ⟨-, halloc⟩
      · exact h
      · cases halloc
        exact h
    cases r.parentReference <;> exact hcounted
  | setNotifier id notifier =>
    obtain ⟨-, rfl⟩ := AddressSpace.setNotifier_eq_ok_iff.1 ha
    exact h
  | addReference source target type =>
    obtain ⟨-, -, -, rfl⟩ := AddressSpace.addReference_eq_ok_iff.1 ha
    exact h
  | writeValue id value =>
    obtain ⟨v, -, -, -, rfl⟩ := AddressSpace.writeValue_eq_ok_iff.1 ha
    exact h
  | watch id callback =>
    obtain ⟨-, rfl⟩ := AddressSpace.watch_eq_ok_iff.1 ha
    exact h
  | deleteNode id refs =>
    obtain ⟨-, rfl⟩ := AddressSpace.deleteNode_eq_ok_iff.1 ha
    exact h
  | writeField id field value =>
    obtain ⟨c, f, -, -, rfl⟩ := AddressSpace.writeField_eq_ok_iff.1 ha
    exact h
  | commit id kind value now =>
    obtain ⟨c, ts, -, -, rfl⟩ := AddressSpace.commit_eq_ok_iff.1 ha
    exact h
  | setTransitionTime id kind time =>
    obtain ⟨c, ts, -, -, rfl⟩ := AddressSpace.setTransitionTime_eq_ok_iff.1 ha
    exact h
  | installHook hook =>
    obtain ⟨c, -, -, -, rfl⟩ := AddressSpace.installHook_eq_ok_iff.1 ha
    exact h
  | publish id source eventId now =>
    obtain ⟨c, -, rfl⟩ := AddressSpace.publish_eq_ok_iff.1 ha
    show sp.published + 1 = (sp.events ++ [_]).length
    rw [List.length_append, List.length_singleton, h]

/-- In every state that a run reaches the counter tells how many events there are. -/
theorem counted_of_run {ambient : Ambient} {trace : List (requests β).Stretch}
    {d : (requests β).Config} (h : System.Run (.idle (requests β) (.create ambient)) trace d) :
    d.state.space.Counted := by
  refine h.invariant (P := fun _ s => s.space.Counted) rfl ?_
  rintro fore st rest - hg hcounted
  exact hg.changed.preserves (fun _ _ _ _ => counted_of_apply) hcounted

-- All events have the time that they show, and all conditions are well-typed.
private def AddressSpace.Timed (sp : AddressSpace β) : Prop :=
  sp.WellTyped ∧ ∀ e ∈ sp.events, (Field.time.name, Variant.dateTime e.time) ∈ e.fields

-- An event takes its time from the condition, where it is never missing.
private theorem timed_of_effect {ch : Change β} {sp sp' : AddressSpace β} (h : sp.Timed)
    (he : ch.Effect sp sp') : sp'.Timed := by
  obtain ⟨ht, htimes⟩ := h
  refine ⟨ht.of_effect he, ?_⟩
  intro e hmem
  rcases he.events with hsame | ⟨id, source, eventId, now, c, -, hc, hnew⟩
  · rw [hsame] at hmem
    exact htimes e hmem
  · rw [hnew] at hmem
    rcases List.mem_append.1 hmem with hmem | hmem
    · exact htimes e hmem
    · rw [List.mem_singleton.1 hmem]
      have hnoted := (ht.conditions id c hc).noted eventId now
      rw [← hnoted.time_event]
      exact ConditionState.field_mem_snapshot (ConditionState.mem_fields_of_base _ (by decide))

private theorem timed_after {st : (requests β).Stretch} (hst : st.Genuine)
    (h : st.before.space.Timed) : st.after.space.Timed :=
  hst.preserves (fun he hp => timed_of_effect hp he) h

/-- The stretch publishes the event, and the event is faithful. -/
def System.Stretch.Tells (st : (requests β).Stretch) (e : ConditionEvent) : Prop :=
  ∃ c id, st.publishes? = some (c, id) ∧
    AddressSpace.Published c id st.before.space st.after.space e ∧ e.Faithful st.after.space

private theorem tells_of_published {st : (requests β).Stretch} {c : NodeId} {id : EventId}
    {e : ConditionEvent} (hp : st.publishes? = some (c, id)) (ht : st.after.space.Timed)
    (he : AddressSpace.Published c id st.before.space st.after.space e) : st.Tells e := by
  refine ⟨c, id, hp, he, ?_⟩
  obtain ⟨cs, hcs, hfields, hid⟩ := he.snapshot
  rw [← he.condition] at hcs
  rw [← he.eventId] at hid
  refine faithful_of_snapshot hcs (ht.1.conditions _ cs hcs) hfields hid (ht.2 e ?_)
  rw [he.events]
  exact List.mem_append_right _ (List.mem_singleton.2 rfl)

/-- The events of a run are, in order, one for each stretch in which a publication or a client
method succeeds, also inside of callbacks; so many are counted, and no other stretch publishes any.
Each event shows the condition as it can be read where the stretch ends. -/
theorem publications_of_run {ambient : Ambient} {trace : List (requests β).Stretch}
    {d : (requests β).Config} (h : System.Run (.idle (requests β) (.create ambient)) trace d) :
    List.Forall₂ System.Stretch.Tells (trace.filter fun st => st.publishes?.isSome)
        d.state.space.events ∧
      d.state.space.published = trace.countP (fun st => st.publishes?.isSome) ∧
      ∀ st ∈ trace, st.publishes? = none → st.after.space.events = st.before.space.events := by
  have hall : List.Forall₂ System.Stretch.Tells (trace.filter fun st => st.publishes?.isSome)
      d.state.space.events := by
    refine (h.invariant (P := fun fore s => s.space.Timed ∧ List.Forall₂ System.Stretch.Tells
      (fore.filter fun st => st.publishes?.isSome) s.space.events)
      ⟨⟨AddressSpace.wellTyped_initial, fun _ he => nomatch he⟩, .nil⟩ ?_).2
    rintro fore st rest - hg ⟨htimed, hfore⟩
    have hafter := timed_after hg htimed
    refine ⟨hafter, ?_⟩
    have hpublication := hg.publication
    rw [List.filter_append]
    cases hp : st.publishes? with
    | none =>
      rw [hp] at hpublication
      have hsame : st.after.space.events = st.before.space.events := hpublication
      rw [hsame, List.filter_singleton, hp, Option.isSome_none, cond_false, List.append_nil]
      exact hfore
    | some p =>
      obtain ⟨c, id⟩ := p
      rw [hp] at hpublication
      obtain ⟨e, he⟩ := hpublication
      rw [he.events, List.filter_singleton, hp, Option.isSome_some]
      exact List.rel_append hfore (.cons (tells_of_published hp hafter he) .nil)
  refine ⟨hall, ?_, ?_⟩
  · rw [counted_of_run h, ← hall.length_eq, List.countP_eq_length_filter]
  · intro st hst hp
    have hpublication := (h.genuine hst).publication
    rw [hp] at hpublication
    exact hpublication

/-- A condition is created and enabled. One event tells of that, and it is faithful. -/
theorem publications_enabled :
    ∃ trace d e, System.Run (.idle (requests Unit) (.create (.start ⟨0, 0⟩))) trace d ∧
      d.state.space.events = [e] ∧ e.Faithful d.state.space := by
  let first := reserved (.numeric 1 1)
  let enabling : Request Unit := .client (.enable none) (.numeric 1 1)
  let second := System.Stretch.first (requests Unit) 1 enabling first.after
  obtain ⟨id, t, hdone⟩ : ∃ (id : EventId) (t : Server Unit),
      (requests Unit).perform enabling first.after = .done (.ok id) t := ⟨_, _, rfl⟩
  have hrun : System.Run (.idle (requests Unit) (.create (.start ⟨0, 0⟩))) [first, second]
      ⟨second.after, 2, []⟩ :=
    .cons (.request_of_ends ⟨_, _, rfl⟩ 0 []) (.cons (.request_of_ends ⟨_, t, hdone⟩ 1 []) (.nil _))
  have hfirst : first.publishes? = none := rfl
  have hsecond : second.publishes? = some (.numeric 1 1, id) := by
    show Request.publishes? enabling ((requests Unit).perform enabling first.after) = _
    rw [hdone]
    rfl
  have hfilter : [first, second].filter (fun st => st.publishes?.isSome) = [second] := by
    simp [hfirst, hsecond]
  obtain ⟨hall, -⟩ := publications_of_run hrun
  rw [hfilter] at hall
  obtain ⟨e, es, htells, hes, hevents⟩ := List.forall₂_cons_left_iff.1 hall
  rw [List.forall₂_nil_left_iff.1 hes] at hevents
  obtain ⟨c, id', -, -, hfaithful⟩ := htells
  exact ⟨_, _, e, hrun, hevents, hfaithful⟩

end AlarmServer
