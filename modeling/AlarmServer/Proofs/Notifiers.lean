import AlarmServer.Proofs.Publications
import AlarmServer.Proofs.Roles

/-!
# Notifiers

Events of a condition may leave from a node that is marked as a notifier, and is the source of the
condition or refers to it. A publication by a notifier checks that. A client method does not: its
event leaves from the source of the condition, whether that is marked or not, and even if it is
gone.
-/

namespace AlarmServer

open Interaction (After found)

variable {β : Type}

/-! ### Marked nodes -/

namespace AddressSpace

variable {sp : AddressSpace β}

/-- Is the node there, and marked as a notifier? -/
def notifies (sp : AddressSpace β) (i : NodeId) : Bool := (sp.role? i).any Role.notifier

private theorem notifies_eq_true_iff {i : NodeId} :
    sp.notifies i = true ↔ ∃ n, sp.nodes.find? i = some n ∧ n.notifier = true := by
  rw [notifies, role?, Option.any_map, Option.any_eq_true]
  rfl

private theorem notifies_initial (i : NodeId) :
    (initial : AddressSpace β).notifies i = decide (i = .serverObject) := by
  rw [notifies, role?_initial]
  by_cases hs : i = .serverObject
  · simp [hs]
  · rw [if_neg hs]
    split <;> simp [hs]

/-- Events of a condition may leave from a notifier that is its own source, or that holds a
reference by which events of that source leave. -/
theorem checkNotifier_eq_ok_iff {source own : NodeId} :
    sp.checkNotifier source own = .ok () ↔ ∃ n, sp.nodes.find? source = some n ∧
      n.notifier = true ∧ (source = own ∨ notifiesFor n own = true) := by
  unfold checkNotifier
  cases sp.nodes.find? source with
  | none => simp
  | some n =>
    have hguard : (n.notifier && (decide (source = own) || notifiesFor n own)) = true ↔
        n.notifier = true ∧ (source = own ∨ notifiesFor n own = true) := by
      simp only [Bool.and_eq_true, Bool.or_eq_true, decide_eq_true_eq]
    simp only [hguard, Option.some.injEq, exists_eq_left', ite_eq_left_iff, reduceCtorEq, imp_false,
      not_not]

end AddressSpace

/-- What a stretch decides about the mark of a node: where it is placed and where it is deleted as
well as where it is marked or not. -/
def System.Stretch.decides? (st : (requests β).Stretch) (i : NodeId) : Option Bool :=
  if st.placed? = some i then some ((Request.newRole? st.request).any Role.notifier)
  else if st.deletes? = some i then some false
  else match st.marks? with
    | some (id, notifier) => if i = id then some notifier else none
    | none => none

section

variable {st : (requests β).Stretch}

private theorem isSome_role?_of_marks (h : st.Genuine) {id : NodeId} {notifier : Bool}
    (hm : st.marks? = some (id, notifier)) : (st.before.space.role? id).isSome := by
  obtain ⟨serial, r, s, es, before, y⟩ := st
  have hbefore : before = found s es := h.before
  have hafter : After ((Request.perform r).run s) es y := h.outcome
  subst hbefore
  cases r with
  | setNotifier i b =>
    obtain ⟨rfl, hy⟩ :=
      (Service.immediate_act_unit (SpaceAction.checksFirst_setNotifier i b) s).of_after hafter
    cases hy with
    | failed e => cases hm
    | succeeded hset =>
      cases hm
      rw [AddressSpace.isSome_role?]
      exact (AddressSpace.setNotifier_eq_ok_iff.1 hset).1
  | _ => cases hm

/-- A node is marked after a stretch if the stretch has decided so, or if it was marked before and
nothing was decided. -/
theorem System.Stretch.Genuine.notifies (h : st.Genuine) (i : NodeId) :
    st.after.space.notifies i = (st.decides? i).getD (st.before.space.notifies i) := by
  rw [AddressSpace.notifies, h.role?, System.Stretch.turns, System.Stretch.decides?]
  split
  · rfl
  · split
    · rfl
    · cases hm : st.marks? with
      | none => rfl
      | some m =>
        obtain ⟨id, notifier⟩ := m
        by_cases hi : i = id
        · subst hi
          obtain ⟨role, hrole⟩ := Option.isSome_iff_exists.1 (isSome_role?_of_marks h hm)
          simp [hrole]
        · simp [hi, AddressSpace.notifies]

end

/-! ### Departures -/

namespace ConditionEvent

/-- May the event leave from its source? That must be a node that is marked as a notifier, and be
the source of the condition or refer to it. -/
def Permitted (e : ConditionEvent) (sp : AddressSpace β) : Prop :=
  ∃ n c, sp.nodes.find? e.source = some n ∧ n.notifier = true ∧ sp.condition e.condition = .ok c ∧
    (e.source = c.source ∨ ∃ r ∈ n.references, r.target = c.source ∧
      (r.type = .hasNotifier ∨ r.type = .hasEventSource))

variable {e : ConditionEvent} {sp : AddressSpace β} {c : ConditionState}

/-- This is what a publication by a notifier checks. -/
theorem permitted_iff_checkNotifier (hc : sp.condition e.condition = .ok c) :
    e.Permitted sp ↔ sp.checkNotifier e.source c.source = .ok () := by
  have hrefers (n : Node) : AddressSpace.notifiesFor n c.source = true ↔ ∃ r ∈ n.references,
      r.target = c.source ∧ (r.type = .hasNotifier ∨ r.type = .hasEventSource) := by
    simp [AddressSpace.notifiesFor, List.any_eq_true]
  rw [AddressSpace.checkNotifier_eq_ok_iff]
  constructor
  · rintro ⟨n, d, hn, hnotifier, hd, hor⟩
    rw [hc] at hd
    cases hd
    exact ⟨n, hn, hnotifier, hor.imp_right (hrefers n).2⟩
  · rintro ⟨n, hn, hnotifier, hor⟩
    exact ⟨n, c, hn, hnotifier, hc, hor.imp_right (hrefers n).1⟩

/-- From the source of its condition an event may leave if that is marked. -/
theorem permitted_iff_notifies (hc : sp.condition e.condition = .ok c)
    (hown : e.source = c.source) : e.Permitted sp ↔ sp.notifies e.source = true := by
  rw [AddressSpace.notifies_eq_true_iff]
  constructor
  · rintro ⟨n, -, hn, hnotifier, -⟩
    exact ⟨n, hn, hnotifier⟩
  · rintro ⟨n, hn, hnotifier⟩
    exact ⟨n, c, hn, hnotifier, hc, .inl hown⟩

end ConditionEvent

/-- How an event leaves that a stretch publishes. -/
inductive System.Stretch.Departs (st : (requests β).Stretch) (e : ConditionEvent) : Prop where
  /-- A notifier publishes the condition. The event may leave from it. -/
  | checked (hr : st.request = Request.call (.trigger e.condition e.source))
      (h : e.Permitted st.after.space)
  /-- A client method publishes the condition from its own source. The event may leave from there
  exactly if that is marked. -/
  | unchecked {m : ClientMethod} {c : ConditionState}
      (hr : st.request = Request.client m e.condition)
      (hc : st.after.space.condition e.condition = .ok c) (hown : e.source = c.source)
      (h : e.Permitted st.after.space ↔ st.after.space.notifies e.source = true)

section

variable {s : Server β} {es : List (Exchange (upcalls β) (Server β))} {c source : NodeId}

private theorem checkNotifier_of_trigger {cs : ConditionState} {id : EventId} {t : Server β}
    (h : (Service.trigger c source).run s = .done (.ok id) t) (hc : s.space.condition c = .ok cs) :
    s.space.checkNotifier source cs.source = .ok () := by
  rw [Service.trigger, Service.query_bind_run, hc] at h
  change (Service.query _ >>= fun _ => Service.publish c source : Service β EventId).run s = _ at h
  rw [Service.query_bind_run] at h
  cases hcheck : s.space.checkNotifier source cs.source with
  | error e =>
    rw [hcheck] at h
    cases h
  | ok _ => rfl

private theorem checkNotifier_setCondition {sp : AddressSpace β} {own : NodeId}
    (h : sp.checkNotifier source own = .ok ()) (d : ConditionState) :
    (sp.setCondition c d).checkNotifier source own = .ok () := by
  rw [AddressSpace.checkNotifier_eq_ok_iff] at h ⊢
  obtain ⟨n, hn, hnotifier, hrefers⟩ := h
  by_cases hs : source = c
  · refine ⟨{ n with body := .condition d }, ?_, hnotifier, hrefers⟩
    simp [AddressSpace.setCondition, AddressSpace.modifyNode, Table.find?_modify, ← hs, hn]
  · refine ⟨n, ?_, hnotifier, hrefers⟩
    simp [AddressSpace.setCondition, AddressSpace.modifyNode, Table.find?_modify, hs, hn]

private theorem departs_of_trigger
    {y : Interaction (upcalls β) (Server β) (Except StatusCode EventId)}
    (h : After ((Service.trigger c source).run s) es y) (hy : y.gives?.isSome) :
    ∃ e, y.state.space.events = (found s es).space.events ++ [e] ∧ e.condition = c ∧
      e.source = source ∧ e.Permitted y.state.space := by
  rcases Service.trigger_run c source s with ⟨e, hrun⟩ | ⟨cs, t, hc, hrun, hb, -⟩
  · rw [hrun] at h
    obtain ⟨rfl, rfl⟩ := Interaction.after_done_iff.1 h
    cases hy
  · have hcheck := checkNotifier_of_trigger hrun hc
    rw [hrun] at h
    obtain ⟨rfl, rfl⟩ := Interaction.after_done_iff.1 h
    let id := EventId.drawn s.drawn
    refine ⟨(cs.noted id s.now).event c source id s.now, ?_, rfl, rfl, ?_⟩
    · rw [Interaction.state_done, hb.space]
      rfl
    · have hcondition : t.space.condition c = .ok (cs.noted id s.now) := by
        rw [hb.space]
        exact AddressSpace.condition_setCondition hc _
      rw [Interaction.state_done, ConditionEvent.permitted_iff_checkNotifier hcondition, hb.space]
      exact checkNotifier_setCondition hcheck _

private theorem departs_of_client {m : ClientMethod}
    {y : Interaction (upcalls β) (Server β) (Except StatusCode EventId)}
    (h : After ((m.perform c).run s) es y) (hy : y.gives?.isSome) :
    ∃ e cs, y.state.space.events = (found s es).space.events ++ [e] ∧ e.condition = c ∧
      y.state.space.condition c = .ok cs ∧ e.source = cs.source := by
  have hatomic : m.Atomic c s es y := ClientMethod.outcome_of_after h
  cases y with
  | ask q t resume => cases hy
  | done r t =>
    cases r with
    | error e => cases hy
    | ok id =>
      obtain ⟨n, cs, cs', e, -, -, hn', -, hevents, htells⟩ := hatomic.2.condition
      exact ⟨e, cs', hevents, htells.condition, AddressSpace.condition_eq_ok_iff.2 ⟨_, hn', rfl⟩,
        htells.source⟩

end

private theorem departs_of_publishes {st : (requests β).Stretch} (h : st.Genuine)
    (hp : st.publishes?.isSome) :
    ∃ e, st.after.space.events = st.before.space.events ++ [e] ∧ st.Departs e := by
  obtain ⟨serial, r, s, es, before, y⟩ := st
  have hbefore : before = found s es := h.before
  have hafter : After ((Request.perform r).run s) es y := h.outcome
  subst hbefore
  have hgives (y : Interaction (upcalls β) (Server β) (Except StatusCode EventId)) (c : NodeId)
      (h : (y.gives?.map fun id => (c, id)).isSome) : y.gives?.isSome := by
    rwa [Option.isSome_map] at h
  cases r with
  | client m c =>
    obtain ⟨e, cs, hevents, rfl, hc, hown⟩ := departs_of_client hafter (hgives _ c hp)
    exact ⟨e, hevents, .unchecked rfl hc hown (ConditionEvent.permitted_iff_notifies hc hown)⟩
  | call call =>
    cases call with
    | trigger c source =>
      obtain ⟨e, hevents, rfl, rfl, hpermitted⟩ := departs_of_trigger hafter (hgives _ c hp)
      exact ⟨e, hevents, .checked rfl hpermitted⟩
    | _ => cases hp
  | _ => cases hp

private theorem decides?_of_publishes {st : (requests β).Stretch} (h : st.Genuine)
    (hp : st.publishes?.isSome) (i : NodeId) : st.decides? i = none := by
  have hquiet : ¬ Request.Creates st.request ∧ st.deletes? = none ∧ st.marks? = none := by
    obtain ⟨serial, r, s, es, before, y⟩ := st
    cases r with
    | client m c => exact ⟨not_false, rfl, rfl⟩
    | call call =>
      cases call with
      | trigger c source => exact ⟨not_false, rfl, rfl⟩
      | _ => cases hp
    | _ => cases hp
  obtain ⟨hc, hd, hm⟩ := hquiet
  simp [System.Stretch.decides?, h.placed?_eq_none hc, hd, hm]

section

variable {ambient : Ambient} {trace : List (requests β).Stretch} {d : (requests β).Config}

private theorem departures_in_order
    (h : System.Run (.idle (requests β) (.create ambient)) trace d) :
    List.Forall₂ (fun st e => st.after.space.events = st.before.space.events ++ [e] ∧ st.Departs e)
      (trace.filter fun st => st.publishes?.isSome) d.state.space.events := by
  refine h.invariant (P := fun fore s => List.Forall₂ _
    (fore.filter fun st => st.publishes?.isSome) s.space.events) .nil ?_
  intro fore st rest _ hg hfore
  rw [List.filter_append, List.filter_singleton]
  cases hp : st.publishes? with
  | none =>
    have hsame : st.after.space.events = st.before.space.events := by
      have hpublication := hg.publication
      rwa [hp] at hpublication
    rw [hsame, Option.isSome_none, cond_false, List.append_nil]
    exact hfore
  | some p =>
    obtain ⟨e, hevents, hdeparts⟩ := departs_of_publishes hg (by rw [hp]; rfl)
    rw [hevents, Option.isSome_some, cond_true]
    exact List.rel_append hfore (.cons ⟨hevents, hdeparts⟩ .nil)

private theorem notifies_of_publishes {fore rest : List (requests β).Stretch}
    {st : (requests β).Stretch}
    (h : System.Run (.idle (requests β) (.create ambient)) (fore ++ st :: rest) d)
    (hp : st.publishes?.isSome) (i : NodeId) :
    st.after.space.notifies i =
      (System.latest (·.decides? i) fore).getD (decide (i = .serverObject)) := by
  have hbefore := h.invariant_before (P := fun old s => s.space.notifies i =
    (System.latest (·.decides? i) old).getD (decide (i = .serverObject)))
    (AddressSpace.notifies_initial i) fun old f _ _ hf hold => by
      rw [hf.notifies, hold, System.latest_concat, Option.getD_or]
  have hst : st.Genuine := h.genuine (by simp)
  rw [hst.notifies, decides?_of_publishes hst hp, ← hbefore]
  rfl

end

/-- Where the events of a run leave from. Each is published by one stretch, in order. A publication
by a notifier lets its event leave from that notifier, from which it may leave. A client method lets
its event leave from the source of its condition, from which it may leave exactly if that is there
and marked: if the last stretch that has decided about it, by placing, marking or deleting the node,
has marked it, or if it is the server object and none has decided. -/
theorem departures_of_run {ambient : Ambient} {trace : List (requests β).Stretch}
    {d : (requests β).Config} (h : System.Run (.idle (requests β) (.create ambient)) trace d) :
    List.Forall₂ (fun st e => st.after.space.events = st.before.space.events ++ [e] ∧ st.Departs e)
        (trace.filter fun st => st.publishes?.isSome) d.state.space.events ∧
      ∀ fore st rest, trace = fore ++ st :: rest → st.publishes?.isSome → ∀ i,
        st.after.space.notifies i =
          (System.latest (·.decides? i) fore).getD (decide (i = .serverObject)) := by
  refine ⟨departures_in_order h, ?_⟩
  rintro fore st rest rfl hp i
  exact notifies_of_publishes h hp i

/-- A client enables the condition that was created before. -/
def enabledAfter : (requests Unit).Stretch :=
  .first (requests Unit) 1 (.client (.enable none) (.numeric 1 1)) (reserved (.numeric 1 1)).after

/-- A condition of the server object is enabled. The event may leave from there. -/
theorem departures_enabled :
    ∃ d e, System.Run (.idle (requests Unit) (.create (.start ⟨0, 0⟩)))
        [reserved (.numeric 1 1), enabledAfter] d ∧
      d.state.space.events = [e] ∧ e.source = .serverObject ∧ e.Permitted d.state.space := by
  have hrun : System.Run (.idle (requests Unit) (.create (.start ⟨0, 0⟩)))
      [reserved (.numeric 1 1), enabledAfter] ⟨enabledAfter.after, 2, []⟩ :=
    .cons (.request_of_ends ⟨_, _, rfl⟩ 0 []) (.cons (.request_of_ends ⟨_, _, rfl⟩ 1 []) (.nil _))
  obtain ⟨hall, hmarked⟩ := departures_of_run hrun
  have hfilter : [reserved (.numeric 1 1), enabledAfter].filter (fun st => st.publishes?.isSome) =
      [enabledAfter] := rfl
  rw [hfilter] at hall
  obtain ⟨e, es, ⟨-, hdeparts⟩, hes, hevents⟩ := List.forall₂_cons_left_iff.1 hall
  rw [List.forall₂_nil_left_iff.1 hes] at hevents
  cases hdeparts with
  | checked hr _ => cases hr
  | @unchecked m c hr hc hown hiff =>
    have hcondition : e.condition = .numeric 1 1 := (Request.client.inj hr).2.symm
    have hsource : e.source = .serverObject := by
      rw [hcondition] at hc
      cases hc
      exact hown
    have hopen := hmarked [reserved (.numeric 1 1)] enabledAfter [] rfl rfl e.source
    rw [hsource] at hopen
    exact ⟨_, e, hrun, hevents, hsource, hiff.2 (by rw [hsource, hopen]; rfl)⟩

/-- A condition is created at the object that was added first. -/
def overheatAtTank : Request Unit := .call (.createCondition
  { conditionType := ConditionType.offNormal.node, browseName := .standard "Overheat"
    source := .numeric 1 50000, parentReference := none, requestedId := none })

/-- An object is added to a new server. -/
def addedTank : (requests Unit).Stretch :=
  .first (requests Unit) 0 addTank (.create (.start ⟨0, 0⟩))

/-- A condition is created at it. -/
def createdAtTank : (requests Unit).Stretch :=
  .first (requests Unit) 1 overheatAtTank addedTank.after

/-- A client acknowledges the condition. -/
def acknowledgedAtTank : (requests Unit).Stretch :=
  .first (requests Unit) 2 (.client (.acknowledge none none) (.numeric 1 50001)) createdAtTank.after

/-- An object from which no events may leave refuses to publish its condition. Once a client has
acknowledged the condition an event has left from there. -/
theorem departure_unmarked :
    ∃ d e, System.Run (.idle (requests Unit) (.create (.start ⟨0, 0⟩)))
        [addedTank, createdAtTank, acknowledgedAtTank] d ∧
      (Service.trigger (.numeric 1 50001) (.numeric 1 50000)).run createdAtTank.after =
        .done (.error .badSourceNodeIdInvalid) createdAtTank.after ∧
      d.state.space.events = [e] ∧ e.source = .numeric 1 50000 ∧ ¬ e.Permitted d.state.space := by
  have hrun : System.Run (.idle (requests Unit) (.create (.start ⟨0, 0⟩)))
      [addedTank, createdAtTank, acknowledgedAtTank] ⟨acknowledgedAtTank.after, 3, []⟩ :=
    .cons (.request_of_ends ⟨_, _, rfl⟩ 0 []) <| .cons (.request_of_ends ⟨_, _, rfl⟩ 1 []) <|
    .cons (.request_of_ends ⟨_, _, rfl⟩ 2 []) (.nil _)
  refine ⟨_, _, hrun, rfl, rfl, rfl, ?_⟩
  rintro ⟨n, c, hn, hnotifier, -⟩
  cases hn
  cases hnotifier

end AlarmServer
