import AlarmServer.Proofs.Mediation
import AlarmServer.Proofs.Writes

/-!
# On/off alarms that are off

An alarm that is switched off loses its acknowledgement and its confirmation. A client may still
acknowledge or confirm it while it is off. From then on, and until the next switch, it is shown as
acknowledged or confirmed although it is off; and that is the only way to get there.
-/

namespace AlarmServer

open Interaction (After found Keeps)
open Server (Beside)
open ServerAction (Does)

variable {β : Type}

/-! ### What is reported of an alarm -/

/-- The alarm is off, and acknowledged or confirmed all the same. -/
def AddressSpace.Stale (sp : AddressSpace β) (c : NodeId) : Prop :=
  sp.idOf c .active = some false ∧ (sp.idOf c .acked = some true ∨ sp.idOf c .confirmed = some true)

instance (sp : AddressSpace β) (c : NodeId) : Decidable (sp.Stale c) :=
  inferInstanceAs (Decidable (_ ∧ _))

namespace ConditionEvent

/-- Does the event show the variable in the state? -/
def Shows (e : ConditionEvent) (k : TransitionKind) (b : Bool) : Prop :=
  (k.variableName ++ "/Id", .boolean b) ∈ e.fields

/-- Does the event show an alarm that is off, and acknowledged or confirmed all the same? -/
def Stale (e : ConditionEvent) : Prop :=
  e.Shows .active false ∧ (e.Shows .acked true ∨ e.Shows .confirmed true)

instance (e : ConditionEvent) (k : TransitionKind) (b : Bool) : Decidable (e.Shows k b) :=
  inferInstanceAs (Decidable (_ ∈ _))

instance (e : ConditionEvent) : Decidable e.Stale :=
  inferInstanceAs (Decidable (_ ∧ _))

end ConditionEvent

namespace Server

/-- The events of a condition. -/
def eventsOf (s : Server β) (c : NodeId) : List ConditionEvent :=
  s.space.events.filter fun e => e.condition = c

/-- The variables of the condition are as they were, and no event of it is published. -/
structure Calm (c : NodeId) (s t : Server β) : Prop where
  /-- The variables stay. -/
  idOf : ∀ k, t.space.idOf c k = s.space.idOf c k
  /-- No event of it is published. -/
  events : t.eventsOf c = s.eventsOf c
  /-- If nothing was settled, nothing is. -/
  script : s.script = .empty → t.script = .empty

/-- The events that are published of a condition show its variables as they are then. -/
def Reports (c : NodeId) (s t : Server β) : Prop :=
  ∃ new, t.eventsOf c = s.eventsOf c ++ new ∧
    ∀ e ∈ new, ∀ k b, e.Shows k b ↔ t.space.idOf c k = some b

/-- Nothing is settled, and there is an alarm, whatever its state is. -/
structure HasAlarm (c : NodeId) (s : Server β) : Prop where
  /-- Nothing is settled. -/
  script : s.script = .empty
  /-- The condition has all variables. -/
  present : ∀ k, (s.space.idOf c k).isSome

variable {c : NodeId} {s t u : Server β}

/-- A condition is as it was where nothing happens. -/
theorem Calm.refl (c : NodeId) (s : Server β) : Calm c s s := ⟨fun _ => rfl, rfl, id⟩

private theorem Calm.trans (h : Calm c s t) (h' : Calm c t u) : Calm c s u :=
  ⟨fun k => (h'.idOf k).trans (h.idOf k), h'.events.trans h.events,
    fun hs => h'.script (h.script hs)⟩

/-- A condition that is put into a state with the same variables is calm. -/
theorem Calm.of_puts {old cs : ConditionState} (hc : s.space.condition c = .ok old)
    (hid : ∀ k, cs.idOf k = old.idOf k) (h : Puts c cs s t) : Calm c s t where
  idOf k := by
    rw [h.space, AddressSpace.idOf_setCondition hc, if_pos rfl, hid,
      AddressSpace.idOf_of_condition hc]
  events := by
    rw [eventsOf, h.space]
    rfl
  script hs := h.script.trans hs

/-- A condition that is as it was is stale if it was. -/
theorem Calm.stale_iff (h : Calm c s t) : t.space.Stale c ↔ s.space.Stale c := by
  simp only [AddressSpace.Stale, h.idOf]

/-- An alarm that is as it was is still there. -/
theorem HasAlarm.calm (h : HasAlarm c s) (hc : Calm c s t) : HasAlarm c t :=
  ⟨hc.script h.script, fun k => hc.idOf k ▸ h.present k⟩

private theorem HasAlarm.condition (h : HasAlarm c s) : ∃ cs, s.space.condition c = .ok cs := by
  obtain ⟨b, hb⟩ := Option.isSome_iff_exists.1 (h.present .active)
  obtain ⟨ts, hts, -⟩ := AddressSpace.idOf_eq_some_iff.1 hb
  obtain ⟨cs, hcs, -⟩ := AddressSpace.twoState_eq_ok_iff.1 hts
  exact ⟨cs, hcs⟩

/-- Where no event is published, none shows anything wrong. -/
theorem Calm.reports (h : Calm c s t) : Reports c s t :=
  ⟨[], by rw [h.events, List.append_nil], fun _ he => nomatch he⟩

private theorem Reports.of_events (h : t.eventsOf c = s.eventsOf c) (h' : Reports c t u) :
    Reports c s u := by
  obtain ⟨new, hnew, hshow⟩ := h'
  exact ⟨new, h ▸ hnew, hshow⟩

/-- What the events show decides whether they show the alarm as it should not be. -/
theorem Reports.stale_iff (h : Reports c s t) :
    ∃ new, t.eventsOf c = s.eventsOf c ++ new ∧ ∀ e ∈ new, (e.Stale ↔ t.space.Stale c) := by
  obtain ⟨new, hnew, hshow⟩ := h
  refine ⟨new, hnew, fun e he => ?_⟩
  simp only [ConditionEvent.Stale, AddressSpace.Stale, hshow e he]

/-- One variable of the condition is in a state, the others are as they were, and no event of it is
published. -/
structure Sets (c : NodeId) (k : TransitionKind) (b : Bool) (s t : Server β) : Prop where
  /-- Only that variable may differ. -/
  idOf : ∀ k', t.space.idOf c k' = if k' = k then some b else s.space.idOf c k'
  /-- No event of it is published. -/
  events : t.eventsOf c = s.eventsOf c
  /-- If nothing was settled, nothing is. -/
  script : s.script = .empty → t.script = .empty

private theorem Sets.after_calm {k : TransitionKind} {b : Bool} (h : Calm c s t)
    (h' : Sets c k b t u) : Sets c k b s u :=
  ⟨fun k' => by rw [h'.idOf, h.idOf], h'.events.trans h.events, fun hs => h'.script (h.script hs)⟩

private theorem HasAlarm.sets {k : TransitionKind} {b : Bool} (h : HasAlarm c s)
    (hs : Sets c k b s t) : HasAlarm c t := by
  refine ⟨hs.script h.script, fun k' => ?_⟩
  rw [hs.idOf]
  split
  · rfl
  · exact h.present k'

/-- Some variables of the condition are in new states, the others are as they were, and the events
that are published of it show them. -/
structure Moves (c : NodeId) (moves : TransitionKind → Option Bool) (s t : Server β) : Prop where
  /-- What is in no new state stays. -/
  idOf : ∀ k, t.space.idOf c k = (moves k).or (s.space.idOf c k)
  /-- Events show the new states. -/
  reports : Reports c s t
  /-- If nothing was settled, nothing is. -/
  script : s.script = .empty → t.script = .empty

/-- An alarm is still there after its variables have moved. -/
theorem HasAlarm.moves {moves : TransitionKind → Option Bool} (h : HasAlarm c s)
    (hm : Moves c moves s t) : HasAlarm c t := by
  refine ⟨hm.script h.script, fun k => ?_⟩
  rw [hm.idOf]
  cases moves k with
  | none => exact h.present k
  | some b => rfl

/-- How far an operation on the condition has come: it has taken its effect, or it has failed or
asks, and nothing has happened to the variables. -/
inductive Course {α : Type} (c : NodeId) (succeeds fails : α → Prop)
    (effect : Server β → Server β → Prop) (s : Server β) :
    Interaction (upcalls β) (Server β) α → Prop where
  /-- It has taken its effect. -/
  | effect {r : α} {t : Server β} (hr : succeeds r) (h : effect s t) :
      Course c succeeds fails effect s (.done r t)
  /-- It has failed. -/
  | failed {r : α} {t : Server β} (hr : fails r) (h : Calm c s t) :
      Course c succeeds fails effect s (.done r t)
  /-- It asks. -/
  | asks {q : Upcall β} {t : Server β}
      {resume : q.Answer → Server β → Interaction (upcalls β) (Server β) α} (h : Calm c s t) :
      Course c succeeds fails effect s (.ask q t resume)

end Server

open Server (Calm Reports HasAlarm Sets Moves)

/-! ### Operations of a handle -/

namespace Condition

variable {c : Condition} {s : Server β}

/-- A variable is set to its false state at once. -/
theorem setState_false_run (h : HasAlarm c.id s) (k : TransitionKind) :
    ∃ t, (c.setState k false).perform s = .done (.ok ()) t ∧ Sets c.id k false s t := by
  obtain ⟨cs, hc⟩ := h.condition
  obtain ⟨ts, hts⟩ : ∃ ts, cs.twoStates.find? k = some ts := by
    have hk := h.present k
    rw [AddressSpace.idOf_of_condition hc, ConditionState.idOf, Option.isSome_map] at hk
    exact Option.isSome_iff_exists.1 hk
  have hfalls : ¬ (false = true ∧ ts.id = false) := fun hv => Bool.false_ne_true hv.1
  obtain ⟨t, hrun, ht⟩ := setState_puts h.script hc hts hfalls
  refine ⟨t, hrun, ⟨fun k' => ?_, ?_, fun hs => ht.script.trans hs⟩⟩
  · rw [ht.space, AddressSpace.idOf_setCondition hc, if_pos rfl,
      ConditionState.idOf_changeTwoState, hts, AddressSpace.idOf_of_condition hc]
    simp
  · rw [Server.eventsOf, ht.space]
    rfl

private theorem events_of_writeProperty {id : NodeId} {v p : QualifiedName} {value : Variant}
    {sp sp' : AddressSpace β}
    (h : AddressSpace.Changed (RuntimeCall.writeProperty id v p value).May sp sp') :
    sp'.events = sp.events := by
  refine h.keeps (Q := fun sp sp' => sp'.events = sp.events) (fun _ => rfl)
    (fun _ _ _ h₁ h₂ => h₂.trans h₁) fun ch a b hm happ => ?_
  obtain ⟨k, -, ⟨-, value, now, -, rfl⟩ | ⟨-, time, -, rfl⟩⟩ := hm
  · obtain ⟨_, _, -, -, rfl⟩ := AddressSpace.commit_eq_ok_iff.1 happ
    rfl
  · obtain ⟨_, _, -, -, rfl⟩ := AddressSpace.setTransitionTime_eq_ok_iff.1 happ
    rfl

/-- Whatever happens, a variable that is set to its true state becomes true, or nothing happens to
the variables. -/
theorem setState_true_after {k : TransitionKind} {es : List (Exchange (upcalls β) (Server β))}
    {y : Interaction (upcalls β) (Server β) (Except Error Unit)} (h : HasAlarm c.id s)
    (ha : After ((c.setState k true).perform s) es y) :
    Server.Course c.id (· = .ok ())
      (fun r => ∃ e, r = .error (.nestedFieldWriteFailed k.variableName "Id" e))
      (Sets c.id k true) (found s es) y := by
  let write : RuntimeCall β :=
    .writeProperty c.id (.standard k.variableName) (.standard "Id") (.boolean true)
  have hrun : (c.setState k true).perform s =
      ((Request.call write).perform.run s).bind fun r t => .done (r.mapError
        (.nestedFieldWriteFailed (QualifiedName.standard k.variableName).text
          (QualifiedName.standard "Id").text)) t := by
    rw [setState, setVariableField, Operation.perform_request_of_empty h.script]
    rfl
  rw [hrun] at ha
  obtain ⟨z, hz, rfl⟩ := ha.of_bind_ends fun r t => ⟨_, t, rfl⟩
  have hadv : Server.Advances write.May (found s es) z.state :=
    (hz.keeps ((Request.call write).does trivial s)).state
  have hevents : z.state.eventsOf c.id = (found s es).eventsOf c.id := by
    rw [Server.eventsOf, events_of_writeProperty hadv.space, Server.eventsOf]
  have hattempt : (Request.call write).attempt? = some ⟨c.id, k, none⟩ := by
    simp [Request.attempt?, write, QualifiedName.standard, k.ofVariable?_variableName,
      Variant.asBool?]
  let st : (requests β).Stretch := ⟨0, .call write, s, es, found s es, z⟩
  have hgenuine : st.Genuine := ⟨hz, rfl⟩
  have hcourse : Attempt.Course _ s es z := course_of_genuine hgenuine hattempt
  cases hcourse with
  | @passed v t hs hid _ =>
    have hcalm : Calm c.id s t := ⟨hid c.id, hevents, hadv.script⟩
    cases v with
    | error e => exact .failed ⟨e, rfl⟩ hcalm
    | ok _ =>
      obtain ⟨b, hb⟩ := Option.isSome_iff_exists.1 (h.present k)
      cases b with
      | false => exact absurd hb hs
      | true =>
        refine .effect rfl ⟨fun k' => ?_, hevents, hadv.script⟩
        rw [hid]
        split
        · next hk => rw [hk, hb]
        · rfl
  | asks _ _ ht _ => exact .asks ⟨fun k => by rw [ht.space]; rfl, hevents, hadv.script⟩
  | vetoed _ ht _ _ => exact .failed ⟨_, rfl⟩ ⟨fun k => by rw [ht.space]; rfl, hevents, hadv.script⟩
  | gone _ ht _ _ => exact .failed ⟨_, rfl⟩ ⟨fun k => by rw [ht.space]; rfl, hevents, hadv.script⟩
  | entered _ _ _ hid _ =>
    exact .effect rfl ⟨fun k' => (hid c.id k').trans (by simp), hevents, hadv.script⟩

/-- A publication fails with nothing changed, or tells how the variables are. -/
theorem trigger_run (h : HasAlarm c.id s) (source : NodeId) :
    ∃ (r : Except StatusCode EventId) (t : Server β),
      (c.trigger source).perform s = .done (r.mapError (.triggerFailed source.text)) t ∧
      (∀ k, t.space.idOf c.id k = s.space.idOf c.id k) ∧ Reports c.id s t ∧ t.script = .empty := by
  have hperform : (c.trigger source).perform s =
      ((Service.trigger c.id source : Service β EventId).run s).bind fun r t =>
        .done (r.mapError (.triggerFailed source.text)) t := by
    rw [trigger, Operation.perform_request_of_empty h.script]
    rfl
  rcases Service.trigger_run c.id source s with ⟨e, hrun⟩ | ⟨cs, t, hc, hrun, hb, -, hscript⟩
  · refine ⟨.error e, s, ?_, fun _ => rfl, (Calm.refl c.id s).reports, h.script⟩
    rw [hperform, hrun]
    rfl
  · let id := EventId.drawn s.drawn
    have hid : ∀ k, t.space.idOf c.id k = (cs.noted id s.now).idOf k := by
      intro k
      rw [hb.space]
      exact (AddressSpace.idOf_setCondition hc _ c.id k).trans (if_pos rfl)
    refine ⟨.ok id, t, ?_, fun k => ?_, ?_, hscript.trans h.script⟩
    · rw [hperform, hrun]
      rfl
    · rw [hid, AddressSpace.idOf_of_condition hc]
      rfl
    · refine ⟨[(cs.noted id s.now).event c.id source id s.now], ?_, fun e he k b => ?_⟩
      · simp [Server.eventsOf, hb.space, Server.events_tell, ConditionState.event, id]
      · rw [List.mem_singleton.1 he, hid]
        exact ConditionState.id_mem_snapshot_iff

/-- A publication asks nothing, in any state. -/
theorem trigger_ends (c : Condition) (source : NodeId) (s : Server β) :
    ∃ r t, (c.trigger source).perform s = .done r t := by
  rw [trigger, Operation.perform_request, Server.answer_run]
  cases (s.script.next (RuntimeCall.trigger c.id source : RuntimeCall β).method).1 with
  | settled a => exact ⟨_, _, rfl⟩
  | genuine =>
    generalize { s with script := (s.script.next _).2 } = s'
    show ∃ r t, ((Service.trigger c.id source : Service β EventId).run s').bind _ = .done r t
    rcases Service.trigger_run c.id source s' with ⟨e, hrun⟩ | ⟨cs, t, -, hrun, -⟩
    · rw [hrun]
      exact ⟨_, _, rfl⟩
    · rw [hrun]
      exact ⟨_, _, rfl⟩

end Condition

/-! ### Switches -/

namespace Alarm

variable {a : Alarm} {s : Server β}

/-- What a switch does to the variables: what it leaves alone is in no particular state. -/
def switched (active : Bool) (k : TransitionKind) : Option Bool :=
  if k = .active then some active
  else if active = false ∧ (k = .acked ∨ k = .confirmed) then some false
  else none

/-- Has a switch taken its effect? It has even if that could not be published. -/
def settles : Except Error EventId → Bool
  | .error (.triggerFailed ..) => true
  | .error _ => false
  | .ok _ => true

/-- What a switch does first changes no variable. -/
theorem setActive_run (h : HasAlarm a.condition.id s) (source : NodeId) (active : Bool)
    (message : Option String) :
    ∃ t, Calm a.condition.id s t ∧ (a.setActive source active message).perform s =
      (a.condition.setState .active active >>= fun _ => a.settle source active).perform t := by
  obtain ⟨cs, hc⟩ := h.condition
  obtain ⟨t, ht, hrun⟩ := setActive_puts h.script hc source active message
  exact ⟨t, Calm.of_puts hc (fun k => by simp [ConditionState.told, ConditionState.idOf]) ht, hrun⟩

/-- Once the alarm has changed its activity nothing fails but the publication. -/
theorem settle_run (h : HasAlarm a.condition.id s) (source : NodeId) (active : Bool) :
    ∃ (r : Except StatusCode EventId) (t : Server β),
      (a.settle source active).perform s = .done (r.mapError (.triggerFailed source.text)) t ∧
      (∀ k, t.space.idOf a.condition.id k =
        if active = false ∧ (k = .acked ∨ k = .confirmed) then some false
        else s.space.idOf a.condition.id k) ∧
      Reports a.condition.id s t ∧ t.script = .empty := by
  cases active with
  | true =>
    obtain ⟨r, t, hrun, hid, hr, hs⟩ := Condition.trigger_run h source
    exact ⟨r, t, hrun, fun k => by simpa using hid k, hr, hs⟩
  | false =>
    obtain ⟨s₁, hrun₁, h₁⟩ := Condition.setState_false_run h .acked
    obtain ⟨s₂, hrun₂, h₂⟩ := Condition.setState_false_run (h.sets h₁) .confirmed
    obtain ⟨r, t, hrun, hid, hr, hs⟩ := Condition.trigger_run ((h.sets h₁).sets h₂) source
    refine ⟨r, t, ?_, fun k => ?_, ?_, hs⟩
    · refine (Operation.perform_bind_of_ok hrun₁).trans ?_
      exact (Operation.perform_bind_of_ok hrun₂).trans hrun
    · rw [hid, h₂.idOf, h₁.idOf]
      cases k <;> simp
    · exact hr.of_events (h₂.events.trans h₁.events)

/-- What becomes of a switch, whatever happens meanwhile. -/
theorem course_of_after {source : NodeId} {active : Bool} {message : Option String}
    {es : List (Exchange (upcalls β) (Server β))}
    {y : Interaction (upcalls β) (Server β) (Except Error EventId)}
    (h : HasAlarm a.condition.id s) (hb : HasAlarm a.condition.id (found s es))
    (ha : After ((a.setActive source active message).perform s) es y) :
    Server.Course a.condition.id (settles · = true) (settles · = false)
      (Moves a.condition.id (switched active)) (found s es) y := by
  obtain ⟨t, ht, hrun⟩ := setActive_run h source active message
  have hswitched : ∀ {u}, HasAlarm a.condition.id u →
      Sets a.condition.id .active active (found s es) u →
      Server.Course a.condition.id (settles · = true) (settles · = false)
        (Moves a.condition.id (switched active)) (found s es)
        ((a.settle source active).perform u) := by
    intro u hu hset
    obtain ⟨r, v, hrun, hid, hr, hs⟩ := settle_run hu source active
    rw [hrun]
    refine .effect ?_ ⟨fun k => ?_, hr.of_events hset.events, fun _ => hs⟩
    · cases r <;> rfl
    · rw [hid, hset.idOf]
      cases active <;> cases k <;> simp [switched]
  rw [hrun] at ha
  cases active with
  | false =>
    obtain ⟨u, hset, hsets⟩ := Condition.setState_false_run (h.calm ht) .active
    have hu : HasAlarm a.condition.id u := (h.calm ht).sets hsets
    rw [Operation.perform_bind_of_ok hset] at ha
    obtain ⟨r, v, hend, -⟩ := settle_run hu source false
    obtain ⟨rfl, rfl⟩ := Interaction.after_of_ends ⟨_, _, hend⟩ ha
    exact hswitched hu (hsets.after_calm ht)
  | true =>
    rw [Operation.perform_bind] at ha
    obtain ⟨z, hz, rfl⟩ := ha.of_bind_ends fun r u => by
      cases r with
      | ok _ => exact a.condition.trigger_ends source u
      | error e => exact ⟨_, u, rfl⟩
    have hcalm : Calm a.condition.id (found s es) (found t es) := by
      cases es with
      | nil => exact ht
      | cons e es => exact .refl _ _
    have hcourse := Condition.setState_true_after (h.calm ht) hz
    cases hcourse with
    | effect hr hset =>
      subst hr
      exact hswitched ((hb.calm hcalm).sets hset) (hset.after_calm hcalm)
    | failed hr hfail =>
      obtain ⟨e, rfl⟩ := hr
      exact .failed rfl (hcalm.trans hfail)
    | asks hask => exact .asks (hcalm.trans hask)

end Alarm

/-! ### Client methods -/

namespace ClientMethod

variable {m : ClientMethod} {c : NodeId} {s t : Server β}

/-- What a method does to the variables. -/
def moves (m : ClientMethod) (k : TransitionKind) : Option Bool :=
  if k = m.kind then some m.target else none

private theorem reports_of_succeeds {id : EventId} (h : m.Succeeds c id s t) : Reports c s t := by
  obtain ⟨n, cs, cs', event, -, -, hn', -, hevents, htells⟩ := h.condition
  refine ⟨[event], ?_, fun e he k b => ?_⟩
  · simp [Server.eventsOf, hevents, htells.condition]
  · rw [List.mem_singleton.1 he, ConditionEvent.Shows, htells.fields,
      ConditionState.id_mem_snapshot_iff, AddressSpace.idOf, hn']
    rfl

/-- What becomes of a method, whatever happens meanwhile. -/
theorem course_of_after {es : List (Exchange (upcalls β) (Server β))}
    {y : Interaction (upcalls β) (Server β) (Except StatusCode EventId)}
    (ha : After ((m.perform c).run s) es y) :
    Server.Course c (·.isOk = true) (·.isOk = false) (Moves c m.moves) (found s es) y := by
  have hscript : (found s es).script = .empty → y.state.script = .empty :=
    (ha.keeps ((Request.client m c).does trivial s)).state.script
  have hcalm : ∀ {t}, Beside (found s es) t → y.state = t → Calm c (found s es) t := by
    rintro _ ht rfl
    exact ⟨fun k => by rw [ht.space], by rw [Server.eventsOf, ht.space, Server.eventsOf], hscript⟩
  have hfinish : ∀ {t}, Beside (found s es) t → y = (m.finish c).run t →
      Server.Course c (·.isOk = true) (·.isOk = false) (Moves c m.moves) (found s es) y := by
    rintro t ht rfl
    rcases m.finish_run c t with ⟨e, -, hrun⟩ | ⟨id, u, hrun, hs, -⟩
    · rw [hrun] at hcalm ⊢
      exact .failed rfl (hcalm ht rfl)
    · rw [hrun] at hscript ⊢
      have hs := hs.of_beside ht
      refine .effect rfl ⟨fun k => ?_, reports_of_succeeds hs, hscript⟩
      rw [hs.idOf, moves]
      by_cases hk : k = m.kind <;> simp [hk]
  rcases perform_cases ha with ⟨rfl, e, rfl, -⟩ | ⟨-, hgate⟩
  · exact .failed rfl (.refl c s)
  · rcases gate_cases hgate with ⟨rfl, t, ht, hy⟩ | ⟨rfl, q, t, resume, ht, rfl⟩ |
      ⟨x, t, rfl, -, ht, ⟨-, hy⟩ | ⟨-, rfl⟩⟩
    · exact hfinish ht hy
    · exact .asks (hcalm ht rfl)
    · exact hfinish ht hy
    · exact .failed rfl (hcalm ht rfl)

end ClientMethod

end AlarmServer
