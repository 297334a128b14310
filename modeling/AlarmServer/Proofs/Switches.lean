import AlarmServer.Proofs.Alarms
import AlarmServer.Proofs.Notifiers

/-!
# Switches of on/off alarms

What a switch makes of an alarm, exactly. Switching it off asks nobody and cannot be forbidden: the
alarm loses its acknowledgement and its confirmation whether or not that can be published. Switching
it on writes three fields first. They stay written if the callback then forbids the alarm to become
active, and so does the active state if it cannot be published.
-/

namespace AlarmServer

open Interaction (After found found_append)
open Server (Beside Puts)

variable {β : Type}

/-! ### Notifiers of a source -/

namespace AddressSpace

variable {sp sp' : AddressSpace β} {source own c : NodeId}

/-- May events of a condition of `own` leave from the node? It must be marked as a notifier, and be
`own` or refer to it. -/
def MayNotify (sp : AddressSpace β) (source own : NodeId) : Prop :=
  ∃ n, sp.nodes.find? source = some n ∧ n.notifier = true ∧
    (source = own ∨ ∃ r ∈ n.references, r.target = own ∧
      (r.type = .hasNotifier ∨ r.type = .hasEventSource))

private theorem mayNotify_iff : sp.MayNotify source own ↔ sp.checkNotifier source own = .ok () := by
  rw [checkNotifier_eq_ok_iff]
  simp [MayNotify, notifiesFor, List.any_eq_true]

private theorem checkNotifier_eq_error (h : ¬ sp.MayNotify source own) :
    sp.checkNotifier source own = .error .badSourceNodeIdInvalid := by
  rw [mayNotify_iff] at h
  unfold checkNotifier at h ⊢
  cases hn : sp.nodes.find? source with
  | none => rfl
  | some n =>
    rw [hn] at h
    exact if_neg fun hguard => h (if_pos hguard)

/-- Only the node counts from which the events are to leave. -/
theorem mayNotify_congr (h : sp'.nodes.find? source = sp.nodes.find? source) :
    sp'.MayNotify source own ↔ sp.MayNotify source own := by
  rw [MayNotify, MayNotify, h]

end AddressSpace

/-! ### Conditions that alone have changed -/

namespace Server

/-- The condition is in a state, the given events are published, and nothing else differs but what
is beside the address space and not in the tables of sessions and callbacks. -/
structure Alters (c : NodeId) (cs : ConditionState) (new : List ConditionEvent) (s t : Server β) :
    Prop where
  /-- The condition is in the state, and nothing else of its node differs. -/
  condition : t.space.nodes.find? c =
    (s.space.nodes.find? c).map fun n => { n with body := .condition cs }
  /-- The other nodes stay. -/
  nodes : ∀ i, i ≠ c → t.space.nodes.find? i = s.space.nodes.find? i
  /-- The events are published after those before. -/
  events : t.space.events = s.space.events ++ new
  /-- They are counted. -/
  published : t.space.published = s.space.published + new.length
  /-- The hooks stay. -/
  hooks : t.space.hooks = s.space.hooks
  /-- The watchers stay. -/
  watchers : t.space.watchers = s.space.watchers
  /-- No identifier is used up. -/
  nextId : t.space.nextId = s.space.nextId
  /-- No node is deleted. -/
  deleted : t.space.deleted = s.space.deleted
  /-- The registry stays. -/
  registry : t.tables.registry = s.tables.registry
  /-- The sessions stay. -/
  sessions : t.tables.sessions = s.tables.sessions
  /-- No time passes. -/
  now : t.now = s.now

/-- The nodes are as they were, and nothing is settled. -/
structure Undisturbed (ids : List NodeId) (s t : Server β) : Prop where
  /-- The nodes are as they were. -/
  nodes : ∀ i ∈ ids, t.space.nodes.find? i = s.space.nodes.find? i
  /-- Nothing is settled. -/
  script : t.script = .empty

variable {c : NodeId} {cs cs' : ConditionState} {new : List ConditionEvent} {s t u : Server β}

private theorem alters_of_space (hspace : t.space = { s.space.setCondition c cs with
    events := s.space.events ++ new, published := s.space.published + new.length })
    (hregistry : t.tables.registry = s.tables.registry)
    (hsessions : t.tables.sessions = s.tables.sessions) (hnow : t.now = s.now) :
    Alters c cs new s t where
  condition := by
    rw [hspace]
    simp [AddressSpace.setCondition, AddressSpace.modifyNode, Table.find?_modify]
  nodes i hi := by
    rw [hspace]
    simp [AddressSpace.setCondition, AddressSpace.modifyNode, Table.find?_modify, hi]
  events := by rw [hspace]
  published := by rw [hspace]
  hooks := by rw [hspace]; rfl
  watchers := by rw [hspace]; rfl
  nextId := by rw [hspace]; rfl
  deleted := by rw [hspace]; rfl
  registry := hregistry
  sessions := hsessions
  now := hnow

private theorem Puts.alters (h : Puts c cs s t) : Alters c cs [] s t := by
  refine alters_of_space ?_ h.beside.registry h.beside.sessions h.now
  rw [h.space, List.append_nil]
  rfl

/-- A publication of a condition notes the event in it. -/
theorem alters_of_tell {source : NodeId} (h : Beside (s.tell c cs source) t) :
    Alters c (cs.noted (.drawn s.drawn) s.now)
      [(cs.noted (.drawn s.drawn) s.now).event c source (.drawn s.drawn) s.now] s t :=
  alters_of_space h.space h.registry h.sessions h.now

/-- Of two states of the condition the second one counts. -/
theorem Alters.trans {new' : List ConditionEvent} (h : Alters c cs new s t)
    (h' : Alters c cs' new' t u) : Alters c cs' (new ++ new') s u where
  condition := by
    rw [h'.condition, h.condition, Option.map_map]
    rfl
  nodes i hi := (h'.nodes i hi).trans (h.nodes i hi)
  events := by rw [h'.events, h.events, List.append_assoc]
  published := by rw [h'.published, h.published, List.length_append, Nat.add_assoc]
  hooks := h'.hooks.trans h.hooks
  watchers := h'.watchers.trans h.watchers
  nextId := h'.nextId.trans h.nextId
  deleted := h'.deleted.trans h.deleted
  registry := h'.registry.trans h.registry
  sessions := h'.sessions.trans h.sessions
  now := h'.now.trans h.now

private theorem Puts.alters_trans (h : Puts c cs s t) (h' : Alters c cs' new t u) :
    Alters c cs' new s u :=
  h.alters.trans h'

/-- A condition that was altered is found as it is now. -/
theorem Alters.condition_eq_ok (h : Alters c cs new s t) {old : ConditionState}
    (hc : s.space.condition c = .ok old) : t.space.condition c = .ok cs := by
  obtain ⟨n, hn, -⟩ := AddressSpace.condition_eq_ok_iff.1 hc
  refine AddressSpace.condition_eq_ok_iff.2 ⟨{ n with body := .condition cs }, ?_, rfl⟩
  rw [h.condition, hn, Option.map_some]

/-- What may notify of a condition does not depend on the states of conditions. -/
theorem Alters.mayNotify_iff (h : Alters c cs new s t) {source own : NodeId} :
    t.space.MayNotify source own ↔ s.space.MayNotify source own := by
  by_cases hs : source = c
  · subst hs
    rw [AddressSpace.MayNotify, h.condition, AddressSpace.MayNotify]
    cases s.space.nodes.find? source <;> simp
  · exact AddressSpace.mayNotify_congr (h.nodes source hs)

/-- What happens beside the address space before makes no difference. -/
theorem Alters.of_beside (hb : Beside s t) (h : Alters c cs new t u) : Alters c cs new s u where
  condition := by rw [h.condition, hb.space]
  nodes i hi := by rw [h.nodes i hi, hb.space]
  events := by rw [h.events, hb.space]
  published := by rw [h.published, hb.space]
  hooks := by rw [h.hooks, hb.space]
  watchers := by rw [h.watchers, hb.space]
  nextId := by rw [h.nextId, hb.space]
  deleted := by rw [h.deleted, hb.space]
  registry := h.registry.trans hb.registry
  sessions := h.sessions.trans hb.sessions
  now := h.now.trans hb.now

/-- What is beside a condition that is in the state already. -/
theorem Beside.alters (hc : s.space.condition c = .ok cs) (h : Beside s t) :
    Alters c cs [] s t where
  condition := by
    obtain ⟨n, hn, hbody⟩ := AddressSpace.condition_eq_ok_iff.1 hc
    obtain ⟨browseName, displayName, references, notifier, body⟩ := n
    cases hbody
    rw [h.space, hn]
    rfl
  nodes i _ := by rw [h.space]
  events := by rw [h.space, List.append_nil]
  published := by rw [h.space, List.length_nil, Nat.add_zero]
  hooks := by rw [h.space]
  watchers := by rw [h.space]
  nextId := by rw [h.space]
  deleted := by rw [h.space]
  registry := h.registry
  sessions := h.sessions
  now := h.now

/-- A condition is the same where its node is. -/
theorem condition_of_find? (h : t.space.nodes.find? c = s.space.nodes.find? c) :
    t.space.condition c = s.space.condition c := by
  rw [AddressSpace.condition, AddressSpace.condition, AddressSpace.node, AddressSpace.node, h]

end Server

open Server (Alters Undisturbed)

namespace Condition

variable {c : Condition} {s : Server β} {cs : ConditionState} {source : NodeId}

private theorem trigger_run_of_condition (hs : s.script = .empty)
    (hc : s.space.condition c.id = .ok cs) :
    (c.trigger source).perform s = match s.space.checkNotifier source cs.source with
      | .error e => .done (.error (.triggerFailed source.text e)) s
      | .ok _ => ((Service.publish c.id source : Service β EventId).run s).bind fun r t =>
        .done (r.mapError (.triggerFailed source.text)) t := by
  rw [trigger, Operation.perform_request_of_empty hs]
  show ((Service.query _ >>= _ : Service β EventId).run s).bind _ = _
  rw [Service.query_bind_run, hc]
  show ((Service.query _ >>= fun _ => Service.publish c.id source : Service β EventId).run s).bind
    _ = _
  rw [Service.query_bind_run]
  cases s.space.checkNotifier source cs.source <;> rfl

/-- A publication from a node that may not notify of the condition changes nothing. -/
theorem trigger_refused (hs : s.script = .empty) (hc : s.space.condition c.id = .ok cs)
    (hn : ¬ s.space.MayNotify source cs.source) :
    (c.trigger source).perform s =
      .done (.error (.triggerFailed source.text .badSourceNodeIdInvalid)) s := by
  rw [trigger_run_of_condition hs hc, AddressSpace.checkNotifier_eq_error hn]

/-- A publication from a node that may notify of the condition succeeds. -/
theorem trigger_published (hs : s.script = .empty) (hc : s.space.condition c.id = .ok cs)
    (hn : s.space.MayNotify source cs.source) :
    ∃ t, (c.trigger source).perform s = .done (.ok (.drawn s.drawn)) t ∧
      Beside (s.tell c.id cs source) t ∧ t.script = .empty := by
  obtain ⟨t, hrun, hb, -, hscript⟩ := Service.publish_run hc source
  refine ⟨t, ?_, hb, hscript.trans hs⟩
  rw [trigger_run_of_condition hs hc, AddressSpace.mayNotify_iff.1 hn]
  show ((Service.publish c.id source : Service β EventId).run s).bind _ = _
  rw [hrun]
  rfl

end Condition

/-! ### States before and after a switch -/

/-- A variable is made false. The time counts if it was true. -/
def TwoState.reset (now : Instant) (s : TwoState) : TwoState :=
  if s.id = true then ⟨false, some now⟩ else s

/-- A variable is made true. The time counts if it was false. -/
def TwoState.raise (now : Instant) (s : TwoState) : TwoState :=
  if s.id = true then s else ⟨true, some now⟩

namespace ConditionState

/-- A condition before and after a switch, which has moved its variables in some way. -/
structure Switched (c : ConditionState) (text : String) (time : Instant) (active : Bool)
    (moved : TransitionKind → TwoState → TwoState) (c' : ConditionState) : Prop where
  /-- The type stays. -/
  type : c'.type = c.type
  /-- The source stays. -/
  source : c'.source = c.source
  /-- The message is the text, in no particular language. -/
  message : c'.fields.find? .message = some (.localizedText ⟨"", text⟩)
  /-- The time is that of the switch. -/
  time : c'.fields.find? .time = some (.dateTime time)
  /-- The condition is of interest exactly if it was switched on. -/
  retain : c'.fields.find? .retain = some (.boolean active)
  /-- The other fields stay. -/
  otherFields : ∀ f, f ≠ .message → f ≠ .time → f ≠ .retain → c'.fields.find? f = c.fields.find? f
  /-- The variables have moved. -/
  twoStates : ∀ k, c'.twoStates.find? k = (c.twoStates.find? k).map (moved k)

variable {c c' : ConditionState} {text : String} {time : Instant} {active : Bool}
  {moved : TransitionKind → TwoState → TwoState}

private theorem twoStates_told (c : ConditionState) (text : String) (now : Instant)
    (retain : Bool) : (c.told text now retain).twoStates = c.twoStates := by
  simp [told]

/-- Three fields are written. -/
theorem switched_told (c : ConditionState) (text : String) (time : Instant) (active : Bool) :
    c.Switched text time active (fun _ => id) (c.told text time active) where
  type := rfl
  source := rfl
  message := by simp [told, find?_store, LocalizedText.plain]
  time := by simp [told, find?_store]
  retain := by simp [told, find?_store]
  otherFields f h₁ h₂ h₃ := by simp [told, find?_store, h₁, h₂, h₃]
  twoStates k := by rw [twoStates_told, Option.map_id, id]

/-- One more variable moves. -/
theorem Switched.changeTwoState (h : c.Switched text time active moved c') (k : TransitionKind)
    (f : TwoState → TwoState) :
    c.Switched text time active (fun k' s => if k' = k then f (moved k' s) else moved k' s)
      (c'.changeTwoState k f) where
  type := h.type
  source := h.source
  message := h.message
  time := h.time
  retain := h.retain
  otherFields := h.otherFields
  twoStates k' := by
    rw [ConditionState.changeTwoState, Table.find?_modify]
    by_cases hk : k' = k
    · subst hk
      rw [if_pos rfl, h.twoStates, Option.map_map]
      cases c.twoStates.find? k' <;> simp
    · rw [if_neg hk, h.twoStates]
      simp [hk]

/-- A field with a value can be read. -/
theorem read_eq_ok {f : Field} {v : Variant} (hv : c.fields.find? f = some v)
    (hf : f ∈ ConditionType.baseFields) : c.read f.name = .ok v :=
  read_field_eq_ok_iff.2 ⟨c.mem_fields_of_base hf, by rw [field, hv, Option.getD_some]⟩

/-- No variable is lost. -/
theorem Switched.exists_twoState (h : c.Switched text time active moved c') {k : TransitionKind}
    (hk : ∃ ts, c.twoStates.find? k = some ts) : ∃ ts, c'.twoStates.find? k = some ts := by
  obtain ⟨ts, hts⟩ := hk
  exact ⟨moved k ts, by rw [h.twoStates, hts, Option.map_some]⟩

/-- What the variables have done may be said in other words. -/
theorem Switched.congr {moved' : TransitionKind → TwoState → TwoState}
    (h : c.Switched text time active moved c') (hm : ∀ k s, moved k s = moved' k s) :
    c.Switched text time active moved' c' := by
  have he : moved = moved' := funext fun k => funext fun s => hm k s
  exact he ▸ h

end ConditionState

private theorem TwoState.enter_false (now : Instant) (s : TwoState) :
    TwoState.enter false now s = s.reset now := by
  obtain ⟨id, time⟩ := s
  cases id <;> rfl

private theorem TwoState.enter_true (now : Instant) (s : TwoState) :
    TwoState.enter true now s = s.raise now := by
  obtain ⟨id, time⟩ := s
  cases id <;> rfl

namespace Alarm

/-! ### Ends of a switch -/

/-- The event of a switch. -/
structure Announces (a : Alarm) (source : NodeId) (text : String) (time : Instant) (active : Bool)
    (c' : ConditionState) (e : ConditionEvent) : Prop where
  /-- It is about the alarm. -/
  condition : e.condition = a.condition.id
  /-- It leaves from the node that the switch names. -/
  source : e.source = source
  /-- Its time is that of the switch. -/
  eventTime : e.time = time
  /-- It shows one value under each name. -/
  nodup : (e.fields.map Prod.fst).Nodup
  /-- It shows the message. -/
  showsMessage : ("Message", .localizedText ⟨"", text⟩) ∈ e.fields
  /-- It shows the time. -/
  showsTime : ("Time", .dateTime time) ∈ e.fields
  /-- It shows whether the condition is of interest. -/
  showsRetain : ("Retain", .boolean active) ∈ e.fields
  /-- It shows the variables as they are then. -/
  showsStates : ∀ k b, e.Shows k b ↔ c'.idOf k = some b

/-- How a switch ends that has brought the condition into a state: it is published if the named node
may notify of the condition, and otherwise it fails and is not published. -/
inductive Ends (a : Alarm) (source : NodeId) (text : String) (time : Instant) (active : Bool)
    (c' : ConditionState) (s t : Server β) : Except Error EventId → Prop where
  /-- It is published, and the event is noted in the condition. -/
  | announced (e : ConditionEvent) (hn : s.space.MayNotify source c'.source)
      (he : a.Announces source text time active c' e)
      (h : Alters a.condition.id (c'.noted e.eventId s.now) [e] s t) :
      Ends a source text time active c' s t (.ok e.eventId)
  /-- It is not published. -/
  | unannounced (hn : ¬ s.space.MayNotify source c'.source) (h : Alters a.condition.id c' [] s t) :
      Ends a source text time active c' s t
        (.error (.triggerFailed source.text .badSourceNodeIdInvalid))

variable {a : Alarm} {source : NodeId} {text : String} {time : Instant} {active : Bool}
  {c c' : ConditionState} {moved : TransitionKind → TwoState → TwoState} {s t u : Server β}

private theorem mem_snapshot_noted {f : Field} {v : Variant} (hf : f ∈ ConditionType.baseFields)
    (hne : f ≠ .eventId ∧ f ≠ .receiveTime) (hv : c'.fields.find? f = some v) (id : EventId)
    (now : Instant) : (f.name, v) ∈ (c'.noted id now).snapshot := by
  have hfield : (c'.noted id now).field f = v := by
    simp [ConditionState.field, ConditionState.noted, Table.find?_insert, hne, hv]
  rw [← hfield]
  exact ConditionState.field_mem_snapshot ((c'.noted id now).mem_fields_of_base hf)

private theorem announces_event (h : c.Switched text time active moved c') (id : EventId)
    (now : Instant) :
    a.Announces source text time active c' ((c'.noted id now).event a.condition.id source id now)
    where
  condition := rfl
  source := rfl
  eventTime := by
    have htime : (c'.noted id now).field .time = .dateTime time := by
      simp [ConditionState.field, ConditionState.noted, Table.find?_insert, h.time]
    rw [ConditionState.event, htime]
    rfl
  nodup := ConditionState.nodup_snapshot _
  showsMessage := mem_snapshot_noted (f := .message) (by decide) (by decide) h.message id now
  showsTime := mem_snapshot_noted (f := .time) (by decide) (by decide) h.time id now
  showsRetain := mem_snapshot_noted (f := .retain) (by decide) (by decide) h.retain id now
  showsStates k b := ConditionState.id_mem_snapshot_iff

private theorem ends_of_trigger (source : NodeId) (hs : s.script = .empty)
    (hc : s.space.condition a.condition.id = .ok c')
    (h : c.Switched text time active moved c') :
    ∃ r t, (a.condition.trigger source).perform s = .done r t ∧
      a.Ends source text time active c' s t r := by
  by_cases hn : s.space.MayNotify source c'.source
  · obtain ⟨t, hrun, hb, -⟩ := Condition.trigger_published hs hc hn
    exact ⟨_, t, hrun, .announced _ hn (announces_event h _ s.now) (Server.alters_of_tell hb)⟩
  · exact ⟨_, s, Condition.trigger_refused hs hc hn,
      .unannounced hn (Server.Beside.alters hc (.refl s))⟩

private theorem Ends.of_beside {r : Except Error EventId} (hb : Beside s t)
    (h : a.Ends source text time active c' t u r) : a.Ends source text time active c' s u r := by
  cases h with
  | announced e hn he halters =>
    rw [hb.space] at hn
    rw [hb.now] at halters
    exact .announced e hn he (halters.of_beside hb)
  | unannounced hn halters =>
    rw [hb.space] at hn
    exact .unannounced hn (halters.of_beside hb)

private theorem Ends.of_puts {cs : ConditionState} {r : Except Error EventId}
    (hp : Puts a.condition.id cs s t) (h : a.Ends source text time active c' t u r) :
    a.Ends source text time active c' s u r := by
  have hn : t.space.MayNotify source c'.source ↔ s.space.MayNotify source c'.source :=
    hp.alters.mayNotify_iff
  cases h with
  | announced e hnotify he halters =>
    rw [hp.now] at halters
    exact .announced e (hn.1 hnotify) he (hp.alters_trans halters)
  | unannounced hnotify halters =>
    exact .unannounced (fun h => hnotify (hn.2 h)) (hp.alters_trans halters)

/-- The message of a switch is the given one, unless there is none or it is empty. -/
theorem messageFor_eq (active : Bool) (message : Option String) :
    messageFor active message = (message.filter (· ≠ "")).getD
      (if active = true then "Alarm active" else "Alarm inactive") := by
  have hfilter : (fun m : String => !m.isEmpty) = fun m => decide (m ≠ "") := by
    funext m
    by_cases hm : m = "" <;> simp [hm, String.isEmpty_iff]
  unfold messageFor
  rw [hfilter]
  cases message.filter _ with
  | some m => rfl
  | none => cases active <;> rfl

/-! ### Switching off -/

/-- What becomes of the variables of an alarm that is switched off: all but the enabled state become
false. -/
def switchOff (now : Instant) (k : TransitionKind) (s : TwoState) : TwoState :=
  if k = .enabled then s else s.reset now

/-- A switch that makes an alarm inactive asks nobody. -/
theorem setActive_false_run (hs : s.script = .empty)
    (hc : s.space.condition a.condition.id = .ok c)
    (hk : ∀ k, ∃ ts, c.twoStates.find? k = some ts) (source : NodeId) (message : Option String) :
    ∃ r t c', (a.setActive source false message).perform s = .done r t ∧
      c.Switched (messageFor false message) s.now false (switchOff s.now) c' ∧
      a.Ends source (messageFor false message) s.now false c' s t r := by
  obtain ⟨s₀, h₀, hrun⟩ := setActive_puts hs hc source false message
  have hw₀ := c.switched_told (messageFor false message) s.now false
  -- each variable is made false in turn
  have hnext : ∀ {u : Server β} {d : ConditionState} {moved : TransitionKind → TwoState → TwoState}
      (_ : Puts a.condition.id d s u)
      (_ : c.Switched (messageFor false message) s.now false moved d) (k : TransitionKind),
      ∃ v, (a.condition.setState k false).perform u = .done (.ok ()) v ∧
        Puts a.condition.id (d.changeTwoState k (TwoState.enter false s.now)) s v := by
    intro u d moved hu hd k
    obtain ⟨ts, hts⟩ := hd.exists_twoState (hk k)
    have hfalls : ¬ (false = true ∧ ts.id = false) := fun hv => Bool.false_ne_true hv.1
    obtain ⟨v, hv, hput⟩ := Condition.setState_puts (hu.script.trans hs) (hu.condition hc) hts
      hfalls
    rw [hu.now] at hput
    exact ⟨v, hv, hu.trans hput⟩
  obtain ⟨s₁, hrun₁, h₁⟩ := hnext h₀ hw₀ .active
  have hw₁ := hw₀.changeTwoState .active (TwoState.enter false s.now)
  obtain ⟨s₂, hrun₂, h₂⟩ := hnext h₁ hw₁ .acked
  have hw₂ := hw₁.changeTwoState .acked (TwoState.enter false s.now)
  obtain ⟨s₃, hrun₃, h₃⟩ := hnext h₂ hw₂ .confirmed
  have hw₃ := hw₂.changeTwoState .confirmed (TwoState.enter false s.now)
  obtain ⟨r, t, hend, hends⟩ :=
    ends_of_trigger source (h₃.script.trans hs) (h₃.condition hc) hw₃
  refine ⟨r, t, _, ?_, hw₃.congr fun k ts => ?_, hends.of_puts h₃⟩
  · refine hrun.trans ?_
    refine (Operation.perform_bind_of_ok hrun₁).trans ?_
    refine (Operation.perform_bind_of_ok hrun₂).trans ?_
    exact (Operation.perform_bind_of_ok hrun₃).trans hend
  · cases k <;> simp [switchOff, TwoState.enter_false]

/-! ### Switching on -/

/-- What becomes of the variables of an alarm that is switched on: it becomes active. -/
def switchOn (now : Instant) (k : TransitionKind) (s : TwoState) : TwoState :=
  if k = .active then s.raise now else s

/-- Nobody forbids the alarm to become active: it is active already and nobody is asked, there is
nobody to ask, or the callback was asked once and has allowed it. -/
inductive Unopposed (s : Server β) (c : NodeId) :
    Bool → List (Exchange (upcalls β) (Server β)) → Prop where
  /-- The alarm is active. -/
  | active : Unopposed s c true []
  /-- There is nobody to ask. -/
  | unasked (hq : s.interception? c .active none = none) : Unopposed s c false []
  /-- The callback has allowed it. -/
  | allowed {q : Upcall β} {asked left : Server β} {r : q.Answer}
      (hq : s.interception? c .active none = some q) (hr : (q.status r).isGood = true) :
      Unopposed s c false [⟨q, asked, r, left⟩]

/-- When the callback of an alarm is asked, three fields of it are written. -/
def AsksIn (a : Alarm) (text : String) (c : ConditionState) (s t : Server β) : Prop :=
  ∃ c', c.Switched text s.now true (fun _ ts => ts) c' ∧ Alters a.condition.id c' [] s t

/-- How far an alarm has come that is switched on, after some exchanges: `active` tells whether it
was active before. -/
inductive Activation (a : Alarm) (source : NodeId) (text : String) (c : ConditionState)
    (active : Bool) (s : Server β) : List (Exchange (upcalls β) (Server β)) →
      Interaction (upcalls β) (Server β) (Except Error EventId) → Prop where
  /-- The callback is asked. -/
  | asks {q : Upcall β} {t : Server β}
      {resume : q.Answer → Server β → Interaction (upcalls β) (Server β) (Except Error EventId)}
      (ha : active = false) (hq : s.interception? a.condition.id .active none = some q)
      (h : a.AsksIn text c s t) : Activation a source text c active s [] (.ask q t resume)
  /-- The callback has forbidden it. The fields stay written, and nothing else happens. -/
  | vetoed {q : Upcall β} {asked left t : Server β} {r : q.Answer} {c' : ConditionState}
      (ha : active = false) (hq : s.interception? a.condition.id .active none = some q)
      (hr : (q.status r).isGood = false) (hc : c.Switched text s.now true (fun _ ts => ts) c')
      (h : Alters a.condition.id c' [] left t) :
      Activation a source text c active s [⟨q, asked, r, left⟩]
        (.done (.error (.nestedFieldWriteFailed "ActiveState" "Id" (q.status r))) t)
  /-- Nobody has forbidden it. The alarm is active, and that is published or not. -/
  | entered {es : List (Exchange (upcalls β) (Server β))} {r : Except Error EventId} {t : Server β}
      {c' : ConditionState} (hu : Unopposed s a.condition.id active es)
      (hc : c.Switched text s.now true (switchOn (found s es).now) c')
      (h : a.Ends source text s.now true c' (found s es) t r) :
      Activation a source text c active s es (.done r t)

private theorem ends_of_commit {ts : TwoState} (source : NodeId) (hs : s.script = .empty)
    (hc : s.space.condition a.condition.id = .ok c')
    (h : c.Switched text time true (fun _ ts => ts) c')
    (hts : c'.twoStates.find? .active = some ts) :
    ∃ u r t d, (Service.commit a.condition.id .active true).run s = .done (.ok ()) u ∧
      (a.settle source true).perform u = .done r t ∧
      c.Switched text time true (switchOn s.now) d ∧ a.Ends source text time true d s t r := by
  obtain ⟨u, hrun, hu⟩ := Service.commit_puts hc hts true
  have hw := h.changeTwoState .active (TwoState.enter true s.now)
  obtain ⟨r, t, hend, hends⟩ :=
    ends_of_trigger source (hu.script.trans hs) (hu.condition hc) hw
  refine ⟨u, r, t, _, hrun, hend, hw.congr fun k ts => ?_, hends.of_puts hu⟩
  cases k <;> simp [switchOn, TwoState.enter_true]

section

variable {ts : TwoState} {message : Option String} {es : List (Exchange (upcalls β) (Server β))}

-- What a switch has come to whose write of the active state has come to `w`.
private def switchedBy (a : Alarm) (source : NodeId)
    (w : Interaction (upcalls β) (Server β) (Except StatusCode Unit)) :
    Interaction (upcalls β) (Server β) (Except Error EventId) :=
  (w.bind fun r t => .done (r.mapError (.nestedFieldWriteFailed "ActiveState" "Id")) t).bind
    fun r t => match r with
      | .ok _ => (a.settle source true).perform t
      | .error e => .done (.error e) t

-- The write of the active state is the only part of a switch that may ask.
private theorem exists_write_of_after
    {y : Interaction (upcalls β) (Server β) (Except Error EventId)} (hs : s.script = .empty)
    (hc : s.space.condition a.condition.id = .ok c)
    (hts : c.twoStates.find? .active = some ts)
    (ha : After ((a.setActive source true message).perform s) es y) :
    ∃ s₀ w, Puts a.condition.id (c.told (messageFor true message) s.now true) s s₀ ∧
      After (if ts.id = false then
          (Service.runHook a.condition.id .active none >>= fun _ =>
            Service.commit a.condition.id .active true).run s₀
        else (Service.commit a.condition.id .active true).run s₀) es w ∧
      ((found s₀ es).script = .empty → w.state.script = .empty) ∧ y = a.switchedBy source w := by
  obtain ⟨s₀, h₀, hrun⟩ := setActive_puts hs hc source true message
  have hs₀ : s₀.script = .empty := h₀.script.trans hs
  have htwo : s₀.space.twoState a.condition.id .active = .ok ts :=
    AddressSpace.twoState_eq_ok_iff.2 ⟨_, h₀.condition hc, by
      rw [ConditionState.twoStates_told]
      exact hts⟩
  rw [hrun, Operation.perform_bind] at ha
  obtain ⟨z, hz, rfl⟩ := ha.of_bind_ends fun r u => by
    cases r with
    | ok _ => exact a.condition.trigger_ends source u
    | error e => exact ⟨_, u, rfl⟩
  rw [Condition.setState_run hs₀] at hz
  obtain ⟨w, hw, rfl⟩ := hz.of_bind_ends fun r t => ⟨_, t, rfl⟩
  refine ⟨s₀, w, h₀, ?_, ?_, ?_⟩
  · rw [Service.writeId_run htwo] at hw
    simpa using hw
  · let write : RuntimeCall β := .writeProperty a.condition.id
      (.standard TransitionKind.active.variableName) (.standard "Id") (.boolean true)
    exact (hw.keeps (Service.does_call write s₀)).state.script
  · rw [switchedBy]
    congr 1
    funext r t
    cases r <;> rfl

private theorem activation_of_commit {s₀ u v : Server β}
    (h₀ : Puts a.condition.id (c.told (messageFor true message) s.now true) s s₀)
    (hc : s.space.condition a.condition.id = .ok c) (hts : c.twoStates.find? .active = some ts)
    (hu : Unopposed s a.condition.id ts.id es) (hfound : found s₀ es = u)
    (hcond : u.space.nodes.find? a.condition.id = s₀.space.nodes.find? a.condition.id)
    (hb : Beside u v) (hscript : ((Service.commit a.condition.id .active true).run v).state.script =
      .empty) :
    a.Activation source (messageFor true message) c ts.id s es
      (a.switchedBy source ((Service.commit a.condition.id .active true).run v)) := by
  have hv : v.script = .empty := by
    rw [Service.commit_run] at hscript
    split at hscript <;> exact hscript
  have hcv : v.space.condition a.condition.id =
      .ok (c.told (messageFor true message) s.now true) := by
    rw [hb.space, Server.condition_of_find? hcond]
    exact h₀.condition hc
  obtain ⟨w, r, t, d, hcommit, hend, hw, hends⟩ := ends_of_commit source hv hcv
    (c.switched_told (messageFor true message) s.now true)
    ((congrArg (Table.find? · .active) (c.twoStates_told _ _ _)).trans hts)
  have hnow : v.now = (found s es).now := by
    rw [hb.now, ← hfound]
    cases es with
    | nil => exact h₀.now
    | cons e es => rfl
  rw [hnow] at hw
  rw [hcommit]
  show a.Activation _ _ _ _ _ _ ((a.settle source true).perform w)
  rw [hend]
  refine .entered hu hw ?_
  have hends' := hends.of_beside hb
  rw [← hfound] at hends'
  cases es with
  | nil => exact hends'.of_puts h₀
  | cons e es => exact hends'

/-- How far a switch has come if whoever was asked has left the condition alone. -/
theorem activation_of_after
    {y : Interaction (upcalls β) (Server β) (Except Error EventId)} (hs : s.script = .empty)
    (hc : s.space.condition a.condition.id = .ok c)
    (hts : c.twoStates.find? .active = some ts)
    (hes : ∀ e ∈ es, Undisturbed [a.condition.id] e.asked e.left)
    (ha : After ((a.setActive source true message).perform s) es y) :
    (∀ e ∈ es, a.AsksIn (messageFor true message) c s e.asked) ∧
      a.Activation source (messageFor true message) c ts.id s es y := by
  obtain ⟨s₀, w, h₀, hw, hscript, rfl⟩ := exists_write_of_after hs hc hts ha
  have hs₀ : s₀.script = .empty := h₀.script.trans hs
  have hended : ∀ t : Server β,
      ∃ r u, (Service.commit a.condition.id .active true).run t = .done r u := by
    intro t
    rw [Service.commit_run]
    split <;> exact ⟨_, _, rfl⟩
  have hasks : ∀ {t}, Beside s₀ t → a.AsksIn (messageFor true message) c s t := fun hb =>
    ⟨_, c.switched_told _ _ _, h₀.alters_trans (hb.alters (h₀.condition hc))⟩
  split at hw
  · next hid =>
    cases Service.stage_of_after hended hw with
    | unasked hq hb _ =>
      rw [h₀.interception?] at hq
      refine ⟨(fun _ he => nomatch he), ?_⟩
      exact activation_of_commit h₀ hc hts (hid ▸ .unasked hq) rfl rfl hb (hscript hs₀)
    | asks hq hb _ =>
      rw [h₀.interception?] at hq
      exact ⟨(fun _ he => nomatch he), .asks hid hq (hasks hb)⟩
    | @allowed q t u v r hq hb hv _ hr =>
      rw [h₀.interception?] at hq
      have hleft : Undisturbed [a.condition.id] t u := hes _ (List.mem_singleton_self _)
      have hfind := hleft.nodes _ (List.mem_singleton_self _)
      rw [hb.space] at hfind
      refine ⟨fun e he => List.mem_singleton.1 he ▸ hasks hb, ?_⟩
      exact activation_of_commit h₀ hc hts (hid ▸ .allowed hq hr) rfl hfind hv
        (hscript hleft.script)
    | @vetoed q t u v r hq hb hv _ hr =>
      rw [h₀.interception?] at hq
      have hleft : Undisturbed [a.condition.id] t u := hes _ (List.mem_singleton_self _)
      have hfind := hleft.nodes _ (List.mem_singleton_self _)
      rw [hb.space] at hfind
      have hcu := (Server.condition_of_find? hfind).trans (h₀.condition hc)
      refine ⟨fun e he => List.mem_singleton.1 he ▸ hasks hb, ?_⟩
      exact .vetoed hid hq hr (c.switched_told _ _ _) (hv.alters hcu)
  · next hid =>
    obtain ⟨rfl, rfl⟩ := Interaction.after_of_ends (hended s₀) hw
    have hactive : ts.id = true := by simpa using hid
    refine ⟨(fun _ he => nomatch he), ?_⟩
    exact activation_of_commit h₀ hc hts (hactive ▸ .active) rfl rfl (.refl s₀) (hscript hs₀)

end

end Alarm

section

variable {ambient : Ambient} {trace : List (requests β).Stretch} {d : (requests β).Config}
  {a : Alarm} {c : ConditionState}

private theorem exists_twoState_of_run
    (h : System.Run (.idle (requests β) (.create ambient)) trace d)
    (hc : d.state.space.condition a.condition.id = .ok c) (ht : c.type = .offNormal)
    (k : TransitionKind) : ∃ ts, c.twoStates.find? k = some ts := by
  rw [(h.wellTyped.conditions _ c hc).exists_twoState_iff, ht]
  cases k <;> decide

end

/-- Switching an alarm off, at any moment of any run. It asks nobody and ends at once. The message
is the given text unless that is missing or empty, the time is the present, and the condition is of
no interest any more. The alarm is neither active nor acknowledged nor confirmed, since now where it
was, and nothing else of it differs. It is published with these values if the named node may notify
of it, and otherwise the switch fails because that may not. Nothing beside the condition differs. -/
theorem switchOff_of_run {ambient : Ambient} {trace : List (requests β).Stretch}
    {d : (requests β).Config} (h : System.Run (.idle (requests β) (.create ambient)) trace d)
    (hs : d.state.script = .empty) {a : Alarm} {c : ConditionState}
    (hc : d.state.space.condition a.condition.id = .ok c) (ht : c.type = .offNormal)
    (source : NodeId) (message : Option String) :
    let text := (message.filter (· ≠ "")).getD "Alarm inactive"
    ∃ r t c', (a.setActive source false message).perform d.state = .done r t ∧
      c.Switched text d.state.now false (Alarm.switchOff d.state.now) c' ∧
      (∀ k, c'.idOf k = if k = .enabled then c.idOf k else some false) ∧
      a.Ends source text d.state.now false c' d.state t r := by
  intro text
  have hk := exists_twoState_of_run h hc ht
  have htext : Alarm.messageFor false message = text := Alarm.messageFor_eq false message
  obtain ⟨r, t, c', hrun, hw, hends⟩ := Alarm.setActive_false_run hs hc hk source message
  rw [htext] at hw hends
  refine ⟨r, t, c', hrun, hw, fun k => ?_, hends⟩
  obtain ⟨ts, hts⟩ := hk k
  rw [ConditionState.idOf, ConditionState.idOf, hw.twoStates, hts]
  obtain ⟨id, time⟩ := ts
  cases id <;> by_cases he : k = .enabled <;> simp [Alarm.switchOff, TwoState.reset, he]

/-- A program creates an alarm of the server object. -/
def pumpCreated : (requests Unit).Stretch :=
  .first (requests Unit) 0 (.call (.createCondition
    ⟨ConditionType.offNormal.node, .standard "Pump", .serverObject, none, some (.numeric 1 1)⟩))
    (.create (.start ⟨0, 0⟩))

/-- Then it keeps a callback for the alarm. -/
def pumpKept : (requests Unit).Stretch :=
  .first (requests Unit) 1 (.beside { pumpCreated.after.tables with
    registry := pumpCreated.after.tables.registry.store (.numeric 1 1) .active
      ⟨.serverObject, false, ()⟩ } .empty) pumpCreated.after

/-- Then it installs the hook that leads to the callback. -/
def pumpGuarded : (requests Unit).Stretch :=
  .first (requests Unit) 2 (.call (.installHook
    ⟨.numeric 1 1, .serverObject, false, .active, .registered⟩)) pumpKept.after

/-- The handle of that alarm. -/
def pump : Alarm := ⟨.wrap (.numeric 1 1), .serverObject⟩

private theorem run_pumpGuarded :
    System.Run (.idle (requests Unit) (.create (.start ⟨0, 0⟩)))
      [pumpCreated, pumpKept, pumpGuarded] ⟨pumpGuarded.after, 3, []⟩ :=
  .cons (.request_of_ends ⟨_, _, rfl⟩ 0 []) (.cons (.request_of_ends ⟨_, _, rfl⟩ 1 [])
    (.cons (.request_of_ends ⟨_, _, rfl⟩ 2 []) (.nil _)))

/-- The alarm is switched off from a node that does not exist, with an empty text. It shows that it
is inactive, and the switch fails. -/
theorem switchOff_pumpGuarded :
    ∃ (d : (requests Unit).Config) (t : Server Unit),
      System.Run (.idle (requests Unit) (.create (.start ⟨0, 0⟩)))
        [pumpCreated, pumpKept, pumpGuarded] d ∧
      (pump.setActive .null false (some "")).perform d.state =
        .done (.error (.triggerFailed "ns=0;i=0" .badSourceNodeIdInvalid)) t ∧
      t.space.readField (.numeric 1 1) (.standard "Message") =
        .ok (.localizedText ⟨"", "Alarm inactive"⟩) := by
  obtain ⟨c, hc, ht⟩ : ∃ c, pumpGuarded.after.space.condition pump.condition.id = .ok c ∧
      c.type = .offNormal := ⟨_, rfl, rfl⟩
  obtain ⟨r, t, c', hrun, hw, -, hends⟩ :=
    switchOff_of_run run_pumpGuarded rfl hc ht .null (some "")
  have hunknown : pumpGuarded.after.space.nodes.find? .null = none := rfl
  have hn : ¬ pumpGuarded.after.space.MayNotify .null c'.source := by
    rintro ⟨n, hn, -⟩
    cases hunknown.symm.trans hn
  cases hends with
  | announced e hmay => exact absurd hmay hn
  | unannounced _ halters =>
    refine ⟨_, t, run_pumpGuarded, hrun, ?_⟩
    refine (AddressSpace.readField_of_condition (halters.condition_eq_ok hc) _).trans ?_
    exact ConditionState.read_eq_ok hw.message (by decide)

/-- Switching an alarm on, at any moment of any run. Whoever is asked leaves the nodes of the alarm
and of the named source as they are. Then there are three outcomes. If the alarm was not active and
its callback forbids that, the switch fails with the status of the callback; message, time and
retain stay written, and nothing is published. If nobody forbids it and the source may not notify of
the condition, the switch fails because of that; the alarm is active nevertheless. Otherwise the
alarm is active and one event is published that shows so. A callback is asked at most once, and only
if the alarm was not active. -/
theorem activation_of_run {ambient : Ambient} {trace : List (requests β).Stretch}
    {d : (requests β).Config} (h : System.Run (.idle (requests β) (.create ambient)) trace d)
    (hs : d.state.script = .empty) {a : Alarm} {c : ConditionState}
    (hc : d.state.space.condition a.condition.id = .ok c) (ht : c.type = .offNormal)
    (source : NodeId) (message : Option String) {es : List (Exchange (upcalls β) (Server β))}
    {y : Interaction (upcalls β) (Server β) (Except Error EventId)}
    (ha : After ((a.setActive source true message).perform d.state) es y)
    (hes : ∀ e ∈ es, Undisturbed [a.condition.id, source] e.asked e.left) :
    let text := (message.filter (· ≠ "")).getD "Alarm active"
    ∃ active, c.idOf .active = some active ∧ a.Activation source text c active d.state es y ∧
      (∀ e ∈ es, a.AsksIn text c d.state e.asked) ∧
      ((found d.state es).space.MayNotify source c.source ↔
        d.state.space.MayNotify source c.source) := by
  intro text
  obtain ⟨ts, hts⟩ := exists_twoState_of_run h hc ht .active
  have htext : Alarm.messageFor true message = text := Alarm.messageFor_eq true message
  have hcondition : ∀ e ∈ es, Undisturbed [a.condition.id] e.asked e.left := fun e he =>
    ⟨fun i hi => (hes e he).nodes i (by simp [List.mem_singleton.1 hi]), (hes e he).script⟩
  obtain ⟨hasks, hact⟩ := Alarm.activation_of_after hs hc hts hcondition ha
  rw [htext] at hasks hact
  refine ⟨ts.id, by rw [ConditionState.idOf, hts, Option.map_some], hact, hasks, ?_⟩
  have hexchange : ∀ e ∈ es, (e.left.space.MayNotify source c.source ↔
      d.state.space.MayNotify source c.source) := by
    intro e he
    obtain ⟨_, -, halters⟩ := hasks e he
    rw [AddressSpace.mayNotify_congr ((hes e he).nodes source (by simp)), halters.mayNotify_iff]
  rcases es.eq_nil_or_concat with rfl | ⟨_, e, rfl⟩
  · exact Iff.rfl
  · rw [List.concat_eq_append, found_append]
    exact hexchange e (by simp)

/-- The alarm is switched on, and its callback fails. It is not active, but of interest. -/
theorem activation_pumpGuarded :
    ∃ (d : (requests Unit).Config) (x : Exchange (upcalls Unit) (Server Unit)) (t : Server Unit),
      System.Run (.idle (requests Unit) (.create (.start ⟨0, 0⟩)))
        [pumpCreated, pumpKept, pumpGuarded] d ∧
      After ((pump.setActive .serverObject true none).perform d.state) [x]
        (.done (.error (.nestedFieldWriteFailed "ActiveState" "Id" .badInternalError)) t) ∧
      t.space.idOf (.numeric 1 1) .active = some false ∧
      t.space.readField (.numeric 1 1) (.standard "Retain") = .ok (.boolean true) := by
  obtain ⟨c, hc, ht⟩ : ∃ c, pumpGuarded.after.space.condition pump.condition.id = .ok c ∧
      c.type = .offNormal := ⟨_, rfl, rfl⟩
  let q : Upcall Unit := .transition () none .serverObject false
  obtain ⟨s, resume, hask, hscript, t, hdone⟩ : ∃ s resume,
      (pump.setActive .serverObject true none).perform pumpGuarded.after = .ask q s resume ∧
      s.script = .empty ∧ ∃ t, resume (Verdict.fault .silent) s =
        .done (.error (.nestedFieldWriteFailed "ActiveState" "Id" .badInternalError)) t :=
    ⟨_, _, rfl, rfl, _, rfl⟩
  have hafter : After ((pump.setActive .serverObject true none).perform pumpGuarded.after)
      [⟨q, s, Verdict.fault .silent, s⟩]
      (.done (.error (.nestedFieldWriteFailed "ActiveState" "Id" .badInternalError)) t) := by
    rw [hask, ← hdone]
    exact .cons _ _ (.nil _)
  obtain ⟨active, hid, hact, hasks, -⟩ := activation_of_run run_pumpGuarded rfl hc ht .serverObject
    none hafter fun e he => List.mem_singleton.1 he ▸ ⟨fun _ _ => rfl, hscript⟩
  refine ⟨_, _, t, run_pumpGuarded, hafter, ?_⟩
  cases hact with
  | entered _ _ hends => cases hends
  | vetoed hactive _ _ hw halters =>
    obtain ⟨_, -, hasked⟩ := hasks _ (List.mem_singleton_self _)
    have hcondition := halters.condition_eq_ok (hasked.condition_eq_ok hc)
    constructor
    · rw [← hactive, ← hid]
      refine (AddressSpace.idOf_of_condition hcondition _).trans ?_
      rw [ConditionState.idOf, hw.twoStates, Option.map_id', ConditionState.idOf]
    · refine (AddressSpace.readField_of_condition hcondition _).trans ?_
      exact ConditionState.read_eq_ok hw.retain (by decide)

end AlarmServer
