import AlarmServer.Proofs.Publishing
import AlarmServer.Proofs.TwoStates
import Mathlib.Data.List.Flatten

/-!
# Client methods

The four methods by which clients change the state of a condition are one: a method leads a variable
of its condition to a state, asks the hook if that is the true state, keeps the comment it was given
and publishes the condition. A method that fails has changed nothing itself, and once the state is
committed nothing fails any more.
-/

namespace AlarmServer

open Interaction (After found)
open Server (Beside)

variable {β : Type}

/-! ### Comments and snapshots -/

namespace ConditionState

/-- The state of a condition that has been given a comment, if there is one. -/
def commented (c : ConditionState) : Option String → ConditionState
  | some text => c.store .comment (.localizedText (.plain text))
  | none => c

/-- No field has the name of a two-state variable. -/
theorem ofVariable?_name (f : Field) : TransitionKind.ofVariable? f.name = none := by
  cases f <;> rfl

/-- A field that every condition has can be written with a value of its data type. -/
theorem target_of_base (c : ConditionState) {f : Field} {value : Variant}
    (hf : f ∈ ConditionType.baseFields) (hv : value.dataType = f.dataType) :
    c.target f.name value = .ok f := by
  have hmem : f ∈ c.type.fields := List.mem_append_left _ (List.mem_append_left _ hf)
  unfold target
  rw [ofVariable?_name, ConditionType.field?_name, if_pos hmem]
  exact if_pos hv

/-- A comment does not move a condition. -/
@[simp] theorem source_commented (c : ConditionState) (comment : Option String) :
    (c.commented comment).source = c.source := by
  cases comment <;> rfl

/-- A comment does not change the type. -/
@[simp] theorem type_commented (c : ConditionState) (comment : Option String) :
    (c.commented comment).type = c.type := by
  cases comment <;> rfl

/-- A comment changes no two-state variable. -/
@[simp] theorem twoStates_commented (c : ConditionState) (comment : Option String) :
    (c.commented comment).twoStates = c.twoStates := by
  cases comment <;> rfl

private theorem fields_commented (c : ConditionState) (text : String) :
    (c.commented (some text)).fields =
      c.fields.insert .comment (.localizedText (.plain text)) := rfl

-- What a snapshot may have entries for.
private def snapshotNames (t : ConditionType) : List String :=
  t.fields.map Field.name ++ TransitionKind.all.flatMap fun k =>
    [k.variableName, k.variableName ++ "/Id", k.variableName ++ "/TransitionTime"]

private theorem nodup_snapshotNames (t : ConditionType) : (snapshotNames t).Nodup := by
  cases t <;> decide +kernel

/-- A snapshot has one entry for each name. -/
theorem nodup_snapshot (c : ConditionState) : (c.snapshot.map Prod.fst).Nodup := by
  refine (nodup_snapshotNames c.type).sublist ?_
  unfold snapshot snapshotNames
  rw [List.map_append, List.map_map, List.map_flatMap]
  refine List.Sublist.append (List.Sublist.refl _) ?_
  refine List.Sublist.flatMap_right _ fun k _ => ?_
  cases c.twoStates.find? k with
  | none => simp
  | some s =>
    obtain ⟨id, time⟩ := s
    cases time <;> simp

/-- A snapshot has entries for the fields, and for the variables what they show, their states and
the times of their transitions. -/
theorem mem_snapshot_iff {c : ConditionState} {name : String} {v : Variant} :
    (name, v) ∈ c.snapshot ↔ (∃ f ∈ c.type.fields, name = f.name ∧ v = c.field f) ∨
      ∃ k s, c.twoStates.find? k = some s ∧ ((name = k.variableName ∧ v = shown k s) ∨
        (name = k.variableName ++ "/Id" ∧ v = .boolean s.id) ∨
        (name = k.variableName ++ "/TransitionTime" ∧
          ∃ t, s.transitionTime = some t ∧ v = .dateTime t)) := by
  unfold snapshot
  rw [List.mem_append, List.mem_map, List.mem_flatMap]
  refine or_congr ?_ ?_
  · constructor
    · rintro ⟨f, hf, he⟩
      cases he
      exact ⟨f, hf, rfl, rfl⟩
    · rintro ⟨f, hf, rfl, rfl⟩
      exact ⟨f, hf, rfl⟩
  · constructor
    · rintro ⟨k, -, h⟩
      cases hs : c.twoStates.find? k with
      | none => simp [hs] at h
      | some s =>
        refine ⟨k, s, hs, ?_⟩
        cases ht : s.transitionTime <;> simpa [hs, ht, or_assoc] using h
    · rintro ⟨k, s, hs, h⟩
      refine ⟨k, k.mem_all, ?_⟩
      cases ht : s.transitionTime <;> simpa [hs, ht, or_assoc] using h

/-- The fields of a condition are in its snapshot. -/
theorem field_mem_snapshot {c : ConditionState} {f : Field} (hf : f ∈ c.type.fields) :
    (f.name, c.field f) ∈ c.snapshot :=
  mem_snapshot_iff.2 (.inl ⟨f, hf, rfl, rfl⟩)

private theorem id_mem_snapshot {c : ConditionState} {k : TransitionKind} {s : TwoState}
    (hs : c.twoStates.find? k = some s) :
    (k.variableName ++ "/Id", .boolean s.id) ∈ c.snapshot :=
  mem_snapshot_iff.2 (.inr ⟨k, s, hs, .inr (.inl ⟨rfl, rfl⟩)⟩)

private theorem field_name_ne_id (f : Field) (k : TransitionKind) :
    f.name ≠ k.variableName ++ "/Id" := by
  cases k <;> cases f <;> decide +kernel

/-- What a snapshot shows as the state of a variable is its state. -/
theorem id_mem_snapshot_iff {c : ConditionState} {k : TransitionKind} {b : Bool} :
    (k.variableName ++ "/Id", .boolean b) ∈ c.snapshot ↔ c.idOf k = some b := by
  constructor
  · intro h
    obtain ⟨f, -, hname, -⟩ | ⟨k', s, hs, ⟨-, hv⟩ | ⟨hname, hv⟩ | ⟨-, t, -, hv⟩⟩ :=
      mem_snapshot_iff.1 h
    · exact absurd hname.symm (field_name_ne_id f k)
    · cases hv
    · cases hv
      rw [TransitionKind.variableName_inj ((String.append_left_inj _).1 hname), idOf, hs]
      rfl
    · cases hv
  · intro h
    obtain ⟨s, hs, rfl⟩ := Option.map_eq_some_iff.1 h
    exact id_mem_snapshot hs

end ConditionState

namespace Service

private theorem storeComment_run {s : Server β} {sp : AddressSpace β} {c : NodeId}
    {old cs : ConditionState} (ho : sp.condition c = .ok old) (hs : s.space = sp.setCondition c cs)
    (comment : Option String) :
    ∃ t, (storeComment c comment : Service β Unit).run s = .done (.ok ()) t ∧
      Beside (s.withSpace (sp.setCondition c (cs.commented comment))) t ∧
      t.announced = s.announced := by
  cases comment with
  | none => exact ⟨s, rfl, ⟨hs, rfl, rfl, rfl, rfl⟩, rfl⟩
  | some text =>
    let value : Variant := .localizedText (.plain text)
    have hc : s.space.condition c = .ok cs := by
      rw [hs]
      exact AddressSpace.condition_setCondition ho cs
    have hw : (SpaceAction.writeField c (.standard "Comment") value).effect s.space =
        .ok (sp.setCondition c (cs.commented (some text))) := by
      refine AddressSpace.writeField_eq_ok_iff.2
        ⟨cs, .comment, hc, cs.target_of_base (f := .comment) (by decide) rfl, ?_⟩
      rw [hs, AddressSpace.setCondition_setCondition]
      rfl
    refine ⟨(s.withSpace _).log .trace (c.text ++ " " ++ (QualifiedName.standard "Comment").text ++
      " = " ++ value.text), ?_, Server.beside_log .trace _ _, Server.announced_log .trace _ _⟩
    show (act (.writeField c (.standard "Comment") value) >>= _ : Service β Unit).run s = _
    rw [act_bind_run (SpaceAction.checksFirst_writeField _ _ _), hw]
    rfl

private theorem publishFromOwnSource_run {s : Server β} {c : NodeId} {cs : ConditionState}
    (hc : s.space.condition c = .ok cs) :
    ∃ t, (publishFromOwnSource c : Service β EventId).run s = .done (.ok (.drawn s.drawn)) t ∧
      Beside (s.tell c cs cs.source) t ∧ t.announced = s.announced := by
  obtain ⟨t, hrun, hb, ha, -⟩ := publish_run hc cs.source
  refine ⟨t, ?_, hb, ha⟩
  show (query _ >>= _).run s = _
  rw [query_bind_run, hc]
  exact hrun

/-- What follows on the entry of a state. -/
theorem enter_bind_run {γ : Type} (c : NodeId) (k : TransitionKind) (session : Session)
    (f : Unit → Service β γ) (s : Server β) :
    (enter c k session >>= f).run s = match s.space.twoState c k with
      | .error e => .done (.error e) s
      | .ok ts =>
        if ts.id then .done (.error (alreadyEntered k)) s
        else (runHook c k session >>= fun _ => commit c k true >>= f).run s := by
  unfold enter
  simp only [bind_assoc]
  rw [query_bind_run]
  cases s.space.twoState c k with
  | error e => rfl
  | ok ts => cases h : ts.id <;> simp [h]

end Service

/-! ### Methods -/

/-- What a client may call on a condition. -/
inductive ClientMethod where
  /-- Enable it. -/
  | enable (session : Session)
  /-- Disable it. -/
  | disable
  /-- Acknowledge it. -/
  | acknowledge (session : Session) (comment : Option String)
  /-- Confirm it. -/
  | confirm (session : Session) (comment : Option String)
  deriving DecidableEq

namespace ClientMethod

/-- The variable that a method is about. -/
def kind : ClientMethod → TransitionKind
  | enable _ => .enabled
  | disable => .enabled
  | acknowledge .. => .acked
  | confirm .. => .confirmed

/-- The state that a method leads to. -/
def target : ClientMethod → Bool
  | disable => false
  | _ => true

/-- The session that calls a method. -/
def session : ClientMethod → Session
  | enable session => session
  | disable => none
  | acknowledge session _ => session
  | confirm session _ => session

/-- The comment that a method is given. -/
def comment : ClientMethod → Option String
  | acknowledge _ comment => comment
  | confirm _ comment => comment
  | _ => none

/-- Why a method fails in the state that it leads to. -/
def redundant : ClientMethod → StatusCode
  | enable _ => .badConditionAlreadyEnabled
  | disable => .badConditionAlreadyDisabled
  | acknowledge .. => .badConditionBranchAlreadyAcked
  | confirm .. => .badConditionBranchAlreadyConfirmed

/-- Carry out a method. -/
def perform : ClientMethod → NodeId → Service β EventId
  | enable session, c => Service.enable c session
  | disable, c => Service.disable c
  | acknowledge session comment, c => Service.acknowledge c session comment
  | confirm session comment, c => Service.confirm c session comment

/-- What a method does about the hook of its variable. -/
def gate (m : ClientMethod) (c : NodeId) : Service β Unit :=
  if m.target then Service.runHook c m.kind m.session else pure ()

/-- What a method does once it may. -/
def finish (m : ClientMethod) (c : NodeId) : Service β EventId := do
  Service.commit c m.kind m.target
  Service.storeComment c m.comment
  Service.publishFromOwnSource c

/-- What a method does: it fails if the variable is not there or in its target state already, and
otherwise passes the hook and finishes. -/
theorem perform_run (m : ClientMethod) (c : NodeId) (s : Server β) :
    (m.perform c).run s = match s.space.twoState c m.kind with
      | .error e => .done (.error e) s
      | .ok ts =>
        if ts.id = m.target then .done (.error m.redundant) s
        else (m.gate c >>= fun _ => m.finish c).run s := by
  cases m with
  | enable session => exact Service.enter_bind_run c .enabled session _ s
  | disable =>
    show (Service.query _ >>= _).run s = _
    rw [Service.query_bind_run]
    simp only [kind, target, redundant]
    cases s.space.twoState c .enabled with
    | error e => rfl
    | ok ts =>
      cases h : ts.id with
      | false => simp [h]
      | true =>
        simp only [h, Bool.true_eq_false, if_false]
        rfl
  | acknowledge session comment => exact Service.enter_bind_run c .acked session _ s
  | confirm session comment => exact Service.enter_bind_run c .confirmed session _ s

/-- The state of a condition that a method publishes: its variable is in the target state, and the
comment is kept. -/
def entered (m : ClientMethod) (cs : ConditionState) (now : Instant) : ConditionState :=
  (cs.changeTwoState m.kind (TwoState.enter m.target now)).commented m.comment

/-- What a method makes of the state of its condition. -/
def result (m : ClientMethod) (cs : ConditionState) (id : EventId) (now : Instant) :
    ConditionState :=
  (m.entered cs now).noted id now

private theorem source_entered (m : ClientMethod) (cs : ConditionState) (now : Instant) :
    (m.entered cs now).source = cs.source :=
  ConditionState.source_commented _ m.comment

/-- A condition before and after a method that was carried out at a time, with an event. -/
structure Transforms (m : ClientMethod) (id : EventId) (now : Instant) (cs cs' : ConditionState) :
    Prop where
  /-- The type stays. -/
  type : cs'.type = cs.type
  /-- The source stays. -/
  source : cs'.source = cs.source
  /-- The variable is in the target state, since now unless it was there before. -/
  twoState : ∃ ts, cs.twoStates.find? m.kind = some ts ∧ cs'.twoStates.find? m.kind =
    some (if ts.id = m.target then ts else ⟨m.target, some now⟩)
  /-- The other variables stay. -/
  otherStates : ∀ k, k ≠ m.kind → cs'.twoStates.find? k = cs.twoStates.find? k
  /-- The event is noted. -/
  eventId : cs'.fields.find? .eventId = some (.byteString id.bytes)
  /-- Its time is noted. -/
  receiveTime : cs'.fields.find? .receiveTime = some (.dateTime now)
  /-- The comment is kept, if one was given. -/
  comment : cs'.fields.find? .comment = match m.comment with
    | some text => some (.localizedText (.plain text))
    | none => cs.fields.find? .comment
  /-- The other fields stay. -/
  otherFields : ∀ f, f ≠ .eventId → f ≠ .receiveTime → f ≠ .comment →
    cs'.fields.find? f = cs.fields.find? f

/-- The event that a method publishes of a condition in its new state. -/
structure Tells (m : ClientMethod) (c : NodeId) (id : EventId) (cs' : ConditionState)
    (event : ConditionEvent) : Prop where
  /-- It has the identifier that the method gives. -/
  eventId : event.eventId = id
  /-- It is about the condition. -/
  condition : event.condition = c
  /-- It leaves from the source of the condition. -/
  source : event.source = cs'.source
  /-- It shows the new state of the condition. -/
  fields : event.fields = cs'.snapshot
  /-- It shows one value under each name. -/
  nodup : (event.fields.map Prod.fst).Nodup
  /-- The variable is shown in the target state. -/
  showsState : (m.kind.variableName ++ "/Id", .boolean m.target) ∈ event.fields
  /-- The comment is shown, if one was given. -/
  showsComment : ∀ text, m.comment = some text →
    ("Comment", .localizedText (.plain text)) ∈ event.fields

/-- What a successful method makes of the state that it was given back, or was called in. -/
structure Succeeds (m : ClientMethod) (c : NodeId) (id : EventId) (s t : Server β) : Prop where
  /-- The condition is transformed and published, and nothing else happens to its node. -/
  condition : ∃ n cs cs' event, s.space.nodes.find? c = some n ∧ n.body = .condition cs ∧
    t.space.nodes.find? c = some { n with body := .condition cs' } ∧
    m.Transforms id s.now cs cs' ∧ t.space.events = s.space.events ++ [event] ∧
    m.Tells c id cs' event
  /-- The other nodes stay. -/
  nodes : ∀ i, i ≠ c → t.space.nodes.find? i = s.space.nodes.find? i
  /-- The event has the next identifier of the series. -/
  eventId : id = .drawn s.drawn
  /-- No event before it has that identifier, unless the series has repeated. -/
  renewed : ∀ n < s.drawn, s.drawn < n + 2 ^ 62 → id ≠ .drawn n
  /-- The identifier is used up, so the event after it gets another one. -/
  drawn : t.drawn = s.drawn + 1
  /-- One event more is counted. -/
  published : t.space.published = s.space.published + 1
  /-- The hooks stay. -/
  hooks : t.space.hooks = s.space.hooks
  /-- The watchers stay. -/
  watchers : t.space.watchers = s.space.watchers
  /-- No identifier of a node is used up. -/
  nextId : t.space.nextId = s.space.nextId
  /-- No node is deleted. -/
  deleted : t.space.deleted = s.space.deleted
  /-- The registry stays. -/
  registry : t.tables.registry = s.tables.registry
  /-- The sessions stay. -/
  sessions : t.tables.sessions = s.tables.sessions

/-- Why a method fails. -/
inductive Fails (m : ClientMethod) (c : NodeId) (s : Server β) :
    List (Exchange (upcalls β) (Server β)) → StatusCode → Prop where
  /-- The variable is not there. -/
  | missing {e : StatusCode} (h : s.space.twoState c m.kind = .error e) : Fails m c s [] e
  /-- The variable is in the target state. -/
  | redundant {ts : TwoState} (h : s.space.twoState c m.kind = .ok ts) (hts : ts.id = m.target) :
      Fails m c s [] m.redundant
  /-- The callback has forbidden the transition. -/
  | vetoed {x : Exchange (upcalls β) (Server β)}
      (h : (x.question.status x.answer).isGood = false) :
      Fails m c s [x] (x.question.status x.answer)
  /-- The callback has allowed the transition, but the variable is not there any more. -/
  | gone {x : Exchange (upcalls β) (Server β)} {e : StatusCode}
      (h : (x.question.status x.answer).isGood = true)
      (he : x.left.space.twoState c m.kind = .error e) : Fails m c s [x] e

/-- A method makes of a condition what it should. -/
theorem transforms_result {m : ClientMethod} {cs : ConditionState} {ts : TwoState}
    (hts : cs.twoStates.find? m.kind = some ts) (id : EventId) (now : Instant) :
    m.Transforms id now cs (m.result cs id now) where
  type := by simp [result, entered, ConditionState.noted, ConditionState.changeTwoState]
  source := by simp [result, entered, ConditionState.noted, ConditionState.changeTwoState]
  twoState := by
    refine ⟨ts, hts, ?_⟩
    simp [result, entered, ConditionState.noted, ConditionState.changeTwoState, Table.find?_modify,
      hts, TwoState.enter]
  otherStates k hk := by
    simp [result, entered, ConditionState.noted, ConditionState.changeTwoState, Table.find?_modify,
      hk]
  eventId := by simp [result, entered, ConditionState.noted, Table.find?_insert]
  receiveTime := by simp [result, entered, ConditionState.noted]
  comment := by
    cases hc : m.comment with
    | none => simp [result, entered, ConditionState.noted, Table.find?_insert, hc,
        ConditionState.commented, ConditionState.changeTwoState]
    | some text => simp [result, entered, ConditionState.noted, Table.find?_insert, hc,
        ConditionState.fields_commented]
  otherFields f h₁ h₂ h₃ := by
    cases hc : m.comment with
    | none => simp [result, entered, ConditionState.noted, Table.find?_insert, hc,
        ConditionState.commented, ConditionState.changeTwoState, h₁, h₂]
    | some text => simp [result, entered, ConditionState.noted, Table.find?_insert, hc,
        ConditionState.fields_commented, ConditionState.changeTwoState, h₁, h₂, h₃]

/-- The event of a condition that was transformed tells of the method. -/
theorem tells_event {m : ClientMethod} {cs cs' : ConditionState} {id : EventId} {now : Instant}
    (h : m.Transforms id now cs cs') (c : NodeId) :
    m.Tells c id cs' (cs'.event c cs.source id now) where
  eventId := rfl
  condition := rfl
  source := h.source.symm
  fields := rfl
  nodup := cs'.nodup_snapshot
  showsState := by
    obtain ⟨ts, -, hts⟩ := h.twoState
    have hid := ConditionState.id_mem_snapshot hts
    have htarget : (if ts.id = m.target then ts else ⟨m.target, some now⟩).id = m.target := by
      split
      · assumption
      · rfl
    rw [htarget] at hid
    exact hid
  showsComment text hc := by
    have hf : cs'.field .comment = .localizedText (.plain text) := by
      rw [ConditionState.field, h.comment, hc]
      rfl
    have hmem : Field.comment ∈ cs'.type.fields := by
      cases cs'.type <;> decide
    have hs := ConditionState.field_mem_snapshot hmem
    rw [hf] at hs
    exact hs

/-- A method that may finish succeeds if its variable is there. -/
theorem finish_run_of_ok {s : Server β} {c : NodeId} {cs : ConditionState} {ts : TwoState}
    (m : ClientMethod) (hc : s.space.condition c = .ok cs)
    (hts : cs.twoStates.find? m.kind = some ts) :
    ∃ t, (m.finish c : Service β EventId).run s = .done (.ok (.drawn s.drawn)) t ∧
      Beside (s.tell c (m.entered cs s.now) cs.source) t ∧ t.announced = s.announced := by
  let cs₁ := cs.changeTwoState m.kind (TwoState.enter m.target s.now)
  let s₁ := (s.withSpace (s.space.setCondition c cs₁)).log .trace
    (c.text ++ " " ++ m.kind.variableName ++ "/Id = " ++ toString m.target)
  have hcommit : s.space.commit c m.kind m.target s.now = .ok (s.space.setCondition c cs₁) :=
    AddressSpace.commit_eq_ok_iff.2 ⟨cs, ts, hc, hts, rfl⟩
  obtain ⟨s₂, h₂, hb₂, ha₂⟩ := Service.storeComment_run (s := s₁) hc rfl m.comment
  have hb : Beside (s.withSpace (s.space.setCondition c (m.entered cs s.now))) s₂ :=
    ⟨hb₂.space, hb₂.registry, hb₂.sessions, hb₂.now, hb₂.drawn⟩
  have hc₂ : s₂.space.condition c = .ok (m.entered cs s.now) := by
    rw [hb.space]
    exact AddressSpace.condition_setCondition hc _
  obtain ⟨t, h₃, hb₃, ha₃⟩ := Service.publishFromOwnSource_run hc₂
  have hdrawn : s₂.drawn = s.drawn := hb.drawn
  rw [hdrawn] at h₃
  rw [source_entered] at hb₃
  refine ⟨t, ?_, (hb.tell _ _).trans hb₃, ?_⟩
  · rw [finish, Service.bind_run, Service.commit_run, hcommit]
    show (Service.storeComment c m.comment >>= _ : Service β EventId).run s₁ = _
    rw [Service.bind_run, h₂]
    exact h₃
  · rw [ha₃, ha₂]
    exact Server.announced_log .trace _ _

/-- What holds for a state holds for one that differs beside the address space only. -/
theorem Succeeds.of_beside {m : ClientMethod} {c : NodeId} {id : EventId} {s s' t : Server β}
    (h : Beside s s') (hs : m.Succeeds c id s' t) : m.Succeeds c id s t where
  condition := by
    rw [← h.space, ← h.now]
    exact hs.condition
  nodes i hi := by
    rw [← h.space]
    exact hs.nodes i hi
  eventId := by
    rw [← h.drawn]
    exact hs.eventId
  renewed := by
    rw [← h.drawn]
    exact hs.renewed
  drawn := by
    rw [← h.drawn]
    exact hs.drawn
  published := hs.published.trans (by rw [h.space])
  hooks := hs.hooks.trans (by rw [h.space])
  watchers := hs.watchers.trans (by rw [h.space])
  nextId := hs.nextId.trans (by rw [h.space])
  deleted := hs.deleted.trans (by rw [h.space])
  registry := hs.registry.trans h.registry
  sessions := hs.sessions.trans h.sessions

private theorem succeeds_of_beside {m : ClientMethod} {c : NodeId} {s t : Server β} {n : Node}
    {cs : ConditionState} {ts : TwoState} (hn : s.space.nodes.find? c = some n)
    (hbody : n.body = .condition cs) (hts : cs.twoStates.find? m.kind = some ts)
    (hb : Beside (s.tell c (m.entered cs s.now) cs.source) t) :
    m.Succeeds c (.drawn s.drawn) s t where
  condition := by
    have htrans := transforms_result (m := m) hts (.drawn s.drawn) s.now
    refine ⟨n, cs, m.result cs (.drawn s.drawn) s.now, _, hn, hbody, ?_, htrans,
      congrArg AddressSpace.events hb.space, htrans.source ▸ tells_event htrans c⟩
    rw [hb.space, Server.nodes_tell]
    simp [AddressSpace.setCondition, AddressSpace.modifyNode, Table.find?_modify, hn, result]
  nodes i hi := by
    rw [hb.space, Server.nodes_tell]
    simp [AddressSpace.setCondition, AddressSpace.modifyNode, Table.find?_modify, hi]
  eventId := rfl
  renewed n hlt hseries := EventId.drawn_ne hlt hseries
  drawn := hb.drawn
  published := by rw [hb.space]; rfl
  hooks := by rw [hb.space]; rfl
  watchers := by rw [hb.space]; rfl
  nextId := by rw [hb.space]; rfl
  deleted := by rw [hb.space]; rfl
  registry := hb.registry
  sessions := hb.sessions

/-- A method that may finish succeeds, or has lost its variable and changes nothing. -/
theorem finish_run (m : ClientMethod) (c : NodeId) (s : Server β) :
    (∃ e, s.space.twoState c m.kind = .error e ∧
      (m.finish c : Service β EventId).run s = .done (.error e) s) ∨
    ∃ id t, (m.finish c : Service β EventId).run s = .done (.ok id) t ∧ m.Succeeds c id s t ∧
      t.announced = s.announced := by
  cases h : s.space.twoState c m.kind with
  | error e =>
    refine .inl ⟨e, rfl, ?_⟩
    rw [finish, Service.bind_run, Service.commit_run,
      AddressSpace.commit_eq_error_of_twoState h]
    rfl
  | ok ts =>
    obtain ⟨cs, hc, hts⟩ := AddressSpace.twoState_eq_ok_iff.1 h
    obtain ⟨n, hn, hbody⟩ := AddressSpace.condition_eq_ok_iff.1 hc
    obtain ⟨t, hrun, hb, ha⟩ := finish_run_of_ok m hc hts
    exact .inr ⟨_, t, hrun, succeeds_of_beside hn hbody hts hb, ha⟩

/-- A method that may finish asks nobody. -/
theorem finish_ends (m : ClientMethod) (c : NodeId) (s : Server β) :
    ∃ r t, (m.finish c : Service β EventId).run s = .done r t := by
  rcases m.finish_run c s with ⟨e, -, hr⟩ | ⟨id, t, hr, -⟩
  · exact ⟨_, _, hr⟩
  · exact ⟨_, _, hr⟩

/-- Where a method stands that has found its variable in the other state. -/
theorem gate_cases {m : ClientMethod} {c : NodeId} {s : Server β}
    {es : List (Exchange (upcalls β) (Server β))}
    {y : Interaction (upcalls β) (Server β) (Except StatusCode EventId)}
    (h : After ((m.gate c >>= fun _ => m.finish c).run s) es y) :
    (es = [] ∧ ∃ t, Beside s t ∧ y = (m.finish c).run t) ∨
    (es = [] ∧ ∃ q t resume, Beside s t ∧ y = .ask q t resume) ∨
    ∃ x t, es = [x] ∧ Beside s x.asked ∧ Beside x.left t ∧
      (((x.question.status x.answer).isGood = true ∧ y = (m.finish c).run t) ∨
        ((x.question.status x.answer).isGood = false ∧
          y = .done (.error (x.question.status x.answer)) t)) := by
  have hf := finish_ends (β := β) m c
  unfold gate at h
  split at h
  · cases Service.stage_of_after (f := fun _ => m.finish c) hf h with
    | unasked hq ht ha => exact .inl ⟨rfl, _, ht, rfl⟩
    | asks hq ht ha => exact .inr (.inl ⟨rfl, _, _, _, ht, rfl⟩)
    | allowed hq ht hv ha hr => exact .inr (.inr ⟨_, _, rfl, ht, hv, .inl ⟨hr, rfl⟩⟩)
    | vetoed hq ht hv ha hr => exact .inr (.inr ⟨_, _, rfl, ht, hv, .inr ⟨hr, rfl⟩⟩)
  · change After ((m.finish c).run s) es y at h
    obtain ⟨rfl, rfl⟩ := Interaction.after_of_ends (hf s) h
    exact .inl ⟨rfl, s, .refl s, rfl⟩

/-- What a method has come to after some exchanges. While it asks, nothing has changed. If it fails,
it leaves what the callback has left, or what it was called in; and it fails only before the commit.
If it succeeds, only the state of the variable, the comment and the marks of the event differ from
that, and one event was published, whose identifier is drawn then and is new. -/
def Atomic (m : ClientMethod) (c : NodeId) (s : Server β)
    (es : List (Exchange (upcalls β) (Server β))) :
    Interaction (upcalls β) (Server β) (Except StatusCode EventId) → Prop
  | .ask _ t _ => es = [] ∧ Beside s t
  | .done (.error e) t => Beside (found s es) t ∧ m.Fails c s es e
  | .done (.ok id) t =>
    s.space.idOf c m.kind = some (!m.target) ∧ m.Succeeds c id (found s es) t

/-- A method fails at once, or finds its variable in the other state and passes the hook. -/
theorem perform_cases {m : ClientMethod} {c : NodeId} {s : Server β}
    {es : List (Exchange (upcalls β) (Server β))}
    {y : Interaction (upcalls β) (Server β) (Except StatusCode EventId)}
    (h : After ((m.perform c).run s) es y) :
    (es = [] ∧ ∃ e, y = .done (.error e) s ∧ m.Fails c s [] e) ∨
      (s.space.idOf c m.kind = some (!m.target) ∧
        After ((m.gate c >>= fun _ => m.finish c).run s) es y) := by
  rw [perform_run] at h
  cases hts : s.space.twoState c m.kind with
  | error e =>
    rw [hts] at h
    obtain ⟨rfl, rfl⟩ := Interaction.after_done_iff.1 h
    exact .inl ⟨rfl, e, rfl, .missing hts⟩
  | ok ts =>
    rw [hts] at h
    change After (if ts.id = m.target then _ else _) es y at h
    split at h
    · next hid =>
      obtain ⟨rfl, rfl⟩ := Interaction.after_done_iff.1 h
      exact .inl ⟨rfl, m.redundant, rfl, .redundant hts hid⟩
    · next hid =>
      refine .inr ⟨?_, h⟩
      rw [AddressSpace.twoState_eq_ok_idOf hts]
      revert hid
      cases ts.id <;> cases m.target <;> simp

section

variable {m : ClientMethod} {c : NodeId} {s : Server β}
  {es : List (Exchange (upcalls β) (Server β))}
  {y : Interaction (upcalls β) (Server β) (Except StatusCode EventId)}

/-- A method asks at most once, and nothing has changed when it asks. -/
theorem asked_of_after (h : After ((m.perform c).run s) es y) :
    es.length ≤ 1 ∧ ∀ x ∈ es, Beside s x.asked := by
  have hnone : ([] : List (Exchange (upcalls β) (Server β))).length ≤ 1 ∧
      ∀ x ∈ ([] : List (Exchange (upcalls β) (Server β))), Beside s x.asked :=
    ⟨Nat.zero_le 1, fun _ hx => nomatch hx⟩
  rcases perform_cases h with ⟨rfl, -⟩ | ⟨-, hgate⟩
  · exact hnone
  · rcases gate_cases hgate with ⟨rfl, -⟩ | ⟨rfl, -⟩ | ⟨x, t, rfl, hx, -⟩
    · exact hnone
    · exact hnone
    · refine ⟨Nat.le_refl 1, fun x' hx' => ?_⟩
      rw [List.mem_singleton.1 hx']
      exact hx

-- Once it has passed the hook, a method succeeds unless the callback has taken the variable away.
private theorem atomic_of_finish {t : Server β} (hid : s.space.idOf c m.kind = some (!m.target))
    (ht : Beside (found s es) t)
    (hgone : ∀ e, t.space.twoState c m.kind = .error e → m.Fails c s es e) :
    m.Atomic c s es ((m.finish c).run t) := by
  rcases m.finish_run c t with ⟨e, he, hr⟩ | ⟨id, u, hr, hs, -⟩
  · rw [hr]
    exact ⟨ht, hgone e he⟩
  · rw [hr]
    exact ⟨hid, hs.of_beside ht⟩

/-- A method is all or nothing. -/
theorem outcome_of_after (h : After ((m.perform c).run s) es y) : m.Atomic c s es y := by
  rcases perform_cases h with ⟨rfl, e, rfl, hfails⟩ | ⟨hid, hgate⟩
  · exact ⟨.refl s, hfails⟩
  · rcases gate_cases hgate with ⟨rfl, t, ht, rfl⟩ | ⟨rfl, q, t, resume, ht, rfl⟩ |
      ⟨x, t, rfl, -, ht, ⟨hgood, rfl⟩ | ⟨hbad, rfl⟩⟩
    · refine atomic_of_finish hid ht fun e he => ?_
      -- nobody was asked, so it would have been missing before
      rw [ht.space] at he
      exact .missing he
    · exact ⟨rfl, ht⟩
    · refine atomic_of_finish hid ht fun e he => ?_
      rw [ht.space] at he
      exact .gone hgood he
    · exact ⟨ht, .vetoed hbad⟩

end

/-- A method asks at most once, with nothing changed, and is all or nothing. -/
theorem atomic_of_after (m : ClientMethod) (c : NodeId) (s : Server β)
    {es : List (Exchange (upcalls β) (Server β))}
    {y : Interaction (upcalls β) (Server β) (Except StatusCode EventId)}
    (h : After ((m.perform c).run s) es y) :
    es.length ≤ 1 ∧ (∀ x ∈ es, Beside s x.asked) ∧ m.Atomic c s es y := by
  obtain ⟨honce, hasked⟩ := asked_of_after h
  exact ⟨honce, hasked, outcome_of_after h⟩

end ClientMethod

/-! ### A guarded condition -/

/-- A condition whose acknowledgement asks a callback. -/
def guardedCondition : NodeId := .numeric 1 1

/-- A server that has nothing but that condition. -/
def guardedServer : Server Unit :=
  let s := Server.create (.start ⟨0, 0⟩)
  let state := ConditionState.create .acknowledgeable .serverObject "Server" "Guarded" ⟨0, 0⟩
  s.withSpace {
    s.space.place guardedCondition (.create (.standard "Guarded") (.condition state)) with
    hooks := Table.empty.insert (guardedCondition, .acked)
      ⟨guardedCondition, .serverObject, false, .acked, .direct ()⟩ }

/-- A client acknowledges the condition with a comment. -/
def guardedAcknowledge : ClientMethod := .acknowledge none (some "seen")

/-- What its callback is asked then. -/
def guardQuestion : Upcall Unit := .intercept () .acked guardedCondition none

/-- The callback allows that, and changes nothing. -/
def guardAllows : Exchange (upcalls Unit) (Server Unit) :=
  ⟨guardQuestion, guardedServer, StatusCode.good, guardedServer⟩

/-- The condition is acknowledged once its callback has allowed it. -/
theorem ClientMethod.atomic_guardedAcknowledge :
    ∃ id t, After ((guardedAcknowledge.perform guardedCondition).run guardedServer) [guardAllows]
        (.done (.ok id) t) ∧
      guardedAcknowledge.Atomic guardedCondition guardedServer [guardAllows]
        (.done (.ok id) t) := by
  obtain ⟨resume, hask, id, t, hdone⟩ : ∃ resume,
      (guardedAcknowledge.perform guardedCondition).run guardedServer =
        .ask guardQuestion guardedServer resume ∧
      ∃ id t, resume StatusCode.good guardedServer = .done (.ok id) t :=
    ⟨_, rfl, _, _, rfl⟩
  have h : After ((guardedAcknowledge.perform guardedCondition).run guardedServer) [guardAllows]
      (.done (.ok id) t) := by
    rw [hask, ← hdone]
    exact .cons _ _ (.nil _)
  exact ⟨id, t, h, (atomic_of_after guardedAcknowledge guardedCondition guardedServer h).2.2⟩

end AlarmServer
