import AlarmServer.Proofs.ClientMethods

/-!
# Requests

All that may be asked of a server, by a program or by a callback in the middle of another request,
and which changes of the address space each request may make. Runs of requests are the runs that
theorems about a server speak of: a callback may make any requests before it answers, and while it
runs any change may be made beside the address space. Operations of handles are no requests of their
own, because they do what some requests do one after the other.
-/

namespace AlarmServer

open Interaction (After Keeps)
open ServerAction (Does)
open Service (does_bind does_pure does_throw does_query does_log does_now does_act)
open SpaceAction

variable {β : Type}

namespace RuntimeCall

/-- The changes that a runtime call may make. -/
def May : RuntimeCall β → Change β → Prop
  | createCondition r, ch => ∃ now, ch = .createCondition now r
  | deleteNode id refs, ch => ch = .deleteNode id refs
  | addReference source target type, ch => ch = .addReference source target type
  | writeField c field value, ch => ch = .writeField c field value
  | writeProperty c variableName property value, ch =>
    ∃ kind, TransitionKind.ofVariable? variableName.name = some kind ∧
      ((property.name = "Id" ∧ ∃ id now, value.asBool? = some id ∧ ch = .commit c kind id now) ∨
        (property.name = "TransitionTime" ∧
          ∃ time, value.asInstant? = some time ∧ ch = .setTransitionTime c kind time))
  | installHook h, ch => ch = .installHook h
  | trigger c source, ch => ∃ eventId now, ch = .publish c source eventId now
  | readDisplayName _, _ => False
  | readBrowseName _, _ => False
  | readField .., _ => False
  | readProperty .., _ => False

end RuntimeCall

/-- What may be asked of a server. -/
inductive Request (β : Type) where
  /-- Add an object. -/
  | addObject (parent : NodeId) (name : QualifiedName)
  /-- Add a variable. -/
  | addVariable (parent : NodeId) (name : QualifiedName) (value : Variant) (level : AccessLevel)
  /-- Add a source of events. -/
  | addEventSource (name : QualifiedName)
  /-- Allow or forbid events to leave from a node. -/
  | setNotifier (id : NodeId) (notifier : Bool)
  /-- Write a variable. -/
  | writeValue (id : NodeId) (value : Variant)
  /-- Watch a variable. -/
  | watch (id : NodeId) (callback : β)
  /-- Make a call to the runtime. -/
  | call (c : RuntimeCall β)
  /-- Call a method of a condition on behalf of a client. -/
  | client (m : ClientMethod) (condition : NodeId)
  /-- Dispatch a transition by hand. -/
  | dispatch (kind : TransitionKind) (condition : NodeId) (session : Session)
  /-- Call a hook by hand. -/
  | callHook (hook : Hook β) (session : Session)
  /-- Do something that leaves the address space alone. -/
  | beside (tables : Tables β) (script : Script)

namespace Request

/-- What a successful request gives. -/
@[reducible] def Reply : Request β → Type
  | addObject .. => NodeId
  | addVariable .. => NodeId
  | addEventSource _ => NodeId
  | setNotifier .. => Unit
  | writeValue .. => Unit
  | watch .. => Unit
  | call c => c.method.Reply
  | client .. => EventId
  | dispatch .. => StatusCode
  | callHook .. => StatusCode
  | beside .. => Unit

/-- Carry out a request. -/
def perform : (r : Request β) → Service β r.Reply
  | addObject parent name => Service.addObject parent name
  | addVariable parent name value level => Service.addVariable parent name value level
  | addEventSource name => Service.addEventSource name
  | setNotifier id notifier => Service.act (.setNotifier id notifier)
  | writeValue id value => Service.writeValue id value
  | watch id callback => Service.act (.watch id callback)
  | call c => Server.genuineAnswer c
  | client m c => m.perform c
  | dispatch kind c session =>
    liftM (ServerAction.dispatch kind c session : ServerAction β StatusCode)
  | callHook h session => liftM (ServerAction.callHook h session : ServerAction β StatusCode)
  | beside tables script => modify fun s => { s with tables := tables, script := script }

/-- The changes that a request may make. -/
def May : Request β → Change β → Prop
  | addObject parent name, ch => ch = .addObject parent name
  | addVariable parent name value level, ch => ch = .addVariable parent name value level
  | addEventSource name, ch => ch = .addObject .objectsFolder name ∨
      (∃ id, ch = .setNotifier id true) ∨ ∃ id, ch = .addReference .serverObject id .hasNotifier
  | setNotifier id notifier, ch => ch = .setNotifier id notifier
  | writeValue id value, ch => ch = .writeValue id value
  | watch id callback, ch => ch = .watch id callback
  | call c, ch => c.May ch
  | client m c, ch => (∃ now, ch = .commit c m.kind m.target now) ∨
      (∃ value, ch = .writeField c (.standard "Comment") value) ∨
      ∃ source eventId now, ch = .publish c source eventId now
  | dispatch .., _ => False
  | callHook .., _ => False
  | beside .., _ => False

/-- The requests and the changes that they may make, one pair by one. What only some requests may
make is read off here, from the side of the change. -/
inductive Makes : Request β → Change β → Prop where
  | addObject (parent : NodeId) (name : QualifiedName) :
      Makes (.addObject parent name) (.addObject parent name)
  | addVariable (parent : NodeId) (name : QualifiedName) (value : Variant) (level : AccessLevel) :
      Makes (.addVariable parent name value level) (.addVariable parent name value level)
  | addEventSource (name : QualifiedName) :
      Makes (.addEventSource name) (.addObject .objectsFolder name)
  | openEventSource (name : QualifiedName) (id : NodeId) :
      Makes (.addEventSource name) (.setNotifier id true)
  | linkEventSource (name : QualifiedName) (id : NodeId) :
      Makes (.addEventSource name) (.addReference .serverObject id .hasNotifier)
  | setNotifier (id : NodeId) (notifier : Bool) :
      Makes (.setNotifier id notifier) (.setNotifier id notifier)
  | writeValue (id : NodeId) (value : Variant) : Makes (.writeValue id value) (.writeValue id value)
  | watch (id : NodeId) (callback : β) : Makes (.watch id callback) (.watch id callback)
  | createCondition (r : ConditionRequest) (now : Instant) :
      Makes (.call (.createCondition r)) (.createCondition now r)
  | deleteNode (id : NodeId) (refs : Bool) :
      Makes (.call (.deleteNode id refs)) (.deleteNode id refs)
  | addReference (source target type : NodeId) :
      Makes (.call (.addReference source target type)) (.addReference source target type)
  | writeField (c : NodeId) (field : QualifiedName) (value : Variant) :
      Makes (.call (.writeField c field value)) (.writeField c field value)
  | writeId {kind : TransitionKind} {value : Variant} {id : Bool} (c : NodeId)
      {variableName property : QualifiedName}
      (hk : TransitionKind.ofVariable? variableName.name = some kind) (hp : property.name = "Id")
      (hv : value.asBool? = some id) (now : Instant) :
      Makes (.call (.writeProperty c variableName property value)) (.commit c kind id now)
  | writeTime {kind : TransitionKind} {value : Variant} {time : Instant} (c : NodeId)
      {variableName property : QualifiedName}
      (hk : TransitionKind.ofVariable? variableName.name = some kind)
      (hp : property.name = "TransitionTime") (hv : value.asInstant? = some time) :
      Makes (.call (.writeProperty c variableName property value)) (.setTransitionTime c kind time)
  | installHook (h : Hook β) : Makes (.call (.installHook h)) (.installHook h)
  | trigger (c source : NodeId) (eventId : EventId) (now : Instant) :
      Makes (.call (.trigger c source)) (.publish c source eventId now)
  | commit (m : ClientMethod) (c : NodeId) (now : Instant) :
      Makes (.client m c) (.commit c m.kind m.target now)
  | comment (m : ClientMethod) (c : NodeId) (value : Variant) :
      Makes (.client m c) (.writeField c (.standard "Comment") value)
  | publish (m : ClientMethod) (c source : NodeId) (eventId : EventId) (now : Instant) :
      Makes (.client m c) (.publish c source eventId now)

private theorem makes_of_may_call {call : RuntimeCall β} {ch : Change β} (h : call.May ch) :
    Makes (.call call) ch := by
  cases call with
  | createCondition r =>
    obtain ⟨now, rfl⟩ := h
    exact .createCondition r now
  | deleteNode id refs => exact h ▸ .deleteNode id refs
  | addReference source target type => exact h ▸ .addReference source target type
  | writeField c field value => exact h ▸ .writeField c field value
  | writeProperty c variableName property value =>
    obtain ⟨kind, hk, ⟨hp, id, now, hv, rfl⟩ | ⟨hp, time, hv, rfl⟩⟩ := h
    · exact .writeId c hk hp hv now
    · exact .writeTime c hk hp hv
  | installHook hook => exact h ▸ .installHook hook
  | trigger c source =>
    obtain ⟨eventId, now, rfl⟩ := h
    exact .trigger c source eventId now
  | readDisplayName id => exact h.elim
  | readBrowseName id => exact h.elim
  | readField c field => exact h.elim
  | readProperty c variableName property => exact h.elim

/-- What a request may change is one of the pairs. -/
theorem makes_of_may {r : Request β} {ch : Change β} (h : r.May ch) : r.Makes ch := by
  cases r with
  | addObject parent name => exact h ▸ .addObject parent name
  | addVariable parent name value level => exact h ▸ .addVariable parent name value level
  | addEventSource name =>
    rcases h with rfl | ⟨id, rfl⟩ | ⟨id, rfl⟩
    · exact .addEventSource name
    · exact .openEventSource name id
    · exact .linkEventSource name id
  | setNotifier id notifier => exact h ▸ .setNotifier id notifier
  | writeValue id value => exact h ▸ .writeValue id value
  | watch id callback => exact h ▸ .watch id callback
  | call c => exact makes_of_may_call h
  | client m c =>
    rcases h with ⟨now, rfl⟩ | ⟨value, rfl⟩ | ⟨source, eventId, now, rfl⟩
    · exact .commit m c now
    · exact .comment m c value
    · exact .publish m c source eventId now
  | dispatch kind c session => exact h.elim
  | callHook hook session => exact h.elim
  | beside tables script => exact h.elim

/-- Only a deletion deletes a node. -/
theorem eq_deleteNode_of_may {r : Request β} {id : NodeId} {refs : Bool}
    (h : r.May (.deleteNode id refs)) : r = call (.deleteNode id refs) := by
  cases makes_of_may h
  rfl

end Request

/-- The requests to a server as a system. -/
def requests (β : Type) : System (upcalls β) (Server β) where
  Request := Request β
  Result r := Except StatusCode r.Reply
  perform r := r.perform.run

/-! ### Changes made by requests -/

namespace Service

variable {may : Change β → Prop}

private theorem does_runHook (c : NodeId) (k : TransitionKind) (session : Session) :
    Does may (runHook c k session).run := by
  apply does_bind does_get
  intro s
  cases s.space.hooks.find? (c, k) with
  | none => exact does_pure ()
  | some h =>
    apply does_bind (does_lift (ServerAction.does_callHook h session))
    intro status
    show Does may (ite _ _ _ : Service β Unit).run
    split
    · exact does_pure ()
    · apply does_bind (does_log _ _)
      intro _
      exact does_throw status

private theorem does_commit {c : NodeId} {k : TransitionKind} {value : Bool}
    (hm : ∀ now, may (.commit c k value now)) : Does may (commit c k value).run := by
  apply does_bind does_now
  intro now
  apply does_bind (does_act (checksFirst_commit c k value now) (hm now) fun _ => rfl)
  intro _
  exact does_log _ _

private theorem does_publish {c source : NodeId} (hm : ∀ id now, may (.publish c source id now)) :
    Does may (publish c source).run := by
  apply does_bind (does_query _)
  intro _
  apply does_bind does_drawEventId
  intro id
  apply does_bind does_now
  intro now
  apply does_bind (does_act (checksFirst_publish c source id now) (hm id now) fun _ => rfl)
  intro _
  apply does_bind (does_log _ _)
  intro _
  exact does_pure id

private theorem does_enter {c : NodeId} {k : TransitionKind} (session : Session)
    (hm : ∀ now, may (.commit c k true now)) : Does may (enter c k session).run := by
  apply does_bind (does_query _)
  intro current
  show Does may (ite _ _ _ : Service β Unit).run
  split
  · exact does_throw _
  · apply does_bind (does_runHook c k session)
    intro _
    exact does_commit hm

private theorem does_storeComment {c : NodeId} (comment : Option String)
    (hm : ∀ value, may (.writeField c (.standard "Comment") value)) :
    Does may (storeComment c comment).run := by
  cases comment with
  | none => exact does_pure ()
  | some text =>
    apply does_bind (does_act (checksFirst_writeField _ _ _) (hm (.localizedText (.plain text)))
      fun _ => rfl)
    intro _
    exact does_log _ _

private theorem does_publishFromOwnSource {c : NodeId}
    (hm : ∀ source id now, may (.publish c source id now)) :
    Does may (publishFromOwnSource c).run := by
  apply does_bind (does_query _)
  intro cs
  exact does_publish (hm cs.source)

private theorem does_disable {c : NodeId} (hc : ∀ now, may (.commit c .enabled false now))
    (hp : ∀ source id now, may (.publish c source id now)) : Does may (disable c).run := by
  apply does_bind (does_query _)
  intro current
  show Does may (ite _ _ _ : Service β EventId).run
  split
  · apply does_bind (does_commit hc)
    intro _
    exact does_publishFromOwnSource hp
  · exact does_throw _

private theorem does_enter_publish {c : NodeId} {k : TransitionKind} (session : Session)
    (comment : Option String) (hc : ∀ now, may (.commit c k true now))
    (hw : ∀ value, may (.writeField c (.standard "Comment") value))
    (hp : ∀ source id now, may (.publish c source id now)) :
    Does may (enter c k session >>= fun _ => storeComment c comment >>= fun _ =>
      publishFromOwnSource c).run := by
  apply does_bind (does_enter session hc)
  intro _
  apply does_bind (does_storeComment comment hw)
  intro _
  exact does_publishFromOwnSource hp

/-- What a method may change: its variable, the comment, and what the event leaves behind. -/
theorem does_client (m : ClientMethod) (c : NodeId) :
    Does (Request.client m c : Request β).May (m.perform c).run := by
  have hc : ∀ now, (Request.client m c : Request β).May (.commit c m.kind m.target now) :=
    fun now => .inl ⟨now, rfl⟩
  have hw : ∀ value, (Request.client m c : Request β).May
      (.writeField c (.standard "Comment") value) := fun value => .inr (.inl ⟨value, rfl⟩)
  have hp : ∀ source id now, (Request.client m c : Request β).May (.publish c source id now) :=
    fun source id now => .inr (.inr ⟨source, id, now, rfl⟩)
  cases m with
  | enable session =>
    apply does_bind (does_enter session hc)
    intro _
    exact does_publishFromOwnSource hp
  | disable => exact does_disable hc hp
  | acknowledge session comment => exact does_enter_publish session comment hc hw hp
  | confirm session comment => exact does_enter_publish session comment hc hw hp

private theorem does_addEventSource (name : QualifiedName) :
    Does (Request.addEventSource name : Request β).May (addEventSource name).run := by
  intro s
  show Server.Advances _ s (s.withSpace (s.space.addEventSource name).2)
  refine .withSpace ?_
  have hopen (id : NodeId) : (Request.addEventSource name : Request β).May (.setNotifier id true) :=
    .inr (.inl ⟨id, rfl⟩)
  obtain ⟨mid, rfl | hfirst, hrest⟩ := AddressSpace.changed_addEventSource hopen
    (fun id => .inr (.inr ⟨id, rfl⟩)) name s.space
  · exact hrest
  · exact .trans _ _ _ (.single _ (.inl rfl) hfirst) hrest

/-- What a write of a property comes to. -/
inductive PropertyWrite (c : NodeId) (variableName property : QualifiedName) (value : Variant)
    (s : Server β) : Interaction (upcalls β) (Server β) (Except StatusCode Unit) → Prop where
  /-- It fails at once; a state of a variable that is there can always be written. -/
  | refused {e : StatusCode} (h : ∀ k, TransitionKind.ofVariable? variableName.name = some k →
      property.name = "Id" → value.asBool?.isSome → s.space.idOf c k = none) :
      PropertyWrite c variableName property value s (.done (.error e) s)
  /-- It makes a false variable true, if the hook lets it. -/
  | hooked {k : TransitionKind} (hk : TransitionKind.ofVariable? variableName.name = some k)
      (hp : property.name = "Id") (hv : value.asBool? = some true)
      (hs : s.space.idOf c k = some false) :
      PropertyWrite c variableName property value s
        ((runHook c k none >>= fun _ => commit c k true).run s)
  /-- It commits a state that is false, or has been entered before. -/
  | committed {k : TransitionKind} {id : Bool}
      (hk : TransitionKind.ofVariable? variableName.name = some k) (hp : property.name = "Id")
      (hv : value.asBool? = some id) (hs : id = true → s.space.idOf c k = some true) :
      PropertyWrite c variableName property value s ((commit c k id).run s)
  /-- It sets a time. -/
  | timed {k : TransitionKind} {time : Instant}
      (hk : TransitionKind.ofVariable? variableName.name = some k)
      (hp : property.name = "TransitionTime") (hv : value.asInstant? = some time) :
      PropertyWrite c variableName property value s
        ((act (.setTransitionTime c k time)).run s)

/-- A write of a property comes to one of these. -/
theorem propertyWrite_run (c : NodeId) (variableName property : QualifiedName) (value : Variant)
    (s : Server β) :
    PropertyWrite c variableName property value s
      ((writeProperty c variableName property value).run s) := by
  unfold writeProperty
  rw [query_bind_run]
  cases hkind : AddressSpace.kindNamed variableName with
  | error e =>
    refine .refused fun k hk _ _ => ?_
    rw [AddressSpace.kindNamed_eq_ok_iff.2 hk] at hkind
    cases hkind
  | ok kind =>
    have hk := AddressSpace.kindNamed_eq_ok_iff.1 hkind
    show PropertyWrite c variableName property value s ((query _ >>= _).run s)
    rw [query_bind_run]
    cases hts : s.space.twoState c kind with
    | error e =>
      refine .refused fun k hk' _ _ => ?_
      rw [hk, Option.some_inj] at hk'
      rw [← hk', Option.eq_none_iff_forall_ne_some]
      intro b hb
      obtain ⟨ts, hts', -⟩ := AddressSpace.idOf_eq_some_iff.1 hb
      rw [hts] at hts'
      cases hts'
    | ok ts =>
      have hid := AddressSpace.twoState_eq_ok_idOf hts
      show PropertyWrite c variableName property value s ((ite _ _ _ : Service β Unit).run s)
      split
      · next hp =>
        cases hv : value.asBool? with
        | none => exact .refused fun k _ _ h => absurd h (by simp [hv])
        | some id =>
          obtain ⟨current, time⟩ := ts
          cases id with
          | false => exact .committed hk hp hv (fun h => nomatch h)
          | true =>
            cases current with
            | false => exact .hooked hk hp hv hid
            | true => exact .committed hk hp hv (fun _ => hid)
      · next hp =>
        show PropertyWrite c variableName property value s ((ite _ _ _ : Service β Unit).run s)
        split
        · next hp' =>
          cases hv : value.asInstant? with
          | none => exact .refused fun k _ h => absurd h hp
          | some time => exact .timed hk hp' hv
        · exact .refused fun k _ h => absurd h hp

private theorem does_writeProperty (c : NodeId) (variableName property : QualifiedName)
    (value : Variant) :
    Does (RuntimeCall.writeProperty c variableName property value : RuntimeCall β).May
      (writeProperty c variableName property value).run := by
  intro s
  have h := propertyWrite_run c variableName property value s
  generalize (writeProperty c variableName property value).run s = x at h ⊢
  cases h with
  | refused _ => exact Server.Advances.refl s
  | @hooked k hk hp hv _ =>
    refine does_bind (does_runHook c k none) (fun _ => does_commit fun now => ?_) s
    exact ⟨k, hk, .inl ⟨hp, true, now, hv, rfl⟩⟩
  | @committed k id hk hp hv _ =>
    refine does_commit (fun now => ?_) s
    exact ⟨k, hk, .inl ⟨hp, id, now, hv, rfl⟩⟩
  | @timed k time hk hp hv =>
    have hm : (RuntimeCall.writeProperty c variableName property value : RuntimeCall β).May
        (.setTransitionTime c k time) := ⟨k, hk, .inr ⟨hp, time, hv, rfl⟩⟩
    exact does_act (checksFirst_setTransitionTime c k time) hm (fun _ => rfl) s

/-- What a runtime call may change. -/
theorem does_call (call : RuntimeCall β) : Does call.May (Server.genuineAnswer call).run := by
  cases call with
  | createCondition r =>
    apply does_bind does_now
    intro now
    apply does_bind (does_act (checksFirst_createCondition now r) ⟨now, rfl⟩ fun _ => rfl)
    intro id
    apply does_bind (does_log _ _)
    intro _
    exact does_pure id
  | deleteNode id refs =>
    refine does_bind (does_act (checksFirst_deleteNode id refs) rfl fun _ => rfl) ?_
    intro _
    exact does_log _ _
  | addReference source target type =>
    exact does_act (checksFirst_addReference source target type) rfl fun _ => rfl
  | readDisplayName id => exact does_query fun sp => sp.displayName id
  | readBrowseName id => exact does_query fun sp => sp.browseName id
  | writeField c field value =>
    refine does_bind (does_act (checksFirst_writeField c field value) rfl fun _ => rfl) ?_
    intro _
    exact does_log _ _
  | writeProperty c v p value => exact does_writeProperty c v p value
  | readField c field => exact does_query fun sp => sp.readField c field
  | readProperty c v p => exact does_query fun sp => sp.readProperty c v p
  | installHook h =>
    refine does_bind (does_act (checksFirst_installHook h) rfl fun _ => rfl) ?_
    intro _
    exact does_log _ _
  | trigger c source =>
    apply does_bind (does_query _)
    intro _
    apply does_bind (does_query _)
    intro _
    exact does_publish fun id now => ⟨id, now, rfl⟩

end Service

/-- Does the request work on the address space? -/
def Request.OnSpace : Request β → Prop
  | beside .. => False
  | _ => True

/-- What a request may change. -/
theorem Request.does (request : Request β) (hr : request.OnSpace) :
    Does request.May request.perform.run := by
  cases request with
  | addObject parent name => exact does_act (checksFirst_addObject parent name) rfl fun _ => rfl
  | addVariable parent name value level =>
    exact does_act (checksFirst_addVariable parent name value level) rfl fun _ => rfl
  | addEventSource name => exact Service.does_addEventSource name
  | setNotifier id notifier => exact does_act (checksFirst_setNotifier id notifier) rfl fun _ => rfl
  | writeValue id value =>
    refine does_bind (does_act (checksFirst_writeValue id value) rfl fun _ => rfl) ?_
    intro _
    apply does_bind Service.does_get
    intro s
    cases s.space.watchers.find? id with
    | none => exact does_pure ()
    | some callback => exact Service.does_lift (ServerAction.does_notify callback id value)
  | watch id callback => exact does_act (checksFirst_watch id callback) rfl fun _ => rfl
  | call c => exact Service.does_call c
  | client m c => exact Service.does_client m c
  | dispatch kind c session => exact Service.does_lift (ServerAction.does_dispatch kind c session)
  | callHook h session => exact Service.does_lift (ServerAction.does_callHook h session)
  | beside tables script => exact hr.elim

/-- A genuine stretch stands in the middle of its request. -/
theorem System.Stretch.Genuine.after_perform {st : (requests β).Stretch} (h : st.Genuine) :
    After ((Request.perform st.request).run st.start) st.answered st.outcome := h.outcome

/-- A stretch makes only changes that its request may make. -/
theorem System.Stretch.Genuine.changed {st : (requests β).Stretch} (h : st.Genuine) :
    AddressSpace.Changed (Request.May st.request) st.before.space st.after.space := by
  refine h.keeps (R := fun r s t => AddressSpace.Changed (Request.May r) s.space t.space)
    fun r s => ?_
  by_cases hr : Request.OnSpace r
  · exact (Request.does r hr s).imp fun _ _ ha => ha.space
  · cases r with
    | beside tables script => exact AddressSpace.Changed.refl s.space
    | _ => exact absurd trivial hr

/-! ### Operations of handles -/

private theorem run_beside (s : Server β) (n : Nat) (waiting : List (requests β).Stretch)
    (tables : Tables β) (script : Script) :
    ∃ trace, System.Run ⟨s, n, waiting⟩ trace
      ⟨{ s with tables := tables, script := script }, n + 1, waiting⟩ :=
  ⟨_, .cons (.request s n waiting (.beside tables script)) (.nil _)⟩

private theorem covers_answer {waiting : List (requests β).Stretch} (c : RuntimeCall β)
    (s : Server β) (n : Nat) :
    System.Covers (fun _ => True) waiting ⟨s, n, waiting⟩ (Server.answer c s) := by
  obtain ⟨trace, hrun⟩ := run_beside s n waiting s.tables (s.script.next c.method).2
  refine .after_run hrun ?_
  rw [Server.answer_run]
  cases (s.script.next c.method).1 with
  | settled a => exact ⟨trivial, [], n + 1, .nil _⟩
  | genuine =>
    have hdoes := Request.does (.call c) trivial { s with script := (s.script.next c.method).2 }
    exact System.covers_request (Y := requests β) (.call c) _ _
      (hdoes.imp fun _ _ _ _ => trivial) trivial

/-- An operation of a handle does what some requests do one after the other. -/
theorem covers_routine {α : Type} (waiting : List (requests β).Stretch) (x : Routine β α)
    (s : Server β) (n : Nat) :
    System.Covers (fun _ => True) waiting ⟨s, n, waiting⟩ (x.perform s) := by
  show System.Covers _ waiting ⟨s, n, waiting⟩
    (((x s.tables).zoom Server.tables Server.withTables s).serve Server.answer)
  generalize x s.tables = y
  induction y generalizing s n with
  | done a t =>
    obtain ⟨trace, hrun⟩ := run_beside s n waiting t s.script
    exact ⟨trivial, trace, _, hrun⟩
  | ask c t k ih =>
    obtain ⟨trace, hrun⟩ := run_beside s n waiting t s.script
    refine .after_run hrun ?_
    exact (covers_answer c _ _).bind fun a u m _ => ih a u.tables u m

end AlarmServer
