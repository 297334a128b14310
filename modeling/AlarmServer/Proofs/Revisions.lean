import AlarmServer.Proofs.Creations

/-!
# What a change does

A change revises one node, places a new one, deletes one, watches a node or installs a hook. Each is
said here once, by what can be looked up afterwards, so that what holds of all address spaces that a
server can come to is shown by going through these five. A request that creates a node does so
first, and places no other one.
-/

namespace AlarmServer

open Interaction (After found)

variable {β : Type}

/-! ### Revisions and new nodes -/

/-- How the state of a condition may be revised. -/
inductive ConditionState.Revised (c : ConditionState) : ConditionState → Prop where
  /-- A field of its type gets a value of the declared data type. -/
  | stored {f : Field} {value : Variant} (hf : f ∈ c.type.fields)
      (hvalue : value.dataType = f.dataType) : Revised c (c.store f value)
  /-- A two-state variable changes its state. -/
  | moved (k : TransitionKind) (f : TwoState → TwoState) : Revised c (c.changeTwoState k f)
  /-- An event is noted. -/
  | noted (eventId : EventId) (now : Instant) : Revised c (c.noted eventId now)

namespace ConditionState

/-- A value in a field does not change the type. -/
@[simp] theorem type_store (c : ConditionState) (f : Field) (v : Variant) :
    (c.store f v).type = c.type := by
  unfold store
  split
  · split <;> rfl
  · rfl

/-- A value in a field does not move the condition. -/
@[simp] theorem source_store (c : ConditionState) (f : Field) (v : Variant) :
    (c.store f v).source = c.source := by
  unfold store
  split
  · split <;> rfl
  · rfl

/-- A condition that is revised keeps its type. -/
theorem Revised.type {c d : ConditionState} (h : c.Revised d) : d.type = c.type := by
  cases h with
  | stored _ _ => exact c.type_store _ _
  | moved k f => rfl
  | noted eventId now => rfl

/-- A condition that is revised keeps its source. -/
theorem Revised.source {c d : ConditionState} (h : c.Revised d) : d.source = c.source := by
  cases h with
  | stored _ _ => exact c.source_store _ _
  | moved k f => rfl
  | noted eventId now => rfl

end ConditionState

/-- How the body of a node may be revised: it stays what it is. -/
inductive NodeBody.Revised : NodeBody → NodeBody → Prop where
  /-- Nothing changes. -/
  | same (b : NodeBody) : Revised b b
  /-- A variable gets a state. -/
  | variable (v w : VariableState) : Revised (.variable v) (.variable w)
  /-- The state of a condition is revised. -/
  | condition {c d : ConditionState} (h : c.Revised d) : Revised (.condition c) (.condition d)

/-- What was a condition is one after a revision, the same or a revised one. -/
theorem NodeBody.Revised.exists_condition {c : ConditionState} {b : NodeBody}
    (h : NodeBody.Revised (.condition c) b) : ∃ d, b = .condition d ∧ (d = c ∨ c.Revised d) := by
  cases h with
  | same => exact ⟨c, rfl, .inl rfl⟩
  | condition h => exact ⟨_, rfl, .inr h⟩

/-- What is a condition after a revision was one before. -/
theorem NodeBody.Revised.of_condition {b : NodeBody} {d : ConditionState}
    (h : b.Revised (.condition d)) : ∃ c, b = .condition c ∧ (d = c ∨ c.Revised d) := by
  cases h with
  | same => exact ⟨d, rfl, .inl rfl⟩
  | condition h => exact ⟨_, rfl, .inr h⟩

/-- How a node may be revised. -/
structure Node.Revised (sp : AddressSpace β) (n m : Node) : Prop where
  /-- It keeps its name. -/
  browseName : m.browseName = n.browseName
  /-- It gets no reference but to nodes that are there. -/
  references : ∀ r ∈ m.references, r ∈ n.references ∨ sp.nodes.contains r.target = true
  /-- It stays what it is. -/
  body : n.body.Revised m.body

private theorem Node.Revised.referOnce {sp : AddressSpace β} {n : Node} {type target : NodeId}
    (h : sp.nodes.contains target = true) : n.Revised sp (n.referOnce type target) := by
  unfold Node.referOnce
  split
  · exact ⟨rfl, fun r hr => .inl hr, .same _⟩
  · refine ⟨rfl, ?_, .same _⟩
    intro r hr
    rcases List.mem_append.1 hr with hr | hr
    · exact .inl hr
    · rw [List.mem_singleton.1 hr]
      exact .inr h

/-- A write goes to a field of the type, with the declared data type. -/
theorem ConditionState.target_eq_ok {c : ConditionState} {name : String} {value : Variant}
    {f : Field} (h : c.target name value = .ok f) :
    f ∈ c.type.fields ∧ f.name = name ∧ value.dataType = f.dataType := by
  unfold target at h
  split at h
  · cases h
  · split at h
    · cases h
    · next g hg =>
      split at h
      · next hvalue =>
        cases h
        obtain ⟨hmem, hname⟩ := ConditionType.name_of_field? hg
        exact ⟨hmem, hname, hvalue⟩
      · cases h

/-- What a node is when it is placed. -/
inductive Node.New (sp : AddressSpace β) : Node → Prop where
  /-- An object. -/
  | object (name : QualifiedName) : New sp (.create name .object)
  /-- A variable. -/
  | variable (name : QualifiedName) (state : VariableState) :
      New sp (.create name (.variable state))
  /-- A condition of a name that no condition of its source has. -/
  | condition (type : ConditionType) {source : NodeId} (sourceName : String) {name : QualifiedName}
      (now : Instant) (h : sp.hasConditionNamed source name = false) :
      New sp (.create name (.condition (.create type source sourceName name.name now)))

/-- A new node refers to nothing. -/
theorem Node.New.references {sp : AddressSpace β} {n : Node} (h : n.New sp) :
    n.references = [] := by
  cases h <;> rfl

/-! ### The five kinds of effect -/

namespace Change

/-- The change publishes a condition, and appends its event. -/
def Publishes (ch : Change β) (sp sp' : AddressSpace β) : Prop :=
  ∃ id source eventId now c, ch = .publish id source eventId now ∧ sp.condition id = .ok c ∧
    sp'.events = sp.events ++ [(c.noted eventId now).event id source eventId now]

/-- What a change has done, by what can be looked up. -/
inductive Effect (ch : Change β) (sp sp' : AddressSpace β) : Prop where
  /-- It has revised a node. -/
  | revises {id : NodeId} {n m : Node} (hn : sp.nodes.find? id = some n) (hm : n.Revised sp m)
      (hnodes : ∀ i, sp'.nodes.find? i = if i = id then some m else sp.nodes.find? i)
      (hhooks : sp'.hooks = sp.hooks) (hwatchers : sp'.watchers = sp.watchers)
      (hevents : sp'.events = sp.events ∨ ch.Publishes sp sp')
  /-- It has placed a node, to which others refer. -/
  | places {id : NodeId} {n : Node} (hplaces : ch.Places) (hn : n.New sp)
      (hnull : id.isNull = false) (hid : sp.nodes.contains id = false ∨ id = sp.allocate.1)
      (hnodes : ∀ i, ∃ extra : List Reference, (∀ r ∈ extra, r.target = id) ∧
        sp'.nodes.find? i =
          (if i = id then some n else sp.nodes.find? i).map (Node.referAll extra))
      (hhooks : sp'.hooks = sp.hooks) (hwatchers : sp'.watchers = sp.watchers)
      (hevents : sp'.events = sp.events)
  /-- It has deleted a node, with its hooks and its watcher. -/
  | deletes {id : NodeId} {refs : Bool} (hdeletes : ch = .deleteNode id refs)
      (hnodes : ∀ i, sp'.nodes.find? i =
        if i = id then none else (sp.nodes.find? i).map fun n => if refs then n.forget id else n)
      (hhooks : ∀ c k, sp'.hooks.find? (c, k) = if c = id then none else sp.hooks.find? (c, k))
      (hwatchers : ∀ i, sp'.watchers.find? i = if i = id then none else sp.watchers.find? i)
      (hevents : sp'.events = sp.events)
  /-- It has set a watcher. -/
  | watches {id : NodeId} {callback : β} (hid : sp.nodes.contains id = true)
      (hnodes : sp'.nodes = sp.nodes) (hhooks : sp'.hooks = sp.hooks)
      (hwatchers : sp'.watchers = sp.watchers.insert id callback)
      (hevents : sp'.events = sp.events)
  /-- It has installed a hook. -/
  | installs {hook : Hook β} {c : ConditionState} (hc : sp.condition hook.condition = .ok c)
      (hk : hook.kind ∈ c.type.kinds) (hnodes : sp'.nodes = sp.nodes)
      (hhooks : sp'.hooks = sp.hooks.insert (hook.condition, hook.kind) hook)
      (hwatchers : sp'.watchers = sp.watchers) (hevents : sp'.events = sp.events)

section

variable {ch : Change β} {sp sp' : AddressSpace β} {id : NodeId}

private theorem revises_of_modify {n : Node} (f : Node → Node) (hn : sp.nodes.find? id = some n)
    (hm : n.Revised sp (f n)) (hnodes : sp'.nodes = sp.nodes.modify id f)
    (hhooks : sp'.hooks = sp.hooks) (hwatchers : sp'.watchers = sp.watchers)
    (hevents : sp'.events = sp.events ∨ ch.Publishes sp sp') : ch.Effect sp sp' := by
  refine .revises hn hm ?_ hhooks hwatchers hevents
  intro i
  rw [hnodes, Table.find?_modify, hn]
  rfl

private theorem revises_of_condition {c d : ConditionState} (hc : sp.condition id = .ok c)
    (hd : c.Revised d) (hnodes : sp'.nodes = (sp.setCondition id d).nodes)
    (hhooks : sp'.hooks = sp.hooks) (hwatchers : sp'.watchers = sp.watchers)
    (hevents : sp'.events = sp.events ∨ ch.Publishes sp sp') : ch.Effect sp sp' := by
  obtain ⟨n, hn, hbody⟩ := AddressSpace.condition_eq_ok_iff.1 hc
  have hm : n.Revised sp { n with body := .condition d } := by
    refine ⟨rfl, fun r hr => .inl hr, ?_⟩
    rw [hbody]
    exact .condition hd
  exact revises_of_modify (fun n => { n with body := .condition d }) hn hm hnodes hhooks hwatchers
    hevents

-- Nodes have got references to a node, and nothing else.
private def Refers (id : NodeId) (nodes nodes' : Table NodeId Node) : Prop :=
  ∀ i, ∃ extra : List Reference, (∀ r ∈ extra, r.target = id) ∧
    nodes'.find? i = (nodes.find? i).map (Node.referAll extra)

private theorem Refers.refl (nodes : Table NodeId Node) : Refers id nodes nodes := by
  intro i
  refine ⟨[], (fun _ hr => nomatch hr), ?_⟩
  cases nodes.find? i <;> simp

private theorem Refers.refer {nodes nodes' : Table NodeId Node} (h : Refers id nodes nodes')
    (holder type : NodeId) :
    Refers id nodes (nodes'.modify holder (Node.refer type id)) := by
  intro i
  obtain ⟨extra, htarget, hfind⟩ := h i
  rw [Table.find?_modify]
  by_cases hi : i = holder
  · subst hi
    refine ⟨extra ++ [⟨type, id⟩], ?_, ?_⟩
    · intro r hr
      rcases List.mem_append.1 hr with hr | hr
      · exact htarget r hr
      · rw [List.mem_singleton.1 hr]
    · rw [if_pos rfl, hfind, Option.map_map]
      congr 1
      funext n
      exact n.referAll_referAll extra [⟨type, id⟩]
  · refine ⟨extra, htarget, ?_⟩
    rw [if_neg hi, hfind]

private theorem places_of_refers {n : Node} (hplaces : ch.Places) (hn : n.New sp)
    (hnull : id.isNull = false) (hid : sp.nodes.contains id = false ∨ id = sp.allocate.1)
    (hnodes : Refers id (sp.nodes.insert id n) sp'.nodes) (hhooks : sp'.hooks = sp.hooks)
    (hwatchers : sp'.watchers = sp.watchers) (hevents : sp'.events = sp.events) :
    ch.Effect sp sp' := by
  refine .places hplaces hn hnull hid ?_ hhooks hwatchers hevents
  intro i
  obtain ⟨extra, htarget, hfind⟩ := hnodes i
  rw [Table.find?_insert] at hfind
  exact ⟨extra, htarget, hfind⟩

private theorem isNull_allocate (sp : AddressSpace β) : sp.allocate.1.isNull = false :=
  decide_eq_false (by simp [NodeId.null, AddressSpace.allocate])

private theorem places_of_addPart {parent : NodeId} {n : Node} (hplaces : ch.Places)
    (hn : n.New sp) (h : sp.addPart parent n = .ok (id, sp')) : ch.Effect sp sp' := by
  obtain ⟨-, rfl, rfl⟩ := AddressSpace.addPart_eq_ok_iff.1 h
  exact places_of_refers hplaces hn (isNull_allocate sp) (.inr rfl) ((Refers.refl _).refer _ _) rfl
    rfl rfl

private theorem conditionId_eq_ok {sp₁ : AddressSpace β} {requested : Option NodeId}
    (h : sp.conditionId requested = .ok (id, sp₁)) :
    (id.isNull = false ∧ (sp.nodes.contains id = false ∨ id = sp.allocate.1)) ∧
      sp₁.nodes = sp.nodes ∧ sp₁.hooks = sp.hooks ∧ sp₁.watchers = sp.watchers ∧
      sp₁.events = sp.events := by
  rcases AddressSpace.conditionId_eq_ok_iff.1 h with ⟨-, hc, hnull, rfl⟩ | ⟨-, ha⟩
  · exact ⟨⟨hnull, .inl hc⟩, rfl, rfl, rfl, rfl⟩
  · obtain ⟨rfl, rfl⟩ := Prod.mk.inj ha
    exact ⟨⟨isNull_allocate sp, .inr rfl⟩, rfl, rfl, rfl, rfl⟩

private theorem refers_expose (sp : AddressSpace β) (source id : NodeId) (parent : Option NodeId) :
    Refers id sp.nodes (sp.expose source id parent).nodes := by
  cases parent with
  | none => exact (Refers.refl _).refer _ _
  | some type => exact ((Refers.refl _).refer _ _).refer _ _

private theorem places_of_createCondition {now : Instant} {r : ConditionRequest}
    (hplaces : ch.Places) (h : sp.createCondition now r = .ok (id, sp')) : ch.Effect sp sp' := by
  obtain ⟨type, source, sp₁, -, -, -, hname, hid, rfl⟩ :=
    AddressSpace.createCondition_eq_ok_iff.1 h
  obtain ⟨⟨hnull, hfree⟩, hnodes, hhooks, hwatchers, hevents⟩ := conditionId_eq_ok hid
  let n : Node := .create r.browseName
    (.condition (.create type r.source source.browseName.name r.browseName.name now))
  have hnew : n.New sp := .condition type source.browseName.name now hname
  have hrefers := refers_expose (sp₁.place id n) r.source id r.parentReference
  change Refers id (sp₁.nodes.insert id n) _ at hrefers
  rw [hnodes] at hrefers
  refine places_of_refers hplaces hnew hnull hfree hrefers ?_ ?_ ?_
  · cases r.parentReference <;> exact hhooks
  · cases r.parentReference <;> exact hwatchers
  · cases r.parentReference <;> exact hevents

private theorem deletes_of_deleteNode {refs : Bool} (hdeletes : ch = .deleteNode id refs)
    (h : sp.deleteNode id refs = .ok sp') : ch.Effect sp sp' := by
  obtain ⟨-, rfl⟩ := AddressSpace.deleteNode_eq_ok_iff.1 h
  refine .deletes hdeletes ?_ ?_ ?_ rfl
  · intro i
    by_cases hi : i = id <;>
      cases refs <;> simp [Table.find?_mapValues, Table.find?_erase, hi]
  · intro c k
    show (sp.hooks.filterKeys _).find? (c, k) = _
    rw [Table.find?_filterKeys]
    by_cases hc : c = id <;> simp [hc]
  · intro i
    exact Table.find?_erase sp.watchers id i

end

/-- A change has one of the five effects. -/
theorem effect_of_apply {ch : Change β} {sp sp' : AddressSpace β} (h : ch.apply sp = .ok sp') :
    ch.Effect sp sp' := by
  cases ch with
  | addObject parent name =>
    obtain ⟨⟨id, sp₁⟩, hadd, rfl⟩ := except_map_eq_ok_iff.1 h
    exact places_of_addPart trivial (.object name) hadd
  | addVariable parent name value level =>
    obtain ⟨⟨id, sp₁⟩, hadd, rfl⟩ := except_map_eq_ok_iff.1 h
    exact places_of_addPart trivial (.variable name _) hadd
  | createCondition now r =>
    obtain ⟨⟨id, sp₁⟩, hadd, rfl⟩ := except_map_eq_ok_iff.1 h
    exact places_of_createCondition trivial hadd
  | deleteNode id refs => exact deletes_of_deleteNode rfl h
  | setNotifier id notifier =>
    obtain ⟨hn, rfl⟩ := AddressSpace.setNotifier_eq_ok_iff.1 h
    obtain ⟨n, hn⟩ := Option.isSome_iff_exists.1 hn
    have hm : n.Revised sp { n with notifier := notifier } := ⟨rfl, fun r hr => .inl hr, .same _⟩
    exact revises_of_modify (fun n => { n with notifier := notifier }) hn hm rfl rfl rfl (.inl rfl)
  | addReference source target type =>
    obtain ⟨-, htarget, hn, rfl⟩ := AddressSpace.addReference_eq_ok_iff.1 h
    obtain ⟨n, hn⟩ := Option.isSome_iff_exists.1 hn
    exact revises_of_modify (Node.referOnce type target) hn (.referOnce htarget) rfl rfl rfl
      (.inl rfl)
  | writeValue id value =>
    obtain ⟨v, hv, -, -, rfl⟩ := AddressSpace.writeValue_eq_ok_iff.1 h
    obtain ⟨n, hn, hbody⟩ := AddressSpace.variableAt_eq_ok_iff.1 hv
    let w : VariableState := { v with value := value }
    have hm : n.Revised sp { n with body := .variable w } := by
      refine ⟨rfl, fun r hr => .inl hr, ?_⟩
      rw [hbody]
      exact .variable v w
    exact revises_of_modify (fun n => { n with body := .variable w }) hn hm rfl rfl rfl (.inl rfl)
  | watch id callback =>
    obtain ⟨hn, rfl⟩ := AddressSpace.watch_eq_ok_iff.1 h
    exact .watches hn rfl rfl rfl rfl
  | writeField id field value =>
    obtain ⟨c, f, hc, htarget, rfl⟩ := AddressSpace.writeField_eq_ok_iff.1 h
    obtain ⟨hf, -, hvalue⟩ := ConditionState.target_eq_ok htarget
    exact revises_of_condition hc (.stored hf hvalue) rfl rfl rfl (.inl rfl)
  | commit id kind value now =>
    obtain ⟨c, _, hc, -, rfl⟩ := AddressSpace.commit_eq_ok_iff.1 h
    exact revises_of_condition hc (.moved kind _) rfl rfl rfl (.inl rfl)
  | setTransitionTime id kind time =>
    obtain ⟨c, _, hc, -, rfl⟩ := AddressSpace.setTransitionTime_eq_ok_iff.1 h
    exact revises_of_condition hc (.moved kind _) rfl rfl rfl (.inl rfl)
  | installHook hook =>
    obtain ⟨c, hc, hk, -, rfl⟩ := AddressSpace.installHook_eq_ok_iff.1 h
    exact .installs hc hk rfl rfl rfl rfl
  | publish id source eventId now =>
    obtain ⟨c, hc, rfl⟩ := AddressSpace.publish_eq_ok_iff.1 h
    exact revises_of_condition hc (.noted eventId now) rfl rfl rfl
      (.inr ⟨id, source, eventId, now, c, rfl, hc, rfl⟩)

/-- A change leaves the published events alone, or publishes one. -/
theorem Effect.events {ch : Change β} {sp sp' : AddressSpace β} (h : ch.Effect sp sp') :
    sp'.events = sp.events ∨ ch.Publishes sp sp' := by
  cases h with
  | revises _ _ _ _ _ hevents => exact hevents
  | places _ _ _ _ _ _ _ hevents => exact .inl hevents
  | deletes _ _ _ _ hevents => exact .inl hevents
  | watches _ _ _ _ hevents => exact .inl hevents
  | installs _ _ _ _ _ hevents => exact .inl hevents

end Change

/-! ### Stretches and runs -/

/-- The nodes of a new address space are objects, and refer to nothing but the server object. -/
theorem AddressSpace.object_of_initial {i : NodeId} {n : Node}
    (h : (initial : AddressSpace β).nodes.find? i = some n) :
    n.body = .object ∧ ∀ r ∈ n.references, r.target = .serverObject := by
  rw [initial, Table.ofList, List.foldl_cons, List.foldl_cons, List.foldl_nil, Table.find?_insert,
    Table.find?_insert] at h
  split at h
  · cases h
    exact ⟨rfl, fun r hr => absurd hr List.not_mem_nil⟩
  · split at h
    · cases h
      refine ⟨rfl, fun r hr => ?_⟩
      cases List.mem_singleton.1 hr
      rfl
    · cases h

/-- One address space becomes another by changes of the given kinds, of which only the first one may
place a node. -/
def AddressSpace.ChangedOnce (may : Change β → Prop) (sp sp' : AddressSpace β) : Prop :=
  ∃ mid, (mid = sp ∨ ∃ ch, may ch ∧ ch.apply sp = .ok mid) ∧
    Changed (fun ch => may ch ∧ ¬ ch.Places) mid sp'

namespace Request

open AddressSpace (Changed ChangedOnce)

variable {r : Request β} {s : Server β} {es : List (Exchange (upcalls β) (Server β))}

private theorem changedOnce_of_apply {sp sp' : AddressSpace β} {ch : Change β} (hm : r.May ch)
    (h : ch.apply sp = .ok sp') : ChangedOnce r.May sp sp' :=
  ⟨sp', .inr ⟨ch, hm, h⟩, .refl sp'⟩

private theorem changedOnce_of_immediate {ch : Change β} (hm : r.May ch)
    {f : Except StatusCode (NodeId × AddressSpace β)}
    {x y : Interaction (upcalls β) (Server β) (Except StatusCode NodeId)}
    (hx : Server.Immediate (fun id sp => f = .ok (id, sp)) s x)
    (hf : Prod.snd <$> f = ch.apply s.space) (h : After x es y) :
    ChangedOnce r.May (found s es).space y.state.space := by
  obtain ⟨rfl, hy⟩ := hx.of_after h
  cases hy with
  | failed e => exact ⟨s.space, .inl rfl, .refl s.space⟩
  | succeeded hadd => exact changedOnce_of_apply hm (hf.symm.trans (by rw [hadd]; rfl))

private theorem changedOnce_addEventSource (name : QualifiedName) (sp : AddressSpace β) :
    ChangedOnce (addEventSource name : Request β).May sp (sp.addEventSource name).2 := by
  let may (ch : Change β) : Prop := (addEventSource name : Request β).May ch ∧ ¬ ch.Places
  have hopen (id : NodeId) : may (.setNotifier id true) := ⟨.inr (.inl ⟨id, rfl⟩), not_false⟩
  have hrefer (id : NodeId) : may (.addReference .serverObject id .hasNotifier) :=
    ⟨.inr (.inr ⟨id, rfl⟩), not_false⟩
  obtain ⟨mid, hfirst, hrest⟩ := AddressSpace.changed_addEventSource hopen hrefer name sp
  exact ⟨mid, hfirst.imp_right fun h => ⟨_, .inl rfl, h⟩, hrest⟩

end Request

/-- A stretch that places a node does so first, and places no other one. -/
theorem System.Stretch.Genuine.changedOnce {st : (requests β).Stretch} (h : st.Genuine) :
    AddressSpace.ChangedOnce (Request.May st.request) st.before.space st.after.space := by
  have hnone (hr : ¬ Request.Creates st.request) :
      AddressSpace.ChangedOnce (Request.May st.request) st.before.space st.after.space := by
    refine ⟨st.before.space, .inl rfl, h.changed.imp ?_⟩
    intro ch hm
    exact ⟨hm, Request.not_places_of_may hr hm⟩
  obtain ⟨serial, r, s, es, before, y⟩ := st
  have hbefore : before = found s es := h.before
  have hafter : After ((Request.perform r).run s) es y := h.outcome
  subst hbefore
  cases r with
  | addObject parent name =>
    have hm : Request.May (.addObject parent name) (.addObject parent name : Change β) := rfl
    exact Request.changedOnce_of_immediate hm
      (Service.immediate_act (SpaceAction.checksFirst_addObject parent name) s) rfl hafter
  | addVariable parent name value level =>
    have hm : Request.May (.addVariable parent name value level)
        (.addVariable parent name value level : Change β) := rfl
    exact Request.changedOnce_of_immediate hm
      (Service.immediate_act (SpaceAction.checksFirst_addVariable parent name value level) s) rfl
      hafter
  | addEventSource name =>
    obtain ⟨rfl, rfl⟩ := Interaction.after_done_iff.1 hafter
    exact Request.changedOnce_addEventSource name s.space
  | call c =>
    cases c with
    | createCondition request =>
      have hm : Request.May (.call (.createCondition request))
          (.createCondition s.now request : Change β) := ⟨s.now, rfl⟩
      exact Request.changedOnce_of_immediate hm (Service.immediate_createCondition request s) rfl
        hafter
    | _ => exact hnone not_false
  | _ => exact hnone not_false

/-- A stretch preserves what all effects preserve. -/
theorem System.Stretch.Genuine.preserves {P : AddressSpace β → Prop} {st : (requests β).Stretch}
    (hst : st.Genuine) (hP : ∀ {ch : Change β} {sp sp'}, ch.Effect sp sp' → P sp → P sp')
    (h : P st.before.space) : P st.after.space :=
  hst.changed.preserves (fun _ _ _ _ ha => hP (Change.effect_of_apply ha)) h

/-- What holds of a new address space, and is kept by each change that the requests of an orderly
run may make, holds after the run. When a node is placed, the next identifier is free. -/
theorem System.Run.space_invariant {P : AddressSpace β → Prop} {ambient : Ambient}
    {trace : List (requests β).Stretch} {d : (requests β).Config}
    (h : System.Run (.idle (requests β) (.create ambient)) trace d)
    (ho : Orderly Request.reservedBy? trace) (hinitial : P .initial)
    (hkeeps : ∀ st ∈ trace, ∀ ch sp sp', Request.May st.request ch → ch.apply sp = .ok sp' →
      (ch.Places → sp.nodes.contains sp.allocate.1 = false) → P sp → P sp') : P d.state.space := by
  refine (h.invariant (P := fun old s => s.space.Unspent (old.countP System.Stretch.assigns) ∧
    P s.space) ⟨AddressSpace.unspent_initial, hinitial⟩ ?_).2
  rintro fore st rest he hg ⟨hn, hP⟩
  refine ⟨ho.unspent_after he hg hn, ?_⟩
  have hmem : st ∈ trace := by simp [he]
  obtain ⟨mid, hfirst, hrest⟩ := hg.changedOnce
  have hmid : P mid := by
    rcases hfirst with rfl | ⟨ch, hm, ha⟩
    · exact hP
    · exact hkeeps st hmem ch _ _ hm ha (fun _ => hn.free _ (UInt32.le_refl _)) hP
  refine hrest.preserves ?_ hmid
  intro ch sp sp' hm ha
  exact hkeeps st hmem ch sp sp' hm.1 ha fun hp => absurd hp hm.2

end AlarmServer
