import AlarmServer.Proofs.Owners
import AlarmServer.Proofs.Registrations
import AlarmServer.Proofs.Schemas
import AlarmServer.Proofs.Writes

/-!
# New alarms

How a program furnishes a server where nothing is settled: it adds sources of events and variables,
creates alarms and registers callbacks for them. Each of these gives the next identifier to one new
node, or works on one node only, and spares all others.
-/

namespace AlarmServer

open Server (Beside Puts Spares)
open AddressSpace (Adds Unspent)

variable {β : Type}

/-! ### What is spared -/

namespace Server

variable {c : NodeId} {s t u : Server β}

private theorem Spares.refl (c : NodeId) (s : Server β) : Spares c s s :=
  ⟨fun _ _ => rfl, fun _ _ _ => rfl, fun _ _ => rfl, fun _ _ => rfl⟩

/-- What two operations spare they spare together. -/
theorem Spares.trans (h : Spares c s t) (h' : Spares c t u) : Spares c s u where
  nodes i hi := (h'.nodes i hi).trans (h.nodes i hi)
  hooks i hi k := (h'.hooks i hi k).trans (h.hooks i hi k)
  watchers i hi := (h'.watchers i hi).trans (h.watchers i hi)
  callbacks i hi := (h'.callbacks i hi).trans (h.callbacks i hi)

/-- Where address space and registry stay, all nodes are spared. -/
theorem Spares.of_eq (hs : t.space = s.space) (hr : t.tables.registry = s.tables.registry) :
    Spares c s t :=
  ⟨fun i _ => by rw [hs], fun i _ k => by rw [hs], fun i _ => by rw [hs], fun i _ => by rw [hr]⟩

private theorem Puts.spares {cs : ConditionState} (h : Puts c cs s t) : Spares c s t where
  nodes i hi := by
    rw [h.space]
    simp [AddressSpace.setCondition, AddressSpace.modifyNode, Table.find?_modify, hi]
  hooks i _ k := by
    rw [h.space]
    rfl
  watchers i _ := by
    rw [h.space]
    rfl
  callbacks i _ := by rw [h.beside.registry]; rfl

/-- A node that is spared has lost and got no references but those to the one that is not. -/
theorem Spares.find? (h : Spares c s t) {i : NodeId} (hi : i ≠ c) {n : Node}
    (hn : s.space.nodes.find? i = some n) :
    ∃ m, t.space.nodes.find? i = some m ∧ m.forget c = n.forget c := by
  have hnodes := h.nodes i hi
  rw [hn, Option.map_some] at hnodes
  exact Option.map_eq_some_iff.1 hnodes

end Server

namespace AddressSpace

variable {sp sp' : AddressSpace β} {links : List Link} {requested : Option NodeId} {id : NodeId}

/-- A node with references to one that is forgotten is as it was. -/
theorem forget_referAll {extra : List Reference} (h : ∀ r ∈ extra, r.target = id) (n : Node) :
    (n.referAll extra).forget id = n.forget id := by
  have hnone : extra.filter (fun r => decide (r.target ≠ id)) = [] := by
    rw [List.filter_eq_nil_iff]
    intro r hr
    simp [h r hr]
  simp only [Node.referAll, Node.forget, List.filter_append, hnone, List.append_nil]

/-- A placement spares what is there, if it leaves watchers alone. -/
theorem Adds.spares {s : Server β} (h : Adds links requested id s.space sp')
    (hw : sp'.watchers = s.space.watchers) : Spares id s (s.withSpace sp') where
  nodes i hi := by
    obtain ⟨extra, hextra, hfind⟩ := h.others i hi
    rw [Server.space_withSpace, hfind, Option.map_map]
    congr 1
    funext n
    exact forget_referAll (fun r hr => (hextra r hr).1) n
  hooks i _ k := by rw [Server.space_withSpace, h.hooks]
  watchers i _ := by rw [Server.space_withSpace, hw]
  callbacks _ _ := rfl

/-- A source of events is added if there are a folder of objects and a server object. -/
theorem addEventSource_eq (ho : sp.nodes.contains .objectsFolder = true)
    (hs : sp.nodes.contains .serverObject = true) (name : QualifiedName) :
    ∃ sp' n, sp.addEventSource name = (.ok sp.allocate.1, sp') ∧
      Adds [⟨.serverObject, .hasNotifier⟩, ⟨.objectsFolder, .hasComponent⟩] none sp.allocate.1 sp
        sp' ∧
      sp'.watchers = sp.watchers ∧ sp'.events = sp.events ∧
      sp'.nodes.find? sp.allocate.1 = some n ∧ n.browseName = name ∧ n.body = .object ∧
      n.notifier = true := by
  have houtcome := addEventSource_outcome name sp
  refine ⟨(sp.addEventSource name).2, { Node.create name .object with notifier := true }, ?_⟩
  rw [Prod.ext_iff]
  generalize (sp.addEventSource name).1 = r, (sp.addEventSource name).2 = sp' at houtcome ⊢
  cases houtcome with
  | refused folder => exact absurd ho (by rw [folder]; exact Bool.false_ne_true)
  | abandoned _ server => exact absurd hs (by rw [server]; exact Bool.false_ne_true)
  | added _ _ =>
    refine ⟨⟨rfl, rfl⟩, (adds_openSource name sp).referOnce .serverObject .hasNotifier, rfl, rfl,
      ?_, rfl, rfl, rfl⟩
    show ((sp.openSource name).nodes.modify .serverObject _).find? sp.allocate.1 = _
    rw [Table.find?_modify, if_neg sp.serverObject_ne_allocate.symm, find?_openSource, if_pos rfl]

/-- A condition gets the next identifier if its source is there and has no condition of that name.
-/
theorem createCondition_eq (now : Instant) {r : ConditionRequest} {type : ConditionType} {n : Node}
    (htype : r.conditionType = type.node) (hn : sp.nodes.find? r.source = some n)
    (hparent : r.parentReference.all NodeId.isReferenceType = true)
    (hname : sp.hasConditionNamed r.source r.browseName = false) (hid : r.requestedId = none)
    (hfree : sp.nodes.contains sp.allocate.1 = false) :
    ∃ sp', sp.createCondition now r = .ok (sp.allocate.1, sp') ∧
      Adds (r.parentReference.toList.map (⟨r.source, ·⟩) ++ [⟨r.source, .hasCondition⟩]) none
        sp.allocate.1 sp sp' ∧
      sp'.watchers = sp.watchers ∧ sp'.events = sp.events ∧
      sp'.nodes.find? sp.allocate.1 = some (.create r.browseName (.condition
        (.create type r.source n.browseName.name r.browseName.name now))) := by
  let new : Node := .create r.browseName (.condition
    (.create type r.source n.browseName.name r.browseName.name now))
  have hcreate : sp.createCondition now r =
      .ok (sp.allocate.1, (sp.allocate.2.place sp.allocate.1 new).expose r.source sp.allocate.1
        r.parentReference) :=
    createCondition_eq_ok_iff.2 ⟨type, n, sp.allocate.2, htype ▸ type.ofNode?_node, hn, hparent,
      hname, by rw [hid]; rfl, rfl⟩
  have hadds := adds_of_createCondition hcreate
  rw [hid] at hadds
  have hne : sp.allocate.1 ≠ r.source := by
    rintro he
    rw [Table.contains, he, hn] at hfree
    cases hfree
  refine ⟨_, hcreate, hadds, ?_, ?_, ?_⟩
  · unfold expose
    split <;> rfl
  · unfold expose
    split <;> rfl
  · unfold expose
    split <;> simp [modifyNode, place, Table.find?_modify, hne, new]

/-- A new node uses up one identifier. -/
theorem Unspent.next {n : Nat} (h : sp.Unspent n) (ha : Adds links none id sp sp')
    (hn : n + 1 < NodeId.assignable) : sp'.Unspent (n + 1) := by
  have hnew : sp'.nextId ≠ sp.nextId := by
    rcases ha.identifier with ⟨hnone, -⟩ | ⟨-, hnext⟩
    · cases hnone
    · rw [hnext]
      intro he
      have hnat := congrArg UInt32.toNat he
      rw [UInt32.toNat_add] at hnat
      change (_ + 1) % 2 ^ 32 = _ at hnat
      omega
  have hunspent := h.adds ha (fun he => nomatch he) fun _ => hn
  rwa [if_neg hnew] at hunspent

/-- Which identifiers are used up does not depend on what the nodes are. -/
theorem Unspent.congr {n : Nat} (h : sp.Unspent n) (hnext : sp'.nextId = sp.nextId)
    (hnodes : ∀ i, sp'.nodes.contains i = sp.nodes.contains i) : sp'.Unspent n :=
  ⟨hnext ▸ h.nextId, fun i hi => (hnodes _).trans (h.free i (hnext ▸ hi))⟩

end AddressSpace

/-! ### Creation of alarms -/

namespace Server

/-- One node is new or has changed. The others are spared, and nothing is published. -/
structure Furnishes (c : NodeId) (s t : Server β) : Prop where
  /-- The other nodes are spared. -/
  spares : Spares c s t
  /-- Nothing is published. -/
  events : t.space.events = s.space.events
  /-- The sessions stay. -/
  sessions : t.tables.sessions = s.tables.sessions
  /-- What was settled is. -/
  script : t.script = s.script

variable {c : NodeId} {s t u : Server β}

private theorem Furnishes.refl (c : NodeId) (s : Server β) : Furnishes c s s :=
  ⟨.refl c s, rfl, rfl, rfl⟩

/-- A node that is new or has changed may change again. -/
theorem Furnishes.trans (h : Furnishes c s t) (h' : Furnishes c t u) : Furnishes c s u :=
  ⟨h.spares.trans h'.spares, h'.events.trans h.events, h'.sessions.trans h.sessions,
    h'.script.trans h.script⟩

private theorem Beside.furnishes (h : Beside s t) (hs : t.script = s.script) (c : NodeId) :
    Furnishes c s t :=
  ⟨.of_eq h.space h.registry, by rw [h.space], h.sessions, hs⟩

private theorem Puts.furnishes {cs : ConditionState} (h : Puts c cs s t) : Furnishes c s t :=
  ⟨h.spares, by rw [h.space]; rfl, h.beside.sessions, h.script⟩

/-- One node is new, under the next identifier. -/
structure Founds (c : NodeId) (s t : Server β) : Prop extends Furnishes c s t where
  /-- The registry stays. -/
  registry : t.tables.registry = s.tables.registry
  /-- The hooks stay. -/
  hooks : t.space.hooks = s.space.hooks
  /-- One identifier is used up. -/
  unspent : ∀ n, s.space.Unspent n → n + 1 < NodeId.assignable → t.space.Unspent (n + 1)

/-- A node that is added under the next identifier is new, if with it no watcher is set and nothing
is published. -/
theorem Founds.of_adds {sp : AddressSpace β} {links : List Link}
    (h : Adds links none c s.space sp)
    (hw : sp.watchers = s.space.watchers) (he : sp.events = s.space.events) :
    Founds c s (s.withSpace sp) where
  spares := h.spares hw
  events := he
  sessions := rfl
  script := rfl
  registry := rfl
  hooks := h.hooks
  unspent _ hn hlimit := hn.next h hlimit

private theorem Founds.beside (h : Founds c s t) (hb : Beside t u) (hs : u.script = t.script) :
    Founds c s u where
  toFurnishes := h.toFurnishes.trans (hb.furnishes hs c)
  registry := hb.registry.trans h.registry
  hooks := by rw [hb.space, h.hooks]
  unspent n hn hlimit := by
    rw [hb.space]
    exact h.unspent n hn hlimit

private theorem Founds.puts {cs : ConditionState} (h : Founds c s t) (hp : Puts c cs t u) :
    Founds c s u where
  toFurnishes := h.toFurnishes.trans hp.furnishes
  registry := hp.beside.registry.trans h.registry
  hooks := by
    rw [hp.space]
    exact h.hooks
  unspent n hn hlimit := by
    refine (h.unspent n hn hlimit).congr ?_ fun i => ?_
    · rw [hp.space]
      rfl
    · rw [hp.space]
      exact Table.contains_modify _ _ _ _

end Server

open Server (Furnishes Founds)

namespace Condition

variable {c : Condition} {s : Server β} {cs : ConditionState}

/-- A variable without a hook is set at once. -/
theorem setState_unhooked (hs : s.script = .empty) (hc : s.space.condition c.id = .ok cs)
    {k : TransitionKind} {ts : TwoState} (hts : cs.twoStates.find? k = some ts)
    (hh : s.space.hooks.find? (c.id, k) = none) (value : Bool) :
    ∃ t, (c.setState k value).perform s = .done (.ok ()) t ∧
      Puts c.id (cs.changeTwoState k (TwoState.enter value s.now)) s t := by
  have htwo : s.space.twoState c.id k = .ok ts := AddressSpace.twoState_eq_ok_iff.2 ⟨cs, hc, hts⟩
  obtain ⟨t, hrun, ht⟩ := Service.commit_puts hc hts value
  refine ⟨t, ?_, ht⟩
  rw [setState_run hs, Service.writeId_run htwo, Service.runHook_bind_run, hh, ite_self, hrun]
  rfl

/-- A creation that the address space carries out gives a handle that owns the node. -/
theorem create_run {r : ConditionRequest} {sp : AddressSpace β} {id : NodeId}
    (hs : s.script = .empty) (h : s.space.createCondition s.now r = .ok (id, sp)) :
    ∃ t, (create r).perform s = .done (.ok ⟨id, true⟩) t ∧ Beside (s.withSpace sp) t ∧
      t.script = .empty := by
  let s₁ : Server β := (s.withSpace sp).log .debug
    ("Condition " ++ r.browseName.text ++ " (" ++ id.text ++ ") created under " ++ r.source.text)
  let s₂ : Server β := s₁.log .debug
    ("Created condition " ++ r.browseName.text ++ " (" ++ id.text ++ ")")
  have hrequest : (Operation.request (.createCondition r) fun e =>
      .creationFailed r.browseName.text e).perform s = .done (.ok id) s₁ := by
    rw [Operation.perform_request_of_empty hs]
    show ((Service.createCondition r : Service β NodeId).run s).bind _ = _
    rw [Service.createCondition_run, h]
    rfl
  refine ⟨s₂, (Operation.perform_bind_of_ok hrequest).trans ?_, ⟨rfl, rfl, rfl, rfl, rfl⟩, hs⟩
  exact (Operation.perform_bind_of_ok (Operation.perform_log .debug _ s₁)).trans rfl

end Condition

/-! ### Preparation -/

namespace ConditionState

/-- The condition of an alarm that was prepared. -/
structure Prepared (cs : ConditionState) (source : NodeId) (severity : UInt16) : Prop where
  /-- It is an off-normal alarm. -/
  type : cs.type = .offNormal
  /-- It belongs to the source. -/
  source : cs.source = source
  /-- It is as urgent as was asked for. -/
  severity : cs.field .severity = .uint16 severity
  /-- Its message says that it is inactive. -/
  message : cs.field .message = .localizedText ⟨"", "Alarm inactive"⟩
  /-- It is of no interest. -/
  retain : cs.field .retain = .boolean false
  /-- It is enabled, and its other variables are false. -/
  idOf : ∀ k, cs.idOf k = some (decide (k = .enabled))

/-- The state of a condition after the writes that prepare an alarm. -/
def prepare (c : ConditionState) (severity : UInt16) (now : Instant) : ConditionState :=
  (((c.changeTwoState .enabled (TwoState.enter true now)).store .severity (.uint16 severity)).store
    .message (.localizedText (.plain AlarmState.inactive.defaultMessage))).store .retain
    (.boolean false)

private theorem prepared_create (source : NodeId) (sourceName name : String) (severity : UInt16)
    (now now' : Instant) :
    ((create .offNormal source sourceName name now).prepare severity now').Prepared source
      severity where
  type := rfl
  source := rfl
  severity := by simp [prepare, field, find?_store]
  message := by
    simp [prepare, field, find?_store, LocalizedText.plain, AlarmState.defaultMessage]
  retain := by simp [prepare, field, find?_store]
  idOf k := by
    rw [idOf, prepare, twoStates_store, twoStates_store, twoStates_store]
    cases k <;> rfl

end ConditionState

namespace Alarm

variable {c : Condition} {s : Server β} {cs : ConditionState} {ts : TwoState}

/-- A condition without a hook is prepared at once. -/
theorem prepare_run (hs : s.script = .empty) (hc : s.space.condition c.id = .ok cs)
    (hts : cs.twoStates.find? .enabled = some ts)
    (hh : s.space.hooks.find? (c.id, .enabled) = none) (severity : UInt16) :
    ∃ t, (prepare c severity).perform s = .done (.ok ()) t ∧
      Puts c.id (cs.prepare severity s.now) s t := by
  obtain ⟨s₁, hrun₁, h₁⟩ := Condition.setState_unhooked hs hc hts hh true
  obtain ⟨s₂, hrun₂, h₂⟩ := Condition.setField_puts (h₁.script.trans hs) (h₁.condition hc)
    (f := .severity) (by decide) (.uint16 severity) rfl
  have h₂ := h₁.trans h₂
  obtain ⟨s₃, hrun₃, h₃⟩ := Condition.setField_puts (h₂.script.trans hs) (h₂.condition hc)
    (f := .message) (by decide) (.localizedText (.plain AlarmState.inactive.defaultMessage)) rfl
  have h₃ := h₂.trans h₃
  obtain ⟨s₄, hrun₄, h₄⟩ := Condition.setField_puts (h₃.script.trans hs) (h₃.condition hc)
    (f := .retain) (by decide) (.boolean false) rfl
  refine ⟨s₄, ?_, h₃.trans h₄⟩
  refine (Operation.perform_bind_of_ok hrun₁).trans ?_
  refine (Operation.perform_bind_of_ok hrun₂).trans ?_
  exact (Operation.perform_bind_of_ok hrun₃).trans hrun₄

/-- An alarm is created under the next identifier if its source has no condition of its name. It is
prepared, and its source refers to it. -/
theorem create_run {source : NodeId} {name : QualifiedName} {parent : Option NodeId} {n : Node}
    (hs : s.script = .empty) (hn : s.space.nodes.find? source = some n)
    (hparent : parent.all NodeId.isReferenceType = true)
    (hname : s.space.hasConditionNamed source name = false)
    (hfree : s.space.nodes.contains s.space.allocate.1 = false)
    (hhook : s.space.hooks.find? (s.space.allocate.1, .enabled) = none) (severity : UInt16) :
    ∃ t m cs, (create source name parent severity).perform s =
        .done (.ok ⟨⟨s.space.allocate.1, true⟩, source⟩) t ∧
      Founds s.space.allocate.1 s t ∧
      t.space.nodes.find? s.space.allocate.1 = some m ∧ m.browseName = name ∧
      m.body = .condition cs ∧ cs.Prepared source severity ∧
      ∀ type ∈ parent.toList ++ [.hasCondition], ∀ holder,
        t.space.nodes.find? source = some holder →
          ⟨type, s.space.allocate.1⟩ ∈ holder.references := by
  let id := s.space.allocate.1
  let created : ConditionState := .create .offNormal source n.browseName.name name.name s.now
  let r : ConditionRequest := ⟨ConditionType.offNormal.node, name, source, parent, none⟩
  have htype : r.conditionType = ConditionType.offNormal.node := rfl
  obtain ⟨sp, hcreate, hadds, hw, he, hnew⟩ :=
    AddressSpace.createCondition_eq s.now htype hn hparent hname rfl hfree
  obtain ⟨s₁, hrun₁, hb, hs₁⟩ := Condition.create_run hs hcreate
  have hfounds : Founds id s s₁ := (Founds.of_adds hadds hw he).beside hb (hs₁.trans hs.symm)
  have hfind : s₁.space.nodes.find? id = some (.create name (.condition created)) := by
    rw [hb.space]
    exact hnew
  have hc : s₁.space.condition id = .ok created :=
    AddressSpace.condition_eq_ok_iff.2 ⟨_, hfind, rfl⟩
  have hts : created.twoStates.find? .enabled = some .initial := rfl
  have hhook₁ : s₁.space.hooks.find? (id, .enabled) = none := by
    rw [hfounds.hooks]
    exact hhook
  obtain ⟨t, hrun, hput⟩ := prepare_run (c := ⟨id, true⟩) hs₁ hc hts hhook₁ severity
  refine ⟨t, { Node.create name (.condition created) with
    body := .condition (created.prepare severity s₁.now) }, _, ?_, hfounds.puts hput, ?_, rfl, rfl,
    ConditionState.prepared_create source _ _ severity s.now s₁.now, ?_⟩
  · refine (Operation.perform_bind_of_ok hrun₁).trans ?_
    refine (Operation.perform_bind_of_ok (a := ()) (t := t) ?_).trans rfl
    rw [Operation.perform_tryCatch, hrun]
    rfl
  · rw [hput.space, AddressSpace.setCondition, AddressSpace.modifyNode, Table.find?_modify,
      if_pos rfl, hfind, Option.map_some]
  · intro type htype holder hholder
    have hlink : (⟨source, type⟩ : Link) ∈ parent.toList.map (⟨source, ·⟩) ++
        [⟨source, .hasCondition⟩] := by
      rcases List.mem_append.1 htype with hparent | hcondition
      · exact List.mem_append_left _ (List.mem_map_of_mem hparent)
      · rw [List.mem_singleton.1 hcondition]
        exact List.mem_append_right _ (List.mem_singleton_self _)
    have hne : source ≠ id := by
      rintro rfl
      rw [Table.contains, hn] at hfree
      cases hfree
    rw [hput.space, AddressSpace.setCondition, AddressSpace.modifyNode, Table.find?_modify,
      if_neg hne, hb.space] at hholder
    exact hadds.linked _ hlink holder hholder

end Alarm

/-! ### Registration of callbacks -/

namespace Server

/-- Callbacks are registered for a condition, with hooks that lead to them. -/
structure Attends (c : NodeId) (slots : TransitionKind → Option (Slot β)) (s t : Server β) :
    Prop extends Furnishes c s t where
  /-- The nodes stay. -/
  nodes : t.space.nodes = s.space.nodes
  /-- No identifier is used up. -/
  nextId : t.space.nextId = s.space.nextId
  /-- The hooks are installed. -/
  hooks : ∀ k, t.space.hooks.find? (c, k) =
    ((slots k).map (·.hook c k)).or (s.space.hooks.find? (c, k))
  /-- The callbacks are registered. -/
  slots : ∀ k, t.tables.registry.slot? c k = (slots k).or (s.tables.registry.slot? c k)

variable {c : NodeId} {slots slots' : TransitionKind → Option (Slot β)} {s t u : Server β}

/-- Where no callback is given, nothing is registered. -/
theorem Attends.refl (c : NodeId) (s : Server β) : Attends c (fun _ => none) s s where
  toFurnishes := .refl c s
  nodes := rfl
  nextId := rfl
  hooks _ := rfl
  slots _ := rfl

/-- It counts only which callbacks are given for which variables. -/
theorem Attends.congr (h : Attends c slots s t) (hs : ∀ k, slots k = slots' k) :
    Attends c slots' s t :=
  (funext hs : slots = slots') ▸ h

/-- Of the callbacks for one variable the later one counts. -/
theorem Attends.trans (h : Attends c slots s t) (h' : Attends c slots' t u) :
    Attends c (fun k => (slots' k).or (slots k)) s u where
  toFurnishes := h.toFurnishes.trans h'.toFurnishes
  nodes := h'.nodes.trans h.nodes
  nextId := h'.nextId.trans h.nextId
  hooks k := by
    rw [h'.hooks, h.hooks]
    cases slots' k <;> simp
  slots k := by
    rw [h'.slots, h.slots]
    cases slots' k <;> simp

end Server

open Server (Attends)

/-- A hook is not both accepted and refused. -/
theorem AddressSpace.AcceptsHook.not_refuses {sp : AddressSpace β} {h : Hook β} {e : StatusCode}
    (ha : sp.AcceptsHook h) : ¬ sp.RefusesHook h e := by
  obtain ⟨c, hc, hk, hs⟩ := ha
  obtain ⟨n, hn, hbody⟩ := condition_eq_ok_iff.1 hc
  rintro (hunknown | ⟨hn', hother⟩ | ⟨hc', hk'⟩ | ⟨-, -, hs'⟩)
  · cases hunknown.symm.trans hn
  · cases hn'.symm.trans hn
    exact hother c hbody
  · cases hc'.symm.trans hc
    exact hk' hk
  · cases hs'.symm.trans hs

/-- A registration for a variable that a condition has, and for a source that is there, succeeds. -/
theorem Condition.register_attends {c : Condition} {s : Server β} {cs : ConditionState}
    {k : TransitionKind} (slot : Slot β) (hs : s.script = .empty)
    (hc : s.space.condition c.id = .ok cs) (hk : k ∈ cs.type.kinds)
    (hsource : s.space.nodes.contains slot.source = true) :
    ∃ t, (c.register k slot).perform s = .done (.ok ()) t ∧
      Attends c.id (fun k' => if k' = k then some slot else none) s t := by
  obtain ⟨a, sp, t, hrun, hinst, hb, hscript⟩ := register_run c k slot s
  have hgenuine : (s.script.next .installHook).1 = .genuine := by
    rw [hs]
    rfl
  cases hinst with
  | settled hsettled =>
    rw [hgenuine] at hsettled
    cases hsettled
  | refused _ hrefused =>
    have haccepts : s.space.AcceptsHook (slot.hook c.id k) := ⟨cs, hc, hk, hsource⟩
    exact absurd hrefused haccepts.not_refuses
  | installed _ _ =>
    have hspace : t.space = { s.space with
        hooks := s.space.hooks.insert (c.id, k) (slot.hook c.id k) } := hb.space
    have hregistry : t.tables.registry = s.tables.registry.store c.id k slot := hb.registry
    refine ⟨t, hrun, ⟨⟨fun i _ => ?_, fun i hi k' => ?_, fun i _ => ?_, fun i hi => ?_⟩, ?_,
      hb.sessions, ?_⟩, ?_, ?_, fun k' => ?_, fun k' => ?_⟩
    · rw [hspace]
    · rw [hspace, Table.find?_insert, if_neg fun he => hi (congrArg Prod.fst he)]
    · rw [hspace]
    · rw [hregistry]
      exact (Table.find?_insert _ _ _ _).trans (if_neg hi)
    · rw [hspace]
    · rw [hscript, hs]
      rfl
    · rw [hspace]
    · rw [hspace]
    · rw [hspace, Table.find?_insert]
      by_cases hk : k' = k <;> simp [hk]
    · rw [hregistry, Registry.slot?_store]
      by_cases hk : k' = k <;> simp [hk]

/-! ### Sources, variables and watchers -/

namespace Service

variable {s : Server β}

/-- A source of events is added where there are the folder of objects and the server object. -/
theorem addEventSource_founds (name : QualifiedName)
    (ho : s.space.nodes.contains .objectsFolder = true)
    (hs : s.space.nodes.contains .serverObject = true) :
    ∃ t n, (addEventSource name).run s = .done (.ok s.space.allocate.1) t ∧
      Founds s.space.allocate.1 s t ∧ t.space.nodes.find? s.space.allocate.1 = some n ∧
      n.browseName = name ∧ n.body = .object ∧ n.notifier = true := by
  obtain ⟨sp, n, heq, hadds, hw, he, hn⟩ := s.space.addEventSource_eq ho hs name
  refine ⟨s.withSpace sp, n, ?_, .of_adds hadds hw he, hn⟩
  show Interaction.done (s.space.addEventSource name).1
    (s.withSpace (s.space.addEventSource name).2) = _
  rw [heq]

/-- A variable is added to the objects where there is a folder of them. -/
theorem addVariable_founds (ho : s.space.nodes.contains .objectsFolder = true)
    (name : QualifiedName) (value : Variant) (level : AccessLevel) :
    ∃ t n, (addVariable .objectsFolder name value level).run s =
        .done (.ok s.space.allocate.1) t ∧
      Founds s.space.allocate.1 s t ∧ t.space.nodes.find? s.space.allocate.1 = some n ∧
      n.body = .variable ⟨value, level⟩ := by
  let new : Node := .create name (.variable ⟨value, level⟩)
  let sp : AddressSpace β := (s.space.allocate.2.place s.space.allocate.1 new).modifyNode
    .objectsFolder (Node.refer .hasComponent s.space.allocate.1)
  have heq : (SpaceAction.addVariable .objectsFolder name value level).outcome s.space =
      .ok (s.space.allocate.1, sp) :=
    AddressSpace.addPart_eq_ok_iff.2 ⟨ho, rfl, rfl⟩
  have hadds := (AddressSpace.adds_place_next s.space new none).refer .objectsFolder .hasComponent
  refine ⟨s.withSpace sp, new, ?_, .of_adds hadds rfl rfl, ?_, rfl⟩
  · rw [addVariable, act_run_of_checksFirst (SpaceAction.checksFirst_addVariable _ _ _ _), heq]
  · have hne : s.space.allocate.1 ≠ .objectsFolder := (AddressSpace.allocate_ne (by decide)).symm
    simp [sp, AddressSpace.modifyNode, AddressSpace.place, Table.find?_modify, hne]

/-- A node that is there can be watched. -/
theorem watch_furnishes {i : NodeId} (hi : s.space.nodes.contains i = true) (callback : β) :
    ∃ t, (act (.watch i callback)).run s = .done (.ok ()) t ∧ Furnishes i s t ∧
      t.space.nodes = s.space.nodes ∧ t.space.hooks = s.space.hooks ∧
      t.tables.registry = s.tables.registry ∧ t.space.watchers.find? i = some callback := by
  have heq : (SpaceAction.watch i callback).outcome s.space =
      .ok ((), { s.space with watchers := s.space.watchers.insert i callback }) :=
    SpaceAction.effect_eq_ok_iff.1 (AddressSpace.watch_eq_ok_iff.2 ⟨hi, rfl⟩)
  refine ⟨s.withSpace { s.space with watchers := s.space.watchers.insert i callback }, ?_,
    ⟨⟨fun _ _ => rfl, fun _ _ _ => rfl, fun j hj => ?_, fun _ _ => rfl⟩, rfl, rfl, rfl⟩, rfl, rfl,
    rfl, Table.find?_insert_self _ _ _⟩
  · rw [act_run_of_checksFirst (SpaceAction.checksFirst_watch i callback), heq]
  · exact (Table.find?_insert _ _ _ _).trans (if_neg hj)

end Service

end AlarmServer
