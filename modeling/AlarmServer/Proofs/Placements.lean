import AlarmServer.Proofs.Requests
import Mathlib.Algebra.Ring.Nat

/-!
# Placements of nodes

A request that creates a node places it under an identifier that was asked for and is free, or under
the next one, and adds references to it to nodes that are there. The other requests place no node,
and use up no identifier.
-/

namespace AlarmServer

open Interaction (After found)

variable {β : Type}

/-- A node with further references. -/
def Node.referAll (extra : List Reference) (n : Node) : Node :=
  { n with references := n.references ++ extra }

/-- Without references nothing is added. -/
@[simp] theorem Node.referAll_nil (n : Node) : n.referAll [] = n := by
  simp [referAll]

/-- References are appended one after the other. -/
theorem Node.referAll_referAll (n : Node) (extra extra' : List Reference) :
    (n.referAll extra).referAll extra' = n.referAll (extra ++ extra') := by
  simp [referAll]

/-- What an interaction has given, if it has ended well. -/
def Interaction.gives? {S : Signature} {σ ε α : Type} : Interaction S σ (Except ε α) → Option α
  | done (.ok a) _ => some a
  | _ => none

/-- A reference that a creation adds: which node gets it, and its type. -/
structure Link where
  /-- The node. -/
  holder : NodeId
  /-- The type. -/
  type : NodeId
  deriving DecidableEq

namespace AddressSpace

variable {sp sp' : AddressSpace β} {links : List Link} {requested : Option NodeId} {id : NodeId}

/-- A node was placed under an identifier, and references to it were added. -/
structure Adds (links : List Link) (requested : Option NodeId) (id : NodeId)
    (sp sp' : AddressSpace β) : Prop where
  /-- The other nodes stay, except for the references that they get. -/
  others : ∀ i, i ≠ id → ∃ extra : List Reference,
    (∀ x ∈ extra, x.target = id ∧ ⟨i, x.type⟩ ∈ links) ∧
      sp'.nodes.find? i = (sp.nodes.find? i).map (Node.referAll extra)
  /-- The references are there. -/
  linked : ∀ l ∈ links, ∀ n, sp'.nodes.find? l.holder = some n → ⟨l.type, id⟩ ∈ n.references
  /-- The node is there. -/
  contains : sp'.nodes.contains id = true
  /-- There is one more node, unless there was one under the identifier. -/
  size : sp'.nodes.size = if sp.nodes.contains id then sp.nodes.size else sp.nodes.size + 1
  /-- The identifier was asked for and is free, or it is the next one, which is used up. -/
  identifier : (requested = some id ∧ sp.nodes.contains id = false ∧ sp'.nextId = sp.nextId) ∨
    (id = sp.allocate.1 ∧ sp'.nextId = sp.nextId + 1)
  /-- The hooks stay. -/
  hooks : sp'.hooks = sp.hooks
  /-- No node is deleted. -/
  deleted : sp'.deleted = sp.deleted

/-- A node under the next identifier. -/
theorem adds_place_next (sp : AddressSpace β) (n : Node) (requested : Option NodeId) :
    Adds [] requested sp.allocate.1 sp (sp.allocate.2.place sp.allocate.1 n) where
  others i hi := by
    refine ⟨[], (fun _ hx => nomatch hx), ?_⟩
    show (sp.nodes.insert _ n).find? i = _
    rw [Table.find?_insert, if_neg hi]
    cases sp.nodes.find? i <;> simp
  linked _ hl := nomatch hl
  contains := by
    show (sp.nodes.insert _ n).contains _ = true
    simp [Table.contains_insert]
  size := Table.size_insert sp.nodes _ n
  identifier := .inr ⟨rfl, rfl⟩
  hooks := rfl
  deleted := rfl

/-- A node under an identifier that was asked for. -/
theorem adds_place_requested (hf : sp.nodes.contains id = false) (n : Node) :
    Adds [] (some id) id sp (sp.place id n) where
  others i hi := by
    refine ⟨[], (fun _ hx => nomatch hx), ?_⟩
    show (sp.nodes.insert _ n).find? i = _
    rw [Table.find?_insert, if_neg hi]
    cases sp.nodes.find? i <;> simp
  linked _ hl := nomatch hl
  contains := by
    show (sp.nodes.insert _ n).contains _ = true
    simp [Table.contains_insert]
  size := Table.size_insert sp.nodes _ n
  identifier := .inl ⟨rfl, hf, rfl⟩
  hooks := rfl
  deleted := rfl

/-- A further reference to the new node. -/
theorem Adds.link (h : Adds links requested id sp sp') (l : Link) {f : Node → Node}
    (hf : ∀ n, ∃ extra, f n = n.referAll extra ∧ (∀ x ∈ extra, x = ⟨l.type, id⟩) ∧
      ⟨l.type, id⟩ ∈ (f n).references) :
    Adds (l :: links) requested id sp (sp'.modifyNode l.holder f) where
  others i hi := by
    obtain ⟨extra, hextra, hfind⟩ := h.others i hi
    show ∃ extra' : List Reference, _ ∧ (sp'.nodes.modify l.holder f).find? i = _
    rw [Table.find?_modify]
    split
    · next hl =>
      subst hl
      rw [hfind]
      cases hn : sp.nodes.find? l.holder with
      | none => exact ⟨[], (fun _ hx => absurd hx List.not_mem_nil), rfl⟩
      | some n =>
        obtain ⟨extra', hf', hx', -⟩ := hf (n.referAll extra)
        refine ⟨extra ++ extra', fun x hx => ?_, ?_⟩
        · rcases List.mem_append.1 hx with hx | hx
          · exact ⟨(hextra x hx).1, List.mem_cons_of_mem _ (hextra x hx).2⟩
          · rw [hx' x hx]
            exact ⟨rfl, List.mem_cons_self⟩
        · rw [Option.map_some, Option.map_some, Option.map_some, hf', Node.referAll_referAll]
    · exact ⟨extra, fun x hx => ⟨(hextra x hx).1, List.mem_cons_of_mem _ (hextra x hx).2⟩, hfind⟩
  linked l' hl' n hn := by
    change (sp'.nodes.modify l.holder f).find? l'.holder = some n at hn
    rw [Table.find?_modify] at hn
    split at hn
    · next hholder =>
      obtain ⟨m, hm, rfl⟩ := Option.map_eq_some_iff.1 hn
      obtain ⟨extra, hf', -, hmem⟩ := hf m
      rcases List.mem_cons.1 hl' with rfl | hl'
      · exact hmem
      · rw [hf']
        exact List.mem_append_left _ (h.linked l' hl' m (hholder ▸ hm))
    · next hholder =>
      rcases List.mem_cons.1 hl' with rfl | hl'
      · exact absurd rfl hholder
      · exact h.linked l' hl' n hn
  contains := (Table.contains_modify _ _ _ _).trans h.contains
  size := (Table.size_modify _ _ _).trans h.size
  identifier := h.identifier
  hooks := h.hooks
  deleted := h.deleted

/-- One more node may refer to the added one. -/
theorem Adds.refer (h : Adds links requested id sp sp') (holder type : NodeId) :
    Adds (⟨holder, type⟩ :: links) requested id sp
      (sp'.modifyNode holder (Node.refer type id)) :=
  h.link ⟨holder, type⟩ fun n => ⟨[⟨type, id⟩], rfl, by simp, by simp [Node.refer]⟩

/-- It may refer to it only once. -/
theorem Adds.referOnce (h : Adds links requested id sp sp') (holder type : NodeId) :
    Adds (⟨holder, type⟩ :: links) requested id sp
      (sp'.modifyNode holder (Node.referOnce type id)) := by
  refine h.link ⟨holder, type⟩ fun n => ?_
  unfold Node.referOnce
  split
  · next hmem => exact ⟨[], by simp, by simp, hmem⟩
  · exact ⟨[⟨type, id⟩], rfl, by simp, by simp [Node.refer]⟩

/-- A change of the new node that leaves its references alone. -/
theorem Adds.adjust (h : Adds links requested id sp sp') {f : Node → Node}
    (hf : ∀ n, (f n).references = n.references) :
    Adds links requested id sp (sp'.modifyNode id f) where
  others i hi := by
    obtain ⟨extra, hextra, hfind⟩ := h.others i hi
    refine ⟨extra, hextra, ?_⟩
    show (sp'.nodes.modify id f).find? i = _
    rw [Table.find?_modify, if_neg hi, hfind]
  linked l hl n hn := by
    change (sp'.nodes.modify id f).find? l.holder = some n at hn
    rw [Table.find?_modify] at hn
    split at hn
    · next hholder =>
      obtain ⟨m, hm, rfl⟩ := Option.map_eq_some_iff.1 hn
      rw [hf]
      exact h.linked l hl m (hholder ▸ hm)
    · exact h.linked l hl n hn
  contains := (Table.contains_modify _ _ _ _).trans h.contains
  size := (Table.size_modify _ _ _).trans h.size
  identifier := h.identifier
  hooks := h.hooks
  deleted := h.deleted

/-! ### Creations -/

private theorem adds_of_addPart {parent : NodeId} {n : Node}
    (h : sp.addPart parent n = .ok (id, sp')) :
    Adds [⟨parent, .hasComponent⟩] none id sp sp' := by
  obtain ⟨-, rfl, rfl⟩ := addPart_eq_ok_iff.1 h
  exact (adds_place_next sp n none).refer parent .hasComponent

/-- A creation adds a condition, to which its source refers. -/
theorem adds_of_createCondition {now : Instant} {r : ConditionRequest}
    (h : sp.createCondition now r = .ok (id, sp')) :
    Adds (r.parentReference.toList.map (⟨r.source, ·⟩) ++ [⟨r.source, .hasCondition⟩])
      r.requestedId id sp sp' := by
  obtain ⟨type, source, sp₁, -, -, -, -, hid, rfl⟩ := createCondition_eq_ok_iff.1 h
  have hplace : ∀ n, Adds [] r.requestedId id sp (sp₁.place id n) := by
    intro n
    rcases conditionId_eq_ok_iff.1 hid with ⟨hr, hf, -, rfl⟩ | ⟨-, ha⟩
    · rw [hr]
      exact adds_place_requested hf n
    · obtain ⟨rfl, rfl⟩ := Prod.mk.inj ha
      exact adds_place_next sp n r.requestedId
  have hcondition := (hplace (.create r.browseName (.condition
    (.create type r.source source.browseName.name r.browseName.name now)))).refer r.source
      .hasCondition
  unfold expose
  cases r.parentReference with
  | none => exact hcondition
  | some type => exact hcondition.refer r.source type

/-- What is there after a placement is the new node, or was there before. -/
theorem Adds.contains_iff (h : Adds links requested id sp sp') (i : NodeId) :
    sp'.nodes.contains i = true ↔ i = id ∨ sp.nodes.contains i = true := by
  by_cases hi : i = id
  · subst hi
    simp [h.contains]
  · obtain ⟨extra, -, hfind⟩ := h.others i hi
    simp [Table.contains, hfind, hi]

/-- A source of events that was placed and marked is added below the folder. -/
theorem adds_openSource (name : QualifiedName) (sp : AddressSpace β) :
    Adds [⟨.objectsFolder, .hasComponent⟩] none sp.allocate.1 sp (sp.openSource name) :=
  ((adds_place_next sp (.create name .object) none).refer .objectsFolder .hasComponent).adjust
    fun _ => rfl

/-- An object that is to become a source of events is added before the references are. If there is
no server object, it stays although the addition fails. -/
theorem adds_of_addEventSource (name : QualifiedName) :
    (∃ id, (sp.addEventSource name).1 = .ok id ∧
      Adds [⟨.serverObject, .hasNotifier⟩, ⟨.objectsFolder, .hasComponent⟩] none id sp
        (sp.addEventSource name).2) ∨
    (sp.nodes.contains .serverObject = false ∧ ∃ e, (sp.addEventSource name).1 = .error e ∧
      Adds [⟨.objectsFolder, .hasComponent⟩] none sp.allocate.1 sp (sp.addEventSource name).2) ∨
    ∃ e, (sp.addEventSource name).1 = .error e ∧ (sp.addEventSource name).2 = sp := by
  have houtcome := addEventSource_outcome name sp
  generalize (sp.addEventSource name).1 = r, (sp.addEventSource name).2 = sp' at houtcome ⊢
  cases houtcome with
  | refused _ => exact .inr (.inr ⟨_, rfl, rfl⟩)
  | abandoned _ server => exact .inr (.inl ⟨server, _, rfl, adds_openSource name sp⟩)
  | added _ _ =>
    exact .inl ⟨_, rfl, (adds_openSource name sp).referOnce .serverObject .hasNotifier⟩

/-! ### Everything else -/

/-- No node was placed. -/
structure AddsNone (sp sp' : AddressSpace β) : Prop where
  /-- No identifier is used up. -/
  nextId : sp'.nextId = sp.nextId
  /-- What is there was there. -/
  contains : ∀ i, sp'.nodes.contains i = true → sp.nodes.contains i = true
  /-- Nodes end only by deletion. -/
  total : sp'.nodes.size + sp'.deleted = sp.nodes.size + sp.deleted

/-- Where nothing happens no node is added. -/
theorem AddsNone.refl (sp : AddressSpace β) : AddsNone sp sp := ⟨rfl, fun _ h => h, rfl⟩

private theorem AddsNone.trans {sp'' : AddressSpace β} (h : AddsNone sp sp')
    (h' : AddsNone sp' sp'') : AddsNone sp sp'' :=
  ⟨h'.nextId.trans h.nextId, fun i hi => h.contains i (h'.contains i hi), h'.total.trans h.total⟩

/-- A deletion adds no node. -/
theorem addsNone_of_deleteNode {refs : Bool} (h : sp.deleteNode id refs = .ok sp') :
    AddsNone sp sp' := by
  obtain ⟨hn, rfl⟩ := deleteNode_eq_ok_iff.1 h
  have hid : sp.nodes.contains id = true := hn
  have hpos : 0 < sp.nodes.size := by
    obtain ⟨n, hn⟩ := Option.isSome_iff_exists.1 hn
    exact List.length_pos_of_mem ((Table.mem_entries_iff _ _ _).2 hn)
  have hsize : (sp.nodes.erase id).size + (sp.deleted + 1) = sp.nodes.size + sp.deleted := by
    rw [Table.size_erase, if_pos hid]
    omega
  have hcontains : ∀ i, (sp.nodes.erase id).contains i = true → sp.nodes.contains i = true := by
    intro i hi
    rw [Table.contains_erase, Bool.and_eq_true] at hi
    exact hi.2
  cases refs with
  | false => exact ⟨rfl, hcontains, hsize⟩
  | true =>
    refine ⟨rfl, fun i hi => hcontains i ?_, ?_⟩
    · rw [if_pos rfl, Table.contains_mapValues] at hi
      exact hi
    · rw [if_pos rfl, Table.size_mapValues]
      exact hsize

end AddressSpace

namespace Change

/-- Does the change place a node? -/
def Places : Change β → Prop
  | addObject .. => True
  | addVariable .. => True
  | createCondition .. => True
  | _ => False

/-- A change that works on the nodes as they are: it changes one of them or none. -/
structure InPlace (ch : Change β) (sp sp' : AddressSpace β) : Prop where
  /-- At most one node changes. -/
  nodes : sp'.nodes = sp.nodes ∨ ∃ i f, sp'.nodes = sp.nodes.modify i f
  /-- The hooks stay, unless one is to be installed. -/
  hooks : sp'.hooks = sp.hooks ∨ ∃ hook, ch = .installHook hook
  /-- No identifier is used up. -/
  nextId : sp'.nextId = sp.nextId
  /-- No node is deleted. -/
  deleted : sp'.deleted = sp.deleted

/-- A change that places no node deletes one or works on the nodes as they are. -/
theorem inPlace_of_apply {ch : Change β} {sp sp' : AddressSpace β} (hp : ¬ ch.Places)
    (h : ch.apply sp = .ok sp') :
    (∃ id refs, sp.deleteNode id refs = .ok sp') ∨ ch.InPlace sp sp' := by
  have hmodify : ∀ i f, ch.InPlace sp (sp.modifyNode i f) := fun i f =>
    ⟨.inr ⟨i, f, rfl⟩, .inl rfl, rfl, rfl⟩
  cases ch with
  | addObject parent name => exact absurd trivial hp
  | addVariable parent name value level => exact absurd trivial hp
  | createCondition now r => exact absurd trivial hp
  | deleteNode id refs => exact .inl ⟨id, refs, h⟩
  | setNotifier id notifier =>
    obtain ⟨-, rfl⟩ := AddressSpace.setNotifier_eq_ok_iff.1 h
    exact .inr (hmodify _ _)
  | addReference source target type =>
    obtain ⟨-, -, -, rfl⟩ := AddressSpace.addReference_eq_ok_iff.1 h
    exact .inr (hmodify _ _)
  | writeValue id value =>
    obtain ⟨_, -, -, -, rfl⟩ := AddressSpace.writeValue_eq_ok_iff.1 h
    exact .inr (hmodify _ _)
  | watch id callback =>
    obtain ⟨-, rfl⟩ := AddressSpace.watch_eq_ok_iff.1 h
    exact .inr ⟨.inl rfl, .inl rfl, rfl, rfl⟩
  | writeField id field value =>
    obtain ⟨_, _, -, -, rfl⟩ := AddressSpace.writeField_eq_ok_iff.1 h
    exact .inr (hmodify _ _)
  | commit id kind value now =>
    obtain ⟨_, _, -, -, rfl⟩ := AddressSpace.commit_eq_ok_iff.1 h
    exact .inr (hmodify _ _)
  | setTransitionTime id kind time =>
    obtain ⟨_, _, -, -, rfl⟩ := AddressSpace.setTransitionTime_eq_ok_iff.1 h
    exact .inr (hmodify _ _)
  | installHook hook =>
    obtain ⟨_, -, -, -, rfl⟩ := AddressSpace.installHook_eq_ok_iff.1 h
    exact .inr ⟨.inl rfl, .inr ⟨hook, rfl⟩, rfl, rfl⟩
  | publish id source eventId now =>
    obtain ⟨c, -, rfl⟩ := AddressSpace.publish_eq_ok_iff.1 h
    let note (n : Node) : Node := { n with body := .condition (c.noted eventId now) }
    exact .inr ⟨.inr ⟨id, note, rfl⟩, .inl rfl, rfl, rfl⟩

/-- What is there after such a change was there before. -/
theorem InPlace.contains {ch : Change β} {sp sp' : AddressSpace β} (h : ch.InPlace sp sp')
    (i : NodeId) : sp'.nodes.contains i = sp.nodes.contains i := by
  rcases h.nodes with hn | ⟨j, f, hn⟩
  · rw [hn]
  · rw [hn, Table.contains_modify]

private theorem addsNone_of_apply {ch : Change β} {sp sp' : AddressSpace β} (hp : ¬ ch.Places)
    (h : ch.apply sp = .ok sp') : sp.AddsNone sp' := by
  rcases inPlace_of_apply hp h with ⟨id, refs, hd⟩ | hi
  · exact AddressSpace.addsNone_of_deleteNode hd
  · refine ⟨hi.nextId, fun i hc => (hi.contains i).symm.trans hc, ?_⟩
    rw [hi.deleted]
    rcases hi.nodes with hn | ⟨j, f, hn⟩
    · rw [hn]
    · rw [hn, Table.size_modify]

end Change

/-! ### Requests -/

namespace Request

open AddressSpace (Adds AddsNone)

/-- Does the request create a node? -/
def Creates : Request β → Prop
  | addObject .. => True
  | addVariable .. => True
  | addEventSource _ => True
  | call (.createCondition _) => True
  | _ => False

/-- A request that creates no node places none. -/
theorem not_places_of_may {r : Request β} (hr : ¬ r.Creates) {ch : Change β} (h : r.May ch) :
    ¬ ch.Places := by
  cases makes_of_may h with
  | addObject | addVariable | addEventSource | createCondition => exact absurd trivial hr
  | _ => exact not_false

/-- The identifier that a request asks for. -/
def requested? : Request β → Option NodeId
  | call (.createCondition r) => r.requestedId
  | _ => none

/-- The references to its node that a creation adds. -/
def links : Request β → List Link
  | addObject parent _ => [⟨parent, .hasComponent⟩]
  | addVariable parent .. => [⟨parent, .hasComponent⟩]
  | addEventSource _ => [⟨.serverObject, .hasNotifier⟩, ⟨.objectsFolder, .hasComponent⟩]
  | call (.createCondition r) =>
    r.parentReference.toList.map (⟨r.source, ·⟩) ++ [⟨r.source, .hasCondition⟩]
  | _ => []

/-- The identifier that a creation gives. -/
def given? : (r : Request β) → Interaction (upcalls β) (Server β) (Except StatusCode r.Reply) →
    Option NodeId
  | addObject .., y => y.gives?
  | addVariable .., y => y.gives?
  | addEventSource _, y => y.gives?
  | call (.createCondition _), y => y.gives?
  | _, _ => none

/-- The identifier that a creation gives because it was asked for. -/
def reserved? (r : Request β)
    (y : Interaction (upcalls β) (Server β) (Except StatusCode r.Reply)) : Option NodeId :=
  (r.given? y).filter fun id => r.requested? = some id

/-- What a stretch of a request places, and which identifier it gives. -/
inductive Placement (r : Request β) (sp : AddressSpace β) :
    Option NodeId → AddressSpace β → Prop where
  /-- A node is created. -/
  | created {id : NodeId} {sp' : AddressSpace β} (h : Adds r.links r.requested? id sp sp') :
      Placement r sp (some id) sp'
  /-- An object is placed, but it does not become a source of events for want of a server object.
  -/
  | abandoned {name : QualifiedName} {links : List Link} {sp' : AddressSpace β}
      (hr : r = addEventSource name) (hs : sp.nodes.contains .serverObject = false)
      (h : Adds links none sp.allocate.1 sp sp') : Placement r sp none sp'
  /-- No node is placed, and a request that was to create one changes nothing. -/
  | none {sp' : AddressSpace β} (h : AddsNone sp sp') (hc : r.Creates → sp' = sp) :
      Placement r sp none sp'

private theorem addsNone_of_changed {may : Change β → Prop} {sp sp' : AddressSpace β}
    (hmay : ∀ ch, may ch → ¬ ch.Places) (h : AddressSpace.Changed may sp sp') : AddsNone sp sp' :=
  h.keeps .refl (fun _ _ _ => .trans) fun ch _ _ hm ha => ch.addsNone_of_apply (hmay ch hm) ha

private theorem placement_of_immediate {r : Request β} {s : Server β} {es : List _}
    {succeeds : NodeId → AddressSpace β → Prop}
    {x y : Interaction (upcalls β) (Server β) (Except StatusCode NodeId)}
    (hx : Server.Immediate succeeds s x)
    (hf : ∀ {id sp'}, succeeds id sp' → Adds r.links r.requested? id s.space sp')
    (h : After x es y) : Placement r (found s es).space y.gives? y.state.space := by
  obtain ⟨rfl, hy⟩ := hx.of_after h
  cases hy with
  | failed e => exact .none (.refl s.space) fun _ => rfl
  | succeeded hadd => exact .created (hf hadd)

private theorem placement_of_addEventSource {name : QualifiedName} {s : Server β} {es : List _}
    {y : Interaction (upcalls β) (Server β) (Except StatusCode NodeId)}
    (h : After ((Service.addEventSource name).run s) es y) :
    Placement (addEventSource name : Request β) (found s es).space y.gives? y.state.space := by
  change After (.done (s.space.addEventSource name).1
    (s.withSpace (s.space.addEventSource name).2)) es y at h
  obtain ⟨rfl, rfl⟩ := Interaction.after_done_iff.1 h
  rcases s.space.adds_of_addEventSource name with ⟨id, hr, ha⟩ | ⟨hs, e, hr, ha⟩ | ⟨e, hr, ha⟩
  · rw [hr]
    exact .created ha
  · rw [hr]
    exact .abandoned rfl hs ha
  · rw [hr, ha]
    exact .none (.refl s.space) fun _ => rfl

end Request

/-- A stretch places a node or none. -/
theorem System.Stretch.Genuine.placement {st : (requests β).Stretch} (h : st.Genuine) :
    Request.Placement st.request st.before.space (Request.given? st.request st.outcome)
      st.after.space := by
  have hnone (hr : ¬ Request.Creates st.request) :
      Request.Placement st.request st.before.space none st.after.space :=
    .none (Request.addsNone_of_changed (fun _ => Request.not_places_of_may hr) h.changed)
      fun hc => absurd hc hr
  obtain ⟨serial, r, s, es, before, y⟩ := st
  have hbefore : before = found s es := h.before
  have hafter : After ((Request.perform r).run s) es y := h.outcome
  subst hbefore
  cases r with
  | addObject parent name =>
    exact Request.placement_of_immediate
      (Service.immediate_act (SpaceAction.checksFirst_addObject parent name) s)
      AddressSpace.adds_of_addPart hafter
  | addVariable parent name value level =>
    exact Request.placement_of_immediate
      (Service.immediate_act (SpaceAction.checksFirst_addVariable parent name value level) s)
      AddressSpace.adds_of_addPart hafter
  | addEventSource name => exact Request.placement_of_addEventSource hafter
  | call c =>
    cases c with
    | createCondition r =>
      exact Request.placement_of_immediate (Service.immediate_createCondition r s)
        AddressSpace.adds_of_createCondition hafter
    | _ => exact hnone not_false
  | _ => exact hnone not_false

/-! ### Identifiers that are used up -/

/-- Does the stretch use up an identifier? -/
def System.Stretch.assigns {Y : System (upcalls β) (Server β)} (st : Y.Stretch) : Bool :=
  decide (st.after.space.nextId ≠ st.before.space.nextId)

/-- After the server has given out an identifier the next one is another. -/
theorem assigns_of_next {Y : System (upcalls β) (Server β)} {st : Y.Stretch}
    (h : st.after.space.nextId = st.before.space.nextId + 1) :
    st.assigns = true := by
  refine decide_eq_true fun he => ?_
  rw [h] at he
  have hnat := congrArg UInt32.toNat he
  rw [UInt32.toNat_add] at hnat
  change (_ + 1) % 2 ^ 32 = _ at hnat
  omega

/-- Is the identifier one of those that a server gives out by itself? -/
def NodeId.Assignable (id : NodeId) : Prop := ∃ i : UInt32, 50000 ≤ i ∧ id = .numeric 1 i

/-- How many identifiers a server can give out before it begins again. -/
def NodeId.assignable : Nat := 2 ^ 32 - 50000

namespace AddressSpace

variable {sp sp' : AddressSpace β} {links : List Link} {requested : Option NodeId} {id : NodeId}
  {n : Nat}

/-- So many identifiers were used up, and all from the next one on are free. -/
structure Unspent (n : Nat) (sp : AddressSpace β) : Prop where
  /-- The next identifier is the first one that was not used up. -/
  nextId : sp.nextId.toNat = 50000 + n
  /-- The identifiers from there on are free. -/
  free : ∀ i : UInt32, sp.nextId ≤ i → sp.nodes.contains (.numeric 1 i) = false

/-- A new server has given out no identifier. -/
theorem unspent_initial : (initial : AddressSpace β).Unspent 0 := by
  refine ⟨rfl, fun i _ => ?_⟩
  simp [initial, Table.ofList, NodeId.serverObject, NodeId.objectsFolder, Table.contains,
    Table.find?_insert]

/-- Where no node is added no identifier is spent. -/
theorem Unspent.addsNone (h : sp.Unspent n) (ha : sp.AddsNone sp') : sp'.Unspent n := by
  refine ⟨ha.nextId ▸ h.nextId, fun i hi => Bool.eq_false_iff.2 fun hc => ?_⟩
  have hfree := h.free i (ha.nextId ▸ hi)
  rw [ha.contains _ hc] at hfree
  cases hfree

/-- As long as the identifiers are not used up, a new node gets one that is free. -/
theorem Unspent.free_of_adds (h : sp.Unspent n) (ha : Adds links requested id sp sp') :
    sp.nodes.contains id = false := by
  rcases ha.identifier with ⟨-, hf, -⟩ | ⟨hid, -⟩
  · exact hf
  · rw [hid]
    exact h.free _ (UInt32.le_refl _)

/-- A node that gets the next identifier spends one, and one that gets a requested identifier spends
none. -/
theorem Unspent.adds (h : sp.Unspent n) (ha : Adds links requested id sp sp')
    (hr : requested = some id → ¬ id.Assignable)
    (hn : sp'.nextId ≠ sp.nextId → n + 1 < NodeId.assignable) :
    sp'.Unspent (if sp'.nextId = sp.nextId then n else n + 1) := by
  have hfree (i : UInt32) (hi : sp.nextId ≤ i) (hid : .numeric 1 i ≠ id) :
      sp'.nodes.contains (.numeric 1 i) = false := by
    refine Bool.eq_false_iff.2 fun hc => ?_
    rcases (ha.contains_iff _).1 hc with hi' | hc
    · exact hid hi'
    · rw [h.free i hi] at hc
      cases hc
  have hnext := h.nextId
  rcases ha.identifier with ⟨hreq, -, hsame⟩ | ⟨hid, hnew⟩
  · rw [if_pos hsame]
    refine ⟨hsame ▸ hnext, fun i hi => hfree i (hsame ▸ hi) fun hi' => hr hreq ⟨i, ?_, hi'.symm⟩⟩
    rw [hsame, UInt32.le_iff_toNat_le] at hi
    rw [UInt32.le_iff_toNat_le]
    show 50000 ≤ _
    omega
  · have hne : sp'.nextId ≠ sp.nextId := by
      rw [hnew]
      intro he
      have := congrArg UInt32.toNat he
      rw [UInt32.toNat_add] at this
      change (_ + 1) % 2 ^ 32 = _ at this
      omega
    have hlimit := hn hne
    unfold NodeId.assignable at hlimit
    have hnat : sp'.nextId.toNat = 50000 + (n + 1) := by
      rw [hnew, UInt32.toNat_add]
      change (_ + 1) % 2 ^ 32 = _
      omega
    rw [if_neg hne]
    refine ⟨hnat, fun i hi => ?_⟩
    rw [UInt32.le_iff_toNat_le] at hi
    refine hfree i ?_ fun hi' => ?_
    · rw [UInt32.le_iff_toNat_le]
      omega
    · rw [hid] at hi'
      have := congrArg UInt32.toNat (NodeId.numeric_inj.1 hi').2
      omega

end AddressSpace

section

variable {r : Request β} {sp sp' : AddressSpace β} {given : Option NodeId} {n : Nat}

/-- One request uses up at most one identifier. -/
theorem AddressSpace.Unspent.placement (h : sp.Unspent n) (hp : r.Placement sp given sp')
    (hr : ∀ i, given = some i → r.requested? = some i → ¬ i.Assignable)
    (hn : sp'.nextId ≠ sp.nextId → n + 1 < NodeId.assignable) :
    sp'.Unspent (if sp'.nextId = sp.nextId then n else n + 1) := by
  cases hp with
  | created ha => exact h.adds ha (hr _ rfl) hn
  | abandoned _ _ ha => exact h.adds ha (fun he => nomatch he) hn
  | none ha =>
    rw [if_pos ha.nextId]
    exact h.addsNone ha

end

/-! ### Orderly runs -/

/-- The last element of a list counts by itself. -/
theorem countP_concat {α : Type} (p : α → Bool) (l : List α) (a : α) :
    (l ++ [a]).countP p = l.countP p + (p a).toNat := by
  rw [List.countP_append, List.countP_singleton]
  cases p a <;> rfl

section

variable {Y : System (upcalls β) (Server β)} {reserved? : Y.Stretch → Option NodeId}
  {trace fore rest : List Y.Stretch} {st : Y.Stretch}

/-- Do the requests of a run leave it to the server to give out the identifiers that it gives out by
itself, and does it not come round? -/
structure Orderly (reserved? : Y.Stretch → Option NodeId) (trace : List Y.Stretch) : Prop where
  /-- No node is created under such an identifier because that was asked for. -/
  reserved : ∀ st ∈ trace, ∀ id, reserved? st = some id → ¬ id.Assignable
  /-- There are enough of them. -/
  few : trace.countP System.Stretch.assigns < NodeId.assignable

/-- The begin of an orderly run is orderly. -/
theorem Orderly.of_append (ho : Orderly reserved? (fore ++ rest)) : Orderly reserved? fore := by
  refine ⟨fun st hst => ho.reserved st (List.mem_append_left rest hst), ?_⟩
  have hfew := ho.few
  rw [List.countP_append] at hfew
  omega

/-- In the course of an orderly run the identifiers are used up one after the other, if each stretch
uses up at most one. -/
theorem Orderly.unspent_step (ho : Orderly reserved? trace) (he : trace = fore ++ st :: rest)
    (h : st.before.space.Unspent (fore.countP System.Stretch.assigns))
    (hstep : ∀ {n}, st.before.space.Unspent n →
      (∀ i, reserved? st = some i → ¬ i.Assignable) →
      (st.after.space.nextId ≠ st.before.space.nextId → n + 1 < NodeId.assignable) →
      st.after.space.Unspent
        (if st.after.space.nextId = st.before.space.nextId then n else n + 1)) :
    st.after.space.Unspent ((fore ++ [st]).countP System.Stretch.assigns) := by
  have hmem : st ∈ trace := by simp [he]
  have hcount : (fore ++ [st]).countP System.Stretch.assigns =
      if st.after.space.nextId = st.before.space.nextId then fore.countP System.Stretch.assigns
      else fore.countP System.Stretch.assigns + 1 := by
    rw [countP_concat, System.Stretch.assigns]
    split <;> simp_all
  rw [hcount]
  refine hstep h (ho.reserved st hmem) fun hn => ?_
  have hfew := ho.few
  rw [he, List.append_cons, List.countP_append, hcount, if_neg hn] at hfew
  omega

end

end AlarmServer
