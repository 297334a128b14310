import AlarmServer.Proofs.Creations

/-!
# Roles of nodes

The role of a node is what kind of node it is, and whether it is marked as a notifier. A node has a
role when it is placed. It is the same kind of node until it is deleted or another one takes its
place, and is marked or not as was said last.
-/

namespace AlarmServer

open Interaction (After found)

variable {β : Type}

/-- The kinds of nodes. -/
inductive NodeKind where
  /-- An object. -/
  | object
  /-- A variable. -/
  | variable
  /-- A condition. -/
  | condition
  deriving DecidableEq

/-- What kind of node it is. -/
def NodeBody.kind : NodeBody → NodeKind
  | .object => .object
  | .variable _ => .variable
  | .condition _ => .condition

/-- The role of a node. -/
structure Role where
  /-- Is it marked as a notifier? -/
  notifier : Bool
  /-- What kind of node is it? -/
  kind : NodeKind
  deriving DecidableEq

/-- The role of a node. -/
def Node.role (n : Node) : Role := ⟨n.notifier, n.body.kind⟩

/-! ### Changes of roles -/

namespace AddressSpace

variable {sp sp' : AddressSpace β} {id : NodeId}

/-- The role of a node, if it is there. -/
def role? (sp : AddressSpace β) (i : NodeId) : Option Role := (sp.nodes.find? i).map Node.role

/-- The nodes that are there have roles. -/
theorem isSome_role? (sp : AddressSpace β) (i : NodeId) :
    (sp.role? i).isSome = sp.nodes.contains i := by
  rw [role?, Option.isSome_map, Table.contains]

private theorem role?_modifyNode {f : Node → Node}
    (hf : ∀ n, sp.nodes.find? id = some n → (f n).role = n.role) (i : NodeId) :
    (sp.modifyNode id f).role? i = sp.role? i := by
  show ((sp.nodes.modify id f).find? i).map _ = _
  rw [Table.find?_modify, role?]
  split
  · next hi =>
    subst hi
    cases hn : sp.nodes.find? i with
    | none => rfl
    | some n => simp [hf n hn]
  · rfl

private theorem role?_refer (sp : AddressSpace β) (holder type target i : NodeId) :
    (sp.modifyNode holder (Node.refer type target)).role? i = sp.role? i := by
  apply role?_modifyNode
  intro n _
  rfl

private theorem role?_setCondition {c : ConditionState} (hc : sp.condition id = .ok c)
    (d : ConditionState) (i : NodeId) : (sp.setCondition id d).role? i = sp.role? i := by
  apply role?_modifyNode
  intro n hn
  obtain ⟨m, hm, hbody⟩ := condition_eq_ok_iff.1 hc
  rw [hn] at hm
  cases hm
  simp [Node.role, hbody, NodeBody.kind]

private theorem role?_place (sp : AddressSpace β) (id : NodeId) (n : Node) (i : NodeId) :
    (sp.place id n).role? i = if i = id then some n.role else sp.role? i := by
  show ((sp.nodes.insert id n).find? i).map _ = _
  rw [Table.find?_insert]
  split <;> rfl

private theorem role?_setNotifier {notifier : Bool} (h : sp.setNotifier id notifier = .ok sp')
    (i : NodeId) : sp'.role? i =
      if i = id then (sp.role? i).map fun r => { r with notifier := notifier }
      else sp.role? i := by
  obtain ⟨-, rfl⟩ := setNotifier_eq_ok_iff.1 h
  show ((sp.nodes.modify id _).find? i).map _ = _
  rw [Table.find?_modify, role?]
  split
  · next hi =>
    subst hi
    cases sp.nodes.find? i <;> rfl
  · rfl

/-- A deletion takes away the role of its node. -/
theorem role?_deleteNode {refs : Bool} (h : sp.deleteNode id refs = .ok sp') (i : NodeId) :
    sp'.role? i = if i = id then none else sp.role? i := by
  obtain ⟨-, rfl⟩ := deleteNode_eq_ok_iff.1 h
  unfold role?
  by_cases hi : i = id
  · cases refs <;> simp [hi, Table.find?_mapValues]
  · cases refs with
    | false => simp [hi, Table.find?_erase]
    | true =>
      simp only [if_true, Table.find?_mapValues, Table.find?_erase, if_neg hi]
      cases sp.nodes.find? i <;> rfl

private theorem role?_addReference {source target type : NodeId}
    (h : sp.addReference source target type = .ok sp') (i : NodeId) :
    sp'.role? i = sp.role? i := by
  obtain ⟨-, -, -, rfl⟩ := addReference_eq_ok_iff.1 h
  apply role?_modifyNode
  intro n _
  unfold Node.referOnce
  split <;> rfl

private theorem role?_addPart {parent : NodeId} {n : Node} (h : sp.addPart parent n = .ok (id, sp'))
    (i : NodeId) : sp'.role? i = if i = id then some n.role else sp.role? i := by
  obtain ⟨-, -, rfl⟩ := addPart_eq_ok_iff.1 h
  rw [role?_refer, role?_place]
  rfl

private theorem role?_createCondition {now : Instant} {r : ConditionRequest}
    (h : sp.createCondition now r = .ok (id, sp')) (i : NodeId) :
    sp'.role? i = if i = id then some ⟨false, .condition⟩ else sp.role? i := by
  obtain ⟨type, source, sp₁, -, -, -, -, hid, rfl⟩ := createCondition_eq_ok_iff.1 h
  have hnodes : sp₁.nodes = sp.nodes := by
    rcases conditionId_eq_ok_iff.1 hid with ⟨-, -, -, rfl⟩ | ⟨-, ha⟩
    · rfl
    · obtain ⟨-, rfl⟩ := Prod.mk.inj ha
      rfl
  have hexpose (sp : AddressSpace β) : (sp.expose r.source id r.parentReference).role? i =
      sp.role? i := by
    unfold expose
    split
    · rw [role?_refer, role?_refer]
    · rw [role?_refer]
  rw [hexpose, role?_place, role?, hnodes]
  rfl

private theorem role?_openSource (sp : AddressSpace β) (name : QualifiedName) (i : NodeId) :
    (sp.openSource name).role? i =
      if i = sp.allocate.1 then some ⟨true, .object⟩ else sp.role? i := by
  rw [role?, find?_openSource]
  split
  · rfl
  · split
    · next hi =>
      subst hi
      rw [role?, Option.map_map]
      rfl
    · rfl

/-- An object that is to become a source of events is marked even if it does not become one. -/
theorem role?_addEventSource (sp : AddressSpace β) (name : QualifiedName) :
    ((sp.addEventSource name).2 = sp ∧ ∃ e, (sp.addEventSource name).1 = .error e) ∨
    ((sp.addEventSource name).2.nextId = sp.nextId + 1 ∧
      ((∃ e, (sp.addEventSource name).1 = .error e) ∨
        (sp.addEventSource name).1 = .ok sp.allocate.1) ∧
      ∀ i, (sp.addEventSource name).2.role? i =
        if i = sp.allocate.1 then some ⟨true, .object⟩ else sp.role? i) := by
  have houtcome := addEventSource_outcome name sp
  generalize (sp.addEventSource name).1 = r, (sp.addEventSource name).2 = sp' at houtcome ⊢
  cases houtcome with
  | refused _ => exact .inl ⟨rfl, _, rfl⟩
  | abandoned _ _ => exact .inr ⟨rfl, .inl ⟨_, rfl⟩, role?_openSource sp name⟩
  | added _ _ =>
    refine .inr ⟨rfl, .inr rfl, fun i => ?_⟩
    rw [role?_modifyNode, role?_openSource]
    intro n _
    unfold Node.referOnce
    split <;> rfl

/-- In a new address space there are the folder of objects and the server object, which is marked.
-/
theorem role?_initial (i : NodeId) : (initial : AddressSpace β).role? i =
    if i = .serverObject then some ⟨true, .object⟩
    else if i = .objectsFolder then some ⟨false, .object⟩ else none := by
  simp only [role?, initial, Table.ofList, List.foldl_cons, List.foldl_nil, Table.find?_insert,
    Table.find?_empty]
  split
  · rfl
  · split <;> rfl

end AddressSpace

/-- Only a placement, a deletion and a marking change roles. -/
theorem Change.role?_of_apply {ch : Change β} {sp sp' : AddressSpace β} (hp : ¬ ch.Places)
    (hd : ∀ id refs, ch ≠ .deleteNode id refs) (hs : ∀ id notifier, ch ≠ .setNotifier id notifier)
    (h : ch.apply sp = .ok sp') (i : NodeId) : sp'.role? i = sp.role? i := by
  cases ch with
  | addObject | addVariable | createCondition => exact absurd trivial hp
  | deleteNode id refs => exact absurd rfl (hd id refs)
  | setNotifier id notifier => exact absurd rfl (hs id notifier)
  | addReference source target type => exact AddressSpace.role?_addReference h i
  | writeValue id value =>
    obtain ⟨v, hv, -, -, rfl⟩ := AddressSpace.writeValue_eq_ok_iff.1 h
    apply AddressSpace.role?_modifyNode
    intro n hn
    obtain ⟨m, hm, hbody⟩ := AddressSpace.variableAt_eq_ok_iff.1 hv
    rw [hn] at hm
    cases hm
    simp [Node.role, hbody, NodeBody.kind]
  | watch id callback =>
    obtain ⟨-, rfl⟩ := AddressSpace.watch_eq_ok_iff.1 h
    rfl
  | writeField id field value =>
    obtain ⟨_, _, hc, -, rfl⟩ := AddressSpace.writeField_eq_ok_iff.1 h
    exact AddressSpace.role?_setCondition hc _ i
  | commit id kind value now =>
    obtain ⟨_, _, hc, -, rfl⟩ := AddressSpace.commit_eq_ok_iff.1 h
    exact AddressSpace.role?_setCondition hc _ i
  | setTransitionTime id kind time =>
    obtain ⟨_, _, hc, -, rfl⟩ := AddressSpace.setTransitionTime_eq_ok_iff.1 h
    exact AddressSpace.role?_setCondition hc _ i
  | installHook hook =>
    obtain ⟨_, -, -, -, rfl⟩ := AddressSpace.installHook_eq_ok_iff.1 h
    rfl
  | publish id source eventId now =>
    obtain ⟨_, hc, rfl⟩ := AddressSpace.publish_eq_ok_iff.1 h
    exact AddressSpace.role?_setCondition hc _ i

/-! ### What a stretch makes of a role -/

namespace Request

/-- The role of a node where the request places it. -/
def newRole? : Request β → Option Role
  | addObject .. => some ⟨false, .object⟩
  | addVariable .. => some ⟨false, .variable⟩
  | addEventSource _ => some ⟨true, .object⟩
  | call (.createCondition _) => some ⟨false, .condition⟩
  | _ => none

/-- The node that the request deletes. -/
def deletes? : (r : Request β) →
    Interaction (upcalls β) (Server β) (Except StatusCode r.Reply) → Option NodeId
  | call (.deleteNode id _), .done (.ok _) _ => some id
  | _, _ => none

/-- The node that the request marks or not. -/
def marks? : (r : Request β) →
    Interaction (upcalls β) (Server β) (Except StatusCode r.Reply) → Option (NodeId × Bool)
  | setNotifier id notifier, .done (.ok _) _ => some (id, notifier)
  | _, _ => none

end Request

namespace System.Stretch

variable (st : (requests β).Stretch)

/-- The node that the stretch deletes. -/
def deletes? : Option NodeId := Request.deletes? st.request st.outcome

/-- The node that the stretch marks or not. -/
def marks? : Option (NodeId × Bool) := Request.marks? st.request st.outcome

/-- What the stretch makes of the role of a node. -/
def turns (i : NodeId) (role : Option Role) : Option Role :=
  if st.placed? = some i then Request.newRole? st.request
  else if st.deletes? = some i then none
  else match st.marks? with
    | some (id, notifier) =>
      if i = id then role.map fun r => { r with notifier := notifier } else role
    | none => role

end System.Stretch

section

variable {st : (requests β).Stretch}

/-- A node whose identifier is given was placed. -/
theorem placed?_of_given {id : NodeId} (h : st.given? = some id) :
    st.placed? = some id := by
  rw [System.Stretch.placed?, h, Option.some_or]

/-- Where no identifier is given or used up no node is placed. -/
theorem placed?_of_same (hg : st.given? = none)
    (hn : st.after.space.nextId = st.before.space.nextId) : st.placed? = none := by
  simp [System.Stretch.placed?, hg, System.Stretch.assigns, hn]

/-- Where an identifier is used up and not given its node was placed all the same. -/
theorem placed?_of_next (hg : st.given? = none)
    (hn : st.after.space.nextId = st.before.space.nextId + 1) :
    st.placed? = some st.before.space.allocate.1 := by
  simp [System.Stretch.placed?, hg, assigns_of_next hn]

/-- A stretch places a node as it was asked for, or under the next identifier. -/
theorem System.Stretch.Genuine.adds_of_placed (h : st.Genuine) {i : NodeId}
    (hp : st.placed? = some i) : ∃ links requested,
      AddressSpace.Adds links requested i st.before.space st.after.space ∧
        (requested = some i → Request.reservedBy? st = some i) := by
  have hplacement : Request.Placement st.request st.before.space st.given? st.after.space :=
    h.placement
  generalize hg : st.given? = given at hplacement
  cases hplacement with
  | @created id sp' ha =>
    rw [placed?_of_given hg] at hp
    cases hp
    exact ⟨_, _, ha, fun hr => Option.filter_eq_some_iff.2 ⟨hg, decide_eq_true hr⟩⟩
  | @abandoned name links sp' _ _ ha =>
    have hi : st.before.space.allocate.1 = i := by
      rw [System.Stretch.placed?, hg, Option.none_or] at hp
      split at hp
      · exact Option.some.inj hp
      · cases hp
    exact ⟨links, none, hi ▸ ha, fun hr => absurd hr (Option.some_ne_none i).symm⟩
  | none ha =>
    rw [placed?_of_same hg ha.nextId] at hp
    cases hp

/-- A request that creates no node places none. -/
theorem System.Stretch.Genuine.placed?_eq_none (h : st.Genuine)
    (hc : ¬ Request.Creates st.request) : st.placed? = none := by
  have hp : Request.Placement st.request st.before.space st.given? st.after.space := h.placement
  have hgiven : st.given? = none := by
    obtain ⟨serial, r, s, es, before, y⟩ := st
    cases r with
    | addObject | addVariable | addEventSource => exact absurd trivial hc
    | call c =>
      cases c with
      | createCondition r => exact absurd trivial hc
      | _ => rfl
    | _ => rfl
  rw [hgiven] at hp
  cases hp with
  | abandoned hr _ _ =>
    rw [hr] at hc
    exact absurd trivial hc
  | none ha => exact placed?_of_same hgiven ha.nextId

-- One node has got a role, and the others have theirs.
private def TakesRole (role : Option Role) (id : NodeId) (sp sp' : AddressSpace β) : Prop :=
  ∀ i, sp'.role? i = if i = id then role else sp.role? i

-- The stretch places no node and changes nothing, or it places one with its role.
private def PlacesRole (st : (requests β).Stretch) : Prop :=
  (st.placed? = none ∧ st.after.space = st.before.space) ∨ ∃ id, st.placed? = some id ∧
    TakesRole (Request.newRole? st.request) id st.before.space st.after.space

end

section

variable {s : Server β} {es : List (Exchange (upcalls β) (Server β))}
  {y : Interaction (upcalls β) (Server β) (Except StatusCode NodeId)}

/-- An immediate operation gives a node, or changes nothing. -/
theorem gives?_of_immediate {succeeds : NodeId → AddressSpace β → Prop}
    {P : NodeId → AddressSpace β → AddressSpace β → Prop}
    {x : Interaction (upcalls β) (Server β) (Except StatusCode NodeId)}
    (hx : Server.Immediate succeeds s x) (hf : ∀ {id sp'}, succeeds id sp' → P id s.space sp')
    (h : After x es y) :
    (y.gives? = none ∧ y.state.space = (found s es).space) ∨
      ∃ id, y.gives? = some id ∧ P id (found s es).space y.state.space := by
  obtain ⟨rfl, hy⟩ := hx.of_after h
  cases hy with
  | failed e => exact .inl ⟨rfl, rfl⟩
  | succeeded hadd => exact .inr ⟨_, rfl, hf hadd⟩

end

private theorem placesRole_of_creates {st : (requests β).Stretch} (h : st.Genuine)
    (hc : Request.Creates st.request) : PlacesRole st := by
  have hgives (hg : (st.given? = none ∧ st.after.space = st.before.space) ∨
      ∃ id, st.given? = some id ∧
        TakesRole (Request.newRole? st.request) id st.before.space st.after.space) :
      PlacesRole st := by
    rcases hg with ⟨hg, hsame⟩ | ⟨id, hg, hrole⟩
    · exact .inl ⟨placed?_of_same hg (congrArg _ hsame), hsame⟩
    · exact .inr ⟨id, placed?_of_given hg, hrole⟩
  obtain ⟨serial, r, s, es, before, y⟩ := st
  have hbefore : before = found s es := h.before
  have hafter : After ((Request.perform r).run s) es y := h.outcome
  subst hbefore
  cases r with
  | addObject parent name =>
    exact hgives (gives?_of_immediate (P := TakesRole _)
      (Service.immediate_act (SpaceAction.checksFirst_addObject parent name) s)
      AddressSpace.role?_addPart hafter)
  | addVariable parent name value level =>
    exact hgives (gives?_of_immediate (P := TakesRole _)
      (Service.immediate_act (SpaceAction.checksFirst_addVariable parent name value level) s)
      AddressSpace.role?_addPart hafter)
  | addEventSource name =>
    obtain ⟨rfl, rfl⟩ := Interaction.after_done_iff.1 hafter
    let st : (requests β).Stretch := .first (requests β) serial (.addEventSource name) s
    let t := s.withSpace (s.space.addEventSource name).2
    have hgiven : st.given? =
        Interaction.gives? (S := upcalls β) (.done (s.space.addEventSource name).1 t) := rfl
    rcases s.space.role?_addEventSource name with ⟨hsame, e, he⟩ | ⟨hnext, hgives, hrole⟩
    · have hnone : st.given? = none := by
        rw [hgiven, he]
        rfl
      exact .inl ⟨placed?_of_same hnone (congrArg _ hsame), hsame⟩
    · have hplaced : st.placed? = some s.space.allocate.1 := by
        rcases hgives with ⟨e, he⟩ | hok
        · refine placed?_of_next ?_ hnext
          rw [hgiven, he]
          rfl
        · refine placed?_of_given ?_
          rw [hgiven, hok]
          rfl
      exact .inr ⟨_, hplaced, hrole⟩
  | call c =>
    cases c with
    | createCondition r =>
      exact hgives (gives?_of_immediate (P := TakesRole _) (Service.immediate_createCondition r s)
        AddressSpace.role?_createCondition hafter)
    | _ => exact hc.elim
  | _ => exact hc.elim

section

variable {s : Server β} {es : List (Exchange (upcalls β) (Server β))} {id : NodeId}
  {y : Interaction (upcalls β) (Server β) (Except StatusCode Unit)}

private theorem role?_of_setNotifier {notifier : Bool}
    (h : After ((Request.setNotifier id notifier : Request β).perform.run s) es y) (i : NodeId) :
    y.state.space.role? i = match Request.marks? (.setNotifier id notifier) y with
      | some (id, notifier) => if i = id then
          ((found s es).space.role? i).map fun r => { r with notifier := notifier }
        else (found s es).space.role? i
      | none => (found s es).space.role? i := by
  obtain ⟨rfl, hy⟩ :=
    (Service.immediate_act_unit (SpaceAction.checksFirst_setNotifier id notifier) s).of_after h
  cases hy with
  | failed e => rfl
  | succeeded hset => exact AddressSpace.role?_setNotifier hset i

/-- A deletion succeeds, or fails and changes nothing. -/
theorem deletes?_or_same {refs : Bool}
    (h : After ((Request.call (.deleteNode id refs) : Request β).perform.run s) es y) :
    (Request.deletes? (.call (.deleteNode id refs)) y = some id ∧
      (found s es).space.deleteNode id refs = .ok y.state.space) ∨
    (Request.deletes? (.call (.deleteNode id refs)) y = none ∧
      y.state.space = (found s es).space) := by
  obtain ⟨rfl, hy⟩ := (Service.immediate_deleteNode id refs s).of_after h
  cases hy with
  | failed e => exact .inr ⟨rfl, rfl⟩
  | succeeded hdelete => exact .inl ⟨rfl, hdelete⟩

private theorem role?_of_deleteNode {refs : Bool}
    (h : After ((Request.call (.deleteNode id refs) : Request β).perform.run s) es y)
    (i : NodeId) : y.state.space.role? i =
      if Request.deletes? (.call (.deleteNode id refs)) y = some i then none
      else (found s es).space.role? i := by
  rcases deletes?_or_same h with ⟨hdeletes, hdelete⟩ | ⟨hdeletes, hspace⟩
  · rw [AddressSpace.role?_deleteNode hdelete, hdeletes]
    simp only [Option.some_inj, eq_comm]
  · rw [hdeletes, hspace, if_neg (fun he => nomatch he)]

end

section

variable {st : (requests β).Stretch}

private theorem role?_of_quiet (h : st.Genuine) (hc : ¬ Request.Creates st.request)
    (hd : ∀ id refs, st.request ≠ Request.call (.deleteNode id refs))
    (hs : ∀ id notifier, st.request ≠ Request.setNotifier id notifier) (i : NodeId) :
    st.after.space.role? i = st.before.space.role? i := by
  refine h.changed.same (·.role? i) fun ch sp sp' hm ha => ?_
  refine ch.role?_of_apply (Request.not_places_of_may hc hm) ?_ ?_ ha i
  · rintro id refs rfl
    exact hd id refs (Request.eq_deleteNode_of_may hm)
  · rintro id notifier rfl
    generalize st.request = r at hm hs hc
    cases Request.makes_of_may hm with
    | openEventSource => exact hc trivial
    | setNotifier => exact hs _ _ rfl

private theorem role?_of_not_creates (h : st.Genuine) (hc : ¬ Request.Creates st.request)
    (i : NodeId) : st.after.space.role? i = st.turns i (st.before.space.role? i) := by
  have hnone := h.placed?_eq_none hc
  have hquiet := role?_of_quiet h hc
  rw [System.Stretch.turns, hnone, if_neg (fun he => nomatch he)]
  obtain ⟨serial, r, s, es, before, y⟩ := st
  have hbefore : before = found s es := h.before
  have hafter : After ((Request.perform r).run s) es y := h.outcome
  subst hbefore
  cases r with
  | setNotifier id notifier => exact role?_of_setNotifier hafter i
  | call c =>
    cases c with
    | deleteNode id refs => exact role?_of_deleteNode hafter i
    | _ => exact hquiet (fun _ _ he => nomatch he) (fun _ _ he => nomatch he) i
  | _ => exact hquiet (fun _ _ he => nomatch he) (fun _ _ he => nomatch he) i

/-- A stretch makes of the role of each node what its request says. -/
theorem System.Stretch.Genuine.role? (h : st.Genuine) (i : NodeId) :
    st.after.space.role? i = st.turns i (st.before.space.role? i) := by
  by_cases hc : Request.Creates st.request
  · have hdeletes : st.deletes? = none ∧ st.marks? = none := by
      obtain ⟨serial, r, s, es, before, y⟩ := st
      cases r with
      | addObject | addVariable | addEventSource => exact ⟨rfl, rfl⟩
      | call c =>
        cases c with
        | createCondition r => exact ⟨rfl, rfl⟩
        | _ => exact hc.elim
      | _ => exact hc.elim
    rcases placesRole_of_creates h hc with ⟨hplaced, hsame⟩ | ⟨id, hplaced, hrole⟩
    · simp [System.Stretch.turns, hplaced, hdeletes, hsame]
    · rw [hrole, System.Stretch.turns, hplaced, hdeletes.1, hdeletes.2]
      by_cases hi : i = id
      · simp [hi]
      · simp [hi, Ne.symm hi]
  · exact role?_of_not_creates h hc i

end

end AlarmServer
