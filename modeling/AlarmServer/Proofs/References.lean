import AlarmServer.Proofs.Integrity
import AlarmServer.Proofs.Roles
import Mathlib.Data.List.Nodup

/-!
# Lists of references

Where a reference is added by itself, it is added only if it is not there already. The creations add
the references to their node without a look at the list. As the node is new that is the same, unless
a creation adds one reference twice, or a reference to the identifier was left behind. The first
happens where a condition is created with a parent reference that is the one which every condition
gets; the second where a node was deleted without the references to it, and its identifier is given
again. So a list may come to name the same reference twice, and nothing but the deletion of one of
the two nodes puts that right.
-/

namespace AlarmServer

open Interaction (After found)

variable {β : Type}

/-! ### What operations make of a list -/

/-- The references to a node that some links give to another one, in order. -/
def referencesTo (links : List Link) (id i : NodeId) : List Reference :=
  (links.filter fun l => l.holder = i).map fun l => ⟨l.type, id⟩

private theorem mem_referencesTo {links : List Link} {id i : NodeId} {r : Reference} :
    r ∈ referencesTo links id i ↔ r.target = id ∧ ⟨i, r.type⟩ ∈ links := by
  simp only [referencesTo, List.mem_map, List.mem_filter, decide_eq_true_eq]
  constructor
  · rintro ⟨l, ⟨hl, rfl⟩, rfl⟩
    exact ⟨rfl, hl⟩
  · rintro ⟨rfl, hl⟩
    exact ⟨_, ⟨hl, rfl⟩, rfl⟩

private theorem referencesTo_concat (links : List Link) (holder type id i : NodeId) :
    referencesTo (links ++ [⟨holder, type⟩]) id i =
      referencesTo links id i ++ if i = holder then [⟨type, id⟩] else [] := by
  by_cases hi : i = holder
  · simp [referencesTo, hi]
  · simp [referencesTo, hi, Ne.symm hi]

/-- Links that differ give references that differ. -/
theorem nodup_referencesTo {links : List Link} (h : links.Nodup) (id i : NodeId) :
    (referencesTo links id i).Nodup := by
  refine List.Nodup.map_on ?_ (h.filter _)
  rintro ⟨holder, type⟩ hl ⟨holder', type'⟩ hl' he
  simp only [List.mem_filter, decide_eq_true_eq] at hl hl'
  obtain ⟨htype, -⟩ := Reference.mk.inj he
  exact congrArg₂ Link.mk (hl.2.trans hl'.2.symm) htype

namespace AddressSpace

variable {sp sp' : AddressSpace β} {links : List Link} {id i : NodeId}

private theorem references_eq (sp : AddressSpace β) (i : NodeId) :
    sp.references i = ((sp.nodes.find? i).map Node.references).getD [] := by
  unfold references
  cases sp.nodes.find? i <;> rfl

/-- A change of a node that leaves its references alone. -/
theorem references_modifyNode {f : Node → Node}
    (hf : ∀ n, sp.nodes.find? id = some n → (f n).references = n.references) (i : NodeId) :
    (sp.modifyNode id f).references i = sp.references i := by
  rw [references_eq, references_eq, modifyNode, Table.find?_modify]
  by_cases hi : i = id
  · rw [if_pos hi, hi]
    cases hn : sp.nodes.find? id with
    | none => rfl
    | some n => exact hf n hn
  · rw [if_neg hi]

private theorem references_setCondition (sp : AddressSpace β) (id : NodeId) (c : ConditionState)
    (i : NodeId) : (sp.setCondition id c).references i = sp.references i :=
  references_modifyNode (f := fun n => { n with body := .condition c }) (fun _ _ => rfl) i

/-- A reference at the end. -/
theorem references_refer {holder type target : NodeId} (h : sp.nodes.contains holder = true)
    (i : NodeId) : (sp.modifyNode holder (Node.refer type target)).references i =
      sp.references i ++ if i = holder then [⟨type, target⟩] else [] := by
  rw [references_eq, references_eq, modifyNode, Table.find?_modify]
  by_cases hi : i = holder
  · obtain ⟨n, hn⟩ := Option.isSome_iff_exists.1 h
    simp [hi, hn, Node.refer]
  · simp [hi]

/-- A reference at the end, unless it is there already. -/
theorem references_referOnce {holder type target : NodeId} (h : sp.nodes.contains holder = true)
    (i : NodeId) : (sp.modifyNode holder (Node.referOnce type target)).references i =
      if i = holder ∧ ⟨type, target⟩ ∉ sp.references i then sp.references i ++ [⟨type, target⟩]
      else sp.references i := by
  rw [references_eq, references_eq, modifyNode, Table.find?_modify]
  by_cases hi : i = holder
  · obtain ⟨n, hn⟩ := Option.isSome_iff_exists.1 h
    simp only [hi, hn, if_true, Option.map_some, Option.getD_some, true_and, Node.referOnce]
    by_cases hmem : (⟨type, target⟩ : Reference) ∈ n.references
    · simp [hmem]
    · simp [hmem, Node.refer]
  · simp [hi]

private theorem references_addReference {source target type : NodeId}
    (h : sp.addReference source target type = .ok sp') (i : NodeId) : sp'.references i =
      if i = source ∧ ⟨type, target⟩ ∉ sp.references i then sp.references i ++ [⟨type, target⟩]
      else sp.references i := by
  obtain ⟨-, -, hsource, rfl⟩ := addReference_eq_ok_iff.1 h
  exact references_referOnce hsource i

private theorem references_deleteNode {refs : Bool} (h : sp.deleteNode id refs = .ok sp')
    (i : NodeId) : sp'.references i =
      if i = id then [] else (sp.references i).filter fun r => ¬ (refs = true ∧ r.target = id) := by
  obtain ⟨-, rfl⟩ := deleteNode_eq_ok_iff.1 h
  rw [references_eq, references_eq]
  by_cases hi : i = id
  · cases refs <;> simp [hi, Table.find?_mapValues]
  · cases refs with
    | false =>
      simp only [Bool.false_eq_true, if_false, Table.find?_erase, if_neg hi, false_and,
        not_false_eq_true, decide_true, List.filter_true]
    | true =>
      simp only [if_true, Table.find?_mapValues, Table.find?_erase, if_neg hi]
      cases sp.nodes.find? i <;> simp [Node.forget]

/-- A node was placed, without references, and links to it were added to the lists of their holders,
whether or not they are there. -/
def Appends (links : List Link) (id : NodeId) (sp sp' : AddressSpace β) : Prop :=
  ∀ i, sp'.references i = (if i = id then [] else sp.references i) ++ referencesTo links id i

private theorem appends_place {n : Node} (hn : n.references = []) (sp : AddressSpace β)
    (id : NodeId) : Appends [] id sp (sp.place id n) := by
  intro i
  rw [references_eq, references_eq, place, Table.find?_insert]
  by_cases hi : i = id <;> simp [hi, hn, referencesTo]

private theorem Appends.refer (h : Appends links id sp sp') {holder : NodeId}
    (hc : sp'.nodes.contains holder = true) (type : NodeId) :
    Appends (links ++ [⟨holder, type⟩]) id sp (sp'.modifyNode holder (Node.refer type id)) := by
  intro i
  rw [references_refer hc, h i, referencesTo_concat, List.append_assoc]

private theorem contains_place (sp : AddressSpace β) (n : Node) (h : sp.nodes.contains i = true) :
    (sp.place id n).nodes.contains i = true := by
  rw [place, Table.contains_insert, h, Bool.or_true]

private theorem appends_addPart {parent : NodeId} {n : Node} (hn : n.references = [])
    (h : sp.addPart parent n = .ok (id, sp')) :
    Appends [⟨parent, .hasComponent⟩] id sp sp' := by
  obtain ⟨hparent, -, rfl⟩ := addPart_eq_ok_iff.1 h
  exact (appends_place hn sp.allocate.2 id).refer (contains_place _ n hparent) .hasComponent

/-- Every condition is referred to by its source, and once more if that is asked for. -/
theorem appends_createCondition {now : Instant} {r : ConditionRequest}
    (h : sp.createCondition now r = .ok (id, sp')) :
    Appends (⟨r.source, .hasCondition⟩ :: r.parentReference.toList.map (⟨r.source, ·⟩)) id sp
      sp' := by
  obtain ⟨type, source, sp₁, -, hsource, -, -, hid, rfl⟩ := createCondition_eq_ok_iff.1 h
  have hnodes : sp₁.nodes = sp.nodes := by
    rcases conditionId_eq_ok_iff.1 hid with ⟨-, -, -, rfl⟩ | ⟨-, ha⟩
    · rfl
    · obtain ⟨-, rfl⟩ := Prod.mk.inj ha
      rfl
  let n : Node := .create r.browseName
    (.condition (.create type r.source source.browseName.name r.browseName.name now))
  have hplace : Appends [] id sp (sp₁.place id n) := by
    intro i
    rw [appends_place rfl sp₁, references_eq sp₁, hnodes, ← references_eq]
  have hc : (sp₁.place id n).nodes.contains r.source = true := by
    refine contains_place sp₁ n ?_
    rw [hnodes, Table.contains, hsource]
    rfl
  have hfirst := hplace.refer hc .hasCondition
  unfold expose
  cases r.parentReference with
  | none => exact hfirst
  | some t => exact hfirst.refer ((Table.contains_modify _ _ _ _).trans hc) t

private theorem appends_openSource (name : QualifiedName)
    (h : sp.nodes.contains .objectsFolder = true) :
    Appends [⟨.objectsFolder, .hasComponent⟩] sp.allocate.1 sp (sp.openSource name) := by
  intro i
  rw [openSource, references_modifyNode (f := fun n => { n with notifier := true })
    fun _ _ => rfl]
  refine Appends.refer (appends_place rfl sp.allocate.2 sp.allocate.1) ?_ .hasComponent i
  exact contains_place sp.allocate.2 _ h

end AddressSpace

/-- Only a placement, a deletion and an addition of a reference change lists. -/
theorem Change.references_of_apply {ch : Change β} {sp sp' : AddressSpace β} (hp : ¬ ch.Places)
    (hd : ∀ id refs, ch ≠ .deleteNode id refs)
    (hr : ∀ source target type, ch ≠ .addReference source target type)
    (h : ch.apply sp = .ok sp') (i : NodeId) : sp'.references i = sp.references i := by
  cases ch with
  | addObject | addVariable | createCondition => exact absurd trivial hp
  | deleteNode id refs => exact absurd rfl (hd id refs)
  | addReference source target type => exact absurd rfl (hr source target type)
  | setNotifier id notifier =>
    obtain ⟨-, rfl⟩ := AddressSpace.setNotifier_eq_ok_iff.1 h
    exact AddressSpace.references_modifyNode
      (f := fun n => { n with notifier := notifier }) (fun _ _ => rfl) i
  | writeValue id value =>
    obtain ⟨v, -, -, -, rfl⟩ := AddressSpace.writeValue_eq_ok_iff.1 h
    exact AddressSpace.references_modifyNode
      (f := fun n => { n with body := .variable { v with value := value } }) (fun _ _ => rfl) i
  | watch id callback =>
    obtain ⟨-, rfl⟩ := AddressSpace.watch_eq_ok_iff.1 h
    rfl
  | writeField id field value =>
    obtain ⟨_, _, -, -, rfl⟩ := AddressSpace.writeField_eq_ok_iff.1 h
    exact sp.references_setCondition id _ i
  | commit id kind value now =>
    obtain ⟨_, _, -, -, rfl⟩ := AddressSpace.commit_eq_ok_iff.1 h
    exact sp.references_setCondition id _ i
  | setTransitionTime id kind time =>
    obtain ⟨_, _, -, -, rfl⟩ := AddressSpace.setTransitionTime_eq_ok_iff.1 h
    exact sp.references_setCondition id _ i
  | installHook hook =>
    obtain ⟨_, -, -, -, rfl⟩ := AddressSpace.installHook_eq_ok_iff.1 h
    rfl
  | publish id source eventId now =>
    obtain ⟨_, -, rfl⟩ := AddressSpace.publish_eq_ok_iff.1 h
    exact sp.references_setCondition id _ i

/-! ### What a stretch makes of a list -/

namespace Request

/-- The references to its node that a creation adds, whether or not they are there. -/
def appends : Request β → List Link
  | addObject parent _ => [⟨parent, .hasComponent⟩]
  | addVariable parent .. => [⟨parent, .hasComponent⟩]
  | addEventSource _ => [⟨.objectsFolder, .hasComponent⟩]
  | call (.createCondition r) =>
    ⟨r.source, .hasCondition⟩ :: r.parentReference.toList.map (⟨r.source, ·⟩)
  | _ => []

/-- The reference that the request adds unless it is there, and the node that gets it. -/
def refers? : (r : Request β) → Interaction (upcalls β) (Server β) (Except StatusCode r.Reply) →
    Option (NodeId × Reference)
  | addEventSource _, .done (.ok id) _ => some (.serverObject, ⟨.hasNotifier, id⟩)
  | call (.addReference source target type), .done (.ok _) _ => some (source, ⟨type, target⟩)
  | _, _ => none

/-- The node that the request deletes together with the references to it. -/
def forgets? : (r : Request β) → Interaction (upcalls β) (Server β) (Except StatusCode r.Reply) →
    Option NodeId
  | call (.deleteNode id true), y => deletes? (call (.deleteNode id true)) y
  | _, _ => none

/-- Does the request ask for a parent reference that every condition gets? -/
def RepeatsLink : Request β → Prop
  | call (.createCondition r) => r.parentReference = some .hasCondition
  | _ => False

/-- No other creation adds the same reference twice. -/
theorem nodup_appends {r : Request β} (h : ¬ r.RepeatsLink) : r.appends.Nodup := by
  cases r with
  | call c =>
    cases c with
    | createCondition r =>
      cases hp : r.parentReference with
      | none => simp [appends, hp]
      | some type =>
        have htype : NodeId.hasCondition ≠ type := by
          rintro rfl
          exact h hp
        simp [appends, hp, htype]
    | _ => exact List.nodup_nil
  | addObject | addVariable | addEventSource => exact List.nodup_singleton _
  | _ => exact List.nodup_nil

private theorem appends_of_repeatsLink {r : Request β} (h : r.RepeatsLink) :
    ∃ source, r.appends = [⟨source, .hasCondition⟩, ⟨source, .hasCondition⟩] := by
  cases r with
  | call c =>
    cases c with
    | createCondition r =>
      have hp : r.parentReference = some .hasCondition := h
      exact ⟨r.source, by simp [appends, hp]⟩
    | _ => exact h.elim
  | _ => exact h.elim

end Request

namespace System.Stretch

variable (st : (requests β).Stretch) (i : NodeId)

/-- The reference that the stretch adds unless it is there, and the node that gets it. -/
def refers? : Option (NodeId × Reference) := Request.refers? st.request st.outcome

/-- The node that the stretch deletes together with the references to it. -/
def forgets? : Option NodeId := Request.forgets? st.request st.outcome

/-- What the stretch leaves of the references of a node. -/
def spared (rs : List Reference) : List Reference :=
  if st.placed? = some i ∨ st.deletes? = some i then []
  else rs.filter fun r => st.forgets? ≠ some r.target

/-- The references that the stretch adds to those of a node, whether or not they are there. -/
def appended : List Reference :=
  match st.placed? with
  | some id => referencesTo (Request.appends st.request) id i
  | none => []

/-- What the stretch makes of the references of a node. -/
def relists (rs : List Reference) : List Reference :=
  let new := st.spared i rs ++ st.appended i
  match st.refers? with
  | some (source, r) => if i = source ∧ r ∉ new then new ++ [r] else new
  | none => new

end System.Stretch

section

variable {st : (requests β).Stretch}

private theorem relists_of_quiet (hp : st.placed? = none) (hd : st.deletes? = none)
    (hf : st.forgets? = none) (hr : st.refers? = none) (i : NodeId) (rs : List Reference) :
    st.relists i rs = rs := by
  simp [System.Stretch.relists, System.Stretch.spared, System.Stretch.appended, hp, hd, hf, hr]

private theorem relists_of_placed {id : NodeId} (hp : st.placed? = some id)
    (hd : st.deletes? = none) (hf : st.forgets? = none) (hr : st.refers? = none) (i : NodeId)
    (rs : List Reference) : st.relists i rs =
      (if i = id then [] else rs) ++ referencesTo (Request.appends st.request) id i := by
  simp [System.Stretch.relists, System.Stretch.spared, System.Stretch.appended, hp, hd, hf, hr,
    eq_comm]

private theorem references_of_quiet (h : st.Genuine) (hc : ¬ Request.Creates st.request)
    (hd : ∀ id refs, st.request ≠ Request.call (.deleteNode id refs))
    (hr : ∀ source target type, st.request ≠ Request.call (.addReference source target type))
    (i : NodeId) : st.after.space.references i = st.before.space.references i := by
  refine h.changed.same (·.references i) fun ch sp sp' hm ha => ?_
  refine ch.references_of_apply (Request.not_places_of_may hc hm) ?_ ?_ ha i
  · rintro id refs rfl
    exact hd id refs (Request.eq_deleteNode_of_may hm)
  · rintro source target type rfl
    generalize st.request = r at hm hr hc
    cases Request.makes_of_may hm with
    | linkEventSource => exact hc trivial
    | addReference => exact hr _ _ _ rfl

private theorem references_of_gives (st : (requests β).Stretch) (hd : st.deletes? = none)
    (hf : st.forgets? = none) (hr : st.refers? = none)
    (hg : (st.given? = none ∧ st.after.space = st.before.space) ∨ ∃ id, st.given? = some id ∧
      AddressSpace.Appends (Request.appends st.request) id st.before.space st.after.space)
    (i : NodeId) : st.after.space.references i = st.relists i (st.before.space.references i) := by
  rcases hg with ⟨hg, hsame⟩ | ⟨id, hg, happends⟩
  · rw [relists_of_quiet (placed?_of_same hg (congrArg _ hsame)) hd hf hr, hsame]
  · rw [relists_of_placed (placed?_of_given hg) hd hf hr, happends]

-- An addition of a source of events appends a link to the folder. If there is a server object, the
-- source is a notifier to it.
private theorem references_of_sourceOutcome {name : QualifiedName}
    {result : Except StatusCode NodeId}
    (h : AddressSpace.SourceOutcome name st.before.space result st.after.space)
    (hlinks : Request.appends st.request = [⟨.objectsFolder, .hasComponent⟩])
    (hg : st.given? = result.toOption) (hd : st.deletes? = none) (hf : st.forgets? = none)
    (hr : st.refers? = result.toOption.map fun id => (.serverObject, ⟨.hasNotifier, id⟩))
    (i : NodeId) : st.after.space.references i = st.relists i (st.before.space.references i) := by
  generalize hafter : st.after.space = sp' at h ⊢
  cases h with
  | refused _ =>
    rw [relists_of_quiet (placed?_of_same hg (congrArg _ hafter)) hd hf hr]
  | abandoned hfolder _ =>
    have hnext : st.after.space.nextId = st.before.space.nextId + 1 := by
      rw [hafter]
      rfl
    rw [relists_of_placed (placed?_of_next hg hnext) hd hf hr, hlinks]
    exact AddressSpace.appends_openSource name hfolder i
  | added hfolder hserver =>
    have hserver' : (st.before.space.openSource name).nodes.contains .serverObject = true := by
      rw [AddressSpace.contains_openSource, hserver, Bool.or_true]
    have happends := AddressSpace.appends_openSource name hfolder i
    rw [AddressSpace.references_referOnce hserver', happends]
    simp only [System.Stretch.relists, System.Stretch.spared, System.Stretch.appended,
      placed?_of_given hg, hd, hf, hr, hlinks]
    simp [Except.toOption, eq_comm]

-- A deletion empties the list of its node, and takes the references to it off the others if that
-- was asked for.
private theorem references_of_deletion {refs : Bool} {id : NodeId} (hp : st.placed? = none)
    (hf : st.forgets? = if refs then st.deletes? else none) (hr : st.refers? = none)
    (h : (st.deletes? = some id ∧ st.before.space.deleteNode id refs = .ok st.after.space) ∨
      (st.deletes? = none ∧ st.after.space = st.before.space)) (i : NodeId) :
    st.after.space.references i = st.relists i (st.before.space.references i) := by
  rcases h with ⟨hd, hdelete⟩ | ⟨hd, hsame⟩
  · rw [AddressSpace.references_deleteNode hdelete]
    cases refs <;> simp [System.Stretch.relists, System.Stretch.spared, System.Stretch.appended, hp,
      hd, hf, hr, eq_comm]
  · have hf : st.forgets? = none := by
      rw [hf, hd]
      split <;> rfl
    rw [relists_of_quiet hp hd hf hr, hsame]

private theorem refers?_or_same {source target type : NodeId} {s : Server β} {es : List _}
    {y : Interaction (upcalls β) (Server β) (Except StatusCode Unit)}
    (h : After ((Request.call (.addReference source target type) : Request β).perform.run s) es y) :
    (Request.refers? (.call (.addReference source target type)) y =
        some (source, ⟨type, target⟩) ∧
      (found s es).space.addReference source target type = .ok y.state.space) ∨
    (Request.refers? (.call (.addReference source target type)) y = none ∧
      y.state.space = (found s es).space) := by
  obtain ⟨rfl, hy⟩ := (Service.immediate_act_unit
    (SpaceAction.checksFirst_addReference source target type) s).of_after h
  cases hy with
  | failed e => exact .inr ⟨rfl, rfl⟩
  | succeeded hadd => exact .inl ⟨rfl, hadd⟩

private theorem references_of_addition {source target type : NodeId} (hp : st.placed? = none)
    (hd : st.deletes? = none) (hf : st.forgets? = none)
    (h : (st.refers? = some (source, ⟨type, target⟩) ∧
        st.before.space.addReference source target type = .ok st.after.space) ∨
      (st.refers? = none ∧ st.after.space = st.before.space)) (i : NodeId) :
    st.after.space.references i = st.relists i (st.before.space.references i) := by
  rcases h with ⟨hr, hadd⟩ | ⟨hr, hsame⟩
  · rw [AddressSpace.references_addReference hadd]
    simp [System.Stretch.relists, System.Stretch.spared, System.Stretch.appended, hp, hd, hf, hr]
  · rw [relists_of_quiet hp hd hf hr, hsame]

/-- A stretch makes of the references of each node what its request says. -/
theorem System.Stretch.Genuine.references (h : st.Genuine) (i : NodeId) :
    st.after.space.references i = st.relists i (st.before.space.references i) := by
  have hquiet := references_of_quiet h
  have hnone := h.placed?_eq_none
  have hgives := references_of_gives st
  obtain ⟨serial, r, s, es, before, y⟩ := st
  have hbefore : before = found s es := h.before
  have hafter : After ((Request.perform r).run s) es y := h.outcome
  subst hbefore
  cases r with
  | addObject parent name =>
    exact hgives rfl rfl rfl (gives?_of_immediate (P := AddressSpace.Appends _)
      (Service.immediate_act (SpaceAction.checksFirst_addObject parent name) s)
      (AddressSpace.appends_addPart rfl) hafter) i
  | addVariable parent name value level =>
    exact hgives rfl rfl rfl (gives?_of_immediate (P := AddressSpace.Appends _)
      (Service.immediate_act (SpaceAction.checksFirst_addVariable parent name value level) s)
      (AddressSpace.appends_addPart rfl) hafter) i
  | addEventSource name =>
    obtain ⟨rfl, rfl⟩ := Interaction.after_done_iff.1 hafter
    refine references_of_sourceOutcome (s.space.addEventSource_outcome name) rfl ?_ rfl rfl ?_ i
    · show Interaction.gives? (S := upcalls β) (.done (s.space.addEventSource name).1 _) = _
      cases (s.space.addEventSource name).1 <;> rfl
    · show Request.refers? (.addEventSource name) (.done (s.space.addEventSource name).1 _) = _
      cases (s.space.addEventSource name).1 <;> rfl
  | call c =>
    cases c with
    | createCondition r =>
      exact hgives rfl rfl rfl (gives?_of_immediate (P := AddressSpace.Appends _)
        (Service.immediate_createCondition r s) AddressSpace.appends_createCondition hafter) i
    | deleteNode id refs =>
      have hdeletion := deletes?_or_same hafter
      cases refs <;> exact references_of_deletion (hnone not_false) rfl rfl hdeletion i
    | addReference source target type =>
      exact references_of_addition (hnone not_false) rfl rfl (refers?_or_same hafter) i
    | _ =>
      refine Eq.trans ?_ (relists_of_quiet (hnone not_false) rfl rfl rfl i _).symm
      exact hquiet not_false (fun _ _ he => nomatch he) (fun _ _ _ he => nomatch he) i
  | _ =>
    refine Eq.trans ?_ (relists_of_quiet (hnone not_false) rfl rfl rfl i _).symm
    exact hquiet not_false (fun _ _ he => nomatch he) (fun _ _ _ he => nomatch he) i

end

/-! ### References that are listed twice -/

namespace System.Stretch

variable (st : (requests β).Stretch) (i : NodeId) (r : Reference)

/-- Does the stretch add a reference to a list that comes to name it twice by that? -/
def doubles : Bool :=
  decide (2 ≤ (st.appended i).count r ∨
    (r ∈ st.appended i ∧ r ∈ st.spared i (st.before.space.references i)))

/-- What the stretch says about whether a list names a reference twice: it does where it is doubled,
and does not where the list is emptied or the reference taken off. -/
def doubles? : Option Bool :=
  if st.doubles i r then some true
  else if st.placed? = some i ∨ st.deletes? = some i ∨ st.forgets? = some r.target then some false
  else none

end System.Stretch

section

variable {st : (requests β).Stretch} {i : NodeId} {r : Reference}

private theorem two_le_count_relists (st : (requests β).Stretch) (i : NodeId) (r : Reference)
    (rs : List Reference) :
    2 ≤ (st.relists i rs).count r ↔ 2 ≤ (st.spared i rs).count r + (st.appended i).count r := by
  unfold System.Stretch.relists
  rw [← List.count_append]
  generalize st.spared i rs ++ st.appended i = new
  cases st.refers? with
  | none => rfl
  | some p =>
    obtain ⟨source, r'⟩ := p
    show 2 ≤ (if i = source ∧ r' ∉ new then new ++ [r'] else new).count r ↔ _
    split
    · next h =>
      rw [List.count_append, List.count_singleton]
      by_cases hr : r' = r
      · subst hr
        simp [List.count_eq_zero.2 h.2]
      · simp [hr]
    · rfl

private theorem count_spared (st : (requests β).Stretch) (i : NodeId) (r : Reference)
    (rs : List Reference) : (st.spared i rs).count r =
    if st.placed? = some i ∨ st.deletes? = some i ∨ st.forgets? = some r.target then 0
    else rs.count r := by
  unfold System.Stretch.spared
  by_cases hi : st.placed? = some i ∨ st.deletes? = some i
  · rw [if_pos hi, if_pos (hi.imp_right .inl), List.count_nil]
  · rw [if_neg hi]
    by_cases hr : st.forgets? = some r.target
    · rw [if_pos (.inr (.inr hr)), List.count_eq_zero]
      simp [hr]
    · have hnone : ¬ (st.placed? = some i ∨ st.deletes? = some i ∨
          st.forgets? = some r.target) := by
        rintro (h | h | h)
        · exact hi (.inl h)
        · exact hi (.inr h)
        · exact hr h
      rw [if_neg hnone, List.count_filter (by simpa using hr)]

private theorem twice_of_genuine (h : st.Genuine) (i : NodeId) (r : Reference) :
    decide (2 ≤ (st.after.space.references i).count r) =
      (st.doubles? i r).getD (decide (2 ≤ (st.before.space.references i).count r)) := by
  have hcount := two_le_count_relists st i r (st.before.space.references i)
  rw [← h.references i] at hcount
  have hspared := count_spared st i r (st.before.space.references i)
  have hdoubles : st.doubles i r = true ↔ 2 ≤ (st.appended i).count r ∨
      (0 < (st.appended i).count r ∧
        0 < (st.spared i (st.before.space.references i)).count r) := by
    rw [System.Stretch.doubles, decide_eq_true_eq, List.count_pos_iff, List.count_pos_iff]
  unfold System.Stretch.doubles?
  by_cases hd : st.doubles i r = true
  · rw [if_pos hd, Option.getD_some, decide_eq_true_eq, hcount]
    rw [hdoubles] at hd
    omega
  · rw [if_neg hd]
    rw [hdoubles] at hd
    split
    · next hend =>
      rw [if_pos hend] at hspared
      rw [Option.getD_some, decide_eq_false_iff_not, hcount]
      omega
    · next hend =>
      rw [if_neg hend] at hspared
      rw [Option.getD_none, decide_eq_decide, hcount]
      omega

private theorem mem_appended : r ∈ st.appended i ↔
    st.placed? = some r.target ∧ ⟨i, r.type⟩ ∈ Request.appends st.request := by
  unfold System.Stretch.appended
  cases st.placed? with
  | none => simp
  | some id =>
    show r ∈ referencesTo _ id i ↔ _
    rw [mem_referencesTo, Option.some_inj, eq_comm]

-- A creation adds a reference twice just where the parent reference is the one that every condition
-- gets.
private theorem two_le_count_appended (h : r ∈ st.appended i) :
    2 ≤ (st.appended i).count r ↔ Request.RepeatsLink st.request := by
  obtain ⟨hplaced, hlink⟩ := mem_appended.1 h
  have happended : st.appended i = referencesTo (Request.appends st.request) r.target i := by
    rw [System.Stretch.appended, hplaced]
  rw [happended]
  constructor
  · intro hcount
    by_contra hrepeats
    have hnodup := nodup_referencesTo (Request.nodup_appends hrepeats) r.target i
    have hle := List.nodup_iff_count_le_one.1 hnodup r
    omega
  · intro hrepeats
    obtain ⟨source, hlinks⟩ := Request.appends_of_repeatsLink hrepeats
    obtain ⟨type, target⟩ := r
    rw [hlinks] at hlink ⊢
    simp only [List.mem_cons, List.not_mem_nil, or_false, or_self, Link.mk.injEq] at hlink
    obtain ⟨rfl, rfl⟩ := hlink
    simp [referencesTo]

private theorem deletes?_of_placed (h : st.Genuine) {id : NodeId} (hp : st.placed? = some id) :
    st.deletes? = none ∧ st.forgets? = none := by
  have hc : Request.Creates st.request := by
    by_contra hc
    rw [h.placed?_eq_none hc] at hp
    cases hp
  obtain ⟨serial, r, s, es, before, y⟩ := st
  cases r with
  | addObject | addVariable | addEventSource => exact ⟨rfl, rfl⟩
  | call c =>
    cases c with
    | createCondition r => exact ⟨rfl, rfl⟩
    | _ => exact hc.elim
  | _ => exact hc.elim

/-- A list comes to name a reference twice where a node is created to which the reference leads, and
either the creation adds it twice or the list has it already. -/
theorem System.Stretch.Genuine.doubles_iff (h : st.Genuine) (i : NodeId) (r : Reference) :
    st.doubles i r = true ↔ st.placed? = some r.target ∧
      ⟨i, r.type⟩ ∈ Request.appends st.request ∧
      (Request.RepeatsLink st.request ∨ (i ≠ r.target ∧ r ∈ st.before.space.references i)) := by
  have hspared (hp : st.placed? = some r.target) :
      r ∈ st.spared i (st.before.space.references i) ↔
        i ≠ r.target ∧ r ∈ st.before.space.references i := by
    obtain ⟨hd, hf⟩ := deletes?_of_placed h hp
    by_cases hi : i = r.target
    · simp [System.Stretch.spared, hp, hi]
    · simp [System.Stretch.spared, hp, hd, hf, hi, Ne.symm hi]
  rw [System.Stretch.doubles, decide_eq_true_eq]
  constructor
  · intro hdoubles
    have hmem : r ∈ st.appended i := by
      rcases hdoubles with hcount | ⟨hmem, -⟩
      · exact List.count_pos_iff.1 (by omega)
      · exact hmem
    obtain ⟨hp, hlink⟩ := mem_appended.1 hmem
    refine ⟨hp, hlink, ?_⟩
    rcases hdoubles with hcount | ⟨-, hold⟩
    · exact .inl ((two_le_count_appended hmem).1 hcount)
    · exact .inr ((hspared hp).1 hold)
  · rintro ⟨hp, hlink, hrepeats | hold⟩
    · have hmem : r ∈ st.appended i := mem_appended.2 ⟨hp, hlink⟩
      exact .inl ((two_le_count_appended hmem).2 hrepeats)
    · exact .inr ⟨mem_appended.2 ⟨hp, hlink⟩, (hspared hp).2 hold⟩

end

/-! ### Runs -/

section

variable {ambient : Ambient} {trace : List (requests β).Stretch} {d : (requests β).Config}

private theorem AddressSpace.nodup_references_initial (i : NodeId) :
    ((initial : AddressSpace β).references i).Nodup := by
  simp only [references_eq, initial, Table.ofList, List.foldl_cons, List.foldl_nil,
    Table.find?_insert, Table.find?_empty]
  split
  · exact List.nodup_nil
  · split
    · exact List.nodup_singleton _
    · exact List.nodup_nil

-- Where references are deleted with their nodes, a new node is referred to by nobody.
private theorem not_mem_references_of_placed
    (h : System.Run (.idle (requests β) (.create ambient)) trace d)
    (ho : Orderly Request.reservedBy? trace) (htidy : ∀ st ∈ trace, Request.Tidy st.request)
    {st : (requests β).Stretch} (hst : st ∈ trace) {r : Reference}
    (hp : st.placed? = some r.target) (i : NodeId) : r ∉ st.before.space.references i := by
  obtain ⟨n, hn⟩ := ho.unspent_before h hst
  obtain ⟨links, requested, ha, -⟩ := (h.genuine hst).adds_of_placed hp
  have hfree := hn.free_of_adds ha
  obtain ⟨fore, rest, rfl⟩ := List.append_of_mem hst
  obtain ⟨c, hfore, hrest⟩ := h.split
  have hintact : c.state.space.Intact := by
    refine hfore.space_invariant ho.of_append AddressSpace.intact_initial ?_
    intro f hf ch sp sp' hm happly hfree hintact
    refine hintact.of_effect (Change.effect_of_apply happly) hfree ?_
    exact Request.ne_deleteNode_of_tidy (htidy f (List.mem_append_left _ hf)) hm
  cases hrest with
  | cons hs _ =>
    rw [← hs.before_eq] at hintact
    intro hr
    rw [AddressSpace.references_eq] at hr
    cases hnode : st.before.space.nodes.find? i with
    | none =>
      rw [hnode] at hr
      cases hr
    | some m =>
      rw [hnode] at hr
      have hthere := hintact.references i m hnode r hr
      rw [hfree] at hthere
      cases hthere

private theorem doubles_of_tells {st : (requests β).Stretch} {i : NodeId} {r : Reference}
    (h : st.doubles? i r = some true) : st.doubles i r = true := by
  by_contra hd
  rw [System.Stretch.doubles?, if_neg hd] at h
  split at h <;> cases h

/-- The lists of references of a run. Each stretch makes of them what its request says. A reference
is in a list twice if it was doubled there, and neither was the list emptied nor the reference taken
off since. It is doubled where a node is created to which it leads, if the creation adds it twice or
the list has it already. In an orderly run in which nodes are deleted together with the references
to them, and no condition is to have the parent reference that every condition gets, no list names
a reference twice. -/
theorem references_of_run (h : System.Run (.idle (requests β) (.create ambient)) trace d) :
    (∀ st ∈ trace, ∀ i,
      st.after.space.references i = st.relists i (st.before.space.references i)) ∧
    (∀ i r, 2 ≤ (d.state.space.references i).count r ↔
      System.latest (·.doubles? i r) trace = some true) ∧
    (∀ st ∈ trace, ∀ i r, st.doubles i r = true ↔ st.placed? = some r.target ∧
      ⟨i, r.type⟩ ∈ Request.appends st.request ∧ (Request.RepeatsLink st.request ∨
        (i ≠ r.target ∧ r ∈ st.before.space.references i))) ∧
    (Orderly Request.reservedBy? trace → (∀ st ∈ trace, Request.Tidy st.request) →
      (∀ st ∈ trace, ¬ Request.RepeatsLink st.request) →
      ∀ i, (d.state.space.references i).Nodup) := by
  have hlatest : ∀ i r, 2 ≤ (d.state.space.references i).count r ↔
      System.latest (·.doubles? i r) trace = some true := by
    intro i r
    have hnodup := AddressSpace.nodup_references_initial (β := β) i
    have hfirst : ¬ 2 ≤ ((Server.create ambient : Server β).space.references i).count r :=
      Nat.not_le.2 (Nat.lt_succ_of_le (List.nodup_iff_count_le_one.1 hnodup r))
    exact h.holds_iff_latest (P := fun s => 2 ≤ (s.space.references i).count r) hfirst
      fun st hst => twice_of_genuine (h.genuine hst) i r
  refine ⟨fun st hst => (h.genuine hst).references, hlatest,
    fun st hst => (h.genuine hst).doubles_iff, fun ho htidy hrepeats i => ?_⟩
  refine List.nodup_iff_count_le_one.2 fun r => Nat.lt_succ_iff.1 (Nat.not_le.1 fun htwice => ?_)
  have htold := (hlatest i r).1 htwice
  obtain ⟨fore, st, rest, he, htells, -⟩ := (System.latest_eq_some_iff _ _).1 htold
  have hst : st ∈ trace := by simp [he]
  obtain ⟨hplaced, -, hwhy⟩ := ((h.genuine hst).doubles_iff i r).1 (doubles_of_tells htells)
  rcases hwhy with hwhy | ⟨-, hold⟩
  · exact hrepeats st hst hwhy
  · exact not_mem_references_of_placed h ho htidy hst hplaced i hold

end

/-- The condition that `reserve` asks for is to be deleted, and the references to it if so asked. -/
def unreserve (id : NodeId) (refs : Bool) : Request Unit := .call (.deleteNode id refs)

/-- It is deleted after it was created. -/
def unreserved (id : NodeId) (refs : Bool) : (requests Unit).Stretch :=
  .first (requests Unit) 1 (unreserve id refs) (reserved id).after

/-- Then it is created again. -/
def reservedAgain (id : NodeId) (refs : Bool) : (requests Unit).Stretch :=
  .first (requests Unit) 2 (reserve id) (unreserved id refs).after

/-- The three, one after the other. -/
def reservedTwice (refs : Bool) : List (requests Unit).Stretch :=
  [reserved (.numeric 1 1), unreserved (.numeric 1 1) refs, reservedAgain (.numeric 1 1) refs]

private theorem run_reservedTwice (refs : Bool) :
    System.Run (.idle (requests Unit) (.create (.start ⟨0, 0⟩))) (reservedTwice refs)
      ⟨(reservedAgain (.numeric 1 1) refs).after, 3, []⟩ := by
  have hdelete : System.Step ⟨(reserved (.numeric 1 1)).after, 1, []⟩
      (unreserved (.numeric 1 1) refs) ⟨(unreserved (.numeric 1 1) refs).after, 2, []⟩ := by
    cases refs <;> exact .request_of_ends ⟨_, _, rfl⟩ 1 []
  have hagain : System.Step ⟨(unreserved (.numeric 1 1) refs).after, 2, []⟩
      (reservedAgain (.numeric 1 1) refs) ⟨(reservedAgain (.numeric 1 1) refs).after, 3, []⟩ := by
    cases refs <;> exact .request_of_ends ⟨_, _, rfl⟩ 2 []
  exact .cons (.request_of_ends ⟨_, _, rfl⟩ 0 []) (.cons hdelete (.cons hagain (.nil _)))

private theorem mem_reservedTwice {refs : Bool} {st : (requests Unit).Stretch}
    (h : st ∈ reservedTwice refs) : st = reserved (.numeric 1 1) ∨
      st = unreserved (.numeric 1 1) refs ∨ st = reservedAgain (.numeric 1 1) refs := by
  simpa [reservedTwice] using h

private theorem not_repeatsLink_of_mem {refs : Bool} :
    ∀ st ∈ reservedTwice refs, ¬ Request.RepeatsLink st.request := by
  intro st hst
  rcases mem_reservedTwice hst with rfl | rfl | rfl
  · exact fun he => nomatch he
  · exact not_false
  · exact fun he => nomatch he

/-- A condition is deleted together with the references to it, and created again under the same
identifier. Its source refers to it once. -/
theorem references_reservedAgain :
    ∃ d, System.Run (.idle (requests Unit) (.create (.start ⟨0, 0⟩))) (reservedTwice true) d ∧
      Orderly Request.reservedBy? (reservedTwice true) ∧ d.state.space.deleted = 1 ∧
      (∀ i, (d.state.space.references i).Nodup) ∧
      d.state.space.references .serverObject = [⟨.hasCondition, .numeric 1 1⟩] := by
  have h := run_reservedTwice true
  have ho : Orderly Request.reservedBy? (reservedTwice true) := by
    refine ⟨?_, by decide⟩
    rintro st hst id hid ⟨i, hi, rfl⟩
    have hone : some (NodeId.numeric 1 1) ≠ some (.numeric 1 i) := by
      intro he
      rw [Option.some_inj, NodeId.numeric_inj] at he
      rw [← he.2] at hi
      exact absurd hi (by decide)
    rcases mem_reservedTwice hst with rfl | rfl | rfl
    · exact hone hid
    · cases hid
    · exact hone hid
  have htidy : ∀ st ∈ reservedTwice true, Request.Tidy st.request := by
    intro st hst
    rcases mem_reservedTwice hst with rfl | rfl | rfl
    · trivial
    · rfl
    · trivial
  exact ⟨_, h, ho, rfl, (references_of_run h).2.2.2 ho htidy not_repeatsLink_of_mem, rfl⟩

/-- A list may name a reference twice because a creation adds it twice. A condition at the server
object is created with the parent reference that every condition gets. -/
theorem references_doubled :
    ∃ st d, System.Run (.idle (requests Unit) (.create (.start ⟨0, 0⟩))) [st] d ∧
      Orderly Request.reservedBy? [st] ∧ Request.RepeatsLink st.request ∧
      d.state.space.references .serverObject =
        [⟨.hasCondition, .numeric 1 50000⟩, ⟨.hasCondition, .numeric 1 50000⟩] ∧
      ¬ (d.state.space.references .serverObject).Nodup := by
  let request : Request Unit := .call (.createCondition
    { conditionType := ConditionType.offNormal.node, browseName := .standard "Overheat"
      source := .serverObject, parentReference := some .hasCondition, requestedId := none })
  let st : (requests Unit).Stretch := .first (requests Unit) 0 request (.create (.start ⟨0, 0⟩))
  have h : System.Run (.idle (requests Unit) (.create (.start ⟨0, 0⟩))) [st] ⟨st.after, 1, []⟩ :=
    .cons (.request_of_ends ⟨_, _, rfl⟩ 0 []) (.nil _)
  have ho : Orderly Request.reservedBy? [st] := by
    refine ⟨?_, by decide⟩
    intro st' hst' id hid
    obtain rfl := List.mem_singleton.1 hst'
    cases hid
  have hreferences : st.after.space.references .serverObject =
      [⟨.hasCondition, .numeric 1 50000⟩, ⟨.hasCondition, .numeric 1 50000⟩] := rfl
  refine ⟨st, _, h, ho, rfl, hreferences, ?_⟩
  rw [hreferences]
  simp

/-- Or it does because a reference was left behind. The condition is deleted without the reference
to it, and created again under the same identifier. -/
theorem references_leftBehind :
    ∃ d, System.Run (.idle (requests Unit) (.create (.start ⟨0, 0⟩))) (reservedTwice false) d ∧
      (∀ st ∈ reservedTwice false, ¬ Request.RepeatsLink st.request) ∧
      d.state.space.references .serverObject =
        [⟨.hasCondition, .numeric 1 1⟩, ⟨.hasCondition, .numeric 1 1⟩] :=
  ⟨_, run_reservedTwice false, not_repeatsLink_of_mem, rfl⟩

end AlarmServer
