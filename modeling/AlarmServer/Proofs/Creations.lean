import AlarmServer.Proofs.Placements

/-!
# Creations

A creation leaves every other node as it was, but for the references to the new node. The new node
takes the place of another one only if that has been created under an identifier that the server
gives out by itself, before the server did, or if the server has come round. The nodes that there
are and those that were deleted are, together, those that were created.
-/

namespace AlarmServer

variable {β : Type}

namespace System.Stretch

variable (st : (requests β).Stretch)

/-- The identifier that the stretch gives, if it creates a node. -/
def given? : Option NodeId := Request.given? st.request st.outcome

/-- The identifier under which the stretch places a node, even if it does not give it. -/
def placed? : Option NodeId :=
  st.given?.or (if st.assigns then some st.before.space.allocate.1 else none)

/-- Does the stretch create a node? -/
def creates : Bool := st.given?.isSome

/-- Does the stretch place a node although it fails? -/
def abandons : Bool := !st.creates && st.assigns

/-- Does the stretch place a node where there is one? -/
def overwrites : Bool := st.placed?.any st.before.space.nodes.contains

end System.Stretch

/-- The identifier that a stretch gives because it was asked for. -/
def Request.reservedBy? (st : (requests β).Stretch) : Option NodeId :=
  Request.reserved? st.request st.outcome

open AddressSpace (Adds AddsNone Unspent)

section

variable {st : (requests β).Stretch}

private theorem counts_of_given {id : NodeId} (hg : st.given? = some id) :
    st.creates = true ∧ st.abandons = false ∧
      st.overwrites = st.before.space.nodes.contains id := by
  have hc : st.creates = true := by simp [System.Stretch.creates, hg]
  refine ⟨hc, ?_, ?_⟩
  · simp [System.Stretch.abandons, hc]
  · simp [System.Stretch.overwrites, System.Stretch.placed?, hg]

private theorem counts_of_not_given (hg : st.given? = none) :
    st.creates = false ∧ st.abandons = st.assigns ∧ st.overwrites =
      (st.assigns && st.before.space.nodes.contains st.before.space.allocate.1) := by
  have hc : st.creates = false := by simp [System.Stretch.creates, hg]
  refine ⟨hc, ?_, ?_⟩
  · simp [System.Stretch.abandons, hc]
  · cases ha : st.assigns <;> simp [System.Stretch.overwrites, System.Stretch.placed?, hg, ha]

private theorem size_of_adds {links : List Link} {requested : Option NodeId} {id : NodeId}
    {sp sp' : AddressSpace β} (h : Adds links requested id sp sp') :
    sp'.nodes.size + (sp.nodes.contains id).toNat = sp.nodes.size + 1 := by
  rw [h.size]
  cases sp.nodes.contains id <;> rfl

-- The nodes that there are, together with those that were deleted, become more by one for each node
-- that is placed, unless it is placed where there is one.
private theorem balance_of_genuine (h : st.Genuine) :
    st.after.space.nodes.size + st.after.space.deleted + st.overwrites.toNat =
      st.before.space.nodes.size + st.before.space.deleted + st.creates.toNat +
        st.abandons.toNat := by
  have hp : Request.Placement st.request st.before.space st.given? st.after.space := h.placement
  generalize hg : st.given? = given at hp
  cases hp with
  | created ha =>
    obtain ⟨hc, hab, ho⟩ := counts_of_given hg
    have hsize := size_of_adds ha
    rw [hc, hab, ho, ha.deleted, Bool.toNat_true, Bool.toNat_false]
    omega
  | abandoned _ _ ha =>
    obtain ⟨hc, hab, ho⟩ := counts_of_not_given hg
    have hnext : st.assigns = true := by
      rcases ha.identifier with ⟨hr, -⟩ | ⟨-, hnext⟩
      · cases hr
      · exact assigns_of_next hnext
    have hsize := size_of_adds ha
    rw [hc, hab, ho, hnext, ha.deleted, Bool.true_and, Bool.toNat_true, Bool.toNat_false]
    omega
  | none ha =>
    obtain ⟨hc, hab, ho⟩ := counts_of_not_given hg
    have hnext : st.assigns = false := decide_eq_false fun hn => hn ha.nextId
    rw [hc, hab, ho, hnext]
    exact ha.total

private theorem adds_of_given (h : st.Genuine) {id : NodeId} (hg : st.given? = some id) :
    Adds (Request.links st.request) (Request.requested? st.request) id st.before.space
      st.after.space := by
  have hp : Request.Placement st.request st.before.space st.given? st.after.space := h.placement
  rw [hg] at hp
  cases hp with
  | created ha => exact ha

private theorem addEventSource_of_abandons (h : st.Genuine) (hab : st.abandons = true) :
    ∃ name, st.request = Request.addEventSource name ∧
      st.before.space.nodes.contains .serverObject = false := by
  have hp : Request.Placement st.request st.before.space st.given? st.after.space := h.placement
  generalize hg : st.given? = given at hp
  cases hp with
  | created _ =>
    rw [(counts_of_given hg).2.1] at hab
    cases hab
  | abandoned hr hs _ => exact ⟨_, hr, hs⟩
  | none ha =>
    rw [(counts_of_not_given hg).2.1] at hab
    exact absurd ha.nextId (of_decide_eq_true hab)

private theorem overwrites_of_unspent (h : st.Genuine) {n : Nat} (hn : st.before.space.Unspent n) :
    st.overwrites = false := by
  have hp : Request.Placement st.request st.before.space st.given? st.after.space := h.placement
  generalize hg : st.given? = given at hp
  cases hp with
  | created ha =>
    rw [(counts_of_given hg).2.2]
    exact hn.free_of_adds ha
  | _ =>
    rw [(counts_of_not_given hg).2.2, Bool.and_eq_false_iff]
    exact .inr (hn.free _ (UInt32.le_refl _))

end

/-- In the course of an orderly run of requests the identifiers are used up one after the other. -/
theorem Orderly.unspent_after {trace fore rest : List (requests β).Stretch}
    {st : (requests β).Stretch} (ho : Orderly Request.reservedBy? trace)
    (he : trace = fore ++ st :: rest) (hst : st.Genuine)
    (h : st.before.space.Unspent (fore.countP System.Stretch.assigns)) :
    st.after.space.Unspent ((fore ++ [st]).countP System.Stretch.assigns) := by
  refine ho.unspent_step he h fun hn hr => ?_
  refine hn.placement hst.placement fun i hi hi' => hr i ?_
  exact Option.filter_eq_some_iff.2 ⟨hi, decide_eq_true hi'⟩

section

variable {ambient : Ambient} {trace : List (requests β).Stretch}
  {d : (requests β).Config} {st : (requests β).Stretch}

/-- In the course of an orderly run the identifiers from the next one on are free. -/
theorem Orderly.unspent_before (ho : Orderly Request.reservedBy? trace)
    (h : System.Run (.idle (requests β) (.create ambient)) trace d) (hst : st ∈ trace) :
    ∃ n, st.before.space.Unspent n := by
  obtain ⟨fore, rest, rfl⟩ := List.append_of_mem hst
  refine ⟨fore.countP System.Stretch.assigns, ?_⟩
  exact h.invariant_before (P := fun old s => s.space.Unspent (old.countP System.Stretch.assigns))
    AddressSpace.unspent_initial fun _ _ _ he => ho.unspent_after he

private theorem overwrites_of_orderly
    (h : System.Run (.idle (requests β) (.create ambient)) trace d)
    (ho : Orderly Request.reservedBy? trace) (hst : st ∈ trace) : st.overwrites = false := by
  obtain ⟨n, hn⟩ := ho.unspent_before h hst
  exact overwrites_of_unspent (h.genuine hst) hn

private theorem balance_of_run (h : System.Run (.idle (requests β) (.create ambient)) trace d) :
    d.state.space.nodes.size + d.state.space.deleted + trace.countP System.Stretch.overwrites =
      2 + trace.countP System.Stretch.creates + trace.countP System.Stretch.abandons := by
  refine h.invariant (P := fun old s => s.space.nodes.size + s.space.deleted +
    old.countP System.Stretch.overwrites =
      2 + old.countP System.Stretch.creates + old.countP System.Stretch.abandons) rfl
    fun fore st rest _ hg hfore => ?_
  have hst := balance_of_genuine hg
  simp only [countP_concat]
  omega

end

/-- What the creations of a run do. Each leaves the other nodes as they were, but for the references
that it adds. One that fails leaves a node behind only for want of a server object. The nodes that
there are and those that were deleted are those that were placed, less those that were placed where
there was one; and in an orderly run none was. -/
theorem creations_of_run {ambient : Ambient} {trace : List (requests β).Stretch}
    {d : (requests β).Config} (h : System.Run (.idle (requests β) (.create ambient)) trace d) :
    (∀ st ∈ trace, ∀ id, st.given? = some id →
      Adds (Request.links st.request) (Request.requested? st.request) id st.before.space
        st.after.space) ∧
    (∀ st ∈ trace, st.abandons = true → ∃ name, st.request = Request.addEventSource name ∧
      st.before.space.nodes.contains .serverObject = false) ∧
    d.state.space.nodes.size + d.state.space.deleted + trace.countP System.Stretch.overwrites =
      2 + trace.countP System.Stretch.creates + trace.countP System.Stretch.abandons ∧
    (Orderly Request.reservedBy? trace → (∀ st ∈ trace, st.overwrites = false) ∧
      d.state.space.nodes.size + d.state.space.deleted =
        2 + trace.countP System.Stretch.creates + trace.countP System.Stretch.abandons) := by
  have hbalance := balance_of_run h
  refine ⟨fun st hst id => adds_of_given (h.genuine hst),
    fun st hst => addEventSource_of_abandons (h.genuine hst), hbalance, fun ho => ?_⟩
  have hnone : ∀ st ∈ trace, st.overwrites = false := fun st hst =>
    overwrites_of_orderly h ho hst
  refine ⟨hnone, ?_⟩
  rw [List.countP_eq_zero.2 fun st hst => by simp [hnone st hst], Nat.add_zero] at hbalance
  exact hbalance

/-- A condition at the server object is to be created, under an identifier that is asked for. -/
def reserve (id : NodeId) : Request Unit := .call (.createCondition
  { conditionType := ConditionType.offNormal.node, browseName := .standard "Overheat"
    source := .serverObject, parentReference := none, requestedId := some id })

/-- An object is to be added. -/
def addTank : Request Unit := .addObject .objectsFolder (.standard "Tank")

/-- A condition is created under an identifier that is asked for, in a new server. -/
def reserved (id : NodeId) : (requests Unit).Stretch :=
  .first (requests Unit) 0 (reserve id) (.create (.start ⟨0, 0⟩))

/-- Then an object is added. -/
def addedAfter (id : NodeId) : (requests Unit).Stretch :=
  .first (requests Unit) 1 addTank (reserved id).after

private theorem run_reserved (id : NodeId)
    (h : ∃ a t, (requests Unit).perform (reserve id) (.create (.start ⟨0, 0⟩)) = .done a t)
    (h' : ∃ a t, (requests Unit).perform addTank (reserved id).after = .done a t) :
    System.Run (.idle (requests Unit) (.create (.start ⟨0, 0⟩))) [reserved id, addedAfter id]
      ⟨(addedAfter id).after, 2, []⟩ :=
  .cons (.request_of_ends h 0 []) (.cons (.request_of_ends h' 1 []) (.nil _))

/-- A condition under an identifier that the server does not give out by itself, and then an object,
make two nodes more. -/
theorem creations_reserved :
    ∃ d, System.Run (.idle (requests Unit) (.create (.start ⟨0, 0⟩)))
        [reserved (.numeric 1 1), addedAfter (.numeric 1 1)] d ∧
      Orderly Request.reservedBy? [reserved (.numeric 1 1), addedAfter (.numeric 1 1)] ∧
      (addedAfter (.numeric 1 1)).given? = some (.numeric 1 50000) ∧
      (addedAfter (.numeric 1 1)).overwrites = false ∧
      d.state.space.nodes.size + d.state.space.deleted = 4 := by
  have h := run_reserved (.numeric 1 1) ⟨_, _, rfl⟩ ⟨_, _, rfl⟩
  have ho : Orderly Request.reservedBy? [reserved (.numeric 1 1), addedAfter (.numeric 1 1)] := by
    refine ⟨?_, by decide⟩
    rintro st hst id hid ⟨i, hi, rfl⟩
    simp only [List.mem_cons, List.not_mem_nil, or_false] at hst
    rcases hst with rfl | rfl
    · change some (NodeId.numeric 1 1) = some (.numeric 1 i) at hid
      rw [Option.some_inj, NodeId.numeric_inj] at hid
      rw [← hid.2] at hi
      exact absurd hi (by decide)
    · cases hid
  obtain ⟨hfree, hcount⟩ := (creations_of_run h).2.2.2 ho
  exact ⟨_, h, ho, rfl, hfree _ (by simp), hcount⟩

/-- A creation may destroy a node. If a condition was created under the next identifier of the
server, the next object that is added takes its place, and there is no node more. -/
theorem creation_overwrites :
    ∃ d, System.Run (.idle (requests Unit) (.create (.start ⟨0, 0⟩)))
        [reserved (.numeric 1 50000), addedAfter (.numeric 1 50000)] d ∧
      (reserved (.numeric 1 50000)).given? = some (.numeric 1 50000) ∧
      (addedAfter (.numeric 1 50000)).given? = some (.numeric 1 50000) ∧
      (addedAfter (.numeric 1 50000)).before.space.idOf (.numeric 1 50000) .acked = some false ∧
      d.state.space.idOf (.numeric 1 50000) .acked = none ∧
      d.state.space.nodes.size + d.state.space.deleted = 3 :=
  ⟨_, run_reserved (.numeric 1 50000) ⟨_, _, rfl⟩ ⟨_, _, rfl⟩, rfl, rfl, rfl, rfl, rfl⟩

end AlarmServer
