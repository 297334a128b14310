import AlarmServer.Proofs.Revisions

/-!
# Integrity of the address space

References lead to nodes that are there, hooks belong to conditions that are there and have their
variable, watchers belong to nodes that are there, and the null identifier names no node. Additions
keep this up because they check what they refer to, and deletions because they remove what was
referred to, as long as references are removed with the node. It holds at every moment of a run, and
so inside of callbacks as well.
-/

namespace AlarmServer

variable {β : Type}

/-- All that the tables of an address space refer to is there. -/
structure AddressSpace.Intact (sp : AddressSpace β) : Prop where
  /-- References lead to nodes. -/
  references : ∀ i n, sp.nodes.find? i = some n → ∀ r ∈ n.references,
    sp.nodes.contains r.target = true
  /-- A hook is found where it belongs, and there is a condition with its variable. -/
  hooks : ∀ c k h, sp.hooks.find? (c, k) = some h →
    h.condition = c ∧ h.kind = k ∧ ∃ cs, sp.condition c = .ok cs ∧ k ∈ cs.type.kinds
  /-- A watcher belongs to a node. -/
  watchers : ∀ i callback, sp.watchers.find? i = some callback → sp.nodes.contains i = true
  /-- No node is named by the null identifier. -/
  null : sp.nodes.contains .null = false

namespace AddressSpace

variable {sp sp' : AddressSpace β} {id : NodeId}

/-- The address space of a new server is intact. -/
theorem intact_initial : (initial : AddressSpace β).Intact where
  references i n hn r hr := by
    rw [(object_of_initial hn).2 r hr]
    rfl
  hooks c k h hh := nomatch hh
  watchers i callback h := nomatch h
  null := rfl

-- Conditions are there after a change, with the variables that they had.
private def KeepsCondition (i : NodeId) (sp sp' : AddressSpace β) : Prop :=
  ∀ c, sp.condition i = .ok c → ∃ d, sp'.condition i = .ok d ∧ d.type = c.type

private theorem Intact.hooks_of_kept (h : sp.Intact)
    (hkept : ∀ c k hook, sp'.hooks.find? (c, k) = some hook →
      sp.hooks.find? (c, k) = some hook ∧ KeepsCondition c sp sp') :
    ∀ c k hook, sp'.hooks.find? (c, k) = some hook →
      hook.condition = c ∧ hook.kind = k ∧ ∃ cs, sp'.condition c = .ok cs ∧ k ∈ cs.type.kinds := by
  intro c k hook hhook
  obtain ⟨hold, hcondition⟩ := hkept c k hook hhook
  obtain ⟨hc, hk, cs, hcs, hmem⟩ := h.hooks c k hook hold
  obtain ⟨d, hd, htype⟩ := hcondition cs hcs
  exact ⟨hc, hk, d, hd, htype ▸ hmem⟩

-- A revision of a node takes nothing away, and adds only references to what is there.
private theorem Intact.of_revision (h : sp.Intact) {n m : Node} (hn : sp.nodes.find? id = some n)
    (hm : n.Revised sp m)
    (hnodes : ∀ i, sp'.nodes.find? i = if i = id then some m else sp.nodes.find? i)
    (hhooks : sp'.hooks = sp.hooks) (hwatchers : sp'.watchers = sp.watchers) : sp'.Intact := by
  have hcontains : ∀ i, sp'.nodes.contains i = sp.nodes.contains i := by
    intro i
    unfold Table.contains
    rw [hnodes]
    by_cases hi : i = id <;> simp [hi, hn]
  have hcondition : ∀ i, KeepsCondition i sp sp' := by
    intro i c hc
    obtain ⟨n', hn', hbody⟩ := condition_eq_ok_iff.1 hc
    by_cases hi : i = id
    · subst hi
      cases hn.symm.trans hn'
      have hrevised := hm.body
      rw [hbody] at hrevised
      obtain ⟨d, hd, hcd⟩ := hrevised.exists_condition
      refine ⟨d, condition_eq_ok_iff.2 ⟨m, ?_, hd⟩, ?_⟩
      · rw [hnodes, if_pos rfl]
      · rcases hcd with rfl | hcd
        · rfl
        · exact hcd.type
    · refine ⟨c, condition_eq_ok_iff.2 ⟨n', ?_, hbody⟩, rfl⟩
      rw [hnodes, if_neg hi, hn']
  constructor
  · intro i n' hn' r hr
    rw [hcontains]
    rw [hnodes] at hn'
    by_cases hi : i = id
    · rw [if_pos hi] at hn'
      cases hn'
      rcases hm.references r hr with hr | hr
      · exact h.references id n hn r hr
      · exact hr
    · rw [if_neg hi] at hn'
      exact h.references i n' hn' r hr
  · refine h.hooks_of_kept fun c k hook hhook => ⟨?_, hcondition c⟩
    rw [← hhooks]
    exact hhook
  · intro i callback hi
    rw [hwatchers] at hi
    rw [hcontains]
    exact h.watchers i callback hi
  · rw [hcontains]
    exact h.null

-- A node that is placed where there was none takes nothing away, and references to it are added
-- only together with it.
private theorem Intact.of_placement (h : sp.Intact) {n : Node} (hn : n.New sp)
    (hnull : id.isNull = false) (hfree : sp.nodes.contains id = false)
    (hnodes : ∀ i, ∃ extra : List Reference, (∀ r ∈ extra, r.target = id) ∧
      sp'.nodes.find? i =
        (if i = id then some n else sp.nodes.find? i).map (Node.referAll extra))
    (hhooks : sp'.hooks = sp.hooks) (hwatchers : sp'.watchers = sp.watchers) : sp'.Intact := by
  have hne : ∀ i, sp.nodes.contains i = true → i ≠ id := by
    rintro i hi rfl
    rw [hfree] at hi
    cases hi
  have hcontains : ∀ i, sp'.nodes.contains i = true ↔ i = id ∨ sp.nodes.contains i = true := by
    intro i
    obtain ⟨extra, -, hfind⟩ := hnodes i
    unfold Table.contains
    rw [hfind]
    by_cases hi : i = id <;> simp [hi]
  constructor
  · intro i n' hn' r hr
    rw [hcontains]
    obtain ⟨extra, htarget, hfind⟩ := hnodes i
    rw [hfind] at hn'
    obtain ⟨n₀, hn₀, rfl⟩ := Option.map_eq_some_iff.1 hn'
    rcases List.mem_append.1 hr with hr | hr
    · right
      by_cases hi : i = id
      · rw [if_pos hi] at hn₀
        cases hn₀
        rw [hn.references] at hr
        cases hr
      · rw [if_neg hi] at hn₀
        exact h.references i n₀ hn₀ r hr
    · exact .inl (htarget r hr)
  · refine h.hooks_of_kept fun c k hook hhook => ?_
    rw [hhooks] at hhook
    refine ⟨hhook, fun cs hcs => ?_⟩
    obtain ⟨n₀, hn₀, hbody⟩ := condition_eq_ok_iff.1 hcs
    obtain ⟨extra, -, hfind⟩ := hnodes c
    have hc : c ≠ id := hne c (Option.isSome_of_eq_some hn₀)
    refine ⟨cs, condition_eq_ok_iff.2 ⟨n₀.referAll extra, ?_, hbody⟩, rfl⟩
    rw [hfind, if_neg hc, hn₀]
    rfl
  · intro i callback hi
    rw [hwatchers] at hi
    exact (hcontains i).2 (.inr (h.watchers i callback hi))
  · rw [Bool.eq_false_iff]
    intro hc
    rcases (hcontains _).1 hc with rfl | hc
    · cases hnull
    · rw [h.null] at hc
      cases hc

-- A deletion takes away what has referred to the node as well.
private theorem Intact.of_deletion (h : sp.Intact)
    (hnodes : ∀ i, sp'.nodes.find? i =
      if i = id then none else (sp.nodes.find? i).map fun n => n.forget id)
    (hhooks : ∀ c k, sp'.hooks.find? (c, k) = if c = id then none else sp.hooks.find? (c, k))
    (hwatchers : ∀ i, sp'.watchers.find? i = if i = id then none else sp.watchers.find? i) :
    sp'.Intact := by
  have hcontains : ∀ i, sp'.nodes.contains i = true ↔ i ≠ id ∧ sp.nodes.contains i = true := by
    intro i
    unfold Table.contains
    rw [hnodes]
    by_cases hi : i = id <;> simp [hi]
  constructor
  · intro i n' hn' r hr
    rw [hnodes] at hn'
    obtain ⟨-, hn'⟩ := Option.ite_none_left_eq_some.1 hn'
    obtain ⟨n, hn, rfl⟩ := Option.map_eq_some_iff.1 hn'
    obtain ⟨hmem, htarget⟩ := List.mem_filter.1 hr
    exact (hcontains _).2 ⟨of_decide_eq_true htarget, h.references i n hn r hmem⟩
  · refine h.hooks_of_kept fun c k hook hhook => ?_
    rw [hhooks] at hhook
    obtain ⟨hc, hhook⟩ := Option.ite_none_left_eq_some.1 hhook
    refine ⟨hhook, fun cs hcs => ?_⟩
    obtain ⟨n, hn, hbody⟩ := condition_eq_ok_iff.1 hcs
    refine ⟨cs, condition_eq_ok_iff.2 ⟨n.forget id, ?_, hbody⟩, rfl⟩
    rw [hnodes, if_neg hc, hn]
    rfl
  · intro i callback hi
    rw [hwatchers] at hi
    obtain ⟨hne, hi⟩ := Option.ite_none_left_eq_some.1 hi
    exact (hcontains i).2 ⟨hne, h.watchers i callback hi⟩
  · rw [Bool.eq_false_iff]
    intro hc
    have hnull := ((hcontains _).1 hc).2
    rw [h.null] at hnull
    cases hnull

private theorem Intact.of_same_nodes (h : sp.Intact) (hnodes : sp'.nodes = sp.nodes)
    (hhooks : ∀ c k hook, sp'.hooks.find? (c, k) = some hook →
      sp.hooks.find? (c, k) = some hook ∨ hook.condition = c ∧ hook.kind = k ∧
        ∃ cs, sp.condition c = .ok cs ∧ k ∈ cs.type.kinds)
    (hwatchers : ∀ i callback, sp'.watchers.find? i = some callback →
      sp.watchers.find? i = some callback ∨ sp.nodes.contains i = true) : sp'.Intact := by
  have hcondition : ∀ i, sp'.condition i = sp.condition i := by
    intro i
    rw [condition, condition, node, node, hnodes]
  constructor
  · rw [hnodes]
    exact h.references
  · intro c k hook hhook
    rw [hcondition]
    rcases hhooks c k hook hhook with hold | hnew
    · exact h.hooks c k hook hold
    · exact hnew
  · intro i callback hi
    rw [hnodes]
    rcases hwatchers i callback hi with hold | hnew
    · exact h.watchers i callback hold
    · exact hnew
  · rw [hnodes]
    exact h.null

private theorem Intact.of_watch (h : sp.Intact) {callback : β} (hid : sp.nodes.contains id = true)
    (hnodes : sp'.nodes = sp.nodes) (hhooks : sp'.hooks = sp.hooks)
    (hwatchers : sp'.watchers = sp.watchers.insert id callback) : sp'.Intact := by
  refine h.of_same_nodes hnodes ?_ ?_
  · intro c k hook hhook
    rw [hhooks] at hhook
    exact .inl hhook
  · intro i callback' hi
    rw [hwatchers, Table.find?_insert] at hi
    by_cases hid' : i = id
    · right
      rw [hid']
      exact hid
    · left
      rw [if_neg hid'] at hi
      exact hi

private theorem Intact.of_installation (h : sp.Intact) {hook : Hook β} {c : ConditionState}
    (hc : sp.condition hook.condition = .ok c) (hk : hook.kind ∈ c.type.kinds)
    (hnodes : sp'.nodes = sp.nodes)
    (hhooks : sp'.hooks = sp.hooks.insert (hook.condition, hook.kind) hook)
    (hwatchers : sp'.watchers = sp.watchers) : sp'.Intact := by
  refine h.of_same_nodes hnodes ?_ ?_
  · intro c' k hook' hhook'
    rw [hhooks, Table.find?_insert] at hhook'
    by_cases hkey : (c', k) = (hook.condition, hook.kind)
    · right
      rw [if_pos hkey] at hhook'
      cases hhook'
      cases hkey
      exact ⟨rfl, rfl, c, hc, hk⟩
    · left
      rw [if_neg hkey] at hhook'
      exact hhook'
  · intro i callback hi
    rw [hwatchers] at hi
    exact .inl hi

/-- Integrity outlasts each change that places nodes only where there are none, and deletes them
only with the references to them. -/
theorem Intact.of_effect (h : sp.Intact) {ch : Change β} (he : ch.Effect sp sp')
    (hplaces : ch.Places → sp.nodes.contains sp.allocate.1 = false)
    (hdeletes : ∀ i, ch ≠ .deleteNode i false) : sp'.Intact := by
  cases he with
  | revises hn hm hnodes hhooks hwatchers _ => exact h.of_revision hn hm hnodes hhooks hwatchers
  | @places i n hch hn hnull hid hnodes hhooks hwatchers _ =>
    have hfree : sp.nodes.contains i = false := by
      rcases hid with hid | rfl
      · exact hid
      · exact hplaces hch
    exact h.of_placement hn hnull hfree hnodes hhooks hwatchers
  | @deletes i refs hch hnodes hhooks hwatchers _ =>
    cases refs with
    | false => exact absurd hch (hdeletes i)
    | true => exact h.of_deletion hnodes hhooks hwatchers
  | watches hid hnodes hhooks hwatchers _ => exact h.of_watch hid hnodes hhooks hwatchers
  | installs hc hk hnodes hhooks hwatchers _ =>
    exact h.of_installation hc hk hnodes hhooks hwatchers

end AddressSpace

/-- If the request deletes a node, does it remove all references to the node? -/
def Request.Tidy : Request β → Prop
  | call (.deleteNode _ refs) => refs = true
  | _ => True

/-- A tidy request leaves no references to a node that it deletes. -/
theorem Request.ne_deleteNode_of_tidy {r : Request β} (hr : r.Tidy) {ch : Change β}
    (h : r.May ch) (i : NodeId) : ch ≠ .deleteNode i false := by
  rintro rfl
  rw [eq_deleteNode_of_may h] at hr
  cases hr

/-- The address space is intact at each moment of an orderly run in which nodes are deleted together
with the references to them: references lead to nodes, hooks and watchers belong to nodes, and each
hook is found under its own condition and variable, which are there. -/
theorem intact_of_run {ambient : Ambient} {trace : List (requests β).Stretch}
    {d : (requests β).Config} (h : System.Run (.idle (requests β) (.create ambient)) trace d)
    (ho : Orderly Request.reservedBy? trace)
    (htidy : ∀ st ∈ trace, Request.Tidy st.request) : d.state.space.Intact := by
  refine h.space_invariant ho AddressSpace.intact_initial ?_
  intro st hst ch sp sp' hm ha hfree hintact
  refine hintact.of_effect (Change.effect_of_apply ha) hfree ?_
  exact Request.ne_deleteNode_of_tidy (htidy st hst) hm

/-- A condition at the server object is created, a hook of it is installed, and the condition is
deleted together with the references to it. Neither the hook nor a reference is left behind. -/
theorem intact_deleted :
    ∃ trace d, System.Run (.idle (requests Unit) (.create (.start ⟨0, 0⟩))) trace d ∧
      (∃ st ∈ trace, st.after.space.hooks.contains (.numeric 1 1, .acked) = true) ∧
      d.state.space.deleted = 1 ∧ d.state.space.Intact := by
  let hook : Hook Unit := ⟨.numeric 1 1, .serverObject, false, .acked, .registered⟩
  let installation : Request Unit := .call (.installHook hook)
  let deletion : Request Unit := .call (.deleteNode (.numeric 1 1) true)
  let first := reserved (.numeric 1 1)
  let second := System.Stretch.first (requests Unit) 1 installation first.after
  let third := System.Stretch.first (requests Unit) 2 deletion second.after
  have hrun : System.Run (.idle (requests Unit) (.create (.start ⟨0, 0⟩))) [first, second, third]
      ⟨third.after, 3, []⟩ :=
    .cons (.request_of_ends ⟨_, _, rfl⟩ 0 []) (.cons (.request_of_ends ⟨_, _, rfl⟩ 1 [])
      (.cons (.request_of_ends ⟨_, _, rfl⟩ 2 []) (.nil _)))
  have hmem : ∀ st ∈ [first, second, third], st = first ∨ st = second ∨ st = third := by
    simp
  have horderly : Orderly Request.reservedBy? [first, second, third] := by
    refine ⟨?_, by decide⟩
    rintro st hst id hid ⟨i, hi, rfl⟩
    rcases hmem st hst with rfl | rfl | rfl
    · change some (NodeId.numeric 1 1) = some (.numeric 1 i) at hid
      rw [Option.some_inj, NodeId.numeric_inj] at hid
      rw [← hid.2] at hi
      exact absurd hi (by decide)
    · cases hid
    · cases hid
  have htidy : ∀ st ∈ [first, second, third], Request.Tidy st.request := by
    intro st hst
    rcases hmem st hst with rfl | rfl | rfl
    · trivial
    · trivial
    · rfl
  exact ⟨_, _, hrun, ⟨second, by simp, rfl⟩, rfl, intact_of_run hrun horderly htidy⟩

end AlarmServer
