import AlarmServer.Proofs.Callbacks
import AlarmServer.Proofs.Roles

/-!
# Dealings with a server

Whatever programs do with a server by handles and by its runtime: they use it as programs do that
install hooks by registrations only, and install hooks themselves. Each stretch of what they do is
one of a request, registers a callback, drops a handle, or leaves nodes and registry alone.
-/

namespace AlarmServer

open Interaction (After found)

variable {β : Type}

/-- What is done with a server. -/
inductive Dealing (β : Type) where
  /-- Use it. -/
  | use (u : Use β)
  /-- Install a hook. -/
  | installHook (hook : Hook β)

namespace Dealing

/-- What comes of it. -/
@[reducible] def Result : Dealing β → Type
  | use u => u.Result
  | installHook _ => Except StatusCode Unit

/-- Carry it out. -/
def perform : (x : Dealing β) → Action (upcalls β) (Server β) x.Result
  | use u => u.perform
  | installHook hook => (Request.call (.installHook hook)).perform.run

end Dealing

/-- The dealings with a server as a system. -/
def dealings (β : Type) : System (upcalls β) (Server β) where
  Request := Dealing β
  Result x := x.Result
  perform x := x.perform

namespace System.Stretch

/-- The stretch as one of a request, if that is what is dealt with. -/
def request? : (dealings β).Stretch → Option (requests β).Stretch
  | ⟨serial, .use (.request r _), start, answered, before, outcome⟩ =>
    some ⟨serial, r, start, answered, before, outcome⟩
  | ⟨serial, .installHook hook, start, answered, before, outcome⟩ =>
    some ⟨serial, .call (.installHook hook), start, answered, before, outcome⟩
  | _ => none

variable (st : (dealings β).Stretch)

/-- The identifier that the stretch gives, if it creates a node. -/
def gives? : Option NodeId := st.request?.bind (·.given?)

/-- The identifier under which the stretch places a node. -/
def places? : Option NodeId := st.request?.bind (·.placed?)

/-- The identifier that the stretch gives because it was asked for. -/
def reserves? : Option NodeId := st.request?.bind Request.reservedBy?

/-- The node that the stretch deletes, unless it drops a handle. -/
def removes? : Option NodeId := st.request?.bind (·.deletes?)

/-- The role of the node that the stretch places. -/
def placedRole? : Option Role := st.request?.bind fun f => Request.newRole? f.request

/-- The condition for which the stretch registers a callback. -/
def registersFor? : Option NodeId :=
  match st.request with
  | Dealing.use (.register c _ _) => some c.id
  | _ => none

/-- The node that is deleted because the stretch drops a handle that owns it. -/
def drops? : Option NodeId :=
  match st.request with
  | Dealing.use (.drop c) =>
    if c.ownsNode && st.before.space.nodes.contains c.id then some c.id else none
  | _ => none

end System.Stretch

/-- A handle is dropped where nothing is settled. If it owns a node that is there, this is deleted
and its callbacks are forgotten; otherwise nothing happens to nodes and registry. -/
inductive Condition.Dropped (c : Condition) (s t : Server β) : Prop where
  /-- The node is deleted. -/
  | deleted (ho : c.ownsNode = true) (hc : s.space.nodes.contains c.id = true)
      (hs : s.space.deleteNode c.id true = .ok t.space)
      (hr : t.tables.registry = s.tables.registry.remove c.id)
  /-- Nothing happens. -/
  | nothing (hn : (c.ownsNode && s.space.nodes.contains c.id) = false) (hs : t.space = s.space)
      (hr : t.tables.registry = s.tables.registry)

/-- Where nothing is settled a handle is dropped at once. -/
theorem Condition.dropped_run (c : Condition) {s : Server β} (hs : s.script = .empty) :
    ∃ t, (c.drop : Routine β Unit).perform s = .done () t ∧ t.script = .empty ∧ c.Dropped s t := by
  cases ho : c.ownsNode with
  | false => exact ⟨s, c.drop_of_borrowed ho s, hs, .nothing (by simp [ho]) rfl rfl⟩
  | true =>
    obtain ⟨r, u, hanswer, hopen, hdeletion⟩ := Server.answer_deleteNode c.id s
    refine ⟨_, Condition.drop_of_answer ho hanswer, ?_⟩
    cases hdeletion with
    | settled hnext _ =>
      rw [hs] at hnext
      cases hnext
    | refused _ hdelete hu =>
      refine ⟨hopen hs, .nothing ?_ hu.space hu.registry⟩
      rw [AddressSpace.missing_of_deleteNode hdelete, Bool.and_false]
    | deleted _ hdelete hu =>
      exact ⟨hopen hs, .deleted ho (AddressSpace.deleteNode_eq_ok_iff.1 hdelete).1
        (hdelete.trans (congrArg _ hu.space.symm)) (congrArg (·.remove c.id) hu.registry)⟩

/-- What a stretch does where nothing is settled. -/
inductive Deed (st : (dealings β).Stretch) : Prop where
  /-- It is a stretch of a request. -/
  | request {f : (requests β).Stretch} (hf : st.request? = some f) (hg : f.Genuine)
      (hr : Request.OnSpace f.request) (hbefore : f.before = st.before)
      (hafter : f.after = st.after)
  /-- It registers a callback. -/
  | register {c : Condition} {k : TransitionKind} {slot : Slot β}
      (hr : st.request = Dealing.use (.register c k slot))
      (hspace : ∃ hooks, st.after.space = { st.before.space with hooks := hooks })
      (hregistry : st.after.tables.registry = st.before.tables.registry.store c.id k slot)
      (hscript : st.after.script = .empty)
  /-- It drops a handle. -/
  | drop {c : Condition} (hr : st.request = Dealing.use (.drop c))
      (h : c.Dropped st.before st.after) (hscript : st.after.script = .empty)
  /-- It does something beside. -/
  | beside {f : Tables β → Tables β} {hf : ∀ t, (f t).registry = t.registry}
      (hr : st.request = Dealing.use (.beside f hf)) (hspace : st.after.space = st.before.space)
      (hregistry : st.after.tables.registry = st.before.tables.registry)
      (hscript : st.after.script = .empty)

section

variable {st : (dealings β).Stretch}

private theorem System.Stretch.Genuine.deed (hg : st.Genuine) (hs : st.before.script = .empty) :
    Deed st := by
  obtain ⟨serial, x, s, es, before, y⟩ := st
  obtain ⟨hafter, hbefore⟩ := hg
  change After (x.perform s) es y at hafter
  change before = found s es at hbefore
  subst hbefore
  cases x with
  | installHook hook => exact .request rfl ⟨hafter, rfl⟩ trivial rfl rfl
  | use u =>
    cases u with
    | request r hr => exact .request rfl ⟨hafter, rfl⟩ hr.1 rfl rfl
    | register c k slot =>
      obtain ⟨a, sp, t, hrun, hinst, hb, hnext⟩ := register_run c k slot s
      obtain ⟨rfl, hy⟩ := Interaction.after_of_ends ⟨_, _, hrun⟩ hafter
      have ht : y = .done (a.mapError (.hookInstallFailed k.variableName)) t := hy.trans hrun
      subst ht
      refine .register rfl ?_ hb.registry ?_
      · show ∃ hooks, t.space = { s.space with hooks := hooks }
        have hspace : t.space = sp := hb.space
        rw [hspace]
        cases hinst with
        | settled _ => exact ⟨s.space.hooks, rfl⟩
        | installed _ _ => exact ⟨_, rfl⟩
        | refused _ _ => exact ⟨s.space.hooks, rfl⟩
      · change s.script = .empty at hs
        rw [hs] at hnext
        exact hnext
    | drop c =>
      have hends : ∃ a t, (c.drop : Routine β Unit).perform s = .done a t := by
        obtain ⟨t, hrun, -⟩ := drop_run c s
        exact ⟨_, _, hrun⟩
      obtain ⟨rfl, hy⟩ := Interaction.after_of_ends hends hafter
      obtain ⟨t, hrun, hscript, hdropped⟩ := c.dropped_run (s := s) hs
      have ht : y = .done () t := hy.trans hrun
      subst ht
      exact .drop rfl hdropped hscript
    | beside f hf =>
      obtain ⟨rfl, hy⟩ := Interaction.after_of_ends ⟨_, _, rfl⟩ hafter
      subst hy
      exact .beside rfl rfl (hf s.tables) hs

private theorem quiet_of_request {f : (requests β).Stretch} (hf : st.request? = some f) :
    st.registersFor? = none ∧ st.drops? = none := by
  obtain ⟨serial, x, start, answered, before, outcome⟩ := st
  cases x with
  | installHook hook => exact ⟨rfl, rfl⟩
  | use u =>
    cases u with
    | request r hr => exact ⟨rfl, rfl⟩
    | _ => cases hf

private theorem request?_of_register {c : Condition} {k : TransitionKind} {slot : Slot β}
    (hr : st.request = Dealing.use (.register c k slot)) :
    st.request? = none ∧ st.registersFor? = some c.id ∧ st.drops? = none := by
  obtain ⟨serial, x, start, answered, before, outcome⟩ := st
  cases hr
  exact ⟨rfl, rfl, rfl⟩

private theorem request?_of_drop {c : Condition} (hr : st.request = Dealing.use (.drop c)) :
    st.request? = none ∧ st.registersFor? = none ∧ st.drops? =
      if c.ownsNode && st.before.space.nodes.contains c.id then some c.id else none := by
  obtain ⟨serial, x, start, answered, before, outcome⟩ := st
  cases hr
  exact ⟨rfl, rfl, rfl⟩

private theorem request?_of_beside {f : Tables β → Tables β}
    {hf : ∀ t, (f t).registry = t.registry} (hr : st.request = Dealing.use (.beside f hf)) :
    st.request? = none ∧ st.registersFor? = none ∧ st.drops? = none := by
  obtain ⟨serial, x, start, answered, before, outcome⟩ := st
  cases hr
  exact ⟨rfl, rfl, rfl⟩

/-- A stretch that registers a callback deals with no node. -/
theorem System.Stretch.quiet_of_registersFor {i : NodeId} (h : st.registersFor? = some i) :
    st.places? = none ∧ st.removes? = none ∧ st.drops? = none := by
  obtain ⟨serial, x, start, answered, before, outcome⟩ := st
  cases x with
  | installHook hook => cases h
  | use u =>
    cases u with
    | register c k slot => exact ⟨rfl, rfl, rfl⟩
    | _ => cases h

namespace Deed

private theorem advances {f : (requests β).Stretch} (hg : f.Genuine)
    (hr : Request.OnSpace f.request) :
    Server.Advances (Request.May f.request) f.before f.after :=
  hg.before ▸ (hg.outcome.keeps (Request.does f.request hr f.start)).state

/-- Nothing is settled. -/
theorem script (h : Deed st) (hs : st.before.script = .empty) : st.after.script = .empty := by
  cases h with
  | request hf hg hr hbefore hafter =>
    rw [← hafter]
    exact (advances hg hr).script (hbefore ▸ hs)
  | register _ _ _ hscript => exact hscript
  | drop _ _ hscript => exact hscript
  | beside _ _ _ hscript => exact hscript

/-- The callbacks of a condition are as before, unless one is registered or they are forgotten. -/
theorem callbacks? (h : Deed st) {i : NodeId} (hi : st.registersFor? ≠ some i) :
    st.after.tables.registry.callbacks? i =
      if st.drops? = some i then none else st.before.tables.registry.callbacks? i := by
  cases h with
  | request hf hg hr hbefore hafter =>
    rw [(quiet_of_request hf).2, if_neg (fun he => nomatch he), ← hbefore, ← hafter,
      (advances hg hr).registry]
  | @register c k slot hr _ hregistry _ =>
    obtain ⟨-, hfor, hdrops⟩ := request?_of_register hr
    have hne : i ≠ c.id := fun he => hi (he ▸ hfor)
    rw [hdrops, if_neg (fun he => nomatch he), hregistry]
    exact (Table.find?_insert _ _ _ _).trans (if_neg hne)
  | @drop c hr hdropped _ =>
    rw [(request?_of_drop hr).2.2]
    cases hdropped with
    | deleted ho hc _ hregistry =>
      have hfind := Table.find?_erase st.before.tables.registry.records c.id i
      simp only [ho, hc, Bool.and_self, if_true, Option.some_inj, eq_comm (a := c.id)]
      rw [hregistry]
      exact hfind
    | nothing hn _ hregistry => simp [hn, hregistry]
  | beside hr _ hregistry _ =>
    rw [(request?_of_beside hr).2.2, if_neg (fun he => nomatch he), hregistry]

/-- A condition has callbacks after one is registered, and none after they are forgotten. -/
theorem contains_registry (h : Deed st) (i : NodeId) : st.after.tables.registry.contains i =
    if st.registersFor? = some i then true
    else if st.drops? = some i then false else st.before.tables.registry.contains i := by
  by_cases hi : st.registersFor? = some i
  · rw [if_pos hi]
    cases h with
    | request hf _ _ _ _ =>
      rw [(quiet_of_request hf).1] at hi
      cases hi
    | @register c k slot hr _ hregistry _ =>
      rw [(request?_of_register hr).2.1] at hi
      cases hi
      rw [hregistry, Registry.contains_store, decide_eq_true rfl, Bool.true_or]
    | drop hr _ _ =>
      rw [(request?_of_drop hr).2.1] at hi
      cases hi
    | beside hr _ _ _ =>
      rw [(request?_of_beside hr).2.1] at hi
      cases hi
  · rw [if_neg hi]
    show (st.after.tables.registry.callbacks? i).isSome = _
    rw [h.callbacks? hi]
    split <;> rfl

/-- What is told of the role of a node, apart from its mark, is as before, unless the node is placed
or deleted. -/
theorem any_role? (h : Deed st) {p : Role → Bool} (hp : ∀ r b, p { r with notifier := b } = p r)
    (i : NodeId) : (st.after.space.role? i).any p =
      if st.places? = some i then st.placedRole?.any p
      else if st.removes? = some i ∨ st.drops? = some i then false
      else (st.before.space.role? i).any p := by
  cases h with
  | @request f hf hg _ hbefore hafter =>
    have hplaces : st.places? = f.placed? := by rw [System.Stretch.places?, hf, Option.bind_some]
    have hremoves : st.removes? = f.deletes? := by
      rw [System.Stretch.removes?, hf, Option.bind_some]
    have hrole : st.placedRole? = Request.newRole? f.request := by
      rw [System.Stretch.placedRole?, hf, Option.bind_some]
    rw [hplaces, hremoves, hrole, (quiet_of_request hf).2, ← hbefore, ← hafter, hg.role?,
      System.Stretch.turns]
    simp only [reduceCtorEq, or_false]
    split
    · rfl
    · split
      · rfl
      · split
        · split
          · simp [Option.any_map, hp]
          · rfl
        · rfl
  | register hr hspace _ _ =>
    obtain ⟨hooks, hspace⟩ := hspace
    obtain ⟨hnone, -, hdrops⟩ := request?_of_register hr
    simp [System.Stretch.places?, System.Stretch.removes?, hnone, hdrops, hspace,
      AddressSpace.role?]
  | @drop c hr hdropped _ =>
    obtain ⟨hnone, -, hdrops⟩ := request?_of_drop hr
    have hplaces : st.places? = none := by rw [System.Stretch.places?, hnone, Option.bind_none]
    have hremoves : st.removes? = none := by rw [System.Stretch.removes?, hnone, Option.bind_none]
    rw [hplaces, hremoves, hdrops]
    cases hdropped with
    | deleted ho hc hs _ =>
      rw [AddressSpace.role?_deleteNode hs]
      simp only [ho, hc, Bool.and_self, if_true, reduceCtorEq, if_false, false_or, Option.some_inj,
        eq_comm (a := c.id)]
      split <;> rfl
    | nothing hn hs _ => simp [hn, hs]
  | beside hr hspace _ _ =>
    obtain ⟨hnone, -, hdrops⟩ := request?_of_beside hr
    simp [System.Stretch.places?, System.Stretch.removes?, hnone, hdrops, hspace]

/-- A stretch uses up at most one identifier. -/
theorem unspent (h : Deed st) {n : Nat} (hn : st.before.space.Unspent n)
    (hr : ∀ i, st.reserves? = some i → ¬ i.Assignable)
    (hlimit : st.after.space.nextId ≠ st.before.space.nextId → n + 1 < NodeId.assignable) :
    st.after.space.Unspent
      (if st.after.space.nextId = st.before.space.nextId then n else n + 1) := by
  have hnone (ha : st.before.space.AddsNone st.after.space) : st.after.space.Unspent
      (if st.after.space.nextId = st.before.space.nextId then n else n + 1) := by
    rw [if_pos ha.nextId]
    exact hn.addsNone ha
  cases h with
  | @request f hf hg _ hbefore hafter =>
    rw [← hbefore] at hn hlimit ⊢
    rw [← hafter] at hlimit ⊢
    refine hn.placement hg.placement (fun i hi hi' => hr i ?_) hlimit
    rw [System.Stretch.reserves?, hf, Option.bind_some]
    exact Option.filter_eq_some_iff.2 ⟨hi, decide_eq_true hi'⟩
  | register _ hspace _ _ =>
    obtain ⟨hooks, hspace⟩ := hspace
    exact hnone (hspace ▸ ⟨rfl, fun _ hi => hi, rfl⟩)
  | drop _ hdropped _ =>
    cases hdropped with
    | deleted _ _ hs _ => exact hnone (AddressSpace.addsNone_of_deleteNode hs)
    | nothing _ hs _ => exact hnone (hs ▸ .refl _)
  | beside _ hspace _ _ => exact hnone (hspace ▸ .refl _)

end Deed

end

/-! ### Runs of dealings -/

section

variable {ambient : Ambient} {trace fore rest : List (dealings β).Stretch}
  {st : (dealings β).Stretch} {d : (dealings β).Config}

/-- In the course of a run nothing is settled. -/
theorem System.Run.script_before (h : System.Run (.idle (dealings β) (.create ambient)) trace d)
    (he : trace = fore ++ st :: rest) : st.before.script = .empty := by
  rw [he] at h
  exact h.invariant_before (P := fun _ s => s.script = .empty) rfl
    fun _ f _ _ hg hf => (hg.deed hf).script hf

/-- Each stretch of a run is a deed. -/
theorem System.Run.deed (h : System.Run (.idle (dealings β) (.create ambient)) trace d)
    (hst : st ∈ trace) : Deed st := by
  obtain ⟨fore, rest, rfl⟩ := List.append_of_mem hst
  exact (h.genuine hst).deed (h.script_before rfl)

/-- In the course of an orderly run the identifiers are used up one after the other. -/
theorem System.Run.unspent_before (h : System.Run (.idle (dealings β) (.create ambient)) trace d)
    (ho : Orderly System.Stretch.reserves? trace) (he : trace = fore ++ st :: rest) :
    st.before.space.Unspent (fore.countP System.Stretch.assigns) := by
  subst he
  refine h.invariant_before (P := fun old s =>
    s.space.Unspent (old.countP System.Stretch.assigns)) AddressSpace.unspent_initial ?_
  intro old f rest' he' _ hf
  have hdeed : Deed f := h.deed (by rw [he']; simp)
  exact ho.unspent_step he' hf hdeed.unspent

end

end AlarmServer
