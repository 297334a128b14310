import AlarmServer.Proofs.Mediation
import AlarmServer.Proofs.Placements
import AlarmServer.Proofs.Registrations

/-!
# Registered callbacks

Programs that install hooks by registrations only find that the callback registered last is asked,
with what it was registered with. A node begins without hooks, and its hooks go with it; so what was
registered before a node came into being does not count. The registry may keep callbacks of nodes
that are gone, but no hook leads to them any more.
-/

namespace AlarmServer

open Interaction (After found)
open Server (Beside)

variable {β : Type}

/-! ### Nodes and their hooks -/

namespace AddressSpace

variable {sp sp' sp'' : AddressSpace β} {c : NodeId}

/-- A node stays and keeps its hooks, or it goes and its hooks go with it. -/
inductive Retains (c : NodeId) (sp sp' : AddressSpace β) : Prop where
  /-- It stays. -/
  | kept (hn : sp'.nodes.contains c = sp.nodes.contains c)
      (hh : ∀ k, sp'.hooks.find? (c, k) = sp.hooks.find? (c, k)) : Retains c sp sp'
  /-- It goes. -/
  | removed (hn : sp'.nodes.contains c = false) (hh : ∀ k, sp'.hooks.find? (c, k) = none) :
      Retains c sp sp'

/-- What becomes of a node and its hooks. -/
inductive Fate (c : NodeId) (sp sp' : AddressSpace β) : Prop where
  /-- It stays or goes. -/
  | retains (h : Retains c sp sp') : Fate c sp sp'
  /-- It comes into being, and no hook changes. -/
  | begins (hb : sp.nodes.contains c = false) (ha : sp'.nodes.contains c = true)
      (hh : ∀ k, sp'.hooks.find? (c, k) = sp.hooks.find? (c, k)) : Fate c sp sp'

private theorem Retains.refl (c : NodeId) (sp : AddressSpace β) : Retains c sp sp :=
  .kept rfl fun _ => rfl

private theorem Retains.trans (h : Retains c sp sp') (h' : Retains c sp' sp'') :
    Retains c sp sp'' := by
  cases h' with
  | removed hn hh => exact .removed hn hh
  | kept hn hh =>
    cases h with
    | kept hn' hh' => exact .kept (hn.trans hn') fun k => (hh k).trans (hh' k)
    | removed hn' hh' => exact .removed (hn.trans hn') fun k => (hh k).trans (hh' k)

private theorem contains_of_deleteNode {id : NodeId} {refs : Bool}
    (h : sp.deleteNode id refs = .ok sp')
    (c : NodeId) : sp'.nodes.contains c = (decide (c ≠ id) && sp.nodes.contains c) := by
  obtain ⟨-, rfl⟩ := deleteNode_eq_ok_iff.1 h
  cases refs <;> simp [Table.contains_mapValues, Table.contains_erase]

private theorem retains_of_deleteNode {id : NodeId} {refs : Bool}
    (h : sp.deleteNode id refs = .ok sp') (c : NodeId) : Retains c sp sp' := by
  have hnodes := contains_of_deleteNode h c
  obtain ⟨-, rfl⟩ := deleteNode_eq_ok_iff.1 h
  have hhooks (k : TransitionKind) : (sp.hooks.filterKeys fun k => k.1 ≠ id).find? (c, k) =
      if c = id then none else sp.hooks.find? (c, k) := by
    rw [Table.find?_filterKeys]
    by_cases hc : c = id <;> simp [hc]
  by_cases hc : c = id
  · exact .removed (hnodes.trans (by simp [hc])) fun k => (hhooks k).trans (if_pos hc)
  · exact .kept (hnodes.trans (by simp [hc])) fun k => (hhooks k).trans (if_neg hc)

/-- A node that is placed begins, and the others stay. -/
theorem fate_of_adds {links : List Link} {requested : Option NodeId} {id : NodeId}
    (h : Adds links requested id sp sp') (hf : sp.nodes.contains id = false) (c : NodeId) :
    Fate c sp sp' := by
  have hhooks : ∀ k, sp'.hooks.find? (c, k) = sp.hooks.find? (c, k) := fun k => by rw [h.hooks]
  by_cases hc : c = id
  · exact .begins (hc ▸ hf) (hc ▸ h.contains) hhooks
  · refine .retains (.kept (Bool.eq_iff_iff.2 ?_) hhooks)
    rw [h.contains_iff, or_iff_right hc]

end AddressSpace

open AddressSpace (Retains Fate)

/-- Changes that neither place a node nor install a hook. -/
theorem Change.retains_of_apply {ch : Change β} {sp sp' : AddressSpace β} (hp : ¬ ch.Places)
    (hi : ∀ hook, ch ≠ .installHook hook) (h : ch.apply sp = .ok sp') (c : NodeId) :
    Retains c sp sp' := by
  rcases Change.inPlace_of_apply hp h with ⟨id, refs, hd⟩ | hplace
  · exact AddressSpace.retains_of_deleteNode hd c
  · refine .kept (hplace.contains c) fun k => ?_
    rcases hplace.hooks with hh | ⟨hook, rfl⟩
    · rw [hh]
    · exact absurd rfl (hi hook)

namespace Request

/-- Does the request work on the address space, and install no hook? -/
def Hookless (r : Request β) : Prop :=
  r.OnSpace ∧ ∀ hook, r ≠ call (.installHook hook)

/-- Only the installation of a hook installs it. -/
theorem eq_installHook_of_may {r : Request β} {hook : Hook β} (h : r.May (.installHook hook)) :
    r = call (.installHook hook) := by
  cases makes_of_may h
  rfl

end Request

/-- What becomes of a node in a stretch of a request that installs no hook, as long as the
identifiers are not used up. -/
theorem System.Stretch.Genuine.fate {st : (requests β).Stretch} (h : st.Genuine)
    (hr : Request.Hookless st.request) {n : Nat} (hn : st.before.space.Unspent n) (c : NodeId) :
    Fate c st.before.space st.after.space := by
  have hp : Request.Placement st.request st.before.space _ st.after.space := h.placement
  generalize Request.given? st.request st.outcome = given at hp
  cases hp with
  | created ha => exact AddressSpace.fate_of_adds ha (hn.free_of_adds ha) c
  | abandoned _ _ ha => exact AddressSpace.fate_of_adds ha (hn.free_of_adds ha) c
  | none _ hsame =>
    by_cases hc : Request.Creates st.request
    · rw [hsame hc]
      exact .retains (.refl c _)
    · refine .retains (h.changed.keeps (.refl c) (fun _ _ _ => .trans) fun ch _ _ hm ha => ?_)
      refine ch.retains_of_apply (Request.not_places_of_may hc hm) (fun hook he => ?_) ha c
      exact hr.2 hook (Request.eq_installHook_of_may (he ▸ hm))

/-! ### Uses of a server -/

/-- What is done with a server by programs that install hooks by registrations only. The other
operations of handles are made of these. -/
inductive Use (β : Type) where
  /-- A request that installs no hook. -/
  | request (r : Request β) (h : r.Hookless)
  /-- Register a callback. -/
  | register (c : Condition) (k : TransitionKind) (slot : Slot β)
  /-- Drop a handle. -/
  | drop (c : Condition)
  /-- Do something beside the address space and the registry. -/
  | beside (f : Tables β → Tables β) (h : ∀ t, (f t).registry = t.registry)

namespace Use

/-- What comes of it. -/
@[reducible] def Result : Use β → Type
  | request r _ => Except StatusCode r.Reply
  | register .. => Except Error Unit
  | drop _ => Unit
  | beside .. => Unit

/-- Carry it out. -/
def perform : (u : Use β) → Action (upcalls β) (Server β) u.Result
  | request r _ => r.perform.run
  | register c k slot => (c.register k slot).perform
  | drop c => c.drop.perform
  | beside f _ => fun s => .done () (s.withTables (f s.tables))

/-- The identifier that it gives because that was asked for. -/
def reserved? : (u : Use β) → Interaction (upcalls β) (Server β) u.Result → Option NodeId
  | request r _, y => r.reserved? y
  | _, _ => none

/-- The attempt that it makes, if it makes one. -/
def attempt? : Use β → Option Attempt
  | request r _ => r.attempt?
  | _ => none

/-- The callback that it registers for a variable. -/
def registers? (c : NodeId) (k : TransitionKind) : Use β → Option (Slot β)
  | register c' k' slot => if c = c'.id ∧ k = k' then some slot else none
  | _ => none

/-- Has it registered a callback for a variable, and succeeded? -/
def registered (c : NodeId) (k : TransitionKind) :
    (u : Use β) → Interaction (upcalls β) (Server β) u.Result → Bool
  | register c' k' _, .done (.ok _) _ => c = c'.id ∧ k = k'
  | _, _ => false

end Use

/-- The uses of a server as a system. -/
def uses (β : Type) : System (upcalls β) (Server β) where
  Request := Use β
  Result u := u.Result
  perform u := u.perform

namespace System.Stretch

/-- Does the node come into being in the stretch? -/
def begins {Y : System (upcalls β) (Server β)} (st : Y.Stretch) (c : NodeId) : Bool :=
  !st.before.space.nodes.contains c && st.after.space.nodes.contains c

/-- Does the stretch register a callback for a variable, and succeed? -/
def registered (st : (uses β).Stretch) (c : NodeId) (k : TransitionKind) : Bool :=
  Use.registered c k st.request st.outcome

/-- The callback that the stretch registers for a variable, even if it fails. -/
def registers? (st : (uses β).Stretch) (c : NodeId) (k : TransitionKind) : Option (Slot β) :=
  Use.registers? c k st.request

end System.Stretch

/-- The identifier that a stretch gives because it was asked for. -/
def Use.reservedBy? (st : (uses β).Stretch) : Option NodeId :=
  Use.reserved? st.request st.outcome

/-- What has happened since a node last came into being. -/
def since (c : NodeId) (trace : List (uses β).Stretch) : List (uses β).Stretch :=
  (trace.reverse.takeWhile fun st => !st.begins c).reverse

/-- The callback registered last for a variable since its node came into being. -/
def lastRegistered? (c : NodeId) (k : TransitionKind) (trace : List (uses β).Stretch) :
    Option (Slot β) :=
  System.latest (·.registers? c k) (since c trace)

/-- Has a registration for a variable succeeded since its node came into being? -/
def isHooked (c : NodeId) (k : TransitionKind) (trace : List (uses β).Stretch) : Bool :=
  (since c trace).any (·.registered c k)

/-- Whom an attempt to make a variable true asks: the callback registered last, if any registration
has succeeded. -/
def guard? (c : NodeId) (k : TransitionKind) (trace : List (uses β).Stretch) : Option (Slot β) :=
  if isHooked c k trace then lastRegistered? c k trace else none

section

variable {c : NodeId} {k : TransitionKind} {fore : List (uses β).Stretch} {st : (uses β).Stretch}

private theorem since_concat (c : NodeId) (fore : List (uses β).Stretch) (st : (uses β).Stretch) :
    since c (fore ++ [st]) = if st.begins c then [] else since c fore ++ [st] := by
  cases h : st.begins c <;> simp [since, h]

private theorem isHooked_concat (c : NodeId) (k : TransitionKind) (fore : List (uses β).Stretch)
    (st : (uses β).Stretch) :
    isHooked c k (fore ++ [st]) = (!st.begins c && (isHooked c k fore || st.registered c k)) := by
  rw [isHooked, since_concat]
  cases st.begins c <;> simp [isHooked]

private theorem lastRegistered?_concat (h : st.begins c = false) :
    lastRegistered? c k (fore ++ [st]) = (st.registers? c k).or (lastRegistered? c k fore) := by
  rw [lastRegistered?, since_concat, if_neg (by simp [h]), System.latest_concat, lastRegistered?]

/-- If all registrations succeed, the callback registered last is asked. -/
theorem guard?_of_registered (h : ∀ st ∈ fore, (st.registers? c k).isSome → st.registered c k) :
    guard? c k fore = lastRegistered? c k fore := by
  unfold guard?
  split
  · rfl
  · next hno =>
    refine ((System.latest_eq_none_iff _ _).2 fun f hf => ?_).symm
    have hmem : f ∈ fore :=
      List.mem_reverse.1 ((List.takeWhile_sublist _).subset (List.mem_reverse.1 hf))
    rw [Option.eq_none_iff_forall_ne_some]
    intro slot hslot
    exact hno (List.any_eq_true.2 ⟨f, hf, h f hmem (by simp [hslot])⟩)

end

/-! ### Stretches of uses -/

/-- What becomes of a server where a handle is dropped: nothing, or the node is deleted and its
callbacks are forgotten. -/
inductive Drops (c : NodeId) (s t : Server β) : Prop where
  /-- Nothing. -/
  | nothing (hs : t.space = s.space) (hr : t.tables.registry = s.tables.registry) : Drops c s t
  /-- The node is deleted. -/
  | deleted (hs : s.space.deleteNode c true = .ok t.space)
      (hr : t.tables.registry = s.tables.registry.remove c) : Drops c s t

/-- A handle is dropped at once. -/
theorem drop_run (c : Condition) (s : Server β) :
    ∃ t, (c.drop : Routine β Unit).perform s = .done () t ∧
      (s.script = .empty → t.script = .empty ∧ Drops c.id s t) := by
  cases ho : c.ownsNode with
  | false => exact ⟨s, c.drop_of_borrowed ho s, fun hs => ⟨hs, .nothing rfl rfl⟩⟩
  | true =>
    obtain ⟨r, u, hanswer, hopen, hdeletion⟩ := Server.answer_deleteNode c.id s
    refine ⟨_, Condition.drop_of_answer ho hanswer, fun hs => ?_⟩
    cases hdeletion with
    | settled hnext _ =>
      rw [hs] at hnext
      cases hnext
    | refused _ _ hu => exact ⟨hopen hs, .nothing hu.space hu.registry⟩
    | deleted _ hdelete hu =>
      exact ⟨hopen hs, .deleted (hdelete.trans (congrArg _ hu.space.symm))
        (congrArg (·.remove c.id) hu.registry)⟩

-- What a stretch of each use is.
private inductive Carried : (uses β).Stretch → Prop where
  /-- A stretch of a request. -/
  | request {st : (requests β).Stretch} (hr : Request.Hookless st.request) (h : st.Genuine) :
      Carried ⟨st.serial, .request st.request hr, st.start, st.answered, st.before, st.outcome⟩
  /-- A registration, which ends at once. -/
  | register (serial : Nat) (c : Condition) (k : TransitionKind) (slot : Slot β) (s : Server β) :
      Carried (.first (uses β) serial (.register c k slot) s)
  /-- A handle is dropped at once. -/
  | drop {serial : Nat} {c : Condition} {s t : Server β}
      (h : s.script = .empty → t.script = .empty ∧ Drops c.id s t) :
      Carried ⟨serial, .drop c, s, [], s, .done () t⟩
  /-- Something beside, which ends at once. -/
  | beside (serial : Nat) (f : Tables β → Tables β) (hf : ∀ t, (f t).registry = t.registry)
      (s : Server β) : Carried (.first (uses β) serial (.beside f hf) s)

private theorem Carried.of_genuine {st : (uses β).Stretch} (h : st.Genuine) : Carried st := by
  obtain ⟨serial, u, start, answered, before, outcome⟩ := st
  obtain ⟨hafter, hbefore⟩ := h
  change before = found start answered at hbefore
  change After (u.perform start) answered outcome at hafter
  subst hbefore
  cases u with
  | request r hr =>
    let st : (requests β).Stretch := ⟨serial, r, start, answered, found start answered, outcome⟩
    have hst : st.Genuine := ⟨hafter, rfl⟩
    exact .request hr hst
  | register c k slot =>
    obtain ⟨a, sp, t, hrun, -⟩ := register_run c k slot start
    obtain ⟨rfl, rfl⟩ := Interaction.after_of_ends ⟨_, _, hrun⟩ hafter
    exact .register serial c k slot start
  | drop c =>
    obtain ⟨t, hrun, ht⟩ := drop_run c start
    obtain ⟨rfl, hy⟩ := Interaction.after_of_ends ⟨_, _, hrun⟩ hafter
    rw [hy.trans hrun]
    exact .drop ht
  | beside f hf =>
    obtain ⟨rfl, rfl⟩ := Interaction.after_of_ends ⟨_, _, rfl⟩ hafter
    exact .beside serial f hf start

private theorem addsNone_of_register (serial : Nat) (c : Condition) (k : TransitionKind)
    (slot : Slot β) (s : Server β) :
    s.space.AddsNone (System.Stretch.first (uses β) serial (.register c k slot) s).after.space := by
  obtain ⟨a, sp, t, hrun, hinst, hb, -⟩ := register_run c k slot s
  have hafter : (System.Stretch.first (uses β) serial (.register c k slot) s).after = t :=
    congrArg Interaction.state hrun
  have hspace : t.space = sp := hb.space
  rw [hafter, hspace]
  cases hinst with
  | settled _ => exact .refl _
  | installed _ _ => exact ⟨rfl, fun _ hi => hi, rfl⟩
  | refused _ _ => exact .refl _

/-! ### Hooks and registry in step -/

/-- The hooks of a server and its registry are what was registered since the nodes came into being.
-/
structure InStep (fore : List (uses β).Stretch) (s : Server β) : Prop where
  /-- Nothing is settled. -/
  script : s.script = .empty
  /-- A hook leads to the callback of its own variable, and its node is there. -/
  own : ∀ c k hook, s.space.hooks.find? (c, k) = some hook →
    hook.variable? = some (c, k) ∧ s.space.nodes.contains c = true
  /-- The variables with a hook are those with a successful registration. -/
  hooked : ∀ c k, s.space.nodes.contains c = true →
    (s.space.hooks.find? (c, k)).isSome = isHooked c k fore
  /-- A hook finds the callback registered last. -/
  slot : ∀ c k, (s.space.hooks.find? (c, k)).isSome →
    s.tables.registry.slot? c k = lastRegistered? c k fore

namespace InStep

variable {fore : List (uses β).Stretch} {s : Server β} {c : NodeId} {k : TransitionKind}

/-- A new server has no hooks. -/
theorem create (ambient : Ambient) : InStep [] (Server.create ambient : Server β) :=
  ⟨rfl, (fun _ _ _ h => nomatch h), fun _ _ _ => rfl, (fun _ _ h => nomatch h)⟩

/-- A node that is not there has no hooks. -/
theorem hooks_eq_none (h : InStep fore s) (hc : s.space.nodes.contains c = false)
    (k : TransitionKind) : s.space.hooks.find? (c, k) = none := by
  rw [Option.eq_none_iff_forall_ne_some]
  intro hook hhook
  rw [(h.own c k hook hhook).2] at hc
  cases hc

/-- Whom an attempt to make a variable true asks. -/
theorem interception? (h : InStep fore s) (hc : s.space.nodes.contains c = true)
    (k : TransitionKind) (session : Session) :
    s.interception? c k session = (guard? c k fore).map (·.call session) := by
  have hhooked := h.hooked c k hc
  have hslot := h.slot c k
  unfold Server.interception? guard?
  cases hhook : s.space.hooks.find? (c, k) with
  | none =>
    rw [hhook] at hhooked
    rw [← hhooked]
    rfl
  | some hook =>
    rw [hhook] at hhooked hslot
    obtain ⟨condition, source, removeBranch, kind, interceptor⟩ := hook
    have hown := (h.own c k _ hhook).1
    cases interceptor with
    | direct callback => cases hown
    | registered =>
      cases hown
      rw [← hslot rfl, ← hhooked]
      rfl

end InStep

section

variable {fore : List (uses β).Stretch} {st : (uses β).Stretch}

-- What is there of a node after a stretch, with its hooks, was there before; or it has no hooks,
-- and if it is there it has just come into being.
private theorem InStep.node_cases (h : InStep fore st.before) {c : NodeId}
    (hfate : Fate c st.before.space st.after.space) :
    (st.begins c = false ∧ st.after.space.nodes.contains c = st.before.space.nodes.contains c ∧
      ∀ k, st.after.space.hooks.find? (c, k) = st.before.space.hooks.find? (c, k)) ∨
    ((st.after.space.nodes.contains c = true → st.begins c = true) ∧
      ∀ k, st.after.space.hooks.find? (c, k) = none) := by
  cases hfate with
  | retains h' =>
    cases h' with
    | kept hn hh => exact .inl ⟨by simp [System.Stretch.begins, hn], hn, hh⟩
    | removed hn hh => exact .inr ⟨fun hc => absurd hc (by simp [hn]), hh⟩
  | begins hb ha hh =>
    exact .inr ⟨fun _ => by simp [System.Stretch.begins, hb, ha],
      fun k => (hh k).trans (h.hooks_eq_none hb k)⟩

-- A stretch that registers nothing keeps hooks and registry in step if each node has its fate, and
-- the callbacks of those that are there stay.
private theorem InStep.of_fate (h : InStep fore st.before) (hscript : st.after.script = .empty)
    (hfate : ∀ c, Fate c st.before.space st.after.space)
    (hslot : ∀ c k, st.after.space.nodes.contains c = true →
      st.after.tables.registry.slot? c k = st.before.tables.registry.slot? c k)
    (hnone : ∀ c k, st.registers? c k = none)
    (hno : ∀ c k, st.registered c k = false) : InStep (fore ++ [st]) st.after := by
  refine ⟨hscript, fun c k hook hhook => ?_, fun c k hc => ?_, fun c k hhook => ?_⟩
  · rcases h.node_cases (hfate c) with ⟨-, hn, hh⟩ | ⟨-, hh⟩
    · obtain ⟨hv, hc⟩ := h.own c k hook (hh k ▸ hhook)
      exact ⟨hv, hn.trans hc⟩
    · rw [hh k] at hhook
      cases hhook
  · rw [isHooked_concat, hno, Bool.or_false]
    rcases h.node_cases (hfate c) with ⟨hb, hn, hh⟩ | ⟨hb, hh⟩
    · rw [hh k, hb, h.hooked c k (hn ▸ hc)]
      rfl
    · rw [hh k, hb hc]
      rfl
  · rcases h.node_cases (hfate c) with ⟨hb, hn, hh⟩ | ⟨-, hh⟩
    · rw [hh k] at hhook
      obtain ⟨hook, hsome⟩ := Option.isSome_iff_exists.1 hhook
      rw [lastRegistered?_concat hb, hnone, Option.none_or, ← h.slot c k hhook]
      exact hslot c k (hn.trans (h.own c k hook hsome).2)
    · rw [hh k] at hhook
      cases hhook

private theorem installs_of_empty {hook : Hook β} {sp sp' : AddressSpace β}
    {a : Except StatusCode Unit} (h : hook.Installs .empty sp a sp') :
    sp'.nodes = sp.nodes ∧
    (∀ c k, sp'.hooks.find? (c, k) =
      if a.isOk = true ∧ c = hook.condition ∧ k = hook.kind then some hook
      else sp.hooks.find? (c, k)) ∧
    (a.isOk = true → sp.nodes.contains hook.condition = true) := by
  cases h with
  | settled hs => cases hs
  | refused hs he => exact ⟨rfl, fun c k => (if_neg fun h => nomatch h.1).symm, fun h => nomatch h⟩
  | installed hs ha =>
    refine ⟨rfl, fun c k => ?_, fun _ => ?_⟩
    · show (sp.hooks.insert _ hook).find? _ = _
      rw [Table.find?_insert]
      by_cases hck : c = hook.condition ∧ k = hook.kind
      · rw [if_pos (Prod.ext hck.1 hck.2), if_pos ⟨rfl, hck⟩]
      · rw [if_neg fun he => hck (Prod.mk.inj he), if_neg fun he => hck he.2]
    · obtain ⟨cs, hcs, -⟩ := ha
      obtain ⟨n, hn, -⟩ := AddressSpace.condition_eq_ok_iff.1 hcs
      rw [Table.contains, hn]
      rfl

-- What a registration does where nothing is settled.
private structure Registers (c : NodeId) (k : TransitionKind) (slot : Slot β) (ok : Bool)
    (st : (uses β).Stretch) : Prop where
  /-- Nothing is settled. -/
  script : st.after.script = .empty
  /-- The nodes stay. -/
  nodes : st.after.space.nodes = st.before.space.nodes
  /-- The hook is installed if the registration succeeds. -/
  hooks : ∀ c' k', st.after.space.hooks.find? (c', k') =
    if ok = true ∧ c' = c ∧ k' = k then some (slot.hook c k)
    else st.before.space.hooks.find? (c', k')
  /-- The callback is kept in any case. -/
  slots : ∀ c' k', st.after.tables.registry.slot? c' k' =
    if c' = c ∧ k' = k then some slot else st.before.tables.registry.slot? c' k'
  /-- It is told whether the registration succeeds. -/
  registered : ∀ c' k', st.registered c' k' = (ok && decide (c' = c ∧ k' = k))
  /-- It succeeds for nodes only that are there. -/
  there : ok = true → st.before.space.nodes.contains c = true

private theorem registers_first (serial : Nat) (c : Condition) (k : TransitionKind)
    (slot : Slot β) {s : Server β} (hs : s.script = .empty) :
    ∃ ok, Registers c.id k slot ok (.first (uses β) serial (.register c k slot) s) := by
  obtain ⟨a, sp, t, hrun, hinst, hb, hnext⟩ := register_run c k slot s
  rw [hs] at hinst hnext
  obtain ⟨hnodes, hhooks, hthere⟩ := installs_of_empty hinst
  let st : (uses β).Stretch := .first (uses β) serial (.register c k slot) s
  have hout : st.outcome = .done (a.mapError (.hookInstallFailed k.variableName)) t := hrun
  have hafter : st.after = t := congrArg Interaction.state hout
  have hspace : st.after.space = sp := hafter ▸ hb.space
  refine ⟨a.isOk, hafter ▸ hnext, hspace ▸ hnodes, hspace ▸ hhooks, fun c' k' => ?_,
    fun c' k' => ?_, hthere⟩
  · show st.after.tables.registry.slot? c' k' = _
    rw [hafter, hb.registry]
    exact Registry.slot?_store _ _ _ _ _ _
  · show Use.registered c' k' (.register c k slot) st.outcome = _
    rw [hout]
    cases a <;> rfl

-- A registration keeps hooks and registry in step, whether it succeeds or fails.
private theorem InStep.register {c : NodeId} {k : TransitionKind} {slot : Slot β} {ok : Bool}
    (h : InStep fore st.before) (hr : Registers c k slot ok st)
    (hslot : ∀ c' k', st.registers? c' k' = if c' = c ∧ k' = k then some slot else none) :
    InStep (fore ++ [st]) st.after := by
  have hbegins : ∀ c', st.begins c' = false := by
    intro c'
    rw [System.Stretch.begins, hr.nodes, Bool.not_and_self]
  refine ⟨hr.script, fun c' k' hook hhook => ?_, fun c' k' hc => ?_, fun c' k' hhook => ?_⟩
  · rw [hr.hooks] at hhook
    rw [hr.nodes]
    split at hhook
    · next hck =>
      cases hhook
      obtain ⟨hok, rfl, rfl⟩ := hck
      exact ⟨rfl, hr.there hok⟩
    · exact h.own c' k' hook hhook
  · rw [isHooked_concat, hbegins, hr.registered, hr.hooks]
    rw [hr.nodes] at hc
    rw [Bool.not_false, Bool.true_and, ← h.hooked c' k' hc]
    by_cases hck : c' = c ∧ k' = k <;> cases ok <;> simp [hck]
  · rw [lastRegistered?_concat (hbegins c'), hr.slots, hslot]
    rw [hr.hooks] at hhook
    split
    · rfl
    · next hck =>
      rw [if_neg fun hck' => hck hck'.2] at hhook
      exact h.slot c' k' hhook

private theorem InStep.of_genuine (h : InStep fore st.before) (hg : st.Genuine) {n : Nat}
    (hn : st.before.space.Unspent n) : InStep (fore ++ [st]) st.after := by
  cases Carried.of_genuine hg with
  | register serial c k slot s =>
    obtain ⟨ok, hr⟩ := registers_first serial c k slot h.script
    exact h.register hr fun _ _ => rfl
  | @request st hr hst =>
    have hadv : Server.Advances (Request.May st.request) st.before st.after :=
      hst.before ▸ (hst.outcome.keeps (Request.does st.request hr.1 st.start)).state
    refine h.of_fate (hadv.script h.script) (hst.fate hr hn) (fun c k _ => ?_)
      (fun _ _ => rfl) fun _ _ => ?_
    · exact congrArg (·.slot? c k) hadv.registry
    · show Use.registered _ _ (.request st.request hr) st.outcome = false
      cases st.outcome <;> rfl
  | beside serial f hf s =>
    refine h.of_fate h.script (fun c => .retains (.refl c _)) (fun c k _ => ?_) (fun _ _ => rfl)
      fun _ _ => rfl
    exact congrArg (·.slot? c k) (hf s.tables)
  | @drop serial c s t hd =>
    obtain ⟨hscript, hdrops⟩ := hd h.script
    cases hdrops with
    | nothing hs hr =>
      refine h.of_fate hscript (fun c' => ?_) (fun c' k _ => ?_) (fun _ _ => rfl) fun _ _ => rfl
      · exact .retains (.kept (congrArg (·.nodes.contains c') hs) fun k =>
          congrArg (·.hooks.find? (c', k)) hs)
      · exact congrArg (·.slot? c' k) hr
    | deleted hs hr =>
      refine h.of_fate hscript (fun c' => .retains (AddressSpace.retains_of_deleteNode hs c'))
        (fun c' k hc => ?_) (fun _ _ => rfl) fun _ _ => rfl
      have hne : c' ≠ c.id := by
        rintro rfl
        change t.space.nodes.contains c.id = true at hc
        rw [AddressSpace.contains_of_deleteNode hs] at hc
        simp at hc
      show t.tables.registry.slot? c' k = _
      rw [hr, Registry.slot?_remove, if_neg hne]

private theorem unspent_of_genuine (hg : st.Genuine) (hs : st.before.script = .empty) {n : Nat}
    (hn : st.before.space.Unspent n) (hr : ∀ i, Use.reservedBy? st = some i → ¬ i.Assignable)
    (hlimit : st.after.space.nextId ≠ st.before.space.nextId → n + 1 < NodeId.assignable) :
    st.after.space.Unspent
      (if st.after.space.nextId = st.before.space.nextId then n else n + 1) := by
  have hnone : st.before.space.AddsNone st.after.space → st.after.space.Unspent
      (if st.after.space.nextId = st.before.space.nextId then n else n + 1) := by
    intro ha
    rw [if_pos ha.nextId]
    exact hn.addsNone ha
  cases Carried.of_genuine hg with
  | request _ hst =>
    refine hn.placement hst.placement (fun i hi hi' => hr i ?_) hlimit
    exact Option.filter_eq_some_iff.2 ⟨hi, decide_eq_true hi'⟩
  | register serial c k slot s => exact hnone (addsNone_of_register serial c k slot s)
  | beside serial f hf s => exact hnone (.refl _)
  | drop hd =>
    refine hnone ?_
    cases (hd hs).2 with
    | nothing hs _ => exact hs ▸ .refl _
    | deleted hs _ => exact AddressSpace.addsNone_of_deleteNode hs

private theorem inStep_before {ambient : Ambient} {trace rest : List (uses β).Stretch}
    {d : (uses β).Config} (h : System.Run (.idle (uses β) (.create ambient)) trace d)
    (ho : Orderly Use.reservedBy? trace) (he : trace = fore ++ st :: rest) :
    InStep fore st.before := by
  rw [he] at h
  refine (h.invariant_before (P := fun old s => InStep old s ∧
    s.space.Unspent (old.countP System.Stretch.assigns))
    ⟨.create ambient, AddressSpace.unspent_initial⟩ fun old f rest' he' hg hf => ?_).1
  exact ⟨hf.1.of_genuine hg hf.2, ho.unspent_step (he.trans he') hf.2
    (unspent_of_genuine hg hf.1.script)⟩

end

/-! ### Attempts -/

/-- The question at which an interaction stands. -/
def Interaction.asks? {S : Signature} {σ α : Type} : Interaction S σ α → Option S.Question
  | done .. => none
  | ask q .. => some q

private theorem interception?_of_cleared {a : Attempt} {s : Server β} (h : a.Cleared s []) :
    s.interception? a.condition a.kind a.session = none := by
  unfold Server.interception?
  cases h with
  | unhooked hh =>
    rw [hh]
    rfl
  | unregistered hh hi hs =>
    rw [hh, Option.bind_some, hi]
    dsimp only
    rw [hs]
    rfl

private theorem asks?_of_course {α : Type} {a : Attempt} {s : Server β}
    {es : List (Exchange (upcalls β) (Server β))}
    {y : Interaction (upcalls β) (Server β) (Except StatusCode α)} (h : a.Course s es y) :
    (es = [] → s.space.idOf a.condition a.kind = some false →
      y.asks? = s.interception? a.condition a.kind a.session ∧
      (s.interception? a.condition a.kind a.session = none →
        y.state.space.idOf a.condition a.kind = some true)) ∧
    (es ≠ [] ∨ s.space.idOf a.condition a.kind ≠ some false → y.asks? = none) := by
  cases h with
  | passed hs _ _ => exact ⟨fun _ hs' => absurd hs' hs, fun _ => rfl⟩
  | vetoed _ _ _ _ => exact ⟨(fun he => nomatch he), fun _ => rfl⟩
  | gone _ _ _ _ => exact ⟨(fun he => nomatch he), fun _ => rfl⟩
  | asks hs hq _ _ =>
    refine ⟨fun _ _ => ⟨hq.symm, fun hnone => ?_⟩, fun hno => ?_⟩
    · rw [hnone] at hq
      cases hq
    · rcases hno with he | hs'
      · exact absurd rfl he
      · exact absurd hs hs'
  | entered _ hc _ hid _ =>
    refine ⟨fun he _ => ?_, fun _ => rfl⟩
    subst he
    exact ⟨(interception?_of_cleared hc).symm, fun _ => (hid _ _).trans (if_pos ⟨rfl, rfl⟩)⟩

/-- Whom attempts ask, in orderly runs. An attempt that finds its variable false asks the callback
that was registered last since its node came into being, with the source and the flag that this was
registered with and on behalf of its own session, provided that any of these registrations has
succeeded; otherwise it asks nobody, and its variable becomes true. It asks nobody else, and asks
only once. If all registrations have succeeded the one asked is simply the last one. -/
theorem asks_last_registered {ambient : Ambient} {trace fore rest : List (uses β).Stretch}
    {st : (uses β).Stretch} {d : (uses β).Config}
    (h : System.Run (.idle (uses β) (.create ambient)) trace d)
    (ho : Orderly Use.reservedBy? trace) (he : trace = fore ++ st :: rest) {a : Attempt}
    (ha : Use.attempt? st.request = some a) :
    (st.answered = [] → st.start.space.idOf a.condition a.kind = some false →
      st.outcome.asks? = (guard? a.condition a.kind fore).map (·.call a.session) ∧
      (guard? a.condition a.kind fore = none →
        st.after.space.idOf a.condition a.kind = some true)) ∧
    (st.answered ≠ [] ∨ st.start.space.idOf a.condition a.kind ≠ some false →
      st.outcome.asks? = none) ∧
    ((∀ f ∈ fore, ∀ c k, (f.registers? c k).isSome → f.registered c k) →
      guard? a.condition a.kind fore = lastRegistered? a.condition a.kind fore) := by
  have hstep := inStep_before h ho he
  have hg : st.Genuine := h.genuine (by simp [he])
  obtain ⟨serial, u, start, answered, before, outcome⟩ := st
  cases u with
  | request r hr =>
    let attempt : (requests β).Stretch := ⟨serial, r, start, answered, before, outcome⟩
    have hattempt : attempt.Genuine := ⟨hg.outcome, hg.before⟩
    obtain ⟨hfirst, hlater⟩ := asks?_of_course (course_of_genuine hattempt ha)
    refine ⟨fun hes hs => ?_, hlater, fun hok => guard?_of_registered fun f hf => hok f hf _ _⟩
    have hbefore : before = start := by
      have hfound := hg.before
      rw [hes] at hfound
      exact hfound
    have hc : before.space.nodes.contains a.condition = true := by
      obtain ⟨n, hn, -⟩ := Option.bind_eq_some_iff.1 hs
      rw [hbefore, Table.contains, hn]
      rfl
    have hguard := hstep.interception? hc a.kind a.session
    change before.interception? _ _ _ = _ at hguard
    rw [hbefore] at hguard
    obtain ⟨hasks, hpass⟩ := hfirst hes hs
    refine ⟨hasks.trans hguard, fun hnone => hpass ?_⟩
    rw [hnone] at hguard
    exact hguard
  | _ => cases ha

/-- A condition under an identifier that the server does not give out by itself is created. -/
def createReserved : Use Bool :=
  .request (.call (.createCondition { overheatRequest with requestedId := some (.numeric 1 1) }))
    ⟨trivial, fun _ h => nomatch h⟩

/-- A callback is registered for its acknowledgement. -/
def registerReserved (callback : Bool) : Use Bool :=
  .register (.wrap (.numeric 1 1)) .acked ⟨.serverObject, false, callback⟩

/-- It is deleted. -/
def deleteReserved : Use Bool :=
  .request (.call (.deleteNode (.numeric 1 1) true)) ⟨trivial, fun _ h => nomatch h⟩

/-- A client acknowledges it. -/
def acknowledgeReserved : Use Bool :=
  .request (.client (.acknowledge none none) (.numeric 1 1)) ⟨trivial, fun _ h => nomatch h⟩

/-- The condition is created in a new server. -/
def createdOnce : (uses Bool).Stretch := .first _ 0 createReserved (.create (.start ⟨0, 0⟩))

/-- A callback that vetoes is registered. -/
def registeredOnce : (uses Bool).Stretch := .first _ 1 (registerReserved false) createdOnce.after

/-- The condition is deleted, and the registry keeps the callback. -/
def deletedOnce : (uses Bool).Stretch := .first _ 2 deleteReserved registeredOnce.after

/-- It is created again. -/
def createdAgain : (uses Bool).Stretch := .first _ 3 createReserved deletedOnce.after

/-- Another callback is registered. -/
def registeredAgain : (uses Bool).Stretch := .first _ 4 (registerReserved true) createdAgain.after

/-- What has happened before. -/
def recreated : List (uses Bool).Stretch :=
  [createdOnce, registeredOnce, deletedOnce, createdAgain, registeredAgain]

/-- A client acknowledges the condition that was created again. -/
def acknowledgedAgain : (uses Bool).Stretch := .first _ 5 acknowledgeReserved registeredAgain.after

/-- A condition that is deleted with a callback and created again asks the callback that is
registered afterwards. -/
theorem asks_registeredAgain :
    ∃ d, System.Run (.idle (uses Bool) (.create (.start ⟨0, 0⟩)))
        (recreated ++ [acknowledgedAgain]) d ∧
      guard? (.numeric 1 1) .acked recreated = some ⟨.serverObject, false, true⟩ ∧
      acknowledgedAgain.outcome.asks? = some (.transition true none .serverObject false) := by
  have h : System.Run (.idle (uses Bool) (.create (.start ⟨0, 0⟩)))
      (recreated ++ [acknowledgedAgain]) (acknowledgedAgain.settle 6 []) :=
    .cons (.request_of_ends ⟨_, _, rfl⟩ 0 []) <| .cons (.request_of_ends ⟨_, _, rfl⟩ 1 []) <|
    .cons (.request_of_ends ⟨_, _, rfl⟩ 2 []) <| .cons (.request_of_ends ⟨_, _, rfl⟩ 3 []) <|
    .cons (.request_of_ends ⟨_, _, rfl⟩ 4 []) <|
    .cons (.request (Y := uses Bool) _ 5 [] acknowledgeReserved) (.nil _)
  have ho : Orderly Use.reservedBy? (recreated ++ [acknowledgedAgain]) := by
    refine ⟨?_, by decide⟩
    have hall : ∀ st ∈ recreated ++ [acknowledgedAgain],
        Use.reservedBy? st ∈ [none, some (.numeric 1 1)] := by decide
    rintro st hst id hid ⟨i, hi, rfl⟩
    have hmem := hall st hst
    rw [hid] at hmem
    simp only [List.mem_cons, List.not_mem_nil, or_false, reduceCtorEq, false_or, Option.some_inj,
      NodeId.numeric_inj] at hmem
    rw [hmem.2] at hi
    exact absurd hi (by decide)
  have hguard : guard? (.numeric 1 1) .acked recreated = some ⟨.serverObject, false, true⟩ := rfl
  have hid : acknowledgedAgain.start.space.idOf (.numeric 1 1) .acked = some false := rfl
  obtain ⟨hasks, -⟩ := (asks_last_registered h ho rfl
    (a := ⟨.numeric 1 1, .acked, none⟩) rfl).1 rfl hid
  rw [hguard] at hasks
  exact ⟨_, h, hguard, hasks⟩

end AlarmServer
