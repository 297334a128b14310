import AlarmServer.Proofs.Handles
import AlarmServer.Proofs.Hooks

/-!
# Registrations

A registration keeps its callback first and installs the hook that leads to it afterwards. If the
hook cannot be installed the registration fails, and the callback is kept all the same. A hook that
was installed before then leads to the callback of the failed registration.
-/

namespace AlarmServer

open Server (Beside)

variable {β : Type}

/-- The variable whose registered callback the hook calls, unless it calls a callback directly. -/
def Hook.variable? (h : Hook β) : Option (NodeId × TransitionKind) :=
  match h.interceptor with
  | .registered => some (h.condition, h.kind)
  | .direct _ => none

/-- The call of a registered callback. -/
def Slot.call (slot : Slot β) (session : Session) : Upcall β :=
  .transition slot.callback session slot.source slot.removeBranch

/-- The hook that leads to a registered callback. -/
def Slot.hook (slot : Slot β) (c : NodeId) (k : TransitionKind) : Hook β :=
  ⟨c, slot.source, slot.removeBranch, k, .registered⟩

namespace Registry

/-- A registration makes the record of its condition, and no other. -/
theorem contains_store (r : Registry β) (c c' : NodeId) (k : TransitionKind) (slot : Slot β) :
    (r.store c k slot).contains c' = (decide (c' = c) || r.contains c') :=
  Table.contains_insert r.records c c' _

/-- A registration changes nothing exactly if the callback is registered already. -/
theorem slot?_store_eq_iff (r : Registry β) (c : NodeId) (k : TransitionKind) (slot : Slot β) :
    (∀ c' k', (r.store c k slot).slot? c' k' = r.slot? c' k') ↔ r.slot? c k = some slot := by
  simp only [slot?_store]
  constructor
  · intro h
    have hk := h c k
    rw [if_pos ⟨rfl, rfl⟩] at hk
    exact hk.symm
  · intro h c' k'
    split
    · next hck => rw [hck.1, hck.2, h]
    · rfl

end Registry

namespace AddressSpace

/-- Why a hook cannot be installed. -/
inductive RefusesHook (sp : AddressSpace β) (h : Hook β) : StatusCode → Prop where
  /-- The condition is unknown. -/
  | unknown (hn : sp.nodes.find? h.condition = none) : RefusesHook sp h .badNodeIdUnknown
  /-- The node is no condition. -/
  | otherNode {n : Node} (hn : sp.nodes.find? h.condition = some n)
      (hb : ∀ c, n.body ≠ .condition c) : RefusesHook sp h .badTypeDefinitionInvalid
  /-- The condition has no such variable. -/
  | noVariable {c : ConditionState} (hc : sp.condition h.condition = .ok c)
      (hk : h.kind ∉ c.type.kinds) : RefusesHook sp h .badNoMatch
  /-- The source is unknown. -/
  | noSource {c : ConditionState} (hc : sp.condition h.condition = .ok c)
      (hk : h.kind ∈ c.type.kinds) (hs : sp.nodes.contains h.source = false) :
      RefusesHook sp h .badSourceNodeIdInvalid

/-- The condition of a hook has its variable, and its source is there. -/
def AcceptsHook (sp : AddressSpace β) (h : Hook β) : Prop :=
  ∃ c, sp.condition h.condition = .ok c ∧ h.kind ∈ c.type.kinds ∧
    sp.nodes.contains h.source = true

private theorem refusesHook_of_condition {sp : AddressSpace β} {h : Hook β} {e : StatusCode}
    (hc : sp.condition h.condition = .error e) : sp.RefusesHook h e := by
  unfold condition node at hc
  cases hn : sp.nodes.find? h.condition with
  | none =>
    rw [hn] at hc
    cases hc
    exact .unknown hn
  | some n =>
    rw [hn] at hc
    change n.condition = .error e at hc
    unfold Node.condition at hc
    split at hc
    · cases hc
    · next hb =>
      cases hc
      exact .otherNode hn hb

/-- A hook is installed, or there is a reason why not. -/
theorem installHook_cases (sp : AddressSpace β) (h : Hook β) :
    (sp.installHook h = .ok { sp with hooks := sp.hooks.insert (h.condition, h.kind) h } ∧
        sp.AcceptsHook h) ∨
      ∃ e, sp.installHook h = .error e ∧ sp.RefusesHook h e := by
  rw [installHook]
  simp only [SpaceAction.effect_eq_error_iff, SpaceAction.installHook]
  rw [SpaceAction.outcome_query_bind]
  cases hc : sp.condition h.condition with
  | error e => exact .inr ⟨e, rfl, refusesHook_of_condition hc⟩
  | ok c =>
    by_cases hk : h.kind ∈ c.type.kinds
    · cases hs : sp.nodes.contains h.source with
      | true => exact .inl ⟨installHook_eq_ok_iff.2 ⟨c, hc, hk, hs, rfl⟩, c, hc, hk, hs⟩
      | false =>
        refine .inr ⟨_, ?_, .noSource hc hk hs⟩
        have hs : ¬ sp.nodes.contains h.source = true := by simp [hs]
        simp only [if_pos hk, SpaceAction.outcome_get_bind, if_neg hs]
        rfl
    · refine .inr ⟨_, ?_, .noVariable hc hk⟩
      simp only [if_neg hk]
      rfl

end AddressSpace

/-- What a runtime with these settled answers answers to the installation of a hook, and which
address space it leaves. -/
inductive Hook.Installs (h : Hook β) (script : Script) (sp : AddressSpace β) :
    Except StatusCode Unit → AddressSpace β → Prop where
  /-- The answer was settled, and nothing is done. -/
  | settled {a : Except StatusCode Unit} (hs : (script.next .installHook).1 = .settled a) :
      h.Installs script sp a sp
  /-- The hook is installed. -/
  | installed (hs : (script.next .installHook).1 = .genuine) (ha : sp.AcceptsHook h) :
      h.Installs script sp (.ok ())
        { sp with hooks := sp.hooks.insert (h.condition, h.kind) h }
  /-- The hook cannot be installed. -/
  | refused {e : StatusCode} (hs : (script.next .installHook).1 = .genuine)
      (he : sp.RefusesHook h e) : h.Installs script sp (.error e) sp

private theorem installHook_run (h : Hook β) (s : Server β) :
    ∃ a sp t, Server.answer (.installHook h) s = .done a t ∧ h.Installs s.script s.space a sp ∧
      Beside (s.withSpace sp) t ∧ t.script = (s.script.next .installHook).2 := by
  rw [Server.answer_run]
  cases hs : (s.script.next .installHook).1 with
  | settled a => exact ⟨a, s.space, _, rfl, .settled hs, ⟨rfl, rfl, rfl, rfl, rfl⟩, rfl⟩
  | genuine =>
    show ∃ a sp t, (Service.act (.installHook h) >>= fun _ =>
      Service.log .debug _ : Service β Unit).run _ = _ ∧ _
    rw [Service.act_bind_run (SpaceAction.checksFirst_installHook h)]
    rcases s.space.installHook_cases h with ⟨hok, ha⟩ | ⟨e, he, hr⟩
    · rw [AddressSpace.installHook] at hok
      simp only [hok]
      exact ⟨_, _, _, rfl, .installed hs ha, ⟨rfl, rfl, rfl, rfl, rfl⟩, rfl⟩
    · rw [AddressSpace.installHook] at he
      simp only [he]
      exact ⟨_, _, _, rfl, .refused hs hr, ⟨rfl, rfl, rfl, rfl, rfl⟩, rfl⟩

/-- The server with a callback kept in its registry. -/
def Server.keepSlot (s : Server β) (c : NodeId) (k : TransitionKind) (slot : Slot β) : Server β :=
  { s with tables.registry := s.tables.registry.store c k slot }

-- A hook that leads to the variable whose callback is kept calls that callback, and every other
-- hook calls whom it called before.
private theorem interception?_keepSlot (s : Server β) (c : NodeId) (k : TransitionKind)
    (slot : Slot β) (c' : NodeId) (k' : TransitionKind) (session : Session) :
    (s.keepSlot c k slot).interception? c' k' session =
      if (s.space.hooks.find? (c', k')).bind Hook.variable? = some (c, k) then
        some (slot.call session)
      else s.interception? c' k' session := by
  unfold Server.interception?
  show Option.bind (s.space.hooks.find? (c', k')) _ = _
  cases s.space.hooks.find? (c', k') with
  | none => rfl
  | some h =>
    obtain ⟨condition, source, removeBranch, kind, interceptor⟩ := h
    cases interceptor with
    | direct callback => rfl
    | registered =>
      show ((s.tables.registry.store c k slot).slot? condition kind).map _ = _
      rw [Registry.slot?_store]
      by_cases hv : condition = c ∧ kind = k
      · rw [if_pos hv, hv.1, hv.2]
        exact (if_pos rfl).symm
      · rw [if_neg hv]
        refine (if_neg fun he => hv ?_).symm
        exact Prod.mk.inj (Option.some_inj.1 he)

private theorem interception?_installed {s : Server β} {h : Hook β} {a : Except StatusCode Unit}
    {sp : AddressSpace β} (hs : h.Installs s.script s.space a sp) {c : NodeId} {k : TransitionKind}
    (hne : (sp.hooks.find? (c, k)).bind Hook.variable? ≠ h.variable?) (session : Session) :
    (s.withSpace sp).interception? c k session = s.interception? c k session := by
  cases hs with
  | settled _ => rfl
  | refused _ _ => rfl
  | installed _ _ =>
    rw [Table.find?_insert] at hne
    unfold Server.interception?
    show Option.bind (Table.find? (Table.insert _ _ _) _) _ = _
    rw [Table.find?_insert]
    split
    · next hck =>
      rw [if_pos hck] at hne
      exact absurd rfl hne
    · rfl

private theorem register_eq_request (c : Condition) (k : TransitionKind) (slot : Slot β)
    (s : Server β) :
    ∃ t, (c.register k slot).perform s =
        (Operation.request (.installHook (slot.hook c.id k))
          (.hookInstallFailed k.variableName)).perform t ∧
      Beside (s.keepSlot c.id k slot) t ∧ t.script = s.script := by
  unfold Condition.register
  rw [Operation.perform_bind, Operation.perform_get, Interaction.bind_done]
  show ∃ t, (modify _ >>= _ : Operation β Unit).perform s = _ ∧ _
  rw [Operation.perform_bind, Operation.perform_modify, Interaction.bind_done]
  dsimp only
  split
  · rw [Operation.perform_bind, Operation.perform_log]
    exact ⟨_, rfl, Server.beside_log .debug _ _, rfl⟩
  · exact ⟨_, rfl, .refl _, rfl⟩

/-- A registration is carried out at once: the callback is kept, and the hook is installed if the
runtime does so. -/
theorem register_run (c : Condition) (k : TransitionKind) (slot : Slot β) (s : Server β) :
    ∃ a sp t, (c.register k slot).perform s =
        .done (a.mapError (.hookInstallFailed k.variableName)) t ∧
      (slot.hook c.id k).Installs s.script s.space a sp ∧
      Beside ((s.withSpace sp).keepSlot c.id k slot) t ∧
      t.script = (s.script.next .installHook).2 := by
  obtain ⟨s', hrun, hb, hscript⟩ := register_eq_request c k slot s
  obtain ⟨a, sp, t, hanswer, hinst, ht, hnext⟩ := installHook_run (slot.hook c.id k) s'
  refine ⟨a, sp, t, ?_, ?_, ?_, hscript ▸ hnext⟩
  · rw [hrun, Operation.perform_request, hanswer]
    rfl
  · rw [hscript, hb.space] at hinst
    exact hinst
  · exact ⟨ht.space, ht.registry.trans hb.registry, ht.sessions.trans hb.sessions,
      ht.now.trans hb.now, ht.drawn.trans hb.drawn⟩

/-- What a registration comes to that gives `r` and leads from `s` to `t`. -/
structure Registration (c : NodeId) (k : TransitionKind) (slot : Slot β) (s : Server β)
    (r : Except Error Unit) (t : Server β) : Prop where
  /-- The runtime has decided, and a failure carries its status and names the variable. -/
  answered : ∃ a, (slot.hook c k).Installs s.script s.space a t.space ∧
    r = a.mapError (.hookInstallFailed k.variableName)
  /-- A failure leaves the address space and its hooks as they were. -/
  failed : ∀ e, r = .error e → t.space = s.space
  /-- The callback is kept, even if the registration fails, and no other is touched. -/
  slots : ∀ c' k', t.tables.registry.slot? c' k' =
    if c' = c ∧ k' = k then some slot else s.tables.registry.slot? c' k'
  /-- The condition has a record, even if there is no such condition. -/
  records : ∀ c', t.tables.registry.contains c' =
    (decide (c' = c) || s.tables.registry.contains c')
  /-- The registry is as it was exactly if the callback was registered already. -/
  unchanged_iff : (∀ c' k', t.tables.registry.slot? c' k' = s.tables.registry.slot? c' k') ↔
    s.tables.registry.slot? c k = some slot
  /-- A hook that leads to the variable calls the callback from now on, and every other hook calls
  whom it called before. -/
  calls : ∀ c' k' session, t.interception? c' k' session =
    if (t.space.hooks.find? (c', k')).bind Hook.variable? = some (c, k) then
      some (slot.call session)
    else s.interception? c' k' session
  /-- The sessions stay. -/
  sessions : t.tables.sessions = s.tables.sessions
  /-- The time stays. -/
  now : t.now = s.now

/-- A registration keeps its callback whether it succeeds or fails, and so does that of an alarm. If
it fails, a hook that was there before calls the callback of the failed registration. -/
theorem registration_of_register (c : Condition) (k : TransitionKind) (slot : Slot β)
    (s : Server β) :
    ∃ r t, (c.register k slot).perform s = .done r t ∧
      ((⟨c, slot.source⟩ : Alarm).register k slot.removeBranch slot.callback).perform s =
        .done r t ∧
      Registration c.id k slot s r t := by
  obtain ⟨a, sp, t, hrun, hinst, ht, -⟩ := register_run c k slot s
  have hspace : t.space = sp := ht.space
  have hregistry : t.tables.registry = s.tables.registry.store c.id k slot := ht.registry
  refine ⟨_, t, hrun, hrun, ⟨a, hspace ▸ hinst, rfl⟩, fun e he => ?_, fun c' k' => ?_, fun c' => ?_,
    ?_, fun c' k' session => ?_, ht.sessions, ht.now⟩
  · rw [hspace]
    cases hinst with
    | settled _ => rfl
    | installed _ _ => cases he
    | refused _ _ => rfl
  · rw [hregistry, Registry.slot?_store]
  · rw [hregistry, Registry.contains_store]
  · rw [hregistry, Registry.slot?_store_eq_iff]
  · rw [ht.interception?, interception?_keepSlot, hspace]
    by_cases hv : (sp.hooks.find? (c', k')).bind Hook.variable? = some (c.id, k)
    · rw [if_pos hv]
      exact if_pos hv
    · rw [if_neg hv]
      exact (if_neg hv).trans (interception?_installed hinst hv session)

/-- A condition at the server object. -/
def overheatRequest : ConditionRequest where
  conditionType := ConditionType.offNormal.node
  browseName := .standard "Overheat"
  source := .serverObject
  parentReference := none
  requestedId := none

/-- A registration for an unknown source fails, and its callback is asked from then on in place of
the one that was registered before. A registration for an unknown condition fails and leaves a
record. -/
theorem failed_register_replaces :
    ∃ (c : Condition) (s t u v w : Server Bool) (resume : _),
      (Condition.create overheatRequest).perform (.create (.start ⟨0, 0⟩)) = .done (.ok c) s ∧
      (c.register .acked ⟨.serverObject, false, false⟩).perform s = .done (.ok ()) t ∧
      t.interception? c.id .acked none = some (.transition false none .serverObject false) ∧
      (c.register .acked ⟨.numeric 9 9, true, true⟩).perform t =
        .done (.error (.hookInstallFailed "AckedState" .badSourceNodeIdInvalid)) u ∧
      u.interception? c.id .acked none = some (.transition true none (.numeric 9 9) true) ∧
      (Service.acknowledge c.id none none).run u =
        .ask (.transition true none (.numeric 9 9) true) v resume ∧
      ((Condition.wrap (.numeric 5 5)).register .acked ⟨.serverObject, false, false⟩).perform u =
        .done (.error (.hookInstallFailed "AckedState" .badNodeIdUnknown)) w ∧
      u.tables.registry.contains (.numeric 5 5) = false ∧
      w.tables.registry.contains (.numeric 5 5) = true :=
  ⟨_, _, _, _, _, _, _, rfl, rfl, rfl, rfl, rfl, rfl, rfl, rfl, rfl⟩

end AlarmServer
