import AlarmServer.Proofs.Handles

/-!
# Writes of condition handles

What the writes of a handle do, exactly. Where nothing is settled, a field that every condition has
and a two-state variable that the condition has are written at once, unless a hook is called; and a
switch of an alarm begins with three fields. Nothing differs then but the state of the condition
and the journal.
-/

namespace AlarmServer

open Server (Beside)

variable {β : Type}

namespace Server

/-- The condition is put into a state, and nothing else happens but to the journal. -/
structure Puts (c : NodeId) (cs : ConditionState) (s t : Server β) : Prop where
  /-- Only the state of the condition is new. -/
  beside : Beside (s.withSpace (s.space.setCondition c cs)) t
  /-- What was settled is. -/
  script : t.script = s.script

namespace Puts

variable {c : NodeId} {cs cs' : ConditionState} {s t u : Server β}

/-- The condition is replaced, and nothing else in the address space is. -/
theorem space (h : Puts c cs s t) : t.space = s.space.setCondition c cs := h.beside.space

/-- The clock shows what it showed. -/
theorem now (h : Puts c cs s t) : t.now = s.now := h.beside.now

/-- Of two states the second one counts. -/
theorem trans (h : Puts c cs s t) (h' : Puts c cs' t u) : Puts c cs' s u where
  beside := by
    refine ⟨?_, h'.beside.registry.trans h.beside.registry,
      h'.beside.sessions.trans h.beside.sessions, h'.now.trans h.now,
      h'.beside.drawn.trans h.beside.drawn⟩
    rw [h'.space, h.space, AddressSpace.setCondition_setCondition]
    rfl
  script := h'.script.trans h.script

/-- What happens beside the condition before makes no difference. -/
theorem after_beside (hb : Beside s t) (hs : t.script = s.script) (h : Puts c cs t u) :
    Puts c cs s u where
  beside := by
    refine ⟨?_, h.beside.registry.trans hb.registry, h.beside.sessions.trans hb.sessions,
      h.now.trans hb.now, h.beside.drawn.trans hb.drawn⟩
    rw [h.space, hb.space]
    rfl
  script := h.script.trans hs

/-- The condition is found as it was put. -/
theorem condition (h : Puts c cs s t) {old : ConditionState} (hc : s.space.condition c = .ok old) :
    t.space.condition c = .ok cs := by
  rw [h.space]
  exact AddressSpace.condition_setCondition hc cs

/-- The hooks are the same, so they call whom they would have called. -/
theorem interception? (h : Puts c cs s t) (i : NodeId) (k : TransitionKind) (session : Session) :
    t.interception? i k session = s.interception? i k session :=
  h.beside.interception? i k session

end Puts

end Server

open Server (Puts)

namespace Service

/-- A write that succeeds puts the condition into a state. -/
theorem puts_log {c : NodeId} {cs : ConditionState} (s : Server β) (level : Level) (text : String) :
    Puts c cs s ((s.withSpace (s.space.setCondition c cs)).log level text) :=
  ⟨Server.beside_log level text _, rfl⟩

/-- A commit succeeds if the condition has the variable. -/
theorem commit_puts {s : Server β} {c : NodeId} {cs : ConditionState} {k : TransitionKind}
    {ts : TwoState} (hc : s.space.condition c = .ok cs) (hts : cs.twoStates.find? k = some ts)
    (value : Bool) :
    ∃ t, (commit c k value).run s = .done (.ok ()) t ∧
      Puts c (cs.changeTwoState k (TwoState.enter value s.now)) s t := by
  refine ⟨_, ?_, puts_log s .trace (c.text ++ " " ++ k.variableName ++ "/Id = " ++ toString value)⟩
  rw [commit_run, AddressSpace.commit_eq_ok_iff.2 ⟨cs, ts, hc, hts, rfl⟩]

/-- A variable that the condition has is committed, and before that the hook is run if it becomes
true. -/
theorem writeId_run {s : Server β} {c : NodeId} {k : TransitionKind} {ts : TwoState}
    (hts : s.space.twoState c k = .ok ts) (value : Bool) :
    (writeProperty c (.standard k.variableName) (.standard "Id") (.boolean value)).run s =
      if value = true ∧ ts.id = false then
        (runHook c k none >>= fun _ => commit c k value).run s
      else (commit c k value).run s := by
  have hk : AddressSpace.kindNamed (.standard k.variableName) = .ok k :=
    AddressSpace.kindNamed_eq_ok_iff.2 k.ofVariable?_variableName
  unfold writeProperty
  rw [query_bind_run, hk]
  show (query _ >>= _ : Service β Unit).run s = _
  rw [query_bind_run, hts]
  obtain ⟨id, time⟩ := ts
  cases value with
  | false => rfl
  | true => cases id <;> rfl

end Service

namespace ConditionState

/-- The state of a condition after the fields were written that a switch begins with. -/
def told (c : ConditionState) (text : String) (now : Instant) (retain : Bool) : ConditionState :=
  ((c.store .message (.localizedText (.plain text))).store .time (.dateTime now)).store .retain
    (.boolean retain)

end ConditionState

namespace Condition

variable {c : Condition} {s : Server β} {cs : ConditionState}

/-- A field that every condition has is written at once. -/
theorem setField_puts (hs : s.script = .empty) (hc : s.space.condition c.id = .ok cs) {f : Field}
    (hf : f ∈ ConditionType.baseFields) (value : Variant) (hv : value.dataType = f.dataType) :
    ∃ t, (c.setField (.standard f.name) value).perform s = .done (.ok ()) t ∧
      Puts c.id (cs.store f value) s t := by
  have hw : (SpaceAction.writeField c.id (.standard f.name) value).effect s.space =
      .ok (s.space.setCondition c.id (cs.store f value)) :=
    AddressSpace.writeField_eq_ok_iff.2 ⟨cs, f, hc, cs.target_of_base hf hv, rfl⟩
  let text := c.id.text ++ " " ++ (QualifiedName.standard f.name).text ++ " = " ++ value.text
  refine ⟨_, ?_, Service.puts_log s .trace text⟩
  rw [setField, Operation.perform_request_of_empty hs]
  show ((Service.act _ >>= fun _ => Service.log .trace text : Service β Unit).run s).bind _ = _
  rw [Service.act_bind_run (SpaceAction.checksFirst_writeField _ _ _), hw]
  rfl

/-- A variable is set as its property is written. -/
theorem setState_run (hs : s.script = .empty) (k : TransitionKind) (value : Bool) :
    (c.setState k value).perform s =
      ((Service.writeProperty c.id (.standard k.variableName) (.standard "Id")
        (.boolean value)).run s).bind fun r t =>
          .done (r.mapError (.nestedFieldWriteFailed k.variableName "Id")) t := by
  rw [setState, setVariableField, Operation.perform_request_of_empty hs]
  rfl

/-- A variable that does not become true is set at once. -/
theorem setState_puts (hs : s.script = .empty) (hc : s.space.condition c.id = .ok cs)
    {k : TransitionKind} {ts : TwoState} (hts : cs.twoStates.find? k = some ts) {value : Bool}
    (hv : ¬ (value = true ∧ ts.id = false)) :
    ∃ t, (c.setState k value).perform s = .done (.ok ()) t ∧
      Puts c.id (cs.changeTwoState k (TwoState.enter value s.now)) s t := by
  have htwo : s.space.twoState c.id k = .ok ts := AddressSpace.twoState_eq_ok_iff.2 ⟨cs, hc, hts⟩
  obtain ⟨t, hrun, ht⟩ := Service.commit_puts hc hts value
  refine ⟨t, ?_, ht⟩
  rw [setState_run hs, Service.writeId_run htwo, if_neg hv, hrun]
  rfl

end Condition

namespace Alarm

/-- What a switch does after the alarm has changed its activity. -/
def settle (a : Alarm) (source : NodeId) (active : Bool) : Operation β EventId := do
  unless active do
    a.condition.setState .acked false
    a.condition.setState .confirmed false
  a.condition.trigger source

/-- A switch begins with three fields. -/
theorem setActive_puts {a : Alarm} {s : Server β} {cs : ConditionState} (hs : s.script = .empty)
    (hc : s.space.condition a.condition.id = .ok cs) (source : NodeId) (active : Bool)
    (message : Option String) :
    ∃ t, Puts a.condition.id (cs.told (messageFor active message) s.now active) s t ∧
      (a.setActive source active message).perform s =
        (a.condition.setState .active active >>= fun _ => a.settle source active).perform t := by
  let c := a.condition
  let text := messageFor active message
  let s₁ : Server β := s.log .debug
    ("Condition " ++ c.id.text ++ " -> " ++ (AlarmState.ofBool active).name ++ " (" ++ text ++ ")")
  have hb : Beside s s₁ := Server.beside_log .debug _ s
  obtain ⟨s₂, hrun₂, h₂⟩ := Condition.setField_puts (c := c) (s := s₁) hs hc (f := .message)
    (by decide) (.localizedText (.plain text)) rfl
  have hs₂ : s₂.script = .empty := h₂.script.trans hs
  obtain ⟨s₃, hrun₃, h₃⟩ := Condition.setField_puts hs₂ (h₂.condition hc) (f := .time) (by decide)
    (.dateTime s₂.tables.ambient.now) rfl
  have hs₃ : s₃.script = .empty := h₃.script.trans hs₂
  obtain ⟨s₄, hrun₄, h₄⟩ := Condition.setField_puts hs₃ (h₃.condition (h₂.condition hc))
    (f := .retain) (by decide) (.boolean active) rfl
  have hnow : s₂.tables.ambient.now = s.now := h₂.now
  rw [hnow] at hrun₃ h₃ h₄
  refine ⟨s₄, .after_beside hb rfl ((h₂.trans h₃).trans h₄), ?_⟩
  refine (Operation.perform_bind_of_ok (Operation.perform_log .debug _ s)).trans ?_
  refine (Operation.perform_bind_of_ok hrun₂).trans ?_
  refine (Operation.perform_bind_of_ok (Operation.perform_get s₂)).trans ?_
  rw [hnow]
  refine (Operation.perform_bind_of_ok hrun₃).trans ?_
  refine (Operation.perform_bind_of_ok hrun₄).trans ?_
  cases active <;> rfl

end Alarm

end AlarmServer
