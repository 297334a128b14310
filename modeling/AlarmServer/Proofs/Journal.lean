import AlarmServer.Proofs.Mediation
import AlarmServer.Proofs.Registrations

/-!
# The journal

Dispatches leave a trail in the journal: each one is announced by a line of its own before anybody
is asked, and each callback that fails is reported by another one. No other operation of a server
writes lines that look like these. A request dispatches at most once, and asks at most one question.
-/

namespace AlarmServer

open Interaction (After)
open Server (Beside)

variable {β : Type}

/-! ### Lines of the trail -/

/-- Does the text start with another character than the lines of the trail do? -/
def OffTrail (text : String) : Prop := ∃ c, text.toList.head? = some c ∧ c ≠ '[' ∧ c ≠ 'T'

namespace Entry

/-- Does the line look like the announcement of a dispatch? -/
def isDispatch (e : Entry) : Bool := "[A&C]".toList.isPrefixOf e.text.toList

/-- Does the line look like the report of a failed callback? -/
def isFault (e : Entry) : Bool :=
  e.level = .error && "Transition callback fault: ".toList.isPrefixOf e.text.toList

/-- Does the line look like one of the trail? -/
def isTrail (e : Entry) : Bool := e.isDispatch || e.isFault

/-- The report of a failed callback. -/
def fault (f : Fault) : Entry := ⟨.error, "Transition callback fault: " ++ f.message⟩

/-- Lines of the trail are told from others by their first character. -/
theorem isTrail_of_offTrail {level : Level} {text : String} (h : OffTrail text) :
    (⟨level, text⟩ : Entry).isTrail = false := by
  obtain ⟨c, hc, hdispatch, hfault⟩ := h
  cases htext : text.toList with
  | nil =>
    rw [htext] at hc
    cases hc
  | cons c' rest =>
    rw [htext] at hc
    cases hc
    simp [isTrail, isDispatch, isFault, htext, List.isPrefixOf, hdispatch.symm, hfault.symm]

/-- The line of a fault is recognized as such. -/
theorem isFault_fault (f : Fault) : (fault f).isFault = true := by
  simp [fault, isFault]

/-- The line of a fault is none of a dispatch. -/
theorem isDispatch_fault (f : Fault) : (fault f).isDispatch = false := by
  simp [fault, isDispatch, List.isPrefixOf]

end Entry

/-- No variable has a name like a line of the trail. -/
theorem TransitionKind.offTrail_variableName (k : TransitionKind) (text : String) :
    OffTrail (k.variableName ++ text) := by
  cases k <;> simp [OffTrail, variableName]

/-- The name under which a condition is announced: what its node shows, or its identifier if there
is no such node. -/
def AddressSpace.label (sp : AddressSpace β) (c : NodeId) : String :=
  match sp.nodes.find? c with
  | some n => n.displayName.text
  | none => c.text

/-- The announcement of a dispatch for a variable of a condition. -/
def AddressSpace.announcement (sp : AddressSpace β) (v : NodeId × TransitionKind) : Entry :=
  ⟨.info, "[A&C] " ++ v.2.variableName ++ "=true | condition=" ++ sp.label v.1⟩

/-- The line that announces a dispatch is recognized as such. -/
theorem AddressSpace.isDispatch_announcement (sp : AddressSpace β) (v : NodeId × TransitionKind) :
    (sp.announcement v).isDispatch = true := by
  simp [announcement, Entry.isDispatch]

/-- The line that announces a dispatch is none of a fault. -/
theorem AddressSpace.isFault_announcement (sp : AddressSpace β)
    (v : NodeId × TransitionKind) : (sp.announcement v).isFault = false := rfl

/-- A journal goes on with some lines of the trail and then with lines that are none. -/
def GoesOn (lines journal journal' : List Entry) : Prop :=
  ∃ rest, journal' = journal ++ (lines ++ rest) ∧ ∀ e ∈ rest, e.isTrail = false

namespace GoesOn

variable {lines j j' j'' : List Entry}

/-- A journal goes on as it is. -/
theorem refl (j : List Entry) : GoesOn [] j j := ⟨[], by simp, fun _ he => nomatch he⟩

/-- A line off the trail is not among those that the journal goes on with. -/
theorem concat {e : Entry} (j : List Entry) (he : e.isTrail = false) : GoesOn [] j (j ++ [e]) := by
  refine ⟨[e], by simp, ?_⟩
  simpa using he

/-- A journal goes on with the lines that are appended. -/
theorem append (lines j : List Entry) : GoesOn lines j (j ++ lines) :=
  ⟨[], by simp, fun _ he => nomatch he⟩

/-- Lines off the trail make no difference to what the journal has gone on with. -/
theorem trans (h : GoesOn lines j j') (h' : GoesOn [] j' j'') : GoesOn lines j j'' := by
  obtain ⟨rest, rfl, hrest⟩ := h
  obtain ⟨rest', rfl, hrest'⟩ := h'
  refine ⟨rest ++ rest', by simp, fun e he => ?_⟩
  rcases List.mem_append.1 he with he | he
  · exact hrest e he
  · exact hrest' e he

/-- A journal only grows. -/
theorem prefix_append (h : GoesOn lines j j') : j ++ lines <+: j' := by
  obtain ⟨rest, rfl, -⟩ := h
  exact ⟨rest, by simp⟩

end GoesOn

/-- The lines that a server has written. -/
abbrev Server.journal (s : Server β) : List Entry := s.tables.ambient.journal

/-! ### Silent operations -/

namespace ServerAction

variable {α γ : Type}

/-- The action ends at once, and writes no line of the trail. -/
def Silent (x : ServerAction β α) : Prop :=
  ∀ s, ∃ a t, x s = .done a t ∧ GoesOn [] s.journal t.journal

private theorem silent_bind {x : ServerAction β α} {f : α → ServerAction β γ} (hx : Silent x)
    (hf : ∀ a, Silent (f a)) : Silent (x >>= f) := by
  intro s
  obtain ⟨a, t, hrun, ht⟩ := hx s
  obtain ⟨b, u, hrun', hu⟩ := hf a t
  exact ⟨b, u, (Action.bind_of_done hrun).trans hrun', ht.trans hu⟩

end ServerAction

open ServerAction (Silent)

namespace Service

variable {α γ : Type}

private theorem silent_bind {x : Service β α} {f : α → Service β γ} (hx : Silent x.run)
    (hf : ∀ a, Silent (f a).run) : Silent (x >>= f).run := by
  refine ServerAction.silent_bind hx fun r => ?_
  cases r with
  | ok a => exact hf a
  | error e => exact fun s => ⟨_, s, rfl, .refl _⟩

private theorem silent_pure (a : α) : Silent (pure a : Service β α).run :=
  fun s => ⟨_, s, rfl, .refl _⟩

private theorem silent_now : Silent (now : Service β Instant).run := fun s => ⟨_, s, rfl, .refl _⟩

private theorem silent_query (f : AddressSpace β → Except StatusCode α) : Silent (query f).run :=
  fun s => ⟨_, s, rfl, .refl _⟩

private theorem silent_drawEventId : Silent (drawEventId : Service β EventId).run :=
  fun s => ⟨_, _, rfl, .refl s.journal⟩

private theorem silent_log {level : Level} {text : String} (h : OffTrail text) :
    Silent (log level text : Service β Unit).run :=
  fun s => ⟨_, _, rfl, .concat s.journal (Entry.isTrail_of_offTrail h)⟩

private theorem silent_act (p : SpaceAction β α) : Silent (act p).run :=
  fun s => ⟨_, _, act_run p s, .refl s.journal⟩

/-- Lines about a node begin with its identifier. -/
theorem silent_logOf (level : Level) (id : NodeId) (text : String) :
    Silent (log level (id.text ++ text) : Service β Unit).run := by
  refine silent_log ⟨'n', ?_, by decide⟩
  simp [NodeId.text]

private theorem silent_commit (c : NodeId) (k : TransitionKind) (value : Bool) :
    Silent (commit c k value : Service β Unit).run := by
  refine silent_bind silent_now fun now => silent_bind (silent_act _) fun _ => ?_
  simp only [String.append_assoc]
  exact silent_logOf .trace c _

private theorem silent_writeField (c : NodeId) (field : QualifiedName) (value : Variant) :
    Silent (writeField c field value : Service β Unit).run := by
  refine silent_bind (silent_act _) fun _ => ?_
  simp only [String.append_assoc]
  exact silent_logOf .trace c _

private theorem silent_publish (c source : NodeId) : Silent
    (publish c source : Service β EventId).run := by
  refine silent_bind (silent_query _) fun _ => silent_bind silent_drawEventId fun id => ?_
  refine silent_bind silent_now fun now => silent_bind (silent_act _) fun _ => ?_
  exact silent_bind (silent_log ⟨'P', by simp, by decide⟩) fun _ => silent_pure id

private theorem silent_finish (m : ClientMethod) (c : NodeId) :
    Silent (m.finish c : Service β EventId).run := by
  refine silent_bind (silent_commit c m.kind m.target) fun _ => ?_
  refine silent_bind ?_ fun _ => silent_bind (silent_query _) fun cs => silent_publish c cs.source
  unfold storeComment
  cases m.comment with
  | none => exact silent_pure ()
  | some text => exact silent_writeField c _ _

end Service

open Service

/-- What the address space answers is silent, unless a property is written. -/
theorem Server.silent_genuineAnswer {c : RuntimeCall β} (hc : c.method ≠ .writeProperty) :
    Silent (Server.genuineAnswer c).run := by
  cases c with
  | createCondition r =>
    refine silent_bind silent_now fun now => silent_bind (silent_act _) fun id => ?_
    exact silent_bind (silent_log ⟨'C', by simp, by decide⟩) fun _ => silent_pure id
  | deleteNode id refs =>
    exact silent_bind (silent_act _) fun _ => silent_log ⟨'D', by simp, by decide⟩
  | addReference source target type => exact silent_act _
  | readDisplayName id => exact silent_query fun sp => sp.displayName id
  | readBrowseName id => exact silent_query fun sp => sp.browseName id
  | writeField condition field value => exact silent_writeField condition field value
  | writeProperty => exact absurd rfl hc
  | readField condition field => exact silent_query fun sp => sp.readField condition field
  | readProperty condition v property =>
    exact silent_query fun sp => sp.readProperty condition v property
  | installHook h =>
    exact silent_bind (silent_act _) fun _ => silent_log ⟨'I', by simp, by decide⟩
  | trigger condition source =>
    exact silent_bind (silent_query _) fun _ => silent_bind (silent_query _) fun _ =>
      silent_publish condition source

/-- A call to the runtime is silent, unless it writes a property. -/
theorem Server.silent_answer {c : RuntimeCall β} (hc : c.method ≠ .writeProperty) :
    Silent (Server.answer c) := by
  intro s
  rw [Server.answer_run]
  cases (s.script.next c.method).1 with
  | settled a => exact ⟨_, _, rfl, .refl s.journal⟩
  | genuine => exact Server.silent_genuineAnswer hc _

/-! ### Dispatches -/

/-- How a registered callback has failed, if that is what its answer says. -/
def Upcall.fault? : (q : Upcall β) → q.Answer → Option Fault
  | transition .., .fault f => some f
  | _, _ => none

/-- The question goes to a registered callback. -/
def Upcall.IsTransition : Upcall β → Prop
  | transition .. => True
  | _ => False

/-- What follows on an answer: a callback that has failed is reported. Then comes what the status
gives that the answer stands for; and if that is not good, the journal is all that has changed. -/
structure Concludes {α : Type} (gives : StatusCode → α → Prop) {q : Upcall β} (r : q.Answer)
    (s : Server β) (x : Interaction (upcalls β) (Server β) α) : Prop where
  /-- It ends at once. -/
  ends : ∃ a t, x = .done a t
  /-- It gives what the status says. -/
  gives : ∀ a t, x = .done a t → gives (q.status r) a
  /-- A callback that has failed is reported. -/
  writes : GoesOn ((q.fault? r).map Entry.fault).toList s.journal x.state.journal
  /-- Without a good status nothing else is changed. -/
  beside : (q.status r).isGood = false → Beside s x.state

/-- An operation that dispatches for a variable, if one is given: the dispatch is announced, with
what the address space says of the condition. If a callback is asked it is the one that is
registered for the variable, and the announcement is the last line that is written before that. -/
inductive Recorded {α : Type} (v? : Option (NodeId × TransitionKind))
    (gives : StatusCode → α → Prop) (s : Server β) :
    Interaction (upcalls β) (Server β) α → Prop where
  /-- Nobody is asked. -/
  | done {a : α} {t : Server β}
      (ht : GoesOn (v?.map s.space.announcement).toList s.journal t.journal) :
      Recorded v? gives s (.done a t)
  /-- A callback is asked. -/
  | asks {q : Upcall β} {t : Server β} {k : q.Answer → Server β → Interaction _ _ α}
      (ht : t.journal = s.journal ++ (v?.map s.space.announcement).toList)
      (hq : q.IsTransition → ∃ v slot session, v? = some v ∧
        s.tables.registry.slot? v.1 v.2 = some slot ∧ q = slot.call session)
      (hk : ∀ r u, Concludes gives r u (k r u)) : Recorded v? gives s (.ask q t k)

section

variable {α : Type} {v? : Option (NodeId × TransitionKind)} {gives : StatusCode → α → Prop}
  {s : Server β}

/-- What is silent dispatches nothing. -/
theorem ServerAction.Silent.recorded {x : ServerAction β α} (hx : Silent x) (s : Server β) :
    Recorded none gives s (x s) := by
  obtain ⟨a, t, hrun, ht⟩ := hx s
  rw [hrun]
  exact .done ht

/-- What is done silently with the status of a dispatch is part of it. -/
theorem Recorded.bind {x : Interaction (upcalls β) (Server β) StatusCode}
    {f : StatusCode → Server β → Interaction (upcalls β) (Server β) α} (hx : Recorded v? Eq s x)
    (hf : ∀ status t, ∃ a u, f status t = .done a u ∧ GoesOn [] t.journal u.journal ∧
      gives status a ∧ (status.isGood = false → Beside t u)) : Recorded v? gives s (x.bind f) := by
  cases hx with
  | @done status t ht =>
    obtain ⟨a, u, hrun, hu, -⟩ := hf status t
    rw [Interaction.bind_done, hrun]
    exact .done (ht.trans hu)
  | @asks q t k ht hq hk =>
    refine .asks ht hq fun r u => ?_
    obtain ⟨status, v, hv⟩ := (hk r u).ends
    have hstatus := (hk r u).gives status v hv
    have hwrites := (hk r u).writes
    have hbeside := (hk r u).beside
    subst hstatus
    obtain ⟨a, w, hrun, hw, hgives, hbad⟩ := hf (q.status r) v
    rw [hv] at hwrites hbeside
    rw [hv, Interaction.bind_done, hrun]
    refine ⟨⟨a, w, rfl⟩, ?_, hwrites.trans hw, fun h => (hbeside h).trans (hbad h)⟩
    intro a' t' he
    cases he
    exact hgives

end

namespace ServerAction

/-- Where nothing is settled, the address space gives the name that a node shows. -/
theorem displayName_of_empty {s : Server β} (hs : s.script = .empty) (c : NodeId) :
    displayName c s = .done (s.space.displayName c) s := by
  obtain ⟨tables, space, script⟩ := s
  cases hs
  rfl

/-- Where nothing is settled, a condition is announced under its label. -/
theorem conditionLabel_of_empty {s : Server β} (hs : s.script = .empty) (c : NodeId) :
    conditionLabel c s = .done (s.space.label c) s := by
  unfold conditionLabel
  rw [Action.bind_of_done (displayName_of_empty hs c)]
  unfold AddressSpace.displayName AddressSpace.node AddressSpace.label
  cases s.space.nodes.find? c <;> rfl

/-- A callback that is asked gives the status that its answer stands for. -/
theorem concludes_consult (slot : Slot β) (session : Session) (s : Server β) :
    ∃ k, consult slot session s = .ask (slot.call session) s k ∧
      ∀ r u, Concludes Eq (q := slot.call session) r u (k r u) := by
  refine ⟨_, rfl, fun r u => ?_⟩
  cases r with
  | status status =>
    refine ⟨⟨status, u, rfl⟩, fun _ _ he => ?_, .refl _, fun _ => .refl u⟩
    cases he
    rfl
  | fault f =>
    refine ⟨⟨_, _, rfl⟩, fun _ _ he => ?_, .append _ _, fun _ => Server.beside_log .error _ u⟩
    cases he
    rfl

/-- A dispatch is announced, and then asks the callback that is registered, if there is one. -/
theorem recorded_dispatch (k : TransitionKind) (c : NodeId) (session : Session) {s : Server β}
    (hs : s.script = .empty) : Recorded (some (c, k)) Eq s (dispatch k c session s) := by
  let t := s.log .info ("[A&C] " ++ k.variableName ++ "=true | condition=" ++ s.space.label c)
  have hregistry : t.tables.registry = s.tables.registry := rfl
  unfold dispatch
  rw [Action.bind_of_done (conditionLabel_of_empty hs c),
    Action.bind_of_done (show log .info _ s = .done () t from rfl),
    Action.bind_of_done (Action.get_run t), hregistry]
  have ht : t.journal = s.journal ++ [s.space.announcement (c, k)] := rfl
  cases hslot : s.tables.registry.slot? c k with
  | none => exact .done (.append _ _)
  | some slot =>
    obtain ⟨resume, hask, hresume⟩ := concludes_consult slot session t
    have hconsult : Recorded (some (c, k)) Eq s (consult slot session t) := by
      rw [hask]
      exact .asks ht (fun _ => ⟨(c, k), slot, session, rfl, hslot, rfl⟩) hresume
    refine hconsult.bind fun status u => ?_
    let text := k.variableName ++ " of " ++ s.space.label c ++ " rejected by callback: " ++
      status.text
    have htext : OffTrail text := by
      simp only [text, String.append_assoc]
      exact k.offTrail_variableName _
    cases status.isGood with
    | true => exact ⟨status, u, rfl, .refl _, rfl, fun _ => .refl u⟩
    | false =>
      exact ⟨status, u.log .debug text, rfl, .concat _ (Entry.isTrail_of_offTrail htext), rfl,
        fun _ => Server.beside_log .debug _ u⟩

/-- A hook that leads to the registry dispatches. A callback that is called directly is asked
without an announcement. -/
theorem recorded_callHook (h : Hook β) (session : Session) {s : Server β}
    (hs : s.script = .empty) : Recorded h.variable? Eq s (callHook h session s) := by
  obtain ⟨condition, source, removeBranch, kind, interceptor⟩ := h
  cases interceptor with
  | registered => exact recorded_dispatch kind condition session hs
  | direct callback =>
    refine .asks (List.append_nil _).symm (fun hq => hq.elim) fun r u => ?_
    refine ⟨⟨r, u, rfl⟩, fun _ _ he => ?_, .refl _, fun _ => .refl u⟩
    cases he
    rfl

end ServerAction

/-! ### Requests -/

/-- A status that is not good is the failure of an operation. -/
def Vetoes {α : Type} (status : StatusCode) (r : Except StatusCode α) : Prop :=
  status.isGood = false → r = .error status

/-- What runs the hook of a variable dispatches if that leads to the registry. -/
theorem Service.recorded_runHook {α : Type} (c : NodeId) (k : TransitionKind) (session : Session)
    {f : Unit → Service β α} (hf : Silent (f ()).run) {s : Server β} (hs : s.script = .empty) :
    Recorded ((s.space.hooks.find? (c, k)).bind Hook.variable?) Vetoes s
      ((runHook c k session >>= f).run s) := by
  rw [runHook_bind_run]
  cases s.space.hooks.find? (c, k) with
  | none => exact hf.recorded s
  | some h =>
    refine (ServerAction.recorded_callHook h session hs).bind fun status t => ?_
    let text := k.variableName ++ " of " ++ c.text ++ " vetoed: " ++ status.text
    have htext : OffTrail text := by
      simp only [text, String.append_assoc]
      exact k.offTrail_variableName _
    cases hg : status.isGood with
    | true =>
      obtain ⟨a, u, hrun, hu⟩ := hf t
      refine ⟨a, u, hrun, hu, fun h => ?_, fun h => nomatch h⟩
      cases hg.symm.trans h
    | false =>
      exact ⟨.error status, t.log .debug text, rfl, .concat _ (Entry.isTrail_of_offTrail htext),
        fun _ => rfl, fun _ => Server.beside_log .debug _ t⟩

namespace Request

/-- The variable for which a request dispatches that is made in `s`: by hand, by a call of a hook
that leads to the registry, or by an attempt that finds its variable false and such a hook on it. -/
def dispatch? (s : Server β) : Request β → Option (NodeId × TransitionKind)
  | dispatch kind c _ => some (c, kind)
  | callHook h _ => h.variable?
  | r => r.attempt?.bind fun a =>
    if s.space.idOf a.condition a.kind = some false then
      (s.space.hooks.find? (a.condition, a.kind)).bind Hook.variable?
    else none

/-- What a request gives with the status of its question: the status itself if it was made for that,
and otherwise a failure unless the status is good. -/
def Gives : (r : Request β) → StatusCode → Except StatusCode r.Reply → Prop
  | dispatch .., status, a => a = .ok status
  | callHook .., status, a => a = .ok status
  | _, status, a => Vetoes status a

variable {s : Server β}

private theorem dispatch?_of_attempt {r : Request β} {a : Attempt} (ha : r.attempt? = some a) :
    r.dispatch? s = if s.space.idOf a.condition a.kind = some false then
      (s.space.hooks.find? (a.condition, a.kind)).bind Hook.variable? else none := by
  cases r with
  | client | call =>
    show Option.bind _ _ = _
    rw [ha, Option.bind_some]
  | _ => cases ha

private theorem recorded_client (m : ClientMethod) (c : NodeId) (hs : s.script = .empty) :
    Recorded ((client m c : Request β).dispatch? s) Vetoes s ((m.perform c).run s) := by
  rw [m.perform_run]
  cases htarget : m.target with
  | false =>
    have hnone : (client m c : Request β).dispatch? s = none := by
      simp [dispatch?, attempt?, htarget]
    rw [hnone]
    cases s.space.twoState c m.kind with
    | error e => exact .done (.refl _)
    | ok ts =>
      dsimp only
      split
      · exact .done (.refl _)
      · rw [ClientMethod.gate, htarget]
        exact (Service.silent_finish m c).recorded s
  | true =>
    have hattempt : (client m c : Request β).attempt? = some ⟨c, m.kind, m.session⟩ := by
      rw [attempt?, htarget, if_pos rfl]
    rw [dispatch?_of_attempt hattempt]
    cases hts : s.space.twoState c m.kind with
    | error e =>
      have hid : s.space.idOf c m.kind ≠ some false := by
        intro hid
        obtain ⟨ts, hok, -⟩ := AddressSpace.idOf_eq_some_iff.1 hid
        rw [hts] at hok
        cases hok
      rw [if_neg hid]
      exact .done (.refl _)
    | ok ts =>
      have hid := AddressSpace.twoState_eq_ok_idOf hts
      dsimp only
      rw [hid, ClientMethod.gate, htarget]
      cases ts.id with
      | true => exact .done (.refl _)
      | false => exact Service.recorded_runHook c m.kind m.session (Service.silent_finish m c) hs

private theorem recorded_writeProperty (c : NodeId) (variableName property : QualifiedName)
    (value : Variant) (hs : s.script = .empty) :
    Recorded ((call (.writeProperty c variableName property value) : Request β).dispatch? s) Vetoes
      s ((Service.writeProperty c variableName property value).run s) := by
  let r : Request β := call (.writeProperty c variableName property value)
  have hnone (h : ∀ k, TransitionKind.ofVariable? variableName.name = some k →
      property.name = "Id" → value.asBool? = some true → s.space.idOf c k ≠ some false) :
      r.dispatch? s = none := by
    show Option.bind (if _ then _ else _) _ = none
    split
    · next hp =>
      cases hk : TransitionKind.ofVariable? variableName.name with
      | none => rfl
      | some k => exact if_neg (h k hk hp.1 hp.2)
    · rfl
  show Recorded (r.dispatch? s) Vetoes s _
  have h := Service.propertyWrite_run c variableName property value s
  generalize (Service.writeProperty c variableName property value).run s = x at h ⊢
  cases h with
  | refused h =>
    rw [hnone fun k hk hp hv => by simp [h k hk hp (by rw [hv]; rfl)]]
    exact .done (.refl _)
  | @hooked k hk hp hv hid =>
    have hattempt : r.attempt? = some ⟨c, k, none⟩ := by
      show (if _ then _ else _) = _
      rw [if_pos ⟨hp, hv⟩, hk]
      rfl
    rw [dispatch?_of_attempt hattempt, if_pos hid]
    exact Service.recorded_runHook c k none (Service.silent_commit c k true) hs
  | @committed k id hk hp hv hid =>
    rw [hnone fun k' hk' _ hv' => ?_]
    · exact (Service.silent_commit c k id).recorded s
    · rw [hk, Option.some_inj] at hk'
      rw [hv, Option.some_inj] at hv'
      rw [← hk', hid hv']
      simp
  | @timed k time hk hp hv =>
    rw [hnone fun _ _ hp' => absurd (hp'.symm.trans hp) (by decide)]
    exact (Service.silent_act _).recorded s

private theorem recorded_call {c : RuntimeCall β} (hc : c.method ≠ .writeProperty)
    (hd : (call c : Request β).dispatch? s = none) :
    Recorded ((call c : Request β).dispatch? s) Vetoes s ((Server.genuineAnswer c).run s) := by
  rw [hd]
  exact (Server.silent_genuineAnswer hc).recorded s

/-- A request is recorded if it works on the address space. -/
theorem recorded (r : Request β) (hr : r.OnSpace) (hs : s.script = .empty) :
    Recorded (r.dispatch? s) r.Gives s (r.perform.run s) := by
  cases r with
  | addObject parent name => exact (Service.silent_act _).recorded s
  | addVariable parent name value level => exact (Service.silent_act _).recorded s
  | addEventSource name => exact .done (.refl _)
  | setNotifier id notifier => exact (Service.silent_act _).recorded s
  | writeValue id value =>
    show Recorded none Vetoes s ((Service.act _ >>= _).run s)
    rw [Service.act_bind_run (SpaceAction.checksFirst_writeValue id value)]
    cases (SpaceAction.writeValue id value).effect s.space with
    | error e => exact .done (.refl _)
    | ok sp =>
      dsimp only
      rw [Service.get_bind_run]
      cases (s.withSpace sp).space.watchers.find? id with
      | none => exact .done (.refl _)
      | some callback =>
        refine .asks (List.append_nil _).symm (fun hq => hq.elim) fun r u => ?_
        have hgood {p : Prop} (h : StatusCode.good.isGood = false) : p := absurd h (by decide)
        exact ⟨⟨_, u, rfl⟩, fun _ _ _ h => hgood h, .refl _, fun _ => .refl u⟩
  | watch id callback => exact (Service.silent_act _).recorded s
  | call c =>
    cases c with
    | writeProperty c variableName property value =>
      exact recorded_writeProperty c variableName property value hs
    | _ => exact recorded_call (fun h => nomatch h) rfl
  | client m c => exact recorded_client m c hs
  | dispatch kind c session =>
    refine (ServerAction.recorded_dispatch kind c session hs).bind fun status t => ?_
    exact ⟨_, t, rfl, .refl _, rfl, fun _ => .refl t⟩
  | callHook h session =>
    refine (ServerAction.recorded_callHook h session hs).bind fun status t => ?_
    exact ⟨_, t, rfl, .refl _, rfl, fun _ => .refl t⟩
  | beside tables script => exact hr.elim

end Request

end AlarmServer
