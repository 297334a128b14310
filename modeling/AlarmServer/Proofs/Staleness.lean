import AlarmServer.Proofs.Alarms

/-!
# Alarms that are acknowledged while they are off

A new alarm is off, and neither acknowledged nor confirmed. Whatever happens to it then, it is off
and nevertheless acknowledged or confirmed if and only if a client has acknowledged or confirmed it
while it was off, and it was not switched since. Its events tell so as well.
-/

namespace AlarmServer

open Interaction (After found)
open Server (Calm Reports HasAlarm Moves)

variable {β : Type}

/-- What may happen to an alarm. -/
inductive AlarmCall (a : Alarm) (β : Type) where
  /-- It is switched, and that is published from a node. -/
  | switch (source : NodeId) (active : Bool) (message : Option String)
  /-- A client calls a method. -/
  | client (m : ClientMethod)
  /-- Something happens that neither writes its variables nor publishes it. -/
  | elsewhere (f : Server β → Server β) (h : ∀ s, Calm a.condition.id s (f s))

namespace AlarmCall

variable {a : Alarm}

/-- What comes of it. -/
@[reducible] def Result : AlarmCall a β → Type
  | switch .. => Except Error EventId
  | client _ => Except StatusCode EventId
  | elsewhere .. => Unit

/-- Carry it out. -/
def perform : (r : AlarmCall a β) → Action (upcalls β) (Server β) r.Result
  | switch source active message => (a.setActive source active message).perform
  | client m => (m.perform a.condition.id).run
  | elsewhere f _ => fun s => .done () (f s)

/-- Has it taken its effect? -/
def effective : (r : AlarmCall a β) → r.Result → Bool
  | switch .., r => Alarm.settles r
  | client _, r => r.isOk
  | elsewhere .., _ => false

/-- What its effect is on the variables. -/
def moves : AlarmCall a β → TransitionKind → Option Bool
  | switch _ active _ => Alarm.switched active
  | client m => m.moves
  | elsewhere .. => fun _ => none

/-- Whether the alarm is off and nevertheless acknowledged or confirmed after the effect, if that
does not depend on whether it was so before. -/
def leaves? (sp : AddressSpace β) : AlarmCall a β → Option Bool
  | switch .. => some false
  | client m =>
    if (m.kind = .acked ∨ m.kind = .confirmed) ∧ sp.idOf a.condition.id .active = some false
    then some true else none
  | elsewhere .. => none

end AlarmCall

/-- What may happen to an alarm, as a system. -/
def alarmCalls (a : Alarm) (β : Type) : System (upcalls β) (Server β) where
  Request := AlarmCall a β
  Result r := r.Result
  perform r := r.perform

/-- Whether the alarm is off and nevertheless acknowledged or confirmed after the stretch, if that
does not depend on whether it was so before. -/
def System.Stretch.leaves? {a : Alarm} (st : (alarmCalls a β).Stretch) : Option Bool :=
  match st.outcome with
  | .done r _ =>
    if AlarmCall.effective st.request r then AlarmCall.leaves? st.before.space st.request else none
  | .ask .. => none

namespace AlarmCall

variable {a : Alarm} {r : AlarmCall a β} {s t : Server β}

private theorem course_of_after {es : List (Exchange (upcalls β) (Server β))}
    {y : Interaction (upcalls β) (Server β) r.Result} (hs : HasAlarm a.condition.id s)
    (hb : HasAlarm a.condition.id (found s es)) (ha : After (r.perform s) es y) :
    Server.Course a.condition.id (r.effective · = true) (r.effective · = false)
      (Moves a.condition.id r.moves) (found s es) y := by
  cases r with
  | switch source active message => exact Alarm.course_of_after hs hb ha
  | client m => exact ClientMethod.course_of_after ha
  | elsewhere f hf =>
    obtain ⟨rfl, rfl⟩ := Interaction.after_done_iff.1 ha
    exact .failed rfl (hf s)

-- What the effect of a call leaves behind.
private theorem stale_of_moves (h : Moves a.condition.id r.moves s t) :
    decide (t.space.Stale a.condition.id) =
      (r.leaves? s.space).getD (decide (s.space.Stale a.condition.id)) := by
  cases r with
  | switch source active message =>
    cases active <;> simp [AddressSpace.Stale, h.idOf, moves, leaves?, Alarm.switched]
  | client m =>
    by_cases hs : s.space.idOf a.condition.id .active = some false <;> cases m <;>
      simp [AddressSpace.Stale, h.idOf, moves, leaves?, ClientMethod.moves, ClientMethod.kind,
        ClientMethod.target, hs]
  | elsewhere f hf =>
    simp only [AddressSpace.Stale, h.idOf, moves, Option.none_or]
    rfl

end AlarmCall

/-! ### Stretches -/

/-- What a stretch does to the alarm. -/
structure Leaves {a : Alarm} (st : (alarmCalls a β).Stretch) : Prop where
  /-- There is still an alarm. -/
  alarm : HasAlarm a.condition.id st.after
  /-- The stretch leaves it as it says, or as it was. -/
  stale : decide (st.after.space.Stale a.condition.id) =
    st.leaves?.getD (decide (st.before.space.Stale a.condition.id))
  /-- Its events show how it is then. -/
  reports : Reports a.condition.id st.before st.after

section

variable {a : Alarm} {st : (alarmCalls a β).Stretch}

private theorem leaves_of_genuine (h : st.Genuine) (hs : HasAlarm a.condition.id st.start)
    (hb : HasAlarm a.condition.id st.before) : Leaves st := by
  have hcourse := AlarmCall.course_of_after (r := st.request) hs (h.before ▸ hb) h.outcome
  rw [← h.before] at hcourse
  have hcalm : ∀ {t}, Calm a.condition.id st.before t → st.outcome.state = t →
      st.leaves? = none → Leaves st := by
    rintro _ ht rfl hn
    refine ⟨hb.calm ht, ?_, ht.reports⟩
    rw [hn]
    exact decide_eq_decide.2 ht.stale_iff
  generalize ho : st.outcome = y at hcourse hcalm
  cases hcourse with
  | @effect r t hr h =>
    have hafter : st.after = t := congrArg Interaction.state ho
    have hleaves : st.leaves? = AlarmCall.leaves? st.before.space st.request := by
      rw [System.Stretch.leaves?, ho]
      exact if_pos hr
    refine ⟨hafter ▸ hb.moves h, ?_, hafter ▸ h.reports⟩
    rw [hafter, hleaves]
    exact AlarmCall.stale_of_moves h
  | failed hr h => exact hcalm h rfl (by rw [System.Stretch.leaves?, ho]; simp [hr])
  | asks h => exact hcalm h rfl (by rw [System.Stretch.leaves?, ho])

private theorem hasAlarm_start {s : Server β} {fore rest : List (alarmCalls a β).Stretch}
    {d : (alarmCalls a β).Config}
    (h : System.Run (.idle (alarmCalls a β) s) (fore ++ st :: rest) d)
    (hb : HasAlarm a.condition.id st.before) (hf : ∀ f ∈ fore, HasAlarm a.condition.id f.start) :
    HasAlarm a.condition.id st.start := by
  rcases h.origin with ⟨-, he⟩ | ⟨f, hmem, e, resume, -, rfl⟩
  · rw [← he]
    exact hb
  · exact hf f hmem

private theorem leaves_of_run {s : Server β} {trace : List (alarmCalls a β).Stretch}
    {d : (alarmCalls a β).Config} (hs : HasAlarm a.condition.id s)
    (h : System.Run (.idle (alarmCalls a β) s) trace d) : ∀ st ∈ trace, Leaves st := by
  have hall : HasAlarm a.condition.id d.state ∧
      ∀ f ∈ trace, HasAlarm a.condition.id f.start ∧ HasAlarm a.condition.id f.before := by
    refine h.invariant (P := fun old s => HasAlarm a.condition.id s ∧
      ∀ f ∈ old, HasAlarm a.condition.id f.start ∧ HasAlarm a.condition.id f.before)
      ⟨hs, fun _ hf => nomatch hf⟩ ?_
    rintro fore st rest rfl hg ⟨hb, hf⟩
    have hstart := hasAlarm_start h hb fun f hmem => (hf f hmem).1
    refine ⟨(leaves_of_genuine hg hstart hb).alarm, fun f hmem => ?_⟩
    rcases List.mem_append.1 hmem with hmem | hmem
    · exact hf f hmem
    · rw [List.mem_singleton.1 hmem]
      exact ⟨hstart, hb⟩
  intro st hst
  obtain ⟨hstart, hb⟩ := hall.2 st hst
  exact leaves_of_genuine (h.genuine hst) hstart hb

end

/-! ### New alarms -/

/-- An alarm that has just been created: it is off, and neither acknowledged nor confirmed. -/
structure Server.NewAlarm (c : NodeId) (s : Server β) : Prop where
  /-- There is an alarm. -/
  alarm : HasAlarm c s
  /-- All its variables but one are false. -/
  idOf : ∀ k : TransitionKind, k ≠ .enabled → s.space.idOf c k = some false

namespace Server

variable {c : NodeId} {s t u : Server β}

/-- A condition may become enabled, and what its other fields are does not matter. -/
structure Prepares (c : NodeId) (s t : Server β) : Prop where
  /-- The other variables stay. -/
  idOf : ∀ k : TransitionKind, k ≠ .enabled → t.space.idOf c k = s.space.idOf c k
  /-- No variable is lost. -/
  present : ∀ k, (s.space.idOf c k).isSome → (t.space.idOf c k).isSome
  /-- If nothing was settled, nothing is. -/
  script : s.script = .empty → t.script = .empty

private theorem Prepares.trans (s t u : Server β) (h : Prepares c s t) (h' : Prepares c t u) :
    Prepares c s u :=
  ⟨fun k hk => (h'.idOf k hk).trans (h.idOf k hk), fun k hs => h'.present k (h.present k hs),
    fun hs => h'.script (h.script hs)⟩

private theorem Calm.prepares (h : Calm c s t) : Prepares c s t :=
  ⟨fun k _ => h.idOf k, fun k hs => h.idOf k ▸ hs, h.script⟩

private theorem NewAlarm.prepares (h : NewAlarm c s) (hp : Prepares c s t) : NewAlarm c t :=
  ⟨⟨hp.script h.alarm.script, fun k => hp.present k (h.alarm.present k)⟩,
    fun k hk => (hp.idOf k hk).trans (h.idOf k hk)⟩

private theorem NewAlarm.not_stale (h : NewAlarm c s) : ¬ s.space.Stale c := by
  simp [AddressSpace.Stale, h.idOf]

end Server

/-- Changes that bring a new condition into its first state. -/
def Change.Prepares : Change β → Prop
  | .writeField .. => True
  | .commit _ k .. => k = .enabled
  | .setTransitionTime .. => True
  | _ => False

private theorem prepares_of_apply {ch : Change β} (hc : ch.Prepares) {sp sp' : AddressSpace β}
    (h : ch.apply sp = .ok sp') (c : NodeId) :
    (∀ k : TransitionKind, k ≠ .enabled → sp'.idOf c k = sp.idOf c k) ∧
      ∀ k, (sp.idOf c k).isSome → (sp'.idOf c k).isSome := by
  have hsame : (∀ k, sp'.idOf c k = sp.idOf c k) →
      (∀ k : TransitionKind, k ≠ .enabled → sp'.idOf c k = sp.idOf c k) ∧
        ∀ k, (sp.idOf c k).isSome → (sp'.idOf c k).isSome :=
    fun h => ⟨fun k _ => h k, fun k hk => h k ▸ hk⟩
  cases ch with
  | writeField id field value => exact hsame (AddressSpace.idOf_writeField h c)
  | setTransitionTime id kind time => exact hsame (AddressSpace.idOf_setTransitionTime h c)
  | commit id kind value now =>
    cases hc
    have hid := AddressSpace.idOf_commit h c
    refine ⟨fun k hk => by simp [hid, hk], fun k hk => ?_⟩
    rw [hid]
    split
    · rfl
    · exact hk
  | _ => exact hc.elim

private theorem Server.prepares_of_advances (c : NodeId) {s t : Server β}
    (h : Server.Advances Change.Prepares s t) : Server.Prepares c s t := by
  have hspace := h.space.keeps (Q := fun sp sp' =>
    (∀ k : TransitionKind, k ≠ .enabled → sp'.idOf c k = sp.idOf c k) ∧
      ∀ k, (sp.idOf c k).isSome → (sp'.idOf c k).isSome)
    (fun _ => ⟨fun _ _ => rfl, fun _ h => h⟩)
    (fun _ _ _ h h' => ⟨fun k hk => (h'.1 k hk).trans (h.1 k hk), fun k hk => h'.2 k (h.2 k hk)⟩)
    fun ch _ _ hch happ => prepares_of_apply hch happ c
  exact ⟨hspace.1, hspace.2, h.script⟩

namespace Alarm

open ServerAction (Does)

private theorem does_prepare (c : Condition) (severity : UInt16) :
    Does Change.Prepares (Alarm.prepare c severity : Operation β Unit).perform := by
  have hfield : ∀ (field : QualifiedName) (value : Variant),
      Does Change.Prepares (c.setField field value : Operation β Unit).perform := by
    intro field value
    refine Operation.does_request ?_ _
    rintro ch rfl
    exact trivial
  have hstate : Does Change.Prepares (c.setState .enabled true : Operation β Unit).perform := by
    refine Operation.does_request ?_ _
    rintro ch ⟨k, hk, ⟨-, id, now, -, rfl⟩ | ⟨-, time, -, rfl⟩⟩
    · exact (Option.some_inj.1 hk).symm
    · exact trivial
  refine Operation.does_bind hstate fun _ => ?_
  refine Operation.does_bind (hfield _ _) fun _ => ?_
  exact Operation.does_bind (hfield _ _) fun _ => hfield _ _

private theorem succeeds_of_bind {α γ : Type} {x : Operation β α} {f : α → Operation β γ}
    {s t : Server β} {es : List (Exchange (upcalls β) (Server β))} {b : γ}
    (h : After ((x >>= f).perform s) es (.done (.ok b) t)) :
    ∃ es₁ es₂ a u, es = es₁ ++ es₂ ∧ After (x.perform s) es₁ (.done (.ok a) u) ∧
      After ((f a).perform u) es₂ (.done (.ok b) t) := by
  rw [Operation.perform_bind] at h
  obtain ⟨es₁, es₂, r, u, he, hx, hf⟩ := h.of_bind_done
  cases r with
  | ok a => exact ⟨es₁, es₂, a, u, he, hx, hf⟩
  | error e =>
    obtain ⟨-, hy⟩ := Interaction.after_done_iff.1 hf
    cases hy

private theorem succeeds_of_tryCatch {α : Type} {x : Operation β α} {f : Error → Operation β α}
    {s t : Server β} {es : List (Exchange (upcalls β) (Server β))} {b : α}
    (hf : ∀ e {u es}, ¬ After ((f e).perform u) es (.done (.ok b) t))
    (h : After ((tryCatch x f).perform s) es (.done (.ok b) t)) :
    After (x.perform s) es (.done (.ok b) t) := by
  rw [Operation.perform_tryCatch] at h
  obtain ⟨es₁, es₂, r, u, rfl, hx, h'⟩ := h.of_bind_done
  cases r with
  | ok a =>
    obtain ⟨rfl, hy⟩ := Interaction.after_done_iff.1 h'
    cases hy
    rw [List.append_nil]
    exact hx
  | error e => exact absurd h' (hf e)

private theorem newAlarm_of_condition {r : ConditionRequest} {c : Condition} {s t : Server β}
    {es : List (Exchange (upcalls β) (Server β))} (hs : s.script = .empty)
    (hr : r.conditionType = ConditionType.offNormal.node)
    (h : After ((Condition.create r).perform s) es (.done (.ok c) t)) :
    es = [] ∧ Server.NewAlarm c.id t := by
  obtain ⟨es₁, es₂, id, u, rfl, hx, hf⟩ := succeeds_of_bind h
  rw [Operation.perform_request_of_empty hs] at hx
  change After (((Service.createCondition r).run s).bind _) _ _ at hx
  rw [Service.createCondition_run] at hx
  cases hadd : s.space.createCondition s.now r with
  | error e =>
    rw [hadd] at hx
    obtain ⟨-, hy⟩ := Interaction.after_done_iff.1 hx
    cases hy
  | ok p =>
    rw [hadd] at hx
    obtain ⟨rfl, hy⟩ := Interaction.after_done_iff.1 hx
    change Interaction.done (Except.ok id) u = .done (.ok p.1) _ at hy
    cases hy
    obtain ⟨rfl, hy⟩ := Interaction.after_done_iff.1 hf
    cases hy
    obtain ⟨type, htype, hid⟩ := AddressSpace.idOf_createCondition hadd
    have hkinds : ∀ k, p.2.idOf p.1 k = some false := by
      intro k
      rw [hr] at htype
      cases htype
      rw [hid, if_pos rfl, if_pos (by cases k <;> decide)]
    exact ⟨rfl, ⟨hs, fun k => Option.isSome_iff_exists.2 ⟨_, hkinds k⟩⟩, fun k _ => hkinds k⟩

/-- A new alarm is off, and neither acknowledged nor confirmed, whatever happens elsewhere while it
is created. -/
theorem newAlarm_of_create {a : Alarm} {source : NodeId} {name : QualifiedName}
    {parent : Option NodeId} {severity : UInt16} {s t : Server β}
    {es : List (Exchange (upcalls β) (Server β))} (hs : s.script = .empty)
    (h : After ((create source name parent severity).perform s) es (.done (.ok a) t))
    (he : ∀ e ∈ es, Calm a.condition.id e.asked e.left) : Server.NewAlarm a.condition.id t := by
  obtain ⟨es₁, es₂, c, u, rfl, hcreate, hrest⟩ := succeeds_of_bind h
  obtain ⟨rfl, hnew⟩ := newAlarm_of_condition hs rfl hcreate
  obtain ⟨es₃, es₄, _, v, rfl, hprepare, hend⟩ := succeeds_of_bind hrest
  rw [Operation.perform_pure] at hend
  obtain ⟨rfl, hy⟩ := Interaction.after_done_iff.1 hend
  cases hy
  -- Whoever drops the condition again throws.
  have hsuccess := succeeds_of_tryCatch (fun e _ _ hcatch => by
    obtain ⟨_, _, _, _, -, -, hthrow⟩ := succeeds_of_bind hcatch
    obtain ⟨-, hy⟩ := Interaction.after_done_iff.1 hthrow
    cases hy) hprepare
  have hkeeps := (does_prepare c severity u).imp fun _ _ => Server.prepares_of_advances c.id
  refine hnew.prepares (hsuccess.relates Server.Prepares.trans hkeeps fun e hmem => ?_)
  exact (he e (by simpa using hmem)).prepares

end Alarm

/-- What a run makes of a new alarm. After it, the alarm is off and nevertheless acknowledged or
confirmed if and only if the last stretch that decides about that is a client's acknowledgement or
confirmation of it while it was off, and not a switch. The events that a stretch publishes of the
alarm show it like that if and only if it is so then. -/
theorem stale_iff_of_run {a : Alarm} {source : NodeId} {name : QualifiedName}
    {parent : Option NodeId} {severity : UInt16} {s₀ s : Server β}
    {es : List (Exchange (upcalls β) (Server β))} (hs : s₀.script = .empty)
    (hcreate : After ((Alarm.create source name parent severity).perform s₀) es (.done (.ok a) s))
    (hes : ∀ e ∈ es, Calm a.condition.id e.asked e.left)
    {trace : List (alarmCalls a β).Stretch} {d : (alarmCalls a β).Config}
    (h : System.Run (.idle (alarmCalls a β) s) trace d) :
    (d.state.space.Stale a.condition.id ↔
      System.latest System.Stretch.leaves? trace = some true) ∧
    ∀ st ∈ trace, ∃ new, st.after.eventsOf a.condition.id =
        st.before.eventsOf a.condition.id ++ new ∧
      ∀ e ∈ new, (e.Stale ↔ st.after.space.Stale a.condition.id) := by
  have hnew := Alarm.newAlarm_of_create hs hcreate hes
  have hleaves := leaves_of_run hnew.alarm h
  refine ⟨?_, fun st hst => (hleaves st hst).reports.stale_iff⟩
  have hlatest := h.eq_latest (fun s => decide (s.space.Stale a.condition.id))
    fun st hst => (hleaves st hst).stale
  have hfirst : decide (s.space.Stale a.condition.id) = false := decide_eq_false hnew.not_stale
  change decide (d.state.space.Stale a.condition.id) =
    Option.getD _ (decide (s.space.Stale a.condition.id)) at hlatest
  rw [hfirst] at hlatest
  refine decide_eq_true_iff.symm.trans ?_
  rw [hlatest]
  cases System.latest System.Stretch.leaves? trace <;> simp

/-- An alarm of the server object. -/
def serverAlarm : Alarm := ⟨⟨.numeric 1 50000, true⟩, .serverObject⟩

/-- A server where that alarm has just been created. -/
def serverWithAlarm : Server Unit :=
  ((Alarm.createDefault .serverObject).perform (.create (.start ⟨0, 0⟩))).state

private theorem after_createDefault :
    After ((Alarm.createDefault .serverObject).perform
        (.create (.start ⟨0, 0⟩) : Server Unit)) []
      (.done (.ok serverAlarm) serverWithAlarm) :=
  .nil _

/-- A client acknowledges the alarm, which is off. -/
def acknowledgedOff : (alarmCalls serverAlarm Unit).Stretch :=
  .first _ 0 (.client (.acknowledge none none)) serverWithAlarm

/-- Then the alarm is switched off again. -/
def switchedOff : (alarmCalls serverAlarm Unit).Stretch :=
  .first _ 1 (.switch .serverObject false none) acknowledgedOff.after

/-- The alarm is off and acknowledged until it is switched. -/
theorem stale_iff_switchedOff :
    ∃ d, System.Run (.idle (alarmCalls serverAlarm Unit) serverWithAlarm)
        [acknowledgedOff, switchedOff] d ∧
      acknowledgedOff.after.space.Stale serverAlarm.condition.id ∧
      ¬ d.state.space.Stale serverAlarm.condition.id := by
  have h : System.Run (.idle (alarmCalls serverAlarm Unit) serverWithAlarm)
      [acknowledgedOff, switchedOff] ⟨switchedOff.after, 2, []⟩ :=
    .cons (.request_of_ends ⟨_, _, rfl⟩ 0 []) (.cons (.request_of_ends ⟨_, _, rfl⟩ 1 []) (.nil _))
  have hfirst : System.Run (.idle (alarmCalls serverAlarm Unit) serverWithAlarm)
      [acknowledgedOff] ⟨acknowledgedOff.after, 1, []⟩ :=
    .cons (.request_of_ends ⟨_, _, rfl⟩ 0 []) (.nil _)
  have hcreate := after_createDefault
  have hstale := (stale_iff_of_run rfl hcreate (fun _ he => nomatch he) hfirst).1
  have hlast := (stale_iff_of_run rfl hcreate (fun _ he => nomatch he) h).1
  exact ⟨_, h, hstale.2 rfl, fun hd => nomatch hlast.1 hd⟩

/-- An alarm may be shown as acknowledged although it is off. A client acknowledges it while it is
off, and that is published. -/
theorem stale_acknowledgedOff :
    ∃ (s : Server Unit) (d : (alarmCalls serverAlarm Unit).Config),
      After ((Alarm.createDefault .serverObject).perform (.create (.start ⟨0, 0⟩))) []
        (.done (.ok serverAlarm) s) ∧
      System.Run (.idle (alarmCalls serverAlarm Unit) s) [acknowledgedOff] d ∧
      d.state.space.Stale serverAlarm.condition.id ∧
      ∃ e ∈ d.state.eventsOf serverAlarm.condition.id, e.Stale :=
  ⟨_, _, after_createDefault, .cons (.request_of_ends ⟨_, _, rfl⟩ 0 []) (.nil _), by decide,
    by decide +kernel⟩

end AlarmServer
