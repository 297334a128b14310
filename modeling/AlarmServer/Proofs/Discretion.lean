import AlarmServer.Proofs.Handlings
import AlarmServer.Proofs.Journal
import AlarmServer.Proofs.WriteAccess

/-!
# Lines written beside the runtime

Handles, the session store and access control write lines to the journal while the runtime does
nothing. None of these lines looks like one of the trail that dispatches leave.
-/

namespace AlarmServer

open Interaction (Keeps)

variable {β : Type}

/-! ### Discreet actions -/

namespace Interaction

/-- What an interaction keeps, and the answers to its questions keep as well, is kept where it is
answered. -/
theorem Keeps.serve {S S' : Signature} {σ α : Type} {R : σ → σ → Prop}
    (trans : ∀ a b c, R a b → R b c → R a c)
    {answer : (q : S.Question) → σ → Interaction S' σ (S.Answer q)}
    (ha : ∀ q t, Keeps R t (answer q t)) {x : Interaction S σ α} {s : σ} (hx : Keeps R s x) :
    Keeps R s (x.serve answer) := by
  induction x generalizing s with
  | done a t => exact hx
  | ask q t k ih => exact .bind trans (.after_step trans hx.1 (ha q t)) fun r u => ih r u (hx.2 r u)

end Interaction

namespace Tables

/-- No line of the trail is written. -/
def StaysDiscreet (t u : Tables β) : Prop := GoesOn [] t.ambient.journal u.ambient.journal

private theorem StaysDiscreet.trans (t u v : Tables β) (h : t.StaysDiscreet u)
    (h' : u.StaysDiscreet v) : t.StaysDiscreet v :=
  GoesOn.trans h h'

end Tables

open Tables (StaysDiscreet)

/-- Between its questions the action writes no line of the trail. -/
def Action.Discreet {S : Signature} {α : Type} (x : Action S (Tables β) α) : Prop :=
  ∀ t, Keeps StaysDiscreet t (x t)

open AlarmServer.Action (Discreet)

section

variable {S : Signature} {α γ : Type}

private theorem discreet_pure (a : α) : Discreet (pure a : Action S (Tables β) α) :=
  fun _ => .refl _

private theorem discreet_bind {x : Action S (Tables β) α} {f : α → Action S (Tables β) γ}
    (hx : Discreet x) (hf : ∀ a, Discreet (f a)) : Discreet (x >>= f) :=
  fun t => (hx t).bind .trans fun a => hf a

private theorem discreet_ask (q : S.Question) : Discreet (Action.ask q : Action S (Tables β) _) :=
  fun _ => ⟨.refl _, fun _ _ => .refl _⟩

private theorem discreet_get : Discreet (get : Action S (Tables β) (Tables β)) := fun _ => .refl _

private theorem discreet_modify {f : Tables β → Tables β} (h : ∀ t, (f t).ambient = t.ambient) :
    Discreet (modify f : Action S (Tables β) Unit) := by
  intro t
  show GoesOn [] t.ambient.journal (f t).ambient.journal
  rw [h]
  exact .refl _

private theorem discreet_log {level : Level} {text : String} (h : OffTrail text) :
    Discreet (modify (Tables.log level text) : Action S (Tables β) Unit) :=
  fun _ => .concat _ (Entry.isTrail_of_offTrail h)

end

namespace Operation

variable {α γ : Type}

private theorem discreet_bind {x : Operation β α} {f : α → Operation β γ} (hx : Discreet x.run)
    (hf : ∀ a, Discreet (f a).run) : Discreet (x >>= f).run := by
  refine AlarmServer.discreet_bind hx fun r => ?_
  cases r with
  | ok a => exact hf a
  | error e => exact discreet_pure _

private theorem discreet_tryCatch {x : Operation β α} {f : Error → Operation β α}
    (hx : Discreet x.run) (hf : ∀ e, Discreet (f e).run) : Discreet (tryCatch x f).run := by
  refine AlarmServer.discreet_bind hx fun r => ?_
  cases r with
  | ok a => exact discreet_pure _
  | error e => exact hf e

private theorem discreet_lift {x : Routine β α} (hx : Discreet x) :
    Discreet (liftM x : Operation β α).run :=
  AlarmServer.discreet_bind hx fun _ => discreet_pure _

private theorem discreet_request (c : RuntimeCall β) (failure : StatusCode → Error) :
    Discreet (request c failure).run :=
  AlarmServer.discreet_bind (discreet_ask (S := runtimeCalls β) c) fun _ => discreet_pure _

private theorem discreet_log {level : Level} {text : String} (h : OffTrail text) :
    Discreet (log level text : Operation β Unit).run :=
  discreet_lift (AlarmServer.discreet_log h)

end Operation

/-! ### Handles -/

open Operation (discreet_request discreet_lift discreet_tryCatch)

namespace Condition

private theorem discreet_create (r : ConditionRequest) :
    Discreet (create r : Operation β Condition).run := by
  refine Operation.discreet_bind (discreet_request _ _) fun id => ?_
  refine Operation.discreet_bind (Operation.discreet_log ⟨'C', by simp, by decide⟩) fun _ => ?_
  exact discreet_pure _

private theorem discreet_drop (c : Condition) : Discreet (c.drop : Routine β Unit) := by
  unfold drop
  split
  · refine discreet_bind (discreet_ask (S := runtimeCalls β) _) fun r => ?_
    cases r with
    | ok _ => exact discreet_modify fun _ => rfl
    | error e => exact discreet_log ⟨'F', by simp, by decide⟩
  · exact discreet_pure _

private theorem discreet_register (c : Condition) (k : TransitionKind) (slot : Slot β) :
    Discreet (c.register k slot).run := by
  refine Operation.discreet_bind (discreet_lift discreet_get) fun tables => ?_
  refine Operation.discreet_bind (discreet_lift (discreet_modify fun _ => rfl)) fun _ => ?_
  dsimp only
  split
  · refine Operation.discreet_bind (Operation.discreet_log ⟨'R', by simp, by decide⟩) fun _ => ?_
    exact discreet_request _ _
  · exact discreet_request _ _

end Condition

namespace Alarm

private theorem discreet_create (source : NodeId) (name : QualifiedName) (parent : Option NodeId)
    (severity : UInt16) :
    Discreet (create source name parent severity : Operation β Alarm).run := by
  refine Operation.discreet_bind (Condition.discreet_create _) fun c => ?_
  refine Operation.discreet_bind (discreet_tryCatch ?_ fun e => ?_) fun _ => discreet_pure _
  · refine Operation.discreet_bind (discreet_request _ _) fun _ => ?_
    refine Operation.discreet_bind (discreet_request _ _) fun _ => ?_
    exact Operation.discreet_bind (discreet_request _ _) fun _ => discreet_request _ _
  · exact Operation.discreet_bind (discreet_lift c.discreet_drop) fun _ => discreet_pure _

private theorem discreet_setActive (a : Alarm) (source : NodeId) (active : Bool)
    (message : Option String) :
    Discreet (a.setActive source active message : Operation β EventId).run := by
  refine Operation.discreet_bind (Operation.discreet_log ⟨'C', by simp, by decide⟩) fun _ => ?_
  refine Operation.discreet_bind (discreet_request _ _) fun _ => ?_
  refine Operation.discreet_bind (discreet_lift discreet_get) fun _ => ?_
  refine Operation.discreet_bind (discreet_request _ _) fun _ => ?_
  refine Operation.discreet_bind (discreet_request _ _) fun _ => ?_
  refine Operation.discreet_bind (discreet_request _ _) fun _ => ?_
  cases active with
  | true => exact discreet_request _ _
  | false =>
    exact Operation.discreet_bind (discreet_request _ _) fun _ =>
      Operation.discreet_bind (discreet_request _ _) fun _ => discreet_request _ _

end Alarm

/-! ### Sessions and access control -/

namespace SessionStore

variable {S : Signature}

private theorem discreet_closeNoted (session : SessionId) :
    Discreet (closeNoted session : Action S (Tables β) Unit) :=
  discreet_bind (discreet_log ⟨'D', by simp, by decide⟩) fun _ => discreet_modify fun _ => rfl

private theorem discreet_setNoted (session : Session) (key : QualifiedName)
    (value : AttributeValue) :
    Discreet (setNoted session key value : Action S (Tables β) Unit) := by
  cases session with
  | none => exact discreet_log ⟨'I', by simp, by decide⟩
  | some session =>
    exact discreet_bind (discreet_log ⟨'S', by simp, by decide⟩) fun _ =>
      discreet_modify fun _ => rfl

end SessionStore

namespace AccessPolicy

/-- Whatever a policy answers. -/
theorem discreet_answer (p : AccessPolicy) (q : AccessCall β) : Discreet (p.answer q) := by
  cases q with
  | activate session token =>
    cases p with
    | fixed status level => exact discreet_pure _
    | logins table =>
      show Discreet (AccessPolicy.activate (.logins table) session token)
      unfold activate
      dsimp only
      split
      · exact discreet_bind (discreet_log ⟨'S', by simp, by decide⟩) fun _ => discreet_pure _
      · exact discreet_pure _
  | close session =>
    cases p with
    | fixed status level => exact discreet_pure _
    | logins table => exact discreet_log ⟨'S', by simp, by decide⟩
  | level session node => exact discreet_pure _
  | runtime call => exact discreet_ask (S := runtimeCalls β) call

end AccessPolicy

namespace AccessRequest

/-- Is the request one of sessions? -/
def OfSessions : AccessRequest β → Prop
  | beside .. => False
  | _ => True

private theorem discreet_perform {r : AccessRequest β} (hr : r.OfSessions) :
    Discreet r.perform := by
  have hask (q : AccessCall β) :
      Discreet (Action.ask (S := accessCalls β) q : AccessAction β q.Answer) :=
    discreet_ask (S := accessCalls β) q
  cases r with
  | activate session token =>
    refine discreet_bind (discreet_bind (discreet_log ⟨'S', by simp, by decide⟩) fun _ =>
      discreet_bind (discreet_modify fun _ => rfl) fun _ => discreet_pure _) fun _ => ?_
    refine discreet_bind (hask _) fun status => ?_
    split
    · exact discreet_pure _
    · exact discreet_bind (SessionStore.discreet_closeNoted session) fun _ => discreet_pure _
  | close session =>
    refine discreet_bind discreet_get fun _ => ?_
    refine discreet_bind (discreet_log ⟨'C', by simp, by decide⟩) fun _ => ?_
    exact discreet_bind (hask _) fun _ => SessionStore.discreet_closeNoted session
  | userLevel session node =>
    refine discreet_bind discreet_get fun _ => discreet_bind (hask _) fun _ => ?_
    refine discreet_bind (hask _) fun name => ?_
    have hnoted {text : String} {level : AccessLevel} (h : OffTrail text) :
        Discreet (modify (Tables.log .info text) >>= fun _ => pure level : AccessAction β _) :=
      discreet_bind (discreet_log h) fun _ => discreet_pure _
    cases name with
    | ok name => exact hnoted ⟨'S', by simp, by decide⟩
    | error e => exact hnoted ⟨'S', by simp, by decide⟩
  | «open» session => exact discreet_modify fun _ => rfl
  | recordIdentity session i => exact discreet_modify fun _ => rfl
  | setAttribute session key value => exact SessionStore.discreet_setNoted session key value
  | forget session => exact SessionStore.discreet_closeNoted session
  | beside registry ambient => exact hr.elim

end AccessRequest

/-! ### Errands -/

/-- What handles, the session store and access control do that may write lines by themselves. What
else a handle does is one call to the runtime. -/
inductive Errand (β : Type) where
  /-- Create a condition or an alarm. -/
  | create (x : Creation)
  /-- Switch an alarm. -/
  | switch (a : Alarm) (source : NodeId) (active : Bool) (message : Option String)
  /-- Register a callback. -/
  | register (c : Condition) (k : TransitionKind) (slot : Slot β)
  /-- Drop a handle. -/
  | drop (c : Condition)
  /-- Do something about sessions. -/
  | access (a : AccessControl) (r : AccessRequest β) (h : r.OfSessions)

namespace Errand

/-- What comes of it. -/
@[reducible] def Result : Errand β → Type
  | create _ => Except Error Held
  | switch .. => Except Error EventId
  | register .. => Except Error Unit
  | drop _ => Unit
  | access _ r _ => r.Result

/-- Do it. -/
def perform : (x : Errand β) → Routine β x.Result
  | create x => x.perform.run
  | switch a source active message => (a.setActive source active message).run
  | register c k slot => (c.register k slot).run
  | drop c => c.drop
  | access a r _ => a.perform r.perform

/-- What is written beside the runtime are no lines of the trail. -/
theorem discreet (x : Errand β) : Discreet x.perform := by
  cases x with
  | create x =>
    cases x with
    | condition r =>
      exact Operation.discreet_bind (Condition.discreet_create r) fun _ => discreet_pure _
    | alarm source name parent severity =>
      exact Operation.discreet_bind (Alarm.discreet_create source name parent severity) fun _ =>
        discreet_pure _
  | switch a source active message => exact a.discreet_setActive source active message
  | register c k slot => exact c.discreet_register k slot
  | drop c => exact c.discreet_drop
  | access a r hr =>
    exact fun t => (AccessRequest.discreet_perform hr t).serve .trans a.policy.discreet_answer

end Errand

end AlarmServer
