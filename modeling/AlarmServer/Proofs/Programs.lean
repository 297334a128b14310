import AlarmServer.Proofs.Callbacks

/-!
# Programs of handles

A program that works on conditions by their handles, and installs hooks by registrations only, does
what some uses do one after the other, whatever its callbacks do with the server before they answer.
So what is said of all runs of uses is said of the server under such programs. The operations of
alarms are such programs.
-/

namespace AlarmServer

open Interaction (Keeps)

variable {α β γ : Type}

/-- Where nothing is settled, nothing is settled by a use. -/
theorem Use.keeps_open (u : Use β) (s : Server β) : Keeps Server.StaysOpen s (u.perform s) := by
  cases u with
  | request r hr => exact (r.does hr.1 s).imp fun _ _ h => h.script
  | register c k slot => exact Routine.keeps_open (c.register k slot).run s
  | drop c => exact Routine.keeps_open c.drop s
  | beside f _ => exact id

/-- Programs that work by handles and install hooks by registrations only. -/
inductive Handled : {α : Type} → Routine β α → Prop where
  /-- Do nothing. -/
  | pure {α : Type} (a : α) : Handled (pure a)
  /-- Do one thing and then another. -/
  | bind {α γ : Type} {x : Routine β α} {f : α → Routine β γ} (hx : Handled x)
      (hf : ∀ a, Handled (f a)) : Handled (x >>= f)
  /-- Read the tables. -/
  | get : Handled get
  /-- Change the tables, but not the registry. -/
  | modify {f : Tables β → Tables β} (hf : ∀ t, (f t).registry = t.registry) : Handled (modify f)
  /-- Make a runtime call that installs no hook. -/
  | call {c : RuntimeCall β} (hc : c.method ≠ .installHook) : Handled (Routine.call c)
  /-- Register a callback. -/
  | register (c : Condition) (k : TransitionKind) (slot : Slot β) :
      Handled (c.register k slot).run
  /-- Drop a handle. -/
  | drop (c : Condition) : Handled c.drop

/-- What such a program does is made of uses. -/
theorem Handled.covers {x : Routine β α} (h : Handled x) (waiting : List (uses β).Stretch)
    {s : Server β} (n : Nat) (hs : s.script = .empty) :
    System.Covers (·.script = .empty) waiting ⟨s, n, waiting⟩ (x.perform s) := by
  have huse (u : Use β) {s : Server β} (n : Nat) (hs : s.script = .empty) :
      System.Covers (·.script = .empty) waiting ⟨s, n, waiting⟩ (u.perform s) :=
    System.covers_request (Y := uses β) u s n (u.keeps_open s) hs
  induction h generalizing s n with
  | pure a => exact ⟨hs, [], n, .nil _⟩
  | bind _ _ ihx ihf =>
    rw [Routine.perform_bind]
    exact (ihx n hs).bind fun a t m ht => ihf a m ht
  | get => exact ⟨hs, [], n, .nil _⟩
  | modify hf => exact huse (.beside _ hf) n hs
  | @call c hc =>
    rw [Routine.perform_call, Server.answer_of_empty hs]
    refine huse (.request (.call c) ⟨trivial, fun hook he => hc ?_⟩) n hs
    rw [Request.call.inj he]
  | register c k slot => exact huse (.register c k slot) n hs
  | drop c => exact huse (.drop c) n hs

namespace Operation

private theorem handled_bind {x : Operation β α} {f : α → Operation β γ} (hx : Handled x.run)
    (hf : ∀ a, Handled (f a).run) : Handled (x >>= f).run := by
  refine .bind hx fun r => ?_
  cases r with
  | ok a => exact hf a
  | error e => exact .pure _

private theorem handled_pure (a : α) : Handled (pure a : Operation β α).run := .pure _

private theorem handled_throw (e : Error) : Handled (throw e : Operation β α).run := .pure _

private theorem handled_lift {x : Routine β α} (hx : Handled x) :
    Handled (liftM x : Operation β α).run := .bind hx fun _ => .pure _

private theorem handled_get : Handled (get : Operation β (Tables β)).run := handled_lift .get

private theorem handled_log (level : Level) (text : String) :
    Handled (log level text : Operation β Unit).run := handled_lift (.modify fun _ => rfl)

private theorem handled_tryCatch {x : Operation β α} {f : Error → Operation β α}
    (hx : Handled x.run) (hf : ∀ e, Handled (f e).run) : Handled (tryCatch x f).run := by
  refine .bind hx fun r => ?_
  cases r with
  | ok a => exact .pure _
  | error e => exact hf e

private theorem handled_request {c : RuntimeCall β} (hc : c.method ≠ .installHook)
    (failure : StatusCode → Error) : Handled (request c failure).run :=
  .bind (.call hc) fun _ => .pure _

end Operation

open Operation

namespace Condition

private theorem handled_create (r : ConditionRequest) :
    Handled (create r : Operation β Condition).run :=
  handled_bind (handled_request (by nofun) _) fun _ =>
    handled_bind (handled_log _ _) fun _ => handled_pure _

private theorem handled_setField (c : Condition) (field : QualifiedName) (value : Variant) :
    Handled (c.setField field value : Operation β Unit).run :=
  handled_request (by nofun) _

private theorem handled_setVariableField (c : Condition) (variableName property : QualifiedName)
    (value : Variant) :
    Handled (c.setVariableField variableName property value : Operation β Unit).run :=
  handled_request (by nofun) _

private theorem handled_twoState (c : Condition) (k : TransitionKind) :
    Handled (c.twoState k : Operation β Bool).run := by
  refine handled_bind (handled_request (by nofun) _) fun value => ?_
  split
  · exact handled_pure _
  · exact handled_throw _

private theorem handled_trigger (c : Condition) (source : NodeId) :
    Handled (c.trigger source : Operation β EventId).run :=
  handled_request (by nofun) _

end Condition

namespace Alarm

open Condition

private theorem handled_prepare (c : Condition) (severity : UInt16) :
    Handled (prepare c severity : Operation β Unit).run :=
  handled_bind (handled_setVariableField _ _ _ _) fun _ =>
  handled_bind (handled_setField _ _ _) fun _ =>
  handled_bind (handled_setField _ _ _) fun _ => handled_setField _ _ _

/-- An alarm that cannot be brought into its first state is dropped, and its creation is a program
all the same. -/
theorem handled_create (source : NodeId) (name : QualifiedName) (parent : Option NodeId)
    (severity : UInt16) : Handled (create source name parent severity : Operation β Alarm).run := by
  refine handled_bind (Condition.handled_create _) fun c => ?_
  refine handled_bind (handled_tryCatch (handled_prepare c severity) fun e => ?_) fun _ =>
    handled_pure _
  exact handled_bind (handled_lift (.drop c)) fun _ => handled_throw e

/-- A switch is such a program. -/
theorem handled_setActive (a : Alarm) (source : NodeId) (active : Bool)
    (message : Option String) :
    Handled (a.setActive source active message : Operation β EventId).run := by
  refine handled_bind (handled_log _ _) fun _ => ?_
  refine handled_bind (handled_setField _ _ _) fun _ => ?_
  refine handled_bind handled_get fun _ => ?_
  refine handled_bind (handled_setField _ _ _) fun _ => ?_
  refine handled_bind (handled_setField _ _ _) fun _ => ?_
  refine handled_bind (handled_setVariableField _ _ _ _) fun _ => ?_
  cases active with
  | true => exact handled_trigger _ _
  | false =>
    exact handled_bind (handled_setVariableField _ _ _ _) fun _ =>
      handled_bind (handled_setVariableField _ _ _ _) fun _ => handled_trigger _ _

/-- To read the state of an alarm is such a program. -/
theorem handled_state (a : Alarm) : Handled (a.state : Operation β AlarmState).run :=
  handled_bind (handled_twoState _ _) fun _ => handled_pure _

/-- A registration for an alarm is such a program. -/
theorem handled_register (a : Alarm) (k : TransitionKind) (removeBranch : Bool) (callback : β) :
    Handled (a.register k removeBranch callback).run :=
  .register _ _ _

end Alarm

end AlarmServer
