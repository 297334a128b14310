import AlarmServer.Handle.Alarm
import AlarmServer.Proofs.Requests

/-!
# Operations of handles on a server

An operation of a handle is carried out piece by piece as it is written: what is done in sequence is
carried out in sequence, and a request is answered by the runtime. Between one question and the next
it makes the changes that its runtime calls may make. Proofs about handles use these laws and do not
look at how routines are carried out.
-/

namespace AlarmServer

open Interaction (Keeps)
open ServerAction (Does)

variable {β α γ : Type}

namespace Interaction

variable {S S' : Signature} {σ τ : Type}

/-- A sequence works on the part of a state as its parts do, if the part can be read and written
back. -/
theorem zoom_bind (part : τ → σ) (store : σ → τ → τ) (hread : ∀ s t, part (store s t) = s)
    (hwrite : ∀ s s' t, store s (store s' t) = store s t) (x : Interaction S σ α)
    (f : α → σ → Interaction S σ γ) (t : τ) :
    (x.bind f).zoom part store t =
      (x.zoom part store t).bind fun a u => (f a (part u)).zoom part store u := by
  induction x generalizing t with
  | done a s =>
    simp only [bind_done, zoom, hread]
    cases f a s with
    | done b u => simp only [zoom, hwrite]
    | ask q u k => simp only [zoom, hwrite]
  | ask q s k ih =>
    simp only [bind_ask, zoom]
    congr 1
    funext r u
    exact ih r (part u) u

/-- A sequence is answered as its parts are. -/
theorem serve_bind (answer : (q : S.Question) → σ → Interaction S' σ (S.Answer q))
    (x : Interaction S σ α) (f : α → σ → Interaction S σ γ) :
    (x.bind f).serve answer = (x.serve answer).bind fun a s => (f a s).serve answer := by
  induction x with
  | done a s => rfl
  | ask q s k ih =>
    simp only [bind_ask, serve, bind_assoc]
    congr 1
    funext r t
    exact ih r t

end Interaction

/-- Where nothing is settled, the address space answers. -/
theorem Server.answer_of_empty {s : Server β} (h : s.script = .empty) (c : RuntimeCall β) :
    Server.answer c s = (Server.genuineAnswer c).run s := by
  rw [Server.answer_run, h]
  show (Server.genuineAnswer c).run { s with script := .empty } = _
  rw [← h]

namespace Routine

/-- The second routine is performed where the first one has ended. -/
theorem perform_bind (x : Routine β α) (f : α → Routine β γ) (s : Server β) :
    (x >>= f).perform s = (x.perform s).bind fun a t => (f a).perform t := by
  have hz := Interaction.zoom_bind Server.tables Server.withTables (fun _ _ => rfl)
    (fun _ _ _ => rfl) (x s.tables) f s
  exact (congrArg (Interaction.serve Server.answer) hz).trans (Interaction.serve_bind _ _ _)

/-- To give a value is over at once. -/
@[simp] theorem perform_pure (a : α) (s : Server β) :
    (pure a : Routine β α).perform s = .done a s := rfl

/-- A change of the tables leaves the rest of the server alone. -/
@[simp] theorem perform_modify (f : Tables β → Tables β) (s : Server β) :
    (modify f : Routine β Unit).perform s = .done () (s.withTables (f s.tables)) := rfl

/-- A call of the runtime is answered by the server. -/
theorem perform_call (c : RuntimeCall β) (s : Server β) :
    (call c).perform s = Server.answer c s := by
  show (Server.answer c s).bind (fun r t => .done r t) = _
  exact Interaction.bind_done_right _

end Routine

namespace Operation

/-- What follows on an operation is carried out if that succeeds. -/
theorem perform_bind (x : Operation β α) (f : α → Operation β γ) (s : Server β) :
    (x >>= f).perform s = (x.perform s).bind fun r t =>
      match r with
      | .ok a => (f a).perform t
      | .error e => .done (.error e) t := by
  show Routine.perform (ExceptT.run x >>= ExceptT.bindCont f) s = _
  rw [Routine.perform_bind]
  congr 1
  funext r t
  cases r <;> rfl

/-- What follows on an operation that succeeds at once is carried out where that has ended. -/
theorem perform_bind_of_ok {x : Operation β α} {f : α → Operation β γ} {s t : Server β} {a : α}
    (h : x.perform s = .done (.ok a) t) : (x >>= f).perform s = (f a).perform t := by
  rw [perform_bind, h]
  rfl

/-- What catches the failure of an operation is carried out if that fails. -/
theorem perform_tryCatch (x : Operation β α) (f : Error → Operation β α) (s : Server β) :
    (tryCatch x f).perform s = (x.perform s).bind fun r t =>
      match r with
      | .ok a => .done (.ok a) t
      | .error e => (f e).perform t := by
  show Routine.perform (ExceptT.run x >>= _) s = _
  rw [Routine.perform_bind]
  congr 1
  funext r t
  cases r <;> rfl

/-- To give a value is over at once. -/
@[simp] theorem perform_pure (a : α) (s : Server β) :
    (pure a : Operation β α).perform s = .done (.ok a) s := rfl

/-- A failure is over at once. -/
@[simp] theorem perform_throw (e : Error) (s : Server β) :
    (throw e : Operation β α).perform s = .done (.error e) s := rfl

/-- To read the tables is to be given those of the server. -/
@[simp] theorem perform_get (s : Server β) :
    (get : Operation β (Tables β)).perform s = .done (.ok s.tables) s := rfl

/-- A change of the tables leaves the rest of the server alone. -/
@[simp] theorem perform_modify (f : Tables β → Tables β) (s : Server β) :
    (modify f : Operation β Unit).perform s = .done (.ok ()) (s.withTables (f s.tables)) := rfl

/-- A line is written to the journal of the server. -/
@[simp] theorem perform_log (level : Level) (text : String) (s : Server β) :
    (log level text : Operation β Unit).perform s = .done (.ok ()) (s.log level text) := rfl

/-- A request fails as the runtime says, under the name of what was asked for. -/
theorem perform_request (c : RuntimeCall β) (failure : StatusCode → Error) (s : Server β) :
    (request c failure).perform s =
      (Server.answer c s).bind fun r t => .done (r.mapError failure) t := by
  show Routine.perform (Routine.call c >>= fun r => pure (Except.mapError failure r)) s = _
  rw [Routine.perform_bind, Routine.perform_call]
  rfl

/-- Where nothing is settled, a request is answered by the address space. -/
theorem perform_request_of_empty {s : Server β} (h : s.script = .empty) (c : RuntimeCall β)
    (failure : StatusCode → Error) :
    (request c failure).perform s =
      ((Server.genuineAnswer c).run s).bind fun r t => .done (r.mapError failure) t := by
  rw [perform_request, Server.answer_of_empty h]

end Operation

/-! ### Changes made by operations -/

/-- A runtime call that is answered makes the changes that it may make, or none. -/
theorem Server.does_answer (c : RuntimeCall β) : Does c.May (Server.answer c) := by
  intro s
  have hnext : Server.Advances c.May s { s with script := (s.script.next c.method).2 } := by
    refine ⟨.refl s.space, rfl, fun hs => ?_⟩
    show (s.script.next c.method).2 = .empty
    rw [hs]
    rfl
  rw [Server.answer_run]
  cases (s.script.next c.method).1 with
  | settled a => exact hnext
  | genuine => exact .after_step (fun _ _ _ => .trans _ _ _) hnext (Service.does_call c _)

/-- If nothing was settled, nothing is. -/
def Server.StaysOpen (s t : Server β) : Prop := s.script = .empty → t.script = .empty

/-- What stays open from one state to the next, twice, stays open. -/
theorem Server.StaysOpen.trans (s t u : Server β) (h : s.StaysOpen t) (h' : t.StaysOpen u) :
    s.StaysOpen u :=
  fun hs => h' (h hs)

/-- Where nothing is settled, nothing is settled by a routine. -/
theorem Routine.keeps_open (x : Routine β α) (s : Server β) :
    Keeps Server.StaysOpen s (x.perform s) := by
  show Keeps _ s (((x s.tables).zoom Server.tables Server.withTables s).serve Server.answer)
  generalize x s.tables = y
  induction y generalizing s with
  | done a t => exact id
  | ask c t k ih =>
    have hanswer : Keeps Server.StaysOpen s (Server.answer c (s.withTables t)) := by
      refine .after_step Server.StaysOpen.trans (fun hs => ?_)
        ((Server.does_answer c (s.withTables t)).imp fun _ _ h => h.script)
      exact hs
    exact Keeps.bind Server.StaysOpen.trans hanswer fun r u => ih r u.tables u

namespace Operation

variable {may : Change β → Prop}

/-- Two operations one after the other make the changes that both may make. -/
theorem does_bind {x : Operation β α} {f : α → Operation β γ} (hx : Does may x.perform)
    (hf : ∀ a, Does may (f a).perform) : Does may (x >>= f).perform := by
  intro s
  rw [perform_bind]
  refine (hx s).bind (fun _ _ _ => .trans _ _ _) fun r t => ?_
  cases r with
  | ok a => exact hf a t
  | error e => exact Server.Advances.refl t

/-- A call of the runtime makes the changes that the call may make. -/
theorem does_request {c : RuntimeCall β} (hm : ∀ ch, c.May ch → may ch)
    (failure : StatusCode → Error) : Does may (request c failure).perform := by
  intro s
  rw [perform_request]
  exact ((Server.does_answer c).imp hm s).bind (fun _ _ _ => .trans _ _ _) fun _ t => .refl t

end Operation

/-! ### Dropped handles -/

/-- What comes of a request to delete a node with all references to it. -/
inductive Server.Deletion (id : NodeId) (s : Server β) :
    Except StatusCode Unit → Server β → Prop where
  /-- The answer was settled. -/
  | settled {r : Except StatusCode Unit} {u : Server β}
      (hnext : (s.script.next .deleteNode).1 = .settled r) (h : s.Beside u) : Deletion id s r u
  /-- There is no such node. -/
  | refused {e : StatusCode} {u : Server β} (hnext : (s.script.next .deleteNode).1 = .genuine)
      (hs : s.space.deleteNode id true = .error e) (h : s.Beside u) : Deletion id s (.error e) u
  /-- The node is deleted. -/
  | deleted {sp : AddressSpace β} {u : Server β} (hnext : (s.script.next .deleteNode).1 = .genuine)
      (hs : s.space.deleteNode id true = .ok sp) (h : (s.withSpace sp).Beside u) :
      Deletion id s (.ok ()) u

/-- A request to delete a node is answered at once. -/
theorem Server.answer_deleteNode (id : NodeId) (s : Server β) :
    ∃ r u, Server.answer (.deleteNode id true) s = .done r u ∧ s.StaysOpen u ∧
      Deletion id s r u := by
  suffices h : ∃ r u, Server.answer (.deleteNode id true) s = .done r u ∧ Deletion id s r u by
    obtain ⟨r, u, hanswer, hdeletion⟩ := h
    have hdoes := Server.does_answer (.deleteNode id true) s
    rw [hanswer] at hdoes
    exact ⟨r, u, hanswer, hdoes.script, hdeletion⟩
  rw [Server.answer_run]
  cases hnext : (s.script.next .deleteNode).1 with
  | settled a => exact ⟨a, _, rfl, .settled hnext ⟨rfl, rfl, rfl, rfl, rfl⟩⟩
  | genuine =>
    show ∃ r u, (Service.deleteNode id true).run _ = .done r u ∧ _
    rw [Service.deleteNode_run]
    dsimp only
    cases hs : s.space.deleteNode id true with
    | error e => exact ⟨_, _, rfl, .refused hnext hs ⟨rfl, rfl, rfl, rfl, rfl⟩⟩
    | ok sp => exact ⟨_, _, rfl, .deleted hnext hs ⟨rfl, rfl, rfl, rfl, rfl⟩⟩

namespace Condition

variable {c : Condition}

/-- What is done about the answer to a deletion: the record is removed, or the failure noted. -/
def conclude (c : Condition) (u : Server β) : Except StatusCode Unit → Server β
  | .ok _ => { u with tables.registry := u.tables.registry.remove c.id }
  | .error status =>
    u.log .warn ("Failed to delete condition " ++ c.id.text ++ ": " ++ status.text)

/-- Where a handle that owns a node is dropped, this is deleted. -/
theorem drop_of_answer (h : c.ownsNode = true) {s u : Server β} {r : Except StatusCode Unit}
    (hr : Server.answer (.deleteNode c.id true) s = .done r u) :
    (c.drop : Routine β Unit).perform s = .done () (c.conclude u r) := by
  unfold drop
  rw [if_pos h, Routine.perform_bind, Routine.perform_call, hr]
  cases r <;> rfl

/-- Where a handle that owns no node is dropped, nothing happens. -/
theorem drop_of_borrowed (h : c.ownsNode = false) (s : Server β) :
    (c.drop : Routine β Unit).perform s = .done () s := by
  unfold drop
  rw [if_neg (by simp [h])]
  rfl

end Condition

end AlarmServer
