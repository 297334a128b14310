/-!
# Computations that stop to ask

An `Interaction` is a computation on a state that may hand the state to somebody else, with a
question, and go on with the answer and with whatever state it is given back. This is how the
library says that a callback runs in the middle of an operation: nothing is assumed about what the
other side does in between.

`Action` is the same thing with its start state still open, and is a monad. An interaction is
finished either by answering each question with a function (`Interaction.run`), or by further
actions that may ask questions of their own (`Interaction.serve`).

Spec: `SPEC_FULL.md` §5.
-/

namespace AlarmServer

/-- What a computation may ask, and the type of the answer to each question. -/
structure Signature where
  /-- The questions. -/
  Question : Type
  /-- What counts as an answer to a question. -/
  Answer : Question → Type

/-- A computation on `σ` with result `α` that may stop to ask questions of `S`. -/
inductive Interaction (S : Signature) (σ α : Type) where
  /-- It has ended. -/
  | done (value : α) (state : σ)
  /-- It asks, and goes on with the answer and the state it finds then. -/
  | ask (question : S.Question) (state : σ) (resume : S.Answer question → σ → Interaction S σ α)

namespace Interaction

variable {S S' : Signature} {σ τ α β : Type}

/-- Go on with `f` after the interaction. -/
def bind : Interaction S σ α → (α → σ → Interaction S σ β) → Interaction S σ β
  | done a s, f => f a s
  | ask q s k, f => ask q s fun r t => (k r t).bind f

/-- Run to the end, answering each question with `answer`. -/
def run (answer : (q : S.Question) → σ → S.Answer q × σ) : Interaction S σ α → α × σ
  | done a s => (a, s)
  | ask q s k => (k (answer q s).1 (answer q s).2).run answer

/-- Answer each question by an action that may ask in turn. -/
def serve (answer : (q : S.Question) → σ → Interaction S' σ (S.Answer q)) :
    Interaction S σ α → Interaction S' σ α
  | done a s => done a s
  | ask q s k => (answer q s).bind fun r t => (k r t).serve answer

/-- The same interaction on the part `part` of a larger state, written back with `store`. -/
def zoom (part : τ → σ) (store : σ → τ → τ) : Interaction S σ α → τ → Interaction S τ α
  | done a s, t => done a (store s t)
  | ask q s k, t => ask q (store s t) fun r t' => (k r (part t')).zoom part store t'

/-- What is over goes on at once. -/
@[simp] theorem bind_done (a : α) (s : σ) (f : α → σ → Interaction S σ β) :
    (done a s : Interaction S σ α).bind f = f a s := rfl

/-- What waits for an answer goes on after what follows on the answer. -/
@[simp] theorem bind_ask (q : S.Question) (s : σ) (k : S.Answer q → σ → Interaction S σ α)
    (f : α → σ → Interaction S σ β) :
    (ask q s k).bind f = ask q s fun r t => (k r t).bind f := rfl

/-- Going on with `done` changes nothing. -/
theorem bind_done_right (x : Interaction S σ α) : x.bind done = x := by
  induction x with
  | done a s => rfl
  | ask q s k ih => simp only [bind_ask, ih]

/-- Going on twice is going on once with both. -/
theorem bind_assoc {γ : Type} (x : Interaction S σ α) (f : α → σ → Interaction S σ β)
    (g : β → σ → Interaction S σ γ) :
    (x.bind f).bind g = x.bind fun a s => (f a s).bind g := by
  induction x with
  | done a s => rfl
  | ask q s k ih => simp only [bind_ask, ih]

/-- The end of a composed run is the end of the second part, started where the first one ends. -/
theorem run_bind (answer : (q : S.Question) → σ → S.Answer q × σ) (x : Interaction S σ α)
    (f : α → σ → Interaction S σ β) :
    (x.bind f).run answer = (f (x.run answer).1 (x.run answer).2).run answer := by
  induction x with
  | done a s => rfl
  | ask q s k ih => simp only [bind_ask, run, ih]

end Interaction

/-- An interaction whose start state is still open. -/
def Action (S : Signature) (σ α : Type) : Type := σ → Interaction S σ α

namespace Action

variable {S S' : Signature} {σ τ α β : Type}

instance : Monad (Action S σ) where
  pure a := fun s => .done a s
  bind x f := fun s => (x s).bind f

instance : MonadStateOf σ (Action S σ) where
  get := fun s => .done s s
  set s := fun _ => .done ⟨⟩ s
  modifyGet f := fun s => .done (f s).1 (f s).2

/-- A computation on the state that asks nothing. -/
instance : MonadLift (StateM σ) (Action S σ) where
  monadLift x := fun s => .done (x s).1 (x s).2

/-- Ask one question. -/
def ask (q : S.Question) : Action S σ (S.Answer q) := fun s => .ask q s .done

/-- Run the action on a part of a larger state. -/
def zoom (part : τ → σ) (store : σ → τ → τ) (x : Action S σ α) : Action S τ α :=
  fun t => (x (part t)).zoom part store t

/-- Answer each question of the action by another action. -/
def serve (answer : (q : S.Question) → Action S' σ (S.Answer q)) (x : Action S σ α) :
    Action S' σ α :=
  fun s => (x s).serve answer

/-- An action that only gives a value is over at once. -/
@[simp] theorem pure_apply (a : α) (s : σ) : (pure a : Action S σ α) s = .done a s := rfl

/-- The second action starts where the first one ends. -/
@[simp] theorem bind_apply (x : Action S σ α) (f : α → Action S σ β) (s : σ) :
    (x >>= f) s = (x s).bind f := rfl

instance : LawfulMonad (Action S σ) := LawfulMonad.mk' _
  (fun x => funext fun s => Interaction.bind_done_right (x s))
  (fun _ _ => rfl)
  (fun x f g => funext fun s => Interaction.bind_assoc (x s) f g)

end Action

end AlarmServer
