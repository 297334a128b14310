import AlarmServer.Proofs.Handles

/-!
# Dealing with handles

A program holds handles of conditions and of alarms: it creates them, wraps and borrows, turns
alarms into conditions, releases and drops. What the runtime answers is up to the runtime, and
anything else may be done before it does. Only creations take more than one call: a condition is
created, values are written, and where a write is refused the condition is deleted again. How far a
creation has come can be told from the answers that it has got.
-/

namespace AlarmServer

open Interaction (After found Keeps)

variable {α β γ : Type}

/-! ### What a program holds -/

/-- A value that a program holds. -/
inductive Held where
  /-- A handle of a condition. -/
  | condition (c : Condition)
  /-- An alarm. -/
  | alarm (a : Alarm)

/-- The handle of its condition. -/
def Held.handle : Held → Condition
  | condition c => c
  | alarm a => a.condition

/-- What a program holds, beside the tables of its server. -/
structure Holdings (β : Type) where
  /-- The tables. -/
  tables : Tables β
  /-- The values that it holds, by number. -/
  held : Table Nat Held
  /-- The next number. -/
  next : Nat

namespace Holdings

/-- With other tables. -/
def withTables (t : Tables β) (h : Holdings β) : Holdings β := { h with tables := t }

/-- Nothing is held yet. -/
def start (t : Tables β) : Holdings β := ⟨t, .empty, 0⟩

/-- With a value under a number. -/
def put (n : Nat) (v : Held) (h : Holdings β) : Holdings β := { h with held := h.held.insert n v }

/-- Without a value under a number. -/
def remove (n : Nat) (h : Holdings β) : Holdings β := { h with held := h.held.erase n }

/-- With one more number given out. -/
def advance (h : Holdings β) : Holdings β := { h with next := h.next + 1 }

/-- Give out the next number. -/
def reserve : Action (runtimeCalls β) (Holdings β) Nat :=
  modifyGet fun h => (h.next, h.advance)

/-- Hold a value under a number. -/
def keep (n : Nat) (v : Held) : Action (runtimeCalls β) (Holdings β) Unit :=
  modify (put n v)

/-- Take a value, if there is one under the number. -/
def take (n : Nat) : Action (runtimeCalls β) (Holdings β) (Option Held) :=
  modifyGet fun h => (h.held.find? n, h.remove n)

/-- Carry out a routine. -/
def perform (x : Routine β α) : Action (runtimeCalls β) (Holdings β) α :=
  x.zoom Holdings.tables withTables

end Holdings

/-- What is created. -/
inductive Creation where
  /-- A condition. -/
  | condition (r : ConditionRequest)
  /-- An alarm. -/
  | alarm (source : NodeId) (name : QualifiedName) (parentReference : Option NodeId)
      (severity : UInt16)

/-- Create it. -/
def Creation.perform : Creation → Operation β Held
  | condition r => return .condition (← Condition.create r)
  | alarm source name parent severity => return .alarm (← Alarm.create source name parent severity)

/-- What a program does with handles. -/
inductive Handling (β : Type) where
  /-- Create a condition or an alarm. -/
  | create (x : Creation)
  /-- Wrap an identifier. -/
  | wrap (id : NodeId)
  /-- Borrow a value. -/
  | borrow (n : Nat)
  /-- Turn a value into a condition. -/
  | intoCondition (n : Nat)
  /-- Release a value. -/
  | release (n : Nat)
  /-- Drop a value. -/
  | drop (n : Nat)
  /-- Do anything to the tables. -/
  | beside (f : Tables β → Tables β)

namespace Handling

open Holdings

/-- What comes of it. -/
@[reducible] def Result : Handling β → Type
  | create _ => Except Error Nat
  | wrap _ => Nat
  | borrow _ => Option Nat
  | intoCondition _ => Unit
  | release _ => Option NodeId
  | drop _ => Unit
  | beside _ => Unit

/-- Carry it out. -/
def perform : (x : Handling β) → Action (runtimeCalls β) (Holdings β) x.Result
  | create x => do
    let n ← reserve
    match ← Holdings.perform x.perform.run with
    | .ok v =>
      keep n v
      return .ok n
    | .error e => return .error e
  | wrap id => do
    let n ← reserve
    keep n (.condition (.wrap id))
    return n
  | borrow n => do
    match (← get).held.find? n with
    | some v =>
      let m ← reserve
      keep m (.condition v.handle.borrow)
      return some m
    | none => return none
  | intoCondition n => do
    match ← take n with
    | some v => keep n (.condition v.handle)
    | none => return
  | release n => do
    match ← take n with
    | some v => return some v.handle.release
    | none => return none
  | drop n => do
    match ← take n with
    | some v => Holdings.perform v.handle.drop
    | none => return
  | beside f => modify fun h => h.withTables (f h.tables)

/-- The number of the value that it is about. -/
def subject : Handling β → Holdings β → Nat
  | intoCondition n, _ => n
  | release n, _ => n
  | drop n, _ => n
  | _, h => h.next

end Handling

/-- Dealing with handles as a system. -/
def handlings (β : Type) : System (runtimeCalls β) (Holdings β) where
  Request := Handling β
  Result x := x.Result
  perform x := x.perform

/-! ### Answers -/

namespace RuntimeCall

/-- Does the call write? -/
def isWrite : RuntimeCall β → Bool
  | writeField .. => true
  | writeProperty .. => true
  | _ => false

/-- Does the call create a condition? -/
def isCreation : RuntimeCall β → Bool
  | createCondition _ => true
  | _ => false

/-- Is the call refused? -/
def isRefused {c : RuntimeCall β} : c.Answer → Bool
  | .ok _ => false
  | .error _ => true

end RuntimeCall

namespace Exchange

variable {σ : Type}

/-- The condition that was created. -/
def created? : Exchange (runtimeCalls β) σ → Option NodeId
  | ⟨.createCondition _, _, .ok id, _⟩ => some id
  | _ => none

/-- Was a write refused? -/
def refusesWrite (e : Exchange (runtimeCalls β) σ) : Bool :=
  RuntimeCall.isWrite e.question && RuntimeCall.isRefused e.answer

/-- Only a creation creates. -/
theorem created?_of_not_creation {e : Exchange (runtimeCalls β) σ}
    (h : RuntimeCall.isCreation e.question = false) : e.created? = none := by
  obtain ⟨q, s, a, t⟩ := e
  cases q with
  | createCondition r => cases h
  | _ => rfl

variable {e : Exchange (runtimeCalls β) σ}

/-- A creation is no write. -/
theorem not_write_of_creation (h : RuntimeCall.isCreation e.question = true) :
    RuntimeCall.isWrite e.question = false := by
  obtain ⟨q, s, a, t⟩ := e
  cases q with
  | createCondition r => rfl
  | _ => cases h

/-- A write creates nothing. -/
theorem created?_of_write (h : RuntimeCall.isWrite e.question = true) : e.created? = none := by
  apply created?_of_not_creation
  rw [← Bool.not_eq_true]
  intro hc
  rw [not_write_of_creation hc] at h
  cases h

/-- What has created something is a creation. -/
theorem creation_of_created {id : NodeId} (h : e.created? = some id) :
    RuntimeCall.isCreation e.question = true := by
  rw [← Bool.not_eq_false]
  intro hc
  rw [created?_of_not_creation hc] at h
  cases h

/-- Only a write can be refused as one. -/
theorem refusesWrite_of_not_write (h : RuntimeCall.isWrite e.question = false) :
    e.refusesWrite = false := by
  rw [refusesWrite, h, Bool.false_and]

end Exchange

/-! ### Operations as they are written -/

/-- What follows on an operation that is successful. -/
def follow {σ : Type} (f : α → σ → Interaction (runtimeCalls β) σ (Except Error γ)) :
    Except Error α → σ → Interaction (runtimeCalls β) σ (Except Error γ)
  | .ok a, t => f a t
  | .error e, t => .done (.error e) t

namespace Operation

/-- What follows on an operation runs with its result, unless that is a failure. -/
theorem run_bind (x : Operation β α) (f : α → Operation β γ) (t : Tables β) :
    (x >>= f).run t = (x.run t).bind (follow fun a => (f a).run) := by
  show (x.run t).bind (fun r => ExceptT.bindCont f r) = _
  congr 1
  funext r u
  cases r <;> rfl

/-- What handles a failure runs where the failure has left the tables. -/
theorem run_tryCatch (x : Operation β α) (f : Error → Operation β α) (t : Tables β) :
    (tryCatch x f).run t = (x.run t).bind fun r u =>
      match r with
      | .ok a => .done (.ok a) u
      | .error e => (f e).run u := by
  show (x.run t).bind _ = _
  congr 1
  funext r u
  cases r <;> rfl

/-- A routine that is lifted does not fail. -/
theorem run_liftM (x : Routine β α) (t : Tables β) :
    (liftM x : Operation β α).run t = (x t).bind fun a u => .done (.ok a) u := rfl

end Operation

/-! ### Creations, call by call -/

section

variable {σ τ : Type}

/-- Values are written one after the other, until a write is refused. -/
def Writes : Interaction (runtimeCalls β) σ (Except Error α) → Prop
  | .done r _ => ∃ a, r = .ok a
  | .ask q _ k => RuntimeCall.isWrite q = true ∧ ∀ r u,
      (RuntimeCall.isRefused r = false → Writes (k r u)) ∧
      (RuntimeCall.isRefused r = true → ∃ e t, k r u = .done (.error e) t)

/-- A handle is discarded: if it owns a node the runtime is to delete that, and otherwise there is
nothing to do. What comes of it does not depend on the answer. -/
def Discards (c : Condition) (a : α) : Interaction (runtimeCalls β) σ α → Prop
  | .done a' _ => c.ownsNode = false ∧ a' = a
  | .ask q _ k => c.ownsNode = true ∧ q = .deleteNode c.id true ∧ ∀ r u, ∃ t, k r u = .done a t

/-- Something is prepared that owns the node of an identifier. If a write is refused the handle of
the node is discarded. -/
def Prepares (handle : α → Condition) (id : NodeId) :
    Interaction (runtimeCalls β) σ (Except Error α) → Prop
  | .done r _ => ∃ a, r = .ok a ∧ handle a = ⟨id, true⟩
  | .ask q _ k => RuntimeCall.isWrite q = true ∧ ∀ r u,
      (RuntimeCall.isRefused r = false → Prepares handle id (k r u)) ∧
      (RuntimeCall.isRefused r = true → ∃ e, Discards ⟨id, true⟩ (.error e) (k r u))

/-- A condition is created, and something prepared that owns it. -/
def Constructs (handle : α → Condition) :
    Interaction (runtimeCalls β) σ (Except Error α) → Prop
  | .ask (.createCondition _) _ k => (∀ id u, Prepares handle id (k (.ok id) u)) ∧
      ∀ s u, ∃ e t, k (.error s) u = .done (.error e) t
  | _ => False

private theorem Discards.zoom {c : Condition} {a : α} {x : Interaction (runtimeCalls β) σ α}
    (h : Discards c a x) (part : τ → σ) (store : σ → τ → τ) (t : τ) :
    Discards c a (x.zoom part store t) := by
  cases x with
  | done a' s => exact h
  | ask q s k =>
    refine ⟨h.1, h.2.1, fun r u => ?_⟩
    obtain ⟨t', ht⟩ := h.2.2 r (part u)
    show ∃ t', (k r (part u)).zoom part store u = _
    rw [ht]
    exact ⟨_, rfl⟩

private theorem Prepares.zoom {handle : α → Condition} {id : NodeId}
    {x : Interaction (runtimeCalls β) σ (Except Error α)} (h : Prepares handle id x)
    (part : τ → σ) (store : σ → τ → τ) (t : τ) : Prepares handle id (x.zoom part store t) := by
  induction x generalizing t with
  | done r s => exact h
  | ask q s k ih =>
    refine ⟨h.1, fun r u => ?_⟩
    obtain ⟨hok, hno⟩ := h.2 r (part u)
    refine ⟨fun hr => ih r (part u) (hok hr) u, fun hr => ?_⟩
    obtain ⟨e, he⟩ := hno hr
    exact ⟨e, he.zoom part store u⟩

private theorem Constructs.zoom {handle : α → Condition}
    {x : Interaction (runtimeCalls β) σ (Except Error α)} (h : Constructs handle x)
    (part : τ → σ) (store : σ → τ → τ) (t : τ) : Constructs handle (x.zoom part store t) := by
  cases x with
  | done r s => exact h.elim
  | ask q s k =>
    cases q with
    | createCondition r =>
      refine ⟨fun id u => (h.1 id (part u)).zoom part store u, fun status u => ?_⟩
      obtain ⟨e, t', ht⟩ := h.2 status (part u)
      refine ⟨e, store t' u, ?_⟩
      show (k (.error status) (part u)).zoom part store u = _
      rw [ht]
      rfl
    | _ => exact h.elim

private theorem Discards.bind {c : Condition} {a : α} {b : γ} {x : Interaction (runtimeCalls β) σ α}
    (h : Discards c a x) {f : α → σ → Interaction (runtimeCalls β) σ γ}
    (hf : ∀ t, f a t = .done b t) : Discards c b (x.bind f) := by
  cases x with
  | done a' t =>
    obtain ⟨howns, rfl⟩ := h
    rw [Interaction.bind_done, hf]
    exact ⟨howns, rfl⟩
  | ask q s k =>
    refine ⟨h.1, h.2.1, fun r u => ?_⟩
    obtain ⟨t, ht⟩ := h.2.2 r u
    refine ⟨t, ?_⟩
    dsimp only
    rw [ht, Interaction.bind_done, hf]

variable {x : Interaction (runtimeCalls β) σ (Except Error α)}
  {f : α → σ → Interaction (runtimeCalls β) σ (Except Error γ)}

private theorem Writes.bind (h : Writes x) (hf : ∀ a t, Writes (f a t)) : Writes
    (x.bind (follow f)) := by
  induction x with
  | done r t =>
    obtain ⟨a, rfl⟩ := h
    exact hf a t
  | ask q s k ih =>
    refine ⟨h.1, fun r u => ⟨fun hr => ih r u ((h.2 r u).1 hr), fun hr => ?_⟩⟩
    obtain ⟨e, t, ht⟩ := (h.2 r u).2 hr
    refine ⟨e, t, ?_⟩
    dsimp only
    rw [ht]
    rfl

private theorem Prepares.bind {handle : α → Condition} {handle' : γ → Condition} {id : NodeId}
    (h : Prepares handle id x) (hf : ∀ a t, handle a = ⟨id, true⟩ → Prepares handle' id (f a t)) :
    Prepares handle' id (x.bind (follow f)) := by
  induction x with
  | done r t =>
    obtain ⟨a, rfl, ha⟩ := h
    exact hf a t ha
  | ask q s k ih =>
    refine ⟨h.1, fun r u => ⟨fun hr => ih r u ((h.2 r u).1 hr), fun hr => ?_⟩⟩
    obtain ⟨e, he⟩ := (h.2 r u).2 hr
    exact ⟨e, he.bind fun t => rfl⟩

private theorem Constructs.bind {handle : α → Condition} {handle' : γ → Condition}
    (h : Constructs handle x)
    (hf : ∀ id a t, handle a = ⟨id, true⟩ → Prepares handle' id (f a t)) :
    Constructs handle' (x.bind (follow f)) := by
  cases x with
  | done r t => exact h.elim
  | ask q s k =>
    cases q with
    | createCondition r =>
      refine ⟨fun id u => (h.1 id u).bind (hf id), fun status u => ?_⟩
      obtain ⟨e, t, ht⟩ := h.2 status u
      refine ⟨e, t, ?_⟩
      show (k (.error status) u).bind _ = _
      rw [ht]
      rfl
    | _ => exact h.elim

/-- If the first refused write is answered by discarding the node, something is prepared. -/
theorem Prepares.of_writes {handle : α → Condition} {id : NodeId} (h : Writes x)
    (hhandle : ∀ a, handle a = ⟨id, true⟩)
    {g : Except Error α → σ → Interaction (runtimeCalls β) σ (Except Error α)}
    (hok : ∀ a t, g (.ok a) t = .done (.ok a) t)
    (hno : ∀ e t, Discards ⟨id, true⟩ (.error e) (g (.error e) t)) :
    Prepares handle id (x.bind g) := by
  induction x with
  | done r t =>
    obtain ⟨a, rfl⟩ := h
    rw [Interaction.bind_done, hok]
    exact ⟨a, rfl, hhandle a⟩
  | ask q s k ih =>
    refine ⟨h.1, fun r u => ⟨fun hr => ih r u ((h.2 r u).1 hr), fun hr => ?_⟩⟩
    obtain ⟨e, t, ht⟩ := (h.2 r u).2 hr
    refine ⟨e, ?_⟩
    dsimp only
    rw [ht]
    exact hno e t

end

namespace Operation

private theorem writes_request {c : RuntimeCall β} (hc : c.isWrite = true)
    (failure : StatusCode → Error) (t : Tables β) : Writes ((request c failure).run t) := by
  refine ⟨hc, fun r u => ?_⟩
  cases r with
  | ok a => exact ⟨fun _ => ⟨a, rfl⟩, (fun hr => nomatch hr)⟩
  | error s => exact ⟨(fun hr => nomatch hr), fun _ => ⟨failure s, u, rfl⟩⟩

private theorem writes_bind {x : Operation β α} {f : α → Operation β γ} (hx : ∀ t, Writes (x.run t))
    (hf : ∀ a t, Writes ((f a).run t)) (t : Tables β) : Writes ((x >>= f).run t) := by
  rw [run_bind]
  exact (hx t).bind hf

end Operation

namespace Condition

/-- A handle is discarded where it is dropped. -/
theorem discards_drop (c : Condition) (t : Tables β) : Discards c () (c.drop t) := by
  unfold drop
  cases hc : c.ownsNode with
  | false => exact ⟨hc, rfl⟩
  | true =>
    refine ⟨hc, rfl, fun r u => ?_⟩
    cases r <;> exact ⟨_, rfl⟩

private theorem constructs_create (r : ConditionRequest) (t : Tables β) :
    Constructs (fun c => c) ((create r : Operation β Condition).run t) :=
  ⟨fun id _ => ⟨⟨id, true⟩, rfl, rfl⟩, fun _ _ => ⟨_, _, rfl⟩⟩

end Condition

namespace Alarm

private theorem writes_prepare (c : Condition) (severity : UInt16) (t : Tables β) :
    Writes ((prepare c severity : Operation β Unit).run t) :=
  Operation.writes_bind (Operation.writes_request rfl _) (fun _ =>
    Operation.writes_bind (Operation.writes_request rfl _) fun _ =>
    Operation.writes_bind (Operation.writes_request rfl _) fun _ =>
    Operation.writes_request rfl _) t

private theorem constructs_create (source : NodeId) (name : QualifiedName) (parent : Option NodeId)
    (severity : UInt16) (t : Tables β) :
    Constructs Alarm.condition
      ((create source name parent severity : Operation β Alarm).run t) := by
  unfold create
  rw [Operation.run_bind]
  refine (Condition.constructs_create _ t).bind ?_
  rintro id c u rfl
  have hprepares (u : Tables β) : Prepares (fun _ : Unit => (⟨id, true⟩ : Condition)) id
      ((tryCatch (prepare ⟨id, true⟩ severity) fun e => do
        ((⟨id, true⟩ : Condition).drop : Routine β Unit)
        throw e : Operation β Unit).run u) := by
    rw [Operation.run_tryCatch]
    refine .of_writes (writes_prepare _ severity u) (fun _ => rfl) (fun _ _ => rfl) fun e t => ?_
    dsimp only
    rw [Operation.run_bind, Operation.run_liftM]
    have hlift : Discards ⟨id, true⟩ (Except.ok () : Except Error Unit)
        (((⟨id, true⟩ : Condition).drop t).bind fun a u => .done (.ok a) u) :=
      (Condition.discards_drop ⟨id, true⟩ t).bind fun _ => rfl
    exact hlift.bind fun _ => rfl
  rw [Operation.run_bind]
  exact (hprepares u).bind fun _ _ _ => ⟨⟨⟨id, true⟩, source⟩, rfl, rfl⟩

end Alarm

private theorem Creation.constructs (x : Creation) (t : Tables β) :
    Constructs Held.handle ((x.perform : Operation β Held).run t) := by
  cases x with
  | condition r =>
    unfold perform
    rw [Operation.run_bind]
    refine (Condition.constructs_create r t).bind ?_
    rintro id c u rfl
    exact ⟨.condition ⟨id, true⟩, rfl, rfl⟩
  | alarm source name parent severity =>
    unfold perform
    rw [Operation.run_bind]
    refine (Alarm.constructs_create source name parent severity t).bind ?_
    intro id a u ha
    exact ⟨.alarm a, rfl, ha⟩

/-! ### Stretches of a construction -/

section

variable {σ : Type}

/-- How a construction goes on after some exchanges. -/
inductive Construction (handle : α → Condition) : List (Exchange (runtimeCalls β) σ) →
    Interaction (runtimeCalls β) σ (Except Error α) → Prop where
  /-- It begins. -/
  | begins {y : Interaction (runtimeCalls β) σ (Except Error α)} (hy : Constructs handle y) :
      Construction handle [] y
  /-- Nothing is created. -/
  | refused {e y} (he : RuntimeCall.isCreation e.question = true) (hno : e.created? = none)
      (hy : ∃ err t, y = .done (.error err) t) : Construction handle [e] y
  /-- A condition is created. -/
  | created {e id y} (he : e.created? = some id) (hy : Prepares handle id y) :
      Construction handle [e] y
  /-- A value was written. -/
  | written {e id ws w y} (he : e.created? = some id) (hw : RuntimeCall.isWrite w.question = true)
      (hok : RuntimeCall.isRefused w.answer = false) (hy : Prepares handle id y) :
      Construction handle (e :: (ws ++ [w])) y
  /-- A write was refused. -/
  | failed {e id ws w y} (he : e.created? = some id) (hw : RuntimeCall.isWrite w.question = true)
      (hno : RuntimeCall.isRefused w.answer = true)
      (hy : ∃ err, Discards ⟨id, true⟩ (.error err) y) : Construction handle (e :: (ws ++ [w])) y
  /-- The condition was to be deleted again. -/
  | discarded {e id ws w y} (hw : w.question = .deleteNode id true)
      (hy : ∃ err t, y = .done (.error err) t) : Construction handle (e :: (ws ++ [w])) y

variable {handle : α → Condition} {es : List (Exchange (runtimeCalls β) σ)}
  {x y : Interaction (runtimeCalls β) σ (Except Error α)}

private theorem Construction.of_prepares {e : Exchange (runtimeCalls β) σ} {id : NodeId}
    (he : e.created? = some id) {q : RuntimeCall β} {s : σ}
    {k : q.Answer → σ → Interaction (runtimeCalls β) σ (Except Error α)}
    (h : Prepares handle id (.ask q s k)) (ws : List (Exchange (runtimeCalls β) σ)) (r : q.Answer)
    (t : σ) : Construction handle (e :: (ws ++ [⟨q, s, r, t⟩])) (k r t) := by
  obtain ⟨hok, hno⟩ := h.2 r t
  cases hr : RuntimeCall.isRefused r with
  | false => exact .written he h.1 hr (hok hr)
  | true => exact .failed he h.1 hr (hno hr)

private theorem Construction.of_constructs (h : Constructs handle x) (hafter : After x es y) :
    Construction handle es y := by
  refine hafter.invariant (.begins h) fun es q s k r t hcourse => ?_
  generalize hx : Interaction.ask q s k = x at hcourse
  cases hcourse with
  | begins hy =>
    subst hx
    cases q with
    | createCondition request =>
      cases r with
      | ok id => exact .created rfl (hy.1 id t)
      | error status => exact .refused rfl rfl (hy.2 status t)
    | _ => exact hy.elim
  | refused _ _ hy =>
    obtain ⟨_, _, rfl⟩ := hy
    cases hx
  | created he hy =>
    subst hx
    exact .of_prepares he hy [] r t
  | @written e id ws w _ he _ _ hy =>
    subst hx
    exact .of_prepares he hy (ws ++ [w]) r t
  | @failed e id ws w _ he _ _ hy =>
    subst hx
    obtain ⟨err, -, rfl, hdone⟩ := hy
    obtain ⟨t', ht⟩ := hdone r t
    show Construction handle (e :: (ws ++ [w] ++ [_])) _
    exact .discarded rfl ⟨err, t', ht⟩
  | discarded _ hy =>
    obtain ⟨_, _, rfl⟩ := hy
    cases hx

/-- A handle that is discarded asks for one deletion at most, and that is the end. -/
theorem Discards.of_after {c : Condition} {a : α} {x y : Interaction (runtimeCalls β) σ α}
    {es : List (Exchange (runtimeCalls β) σ)} (h : Discards c a x) (hafter : After x es y) :
    (es = [] ∧ Discards c a y) ∨
      ∃ e t, es = [e] ∧ e.question = .deleteNode c.id true ∧ y = .done a t := by
  cases x with
  | done a' s =>
    obtain ⟨rfl, rfl⟩ := Interaction.after_done_iff.1 hafter
    exact .inl ⟨rfl, h⟩
  | ask q s k =>
    rcases Interaction.after_ask_iff.1 hafter with ⟨rfl, rfl⟩ | ⟨r, u, fs, rfl, hrest⟩
    · exact .inl ⟨rfl, h⟩
    · obtain ⟨t, ht⟩ := h.2.2 r u
      rw [ht] at hrest
      obtain ⟨rfl, rfl⟩ := Interaction.after_done_iff.1 hrest
      exact .inr ⟨_, t, rfl, h.2.1, rfl⟩

end

/-- Nothing changes but the tables. -/
structure Holdings.Same (h h' : Holdings β) : Prop where
  /-- The same values are held. -/
  held : h'.held = h.held
  /-- No number is given out. -/
  next : h'.next = h.next

/-- A routine changes nothing but the tables. -/
theorem Holdings.keeps_perform (x : Routine β α) (h : Holdings β) :
    Keeps Same h (perform x h) := by
  show Keeps Same h ((x h.tables).zoom Holdings.tables withTables h)
  generalize x h.tables = y
  induction y generalizing h with
  | done a t => exact ⟨rfl, rfl⟩
  | ask q t k ih => exact ⟨⟨rfl, rfl⟩, fun r u => ih r u.tables u⟩

/-- What was created is held under a number. -/
def Holdings.hold (n : Nat) (v : Held) (h : Holdings β) :
    Interaction (runtimeCalls β) (Holdings β) (Except Error Nat) :=
  .done (.ok n) (h.put n v)

private theorem Handling.create_run (x : Creation) (h : Holdings β) :
    (create x).perform h =
      (Holdings.perform x.perform.run h.advance).bind (follow (Holdings.hold h.next)) := by
  show (Holdings.perform x.perform.run _).bind _ = _
  congr 1
  funext r u
  cases r <;> rfl

/-- How far a creation has come. -/
theorem Handling.construction_of_after {x : Creation} {h : Holdings β}
    {es : List (Exchange (runtimeCalls β) (Holdings β))}
    {y : Interaction (runtimeCalls β) (Holdings β) (Except Error Nat)}
    (hy : After ((create x).perform h) es y) :
    ∃ z : Interaction (runtimeCalls β) (Holdings β) (Except Error Held),
      Construction Held.handle es z ∧ y = z.bind (follow (Holdings.hold h.next)) ∧
      Holdings.Same (found h.advance es) z.state := by
  rw [create_run] at hy
  have hends (r : Except Error Held) (u : Holdings β) :
      ∃ a t, follow (Holdings.hold h.next) r u = .done a t := by
    cases r <;> exact ⟨_, _, rfl⟩
  obtain ⟨z, hz, rfl⟩ := hy.of_bind_ends hends
  refine ⟨z, ?_, rfl, (hz.keeps (Holdings.keeps_perform _ _)).state⟩
  exact .of_constructs ((x.constructs h.tables).zoom _ _ _) hz

namespace Handling

/-- A handle that is held can be borrowed, and the borrowed one is held under the next number. -/
theorem borrow_run (n : Nat) (h : Holdings β) : (borrow n).perform h =
    match h.held.find? n with
    | some v => .done (some h.next) (h.advance.put h.next (.condition v.handle.borrow))
    | none => .done none h := by
  show (match h.held.find? n with
    | some v => do
      let m ← Holdings.reserve
      Holdings.keep m (.condition v.handle.borrow)
      return some m
    | none => pure none : Action (runtimeCalls β) (Holdings β) (Option Nat)) h = _
  cases h.held.find? n <;> rfl

/-- Of an alarm that is held the condition is held instead. -/
theorem intoCondition_run (n : Nat) (h : Holdings β) : (intoCondition n).perform h =
    match h.held.find? n with
    | some v => .done () ((h.remove n).put n (.condition v.handle))
    | none => .done () (h.remove n) := by
  show (match h.held.find? n with
    | some v => Holdings.keep n (.condition v.handle)
    | none => pure () : Action (runtimeCalls β) (Holdings β) Unit) _ = _
  cases h.held.find? n <;> rfl

/-- A release gives up the handle and gives its identifier. -/
theorem release_run (n : Nat) (h : Holdings β) : (release n).perform h =
    .done ((h.held.find? n).map fun v => v.handle.release) (h.remove n) := by
  show (match h.held.find? n with
    | some v => pure (some v.handle.release)
    | none => pure none : Action (runtimeCalls β) (Holdings β) (Option NodeId)) _ = _
  cases h.held.find? n <;> rfl

/-- A drop gives up the handle and does what the drop of that handle does. -/
theorem drop_run (n : Nat) (h : Holdings β) : (drop n).perform h =
    match h.held.find? n with
    | some v => Holdings.perform v.handle.drop (h.remove n)
    | none => .done () (h.remove n) := by
  show (match h.held.find? n with
    | some v => Holdings.perform v.handle.drop
    | none => pure () : Action (runtimeCalls β) (Holdings β) Unit) _ = _
  cases h.held.find? n <;> rfl

/-- How far a drop has come. -/
theorem discards_of_after {n : Nat} {v : Held} {h : Holdings β}
    {es : List (Exchange (runtimeCalls β) (Holdings β))}
    {y : Interaction (runtimeCalls β) (Holdings β) Unit} (hv : h.held.find? n = some v)
    (hy : After ((drop n).perform h) es y) :
    ((es = [] ∧ Discards v.handle () y) ∨
      ∃ e t, es = [e] ∧ e.question = .deleteNode v.handle.id true ∧ y = .done () t) ∧
    Holdings.Same (found (h.remove n) es) y.state := by
  rw [drop_run, hv] at hy
  exact ⟨((v.handle.discards_drop h.tables).zoom _ _ _).of_after hy,
    (hy.keeps (Holdings.keeps_perform _ _)).state⟩

end Handling

end AlarmServer
