import AlarmServer.Proofs.Changes
import AlarmServer.Proofs.Reentrant
import AlarmServer.Server.Routine

/-!
# Effects of server operations

How the operations of a server run, piece by piece, and which changes of its address space they may
make between one question and the next.
-/

namespace AlarmServer

open Interaction (Keeps)

variable {β α γ : Type}

/-! ### Running actions and services -/

namespace Action

variable {S : Signature} {σ : Type} {x : Action S σ α} {f : α → Action S σ γ} {s t : σ}

/-- To read the state is to be given it. -/
theorem get_run (s : σ) : (get : Action S σ σ) s = .done s s := rfl

/-- What follows on an action that is over starts where that has ended. -/
theorem bind_of_done {a : α} (h : x s = .done a t) : (x >>= f) s = f a t := by
  show (x s).bind _ = _
  rw [h]
  rfl

/-- What follows on an action that asks waits for the answer, too. -/
theorem bind_of_ask {q : S.Question} {k : S.Answer q → σ → Interaction S σ α}
    (h : x s = .ask q t k) :
    (x >>= f) s = .ask q t fun r u => (k r u).bind fun a v => f a v := by
  show (x s).bind _ = _
  rw [h]
  rfl

end Action

/-- The answer of the runtime is the one that was settled, or else that of the address space. -/
theorem Server.answer_run (c : RuntimeCall β) (s : Server β) :
    Server.answer c s = match (s.script.next c.method).1 with
      | .settled a => .done a { s with script := (s.script.next c.method).2 }
      | .genuine =>
        (Server.genuineAnswer c).run { s with script := (s.script.next c.method).2 } := by
  unfold Server.answer
  rw [Action.bind_of_done (Action.get_run s)]
  rcases s.script.next c.method with ⟨_ | a, script⟩
  · rfl
  · rfl

namespace Service

/-- What follows on a service runs with what the service gives, unless that is a failure. -/
theorem bind_run (x : Service β α) (f : α → Service β γ) (s : Server β) :
    (x >>= f).run s = (x.run s).bind fun r t =>
      match r with
      | .ok a => (f a).run t
      | .error e => .done (.error e) t := by
  show (x.run s).bind _ = _
  congr 1
  funext r t
  cases r <;> rfl

/-- To read the server is to be given it. -/
@[simp] theorem get_run (s : Server β) :
    (get : Service β (Server β)).run s = .done (.ok s) s := rfl

/-- A query gives its answer and changes nothing. -/
@[simp] theorem query_run (f : AddressSpace β → Except StatusCode α) (s : Server β) :
    (query f).run s = .done (f s.space) s := rfl

/-- The present is what the clock shows. -/
@[simp] theorem now_run (s : Server β) :
    (now : Service β Instant).run s = .done (.ok s.now) s := rfl

/-- An action that cannot fail gives what it gives. -/
@[simp] theorem lift_run (x : ServerAction β α) (s : Server β) :
    (liftM x : Service β α).run s = (x s).bind fun a t => .done (.ok a) t := rfl

/-- What depends on the server goes on with the one it is in. -/
theorem get_bind_run (f : Server β → Service β γ) (s : Server β) :
    ((get : Service β (Server β)) >>= f).run s = (f s).run s := rfl

/-- An operation on the address space gives its result, and the server keeps what it leaves even if
that is a failure. -/
theorem act_run (p : SpaceAction β α) (s : Server β) :
    (act p).run s = .done (p.result s.space).1 (s.withSpace (p.result s.space).2) := rfl

/-- An action that makes its checks first changes nothing if it fails. -/
theorem act_run_of_checksFirst {p : SpaceAction β α} (hp : p.ChecksFirst) (s : Server β) :
    (act p).run s = match p.outcome s.space with
      | .ok (a, sp) => .done (.ok a) (s.withSpace sp)
      | .error e => .done (.error e) s := by
  rw [act_run, hp.result]
  rcases p.outcome s.space with e | ⟨a, sp⟩ <;> rfl

/-- What follows on a query runs with what the query gives, unless that is a failure. -/
theorem query_bind_run (f : AddressSpace β → Except StatusCode α) (g : α → Service β γ)
    (s : Server β) :
    (query f >>= g).run s = match f s.space with
      | .ok a => (g a).run s
      | .error e => .done (.error e) s := by
  rw [bind_run, query_run]
  rfl

/-- What follows on a change runs in the new address space, unless the change is refused. -/
theorem act_bind_run {p : SpaceAction β Unit} (hp : p.ChecksFirst) (g : Unit → Service β γ)
    (s : Server β) :
    (act p >>= g).run s = match p.effect s.space with
      | .ok sp => (g ()).run (s.withSpace sp)
      | .error e => .done (.error e) s := by
  rw [bind_run, act_run_of_checksFirst hp, SpaceAction.effect]
  rcases p.outcome s.space with e | ⟨⟨⟩, sp⟩ <;> rfl

/-- A creation that fails changes nothing. -/
theorem createCondition_run (r : ConditionRequest) (s : Server β) :
    (createCondition r).run s = match s.space.createCondition s.now r with
      | .ok (id, sp) => .done (.ok id) ((s.withSpace sp).log .debug
          ("Condition " ++ r.browseName.text ++ " (" ++ id.text ++ ") created under " ++
            r.source.text))
      | .error e => .done (.error e) s := by
  rw [createCondition, bind_run, now_run, Interaction.bind_done]
  show ((act _ >>= _ : Service β NodeId).run s) = _
  rw [bind_run, act_run_of_checksFirst (SpaceAction.checksFirst_createCondition _ _)]
  unfold AddressSpace.createCondition
  cases (SpaceAction.createCondition s.now r).outcome s.space <;> rfl

/-- A deletion that fails changes nothing. -/
theorem deleteNode_run (id : NodeId) (refs : Bool) (s : Server β) :
    (deleteNode id refs).run s = match s.space.deleteNode id refs with
      | .ok sp => .done (.ok ()) ((s.withSpace sp).log .debug ("Deleted node " ++ id.text))
      | .error e => .done (.error e) s := by
  rw [deleteNode, act_bind_run (SpaceAction.checksFirst_deleteNode _ _)]
  rfl

/-- A commit that fails changes nothing. -/
theorem commit_run (c : NodeId) (k : TransitionKind) (value : Bool) (s : Server β) :
    (commit c k value).run s = match s.space.commit c k value s.now with
      | .ok sp => .done (.ok ()) ((s.withSpace sp).log .trace
          (c.text ++ " " ++ k.variableName ++ "/Id = " ++ toString value))
      | .error e => .done (.error e) s := by
  rw [commit, bind_run, now_run, Interaction.bind_done]
  show (act _ >>= _).run s = _
  rw [act_bind_run (SpaceAction.checksFirst_commit _ _ _ _)]
  rfl

end Service

/-! ### Immediate operations -/

/-- An immediate operation asks nothing. It fails and changes nothing, or it succeeds with a result
and an address space that go together. -/
inductive Server.Immediate (succeeds : α → AddressSpace β → Prop) (s : Server β) :
    Interaction (upcalls β) (Server β) (Except StatusCode α) → Prop where
  /-- It fails. -/
  | failed (e : StatusCode) : Immediate succeeds s (.done (.error e) s)
  /-- It succeeds. -/
  | succeeded {a : α} {t : Server β} (h : succeeds a t.space) :
      Immediate succeeds s (.done (.ok a) t)

/-- An immediate operation is over where it is found. -/
theorem Server.Immediate.of_after {succeeds : α → AddressSpace β → Prop} {s : Server β}
    {x y : Interaction (upcalls β) (Server β) (Except StatusCode α)} {es : List _}
    (hx : Immediate succeeds s x) (h : Interaction.After x es y) :
    es = [] ∧ Immediate succeeds s y := by
  cases hx with
  | failed e =>
    obtain ⟨rfl, rfl⟩ := Interaction.after_done_iff.1 h
    exact ⟨rfl, .failed e⟩
  | succeeded hs =>
    obtain ⟨rfl, rfl⟩ := Interaction.after_done_iff.1 h
    exact ⟨rfl, .succeeded hs⟩

namespace Service

open Server (Immediate)

/-- An action that makes its checks first is immediate. -/
theorem immediate_act {p : SpaceAction β α} (hp : p.ChecksFirst) (s : Server β) :
    Immediate (fun a sp => p.outcome s.space = .ok (a, sp)) s ((act p).run s) := by
  rw [act_run_of_checksFirst hp]
  cases p.outcome s.space with
  | error e => exact .failed e
  | ok r => exact .succeeded rfl

/-- So is one that gives nothing but its effect. -/
theorem immediate_act_unit {p : SpaceAction β Unit} (hp : p.ChecksFirst) (s : Server β) :
    Immediate (fun _ sp => p.effect s.space = .ok sp) s ((act p).run s) := by
  simp only [SpaceAction.effect_eq_ok_iff]
  exact immediate_act hp s

/-- A creation of a condition is immediate. -/
theorem immediate_createCondition (r : ConditionRequest) (s : Server β) :
    Immediate (fun id sp => s.space.createCondition s.now r = .ok (id, sp)) s
      ((createCondition r).run s) := by
  rw [createCondition_run]
  cases s.space.createCondition s.now r with
  | error e => exact .failed e
  | ok p => exact .succeeded rfl

/-- A deletion is immediate. -/
theorem immediate_deleteNode (id : NodeId) (refs : Bool) (s : Server β) :
    Immediate (fun _ sp => s.space.deleteNode id refs = .ok sp) s ((deleteNode id refs).run s) := by
  rw [deleteNode_run]
  cases s.space.deleteNode id refs with
  | error e => exact .failed e
  | ok sp => exact .succeeded rfl

end Service

/-! ### Changes made between questions -/

/-- One server becomes another by changes of its address space of the given kinds. Its registry is
the same, and nothing is settled that was not. -/
structure Server.Advances (may : Change β → Prop) (s t : Server β) : Prop where
  /-- The address space has made the changes. -/
  space : AddressSpace.Changed may s.space t.space
  /-- The registries are the same. -/
  registry : t.tables.registry = s.tables.registry
  /-- If nothing was settled, nothing is. -/
  script : s.script = .empty → t.script = .empty

namespace Server.Advances

variable {may may' : Change β → Prop} {s t : Server β}

/-- A server that stays as it is has made no changes. -/
theorem refl (s : Server β) : Advances may s s := ⟨.refl s.space, rfl, id⟩

/-- Changes may follow on changes. -/
theorem trans (s t u : Server β) (h : Advances may s t) (h' : Advances may t u) :
    Advances may s u :=
  ⟨h.space.trans _ _ _ h'.space, h'.registry.trans h.registry, fun hs => h'.script (h.script hs)⟩

private theorem imp (hm : ∀ ch, may ch → may' ch) (h : Advances may s t) : Advances may' s t :=
  ⟨h.space.imp hm, h.registry, h.script⟩

/-- A new address space that the changes lead to. -/
theorem withSpace {sp : AddressSpace β} (h : AddressSpace.Changed may s.space sp) :
    Advances may s (s.withSpace sp) :=
  ⟨h, rfl, id⟩

end Server.Advances

namespace ServerAction

variable {may may' : Change β → Prop}

/-- Between one question and the next the action makes only changes of the given kinds, whatever
happens at the questions. -/
def Does (may : Change β → Prop) (x : ServerAction β α) : Prop :=
  ∀ s, Keeps (Server.Advances may) s (x s)

/-- What makes few changes may be allowed more. -/
theorem Does.imp {x : ServerAction β α} (hm : ∀ ch, may ch → may' ch) (h : Does may x) :
    Does may' x :=
  fun s => (h s).imp fun _ _ => .imp hm

/-- Two actions one after the other make the changes that both may make. -/
theorem Does.bind {x : ServerAction β α} {f : α → ServerAction β γ} (hx : Does may x)
    (hf : ∀ a, Does may (f a)) : Does may (x >>= f) :=
  fun s => (hx s).bind (fun _ _ _ => .trans _ _ _) fun a => hf a

/-- To give a value makes no change. -/
theorem does_pure (a : α) : Does may (pure a : ServerAction β α) := fun s => .refl s

/-- To read the server makes no change. -/
theorem does_get : Does may (get : ServerAction β (Server β)) := fun s => .refl s

/-- A line in the journal is no change. -/
theorem does_log (level : Level) (text : String) :
    Does may (log level text : ServerAction β Unit) :=
  fun s => ⟨.refl s.space, rfl, id⟩

/-- A question makes no change before or after its answer. -/
theorem does_ask (q : Upcall β) : Does may (Action.ask (S := upcalls β) q : ServerAction β _) :=
  fun s => ⟨.refl s, fun _ t => .refl t⟩

/-- The call of a watcher is such a question. -/
theorem does_notify (callback : β) (id : NodeId) (value : Variant) :
    Does may (notify callback id value) :=
  does_ask (.written callback id value)

end ServerAction

namespace Service

open ServerAction (Does)

variable {may : Change β → Prop}

/-- Two services one after the other make the changes that both may make, also if the first one
fails. -/
theorem does_bind {x : Service β α} {f : α → Service β γ} (hx : Does may x.run)
    (hf : ∀ a, Does may (f a).run) : Does may (x >>= f).run := by
  intro s
  rw [bind_run]
  refine (hx s).bind (fun _ _ _ => .trans _ _ _) fun r t => ?_
  cases r with
  | ok a => exact hf a t
  | error e => exact Server.Advances.refl t

/-- To give a value makes no change. -/
theorem does_pure (a : α) : Does may (pure a : Service β α).run := fun s => .refl s

/-- A failure makes no change. -/
theorem does_throw (e : StatusCode) : Does may (throw e : Service β α).run := fun s => .refl s

/-- To read the server makes no change. -/
theorem does_get : Does may (get : Service β (Server β)).run := fun s => .refl s

/-- To read the clock makes no change. -/
theorem does_now : Does may (now : Service β Instant).run := fun s => .refl s

/-- A query makes no change. -/
theorem does_query (f : AddressSpace β → Except StatusCode α) : Does may (query f).run :=
  fun s => .refl s

/-- A line in the journal is no change. -/
theorem does_log (level : Level) (text : String) : Does may (log level text : Service β Unit).run :=
  fun s => ⟨.refl s.space, rfl, id⟩

/-- A draw changes the series of identifiers, and not the address space. -/
theorem does_drawEventId : Does may (drawEventId : Service β EventId).run :=
  fun s => ⟨.refl s.space, rfl, id⟩

/-- A service that cannot fail makes the changes of its action. -/
theorem does_lift {x : ServerAction β α} (hx : Does may x) : Does may (liftM x : Service β α).run :=
  fun s => (hx s).bind (fun _ _ _ => .trans _ _ _) fun _ t => .refl t

/-- An action by a change that may be made. -/
theorem does_act {p : SpaceAction β α} {ch : Change β} (hp : p.ChecksFirst) (hm : may ch)
    (hch : ∀ sp, Prod.snd <$> p.outcome sp = ch.apply sp) : Does may (act p).run := by
  intro s
  rw [act_run_of_checksFirst hp]
  cases h : p.outcome s.space with
  | error e => exact Server.Advances.refl s
  | ok r =>
    refine .withSpace (.single ch hm ?_)
    rw [← hch, h]
    rfl

end Service

end AlarmServer
