import AlarmServer.Proofs.Requests

/-!
# Refused requests

A request that fails keeps what it has changed before it fails. A request that is one operation
changes nothing before it fails, because each of these operations makes its checks first and then
its changes, and what follows on the operation does not fail. So it fails at once: the server is
exactly as before, and no callback was called. There is one exception, a write that would make a
two-state variable true: its hook may call a callback, and the callback may forbid that, or delete
the variable. Then nothing differs but what was done while the callback ran.

The main result, `Request.fails_without_trace`, is about requests in every state of a server.
-/

namespace AlarmServer

open Interaction (After)
open Server (Beside)

variable {β : Type}

/-! ### Failing at once -/

namespace Interaction

variable {S : Signature} {σ ε α : Type}

/-- The interaction does not fail, whatever the answers are. -/
def NeverFails : Interaction S σ (Except ε α) → Prop
  | done r _ => ∃ a, r = .ok a
  | ask _ _ k => ∀ r u, NeverFails (k r u)

/-- The interaction fails at once in the state `s`, or not at all. -/
inductive FailsAtOnce (s : σ) : Interaction S σ (Except ε α) → Prop where
  /-- It fails. -/
  | fails (e : ε) : FailsAtOnce s (done (.error e) s)
  /-- It does not. -/
  | succeeds {x : Interaction S σ (Except ε α)} (h : NeverFails x) : FailsAtOnce s x

private theorem NeverFails.of_after {x y : Interaction S σ (Except ε α)} {es : List (Exchange S σ)}
    (h : NeverFails x) (hafter : After x es y) : NeverFails y := by
  induction hafter with
  | nil x => exact h
  | cons r t _ ih => exact ih (h r t)

/-- What fails at once has asked nothing and changed nothing. -/
theorem FailsAtOnce.of_after {x : Interaction S σ (Except ε α)} {es : List (Exchange S σ)}
    {s t : σ} {e : ε} (h : FailsAtOnce s x) (hafter : After x es (done (.error e) t)) :
    es = [] ∧ t = s := by
  cases h with
  | fails e' =>
    obtain ⟨rfl, hy⟩ := after_done_iff.1 hafter
    cases hy
    exact ⟨rfl, rfl⟩
  | succeeds h =>
    obtain ⟨a, ha⟩ := h.of_after hafter
    cases ha

/-- What only goes on to a success does not fail. -/
theorem neverFails_bind_ok (x : Interaction S σ α) :
    NeverFails (x.bind fun a t => (done (.ok a) t : Interaction S σ (Except ε α))) := by
  induction x with
  | done a s => exact ⟨a, rfl⟩
  | ask q s k ih => exact ih

end Interaction

open Interaction (FailsAtOnce NeverFails)

private theorem Server.Immediate.failsAtOnce {α : Type} {succeeds : α → AddressSpace β → Prop}
    {s : Server β} {x : Interaction (upcalls β) (Server β) (Except StatusCode α)}
    (h : Immediate succeeds s x) : FailsAtOnce s x := by
  cases h with
  | failed e => exact .fails e
  | succeeded _ => exact .succeeds ⟨_, rfl⟩

namespace Service

variable {α γ : Type} {s : Server β}

private theorem query_failsAtOnce (f : AddressSpace β → Except StatusCode α) (s : Server β) :
    FailsAtOnce s ((query f).run s) := by
  rw [query_run]
  cases f s.space with
  | error e => exact .fails e
  | ok a => exact .succeeds ⟨a, rfl⟩

/-- An action that makes its checks first fails at once. -/
theorem act_failsAtOnce {p : SpaceAction β α} (hp : p.ChecksFirst) (s : Server β) :
    FailsAtOnce s ((act p).run s) :=
  (immediate_act hp s).failsAtOnce

/-- What follows on the action may not fail. -/
theorem act_bind_failsAtOnce {p : SpaceAction β Unit} (hp : p.ChecksFirst) {g : Unit → Service β γ}
    (hg : ∀ t, NeverFails ((g ()).run t)) (s : Server β) :
    FailsAtOnce s ((act p >>= g).run s) := by
  rw [act_bind_run hp]
  cases p.effect s.space with
  | error e => exact .fails e
  | ok sp => exact .succeeds (hg _)

private theorem log_neverFails (level : Level) (text : String) (s : Server β) :
    NeverFails ((log level text : Service β Unit).run s) := ⟨(), rfl⟩

private theorem writeValue_failsAtOnce (id : NodeId) (value : Variant) (s : Server β) :
    FailsAtOnce s ((writeValue id value).run s) := by
  apply act_bind_failsAtOnce (SpaceAction.checksFirst_writeValue id value)
  intro t
  rw [get_bind_run]
  cases t.space.watchers.find? id with
  | none => exact ⟨(), rfl⟩
  | some callback => exact Interaction.neverFails_bind_ok _

private theorem createCondition_failsAtOnce (r : ConditionRequest) (s : Server β) :
    FailsAtOnce s ((createCondition r).run s) :=
  (immediate_createCondition r s).failsAtOnce

private theorem commit_failsAtOnce (c : NodeId) (k : TransitionKind) (value : Bool) (s : Server β) :
    FailsAtOnce s ((commit c k value).run s) := by
  rw [commit_run]
  cases s.space.commit c k value s.now with
  | error e => exact .fails e
  | ok sp => exact .succeeds ⟨(), rfl⟩

private theorem trigger_failsAtOnce (c source : NodeId) (s : Server β) :
    FailsAtOnce s ((trigger c source).run s) := by
  rcases trigger_run c source s with ⟨e, h⟩ | ⟨_, t, _, h, _⟩
  · exact h ▸ .fails e
  · exact h ▸ .succeeds ⟨_, rfl⟩

end Service

/-! ### Requests that fail -/

namespace Request

open Service (act_failsAtOnce act_bind_failsAtOnce)
open SpaceAction

/-- Is the request one operation? A source of events is added by three of them. Client methods are
made of several, too, and dispatches and hooks that are called by hand do not fail. -/
def Single : Request β → Prop
  | addObject .. | addVariable .. | setNotifier .. | writeValue .. | watch .. | call _ => True
  | addEventSource _ | client .. | dispatch .. | callHook .. | beside .. => False

/-- How a request fails in the state `s`, with the exchanges that it has had and the state in which
it ends. -/
inductive Failure (s : Server β) :
    Request β → List (Exchange (upcalls β) (Server β)) → Server β → Prop where
  /-- Without a trace: nobody was asked, and the server is the same. -/
  | traceless (r : Request β) : Failure s r [] s
  /-- After the callback of a hook was asked about a variable that was to become true. Nothing has
  changed before that, and nothing changes after it. -/
  | hooked {c : NodeId} {variableName property : QualifiedName} {value : Variant}
      {k : TransitionKind} {x : Exchange (upcalls β) (Server β)} {t : Server β}
      (hk : TransitionKind.ofVariable? variableName.name = some k) (hp : property.name = "Id")
      (hv : value.asBool? = some true) (hs : s.space.idOf c k = some false)
      (hq : s.interception? c k none = some x.question) (before : Beside s x.asked)
      (after : Beside x.left t) :
      Failure s (.call (.writeProperty c variableName property value)) [x] t

/-- All but a write of a property fails at once. -/
theorem perform_failsAtOnce {r : Request β} (hr : r.Single)
    (hw : ∀ c variableName property value, r ≠ .call (.writeProperty c variableName property value))
    (s : Server β) : FailsAtOnce s (r.perform.run s) := by
  cases r with
  | addObject parent name => exact act_failsAtOnce (checksFirst_addObject parent name) s
  | addVariable parent name value level =>
    exact act_failsAtOnce (checksFirst_addVariable parent name value level) s
  | setNotifier id notifier => exact act_failsAtOnce (checksFirst_setNotifier id notifier) s
  | writeValue id value => exact Service.writeValue_failsAtOnce id value s
  | watch id callback => exact act_failsAtOnce (checksFirst_watch id callback) s
  | call c =>
    cases c with
    | createCondition r => exact Service.createCondition_failsAtOnce r s
    | deleteNode id refs =>
      exact act_bind_failsAtOnce (checksFirst_deleteNode id refs)
        (Service.log_neverFails .debug _) s
    | addReference source target type =>
      exact act_failsAtOnce (checksFirst_addReference source target type) s
    | writeField c field value =>
      exact act_bind_failsAtOnce (checksFirst_writeField c field value)
        (Service.log_neverFails .trace _) s
    | writeProperty c variableName property value => exact absurd rfl (hw _ _ _ _)
    | installHook hook =>
      exact act_bind_failsAtOnce (checksFirst_installHook hook)
        (Service.log_neverFails .debug _) s
    | trigger c source => exact Service.trigger_failsAtOnce c source s
    | readDisplayName id => exact Service.query_failsAtOnce (fun sp => sp.displayName id) s
    | readBrowseName id => exact Service.query_failsAtOnce (fun sp => sp.browseName id) s
    | readField c field => exact Service.query_failsAtOnce (fun sp => sp.readField c field) s
    | readProperty c variableName property =>
      exact Service.query_failsAtOnce (fun sp => sp.readProperty c variableName property) s
  | addEventSource name => exact hr.elim
  | client m c => exact hr.elim
  | dispatch kind c session => exact hr.elim
  | callHook hook session => exact hr.elim
  | beside tables script => exact hr.elim

/-- A write of a property fails at once, or after its hook has asked. -/
theorem failure_of_writeProperty {c : NodeId} {variableName property : QualifiedName}
    {value : Variant} {s t : Server β} {es : List (Exchange (upcalls β) (Server β))}
    {e : StatusCode}
    (hafter : After ((Service.writeProperty c variableName property value).run s) es
      (.done (.error e) t)) :
    Failure s (.call (.writeProperty c variableName property value)) es t := by
  have hwrite := Service.propertyWrite_run c variableName property value s
  generalize (Service.writeProperty c variableName property value).run s = x at hwrite hafter
  have hatOnce (h : FailsAtOnce s x) :
      Failure s (.call (.writeProperty c variableName property value)) es t := by
    obtain ⟨rfl, rfl⟩ := h.of_after hafter
    exact .traceless _
  cases hwrite with
  | refused _ => exact hatOnce (.fails _)
  | committed _ _ _ _ => exact hatOnce (Service.commit_failsAtOnce _ _ _ s)
  | timed _ _ _ => exact hatOnce (act_failsAtOnce (checksFirst_setTransitionTime _ _ _) s)
  | @hooked k hk hp hv hs =>
    have hends (u : Server β) : ∃ r v, (Service.commit c k true).run u = .done r v := by
      rw [Service.commit_run]
      cases u.space.commit c k true u.now <;> exact ⟨_, _, rfl⟩
    have hstage := Service.stage_of_after (f := fun _ => Service.commit c k true) hends hafter
    generalize hy : Interaction.done (Except.error e) t = y at hstage
    cases hstage with
    | @unasked u _ hu _ =>
      -- the variable is there, as nothing has changed
      obtain ⟨sp, hsp⟩ := (AddressSpace.commit_isOk_iff true u.now).2
        (Option.isSome_iff_exists.2 ⟨false, hs⟩)
      rw [← hu.space] at hsp
      rw [Service.commit_run, hsp] at hy
      cases hy
    | asks _ _ _ => cases hy
    | @allowed q u v w r hq hu hw _ _ =>
      have hcommit := Service.commit_failsAtOnce c k true w
      rw [← hy] at hcommit
      obtain ⟨-, rfl⟩ := hcommit.of_after (.nil _)
      exact .hooked hk hp hv hs hq hu hw
    | vetoed hq hu hv' _ _ =>
      cases hy
      exact .hooked hk hp hv hs hq hu hv'

/-- A request that is one operation and fails leaves no trace, unless it was to make a variable true
and the callback of the hook was asked. -/
theorem fails_without_trace {r : Request β} (hr : r.Single) {s t : Server β}
    {es : List (Exchange (upcalls β) (Server β))} {e : StatusCode}
    (hafter : After (r.perform.run s) es (.done (.error e) t)) : Failure s r es t := by
  by_cases hw : ∃ c variableName property value,
      r = .call (.writeProperty c variableName property value)
  · obtain ⟨c, variableName, property, value, rfl⟩ := hw
    exact failure_of_writeProperty hafter
  · have hatOnce : FailsAtOnce s (r.perform.run s) :=
      perform_failsAtOnce hr (fun c variableName property value h => hw ⟨_, _, _, _, h⟩) s
    obtain ⟨rfl, rfl⟩ := hatOnce.of_after hafter
    exact .traceless r

/-- The identifier of the guarded condition is taken, and its callback forbids that the condition is
acknowledged. -/
theorem fails_without_trace_guarded :
    let taken : Request Unit := .call (.createCondition
      ⟨ConditionType.offNormal.node, .standard "Second", .serverObject, none,
        some guardedCondition⟩)
    let forced : Request Unit := .call
      (.writeProperty guardedCondition (.standard "AckedState") (.standard "Id") (.boolean true))
    let forbids : Exchange (upcalls Unit) (Server Unit) :=
      ⟨guardQuestion, guardedServer, StatusCode.badUserAccessDenied, guardedServer⟩
    ∃ t u,
      (taken.Single ∧
        After (taken.perform.run guardedServer) [] (.done (.error .badNodeIdExists) t) ∧
        Failure guardedServer taken [] t) ∧
      forced.Single ∧
        After (forced.perform.run guardedServer) [forbids]
          (.done (.error .badUserAccessDenied) u) ∧
        Failure guardedServer forced [forbids] u := by
  intro taken forced forbids
  have htaken : After (taken.perform.run guardedServer) []
      (.done (.error .badNodeIdExists) guardedServer) := .nil _
  obtain ⟨u, hforced⟩ : ∃ u, After (forced.perform.run guardedServer) [forbids]
      (.done (.error .badUserAccessDenied) u) := ⟨_, .cons _ _ (.nil _)⟩
  have hfailure : Failure guardedServer taken [] guardedServer :=
    fails_without_trace (r := taken) trivial htaken
  have hvetoed : Failure guardedServer forced [forbids] u :=
    fails_without_trace (r := forced) trivial hforced
  exact ⟨guardedServer, u, ⟨trivial, htaken, hfailure⟩, trivial, hforced, hvetoed⟩

end Request

end AlarmServer
