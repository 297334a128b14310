import AlarmServer.Proofs.Requests

/-!
# Mediation of transitions

A variable of a condition becomes true by an attempt only: a client method that enters its true
state, or a write of that state. An attempt that finds the variable false looks up its hook and
commits only if there is nobody to ask, or if the one callback it asked once has allowed it. What
happens while the callback runs makes no difference to this.
-/

namespace AlarmServer

open Interaction (After found)
open Server (Beside)

variable {β : Type}

/-- An attempt to make a variable true. -/
structure Attempt where
  /-- The condition. -/
  condition : NodeId
  /-- The variable. -/
  kind : TransitionKind
  /-- The session on whose behalf it is made. -/
  session : Session

namespace Request

/-- The attempt that a request makes, if it makes one. A write is on nobody's behalf. -/
def attempt? : Request β → Option Attempt
  | client m c => if m.target then some ⟨c, m.kind, m.session⟩ else none
  | call (.writeProperty c variableName property value) =>
    if property.name = "Id" ∧ value.asBool? = some true then
      (TransitionKind.ofVariable? variableName.name).map fun k => ⟨c, k, none⟩
    else none
  | _ => none

/-- Only attempts may commit the true state of a variable. -/
theorem attempt_of_may {r : Request β} {c : NodeId} {k : TransitionKind} {now : Instant}
    (h : r.May (.commit c k true now)) : ∃ session, r.attempt? = some ⟨c, k, session⟩ := by
  generalize hch : Change.commit c k true now = ch at h
  cases makes_of_may h with
  | writeId c' hk hp hv =>
    cases hch
    refine ⟨none, ?_⟩
    rw [attempt?, if_pos ⟨hp, hv⟩, hk]
    rfl
  | commit m c' =>
    injection hch with hc hk ht _
    refine ⟨m.session, ?_⟩
    rw [attempt?, if_pos ht.symm, hc, hk]
  | _ => cases hch

end Request

/-- What an attempt does once it may: the variable becomes true and no other changes, or it is not
there and nothing changes. -/
inductive Attempt.Enters {α : Type} (a : Attempt) (s : Server β) :
    Interaction (upcalls β) (Server β) (Except StatusCode α) → Prop where
  /-- The variable is not there. -/
  | missing {e : StatusCode} (h : s.space.twoState a.condition a.kind = .error e) :
      a.Enters s (.done (.error e) s)
  /-- The variable becomes true. -/
  | entered {v : α} {t : Server β} (hs : (s.space.idOf a.condition a.kind).isSome)
      (h : ∀ c k, t.space.idOf c k =
        if c = a.condition ∧ k = a.kind then some true else s.space.idOf c k)
      (ha : t.announced = s.announced) : a.Enters s (.done (.ok v) t)

/-- What an attempt does that finds its variable in another state than the false one. -/
inductive Attempt.Passes {α : Type} (s : Server β) :
    Interaction (upcalls β) (Server β) (Except StatusCode α) → Prop where
  /-- It ends at once, and all variables are as they were. -/
  | done {v : Except StatusCode α} {t : Server β} (h : ∀ c k, t.space.idOf c k = s.space.idOf c k)
      (ha : t.announced = s.announced) : Passes s (.done v t)

namespace ClientMethod

/-- A method leads its variable to its state and no other. -/
theorem Transforms.idOf {m : ClientMethod} {id : EventId} {now : Instant}
    {cs cs' : ConditionState} (h : m.Transforms id now cs cs') (k : TransitionKind) :
    cs'.idOf k = if k = m.kind then some m.target else cs.idOf k := by
  unfold ConditionState.idOf
  by_cases hk : k = m.kind
  · obtain ⟨ts, -, hts⟩ := h.twoState
    have hid : (if ts.id = m.target then ts else ⟨m.target, some now⟩).id = m.target := by
      split
      · assumption
      · rfl
    rw [if_pos hk, hk, hts, Option.map_some, hid]
  · rw [if_neg hk, h.otherStates k hk]

/-- A successful method changes no variable but its own. -/
theorem Succeeds.idOf {m : ClientMethod} {c : NodeId} {id : EventId} {s t : Server β}
    (h : m.Succeeds c id s t) (c' : NodeId) (k : TransitionKind) :
    t.space.idOf c' k = if c' = c ∧ k = m.kind then some m.target else s.space.idOf c' k := by
  obtain ⟨n, cs, cs', event, hn, hb, hn', ht, -, -⟩ := h.condition
  by_cases hc : c' = c
  · subst hc
    rw [AddressSpace.idOf, AddressSpace.idOf, hn, hn', Option.bind_some, Option.bind_some,
      Node.idOf_of_body hb]
    show cs'.idOf k = _
    rw [ht.idOf]
    simp
  · rw [AddressSpace.idOf, AddressSpace.idOf, h.nodes c' hc, if_neg (fun h => hc h.1)]

/-- A successful method has found its variable. -/
theorem Succeeds.isSome_idOf {m : ClientMethod} {c : NodeId} {id : EventId} {s t : Server β}
    (h : m.Succeeds c id s t) : (s.space.idOf c m.kind).isSome := by
  obtain ⟨n, cs, cs', event, hn, hb, -, ht, -, -⟩ := h.condition
  obtain ⟨ts, hts, -⟩ := ht.twoState
  rw [AddressSpace.idOf, hn, Option.bind_some, Node.idOf_of_body hb, ConditionState.idOf, hts]
  rfl

end ClientMethod

private theorem enters_commit (a : Attempt) (s : Server β) :
    a.Enters s ((Service.commit a.condition a.kind true).run s) := by
  rw [Service.commit_run]
  cases hts : s.space.twoState a.condition a.kind with
  | error e =>
    rw [AddressSpace.commit_eq_error_of_twoState hts]
    exact .missing hts
  | ok ts =>
    obtain ⟨sp, hsp⟩ := (AddressSpace.commit_isOk_iff true s.now).2
      (Option.isSome_iff_exists.2 ⟨_, AddressSpace.twoState_eq_ok_idOf hts⟩)
    rw [hsp]
    refine .entered ?_ (AddressSpace.idOf_commit hsp) (Server.announced_log .trace _ _)
    rw [AddressSpace.twoState_eq_ok_idOf hts]
    rfl

/-- How a program attempts: it runs the hook if the variable is false, and enters if that lets it.
-/
structure Attempt.MadeBy {α : Type} (a : Attempt) (x : Service β α) (enter : Service β α) :
    Prop where
  /-- What follows on the hook. -/
  enters : ∀ s, a.Enters s (enter.run s)
  /-- Where the hook is run. -/
  tries : ∀ s, s.space.idOf a.condition a.kind = some false →
    x.run s = (Service.runHook a.condition a.kind a.session >>= fun _ => enter).run s
  /-- Where it is not. -/
  passes : ∀ s, s.space.idOf a.condition a.kind ≠ some false → Attempt.Passes s (x.run s)

private theorem madeBy_client {m : ClientMethod} (hm : m.target = true) (c : NodeId) :
    (⟨c, m.kind, m.session⟩ : Attempt).MadeBy (m.perform c : Service β EventId) (m.finish c) where
  enters s := by
    rcases m.finish_run c s with ⟨e, he, hr⟩ | ⟨id, t, hr, hs, ha⟩
    · rw [hr]
      exact .missing he
    · rw [hr]
      refine .entered hs.isSome_idOf (fun c' k => ?_) ha
      rw [hs.idOf, hm]
  tries s hs := by
    obtain ⟨ts, hts, hid⟩ := AddressSpace.idOf_eq_some_iff.1 hs
    rw [m.perform_run, hts]
    show ite (ts.id = m.target) _ _ = _
    rw [hid, hm, if_neg (by decide), ClientMethod.gate, if_pos hm]
  passes s hs := by
    rw [m.perform_run]
    cases hts : s.space.twoState c m.kind with
    | error e => exact .done (fun _ _ => rfl) rfl
    | ok ts =>
      have hid : ts.id = m.target := by
        rw [AddressSpace.twoState_eq_ok_idOf hts] at hs
        rw [hm]
        simpa using hs
      show Attempt.Passes s (ite (ts.id = m.target) _ _)
      rw [if_pos hid]
      exact .done (fun _ _ => rfl) rfl

private theorem passes_commit {c : NodeId} {k : TransitionKind} {s : Server β}
    (hs : s.space.idOf c k = some true) :
    Attempt.Passes s ((Service.commit c k true).run s) := by
  have he : (⟨c, k, none⟩ : Attempt).Enters s ((Service.commit c k true).run s) :=
    enters_commit ⟨c, k, none⟩ s
  generalize (Service.commit c k true).run s = x at he
  cases he with
  | missing h => exact .done (fun _ _ => rfl) rfl
  | entered _ h ha =>
    refine .done (fun c' k' => ?_) ha
    rw [h]
    split
    · next hck => rw [hck.1, hck.2, hs]
    · rfl

private theorem madeBy_write {variableName property : QualifiedName} {value : Variant}
    {k : TransitionKind} (hk : TransitionKind.ofVariable? variableName.name = some k)
    (hp : property.name = "Id") (hv : value.asBool? = some true) (c : NodeId) :
    (⟨c, k, none⟩ : Attempt).MadeBy
      (Service.writeProperty c variableName property value : Service β Unit)
      (Service.commit c k true) where
  enters s := enters_commit ⟨c, k, none⟩ s
  tries s hs := by
    have h := Service.propertyWrite_run c variableName property value s
    generalize (Service.writeProperty c variableName property value).run s = x at h ⊢
    cases h with
    | refused h =>
      rw [h k hk hp (by simp [hv])] at hs
      cases hs
    | @hooked k' hk' _ _ _ =>
      rw [hk, Option.some_inj] at hk'
      rw [← hk']
    | @committed k' id hk' _ hv' h =>
      rw [hk, Option.some_inj] at hk'
      rw [hv, Option.some_inj] at hv'
      rw [← hk', hs] at h
      cases h hv'.symm
    | timed _ hp' _ => exact absurd (hp.symm.trans hp') (by decide)
  passes s hs := by
    have h := Service.propertyWrite_run c variableName property value s
    generalize (Service.writeProperty c variableName property value).run s = x at h ⊢
    cases h with
    | refused _ => exact .done (fun _ _ => rfl) rfl
    | @hooked k' hk' _ _ hs' =>
      rw [hk, Option.some_inj] at hk'
      exact absurd (hk' ▸ hs') hs
    | @committed k' id hk' _ hv' h =>
      rw [hk, Option.some_inj] at hk'
      rw [hv, Option.some_inj] at hv'
      rw [← hk', ← hv'] at h ⊢
      exact passes_commit (h rfl)
    | timed _ hp' _ => exact absurd (hp.symm.trans hp') (by decide)

/-- A request that makes an attempt runs the hook of the variable, if that is false. -/
theorem Request.madeBy_of_attempt {r : Request β} {a : Attempt} (h : r.attempt? = some a) :
    ∃ enter, a.MadeBy r.perform enter := by
  cases r with
  | client m c =>
    change (if m.target then some ⟨c, m.kind, m.session⟩ else none) = some a at h
    split at h
    · next hm =>
      cases h
      exact ⟨m.finish c, madeBy_client hm c⟩
    · cases h
  | call call =>
    cases call with
    | writeProperty c variableName property value =>
      change (if property.name = "Id" ∧ value.asBool? = some true then
        (TransitionKind.ofVariable? variableName.name).map fun k => ⟨c, k, none⟩
        else none) = some a at h
      split at h
      · next hv =>
        obtain ⟨k, hk, rfl⟩ := Option.map_eq_some_iff.1 h
        exact ⟨Service.commit c k true, madeBy_write hk hv.1 hv.2 c⟩
      · cases h
    | _ => cases h
  | _ => cases h

/-- How its hook let an attempt pass that was made in `s`: there was nobody to ask, or one callback
was asked once, with nothing changed, and allowed it. -/
inductive Attempt.Cleared (a : Attempt) (s : Server β) :
    List (Exchange (upcalls β) (Server β)) → Prop where
  /-- The variable has no hook. -/
  | unhooked (h : s.space.hooks.find? (a.condition, a.kind) = none) : a.Cleared s []
  /-- The hook leads to the registry, and no callback is registered. -/
  | unregistered {hook : Hook β} (h : s.space.hooks.find? (a.condition, a.kind) = some hook)
      (hi : hook.interceptor = .registered)
      (hs : s.tables.registry.slot? hook.condition hook.kind = none) : a.Cleared s []
  /-- The callback of the hook has answered. -/
  | allowed {x : Exchange (upcalls β) (Server β)}
      (hq : s.interception? a.condition a.kind a.session = some x.question)
      (hx : Beside s x.asked) (hg : (x.question.status x.answer).isGood = true) : a.Cleared s [x]

private theorem Attempt.Cleared.of_none {a : Attempt} {s : Server β}
    (h : s.interception? a.condition a.kind a.session = none) : a.Cleared s [] := by
  unfold Server.interception? at h
  cases hh : s.space.hooks.find? (a.condition, a.kind) with
  | none => exact .unhooked hh
  | some hook =>
    rw [hh, Option.bind_some] at h
    cases hi : hook.interceptor with
    | direct callback =>
      rw [hi] at h
      cases h
    | registered =>
      rw [hi] at h
      exact .unregistered hh hi (Option.map_eq_none_iff.1 h)

/-! ### Stretches of attempts -/

section

open Service (Stage)

variable {st : (requests β).Stretch} {a : Attempt}

private theorem stage_of_genuine (h : st.Genuine) (ha : Request.attempt? st.request = some a)
    (hs : st.start.space.idOf a.condition a.kind = some false) :
    ∃ enter : Service β (Request.Reply st.request), (∀ t, a.Enters t (enter.run t)) ∧
      Stage st.start a.condition a.kind a.session (fun t => enter.run t) st.answered
        st.outcome := by
  obtain ⟨enter, hm⟩ := Request.madeBy_of_attempt ha
  refine ⟨enter, hm.enters, ?_⟩
  have hdone : ∀ t, ∃ r u, enter.run t = .done r u := by
    intro t
    have he := hm.enters t
    generalize enter.run t = x at he
    cases he with
    | missing _ => exact ⟨_, _, rfl⟩
    | entered _ _ _ => exact ⟨_, _, rfl⟩
  have hafter := h.after_perform
  rw [hm.tries st.start hs] at hafter
  exact Service.stage_of_after (f := fun _ => enter) hdone hafter

private theorem passes_of_genuine (h : st.Genuine) (ha : Request.attempt? st.request = some a)
    (hs : st.start.space.idOf a.condition a.kind ≠ some false) :
    st.answered = [] ∧ Attempt.Passes st.start st.outcome := by
  obtain ⟨enter, hm⟩ := Request.madeBy_of_attempt ha
  have hafter := h.after_perform
  have hp := hm.passes st.start hs
  generalize (Request.perform st.request).run st.start = x at hp hafter
  cases hp with
  | done hid han =>
    obtain ⟨hes, hy⟩ := Interaction.after_done_iff.1 hafter
    rw [hes, hy]
    exact ⟨rfl, .done hid han⟩

/-- What has become of an attempt that was made in `s`, after some exchanges. -/
inductive Attempt.Course {α : Type} (a : Attempt) (s : Server β) :
    List (Exchange (upcalls β) (Server β)) →
      Interaction (upcalls β) (Server β) (Except StatusCode α) → Prop where
  /-- The variable was not in the false state, and all variables are as they were. -/
  | passed {v : Except StatusCode α} {t : Server β}
      (hs : s.space.idOf a.condition a.kind ≠ some false)
      (h : ∀ c k, t.space.idOf c k = s.space.idOf c k) (ha : t.announced = s.announced) :
      a.Course s [] (.done v t)
  /-- The callback of the hook is asked. -/
  | asks {q : Upcall β} {t : Server β}
      {resume : q.Answer → Server β → Interaction (upcalls β) (Server β) (Except StatusCode α)}
      (hs : s.space.idOf a.condition a.kind = some false)
      (hq : s.interception? a.condition a.kind a.session = some q) (ht : Beside s t)
      (ha : t.announced = s.announced + s.toAnnounce a.condition a.kind) :
      a.Course s [] (.ask q t resume)
  /-- The callback has forbidden the transition. -/
  | vetoed {x : Exchange (upcalls β) (Server β)} {t : Server β}
      (hs : s.space.idOf a.condition a.kind = some false) (ht : Beside x.left t)
      (ha : t.announced = x.left.announced)
      (hg : (x.question.status x.answer).isGood = false) :
      a.Course s [x] (.done (.error (x.question.status x.answer)) t)
  /-- The callback has allowed the transition, but the variable is not there any more. -/
  | gone {x : Exchange (upcalls β) (Server β)} {e : StatusCode} {t : Server β}
      (hs : s.space.idOf a.condition a.kind = some false) (ht : Beside x.left t)
      (ha : t.announced = x.left.announced)
      (hg : (x.question.status x.answer).isGood = true) : a.Course s [x] (.done (.error e) t)
  /-- The variable is entered. -/
  | entered {es : List (Exchange (upcalls β) (Server β))} {v : α} {t : Server β}
      (hs : s.space.idOf a.condition a.kind = some false) (hc : a.Cleared s es)
      (hb : ((found s es).space.idOf a.condition a.kind).isSome)
      (h : ∀ c k, t.space.idOf c k =
        if c = a.condition ∧ k = a.kind then some true else (found s es).space.idOf c k)
      (ha : t.announced = (found s es).announced +
        if es.isEmpty then s.toAnnounce a.condition a.kind else 0) :
      a.Course s es (.done (.ok v) t)

private theorem course_of_stage {α : Type} {s : Server β} {enter : Service β α}
    (henter : ∀ t, a.Enters t (enter.run t))
    (hs : s.space.idOf a.condition a.kind = some false)
    {es : List (Exchange (upcalls β) (Server β))}
    {y : Interaction (upcalls β) (Server β) (Except StatusCode α)}
    (h : Stage s a.condition a.kind a.session (fun t => enter.run t) es y) : a.Course s es y := by
  cases h with
  | asks hq ht ha => exact .asks hs hq ht ha
  | vetoed hq ht hv ha hr => exact .vetoed hs hv ha hr
  | unasked hq ht ha =>
    next t =>
    have he := henter t
    generalize enter.run t = x at he ⊢
    cases he with
    | missing h =>
      obtain ⟨ts, hts, -⟩ := AddressSpace.idOf_eq_some_iff.1 hs
      rw [ht.space, hts] at h
      cases h
    | entered hsome hid han =>
      rw [ht.space] at hsome hid
      exact .entered hs (.of_none hq) hsome hid (han.trans ha)
  | allowed hq ht hv ha hr =>
    next q t u v r =>
    have he := henter v
    generalize enter.run v = x at he ⊢
    cases he with
    | missing h => exact .gone hs hv ha hr
    | entered hsome hid han =>
      rw [hv.space] at hsome hid
      exact .entered hs (.allowed hq ht hr) hsome hid (han.trans ha)

/-- The course of an attempt. -/
theorem course_of_genuine (h : st.Genuine) (ha : Request.attempt? st.request = some a) :
    a.Course st.start st.answered st.outcome := by
  by_cases hs : st.start.space.idOf a.condition a.kind = some false
  · obtain ⟨enter, henter, hstage⟩ := stage_of_genuine h ha hs
    exact course_of_stage henter hs hstage
  · obtain ⟨hes, hp⟩ := passes_of_genuine h ha hs
    rw [hes]
    generalize st.outcome = y at hp
    cases hp with
    | done hid han => exact .passed hs hid han

end

namespace Request

/-- Is the request about the state of a variable? -/
def SetsState : Request β → Prop
  | client .. => True
  | call (.writeProperty ..) => True
  | _ => False

private theorem ends_writeProperty {c : NodeId} {variableName property : QualifiedName}
    {value : Variant}
    (h : (call (.writeProperty c variableName property value) : Request β).attempt? = none)
    (s : Server β) :
    ∃ v t, (Service.writeProperty c variableName property value).run s = .done v t ∧
      t.announced = s.announced := by
  have hw := Service.propertyWrite_run c variableName property value s
  generalize (Service.writeProperty c variableName property value).run s = x at hw ⊢
  cases hw with
  | refused _ => exact ⟨_, s, rfl, rfl⟩
  | hooked hk hp hv _ =>
    rw [attempt?, if_pos ⟨hp, hv⟩, hk] at h
    cases h
  | @committed k id hk hp hv _ =>
    rw [Service.commit_run]
    cases s.space.commit c k id s.now with
    | error e => exact ⟨_, s, rfl, rfl⟩
    | ok sp => exact ⟨_, _, rfl, Server.announced_log .trace _ _⟩
  | @timed k time _ _ _ => exact ⟨_, s.withSpace _, rfl, rfl⟩

private theorem ends_of_no_attempt {r : Request β} (hr : r.SetsState) (h : r.attempt? = none)
    (s : Server β) :
    ∃ v t, r.perform.run s = .done v t ∧ t.announced = s.announced := by
  cases r with
  | client m c =>
    have hm : m.target = false := by
      cases hm : m.target with
      | false => rfl
      | true =>
        rw [attempt?, if_pos hm] at h
        cases h
    show ∃ v t, (m.perform c).run s = .done v t ∧ t.announced = s.announced
    rw [m.perform_run]
    cases s.space.twoState c m.kind with
    | error e => exact ⟨_, s, rfl, rfl⟩
    | ok ts =>
      show ∃ v t, ite (ts.id = m.target) _ _ = Interaction.done v t ∧ _
      split
      · exact ⟨_, s, rfl, rfl⟩
      · rw [ClientMethod.gate, if_neg (by simp [hm])]
        show ∃ v t, (m.finish c).run s = .done v t ∧ _
        rcases m.finish_run c s with ⟨e, -, hrun⟩ | ⟨id, t, hrun, -, ha⟩
        · exact ⟨_, s, hrun, rfl⟩
        · exact ⟨_, t, hrun, ha⟩
  | call call =>
    cases call with
    | writeProperty c variableName property value => exact ends_writeProperty h s
    | _ => exact hr.elim
  | _ => exact hr.elim

end Request

/-- What mediation demands of a stretch. -/
structure Mediated (st : (requests β).Stretch) : Prop where
  /-- A variable that becomes true was false, and becomes so by an attempt that found it false and
  was cleared. The attempt succeeds and changes no other variable. -/
  rising : ∀ c k, st.before.space.idOf c k ≠ some true → st.after.space.idOf c k = some true →
    st.before.space.idOf c k = some false ∧ ∃ session,
      Request.attempt? st.request = some ⟨c, k, session⟩ ∧
      st.start.space.idOf c k = some false ∧
      Attempt.Cleared ⟨c, k, session⟩ st.start st.answered ∧
      (∃ v t, st.outcome = .done (.ok v) t) ∧
      ∀ c' k', ¬ (c' = c ∧ k' = k) → st.after.space.idOf c' k' = st.before.space.idOf c' k'
  /-- An attempt that its callback forbids fails with the status that the answer stands for, and
  changes nothing. -/
  vetoed : ∀ a, Request.attempt? st.request = some a → ∀ x ∈ st.answered,
    (x.question.status x.answer).isGood = false → st.answered = [x] ∧
      st.after.space = st.before.space ∧
      ∃ t, st.outcome = .done (.error (x.question.status x.answer)) t
  /-- An attempt asks only the callback of its hook, once, with nothing changed, and while its
  variable is false. -/
  asking : ∀ a, Request.attempt? st.request = some a → ∀ q t resume, st.outcome = .ask q t resume →
    st.answered = [] ∧ st.start.interception? a.condition a.kind a.session = some q ∧
      Beside st.start t ∧ t.space.idOf a.condition a.kind = some false
  /-- An attempt on a false variable announces the call of a registered hook, once. -/
  announcing : ∀ a, Request.attempt? st.request = some a →
    st.start.space.idOf a.condition a.kind = some false →
    st.after.announced = st.before.announced +
      if st.answered.isEmpty then st.start.toAnnounce a.condition a.kind else 0
  /-- A request that does not attempt to make a false variable true calls no hook. -/
  silent : Request.SetsState st.request →
    (∀ a, Request.attempt? st.request = some a →
      st.start.space.idOf a.condition a.kind ≠ some false) →
    st.answered = [] ∧ (∃ v t, st.outcome = .done v t) ∧ st.after.announced = st.before.announced

namespace Attempt.Course

variable {α : Type} {a : Attempt} {s : Server β} {es : List (Exchange (upcalls β) (Server β))}
  {y : Interaction (upcalls β) (Server β) (Except StatusCode α)}

private theorem rising (h : a.Course s es y)
    (hb : (found s es).space.idOf a.condition a.kind ≠ some true)
    (ha : y.state.space.idOf a.condition a.kind = some true) :
    (found s es).space.idOf a.condition a.kind = some false ∧
      s.space.idOf a.condition a.kind = some false ∧ a.Cleared s es ∧
      (∃ v t, y = .done (.ok v) t) ∧ ∀ c k, ¬ (c = a.condition ∧ k = a.kind) →
        y.state.space.idOf c k = (found s es).space.idOf c k := by
  cases h with
  | passed _ hid _ => exact absurd (hid _ _ ▸ ha) hb
  | asks _ _ ht _ =>
    rw [Interaction.state_ask, ht.space] at ha
    exact absurd ha hb
  | vetoed _ ht _ _ =>
    rw [Interaction.state_done, ht.space] at ha
    exact absurd ha hb
  | gone _ ht _ _ =>
    rw [Interaction.state_done, ht.space] at ha
    exact absurd ha hb
  | entered hs hc hsome hid _ =>
    refine ⟨?_, hs, hc, ⟨_, _, rfl⟩, fun c k hck => ?_⟩
    · obtain ⟨b, hb'⟩ := Option.isSome_iff_exists.1 hsome
      cases b with
      | false => exact hb'
      | true => exact absurd hb' hb
    · exact (hid c k).trans (if_neg hck)

private theorem vetoed_of_mem (h : a.Course s es y) {x : Exchange (upcalls β) (Server β)}
    (hx : x ∈ es) (hg : (x.question.status x.answer).isGood = false) :
    es = [x] ∧ y.state.space = (found s es).space ∧
      ∃ t, y = .done (.error (x.question.status x.answer)) t := by
  cases h with
  | passed => cases hx
  | asks => cases hx
  | vetoed _ ht _ _ =>
    cases List.mem_singleton.1 hx
    exact ⟨rfl, ht.space, _, rfl⟩
  | gone _ _ _ hg' =>
    cases List.mem_singleton.1 hx
    rw [hg] at hg'
    cases hg'
  | entered _ hc _ _ _ =>
    cases hc with
    | unhooked => cases hx
    | unregistered => cases hx
    | allowed _ _ hg' =>
      cases List.mem_singleton.1 hx
      rw [hg] at hg'
      cases hg'

private theorem asking {q : Upcall β} {t : Server β}
    {resume : q.Answer → Server β → Interaction (upcalls β) (Server β) (Except StatusCode α)}
    (h : a.Course s es (.ask q t resume)) :
    es = [] ∧ s.interception? a.condition a.kind a.session = some q ∧ Beside s t ∧
      t.space.idOf a.condition a.kind = some false := by
  cases h with
  | asks hs hq ht _ =>
    refine ⟨rfl, hq, ht, ?_⟩
    rw [ht.space]
    exact hs

private theorem announcing (h : a.Course s es y)
    (hs : s.space.idOf a.condition a.kind = some false) :
    y.state.announced = (found s es).announced +
      if es.isEmpty then s.toAnnounce a.condition a.kind else 0 := by
  cases h with
  | passed hs' => exact absurd hs hs'
  | asks _ _ _ ha => exact ha
  | vetoed _ _ ha _ => exact ha
  | gone _ _ ha _ => exact ha
  | entered _ _ _ _ ha => exact ha

private theorem silent (h : a.Course s es y)
    (hs : s.space.idOf a.condition a.kind ≠ some false) :
    es = [] ∧ (∃ v t, y = .done v t) ∧ y.state.announced = (found s es).announced := by
  cases h with
  | passed _ _ ha => exact ⟨rfl, ⟨_, _, rfl⟩, ha⟩
  | asks hs' => exact absurd hs' hs
  | vetoed hs' => exact absurd hs' hs
  | gone hs' => exact absurd hs' hs
  | entered hs' => exact absurd hs' hs

end Attempt.Course

private theorem silent_of_genuine {st : (requests β).Stretch} (h : st.Genuine)
    (hsets : Request.SetsState st.request)
    (hno : ∀ a, Request.attempt? st.request = some a →
      st.start.space.idOf a.condition a.kind ≠ some false) :
    st.answered = [] ∧ (∃ v t, st.outcome = .done v t) ∧
      st.after.announced = (found st.start st.answered).announced := by
  have hafter := h.after_perform
  cases hattempt : Request.attempt? st.request with
  | none =>
    obtain ⟨v, t, hrun, ha⟩ := Request.ends_of_no_attempt hsets hattempt st.start
    rw [hrun] at hafter
    obtain ⟨hes, hy⟩ := Interaction.after_done_iff.1 hafter
    refine ⟨hes, ⟨v, t, hy⟩, ?_⟩
    rw [System.Stretch.after, hes, hy]
    exact ha
  | some a =>
    exact (course_of_genuine h hattempt).silent (hno a hattempt)

/-- Every transition is mediated, in every run, whatever the callbacks do. -/
theorem mediated_of_run {s : Server β} {trace : List (requests β).Stretch}
    {d : (requests β).Config} (h : System.Run (.idle (requests β) s) trace d)
    {st : (requests β).Stretch} (hst : st ∈ trace) : Mediated st := by
  have hg := h.genuine hst
  have hbefore := hg.before
  refine ⟨fun c k hb ha => ?_, fun a hattempt x hx hv => ?_, fun a hattempt q t resume ho => ?_,
    fun a hattempt hs => ?_, fun hsets hno => ?_⟩
  · obtain ⟨ch, sp, sp', hmay, -, happ, hsp, hsp'⟩ :=
      hg.changed.exists_change (P := fun sp => sp.idOf c k = some true) hb ha
    obtain ⟨now, rfl⟩ := Change.eq_commit_of_raise happ hsp hsp'
    obtain ⟨session, hattempt⟩ := Request.attempt_of_may hmay
    rw [hbefore] at hb ⊢
    obtain ⟨hfalse, hrest⟩ := (course_of_genuine hg hattempt).rising hb ha
    exact ⟨hfalse, session, hattempt, hrest⟩
  · rw [hbefore]
    exact (course_of_genuine hg hattempt).vetoed_of_mem hx hv
  · have hcourse := course_of_genuine hg hattempt
    rw [ho] at hcourse
    exact hcourse.asking
  · rw [hbefore]
    exact (course_of_genuine hg hattempt).announcing hs
  · rw [hbefore]
    exact silent_of_genuine hg hsets hno

/-- The first stretch of a client's acknowledgement of the guarded condition. -/
def guardedRequest : (requests Unit).Stretch :=
  .first (requests Unit) 0 (Request.client guardedAcknowledge guardedCondition) guardedServer

/-- The guarded condition becomes acknowledged by an attempt that its callback has allowed. -/
theorem mediated_guardedAcknowledge :
    ∃ st trace d, System.Run (.idle (requests Unit) guardedServer) trace d ∧ st ∈ trace ∧
      st.before.space.idOf guardedCondition .acked = some false ∧
      st.after.space.idOf guardedCondition .acked = some true ∧ Mediated st := by
  obtain ⟨resume, hask, hafter⟩ : ∃ resume,
      guardedRequest.outcome = .ask guardQuestion guardedServer resume ∧
      (resume StatusCode.good guardedServer).state.space.idOf guardedCondition .acked = some true :=
    ⟨_, rfl, rfl⟩
  have h : System.Run (.idle (requests Unit) guardedServer)
      [guardedRequest, guardedRequest.next guardAllows resume] _ :=
    .cons (.request_of_ask hask 0 [])
      (.cons (.answer 1 [] guardedRequest guardAllows resume hask) (.nil _))
  have hmem : guardedRequest.next guardAllows resume ∈
      [guardedRequest, guardedRequest.next guardAllows resume] := by
    simp
  exact ⟨_, _, _, h, hmem, rfl, hafter, mediated_of_run h hmem⟩

end AlarmServer
