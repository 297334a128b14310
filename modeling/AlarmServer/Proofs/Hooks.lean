import AlarmServer.Proofs.Effects

/-!
# Calls of hooks

The hook of a variable calls at most one callback, and nothing but the journal and the settled
answers of the runtime differs when the callback gets the state. The answer decides: what is not
good is the outcome of the transition, and a callback that fails counts as an internal error.
-/

namespace AlarmServer

variable {β : Type}

/-- The status that an answer stands for. -/
def Upcall.status : (q : Upcall β) → q.Answer → StatusCode
  | transition .., .status status => status
  | transition .., .fault _ => .badInternalError
  | intercept .., status => status
  | written .., _ => .good

namespace Server

/-- The call that the hook of a variable makes, if there is a hook and it has somebody to call. -/
def interception? (s : Server β) (condition : NodeId) (kind : TransitionKind) (session : Session) :
    Option (Upcall β) :=
  (s.space.hooks.find? (condition, kind)).bind fun h =>
    match h.interceptor with
    | .direct callback => some (.intercept callback h.kind h.condition session)
    | .registered => (s.tables.registry.slot? h.condition h.kind).map fun slot =>
      .transition slot.callback session slot.source slot.removeBranch

/-- How many announcements the journal holds. Dispatches are announced, and so are some operations
on sessions, but nothing else that works on the address space is. -/
def announced (s : Server β) : Nat := s.tables.ambient.journal.countP fun e => e.level = .info

/-- How often a call of a variable's hook is announced: once, if the hook leads to the registry. -/
def toAnnounce (s : Server β) (condition : NodeId) (kind : TransitionKind) : Nat :=
  match s.space.hooks.find? (condition, kind) with
  | some ⟨_, _, _, _, .registered⟩ => 1
  | _ => 0

/-- How many identifiers have been drawn for events and sessions. -/
def drawn (s : Server β) : Nat := s.tables.ambient.drawn

/-- Two states with the same address space, registry, sessions and time, and with the same
identifiers to come. -/
structure Beside (s t : Server β) : Prop where
  /-- The address spaces are the same. -/
  space : t.space = s.space
  /-- The registries are the same. -/
  registry : t.tables.registry = s.tables.registry
  /-- The session stores are the same. -/
  sessions : t.tables.sessions = s.tables.sessions
  /-- The times are the same. -/
  now : t.now = s.now
  /-- As many identifiers have been drawn. -/
  drawn : t.drawn = s.drawn

/-- A state has all this in common with itself. -/
theorem Beside.refl (s : Server β) : Beside s s := ⟨rfl, rfl, rfl, rfl, rfl⟩

/-- What two states have in common with a third one they have in common. -/
theorem Beside.trans {s t u : Server β} (h : Beside s t) (h' : Beside t u) : Beside s u :=
  ⟨h'.space.trans h.space, h'.registry.trans h.registry, h'.sessions.trans h.sessions,
    h'.now.trans h.now, h'.drawn.trans h.drawn⟩

/-- A line in the journal leaves all this as it is. -/
theorem beside_log (level : Level) (text : String) (s : Server β) : Beside s (s.log level text) :=
  ⟨rfl, rfl, rfl, rfl, rfl⟩

/-- What a hook would call does not depend on what is beside. -/
theorem Beside.interception? {s t : Server β} (h : Beside s t) (c : NodeId) (k : TransitionKind)
    (session : Session) : t.interception? c k session = s.interception? c k session := by
  unfold Server.interception?
  rw [h.space, h.registry]

/-- The new address space is the one that was given. -/
@[simp] theorem space_withSpace (sp : AddressSpace β) (s : Server β) :
    (s.withSpace sp).space = sp := rfl

/-- Only lines of the level of information announce. -/
theorem announced_log (level : Level) (text : String) (s : Server β) :
    (s.log level text).announced = s.announced + if level = .info then 1 else 0 := by
  simp [announced, log, Tables.log, Ambient.log, List.countP_append, List.countP_cons]

end Server

open Server (Beside)

namespace ServerAction

private theorem displayName_run (id : NodeId) (s : Server β) :
    ∃ r t, displayName id s = .done r t ∧ Beside s t ∧ t.announced = s.announced := by
  unfold displayName
  rw [Action.bind_of_done (Action.get_run s)]
  rcases s.script.next .readDisplayName with ⟨_ | answer, script⟩
  · exact ⟨_, _, rfl, ⟨rfl, rfl, rfl, rfl, rfl⟩, rfl⟩
  · exact ⟨_, _, rfl, ⟨rfl, rfl, rfl, rfl, rfl⟩, rfl⟩

private theorem conditionLabel_run (condition : NodeId) (s : Server β) :
    ∃ r t, conditionLabel condition s = .done r t ∧ Beside s t ∧ t.announced = s.announced := by
  obtain ⟨r, t, hr, ht⟩ := displayName_run condition s
  unfold conditionLabel
  rw [Action.bind_of_done hr]
  cases r with
  | ok name => exact ⟨_, t, rfl, ht⟩
  | error e => exact ⟨_, t, rfl, ht⟩

private theorem consult_run (slot : Slot β) (session : Session) (s : Server β) :
    ∃ note : Verdict → Server β → Server β,
      (∀ r t, Beside t (note r t) ∧ (note r t).announced = t.announced) ∧
      consult slot session s =
        .ask (.transition slot.callback session slot.source slot.removeBranch) s fun r t =>
          .done (Upcall.status (.transition slot.callback session slot.source slot.removeBranch) r)
            (note r t) := by
  refine ⟨fun r t => match r with
    | .status _ => t
    | .fault f => t.log .error (Error.callbackFault f.message).message, fun r t => ?_, ?_⟩
  · cases r with
    | status status => exact ⟨.refl t, rfl⟩
    | fault f => exact ⟨Server.beside_log .error _ t, Server.announced_log .error _ t⟩
  · show Interaction.ask _ s _ = _
    congr 1
    funext r t
    cases r <;> rfl

-- What a dispatch asks: the callback that is registered, if there is one.
private def slotCall (s : Server β) (kind : TransitionKind) (condition : NodeId)
    (session : Session) : Option (Upcall β) :=
  (s.tables.registry.slot? condition kind).map fun slot =>
    .transition slot.callback session slot.source slot.removeBranch

/-- A question of a hook, after `n` announcements; there may be nobody to ask. -/
inductive Consultation (s : Server β) (n : Nat) :
    Option (Upcall β) → Interaction (upcalls β) (Server β) StatusCode → Prop where
  /-- Without a question the status is good. -/
  | unasked {t : Server β} (ht : Beside s t) (ha : t.announced = s.announced + n) :
      Consultation s n none (.done .good t)
  /-- The status is the one that the answer stands for. -/
  | asked {q : Upcall β} {t : Server β} {note : q.Answer → Server β → Server β} (ht : Beside s t)
      (ha : t.announced = s.announced + n)
      (hn : ∀ r u, Beside u (note r u) ∧ (note r u).announced = u.announced) :
      Consultation s n (some q) (.ask q t fun r u => .done (q.status r) (note r u))

private theorem dispatch_consults (kind : TransitionKind) (condition : NodeId) (session : Session)
    (s : Server β) :
    Consultation s 1 (slotCall s kind condition session) (dispatch kind condition session s) := by
  obtain ⟨label, t, hl, hb, ha⟩ := conditionLabel_run condition s
  let t' := t.log .info ("[A&C] " ++ kind.variableName ++ "=true | condition=" ++ label)
  have hb' : Beside s t' := hb.trans (Server.beside_log .info _ t)
  have ha' : t'.announced = s.announced + 1 := by
    rw [Server.announced_log, if_pos rfl, ha]
  unfold dispatch
  rw [Action.bind_of_done hl]
  rw [Action.bind_of_done (show log .info _ t = .done () t' from rfl),
    Action.bind_of_done (Action.get_run t')]
  rw [hb'.registry, slotCall]
  cases s.tables.registry.slot? condition kind with
  | none => exact .unasked hb' ha'
  | some slot =>
    obtain ⟨note, hn, hc⟩ := consult_run slot session t'
    let q : Upcall β := .transition slot.callback session slot.source slot.removeBranch
    let note' (r : Verdict) (u : Server β) : Server β :=
      if (q.status r).isGood then note r u else (note r u).log .debug
        (kind.variableName ++ " of " ++ label ++ " rejected by callback: " ++ (q.status r).text)
    have hn' : ∀ r u, Beside u (note' r u) ∧ (note' r u).announced = u.announced := by
      intro r u
      unfold note'
      split
      · exact hn r u
      · exact ⟨(hn r u).1.trans (Server.beside_log .debug _ _),
          (Server.announced_log .debug _ _).trans (hn r u).2⟩
    have hask : (do
        let status ← consult slot session
        unless status.isGood do
          log .debug
            (kind.variableName ++ " of " ++ label ++ " rejected by callback: " ++ status.text)
        return status : ServerAction β StatusCode) t' =
          .ask q t' fun r u => .done (q.status r) (note' r u) := by
      rw [Action.bind_of_ask hc]
      congr 1
      funext r u
      show (ite ((q.status r).isGood = true) _ _ : ServerAction β StatusCode) (note r u) =
        .done (q.status r) (ite ((q.status r).isGood = true) _ _)
      split <;> rfl
    have hcon : Consultation s 1 (some q) _ := .asked hb' ha' hn'
    rw [← hask] at hcon
    exact hcon

section

variable {may : Change β → Prop}

private theorem does_displayName (id : NodeId) :
    Does may (displayName id : ServerAction β (Except StatusCode LocalizedText)) := by
  intro s
  unfold displayName
  rw [Action.bind_of_done (Action.get_run s)]
  have hnext : s.script = .empty → (s.script.next .readDisplayName).2 = .empty := by
    intro h
    rw [h]
    rfl
  rcases hs : s.script.next .readDisplayName with ⟨_ | answer, script⟩
  all_goals
    rw [hs] at hnext
    exact ⟨.refl s.space, rfl, hnext⟩

private theorem does_conditionLabel (condition : NodeId) :
    Does may (conditionLabel condition : ServerAction β String) := by
  refine .bind (does_displayName condition) fun name => ?_
  cases name with
  | ok name => exact does_pure name.text
  | error e => exact does_pure condition.text

private theorem does_consult (slot : Slot β) (session : Session) :
    Does may (consult slot session) := by
  refine .bind (does_ask _) fun r => ?_
  cases r with
  | status status => exact does_pure status
  | fault f => exact .bind (does_log _ _) fun _ => does_pure _

/-- A dispatch changes nothing, whoever answers. -/
theorem does_dispatch (kind : TransitionKind) (condition : NodeId) (session : Session) :
    Does may (dispatch kind condition session : ServerAction β StatusCode) := by
  refine .bind (does_conditionLabel condition) fun label => ?_
  refine .bind (does_log _ _) fun _ => .bind does_get fun s => ?_
  cases s.tables.registry.slot? condition kind with
  | none => exact does_pure _
  | some slot =>
    refine .bind (does_consult slot session) fun status => ?_
    split
    · exact does_pure status
    · exact .bind (does_log _ _) fun _ => does_pure status

end

/-- A hook changes nothing, whoever calls it. -/
theorem does_callHook {may : Change β → Prop} (h : Hook β) (session : Session) :
    Does may (callHook h session) := by
  unfold callHook
  split
  · exact does_dispatch h.kind h.condition session
  · exact does_ask _

/-- The hook of a variable asks its callback, if it has one. -/
theorem callHook_consults {s : Server β} {c : NodeId} {k : TransitionKind} {h : Hook β}
    (hh : s.space.hooks.find? (c, k) = some h) (session : Session) :
    Consultation s (s.toAnnounce c k) (s.interception? c k session) (callHook h session s) := by
  obtain ⟨condition, source, removeBranch, kind, interceptor⟩ := h
  unfold Server.toAnnounce Server.interception?
  rw [hh]
  cases interceptor with
  | registered => exact dispatch_consults kind condition session s
  | direct callback =>
    exact .asked (.refl s) rfl fun r u => ⟨.refl u, rfl⟩

end ServerAction

namespace Service

open Interaction (After)

/-- How far an operation has come that runs the hook of a variable and then goes on with `rest`. -/
inductive Stage {α : Type} (s : Server β) (c : NodeId) (k : TransitionKind) (session : Session)
    (rest : Server β → Interaction (upcalls β) (Server β) (Except StatusCode α)) :
    List (Exchange (upcalls β) (Server β)) →
      Interaction (upcalls β) (Server β) (Except StatusCode α) → Prop where
  /-- There was nobody to ask. -/
  | unasked {t : Server β} (hq : s.interception? c k session = none) (ht : Beside s t)
      (ha : t.announced = s.announced + s.toAnnounce c k) : Stage s c k session rest [] (rest t)
  /-- The callback is asked. -/
  | asks {q : Upcall β} {t : Server β}
      {resume : q.Answer → Server β → Interaction (upcalls β) (Server β) (Except StatusCode α)}
      (hq : s.interception? c k session = some q) (ht : Beside s t)
      (ha : t.announced = s.announced + s.toAnnounce c k) :
      Stage s c k session rest [] (.ask q t resume)
  /-- The callback has allowed the transition. -/
  | allowed {q : Upcall β} {t u v : Server β} {r : q.Answer}
      (hq : s.interception? c k session = some q) (ht : Beside s t) (hv : Beside u v)
      (ha : v.announced = u.announced) (hr : (q.status r).isGood = true) :
      Stage s c k session rest [⟨q, t, r, u⟩] (rest v)
  /-- The callback has forbidden the transition. -/
  | vetoed {q : Upcall β} {t u v : Server β} {r : q.Answer}
      (hq : s.interception? c k session = some q) (ht : Beside s t) (hv : Beside u v)
      (ha : v.announced = u.announced) (hr : (q.status r).isGood = false) :
      Stage s c k session rest [⟨q, t, r, u⟩] (.done (.error (q.status r)) v)

/-- What follows on the hook of a variable runs if there is none, or if its status is good. -/
theorem runHook_bind_run {α : Type} (c : NodeId) (k : TransitionKind) (session : Session)
    (f : Unit → Service β α) (s : Server β) :
    (runHook c k session >>= f).run s = match s.space.hooks.find? (c, k) with
      | none => (f ()).run s
      | some h => (ServerAction.callHook h session s).bind fun status t =>
        if status.isGood then (f ()).run t
        else .done (.error status)
          (t.log .debug (k.variableName ++ " of " ++ c.text ++ " vetoed: " ++ status.text)) := by
  rw [bind_run, runHook, get_bind_run]
  cases s.space.hooks.find? (c, k) with
  | none => rfl
  | some h =>
    show ((_ >>= _ : Service β Unit).run s).bind _ = _
    rw [bind_run, lift_run]
    simp only [Interaction.bind_assoc, Interaction.bind_done]
    congr 1
    funext status t
    cases hg : status.isGood <;> rfl

section

variable {α : Type} {s : Server β} {c : NodeId} {k : TransitionKind} {session : Session}
  {f : Unit → Service β α} {es : List (Exchange (upcalls β) (Server β))}
  {y : Interaction (upcalls β) (Server β) (Except StatusCode α)}

private theorem stage_of_consultation {q? : Option (Upcall β)}
    {x : Interaction (upcalls β) (Server β) StatusCode} {text : StatusCode → String}
    (hf : ∀ t, ∃ r u, (f ()).run t = .done r u) (hq : s.interception? c k session = q?)
    (hc : ServerAction.Consultation s (s.toAnnounce c k) q? x)
    (h : After (x.bind fun status t => if status.isGood then (f ()).run t
      else .done (.error status) (t.log .debug (text status))) es y) :
    Stage s c k session (fun t => (f ()).run t) es y := by
  cases hc with
  | unasked ht ha =>
    obtain ⟨rfl, rfl⟩ := Interaction.after_of_ends (hf _) h
    exact .unasked hq ht ha
  | asked ht ha hn =>
    rcases Interaction.after_ask_iff.1 h with ⟨rfl, rfl⟩ | ⟨r, u, fs, rfl, h'⟩
    · exact .asks hq ht ha
    · next q t note =>
      obtain ⟨hv, hva⟩ := hn r u
      rw [Interaction.bind_done] at h'
      cases hr : (q.status r).isGood with
      | true =>
        rw [if_pos hr] at h'
        obtain ⟨rfl, rfl⟩ := Interaction.after_of_ends (hf _) h'
        exact .allowed hq ht hv hva hr
      | false =>
        rw [if_neg (by simp [hr])] at h'
        obtain ⟨rfl, rfl⟩ := Interaction.after_done_iff.1 h'
        refine .vetoed hq ht (hv.trans (Server.beside_log .debug _ _)) ?_ hr
        rw [Server.announced_log, if_neg (by decide), Nat.add_zero, hva]

/-- What follows on the hook of a variable, if it asks nothing itself. -/
theorem stage_of_after (hf : ∀ t, ∃ r u, (f ()).run t = .done r u)
    (h : After ((runHook c k session >>= f).run s) es y) :
    Stage s c k session (fun t => (f ()).run t) es y := by
  rw [runHook_bind_run] at h
  cases hh : s.space.hooks.find? (c, k) with
  | none =>
    rw [hh] at h
    obtain ⟨rfl, rfl⟩ := Interaction.after_of_ends (hf s) h
    refine .unasked ?_ (.refl s) ?_
    · simp [Server.interception?, hh]
    · simp [Server.toAnnounce, hh]
  | some hook =>
    rw [hh] at h
    exact stage_of_consultation hf rfl (ServerAction.callHook_consults hh session) h

end

end Service

end AlarmServer
