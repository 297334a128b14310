import AlarmServer.Proofs.Reentrant
import AlarmServer.Proofs.Sessions

/-!
# The right to write

Sessions are activated and closed through access control, and their attributes are written by
anybody. The policy behind access control is not known: while it decides, it may do all that others
may do, to any depth, and so may the runtime. What the store says of a session after such a run is
what the last event about it has said, and that decides who may write.

The right to write follows the recorded owner of a session only as long as no value is kept under
the name `isAdmin`, because access control looks up that name and values come first.
-/

namespace AlarmServer

open Interaction (After found)

variable {β : Type}

/-- What may be asked of access control and of the session store. -/
inductive AccessRequest (β : Type) where
  /-- Activate a session. -/
  | activate (session : SessionId) (token : IdentityToken)
  /-- Close a session. -/
  | close (session : SessionId)
  /-- Ask what a session may do with a node. -/
  | userLevel (session : SessionId) (node : NodeId)
  /-- Make a session known. -/
  | «open» (session : SessionId)
  /-- Record an owner. -/
  | recordIdentity (session : SessionId) (identity : SessionIdentity)
  /-- Write an attribute. -/
  | setAttribute (session : Session) (key : QualifiedName) (value : AttributeValue)
  /-- Forget a session. -/
  | forget (session : SessionId)
  /-- Do something that leaves the session store alone. -/
  | beside (registry : Registry β) (ambient : Ambient)

namespace AccessRequest

/-- What the request gives. -/
@[reducible] def Result : AccessRequest β → Type
  | activate .. => StatusCode
  | userLevel .. => AccessLevel
  | _ => Unit

/-- Carry out a request. -/
def perform : (r : AccessRequest β) → AccessAction β r.Result
  | activate session token => Access.activate session token
  | close session => Access.close session
  | userLevel session node => Access.userLevel session node
  | «open» session => modify fun t => { t with sessions := t.sessions.open session }
  | recordIdentity session i =>
    modify fun t => { t with sessions := t.sessions.recordIdentity session i }
  | setAttribute session key value => SessionStore.setNoted session key value
  | forget session => SessionStore.closeNoted session
  | beside registry ambient => modify fun t => { t with registry := registry, ambient := ambient }

/-- What happens to sessions in the stretch of a request that follows on some exchanges. -/
def event? : AccessRequest β → List (Exchange (accessCalls β) (Tables β)) → Option SessionEvent
  | activate session token, [] => some (.named session token.identity)
  | activate session _, [⟨.activate .., _, status, _⟩] =>
    if status.isGood then none else some (.forgotten session)
  | close session, [_] => some (.forgotten session)
  | «open» session, _ => some (.opened session)
  | recordIdentity session i, _ => some (.named session i)
  | setAttribute (some session) key value, _ => some (.kept session key value)
  | forget session, _ => some (.forgotten session)
  | _, _ => none

end AccessRequest

/-- Access control and session store as a system. -/
def accesses (β : Type) : System (accessCalls β) (Tables β) where
  Request := AccessRequest β
  Result r := r.Result
  perform r := r.perform

/-- What happens to sessions in the stretch. -/
def System.Stretch.event? (st : (accesses β).Stretch) : Option SessionEvent :=
  AccessRequest.event? st.request st.answered

/-! ### Events of a stretch -/

/-- Access control asks the policy, then the runtime for a name to note, and then gives what the
policy allows, without the right to write if the session was not one of an administrator. -/
theorem Access.userLevel_run (session : SessionId) (node : NodeId) (t : Tables β) :
    ∃ noted : AccessLevel → Except StatusCode QualifiedName → String,
      Access.userLevel session node t = .ask (.level session node) t fun allowed u =>
      .ask (.runtime (.readBrowseName node)) u fun name w =>
        .done (restrict t.sessions session allowed) (w.log .info (noted allowed name)) := by
  refine ⟨fun allowed name => "Session " ++ session.node.text ++ " access to " ++
    (match name with
      | .ok name => name.text
      | .error _ => "<unavailable>") ++ ": " ++
    (restrict t.sessions session allowed).text, ?_⟩
  show Interaction.ask _ _ _ = _
  congr 1
  funext allowed u
  show Interaction.ask _ _ _ = _
  congr 1
  funext name w
  cases name <;> rfl

/-- The store after an event, if there is one. -/
def SessionEvent.applyAny (e : Option SessionEvent) (st : SessionStore) : SessionStore :=
  e.elim st fun e => e.apply st

namespace AccessRequest

variable {t : Tables β} {es : List (Exchange (accessCalls β) (Tables β))}

private theorem sessions_activate {session : SessionId} {token : IdentityToken}
    {y : Interaction (accessCalls β) (Tables β) StatusCode}
    (h : After (Access.activate session token t) es y) :
    y.state.sessions =
      SessionEvent.applyAny (event? (activate session token : AccessRequest β) es)
        (found t es).sessions := by
  rcases Interaction.after_ask_iff.1 h with ⟨rfl, rfl⟩ | ⟨status, u, fs, rfl, h'⟩
  · rfl
  · change After ((if status.isGood then pure status
      else SessionStore.closeNoted session >>= fun _ => pure status : AccessAction β _) u) _ _ at h'
    by_cases hg : status.isGood = true
    · rw [if_pos hg] at h'
      obtain ⟨rfl, rfl⟩ := Interaction.after_done_iff.1 h'
      simp [event?, hg, SessionEvent.applyAny]
    · rw [if_neg hg] at h'
      obtain ⟨rfl, rfl⟩ := Interaction.after_done_iff.1 h'
      simp only [event?, if_neg hg]
      rfl

private theorem sessions_close {session : SessionId}
    {y : Interaction (accessCalls β) (Tables β) Unit} (h : After (Access.close session t) es y) :
    y.state.sessions =
      SessionEvent.applyAny (event? (close session : AccessRequest β) es)
        (found t es).sessions := by
  rcases Interaction.after_ask_iff.1 h with ⟨rfl, rfl⟩ | ⟨_, u, fs, rfl, h'⟩
  · rfl
  · obtain ⟨rfl, rfl⟩ := Interaction.after_done_iff.1 h'
    rfl

private theorem sessions_userLevel {session : SessionId} {node : NodeId}
    {y : Interaction (accessCalls β) (Tables β) AccessLevel}
    (h : After (Access.userLevel session node t) es y) :
    y.state.sessions = (found t es).sessions := by
  obtain ⟨noted, hrun⟩ := Access.userLevel_run session node t
  rw [hrun] at h
  rcases Interaction.after_ask_iff.1 h with ⟨rfl, rfl⟩ | ⟨allowed, u, fs, rfl, h'⟩
  · rfl
  · rcases Interaction.after_ask_iff.1 h' with ⟨rfl, rfl⟩ | ⟨name, w, gs, rfl, h''⟩
    · rfl
    · obtain ⟨rfl, rfl⟩ := Interaction.after_done_iff.1 h''
      rfl

private theorem sessions_of_after {r : AccessRequest β}
    {y : Interaction (accessCalls β) (Tables β) r.Result} (h : After (r.perform t) es y) :
    y.state.sessions = SessionEvent.applyAny (r.event? es) (found t es).sessions := by
  cases r with
  | activate session token => exact sessions_activate h
  | close session => exact sessions_close h
  | userLevel session node => exact sessions_userLevel h
  | «open» session =>
    obtain ⟨rfl, rfl⟩ := Interaction.after_done_iff.1 h
    rfl
  | recordIdentity session i =>
    obtain ⟨rfl, rfl⟩ := Interaction.after_done_iff.1 h
    rfl
  | setAttribute session key value =>
    cases session with
    | none =>
      obtain ⟨rfl, rfl⟩ := Interaction.after_done_iff.1 h
      rfl
    | some session =>
      obtain ⟨rfl, rfl⟩ := Interaction.after_done_iff.1 h
      rfl
  | forget session =>
    obtain ⟨rfl, rfl⟩ := Interaction.after_done_iff.1 h
    rfl
  | beside registry ambient =>
    obtain ⟨rfl, rfl⟩ := Interaction.after_done_iff.1 h
    rfl

end AccessRequest

/-- A stretch changes the store by its event. -/
theorem System.Stretch.Genuine.sessions {st : (accesses β).Stretch} (h : st.Genuine) :
    st.after.sessions = SessionEvent.applyAny st.event? st.before.sessions := by
  rw [h.before]
  exact AccessRequest.sessions_of_after h.outcome

/-! ### What a run says of a session -/

section

variable (t : Tables β) (trace : List (accesses β).Stretch) (session : SessionId)

/-- The owner of the session that a run has recorded last, since it was last forgotten. -/
def ownerAfter : Option SessionIdentity :=
  (System.latest (fun st => st.event?.bind (SessionEvent.owner? session)) trace).getD
    (t.sessions.identity? session)

/-- The value that a run has kept last for the session under the name `isAdmin`, since the session
was last forgotten. -/
def overrideAfter : Option AttributeValue :=
  (System.latest (fun st => st.event?.bind
    (SessionEvent.kept? session (.standard "isAdmin"))) trace).getD
    (t.sessions.kept? session (.standard "isAdmin"))

end

section

variable {t : Tables β} {trace : List (accesses β).Stretch} {d : (accesses β).Config}

private theorem part_after {α : Type} (part : SessionStore → α) (tells : SessionEvent → Option α)
    (hs : ∀ e st, part (e.apply st) = (tells e).getD (part st))
    (h : System.Run (.idle (accesses β) t) trace d) :
    part d.state.sessions =
      (System.latest (fun st => st.event?.bind tells) trace).getD (part t.sessions) := by
  refine h.eq_latest (fun t : Tables β => part t.sessions) fun st hst => ?_
  rw [(h.genuine hst).sessions]
  cases st.event? with
  | none => rfl
  | some e => exact hs e st.before.sessions

private theorem identity?_after (h : System.Run (.idle (accesses β) t) trace d)
    (session : SessionId) : d.state.sessions.identity? session = ownerAfter t trace session :=
  part_after (fun st => st.identity? session) (SessionEvent.owner? session)
    (fun e st => e.identity?_apply st session) h

private theorem override_after (h : System.Run (.idle (accesses β) t) trace d)
    (session : SessionId) :
    d.state.sessions.kept? session (.standard "isAdmin") = overrideAfter t trace session :=
  part_after (fun st => st.kept? session (.standard "isAdmin"))
    (SessionEvent.kept? session (.standard "isAdmin"))
    (fun e st => e.kept?_apply st session (.standard "isAdmin")) h

end

/-- Who may write, after any run. The session is one of an administrator for callbacks if the owner
recorded last is an administrator, and for access control if it is one for callbacks, except where a
value is kept under the name `isAdmin`: then that value decides, and no value but true is enough. So
both agree if and only if no such value says otherwise. A session may write a node if and only if
the policy allows that and the session is one of an administrator for access control. -/
theorem writeAccess_of_run {t : Tables β} {trace : List (accesses β).Stretch}
    {d : (accesses β).Config} (h : System.Run (.idle (accesses β) t) trace d)
    (session : SessionId) (node : NodeId) :
    d.state.sessions.isAdmin (some session) =
        (ownerAfter t trace session).any SessionIdentity.isAdmin ∧
      (Access.isAdmin d.state.sessions session = d.state.sessions.isAdmin (some session) ↔
        ∀ v, overrideAfter t trace session = some v →
          (v = .bool true ↔ d.state.sessions.isAdmin (some session) = true)) ∧
      ∃ (grant : AccessLevel → AccessLevel)
        (noted : AccessLevel → Except StatusCode QualifiedName → String),
        Access.userLevel session node d.state = .ask (.level session node) d.state
          (fun allowed u => .ask (.runtime (.readBrowseName node)) u fun name w =>
            .done (grant allowed) (w.log .info (noted allowed name))) ∧
        ∀ allowed, (grant allowed).canWrite = true ↔ allowed.canWrite = true ∧
          match overrideAfter t trace session with
          | some v => v = .bool true
          | none => d.state.sessions.isAdmin (some session) = true := by
  have hadmin := Access.isAdmin_iff d.state.sessions session
  rw [override_after h] at hadmin
  refine ⟨?_, ?_, ?_⟩
  · rw [← identity?_after h]
    rfl
  · rw [Bool.eq_iff_iff, hadmin]
    cases overrideAfter t trace session <;> simp
  · obtain ⟨noted, hrun⟩ := Access.userLevel_run session node d.state
    refine ⟨Access.restrict d.state.sessions session, noted, hrun, fun allowed => ?_⟩
    refine Iff.trans ?_ (and_congr_right fun _ => hadmin)
    rw [AccessLevel.canWrite, Access.restrict, AccessLevel.contains_inter_iff, and_comm]
    refine and_congr_right fun _ => ?_
    cases Access.isAdmin d.state.sessions session <;> decide

/-- The session of a visitor. -/
def visitor : SessionId := ⟨.numeric 1 1⟩

/-- The tables of a new server. -/
def newTables : Tables Unit := ⟨.empty, .empty, .start ⟨0, 0⟩⟩

private theorem exists_visit (name : String) :
    ∃ trace t, System.Run (.idle (accesses Unit) newTables) trace ⟨t, 1, []⟩ ∧
      t.sessions = SessionStore.empty.recordIdentity visitor
        (IdentityToken.userName name "").identity := by
  let request : AccessRequest Unit := .activate visitor (.userName name "")
  obtain ⟨t, ht, resume, hask, hdone⟩ : ∃ t : Tables Unit,
      t.sessions = SessionStore.empty.recordIdentity visitor
        (IdentityToken.userName name "").identity ∧
      ∃ resume, request.perform newTables =
        .ask (AccessCall.activate visitor (.userName name "")) t resume ∧
      resume StatusCode.good t = .done StatusCode.good t :=
    ⟨_, rfl, _, rfl, rfl⟩
  let e : Exchange (accessCalls Unit) (Tables Unit) :=
    ⟨.activate visitor (.userName name ""), t, StatusCode.good, t⟩
  exact ⟨_, t, .cons (.request_of_ask (Y := accesses Unit) (r := request) hask 0 [])
    (.cons (.answer_of_done (e := e) hask hdone 1 []) (.nil _)), ht⟩

/-- A visitor under the name of the administrator may write what the policy allows to write. -/
theorem writeAccess_admin :
    ∃ trace d, System.Run (.idle (accesses Unit) newTables) trace d ∧
      ∃ (grant : AccessLevel → AccessLevel)
        (noted : AccessLevel → Except StatusCode QualifiedName → String),
        Access.userLevel visitor .objectsFolder d.state =
          .ask (.level visitor .objectsFolder) d.state (fun allowed u =>
            .ask (.runtime (.readBrowseName .objectsFolder)) u fun name w =>
              .done (grant allowed) (w.log .info (noted allowed name))) ∧
        ∀ allowed, (grant allowed).canWrite = allowed.canWrite := by
  obtain ⟨trace, t, h, ht⟩ := exists_visit "admin"
  obtain ⟨-, -, grant, noted, hrun, hgrant⟩ := writeAccess_of_run h visitor .objectsFolder
  refine ⟨trace, _, h, grant, noted, hrun, fun allowed => ?_⟩
  have hoverride : overrideAfter newTables trace visitor = none := by
    rw [← override_after h, ht]
    rfl
  have hadmin : t.sessions.isAdmin (some visitor) = true := by
    rw [ht]
    rfl
  rw [Bool.eq_iff_iff, hgrant, hoverride]
  exact and_iff_left hadmin

/-- A visitor under another name may write all that the policy allows to write, once a value is kept
for the session under the name `isAdmin`. The session is still none of an administrator. -/
theorem write_without_admin :
    ∃ trace d, System.Run (.idle (accesses Unit) newTables) trace d ∧
      d.state.sessions.isAdmin (some visitor) = false ∧
      ∃ es t, After (Access.userLevel visitor .objectsFolder d.state) es
        (.done AccessLevel.readWrite t) := by
  obtain ⟨trace, t, h, ht⟩ := exists_visit "guest"
  obtain ⟨st, u, hlast, hu⟩ : ∃ st u, System.Run ⟨t, 1, []⟩ [st] ⟨u, 2, []⟩ ∧
      u.sessions = t.sessions.set visitor (.standard "isAdmin") (.bool true) :=
    ⟨_, _, .cons (.request (Y := accesses Unit) t 1 []
      (AccessRequest.setAttribute (some visitor) (.standard "isAdmin") (.bool true))) (.nil _), rfl⟩
  have hadmin : u.sessions.isAdmin (some visitor) = false := by
    rw [hu, ht]
    rfl
  have hlevel : Access.restrict u.sessions visitor .readWrite = .readWrite := by
    rw [hu, ht]
    rfl
  obtain ⟨noted, hrun⟩ := Access.userLevel_run visitor .objectsFolder u
  refine ⟨_, _, h.append hlast, hadmin,
    [⟨.level visitor .objectsFolder, u, AccessLevel.readWrite, u⟩,
      ⟨.runtime (.readBrowseName .objectsFolder), u, .ok (.standard "Objects"), u⟩],
    u.log .info (noted .readWrite (.ok (.standard "Objects"))), ?_⟩
  rw [hrun]
  apply After.cons
  apply After.cons
  rw [hlevel]
  exact .nil _

end AlarmServer
