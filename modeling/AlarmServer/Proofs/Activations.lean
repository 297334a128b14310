import AlarmServer.Proofs.WriteAccess

/-!
# Owners of sessions

Access control before a table of logins decides alone who owns a session. An activation records the
owner before the table is asked, and takes that back if the table says no; so the last call for a
session tells whether it has an owner, and who that is. Attributes are written by anybody, but they
are no owners, and what is said of one session says nothing about another.
-/

namespace AlarmServer

open Interaction (After found)

variable {β : Type}

/-- Access control before a table of logins, and the session store, as a system. -/
def logins (p : LoginPolicy) (β : Type) : System (runtimeCalls β) (Tables β) where
  Request := AccessRequest β
  Result r := r.Result
  perform r := (⟨.logins p⟩ : AccessControl).perform r.perform

namespace AccessRequest

/-- Does the request leave it to access control to record owners and to forget sessions? -/
def Controlled : AccessRequest β → Prop
  | recordIdentity .. => False
  | forget _ => False
  | _ => True

/-- Is the request a call of access control for the session, an activation or a close? -/
def concerns (session : SessionId) : AccessRequest β → Bool
  | activate session' _ => session' = session
  | close session' => session' = session
  | _ => false

/-- The token that the request was let in with, if it is an activation that has given a good status.
-/
def accepted? : (r : AccessRequest β) → Interaction (runtimeCalls β) (Tables β) r.Result →
    Option IdentityToken
  | activate _ token, .done status _ => if status.isGood then some token else none
  | _, _ => none

end AccessRequest

namespace LoginPolicy

/-- Tokens of administrators that the policy lets in: that of the one user with the password in the
table, and all certificates and issued tokens if such tokens are accepted. -/
def AdmitsAdmin (p : LoginPolicy) : IdentityToken → Prop
  | .anonymous => False
  | .userName name password =>
    name = IdentityToken.adminUser ∧ p.logins.find? IdentityToken.adminUser = some password
  | .x509 _ => p.allowTokens = true
  | .issued .. => p.allowTokens = true

private theorem isGood_ite_iff {q : Prop} [Decidable q] {e : StatusCode} (he : e.isGood = false) :
    (if q then StatusCode.good else e).isGood = true ↔ q := by
  by_cases hq : q
  · simp only [hq, if_true, iff_true]
    rfl
  · simp [hq, he]

/-- A token that is let in is one of an administrator if its identity says so. -/
theorem admitsAdmin_iff {p : LoginPolicy} {token : IdentityToken}
    (h : (p.decide token).isGood = true) :
    p.AdmitsAdmin token ↔ token.identity.isAdmin = true := by
  cases token with
  | anonymous => simp [AdmitsAdmin, IdentityToken.identity, SessionIdentity.create]
  | userName name password =>
    have hlogin : p.logins.find? name = some password := (isGood_ite_iff (by decide)).1 h
    simp only [AdmitsAdmin, IdentityToken.identity, SessionIdentity.create, decide_eq_true_eq]
    constructor
    · intro hadmin
      exact hadmin.1
    · intro hname
      rw [hname] at hlogin
      exact ⟨hname, hlogin⟩
  | x509 certificate =>
    have hallow : p.allowTokens = true := (isGood_ite_iff (by decide)).1 h
    simp [AdmitsAdmin, hallow, IdentityToken.identity, SessionIdentity.create]
  | issued data algorithm =>
    have hallow : p.allowTokens = true := (isGood_ite_iff (by decide)).1 h
    simp [AdmitsAdmin, hallow, IdentityToken.identity, SessionIdentity.create]

/-- The table answers at once, and notes at most a line. -/
theorem policy_run (p : LoginPolicy) (session : SessionId) (token : IdentityToken)
    (t : Tables β) :
    ∃ u : Tables β, (AccessPolicy.logins p).activate session token t = .done (p.decide token) u ∧
      u.sessions = t.sessions := by
  by_cases hbad : (p.decide token).isBad = true
  · let line := "Session " ++ session.node.text ++ " rejected (" ++ token.debugText ++ "): " ++
      (p.decide token).text
    refine ⟨t.log .warn line, ?_, rfl⟩
    simp only [AccessPolicy.activate, if_pos hbad]
    rfl
  · refine ⟨t, ?_, rfl⟩
    simp only [AccessPolicy.activate, if_neg hbad]
    rfl

/-- An activation ends at once with what the table says of the token, and the session has the owner
that the token names, or none. -/
theorem activate_run (p : LoginPolicy) (session : SessionId) (token : IdentityToken)
    (t : Tables β) :
    ∃ u : Tables β,
      (⟨.logins p⟩ : AccessControl).activate session token t = .done (p.decide token) u ∧
      ∀ s, u.sessions.identity? s =
        if s = session then if (p.decide token).isGood then some token.identity else none
        else t.sessions.identity? s := by
  let line := "Session " ++ session.node.text ++ " identity=" ++ token.identity.type.name ++
    " user=" ++ token.identity.userName.getD "-" ++ " admin=" ++ toString token.identity.isAdmin
  let asked : Tables β := { t.log .info line with
    sessions := (SessionEvent.named session token.identity).apply t.sessions }
  have hrun : (⟨.logins p⟩ : AccessControl).activate session token t =
      ((AccessPolicy.logins p).activate session token asked).bind fun status u =>
        ((if status.isGood then pure status
          else SessionStore.closeNoted session >>= fun _ => pure status :
          AccessAction β StatusCode) u).serve (AccessPolicy.logins p).answer := rfl
  obtain ⟨u, hpolicy, hu⟩ := policy_run p session token asked
  have hnamed : u.sessions = (SessionEvent.named session token.identity).apply t.sessions := hu
  rw [hrun, hpolicy, Interaction.bind_done]
  by_cases hg : (p.decide token).isGood = true
  · rw [if_pos hg, if_pos hg]
    refine ⟨u, rfl, ?_⟩
    intro s
    rw [hnamed, SessionEvent.identity?_apply]
    by_cases hs : s = session <;> simp [SessionEvent.owner?, hs]
  · rw [if_neg hg, if_neg hg]
    refine ⟨_, rfl, ?_⟩
    intro s
    show ((SessionEvent.forgotten session).apply u.sessions).identity? s = _
    rw [SessionEvent.identity?_apply, hnamed, SessionEvent.identity?_apply]
    by_cases hs : s = session <;> simp [SessionEvent.owner?, hs]

/-- A close ends at once, and the session has no owner. -/
theorem close_run (p : LoginPolicy) (session : SessionId) (t : Tables β) :
    ∃ u : Tables β, (⟨.logins p⟩ : AccessControl).close session t = .done () u ∧
      ∀ s, u.sessions.identity? s =
        if s = session then none else t.sessions.identity? s := by
  refine ⟨_, rfl, ?_⟩
  intro s
  show ((SessionEvent.forgotten session).apply t.sessions).identity? s = _
  rw [SessionEvent.identity?_apply]
  by_cases hs : s = session <;> simp [SessionEvent.owner?, hs]

/-- What a session may do with a node is asked without a change of the session store, also while the
runtime is asked for a name to note. -/
theorem userLevel_keeps (p : LoginPolicy) (session : SessionId) (node : NodeId) (t : Tables β) :
    Interaction.Keeps (fun t u : Tables β => u.sessions = t.sessions) t
      ((⟨.logins p⟩ : AccessControl).userLevel session node t) := by
  obtain ⟨noted, hrun⟩ := Access.userLevel_run session node t
  show Interaction.Keeps _ _ ((Access.userLevel session node t).serve _)
  rw [hrun]
  constructor
  · rfl
  · intro name w
    rfl

end LoginPolicy

/-! ### Owners after a run -/

namespace AccessRequest

variable {p : LoginPolicy} {t : Tables β} {es : List (Exchange (runtimeCalls β) (Tables β))}

/-- What a request has decided about the owner of the session where it stops. -/
def owner? (session : SessionId) (r : AccessRequest β)
    (y : Interaction (runtimeCalls β) (Tables β) r.Result) : Option (Option SessionIdentity) :=
  if r.concerns session then some ((r.accepted? y).map IdentityToken.identity) else none

private theorem identity?_of_after {r : AccessRequest β} (hr : r.Controlled)
    {y : Interaction (runtimeCalls β) (Tables β) r.Result}
    (h : After ((logins p β).perform r t) es y) (session : SessionId) :
    y.state.sessions.identity? session =
      (r.owner? session y).getD ((found t es).sessions.identity? session) := by
  cases r with
  | activate s token =>
    obtain ⟨u, hrun, hu⟩ := p.activate_run s token t
    change After (AccessControl.activate ⟨.logins p⟩ s token t) es y at h
    rw [hrun] at h
    obtain ⟨rfl, rfl⟩ := Interaction.after_done_iff.1 h
    rw [Interaction.state_done, hu]
    by_cases hs : s = session
    · by_cases hg : (p.decide token).isGood = true <;> simp [owner?, concerns, accepted?, hs, hg]
    · simp [owner?, concerns, hs, Ne.symm hs]
  | close s =>
    obtain ⟨u, hrun, hu⟩ := p.close_run s t
    change After (AccessControl.close ⟨.logins p⟩ s t) es y at h
    rw [hrun] at h
    obtain ⟨rfl, rfl⟩ := Interaction.after_done_iff.1 h
    rw [Interaction.state_done, hu]
    by_cases hs : s = session
    · simp [owner?, concerns, accepted?, hs]
    · simp [owner?, concerns, hs, Ne.symm hs]
  | userLevel s node =>
    have hkeeps := (h.keeps (p.userLevel_keeps s node t)).state
    exact congrArg (fun sessions => sessions.identity? session) hkeeps
  | «open» s =>
    obtain ⟨rfl, rfl⟩ := Interaction.after_done_iff.1 h
    exact (SessionEvent.opened s).identity?_apply t.sessions session
  | recordIdentity s i => exact hr.elim
  | setAttribute s key value =>
    cases s with
    | none =>
      obtain ⟨rfl, rfl⟩ := Interaction.after_done_iff.1 h
      rfl
    | some s =>
      obtain ⟨rfl, rfl⟩ := Interaction.after_done_iff.1 h
      exact (SessionEvent.kept s key value).identity?_apply t.sessions session
  | forget s => exact hr.elim
  | beside registry ambient =>
    obtain ⟨rfl, rfl⟩ := Interaction.after_done_iff.1 h
    rfl

private theorem isGood_of_accepted {r : AccessRequest β}
    {y : Interaction (runtimeCalls β) (Tables β) r.Result}
    (h : After ((logins p β).perform r t) es y) {token : IdentityToken}
    (hy : r.accepted? y = some token) : (p.decide token).isGood = true := by
  cases r with
  | activate s asked =>
    obtain ⟨u, hrun, -⟩ := p.activate_run s asked t
    change After (AccessControl.activate ⟨.logins p⟩ s asked t) es y at h
    rw [hrun] at h
    obtain ⟨rfl, rfl⟩ := Interaction.after_done_iff.1 h
    obtain ⟨hg, htoken⟩ := Option.ite_none_right_eq_some.1 hy
    cases htoken
    exact hg
  | _ => cases y <;> cases hy

end AccessRequest

namespace System.Stretch

variable {p : LoginPolicy}

/-- The token that the stretch was let in with, if it is an activation that has given a good status.
-/
def accepted? (st : (logins p β).Stretch) : Option IdentityToken := st.request.accepted? st.outcome

/-- The stretch itself if it activates or closes the session. -/
def call? (session : SessionId) (st : (logins p β).Stretch) : Option (logins p β).Stretch :=
  if st.request.concerns session then some st else none

/-- A stretch that activates or closes the session decides who owns it, and no other one does. -/
theorem Genuine.identity? {st : (logins p β).Stretch} (h : st.Genuine)
    (hst : st.request.Controlled) (session : SessionId) :
    st.after.sessions.identity? session =
      ((st.call? session).map fun f => f.accepted?.map IdentityToken.identity).getD
        (st.before.sessions.identity? session) := by
  have howner := AccessRequest.identity?_of_after hst h.outcome session
  rw [← h.before] at howner
  refine howner.trans ?_
  unfold AccessRequest.owner? call?
  cases st.request.concerns session <;> rfl

/-- The table lets in who was let in. -/
theorem Genuine.isGood_of_accepted {st : (logins p β).Stretch} (h : st.Genuine)
    {token : IdentityToken} (haccepted : st.accepted? = some token) :
    (p.decide token).isGood = true :=
  AccessRequest.isGood_of_accepted h.outcome haccepted

end System.Stretch

/-- The last stretch of a run that activates or closes the session. -/
def lastCall {p : LoginPolicy} (session : SessionId) (trace : List (logins p β).Stretch) :
    Option (logins p β).Stretch :=
  System.latest (System.Stretch.call? session) trace

private theorem mem_of_lastCall {p : LoginPolicy} {session : SessionId}
    {trace : List (logins p β).Stretch}
    {st : (logins p β).Stretch} (h : lastCall session trace = some st) : st ∈ trace := by
  obtain ⟨f, hf, hcall⟩ := List.exists_of_findSome?_eq_some h
  obtain ⟨-, hst⟩ := Option.ite_none_right_eq_some.1 hcall
  cases hst
  exact List.mem_reverse.1 hf

/-- Who owns a session that had no owner is said by the last call for it alone, after any run: it
is who was named by the token if that call was an activation which gave a good status, and nobody
otherwise. So the session is one of an administrator if and only if the last call was an activation
with a token of an administrator that the table lets in. What does not call for the session, the
writing of attributes for one, leaves its owner as it was. -/
theorem owner_of_run {p : LoginPolicy} {t : Tables β} {trace : List (logins p β).Stretch}
    {d : (logins p β).Config} (h : System.Run (.idle (logins p β) t) trace d)
    (hcontrolled : ∀ st ∈ trace, st.request.Controlled) (session : SessionId)
    (hnew : t.sessions.identity? session = none) :
    d.state.sessions.identity? session =
        ((lastCall session trace).bind System.Stretch.accepted?).map IdentityToken.identity ∧
      (d.state.sessions.isAdmin (some session) = true ↔
        ∃ st token, lastCall session trace = some st ∧ st.accepted? = some token ∧
          p.AdmitsAdmin token) ∧
      ∀ st ∈ trace, st.request.concerns session = false →
        st.after.sessions.identity? session = st.before.sessions.identity? session := by
  have howner : d.state.sessions.identity? session =
      ((lastCall session trace).bind System.Stretch.accepted?).map IdentityToken.identity := by
    have hlast := h.eq_latest (fun t : Tables β => t.sessions.identity? session) fun st hst =>
      (h.genuine hst).identity? (hcontrolled st hst) session
    have hnone : (System.Config.idle (logins p β) t).state.sessions.identity? session = none := hnew
    rw [hnone] at hlast
    rw [hlast, System.latest_map, ← lastCall]
    cases lastCall session trace <;> rfl
  refine ⟨howner, ?_, ?_⟩
  · rw [SessionStore.isAdmin, SessionStore.identityOf, Option.bind_some, howner]
    have hadmits : ∀ st token, lastCall session trace = some st → st.accepted? = some token →
        (p.AdmitsAdmin token ↔ token.identity.isAdmin = true) := by
      intro st token hlast haccepted
      have hgenuine := h.genuine (mem_of_lastCall hlast)
      exact LoginPolicy.admitsAdmin_iff (hgenuine.isGood_of_accepted haccepted)
    constructor
    · intro hadmin
      cases haccepted : (lastCall session trace).bind System.Stretch.accepted? with
      | none =>
        rw [haccepted] at hadmin
        cases hadmin
      | some token =>
        rw [haccepted] at hadmin
        obtain ⟨st, hlast, hst⟩ := Option.bind_eq_some_iff.1 haccepted
        exact ⟨st, token, hlast, hst, (hadmits st token hlast hst).2 hadmin⟩
    · rintro ⟨st, token, hlast, hst, hadmin⟩
      rw [hlast, Option.bind_some, hst]
      exact (hadmits st token hlast hst).1 hadmin
  · intro st hst hother
    have hdecided := (h.genuine hst).identity? (hcontrolled st hst) session
    rw [hdecided, System.Stretch.call?, hother]
    rfl

/-- The administrator has activated the visitor's session with the password in the table, and a
value was kept for it under the name `isAdmin`. The owner is an administrator, whatever that value
says. -/
theorem owner_administrator :
    let p := (LoginPolicy.create false).withLogin "admin" "secret"
    ∃ trace d, System.Run (.idle (logins p Unit) newTables) trace d ∧
      d.state.sessions.kept? visitor (.standard "isAdmin") = some (.bool false) ∧
      d.state.sessions.isAdmin (some visitor) = true := by
  intro p
  let token : IdentityToken := .userName "admin" "secret"
  let activation : AccessRequest Unit := .activate visitor token
  let writing : AccessRequest Unit :=
    .setAttribute (some visitor) (.standard "isAdmin") (.bool false)
  obtain ⟨t, hactivate, -⟩ := p.activate_run (β := Unit) visitor token newTables
  let first := System.Stretch.first (logins p Unit) 0 activation newTables
  let second := System.Stretch.first (logins p Unit) 1 writing first.after
  have hfirst : System.Step (.idle (logins p Unit) newTables) first ⟨first.after, 1, []⟩ :=
    .request_of_ends ⟨_, t, hactivate⟩ 0 []
  have hsecond : System.Step ⟨first.after, 1, []⟩ second ⟨second.after, 2, []⟩ :=
    .request_of_ends ⟨_, _, rfl⟩ 1 []
  have hrun : System.Run (.idle (logins p Unit) newTables) [first, second] ⟨second.after, 2, []⟩ :=
    .cons hfirst (.cons hsecond (.nil _))
  have hcontrolled : ∀ st ∈ [first, second], st.request.Controlled := by
    simp only [List.mem_cons, List.not_mem_nil, or_false]
    rintro st (rfl | rfl) <;> trivial
  obtain ⟨-, hadmin, -⟩ := owner_of_run hrun hcontrolled visitor rfl
  refine ⟨_, _, hrun, ?_, hadmin.2 ⟨first, token, ?_, ?_, ?_⟩⟩
  · have hkept := (SessionEvent.kept visitor (.standard "isAdmin") (.bool false)).kept?_apply
      first.after.sessions visitor (.standard "isAdmin")
    refine hkept.trans ?_
    simp [SessionEvent.kept?]
  · rfl
  · show AccessRequest.accepted? activation (AccessControl.activate ⟨.logins p⟩ visitor token _) = _
    have hlogin : p.logins.find? "admin" = some "secret" := rfl
    have hgood : p.decide (.userName "admin" "secret") = .good := by
      rw [LoginPolicy.decide, if_pos hlogin]
    rw [hactivate, hgood]
    rfl
  · exact ⟨rfl, rfl⟩

end AlarmServer
