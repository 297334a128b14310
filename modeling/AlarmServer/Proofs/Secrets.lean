import AlarmServer.Proofs.Activations
import Mathlib.Data.List.Forall2

/-!
# Secrets of tokens

Passwords, certificates and issued tokens decide whether a session may be activated, and are used
for nothing else. Two runs of access control before tables of logins that differ only in such
secrets, and in which each activation is accepted or rejected alike, cannot be told apart: not by
what is answered, not by the journal, and not by what is kept.
-/

namespace AlarmServer

open Interaction (After)

variable {β : Type}

/-! ### Tokens that differ in their secrets -/

namespace IdentityToken

/-- Tokens that differ in nothing but a password, or bytes of which there are as many. -/
inductive Alike : IdentityToken → IdentityToken → Prop where
  /-- There is nothing in which such tokens could differ. -/
  | anonymous : Alike .anonymous .anonymous
  /-- The passwords may differ. -/
  | userName (name password password' : String) :
      Alike (.userName name password) (.userName name password')
  /-- The certificates may differ, but not their lengths. -/
  | x509 {certificate certificate' : List UInt8} (h : certificate.length = certificate'.length) :
      Alike (.x509 certificate) (.x509 certificate')
  /-- The issued tokens may differ, but not their lengths. -/
  | issued {data data' : List UInt8} (h : data.length = data'.length) (algorithm : String) :
      Alike (.issued data algorithm) (.issued data' algorithm)

variable {token token' : IdentityToken}

private theorem Alike.refl (token : IdentityToken) : token.Alike token := by
  cases token with
  | anonymous => exact .anonymous
  | userName name password => exact .userName name password password
  | x509 => exact .x509 rfl
  | issued data algorithm => exact .issued rfl algorithm

/-- The identity holds no secret. -/
theorem Alike.identity (h : token.Alike token') : token.identity = token'.identity := by
  cases h with
  | anonymous => rfl
  | userName => rfl
  | x509 h => rw [IdentityToken.identity, IdentityToken.identity, boundedLength, boundedLength, h]
  | issued h => rw [IdentityToken.identity, IdentityToken.identity, boundedLength, boundedLength, h]

/-- The diagnostic text holds no secret. -/
theorem Alike.debugText (h : token.Alike token') : token.debugText = token'.debugText := by
  cases h with
  | anonymous => rfl
  | userName => rfl
  | x509 h => rw [IdentityToken.debugText, IdentityToken.debugText, h]
  | issued h => rw [IdentityToken.debugText, IdentityToken.debugText, h]

end IdentityToken

namespace LoginPolicy

variable {p p' : LoginPolicy} {token token' : IdentityToken}

private theorem ite_good_congr {q q' : Prop} [Decidable q] [Decidable q'] {e : StatusCode}
    (he : e.isGood = false)
    (h : (if q then StatusCode.good else e).isGood = (if q' then StatusCode.good else e).isGood) :
    (if q then StatusCode.good else e) = if q' then StatusCode.good else e := by
  have hgood : StatusCode.good.isGood = true := rfl
  by_cases hq : q <;> by_cases hq' : q' <;> simp_all

/-- Why a token is rejected does not depend on its secret. -/
theorem decide_congr (h : token.Alike token')
    (hg : (p.decide token).isGood = (p'.decide token').isGood) :
    p.decide token = p'.decide token' := by
  cases h with
  | anonymous => exact ite_good_congr rfl hg
  | userName => exact ite_good_congr rfl hg
  | x509 => exact ite_good_congr rfl hg
  | issued => exact ite_good_congr rfl hg

end LoginPolicy

/-! ### The tables after an activation -/

namespace Access

/-- The tables once the owner of a session is recorded. Of the token they hold the identity. -/
def named (session : SessionId) (token : IdentityToken) (t : Tables β) : Tables β :=
  let i := token.identity
  { t.log .info ("Session " ++ session.node.text ++ " identity=" ++ i.type.name ++
      " user=" ++ i.userName.getD "-" ++ " admin=" ++ toString i.isAdmin) with
    sessions := t.sessions.recordIdentity session i }

/-- The tables once the table of logins has answered with a status. Of the token they hold the
diagnostic text. -/
def answered (session : SessionId) (token : IdentityToken) (status : StatusCode) (t : Tables β) :
    Tables β :=
  if status.isBad then
    t.log .warn ("Session " ++ session.node.text ++ " rejected (" ++ token.debugText ++ "): " ++
      status.text)
  else t

/-- The tables once a session is forgotten. -/
def dropped (session : SessionId) (t : Tables β) : Tables β :=
  { t.log .debug ("Dropping attributes of session " ++ session.node.text) with
    sessions := t.sessions.close session }

/-- The tables after an activation with that status. -/
def activated (session : SessionId) (token : IdentityToken) (status : StatusCode) (t : Tables β) :
    Tables β :=
  let u := answered session token status (named session token t)
  if status.isGood then u else dropped session u

private theorem named_congr {token token' : IdentityToken} (h : token.Alike token')
    (session : SessionId) (t : Tables β) : named session token t = named session token' t := by
  unfold named
  rw [h.identity]

private theorem activated_congr {token token' : IdentityToken} (h : token.Alike token')
    (session : SessionId) (status : StatusCode) (t : Tables β) :
    activated session token status t = activated session token' status t := by
  unfold activated answered
  rw [named_congr h, h.debugText]

end Access

namespace LoginPolicy

/-- The table answers at once, and notes a rejection. -/
theorem answered_run (p : LoginPolicy) (session : SessionId) (token : IdentityToken)
    (t : Tables β) :
    (AccessPolicy.logins p).activate session token t =
      .done (p.decide token) (Access.answered session token (p.decide token) t) := by
  by_cases hbad : (p.decide token).isBad = true
  · simp only [AccessPolicy.activate, Access.answered, if_pos hbad]
    rfl
  · simp only [AccessPolicy.activate, Access.answered, if_neg hbad]
    rfl

/-- An activation ends at once with what the table says of the token. -/
theorem activated_run (p : LoginPolicy) (session : SessionId) (token : IdentityToken)
    (t : Tables β) :
    (⟨.logins p⟩ : AccessControl).activate session token t =
      .done (p.decide token) (Access.activated session token (p.decide token) t) := by
  have hrun : (⟨.logins p⟩ : AccessControl).activate session token t =
      ((AccessPolicy.logins p).activate session token (Access.named session token t)).bind
        fun status u =>
          ((if status.isGood then pure status
            else SessionStore.closeNoted session >>= fun _ => pure status :
            AccessAction β StatusCode) u).serve (AccessPolicy.logins p).answer := rfl
  rw [hrun, answered_run, Interaction.bind_done]
  unfold Access.activated
  by_cases hg : (p.decide token).isGood = true
  · rw [if_pos hg, if_pos hg]
    rfl
  · rw [if_neg hg, if_neg hg]
    rfl

end LoginPolicy

/-! ### What clients and callbacks ask for -/

/-- A look at what is kept for a session. -/
inductive SessionQuery where
  /-- An attribute, through a handle of the session. -/
  | value (session : Session) (key : QualifiedName)
  /-- An attribute that is a truth value. -/
  | bool (session : SessionId) (key : QualifiedName)
  /-- An attribute that is a text. -/
  | string (session : SessionId) (key : QualifiedName)
  /-- An attribute that is a number. -/
  | uint32 (session : SessionId) (key : QualifiedName)
  /-- The owner. -/
  | owner (session : Session)
  /-- Is the owner an administrator? -/
  | isAdmin (session : Session)

/-- What is given back to whoever uses a session. -/
inductive SessionReply where
  /-- Nothing. -/
  | done
  /-- What came of an activation. -/
  | status (status : StatusCode)
  /-- What the session may do with a node. -/
  | level (level : AccessLevel)
  /-- An attribute. -/
  | value (a : Except Error AttributeValue)
  /-- An attribute that is a truth value. -/
  | bool (b : Except Error Bool)
  /-- An attribute that is a text. -/
  | string (s : Except Error String)
  /-- An attribute that is a number. -/
  | uint32 (n : Except Error UInt32)
  /-- The owner. -/
  | owner (i : Option SessionIdentity)
  /-- Is the owner an administrator? -/
  | isAdmin (b : Bool)

/-- What a look gives. -/
def SessionQuery.read (st : SessionStore) : SessionQuery → SessionReply
  | value session key => .value (st.attributeOf session key)
  | bool session key => .bool (st.getBool session key)
  | string session key => .string (st.getString session key)
  | uint32 session key => .uint32 (st.getUInt32 session key)
  | owner session => .owner (st.identityOf session)
  | isAdmin session => .isAdmin (st.isAdmin session)

/-- What may be asked of access control and of the session store, reading included. -/
inductive SessionUse (β : Type) where
  /-- Make a request. -/
  | request (r : AccessRequest β)
  /-- Record what a token says, without asking the policy. -/
  | record (session : SessionId) (token : IdentityToken)
  /-- Look at what is kept. -/
  | look (query : SessionQuery)

/-- The reply to a request. -/
def AccessRequest.reply : (r : AccessRequest β) → r.Result → SessionReply
  | activate .., status => .status status
  | userLevel .., level => .level level
  | _, _ => .done

namespace SessionUse

/-- Carry out a use, before a table of logins. -/
def perform (p : LoginPolicy) : SessionUse β → Routine β SessionReply
  | request r => r.reply <$> (⟨.logins p⟩ : AccessControl).perform r.perform
  | record session token => (fun i => .owner (some i)) <$> Access.recordIdentity session token
  | look q => (fun t => q.read t.sessions) <$> get

/-- Uses that differ in nothing but the secret of a token. -/
inductive Alike : SessionUse β → SessionUse β → Prop where
  /-- Both activate the same session. -/
  | activate (session : SessionId) {token token' : IdentityToken} (h : token.Alike token') :
      Alike (.request (.activate session token)) (.request (.activate session token'))
  /-- Both record the owner of the same session. -/
  | record (session : SessionId) {token token' : IdentityToken} (h : token.Alike token') :
      Alike (.record session token) (.record session token')
  /-- They do not differ. -/
  | refl (u : SessionUse β) : Alike u u

/-- Has the use activated a session, and was the token accepted? -/
def accepted : SessionUse β → Interaction (runtimeCalls β) (Tables β) SessionReply → Bool
  | request (.activate ..), .done (.status status) _ => status.isGood
  | _, _ => false

/-- An activation ends at once, and its reply is what the table says of the token. -/
theorem perform_activate (p : LoginPolicy) (session : SessionId) (token : IdentityToken)
    (t : Tables β) :
    perform p (request (.activate session token)) t =
      .done (.status (p.decide token)) (Access.activated session token (p.decide token) t) := by
  show (AccessControl.activate ⟨.logins p⟩ session token t).bind _ = _
  rw [p.activated_run]
  rfl

variable {p p' : LoginPolicy} {t : Tables β}

private theorem perform_activate_congr {token token' : IdentityToken} (h : token.Alike token')
    (session : SessionId) (hg : (p.decide token).isGood = (p'.decide token').isGood) :
    perform p (request (.activate session token)) t =
      perform p' (request (.activate session token')) t := by
  rw [perform_activate, perform_activate, Access.activated_congr h,
    LoginPolicy.decide_congr h hg]

/-- Uses that differ in a secret only are carried out alike before any two tables of logins, if they
are accepted alike. -/
theorem Alike.perform_eq {u u' : SessionUse β} (h : u.Alike u')
    (ha : u.accepted (u.perform p t) = u'.accepted (u'.perform p' t)) :
    u.perform p t = u'.perform p' t := by
  cases h with
  | activate session htoken =>
    rw [perform_activate, perform_activate] at ha
    exact perform_activate_congr htoken session ha
  | @record session token token' htoken =>
    show Interaction.done _ (Access.named session token t) =
      .done _ (Access.named session token' t)
    rw [Access.named_congr htoken, htoken.identity]
  | refl =>
    cases u with
    | request r =>
      cases r with
      | activate session token =>
        rw [perform_activate, perform_activate] at ha
        exact perform_activate_congr (.refl token) session ha
      | userLevel session node =>
        -- The policy is asked for a level, and every table of logins gives the same one.
        obtain ⟨noted, hrun⟩ := Access.userLevel_run session node t
        show ((Access.userLevel session node t).serve _).bind _ =
          ((Access.userLevel session node t).serve _).bind _
        rw [hrun]
        rfl
      | setAttribute session key value => cases session <;> rfl
      | close | «open» | recordIdentity | forget | beside => rfl
    | record => rfl
    | look => rfl

end SessionUse

/-! ### Two runs -/

/-- Access control before a table of logins, and the session store, with what is read from it. -/
def sessionUses (p : LoginPolicy) (β : Type) : System (runtimeCalls β) (Tables β) where
  Request := SessionUse β
  Result _ := SessionReply
  perform u := u.perform p

/-- Whoever was asked the same has answered the same. -/
def Exchange.Agrees {S : Signature} {σ : Type} (e e' : Exchange S σ) : Prop :=
  ∀ h : e.question = e'.question, h ▸ e.answer = e'.answer

namespace System

variable {p p' : LoginPolicy}

/-- Stretches of two runs that differ in nothing that comes from outside but in secrets, and in
which a token is accepted in both or in neither. -/
structure Stretch.Alike (st : (sessionUses p β).Stretch) (st' : (sessionUses p' β).Stretch) :
    Prop where
  /-- The uses differ in a secret only. -/
  request : st.request.Alike st'.request
  /-- Both begin a use, or both go on with the answer of a runtime that answers alike. -/
  answered : Option.Rel Exchange.Agrees st.answered.getLast? st'.answered.getLast?
  /-- What the tables of logins say is acceptance in both or in neither. -/
  accepted : st.request.accepted st.outcome = st'.request.accepted st'.outcome

/-- Stretches that begin in the same tables and come to the same: the same tables, journal and
session store included, and the same reply or the same question to the runtime. -/
structure Stretch.Indistinct (st : (sessionUses p β).Stretch) (st' : (sessionUses p' β).Stretch) :
    Prop where
  /-- The tables are the same before. -/
  before : st.before = st'.before
  /-- The outcome is the same. -/
  outcome : st.outcome = st'.outcome

/-- Moments of two runs with the same tables, in which those who wait will go on alike. -/
structure Config.Indistinct (c : (sessionUses p β).Config) (c' : (sessionUses p' β).Config) :
    Prop where
  /-- The tables are the same. -/
  state : c.state = c'.state
  /-- Those who wait have asked the same, and will do the same with an answer. -/
  waiting : List.Forall₂ (fun f f' => f.outcome = f'.outcome) c.waiting c'.waiting

/-- After stretches that come to the same, moments are the same if those before were. -/
theorem Stretch.Indistinct.settle {st : (sessionUses p β).Stretch}
    {st' : (sessionUses p' β).Stretch} (h : st.Indistinct st') {n n' : Nat}
    {waiting : List (sessionUses p β).Stretch} {waiting' : List (sessionUses p' β).Stretch}
    (hwaiting : List.Forall₂ (fun f f' => f.outcome = f'.outcome) waiting waiting') :
    (st.settle n waiting).Indistinct (st'.settle n' waiting') := by
  refine ⟨congrArg Interaction.state h.outcome, ?_⟩
  have houtcome := h.outcome
  unfold Stretch.settle
  rw [← houtcome]
  cases hst : st.outcome with
  | done => exact hwaiting
  | ask => exact .cons houtcome hwaiting

-- Who has asked the same and is answered the same goes on in the same way.
private theorem resume_eq {S : Signature} {σ α : Type} {e e' : Exchange S σ}
    {resume : S.Answer e.question → σ → Interaction S σ α}
    {resume' : S.Answer e'.question → σ → Interaction S σ α}
    (h : Interaction.ask e.question e.asked resume = .ask e'.question e'.asked resume')
    (hagrees : e.Agrees e') (hleft : e.left = e'.left) :
    resume e.answer e.left = resume' e'.answer e'.left := by
  obtain ⟨question, asked, answer, left⟩ := e
  obtain ⟨question', asked', answer', left'⟩ := e'
  obtain ⟨rfl, -, hresume⟩ := Interaction.ask.inj h
  obtain rfl : left = left' := hleft
  obtain rfl : answer = answer' := hagrees rfl
  exact congrArg (fun k => k answer left) (eq_of_heq hresume)

/-- Steps from moments that are the same, with stretches that are alike, cannot be told apart. -/
theorem Config.Indistinct.step {c d : (sessionUses p β).Config} {c' d' : (sessionUses p' β).Config}
    (hc : c.Indistinct c') {st : (sessionUses p β).Stretch} {st' : (sessionUses p' β).Stretch}
    (h : Step c st d) (h' : Step c' st' d') (halike : st.Alike st') :
    st.Indistinct st' ∧ d.Indistinct d' := by
  cases h with
  | request s n waiting u =>
    cases h' with
    | request s' n' waiting' u' =>
      obtain rfl : s = s' := hc.state
      have hsame : (Stretch.first (sessionUses p β) n u s).Indistinct
          (Stretch.first (sessionUses p' β) n' u' s) :=
        ⟨rfl, halike.request.perform_eq halike.accepted⟩
      exact ⟨hsame, hsame.settle hc.waiting⟩
    | answer n' waiting' f' e' resume' hf' =>
      have hnone := halike.answered
      simp [Stretch.first, Stretch.next] at hnone
  | answer n waiting f e resume hf =>
    cases h' with
    | request s' n' waiting' u' =>
      have hnone := halike.answered
      simp [Stretch.first, Stretch.next] at hnone
    | answer n' waiting' f' e' resume' hf' =>
      obtain ⟨hasked, hwaiting⟩ := List.forall₂_cons.1 hc.waiting
      have hleft : e.left = e'.left := hc.state
      have hagrees : e.Agrees e' := by
        have hlast := halike.answered
        simpa [Stretch.next] using hlast
      have hsame : (f.next e resume).Indistinct (f'.next e' resume') :=
        ⟨hleft, resume_eq (hf.symm.trans (hasked.trans hf')) hagrees hleft⟩
      exact ⟨hsame, hsame.settle hwaiting⟩

/-- Runs from moments that are the same, with stretches that are alike, cannot be told apart. -/
theorem Config.Indistinct.run {c d : (sessionUses p β).Config}
    {trace : List (sessionUses p β).Stretch} (h : Run c trace d)
    {c' d' : (sessionUses p' β).Config}
    {trace' : List (sessionUses p' β).Stretch} (h' : Run c' trace' d') (hc : c.Indistinct c')
    (halike : List.Forall₂ Stretch.Alike trace trace') :
    List.Forall₂ Stretch.Indistinct trace trace' ∧ d.Indistinct d' := by
  induction h generalizing c' trace' with
  | nil c =>
    cases halike
    cases h'
    exact ⟨.nil, hc⟩
  | cons hstep _ ih =>
    cases halike with
    | cons hfirst hrest =>
      cases h' with
      | cons hstep' hrun' =>
        obtain ⟨hsame, hd⟩ := hc.step hstep hstep' hfirst
        obtain ⟨htrace, hend⟩ := ih hrun' hd hrest
        exact ⟨.cons hsame htrace, hend⟩

end System

/-- Secrets leave no trace. Take two runs of access control, each before a table of logins of its
own, in which sessions are used alike but for passwords, and the bytes of certificates and of issued
tokens, and in which each activation is accepted in both or in neither. Stretch by stretch they
begin in the same tables and come to the same tables and to the same reply, so the statuses, the
levels, the values read, the journal with its lines of every level and the session store are the
same in both. -/
theorem secrets_of_run {p p' : LoginPolicy} {t : Tables β}
    {trace : List (sessionUses p β).Stretch} {trace' : List (sessionUses p' β).Stretch}
    {d : (sessionUses p β).Config} {d' : (sessionUses p' β).Config}
    (h : System.Run (.idle (sessionUses p β) t) trace d)
    (h' : System.Run (.idle (sessionUses p' β) t) trace' d')
    (halike : List.Forall₂ System.Stretch.Alike trace trace') :
    List.Forall₂ System.Stretch.Indistinct trace trace' ∧ d.state = d'.state := by
  have hidle : (System.Config.idle (sessionUses p β) t).Indistinct
      (System.Config.idle (sessionUses p' β) t) := ⟨rfl, .nil⟩
  obtain ⟨htrace, hend⟩ := System.Config.Indistinct.run h h' hidle halike
  exact ⟨htrace, hend.state⟩

/-- A visitor shows a certificate, which is rejected, and then gives the password of the
administrator, which is accepted, on two servers where both are different ones. -/
theorem secrets_administrator :
    let p := (LoginPolicy.create false).withLogin "admin" "secret"
    let p' := (LoginPolicy.create false).withLogin "admin" "hidden"
    ∃ (trace : List (sessionUses p Unit).Stretch) (trace' : List (sessionUses p' Unit).Stretch)
      (d : (sessionUses p Unit).Config) (d' : (sessionUses p' Unit).Config),
      System.Run (.idle (sessionUses p Unit) newTables) trace d ∧
      System.Run (.idle (sessionUses p' Unit) newTables) trace' d' ∧
      trace.map System.Stretch.request =
        [.request (.activate visitor (.x509 [1, 2])),
          .request (.activate visitor (.userName "admin" "secret"))] ∧
      trace'.map System.Stretch.request =
        [.request (.activate visitor (.x509 [3, 4])),
          .request (.activate visitor (.userName "admin" "hidden"))] ∧
      List.Forall₂ System.Stretch.Alike trace trace' ∧
      d.state.sessions.isAdmin (some visitor) = true ∧ d.state = d'.state := by
  intro p p'
  let shown (certificate : List UInt8) : SessionUse Unit :=
    .request (.activate visitor (.x509 certificate))
  let given (password : String) : SessionUse Unit :=
    .request (.activate visitor (.userName "admin" password))
  let first (q : LoginPolicy) (certificate : List UInt8) :=
    System.Stretch.first (sessionUses q Unit) 0 (shown certificate) newTables
  let second (q : LoginPolicy) (certificate : List UInt8) (password : String) :=
    System.Stretch.first (sessionUses q Unit) 1 (given password) (first q certificate).after
  have hends : ∀ (q : LoginPolicy) (token : IdentityToken) (t : Tables Unit),
      ∃ reply u, (sessionUses q Unit).perform (.request (.activate visitor token)) t =
        .done reply u :=
    fun q token t => ⟨_, _, SessionUse.perform_activate q visitor token t⟩
  have hrun : ∀ (q : LoginPolicy) (certificate : List UInt8) (password : String),
      System.Run (.idle (sessionUses q Unit) newTables)
        [first q certificate, second q certificate password]
        ⟨(second q certificate password).after, 2, []⟩ :=
    fun q certificate password =>
      .cons (.request_of_ends (hends q _ _) 0 []) (.cons (.request_of_ends (hends q _ _) 1 [])
        (.nil _))
  have halike : List.Forall₂ System.Stretch.Alike
      [first p [1, 2], second p [1, 2] "secret"] [first p' [3, 4], second p' [3, 4] "hidden"] :=
    .cons ⟨.activate visitor (.x509 rfl), .none, by decide⟩
      (.cons ⟨.activate visitor (.userName "admin" "secret" "hidden"), .none, by decide⟩ .nil)
  obtain ⟨-, hstate⟩ := secrets_of_run (hrun p [1, 2] "secret") (hrun p' [3, 4] "hidden") halike
  exact ⟨_, _, _, _, hrun p [1, 2] "secret", hrun p' [3, 4] "hidden", rfl, rfl, halike, by decide,
    hstate⟩

end AlarmServer
