import AlarmServer.Proofs.WriteAccess
import Mathlib.Data.List.Induction

/-!
# Attributes of sessions

What the session store answers about a session is said by the history of that session: by what has
happened to it since it was last forgotten. The value kept last under a name is found there, and
after it the fact of that name about the owner recorded last. A session is known if anything has
happened to it. What has happened to other sessions makes no difference.
-/

namespace AlarmServer

variable {β : Type}

/-! ### The history of a session -/

namespace SessionEvent

/-- Does the event end what was kept for its session? -/
def forgets : SessionEvent → Bool
  | forgotten _ => true
  | _ => false

/-- What has happened to a session since it was last forgotten, the latest first. -/
def life (session : SessionId) (history : List SessionEvent) : List SessionEvent :=
  (history.filter fun e => e.session = session).reverse.takeWhile fun e => !e.forgets

/-- The owner recorded last. -/
def lastOwner? (life : List SessionEvent) : Option SessionIdentity :=
  life.findSome? fun
    | named _ i => some i
    | _ => none

/-- The value kept last under a name. -/
def lastKept? (key : QualifiedName) (life : List SessionEvent) : Option AttributeValue :=
  life.findSome? fun
    | kept _ key' v => if key' = key then some v else none
    | _ => none

/-- The value kept last under a name or else, in the standard namespace, the fact of that name about
the owner recorded last. -/
def attribute? (key : QualifiedName) (life : List SessionEvent) : Option AttributeValue :=
  (lastKept? key life).or
    (if key.ns = 0 then (lastOwner? life).bind fun i => i.attribute? key.name else none)

private theorem life_concat (session : SessionId) (history : List SessionEvent) (e : SessionEvent) :
    life session (history ++ [e]) =
      if e.session = session then if e.forgets then [] else e :: life session history
      else life session history := by
  unfold life
  by_cases hs : e.session = session
  · cases hf : e.forgets <;> simp [hs, hf]
  · simp [hs]

end SessionEvent

/-! ### The store after a history -/

namespace SessionStore

/-- The store after some events. -/
def after (history : List SessionEvent) (st : SessionStore) : SessionStore :=
  history.foldl (fun st e => e.apply st) st

private theorem after_concat (history : List SessionEvent) (e : SessionEvent) (st : SessionStore) :
    after (history ++ [e]) st = e.apply (after history st) := by
  rw [after, List.foldl_append]
  rfl

private theorem contains_apply (e : SessionEvent) (st : SessionStore) (s : SessionId) :
    (e.apply st).contains s = if e.session = s then !e.forgets else st.contains s := by
  by_cases hs : e.session = s
  · subst hs
    rw [if_pos rfl]
    cases e <;>
      simp [SessionEvent.apply, SessionEvent.session, SessionEvent.forgets, contains, «open», close,
        recordIdentity, set, update, Table.contains_insert, Table.contains_erase]
  · rw [if_neg hs]
    cases e <;>
      simp_all [SessionEvent.apply, SessionEvent.session, contains, «open», close, recordIdentity,
        set, update, Table.contains_insert, Table.contains_erase, eq_comm]

open SessionEvent (life lastOwner? lastKept? attribute?)

/-- A session is known if anything has happened to it. -/
theorem contains_after (s : SessionId) (history : List SessionEvent) :
    (after history empty).contains s = !(life s history).isEmpty := by
  induction history using List.reverseRecOn with
  | nil => rfl
  | append_singleton history e ih =>
    rw [after_concat, contains_apply, SessionEvent.life_concat, ih]
    split
    · cases e.forgets <;> rfl
    · rfl

/-- The owner of a session is the one recorded last. -/
theorem identity?_after_history (s : SessionId) (history : List SessionEvent) :
    (after history empty).identity? s = lastOwner? (life s history) := by
  induction history using List.reverseRecOn with
  | nil => rfl
  | append_singleton history e ih =>
    rw [after_concat, SessionEvent.identity?_apply, SessionEvent.life_concat, ih]
    by_cases hs : e.session = s
    · subst hs
      cases e <;>
        simp [SessionEvent.owner?, SessionEvent.session, SessionEvent.forgets, lastOwner?]
    · have hother : e.owner? s = none := by
        cases e <;> simp_all [SessionEvent.owner?, SessionEvent.session, eq_comm]
      rw [if_neg hs, hother]
      rfl

/-- The value of a name is the one kept last. -/
theorem kept?_after (s : SessionId) (key : QualifiedName) (history : List SessionEvent) :
    (after history empty).kept? s key = lastKept? key (life s history) := by
  induction history using List.reverseRecOn with
  | nil => rfl
  | append_singleton history e ih =>
    rw [after_concat, SessionEvent.kept?_apply, SessionEvent.life_concat, ih]
    by_cases hs : e.session = s
    · subst hs
      cases e with
      | kept s key' v =>
        by_cases hkey : key' = key
        · simp [SessionEvent.kept?, SessionEvent.session, SessionEvent.forgets, lastKept?, hkey]
        · simp [SessionEvent.kept?, SessionEvent.session, SessionEvent.forgets, lastKept?, hkey,
            Ne.symm hkey]
      | _ =>
        simp [SessionEvent.kept?, SessionEvent.session, SessionEvent.forgets, lastKept?]
    · have hother : e.kept? s key = none := by
        cases e <;> simp_all [SessionEvent.kept?, SessionEvent.session, eq_comm]
      rw [if_neg hs, hother]
      rfl

/-- What is looked up are the values kept and the facts about the owner. -/
theorem lookup?_after (s : SessionId) (key : QualifiedName) (history : List SessionEvent) :
    ((after history empty).attributes s).lookup? key = attribute? key (life s history) := by
  have hkept := kept?_after s key history
  have howner := identity?_after_history s history
  unfold kept? at hkept
  unfold identity? at howner
  rw [SessionAttributes.lookup?_eq, hkept, howner]
  rfl

/-- The store answers for a session as its history says. -/
structure Tells (st : SessionStore) (s : SessionId) (life : List SessionEvent) : Prop where
  /-- It is known if anything has happened to it. -/
  contains : st.contains s = !life.isEmpty
  /-- Its owner is the one recorded last. -/
  identity : st.identity? s = lastOwner? life
  /-- An attribute is found, or its name is given back. -/
  get : ∀ key, st.get s key = match attribute? key life with
    | some v => .ok v
    | none => .error (.attributeNotFound key.text)
  /-- A truth value is one that is found, and any other value a mismatch. -/
  getBool : ∀ key, st.getBool s key = match attribute? key life with
    | some (.bool b) => .ok b
    | some v => .error (.typeMismatch "Bool" v.typeName)
    | none => .error (.attributeNotFound key.text)
  /-- So are texts. -/
  getString : ∀ key, st.getString s key = match attribute? key life with
    | some (.string t) => .ok t
    | some v => .error (.typeMismatch "String" v.typeName)
    | none => .error (.attributeNotFound key.text)
  /-- So are numbers. -/
  getUInt32 : ∀ key, st.getUInt32 s key = match attribute? key life with
    | some (.uint32 n) => .ok n
    | some v => .error (.typeMismatch "UInt32" v.typeName)
    | none => .error (.attributeNotFound key.text)

private theorem tells_after (history : List SessionEvent) (s : SessionId) :
    (after history empty).Tells s (life s history) := by
  have hget : ∀ key, (after history empty).get s key =
      match attribute? key (life s history) with
      | some v => .ok v
      | none => .error (.attributeNotFound key.text) := by
    intro key
    have hlookup := lookup?_after s key history
    unfold get
    cases h : attribute? key (life s history) <;> simp [hlookup, h]
  refine ⟨contains_after s history, identity?_after_history s history, hget, ?_, ?_, ?_⟩
  · intro key
    rw [getBool, hget]
    cases attribute? key (life s history) with
    | none => rfl
    | some v => cases v <;> rfl
  · intro key
    rw [getString, hget]
    cases attribute? key (life s history) with
    | none => rfl
    | some v => cases v <;> rfl
  · intro key
    rw [getUInt32, hget]
    cases attribute? key (life s history) with
    | none => rfl
    | some v => cases v <;> rfl

/-- A store has as many sessions as it knows. -/
theorem exists_known (st : SessionStore) :
    ∃ known : List SessionId, known.Nodup ∧ st.size = known.length ∧
      ∀ s, s ∈ known ↔ st.contains s = true := by
  refine ⟨st.sessions.keys, st.sessions.nodup, ?_, ?_⟩
  · exact (List.length_map _).symm
  · intro s
    exact (st.sessions.contains_iff_mem_keys s).symm

end SessionStore

/-! ### Runs -/

/-- What has happened to sessions in a run, in order. -/
def sessionHistory (trace : List (accesses β).Stretch) : List SessionEvent :=
  trace.filterMap System.Stretch.event?

/-- The store after a run is the one after its history. -/
theorem sessions_after {t : Tables β} {trace : List (accesses β).Stretch}
    {d : (accesses β).Config} (h : System.Run (.idle (accesses β) t) trace d) :
    d.state.sessions = t.sessions.after (sessionHistory trace) := by
  refine h.invariant (P := fun trace u => u.sessions = t.sessions.after (sessionHistory trace))
    rfl fun fore st rest _ hst hfore => ?_
  rw [hst.sessions, hfore, sessionHistory, sessionHistory, List.filterMap_append]
  cases hevent : st.event? with
  | none => simp [hevent, SessionEvent.applyAny]
  | some e => simp [hevent, SessionEvent.applyAny, SessionStore.after_concat]

/-- Of a history only what is about the session makes its life. -/
theorem SessionEvent.life_congr {s : SessionId} {history history' : List SessionEvent}
    (h : (history'.filter fun e => e.session = s) = history.filter fun e => e.session = s) :
    life s history' = life s history := by
  rw [life, life, h]

/-- The session store refines its history. After any run that began with an empty store, it answers
for each session as the life of that session says, and knows as many sessions as have one. Two runs
in which the same has happened to a session give the same answers for it, whatever has happened to
others. A write of an attribute of the anonymous session leaves no trace but a line in the journal.
-/
theorem attributes_of_run {t : Tables β} {trace : List (accesses β).Stretch}
    {d : (accesses β).Config} (h : System.Run (.idle (accesses β) t) trace d)
    (ht : t.sessions = .empty) :
    (∀ s, d.state.sessions.Tells s (SessionEvent.life s (sessionHistory trace))) ∧
      (∃ known : List SessionId, known.Nodup ∧ d.state.sessions.size = known.length ∧
        ∀ s, s ∈ known ↔ SessionEvent.life s (sessionHistory trace) ≠ []) ∧
      (∀ {t' : Tables β} {trace' : List (accesses β).Stretch} {d' : (accesses β).Config},
        System.Run (.idle (accesses β) t') trace' d' → t'.sessions = .empty → ∀ s,
        ((sessionHistory trace').filter fun e => e.session = s) =
          ((sessionHistory trace).filter fun e => e.session = s) →
        d'.state.sessions.contains s = d.state.sessions.contains s ∧
          d'.state.sessions.identity? s = d.state.sessions.identity? s ∧
          ∀ key, d'.state.sessions.get s key = d.state.sessions.get s key ∧
            d'.state.sessions.getBool s key = d.state.sessions.getBool s key ∧
            d'.state.sessions.getString s key = d.state.sessions.getString s key ∧
            d'.state.sessions.getUInt32 s key = d.state.sessions.getUInt32 s key) ∧
      ∀ key v, SessionStore.setNoted (S := accessCalls β) none key v d.state =
        .done () (d.state.log .debug "Ignoring attribute write on the anonymous session") := by
  have htells : ∀ {t : Tables β} {trace : List (accesses β).Stretch} {d : (accesses β).Config},
      System.Run (.idle (accesses β) t) trace d → t.sessions = .empty → ∀ s,
      d.state.sessions.Tells s (SessionEvent.life s (sessionHistory trace)) := by
    intro t trace d h ht s
    rw [sessions_after h, ht]
    exact SessionStore.tells_after _ s
  refine ⟨htells h ht, ?_, ?_, fun _ _ => rfl⟩
  · obtain ⟨known, hnodup, hsize, hknown⟩ := d.state.sessions.exists_known
    refine ⟨known, hnodup, hsize, fun s => ?_⟩
    rw [hknown, (htells h ht s).contains]
    simp
  · intro t' trace' d' h' ht' s hsame
    have hd := htells h ht s
    have hd' := htells h' ht' s
    rw [SessionEvent.life_congr hsame] at hd'
    refine ⟨hd'.contains.trans hd.contains.symm, hd'.identity.trans hd.identity.symm, fun key => ?_⟩
    exact ⟨(hd'.get key).trans (hd.get key).symm, (hd'.getBool key).trans (hd.getBool key).symm,
      (hd'.getString key).trans (hd.getString key).symm,
      (hd'.getUInt32 key).trans (hd.getUInt32 key).symm⟩

/-- An administrator owns the session of a visitor, and a text is kept for it under the name of that
fact. The text is found there, and the fact no more; another fact is still found. Once the session
is closed there is neither, and the session is not known. -/
theorem attributes_shift :
    ∃ trace last d d', System.Run (.idle (accesses Unit) newTables) trace d ∧
      d.state.sessions.getString visitor (.standard "isAdmin") = .ok "off duty" ∧
      d.state.sessions.getBool visitor (.standard "isAdmin") =
        .error (.typeMismatch "Bool" "String") ∧
      d.state.sessions.getString visitor (.standard "userName") = .ok "admin" ∧
      System.Run (.idle (accesses Unit) newTables) (trace ++ last) d' ∧
      d'.state.sessions.contains visitor = false ∧
      d'.state.sessions.get visitor (.standard "userName") =
        .error (.attributeNotFound (QualifiedName.standard "userName").text) := by
  let owner := (IdentityToken.userName "admin" "").identity
  obtain ⟨trace, d, hrun, hlife⟩ : ∃ trace d,
      System.Run (.idle (accesses Unit) newTables) trace d ∧
      SessionEvent.life visitor (sessionHistory trace) =
        [.kept visitor (.standard "isAdmin") (.string "off duty"), .named visitor owner] :=
    ⟨_, _, .cons (.request (Y := accesses Unit) newTables 0 []
      (AccessRequest.recordIdentity visitor owner)) (.cons (.request _ 1 []
        (AccessRequest.setAttribute (some visitor) (.standard "isAdmin") (.string "off duty")))
        (.nil _)), rfl⟩
  obtain ⟨s, n, waiting⟩ := d
  obtain ⟨last, d', hlast, hclosed⟩ : ∃ last d', System.Run ⟨s, n, waiting⟩ last d' ∧
      sessionHistory (trace ++ last) = sessionHistory trace ++ [.forgotten visitor] := by
    refine ⟨_, _, .cons (.request s n waiting (AccessRequest.forget visitor)) (.nil _), ?_⟩
    rw [sessionHistory, List.filterMap_append]
    rfl
  have hlife' : SessionEvent.life visitor (sessionHistory (trace ++ last)) = [] := by
    rw [hclosed, SessionEvent.life_concat]
    simp [SessionEvent.session, SessionEvent.forgets]
  have htells := (attributes_of_run hrun rfl).1 visitor
  rw [hlife] at htells
  have htells' := (attributes_of_run (hrun.append hlast) rfl).1 visitor
  rw [hlife'] at htells'
  exact ⟨trace, last, _, d', hrun, htells.getString _, htells.getBool _, htells.getString _,
    hrun.append hlast, htells'.contains, htells'.get _⟩

end AlarmServer
