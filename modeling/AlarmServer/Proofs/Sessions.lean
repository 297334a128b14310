import AlarmServer.Access.Control

/-!
# Events of sessions

The session store changes by four kinds of events, each about one session. What the store keeps for
a session, its owner and the values under names, is said by each event alone: it is set, or cleared,
or left as it was.
-/

namespace AlarmServer

namespace SessionStore

/-- The value kept for a session under a name. Facts of its identity are not among the values. -/
def kept? (st : SessionStore) (s : SessionId) (key : QualifiedName) : Option AttributeValue :=
  (st.attributes s).values.find? key

/-- A change for one session leaves what is kept for the others. -/
theorem attributes_update (st : SessionStore) (s s' : SessionId)
    (f : SessionAttributes → SessionAttributes) :
    (st.update s f).attributes s' = if s' = s then f (st.attributes s) else st.attributes s' := by
  unfold update attributes
  rw [Table.find?_insert]
  split <;> rfl

/-- To forget one session leaves what is kept for the others. -/
theorem attributes_close (st : SessionStore) (s s' : SessionId) :
    (st.close s).attributes s' = if s' = s then .empty else st.attributes s' := by
  unfold close attributes
  rw [Table.find?_erase]
  split <;> rfl

end SessionStore

/-- What may happen to a session. -/
inductive SessionEvent where
  /-- It becomes known. -/
  | opened (session : SessionId)
  /-- It is forgotten. -/
  | forgotten (session : SessionId)
  /-- Its owner is recorded. -/
  | named (session : SessionId) (identity : SessionIdentity)
  /-- A value is kept. -/
  | kept (session : SessionId) (key : QualifiedName) (value : AttributeValue)

namespace SessionEvent

/-- The session that the event is about. -/
def session : SessionEvent → SessionId
  | opened s => s
  | forgotten s => s
  | named s _ => s
  | kept s _ _ => s

/-- The store after the event. -/
def apply : SessionEvent → SessionStore → SessionStore
  | opened s, st => st.open s
  | forgotten s, st => st.close s
  | named s i, st => st.recordIdentity s i
  | kept s key v, st => st.set s key v

/-- What is kept for its session after the event. -/
def alter : SessionEvent → SessionAttributes → SessionAttributes
  | opened _, a => a
  | forgotten _, _ => .empty
  | named _ i, a => { a with identity := some i }
  | kept _ key v, a => { a with values := a.values.insert key v }

/-- An event alters what is kept for its session, and nothing else. -/
theorem attributes_apply (e : SessionEvent) (st : SessionStore) (s : SessionId) :
    (e.apply st).attributes s =
      if s = e.session then e.alter (st.attributes e.session) else st.attributes s := by
  cases e with
  | opened s' => exact st.attributes_update s' s _
  | forgotten s' => exact st.attributes_close s' s
  | named s' i => exact st.attributes_update s' s _
  | kept s' key v => exact st.attributes_update s' s _

/-- Who owns a session after the event, if the event decides that. -/
def owner? (s : SessionId) : SessionEvent → Option (Option SessionIdentity)
  | opened _ => none
  | forgotten s' => if s = s' then some none else none
  | named s' i => if s = s' then some (some i) else none
  | kept .. => none

/-- What is kept for a session under a name after the event, if the event decides that. -/
def kept? (s : SessionId) (key : QualifiedName) : SessionEvent → Option (Option AttributeValue)
  | opened _ => none
  | forgotten s' => if s = s' then some none else none
  | named .. => none
  | kept s' key' v => if s = s' ∧ key = key' then some (some v) else none

/-- The event decides who owns a session, or its owner stays. -/
theorem identity?_apply (e : SessionEvent) (st : SessionStore) (s : SessionId) :
    (e.apply st).identity? s = (e.owner? s).getD (st.identity? s) := by
  unfold SessionStore.identity?
  rw [attributes_apply]
  by_cases hs : s = e.session
  · rw [if_pos hs, hs]
    cases e <;> simp [alter, owner?, session, SessionAttributes.empty]
  · rw [if_neg hs]
    cases e <;> simp_all [owner?, session]

/-- The event decides what is kept for a session under a name, or that stays. -/
theorem kept?_apply (e : SessionEvent) (st : SessionStore) (s : SessionId) (key : QualifiedName) :
    (e.apply st).kept? s key = (e.kept? s key).getD (st.kept? s key) := by
  unfold SessionStore.kept?
  rw [attributes_apply]
  by_cases hs : s = e.session
  · rw [if_pos hs, hs]
    cases e with
    | opened s' => rfl
    | forgotten s' => simp [alter, kept?, session, SessionAttributes.empty]
    | named s' i => rfl
    | kept s' key' v =>
      simp only [alter, kept?, session, Table.find?_insert, true_and]
      split <;> rfl
  · rw [if_neg hs]
    cases e <;> simp_all [kept?, session]

end SessionEvent

/-! ### The right of administrators -/

/-- A value comes first, then a fact of the identity. -/
theorem SessionAttributes.lookup?_eq (a : SessionAttributes) (key : QualifiedName) :
    a.lookup? key = (a.values.find? key).or
      (if key.ns = 0 then a.identity.bind fun i => i.attribute? key.name else none) := by
  unfold lookup?
  cases a.values.find? key <;> rfl

private theorem SessionStore.getBool_eq_ok_iff {st : SessionStore} {s : SessionId}
    {key : QualifiedName} {b : Bool} :
    st.getBool s key = .ok b ↔ (st.attributes s).lookup? key = some (.bool b) := by
  unfold getBool get
  cases (st.attributes s).lookup? key with
  | none => simp [bind, Except.bind]
  | some v => cases v <;> simp [bind, Except.bind, pure, Except.pure, throw, throwThe,
      MonadExceptOf.throw]

namespace Access

private theorem isAdmin_iff_getBool {st : SessionStore} {session : SessionId} :
    isAdmin st session = true ↔ st.getBool session (.standard "isAdmin") = .ok true := by
  unfold isAdmin
  cases st.getBool session (.standard "isAdmin") <;> simp

/-- A value kept under the name of the fact decides, if there is one, and otherwise the fact. -/
theorem isAdmin_iff (st : SessionStore) (session : SessionId) :
    isAdmin st session = true ↔
      match st.kept? session (.standard "isAdmin") with
      | some v => v = .bool true
      | none => st.isAdmin (some session) = true := by
  rw [isAdmin_iff_getBool, SessionStore.getBool_eq_ok_iff, SessionAttributes.lookup?_eq]
  show (st.kept? session _).or _ = _ ↔ _
  cases st.kept? session (.standard "isAdmin") with
  | some v => exact Option.some_inj
  | none =>
    show ((st.identity? session).bind fun i => some (AttributeValue.bool i.isAdmin)) = _ ↔
      (st.identity? session).any SessionIdentity.isAdmin = true
    cases st.identity? session <;> simp

end Access

end AlarmServer
