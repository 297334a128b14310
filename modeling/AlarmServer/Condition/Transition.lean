/-!
# Two-state variables

A condition has up to four variables with two states each. A transition kind names one of them, seen
as becoming true.

Spec: `SPEC_FULL.md` §3.
-/

namespace AlarmServer

/-- A two-state variable becoming true. Spec §3, Two-State Transition Kind. -/
inductive TransitionKind where
  /-- The condition becomes enabled. -/
  | enabled
  /-- The condition becomes acknowledged. -/
  | acked
  /-- The condition becomes confirmed. -/
  | confirmed
  /-- The condition becomes active. -/
  | active
  deriving DecidableEq

namespace TransitionKind

/-- All kinds, in order. -/
def all : List TransitionKind := [enabled, acked, confirmed, active]

/-- Position among all kinds. -/
def index : TransitionKind → Nat
  | enabled => 0
  | acked => 1
  | confirmed => 2
  | active => 3

/-- Name of the kind. -/
def name : TransitionKind → String
  | enabled => "EnteringEnabled"
  | acked => "EnteringAcked"
  | confirmed => "EnteringConfirmed"
  | active => "EnteringActive"

/-- Name of the variable. -/
def variableName : TransitionKind → String
  | enabled => "EnabledState"
  | acked => "AckedState"
  | confirmed => "ConfirmedState"
  | active => "ActiveState"

instance : ToString TransitionKind := ⟨TransitionKind.variableName⟩

/-- The kind whose variable has that name. Spec §3, `from_variable`. -/
def ofVariable? (s : String) : Option TransitionKind := all.find? fun k => k.variableName = s

/-- What the variable shows in one of its states. Spec §11.3, `state_text`. -/
def stateText : TransitionKind → Bool → String
  | enabled, true => "Enabled"
  | enabled, false => "Disabled"
  | acked, true => "Acknowledged"
  | acked, false => "Unacknowledged"
  | confirmed, true => "Confirmed"
  | confirmed, false => "Unconfirmed"
  | active, true => "Active"
  | active, false => "Inactive"

/-- The list of all kinds is complete. -/
theorem mem_all (k : TransitionKind) : k ∈ all := by
  cases k <;> decide

/-- A kind is read back from the name of its variable. -/
theorem ofVariable?_variableName (k : TransitionKind) : ofVariable? k.variableName = some k := by
  cases k <;> rfl

/-- No two kinds have variables of one name. -/
theorem variableName_inj {k k' : TransitionKind} (h : k.variableName = k'.variableName) :
    k = k' := by
  have hk := ofVariable?_variableName k
  rw [h, ofVariable?_variableName k'] at hk
  exact (Option.some.inj hk).symm

/-- A name is read as the kind whose variable has that name, and as no other. -/
theorem ofVariable?_eq_some_iff (s : String) (k : TransitionKind) :
    ofVariable? s = some k ↔ k.variableName = s := by
  constructor
  · intro h
    simpa using List.find?_some h
  · rintro rfl
    exact ofVariable?_variableName k

end TransitionKind

end AlarmServer
