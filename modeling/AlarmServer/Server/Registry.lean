import AlarmServer.Space.Basic

/-!
# Callback registry

For each condition the registry keeps at most one callback per two-state variable. A new
registration replaces the old one. The record of a condition is made by its first registration.

A callback is a value of any type `β`, and it is assumed to own no condition handle. So a callback
that is replaced, or that goes with its record, deletes nothing: forgetting one is a change of the
registry alone. What is proved of registrations, of the owners of nodes and of the calls that an
alarm makes rests on this.

Spec: `SPEC_FULL.md` §3, §4.2 and §11.6.
-/

namespace AlarmServer

/-- A registered callback. Spec §3, Callback Slot. -/
structure Slot (β : Type) where
  /-- The node it was registered for. -/
  source : NodeId
  /-- Is the branch of the condition to be removed? -/
  removeBranch : Bool
  /-- The callback, which owns no handle. -/
  callback : β

namespace Slot

/-- The diagnostic text, which leaves out the callback. -/
def debugText {β : Type} (s : Slot β) : String :=
  Text.record "CallbackSlot"
    [("source", s.source.debugText), ("remove_branch", toString s.removeBranch)] true

end Slot

/-- The callbacks of one condition. Spec §4.2, `ConditionCallbacks`. -/
abbrev ConditionCallbacks (β : Type) : Type := Table TransitionKind (Slot β)

namespace ConditionCallbacks

/-- The variables that have a callback, in order. -/
def kinds {β : Type} (c : ConditionCallbacks β) : List TransitionKind :=
  TransitionKind.all.filter fun k => c.contains k

end ConditionCallbacks

/-- The callbacks of all conditions. Spec §3, Transition Callback Registry. -/
structure Registry (β : Type) where
  /-- The records of the conditions that have one. -/
  records : Table NodeId (ConditionCallbacks β)

namespace Registry

variable {β : Type}

/-- No callback is registered. -/
def empty : Registry β := ⟨.empty⟩

/-- Number of records. -/
def size (r : Registry β) : Nat := r.records.size

/-- Has the condition a record? -/
def contains (r : Registry β) (condition : NodeId) : Bool := r.records.contains condition

/-- The record of a condition. Spec §4.2, `callbacks`. -/
def callbacks? (r : Registry β) (condition : NodeId) : Option (ConditionCallbacks β) :=
  r.records.find? condition

/-- The callback of a condition's variable. Spec §4.2, `slot`. -/
def slot? (r : Registry β) (condition : NodeId) (kind : TransitionKind) : Option (Slot β) :=
  (r.callbacks? condition).bind fun c => c.find? kind

/-- Register a callback. Spec §4.2, `store`. -/
def store (r : Registry β) (condition : NodeId) (kind : TransitionKind) (slot : Slot β) :
    Registry β :=
  ⟨r.records.insert condition (((r.callbacks? condition).getD .empty).insert kind slot)⟩

/-- Remove the record of a condition. Spec §11.6, `remove`. -/
def remove (r : Registry β) (condition : NodeId) : Registry β := ⟨r.records.erase condition⟩

/-- A registration sets its own slot and no other. -/
theorem slot?_store (r : Registry β) (c c' : NodeId) (k k' : TransitionKind) (s : Slot β) :
    (r.store c k s).slot? c' k' = if c' = c ∧ k' = k then some s else r.slot? c' k' := by
  simp only [slot?, callbacks?, store, Table.find?_insert]
  by_cases hc : c' = c
  · subst hc
    by_cases hk : k' = k
    · simp [hk]
    · cases r.records.find? c' <;> simp [hk, Table.find?_insert]
  · simp [hc]

/-- A removed record leaves no slot. -/
theorem slot?_remove (r : Registry β) (c c' : NodeId) (k : TransitionKind) :
    (r.remove c).slot? c' k = if c' = c then none else r.slot? c' k := by
  simp only [slot?, callbacks?, remove, Table.find?_erase]
  split <;> rfl

end Registry

end AlarmServer
