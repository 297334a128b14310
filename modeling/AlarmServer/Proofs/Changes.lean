import AlarmServer.Proofs.Outcomes
import Mathlib.Logic.Relation

/-!
# Changes of the address space

All that an operation can do to an address space is a sequence of changes of thirteen kinds. What a
request of a server may do is said by the changes that it may make; what holds of each change by
itself is derived from that for requests and for runs.
-/

namespace AlarmServer

/-- One change of an address space. -/
inductive Change (β : Type) where
  /-- Add an object. -/
  | addObject (parent : NodeId) (name : QualifiedName)
  /-- Add a variable. -/
  | addVariable (parent : NodeId) (name : QualifiedName) (value : Variant) (level : AccessLevel)
  /-- Allow or forbid events to leave from a node. -/
  | setNotifier (id : NodeId) (notifier : Bool)
  /-- Add a reference. -/
  | addReference (source target type : NodeId)
  /-- Store a value in a variable. -/
  | writeValue (id : NodeId) (value : Variant)
  /-- Watch a node. -/
  | watch (id : NodeId) (callback : β)
  /-- Delete a node. -/
  | deleteNode (id : NodeId) (withReferences : Bool)
  /-- Create a condition. -/
  | createCondition (now : Instant) (request : ConditionRequest)
  /-- Write a field of a condition. -/
  | writeField (id : NodeId) (field : QualifiedName) (value : Variant)
  /-- Put a two-state variable into a state. -/
  | commit (id : NodeId) (kind : TransitionKind) (value : Bool) (now : Instant)
  /-- Say when a two-state variable entered its state. -/
  | setTransitionTime (id : NodeId) (kind : TransitionKind) (time : Instant)
  /-- Install a hook. -/
  | installHook (hook : Hook β)
  /-- Publish a condition. -/
  | publish (id source : NodeId) (eventId : EventId) (now : Instant)

namespace Change

variable {β : Type}

/-- The address space after a change. -/
def apply : Change β → AddressSpace β → Except StatusCode (AddressSpace β)
  | addObject parent name, sp => Prod.snd <$> sp.addObject parent name
  | addVariable parent name value level, sp => Prod.snd <$> sp.addVariable parent name value level
  | setNotifier id notifier, sp => sp.setNotifier id notifier
  | addReference source target type, sp => sp.addReference source target type
  | writeValue id value, sp => sp.writeValue id value
  | watch id callback, sp => sp.watch id callback
  | deleteNode id refs, sp => sp.deleteNode id refs
  | createCondition now r, sp => Prod.snd <$> sp.createCondition now r
  | writeField id field value, sp => sp.writeField id field value
  | commit id kind value now, sp => sp.commit id kind value now
  | setTransitionTime id kind time, sp => sp.setTransitionTime id kind time
  | installHook h, sp => sp.installHook h
  | publish id source eventId now, sp => sp.publish id source eventId now

end Change

namespace AddressSpace

variable {β : Type} {may may' : Change β → Prop} {sp sp' : AddressSpace β}

/-- One address space becomes another by changes of the given kinds. -/
def Changed (may : Change β → Prop) : AddressSpace β → AddressSpace β → Prop :=
  Relation.ReflTransGen fun sp sp' => ∃ ch, may ch ∧ ch.apply sp = .ok sp'

/-- No change is needed to stay the same. -/
theorem Changed.refl (sp : AddressSpace β) : Changed may sp sp := Relation.ReflTransGen.refl

/-- Changes may follow on changes. -/
theorem Changed.trans (sp sp' sp'' : AddressSpace β) (h : Changed may sp sp')
    (h' : Changed may sp' sp'') : Changed may sp sp'' :=
  Relation.ReflTransGen.trans h h'

/-- One change that may be made. -/
theorem Changed.single (ch : Change β) (hm : may ch) (h : ch.apply sp = .ok sp') :
    Changed may sp sp' :=
  Relation.ReflTransGen.single ⟨ch, hm, h⟩

/-- What few changes lead to more changes lead to. -/
theorem Changed.imp (hm : ∀ ch, may ch → may' ch) (h : Changed may sp sp') :
    Changed may' sp sp' := by
  refine Relation.ReflTransGen.mono ?_ sp sp' h
  rintro a b ⟨ch, hc, happ⟩
  exact ⟨ch, hm ch hc, happ⟩

/-- A reflexive and transitive relation that the changes keep. -/
theorem Changed.keeps {Q : AddressSpace β → AddressSpace β → Prop} (refl : ∀ sp, Q sp sp)
    (trans : ∀ a b c, Q a b → Q b c → Q a c)
    (hQ : ∀ ch sp sp', may ch → ch.apply sp = .ok sp' → Q sp sp') (h : Changed may sp sp') :
    Q sp sp' := by
  induction h with
  | refl => exact refl _
  | @tail b c _ hc ih =>
    obtain ⟨ch, hm, ha⟩ := hc
    exact trans _ b c ih (hQ ch b c hm ha)

/-- A part that none of the changes changes is as it was. -/
theorem Changed.same {γ : Type} (part : AddressSpace β → γ)
    (hpart : ∀ ch sp sp', may ch → ch.apply sp = .ok sp' → part sp' = part sp)
    (h : Changed may sp sp') : part sp' = part sp :=
  h.keeps (Q := fun sp sp' => part sp' = part sp) (fun _ => rfl)
    (fun _ _ _ hab hbc => hbc.trans hab) hpart

/-- What each of the changes preserves holds after them. -/
theorem Changed.preserves {P : AddressSpace β → Prop}
    (hP : ∀ ch sp sp', may ch → ch.apply sp = .ok sp' → P sp → P sp') (h : Changed may sp sp')
    (hp : P sp) : P sp' :=
  h.keeps (Q := fun sp sp' => P sp → P sp') (fun _ h => h) (fun _ _ _ hab hbc h => hbc (hab h)) hP
    hp

/-- What comes to hold comes to hold by one of the changes. -/
theorem Changed.exists_change {P : AddressSpace β → Prop} (h : Changed may sp sp') (hb : ¬ P sp)
    (ha : P sp') : ∃ ch a b, may ch ∧ Changed may sp a ∧ ch.apply a = .ok b ∧ ¬ P a ∧ P b := by
  induction h with
  | refl => exact absurd ha hb
  | @tail b c hr hc ih =>
    by_cases hp : P b
    · exact ih hp
    · obtain ⟨ch, hm, happ⟩ := hc
      exact ⟨ch, b, c, hm, hr, happ, hp, ha⟩

/-- A source of events is first placed, then made a notifier, and then referred to. -/
theorem changed_addEventSource (hopen : ∀ id, may (.setNotifier id true))
    (hrefer : ∀ id, may (.addReference .serverObject id .hasNotifier)) (name : QualifiedName)
    (sp : AddressSpace β) :
    ∃ mid, (mid = sp ∨ (Change.addObject .objectsFolder name).apply sp = .ok mid) ∧
      Changed may mid (sp.addEventSource name).2 := by
  rw [addEventSource_steps]
  cases h₁ : sp.addObject .objectsFolder name with
  | error e => exact ⟨sp, .inl rfl, .refl sp⟩
  | ok p =>
    obtain ⟨id, mid⟩ := p
    refine ⟨mid, .inr (except_map_eq_ok_iff.2 ⟨(id, mid), h₁, rfl⟩), ?_⟩
    cases h₂ : mid.setNotifier id true with
    | error e => simpa only [h₂] using Changed.refl mid
    | ok sp₂ =>
      have c₂ := Changed.single _ (hopen id) h₂
      cases h₃ : sp₂.addReference .serverObject id .hasNotifier with
      | error e => simpa only [h₂, h₃] using c₂
      | ok sp₃ => simpa only [h₂, h₃] using c₂.trans _ _ _ (.single _ (hrefer id) h₃)

end AddressSpace

end AlarmServer
