import AlarmServer.Proofs.Schemas
import AlarmServer.Proofs.Writes

/-!
# Cells of conditions

The fields of a condition and the properties of its two-state variables are cells: what is written
to one is read from it, and what is read of all others stays as it was. Two things go along with a
write. A new severity moves the one before to the last severity, and a variable that changes its
state takes its time and its shown text along. Reads and writes look a name up in different orders,
and still find no match at the same names.
-/

namespace AlarmServer

open Server (Puts)

variable {β : Type}

namespace Variant

/-- A value is a truth value or not of that type. -/
theorem eq_boolean_or (v : Variant) :
    (∃ b, v = .boolean b) ∨ v.asBool? = none ∧ v.dataType ≠ .boolean := by
  cases v <;> simp [asBool?, dataType]

/-- A value is an instant or not of that type. -/
theorem eq_dateTime_or (v : Variant) :
    (∃ t, v = .dateTime t) ∨ v.asInstant? = none ∧ v.dataType ≠ .dateTime := by
  cases v <;> simp [asInstant?, dataType]

end Variant

/-! ### Readings -/

/-- What may be read of a node. -/
inductive Reading where
  /-- A field of a condition, or what a two-state variable shows. -/
  | field (name : QualifiedName)
  /-- A property of a two-state variable. -/
  | property (variableName property : QualifiedName)
  /-- The value of a variable. -/
  | value
  /-- What clients may do with a variable. -/
  | level
  /-- The name that the node shows. -/
  | displayName
  /-- The name that the node is addressed by. -/
  | browseName
  /-- The references of the node. -/
  | references

namespace Reading

/-- What a reading gives. -/
@[reducible] def Reply : Reading → Type
  | field _ => Variant
  | property .. => Variant
  | value => Variant
  | level => AccessLevel
  | displayName => LocalizedText
  | browseName => QualifiedName
  | references => List Reference

/-- The readings of a field and, if a write of it changes another one, of that. -/
def OfField (f : Field) : Reading → Prop
  | field name => name.name = f.name ∨ f = .severity ∧ name.name = Field.lastSeverity.name
  | _ => False

/-- The readings of a two-state variable. -/
def OfVariable (k : TransitionKind) : Reading → Prop
  | field name => name.name = k.variableName
  | property v p => v.name = k.variableName ∧ (p.name = "Id" ∨ p.name = "TransitionTime")
  | _ => False

end Reading

/-- Read something of a node. -/
def AddressSpace.reading (sp : AddressSpace β) (i : NodeId) :
    (r : Reading) → Except StatusCode r.Reply
  | .field name => sp.readField i name
  | .property variableName property => sp.readProperty i variableName property
  | .value => sp.readValue i
  | .level => sp.accessLevel i
  | .displayName => sp.displayName i
  | .browseName => sp.browseName i
  | .references => .ok (sp.references i)

/-! ### Declared names -/

namespace ConditionType

/-- No variable has the name of a field. -/
theorem field?_variableName (t : ConditionType) (k : TransitionKind) :
    t.field? k.variableName = none := by
  cases t <;> cases k <;> rfl

/-- The name of a variable is declared by the types that have it. -/
theorem declares_variableName_iff (t : ConditionType) (k : TransitionKind) :
    t.Declares k.variableName ↔ k ∈ t.kinds := by
  constructor
  · rintro (⟨f, -, hname⟩ | ⟨k', hk', hname⟩)
    · have hvariable := ConditionState.ofVariable?_name f
      rw [hname, k.ofVariable?_variableName] at hvariable
      cases hvariable
    · exact TransitionKind.variableName_inj hname ▸ hk'
  · intro hk
    exact .inr ⟨k, hk, rfl⟩

/-- Any other name is declared if it is that of a field. -/
theorem declares_iff_of_no_variable {t : ConditionType} {name : String}
    (h : TransitionKind.ofVariable? name = none) :
    t.Declares name ↔ (t.field? name).isSome = true := by
  constructor
  · rintro (⟨f, hf, rfl⟩ | ⟨k, -, rfl⟩)
    · rw [field?_name, if_pos hf]
      rfl
    · rw [k.ofVariable?_variableName] at h
      cases h
  · intro hsome
    obtain ⟨f, hf⟩ := Option.isSome_iff_exists.1 hsome
    exact .inl ⟨f, name_of_field? hf⟩

end ConditionType

/-! ### Readings of a condition -/

namespace ConditionState

/-- The two states of a condition differ in nothing that the reading could tell. -/
def AgreesOn (c d : ConditionState) : Reading → Prop
  | .field name => d.read name.name = c.read name.name
  | .property variableName property =>
    ∀ k, TransitionKind.ofVariable? variableName.name = some k →
      d.readProperty k property.name = c.readProperty k property.name
  | _ => True

variable {c : ConditionState}

/-- A write of a field shows in readings of it, and of the one that goes with it, only. -/
theorem agreesOn_store (c : ConditionState) {f : Field} (v : Variant) {r : Reading}
    (hr : ¬ r.OfField f) : c.AgreesOn (c.store f v) r := by
  cases r with
  | field name =>
    obtain ⟨hne, hlast⟩ := not_or.1 hr
    show (c.store f v).read name.name = c.read name.name
    unfold read twoState
    rw [type_store, twoStates_store]
    cases TransitionKind.ofVariable? name.name with
    | some k => rfl
    | none =>
      cases hg : c.type.field? name.name with
      | none => rfl
      | some g =>
        have hname : g.name = name.name := (ConditionType.name_of_field? hg).2
        have hgf : g ≠ f := fun h => hne (h ▸ hname.symm)
        have hglast : ¬ (f = .severity ∧ g = .lastSeverity) :=
          fun h => hlast ⟨h.1, h.2 ▸ hname.symm⟩
        simp only [field, find?_store, if_neg hgf, if_neg hglast]
  | property variableName property =>
    intro k _
    simp only [readProperty, twoState, twoStates_store]
  | _ => trivial

/-- A change of a two-state variable shows in readings of it only. -/
theorem agreesOn_changeTwoState (c : ConditionState) {k : TransitionKind} (g : TwoState → TwoState)
    {r : Reading} (hr : ¬ r.OfVariable k) : c.AgreesOn (c.changeTwoState k g) r := by
  cases r with
  | field name =>
    show (c.changeTwoState k g).read name.name = c.read name.name
    unfold read twoState
    cases hk' : TransitionKind.ofVariable? name.name with
    | none => rfl
    | some k' =>
      have hne : k' ≠ k := by
        rintro rfl
        have hname := (TransitionKind.ofVariable?_eq_some_iff _ _).1 hk'
        exact hr hname.symm
      simp only [changeTwoState, Table.find?_modify, if_neg hne]
  | property variableName property =>
    intro k' hk'
    by_cases hkk : k' = k
    · subst hkk
      have hname := ((TransitionKind.ofVariable?_eq_some_iff _ _).1 hk').symm
      obtain ⟨hid, htime⟩ := not_or.1 fun h => hr ⟨hname, h⟩
      simp only [readProperty, twoState, changeTwoState, Table.find?_modify, if_neg hid,
        if_neg htime]
      cases c.twoStates.find? k' <;> rfl
    · simp only [readProperty, twoState, changeTwoState, Table.find?_modify, if_neg hkk]
  | _ => trivial

/-- A read finds no match where the type declares nothing. -/
theorem WellTyped.read_eq_noMatch_iff (h : c.WellTyped) (name : String) :
    c.read name = .error .badNoMatch ↔ ¬ c.type.Declares name := by
  rw [← h.read_iff name]
  unfold read twoState
  cases TransitionKind.ofVariable? name with
  | some k => cases hs : c.twoStates.find? k <;> simp [hs, Except.map]
  | none => cases c.type.field? name <;> simp

/-- So does a write, which asks for the declared variables first. -/
theorem target_eq_noMatch_iff (c : ConditionState) (name : String) (v : Variant) :
    c.target name v = .error .badNoMatch ↔ ¬ c.type.Declares name := by
  cases hk : TransitionKind.ofVariable? name with
  | some k =>
    obtain rfl := (TransitionKind.ofVariable?_eq_some_iff _ _).1 hk
    rw [ConditionType.declares_variableName_iff, target, hk, ConditionType.field?_variableName]
    have hne : StatusCode.badNotWritable ≠ .badNoMatch := by decide
    by_cases hmem : k ∈ c.type.kinds <;> simp [hmem, hne]
  | none =>
    rw [ConditionType.declares_iff_of_no_variable hk, target, hk]
    cases c.type.field? name with
    | none => simp
    | some f =>
      have hne : StatusCode.badTypeMismatch ≠ .badNoMatch := by decide
      by_cases hv : v.dataType = f.dataType <;> simp [hv, hne]

/-- A write goes through to a field of the type, with a value of its data type. -/
theorem target_eq_ok_iff {name : String} {v : Variant} {f : Field} :
    c.target name v = .ok f ↔ f ∈ c.type.fields ∧ f.name = name ∧ v.dataType = f.dataType := by
  refine ⟨target_eq_ok, ?_⟩
  rintro ⟨hf, rfl, hv⟩
  rw [target, ofVariable?_name, ConditionType.field?_name, if_pos hf]
  exact if_pos hv

end ConditionState

/-! ### Writes -/

namespace AddressSpace

variable {sp : AddressSpace β} {i j : NodeId} {c d : ConditionState}

/-- A condition is no variable. -/
theorem variableAt_of_condition (h : sp.condition i = .ok c) :
    sp.variableAt i = .error .badNotSupported := by
  obtain ⟨n, hn, hbody⟩ := condition_eq_ok_iff.1 h
  rw [variableAt, node_eq_ok_iff.2 hn]
  show n.asVariable = _
  rw [Node.asVariable, hbody]

/-- What is read is as it was, if the state of a condition is replaced by one that agrees there. -/
theorem reading_setCondition (hc : sp.condition i = .ok c) {r : Reading}
    (hr : j = i → c.AgreesOn d r) : (sp.setCondition i d).reading j r = sp.reading j r := by
  obtain ⟨n, hn, -⟩ := condition_eq_ok_iff.1 hc
  by_cases hj : j = i
  · subst hj
    have hd : (sp.setCondition j d).condition j = .ok d := condition_setCondition hc d
    have hn' : (sp.setCondition j d).nodes.find? j = some { n with body := .condition d } := by
      simp only [setCondition, modifyNode, Table.find?_modify, if_true, hn, Option.map_some]
    cases r with
    | field name =>
      show readField _ j name = readField sp j name
      rw [readField_of_condition hd, readField_of_condition hc]
      exact hr rfl
    | property variableName property =>
      show readProperty _ j variableName property = readProperty sp j variableName property
      rw [readProperty, readProperty, hd, hc]
      cases hk : kindNamed variableName with
      | error e => rfl
      | ok k => exact hr rfl k (kindNamed_eq_ok_iff.1 hk)
    | value =>
      simp only [reading, readValue, variableAt_of_condition hc, variableAt_of_condition hd]
    | level =>
      simp only [reading, accessLevel, variableAt_of_condition hc, variableAt_of_condition hd]
    | displayName => simp [reading, displayName, node, hn, hn']
    | browseName => simp [reading, browseName, node, hn, hn']
    | references => simp [reading, references, hn, hn']
  · have hn' : (sp.setCondition i d).nodes.find? j = sp.nodes.find? j := by
      simp only [setCondition, modifyNode, Table.find?_modify, if_neg hj]
    cases r <;>
      simp only [reading, readField, readProperty, readValue, accessLevel, displayName, browseName,
        references, condition, variableAt, node, hn']

/-- Of the names that a read is given only the texts count. -/
theorem readField_congr (sp : AddressSpace β) (i : NodeId) {name name' : QualifiedName}
    (h : name'.name = name.name) : sp.readField i name' = sp.readField i name := by
  unfold readField
  rw [h]

private theorem readProperty_congr (sp : AddressSpace β) (i : NodeId) {v v' p p' : QualifiedName}
    (hv : v'.name = v.name) (hp : p'.name = p.name) :
    sp.readProperty i v' p' = sp.readProperty i v p := by
  unfold readProperty kindNamed
  rw [hv, hp]

end AddressSpace

/-- A field of a condition was written, and nothing is read otherwise than before but what goes with
it. -/
structure AddressSpace.FieldStored (i : NodeId) (f : Field) (v : Variant)
    (sp sp' : AddressSpace β) : Prop where
  /-- The field gives the value. -/
  reads : sp'.readField i (.standard f.name) = .ok v
  /-- With a new severity, the last severity gives what the severity gave. -/
  last : f = .severity → sp'.readField i (.standard Field.lastSeverity.name) =
    sp.readField i (.standard Field.severity.name)
  /-- All else gives what it gave. -/
  others : ∀ j r, (j = i → ¬ r.OfField f) → sp'.reading j r = sp.reading j r

/-- A property of a two-state variable was written at some time, and nothing is read otherwise than
before but what goes with it. -/
structure AddressSpace.PropertyStored (i : NodeId) (k : TransitionKind) (property : String)
    (v : Variant) (now : Instant) (sp sp' : AddressSpace β) : Prop where
  /-- The property gives the value. -/
  reads : sp'.readProperty i (.standard k.variableName) (.standard property) = .ok v
  /-- The state is as it was, unless it was written. -/
  state : property ≠ "Id" →
    sp'.readProperty i (.standard k.variableName) (.standard "Id") =
      sp.readProperty i (.standard k.variableName) (.standard "Id")
  /-- The time is as it was, unless it was written or the state has changed. Then it is now. -/
  time : property ≠ "TransitionTime" →
    sp'.readProperty i (.standard k.variableName) (.standard "TransitionTime") =
      if sp.readProperty i (.standard k.variableName) (.standard "Id") = .ok v then
        sp.readProperty i (.standard k.variableName) (.standard "TransitionTime")
      else .ok (.dateTime now)
  /-- The variable shows the text of its state. -/
  shows : ∃ id, sp'.readProperty i (.standard k.variableName) (.standard "Id") = .ok (.boolean id) ∧
    sp'.readField i (.standard k.variableName) = .ok (.localizedText ⟨"en", k.stateText id⟩)
  /-- All else gives what it gave. -/
  others : ∀ j r, (j = i → ¬ r.OfVariable k) → sp'.reading j r = sp.reading j r

namespace AddressSpace

variable {sp : AddressSpace β} {i : NodeId} {c : ConditionState} {k : TransitionKind}
  {ts : TwoState}

private theorem fieldStored (hc : sp.condition i = .ok c) (hwell : c.WellTyped) {f : Field}
    (hf : f ∈ c.type.fields) (v : Variant) :
    FieldStored i f v sp (sp.setCondition i (c.store f v)) where
  reads := by
    rw [readField_of_condition (condition_setCondition hc _)]
    refine ConditionState.read_field_eq_ok_iff.2 ⟨(c.type_store f v).symm ▸ hf, ?_⟩
    rw [ConditionState.field, ConditionState.find?_store, if_pos rfl]
    rfl
  last := by
    rintro rfl
    obtain ⟨previous, hprevious⟩ :=
      Option.isSome_iff_exists.1 (hwell.essential .severity (by decide))
    have hnow : c.read Field.severity.name = .ok previous :=
      ConditionState.read_field_eq_ok_iff.2
        ⟨c.mem_fields_of_base (f := .severity) (by decide),
          by rw [ConditionState.field, hprevious]; rfl⟩
    have hthen : (c.store .severity v).read Field.lastSeverity.name = .ok previous :=
      ConditionState.read_field_eq_ok_iff.2
        ⟨ConditionState.mem_fields_of_base _ (f := .lastSeverity) (by decide),
          by simp [ConditionState.field, ConditionState.find?_store, hprevious]⟩
    rw [readField_of_condition (condition_setCondition hc _), readField_of_condition hc]
    exact hthen.trans hnow.symm
  others j r hr := reading_setCondition hc fun hj => c.agreesOn_store v (hr hj)

/-- What the readings of a variable give. -/
theorem readProperty_of_twoState (hc : sp.condition i = .ok c)
    (hts : c.twoStates.find? k = some ts) :
    sp.readProperty i (.standard k.variableName) (.standard "Id") = .ok (.boolean ts.id) ∧
    sp.readProperty i (.standard k.variableName) (.standard "TransitionTime") =
      .ok ((ts.transitionTime.map Variant.dateTime).getD .empty) ∧
    sp.readField i (.standard k.variableName) =
      .ok (.localizedText ⟨"en", k.stateText ts.id⟩) := by
  have htwo : c.twoState k = .ok ts := ConditionState.twoState_eq_ok_iff.2 hts
  refine ⟨?_, ?_, ?_⟩
  · rw [readProperty_of_condition hc, ConditionState.readProperty, htwo]
    rfl
  · rw [readProperty_of_condition hc, ConditionState.readProperty, htwo]
    obtain ⟨id, time⟩ := ts
    cases time <;> rfl
  · rw [readField_of_condition hc]
    exact ConditionState.read_variable_eq_ok_iff.2 ⟨ts, hts, rfl⟩

private theorem kindNamed_of_variableName {name : QualifiedName} (h : k.variableName = name.name) :
    kindNamed name = .ok k :=
  kindNamed_eq_ok_iff.2 (h ▸ k.ofVariable?_variableName)

/-- A property of a variable that is not there cannot be read. -/
theorem readProperty_of_twoState_error {variableName : QualifiedName} {e : StatusCode}
    (hk : kindNamed variableName = .ok k) (h : sp.twoState i k = .error e)
    (property : QualifiedName) : sp.readProperty i variableName property = .error e := by
  unfold twoState at h
  rw [readProperty, hk]
  cases hc : sp.condition i with
  | error e' =>
    rw [hc] at h
    cases h
    rfl
  | ok c =>
    rw [hc] at h
    show c.readProperty k property.name = _
    rw [ConditionState.readProperty, show c.twoState k = .error e from h]
    rfl

/-- A variable has no other properties. -/
theorem readProperty_of_other {variableName property : QualifiedName}
    (hname : k.variableName = variableName.name) (hc : sp.condition i = .ok c)
    (hts : c.twoStates.find? k = some ts) (hid : property.name ≠ "Id")
    (htime : property.name ≠ "TransitionTime") :
    sp.readProperty i variableName property = .error .badNoMatch := by
  rw [readProperty, kindNamed_of_variableName hname, hc]
  show c.readProperty k property.name = _
  rw [ConditionState.readProperty, ConditionState.twoState_eq_ok_iff.2 hts]
  show (ite _ _ (ite _ _ _) : Except StatusCode Variant) = _
  rw [if_neg hid, if_neg htime]
  rfl

private theorem find?_changeTwoState (hts : c.twoStates.find? k = some ts)
    (f : TwoState → TwoState) : (c.changeTwoState k f).twoStates.find? k = some (f ts) := by
  rw [ConditionState.changeTwoState, Table.find?_modify, if_pos rfl, hts]
  rfl

/-- An entry of a state is a write of it. -/
theorem propertyStored_enter (hc : sp.condition i = .ok c) (hts : c.twoStates.find? k = some ts)
    (id : Bool) (now : Instant) :
    PropertyStored i k "Id" (.boolean id) now sp
      (sp.setCondition i (c.changeTwoState k (TwoState.enter id now))) := by
  obtain ⟨hid, htime, -⟩ := readProperty_of_twoState hc hts
  obtain ⟨hid', htime', hshown'⟩ := readProperty_of_twoState
    (condition_setCondition hc (c.changeTwoState k (TwoState.enter id now)))
    (find?_changeTwoState hts _)
  rw [TwoState.id_enter] at hid' hshown'
  exact {
    reads := hid'
    state := fun h => absurd rfl h
    time := fun _ => by
      rw [htime', htime, hid]
      unfold TwoState.enter
      by_cases h : ts.id = id <;> simp [h]
    shows := ⟨id, hid', hshown'⟩
    others := fun j r hr => reading_setCondition hc fun hj => c.agreesOn_changeTwoState _ (hr hj) }

/-- So is a statement of when it was entered. -/
theorem propertyStored_time (hc : sp.condition i = .ok c) (hts : c.twoStates.find? k = some ts)
    (time now : Instant) :
    PropertyStored i k "TransitionTime" (.dateTime time) now sp
      (sp.setCondition i (c.changeTwoState k fun s => { s with transitionTime := some time })) := by
  obtain ⟨hid, -, -⟩ := readProperty_of_twoState hc hts
  obtain ⟨hid', htime', hshown'⟩ := readProperty_of_twoState
    (condition_setCondition hc
      (c.changeTwoState k fun s => { s with transitionTime := some time }))
    (find?_changeTwoState hts _)
  exact {
    reads := htime'
    state := fun _ => hid'.trans hid.symm
    time := fun h => absurd rfl h
    shows := ⟨ts.id, hid', hshown'⟩
    others := fun j r hr => reading_setCondition hc fun hj => c.agreesOn_changeTwoState _ (hr hj) }

/-- A write and a read of a field find the same names. -/
theorem writeField_noMatch_iff (hwell : ∀ c, sp.condition i = .ok c → c.WellTyped)
    (name : QualifiedName) (v : Variant) :
    sp.writeField i name v = .error .badNoMatch ↔ sp.readField i name = .error .badNoMatch := by
  rw [writeField, SpaceAction.effect_eq_error_iff, SpaceAction.writeField,
    SpaceAction.outcome_query_bind, readField]
  cases hc : sp.condition i with
  | error e => simp [bind, Except.bind]
  | ok c =>
    have hfound := ((hwell c hc).read_eq_noMatch_iff name.name).trans
      (c.target_eq_noMatch_iff name.name v).symm
    show (SpaceAction.query _ >>= _ : SpaceAction β Unit).outcome sp = _ ↔ _
    rw [SpaceAction.outcome_query_bind]
    simp only [bind, Except.bind, hfound, ConditionState.write]
    cases c.target name.name v <;> simp [Except.map]

end AddressSpace

namespace Server

/-- What a write of a field does. -/
structure WritesField (i : NodeId) (name : QualifiedName) (v : Variant)
    (result : Except StatusCode Unit) (s t : Server β) : Prop where
  /-- It finds no match where a read does not. -/
  noMatch : result = .error .badNoMatch ↔ s.space.readField i name = .error .badNoMatch
  /-- It changes nothing when it fails. -/
  refused : ∀ e, result = .error e → t = s
  /-- It does not fail for a field of the condition and a value of the declared data type. -/
  accepted : ∀ c f, s.space.condition i = .ok c → f ∈ c.type.fields → f.name = name.name →
    v.dataType = f.dataType → result = .ok ()
  /-- It succeeds for nothing else, and then stores the value. -/
  stored : result = .ok () → ∃ c f, s.space.condition i = .ok c ∧ f ∈ c.type.fields ∧
    f.name = name.name ∧ TransitionKind.ofVariable? name.name = none ∧ v.dataType = f.dataType ∧
    Puts i (c.store f v) s t ∧ s.space.FieldStored i f v t.space

/-- What a write of a property does where no hook is to be asked. -/
structure WritesProperty (i : NodeId) (variableName property : QualifiedName) (v : Variant)
    (result : Except StatusCode Unit) (s t : Server β) : Prop where
  /-- It finds no match where a read does not. -/
  noMatch : result = .error .badNoMatch ↔
    s.space.readProperty i variableName property = .error .badNoMatch
  /-- It changes nothing when it fails. -/
  refused : ∀ e, result = .error e → t = s
  /-- It does not fail for a state or a time of a variable that the condition has. -/
  accepted : ∀ c k, s.space.condition i = .ok c → k ∈ c.type.kinds →
    k.variableName = variableName.name →
    (property.name = "Id" ∧ v.dataType = .boolean ∨
      property.name = "TransitionTime" ∧ v.dataType = .dateTime) → result = .ok ()
  /-- It succeeds for nothing else, and then stores the value. -/
  stored : result = .ok () → ∃ c k f, s.space.condition i = .ok c ∧ k ∈ c.type.kinds ∧
    k.variableName = variableName.name ∧
    (property.name = "Id" ∧ v.dataType = .boolean ∨
      property.name = "TransitionTime" ∧ v.dataType = .dateTime) ∧
    Puts i (c.changeTwoState k f) s t ∧
    s.space.PropertyStored i k property.name v s.now t.space

end Server

namespace Service

variable {i : NodeId} {s : Server β}

private theorem writeField_run (i : NodeId) (name : QualifiedName) (v : Variant) (s : Server β) :
    (writeField i name v).run s = match s.space.writeField i name v with
      | .ok sp => .done (.ok ()) ((s.withSpace sp).log .trace
          (i.text ++ " " ++ name.text ++ " = " ++ v.text))
      | .error e => .done (.error e) s := by
  rw [writeField, act_bind_run (SpaceAction.checksFirst_writeField i name v)]
  rfl

private theorem writesField (hwell : ∀ c, s.space.condition i = .ok c → c.WellTyped)
    (name : QualifiedName) (v : Variant) :
    ∃ result t, (writeField i name v).run s = .done result t ∧
      Server.WritesField i name v result s t := by
  have hmatch := AddressSpace.writeField_noMatch_iff hwell name v
  have haccepted : ∀ c f, s.space.condition i = .ok c → f ∈ c.type.fields → f.name = name.name →
      v.dataType = f.dataType →
      s.space.writeField i name v = .ok (s.space.setCondition i (c.store f v)) :=
    fun c f hc hf hname hv => AddressSpace.writeField_eq_ok_iff.2
      ⟨c, f, hc, ConditionState.target_eq_ok_iff.2 ⟨hf, hname, hv⟩, rfl⟩
  rw [writeField_run]
  cases hw : s.space.writeField i name v with
  | error e =>
    rw [hw] at hmatch haccepted
    refine ⟨_, _, rfl, ?_, fun _ _ => rfl, ?_, fun h => nomatch h⟩
    · rw [← hmatch, Except.error.injEq, Except.error.injEq]
    · intro c f hc hf hname hv
      cases haccepted c f hc hf hname hv
  | ok sp =>
    obtain ⟨c, f, hc, htarget, rfl⟩ := AddressSpace.writeField_eq_ok_iff.1 hw
    obtain ⟨hf, hname, hv⟩ := ConditionState.target_eq_ok htarget
    have hvariable : TransitionKind.ofVariable? name.name = none :=
      hname ▸ ConditionState.ofVariable?_name f
    refine ⟨_, _, rfl, ?_, fun _ h => (nomatch h), fun _ _ _ _ _ _ => rfl, fun _ => ?_⟩
    · rw [← hmatch, hw]
      exact ⟨fun h => (nomatch h), fun h => (nomatch h)⟩
    · exact ⟨c, f, hc, hf, hname, hvariable, hv, puts_log s .trace _,
        AddressSpace.fieldStored hc (hwell c hc) hf v⟩

/-- Of the names that a write is given only the texts count. -/
theorem writeProperty_congr (i : NodeId) {n n' p p' : QualifiedName} (hn : n'.name = n.name)
    (hp : p'.name = p.name) (v : Variant) :
    (writeProperty i n' p' v : Service β Unit) = writeProperty i n p v := by
  unfold writeProperty AddressSpace.kindNamed
  rw [hn, hp]

/-- Where no hook is to be asked, a state is committed, and a time is set. -/
theorem writeProperty_run {variableName : QualifiedName} {k : TransitionKind} {c : ConditionState}
    {ts : TwoState} (hname : k.variableName = variableName.name)
    (hc : s.space.condition i = .ok c) (hts : c.twoStates.find? k = some ts)
    (hhook : s.space.hooks.find? (i, k) = none) (property : QualifiedName) (v : Variant) :
    (writeProperty i variableName property v).run s =
      if property.name = "Id" then
        match v.asBool? with
        | none => .done (.error .badTypeMismatch) s
        | some id => (commit i k id).run s
      else if property.name = "TransitionTime" then
        match v.asInstant? with
        | none => .done (.error .badTypeMismatch) s
        | some time => (act (.setTransitionTime i k time)).run s
      else .done (.error .badNoMatch) s := by
  have hunhooked : ∀ id, (runHook i k none >>= fun _ => commit i k id).run s =
      (commit i k id).run s := by
    intro id
    rw [runHook_bind_run, hhook]
  rw [writeProperty, query_bind_run, AddressSpace.kindNamed_of_variableName hname]
  show (query _ >>= _ : Service β Unit).run s = _
  rw [query_bind_run, AddressSpace.twoState_eq_ok_iff.2 ⟨c, hc, hts⟩]
  show (ite _ _ _ : Service β Unit).run s = _
  split
  · cases v.asBool? with
    | none => rfl
    | some id =>
      show (ite _ _ _ : Service β Unit).run s = _
      split
      · exact hunhooked id
      · rfl
  · show (ite _ _ _ : Service β Unit).run s = _
    split
    · cases v.asInstant? <;> rfl
    · rfl

private theorem writesProperty_refused {variableName property : QualifiedName} {v : Variant}
    {e : StatusCode}
    (hmatch : e = .badNoMatch ↔
      s.space.readProperty i variableName property = .error .badNoMatch)
    (hnone : ∀ c k ts, s.space.condition i = .ok c → c.twoStates.find? k = some ts →
      k.variableName = variableName.name →
      ¬ (property.name = "Id" ∧ v.dataType = .boolean ∨
        property.name = "TransitionTime" ∧ v.dataType = .dateTime))
    (hwell : ∀ c, s.space.condition i = .ok c → c.WellTyped) :
    Server.WritesProperty i variableName property v (.error e) s s where
  noMatch := by rw [Except.error.injEq, hmatch]
  refused _ _ := rfl
  accepted c k hc hk hname hp := by
    obtain ⟨ts, hts⟩ := (hwell c hc).exists_twoState_iff.2 hk
    exact absurd hp (hnone c k ts hc hts hname)
  stored h := nomatch h

private theorem writesProperty_stored {variableName property : QualifiedName} {v : Variant}
    {t : Server β} {c : ConditionState} {k : TransitionKind} {ts : TwoState}
    {f : TwoState → TwoState} (hwell : ∀ c, s.space.condition i = .ok c → c.WellTyped)
    (hc : s.space.condition i = .ok c) (hts : c.twoStates.find? k = some ts)
    (hname : k.variableName = variableName.name)
    (hp : property.name = "Id" ∧ v.dataType = .boolean ∨
      property.name = "TransitionTime" ∧ v.dataType = .dateTime)
    (hput : Puts i (c.changeTwoState k f) s t)
    (hstored : s.space.PropertyStored i k property.name v s.now
      (s.space.setCondition i (c.changeTwoState k f))) :
    Server.WritesProperty i variableName property v (.ok ()) s t where
  noMatch := by
    obtain ⟨hid, htime, -⟩ := AddressSpace.readProperty_of_twoState hc hts
    refine ⟨fun h => (nomatch h), fun h => ?_⟩
    rcases hp with ⟨hp, -⟩ | ⟨hp, -⟩
    · rw [s.space.readProperty_congr i (v := .standard k.variableName) (p := .standard "Id")
        hname.symm hp, hid] at h
      cases h
    · rw [s.space.readProperty_congr i (v := .standard k.variableName)
        (p := .standard "TransitionTime") hname.symm hp, htime] at h
      cases h
  refused _ h := nomatch h
  accepted _ _ _ _ _ _ := rfl
  stored _ :=
    ⟨c, k, f, hc, (hwell c hc).exists_twoState_iff.1 ⟨ts, hts⟩, hname, hp, hput,
      hput.space ▸ hstored⟩

section Found

variable {variableName property : QualifiedName} {k : TransitionKind} {ts : TwoState}
  {c : ConditionState}

private theorem writesProperty_mismatch {v w : Variant}
    (hwell : ∀ c, s.space.condition i = .ok c → c.WellTyped)
    (hread : s.space.readProperty i variableName property = .ok w)
    (htype : ¬ (property.name = "Id" ∧ v.dataType = .boolean ∨
      property.name = "TransitionTime" ∧ v.dataType = .dateTime)) :
    Server.WritesProperty i variableName property v (.error .badTypeMismatch) s s := by
  refine writesProperty_refused ?_ (fun _ _ _ _ _ _ => htype) hwell
  rw [hread]
  exact ⟨fun h => absurd h (by decide), fun h => (nomatch h)⟩

private theorem writesProperty_id (hwell : ∀ c, s.space.condition i = .ok c → c.WellTyped)
    (hname : k.variableName = variableName.name) (hhook : s.space.hooks.find? (i, k) = none)
    (hc : s.space.condition i = .ok c) (hts : c.twoStates.find? k = some ts)
    (hp : property.name = "Id") (v : Variant) :
    ∃ result t, (writeProperty i variableName property v).run s = .done result t ∧
      Server.WritesProperty i variableName property v result s t := by
  rw [writeProperty_run hname hc hts hhook, if_pos hp]
  obtain ⟨hid, -, -⟩ := AddressSpace.readProperty_of_twoState hc hts
  have hread := (s.space.readProperty_congr i (p := .standard "Id") hname.symm hp).trans hid
  rcases v.eq_boolean_or with ⟨value, rfl⟩ | ⟨hnone, htype⟩
  · obtain ⟨t, hrun, hput⟩ := commit_puts hc hts value
    refine ⟨_, t, hrun, writesProperty_stored hwell hc hts hname (.inl ⟨hp, rfl⟩) hput ?_⟩
    rw [hp]
    exact AddressSpace.propertyStored_enter hc hts value s.now
  · rw [hnone]
    refine ⟨_, _, rfl, writesProperty_mismatch hwell hread ?_⟩
    rintro (⟨-, h⟩ | ⟨h, -⟩)
    · exact htype h
    · exact absurd (hp.symm.trans h) (by decide)

private theorem writesProperty_time (hwell : ∀ c, s.space.condition i = .ok c → c.WellTyped)
    (hname : k.variableName = variableName.name) (hhook : s.space.hooks.find? (i, k) = none)
    (hc : s.space.condition i = .ok c) (hts : c.twoStates.find? k = some ts)
    (hp : property.name = "TransitionTime") (v : Variant) :
    ∃ result t, (writeProperty i variableName property v).run s = .done result t ∧
      Server.WritesProperty i variableName property v result s t := by
  have hid : property.name ≠ "Id" := fun h => absurd (hp.symm.trans h) (by decide)
  rw [writeProperty_run hname hc hts hhook, if_neg hid, if_pos hp]
  obtain ⟨-, htime, -⟩ := AddressSpace.readProperty_of_twoState hc hts
  have hread := (s.space.readProperty_congr i (p := .standard "TransitionTime") hname.symm
    hp).trans htime
  rcases v.eq_dateTime_or with ⟨time, rfl⟩ | ⟨hnone, htype⟩
  · have hset : (SpaceAction.setTransitionTime i k time).outcome s.space = .ok ((),
        s.space.setCondition i
          (c.changeTwoState k fun ts => { ts with transitionTime := some time })) :=
      SpaceAction.effect_eq_ok_iff.1
        (AddressSpace.setTransitionTime_eq_ok_iff.2 ⟨c, ts, hc, hts, rfl⟩)
    have hrun := act_run_of_checksFirst (SpaceAction.checksFirst_setTransitionTime i k time) s
    refine ⟨.ok (), s.withSpace _, hrun.trans (by rw [hset]),
      writesProperty_stored hwell hc hts hname (.inr ⟨hp, rfl⟩) ⟨.refl _, rfl⟩ ?_⟩
    rw [hp]
    exact AddressSpace.propertyStored_time hc hts time s.now
  · rw [hnone]
    refine ⟨_, _, rfl, writesProperty_mismatch hwell hread ?_⟩
    rintro (⟨h, -⟩ | ⟨-, h⟩)
    · exact absurd (hp.symm.trans h) (by decide)
    · exact htype h

end Found

/-- Where no hook is to be asked, the write of a property is that of a cell. -/
theorem writesProperty (hwell : ∀ c, s.space.condition i = .ok c → c.WellTyped)
    {variableName : QualifiedName}
    (hhook : ∀ k, k.variableName = variableName.name → s.space.hooks.find? (i, k) = none)
    (property : QualifiedName) (v : Variant) :
    ∃ result t, (writeProperty i variableName property v).run s = .done result t ∧
      Server.WritesProperty i variableName property v result s t := by
  cases hkind : AddressSpace.kindNamed variableName with
  | error e =>
    have hread : s.space.readProperty i variableName property = .error e := by
      rw [AddressSpace.readProperty, hkind]
      rfl
    refine ⟨.error e, s, ?_, writesProperty_refused ?_ ?_ hwell⟩
    · rw [writeProperty, query_bind_run, hkind]
    · rw [hread, Except.error.injEq]
    · intro c k ts _ _ hname
      cases (AddressSpace.kindNamed_of_variableName hname).symm.trans hkind
  | ok k =>
    have hname := (TransitionKind.ofVariable?_eq_some_iff _ _).1
      (AddressSpace.kindNamed_eq_ok_iff.1 hkind)
    cases htwo : s.space.twoState i k with
    | error e =>
      have hread := AddressSpace.readProperty_of_twoState_error hkind htwo property
      refine ⟨.error e, s, ?_, writesProperty_refused ?_ ?_ hwell⟩
      · rw [writeProperty, query_bind_run, hkind]
        show (query _ >>= _ : Service β Unit).run s = _
        rw [query_bind_run, htwo]
      · rw [hread, Except.error.injEq]
      · intro c k' ts hc hts hname'
        cases TransitionKind.variableName_inj (hname'.trans hname.symm)
        cases (AddressSpace.twoState_eq_ok_iff.2 ⟨c, hc, hts⟩).symm.trans htwo
    | ok ts =>
      obtain ⟨c, hc, hts⟩ := AddressSpace.twoState_eq_ok_iff.1 htwo
      have hhook := hhook k hname
      by_cases hid : property.name = "Id"
      · exact writesProperty_id hwell hname hhook hc hts hid v
      · by_cases htime : property.name = "TransitionTime"
        · exact writesProperty_time hwell hname hhook hc hts htime v
        · rw [writeProperty_run hname hc hts hhook, if_neg hid, if_neg htime]
          refine ⟨_, _, rfl, writesProperty_refused ?_ ?_ hwell⟩
          · rw [AddressSpace.readProperty_of_other hname hc hts hid htime]
            exact iff_of_true rfl rfl
          · rintro - - - - - - (⟨h, -⟩ | ⟨h, -⟩)
            · exact hid h
            · exact htime h

end Service

/-- At every moment of a run, the fields of a condition and the properties of its two-state
variables are cells. A write that succeeds is read back, and leaves all other readings of all nodes
as they were, except for those that go with it: the last severity, the time and the shown text. A
write that fails changes nothing. Where values fit, writes to declared names succeed, and a name
finds no match in a write exactly if it finds none in a read. Of names only the text counts. A
property is a cell where its variable has no hook. -/
theorem cells_of_run {ambient : Ambient} {trace : List (requests β).Stretch}
    {d : (requests β).Config} (h : System.Run (.idle (requests β) (.create ambient)) trace d)
    (i : NodeId) :
    (∀ name v, ∃ result t, (Service.writeField i name v).run d.state = .done result t ∧
      Server.WritesField i name v result d.state t) ∧
    (∀ variableName property v,
      (∀ k, k.variableName = variableName.name → d.state.space.hooks.find? (i, k) = none) →
      ∃ result t, (Service.writeProperty i variableName property v).run d.state = .done result t ∧
        Server.WritesProperty i variableName property v result d.state t) ∧
    (∀ name name' v, name'.name = name.name →
      (∀ sp : AddressSpace β, sp.readField i name' = sp.readField i name) ∧
      ∃ result t t', (Service.writeField i name v).run d.state = .done result t ∧
        (Service.writeField i name' v).run d.state = .done result t' ∧ t'.space = t.space) ∧
    ∀ n n' p p' v, n'.name = n.name → p'.name = p.name →
      (∀ sp : AddressSpace β, sp.readProperty i n' p' = sp.readProperty i n p) ∧
      (Service.writeProperty i n' p' v).run d.state =
        (Service.writeProperty i n p v).run d.state := by
  have hwell := h.wellTyped.conditions i
  refine ⟨?_, ?_, ?_, ?_⟩
  · intro name v
    exact Service.writesField hwell name v
  · intro variableName property v hhook
    exact Service.writesProperty hwell hhook property v
  · intro name name' v hname
    refine ⟨fun sp => sp.readField_congr i hname, ?_⟩
    have hwrite : d.state.space.writeField i name' v = d.state.space.writeField i name v := by
      unfold AddressSpace.writeField SpaceAction.writeField
      rw [hname]
    rw [Service.writeField_run, Service.writeField_run, hwrite]
    cases d.state.space.writeField i name v with
    | error e => exact ⟨_, _, _, rfl, rfl, rfl⟩
    | ok sp => exact ⟨_, _, _, rfl, rfl, rfl⟩
  · intro n n' p p' v hn hp
    refine ⟨fun sp => sp.readProperty_congr i hn hp, ?_⟩
    rw [Service.writeProperty_congr i hn hp]

/-- The severity of a new condition is raised. The one before can be read as the last severity. -/
theorem cells_reserved :
    ∃ d t,
      System.Run (.idle (requests Unit) (.create (.start ⟨0, 0⟩))) [reserved (.numeric 1 1)] d ∧
      (Service.writeField (.numeric 1 1) (.standard "Severity") (.uint16 700)).run d.state =
        .done (.ok ()) t ∧
      t.space.readField (.numeric 1 1) (.standard "LastSeverity") = .ok (.uint16 0) := by
  let st := reserved (.numeric 1 1)
  have hrun : System.Run (.idle (requests Unit) (.create (.start ⟨0, 0⟩))) [st] ⟨st.after, 1, []⟩ :=
    .cons (.request_of_ends ⟨_, _, rfl⟩ 0 []) (.nil _)
  obtain ⟨c, hc⟩ : ∃ c, st.after.space.condition (.numeric 1 1) = .ok c := ⟨_, rfl⟩
  obtain ⟨result, t, hwrite, hcell⟩ :=
    (cells_of_run hrun (.numeric 1 1)).1 (.standard "Severity") (.uint16 700)
  have hok : result = .ok () :=
    hcell.accepted c .severity hc (c.mem_fields_of_base (by decide)) rfl rfl
  subst hok
  obtain ⟨_, f, -, -, hname, -, -, -, hstored⟩ := hcell.stored rfl
  obtain rfl : f = .severity := Field.name_inj hname
  exact ⟨_, t, hrun, hwrite, hstored.last rfl⟩

end AlarmServer
