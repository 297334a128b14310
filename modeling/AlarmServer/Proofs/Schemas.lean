import AlarmServer.Proofs.Revisions

/-!
# Schemas of conditions

A condition has the variables of its type, and values only for fields of its type and with the
declared data types. The fields that it gets when it is created never lose their values. No two
conditions of one source have the same name. All this holds at every moment of every run: creations
establish it, and each revision of a condition keeps it up.
-/

namespace AlarmServer

variable {β : Type}

/-- The fields that have values from the creation of a condition on. -/
def Field.essential : List Field :=
  [.time, .message, .severity, .retain, .eventType, .sourceNode, .sourceName, .conditionName]

/-! ### Well-typed states -/

namespace ConditionState

/-- The state has what its type declares, and nothing else. -/
structure WellTyped (c : ConditionState) : Prop where
  /-- It has the variables of its type. -/
  twoStates : ∀ k, c.twoStates.contains k = true ↔ k ∈ c.type.kinds
  /-- Only fields of its type have values, and these are of the declared data types. -/
  fields : ∀ f v, c.fields.find? f = some v → f ∈ c.type.fields ∧ v.dataType = f.dataType
  /-- The essential fields have values. -/
  essential : ∀ f ∈ Field.essential, c.fields.contains f = true

/-- A field that every condition has is a field of each type. -/
theorem mem_fields_of_base (c : ConditionState) {f : Field} (hf : f ∈ ConditionType.baseFields) :
    f ∈ c.type.fields :=
  List.mem_append_left _ (List.mem_append_left _ hf)

private theorem mem_fields_of_essential (c : ConditionState) {f : Field}
    (hf : f ∈ Field.essential) : f ∈ c.type.fields :=
  c.mem_fields_of_base (by cases f <;> first | decide | exact absurd hf (by decide))

/-- A value is stored in its field; the severity before goes to the last severity. -/
theorem find?_store (c : ConditionState) (f g : Field) (v : Variant) :
    (c.store f v).fields.find? g =
      if g = f then some v
      else if f = .severity ∧ g = .lastSeverity then
        (c.fields.find? .severity).or (c.fields.find? g)
      else c.fields.find? g := by
  unfold store
  by_cases hf : f = .severity
  · subst hf
    cases hprevious : c.fields.find? .severity with
    | none => by_cases hg : g = .lastSeverity <;> simp [Table.find?_insert, hg]
    | some previous => by_cases hg : g = .lastSeverity <;> simp [Table.find?_insert, hg]
  · simp [hf, Table.find?_insert]

private theorem wellTyped_create (type : ConditionType) (source : NodeId) (sourceName name : String)
    (now : Instant) : (ConditionState.create type source sourceName name now).WellTyped where
  twoStates k := by
    have hid := idOf_create type source sourceName name now k
    unfold Table.contains
    rw [← Option.isSome_map (f := TwoState.id), ← idOf, hid]
    by_cases hk : k ∈ type.kinds <;> simp [hk, create]
  fields f v hv := by
    have hbase : f ∈ ConditionType.baseFields ∧ v.dataType = f.dataType := by
      cases f <;> simp [create, Table.ofList, Table.find?_insert] at hv <;> subst hv <;>
        exact ⟨by decide, rfl⟩
    exact ⟨mem_fields_of_base _ hbase.1, hbase.2⟩
  essential f hf := by
    cases f <;> first | rfl | exact absurd hf (by decide)

variable {c d : ConditionState}

private theorem WellTyped.store (h : c.WellTyped) {f : Field} {v : Variant} (hf : f ∈ c.type.fields)
    (hv : v.dataType = f.dataType) : (c.store f v).WellTyped where
  twoStates k := by
    rw [twoStates_store, type_store]
    exact h.twoStates k
  fields g w hw := by
    rw [type_store]
    rw [find?_store] at hw
    by_cases hg : g = f
    · rw [if_pos hg] at hw
      cases hw
      exact hg ▸ ⟨hf, hv⟩
    · rw [if_neg hg] at hw
      by_cases hlast : f = .severity ∧ g = .lastSeverity
      · rw [if_pos hlast, Option.or_eq_some_iff] at hw
        rcases hw with hw | ⟨-, hw⟩
        · obtain ⟨-, htype⟩ := h.fields _ w hw
          rw [hlast.2]
          exact ⟨c.mem_fields_of_base (by decide), htype⟩
        · exact h.fields g w hw
      · rw [if_neg hlast] at hw
        exact h.fields g w hw
  essential g hg := by
    have hold := h.essential g hg
    unfold Table.contains at hold ⊢
    rw [find?_store]
    split
    · rfl
    · split
      · rw [Option.isSome_or, hold, Bool.or_true]
      · exact hold

private theorem WellTyped.changeTwoState (h : c.WellTyped) (k : TransitionKind)
    (f : TwoState → TwoState) : (c.changeTwoState k f).WellTyped where
  twoStates k' := by
    rw [ConditionState.changeTwoState, Table.contains_modify]
    exact h.twoStates k'
  fields := h.fields
  essential := h.essential

/-- A condition in which an event is noted is well-typed. -/
theorem WellTyped.noted (h : c.WellTyped) (eventId : EventId) (now : Instant) :
    (c.noted eventId now).WellTyped where
  twoStates := h.twoStates
  fields f v hv := by
    simp only [ConditionState.noted, Table.find?_insert] at hv
    by_cases hreceive : f = .receiveTime
    · rw [if_pos hreceive] at hv
      cases hv
      exact hreceive ▸ ⟨c.mem_fields_of_base (by decide), rfl⟩
    · rw [if_neg hreceive] at hv
      by_cases hid : f = .eventId
      · rw [if_pos hid] at hv
        cases hv
        exact hid ▸ ⟨c.mem_fields_of_base (by decide), rfl⟩
      · rw [if_neg hid] at hv
        exact h.fields f v hv
  essential f hf := by
    simp only [ConditionState.noted, Table.contains_insert, h.essential f hf, Bool.or_true]

/-- A revision of a well-typed state gives a well-typed state. -/
theorem WellTyped.revised (h : c.WellTyped) (hd : c.Revised d) : d.WellTyped := by
  cases hd with
  | stored hf hv => exact h.store hf hv
  | moved k f => exact h.changeTwoState k f
  | noted eventId now => exact h.noted eventId now

end ConditionState

/-! ### Reading well-typed states -/

/-- The names that the type declares, of fields and of variables. -/
def ConditionType.Declares (t : ConditionType) (name : String) : Prop :=
  (∃ f ∈ t.fields, f.name = name) ∨ ∃ k ∈ t.kinds, k.variableName = name

namespace ConditionState

variable {c : ConditionState}

/-- A field can be read if the type has it. -/
theorem read_field_eq_ok_iff {f : Field} {v : Variant} :
    c.read f.name = .ok v ↔ f ∈ c.type.fields ∧ c.field f = v := by
  unfold read
  rw [ofVariable?_name, ConditionType.field?_name]
  by_cases hf : f ∈ c.type.fields <;> simp [hf]

/-- What a variable shows can be read if the condition has it. -/
theorem read_variable_eq_ok_iff {k : TransitionKind} {v : Variant} :
    c.read k.variableName = .ok v ↔ ∃ s, c.twoStates.find? k = some s ∧ shown k s = v := by
  unfold read twoState
  rw [TransitionKind.ofVariable?_variableName]
  cases hs : c.twoStates.find? k <;> simp [hs, Except.map]

private theorem exists_name_of_read {name : String} {v : Variant} (h : c.read name = .ok v) :
    (∃ f : Field, f.name = name) ∨ ∃ k : TransitionKind, k.variableName = name := by
  unfold read at h
  cases hk : TransitionKind.ofVariable? name with
  | some k => exact .inr ⟨k, (TransitionKind.ofVariable?_eq_some_iff _ _).1 hk⟩
  | none =>
    rw [hk] at h
    cases hf : c.type.field? name with
    | none =>
      rw [hf] at h
      cases h
    | some f =>
      exact .inl ⟨f, (ConditionType.name_of_field? hf).2⟩

/-- The variables of a condition are those of its type. -/
theorem WellTyped.exists_twoState_iff (h : c.WellTyped) {k : TransitionKind} :
    (∃ s, c.twoStates.find? k = some s) ↔ k ∈ c.type.kinds := by
  rw [← Option.isSome_iff_exists]
  exact h.twoStates k

/-- What the type declares can be read, and nothing else. -/
theorem WellTyped.read_iff (h : c.WellTyped) (name : String) :
    (∃ v, c.read name = .ok v) ↔ c.type.Declares name := by
  constructor
  · rintro ⟨v, hv⟩
    rcases exists_name_of_read hv with ⟨f, rfl⟩ | ⟨k, rfl⟩
    · exact .inl ⟨f, (read_field_eq_ok_iff.1 hv).1, rfl⟩
    · obtain ⟨s, hs, -⟩ := read_variable_eq_ok_iff.1 hv
      exact .inr ⟨k, h.exists_twoState_iff.1 ⟨s, hs⟩, rfl⟩
  · rintro (⟨f, hf, rfl⟩ | ⟨k, hk, rfl⟩)
    · exact ⟨_, read_field_eq_ok_iff.2 ⟨hf, rfl⟩⟩
    · obtain ⟨s, hs⟩ := h.exists_twoState_iff.2 hk
      exact ⟨_, read_variable_eq_ok_iff.2 ⟨s, hs, rfl⟩⟩

/-- A field with a value has one of its data type. -/
theorem WellTyped.dataType_field (h : c.WellTyped) {f : Field} (hf : f ∈ Field.essential) :
    (c.field f).dataType = f.dataType := by
  obtain ⟨v, hv⟩ := Option.isSome_iff_exists.1 (h.essential f hf)
  rw [field, hv]
  exact (h.fields f v hv).2

/-- The time of the last change of state is known. -/
theorem WellTyped.exists_time (h : c.WellTyped) : ∃ t, c.field .time = .dateTime t := by
  have htype : (c.field .time).dataType = .dateTime := h.dataType_field (f := .time) (by decide)
  cases hv : c.field .time with
  | dateTime t => exact ⟨t, rfl⟩
  | _ => simp [hv, Variant.dataType] at htype

/-- An event takes its time from the field of that name. -/
theorem WellTyped.time_event (h : c.WellTyped) (id source : NodeId) (eventId : EventId)
    (now : Instant) : c.field .time = .dateTime (c.event id source eventId now).time := by
  obtain ⟨t, ht⟩ := h.exists_time
  rw [event, ht]
  rfl

end ConditionState

/-! ### Conditions of an address space -/

namespace AddressSpace

variable {sp sp' : AddressSpace β} {i j : NodeId} {name : QualifiedName} {c d : ConditionState}

/-- There is a condition of that name and state. -/
def HasCondition (sp : AddressSpace β) (i : NodeId) (name : QualifiedName) (c : ConditionState) :
    Prop :=
  ∃ n, sp.nodes.find? i = some n ∧ n.browseName = name ∧ n.body = .condition c

private theorem hasCondition_iff :
    sp.HasCondition i name c ↔ sp.condition i = .ok c ∧ sp.browseName i = .ok name := by
  simp only [HasCondition, condition_eq_ok_iff, browseName, except_bind_eq_ok_iff, node_eq_ok_iff,
    pure, Except.pure, Except.ok.injEq]
  constructor
  · rintro ⟨n, hn, hname, hbody⟩
    exact ⟨⟨n, hn, hbody⟩, n, hn, hname⟩
  · rintro ⟨⟨n, hn, hbody⟩, m, hm, hname⟩
    cases hn.symm.trans hm
    exact ⟨n, hn, hname, hbody⟩

/-- A field is read from the condition. -/
theorem readField_of_condition (h : sp.condition i = .ok c) (name : QualifiedName) :
    sp.readField i name = c.read name.name := by
  rw [readField, h]
  rfl

/-- A property of a variable is read from the condition. -/
theorem readProperty_of_condition (h : sp.condition i = .ok c) (k : TransitionKind)
    (property : QualifiedName) :
    sp.readProperty i (.standard k.variableName) property = c.readProperty k property.name := by
  have hk : kindNamed (.standard k.variableName) = .ok k :=
    kindNamed_eq_ok_iff.2 k.ofVariable?_variableName
  rw [readProperty, hk, h]
  rfl

/-- A condition keeps its name from others of its source. -/
theorem HasCondition.hasConditionNamed (h : sp.HasCondition i name c) :
    sp.hasConditionNamed c.source name = true := by
  obtain ⟨n, hn, hname, hbody⟩ := h
  have hmem : n ∈ sp.nodes.values :=
    List.mem_map_of_mem ((Table.mem_entries_iff _ _ _).2 hn)
  refine List.any_eq_true.2 ⟨n, hmem, ?_⟩
  simp [hname, hbody]

/-- A condition after a change is one from before, perhaps revised, or the new node. That is
well-typed, and no condition of its source had its name. -/
theorem hasCondition_origin {ch : Change β} (h : ch.Effect sp sp') :
    ∃ id : NodeId, ∀ {i name d}, sp'.HasCondition i name d →
      (∃ c, sp.HasCondition i name c ∧ (d = c ∨ c.Revised d)) ∨
        i = id ∧ d.WellTyped ∧ sp.hasConditionNamed d.source name = false := by
  cases h with
  | @revises id n m hn hm hnodes _ _ _ =>
    refine ⟨id, ?_⟩
    rintro i name d ⟨n', hn', hname, hbody⟩
    left
    rw [hnodes] at hn'
    by_cases hi : i = id
    · subst hi
      rw [if_pos rfl] at hn'
      cases hn'
      have hrevised := hm.body
      rw [hbody] at hrevised
      obtain ⟨c, hc, hcd⟩ := hrevised.of_condition
      exact ⟨c, ⟨n, hn, hm.browseName.symm.trans hname, hc⟩, hcd⟩
    · rw [if_neg hi] at hn'
      exact ⟨d, ⟨n', hn', hname, hbody⟩, .inl rfl⟩
  | @places id n _ hn _ _ hnodes _ _ _ =>
    refine ⟨id, ?_⟩
    rintro i name d ⟨n', hn', hname, hbody⟩
    obtain ⟨extra, -, hfind⟩ := hnodes i
    rw [hfind] at hn'
    obtain ⟨n₀, hn₀, rfl⟩ := Option.map_eq_some_iff.1 hn'
    by_cases hi : i = id
    · right
      rw [if_pos hi] at hn₀
      cases hn₀
      cases hn with
      | condition type sourceName now hfree =>
        cases hbody
        cases hname
        exact ⟨hi, ConditionState.wellTyped_create _ _ _ _ _, hfree⟩
      | _ => cases hbody
    · left
      rw [if_neg hi] at hn₀
      exact ⟨d, ⟨n₀, hn₀, hname, hbody⟩, .inl rfl⟩
  | @deletes id refs _ hnodes _ _ _ =>
    refine ⟨id, ?_⟩
    rintro i name d ⟨n', hn', hname, hbody⟩
    left
    rw [hnodes] at hn'
    obtain ⟨-, hn'⟩ := Option.ite_none_left_eq_some.1 hn'
    obtain ⟨n, hn, rfl⟩ := Option.map_eq_some_iff.1 hn'
    refine ⟨d, ⟨n, hn, ?_, ?_⟩, .inl rfl⟩
    · cases refs <;> exact hname
    · cases refs <;> exact hbody
  | @watches id _ _ hnodes _ _ _ =>
    refine ⟨id, ?_⟩
    rintro i name d ⟨n', hn', hname, hbody⟩
    exact .inl ⟨d, ⟨n', hnodes ▸ hn', hname, hbody⟩, .inl rfl⟩
  | @installs hook _ _ _ hnodes _ _ _ =>
    refine ⟨hook.condition, ?_⟩
    rintro i name d ⟨n', hn', hname, hbody⟩
    exact .inl ⟨d, ⟨n', hnodes ▸ hn', hname, hbody⟩, .inl rfl⟩

/-- All conditions are well-typed, and no two of one source have one name. -/
structure WellTyped (sp : AddressSpace β) : Prop where
  /-- The conditions are well-typed. -/
  conditions : ∀ i c, sp.condition i = .ok c → c.WellTyped
  /-- A condition is determined by its source and its name. -/
  distinct : ∀ i j c d name, sp.condition i = .ok c → sp.condition j = .ok d →
    sp.browseName i = .ok name → sp.browseName j = .ok name → c.source = d.source → i = j

/-- A new server has no condition that could be ill-typed. -/
theorem wellTyped_initial : (initial : AddressSpace β).WellTyped := by
  have hnone : ∀ i c, (initial : AddressSpace β).condition i ≠ .ok c := by
    intro i c hc
    obtain ⟨n, hn, hbody⟩ := condition_eq_ok_iff.1 hc
    rw [(object_of_initial hn).1] at hbody
    cases hbody
  refine ⟨?_, ?_⟩
  · intro i c hc
    exact absurd hc (hnone i c)
  · intro i j c d name hc
    exact absurd hc (hnone i c)

/-- A change keeps all conditions well-typed and distinct. -/
theorem WellTyped.of_effect (h : sp.WellTyped) {ch : Change β} (he : ch.Effect sp sp') :
    sp'.WellTyped := by
  obtain ⟨id, horigin⟩ := hasCondition_origin he
  have hsource : ∀ {c d : ConditionState}, d = c ∨ c.Revised d → d.source = c.source := by
    rintro c d (rfl | hd)
    · rfl
    · exact hd.source
  refine ⟨?_, ?_⟩
  · intro i d hd
    obtain ⟨n, hn, hbody⟩ := condition_eq_ok_iff.1 hd
    rcases horigin ⟨n, hn, rfl, hbody⟩ with ⟨c, hc, rfl | hcd⟩ | ⟨-, hd, -⟩
    · exact h.conditions i d (hasCondition_iff.1 hc).1
    · exact (h.conditions i c (hasCondition_iff.1 hc).1).revised hcd
    · exact hd
  · intro i j c d name hc hd hi hj hcd
    rcases horigin (hasCondition_iff.2 ⟨hc, hi⟩) with ⟨c₀, hc₀, hcc⟩ | ⟨rfl, -, hfree⟩
    · rcases horigin (hasCondition_iff.2 ⟨hd, hj⟩) with ⟨d₀, hd₀, hdd⟩ | ⟨rfl, -, hfree⟩
      · have hsame : c₀.source = d₀.source := by
          rw [← hsource hcc, ← hsource hdd, hcd]
        obtain ⟨hc₁, hi₁⟩ := hasCondition_iff.1 hc₀
        obtain ⟨hd₁, hj₁⟩ := hasCondition_iff.1 hd₀
        exact h.distinct i j c₀ d₀ name hc₁ hd₁ hi₁ hj₁ hsame
      · rw [← hcd, hsource hcc, hc₀.hasConditionNamed] at hfree
        cases hfree
    · rcases horigin (hasCondition_iff.2 ⟨hd, hj⟩) with ⟨d₀, hd₀, hdd⟩ | ⟨rfl, -, -⟩
      · rw [hcd, hsource hdd, hd₀.hasConditionNamed] at hfree
        cases hfree
      · rfl

end AddressSpace

/-- A stretch keeps all conditions well-typed and distinct. -/
theorem System.Stretch.Genuine.wellTyped {st : (requests β).Stretch} (hst : st.Genuine)
    (h : st.before.space.WellTyped) : st.after.space.WellTyped :=
  hst.preserves (fun he hp => hp.of_effect he) h

/-- In a run from a new server all conditions are well-typed and distinct, at every moment. -/
theorem System.Run.wellTyped {ambient : Ambient} {trace : List (requests β).Stretch}
    {d : (requests β).Config} (h : System.Run (.idle (requests β) (.create ambient)) trace d) :
    d.state.space.WellTyped :=
  h.invariant (P := fun _ s => s.space.WellTyped) AddressSpace.wellTyped_initial
    fun _ _ _ _ hst => hst.wellTyped

/-- Conditions are well-typed and distinct after any run. What can be read of a condition are
exactly the names that its type declares. Its essential fields read as values of their data types
and not as the empty one. So an event that is published takes its time from the field, not from the
clock. -/
theorem wellTyped_of_run {ambient : Ambient} {trace : List (requests β).Stretch}
    {d : (requests β).Config} (h : System.Run (.idle (requests β) (.create ambient)) trace d) :
    d.state.space.WellTyped ∧ ∀ i c, d.state.space.condition i = .ok c →
      (∀ name, (∃ v, d.state.space.readField i name = .ok v) ↔ c.type.Declares name.name) ∧
      (∀ f ∈ Field.essential, ∃ v, d.state.space.readField i (.standard f.name) = .ok v ∧
        v.dataType = f.dataType ∧ v ≠ .empty) ∧
      ∀ source eventId now, ∃ sp e, d.state.space.publish i source eventId now = .ok sp ∧
        sp.events = d.state.space.events ++ [e] ∧
        d.state.space.readField i (.standard Field.time.name) = .ok (.dateTime e.time) := by
  refine ⟨h.wellTyped, ?_⟩
  intro i c hc
  have htyped := h.wellTyped.conditions i c hc
  have hread := AddressSpace.readField_of_condition hc
  have hfield : ∀ f ∈ Field.essential, c.read f.name = .ok (c.field f) := by
    intro f hf
    exact ConditionState.read_field_eq_ok_iff.2 ⟨c.mem_fields_of_essential hf, rfl⟩
  refine ⟨?_, ?_, ?_⟩
  · intro name
    rw [hread]
    exact htyped.read_iff name.name
  · intro f hf
    refine ⟨c.field f, (hread _).trans (hfield f hf), htyped.dataType_field hf, ?_⟩
    intro hempty
    have htype := htyped.dataType_field hf
    rw [hempty] at htype
    exact f.dataType_ne_empty htype.symm
  · intro source eventId now
    refine ⟨_, (c.noted eventId now).event i source eventId now,
      AddressSpace.publish_eq_ok_iff.2 ⟨c, hc, rfl⟩, rfl, ?_⟩
    have hsame : c.field .time = (c.noted eventId now).field .time := by
      simp [ConditionState.field, ConditionState.noted, Table.find?_insert]
    rw [hread]
    refine (hfield .time (by decide)).trans ?_
    rw [hsame, (htyped.noted eventId now).time_event]

/-- A condition has been created, and nobody has written its message. It can be read, and is a text.
-/
theorem wellTyped_reserved :
    ∃ d, System.Run (.idle (requests Unit) (.create (.start ⟨0, 0⟩))) [reserved (.numeric 1 1)] d ∧
      ∃ v, d.state.space.readField (.numeric 1 1) (.standard "Message") = .ok v ∧
        v.dataType = .localizedText := by
  let st := reserved (.numeric 1 1)
  have hrun : System.Run (.idle (requests Unit) (.create (.start ⟨0, 0⟩))) [st] ⟨st.after, 1, []⟩ :=
    .cons (.request_of_ends ⟨_, _, rfl⟩ 0 []) (.nil _)
  obtain ⟨c, hc⟩ : ∃ c, st.after.space.condition (.numeric 1 1) = .ok c := ⟨_, rfl⟩
  obtain ⟨-, hessential, -⟩ := (wellTyped_of_run hrun).2 _ c hc
  obtain ⟨v, hv, htype, -⟩ := hessential .message (by decide)
  exact ⟨_, hrun, v, hv, htype⟩

end AlarmServer
