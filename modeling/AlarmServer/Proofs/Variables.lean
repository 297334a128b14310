import AlarmServer.Proofs.Revisions
import AlarmServer.Proofs.Roles

/-!
# Variables

What a variable keeps from its begin to its end, and what a write of it does. Its level never
changes. It may begin without a value; the first value that is stored gives it a data type, and that
stays. Nothing but writes that succeed changes the value, and they need the right to write.

A write stores the value first and then calls whoever watches the variable: the callback that was
set last since the variable was added. While that runs, the variable may be written again, watched
by another, or deleted; the write succeeds all the same.
-/

namespace AlarmServer

open Interaction (After found)

variable {β : Type}

/-! ### Variables and watchers under changes -/

namespace AddressSpace

variable {sp sp' : AddressSpace β} {i id : NodeId}

/-- A change of a node that leaves it a variable of the same state, or none. -/
theorem variableAt_modifyNode {f : Node → Node}
    (hf : ∀ n, sp.nodes.find? id = some n → (f n).asVariable = n.asVariable) (i : NodeId) :
    (sp.modifyNode id f).variableAt i = sp.variableAt i := by
  unfold variableAt node modifyNode
  rw [Table.find?_modify]
  by_cases hi : i = id
  · rw [if_pos hi, hi]
    cases hn : sp.nodes.find? id with
    | none => rfl
    | some n => exact hf n hn
  · rw [if_neg hi]

/-- A condition is no variable, in whatever state. -/
theorem variableAt_setCondition {c : ConditionState} (hc : sp.condition id = .ok c)
    (d : ConditionState) (i : NodeId) : (sp.setCondition id d).variableAt i = sp.variableAt i := by
  refine variableAt_modifyNode (fun n hn => ?_) i
  obtain ⟨n', hn', hbody⟩ := condition_eq_ok_iff.1 hc
  cases hn.symm.trans hn'
  simp [Node.asVariable, hbody]

/-- Another node is deleted. -/
theorem variableAt_deleteNode {refs : Bool} (h : sp.deleteNode id refs = .ok sp') (hi : i ≠ id) :
    sp'.variableAt i = sp.variableAt i := by
  obtain ⟨-, rfl⟩ := deleteNode_eq_ok_iff.1 h
  unfold variableAt node
  cases refs with
  | false => simp only [Bool.false_eq_true, if_false, Table.find?_erase, if_neg hi]
  | true =>
    simp only [if_true, Table.find?_mapValues, Table.find?_erase, if_neg hi]
    cases sp.nodes.find? i <;> rfl

/-- The value that is stored. -/
theorem variableAt_writeValue {x : Variant} (h : sp.writeValue id x = .ok sp') :
    ∃ v, sp.variableAt id = .ok v ∧ v.level.canWrite = true ∧
      (v.value = .empty ∨ x.dataType = v.value.dataType) ∧
      sp'.variableAt id = .ok { v with value := x } ∧
      ∀ i, i ≠ id → sp'.variableAt i = sp.variableAt i := by
  obtain ⟨v, hv, hlevel, htype, rfl⟩ := writeValue_eq_ok_iff.1 h
  obtain ⟨n, hn, hbody⟩ := variableAt_eq_ok_iff.1 hv
  refine ⟨v, hv, hlevel, ?_, ?_, ?_⟩
  · rw [Bool.or_eq_true, Variant.isEmpty_iff, decide_eq_true_eq] at htype
    exact htype.imp_right Eq.symm
  · refine variableAt_eq_ok_iff.2 ⟨{ n with body := .variable { v with value := x } }, ?_, rfl⟩
    simp only [modifyNode, Table.find?_modify, if_true, hn, Option.map_some]
  · intro i hi
    unfold variableAt node modifyNode
    rw [Table.find?_modify, if_neg hi]

end AddressSpace

namespace Change

variable {ch : Change β} {sp sp' : AddressSpace β} {i : NodeId}

/-- All changes but writes, deletions and new nodes leave the variables alone. -/
theorem variableAt_of_apply (hp : ¬ ch.Places) (hd : ∀ refs, ch ≠ .deleteNode i refs)
    (hw : ∀ x, ch ≠ .writeValue i x) (h : ch.apply sp = .ok sp') :
    sp'.variableAt i = sp.variableAt i := by
  cases ch with
  | addObject | addVariable | createCondition => exact absurd trivial hp
  | setNotifier id notifier =>
    obtain ⟨-, rfl⟩ := AddressSpace.setNotifier_eq_ok_iff.1 h
    exact AddressSpace.variableAt_modifyNode
      (f := fun n => { n with notifier := notifier }) (fun _ _ => rfl) i
  | addReference source target type =>
    obtain ⟨-, -, -, rfl⟩ := AddressSpace.addReference_eq_ok_iff.1 h
    refine AddressSpace.variableAt_modifyNode (fun n _ => ?_) i
    unfold Node.referOnce
    split <;> rfl
  | writeValue id x =>
    obtain ⟨-, -, -, -, -, hothers⟩ := AddressSpace.variableAt_writeValue h
    exact hothers i fun hi => hw x (hi ▸ rfl)
  | watch id callback =>
    obtain ⟨-, rfl⟩ := AddressSpace.watch_eq_ok_iff.1 h
    rfl
  | deleteNode id refs =>
    exact AddressSpace.variableAt_deleteNode h fun hi => hd refs (hi ▸ rfl)
  | writeField id field value =>
    obtain ⟨c, f, hc, -, rfl⟩ := AddressSpace.writeField_eq_ok_iff.1 h
    exact AddressSpace.variableAt_setCondition hc _ i
  | commit id kind value now =>
    obtain ⟨c, _, hc, -, rfl⟩ := AddressSpace.commit_eq_ok_iff.1 h
    exact AddressSpace.variableAt_setCondition hc _ i
  | setTransitionTime id kind time =>
    obtain ⟨c, _, hc, -, rfl⟩ := AddressSpace.setTransitionTime_eq_ok_iff.1 h
    exact AddressSpace.variableAt_setCondition hc _ i
  | installHook hook =>
    obtain ⟨_, -, -, -, rfl⟩ := AddressSpace.installHook_eq_ok_iff.1 h
    rfl
  | publish id source eventId now =>
    obtain ⟨c, hc, rfl⟩ := AddressSpace.publish_eq_ok_iff.1 h
    exact AddressSpace.variableAt_setCondition hc (c.noted eventId now) i

/-- Only watches and deletions change who watches. -/
theorem watchers_of_apply (hd : ∀ id refs, ch ≠ .deleteNode id refs)
    (hw : ∀ id callback, ch ≠ .watch id callback) (h : ch.apply sp = .ok sp') :
    sp'.watchers = sp.watchers := by
  cases ch with
  | addObject parent name =>
    obtain ⟨⟨id, sp₁⟩, hadd, rfl⟩ := except_map_eq_ok_iff.1 h
    obtain ⟨-, rfl, rfl⟩ := AddressSpace.addPart_eq_ok_iff.1 hadd
    rfl
  | addVariable parent name value level =>
    obtain ⟨⟨id, sp₁⟩, hadd, rfl⟩ := except_map_eq_ok_iff.1 h
    obtain ⟨-, rfl, rfl⟩ := AddressSpace.addPart_eq_ok_iff.1 hadd
    rfl
  | createCondition now r =>
    obtain ⟨⟨id, sp₂⟩, hadd, rfl⟩ := except_map_eq_ok_iff.1 h
    obtain ⟨type, source, sp₁, -, -, -, -, hid, rfl⟩ :=
      AddressSpace.createCondition_eq_ok_iff.1 hadd
    have hsame : sp₁.watchers = sp.watchers := by
      rcases AddressSpace.conditionId_eq_ok_iff.1 hid with ⟨-, -, -, rfl⟩ | ⟨-, ha⟩
      · rfl
      · obtain ⟨-, rfl⟩ := Prod.mk.inj ha
        rfl
    cases r.parentReference <;> exact hsame
  | deleteNode id refs => exact absurd rfl (hd id refs)
  | watch id callback => exact absurd rfl (hw id callback)
  | setNotifier id notifier =>
    obtain ⟨-, rfl⟩ := AddressSpace.setNotifier_eq_ok_iff.1 h
    rfl
  | addReference source target type =>
    obtain ⟨-, -, -, rfl⟩ := AddressSpace.addReference_eq_ok_iff.1 h
    rfl
  | writeValue id x =>
    obtain ⟨_, -, -, -, rfl⟩ := AddressSpace.writeValue_eq_ok_iff.1 h
    rfl
  | writeField id field value =>
    obtain ⟨_, _, -, -, rfl⟩ := AddressSpace.writeField_eq_ok_iff.1 h
    rfl
  | commit id kind value now =>
    obtain ⟨_, _, -, -, rfl⟩ := AddressSpace.commit_eq_ok_iff.1 h
    rfl
  | setTransitionTime id kind time =>
    obtain ⟨_, _, -, -, rfl⟩ := AddressSpace.setTransitionTime_eq_ok_iff.1 h
    rfl
  | installHook hook =>
    obtain ⟨_, -, -, -, rfl⟩ := AddressSpace.installHook_eq_ok_iff.1 h
    rfl
  | publish id source eventId now =>
    obtain ⟨_, -, rfl⟩ := AddressSpace.publish_eq_ok_iff.1 h
    rfl

end Change

/-! ### Writes -/

private theorem Service.writeValue_run (i : NodeId) (x : Variant) (s : Server β) :
    (Service.writeValue i x).run s = match s.space.writeValue i x with
      | .error e => .done (.error e) s
      | .ok sp => match s.space.watchers.find? i with
        | none => .done (.ok ()) (s.withSpace sp)
        | some callback => .ask (.written callback i x) (s.withSpace sp) fun _ t =>
            .done (.ok ()) t := by
  unfold Service.writeValue
  rw [act_bind_run (SpaceAction.checksFirst_writeValue i x)]
  show _ = match (SpaceAction.writeValue i x).effect s.space with
    | .error e => _
    | .ok sp => _
  cases hw : (SpaceAction.writeValue i x).effect s.space with
  | error e => rfl
  | ok sp =>
    obtain ⟨_, -, -, -, rfl⟩ := AddressSpace.writeValue_eq_ok_iff.1 hw
    show (get >>= _ : Service β Unit).run _ = _
    rw [get_bind_run]
    show (match s.space.watchers.find? i with
      | none => pure ()
      | some callback => liftM (ServerAction.notify callback i x) : Service β Unit).run _ = _
    cases s.space.watchers.find? i with
    | none => rfl
    | some callback => rfl

/-- What a stretch of a write of a variable comes to, with whoever watches when the write begins. -/
inductive WriteCourse (i : NodeId) (x : Variant) (watcher : Option β) (before : Server β) :
    List (Exchange (upcalls β) (Server β)) →
    Interaction (upcalls β) (Server β) (Except StatusCode Unit) → Prop where
  /-- The write is refused. Nothing changes, and nobody is called. -/
  | refused {e : StatusCode} (h : before.space.writeValue i x = .error e) :
      WriteCourse i x watcher before [] (.done (.error e) before)
  /-- The value is stored, and nobody watches. -/
  | unwatched {t : Server β} (hw : watcher = none)
      (ht : before.space.writeValue i x = .ok t.space) (hread : t.space.readValue i = .ok x) :
      WriteCourse i x watcher before [] (.done (.ok ()) t)
  /-- The value is stored, and the watcher is called and can read it. -/
  | called {callback : β} {t : Server β} {resume : Unit → Server β → _}
      (hw : watcher = some callback) (ht : before.space.writeValue i x = .ok t.space)
      (hread : t.space.readValue i = .ok x) :
      WriteCourse i x watcher before [] (.ask (.written callback i x) t resume)
  /-- The watcher has returned, and the write succeeds. -/
  | returned {callback : β} {asked left : Server β} {answer : Unit} (hw : watcher = some callback)
      (hleft : before = left) :
      WriteCourse i x watcher before [⟨.written callback i x, asked, answer, left⟩]
        (.done (.ok ()) left)

private theorem writeCourse_of_after {i : NodeId} {x : Variant} {s : Server β} {es : List _}
    {y : Interaction (upcalls β) (Server β) (Except StatusCode Unit)}
    (h : After ((Service.writeValue i x).run s) es y) :
    WriteCourse i x (s.space.watchers.find? i) (found s es) es y := by
  rw [Service.writeValue_run] at h
  cases hw : s.space.writeValue i x with
  | error e =>
    rw [hw] at h
    obtain ⟨rfl, rfl⟩ := Interaction.after_done_iff.1 h
    exact .refused hw
  | ok sp =>
    rw [hw] at h
    have hread : sp.readValue i = .ok x := by
      obtain ⟨v, -, -, -, hv, -⟩ := AddressSpace.variableAt_writeValue hw
      rw [AddressSpace.readValue, hv]
      rfl
    cases hwatcher : s.space.watchers.find? i with
    | none =>
      rw [hwatcher] at h
      obtain ⟨rfl, rfl⟩ := Interaction.after_done_iff.1 h
      exact .unwatched rfl hw hread
    | some callback =>
      rw [hwatcher] at h
      rcases Interaction.after_ask_iff.1 h with ⟨rfl, rfl⟩ | ⟨answer, t, fs, rfl, h'⟩
      · exact .called rfl hw hread
      · obtain ⟨rfl, rfl⟩ := Interaction.after_done_iff.1 h'
        exact .returned rfl rfl

/-- A write calls one watcher at most. -/
theorem WriteCourse.length_le {i : NodeId} {x : Variant} {watcher : Option β} {before : Server β}
    {es : List _} {y : Interaction (upcalls β) (Server β) (Except StatusCode Unit)}
    (h : WriteCourse i x watcher before es y) : es.length ≤ 1 := by
  cases h <;> simp

/-! ### What a stretch makes of a variable -/

namespace Request

/-- The value that the request stores in a variable, in the stretch in which it does. -/
def stores? (i : NodeId) : (r : Request β) → List (Exchange (upcalls β) (Server β)) →
    Interaction (upcalls β) (Server β) (Except StatusCode r.Reply) → Option Variant
  | writeValue j x, [], .done (.ok _) _ => if j = i then some x else none
  | writeValue j x, [], .ask .. => if j = i then some x else none
  | _, _, _ => none

/-- The callback that the request sets to watch a variable. -/
def watches? (i : NodeId) : (r : Request β) →
    Interaction (upcalls β) (Server β) (Except StatusCode r.Reply) → Option β
  | watch j callback, .done (.ok _) _ => if j = i then some callback else none
  | _, _ => none

/-- Does the stretch, if it is one of a write, come to what a write comes to? -/
def Writes (watcher : NodeId → Option β) (before : Server β) : (r : Request β) →
    List (Exchange (upcalls β) (Server β)) →
    Interaction (upcalls β) (Server β) (Except StatusCode r.Reply) → Prop
  | writeValue i x, es, y => WriteCourse i x (watcher i) before es y
  | _, _, _ => True

end Request

namespace System.Stretch

variable (st : (requests β).Stretch) (i : NodeId)

/-- The value that the stretch stores in a variable. -/
def stores? : Option Variant := Request.stores? i st.request st.answered st.outcome

/-- Who watches a variable from the stretch on, if it says so: nobody where its node is placed or
deleted, or else the callback that is set. -/
def watches? : Option (Option β) :=
  if st.placed? = some i ∨ st.deletes? = some i then some none
  else (Request.watches? i st.request st.outcome).map some

/-- Is the stretch, if it is one of a write, as it is to be? -/
def Writes (watcher : NodeId → Option β) : Prop :=
  Request.Writes watcher st.before st.request st.answered st.outcome

end System.Stretch

/-- Who watches a variable after some stretches: the callback set last since its node was placed. -/
def watcherAfter (trace : List (requests β).Stretch) (i : NodeId) : Option β :=
  (System.latest (·.watches? i) trace).getD none

/-- A variable has become another, and this value was stored in it last, if any was. -/
structure VariableState.Ages (last : Option Variant) (v w : VariableState) : Prop where
  /-- The level is as it was. -/
  level : w.level = v.level
  /-- Only stores change the value. -/
  value : w.value = last.getD v.value
  /-- A value has come to stay, and its data type with it. -/
  typed : v.value ≠ .empty → w.value ≠ .empty ∧ w.value.dataType = v.value.dataType
  /-- Nothing is stored without the right to write. -/
  allowed : last.isSome = true → v.level.canWrite = true

private theorem VariableState.Ages.refl (v : VariableState) : Ages none v v :=
  ⟨rfl, rfl, fun h => ⟨h, rfl⟩, fun h => nomatch h⟩

private theorem VariableState.Ages.trans {u v w : VariableState} {a b : Option Variant}
    (h : Ages a u v) (h' : Ages b v w) : Ages (b.or a) u w := by
  refine ⟨h'.level.trans h.level, ?_, fun hu => ?_, fun hlast => ?_⟩
  · rw [h'.value, h.value, Option.getD_or]
  · obtain ⟨hv, htype⟩ := h.typed hu
    obtain ⟨hw, htype'⟩ := h'.typed hv
    exact ⟨hw, htype'.trans htype⟩
  · rcases Bool.or_eq_true_iff.1 (Option.isSome_or ▸ hlast) with hb | ha
    · exact h.level ▸ h'.allowed hb
    · exact h.allowed ha

/-- A write stores a value of the data type that has come to stay. -/
theorem VariableState.Ages.stored {v : VariableState} {x : Variant}
    (hlevel : v.level.canWrite = true)
    (htype : v.value = .empty ∨ x.dataType = v.value.dataType) :
    Ages (some x) v { v with value := x } := by
  refine ⟨rfl, rfl, fun hv => ?_, fun _ => hlevel⟩
  have htype := htype.resolve_left hv
  refine ⟨fun hx => hv ?_, htype⟩
  rw [← Variant.isEmpty_iff, Variant.isEmpty, decide_eq_true_eq, ← htype]
  exact congrArg Variant.dataType hx

section

variable {st : (requests β).Stretch} {i : NodeId}

/-- A new node leaves the variables alone that have another identifier. -/
theorem AddressSpace.Adds.variableAt {links : List Link} {requested : Option NodeId} {id : NodeId}
    {sp sp' : AddressSpace β} (h : Adds links requested id sp sp') (hi : i ≠ id) :
    sp'.variableAt i = sp.variableAt i := by
  obtain ⟨extra, -, hfind⟩ := h.others i hi
  unfold AddressSpace.variableAt node
  rw [hfind]
  cases sp.nodes.find? i <;> rfl

private theorem variableAt_of_quiet (h : st.Genuine) {n : Nat} (hn : st.before.space.Unspent n)
    {v : VariableState} (hv : st.before.space.variableAt i = .ok v)
    (hd : ∀ refs, st.request ≠ Request.call (.deleteNode i refs))
    (hw : ∀ x, st.request ≠ Request.writeValue i x) :
    st.after.space.variableAt i = st.before.space.variableAt i := by
  obtain ⟨m, hm, -⟩ := AddressSpace.variableAt_eq_ok_iff.1 hv
  have hadds {links : List Link} {requested : Option NodeId} {id : NodeId}
      {sp' : AddressSpace β} (ha : AddressSpace.Adds links requested id st.before.space sp') :
      sp'.variableAt i = st.before.space.variableAt i := by
    refine ha.variableAt fun hi => ?_
    have hfree := hn.free_of_adds ha
    rw [← hi, Table.contains, hm] at hfree
    cases hfree
  have hp : Request.Placement st.request st.before.space _ st.after.space := h.placement
  generalize Request.given? st.request st.outcome = given at hp
  cases hp with
  | created ha => exact hadds ha
  | abandoned _ _ ha => exact hadds ha
  | none _ hsame =>
    by_cases hc : Request.Creates st.request
    · rw [hsame hc]
    · refine h.changed.same (·.variableAt i) fun ch sp sp' hm ha => ?_
      refine ch.variableAt_of_apply (Request.not_places_of_may hc hm) ?_ ?_ ha
      · rintro refs rfl
        exact hd refs (Request.eq_deleteNode_of_may hm)
      · rintro x rfl
        generalize st.request = r at hm hw
        cases Request.makes_of_may hm
        exact hw _ rfl

private theorem stores?_of_ne {j : NodeId} (hj : j ≠ i) (x : Variant)
    (es : List (Exchange (upcalls β) (Server β)))
    (y : Interaction (upcalls β) (Server β) (Except StatusCode Unit)) :
    Request.stores? i (.writeValue j x) es y = none := by
  cases es with
  | cons e es => rfl
  | nil =>
    cases y with
    | done a t => cases a <;> simp [Request.stores?, hj]
    | ask q t k => simp [Request.stores?, hj]

private theorem ages_of_writeCourse {x : Variant} {watcher : Option β} {before : Server β}
    {es : List _} {y : Interaction (upcalls β) (Server β) (Except StatusCode Unit)}
    (h : WriteCourse i x watcher before es y) {v : VariableState}
    (hv : before.space.variableAt i = .ok v) :
    ∃ w, y.state.space.variableAt i = .ok w ∧
      v.Ages (Request.stores? i (.writeValue i x : Request β) es y) w := by
  have hstored {t : Server β} (ht : before.space.writeValue i x = .ok t.space) :
      ∃ w, t.space.variableAt i = .ok w ∧ v.Ages (some x) w := by
    obtain ⟨v', hv', hlevel, htype, hw, -⟩ := AddressSpace.variableAt_writeValue ht
    cases hv.symm.trans hv'
    exact ⟨_, hw, .stored hlevel htype⟩
  cases h with
  | refused _ => exact ⟨v, hv, .refl v⟩
  | unwatched _ ht _ =>
    show ∃ w, _ ∧ v.Ages (if i = i then some x else none) w
    rw [if_pos rfl]
    exact hstored ht
  | called _ ht _ =>
    show ∃ w, _ ∧ v.Ages (if i = i then some x else none) w
    rw [if_pos rfl]
    exact hstored ht
  | returned _ hleft => exact ⟨v, hleft ▸ hv, .refl v⟩

/-- What a stretch makes of a variable that it does not delete. -/
theorem System.Stretch.Genuine.ages (h : st.Genuine) {n : Nat} (hn : st.before.space.Unspent n)
    (hd : st.deletes? ≠ some i) {v : VariableState}
    (hv : st.before.space.variableAt i = .ok v) :
    ∃ w, st.after.space.variableAt i = .ok w ∧ v.Ages (st.stores? i) w := by
  have hquiet := variableAt_of_quiet h hn hv
  obtain ⟨serial, r, s, es, before, y⟩ := st
  have hbefore : before = found s es := h.before
  have hafter : After ((Request.perform r).run s) es y := h.outcome
  have hsame (hd : ∀ refs, r ≠ Request.call (.deleteNode i refs))
      (hw : ∀ x, r ≠ Request.writeValue i x) : ∃ w, y.state.space.variableAt i = .ok w ∧
        v.Ages none w := by
    exact ⟨v, (hquiet hd hw).trans hv, .refl v⟩
  cases r with
  | writeValue j x =>
    by_cases hj : j = i
    · subst hj hbefore
      exact ages_of_writeCourse (writeCourse_of_after hafter) hv
    · obtain ⟨w, hw, hages⟩ := hsame (fun _ he => nomatch he) (fun _ he => hj (by cases he; rfl))
      exact ⟨w, hw, (congrArg (v.Ages · w) (stores?_of_ne hj x es y)).mpr hages⟩
  | call c =>
    cases c with
    | deleteNode id refs =>
      by_cases hid : id = i
      · subst hid hbefore
        rcases deletes?_or_same hafter with ⟨hdeletes, -⟩ | ⟨-, hspace⟩
        · exact absurd hdeletes hd
        · exact ⟨v, (congrArg (·.variableAt id) hspace).trans hv, .refl v⟩
      · exact hsame (fun _ he => hid (by cases he; rfl)) (fun _ he => nomatch he)
    | _ => exact hsame (fun _ he => nomatch he) (fun _ he => nomatch he)
  | _ => exact hsame (fun _ he => nomatch he) (fun _ he => nomatch he)

end

/-! ### Who watches -/

/-- Whatever is watched is there. -/
def AddressSpace.WatchesNodes (sp : AddressSpace β) : Prop :=
  ∀ i, sp.nodes.contains i = false → sp.watchers.find? i = none

private theorem AddressSpace.WatchesNodes.of_effect {ch : Change β} {sp sp' : AddressSpace β}
    (he : ch.Effect sp sp') (h : sp.WatchesNodes) : sp'.WatchesNodes := by
  intro i hi
  rw [Table.contains] at hi
  cases he with
  | @revises id n m hn hm hnodes _ hwatchers _ =>
    rw [hwatchers]
    refine h i ?_
    rw [hnodes] at hi
    split at hi
    · cases hi
    · exact hi
  | places _ _ _ _ hnodes _ hwatchers _ =>
    rw [hwatchers]
    refine h i ?_
    obtain ⟨extra, -, hfind⟩ := hnodes i
    rw [hfind, Option.isSome_map] at hi
    split at hi
    · cases hi
    · exact hi
  | deletes _ hnodes _ hwatchers _ =>
    rw [hwatchers]
    split
    · rfl
    · next hid =>
      refine h i ?_
      rw [hnodes, if_neg hid, Option.isSome_map] at hi
      exact hi
  | @watches id callback hid hnodes _ hwatchers _ =>
    rw [hnodes] at hi
    have hne : i ≠ id := by
      rintro rfl
      rw [Table.contains, hi] at hid
      cases hid
    rw [hwatchers, Table.find?_insert, if_neg hne]
    exact h i hi
  | installs _ _ hnodes _ hwatchers _ =>
    rw [hwatchers]
    refine h i ?_
    rw [hnodes] at hi
    exact hi

section

variable {st : (requests β).Stretch} {i : NodeId}

private theorem watchers_of_quiet (h : st.Genuine)
    (hd : ∀ id refs, st.request ≠ Request.call (.deleteNode id refs))
    (hw : ∀ id callback, st.request ≠ Request.watch id callback) :
    st.after.space.watchers = st.before.space.watchers := by
  refine h.changed.same AddressSpace.watchers fun ch sp sp' hm ha => ?_
  refine ch.watchers_of_apply ?_ ?_ ha
  · rintro id refs rfl
    exact hd id refs (Request.eq_deleteNode_of_may hm)
  · rintro id callback rfl
    generalize st.request = r at hm hw
    cases Request.makes_of_may hm
    exact hw _ _ rfl

private theorem find?_of_watch {id : NodeId} {callback : β} {s : Server β} {es : List _}
    {y : Interaction (upcalls β) (Server β) (Except StatusCode Unit)}
    (h : After ((Request.watch id callback : Request β).perform.run s) es y) :
    y.state.space.watchers.find? i =
      ((Request.watches? i (.watch id callback) y).map some).getD
        ((found s es).space.watchers.find? i) := by
  obtain ⟨rfl, hy⟩ :=
    (Service.immediate_act_unit (SpaceAction.checksFirst_watch id callback) s).of_after h
  cases hy with
  | failed e => rfl
  | @succeeded _ t hset =>
    obtain ⟨-, hspace⟩ := AddressSpace.watch_eq_ok_iff.1 hset
    show t.space.watchers.find? i =
      ((if id = i then some callback else none).map some).getD (s.space.watchers.find? i)
    rw [hspace]
    show (s.space.watchers.insert id callback).find? i = _
    rw [Table.find?_insert]
    by_cases hi : id = i
    · simp [hi]
    · simp [hi, Ne.symm hi]

private theorem find?_of_deleteNode {id : NodeId} {refs : Bool} {s : Server β} {es : List _}
    {y : Interaction (upcalls β) (Server β) (Except StatusCode Unit)}
    (h : After ((Request.call (.deleteNode id refs) : Request β).perform.run s) es y) :
    y.state.space.watchers.find? i =
      if Request.deletes? (.call (.deleteNode id refs)) y = some i then none
      else (found s es).space.watchers.find? i := by
  rcases deletes?_or_same h with ⟨hdeletes, hdelete⟩ | ⟨hdeletes, hspace⟩
  · obtain ⟨-, hspace⟩ := AddressSpace.deleteNode_eq_ok_iff.1 hdelete
    rw [hdeletes, hspace]
    show ((found s es).space.watchers.erase id).find? i = _
    rw [Table.find?_erase]
    simp only [Option.some_inj, eq_comm]
  · rw [hdeletes, hspace, if_neg (Option.some_ne_none i).symm]

/-- A stretch leaves those who watch as it says. -/
theorem System.Stretch.Genuine.watcher (h : st.Genuine)
    (hnew : st.placed? = some i → st.before.space.watchers.find? i = none) :
    st.after.space.watchers.find? i =
      (st.watches? i).getD (st.before.space.watchers.find? i) := by
  have hquiet := watchers_of_quiet h
  have hnone := h.placed?_eq_none
  have hsame (hd : ∀ id refs, st.request ≠ Request.call (.deleteNode id refs))
      (hw : ∀ id callback, st.request ≠ Request.watch id callback) (hdeletes : st.deletes? = none)
      (hwatches : Request.watches? i st.request st.outcome = none) :
      st.after.space.watchers.find? i =
        (st.watches? i).getD (st.before.space.watchers.find? i) := by
    rw [hquiet hd hw, System.Stretch.watches?, hdeletes, hwatches]
    by_cases hp : st.placed? = some i
    · simp [hp, hnew hp]
    · simp [hp]
  obtain ⟨serial, r, s, es, before, y⟩ := st
  have hbefore : before = found s es := h.before
  have hafter : After ((Request.perform r).run s) es y := h.outcome
  cases r with
  | watch id callback =>
    subst hbefore
    rw [System.Stretch.watches?, hnone not_false]
    exact find?_of_watch hafter
  | call c =>
    cases c with
    | deleteNode id refs =>
      subst hbefore
      rw [System.Stretch.watches?, hnone not_false]
      refine (find?_of_deleteNode hafter).trans ?_
      show _ = (if none = some i ∨ Request.deletes? (.call (.deleteNode id refs)) y = some i then
        some none else none : Option (Option β)).getD _
      split <;> simp_all
    | _ => exact hsame (by rintro _ _ ⟨⟩) (by rintro _ _ ⟨⟩) rfl rfl
  | _ => exact hsame (by rintro _ _ ⟨⟩) (by rintro _ _ ⟨⟩) rfl rfl

end

/-! ### Runs -/

section

variable {ambient : Ambient} {c d : (requests β).Config}
  {fore mid rest : List (requests β).Stretch} {st : (requests β).Stretch} {i : NodeId}

private theorem ages_of_run (h : System.Run c mid d) (hg : ∀ st ∈ mid, st.Genuine)
    (hn : ∀ st ∈ mid, ∃ n, st.before.space.Unspent n) (hd : ∀ st ∈ mid, st.deletes? ≠ some i)
    {v : VariableState} (hv : c.state.space.variableAt i = .ok v) :
    ∃ w, d.state.space.variableAt i = .ok w ∧ v.Ages (System.latest (·.stores? i) mid) w := by
  induction h generalizing v with
  | nil => exact ⟨v, hv, .refl v⟩
  | @cons c m d st mid hs _ ih =>
    simp only [List.forall_mem_cons] at hg hn hd
    obtain ⟨n, hn'⟩ := hn.1
    obtain ⟨u, hu, hfirst⟩ := hg.1.ages hn' hd.1 (hs.before_eq ▸ hv)
    obtain ⟨w, hw, hrest⟩ := ih hg.2 hn.2 hd.2 (hs.after_eq ▸ hu)
    rw [System.latest_cons]
    exact ⟨w, hw, hfirst.trans hrest⟩

private theorem watcher_before
    (h : System.Run (.idle (requests β) (.create ambient)) (fore ++ st :: rest) d)
    (ho : Orderly Request.reservedBy? (fore ++ st :: rest)) :
    ∀ i, st.before.space.watchers.find? i = watcherAfter fore i := by
  refine (h.invariant_before (P := fun old s =>
    s.space.Unspent (old.countP System.Stretch.assigns) ∧ s.space.WatchesNodes ∧
      ∀ i, s.space.watchers.find? i = watcherAfter old i)
    ⟨AddressSpace.unspent_initial, fun _ _ => rfl, fun _ => rfl⟩ ?_).2.2
  rintro old f rest' he hf ⟨hn, hwatches, hold⟩
  refine ⟨ho.unspent_after he hf hn, hf.preserves .of_effect hwatches, fun i => ?_⟩
  have hnew (hp : f.placed? = some i) : f.before.space.watchers.find? i = none := by
    obtain ⟨links, requested, ha, -⟩ := hf.adds_of_placed hp
    exact hwatches i (hn.free_of_adds ha)
  rw [hf.watcher hnew, hold, watcherAfter, watcherAfter, System.latest_concat, Option.getD_or]

private theorem writes_of_genuine (h : st.Genuine) {watcher : NodeId → Option β}
    (hw : ∀ i, st.start.space.watchers.find? i = watcher i) : st.Writes watcher := by
  obtain ⟨serial, r, s, es, before, y⟩ := st
  have hbefore : before = found s es := h.before
  have hafter : After ((Request.perform r).run s) es y := h.outcome
  cases r with
  | writeValue i x =>
    subst hbefore
    have hcourse := writeCourse_of_after hafter
    rw [hw i] at hcourse
    exact hcourse
  | _ => trivial

private theorem writes_of_resumes (h : st.Genuine) {f : (requests β).Stretch} (hf : f.Genuine)
    (hresumes : st.Resumes f) {watcher : NodeId → Option β}
    (hw : ∀ i, f.before.space.watchers.find? i = watcher i) : st.Writes watcher := by
  obtain ⟨e, resume, -, rfl⟩ := hresumes
  obtain ⟨serial, r, s, es, before, y⟩ := f
  have hbefore : before = found s es := hf.before
  have hafter : After ((Request.perform r).run s) (es ++ [e]) (resume e.answer e.left) := h.outcome
  cases r with
  | writeValue i x =>
    have hlength := (writeCourse_of_after hafter).length_le
    rw [List.length_append, List.length_singleton] at hlength
    have hnil : es = [] := List.eq_nil_of_length_eq_zero (by omega)
    subst hnil
    exact writes_of_genuine h fun i => hbefore ▸ hw i
  | _ => trivial

private theorem writes_of_run
    (h : System.Run (.idle (requests β) (.create ambient)) (fore ++ st :: rest) d)
    (ho : Orderly Request.reservedBy? (fore ++ st :: rest)) :
    ∃ begun, st.Writes (watcherAfter begun) ∧ ((begun = fore ∧ st.answered = []) ∨
      ∃ f between, fore = begun ++ f :: between ∧ st.Resumes f) := by
  have hg : st.Genuine := h.genuine (by simp)
  rcases h.origin with ⟨hnil, hstart⟩ | ⟨f, hf, hresumes⟩
  · exact ⟨fore, writes_of_genuine hg (hstart ▸ watcher_before h ho), .inl ⟨rfl, hnil⟩⟩
  · have hgf : f.Genuine := h.genuine (List.mem_append_left _ hf)
    obtain ⟨begun, between, rfl⟩ := List.append_of_mem hf
    rw [List.append_assoc, List.cons_append] at h ho
    have hwrites := writes_of_resumes hg hgf hresumes (watcher_before h ho)
    exact ⟨begun, hwrites, .inr ⟨f, between, rfl, hresumes⟩⟩

/-- The variables of an orderly run. As long as its node is not deleted, a variable keeps its level,
has the value that was stored last, and keeps the data type of its first value; and only a variable
with the right to write has got another value. A write that is refused calls nobody and changes
nothing. One that succeeds has stored the value, and then has called the watcher that was set last
since the node was placed, if any was, just once. -/
theorem variables_of_run (h : System.Run (.idle (requests β) (.create ambient)) fore c)
    (h' : System.Run c mid d) (ho : Orderly Request.reservedBy? (fore ++ mid)) :
    (∀ i v, c.state.space.variableAt i = .ok v → (∀ st ∈ mid, st.deletes? ≠ some i) →
      ∃ w, d.state.space.variableAt i = .ok w ∧ v.Ages (System.latest (·.stores? i) mid) w) ∧
    ∀ old st rest, fore ++ mid = old ++ st :: rest → ∃ begun, st.Writes (watcherAfter begun) ∧
      ((begun = old ∧ st.answered = []) ∨
        ∃ f between, old = begun ++ f :: between ∧ st.Resumes f) := by
  have hrun := h.append h'
  constructor
  · intro i v hv hd
    have hg : ∀ st ∈ mid, st.Genuine := fun st hst =>
      hrun.genuine (List.mem_append_right fore hst)
    have hn : ∀ st ∈ mid, ∃ n, st.before.space.Unspent n := fun st hst =>
      ho.unspent_before hrun (List.mem_append_right fore hst)
    exact ages_of_run h' hg hn hd hv
  · intro old st rest he
    rw [he] at hrun ho
    exact writes_of_run hrun ho

end

/-- A switch, the first node that is added to a new server. -/
def newSwitch : NodeId := .numeric 1 50000

/-- The switch is to be turned on or off. -/
def turnSwitch (on : Bool) : Request Unit := .writeValue newSwitch (.boolean on)

/-- The switch is added, without a value. -/
def switchAdded : (requests Unit).Stretch :=
  .first (requests Unit) 0
    (Request.addVariable .objectsFolder (.standard "Switch") .empty .readWrite)
    (.create (.start ⟨0, 0⟩))

/-- It is watched. -/
def switchWatched : (requests Unit).Stretch :=
  .first (requests Unit) 1 (Request.watch newSwitch ()) switchAdded.after

/-- It is turned on, which the watcher is told. -/
def turnedOn : (requests Unit).Stretch :=
  .first (requests Unit) 2 (turnSwitch true) switchWatched.after

/-- The watcher turns it off, which it is told as well. -/
def turnedOff : (requests Unit).Stretch :=
  .first (requests Unit) 3 (turnSwitch false) turnedOn.after

/-- The watcher of a switch that is turned on turns it off again. The outer write succeeds all the
same, and the switch is off. -/
theorem variables_turnedBack :
    ∃ mid d, System.Run (.idle (requests Unit) (.create (.start ⟨0, 0⟩))) [switchAdded]
        ⟨switchAdded.after, 1, []⟩ ∧
      System.Run ⟨switchAdded.after, 1, []⟩ ([switchWatched, turnedOn, turnedOff] ++ mid) d ∧
      Orderly Request.reservedBy? ([switchAdded] ++ ([switchWatched, turnedOn, turnedOff] ++ mid)) ∧
      switchAdded.after.space.variableAt newSwitch = .ok ⟨.empty, .readWrite⟩ ∧
      d.waiting = [] ∧
      d.state.space.variableAt newSwitch = .ok ⟨.boolean false, .readWrite⟩ := by
  have hadded : System.Run (.idle (requests Unit) (.create (.start ⟨0, 0⟩))) [switchAdded]
      ⟨switchAdded.after, 1, []⟩ := .cons (.request_of_ends ⟨_, _, rfl⟩ 0 []) (.nil _)
  let inner : Exchange (upcalls Unit) (Server Unit) :=
    ⟨.written () newSwitch (.boolean false), turnedOff.after, (), turnedOff.after⟩
  let offDone : (requests Unit).Stretch := turnedOff.next inner fun _ t => .done (.ok ()) t
  let outer : Exchange (upcalls Unit) (Server Unit) :=
    ⟨.written () newSwitch (.boolean true), turnedOn.after, (), offDone.after⟩
  let onDone : (requests Unit).Stretch := turnedOn.next outer fun _ t => .done (.ok ()) t
  have hon : System.Step ⟨switchWatched.after, 2, []⟩ turnedOn
      ⟨turnedOn.after, 3, [turnedOn]⟩ := .request_of_ask rfl 2 []
  have hoff : System.Step ⟨turnedOn.after, 3, [turnedOn]⟩ turnedOff
      ⟨turnedOff.after, 4, [turnedOff, turnedOn]⟩ := .request_of_ask rfl 3 [turnedOn]
  have hinner : System.Step ⟨turnedOff.after, 4, [turnedOff, turnedOn]⟩ offDone
      ⟨offDone.after, 4, [turnedOn]⟩ :=
    .answer_of_done (f := turnedOff) (e := inner) rfl rfl 4 [turnedOn]
  have houter : System.Step ⟨offDone.after, 4, [turnedOn]⟩ onDone ⟨onDone.after, 4, []⟩ :=
    .answer_of_done (f := turnedOn) (e := outer) rfl rfl 4 []
  have hturned : System.Run ⟨switchAdded.after, 1, []⟩
      ([switchWatched, turnedOn, turnedOff] ++ [offDone, onDone]) ⟨onDone.after, 4, []⟩ :=
    .cons (.request_of_ends ⟨_, _, rfl⟩ 1 [])
      (.cons hon (.cons hoff (.cons hinner (.cons houter (.nil _)))))
  have ho : Orderly Request.reservedBy?
      ([switchAdded] ++ ([switchWatched, turnedOn, turnedOff] ++ [offDone, onDone])) := by
    refine ⟨?_, by decide⟩
    intro st hst id hid
    simp only [List.cons_append, List.nil_append, List.mem_cons, List.not_mem_nil, or_false] at hst
    rcases hst with rfl | rfl | rfl | rfl | rfl | rfl <;> cases hid
  have hv : switchAdded.after.space.variableAt newSwitch = .ok ⟨.empty, .readWrite⟩ := rfl
  have hkept : ∀ st ∈ [switchWatched, turnedOn, turnedOff] ++ [offDone, onDone],
      st.deletes? ≠ some newSwitch := by
    intro st hst
    simp only [List.cons_append, List.nil_append, List.mem_cons, List.not_mem_nil, or_false] at hst
    rcases hst with rfl | rfl | rfl | rfl | rfl <;> exact fun he => nomatch he
  obtain ⟨⟨value, level⟩, hw, hages⟩ := (variables_of_run hadded hturned ho).1 newSwitch _ hv hkept
  have hlevel : level = .readWrite := hages.level
  have hvalue : value = .boolean false := hages.value
  refine ⟨_, _, hadded, hturned, ho, hv, rfl, ?_⟩
  rw [hw, hlevel, hvalue]

end AlarmServer
