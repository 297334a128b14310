import AlarmServer.Proofs.Scenes

/-!
# Stages of demonstrations

How the scene of a demonstration stands while it is played, and what a step makes of it. An
administrator who writes the variable switches the alarm, and one who calls a method leads it on;
each of these publishes one event. Whoever is no administrator changes nothing but the journal.
-/

namespace AlarmServer

open Interaction (After Keeps)
open Server (Beside Alters)

namespace Demo

variable {s t u : Server Reaction}

/-! ### Answers of callbacks -/

/-- Before a transition a callback writes to the journal only. -/
theorem beside_allow (r : Reaction) (session : Session) (source : NodeId) (s : Server Reaction) :
    Beside s (allow r session source s).2 ∧ (allow r session source s).2.script = s.script := by
  cases r with
  | announce state => exact ⟨Server.beside_log .info _ s, rfl⟩
  | switch a => exact ⟨.refl s, rfl⟩
  | reserve action =>
    simp only [allow]
    split
    · exact ⟨.refl s, rfl⟩
    · exact ⟨Server.beside_log .warn _ s, rfl⟩

/-- While an alarm is switched, callbacks write to the journal only. -/
theorem beside_answerWithin (q : Upcall Reaction) (s : Server Reaction) :
    Beside s (answerWithin q s).2 ∧ (answerWithin q s).2.script = s.script := by
  cases q with
  | transition r session source removeBranch => exact beside_allow r session source s
  | intercept r kind condition session => exact ⟨.refl s, rfl⟩
  | written r node value => exact ⟨.refl s, rfl⟩

/-- The answer of a callback that reserves an action. -/
def reserved (admin : Bool) : StatusCode := if admin then .good else .badUserAccessDenied

/-- What is reserved is allowed to administrators only. -/
theorem answer_reserve {session : SessionId} {admin : Bool}
    (h : s.tables.sessions.Rates session admin) (action : String) (source : NodeId) :
    ∃ t, answer (.transition (.reserve action) (some session) source false) s =
      (.status (reserved admin), t) ∧ Beside s t := by
  refine ⟨_, Prod.ext ?_ rfl, (beside_allow (.reserve action) (some session) source s).1⟩
  show Verdict.status (allow (.reserve action) (some session) source s).1 = _
  simp only [allow, h.isAdmin, reserved]
  split <;> rfl

private theorem switchAlarm_run (a : Alarm) (active : Bool) (s : Server Reaction) :
    switchAlarm a (.boolean active) s =
      ((a.setActive a.source active none).perform s).bind fun r t => match r with
        | .ok _ => .done () t
        | .error e => .done () (t.log .error
          ("Failed to toggle " ++ a.condition.id.text ++ ": " ++ e.message)) := by
  show ((a.setActive a.source active none).perform s).bind _ = _
  congr 1
  funext r t
  cases r <;> rfl

private theorem keeps_switchAlarm (a : Alarm) (value : Variant) (s : Server Reaction) :
    Keeps Server.StaysOpen s (switchAlarm a value s) := by
  unfold switchAlarm
  cases value.asBool? with
  | none => exact id
  | some active =>
    refine Keeps.bind Server.StaysOpen.trans (Routine.keeps_open _ s) fun r t => ?_
    cases r <;> exact id

/-- Where nothing is settled, nothing is settled by a callback. -/
theorem script_answer (q : Upcall Reaction) (s : Server Reaction) (hs : s.script = .empty) :
    (answer q s).2.script = .empty := by
  cases q with
  | transition r session source removeBranch =>
    exact (beside_allow r session source s).2.trans hs
  | intercept r kind condition session => exact hs
  | written r node value =>
    cases r with
    | announce state => exact hs
    | reserve action => exact hs
    | switch a =>
      obtain ⟨es, r, t, hrun, -, ht, -⟩ := Interaction.exists_exchanges
        (fun q s hs => (beside_answerWithin q s).2.trans hs) _ (keeps_switchAlarm a value s) hs
      show ((switchAlarm a value s).run answerWithin).2.script = .empty
      rw [hrun]
      exact ht

/-! ### The stage -/

/-- How a scene stands: which variables of the alarm are true, and what was published. The
administrator is one if he was let in. -/
structure OnStage (x : Act.Scene) (admitted : Bool) (ids : List TransitionKind)
    (events : List ConditionEvent) (s : Server Reaction) : Prop where
  /-- Nothing is settled. -/
  script : s.script = .empty
  /-- These events were published. -/
  events : s.space.events = events
  /-- Logins are decided by a table. -/
  access : ∃ p, x.access = ⟨.logins p⟩
  /-- The alarms are there. -/
  alarms : ∀ a ∈ x.alarms, s.space.nodes.contains a.condition.id = true
  /-- These variables of the one that is shown are true. -/
  condition : ∃ cs, s.space.condition x.first.condition.id = .ok cs ∧
    cs.source = x.first.source ∧ ∀ k, cs.idOf k = some (decide (k ∈ ids))
  /-- Its callbacks are called. -/
  calls : ∀ k session, s.interception? x.first.condition.id k session =
    some (.transition (reactionTo k) session x.first.source false)
  /-- Its source may notify of it. -/
  notifies : s.space.MayNotify x.first.source x.first.source
  /-- The variable can be written. -/
  node : ∃ n b, s.space.nodes.find? x.node = some n ∧
    n.body = .variable ⟨.boolean b, .readWrite⟩
  /-- It switches the alarm. -/
  watched : s.space.watchers.find? x.node = some (.switch x.first)
  /-- The session of the administrator is one if he was let in. -/
  admin : s.tables.sessions.Rates x.admin admitted
  /-- The session of the guest is none of an administrator. -/
  guest : s.tables.sessions.Rates x.guest false

/-- An event that shows these variables of the alarm as true, and the others as false. -/
structure Depicts (a : Alarm) (ids : List TransitionKind) (e : ConditionEvent) : Prop where
  /-- It is about the alarm. -/
  condition : e.condition = a.condition.id
  /-- It leaves from the source of the alarm. -/
  source : e.source = a.source
  /-- It shows the variables. -/
  shows : ∀ k b, e.Shows k b ↔ b = decide (k ∈ ids)

section

variable {x : Act.Scene} {admitted : Bool} {ids ids' : List TransitionKind}
  {events : List ConditionEvent}

/-- Once the scene is set, the alarm is enabled and nothing was published. -/
theorem IsSet.onStage {c : Config} (h : IsSet c x s) :
    OnStage x (c.access.password? "admin" = some "admin") [.enabled] [] s := by
  have hmem : x.first ∈ x.alarms := List.mem_of_mem_head? h.first
  obtain ⟨cfg, -, hin⟩ := exists_inPlace h.alarms hmem
  obtain ⟨n, cs, hn, -, hbody, hcs⟩ := hin.condition
  obtain ⟨m, hm, -, -, hnotifier⟩ := hin.source
  obtain ⟨v, hv, hvbody⟩ := h.node
  refine ⟨h.script, h.events, ⟨_, h.access⟩, fun a ha => ?_, ⟨cs, ?_, hcs.source, fun k => ?_⟩,
    fun k session => ?_, ⟨m, hm, hnotifier, .inl rfl⟩, ⟨v, false, hv, hvbody⟩, h.watched, h.admin,
    h.guest⟩
  · obtain ⟨_, -, ha⟩ := exists_inPlace h.alarms ha
    exact ha.contains
  · exact AddressSpace.condition_eq_ok_iff.2 ⟨n, hn, hbody⟩
  · rw [hcs.idOf]
    simp
  · simp [Server.interception?, hin.hooks, Slot.hook, hin.slots, slotOf]

/-- The stage stays set as long as nothing that counts is different. -/
theorem OnStage.beside (h : OnStage x admitted ids events s) (hb : Beside s t)
    (hs : t.script = .empty) : OnStage x admitted ids events t where
  script := hs
  events := by
    rw [hb.space]
    exact h.events
  access := h.access
  alarms := by
    rw [hb.space]
    exact h.alarms
  condition := by
    rw [hb.space]
    exact h.condition
  calls k session := (hb.interception? _ k session).trans (h.calls k session)
  notifies := by
    rw [hb.space]
    exact h.notifies
  node := by
    rw [hb.space]
    exact h.node
  watched := by
    rw [hb.space]
    exact h.watched
  admin := h.admin.congr (congrArg (·.attributes x.admin) hb.sessions)
  guest := h.guest.congr (congrArg (·.attributes x.guest) hb.sessions)

/-- The variable is no alarm. -/
theorem OnStage.node_ne (h : OnStage x admitted ids events s) :
    x.node ≠ x.first.condition.id := by
  obtain ⟨_, hc, -⟩ := h.condition
  obtain ⟨n, hn, hbody⟩ := AddressSpace.condition_eq_ok_iff.1 hc
  obtain ⟨v, b, hv, hvbody⟩ := h.node
  intro he
  rw [he, hn] at hv
  cases hv
  cases hbody.symm.trans hvbody

/-- The alarm that is shown may change, and be published. -/
theorem OnStage.alters {cs : ConditionState} {new : List ConditionEvent}
    (h : OnStage x admitted ids events s) (ha : Alters x.first.condition.id cs new s t)
    (hs : t.script = .empty) (hsource : cs.source = x.first.source)
    (hid : ∀ k, cs.idOf k = some (decide (k ∈ ids'))) :
    OnStage x admitted ids' (events ++ new) t where
  script := hs
  events := by rw [ha.events, h.events]
  access := h.access
  alarms a ha' := by
    have hthere := h.alarms a ha'
    by_cases hi : a.condition.id = x.first.condition.id
    · rw [Table.contains, hi, ha.condition, Option.isSome_map, ← hi]
      exact hthere
    · rw [Table.contains, ha.nodes _ hi]
      exact hthere
  condition := by
    obtain ⟨_, hc, -⟩ := h.condition
    exact ⟨cs, ha.condition_eq_ok hc, hsource, hid⟩
  calls k session := by
    rw [Server.interception?, ha.hooks, ha.registry]
    exact h.calls k session
  notifies := ha.mayNotify_iff.2 h.notifies
  node := by
    obtain ⟨v, b, hv, hbody⟩ := h.node
    exact ⟨v, b, (ha.nodes _ h.node_ne).trans hv, hbody⟩
  watched := by
    rw [ha.watchers]
    exact h.watched
  admin := h.admin.congr (congrArg (·.attributes x.admin) ha.sessions)
  guest := h.guest.congr (congrArg (·.attributes x.guest) ha.sessions)

/-- The variable may get another value. -/
theorem OnStage.written (h : OnStage x admitted ids events s) (value : Bool) :
    OnStage x admitted ids events (s.withSpace (s.space.modifyNode x.node fun n =>
      { n with body := .variable ⟨.boolean value, .readWrite⟩ })) where
  script := h.script
  events := h.events
  access := h.access
  alarms a ha := (Table.contains_modify _ _ _ _).trans (h.alarms a ha)
  condition := by
    obtain ⟨cs, hc, hcs⟩ := h.condition
    refine ⟨cs, (Server.condition_of_find? ?_).trans hc, hcs⟩
    simp [AddressSpace.modifyNode, Table.find?_modify, h.node_ne.symm]
  calls := h.calls
  notifies := by
    obtain ⟨n, hn, hnotifier, hrefers⟩ := h.notifies
    by_cases hi : x.first.source = x.node
    · exact ⟨{ n with body := .variable ⟨.boolean value, .readWrite⟩ },
        by simp [AddressSpace.modifyNode, Table.find?_modify, ← hi, hn], hnotifier, hrefers⟩
    · exact ⟨n, by simp [AddressSpace.modifyNode, Table.find?_modify, hi, hn], hnotifier, hrefers⟩
  node := by
    obtain ⟨n, _, hn, -⟩ := h.node
    exact ⟨{ n with body := .variable ⟨.boolean value, .readWrite⟩ }, value,
      by simp [AddressSpace.modifyNode, Table.find?_modify, hn], rfl⟩
  watched := h.watched
  admin := h.admin
  guest := h.guest

/-- The alarm that is shown is published in a new state. -/
theorem OnStage.shown {cs : ConditionState} {e : ConditionEvent}
    (h : OnStage x admitted ids events s) (ha : Alters x.first.condition.id cs [e] s t)
    (hs : t.script = .empty) (hsource : cs.source = x.first.source)
    (hid : ∀ k, cs.idOf k = some (decide (k ∈ ids'))) (he : e.condition = x.first.condition.id)
    (hesource : e.source = x.first.source) (hshows : ∀ k b, e.Shows k b ↔ cs.idOf k = some b) :
    OnStage x admitted ids' (events ++ [e]) t ∧ Depicts x.first ids' e := by
  refine ⟨h.alters ha hs hsource hid, he, hesource, fun k b => ?_⟩
  rw [hshows, hid, Option.some_inj, eq_comm]

/-! ### Switches of the alarm -/

private theorem exists_twoState {cs : ConditionState}
    (hid : ∀ k, cs.idOf k = some (decide (k ∈ ids))) (k : TransitionKind) :
    ∃ ts, cs.twoStates.find? k = some ts ∧ ts.id = decide (k ∈ ids) :=
  Option.map_eq_some_iff.1 (hid k)

private theorem idOf_switchedOff {cs cs' : ConditionState} {text : String} {time now : Instant}
    (hid : ∀ k, cs.idOf k = some (decide (k ∈ ids))) (hids : .enabled ∈ ids)
    (hw : cs.Switched text time false (Alarm.switchOff now) cs') (k : TransitionKind) :
    cs'.idOf k = some (decide (k ∈ [TransitionKind.enabled])) := by
  obtain ⟨⟨id, entered⟩, hts, rfl⟩ := exists_twoState hid k
  rw [ConditionState.idOf, hw.twoStates, hts]
  by_cases hkind : k = .enabled
  · simp [Alarm.switchOff, hkind, hids]
  · by_cases hmem : k ∈ ids <;> simp [Alarm.switchOff, TwoState.reset, hkind, hmem]

private theorem idOf_switchedOn {cs cs' : ConditionState} {text : String} {time now : Instant}
    (hid : ∀ k, cs.idOf k = some (decide (k ∈ ids)))
    (hw : cs.Switched text time true (Alarm.switchOn now) cs') (k : TransitionKind) :
    cs'.idOf k = some (decide (k ∈ TransitionKind.active :: ids)) := by
  obtain ⟨⟨id, entered⟩, hts, rfl⟩ := exists_twoState hid k
  rw [ConditionState.idOf, hw.twoStates, hts]
  by_cases hkind : k = .active
  · subst hkind
    by_cases hmem : .active ∈ ids <;> simp [Alarm.switchOn, TwoState.raise, hmem]
  · simp [Alarm.switchOn, hkind]

private theorem OnStage.switched {r : Except Error EventId} {text : String} {time : Instant}
    {active : Bool} {cs cs' : ConditionState} {moved : TransitionKind → TwoState → TwoState}
    (h : OnStage x admitted ids events s) (hs : t.script = .empty)
    (hsource : cs.source = x.first.source) (hw : cs.Switched text time active moved cs')
    (hends : x.first.Ends x.first.source text time active cs' s t r)
    (hid : ∀ k, cs'.idOf k = some (decide (k ∈ ids'))) :
    ∃ e, r = .ok e.eventId ∧ OnStage x admitted ids' (events ++ [e]) t ∧
      Depicts x.first ids' e := by
  have hsource' : cs'.source = x.first.source := hw.source.trans hsource
  cases hends with
  | announced e hn he ha =>
    exact ⟨e, rfl, h.shown ha hs hsource' hid he.condition he.source he.showsStates⟩
  | unannounced hn _ =>
    rw [hsource'] at hn
    exact absurd h.notifies hn

/-- The alarm can be switched off. -/
theorem OnStage.switch_off (h : OnStage x admitted ids events s) (hids : .enabled ∈ ids) :
    ∃ t e, (switchAlarm x.first (.boolean false) s).run answerWithin = ((), t) ∧
      OnStage x admitted [.enabled] (events ++ [e]) t ∧ Depicts x.first [.enabled] e := by
  obtain ⟨cs, hc, hsource, hid⟩ := h.condition
  have hk : ∀ k, ∃ ts, cs.twoStates.find? k = some ts := fun k =>
    (exists_twoState hid k).imp fun _ hts => hts.1
  obtain ⟨r, t, cs', hrun, hw, hends⟩ :=
    Alarm.setActive_false_run h.script hc hk x.first.source none
  have hopen := Routine.keeps_open (x.first.setActive x.first.source false none).run s
  change Keeps _ s ((x.first.setActive x.first.source false none).perform s) at hopen
  rw [hrun] at hopen
  obtain ⟨e, rfl, hstage, hdepicts⟩ :=
    h.switched (hopen h.script) hsource hw hends (idOf_switchedOff hid hids hw)
  refine ⟨t, e, ?_, hstage, hdepicts⟩
  rw [switchAlarm_run, hrun]
  rfl

/-- The alarm can be switched on if it is off: its callback does not mind. -/
theorem OnStage.switch_on (h : OnStage x admitted ids events s) (hids : .active ∉ ids) :
    ∃ t e, (switchAlarm x.first (.boolean true) s).run answerWithin = ((), t) ∧
      OnStage x admitted (.active :: ids) (events ++ [e]) t ∧
      Depicts x.first (.active :: ids) e := by
  obtain ⟨cs, hc, hsource, hid⟩ := h.condition
  obtain ⟨ts, hts, htsid⟩ := exists_twoState hid .active
  obtain ⟨es, r, t, hrun, hafter, ht, hes⟩ := Interaction.exists_exchanges
    (fun q s hs => (beside_answerWithin q s).2.trans hs)
    ((x.first.setActive x.first.source true none).perform s) (Routine.keeps_open _ s) h.script
  have hleft : ∀ e ∈ es, Beside e.asked e.left ∧ e.left.script = .empty := by
    intro e he
    obtain ⟨hasked, hanswer⟩ := hes e he
    have hb := beside_answerWithin e.question e.asked
    rw [hanswer] at hb
    exact ⟨hb.1, hb.2.trans hasked⟩
  obtain ⟨hasks, hact⟩ := Alarm.activation_of_after h.script hc hts
    (fun e he => ⟨fun i _ => by rw [(hleft e he).1.space], (hleft e he).2⟩) hafter
  have hoff : ts.id = false := by rw [htsid, decide_eq_false hids]
  rw [hoff] at hact
  cases hact with
  | @vetoed q asked left _ r _ _ hq hr _ _ =>
    rw [h.calls] at hq
    cases hq
    have hgood : Verdict.status .good = r :=
      congrArg Prod.fst (hes _ (List.mem_singleton_self _)).2
    subst hgood
    change StatusCode.good.isGood = false at hr
    exact absurd hr (by decide)
  | entered hu hw hends =>
    cases hu with
    | unasked hq =>
      rw [h.calls] at hq
      cases hq
    | @allowed q asked left answer hq hr =>
      -- the callback finds three fields written, and the scene as it stands
      obtain ⟨cs', hw', halters⟩ := hasks _ (List.mem_singleton_self _)
      obtain ⟨hb, hopen⟩ := hleft _ (List.mem_singleton_self _)
      have hasked : OnStage x admitted ids (events ++ []) asked := by
        refine h.alters halters (hes _ (List.mem_singleton_self _)).1 (hw'.source.trans hsource)
          fun k => ?_
        rw [ConditionState.idOf, hw'.twoStates, Option.map_id', ← ConditionState.idOf, hid]
      rw [List.append_nil] at hasked
      obtain ⟨e, rfl, hstage, hdepicts⟩ :=
        (hasked.beside hb hopen).switched ht hsource hw hends (idOf_switchedOn hid hw)
      refine ⟨t, e, ?_, hstage, hdepicts⟩
      rw [switchAlarm_run, Interaction.run_bind, hrun]
      rfl

/-! ### Writes of the variable -/

/-- Who may write is noted, and that is all. -/
theorem userLevel_gives (p : LoginPolicy) (session : SessionId) (node : NodeId)
    (hs : s.script = .empty) :
    ∃ text, (Act.routine ((⟨.logins p⟩ : AccessControl).userLevel session node)).Gives s
      (Access.restrict s.tables.sessions session .readWrite) (s.log .info text) := by
  obtain ⟨noted, hrun⟩ := Access.userLevel_run session node s.tables
  refine ⟨noted .readWrite (s.space.browseName node), Act.routine_gives ?_⟩
  show (((Access.userLevel session node s.tables).serve (AccessPolicy.logins p).answer).zoom
    Server.tables Server.withTables s).serve Server.answer = _
  rw [hrun]
  show (Server.answer (.readBrowseName node) s).bind _ = _
  rw [Server.answer_of_empty hs]
  rfl

/-- Only administrators may write what may be written. -/
theorem canWrite_restrict {st : SessionStore} {session : SessionId} {admin : Bool}
    (h : st.Rates session admin) : (Access.restrict st session .readWrite).canWrite = admin := by
  rw [Access.restrict, h.access]
  cases admin <;> decide

/-- A session that is none of an administrator writes nothing. -/
theorem OnStage.writeSwitch_denied (h : OnStage x admitted ids events s) {session : SessionId}
    (hr : s.tables.sessions.Rates session false) (value : Bool) :
    ∃ t, (Act.writeSwitch x.access x.node session value).Gives s () t ∧ Beside s t ∧
      t.script = .empty := by
  obtain ⟨p, hp⟩ := h.access
  obtain ⟨text, hlevel⟩ := userLevel_gives p session x.node h.script
  rw [← hp] at hlevel
  let level := Access.restrict s.tables.sessions session .readWrite
  let denial := "Write to AlarmActive by " ++ session.node.text ++ " denied (" ++ level.text ++ ")"
  refine ⟨(s.log .info text).log .warn denial, hlevel.bind ?_, ?_, h.script⟩
  · rw [if_neg (by simp [canWrite_restrict hr])]
    exact Act.gives_log _ _ _
  · exact (Server.beside_log _ _ _).trans (Server.beside_log _ _ _)

/-- A write calls the callback, which switches the alarm. -/
theorem OnStage.writeValue_run (h : OnStage x admitted ids events s) (value : Bool) :
    ∃ u, OnStage x admitted ids events u ∧
      ((Service.writeValue x.node (.boolean value)).run s).run answer =
        (.ok (), ((switchAlarm x.first (.boolean value) u).run answerWithin).2) := by
  obtain ⟨n, b, hn, hbody⟩ := h.node
  let sp := s.space.modifyNode x.node fun n =>
    { n with body := .variable ⟨.boolean value, .readWrite⟩ }
  have hlevel : AccessLevel.readWrite.canWrite = true := by decide
  have hwrite : (SpaceAction.writeValue x.node (.boolean value)).effect s.space = .ok sp :=
    AddressSpace.writeValue_eq_ok_iff.2 ⟨_, AddressSpace.variableAt_eq_ok_iff.2 ⟨n, hn, hbody⟩,
      hlevel, rfl, rfl⟩
  have hwatched : (s.withSpace sp).space.watchers.find? x.node = some (.switch x.first) :=
    h.watched
  refine ⟨s.withSpace sp, h.written value, ?_⟩
  rw [Service.writeValue, Service.act_bind_run (SpaceAction.checksFirst_writeValue _ _), hwrite]
  dsimp only
  rw [Service.get_bind_run, hwatched]
  rfl

/-- An administrator who writes the variable switches the alarm. -/
theorem OnStage.writeSwitch_admitted (h : OnStage x true ids events s) (value : Bool)
    (hswitch : ∀ {u}, OnStage x true ids events u →
      ∃ t e, (switchAlarm x.first (.boolean value) u).run answerWithin = ((), t) ∧
        OnStage x true ids' (events ++ [e]) t ∧ Depicts x.first ids' e) :
    ∃ t e, (Act.writeSwitch x.access x.node x.admin value).Gives s () t ∧
      OnStage x true ids' (events ++ [e]) t ∧ Depicts x.first ids' e := by
  obtain ⟨p, hp⟩ := h.access
  obtain ⟨text, hlevel⟩ := userLevel_gives p x.admin x.node h.script
  rw [← hp] at hlevel
  obtain ⟨u, hu, hwrite⟩ :=
    (h.beside (Server.beside_log .info text s) h.script).writeValue_run value
  obtain ⟨t, e, hrun, hstage, hdepicts⟩ := hswitch hu
  rw [hrun] at hwrite
  refine ⟨t, e, hlevel.bind ?_, hstage, hdepicts⟩
  rw [if_pos (canWrite_restrict h.admin)]
  exact (Act.tryOut_gives hwrite).bind (Act.gives_pure _ t)

/-! ### Client methods -/

private theorem OnStage.client_run (h : OnStage x admitted ids events s) {m : ClientMethod}
    (hm : m.target = true) (hids : m.kind ∉ ids) {action : String}
    (hreserve : reactionTo m.kind = .reserve action) {session : SessionId}
    (hsession : m.session = some session) {admin : Bool}
    (hr : s.tables.sessions.Rates session admin) :
    ∃ v r t, ((m.perform x.first.condition.id).run s).run answer = (r, t) ∧ t.script = .empty ∧
      Beside s v ∧ Interaction.done r t =
        if admin then (m.finish x.first.condition.id).run v
        else .done (.error .badUserAccessDenied) v := by
  obtain ⟨cs, hc, -, hid⟩ := h.condition
  obtain ⟨ts, hts, htsid⟩ := exists_twoState hid m.kind
  obtain ⟨es, r, t, hrun, hafter, ht, hes⟩ := Interaction.exists_exchanges script_answer
    ((m.perform x.first.condition.id).run s)
    (((Request.client m x.first.condition.id).does trivial s).imp fun _ _ h => h.script) h.script
  have htwo : s.space.twoState x.first.condition.id m.kind = .ok ts :=
    AddressSpace.twoState_eq_ok_iff.2 ⟨cs, hc, hts⟩
  have hanswer : ∀ {asked left : Server Reaction} {given : Verdict}, Beside s asked →
      answer (.transition (.reserve action) (some session) x.first.source false) asked =
        (given, left) → given = .status (reserved admin) ∧ Beside s left := by
    intro asked left given hb hgiven
    obtain ⟨u, hu, hbu⟩ := answer_reserve (hr.congr (congrArg (·.attributes session) hb.sessions))
      action x.first.source
    cases hu.symm.trans hgiven
    exact ⟨rfl, hb.trans hbu⟩
  rw [ClientMethod.perform_run, htwo] at hafter
  change After (if ts.id = m.target then _ else _) _ _ at hafter
  rw [if_neg (by rw [htsid, hm, decide_eq_false hids]; decide), ClientMethod.gate, if_pos hm]
    at hafter
  obtain ⟨y, hy⟩ : ∃ y, Interaction.done r t = y := ⟨_, rfl⟩
  rw [hy] at hafter
  cases Service.stage_of_after (f := fun _ => m.finish x.first.condition.id)
    (m.finish_ends x.first.condition.id) hafter with
  | unasked hq =>
    rw [h.calls] at hq
    cases hq
  | asks => cases hy
  | @allowed q asked left v given hq hb hv _ hgood =>
    rw [h.calls, hreserve, hsession] at hq
    cases hq
    obtain ⟨rfl, hleft⟩ := hanswer hb (hes _ (List.mem_singleton_self _)).2
    refine ⟨v, r, t, hrun, ht, hleft.trans hv, ?_⟩
    cases admin with
    | true => exact hy
    | false =>
      change StatusCode.badUserAccessDenied.isGood = true at hgood
      exact absurd hgood (by decide)
  | @vetoed q asked left v given hq hb hv _ hbad =>
    rw [h.calls, hreserve, hsession] at hq
    cases hq
    obtain ⟨rfl, hleft⟩ := hanswer hb (hes _ (List.mem_singleton_self _)).2
    refine ⟨v, r, t, hrun, ht, hleft.trans hv, ?_⟩
    cases admin with
    | true =>
      change StatusCode.good.isGood = false at hbad
      exact absurd hbad (by decide)
    | false => exact hy

/-- A session that is none of an administrator does nothing to the alarm. -/
theorem OnStage.refused (h : OnStage x admitted ids events s) {m : ClientMethod}
    (hm : m.target = true) (hids : m.kind ∉ ids) {action : String}
    (hreserve : reactionTo m.kind = .reserve action) {session : SessionId}
    (hsession : m.session = some session) (hr : s.tables.sessions.Rates session false) :
    ∃ t, (Act.tryOut (m.perform x.first.condition.id)).Gives s (.error .badUserAccessDenied) t ∧
      Beside s t ∧ t.script = .empty := by
  obtain ⟨v, r, t, hrun, ht, hb, hend⟩ := h.client_run hm hids hreserve hsession hr
  cases hend
  exact ⟨v, Act.tryOut_gives hrun, hb, ht⟩

/-- An administrator does to the alarm what the method says, and that is published. -/
theorem OnStage.granted (h : OnStage x admitted ids events s) {m : ClientMethod}
    (hm : m.target = true) (hids : m.kind ∉ ids) {action : String}
    (hreserve : reactionTo m.kind = .reserve action) {session : SessionId}
    (hsession : m.session = some session) (hr : s.tables.sessions.Rates session true) :
    ∃ id t e, (Act.tryOut (m.perform x.first.condition.id)).Gives s (.ok id) t ∧
      OnStage x admitted (m.kind :: ids) (events ++ [e]) t ∧ Depicts x.first (m.kind :: ids) e ∧
      ∀ text, m.comment = some text → ("Comment", .localizedText (.plain text)) ∈ e.fields := by
  obtain ⟨v, r, t, hrun, ht, hb, hend⟩ := h.client_run hm hids hreserve hsession hr
  rw [if_pos rfl] at hend
  obtain ⟨cs, hc, hsource, hid⟩ := h.condition
  obtain ⟨ts, hts, -⟩ := exists_twoState hid m.kind
  have hcv : v.space.condition x.first.condition.id = .ok cs := by
    rw [hb.space]
    exact hc
  obtain ⟨w, hfinish, hbeside, -⟩ := m.finish_run_of_ok hcv hts
  let id := EventId.drawn v.drawn
  rw [hfinish] at hend
  cases hend
  have htrans := ClientMethod.transforms_result (m := m) hts id v.now
  have htells := ClientMethod.tells_event htrans x.first.condition.id
  have hid' : ∀ k, (m.result cs id v.now).idOf k = some (decide (k ∈ m.kind :: ids)) := by
    intro k
    rw [htrans.idOf, hid, hm]
    by_cases hk : k = m.kind <;> simp [hk]
  have halters : Alters x.first.condition.id (m.result cs id v.now)
      [(m.result cs id v.now).event x.first.condition.id cs.source id v.now] v t :=
    Server.alters_of_tell hbeside
  obtain ⟨hstage, hdepicts⟩ := h.shown (halters.of_beside hb) ht
    (htrans.source.trans hsource) hid' htells.condition hsource fun k b => by
      rw [ConditionEvent.Shows, htells.fields, ConditionState.id_mem_snapshot_iff]
  exact ⟨id, t, _, Act.tryOut_gives hrun, hstage, hdepicts, htells.showsComment⟩

end

end Demo

end AlarmServer
