import AlarmServer.Demo
import AlarmServer.Proofs.Configurations
import AlarmServer.Proofs.NewAlarms
import AlarmServer.Proofs.Secrets
import AlarmServer.Proofs.Switches

/-!
# Scenes of demonstrations

The scene of a demonstration can be set for every configuration that keeps the rules, whatever its
users, sources, severities and marks are. Each step finds what it needs: a source that is used again
is taken from the table, names are different, and new nodes get identifiers that are free.
-/

namespace AlarmServer

open Server (Beside Spares Furnishes Founds Attends)
open AddressSpace (Unspent)

/-! ### Sessions -/

/-- One identifier differs from the next, so two that are drawn in sequence are different. -/
theorem Guid.drawn_succ_ne (n : Nat) : drawn (n + 1) ≠ drawn n := by
  intro h
  have hnumber := drawn_inj.1 h
  omega

/-- Callbacks and access control agree on whether a session is one of an administrator, because
nothing else is kept under the name of that fact. -/
structure SessionStore.Rates (st : SessionStore) (session : SessionId) (admin : Bool) : Prop where
  /-- Nothing is kept under the name. -/
  kept : st.kept? session (.standard "isAdmin") = none
  /-- The owner is an administrator, or is none. -/
  isAdmin : st.isAdmin (some session) = admin

/-- Access control rates a session as the store does. -/
theorem SessionStore.Rates.access {st : SessionStore} {session : SessionId} {admin : Bool}
    (h : st.Rates session admin) : Access.isAdmin st session = admin := by
  have hadmin := Access.isAdmin_iff st session
  rw [h.kept] at hadmin
  rw [← h.isAdmin, Bool.eq_iff_iff]
  exact hadmin

/-- Only what is kept for the session counts. -/
theorem SessionStore.Rates.congr {st st' : SessionStore} {session : SessionId} {admin : Bool}
    (h : st.Rates session admin) (hs : st'.attributes session = st.attributes session) :
    st'.Rates session admin where
  kept := by
    rw [SessionStore.kept?, hs]
    exact h.kept
  isAdmin := by
    rw [SessionStore.isAdmin, SessionStore.identityOf, Option.bind_some, SessionStore.identity?, hs]
    exact h.isAdmin

namespace Access

variable {β : Type} {session : SessionId} {token : IdentityToken} {status : StatusCode}
  {t : Tables β}

/-- An activation records the owner, or clears the session, and leaves other sessions alone. -/
theorem attributes_activated (s : SessionId) :
    (activated session token status t).sessions.attributes s =
      if s = session then
        if status.isGood then
          { t.sessions.attributes session with identity := some token.identity }
        else .empty
      else t.sessions.attributes s := by
  have hnamed : ∀ s, (answered session token status (named session token t)).sessions.attributes s =
      if s = session then
        { t.sessions.attributes session with identity := some token.identity }
      else t.sessions.attributes s := by
    intro s
    have hsame : (answered session token status (named session token t)).sessions =
        t.sessions.recordIdentity session token.identity := by
      unfold answered
      split <;> rfl
    rw [hsame]
    exact SessionStore.attributes_update _ _ _ _
  unfold activated
  split
  · exact hnamed s
  · show ((answered session token status _).sessions.close session).attributes s = _
    rw [SessionStore.attributes_close, hnamed]
    by_cases hs : s = session <;> simp [hs]

/-- After an activation a session without values is one of an administrator if the token was
accepted and is one of an administrator. -/
theorem rates_activated (hempty : (t.sessions.attributes session).values = .empty) :
    (activated session token status t).sessions.Rates session
      (status.isGood && token.identity.isAdmin) where
  kept := by
    rw [SessionStore.kept?, attributes_activated, if_pos rfl]
    split
    · rw [hempty]
      rfl
    · rfl
  isAdmin := by
    rw [SessionStore.isAdmin, SessionStore.identityOf, Option.bind_some, SessionStore.identity?,
      attributes_activated, if_pos rfl]
    cases status.isGood <;> rfl

private theorem rates_activated_of_ne {other : SessionId} {admin : Bool} (h : other ≠ session)
    (hr : t.sessions.Rates other admin) :
    (activated session token status t).sessions.Rates other admin :=
  hr.congr ((attributes_activated other).trans (if_neg h))

end Access

namespace Demo

/-! ### What parts of a demonstration come to -/

namespace Act

variable {α γ : Type} {s t u : Server Reaction} {a : α} {b : γ}

/-- The part that begins in `s` ends well in `t`, and gives `a`. -/
def Gives (x : Act α) (s : Server Reaction) (a : α) (t : Server Reaction) : Prop :=
  (x.run s).run answer = (.ok a, t)

/-- What follows on an act starts from what that gives. -/
theorem Gives.bind {x : Act α} {f : α → Act γ} (h : x.Gives s a t) (h' : (f a).Gives t b u) :
    (x >>= f).Gives s b u := by
  show ((x.run s).bind fun r t => ExceptT.bindCont f r t).run answer = _
  rw [Interaction.run_bind, h]
  exact h'

/-- A value is given in the same state. -/
theorem gives_pure (a : α) (s : Server Reaction) : (pure a : Act α).Gives s a s := rfl

/-- A line in the journal gives nothing. -/
theorem gives_log (level : Level) (text : String) (s : Server Reaction) :
    (log level text).Gives s () (s.log level text) := rfl

private theorem operation_gives {x : Operation Reaction α} (h : x.perform s = .done (.ok a) t) :
    (operation x).Gives s a t := by
  show ((x.perform s).bind fun r t => .done (r.mapError Stop.failed) t).run answer = _
  rw [h]
  rfl

private theorem require_gives {x : Service Reaction α} (what : String)
    (h : x.run s = .done (.ok a) t) : (require what x).Gives s a t := by
  show ((x.run s).bind fun r t => .done (r.mapError (Stop.refused what)) t).run answer = _
  rw [h]
  rfl

/-- A service that is tried out gives its result, also if that is a failure. -/
theorem tryOut_gives {x : Service Reaction α} {r : Except StatusCode α}
    (h : (x.run s).run answer = (r, t)) : (tryOut x).Gives s r t := by
  show ((x.run s).bind fun r t => .done (Except.ok r) t).run answer = _
  rw [Interaction.run_bind, h]
  rfl

/-- A routine that is over at once gives what it gives. -/
theorem routine_gives {x : Routine Reaction α} (h : x.perform s = .done a t) :
    (routine x).Gives s a t := by
  show ((x.perform s).bind fun a t => .done (Except.ok a) t).run answer = _
  rw [h]
  rfl

end Act

end Demo

/-- A routine that ends without a call leaves other tables. -/
theorem Routine.perform_of_done {β α : Type} {x : Routine β α} {s : Server β} {a : α}
    {t : Tables β} (h : x s.tables = .done a t) : x.perform s = .done a (s.withTables t) := by
  show ((x s.tables).zoom Server.tables Server.withTables s).serve Server.answer = _
  rw [h]
  rfl

namespace Demo

/-! ### Alarms that are in place -/

/-- The callback of an alarm in a demonstration. -/
def reactionTo : TransitionKind → Reaction
  | .enabled => .announce "enabled"
  | .acked => .reserve "acknowledge"
  | .confirmed => .reserve "confirm"
  | .active => .announce "active"

/-- How the callback of an alarm is registered. -/
def slotOf (a : Alarm) (k : TransitionKind) : Slot Reaction := ⟨a.source, false, reactionTo k⟩

/-- There is a source of events of that name. -/
def IsSource (name : String) (i : NodeId) (s : Server Reaction) : Prop :=
  ∃ n, s.space.nodes.find? i = some n ∧ n.browseName = .standard name ∧ n.body = .object ∧
    n.notifier = true

/-- The alarm of a configuration is in place. -/
structure InPlace (c : AlarmConfig) (a : Alarm) (s : Server Reaction) : Prop where
  /-- The handle owns its node. -/
  owns : a.condition.ownsNode = true
  /-- The node is a condition of the name that was prepared. -/
  condition : ∃ n cs, s.space.nodes.find? a.condition.id = some n ∧
    n.browseName = .standard c.name ∧ n.body = .condition cs ∧ cs.Prepared a.source c.severity
  /-- It belongs to the source of the name. -/
  source : IsSource c.source a.source s
  /-- The source refers to it, also as its component if it is exposed. -/
  linked : ∀ n, s.space.nodes.find? a.source = some n →
    ⟨.hasCondition, a.condition.id⟩ ∈ n.references ∧
      (c.exposed = true → ⟨.hasComponent, a.condition.id⟩ ∈ n.references)
  /-- Each variable has a hook that leads to its callback. -/
  hooks : ∀ k, s.space.hooks.find? (a.condition.id, k) = some ((slotOf a k).hook a.condition.id k)
  /-- Each variable has its callback. -/
  slots : ∀ k, s.tables.registry.slot? a.condition.id k = some (slotOf a k)

section

variable {c : NodeId} {s t : Server Reaction}

private theorem IsSource.spares {name : String} {i : NodeId} (h : IsSource name i s)
    (hs : Spares c s t) (hi : i ≠ c) : IsSource name i t := by
  obtain ⟨n, hn, hname, hbody, hnotifier⟩ := h
  obtain ⟨m, hm, hforget⟩ := hs.find? hi hn
  exact ⟨m, hm, (congrArg Node.browseName hforget).trans hname,
    (congrArg Node.body hforget).trans hbody, (congrArg Node.notifier hforget).trans hnotifier⟩

private theorem InPlace.spares {cfg : AlarmConfig} {a : Alarm} (h : InPlace cfg a s)
    (hs : Spares c s t) (hid : a.condition.id ≠ c) (hsource : a.source ≠ c) : InPlace cfg a t where
  owns := h.owns
  condition := by
    obtain ⟨n, cs, hn, hname, hbody, hcs⟩ := h.condition
    obtain ⟨m, hm, hforget⟩ := hs.find? hid hn
    exact ⟨m, cs, hm, (congrArg Node.browseName hforget).trans hname,
      (congrArg Node.body hforget).trans hbody, hcs⟩
  source := h.source.spares hs hsource
  linked m hm := by
    obtain ⟨n, hn, -⟩ := h.source
    obtain ⟨m', hm', hforget⟩ := hs.find? hsource hn
    cases hm.symm.trans hm'
    have hkept : ∀ type, ⟨type, a.condition.id⟩ ∈ n.references →
        ⟨type, a.condition.id⟩ ∈ m.references := by
      intro type hmem
      have hmem' : ⟨type, a.condition.id⟩ ∈ (n.forget c).references :=
        List.mem_filter.2 ⟨hmem, decide_eq_true hid⟩
      rw [← hforget] at hmem'
      exact (List.mem_filter.1 hmem').1
    obtain ⟨hcondition, hcomponent⟩ := h.linked n hn
    exact ⟨hkept _ hcondition, fun he => hkept _ (hcomponent he)⟩
  hooks k := (hs.hooks _ hid k).trans (h.hooks k)
  slots k := by
    rw [Registry.slot?, hs.callbacks _ hid]
    exact h.slots k

end

/-! ### Servers that are furnished -/

/-- A server holds the alarms that were added for some configurations, and the sources in a table,
and `n` identifiers are used up. -/
structure Furnished (sources : Table String NodeId) (cs : List AlarmConfig) (alarms : List Alarm)
    (n : Nat) (s : Server Reaction) : Prop where
  /-- Nothing is settled. -/
  script : s.script = .empty
  /-- Nothing was published. -/
  events : s.space.events = []
  /-- No session is known. -/
  sessions : s.tables.sessions = .empty
  /-- The other identifiers are free. -/
  unspent : s.space.Unspent n
  /-- There is the folder of objects. -/
  folder : s.space.nodes.contains .objectsFolder = true
  /-- There is the server object. -/
  server : s.space.nodes.contains .serverObject = true
  /-- The table holds sources of events. -/
  listed : ∀ name i, sources.find? name = some i → IsSource name i s
  /-- The alarms are in place. -/
  inPlace : List.Forall₂ (InPlace · · s) cs alarms
  /-- They are different. -/
  distinct : (alarms.map fun a => a.condition.id).Nodup
  /-- There are no other conditions. -/
  conditions : ∀ i n c, s.space.nodes.find? i = some n → n.body = .condition c →
    ∃ a ∈ alarms, a.condition.id = i
  /-- All hooks are at nodes that are there. -/
  hooks : ∀ i k, (s.space.hooks.find? (i, k)).isSome → s.space.nodes.contains i = true

section

variable {sources : Table String NodeId} {cs cs' : List AlarmConfig} {alarms alarms' : List Alarm}
  {n m : Nat} {c : NodeId} {s t : Server Reaction}

private theorem IsSource.contains {name : String} {i : NodeId} (h : IsSource name i s) :
    s.space.nodes.contains i = true := by
  obtain ⟨n, hn, -⟩ := h
  rw [Table.contains, hn]
  rfl

/-- The condition of an alarm that is in place is there. -/
theorem InPlace.contains {cfg : AlarmConfig} {a : Alarm} (h : InPlace cfg a s) :
    s.space.nodes.contains a.condition.id = true := by
  obtain ⟨n, -, hn, -⟩ := h.condition
  rw [Table.contains, hn]
  rfl

/-- Each alarm in a list is in place for one of the configurations. -/
theorem exists_inPlace (h : List.Forall₂ (InPlace · · s) cs alarms) {a : Alarm} (ha : a ∈ alarms) :
    ∃ cfg ∈ cs, InPlace cfg a s := by
  induction h with
  | nil => cases ha
  | cons hfirst _ ih =>
    rcases List.mem_cons.1 ha with rfl | ha
    · exact ⟨_, List.mem_cons_self, hfirst⟩
    · obtain ⟨cfg, hcfg, hin⟩ := ih ha
      exact ⟨cfg, List.mem_cons_of_mem _ hcfg, hin⟩

/-- A node under a new identifier, with the alarms that it is, if it is one. -/
theorem Furnished.extend (h : Furnished sources cs alarms n s) (hf : Furnishes c s t)
    (hfree : s.space.nodes.contains c = false) (hthere : t.space.nodes.contains c = true)
    (hunspent : t.space.Unspent m) (halarms : List.Forall₂ (InPlace · · t) cs' alarms')
    (hids : ∀ a ∈ alarms', a.condition.id = c)
    (hdistinct : (alarms'.map fun a => a.condition.id).Nodup)
    (hcondition : ∀ n d, t.space.nodes.find? c = some n → n.body = .condition d →
      ∃ a ∈ alarms', a.condition.id = c) :
    Furnished sources (cs ++ cs') (alarms ++ alarms') m t := by
  have hother : ∀ {i}, s.space.nodes.contains i = true → i ≠ c := by
    rintro i hi rfl
    cases hfree.symm.trans hi
  have hkept : ∀ {i}, s.space.nodes.contains i = true → t.space.nodes.contains i = true := by
    intro i hi
    obtain ⟨n, hn⟩ := Option.isSome_iff_exists.1 hi
    obtain ⟨m, hm, -⟩ := hf.spares.find? (hother hi) hn
    rw [Table.contains, hm]
    rfl
  have hplaced : ∀ {a}, a ∈ alarms → s.space.nodes.contains a.condition.id = true := by
    intro a ha
    obtain ⟨cfg, -, hin⟩ := exists_inPlace h.inPlace ha
    exact hin.contains
  refine ⟨hf.script.trans h.script, hf.events.trans h.events, hf.sessions.trans h.sessions,
    hunspent, hkept h.folder, hkept h.server, fun name i hi => ?_, ?_, ?_, fun i n d hn hbody => ?_,
    fun i k hk => ?_⟩
  · have hsource := h.listed name i hi
    exact hsource.spares hf.spares (hother hsource.contains)
  · refine List.rel_append (h.inPlace.imp fun cfg a ha => ?_) halarms
    exact ha.spares hf.spares (hother ha.contains) (hother ha.source.contains)
  · rw [List.map_append, List.nodup_append]
    refine ⟨h.distinct, hdistinct, fun i hi j hj => ?_⟩
    obtain ⟨a, ha, rfl⟩ := List.mem_map.1 hi
    obtain ⟨b, hb, rfl⟩ := List.mem_map.1 hj
    rw [hids b hb]
    exact hother (hplaced ha)
  · by_cases hi : i = c
    · subst hi
      obtain ⟨a, ha, haid⟩ := hcondition n d hn hbody
      exact ⟨a, List.mem_append_right _ ha, haid⟩
    · have hnodes := hf.spares.nodes i hi
      rw [hn, Option.map_some] at hnodes
      obtain ⟨m, hm, hforget⟩ := Option.map_eq_some_iff.1 hnodes.symm
      obtain ⟨a, ha, haid⟩ := h.conditions i m d hm ((congrArg Node.body hforget).trans hbody)
      exact ⟨a, List.mem_append_left _ ha, haid⟩
  · by_cases hi : i = c
    · rw [hi]
      exact hthere
    · rw [hf.spares.hooks i hi] at hk
      exact hkept (h.hooks i k hk)

/-- The next identifier is free. -/
theorem Furnished.free (h : Furnished sources cs alarms n s) :
    s.space.nodes.contains s.space.allocate.1 = false :=
  h.unspent.free _ (UInt32.le_refl _)

/-- A source that is not in the table can be added. -/
theorem source_gives (h : Furnished sources cs alarms n s) (hn : n + 1 < NodeId.assignable)
    (name : String) :
    ∃ i sources' m t, (Act.source sources name).Gives s (i, sources') t ∧
      Furnished sources' cs alarms m t ∧ m ≤ n + 1 ∧ IsSource name i t := by
  unfold Act.source
  cases hlisted : sources.find? name with
  | some i =>
    exact ⟨i, sources, n, s, Act.gives_pure _ s, h, Nat.le_add_right n 1, h.listed name i hlisted⟩
  | none =>
    obtain ⟨t, node, hrun, hfounds, hnode, hname, hbody, hnotifier⟩ :=
      Service.addEventSource_founds (.standard name) h.folder h.server
    let i := s.space.allocate.1
    have hsource : IsSource name i t := ⟨node, hnode, hname, hbody, hnotifier⟩
    have hext : Furnished sources (cs ++ []) (alarms ++ []) (n + 1) t := by
      refine h.extend hfounds.toFurnishes h.free hsource.contains (hfounds.unspent n h.unspent hn)
        .nil (fun _ ha => nomatch ha) .nil fun node' d hnode' hbody' => ?_
      cases hnode.symm.trans hnode'
      cases hbody.symm.trans hbody'
    rw [List.append_nil, List.append_nil] at hext
    refine ⟨i, sources.insert name i, n + 1, t, ?_, { hext with listed := fun name' j hj => ?_ },
      Nat.le_refl _, hsource⟩
    · exact (Act.require_gives _ hrun).bind (Act.gives_pure _ t)
    · rw [Table.find?_insert] at hj
      split at hj
      · next hname =>
        cases hj
        exact hname ▸ hsource
      · exact hext.listed name' j hj

/-- A callback can be registered for an alarm and a source that are there. -/
theorem register_gives {a : Alarm} {d : ConditionState} (hs : s.script = .empty)
    (hc : s.space.condition a.condition.id = .ok d) (ht : d.type = .offNormal)
    (hsource : s.space.nodes.contains a.source = true) (k : TransitionKind) :
    ∃ t, (Act.operation (a.register k false (reactionTo k))).Gives s () t ∧
      Attends a.condition.id (fun k' => if k' = k then some (slotOf a k) else none) s t := by
  have hk : k ∈ d.type.kinds := by
    rw [ht]
    cases k <;> decide
  obtain ⟨t, hrun, hattends⟩ := Condition.register_attends (slotOf a k) hs hc hk hsource
  exact ⟨t, Act.operation_gives hrun, hattends⟩

/-- The callbacks of an alarm can be registered one after the other. -/
theorem callbacks_give {a : Alarm} {d : ConditionState} (hs : s.script = .empty)
    (hc : s.space.condition a.condition.id = .ok d) (ht : d.type = .offNormal)
    (hsource : s.space.nodes.contains a.source = true) :
    ∃ t, Attends a.condition.id (fun k => some (slotOf a k)) s t ∧
      ∀ {γ : Type} {x : Act γ} {b : γ} {u : Server Reaction}, x.Gives t b u →
        (do Act.operation (a.register .enabled false (.announce "enabled"))
            Act.operation (a.register .acked false (.reserve "acknowledge"))
            Act.operation (a.register .confirmed false (.reserve "confirm"))
            Act.operation (a.register .active false (.announce "active"))
            x).Gives s b u := by
  have hnext : ∀ {slots : TransitionKind → Option (Slot Reaction)} {v : Server Reaction}
      (_ : Attends a.condition.id slots s v) (k : TransitionKind),
      ∃ w, (Act.operation (a.register k false (reactionTo k))).Gives v () w ∧
        Attends a.condition.id
          (fun k' => (if k' = k then some (slotOf a k) else none).or (slots k')) s w := by
    intro slots v hv k
    have hcv : v.space.condition a.condition.id = .ok d :=
      (Server.condition_of_find? (by rw [hv.nodes])).trans hc
    obtain ⟨w, hrun, hw⟩ := register_gives (hv.script.trans hs) hcv ht (by rwa [hv.nodes]) k
    exact ⟨w, hrun, hv.trans hw⟩
  obtain ⟨s₁, hrun₁, h₁⟩ := hnext (.refl a.condition.id s) .enabled
  obtain ⟨s₂, hrun₂, h₂⟩ := hnext h₁ .acked
  obtain ⟨s₃, hrun₃, h₃⟩ := hnext h₂ .confirmed
  obtain ⟨s₄, hrun₄, h₄⟩ := hnext h₃ .active
  refine ⟨s₄, h₄.congr fun k => ?_, fun hx => ?_⟩
  · cases k <;> rfl
  · exact hrun₁.bind (hrun₂.bind (hrun₃.bind (hrun₄.bind hx)))

/-- There is no condition yet of a name that no configuration had. -/
theorem Furnished.name_free (h : Furnished sources cs alarms n s) {name : String}
    (hname : name ∉ cs.map AlarmConfig.name) (source : NodeId) :
    s.space.hasConditionNamed source (.standard name) = false := by
  refine Bool.eq_false_iff.2 fun hhas => hname ?_
  obtain ⟨node, hnode, hmatch⟩ := List.any_eq_true.1 hhas
  obtain ⟨⟨i, _⟩, hentry, rfl⟩ := List.mem_map.1 hnode
  have hfind := (Table.mem_entries_iff _ _ _).1 hentry
  obtain ⟨hnamed, hbody⟩ := Bool.and_eq_true_iff.1 hmatch
  split at hbody
  · next d hd =>
    obtain ⟨a, ha, haid⟩ := h.conditions i _ d hfind hd
    obtain ⟨cfg, hcfg, hin⟩ := exists_inPlace h.inPlace ha
    obtain ⟨node, _, hfind', hname', -⟩ := hin.condition
    rw [haid] at hfind'
    cases hfind.symm.trans hfind'
    rw [hname'] at hnamed
    have hsame : cfg.name = name := congrArg QualifiedName.name (of_decide_eq_true hnamed)
    exact List.mem_map.2 ⟨cfg, hcfg, hsame⟩
  · cases hbody

/-- An alarm of a new name can be added. -/
theorem addAlarm_gives (h : Furnished sources cs alarms n s) (hn : n + 2 < NodeId.assignable)
    {cfg : AlarmConfig} (hname : cfg.name ∉ cs.map AlarmConfig.name) :
    ∃ a sources' m t, (Act.addAlarm sources cfg).Gives s (a, sources') t ∧
      Furnished sources' (cs ++ [cfg]) (alarms ++ [a]) m t ∧ m ≤ n + 2 := by
  obtain ⟨i, sources', m, s₁, hsource, h₁, hm, hi⟩ :=
    source_gives h (Nat.lt_of_succ_lt hn) cfg.source
  obtain ⟨node, hnode, -⟩ := id hi
  let parent := if cfg.exposed = true then some NodeId.hasComponent else none
  have hparent : parent.all NodeId.isReferenceType = true := by
    unfold parent
    split <;> rfl
  let id := s₁.space.allocate.1
  have hhook : s₁.space.hooks.find? (id, .enabled) = none := by
    by_contra hsome
    have hc := h₁.hooks id .enabled (Option.isSome_iff_ne_none.2 hsome)
    cases hc.symm.trans h₁.free
  obtain ⟨s₂, new, d, hcreate, hfounds, hnew, hnewname, hbody, hd, hlinked⟩ :=
    Alarm.create_run h₁.script hnode hparent (h₁.name_free hname i) h₁.free hhook cfg.severity
  let a : Alarm := ⟨⟨id, true⟩, i⟩
  have hne : i ≠ id := by
    rintro rfl
    cases hi.contains.symm.trans h₁.free
  have hi₂ : IsSource cfg.source i s₂ := hi.spares hfounds.spares hne
  obtain ⟨t, hattends, hcallbacks⟩ := callbacks_give (a := a) (hfounds.script.trans h₁.script)
    (AddressSpace.condition_eq_ok_iff.2 ⟨new, hnew, hbody⟩) hd.type hi₂.contains
  refine ⟨a, sources', m + 1, t, ?_, ?_, Nat.succ_le_succ hm⟩
  · refine hsource.bind ?_
    refine (Act.operation_gives hcreate).bind ?_
    exact hcallbacks (Act.gives_pure _ t)
  · have hfind : t.space.nodes.find? id = some new := by
      rw [hattends.nodes]
      exact hnew
    have hin : InPlace cfg a t := by
      refine ⟨rfl, ⟨new, d, hfind, hnewname, hbody, hd⟩, hi₂.spares hattends.spares hne,
        fun holder hholder => ?_, fun k => ?_, fun k => ?_⟩
      · rw [hattends.nodes] at hholder
        refine ⟨hlinked _ (by simp) holder hholder, fun he => hlinked _ ?_ holder hholder⟩
        simp [parent, he]
      · rw [hattends.hooks]
        rfl
      · rw [hattends.slots]
        rfl
    have hunspent : t.space.Unspent (m + 1) := by
      refine (hfounds.unspent m h₁.unspent ?_).congr hattends.nextId fun j => ?_
      · omega
      · rw [hattends.nodes]
    refine h₁.extend (hfounds.toFurnishes.trans hattends.toFurnishes) h₁.free hin.contains hunspent
      (.cons hin .nil) ?_ ?_ ?_
    · simp [a, id]
    · simp
    · exact fun _ _ _ _ => ⟨a, List.mem_singleton_self a, rfl⟩

/-- All alarms can be added if they have different names and there are enough identifiers. -/
theorem addAlarms_gives {rest : List AlarmConfig} (h : Furnished sources cs alarms n s)
    (hn : n + 2 * rest.length < NodeId.assignable)
    (hnames : ((cs ++ rest).map AlarmConfig.name).Nodup) :
    ∃ added sources' m t, (Act.addAlarms sources rest).Gives s added t ∧
      Furnished sources' (cs ++ rest) (alarms ++ added) m t ∧ m ≤ n + 2 * rest.length := by
  induction rest generalizing sources cs alarms n s with
  | nil =>
    refine ⟨[], sources, n, s, Act.gives_pure _ s, ?_, Nat.le_refl _⟩
    rwa [List.append_nil, List.append_nil]
  | cons cfg rest ih =>
    rw [List.length_cons] at hn
    have hname : cfg.name ∉ cs.map AlarmConfig.name := by
      rw [List.map_append, List.map_cons] at hnames
      exact fun hmem => (List.nodup_append.1 hnames).2.2 _ hmem _ List.mem_cons_self rfl
    obtain ⟨a, sources₁, m₁, s₁, hadd, h₁, hm₁⟩ := addAlarm_gives h (by omega) hname
    rw [List.append_cons cs] at hnames
    obtain ⟨added, sources₂, m₂, s₂, hrest, h₂, hm₂⟩ := ih h₁ (by omega) hnames
    refine ⟨a :: added, sources₂, m₂, s₂, ?_, ?_, ?_⟩
    · exact hadd.bind (hrest.bind (Act.gives_pure _ s₂))
    · rwa [List.append_cons cs, List.append_cons alarms]
    · rw [List.length_cons]
      omega

/-! ### Scenes -/

/-- A server on which nothing was done is furnished with nothing. -/
theorem furnished_initial (hscript : s.script = .empty) (hspace : s.space = .initial)
    (hsessions : s.tables.sessions = .empty) : Furnished .empty [] [] 0 s where
  script := hscript
  events := by rw [hspace]; rfl
  sessions := hsessions
  unspent := by
    rw [hspace]
    exact AddressSpace.unspent_initial
  folder := by rw [hspace]; rfl
  server := by rw [hspace]; rfl
  listed _ _ hi := nomatch hi
  inPlace := .nil
  distinct := List.nodup_nil
  conditions i n d hn hbody := by
    have hnone : (AddressSpace.initial : AddressSpace Reaction).role? i ≠
        some ⟨n.notifier, .condition⟩ := by
      rw [AddressSpace.role?_initial]
      split
      · simp
      · split <;> simp
    rw [hspace] at hn
    refine absurd ?_ hnone
    rw [AddressSpace.role?, hn, Option.map_some, Node.role, hbody]
    rfl
  hooks i k hk := by
    rw [hspace] at hk
    cases hk

end

/-- A login that was tried leaves the address space and the callbacks as they were. -/
theorem logIn_gives (p : LoginPolicy) (session : SessionId) (token : IdentityToken)
    (s : Server Reaction) :
    ∃ t, (Act.logIn ⟨.logins p⟩ session token).Gives s () t ∧ t.space = s.space ∧
      t.tables.registry = s.tables.registry ∧ t.script = s.script ∧
      t.tables.sessions = (Access.activated session token (p.decide token) s.tables).sessions := by
  have hrun := Routine.perform_of_done (s := s) (p.activated_run session token s.tables)
  let t := s.withTables (Access.activated session token (p.decide token) s.tables)
  have hregistry : t.tables.registry = s.tables.registry := by
    show (Access.activated session token (p.decide token) s.tables).registry = _
    unfold Access.activated Access.answered
    split <;> split <;> rfl
  by_cases hg : (p.decide token).isGood = true
  · refine ⟨t, (Act.routine_gives hrun).bind ?_, rfl, hregistry, rfl, rfl⟩
    rw [if_pos hg]
    rfl
  · let text := "Activation of " ++ token.debugText ++ " failed: " ++ (p.decide token).text
    refine ⟨t.log .warn text, (Act.routine_gives hrun).bind ?_, rfl, hregistry, rfl, rfl⟩
    rw [if_neg hg]
    rfl

/-- Whether the table lets the administrator in. -/
theorem isGood_decide_admin (c : AccessConfig) :
    (((LoginPolicy.ofConfig c).decide (.userName "admin" "admin")).isGood &&
      (IdentityToken.userName "admin" "admin").identity.isAdmin) =
        decide (c.password? "admin" = some "admin") := by
  rw [LoginPolicy.decide, LoginPolicy.logins_ofConfig]
  by_cases h : c.password? "admin" = some "admin"
  · rw [if_pos h, decide_eq_true h]
    rfl
  · rw [if_neg h, decide_eq_false h]
    rfl

/-- After both have tried to log in where no session was known, the administrator is one if the
table lets him in, and the guest is none. -/
theorem rates_logIns {c : AccessConfig} {admin guest : SessionId} (hne : guest ≠ admin)
    {t u : Tables Reaction} (ht : t.sessions = .empty)
    (hu : u.sessions = (Access.activated admin (.userName "admin" "admin")
      ((LoginPolicy.ofConfig c).decide (.userName "admin" "admin")) t).sessions)
    (status : StatusCode) :
    let st := (Access.activated guest (.userName "guest" "guest") status u).sessions
    st.Rates admin (c.password? "admin" = some "admin") ∧ st.Rates guest false := by
  have hadmin : u.sessions.Rates admin (c.password? "admin" = some "admin") := by
    rw [hu, ← isGood_decide_admin]
    refine Access.rates_activated ?_
    rw [ht]
    rfl
  have hguest : (u.sessions.attributes guest).values = .empty := by
    rw [hu, Access.attributes_activated, if_neg hne, ht]
    rfl
  refine ⟨Access.rates_activated_of_ne hne.symm hadmin, ?_⟩
  have hrates : (Access.activated guest (.userName "guest" "guest") status u).sessions.Rates guest
      (status.isGood && false) := Access.rates_activated hguest
  rwa [Bool.and_false] at hrates

/-- The scene of a configuration is set. -/
structure IsSet (c : Config) (x : Act.Scene) (s : Server Reaction) : Prop where
  /-- Nothing is settled. -/
  script : s.script = .empty
  /-- Nothing was published. -/
  events : s.space.events = []
  /-- The logins are those of the configuration. -/
  access : x.access = ⟨.logins (.ofConfig c.access)⟩
  /-- Each alarm of the configuration is in place. -/
  alarms : List.Forall₂ (InPlace · · s) c.alarms x.alarms
  /-- They are different. -/
  distinct : (x.alarms.map fun a => a.condition.id).Nodup
  /-- The first one is shown. -/
  first : x.alarms.head? = some x.first
  /-- There is the variable. -/
  node : ∃ n, s.space.nodes.find? x.node = some n ∧
    n.body = .variable ⟨.boolean false, .readWrite⟩
  /-- The variable switches the alarm. -/
  watched : s.space.watchers.find? x.node = some (.switch x.first)
  /-- The session of the administrator is one if the password is right. -/
  admin : s.tables.sessions.Rates x.admin (c.access.password? "admin" = some "admin")
  /-- The session of the guest is none of an administrator. -/
  guest : s.tables.sessions.Rates x.guest false

/-- The scene can be set for every configuration that keeps the rules and has alarms, but not more
than there are identifiers for. -/
theorem setUp_gives {c : Config} (hc : c.validate = .ok ()) (hne : c.alarms ≠ [])
    (hlimit : 2 * c.alarms.length + 1 < NodeId.assignable) {s : Server Reaction}
    (hscript : s.script = .empty) (hspace : s.space = .initial)
    (hsessions : s.tables.sessions = .empty) :
    ∃ x t, (Act.setUp c).Gives s x t ∧ IsSet c x t := by
  let text := c.server.applicationName ++ " (" ++ c.server.applicationUri ++ "): " ++
    toString c.alarms.length ++ " condition(s)"
  let p : LoginPolicy := .ofConfig c.access
  have h₁ : Furnished .empty [] [] 0 (s.log .info text) :=
    furnished_initial hscript hspace hsessions
  have henough : 0 + 2 * c.alarms.length < NodeId.assignable := by omega
  obtain ⟨alarms, sources, n, s₂, halarms, h₂, hn⟩ :=
    addAlarms_gives h₁ henough (Config.valid_iff.1 hc).names
  obtain ⟨first, others, rfl⟩ : ∃ first others, alarms = first :: others := by
    refine List.exists_cons_of_ne_nil ?_
    rintro rfl
    exact hne (List.forall₂_nil_right_iff.1 h₂.inPlace)
  obtain ⟨s₃, v, hrun₃, h₃, hv, hbody⟩ :=
    Service.addVariable_founds h₂.folder (.standard "AlarmActive") (.boolean false) .readWrite
  let node := s₂.space.allocate.1
  have hthere : s₃.space.nodes.contains node = true := by
    rw [Table.contains, hv]
    rfl
  obtain ⟨s₄, hrun₄, h₄, hnodes, hhooks, hregistry, hwatch⟩ :=
    Service.watch_furnishes hthere (Reaction.switch first)
  obtain ⟨admin, s₅, guest, s₆, hadmin, hguest, hdrawn, h₆⟩ : ∃ admin s₅ guest s₆,
      Act.drawSession.Gives s₄ admin s₅ ∧ Act.drawSession.Gives s₅ guest s₆ ∧ guest ≠ admin ∧
      s₆.space = s₄.space ∧ s₆.tables.registry = s₄.tables.registry ∧ s₆.script = s₄.script ∧
      s₆.tables.sessions = s₄.tables.sessions := by
    refine ⟨_, _, _, _, rfl, rfl, fun he => ?_, rfl, rfl, rfl, rfl⟩
    have hguid := congrArg (fun session => session.node.identifier) he
    exact Guid.drawn_succ_ne _ (Identifier.guid.inj hguid)
  obtain ⟨h₆s, h₆r, h₆c, h₆t⟩ := h₆
  obtain ⟨s₇, hrun₇, h₇s, h₇r, h₇c, h₇t⟩ := logIn_gives p admin (.userName "admin" "admin") s₆
  obtain ⟨s₈, hrun₈, h₈s, h₈r, h₈c, h₈t⟩ := logIn_gives p guest (.userName "guest" "guest") s₇
  let x : Act.Scene := ⟨⟨.logins p⟩, first :: others, first, node, admin, guest⟩
  refine ⟨x, s₈, ?_, ?_⟩
  · refine (Act.gives_log _ _ _).bind ?_
    refine halarms.bind ?_
    refine (Act.require_gives _ hrun₃).bind ?_
    refine (Act.require_gives _ hrun₄).bind ?_
    refine hadmin.bind (hguest.bind (hrun₇.bind (hrun₈.bind ?_)))
    exact Act.gives_pure x s₈
  · have hspace₈ : s₈.space = s₄.space := h₈s.trans (h₇s.trans h₆s)
    have hspares : Spares node s₂ s₈ :=
      (h₃.spares.trans h₄.spares).trans (.of_eq hspace₈ (h₈r.trans (h₇r.trans h₆r)))
    have hother : ∀ {i}, s₂.space.nodes.contains i = true → i ≠ node := by
      rintro i hi rfl
      cases h₂.free.symm.trans hi
    have hempty : s₆.tables.sessions = .empty :=
      h₆t.trans (h₄.sessions.trans (h₃.sessions.trans h₂.sessions))
    obtain ⟨hratesAdmin, hratesGuest⟩ := rates_logIns hdrawn hempty h₇t
      (p.decide (.userName "guest" "guest"))
    rw [← h₈t] at hratesAdmin hratesGuest
    refine ⟨?_, ?_, rfl, ?_, h₂.distinct, rfl, ⟨v, ?_, hbody⟩, ?_, hratesAdmin, hratesGuest⟩
    · rw [h₈c, h₇c, h₆c, h₄.script, h₃.script, h₂.script]
    · rw [hspace₈, h₄.events, h₃.events, h₂.events]
    · exact h₂.inPlace.imp fun cfg a ha =>
        ha.spares hspares (hother ha.contains) (hother ha.source.contains)
    · rw [hspace₈, hnodes]
      exact hv
    · rw [hspace₈]
      exact hwatch

end Demo

end AlarmServer
