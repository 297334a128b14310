import AlarmServer.Proofs.Stages

/-!
# Demonstrations

What a demonstration shows depends on one login. If the administrator is let in, the first alarm is
seen to be switched on, acknowledged, confirmed and switched off; otherwise nothing is seen at all.
The guest achieves nothing in either case. Every demonstration with a configuration that keeps the
rules runs to its end, and no alarm is left then.
-/

namespace AlarmServer

open Server (Beside)

namespace Demo

variable {s t u : Server Reaction}

/-! ### Steps that are noted -/

section

variable {x : Act.Scene} {admitted : Bool} {ids : List TransitionKind}
  {events : List ConditionEvent}

/-- How a step ended is noted, and that is all. -/
theorem note_gives (step : String) (r : Except StatusCode EventId) (s : Server Reaction) :
    ∃ t, (Act.note step r).Gives s () t ∧ Beside s t ∧ t.script = s.script := by
  cases r with
  | ok id => exact ⟨_, Act.gives_log _ _ s, Server.beside_log _ _ s, rfl⟩
  | error e => exact ⟨_, Act.gives_log _ _ s, Server.beside_log _ _ s, rfl⟩

private theorem OnStage.attempt_refused (h : OnStage x admitted ids events s) (step : String)
    {m : ClientMethod} (hm : m.target = true) (hids : m.kind ∉ ids) {action : String}
    (hreserve : reactionTo m.kind = .reserve action) {session : SessionId}
    (hsession : m.session = some session) (hr : s.tables.sessions.Rates session false) :
    ∃ t u, (Act.tryOut (m.perform x.first.condition.id)).Gives s (.error .badUserAccessDenied) t ∧
      Beside s t ∧ (Act.note step (.error .badUserAccessDenied)).Gives t () u ∧
      OnStage x admitted ids events u := by
  obtain ⟨t, htry, hb, ht⟩ := h.refused hm hids hreserve hsession hr
  obtain ⟨u, hnote, hbu, hu⟩ := note_gives step (.error .badUserAccessDenied) t
  exact ⟨t, u, htry, hb, hnote, (h.beside hb ht).beside hbu (hu.trans ht)⟩

private theorem OnStage.attempt_granted (h : OnStage x admitted ids events s) (step : String)
    {m : ClientMethod} (hm : m.target = true) (hids : m.kind ∉ ids) {action : String}
    (hreserve : reactionTo m.kind = .reserve action) {session : SessionId}
    (hsession : m.session = some session) (hr : s.tables.sessions.Rates session true) :
    ∃ id t u e, (Act.tryOut (m.perform x.first.condition.id)).Gives s (.ok id) t ∧
      (Act.note step (.ok id)).Gives t () u ∧
      OnStage x admitted (m.kind :: ids) (events ++ [e]) u ∧ Depicts x.first (m.kind :: ids) e ∧
      ∀ text, m.comment = some text → ("Comment", .localizedText (.plain text)) ∈ e.fields := by
  obtain ⟨id, t, e, htry, hstage, hdepicts, hcomment⟩ := h.granted hm hids hreserve hsession hr
  obtain ⟨u, hnote, hbu, hu⟩ := note_gives step (.ok id) t
  exact ⟨id, t, u, e, htry, hnote, hstage.beside hbu (hu.trans hstage.script), hdepicts, hcomment⟩

end

/-! ### The course of a demonstration -/

/-- The events of an alarm that is switched on, acknowledged, confirmed and switched off. -/
inductive Shows (a : Alarm) : List ConditionEvent → Prop where
  /-- There are four of them. -/
  | intro {e₁ e₂ e₃ e₄ : ConditionEvent} (active : Depicts a [.active, .enabled] e₁)
      (acked : Depicts a [.acked, .active, .enabled] e₂)
      (comment : ("Comment", .localizedText (.plain "On it")) ∈ e₂.fields)
      (confirmed : Depicts a [.confirmed, .acked, .active, .enabled] e₃)
      (inactive : Depicts a [.enabled] e₄) : Shows a [e₁, e₂, e₃, e₄]

/-- The guest achieves nothing where a scene is played: it writes nothing, and after the
administrator has tried to write it acknowledges nothing. -/
def KeepsOut (x : Act.Scene) (s : Server Reaction) : Prop :=
  ∃ s₁ s₂ s₃, (Act.writeSwitch x.access x.node x.guest true).Gives s () s₁ ∧ Beside s s₁ ∧
    (Act.writeSwitch x.access x.node x.admin true).Gives s₁ () s₂ ∧
    (Act.tryOut (Service.acknowledge x.first.condition.id (some x.guest) none)).Gives s₂
      (.error .badUserAccessDenied) s₃ ∧ Beside s₂ s₃

section

variable {x : Act.Scene}

private theorem play_denied (h : OnStage x false [.enabled] [] s) :
    ∃ t, (Act.play x).Gives s () t ∧ KeepsOut x s ∧ OnStage x false [.enabled] [] t := by
  obtain ⟨s₁, hrun₁, hb₁, hs₁⟩ := h.writeSwitch_denied h.guest true
  have h₁ := h.beside hb₁ hs₁
  obtain ⟨s₂, hrun₂, hb₂, hs₂⟩ := h₁.writeSwitch_denied h₁.admin true
  have h₂ := h₁.beside hb₂ hs₂
  obtain ⟨s₃, s₄, hrun₃, hb₃, hrun₄, h₄⟩ := h₂.attempt_refused "guest acknowledge"
    (m := .acknowledge (some x.guest) none) rfl (by simp [ClientMethod.kind]) rfl rfl h₂.guest
  obtain ⟨s₅, s₆, hrun₅, -, hrun₆, h₆⟩ := h₄.attempt_refused "admin acknowledge"
    (m := .acknowledge (some x.admin) (some "On it")) rfl (by simp [ClientMethod.kind]) rfl rfl
    h₄.admin
  obtain ⟨s₇, s₈, hrun₇, -, hrun₈, h₈⟩ := h₆.attempt_refused "admin confirm"
    (m := .confirm (some x.admin) none) rfl (by simp [ClientMethod.kind]) rfl rfl h₆.admin
  obtain ⟨s₉, hrun₉, hb₉, hs₉⟩ := h₈.writeSwitch_denied h₈.admin false
  refine ⟨s₉, ?_, ⟨s₁, s₂, s₃, hrun₁, hb₁, hrun₂, hrun₃, hb₃⟩, h₈.beside hb₉ hs₉⟩
  refine hrun₁.bind (hrun₂.bind ?_)
  refine hrun₃.bind (hrun₄.bind ?_)
  refine hrun₅.bind (hrun₆.bind ?_)
  exact hrun₇.bind (hrun₈.bind hrun₉)

private theorem play_admitted (h : OnStage x true [.enabled] [] s) :
    ∃ t events, (Act.play x).Gives s () t ∧ KeepsOut x s ∧
      OnStage x true [.enabled] events t ∧ Shows x.first events := by
  obtain ⟨s₁, hrun₁, hb₁, hs₁⟩ := h.writeSwitch_denied h.guest true
  have h₁ := h.beside hb₁ hs₁
  obtain ⟨s₂, e₁, hrun₂, h₂, he₁⟩ := h₁.writeSwitch_admitted true fun hu =>
    hu.switch_on (by decide)
  obtain ⟨s₃, s₄, hrun₃, hb₃, hrun₄, h₄⟩ := h₂.attempt_refused "guest acknowledge"
    (m := .acknowledge (some x.guest) none) rfl (by simp [ClientMethod.kind]) rfl rfl h₂.guest
  obtain ⟨id₂, s₅, s₆, e₂, hrun₅, hrun₆, h₆, he₂, hcomment⟩ :=
    h₄.attempt_granted "admin acknowledge" (m := .acknowledge (some x.admin) (some "On it")) rfl
      (by simp [ClientMethod.kind]) rfl rfl h₄.admin
  obtain ⟨id₃, s₇, s₈, e₃, hrun₇, hrun₈, h₈, he₃, -⟩ := h₆.attempt_granted "admin confirm"
    (m := .confirm (some x.admin) none) rfl (by simp [ClientMethod.kind]) rfl rfl h₆.admin
  obtain ⟨s₉, e₄, hrun₉, h₉, he₄⟩ := h₈.writeSwitch_admitted false fun hu =>
    hu.switch_off (by simp)
  refine ⟨s₉, _, ?_, ⟨s₁, s₂, s₃, hrun₁, hb₁, hrun₂, hrun₃, hb₃⟩, h₉,
    .intro he₁ he₂ (hcomment _ rfl) he₃ he₄⟩
  refine hrun₁.bind (hrun₂.bind ?_)
  refine hrun₃.bind (hrun₄.bind ?_)
  refine hrun₅.bind (hrun₆.bind ?_)
  exact hrun₇.bind (hrun₈.bind hrun₉)

/-- A scene can be played in either case. -/
theorem play_gives {admitted : Bool} (h : OnStage x admitted [.enabled] [] s) :
    ∃ t events, (Act.play x).Gives s () t ∧ KeepsOut x s ∧ OnStage x admitted [.enabled] events t ∧
      if admitted then Shows x.first events else events = [] := by
  cases admitted with
  | false =>
    obtain ⟨t, hrun, hkeeps, ht⟩ := play_denied h
    exact ⟨t, [], hrun, hkeeps, ht, rfl⟩
  | true =>
    obtain ⟨t, events, hrun, hkeeps, ht, hshows⟩ := play_admitted h
    exact ⟨t, events, hrun, hkeeps, ht, hshows⟩

end

/-! ### The end of a demonstration -/

/-- A session that is closed leaves the address space as it was. -/
theorem close_gives (p : LoginPolicy) (session : SessionId) (s : Server Reaction) :
    ∃ t, (Act.routine ((⟨.logins p⟩ : AccessControl).close session)).Gives s () t ∧
      t.space = s.space ∧ t.script = s.script :=
  ⟨_, Act.routine_gives (Routine.perform_of_done rfl), rfl, rfl⟩

/-- The conditions were deleted, and nothing else was. -/
structure Clears (ids : List NodeId) (s t : Server Reaction) : Prop where
  /-- Nothing is settled. -/
  script : t.script = .empty
  /-- Nothing is published. -/
  events : t.space.events = s.space.events
  /-- As many nodes are deleted. -/
  deleted : t.space.deleted = s.space.deleted + ids.length
  /-- They are gone, and the other nodes stay. -/
  nodes : ∀ i, t.space.nodes.contains i = true ↔ s.space.nodes.contains i = true ∧ i ∉ ids

/-- A handle that owns its node deletes it. -/
theorem drop_gives {c : Condition} (hs : s.script = .empty) (ho : c.ownsNode = true)
    (hc : s.space.nodes.contains c.id = true) :
    ∃ t, (Act.routine c.drop).Gives s () t ∧ Clears [c.id] s t := by
  obtain ⟨t, hrun, hscript, hdropped⟩ := c.dropped_run hs
  refine ⟨t, Act.routine_gives hrun, ?_⟩
  cases hdropped with
  | nothing hn _ _ =>
    rw [ho, hc] at hn
    cases hn
  | deleted _ _ hspace _ =>
    obtain ⟨-, hspace⟩ := AddressSpace.deleteNode_eq_ok_iff.1 hspace
    refine ⟨hscript, by rw [hspace], by rw [hspace]; rfl, fun i => ?_⟩
    rw [hspace]
    simp [Table.contains_erase, and_comm]

private theorem Clears.trans {ids ids' : List NodeId} (h : Clears ids s t) (h' : Clears ids' t u) :
    Clears (ids ++ ids') s u where
  script := h'.script
  events := h'.events.trans h.events
  deleted := by rw [h'.deleted, h.deleted, List.length_append, Nat.add_assoc]
  nodes i := by rw [h'.nodes, h.nodes, and_assoc, List.mem_append, not_or]

/-- All alarms are dropped, one after the other. -/
theorem drops_give {alarms : List Alarm} (hs : s.script = .empty)
    (howns : ∀ a ∈ alarms, a.condition.ownsNode = true)
    (hthere : ∀ a ∈ alarms, s.space.nodes.contains a.condition.id = true)
    (hnodup : (alarms.map fun a => a.condition.id).Nodup) :
    ∃ t, (forIn alarms () fun a _ => do
        Act.routine a.condition.drop
        return .yield () : Act Unit).Gives s () t ∧
      Clears (alarms.map fun a => a.condition.id) s t := by
  induction alarms generalizing s with
  | nil => exact ⟨s, rfl, hs, rfl, rfl, fun i => by simp⟩
  | cons a alarms ih =>
    obtain ⟨s₁, hdrop, h₁⟩ := drop_gives hs (howns a List.mem_cons_self)
      (hthere a List.mem_cons_self)
    rw [List.map_cons, List.nodup_cons] at hnodup
    have hthere₁ : ∀ b ∈ alarms, s₁.space.nodes.contains b.condition.id = true := by
      intro b hb
      refine (h₁.nodes _).2 ⟨hthere b (List.mem_cons_of_mem _ hb), fun hmem => hnodup.1 ?_⟩
      rw [← List.mem_singleton.1 hmem]
      exact List.mem_map.2 ⟨b, hb, rfl⟩
    obtain ⟨t, hdrops, ht⟩ := ih h₁.script (fun b hb => howns b (List.mem_cons_of_mem _ hb))
      hthere₁ hnodup.2
    refine ⟨t, ?_, h₁.trans ht⟩
    rw [List.forIn_cons]
    refine (hdrop.bind (Act.gives_pure (ForInStep.yield ()) s₁)).bind ?_
    exact hdrops

/-- The scene can be left. -/
theorem leave_gives {x : Act.Scene} {admitted : Bool} {ids : List TransitionKind}
    {events : List ConditionEvent} (h : OnStage x admitted ids events s)
    (howns : ∀ a ∈ x.alarms, a.condition.ownsNode = true)
    (hnodup : (x.alarms.map fun a => a.condition.id).Nodup) :
    ∃ t, (Act.leave x).Gives s () t ∧ Clears (x.alarms.map fun a => a.condition.id) s t := by
  obtain ⟨p, hp⟩ := h.access
  obtain ⟨s₁, hguest, h₁, hs₁⟩ := close_gives p x.guest s
  obtain ⟨s₂, hadmin, h₂, hs₂⟩ := close_gives p x.admin s₁
  rw [← hp] at hguest hadmin
  have hspace : s₂.space = s.space := h₂.trans h₁
  obtain ⟨t, hdrops, ht⟩ := drops_give (hs₂.trans (hs₁.trans h.script)) howns
    (fun a ha => hspace ▸ h.alarms a ha) hnodup
  refine ⟨t, ?_, ht.script, ?_, ?_, fun i => ?_⟩
  · exact hguest.bind (hadmin.bind (hdrops.bind (Act.gives_pure () t)))
  · rw [ht.events, hspace]
  · rw [ht.deleted, hspace]
  · rw [ht.nodes, hspace]

/-- The configuration of a demonstration that is given a file, or none. -/
def Selects (file : Option (String × Except String ByteArray)) (c : Config) : Prop :=
  match file with
  | none => c = .default
  | some (_, contents) => Config.ofFile contents = .ok c

/-- The server with which a demonstration begins. -/
def opened (ambient : Ambient) : Server Reaction :=
  (Server.create ambient).log .info ("PETRA A&C demo v" ++ version ++ " starting")

/-- What comes of a demonstration that is presented to its end. -/
theorem run_of_present {file : Option (String × Except String ByteArray)} {c : Config}
    {ambient : Ambient} (hfile : Selects file c)
    (h : (Act.present c).Gives (opened ambient) () t) :
    run file ambient = ⟨none, t.space.events, t.tables.ambient.journal⟩ := by
  have hstart : Act.start file = (do
      Act.log .info ("PETRA A&C demo v" ++ version ++ " starting")
      Act.present c) := by
    cases file with
    | none =>
      cases hfile
      rfl
    | some f =>
      have hload : Config.ofFile f.2 = .ok c := hfile
      simp only [Act.start, hload]
  have hgives : (Act.start file).Gives (.create ambient) () t := by
    rw [hstart]
    exact (Act.gives_log .info _ _).bind h
  unfold run
  rw [show ((Act.start file).run (.create ambient)).run answer = (.ok (), t) from hgives]

/-- The course of a demonstration with a configuration. -/
structure Course (c : Config) (ambient : Ambient) (x : Act.Scene)
    (set played left : Server Reaction) : Prop where
  /-- The scene can be set. -/
  setUp : (Act.setUp c).Gives (opened ambient) x set
  /-- Each alarm is in place then, with its four callbacks. -/
  isSet : IsSet c x set
  /-- The scene can be played. -/
  play : (Act.play x).Gives set () played
  /-- The guest achieves nothing. -/
  guest : KeepsOut x set
  /-- The first alarm is shown if the last entry for the administrator has the right password. -/
  shown : c.access.password? "admin" = some "admin" → Shows x.first played.space.events
  /-- Otherwise no event is published. -/
  unshown : c.access.password? "admin" ≠ some "admin" → played.space.events = []
  /-- The alarms are there to the end. -/
  alarms : ∀ a ∈ x.alarms, played.space.nodes.contains a.condition.id = true
  /-- The scene can be left. -/
  leave : (Act.leave x).Gives played () left
  /-- All alarms are deleted then, and nothing else is. -/
  cleared : Clears (x.alarms.map fun a => a.condition.id) played left

end Demo

open Demo

/-- The demonstration with any configuration that keeps the rules and has alarms, though not too
many of them, takes its course to the end. So ends every demonstration that uses the configuration:
without a failure, and with the events of that course. -/
theorem course_of_validate {c : Config} (hc : c.validate = .ok ()) (hne : c.alarms ≠ [])
    (hfew : c.alarms.length < 2 ^ 30) (ambient : Ambient) :
    ∃ x set played left, Course c ambient x set played left ∧
      ∀ file, Selects file c → run file ambient =
        ⟨none, played.space.events, (left.log .info "Demo finished").tables.ambient.journal⟩ := by
  have hlimit : 2 * c.alarms.length + 1 < NodeId.assignable := by
    unfold NodeId.assignable
    omega
  obtain ⟨x, set, hsetUp, hset⟩ := setUp_gives hc hne hlimit (s := opened ambient) rfl rfl rfl
  obtain ⟨played, events, hplay, hkeeps, hplayed, hshows⟩ := play_gives hset.onStage
  have howns : ∀ a ∈ x.alarms, a.condition.ownsNode = true := by
    intro a ha
    obtain ⟨_, -, hin⟩ := exists_inPlace hset.alarms ha
    exact hin.owns
  obtain ⟨left, hleave, hclears⟩ := leave_gives hplayed howns hset.distinct
  rw [← hplayed.events] at hshows
  refine ⟨x, set, played, left, ⟨hsetUp, hset, hplay, hkeeps, fun hadmin => ?_, fun hadmin => ?_,
    hplayed.alarms, hleave, hclears⟩, fun file hfile => ?_⟩
  · rwa [if_pos (decide_eq_true hadmin)] at hshows
  · rwa [if_neg (by simpa using hadmin)] at hshows
  · have hpresent : (Act.present c).Gives (opened ambient) () (left.log .info "Demo finished") :=
      hsetUp.bind (hplay.bind (hleave.bind (Act.gives_log .info _ left)))
    rw [run_of_present hfile hpresent, ← hclears.events]
    rfl

/-- A configuration with two entries for the administrator, of which the later has another password.
-/
def replacedAdmin : Config :=
  { Config.default with access := ⟨true, true, [⟨"admin", "admin"⟩, ⟨"admin", "secret"⟩]⟩ }

/-- Without a file the alarm is shown. With another password for the administrator nothing is. -/
theorem course_default :
    (∃ a events journal, run none (.start ⟨0, 0⟩) = ⟨none, events, journal⟩ ∧ Shows a events) ∧
    ∃ x set played left, Course replacedAdmin (.start ⟨0, 0⟩) x set played left ∧
      left.space.events = [] := by
  constructor
  · obtain ⟨x, set, played, left, hcourse, hrun⟩ :=
      course_of_validate (c := .default) rfl (by decide) (by decide) (.start ⟨0, 0⟩)
    exact ⟨x.first, _, _, hrun none rfl, hcourse.shown rfl⟩
  · obtain ⟨x, set, played, left, hcourse, -⟩ :=
      course_of_validate (c := replacedAdmin) rfl (by decide) (by decide) (.start ⟨0, 0⟩)
    exact ⟨x, set, played, left, hcourse,
      hcourse.cleared.events.trans (hcourse.unshown (by decide))⟩

end AlarmServer
