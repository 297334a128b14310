import AlarmServer.Proofs.Handlings

/-!
# Sequences of runtime calls

An alarm is switched, and created, by runtime calls in a fixed sequence. They are made one after the
other until one is refused. Then the operation fails, with an error that names the call and carries
its status code; a condition that was created for an alarm is deleted first, unless it has the null
identifier. The registry is left as it is found, except after that deletion.

What the runtime answers is up to the runtime, and so is what happens to the tables before it does.
The main result, `Alarm.calls_in_sequence`, is about every moment of both operations.
-/

namespace AlarmServer

open Interaction (After found)

variable {α β γ : Type}

/-- The status code with which the call was refused, if it was. -/
def Exchange.refusal? {σ : Type} : Exchange (runtimeCalls β) σ → Option StatusCode
  | ⟨_, _, .ok _, _⟩ => none
  | ⟨_, _, .error s, _⟩ => some s

/-- The error for a refused call has the kind of the call, the name of what the call was about, and
the status code. -/
inductive RuntimeCall.Reports : RuntimeCall β → StatusCode → Error → Prop where
  /-- Nothing was created. -/
  | creation (r : ConditionRequest) (s : StatusCode) :
    Reports (.createCondition r) s (.creationFailed r.browseName.text s)
  /-- A field was not written. -/
  | field (c : NodeId) (f : QualifiedName) (v : Variant) (s : StatusCode) :
    Reports (.writeField c f v) s (.fieldWriteFailed f.text s)
  /-- A property was not written. -/
  | property (c : NodeId) (n p : QualifiedName) (v : Variant) (s : StatusCode) :
    Reports (.writeProperty c n p v) s (.nestedFieldWriteFailed n.text p.text s)
  /-- Nothing was published. -/
  | trigger (c source : NodeId) (s : StatusCode) :
    Reports (.trigger c source) s (.triggerFailed source.text s)

/-- The error has the status code of the runtime. -/
theorem RuntimeCall.Reports.status {c : RuntimeCall β} {s : StatusCode} {e : Error}
    (h : c.Reports s e) : e.status? = some s := by
  cases h <;> rfl

/-! ### How far a sequence has come -/

/-- Calls of a sequence were granted, and then one was refused, which an error reports. -/
structure Broken (calls : List (RuntimeCall β)) (es : List (Exchange (runtimeCalls β) (Tables β)))
    (e : Exchange (runtimeCalls β) (Tables β)) (err : Error) : Prop where
  /-- The calls are the first ones of the sequence. -/
  called : ∃ rest, calls = es.map (·.question) ++ e.question :: rest
  /-- All but the last one were granted. -/
  granted : ∀ f ∈ es, f.refusal? = none
  /-- The last one was refused, and the error says so. -/
  reported : ∃ s, e.refusal? = some s ∧ e.question.Reports s err ∧ err.status? = some s

/-- How far a sequence of calls has come that began with the tables `start`. For a call that is
refused, `undo` tells what is to be deleted. -/
inductive Sequenced (calls : List (RuntimeCall β)) (undo : RuntimeCall β → Option NodeId)
    (start : Tables β) : List (Exchange (runtimeCalls β) (Tables β)) →
    Interaction (runtimeCalls β) (Tables β) (Except Error α) → Prop where
  /-- All calls so far were granted, and the next one is made. -/
  | asks {es c rest t k} (called : calls = es.map (·.question) ++ c :: rest)
      (granted : ∀ e ∈ es, e.refusal? = none) (kept : t.registry = (found start es).registry) :
      Sequenced calls undo start es (.ask c t k)
  /-- All calls were granted, and the operation is successful. -/
  | succeeds {es a t} (called : calls = es.map (·.question))
      (granted : ∀ e ∈ es, e.refusal? = none) (kept : t.registry = (found start es).registry) :
      Sequenced calls undo start es (.done (.ok a) t)
  /-- A call was refused, and the operation fails. -/
  | fails {es e err t} (broken : Broken calls es e err) (nothing : undo e.question = none)
      (kept : t.registry = e.left.registry) :
      Sequenced calls undo start (es ++ [e]) (.done (.error err) t)
  /-- A call was refused, and a deletion is asked for. -/
  | undoes {es e err id t k} (broken : Broken calls es e err) (undone : undo e.question = some id)
      (kept : t.registry = e.left.registry) :
      Sequenced calls undo start (es ++ [e]) (.ask (.deleteNode id true) t k)
  /-- A deletion was asked for, and the operation fails. If it was granted the record is removed. -/
  | undone {es e d err id t} (broken : Broken calls es e err) (undone : undo e.question = some id)
      (deletion : d.question = .deleteNode id true)
      (kept : t.registry = match d.refusal? with
        | none => d.left.registry.remove id
        | some _ => d.left.registry) :
      Sequenced calls undo start (es ++ [e, d]) (.done (.error err) t)

section

variable {calls : List (RuntimeCall β)} {undo : RuntimeCall β → Option NodeId}
  {start v : Tables β} {es fs : List (Exchange (runtimeCalls β) (Tables β))}
  {e : Exchange (runtimeCalls β) (Tables β)} {err : Error}

private theorem Broken.cons (h : Broken calls es e err) {f : Exchange (runtimeCalls β) (Tables β)}
    (hf : f.refusal? = none) : Broken (f.question :: calls) (f :: es) e err where
  called := by
    obtain ⟨rest, rfl⟩ := h.called
    exact ⟨rest, rfl⟩
  granted := List.forall_mem_cons.2 ⟨hf, h.granted⟩
  reported := h.reported

/-- A sequence that goes on after its first call has come as far as the rest of it. -/
theorem Sequenced.cons {y : Interaction (runtimeCalls β) (Tables β) (Except Error α)}
    {f : Exchange (runtimeCalls β) (Tables β)} (h : Sequenced calls undo f.left fs y)
    (hf : f.refusal? = none) : Sequenced (f.question :: calls) undo start (f :: fs) y := by
  cases h with
  | asks hcalled hgranted hkept =>
    exact .asks (by rw [hcalled, List.map_cons, List.cons_append])
      (List.forall_mem_cons.2 ⟨hf, hgranted⟩) hkept
  | succeeds hcalled hgranted hkept =>
    exact .succeeds (by rw [hcalled, List.map_cons])
      (List.forall_mem_cons.2 ⟨hf, hgranted⟩) hkept
  | fails hbroken hundo hkept =>
    rw [← List.cons_append]
    exact .fails (hbroken.cons hf) hundo hkept
  | undoes hbroken hundo hkept =>
    rw [← List.cons_append]
    exact .undoes (hbroken.cons hf) hundo hkept
  | undone hbroken hundo hd hkept =>
    rw [← List.cons_append]
    exact .undone (hbroken.cons hf) hundo hd hkept

/-- A broken sequence was not granted altogether. -/
theorem Broken.not_granted (h : Broken calls es e err)
    {fs : List (Exchange (runtimeCalls β) (Tables β))} (hmem : e ∈ fs) :
    ¬ ∀ f ∈ fs, f.refusal? = none := by
  intro hall
  obtain ⟨s, hs, -⟩ := h.reported
  rw [hall e hmem] at hs
  cases hs

/-- A sequence has success exactly if all of its calls were made and granted. -/
theorem Sequenced.ok_iff {r : Except Error α} {t : Tables β}
    (h : Sequenced calls undo start es (.done r t)) :
    (∃ a, r = .ok a) ↔ calls = es.map (·.question) ∧ ∀ e ∈ es, e.refusal? = none := by
  cases h with
  | succeeds hcalled hgranted _ => exact ⟨fun _ => ⟨hcalled, hgranted⟩, fun _ => ⟨_, rfl⟩⟩
  | fails hb _ _ =>
    exact ⟨fun ⟨_, hr⟩ => (nomatch hr), fun hall => absurd hall.2 (hb.not_granted (by simp))⟩
  | undone hb _ _ _ =>
    exact ⟨fun ⟨_, hr⟩ => (nomatch hr), fun hall => absurd hall.2 (hb.not_granted (by simp))⟩

end

/-! ### Operations that follow a sequence -/

/-- What comes of a call that is refused with a status code, where the tables are found as `u`. -/
def Undoes (undo : RuntimeCall β → Option NodeId) (c : RuntimeCall β) (s : StatusCode)
    (u : Tables β) (y : Interaction (runtimeCalls β) (Tables β) (Except Error α)) : Prop :=
  ∃ err, c.Reports s err ∧
    match undo c with
    | none => ∃ t, y = .done (.error err) t ∧ t.registry = u.registry
    | some id => ∃ t k, y = .ask (.deleteNode id true) t k ∧ t.registry = u.registry ∧
      ∀ r v, ∃ w, k r v = .done (.error err) w ∧ w.registry = match r with
        | .ok _ => v.registry.remove id
        | .error _ => v.registry

/-- The operation makes the calls one after the other and leaves the registry as it is found, until
one is refused; `stops` tells what comes of that. -/
def Follows (stops : RuntimeCall β → StatusCode → Tables β →
      Interaction (runtimeCalls β) (Tables β) (Except Error α) → Prop) :
    List (RuntimeCall β) → Registry β →
    Interaction (runtimeCalls β) (Tables β) (Except Error α) → Prop
  | [], g, .done r t => t.registry = g ∧ ∃ a, r = .ok a
  | c :: cs, g, .ask q t k => q = c ∧ t.registry = g ∧
    (∀ a u, Follows stops cs u.registry (k (.ok a) u)) ∧ ∀ s u, stops q s u (k (.error s) u)
  | _, _, _ => False

/-- A refused call is an error and nothing else. -/
abbrev Errs : RuntimeCall β → StatusCode → Tables β →
    Interaction (runtimeCalls β) (Tables β) (Except Error α) → Prop := Undoes fun _ => none

section

variable {stops : RuntimeCall β → StatusCode → Tables β →
    Interaction (runtimeCalls β) (Tables β) (Except Error α) → Prop}
  {stops' : RuntimeCall β → StatusCode → Tables β →
    Interaction (runtimeCalls β) (Tables β) (Except Error γ) → Prop}
  {cs ds : List (RuntimeCall β)} {undo : RuntimeCall β → Option NodeId}

/-- What follows on the calls makes further calls, and has its own way with what was refused. -/
theorem Follows.bind {x : Interaction (runtimeCalls β) (Tables β) (Except Error α)}
    {f : Except Error α → Tables β → Interaction (runtimeCalls β) (Tables β) (Except Error γ)}
    {g : Registry β} (h : Follows stops cs g x)
    (hok : ∀ a t, Follows stops' ds t.registry (f (.ok a) t))
    (hno : ∀ c ∈ cs, ∀ s u y, stops c s u y → stops' c s u (y.bind f)) :
    Follows stops' (cs ++ ds) g (x.bind f) := by
  induction cs generalizing g x with
  | nil =>
    cases x with
    | done r t =>
      obtain ⟨rfl, a, rfl⟩ := h
      exact hok a t
    | ask q t k => exact h.elim
  | cons c cs ih =>
    cases x with
    | done r t => exact h.elim
    | ask q t k =>
      obtain ⟨rfl, hg, hgranted, hrefused⟩ := h
      refine ⟨rfl, hg, fun a u => ?_, fun s u => ?_⟩
      · exact ih (hgranted a u) fun c hc => hno c (List.mem_cons_of_mem _ hc)
      · exact hno q List.mem_cons_self s u _ (hrefused s u)

/-- An error is passed on. -/
theorem Undoes.follow {c : RuntimeCall β} {s : StatusCode} {u : Tables β}
    {y : Interaction (runtimeCalls β) (Tables β) (Except Error α)} (h : Undoes undo c s u y)
    (f : α → Tables β → Interaction (runtimeCalls β) (Tables β) (Except Error γ)) :
    Undoes undo c s u (y.bind (follow f)) := by
  obtain ⟨err, hreports, h⟩ := h
  refine ⟨err, hreports, ?_⟩
  cases hc : undo c with
  | none =>
    rw [hc] at h
    obtain ⟨t, rfl, ht⟩ := h
    exact ⟨t, rfl, ht⟩
  | some id =>
    rw [hc] at h
    obtain ⟨t, k, rfl, ht, hk⟩ := h
    refine ⟨t, _, rfl, ht, fun r v => ?_⟩
    obtain ⟨w, hw, hreg⟩ := hk r v
    exact ⟨w, by rw [hw]; rfl, hreg⟩

/-- One sequence of calls after another. -/
theorem Operation.follows_bind {x : Operation β α} {f : α → Operation β γ} {t : Tables β}
    (hx : Follows (Undoes undo) cs t.registry (x.run t))
    (hf : ∀ a u, Follows (Undoes undo) ds u.registry ((f a).run u)) :
    Follows (Undoes undo) (cs ++ ds) t.registry ((x >>= f).run t) := by
  rw [Operation.run_bind]
  exact hx.bind hf fun _ _ _ _ _ h => h.follow _

/-- A request makes its call. -/
theorem Operation.follows_request {c : RuntimeCall β} {failure : StatusCode → Error}
    (h : ∀ s, c.Reports s (failure s)) (t : Tables β) :
    Follows Errs [c] t.registry ((request c failure).run t) :=
  ⟨rfl, rfl, fun a _ => ⟨rfl, a, rfl⟩, fun s u => ⟨failure s, h s, u, rfl, rfl⟩⟩

/-- What comes of a refused call is the end of a sequence. -/
theorem Sequenced.of_undoes {c : RuntimeCall β} {s : StatusCode} {t u v : Tables β}
    {x y : Interaction (runtimeCalls β) (Tables β) (Except Error α)}
    {es : List (Exchange (runtimeCalls β) (Tables β))} (h : Undoes undo c s v x)
    (hafter : After x es y) : Sequenced (c :: cs) undo t (⟨c, u, .error s, v⟩ :: es) y := by
  obtain ⟨err, hreports, h⟩ := h
  have hbroken : Broken (c :: cs) [] (⟨c, u, .error s, v⟩ : Exchange (runtimeCalls β) (Tables β))
      err := ⟨⟨cs, rfl⟩, fun _ hf => (nomatch hf), s, rfl, hreports, hreports.status⟩
  cases hc : undo c with
  | none =>
    rw [hc] at h
    obtain ⟨w, rfl, hw⟩ := h
    obtain ⟨rfl, rfl⟩ := Interaction.after_done_iff.1 hafter
    exact .fails hbroken hc hw
  | some id =>
    rw [hc] at h
    obtain ⟨w, k, rfl, hw, hk⟩ := h
    rcases Interaction.after_ask_iff.1 hafter with ⟨rfl, rfl⟩ | ⟨r, z, fs, rfl, hrest⟩
    · exact .undoes hbroken hc hw
    · obtain ⟨w', hdone, hreg⟩ := hk r z
      rw [hdone] at hrest
      obtain ⟨rfl, rfl⟩ := Interaction.after_done_iff.1 hrest
      refine .undone (d := ⟨_, _, r, z⟩) hbroken hc rfl ?_
      cases r <;> exact hreg

/-- An operation that asks the first call of a sequence is as far as it has come with the rest. -/
theorem Sequenced.of_ask {c : RuntimeCall β} {t u : Tables β}
    {k : c.Answer → Tables β → Interaction (runtimeCalls β) (Tables β) (Except Error α)}
    {y : Interaction (runtimeCalls β) (Tables β) (Except Error α)}
    {es : List (Exchange (runtimeCalls β) (Tables β))} (hkept : u.registry = t.registry)
    (hok : ∀ a v fs, es = ⟨c, u, .ok a, v⟩ :: fs → After (k (.ok a) v) fs y →
      Sequenced cs undo v fs y)
    (hno : ∀ s v, Undoes undo c s v (k (.error s) v)) (hafter : After (.ask c u k) es y) :
    Sequenced (c :: cs) undo t es y := by
  rcases Interaction.after_ask_iff.1 hafter with ⟨rfl, rfl⟩ | ⟨r, v, fs, rfl, hrest⟩
  · exact .asks rfl (fun _ he => nomatch he) hkept
  · cases r with
    | ok a => exact (hok a v fs rfl hrest).cons (f := ⟨c, u, .ok a, v⟩) rfl
    | error s => exact .of_undoes (hno s v) hrest

/-- An operation that follows a sequence is as far as it has come with it. -/
theorem Sequenced.of_follows {t : Tables β}
    {x y : Interaction (runtimeCalls β) (Tables β) (Except Error α)}
    {es : List (Exchange (runtimeCalls β) (Tables β))} (h : Follows (Undoes undo) cs t.registry x)
    (hafter : After x es y) : Sequenced cs undo t es y := by
  induction cs generalizing t x es with
  | nil =>
    cases x with
    | done r u =>
      obtain ⟨hg, a, rfl⟩ := h
      obtain ⟨rfl, rfl⟩ := Interaction.after_done_iff.1 hafter
      exact .succeeds rfl (fun _ he => nomatch he) hg
    | ask q u k => exact h.elim
  | cons c cs ih =>
    cases x with
    | done r u => exact h.elim
    | ask q u k =>
      obtain ⟨rfl, hg, hgranted, hrefused⟩ := h
      exact .of_ask hg (fun a v _ _ hrest => ih (hgranted a v) hrest) hrefused hafter

end

/-! ### Alarms -/

namespace Alarm

/-- The calls that switch an alarm and publish that, after its message was written. -/
def settleCalls (id source : NodeId) (active : Bool) (now : Instant) : List (RuntimeCall β) :=
  let put (variableName : String) (value : Bool) : RuntimeCall β :=
    .writeProperty id (.standard variableName) (.standard "Id") (.boolean value)
  .writeField id (.standard "Time") (.dateTime now) ::
  .writeField id (.standard "Retain") (.boolean active) ::
  put "ActiveState" active ::
  if active then [.trigger id source]
  else [put "AckedState" false, put "ConfirmedState" false, .trigger id source]

/-- The calls that switch an alarm, if the time is `now` after the first of them. -/
def switchCalls (a : Alarm) (source : NodeId) (active : Bool) (message : Option String)
    (now : Instant) : List (RuntimeCall β) :=
  .writeField a.condition.id (.standard "Message")
    (.localizedText (.plain (messageFor active message))) ::
  settleCalls a.condition.id source active now

/-- The condition that is created for an alarm. -/
def request (source : NodeId) (name : QualifiedName) (parentReference : Option NodeId) :
    ConditionRequest where
  conditionType := ConditionType.offNormal.node
  browseName := name
  source := source
  parentReference := parentReference
  requestedId := none

/-- The calls that bring a new alarm into its first state. -/
def prepareCalls (severity : UInt16) (id : NodeId) : List (RuntimeCall β) :=
  [.writeProperty id (.standard "EnabledState") (.standard "Id") (.boolean true),
    .writeField id (.standard "Severity") (.uint16 severity),
    .writeField id (.standard "Message") (.localizedText (.plain "Alarm inactive")),
    .writeField id (.standard "Retain") (.boolean false)]

/-- The calls that create an alarm, if its condition gets the identifier `id`. -/
def createCalls (source : NodeId) (name : QualifiedName) (parentReference : Option NodeId)
    (severity : UInt16) (id : NodeId) : List (RuntimeCall β) :=
  .createCondition (request source name parentReference) :: prepareCalls severity id

/-- What is deleted if one of these calls is refused: the condition, if there is one with an
identifier. -/
def discarded (id : NodeId) (c : RuntimeCall β) : Option NodeId :=
  if c.isCreation || id.isNull then none else some id

/-- The identifier that the runtime has given to a new condition. -/
def givenId (es : List (Exchange (runtimeCalls β) (Tables β))) : NodeId :=
  (es.findSome? Exchange.created?).getD .null

end Alarm

namespace Condition

variable (c : Condition)

private theorem follows_setField (f : QualifiedName) (v : Variant) (t : Tables β) :
    Follows Errs [.writeField c.id f v] t.registry ((c.setField f v : Operation β Unit).run t) :=
  Operation.follows_request (fun s => .field c.id f v s) t

private theorem follows_setState (kind : TransitionKind) (b : Bool) (t : Tables β) :
    Follows Errs [.writeProperty c.id (.standard kind.variableName) (.standard "Id") (.boolean b)]
      t.registry ((c.setState kind b : Operation β Unit).run t) :=
  Operation.follows_request (fun s => .property c.id _ _ _ s) t

private theorem follows_trigger (source : NodeId) (t : Tables β) :
    Follows Errs [.trigger c.id source] t.registry
      ((c.trigger source : Operation β EventId).run t) :=
  Operation.follows_request (fun s => .trigger c.id source s) t

end Condition

namespace Alarm

/-- A new alarm is brought into its first state by four calls. -/
theorem follows_prepare (id : NodeId) (severity : UInt16) (t : Tables β) :
    Follows Errs (prepareCalls severity id) t.registry
      ((prepare ⟨id, true⟩ severity : Operation β Unit).run t) :=
  Operation.follows_bind (Condition.follows_setState ⟨id, true⟩ .enabled true t) fun _ u =>
    Operation.follows_bind (Condition.follows_setField _ _ _ u) fun _ v =>
      Operation.follows_bind (Condition.follows_setField _ _ _ v) fun _ w =>
        Condition.follows_setField _ _ _ w

/-- Drop the condition of an alarm for an error. -/
def abandon (id : NodeId) (e : Error) : Operation β Unit := do
  ((⟨id, true⟩ : Condition).drop : Routine β Unit)
  throw e

/-- Where a call is refused the condition is deleted, unless it has the null identifier. -/
theorem undoes_abandon {id : NodeId} {c : RuntimeCall β} (hc : c.isCreation = false)
    {s : StatusCode} {u t : Tables β} {err : Error} (hreports : c.Reports s err)
    (ht : t.registry = u.registry) : Undoes (discarded id) c s u ((abandon id err).run t) := by
  refine ⟨err, hreports, ?_⟩
  rw [discarded, hc, Bool.false_or, abandon, Operation.run_bind, Operation.run_liftM]
  have howns : (⟨id, true⟩ : Condition).ownsNode = !id.isNull := Bool.true_and _
  unfold Condition.drop
  rw [howns]
  cases id.isNull with
  | true => exact ⟨t, rfl, ht⟩
  | false =>
    refine ⟨t, _, rfl, ht, fun r v => ?_⟩
    cases r with
    | ok _ => exact ⟨_, rfl, rfl⟩
    | error status => exact ⟨_, rfl, rfl⟩

/-- A new alarm is brought into its first state, or its condition is deleted. -/
theorem follows_prepare_or_abandon (id : NodeId) (severity : UInt16) (t : Tables β) :
    Follows (Undoes (discarded id)) (prepareCalls severity id) t.registry
      ((tryCatch (prepare ⟨id, true⟩ severity) (abandon id) : Operation β Unit).run t) := by
  rw [Operation.run_tryCatch, ← List.append_nil (prepareCalls severity id)]
  refine (follows_prepare id severity t).bind (fun a u => ⟨rfl, a, rfl⟩) ?_
  rintro c hmem s u y ⟨err, hreports, w, rfl, hw⟩
  have hcreation : c.isCreation = false := by
    simp only [prepareCalls, List.mem_cons, List.not_mem_nil, or_false] at hmem
    rcases hmem with rfl | rfl | rfl | rfl <;> rfl
  exact undoes_abandon hcreation hreports hw

/-- Once its condition is created an alarm is created by the calls that bring it into its first
state. -/
theorem follows_attempt (id source : NodeId) (severity : UInt16) (t : Tables β) :
    Follows (Undoes (discarded id)) (prepareCalls severity id) t.registry
      ((do
        tryCatch (prepare ⟨id, true⟩ severity) (abandon id)
        return ⟨⟨id, true⟩, source⟩ : Operation β Alarm).run t) := by
  rw [← List.append_nil (prepareCalls severity id)]
  exact Operation.follows_bind (follows_prepare_or_abandon id severity t) fun _ _ =>
    ⟨rfl, _, rfl⟩

/-- After its message was written an alarm is switched by the rest of the calls. -/
theorem follows_settle (c : Condition) (source : NodeId) (active : Bool) (now : Instant)
    (t : Tables β) :
    Follows Errs (settleCalls c.id source active now) t.registry
      ((do
        c.setField (.standard "Time") (.dateTime now)
        c.setField (.standard "Retain") (.boolean active)
        c.setState .active active
        unless active do
          c.setState .acked false
          c.setState .confirmed false
        c.trigger source : Operation β EventId).run t) := by
  refine Operation.follows_bind (c.follows_setField _ _ t) fun _ u => ?_
  refine Operation.follows_bind (c.follows_setField _ _ u) fun _ v => ?_
  refine Operation.follows_bind (c.follows_setState .active active v) fun _ w => ?_
  cases active with
  | true => exact c.follows_trigger source w
  | false =>
    exact Operation.follows_bind (c.follows_setState .acked false w) fun _ z =>
      Operation.follows_bind (c.follows_setState .confirmed false z) fun _ z' =>
        c.follows_trigger source z'

/-- Whatever the runtime answers, an alarm is switched, and created, by calls that are the first
ones of a fixed sequence. The first call that is refused is the last one; the error names it and
carries its status code. A condition that was created for nothing is deleted, in one more call, and
its record is removed exactly if that was granted. Success means that all calls were made and
granted. -/
theorem calls_in_sequence :
    (∀ (a : Alarm) (source : NodeId) (active : Bool) (message : Option String) (t : Tables β)
      (es : List (Exchange (runtimeCalls β) (Tables β)))
      (y : Interaction (runtimeCalls β) (Tables β) (Except Error EventId)),
      After ((a.setActive source active message : Operation β EventId).run t) es y →
      let calls := a.switchCalls source active message (found t (es.take 1)).ambient.now
      Sequenced calls (fun _ => none) t es y ∧
      ∀ r u, y = .done r u →
        ((∃ id, r = .ok id) ↔ calls = es.map (·.question) ∧ ∀ e ∈ es, e.refusal? = none)) ∧
    (∀ (source : NodeId) (name : QualifiedName) (parentReference : Option NodeId)
      (severity : UInt16) (t : Tables β) (es : List (Exchange (runtimeCalls β) (Tables β)))
      (y : Interaction (runtimeCalls β) (Tables β) (Except Error Alarm)),
      After ((create source name parentReference severity : Operation β Alarm).run t) es y →
      let calls := createCalls source name parentReference severity (givenId es)
      Sequenced calls (discarded (givenId es)) t es y ∧
      ∀ r u, y = .done r u →
        ((∃ a, r = .ok a) ↔ calls = es.map (·.question) ∧ ∀ e ∈ es, e.refusal? = none)) := by
  constructor
  · intro a source active message t es y hafter
    have hsequenced : Sequenced
        (a.switchCalls source active message (found t (es.take 1)).ambient.now)
        (fun _ => none) t es y := by
      refine .of_ask (u := t.log .debug _) rfl ?_ ?_ hafter
      · rintro _ v fs rfl hrest
        exact .of_follows (follows_settle a.condition source active v.ambient.now v) hrest
      · exact fun s v => ⟨_, .field _ _ _ s, v, rfl, rfl⟩
    exact ⟨hsequenced, fun r u hy => Sequenced.ok_iff (hy ▸ hsequenced)⟩
  · intro source name parentReference severity t es y hafter
    have hsequenced : Sequenced
        (createCalls source name parentReference severity (givenId es))
        (discarded (givenId es)) t es y := by
      refine .of_ask (u := t) rfl ?_ ?_ hafter
      · rintro id v fs rfl hrest
        -- the creation is noted in the journal before the first write
        exact .of_follows (t := v) (follows_attempt id source severity (v.log .debug _)) hrest
      · exact fun s v => ⟨_, .creation _ s, v, rfl, rfl⟩
    exact ⟨hsequenced, fun r u hy => Sequenced.ok_iff (hy ▸ hsequenced)⟩

/-- An alarm is switched off up to its acknowledgement, which stays; and the severity of a new alarm
is refused, and its condition is deleted. -/
theorem calls_in_sequence_of_refused_writes :
    let t : Tables Unit := ⟨.empty, .empty, .start ⟨0, 0⟩⟩
    let source := NodeId.numeric 1 1
    let id := NodeId.numeric 1 50001
    let write (field : String) (value : Variant) : RuntimeCall Unit :=
      .writeField id (.standard field) value
    let put (variableName : String) (value : Bool) : RuntimeCall Unit :=
      .writeProperty id (.standard variableName) (.standard "Id") (.boolean value)
    let a : Alarm := ⟨.wrap id, source⟩
    let announced := t.log .debug
      ("Condition " ++ id.text ++ " -> " ++ "Inactive" ++ " (" ++ "Alarm inactive" ++ ")")
    let es : List (Exchange (runtimeCalls Unit) (Tables Unit)) :=
      [⟨write "Message" (.localizedText (.plain "Alarm inactive")), announced, .ok (), t⟩,
        ⟨write "Time" (.dateTime ⟨0, 0⟩), t, .ok (), t⟩,
        ⟨write "Retain" (.boolean false), t, .ok (), t⟩,
        ⟨put "ActiveState" false, t, .ok (), t⟩,
        ⟨put "AckedState" false, t, .error .badNotSupported, t⟩]
    let y : Interaction (runtimeCalls Unit) (Tables Unit) (Except Error EventId) :=
      .done (.error (.nestedFieldWriteFailed "AckedState" "Id" .badNotSupported)) t
    let name := QualifiedName.standard defaultName
    let noted := t.log .debug ("Created condition " ++ name.text ++ " (" ++ id.text ++ ")")
    let fs : List (Exchange (runtimeCalls Unit) (Tables Unit)) :=
      [⟨.createCondition (request source name none), t, .ok id, t⟩,
        ⟨put "EnabledState" true, noted, .ok (), t⟩,
        ⟨write "Severity" (.uint16 400), t, .error .badInternalError, t⟩,
        ⟨.deleteNode id true, t, .ok (), t⟩]
    let z : Interaction (runtimeCalls Unit) (Tables Unit) (Except Error Alarm) :=
      .done (.error (.fieldWriteFailed "Severity" .badInternalError))
        { t with registry := t.registry.remove id }
    (After ((a.setActive source false none : Operation Unit EventId).run t) es y ∧
      Sequenced (a.switchCalls source false none ⟨0, 0⟩) (fun _ => none) t es y) ∧
    (After ((create source name none 400 : Operation Unit Alarm).run t) fs z ∧
      Sequenced (createCalls source name none 400 id) (discarded id) t fs z) := by
  intro t source id write put a announced es y name noted fs z
  have hswitch : After ((a.setActive source false none : Operation Unit EventId).run t) es y :=
    .cons _ _ (.cons _ _ (.cons _ _ (.cons _ _ (.cons _ _ (.nil _)))))
  have hcreate : After ((create source name none 400 : Operation Unit Alarm).run t) fs z :=
    .cons _ _ (.cons _ _ (.cons _ _ (.cons _ _ (.nil _))))
  exact ⟨⟨hswitch, (calls_in_sequence.1 a source false none t es y hswitch).1⟩,
    hcreate, (calls_in_sequence.2 source name none 400 t fs z hcreate).1⟩

end Alarm

end AlarmServer
