import AlarmServer.Space.Conditions

/-!
# Checks and changes

What an operation on an address space comes to, put together from what its steps come to, and the
order of its checks and changes. An operation that makes all its checks before its first change
leaves the address space as it is when it fails.
-/

namespace AlarmServer

/-- A computation in two parts succeeds if both parts do. -/
theorem except_bind_eq_ok_iff {ε α β : Type} {x : Except ε α} {f : α → Except ε β} {b : β} :
    x >>= f = .ok b ↔ ∃ a, x = .ok a ∧ f a = .ok b := by
  cases x with
  | error e => simp [bind, Except.bind]
  | ok a => simp [bind, Except.bind]

/-- What is made of an outcome succeeds if that does. -/
theorem except_map_eq_ok_iff {ε α β : Type} {x : Except ε α} {f : α → β} {b : β} :
    f <$> x = .ok b ↔ ∃ a, x = .ok a ∧ f a = b := by
  cases x with
  | error e => simp [Functor.map, Except.map]
  | ok a => simp [Functor.map, Except.map]

namespace SpaceAction

variable {β α γ : Type} {p : SpaceAction β α} {f : α → SpaceAction β γ} {sp sp' : AddressSpace β}

/-! ### Outcomes -/

/-- What an action gives and the address space that it leads to, if it succeeds. -/
def outcome (p : SpaceAction β α) (sp : AddressSpace β) : Except StatusCode (α × AddressSpace β) :=
  match p.run sp with
  | .ok a sp' => .ok (a, sp')
  | .error e _ => .error e

/-- The address space that an action leads to, if it succeeds. -/
def effect (p : SpaceAction β Unit) (sp : AddressSpace β) : Except StatusCode (AddressSpace β) :=
  Prod.snd <$> p.outcome sp

/-- An effect is the address space of an outcome. -/
theorem effect_eq_ok_iff {p : SpaceAction β Unit} :
    p.effect sp = .ok sp' ↔ p.outcome sp = .ok ((), sp') := by
  simp only [effect, except_map_eq_ok_iff, Prod.exists, exists_eq_right]
  exact ⟨fun ⟨_, h⟩ => h, fun h => ⟨(), h⟩⟩

/-- There is no effect where the outcome is a failure, which is the same. -/
theorem effect_eq_error_iff {p : SpaceAction β Unit} {e : StatusCode} :
    p.effect sp = .error e ↔ p.outcome sp = .error e := by
  unfold effect
  cases p.outcome sp <;> simp [Functor.map, Except.map]

private theorem outcome_bind (p : SpaceAction β α) (f : α → SpaceAction β γ) (sp : AddressSpace β) :
    (p >>= f).outcome sp = p.outcome sp >>= fun r => (f r.1).outcome r.2 := by
  simp only [outcome, EStateM.run_bind]
  cases p.run sp <;> rfl

/-- A value is given in the same address space. -/
@[simp] theorem outcome_pure (a : α) (sp : AddressSpace β) :
    (pure a : SpaceAction β α).outcome sp = .ok (a, sp) := rfl

/-- A refusal has no outcome but its status code. -/
@[simp] theorem outcome_throw (e : StatusCode) (sp : AddressSpace β) :
    (throw e : SpaceAction β α).outcome sp = .error e := rfl

/-- A change leads to what it makes of the address space. -/
@[simp] theorem outcome_modify (g : AddressSpace β → AddressSpace β) (sp : AddressSpace β) :
    (modify g : SpaceAction β PUnit).outcome sp = .ok ((), g sp) := rfl

/-- A change that gives something gives it beside the new address space. -/
@[simp] theorem outcome_modifyGet (g : AddressSpace β → α × AddressSpace β) (sp : AddressSpace β) :
    (modifyGet g : SpaceAction β α).outcome sp = .ok (g sp) := rfl

private theorem run_query (g : AddressSpace β → Except StatusCode α) (sp : AddressSpace β) :
    (query g).run sp = match g sp with
      | .ok a => .ok a sp
      | .error e => .error e sp := by
  simp only [query, EStateM.run_bind, EStateM.run_get]
  cases g sp <;> rfl

/-- A query gives what it finds, in the same address space. -/
@[simp] theorem outcome_query (g : AddressSpace β → Except StatusCode α) (sp : AddressSpace β) :
    (query g).outcome sp = (g sp).map fun a => (a, sp) := by
  rw [outcome, run_query]
  cases g sp <;> rfl

/-- What depends on the address space goes on with the one it is in. -/
theorem outcome_get_bind (f : AddressSpace β → SpaceAction β γ) (sp : AddressSpace β) :
    (get >>= f : SpaceAction β γ).outcome sp = (f sp).outcome sp := rfl

/-- A sequence succeeds if its first part does and then the rest does. -/
theorem outcome_bind_eq_ok_iff {r : γ × AddressSpace β} :
    (p >>= f).outcome sp = .ok r ↔
      ∃ a sp₁, p.outcome sp = .ok (a, sp₁) ∧ (f a).outcome sp₁ = .ok r := by
  rw [outcome_bind, except_bind_eq_ok_iff, Prod.exists]

/-- What follows on a query goes on in the same address space, unless the query fails. -/
theorem outcome_query_bind (g : AddressSpace β → Except StatusCode α) (f : α → SpaceAction β γ)
    (sp : AddressSpace β) :
    (query g >>= f).outcome sp = match g sp with
      | .ok a => (f a).outcome sp
      | .error e => .error e := by
  rw [outcome_bind, outcome_query]
  cases g sp <;> rfl

/-- What follows on a query succeeds if the query does and the rest does with its answer. -/
theorem outcome_query_bind_eq_ok_iff {g : AddressSpace β → Except StatusCode α}
    {r : γ × AddressSpace β} :
    (query g >>= f).outcome sp = .ok r ↔ ∃ a, g sp = .ok a ∧ (f a).outcome sp = .ok r := by
  rw [outcome_query_bind]
  cases g sp with
  | error e => simp
  | ok a => simp

/-- What follows on a change goes on with the changed address space. -/
@[simp] theorem outcome_modify_bind (g : AddressSpace β → AddressSpace β)
    (f : PUnit → SpaceAction β γ) (sp : AddressSpace β) :
    ((modify g : SpaceAction β PUnit) >>= f).outcome sp = (f ()).outcome (g sp) := rfl

/-- What follows on a change that gives something goes on with that, in the changed address space.
-/
@[simp] theorem outcome_modifyGet_bind (g : AddressSpace β → α × AddressSpace β)
    (f : α → SpaceAction β γ) (sp : AddressSpace β) :
    ((modifyGet g : SpaceAction β α) >>= f).outcome sp = (f (g sp).1).outcome (g sp).2 := rfl

/-- What follows on a check succeeds if the check does. -/
theorem outcome_unless_eq_ok_iff {c : Prop} [Decidable c] {e : StatusCode} {x : SpaceAction β γ}
    {r : γ × AddressSpace β} :
    (do unless c do throw e
        x : SpaceAction β γ).outcome sp = .ok r ↔ c ∧ x.outcome sp = .ok r := by
  by_cases hc : c
  · simp [hc]
  · simp only [hc, if_false, outcome_bind, outcome_throw, false_and]
    exact ⟨nofun, False.elim⟩

/-- What follows on a refusal succeeds if there is nothing to refuse. -/
theorem outcome_if_throw_eq_ok_iff {c : Prop} [Decidable c] {e : StatusCode}
    {x : SpaceAction β γ} {r : γ × AddressSpace β} :
    (do if c then throw e
        x : SpaceAction β γ).outcome sp = .ok r ↔ ¬ c ∧ x.outcome sp = .ok r := by
  by_cases hc : c
  · simp only [hc, if_true, outcome_bind, outcome_throw, not_true, false_and]
    exact ⟨nofun, False.elim⟩
  · simp [hc]

/-! ### Order of checks and changes -/

/-- The action does not fail. -/
def NeverFails (p : SpaceAction β α) : Prop := ∀ sp, ∃ a sp', p.run sp = .ok a sp'

/-- The action makes its checks before its changes: where it fails it has changed nothing. -/
def ChecksFirst (p : SpaceAction β α) : Prop := ∀ sp e sp', p.run sp = .error e sp' → sp' = sp

/-- To give a value does not fail. -/
theorem neverFails_pure (a : α) : NeverFails (pure a : SpaceAction β α) := fun sp => ⟨a, sp, rfl⟩

/-- A change does not fail. -/
theorem neverFails_modify (g : AddressSpace β → AddressSpace β) :
    NeverFails (modify g : SpaceAction β PUnit) := fun sp => ⟨(), g sp, rfl⟩

/-- Nor does a change that gives something. -/
theorem neverFails_modifyGet (g : AddressSpace β → α × AddressSpace β) :
    NeverFails (modifyGet g : SpaceAction β α) := fun sp => ⟨(g sp).1, (g sp).2, rfl⟩

/-- Changes one after the other do not fail. -/
theorem NeverFails.bind (hp : NeverFails p) (hf : ∀ a, NeverFails (f a)) :
    NeverFails (p >>= f) := by
  intro sp
  obtain ⟨a, sp₁, h⟩ := hp sp
  obtain ⟨b, sp₂, h'⟩ := hf a sp₁
  refine ⟨b, sp₂, ?_⟩
  rw [EStateM.run_bind, h]
  exact h'

/-- What does not fail has nothing to check. -/
theorem NeverFails.checksFirst (hp : NeverFails p) : ChecksFirst p := by
  intro sp e sp' h
  obtain ⟨a, sp₁, hok⟩ := hp sp
  rw [h] at hok
  cases hok

/-- A refusal changes nothing. -/
theorem checksFirst_throw (e : StatusCode) : ChecksFirst (throw e : SpaceAction β α) := by
  intro sp e' sp' h
  cases h
  rfl

/-- What is checked may depend on the address space. -/
theorem checksFirst_get_bind {f : AddressSpace β → SpaceAction β γ}
    (hf : ∀ sp, ChecksFirst (f sp)) : ChecksFirst (get >>= f : SpaceAction β γ) :=
  fun sp => hf sp sp

/-- Before the checks another one may be made. -/
theorem checksFirst_query_bind (g : AddressSpace β → Except StatusCode α)
    (hf : ∀ a, ChecksFirst (f a)) : ChecksFirst (query g >>= f) := by
  intro sp e sp' h
  rw [EStateM.run_bind, run_query] at h
  cases hg : g sp with
  | error e' =>
    rw [hg] at h
    cases h
    rfl
  | ok a =>
    rw [hg] at h
    exact hf a sp e sp' h

/-- Before the checks something may be required. -/
theorem checksFirst_unless {c : Prop} [Decidable c] (e : StatusCode) {x : SpaceAction β γ}
    (hx : ChecksFirst x) : ChecksFirst (do
      unless c do throw e
      x) := by
  by_cases hc : c
  · simpa [hc] using hx
  · intro sp e' sp' h
    rw [if_neg hc] at h
    cases h
    rfl

/-- Before the checks something may be forbidden. -/
theorem checksFirst_if_throw {c : Prop} [Decidable c] (e : StatusCode) {x : SpaceAction β γ}
    (hx : ChecksFirst x) : ChecksFirst (do
      if c then throw e
      x) := by
  by_cases hc : c
  · intro sp e' sp' h
    rw [if_pos hc] at h
    cases h
    rfl
  · simpa [hc] using hx

/-- After the checks changes may follow. -/
theorem ChecksFirst.bind (hp : ChecksFirst p) (hf : ∀ a, NeverFails (f a)) :
    ChecksFirst (p >>= f) := by
  intro sp e sp' h
  rw [EStateM.run_bind] at h
  cases hrun : p.run sp with
  | error e' sp₁ =>
    rw [hrun] at h
    cases h
    exact hp sp e sp' hrun
  | ok a sp₁ =>
    rw [hrun] at h
    obtain ⟨b, sp₂, hok⟩ := hf a sp₁
    cases hok.symm.trans h

/-- An action that makes its checks first leads to the address space of its outcome, or nowhere. -/
theorem ChecksFirst.run (hp : ChecksFirst p) (sp : AddressSpace β) :
    p.run sp = match p.outcome sp with
      | .ok (a, sp') => .ok a sp'
      | .error e => .error e sp := by
  unfold outcome
  cases h : p.run sp with
  | ok a sp' => rfl
  | error e sp' => rw [hp sp e sp' h]

/-- What such an action leaves is the address space of its outcome, or else the one it was in. -/
theorem ChecksFirst.result (hp : ChecksFirst p) (sp : AddressSpace β) :
    p.result sp = match p.outcome sp with
      | .ok (a, sp') => (.ok a, sp')
      | .error e => (.error e, sp) := by
  rw [SpaceAction.result, hp.run sp]
  rcases p.outcome sp with e | ⟨a, sp'⟩ <;> rfl

/-- What follows on such an action goes on where that leads. -/
theorem ChecksFirst.result_bind (hp : ChecksFirst p) (f : α → SpaceAction β γ)
    (sp : AddressSpace β) :
    (p >>= f).result sp = match p.outcome sp with
      | .ok (a, sp') => (f a).result sp'
      | .error e => (.error e, sp) := by
  rw [SpaceAction.result, EStateM.run_bind, hp.run sp]
  rcases p.outcome sp with e | ⟨a, sp'⟩ <;> rfl

/-- What follows on a change that checks first goes on with its effect. -/
theorem ChecksFirst.result_bind_unit {p : SpaceAction β Unit} (hp : ChecksFirst p)
    (f : Unit → SpaceAction β γ) (sp : AddressSpace β) :
    (p >>= f).result sp = match p.effect sp with
      | .ok sp' => (f ()).result sp'
      | .error e => (.error e, sp) := by
  rw [hp.result_bind, effect]
  rcases p.outcome sp with e | ⟨⟨⟩, sp'⟩ <;> rfl

end SpaceAction

end AlarmServer
