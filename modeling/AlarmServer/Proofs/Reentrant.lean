import AlarmServer.Base.Interaction
import Mathlib.Algebra.Ring.Nat

/-!
# Runs of interrupted operations

A system answers requests, each by an action that may stop to ask. Whoever is asked has the state to
itself and may make further requests before it answers, to any depth. A run is then a sequence of
stretches: a stretch is what one request does without interruption, from its begin or from an answer
to its next question or its end. Requests that wait for an answer form a stack.

Runs may stop anywhere, so the states inside of callbacks are states of runs as well. What holds of
each stretch by itself holds of every run: `Run.keeps` for relations between the two ends of a
stretch, `Run.exists_change` for the stretch that must have changed what is changed.
-/

namespace AlarmServer

/-- A question that was answered. -/
structure Exchange (S : Signature) (σ : Type) where
  /-- The question. -/
  question : S.Question
  /-- The state in which it was asked. -/
  asked : σ
  /-- The answer. -/
  answer : S.Answer question
  /-- The state that was found with the answer. -/
  left : σ

namespace Interaction

variable {S : Signature} {σ α β : Type}

/-- The state in which the interaction stops, at a question or at its end. -/
def state : Interaction S σ α → σ
  | done _ s => s
  | ask _ s _ => s

/-- What is over stands where it has ended. -/
@[simp] theorem state_done (a : α) (s : σ) : (done a s : Interaction S σ α).state = s := rfl

/-- What has asked stands where it has asked. -/
@[simp] theorem state_ask (q : S.Question) (s : σ) (k : S.Answer q → σ → Interaction S σ α) :
    (ask q s k).state = s := rfl

/-- What an interaction has become after some exchanges. -/
inductive After : Interaction S σ α → List (Exchange S σ) → Interaction S σ α → Prop where
  /-- Nothing has been answered. -/
  | nil (x : Interaction S σ α) : After x [] x
  /-- The first question has been answered. -/
  | cons {q : S.Question} {s : σ} {k : S.Answer q → σ → Interaction S σ α} (r : S.Answer q) (t : σ)
      {es : List (Exchange S σ)} {y : Interaction S σ α} (h : After (k r t) es y) :
      After (ask q s k) (⟨q, s, r, t⟩ :: es) y

/-- The state in which an interaction that began in `s` goes on after some exchanges. -/
def found (s : σ) (es : List (Exchange S σ)) : σ := es.foldl (fun _ e => e.left) s

/-- Before the first exchange an interaction finds the state it was started in. -/
@[simp] theorem found_nil (s : σ) : found s ([] : List (Exchange S σ)) = s := rfl

/-- After an exchange it finds what the answer has left. -/
@[simp] theorem found_cons (s : σ) (e : Exchange S σ) (es : List (Exchange S σ)) :
    found s (e :: es) = found e.left es := rfl

/-- Exchanges one after the other. -/
@[simp] theorem found_append (s : σ) (es fs : List (Exchange S σ)) :
    found s (es ++ fs) = found (found s es) fs := by
  simp [found]

/-- One more answer takes an interaction from a question to what follows it. -/
theorem After.answered {x : Interaction S σ α} {es : List (Exchange S σ)} {q : S.Question} {s : σ}
    {k : S.Answer q → σ → Interaction S σ α} (h : After x es (ask q s k)) (r : S.Answer q) (t : σ) :
    After x (es ++ [⟨q, s, r, t⟩]) (k r t) := by
  generalize hy : ask q s k = y at h
  induction h with
  | nil x =>
    subst hy
    exact .cons r t (.nil _)
  | cons r' t' _ ih => exact .cons r' t' (ih hy)

/-- An interaction that has ended has had no exchange. -/
theorem after_done_iff {a : α} {s : σ} {es : List (Exchange S σ)} {y : Interaction S σ α} :
    After (done a s) es y ↔ es = [] ∧ y = done a s := by
  constructor
  · intro h
    cases h
    exact ⟨rfl, rfl⟩
  · rintro ⟨rfl, rfl⟩
    exact .nil _

/-- An interaction that ends without a question stands at its end. -/
theorem after_of_ends {x y : Interaction S σ α} {es : List (Exchange S σ)}
    (hx : ∃ a s, x = done a s) (h : After x es y) : es = [] ∧ y = x := by
  obtain ⟨a, s, rfl⟩ := hx
  exact after_done_iff.1 h

/-- An interaction that asks stands at its question, or has gone on from an answer. -/
theorem after_ask_iff {q : S.Question} {s : σ} {k : S.Answer q → σ → Interaction S σ α}
    {es : List (Exchange S σ)} {y : Interaction S σ α} :
    After (ask q s k) es y ↔
      (es = [] ∧ y = ask q s k) ∨ ∃ r t fs, es = ⟨q, s, r, t⟩ :: fs ∧ After (k r t) fs y := by
  constructor
  · intro h
    cases h with
    | nil => exact .inl ⟨rfl, rfl⟩
    | cons r t h => exact .inr ⟨r, t, _, rfl, h⟩
  · rintro (⟨rfl, rfl⟩ | ⟨r, t, fs, rfl, h⟩)
    · exact .nil _
    · exact .cons r t h

/-- What holds before the first exchange, and is carried on by each, holds after all of them. -/
theorem After.invariant {P : List (Exchange S σ) → Interaction S σ α → Prop}
    {x y : Interaction S σ α} {es : List (Exchange S σ)} (h : After x es y) (hx : P [] x)
    (hstep : ∀ es q s k r t, P es (ask q s k) → P (es ++ [⟨q, s, r, t⟩]) (k r t)) : P es y := by
  suffices hfore : ∀ fore, P fore x → P (fore ++ es) y from hfore [] hx
  clear hx
  induction h with
  | nil x =>
    intro fore hx
    rwa [List.append_nil]
  | cons r t _ ih =>
    intro fore hx
    rw [List.append_cons]
    exact ih _ (hstep _ _ _ _ r t hx)

/-- Each uninterrupted stretch of an interaction that begins in `s` leads from its first state to
its last one by `R`, whatever the answers are. -/
def Keeps (R : σ → σ → Prop) : σ → Interaction S σ α → Prop
  | s, done _ t => R s t
  | s, ask _ t k => R s t ∧ ∀ r u, Keeps R u (k r u)

/-- The stretch that an interaction begins with is as `Keeps` says. -/
theorem Keeps.state {R : σ → σ → Prop} {s : σ} {x : Interaction S σ α} (h : Keeps R s x) :
    R s x.state := by
  cases x with
  | done a t => exact h
  | ask q t k => exact h.1

/-- What an interaction keeps, it keeps after any exchanges. -/
theorem After.keeps {R : σ → σ → Prop} {x y : Interaction S σ α} {es : List (Exchange S σ)}
    (h : After x es y) : ∀ {s : σ}, Keeps R s x → Keeps R (found s es) y := by
  induction h with
  | nil x => exact fun hk => hk
  | cons r t _ ih => exact fun hk => ih (hk.2 r t)

/-- A stretch may be made longer at its begin. -/
theorem Keeps.after_step {R : σ → σ → Prop} (trans : ∀ a b c, R a b → R b c → R a c) {s t : σ}
    {x : Interaction S σ α} (hst : R s t) (h : Keeps R t x) : Keeps R s x := by
  cases x with
  | done a u => exact trans s t u hst h
  | ask q u k => exact ⟨trans s t u hst h.1, h.2⟩

/-- A transitive relation that both parts keep is kept by the whole. -/
theorem Keeps.bind {R : σ → σ → Prop} (trans : ∀ a b c, R a b → R b c → R a c)
    {x : Interaction S σ α} {f : α → σ → Interaction S σ β} {s : σ} (hx : Keeps R s x)
    (hf : ∀ a t, Keeps R t (f a t)) : Keeps R s (x.bind f) := by
  induction x generalizing s with
  | done a t => exact .after_step trans hx (hf a t)
  | ask q t k ih => exact ⟨hx.1, fun r u => ih r u (hx.2 r u)⟩

/-- A stronger relation is kept only where the weaker one is. -/
theorem Keeps.imp {R R' : σ → σ → Prop} (hR : ∀ a b, R a b → R' a b) {x : Interaction S σ α} {s : σ}
    (h : Keeps R s x) : Keeps R' s x := by
  induction x generalizing s with
  | done a t => exact hR _ _ h
  | ask q t k ih => exact ⟨hR _ _ h.1, fun r u => ih r u (h.2 r u)⟩

/-- What an interaction keeps, and what happens at its questions keeps as well, is kept from its
begin. -/
theorem After.relates {R : σ → σ → Prop} (trans : ∀ a b c, R a b → R b c → R a c)
    {x y : Interaction S σ α} {es : List (Exchange S σ)} (h : After x es y) :
    ∀ {s : σ}, Keeps R s x → (∀ e ∈ es, R e.asked e.left) → R s y.state := by
  induction h with
  | nil x => exact fun hk _ => hk.state
  | @cons q s₁ k r t es y _ ih =>
    intro s hk he
    have hfirst : R s₁ t := he ⟨q, s₁, r, t⟩ List.mem_cons_self
    have hrest := ih (hk.2 r t) fun e hmem => he e (List.mem_cons_of_mem _ hmem)
    exact trans _ _ _ (trans _ _ _ hk.1 hfirst) hrest

/-- If what follows on an interaction asks nothing, all exchanges are those of the interaction. -/
theorem After.of_bind_ends {x : Interaction S σ α} {f : α → σ → Interaction S σ β}
    (hf : ∀ a t, ∃ b u, f a t = done b u) {es : List (Exchange S σ)} {y : Interaction S σ β}
    (h : After (x.bind f) es y) : ∃ z, After x es z ∧ y = z.bind f := by
  induction x generalizing es with
  | done a s =>
    obtain ⟨rfl, rfl⟩ := after_of_ends (hf a s) h
    exact ⟨_, .nil _, rfl⟩
  | ask q s k ih =>
    rcases after_ask_iff.1 h with ⟨rfl, rfl⟩ | ⟨r, t, fs, rfl, h'⟩
    · exact ⟨_, .nil _, rfl⟩
    · obtain ⟨z, hz, rfl⟩ := ih r t h'
      exact ⟨z, .cons r t hz, rfl⟩

/-- What has ended has had the exchanges of its parts, one part after the other. -/
theorem After.of_bind_done {x : Interaction S σ α} {f : α → σ → Interaction S σ β}
    {es : List (Exchange S σ)} {b : β} {t : σ} (h : After (x.bind f) es (done b t)) :
    ∃ es₁ es₂ a u, es = es₁ ++ es₂ ∧ After x es₁ (done a u) ∧ After (f a u) es₂ (done b t) := by
  induction x generalizing es with
  | done a s => exact ⟨[], es, a, s, rfl, .nil _, h⟩
  | ask q s k ih =>
    rcases after_ask_iff.1 h with ⟨-, hy⟩ | ⟨r, v, fs, rfl, h'⟩
    · cases hy
    · obtain ⟨es₁, es₂, a, u, rfl, h₁, h₂⟩ := ih r v h'
      exact ⟨_, es₂, a, u, rfl, .cons r v h₁, h₂⟩

/-- A run to the end makes some exchanges, in each of which the answer is the one that is given. A
property of the state that the interaction keeps, and the answers keep as well, holds all the time.
-/
theorem exists_exchanges {P : σ → Prop}
    {answer : (q : S.Question) → σ → S.Answer q × σ} (ha : ∀ q s, P s → P (answer q s).2)
    (x : Interaction S σ α) {s : σ} (hk : Keeps (fun s t => P s → P t) s x) (hs : P s) :
    ∃ es a t, x.run answer = (a, t) ∧ After x es (.done a t) ∧ P t ∧
      ∀ e ∈ es, P e.asked ∧ answer e.question e.asked = (e.answer, e.left) := by
  induction x generalizing s with
  | done a t => exact ⟨[], a, t, rfl, .nil _, hk hs, fun _ he => nomatch he⟩
  | ask q t k ih =>
    have ht : P t := hk.1 hs
    obtain ⟨es, a, u, hrun, hafter, hu, hes⟩ := ih _ _ (hk.2 _ _) (ha q t ht)
    refine ⟨⟨q, t, (answer q t).1, (answer q t).2⟩ :: es, a, u, hrun, .cons _ _ hafter, hu, ?_⟩
    intro e he
    rcases List.mem_cons.1 he with rfl | he
    · exact ⟨ht, rfl⟩
    · exact hes e he

end Interaction

/-- Requests, and the actions that answer them. -/
structure System (S : Signature) (σ : Type) where
  /-- The requests. -/
  Request : Type
  /-- What comes of a request. -/
  Result : Request → Type
  /-- How a request is carried out. -/
  perform : (r : Request) → Action S σ (Result r)

namespace System

open Interaction (After found Keeps)

variable {S : Signature} {σ : Type}

/-- An uninterrupted stretch of one request. -/
structure Stretch (Y : System S σ) where
  /-- How many requests were made before this one. -/
  serial : Nat
  /-- The request. -/
  request : Y.Request
  /-- The state in which the request was made. -/
  start : σ
  /-- The exchanges of the request before this stretch. -/
  answered : List (Exchange S σ)
  /-- The state in which the stretch begins. -/
  before : σ
  /-- What the stretch comes to: the end of the request, or its next question. -/
  outcome : Interaction S σ (Y.Result request)

namespace Stretch

variable {Y : System S σ}

/-- The state in which the stretch stops. -/
def after (st : Y.Stretch) : σ := st.outcome.state

/-- The first stretch of a request. -/
def first (Y : System S σ) (serial : Nat) (r : Y.Request) (s : σ) : Y.Stretch :=
  ⟨serial, r, s, [], s, Y.perform r s⟩

/-- The stretch that follows on an exchange. -/
def next (st : Y.Stretch) (e : Exchange S σ)
    (resume : S.Answer e.question → σ → Interaction S σ (Y.Result st.request)) : Y.Stretch :=
  { st with
    answered := st.answered ++ [e], before := e.left, outcome := resume e.answer e.left }

/-- Does the stretch go on where `f` has asked? -/
def Resumes (st f : Y.Stretch) : Prop :=
  ∃ e resume, f.outcome = .ask e.question e.asked resume ∧ st = f.next e resume

/-- The stretch is what its request does after its exchanges. -/
structure Genuine (st : Y.Stretch) : Prop where
  /-- The outcome is that of the request. -/
  outcome : After (Y.perform st.request st.start) st.answered st.outcome
  /-- The stretch begins where the last exchange has left off. -/
  before : st.before = found st.start st.answered

private theorem genuine_first (serial : Nat) (r : Y.Request) (s : σ) :
    (first Y serial r s).Genuine :=
  ⟨.nil _, rfl⟩

private theorem Genuine.next {st : Y.Stretch} (h : st.Genuine) {e : Exchange S σ}
    {resume : S.Answer e.question → σ → Interaction S σ (Y.Result st.request)}
    (ho : st.outcome = .ask e.question e.asked resume) : (st.next e resume).Genuine := by
  refine ⟨?_, by simp [Stretch.next]⟩
  have ha := h.outcome
  rw [ho] at ha
  exact ha.answered e.answer e.left

/-- A relation that each request keeps holds between the two ends of a stretch. -/
theorem Genuine.keeps {st : Y.Stretch} (h : st.Genuine) {R : Y.Request → σ → σ → Prop}
    (hR : ∀ r s, Keeps (R r) s (Y.perform r s)) : R st.request st.before st.after := by
  have hk := h.outcome.keeps (hR st.request st.start)
  rw [← h.before] at hk
  exact hk.state

end Stretch

/-- A moment of a run. -/
structure Config (Y : System S σ) where
  /-- The state. -/
  state : σ
  /-- How many requests have been made. -/
  begun : Nat
  /-- The stretches at whose end a request waits for an answer, the last one first. -/
  waiting : List Y.Stretch

variable {Y : System S σ}

namespace Config

/-- The moment before the first request. -/
def idle (Y : System S σ) (s : σ) : Y.Config := ⟨s, 0, []⟩

end Config

/-- The moment after a stretch. -/
def Stretch.settle (st : Y.Stretch) (begun : Nat) (waiting : List Y.Stretch) : Y.Config :=
  ⟨st.after, begun, match st.outcome with
    | .done .. => waiting
    | .ask .. => st :: waiting⟩

namespace Stretch

variable (st : Y.Stretch) {t : σ}

private theorem settle_of_ask {q : S.Question}
    {resume : S.Answer q → σ → Interaction S σ (Y.Result st.request)}
    (h : st.outcome = .ask q t resume) (begun : Nat) (waiting : List Y.Stretch) :
    st.settle begun waiting = ⟨t, begun, st :: waiting⟩ := by
  unfold settle after
  rw [h]
  rfl

/-- What is over waits for nothing more. -/
theorem settle_of_done {r : Y.Result st.request} (h : st.outcome = .done r t) (begun : Nat)
    (waiting : List Y.Stretch) : st.settle begun waiting = ⟨t, begun, waiting⟩ := by
  unfold settle after
  rw [h]
  rfl

end Stretch

/-- One step of a run: a new request, or the answer that the last waiting request has waited for. -/
inductive Step : Y.Config → Y.Stretch → Y.Config → Prop where
  /-- A request is made. -/
  | request (s : σ) (n : Nat) (waiting : List Y.Stretch) (r : Y.Request) :
      Step ⟨s, n, waiting⟩ (.first Y n r s) ((Stretch.first Y n r s).settle (n + 1) waiting)
  /-- A question is answered. -/
  | answer (n : Nat) (waiting : List Y.Stretch) (st : Y.Stretch) (e : Exchange S σ)
      (resume : S.Answer e.question → σ → Interaction S σ (Y.Result st.request))
      (h : st.outcome = .ask e.question e.asked resume) :
      Step ⟨e.left, n, st :: waiting⟩ (st.next e resume) ((st.next e resume).settle n waiting)

/-- A run, with its stretches in order. -/
inductive Run : Y.Config → List Y.Stretch → Y.Config → Prop where
  /-- Nothing happens. -/
  | nil (c : Y.Config) : Run c [] c
  /-- A step, and what follows it. -/
  | cons {c d e : Y.Config} {st : Y.Stretch} {trace : List Y.Stretch} (h : Step c st d)
      (hr : Run d trace e) : Run c (st :: trace) e

namespace Step

variable {c d : Y.Config} {st : Y.Stretch}

/-- A stretch begins in the state of the system. -/
theorem before_eq (h : Step c st d) : st.before = c.state := by
  cases h <;> rfl

/-- A stretch ends in the next state of the system. -/
theorem after_eq (h : Step c st d) : st.after = d.state := by
  cases h <;> rfl

/-- A request that asks waits. -/
theorem request_of_ask {s t : σ} {r : Y.Request} {q : S.Question}
    {resume : S.Answer q → σ → Interaction S σ (Y.Result r)} (h : Y.perform r s = .ask q t resume)
    (n : Nat) (waiting : List Y.Stretch) :
    Step ⟨s, n, waiting⟩ (.first Y n r s) ⟨t, n + 1, .first Y n r s :: waiting⟩ := by
  rw [← Stretch.settle_of_ask (.first Y n r s) h (n + 1) waiting]
  exact .request s n waiting r

/-- A request that ends at once does not wait. -/
theorem request_of_ends {s : σ} {r : Y.Request} (h : ∃ a t, Y.perform r s = .done a t) (n : Nat)
    (waiting : List Y.Stretch) :
    Step ⟨s, n, waiting⟩ (.first Y n r s) ⟨(Stretch.first Y n r s).after, n + 1, waiting⟩ := by
  obtain ⟨a, t, h⟩ := h
  have hdone : (Stretch.first Y n r s).outcome = .done a t := h
  have hstep := Step.request s n waiting r
  rw [Stretch.settle_of_done _ hdone (n + 1) waiting] at hstep
  rw [Stretch.after, hdone]
  exact hstep

/-- A request that ends with an answer waits no longer. -/
theorem answer_of_done {f : Y.Stretch} {e : Exchange S σ}
    {resume : S.Answer e.question → σ → Interaction S σ (Y.Result f.request)}
    (h : f.outcome = .ask e.question e.asked resume) {r : Y.Result f.request} {t : σ}
    (hr : resume e.answer e.left = .done r t) (n : Nat) (waiting : List Y.Stretch) :
    Step ⟨e.left, n, f :: waiting⟩ (f.next e resume) ⟨t, n, waiting⟩ := by
  rw [← Stretch.settle_of_done (f.next e resume) hr n waiting]
  exact .answer n waiting f e resume h

/-- A request that asks again waits again. -/
theorem answer_of_ask {f : Y.Stretch} {e : Exchange S σ}
    {resume : S.Answer e.question → σ → Interaction S σ (Y.Result f.request)}
    (h : f.outcome = .ask e.question e.asked resume) {q : S.Question} {t : σ}
    {k : S.Answer q → σ → Interaction S σ (Y.Result f.request)}
    (hr : resume e.answer e.left = .ask q t k) (n : Nat) (waiting : List Y.Stretch) :
    Step ⟨e.left, n, f :: waiting⟩ (f.next e resume) ⟨t, n, f.next e resume :: waiting⟩ := by
  rw [← Stretch.settle_of_ask (f.next e resume) hr n waiting]
  exact .answer n waiting f e resume h

/-- A request that waits has just asked, or has waited before. -/
theorem waiting_mem (h : Step c st d) {f : Y.Stretch} (hf : f ∈ d.waiting) :
    f = st ∨ f ∈ c.waiting := by
  cases h with
  | request s n waiting r =>
    simp only [Stretch.settle] at hf
    split at hf
    · exact .inr hf
    · exact List.mem_cons.1 hf
  | answer n waiting f' e resume ho =>
    simp only [Stretch.settle] at hf
    split at hf
    · exact .inr (List.mem_cons_of_mem _ hf)
    · rcases List.mem_cons.1 hf with hf | hf
      · exact .inl hf
      · exact .inr (List.mem_cons_of_mem _ hf)

/-- A step begins a request or goes on with one that waits. -/
theorem origin (h : Step c st d) :
    st = .first Y c.begun st.request c.state ∨
      ∃ f ∈ c.waiting, st.Resumes f := by
  cases h with
  | request s n waiting r => exact .inl rfl
  | answer n waiting f e resume ho => exact .inr ⟨f, List.mem_cons_self, e, resume, ho, rfl⟩

private theorem genuine (h : Step c st d) (hc : ∀ f ∈ c.waiting, f.Genuine) : st.Genuine := by
  rcases h.origin with hst | ⟨f, hf, e, resume, ho, rfl⟩
  · rw [hst]
    exact Stretch.genuine_first _ _ _
  · exact (hc f hf).next ho

end Step

namespace Run

variable {c d e : Y.Config} {trace : List Y.Stretch}

/-- A run can go on. -/
theorem append {fore rest : List Y.Stretch} (h : Run c fore d) (h' : Run d rest e) :
    Run c (fore ++ rest) e := by
  induction h with
  | nil => exact h'
  | cons hs _ ih => exact .cons hs (ih h')

/-- A run may be cut anywhere. -/
theorem split {fore rest : List Y.Stretch} (h : Run c (fore ++ rest) e) :
    ∃ d, Run c fore d ∧ Run d rest e := by
  induction fore generalizing c with
  | nil => exact ⟨c, .nil c, h⟩
  | cons st fore ih =>
    cases h with
    | cons hs hr =>
      obtain ⟨d, hf, hd⟩ := ih hr
      exact ⟨d, .cons hs hf, hd⟩

/-- A request that waits at the end has waited from the start, or has asked during the run. -/
theorem waiting_mem (h : Run c trace d) {f : Y.Stretch} (hf : f ∈ d.waiting) :
    f ∈ trace ∨ f ∈ c.waiting := by
  induction h with
  | nil => exact .inr hf
  | cons hs _ ih =>
    rcases ih hf with hf | hf
    · exact .inl (List.mem_cons_of_mem _ hf)
    · rcases hs.waiting_mem hf with rfl | hf
      · exact .inl List.mem_cons_self
      · exact .inr hf

/-- Every stretch of a run is what its request does after its exchanges. -/
theorem genuine_of_waiting (h : Run c trace d) (hc : ∀ f ∈ c.waiting, f.Genuine) :
    ∀ st ∈ trace, st.Genuine := by
  induction h with
  | nil =>
    intro st hst
    cases hst
  | cons hs _ ih =>
    have hg := hs.genuine hc
    intro st hst
    rcases List.mem_cons.1 hst with rfl | hst
    · exact hg
    · refine ih (fun f hf => ?_) st hst
      rcases hs.waiting_mem hf with rfl | hf
      · exact hg
      · exact hc f hf

/-- The stretches of a run that starts idle are genuine. -/
theorem genuine {s : σ} (h : Run (.idle Y s) trace d) {st : Y.Stretch} (hst : st ∈ trace) :
    st.Genuine :=
  h.genuine_of_waiting (fun _ hf => nomatch hf) st hst

/-- A stretch is the first of its request, or goes on where an earlier one has asked. -/
theorem origin {s : σ} {fore rest : List Y.Stretch} {st : Y.Stretch}
    (h : Run (.idle Y s) (fore ++ st :: rest) d) :
    (st.answered = [] ∧ st.before = st.start) ∨ ∃ f ∈ fore, st.Resumes f := by
  obtain ⟨c', hf, hr⟩ := h.split
  cases hr with
  | cons hs _ =>
    rcases hs.origin with hst | ⟨f, hmem, hst⟩
    · left
      rw [hst]
      exact ⟨rfl, rfl⟩
    · right
      rcases hf.waiting_mem hmem with hmem | hmem
      · exact ⟨f, hmem, hst⟩
      · cases hmem

/-- What comes to hold in the course of a run comes to hold in one of its stretches. -/
theorem exists_change {P : σ → Prop} (h : Run c trace d) (hc : ¬ P c.state) (hd : P d.state) :
    ∃ st ∈ trace, ¬ P st.before ∧ P st.after := by
  induction h with
  | nil => exact absurd hd hc
  | @cons c m d st trace hs _ ih =>
    by_cases hm : P m.state
    · exact ⟨st, List.mem_cons_self, hs.before_eq ▸ hc, hs.after_eq ▸ hm⟩
    · obtain ⟨f, hf, hb, ha⟩ := ih hm hd
      exact ⟨f, List.mem_cons_of_mem _ hf, hb, ha⟩

/-- Between two stretches of a run what comes to hold comes to hold in a stretch. -/
theorem exists_change_between {P : σ → Prop} {fore mid rest : List Y.Stretch} {a b : Y.Stretch}
    (h : Run c (fore ++ a :: (mid ++ b :: rest)) d) (ha : ¬ P a.after) (hb : P b.before) :
    ∃ st ∈ mid, ¬ P st.before ∧ P st.after := by
  obtain ⟨c₁, -, h₁⟩ := h.split
  cases h₁ with
  | cons hs h₂ =>
    obtain ⟨c₃, h₃, h₄⟩ := h₂.split
    cases h₄ with
    | cons hs' _ => exact h₃.exists_change (hs.after_eq ▸ ha) (hs'.before_eq ▸ hb)

private theorem invariant_of_waiting {P : List Y.Stretch → σ → Prop} (h : Run c trace d)
    (hc : ∀ f ∈ c.waiting, f.Genuine) {fore : List Y.Stretch} (hfore : P fore c.state)
    (hstep : ∀ old st rest, fore ++ trace = old ++ st :: rest → st.Genuine → P old st.before →
      P (old ++ [st]) st.after) : P (fore ++ trace) d.state := by
  induction h generalizing fore with
  | nil =>
    rw [List.append_nil]
    exact hfore
  | @cons c m d st trace hs _ ih =>
    have hg := hs.genuine hc
    rw [← hs.before_eq] at hfore
    have hst := hstep fore st trace rfl hg hfore
    rw [hs.after_eq] at hst
    have hm : ∀ f ∈ m.waiting, f.Genuine := by
      intro f hf
      rcases hs.waiting_mem hf with rfl | hf
      · exact hg
      · exact hc f hf
    rw [List.append_cons] at hstep ⊢
    exact ih hm hst hstep

/-- What holds in the beginning, of no stretches, and is carried on by each stretch of a run, holds
of all its stretches in the end. -/
theorem invariant {P : List Y.Stretch → σ → Prop} {s : σ} (h : Run (.idle Y s) trace d)
    (hs : P [] s) (hstep : ∀ fore st rest, trace = fore ++ st :: rest → st.Genuine →
      P fore st.before → P (fore ++ [st]) st.after) : P trace d.state :=
  h.invariant_of_waiting (fun _ hf => nomatch hf) hs hstep

/-- What holds of the beginning of a run, and is carried on by each stretch, holds of all stretches
before one of them, where that begins. -/
theorem invariant_before {P : List Y.Stretch → σ → Prop} {s : σ} {fore rest : List Y.Stretch}
    {st : Y.Stretch} (h : Run (.idle Y s) (fore ++ st :: rest) d) (hs : P [] s)
    (hstep : ∀ old f rest', fore ++ st :: rest = old ++ f :: rest' → f.Genuine →
      P old f.before → P (old ++ [f]) f.after) : P fore st.before := by
  obtain ⟨m, hfore, hrest⟩ := h.split
  cases hrest with
  | cons hst _ =>
    rw [hst.before_eq]
    refine hfore.invariant hs fun old f rest' he => hstep old f (rest' ++ st :: rest) ?_
    rw [he, List.append_assoc, List.cons_append]

end Run

/-! ### What a run leaves behind -/

/-- What the last stretch says that says anything. -/
def latest {α : Type} (tells : Y.Stretch → Option α) (trace : List Y.Stretch) : Option α :=
  trace.reverse.findSome? tells

section

variable {α : Type} (tells : Y.Stretch → Option α)

/-- What a stretch tells counts if no later one tells anything. -/
@[simp] theorem latest_cons (st : Y.Stretch) (trace : List Y.Stretch) :
    latest tells (st :: trace) = (latest tells trace).or (tells st) := by
  simp [latest, List.findSome?_append]

/-- What the last stretch tells comes first. -/
theorem latest_concat (trace : List Y.Stretch) (st : Y.Stretch) :
    latest tells (trace ++ [st]) = (tells st).or (latest tells trace) := by
  rw [latest, List.reverse_concat, List.findSome?_cons]
  cases tells st <;> rfl

/-- What is made of the last thing said is the last thing that is made. -/
theorem latest_map {γ : Type} (f : α → γ) (trace : List Y.Stretch) :
    latest (fun st => (tells st).map f) trace = (latest tells trace).map f :=
  List.map_findSome?.symm

/-- Nothing is told last if nothing is told at all. -/
theorem latest_eq_none_iff (trace : List Y.Stretch) :
    latest tells trace = none ↔ ∀ st ∈ trace, tells st = none := by
  simp [latest]

/-- What is told last is told by a stretch after which nothing is told. -/
theorem latest_eq_some_iff (trace : List Y.Stretch) {a : α} :
    latest tells trace = some a ↔ ∃ fore st rest, trace = fore ++ st :: rest ∧ tells st = some a ∧
      ∀ f ∈ rest, tells f = none := by
  rw [latest, List.findSome?_eq_some_iff]
  constructor
  · rintro ⟨rest, st, fore, he, hst, hrest⟩
    refine ⟨fore.reverse, st, rest.reverse, ?_, hst, fun f hf => hrest f (List.mem_reverse.1 hf)⟩
    simpa using congrArg List.reverse he
  · rintro ⟨fore, st, rest, rfl, hst, hrest⟩
    refine ⟨rest.reverse, st, fore.reverse, ?_, hst, fun f hf => hrest f (List.mem_reverse.1 hf)⟩
    simp

end

/-- If each stretch leaves a part of the state as it says, or as it was if it says nothing, a run
leaves it as was said last. -/
theorem Run.eq_latest {α : Type} {c d : Y.Config} {trace : List Y.Stretch} (h : Run c trace d)
    (part : σ → α) {tells : Y.Stretch → Option α}
    (hs : ∀ st ∈ trace, part st.after = (tells st).getD (part st.before)) :
    part d.state = (latest tells trace).getD (part c.state) := by
  induction h with
  | nil => rfl
  | cons hstep _ ih =>
    rw [ih fun st hst => hs st (List.mem_cons_of_mem _ hst), latest_cons, ← hstep.after_eq,
      hs _ List.mem_cons_self, hstep.before_eq, Option.getD_or]

/-- What did not hold at first holds after a run if that was said last. -/
theorem Run.holds_iff_latest {P : σ → Prop} [DecidablePred P] {c d : Y.Config}
    {trace : List Y.Stretch} (h : Run c trace d) (hc : ¬ P c.state)
    {tells : Y.Stretch → Option Bool}
    (hs : ∀ st ∈ trace, decide (P st.after) = (tells st).getD (decide (P st.before))) :
    P d.state ↔ latest tells trace = some true := by
  have hlatest : decide (P d.state) = (latest tells trace).getD (decide (P c.state)) :=
    h.eq_latest (fun s => decide (P s)) hs
  rw [decide_eq_false hc] at hlatest
  rw [← decide_eq_true_iff (p := P d.state), hlatest]
  cases latest tells trace <;> simp

/-! ### Accounts -/

/-- What requests carry over their questions: nothing where they begin or end, and where they go on
what they had where they asked. -/
structure Carries (keeps kept : Y.Stretch → Nat) : Prop where
  /-- A request begins with nothing. -/
  first : ∀ n r s, kept (.first Y n r s) = 0
  /-- A request goes on with what it had where it asked. -/
  next : ∀ f e resume, f.outcome = .ask e.question e.asked resume →
    kept (f.next e resume) = keeps f
  /-- A request ends with nothing. -/
  done : ∀ st r t, st.outcome = .done r t → keeps st = 0

section

variable {keeps kept : Y.Stretch → Nat} {c d : Y.Config} {trace : List Y.Stretch}

private theorem Carries.settle (hk : Carries keeps kept) (st : Y.Stretch) (n : Nat)
    (waiting : List Y.Stretch) :
    ((st.settle n waiting).waiting.map keeps).sum = keeps st + (waiting.map keeps).sum := by
  cases ho : st.outcome with
  | done r t => rw [Stretch.settle_of_done st ho, hk.done st r t ho, Nat.zero_add]
  | ask q t k => rw [Stretch.settle_of_ask st ho, List.map_cons, List.sum_cons]

private theorem Carries.step (hk : Carries keeps kept) {st : Y.Stretch} (hs : Step c st d) :
    (d.waiting.map keeps).sum + kept st = keeps st + (c.waiting.map keeps).sum := by
  cases hs with
  | request s n waiting r => rw [hk.settle, hk.first, Nat.add_zero]
  | answer n waiting f e resume ho =>
    rw [hk.settle, hk.next f e resume ho, List.map_cons, List.sum_cons]
    omega

private theorem Carries.kept_le (hk : Carries keeps kept) {st : Y.Stretch} (hs : Step c st d) :
    kept st ≤ (c.waiting.map keeps).sum := by
  cases hs with
  | request s n waiting r =>
    rw [hk.first]
    exact Nat.zero_le _
  | answer n waiting f e resume ho =>
    rw [hk.next f e resume ho]
    exact Nat.le_add_right _ _

private theorem sum_map_le {f g : Y.Stretch → Nat} (h : ∀ st ∈ trace, f st ≤ g st) :
    (trace.map f).sum ≤ (trace.map g).sum := by
  induction trace with
  | nil => exact Nat.le_refl _
  | cons st trace ih =>
    have hhead := h st List.mem_cons_self
    have hrest := ih fun f hf => h f (List.mem_cons_of_mem _ hf)
    simp only [List.map_cons, List.sum_cons]
    omega

variable (stock : σ → Nat) (spent received : Y.Stretch → Nat)

private theorem Run.account_of_waiting (h : Run c trace d) (hk : Carries keeps kept)
    (hst : ∀ st ∈ trace,
      stock st.after + keeps st + spent st = stock st.before + kept st + received st) :
    stock d.state + (d.waiting.map keeps).sum + (trace.map spent).sum =
      stock c.state + (c.waiting.map keeps).sum + (trace.map received).sum := by
  induction h with
  | nil => simp
  | @cons c m d st trace hs _ ih =>
    have hrest := ih fun f hf => hst f (List.mem_cons_of_mem _ hf)
    have hhead := hst st List.mem_cons_self
    have hcarried := hk.step hs
    rw [hs.after_eq, hs.before_eq] at hhead
    simp only [List.map_cons, List.sum_cons]
    omega

variable {s : σ}

/-- What there is at the end of a run, in the state and with the requests that wait, and what was
spent, is what there was and what was received, if that is so for each stretch. -/
theorem Run.account (h : Run (.idle Y s) trace d) (hk : Carries keeps kept)
    (hst : ∀ st ∈ trace,
      stock st.after + keeps st + spent st = stock st.before + kept st + received st) :
    stock d.state + (d.waiting.map keeps).sum + (trace.map spent).sum =
      stock s + (trace.map received).sum :=
  h.account_of_waiting stock spent received hk hst

/-- What there is at the end of a run and what was spent does not exceed what there was and what was
received, if that is so for each stretch. -/
theorem Run.account_le (h : Run (.idle Y s) trace d) (hk : Carries keeps kept)
    (hst : ∀ st ∈ trace,
      stock st.after + keeps st + spent st ≤ stock st.before + kept st + received st) :
    stock d.state + (d.waiting.map keeps).sum + (trace.map spent).sum ≤
      stock s + (trace.map received).sum := by
  -- all that could have been spent
  let limit (st : Y.Stretch) : Nat :=
    stock st.before + kept st + received st - (stock st.after + keeps st)
  have haccount : stock d.state + (d.waiting.map keeps).sum + (trace.map limit).sum =
      stock s + (trace.map received).sum := by
    refine h.account stock limit received hk fun st hmem => ?_
    exact Nat.add_sub_cancel' (Nat.le_of_add_right_le (hst st hmem))
  have hlimit : (trace.map spent).sum ≤ (trace.map limit).sum :=
    sum_map_le fun st hmem => Nat.le_sub_of_add_le' (hst st hmem)
  omega

/-- What there is where a stretch of a run begins, and what was spent before, does not exceed what
there was and what was received before, if that is so for each stretch. -/
theorem Run.account_before {fore rest : List Y.Stretch} {st : Y.Stretch}
    (h : Run (.idle Y s) (fore ++ st :: rest) d) (hk : Carries keeps kept)
    (hst : ∀ f ∈ fore,
      stock f.after + keeps f + spent f ≤ stock f.before + kept f + received f) :
    stock st.before + kept st + (fore.map spent).sum ≤ stock s + (fore.map received).sum := by
  obtain ⟨c, hfore, hrest⟩ := h.split
  cases hrest with
  | cons hs _ =>
    have haccount := hfore.account_le stock spent received hk hst
    have hkept := hk.kept_le hs
    rw [hs.before_eq]
    omega

end

/-! ### Interactions made of requests -/

/-- As long as what happens at its questions leaves `P` true, the interaction does what some
requests do one after the other, and ends with `P`. -/
def Covers {α : Type} (P : σ → Prop) (waiting : List Y.Stretch) :
    Y.Config → Interaction S σ α → Prop
  | c, .done _ t => P t ∧ ∃ trace n, Run c trace ⟨t, n, waiting⟩
  | c, .ask q t k => ∃ trace n st resume, Run c trace ⟨t, n, st :: waiting⟩ ∧
    st.outcome = .ask q t resume ∧
    ∀ n r u, P u → Covers P waiting ((st.next ⟨q, t, r, u⟩ resume).settle n waiting) (k r u)

section

variable {α γ : Type} {P : σ → Prop} {waiting : List Y.Stretch}

/-- Requests, and then an interaction made of requests. -/
theorem Covers.after_run {c d : Y.Config} {trace : List Y.Stretch} {x : Interaction S σ α}
    (h : Run c trace d) (hx : Covers P waiting d x) : Covers P waiting c x := by
  cases x with
  | done a t =>
    obtain ⟨ht, trace', n, h'⟩ := hx
    exact ⟨ht, trace ++ trace', n, h.append h'⟩
  | ask q t k =>
    obtain ⟨trace', n, st, resume, h', hst, hk⟩ := hx
    exact ⟨trace ++ trace', n, st, resume, h.append h', hst, hk⟩

/-- An interaction made of requests, and then another one. -/
theorem Covers.bind {c : Y.Config} {x : Interaction S σ α} {f : α → σ → Interaction S σ γ}
    (hx : Covers P waiting c x) (hf : ∀ a t n, P t → Covers P waiting ⟨t, n, waiting⟩ (f a t)) :
    Covers P waiting c (x.bind f) := by
  induction x generalizing c with
  | done a t =>
    obtain ⟨ht, trace, n, h⟩ := hx
    exact (hf a t n ht).after_run h
  | ask q t k ih =>
    obtain ⟨trace, n, st, resume, h, hst, hk⟩ := hx
    exact ⟨trace, n, st, resume, h, hst, fun m r u hu => ih r u (hk m r u hu)⟩

private theorem covers_settle (r : Y.Request) {x : Interaction S σ (Y.Result r)} (serial : Nat)
    (start : σ) (answered : List (Exchange S σ)) (before : σ) (n : Nat)
    (hx : Keeps (fun s t => P s → P t) before x) (hP : P before) :
    Covers P waiting (Stretch.settle ⟨serial, r, start, answered, before, x⟩ n waiting) x := by
  induction x generalizing answered before n with
  | done a t => exact ⟨hx hP, [], n, .nil _⟩
  | ask q t k ih =>
    refine ⟨[], n, ⟨serial, r, start, answered, before, .ask q t k⟩, k, .nil _, rfl, ?_⟩
    exact fun m a u hu => ih a u _ _ m (hx.2 a u) hu

/-- A request is made of itself. -/
theorem covers_request (r : Y.Request) (s : σ) (n : Nat)
    (hr : Keeps (fun s t => P s → P t) s (Y.perform r s)) (hP : P s) :
    Covers P waiting ⟨s, n, waiting⟩ (Y.perform r s) :=
  .after_run (.cons (.request s n waiting r) (.nil _)) (covers_settle r n s [] s (n + 1) hr hP)

end

end System

end AlarmServer
