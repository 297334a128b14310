import AlarmServer.Proofs.Mediation

/-!
# Successes of client methods

A method that enters the true state of a variable succeeds only if the variable was false when the
method was called. It makes the variable true itself unless its callback has left it true, which
takes another attempt in the middle of that callback. Only then two methods may succeed for one rise
of the variable.
-/

namespace AlarmServer

open Interaction (After found)
open Server (Beside)

variable {β : Type}

namespace System.Stretch

/-- Does the variable become true in the stretch? -/
def Raises (st : (requests β).Stretch) (c : NodeId) (k : TransitionKind) : Prop :=
  st.before.space.idOf c k ≠ some true ∧ st.after.space.idOf c k = some true

/-- Does the variable cease to be true in the stretch? -/
def Lowers (st : (requests β).Stretch) (c : NodeId) (k : TransitionKind) : Prop :=
  st.before.space.idOf c k = some true ∧ st.after.space.idOf c k ≠ some true

/-- May the stretch end the true state of the variable? It may commit the false state, delete the
node, or give out the identifier of the node again. -/
def EndsState (st : (requests β).Stretch) (c : NodeId) (k : TransitionKind) : Prop :=
  (∃ now, Request.May st.request (.commit c k false now)) ∨
    (∃ refs, Request.May st.request (.deleteNode c refs)) ∨
    ∃ sp, AddressSpace.Changed (Request.May st.request) st.before.space sp ∧ c = sp.allocate.1

/-- Does a client method that enters the true state of the variable succeed with the stretch? -/
def Succeeds (st : (requests β).Stretch) (c : NodeId) (k : TransitionKind) : Prop :=
  ∃ m, st.request = Request.client m c ∧ m.target = true ∧ m.kind = k ∧
    ∃ id t, st.outcome = .done (.ok id) t

end System.Stretch

section

variable {st : (requests β).Stretch} {c : NodeId} {k : TransitionKind}

-- What a success tells: the variable was false at the call, the hook let the method pass, the
-- variable was there at the commit, and is true now.
private theorem entered_of_succeeds (h : st.Genuine) (hs : st.Succeeds c k) :
    st.start.space.idOf c k = some false ∧
      (∃ session, Attempt.Cleared ⟨c, k, session⟩ st.start st.answered) ∧
      (st.before.space.idOf c k).isSome ∧ st.after.space.idOf c k = some true := by
  obtain ⟨serial, r, s, es, before, y⟩ := st
  obtain ⟨m, hr, hm, rfl, hok⟩ := hs
  change r = Request.client m c at hr
  subst hr
  obtain ⟨id, t, rfl⟩ : ∃ (id : EventId) (t : Server β), y = .done (.ok id) t := hok
  have hattempt : Request.attempt? (Request.client m c : Request β) =
      some ⟨c, m.kind, m.session⟩ := if_pos hm
  have hcourse := course_of_genuine h hattempt
  obtain ⟨hstart, -⟩ : m.Atomic c s es (.done (.ok id) t) := ClientMethod.outcome_of_after h.outcome
  rw [hm] at hstart
  have hbefore : before = found s es := h.before
  cases hcourse with
  | passed hs => exact absurd hstart hs
  | entered hs hc hb hid =>
    refine ⟨hs, ⟨m.session, hc⟩, ?_, ?_⟩
    · rw [hbefore]
      exact hb
    · exact (hid c m.kind).trans (if_pos ⟨rfl, rfl⟩)

private theorem asked_of_resumes {f : (requests β).Stretch} {a : Attempt}
    (hc : a.Cleared st.start st.answered) (hf : st.Resumes f) :
    f.answered = [] ∧ f.start = st.start ∧ f.after.space = st.start.space := by
  obtain ⟨e, resume, ho, rfl⟩ := hf
  change a.Cleared f.start (f.answered ++ [e]) at hc
  have hes : f.answered = [] ∧ Beside f.start e.asked := by
    generalize hes : f.answered ++ [e] = es at hc
    cases hc with
    | unhooked => simp at hes
    | unregistered => simp at hes
    | allowed _ hx _ =>
      rcases List.append_eq_singleton_iff.1 hes with ⟨hnil, he⟩ | ⟨-, he⟩
      · cases he
        exact ⟨hnil, hx⟩
      · cases he
  refine ⟨hes.1, rfl, ?_⟩
  rw [System.Stretch.after, ho]
  exact hes.2.space

private theorem endsState_of_lowers (h : st.Genuine) (hl : st.Lowers c k) : st.EndsState c k := by
  obtain ⟨ch, sp, sp', hmay, hsp, happ, hb, ha⟩ :=
    h.changed.exists_change (P := fun sp => sp.idOf c k ≠ some true) (fun hn => hn hl.1) hl.2
  rcases Change.lowers_of_apply happ (Decidable.not_not.1 hb) ha with ⟨now, rfl⟩ | ⟨refs, rfl⟩ | hid
  · exact .inl ⟨now, hmay⟩
  · exact .inr (.inl ⟨refs, hmay⟩)
  · exact .inr (.inr ⟨sp, hsp, hid⟩)

end

section

variable {s : Server β} {fore mid rest : List (requests β).Stretch} {d : (requests β).Config}
  {a b : (requests β).Stretch} {c : NodeId} {k : TransitionKind}

private theorem lowers_between
    (h : System.Run (.idle (requests β) s) (fore ++ a :: (mid ++ b :: rest)) d)
    (ha : a.after.space.idOf c k = some true) (hb : b.before.space.idOf c k = some false) :
    ∃ g ∈ mid, g.Lowers c k ∧ g.EndsState c k := by
  have hb' : b.before.space.idOf c k ≠ some true := by
    rw [hb]
    simp
  obtain ⟨g, hg, hgb, hga⟩ := h.exists_change_between
    (P := fun t : Server β => t.space.idOf c k ≠ some true) (fun hn => hn ha) hb'
  have hl : g.Lowers c k := ⟨Decidable.not_not.1 hgb, hga⟩
  exact ⟨g, hg, hl, endsState_of_lowers (h.genuine (by simp [hg])) hl⟩

private theorem raises_between
    (h : System.Run (.idle (requests β) s) (fore ++ a :: (mid ++ b :: rest)) d)
    (ha : a.after.space.idOf c k = some false) (hb : b.before.space.idOf c k = some true) :
    ∃ g ∈ mid, g.Raises c k := by
  have ha' : a.after.space.idOf c k ≠ some true := by
    rw [ha]
    simp
  obtain ⟨g, hg, hgb, hga⟩ := h.exists_change_between
    (P := fun t : Server β => t.space.idOf c k = some true) ha' hb
  exact ⟨g, hg, hgb, hga⟩

end

section

variable {s : Server β} {fore rest : List (requests β).Stretch} {d : (requests β).Config}
  {st : (requests β).Stretch} {c : NodeId} {k : TransitionKind}

-- A method that succeeds has raised its variable unless that was true in the end of the callback.
private theorem raises_iff_of_succeeds (h : st.Genuine) (hs : st.Succeeds c k) :
    st.Raises c k ↔ st.before.space.idOf c k = some false := by
  obtain ⟨-, -, hsome, hafter⟩ := entered_of_succeeds h hs
  obtain ⟨b, hb⟩ := Option.isSome_iff_exists.1 hsome
  simp only [System.Stretch.Raises, hafter, hb, and_true]
  cases b <;> simp

private theorem raised_meanwhile (h : System.Run (.idle (requests β) s) (fore ++ st :: rest) d)
    (hs : st.Succeeds c k) (hb : st.before.space.idOf c k = some true) :
    ∃ fore' f mid, fore = fore' ++ f :: mid ∧ st.Resumes f ∧ ∃ g ∈ mid, g.Raises c k := by
  obtain ⟨hstart, ⟨session, hc⟩, -, -⟩ := entered_of_succeeds (h.genuine (by simp)) hs
  rcases h.origin with ⟨-, hfirst⟩ | ⟨f, hf, hresumes⟩
  · rw [hfirst, hstart] at hb
    cases hb
  · obtain ⟨-, -, hasked⟩ := asked_of_resumes hc hresumes
    obtain ⟨fore', mid, rfl⟩ := List.append_of_mem hf
    rw [List.append_assoc, List.cons_append] at h
    have hlow : f.after.space.idOf c k = some false := by
      rw [hasked]
      exact hstart
    exact ⟨fore', f, mid, rfl, hresumes, raises_between h hlow hb⟩

-- Between two successes the variable has ceased to be true, unless the first one came while the
-- second method was waiting for its callback, and the second one has made nothing true.
private theorem lowered_meanwhile {fore' mid : List (requests β).Stretch}
    {st' : (requests β).Stretch}
    (h : System.Run (.idle (requests β) s) (fore' ++ st' :: (mid ++ st :: rest)) d)
    (hs' : st'.Succeeds c k) (hs : st.Succeeds c k) :
    (¬ st.Raises c k ∧ ∃ f ∈ fore', st.Resumes f) ∨ ∃ g ∈ mid, g.Lowers c k ∧ g.EndsState c k := by
  have hg : st.Genuine := h.genuine (by simp)
  obtain ⟨-, -, -, hafter'⟩ := entered_of_succeeds (h.genuine (by simp)) hs'
  obtain ⟨hstart, ⟨session, hc⟩, -, -⟩ := entered_of_succeeds hg hs
  by_cases hr : st.Raises c k
  · exact .inr (lowers_between h hafter' ((raises_iff_of_succeeds hg hs).1 hr))
  have h₂ := h
  rw [← List.cons_append, ← List.append_assoc] at h₂
  -- The variable is true after the earlier success and false where this method was called, so it
  -- is lowered between the two, unless the call came first.
  rcases h₂.origin with ⟨-, hfirst⟩ | ⟨f, hf, hresumes⟩
  · right
    refine lowers_between h hafter' ?_
    rw [hfirst]
    exact hstart
  · obtain ⟨hnil, hfstart, -⟩ := asked_of_resumes hc hresumes
    rcases List.mem_append.1 hf with hf | hf
    · exact .inl ⟨hr, f, hf, hresumes⟩
    · rcases List.mem_cons.1 hf with rfl | hf
      · obtain ⟨e, resume, ho, -⟩ := hresumes
        obtain ⟨m, -, -, -, id, t, hdone⟩ := hs'
        rw [hdone] at ho
        cases ho
      · obtain ⟨mid₁, mid₂, rfl⟩ := List.append_of_mem hf
        rw [List.append_assoc, List.cons_append] at h
        have hfbefore : f.before.space.idOf c k = some false := by
          rw [(h.genuine (by simp)).before, hnil, hfstart]
          exact hstart
        obtain ⟨g, hg, hl⟩ := lowers_between h hafter' hfbefore
        exact .inr ⟨g, List.mem_append_left _ hg, hl⟩

end

/-- What a success of a client method says about the run before it. The variable was false when the
method was called, and is true now. The method has made it true itself unless its callback has left
it true, and then a stretch in the course of that callback has made it true. After an earlier
success, the variable has ceased to be true in between, by a commit of the false state or with its
node, unless this method has made nothing true and the earlier success came while its callback was
running. -/
theorem success_of_run {s : Server β} {fore rest : List (requests β).Stretch}
    {d : (requests β).Config} {st : (requests β).Stretch} {c : NodeId} {k : TransitionKind}
    (h : System.Run (.idle (requests β) s) (fore ++ st :: rest) d) (hs : st.Succeeds c k) :
    st.start.space.idOf c k = some false ∧ st.after.space.idOf c k = some true ∧
      (st.Raises c k ↔ st.before.space.idOf c k = some false) ∧
      (¬ st.Raises c k → ∃ fore' f mid, fore = fore' ++ f :: mid ∧ st.Resumes f ∧
        ∃ g ∈ mid, g.Raises c k) ∧
      ∀ fore' st' mid, fore = fore' ++ st' :: mid → st'.Succeeds c k →
        (¬ st.Raises c k ∧ ∃ f ∈ fore', st.Resumes f) ∨
          ∃ g ∈ mid, g.Lowers c k ∧ g.EndsState c k := by
  have hg : st.Genuine := h.genuine (by simp)
  obtain ⟨hstart, -, hsome, hafter⟩ := entered_of_succeeds hg hs
  have hraises := raises_iff_of_succeeds hg hs
  refine ⟨hstart, hafter, hraises, fun hn => ?_, fun fore' st' mid hfore hs' => ?_⟩
  · apply raised_meanwhile h hs
    obtain ⟨b, hb⟩ := Option.isSome_iff_exists.1 hsome
    cases b with
    | false => exact absurd (hraises.2 hb) hn
    | true => exact hb
  · subst hfore
    rw [List.append_assoc, List.cons_append] at h
    exact lowered_meanwhile h hs' hs

/-- The guarded condition is acknowledged by a method that makes it acknowledged itself. -/
theorem success_guardedAcknowledge :
    ∃ (fore : List (requests Unit).Stretch) (st : (requests Unit).Stretch)
      (d : (requests Unit).Config),
      System.Run (.idle (requests Unit) guardedServer) (fore ++ [st]) d ∧
        st.Succeeds guardedCondition .acked ∧ st.Raises guardedCondition .acked := by
  obtain ⟨resume, hask, id, t, hdone⟩ : ∃ resume,
      (guardedAcknowledge.perform guardedCondition).run guardedServer =
        .ask guardQuestion guardedServer resume ∧
      ∃ id t, resume StatusCode.good guardedServer = .done (.ok id) t :=
    ⟨_, rfl, _, _, rfl⟩
  have h : System.Run (.idle (requests Unit) guardedServer)
      ([guardedRequest] ++ [guardedRequest.next guardAllows resume]) ⟨t, 1, []⟩ :=
    .cons (.request_of_ask hask 0 [])
      (.cons (.answer_of_done (f := guardedRequest) (e := guardAllows) hask hdone 1 []) (.nil _))
  have hs : (guardedRequest.next guardAllows resume).Succeeds guardedCondition .acked :=
    ⟨guardedAcknowledge, rfl, rfl, rfl, id, t, hdone⟩
  exact ⟨_, _, _, h, hs, (success_of_run h hs).2.2.1.2 rfl⟩

/-- The same request once more, made while the callback of the first one is running. -/
def guardedNested : (requests Unit).Stretch :=
  .first (requests Unit) 1 (Request.client guardedAcknowledge guardedCondition) guardedServer

/-- An acknowledgement may succeed although it acknowledges nothing. Its callback acknowledges the
condition and allows the transition. Both methods succeed, one immediately after the other, and the
rise of one variable is published twice. -/
theorem success_without_rise :
    ∃ (fore : List (requests Unit).Stretch) (st' st : (requests Unit).Stretch)
      (d : (requests Unit).Config),
      System.Run (.idle (requests Unit) guardedServer) (fore ++ [st', st]) d ∧
        st'.Succeeds guardedCondition .acked ∧ st.Succeeds guardedCondition .acked ∧
        ¬ st.Raises guardedCondition .acked ∧ d.state.space.published = 2 := by
  obtain ⟨resume, hask, id, t, hdone, id', t', hdone', ht, hpublished⟩ : ∃ resume,
      (guardedAcknowledge.perform guardedCondition).run guardedServer =
        .ask guardQuestion guardedServer resume ∧
      ∃ id t, resume StatusCode.good guardedServer = .done (.ok id) t ∧
      ∃ id' t', resume StatusCode.good t = .done (.ok id') t' ∧
      t.space.idOf guardedCondition .acked = some true ∧ t'.space.published = 2 :=
    ⟨_, rfl, _, _, rfl, _, _, rfl, rfl, rfl⟩
  let e : Exchange (upcalls Unit) (Server Unit) :=
    ⟨guardQuestion, guardedServer, StatusCode.good, t⟩
  have h : System.Run (.idle (requests Unit) guardedServer)
      ([guardedRequest, guardedNested] ++
        [guardedNested.next guardAllows resume, guardedRequest.next e resume]) ⟨t', 2, []⟩ :=
    .cons (.request_of_ask hask 0 []) (.cons (.request_of_ask hask 1 [guardedRequest])
      (.cons (.answer_of_done (f := guardedNested) (e := guardAllows) hask hdone 2
        [guardedRequest])
        (.cons (.answer_of_done (f := guardedRequest) (e := e) hask hdone' 2 []) (.nil _))))
  exact ⟨_, _, _, _, h, ⟨guardedAcknowledge, rfl, rfl, rfl, id, t, hdone⟩,
    ⟨guardedAcknowledge, rfl, rfl, rfl, id', t', hdone'⟩, fun hr => hr.1 ht, hpublished⟩

end AlarmServer
