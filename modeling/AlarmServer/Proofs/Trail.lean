import AlarmServer.Proofs.Dealings
import AlarmServer.Proofs.Discretion
import AlarmServer.Proofs.Strays
import Mathlib.Data.List.Basic

/-!
# The trail of dispatches

In a run the trail is complete and in order. Each dispatch is announced once, and its callback finds
the announcement at the end of the journal; each callback that fails is reported once, before its
dispatch gives an internal error. What else a server writes looks different, and so does what is
written beside by handles and by access control.
-/

namespace AlarmServer

open Interaction (After found Keeps)
open ServerAction (Silent)

variable {β : Type}

/-! ### Dealings -/

namespace Operation

variable {α γ : Type}

private theorem silent_bind {x : Operation β α} {f : α → Operation β γ} (hx : Silent x.perform)
    (hf : ∀ a, Silent (f a).perform) : Silent (x >>= f).perform := by
  intro s
  obtain ⟨r, t, hrun, ht⟩ := hx s
  rw [perform_bind, hrun, Interaction.bind_done]
  cases r with
  | error e => exact ⟨_, t, rfl, ht⟩
  | ok a =>
    obtain ⟨b, u, hrun', hu⟩ := hf a t
    exact ⟨b, u, hrun', ht.trans hu⟩

private theorem silent_request {c : RuntimeCall β} (hc : c.method ≠ .writeProperty)
    (failure : StatusCode → Error) : Silent (request c failure).perform := by
  intro s
  obtain ⟨r, t, hrun, ht⟩ := Server.silent_answer hc s
  rw [perform_request, hrun]
  exact ⟨_, t, rfl, ht⟩

end Operation

namespace Condition

/-- A registration writes no line of the trail. -/
theorem silent_register (c : Condition) (k : TransitionKind) (slot : Slot β) :
    Silent (c.register k slot).perform := by
  have hrequest : Silent (Operation.request (.installHook (slot.hook c.id k))
      (.hookInstallFailed k.variableName)).perform :=
    Operation.silent_request (c := .installHook _) nofun _
  refine Operation.silent_bind (fun s => ⟨_, s, rfl, .refl _⟩) fun tables => ?_
  refine Operation.silent_bind (fun s => ⟨_, _, rfl, .refl s.journal⟩) fun _ => ?_
  dsimp only
  split
  · refine Operation.silent_bind (fun s => ⟨_, _, rfl, ?_⟩) fun _ => hrequest
    exact .concat _ (Entry.isTrail_of_offTrail ⟨'R', by simp, by decide⟩)
  · exact hrequest

/-- A handle that is dropped writes no line of the trail. -/
theorem silent_drop (c : Condition) : Silent (c.drop : Routine β Unit).perform := by
  intro s
  cases ho : c.ownsNode with
  | false => exact ⟨(), s, c.drop_of_borrowed ho s, .refl _⟩
  | true =>
    obtain ⟨r, t, hanswer, ht⟩ := Server.silent_answer (c := .deleteNode c.id true) nofun s
    refine ⟨(), _, c.drop_of_answer ho hanswer, ht.trans ?_⟩
    cases r with
    | ok _ => exact .refl t.journal
    | error e => exact .concat _ (Entry.isTrail_of_offTrail ⟨'F', by simp, by decide⟩)

end Condition

namespace Dealing

/-- The variable for which it dispatches, if it begins in `s`. -/
def dispatch? (s : Server β) : Dealing β → Option (NodeId × TransitionKind)
  | use (.request r _) => r.dispatch? s
  | _ => none

/-- What it gives with the status of its question. -/
def Gives : (x : Dealing β) → StatusCode → x.Result → Prop
  | use (.request r _), status, a => r.Gives status a
  | _, _, _ => True

/-- What is done beside writes no line that looks like one of the trail. -/
def Discreet : Dealing β → Prop
  | use (.beside f _) => ∀ t, GoesOn [] t.ambient.journal (f t).ambient.journal
  | _ => True

private theorem recorded {x : Dealing β} (hx : x.Discreet) {s : Server β} (hs : s.script = .empty) :
    Recorded (x.dispatch? s) x.Gives s (x.perform s) := by
  cases x with
  | installHook hook =>
    exact (Server.silent_genuineAnswer (c := .installHook hook) nofun).recorded s
  | use u =>
    cases u with
    | request r hr => exact r.recorded hr.1 hs
    | register c k slot => exact (c.silent_register k slot).recorded s
    | drop c => exact c.silent_drop.recorded s
    | beside f hf => exact .done (hx s.tables)

end Dealing

namespace System.Stretch

variable (st : (dealings β).Stretch)

/-- The variable for which the stretch dispatches. -/
def dispatch? : Option (NodeId × TransitionKind) :=
  if st.answered.isEmpty then Dealing.dispatch? st.before st.request else none

/-- How the callback has failed on which the stretch goes on. -/
def fault? : Option Fault := st.answered.getLast?.bind fun e => e.question.fault? e.answer

/-- The announcement that the stretch makes. -/
def announcement? : Option Entry := st.dispatch?.map st.before.space.announcement

/-- The report that the stretch makes. -/
def report? : Option Entry := st.fault?.map Entry.fault

end System.Stretch

/-- What a stretch tells of the trail. -/
structure Trailed (st : (dealings β).Stretch) : Prop where
  /-- It makes its announcement or its report, and no other line of the trail. -/
  writes : GoesOn (st.announcement?.toList ++ st.report?.toList) st.before.journal st.after.journal
  /-- Whoever is asked before a transition is the callback that is registered for the variable, and
  finds the announcement at the end of the journal. -/
  asks : ∀ q t k, st.outcome = .ask q t k → q.IsTransition → ∃ v slot session,
    st.dispatch? = some v ∧ st.before.tables.registry.slot? v.1 v.2 = some slot ∧
    q = slot.call session ∧ t.journal = st.before.journal ++ [st.before.space.announcement v]
  /-- With an answer the request is concluded. -/
  concludes : ∀ e, st.answered.getLast? = some e →
    Concludes (Dealing.Gives st.request) e.answer st.before st.outcome

private theorem System.Stretch.Genuine.trailed {st : (dealings β).Stretch} (h : st.Genuine)
    (hs : st.start.script = .empty) (hd : Dealing.Discreet st.request) : Trailed st := by
  obtain ⟨serial, x, s, es, before, y⟩ := st
  obtain ⟨hafter, hbefore⟩ := h
  change After (x.perform s) es y at hafter
  change before = found s es at hbefore
  have hx : Recorded (x.dispatch? s) x.Gives s (x.perform s) := Dealing.recorded hd hs
  generalize x.perform s = z at hx hafter
  cases hx with
  | done ht =>
    obtain ⟨rfl, rfl⟩ := Interaction.after_done_iff.1 hafter
    subst hbefore
    refine ⟨?_, fun _ _ _ he => (nomatch he), fun _ he => nomatch he⟩
    show GoesOn (((x.dispatch? before).map before.space.announcement).toList ++ []) _ _
    rw [List.append_nil]
    exact ht
  | asks ht hq hk =>
    rcases Interaction.after_ask_iff.1 hafter with ⟨rfl, rfl⟩ | ⟨r, t, fs, rfl, hrest⟩
    · subst hbefore
      refine ⟨?_, fun q t k he hask => ?_, fun _ he => nomatch he⟩
      · show GoesOn (((x.dispatch? before).map before.space.announcement).toList ++ []) _ _
        rw [List.append_nil]
        exact ht ▸ .append _ _
      · cases he
        obtain ⟨v, slot, session, hv, hslot, hcall⟩ := hq hask
        rw [hv] at ht
        exact ⟨v, slot, session, hv, hslot, hcall, ht⟩
    · have hconcludes := hk r t
      obtain ⟨rfl, rfl⟩ := Interaction.after_of_ends hconcludes.ends hrest
      have ht : before = t := hbefore
      subst ht
      refine ⟨hconcludes.writes, fun q' t' k' he => ?_, fun e he => ?_⟩
      · obtain ⟨a, u, hdone⟩ := hconcludes.ends
        cases hdone.symm.trans he
      · cases he
        exact hconcludes

/-! ### Runs -/

namespace System.Run

/-- What holds where a stretch of a run begins holds where its request was made. -/
theorem start_of_before {S : Signature} {σ : Type} {Y : System S σ} {P : σ → Prop} {s : σ}
    {trace : List Y.Stretch} {d : Y.Config} (h : Run (.idle Y s) trace d)
    (hb : ∀ st ∈ trace, P st.before) : ∀ st ∈ trace, P st.start := by
  have hall : ∀ st ∈ trace, P st.start := by
    refine h.invariant (P := fun old _ => ∀ f ∈ old, P f.start) (fun _ hf => nomatch hf) ?_
    rintro fore st rest rfl - hfore f hf
    rcases List.mem_append.1 hf with hf | hf
    · exact hfore f hf
    · rw [List.mem_singleton.1 hf]
      rcases h.origin with ⟨-, he⟩ | ⟨g, hg, e, resume, -, rfl⟩
      · exact he ▸ hb st (by simp)
      · exact hfore g hg
  exact hall

end System.Run

section

variable {ambient : Ambient} {trace : List (dealings β).Stretch} {d : (dealings β).Config}

/-- Every stretch of a run tells of the trail. -/
theorem System.Run.trailed (h : System.Run (.idle (dealings β) (.create ambient)) trace d)
    (hd : ∀ st ∈ trace, Dealing.Discreet st.request) : ∀ st ∈ trace, Trailed st := by
  have hscript : ∀ st ∈ trace, st.before.script = .empty := by
    intro st hst
    obtain ⟨fore, rest, rfl⟩ := List.append_of_mem hst
    exact h.script_before rfl
  intro st hst
  have hstart := h.start_of_before (P := fun s => s.script = .empty) hscript st hst
  exact (h.genuine hst).trailed hstart (hd st hst)

/-- Lines of the trail that are written, and then others, are the lines of the trail. -/
theorem GoesOn.filter_isTrail {lines j j' : List Entry} (h : GoesOn lines j j')
    (hlines : ∀ e ∈ lines, e.isTrail = true) :
    ∃ new, j' = j ++ new ∧ new.filter Entry.isTrail = lines := by
  obtain ⟨rest, rfl, hrest⟩ := h
  refine ⟨lines ++ rest, rfl, ?_⟩
  have hnone : rest.filter Entry.isTrail = [] :=
    List.filter_eq_nil_iff.2 fun e he => by simp [hrest e he]
  rw [List.filter_append, List.filter_eq_self.2 hlines, hnone, List.append_nil]

/-- What a stretch announces and reports are lines of the trail. -/
theorem System.Stretch.isTrail_of_mem {st : (dealings β).Stretch} {e : Entry}
    (he : e ∈ st.announcement?.toList ++ st.report?.toList) : e.isTrail = true := by
  rcases List.mem_append.1 he with he | he
  · obtain ⟨v, -, rfl⟩ := Option.map_eq_some_iff.1 (Option.mem_toList.1 he)
    rw [Entry.isTrail, AddressSpace.isDispatch_announcement, Bool.true_or]
  · obtain ⟨f, -, rfl⟩ := Option.map_eq_some_iff.1 (Option.mem_toList.1 he)
    rw [Entry.isTrail, Entry.isFault_fault, Bool.or_true]

/-- The trail consists of the announcements and reports of the stretches, in order. -/
theorem System.Run.trail (h : System.Run (.idle (dealings β) (.create ambient)) trace d)
    (hd : ∀ st ∈ trace, Dealing.Discreet st.request) :
    ∃ lines, d.state.journal = ambient.journal ++ lines ∧ lines.filter Entry.isTrail =
      trace.flatMap fun st => st.announcement?.toList ++ st.report?.toList := by
  refine h.invariant (P := fun fore s => ∃ lines, s.journal = ambient.journal ++ lines ∧
    lines.filter Entry.isTrail =
      fore.flatMap fun st => st.announcement?.toList ++ st.report?.toList)
    ⟨[], (List.append_nil _).symm, rfl⟩ ?_
  rintro fore st rest rfl - ⟨lines, hjournal, hlines⟩
  have hwrites := (h.trailed hd st (by simp)).writes
  obtain ⟨new, hafter, hnew⟩ :=
    hwrites.filter_isTrail fun e he => System.Stretch.isTrail_of_mem he
  refine ⟨lines ++ new, ?_, ?_⟩
  · rw [hafter, hjournal, List.append_assoc]
  · rw [List.filter_append, hlines, hnew, List.flatMap_append, List.flatMap_singleton]

/-- A journal only grows in the course of a run. -/
theorem System.Run.journal_prefix {c : (dealings β).Config} (h : System.Run c trace d)
    (ht : ∀ st ∈ trace, Trailed st) : c.state.journal <+: d.state.journal := by
  induction h with
  | nil c => exact List.prefix_refl _
  | @cons c m d st trace hs hr ih =>
    have hst := (ht st List.mem_cons_self).writes.prefix_append
    have hgrows : c.state.journal <+: m.state.journal := by
      rw [← hs.before_eq, ← hs.after_eq]
      exact (List.prefix_append _ _).trans hst
    exact hgrows.trans (ih fun f hf => ht f (List.mem_cons_of_mem _ hf))

/-- What is kept of a journal are the lines up to a level. -/
def Entry.isKept (limit : Level) (e : Entry) : Bool := e.level.rank ≤ limit.rank

-- Lines of one kind are among the lines of the trail, and are what the stretches write of that
-- kind.
private theorem filter_of_trail {lines : List Entry} {limit : Level} {p : Entry → Bool}
    {tells : (dealings β).Stretch → Option Entry}
    (hlines : lines.filter Entry.isTrail =
      trace.flatMap fun st => st.announcement?.toList ++ st.report?.toList)
    (hp : ∀ e, p e = true → e.isTrail = true)
    (hst : ∀ st : (dealings β).Stretch, (st.announcement?.toList ++ st.report?.toList).filter
      (fun e => e.isKept limit && p e) = (tells st).toList) :
    (lines.filter (·.isKept limit)).filter p = trace.filterMap tells := by
  have hsub : (lines.filter (·.isKept limit)).filter p =
      (lines.filter Entry.isTrail).filter fun e => e.isKept limit && p e := by
    rw [List.filter_filter, List.filter_filter]
    refine List.filter_congr fun e _ => ?_
    cases hpe : p e with
    | false => simp
    | true => simp [hp e hpe]
  rw [hsub, hlines, List.filter_flatMap, List.filterMap_eq_flatMap_toList]
  congr 1
  funext st
  exact hst st

/-- How a stretch of a run is placed in it. -/
structure Placed (ambient : Ambient) (fore : List (dealings β).Stretch) (st : (dealings β).Stretch)
    (rest : List (dealings β).Stretch) (d : (dealings β).Config) : Prop extends Trailed st where
  /-- What is written stays, and later lines come after it. -/
  stays : st.after.journal <+: d.state.journal
  /-- A request that goes on with an answer is over then, and leaves those alone that wait. -/
  waits : ∀ e, st.answered.getLast? = some e → ∃ f n waiting, st.Resumes f ∧
    System.Run (.idle (dealings β) (.create ambient)) fore ⟨st.before, n, f :: waiting⟩ ∧
    System.Run ⟨st.after, n, waiting⟩ rest d

private theorem System.Run.placed {fore rest : List (dealings β).Stretch}
    {st : (dealings β).Stretch}
    (h : System.Run (.idle (dealings β) (.create ambient)) (fore ++ st :: rest) d)
    (ht : ∀ f ∈ fore ++ st :: rest, Trailed f) : Placed ambient fore st rest d := by
  have hst : Trailed st := ht st (by simp)
  obtain ⟨c, hfore, hrest⟩ := h.split
  cases hrest with
  | @cons _ m _ _ _ hs hr =>
    refine ⟨hst, ?_, fun e he => ?_⟩
    · rw [hs.after_eq]
      exact hr.journal_prefix fun f hf => ht f (by simp [hf])
    · obtain ⟨a, t, hdone⟩ := (hst.concludes e he).ends
      cases hs with
      | request s n waiting r => cases he
      | answer n waiting f x resume ho =>
        have hsettle := System.Stretch.settle_of_done (f.next x resume) hdone n waiting
        have hafter : (f.next x resume).after = t := congrArg Interaction.state hdone
        rw [hsettle, ← hafter] at hr
        exact ⟨f, n, waiting, ⟨x, resume, ho, rfl⟩, hfore, hr⟩

/-- The trail of a run, as far as a journal keeps it that leaves no announcements out. What is
written that looks like the announcement of a dispatch is, in order, one announcement for each
dispatch, whether it was made by hand or by a hook that leads to the registry, and whether there is
a callback or not. It shows the variable and the name that the node of the condition shows, or the
identifier if there is no such node. The callback that is asked finds it at the end of the journal,
so that whatever is written while the callback is at work comes later. What looks like the report of
a failed callback is, in order, one report for each failure. It is written before the dispatch gives
an internal error. Nothing else is changed by that, and those who wait are not concerned: each
dispatch gives the status that the answer of its own callback stands for.

Whoever does something beside the runtime is supposed not to write lines that look like these.
Handles, the session store and access control do not. -/
theorem trail_of_run (h : System.Run (.idle (dealings β) (.create ambient)) trace d)
    (hd : ∀ st ∈ trace, Dealing.Discreet st.request) {limit : Level}
    (hlimit : Level.info.rank ≤ limit.rank) :
    (∃ lines, d.state.journal = ambient.journal ++ lines ∧
      (lines.filter (·.isKept limit)).filter Entry.isDispatch =
        trace.filterMap System.Stretch.announcement? ∧
      (lines.filter (·.isKept limit)).filter Entry.isFault =
        trace.filterMap System.Stretch.report?) ∧
    (∀ fore st rest, trace = fore ++ st :: rest → Placed ambient fore st rest d) ∧
    ∀ x : Errand β, Action.Discreet x.perform := by
  have hinfo (sp : AddressSpace β) (v : NodeId × TransitionKind) :
      (sp.announcement v).isKept limit = true := decide_eq_true hlimit
  have herror (f : Fault) : (Entry.fault f).isKept limit = true :=
    decide_eq_true (Nat.le_trans (show Level.error.rank ≤ Level.info.rank by decide) hlimit)
  refine ⟨?_, fun fore st rest he => ?_, Errand.discreet⟩
  · obtain ⟨lines, hjournal, hlines⟩ := h.trail hd
    refine ⟨lines, hjournal, filter_of_trail hlines (fun e he => ?_) fun st => ?_,
      filter_of_trail hlines (fun e he => ?_) fun st => ?_⟩
    · rw [Entry.isTrail, he, Bool.true_or]
    · unfold System.Stretch.announcement? System.Stretch.report?
      cases st.dispatch? <;> cases st.fault? <;>
        simp [hinfo, AddressSpace.isDispatch_announcement, Entry.isDispatch_fault]
    · rw [Entry.isTrail, he, Bool.or_true]
    · unfold System.Stretch.announcement? System.Stretch.report?
      cases st.dispatch? <;> cases st.fault? <;>
        simp [herror, AddressSpace.isFault_announcement, Entry.isFault_fault]
  · subst he
    exact h.placed (h.trailed hd)

end

/-- A client acknowledges a condition, and its callback is asked. -/
def guardAsked : (dealings Bool).Stretch :=
  .first _ 2 (.use acknowledgeReserved) callbackRegistered.after

/-- The callback dispatches for a condition that is not there. -/
def strangerDispatched : (dealings Bool).Stretch :=
  .first _ 3 (.use (.request (.dispatch .confirmed (.numeric 1 7) none)
    ⟨trivial, fun _ h => nomatch h⟩)) guardAsked.after

/-- Then it fails. -/
def guardFails : Exchange (upcalls Bool) (Server Bool) :=
  ⟨.transition true none .serverObject false, guardAsked.after, .fault (.text "boom"),
    strangerDispatched.after⟩

/-- The acknowledgement is announced under the name of the condition, and after that what the
callback dispatches, under an identifier. The failure of the callback is reported. -/
theorem trail_guardFails :
    ∃ trace d, System.Run (.idle (dealings Bool) (.create (.start ⟨0, 0⟩))) trace d ∧
      (d.state.journal.filter (·.isKept .info)).filter Entry.isDispatch =
        [⟨.info, "[A&C] AckedState=true | condition=Overheat"⟩,
          ⟨.info, "[A&C] ConfirmedState=true | condition=ns=1;i=7"⟩] ∧
      (d.state.journal.filter (·.isKept .info)).filter Entry.isFault =
        [⟨.error, "Transition callback fault: boom"⟩] := by
  obtain ⟨resume, hask⟩ : ∃ resume, guardAsked.outcome =
      .ask guardFails.question guardFails.asked resume := ⟨_, rfl⟩
  let trace := [conditionCreated, callbackRegistered, guardAsked, strangerDispatched,
    guardAsked.next guardFails resume]
  obtain ⟨d, h⟩ : ∃ d, System.Run (.idle (dealings Bool) (.create (.start ⟨0, 0⟩))) trace d :=
    ⟨_, .cons (.request_of_ends ⟨_, _, rfl⟩ 0 []) <| .cons (.request_of_ends ⟨_, _, rfl⟩ 1 []) <|
      .cons (.request_of_ask hask 2 []) <| .cons (.request_of_ends ⟨_, _, rfl⟩ 3 _) <|
      .cons (.answer 4 [] guardAsked guardFails resume hask) (.nil _)⟩
  have hd : ∀ st ∈ trace, Dealing.Discreet st.request := by
    simp only [trace, List.mem_cons, List.not_mem_nil, or_false]
    rintro st (rfl | rfl | rfl | rfl | rfl) <;> trivial
  obtain ⟨⟨lines, hjournal, hdispatches, hfaults⟩, -⟩ :=
    trail_of_run h hd (show Level.info.rank ≤ Level.info.rank by decide)
  have hlines : d.state.journal = lines := hjournal
  refine ⟨trace, d, h, ?_⟩
  rw [hlines]
  exact ⟨hdispatches, hfaults⟩

end AlarmServer
