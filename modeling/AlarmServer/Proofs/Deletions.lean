import AlarmServer.Proofs.Custody
import Mathlib.Data.List.Nodup

/-!
# Deletions

What comes into being in a run, what is given up and what is to be deleted are lists that can be
compared. Numbers are used once. Every handle that comes into being is in one place, and the
deletions are those of the owners that are dropped. So a condition is deleted once at most, when the
value that owns it is dropped, and not if it was released before.
-/

namespace AlarmServer

variable {β : Type}

namespace Handling

variable (trace : List (handlings β).Stretch)

/-- The handles that come into being, with their numbers. -/
def made : List (Nat × Condition) := trace.filterMap (·.makes?)

/-- The handles that are dropped. -/
def discarded : List (Nat × Condition) := trace.filterMap (·.discards?)

/-- The handles that are released. -/
def released : List (Nat × Condition) := trace.filterMap (·.releases?)

/-- The handles that creations have in hand. -/
def inHand : List (Nat × Condition) := trace.filterMap (·.keeps?)

/-- The deletions that are asked for. -/
def deletions : List (Nat × NodeId × Bool) := trace.filterMap (·.asksDeletion?)

end Handling

section

open Handling

variable {t : Tables β} {trace : List (handlings β).Stretch} {d : (handlings β).Config}

private theorem sum_map_add {ι : Type} (f g : ι → Nat) (l : List ι) :
    (l.map fun i => f i + g i).sum = (l.map f).sum + (l.map g).sum := by
  induction l with
  | nil => rfl
  | cons i l ih =>
    simp only [List.map_cons, List.sum_cons, ih]
    omega

private theorem sum_makes (trace : List (handlings β).Stretch) (p : Nat × Condition) :
    (trace.map fun st => tally st.makes? p).sum = (made trace).count p := sum_tally _ p trace

private theorem sum_numbers (trace : List (handlings β).Stretch) (n : Nat) :
    (trace.map fun st => tally (st.makes?.map Prod.fst) n).sum =
      ((made trace).map Prod.fst).count n := by
  rw [made, List.map_filterMap]
  exact sum_tally _ n trace

private theorem sum_gone (trace : List (handlings β).Stretch) (p : Nat × Condition) :
    (trace.map fun st => tally st.discards? p + tally st.releases? p).sum =
      (discarded trace).count p + (released trace).count p := by
  rw [sum_map_add, sum_tally, sum_tally]
  rfl

private theorem holding_start (n : Nat) : (Holdings.start t).holding n = none := rfl

private theorem nodup_made (h : System.Run (.idle (handlings β) (.start t)) trace d) :
    ((made trace).map Prod.fst).Nodup := by
  rw [List.nodup_iff_count_le_one]
  intro n
  have haccount := h.account_le (·.spare n) (fun st => tally (st.makes?.map Prod.fst) n)
    (fun _ => 0) (System.carries_number n) fun st hst => (h.genuine hst).regular.numbered n
  have hstart : (Holdings.start t).spare n = 1 := rfl
  have hnothing : (trace.map fun _ => 0).sum = 0 := by simp
  rw [sum_numbers, hnothing, hstart] at haccount
  omega

private theorem eq_of_made (h : System.Run (.idle (handlings β) (.start t)) trace d)
    {p q : Nat × Condition} (hp : p ∈ made trace) (hq : q ∈ made trace) (he : p.1 = q.1) : p = q :=
  List.inj_on_of_nodup_map (nodup_made h) hp hq he

private theorem count_made_le (h : System.Run (.idle (handlings β) (.start t)) trace d)
    (p : Nat × Condition) : (made trace).count p ≤ 1 :=
  List.nodup_iff_count_le_one.1 (nodup_made h).of_map p

section

variable {fore rest : List (handlings β).Stretch} {st : (handlings β).Stretch}
  (h : System.Run (.idle (handlings β) (.start t)) (fore ++ st :: rest) d)

include h

private theorem custody_before (p : Nat × Condition) :
    tally (st.before.holding p.1) p + tally st.kept? p ≤ (made fore).count p := by
  have haccount := h.account_before (fun s => tally (s.holding p.1) p)
    (fun st => tally st.discards? p + tally st.releases? p) (fun st => tally st.makes? p)
    (System.carries_handle p) fun f hf =>
      (h.genuine (List.mem_append_left _ hf)).regular.balanced p
  rw [sum_gone, sum_makes, holding_start, tally_none] at haccount
  omega

private theorem number_before (n : Nat) :
    st.before.spare n + tally st.awaited? n + ((made fore).map Prod.fst).count n ≤ 1 := by
  have haccount := h.account_before (·.spare n) (fun st => tally (st.makes?.map Prod.fst) n)
    (fun _ => 0) (System.carries_number n) fun f hf =>
      (h.genuine (List.mem_append_left _ hf)).regular.numbered n
  have hstart : (Holdings.start t).spare n = 1 := rfl
  have hnothing : (fore.map fun _ => 0).sum = 0 := by simp
  rw [sum_numbers, hnothing, hstart] at haccount
  omega

private theorem free_before : st.Free := by
  intro n hn
  cases hheld : st.before.holding n with
  | none => rfl
  | some p =>
    obtain rfl : p.1 = n := Holdings.fst_of_holding hheld
    have hcustody := custody_before h p
    rw [hheld, tally_self] at hcustody
    have hmade : p ∈ made fore := List.count_pos_iff.1 (by omega)
    have hused : 0 < ((made fore).map Prod.fst).count p.1 :=
      List.count_pos_iff.2 (List.mem_map.2 ⟨p, hmade, rfl⟩)
    have hnumber := number_before h p.1
    rcases hn with hspare | hawaited | hkept
    · omega
    · rw [hawaited, tally_self] at hnumber
      omega
    · obtain ⟨q, hq, he⟩ := Option.map_eq_some_iff.1 hkept
      obtain ⟨d', hfore, -⟩ := h.split
      have hcustody' := custody_before h q
      rw [hq, tally_self] at hcustody'
      have hmade' : q ∈ made fore := List.count_pos_iff.1 (by omega)
      obtain rfl : p = q := eq_of_made hfore hmade hmade' he.symm
      rw [hq, tally_self] at hcustody
      have hone := count_made_le hfore p
      omega

end

/-- Every handle that comes into being is in one place: it is held, or a creation that waits has it
in hand, or it was dropped or released. -/
theorem custody_of_run (h : System.Run (.idle (handlings β) (.start t)) trace d)
    (p : Nat × Condition) :
    tally (d.state.holding p.1) p + (inHand d.waiting).count p +
      ((discarded trace).count p + (released trace).count p) = (made trace).count p := by
  have haccount := h.account (fun s => tally (s.holding p.1) p)
    (fun st => tally st.discards? p + tally st.releases? p) (fun st => tally st.makes? p)
    (System.carries_handle p) fun st hst => by
      obtain ⟨fore, rest, rfl⟩ := List.append_of_mem hst
      have hregular := (h.genuine hst).regular
      exact Nat.le_antisymm (hregular.balanced p) (hregular.complete (free_before h) p)
  have hhand : (d.waiting.map fun f => tally f.keeps? p).sum = (inHand d.waiting).count p :=
    sum_tally _ p d.waiting
  rw [sum_gone, sum_makes, hhand, holding_start, tally_none] at haccount
  omega

private theorem deletions_eq (h : System.Run (.idle (handlings β) (.start t)) trace d) :
    deletions trace = ((discarded trace).filter fun p => p.2.ownsNode).map
      fun p => (p.1, p.2.id, true) := by
  have hasks : deletions trace = trace.filterMap (·.owesDeletion?) :=
    List.filterMap_congr fun st hst => (h.genuine hst).regular.asks
  rw [hasks, discarded, List.filter_filterMap, List.map_filterMap]
  rfl

private theorem mem_made_of_discarded (h : System.Run (.idle (handlings β) (.start t)) trace d)
    {p : Nat × Condition} (hp : p ∈ discarded trace) : p ∈ made trace := by
  have hpos := List.count_pos_iff.2 hp
  have hcustody := custody_of_run h p
  exact List.count_pos_iff.1 (by omega)

private theorem mem_made_of_released (h : System.Run (.idle (handlings β) (.start t)) trace d)
    {p : Nat × Condition} (hp : p ∈ released trace) : p ∈ made trace := by
  have hpos := List.count_pos_iff.2 hp
  have hcustody := custody_of_run h p
  exact List.count_pos_iff.1 (by omega)

private theorem place_of_made (h : System.Run (.idle (handlings β) (.start t)) trace d)
    {p : Nat × Condition} (hp : p ∈ made trace) : p ∈ discarded trace ∨ p ∈ released trace ∨
      p ∈ inHand d.waiting ∨ d.state.holding p.1 = some p := by
  have hpos := List.count_pos_iff.2 hp
  have hcustody := custody_of_run h p
  by_cases hdiscarded : p ∈ discarded trace
  · exact .inl hdiscarded
  · by_cases hreleased : p ∈ released trace
    · exact .inr (.inl hreleased)
    · by_cases hhand : p ∈ inHand d.waiting
      · exact .inr (.inr (.inl hhand))
      · rw [List.count_eq_zero.2 hdiscarded, List.count_eq_zero.2 hreleased,
          List.count_eq_zero.2 hhand] at hcustody
        refine .inr (.inr (.inr ?_))
        by_cases hheld : d.state.holding p.1 = some p
        · exact hheld
        · rw [tally, if_neg hheld] at hcustody
          omega

private theorem not_discarded_of_released
    (h : System.Run (.idle (handlings β) (.start t)) trace d) {p : Nat × Condition}
    (hp : p ∈ released trace) : p ∉ discarded trace := by
  intro hdiscarded
  have hpos := List.count_pos_iff.2 hp
  have hpos' := List.count_pos_iff.2 hdiscarded
  have hcustody := custody_of_run h p
  have hone := count_made_le h p
  omega

private theorem discarded_of_deletions (h : System.Run (.idle (handlings β) (.start t)) trace d)
    {del : Nat × NodeId × Bool} (hdel : del ∈ deletions trace) :
    (del.1, ⟨del.2.1, true⟩) ∈ discarded trace := by
  rw [deletions_eq h] at hdel
  obtain ⟨⟨n, id, owns⟩, hp, rfl⟩ := List.mem_map.1 hdel
  obtain ⟨hdiscarded, howns⟩ := List.mem_filter.1 hp
  obtain rfl : owns = true := (Bool.and_eq_true_iff.1 howns).1
  exact hdiscarded

private theorem makes?_of_discards? {st : (handlings β).Stretch} {p : Nat × Condition}
    (hp : st.discards? = some p) : st.makes? = none := by
  obtain ⟨serial, x, start, answered, before, outcome⟩ := st
  cases x with
  | create x =>
    change (if answered.getLast?.any Exchange.refusesWrite = true then _ else none) = _ at hp
    show (answered.getLast?.bind Exchange.created?).map _ = none
    cases hlast : answered.getLast? with
    | none => rfl
    | some w =>
      rw [hlast] at hp
      cases hw : w.refusesWrite with
      | false => simp [hw] at hp
      | true =>
        have hwrite : RuntimeCall.isWrite w.question = true := (Bool.and_eq_true_iff.1 hw).1
        simp [Exchange.created?_of_write hwrite]
  | drop n =>
    change (if answered.isEmpty = true then _ else none) = _ at hp
    cases answered with
    | nil => rfl
    | cons e es => cases hp
  | _ => cases hp

private theorem made_of_asksDeletion {fore rest : List (handlings β).Stretch}
    {st : (handlings β).Stretch}
    (h : System.Run (.idle (handlings β) (.start t)) (fore ++ st :: rest) d) {n : Nat}
    {id : NodeId} {withReferences : Bool} (hst : st.asksDeletion? = some (n, id, withReferences)) :
    withReferences = true ∧ (n, ⟨id, true⟩) ∈ made fore := by
  rw [(h.genuine (by simp)).regular.asks] at hst
  obtain ⟨p, hp, he⟩ := Option.map_eq_some_iff.1 hst
  obtain ⟨hdiscards, howns⟩ := Option.filter_eq_some_iff.1 hp
  obtain ⟨m, i, owns⟩ := p
  obtain rfl : owns = true := (Bool.and_eq_true_iff.1 howns).1
  cases he
  refine ⟨rfl, ?_⟩
  rw [← List.singleton_append, ← List.append_assoc] at h
  obtain ⟨d', hfore, -⟩ := h.split
  have hmade := mem_made_of_discarded hfore
    (List.mem_filterMap.2 ⟨st, List.mem_concat_self, hdiscards⟩)
  rw [made, List.filterMap_append, List.mem_append] at hmade
  rcases hmade with hmade | hmade
  · exact hmade
  · simp [makes?_of_discards? hdiscards] at hmade

private theorem deletions_filter (h : System.Run (.idle (handlings β) (.start t)) trace d)
    {n : Nat} {id : NodeId} (hmade : (n, ⟨id, true⟩) ∈ made trace) :
    (deletions trace).filter (fun del => del.1 = n) =
      if id.isNull = false ∧ (n, ⟨id, true⟩) ∈ discarded trace then [(n, id, true)] else [] := by
  have hone : (discarded trace).count (n, ⟨id, true⟩) ≤ 1 := by
    have hcustody := custody_of_run h (n, ⟨id, true⟩)
    have hmade := count_made_le h (n, ⟨id, true⟩)
    omega
  have hself (p : Nat × Condition) (hp : p ∈ discarded trace) :
      (decide (p.1 = n) && p.2.ownsNode) = (!id.isNull && p == (n, ⟨id, true⟩)) := by
    by_cases hn : p.1 = n
    · have heq : p = (n, ⟨id, true⟩) := eq_of_made h (mem_made_of_discarded h hp) hmade hn
      rw [heq]
      simp [Condition.ownsNode]
    · have hne : p ≠ (n, ⟨id, true⟩) := fun he => hn (by rw [he])
      simp [hn, hne]
  have hfilter : (discarded trace).filter (fun p => decide (p.1 = n) && p.2.ownsNode) =
      if id.isNull = false then
        List.replicate ((discarded trace).count (n, ⟨id, true⟩)) (n, ⟨id, true⟩)
      else [] := by
    rw [List.filter_congr hself]
    cases id.isNull with
    | false => simp [List.filter_beq]
    | true => simp
  rw [deletions_eq h, List.filter_map, List.filter_filter]
  show ((discarded trace).filter fun p => decide (p.1 = n) && p.2.ownsNode).map _ = _
  rw [hfilter]
  cases hnull : id.isNull with
  | true => simp
  | false =>
    by_cases hmem : (n, ⟨id, true⟩) ∈ discarded trace
    · have hcount : (discarded trace).count (n, ⟨id, true⟩) = 1 := by
        have hpos := List.count_pos_iff.2 hmem
        omega
      simp [hcount, hmem]
    · simp [List.count_eq_zero.2 hmem, hmem]

/-- Where handles are created, wrapped, borrowed, turned into conditions, released and dropped in
any order, and whatever the runtime answers: each condition that is created gets a number of its
own, and is owned by a value until that is dropped or released. At most one deletion is asked for
because of it. One is, with its references, if the value that owns it is dropped, by its holder or
by a creation that fails, and the identifier is not null, and otherwise none. None is asked for
because of a handle that is wrapped, borrowed or released, and each comes after the creation for
which it is asked. What comes of a request that asks for a deletion does not depend on the answer,
so it does not fail because the deletion does. -/
theorem deletions_of_run (h : System.Run (.idle (handlings β) (.start t)) trace d) :
    ((made trace).map Prod.fst).Nodup ∧
    (∀ p ∈ made trace, p ∈ discarded trace ∨ p ∈ released trace ∨ p ∈ inHand d.waiting ∨
      d.state.holding p.1 = some p) ∧
    (∀ n id, (n, ⟨id, true⟩) ∈ made trace →
      (deletions trace).filter (fun del => del.1 = n) =
        if id.isNull = false ∧ (n, ⟨id, true⟩) ∈ discarded trace then [(n, id, true)] else []) ∧
    (∀ n id, (n, ⟨id, false⟩) ∈ made trace → ∀ del ∈ deletions trace, del.1 ≠ n) ∧
    (∀ p ∈ released trace, p ∉ discarded trace ∧ ∀ del ∈ deletions trace, del.1 ≠ p.1) ∧
    (∀ fore st rest, trace = fore ++ st :: rest → ∀ n id withReferences,
      st.asksDeletion? = some (n, id, withReferences) →
        withReferences = true ∧ (n, ⟨id, true⟩) ∈ made fore) ∧
    ∀ st ∈ trace, Unmoved st.outcome := by
  refine ⟨nodup_made h, fun p hp => place_of_made h hp, fun n id hmade => deletions_filter h hmade,
    ?_, ?_, ?_, ?_⟩
  · intro n id hmade del hdel hn
    have hdiscarded := discarded_of_deletions h hdel
    have heq := eq_of_made h hmade (mem_made_of_discarded h hdiscarded) hn.symm
    cases heq
  · intro p hp
    have hnot := not_discarded_of_released h hp
    refine ⟨hnot, fun del hdel hn => ?_⟩
    have hdiscarded := discarded_of_deletions h hdel
    have heq := eq_of_made h (mem_made_of_released h hp) (mem_made_of_discarded h hdiscarded)
      hn.symm
    exact hnot (heq ▸ hdiscarded)
  · rintro fore st rest rfl n id withReferences hst
    exact made_of_asksDeletion h hst
  · exact fun st hst => (h.genuine hst).regular.unmoved

end

/-- The program holds nothing yet. -/
def nothingHeld : Holdings Bool := .start ⟨.empty, .empty, .start ⟨0, 0⟩⟩

/-- An alarm is to be created. -/
def alarmRequested : (handlings Bool).Stretch :=
  .first _ 0 (.create (.alarm .serverObject (.standard "Overheat") none 400)) nothingHeld

/-- The creation of its condition. -/
def alarmCreation : RuntimeCall Bool :=
  .createCondition
    { conditionType := ConditionType.offNormal.node, browseName := .standard "Overheat"
      source := .serverObject, parentReference := none, requestedId := none }

/-- The first write. -/
def alarmEnabling : RuntimeCall Bool :=
  .writeProperty (.numeric 1 1) (.standard TransitionKind.enabled.variableName) (.standard "Id")
    (.boolean true)

/-- The deletion. -/
def alarmDeletion : RuntimeCall Bool := .deleteNode (.numeric 1 1) true

/-- The condition of an alarm is created, the first write is refused, and then so is the deletion.
This one deletion has been asked for. -/
theorem deletions_alarmRefused : ∃ trace d,
    System.Run (.idle (handlings Bool) nothingHeld) trace d ∧
      Handling.made trace = [(0, ⟨.numeric 1 1, true⟩)] ∧
      (Handling.deletions trace).filter (fun del => del.1 = 0) = [(0, .numeric 1 1, true)] := by
  obtain ⟨t₁, k₁, h₁, t₂, k₂, h₂, t₃, k₃, h₃, e, t, hdone⟩ : ∃ t₁ k₁,
      alarmRequested.outcome = .ask alarmCreation t₁ k₁ ∧ ∃ t₂ k₂,
      k₁ (.ok (.numeric 1 1)) t₁ = .ask alarmEnabling t₂ k₂ ∧ ∃ t₃ k₃,
      k₂ (.error .badNotWritable) t₂ = .ask alarmDeletion t₃ k₃ ∧ ∃ e t,
      k₃ (.error .badNodeIdUnknown) t₃ = .done (.error e) t :=
    ⟨_, _, rfl, _, _, rfl, _, _, rfl, _, _, rfl⟩
  let e₁ : Exchange (runtimeCalls Bool) (Holdings Bool) :=
    ⟨alarmCreation, t₁, .ok (.numeric 1 1), t₁⟩
  let e₂ : Exchange (runtimeCalls Bool) (Holdings Bool) :=
    ⟨alarmEnabling, t₂, .error .badNotWritable, t₂⟩
  let e₃ : Exchange (runtimeCalls Bool) (Holdings Bool) :=
    ⟨alarmDeletion, t₃, .error .badNodeIdUnknown, t₃⟩
  let created := alarmRequested.next e₁ k₁
  let refused := created.next e₂ k₂
  have hrun : System.Run (.idle (handlings Bool) nothingHeld)
      [alarmRequested, created, refused, refused.next e₃ k₃] ⟨t, 1, []⟩ :=
    .cons (.request_of_ask h₁ 0 []) <|
    .cons (.answer_of_ask (f := alarmRequested) (e := e₁) h₁ h₂ 1 []) <|
    .cons (.answer_of_ask (f := created) (e := e₂) h₂ h₃ 1 []) <|
    .cons (.answer_of_done (f := refused) (e := e₃) h₃ hdone 1 []) (.nil _)
  obtain ⟨-, -, howners, -⟩ := deletions_of_run hrun
  refine ⟨_, _, hrun, rfl, ?_⟩
  rw [howners 0 (.numeric 1 1) (List.mem_singleton.2 rfl)]
  exact if_pos ⟨rfl, List.mem_singleton.2 rfl⟩

end AlarmServer
