import AlarmServer.Proofs.Handlings

/-!
# Custody of handles

A condition that was created is in the custody of one value at a time until it is dropped or
released: of its creation, while this writes, and then of what is held under a number. Each stretch
passes on what it has got, or gives it up, and asks for a deletion exactly where it drops an owner.
-/

namespace AlarmServer

open Interaction (After found)

variable {β γ : Type}

/-! ### What becomes of values -/

/-- The handle that is held under a number, with that. -/
def Holdings.holding (h : Holdings β) (n : Nat) : Option (Nat × Condition) :=
  (h.held.find? n).map fun v => (n, v.handle)

namespace System.Stretch

variable (st : (handlings β).Stretch)

/-- The number of the value that the stretch is about. -/
def subject : Nat := Handling.subject st.request st.start

/-- The handle that a creation has, once there is a condition. -/
def owned? : Option (Nat × Condition) :=
  (st.answered.head?.bind Exchange.created?).map fun id => (st.subject, ⟨id, true⟩)

/-- The handle that comes into being in the stretch: of a condition that was created, wrapped or
borrowed. -/
def makes? : Option (Nat × Condition) :=
  match st.request with
  | Handling.wrap id => some (st.subject, .wrap id)
  | Handling.borrow n => (st.start.holding n).map fun p => (st.subject, p.2.borrow)
  | _ => (st.answered.getLast?.bind Exchange.created?).map fun id => (st.subject, ⟨id, true⟩)

/-- The handle that is dropped in the stretch, by its holder or because a write was refused. -/
def discards? : Option (Nat × Condition) :=
  match st.request with
  | Handling.create _ => if st.answered.getLast?.any Exchange.refusesWrite then st.owned? else none
  | Handling.drop n => if st.answered.isEmpty then st.start.holding n else none
  | _ => none

/-- The handle that is released in the stretch. -/
def releases? : Option (Nat × Condition) :=
  match st.request with
  | Handling.release n => st.start.holding n
  | _ => none

/-- The deletion that the stretch asks for: the number for which it does, the node, and whether the
references are to be deleted with it. -/
def asksDeletion? : Option (Nat × NodeId × Bool) :=
  match st.outcome with
  | .ask (.deleteNode id withReferences) _ _ => some (st.subject, id, withReferences)
  | _ => none

/-- The handle that a creation has where the stretch asks for a write. -/
def keeps? : Option (Nat × Condition) :=
  match st.outcome with
  | .ask q _ _ => if RuntimeCall.isWrite q then st.owned? else none
  | .done .. => none

/-- The handle that a creation has where the stretch goes on after a write. -/
def kept? : Option (Nat × Condition) :=
  if st.answered.getLast?.any fun e => RuntimeCall.isWrite e.question then st.owned? else none

/-- The number for which the stretch asks for a condition. -/
def awaits? : Option Nat :=
  match st.outcome with
  | .ask q _ _ => if RuntimeCall.isCreation q then some st.subject else none
  | .done .. => none

/-- The number for which a condition was asked for where the stretch goes on. -/
def awaited? : Option Nat :=
  if st.answered.getLast?.any fun e => RuntimeCall.isCreation e.question then some st.subject
  else none

end System.Stretch

/-! ### Counting -/

section

variable [DecidableEq γ]

/-- One if it is the value, and zero otherwise. -/
def tally (o : Option γ) (a : γ) : Nat := if o = some a then 1 else 0

/-- Nothing counts for nobody. -/
@[simp] theorem tally_none (a : γ) : tally none a = 0 := rfl

/-- A thing counts for itself. -/
@[simp] theorem tally_self (a : γ) : tally (some a) a = 1 := if_pos rfl

private theorem tally_some (b a : γ) : tally (some b) a = if b = a then 1 else 0 := by
  simp [tally]

/-- How often something is told in a list. -/
theorem sum_tally [BEq γ] [LawfulBEq γ] {ι : Type} (tells : ι → Option γ) (a : γ) (l : List ι) :
    (l.map fun i => tally (tells i) a).sum = (l.filterMap tells).count a := by
  induction l with
  | nil => rfl
  | cons i l ih =>
    rw [List.map_cons, List.sum_cons, ih]
    cases hi : tells i with
    | none => simp [hi]
    | some b => simp [hi, tally_some, List.count_cons, beq_iff_eq, Nat.add_comm]

end

section

variable {f : (handlings β).Stretch} {e : Exchange (runtimeCalls β) (Holdings β)}
  {resume : (runtimeCalls β).Answer e.question → Holdings β →
    Interaction (runtimeCalls β) (Holdings β) ((handlings β).Result f.request)}

private theorem kept?_next (h : f.outcome = .ask e.question e.asked resume) :
    (f.next e resume).kept? = f.keeps? := by
  unfold System.Stretch.kept? System.Stretch.keeps? System.Stretch.owned?
  rw [h]
  simp only [System.Stretch.next, List.getLast?_concat, Option.any_some]
  split
  · next hw =>
    cases f.answered with
    | nil => simp [Exchange.created?_of_write hw]
    | cons e' es => rfl
  · rfl

private theorem awaited?_next (h : f.outcome = .ask e.question e.asked resume) :
    (f.next e resume).awaited? = f.awaits? := by
  unfold System.Stretch.awaited? System.Stretch.awaits?
  rw [h]
  simp only [System.Stretch.next, List.getLast?_concat, Option.any_some]
  rfl

end

/-- A creation carries its handle over its writes. -/
theorem System.carries_handle (p : Nat × Condition) : System.Carries
    (fun st : (handlings β).Stretch => tally st.keeps? p) (fun st => tally st.kept? p) where
  first _ _ _ := rfl
  next f e resume ho := by rw [kept?_next ho]
  done st r t ho := by
    rw [System.Stretch.keeps?, ho]
    rfl

/-- A creation carries its number over the call that creates the condition. -/
theorem System.carries_number (n : Nat) : System.Carries
    (fun st : (handlings β).Stretch => tally st.awaits? n) (fun st => tally st.awaited? n) where
  first _ _ _ := rfl
  next f e resume ho := by rw [awaited?_next ho]
  done st r t ho := by
    rw [System.Stretch.awaits?, ho]
    rfl

namespace Holdings

private theorem holding_of_held {h h' : Holdings β} (hs : h'.held = h.held) (n : Nat) :
    h'.holding n = h.holding n := by
  rw [holding, hs]
  rfl

/-- A handle is held under its own number. -/
theorem fst_of_holding {h : Holdings β} {n : Nat} {p : Nat × Condition}
    (hp : h.holding n = some p) : p.1 = n := by
  obtain ⟨v, -, rfl⟩ := Option.map_eq_some_iff.1 hp
  rfl

variable (h : Holdings β) (n : Nat) (p : Nat × Condition)

/-- Under the number of a value that is put there is that value. -/
theorem holding_put (v : Held) (m : Nat) :
    (h.put n v).holding m = if m = n then some (n, v.handle) else h.holding m := by
  rw [holding, put, Table.find?_insert]
  by_cases hm : m = n
  · rw [if_pos hm, if_pos hm, hm]
    rfl
  · rw [if_neg hm, if_neg hm]
    rfl

/-- A value that is put under a number is held there; what was held there before is not. -/
theorem tally_put_le (v : Held) : tally ((h.put n v).holding p.1) p ≤
    tally (h.holding p.1) p + tally (some (n, v.handle)) p := by
  rw [holding_put]
  by_cases hm : p.1 = n
  · rw [if_pos hm]
    exact Nat.le_add_left _ _
  · rw [if_neg hm]
    exact Nat.le_add_right _ _

/-- Nothing is lost if a value is put under a number that is free. -/
theorem tally_put (v : Held) (hfree : h.holding n = none) : tally ((h.put n v).holding p.1) p =
    tally (h.holding p.1) p + tally (some (n, v.handle)) p := by
  rw [holding_put]
  by_cases hm : p.1 = n
  · rw [if_pos hm, hm, hfree, tally_none, Nat.zero_add]
  · have hother : some (n, v.handle) ≠ some p := fun he => hm (by rw [← Option.some.inj he])
    rw [if_neg hm, tally, tally, if_neg hother]
    rfl

private theorem holding_remove_self : (h.remove n).holding n = none := by
  rw [holding, remove, Table.find?_erase_self]
  rfl

/-- A value that is taken is held no longer. -/
theorem tally_remove : tally ((h.remove n).holding p.1) p + tally (h.holding n) p =
    tally (h.holding p.1) p := by
  rw [holding, remove, Table.find?_erase]
  by_cases hm : p.1 = n
  · rw [if_pos hm, hm]
    exact Nat.zero_add _
  · have hother : h.holding n ≠ some p := fun he => hm (fst_of_holding he)
    rw [if_neg hm, tally, tally, if_neg hother]
    rfl

end Holdings

/-- One if the number is not given out yet, and zero otherwise. -/
def Holdings.spare (h : Holdings β) (n : Nat) : Nat := if h.next ≤ n then 1 else 0

private theorem Holdings.spare_next (h : Holdings β) : h.spare h.next = 1 := if_pos (Nat.le_refl _)

private theorem Holdings.spare_advance (h : Holdings β) (n : Nat) :
    h.advance.spare n + tally (some h.next) n = h.spare n := by
  simp only [spare, advance, tally_some]
  grind

/-! ### What a stretch does with handles -/

/-- What comes of a request that asks for a deletion does not depend on the answer. -/
def Unmoved {α : Type} : Interaction (runtimeCalls β) (Holdings β) α → Prop
  | .ask (.deleteNode _ _) _ k => ∃ a, ∀ r u, ∃ t, k r u = .done a t
  | _ => True

namespace System.Stretch

variable (st : (handlings β).Stretch)

/-- How many such handles there are where the stretch begins, with those that come into being in
it. -/
def had (p : Nat × Condition) : Nat :=
  tally (st.before.holding p.1) p + tally st.kept? p + tally st.makes? p

/-- How many such handles there are where the stretch stops, with those that are dropped or released
in it. -/
def left (p : Nat × Condition) : Nat :=
  tally (st.after.holding p.1) p + tally st.keeps? p +
    (tally st.discards? p + tally st.releases? p)

/-- Nothing is held under a number that is not given out yet, or that a creation has. -/
def Free : Prop := ∀ n, st.before.spare n = 1 ∨ st.awaited? = some n ∨
  st.kept?.map Prod.fst = some n → st.before.holding n = none

/-- The deletion that is due because of the handle that is dropped in the stretch. -/
def owesDeletion? : Option (Nat × NodeId × Bool) :=
  (st.discards?.filter fun p => p.2.ownsNode).map fun p => (p.1, p.2.id, true)

/-- A stretch makes up for the handles that it takes, and asks for the deletions that it owes. -/
structure Regular : Prop where
  /-- No handle is left that was not there. -/
  balanced : ∀ p, st.left p ≤ st.had p
  /-- No handle is lost that was there. -/
  complete : st.Free → ∀ p, st.had p ≤ st.left p
  /-- A number is given out once, and used once for a handle. -/
  numbered : ∀ n, st.after.spare n + tally st.awaits? n + tally (st.makes?.map Prod.fst) n ≤
    st.before.spare n + tally st.awaited? n
  /-- What is asked to be deleted is the node of an owner that is dropped. -/
  asks : st.asksDeletion? = st.owesDeletion?
  /-- It does not matter whether it is deleted. -/
  unmoved : Unmoved st.outcome

variable {st}

private theorem Regular.of_eq (heq : ∀ p, st.left p = st.had p)
    (hnumbered : ∀ n, st.after.spare n + tally st.awaits? n + tally (st.makes?.map Prod.fst) n ≤
      st.before.spare n + tally st.awaited? n)
    (hasks : st.asksDeletion? = st.owesDeletion?) (hunmoved : Unmoved st.outcome) : st.Regular :=
  ⟨fun p => Nat.le_of_eq (heq p), fun _ p => Nat.le_of_eq (heq p).symm, hnumbered, hasks, hunmoved⟩

/-- Where no number is given out, what comes into being has the number for which a condition was
asked for. -/
theorem numbered_of_same (hnext : st.after.next = st.before.next) (hawaits : st.awaits? = none)
    (hmakes : st.makes? =
      (st.answered.getLast?.bind Exchange.created?).map fun id => (st.subject, ⟨id, true⟩))
    (n : Nat) : st.after.spare n + tally st.awaits? n + tally (st.makes?.map Prod.fst) n ≤
      st.before.spare n + tally st.awaited? n := by
  have hle : tally (st.makes?.map Prod.fst) n ≤ tally st.awaited? n := by
    rw [hmakes, awaited?]
    cases hlast : st.answered.getLast? with
    | none => exact Nat.zero_le _
    | some w =>
      cases hw : w.created? with
      | none => simp [hw]
      | some id => simp [hw, Exchange.creation_of_created hw]
  rw [Holdings.spare, hnext, hawaits]
  exact Nat.add_le_add_left hle _

end System.Stretch

/-! ### Creations -/

section

-- A stretch of a creation.
private def creating (serial : Nat) (x : Creation) (h : Holdings β)
    (es : List (Exchange (runtimeCalls β) (Holdings β))) (before : Holdings β)
    (z : Interaction (runtimeCalls β) (Holdings β) (Except Error Held)) : (handlings β).Stretch :=
  ⟨serial, .create x, h, es, before, z.bind (follow (Holdings.hold h.next))⟩

variable {serial : Nat} {x : Creation} {h before : Holdings β}
  {es : List (Exchange (runtimeCalls β) (Holdings β))}
  {z : Interaction (runtimeCalls β) (Holdings β) (Except Error Held)} {id : NodeId}
  {st : (handlings β).Stretch} (hst : creating serial x h es before z = st)

include hst

private theorem regular_of_creating (hnext : z.state.next = before.next)
    (hbalanced : ∀ p, st.left p ≤ st.had p) (hcomplete : st.Free → ∀ p, st.had p ≤ st.left p)
    (hawaits : st.awaits? = none) (hasks : st.asksDeletion? = st.owesDeletion?)
    (hunmoved : Unmoved st.outcome) : st.Regular := by
  have hafter : st.after.next = z.state.next := by
    subst hst
    cases z with
    | done r t => cases r <;> rfl
    | ask q t k => rfl
  subst hst
  exact ⟨hbalanced, hcomplete, System.Stretch.numbered_of_same (hafter.trans hnext) hawaits rfl,
    hasks, hunmoved⟩

section

variable (hs : Holdings.Same before z.state)

include hs

private theorem left_of_prepares (hz : Prepares Held.handle id z)
    (howned : st.owned? = some (h.next, ⟨id, true⟩)) (hdiscards : st.discards? = none)
    (p : Nat × Condition) :
    st.left p ≤ tally (before.holding p.1) p + tally (some (h.next, ⟨id, true⟩)) p ∧
      (before.holding h.next = none →
        tally (before.holding p.1) p + tally (some (h.next, ⟨id, true⟩)) p ≤ st.left p) := by
  subst hst
  rw [System.Stretch.left, hdiscards]
  cases z with
  | done r t =>
    obtain ⟨v, rfl, hv⟩ := hz
    have hheld : t.held = before.held := hs.held
    rw [← hv, ← Holdings.holding_of_held hheld, ← Holdings.holding_of_held hheld]
    exact ⟨t.tally_put_le h.next p v, fun hfree => Nat.le_of_eq (t.tally_put h.next p v hfree).symm⟩
  | ask q t k =>
    have hheld : t.held = before.held := hs.held
    have hkeeps : (creating serial x h es before (.ask q t k)).keeps? =
        some (h.next, ⟨id, true⟩) := (if_pos hz.1).trans howned
    rw [hkeeps, ← Holdings.holding_of_held hheld]
    exact ⟨Nat.le_refl _, fun _ => Nat.le_refl _⟩

private theorem regular_of_prepares (hz : Prepares Held.handle id z)
    (howned : st.owned? = some (h.next, ⟨id, true⟩)) (hdiscards : st.discards? = none)
    (hhad : ∀ p, st.had p = tally (before.holding p.1) p + tally (some (h.next, ⟨id, true⟩)) p)
    (hfills : st.awaited? = some h.next ∨ st.kept?.map Prod.fst = some h.next) :
    st.Regular := by
  have hasks : st.awaits? = none ∧ st.asksDeletion? = none ∧ Unmoved st.outcome := by
    clear howned hdiscards hhad hfills
    subst hst
    cases z with
    | done r t =>
      obtain ⟨v, rfl, -⟩ := hz
      exact ⟨rfl, rfl, trivial⟩
    | ask q t k =>
      have hwrite := hz.1
      clear hz
      cases q with
      | writeField | writeProperty => exact ⟨rfl, rfl, trivial⟩
      | _ => cases hwrite
  have howes : st.owesDeletion? = none := by
    rw [System.Stretch.owesDeletion?, hdiscards]
    rfl
  have hbefore : st.before = before := by
    subst hst
    rfl
  have hleft := left_of_prepares hst hs hz howned hdiscards
  refine regular_of_creating hst hs.next (fun p => ?_) (fun hfree p => ?_) hasks.1
    (hasks.2.1.trans howes.symm) hasks.2.2
  · rw [hhad]
    exact (hleft p).1
  · rw [hhad]
    have hnone := hfree h.next (.inr hfills)
    rw [hbefore] at hnone
    exact (hleft p).2 hnone

private theorem regular_of_failed (hheld : st.after.held = before.held) (hkeeps : st.keeps? = none)
    (hhad : ∀ p, st.had p = tally (before.holding p.1) p + tally st.discards? p)
    (hawaits : st.awaits? = none) (hasks : st.asksDeletion? = st.owesDeletion?)
    (hunmoved : Unmoved st.outcome) : st.Regular := by
  have hreleases : st.releases? = none := by
    subst hst
    rfl
  have hleft (p : Nat × Condition) : st.left p = st.had p := by
    rw [hhad, System.Stretch.left, Holdings.holding_of_held hheld, hkeeps, hreleases]
    rfl
  exact regular_of_creating hst hs.next (fun p => Nat.le_of_eq (hleft p))
    (fun _ p => Nat.le_of_eq (hleft p).symm) hawaits hasks hunmoved

private theorem regular_of_discards (hz : ∃ err, Discards ⟨id, true⟩ (.error err) z)
    (hdiscards : st.discards? = some (h.next, ⟨id, true⟩))
    (hhad : ∀ p, st.had p = tally (before.holding p.1) p + tally st.discards? p) :
    st.Regular := by
  obtain ⟨err, hz⟩ := hz
  have howes : st.owesDeletion? =
      if (⟨id, true⟩ : Condition).ownsNode then some (h.next, id, true) else none := by
    rw [System.Stretch.owesDeletion?, hdiscards, Option.filter_some]
    dsimp only
    split <;> rfl
  cases z with
  | done r t =>
    obtain ⟨howns, rfl⟩ := hz
    rw [howns] at howes
    subst hst
    exact regular_of_failed rfl hs hs.held rfl hhad rfl howes.symm trivial
  | ask q t k =>
    obtain ⟨howns, rfl, hdone⟩ := hz
    rw [howns] at howes
    subst hst
    refine regular_of_failed rfl hs hs.held rfl hhad rfl howes.symm ⟨.error err, fun r u => ?_⟩
    obtain ⟨t', ht⟩ := hdone r u
    refine ⟨t', ?_⟩
    show (k r u).bind _ = _
    rw [ht]
    rfl

private theorem regular_of_error (hz : ∃ err t, z = .done (.error err) t)
    (hdiscards : st.discards? = none)
    (hhad : ∀ p, st.had p = tally (before.holding p.1) p + tally st.discards? p) :
    st.Regular := by
  obtain ⟨err, t, rfl⟩ := hz
  have howes : st.owesDeletion? = none := by
    rw [System.Stretch.owesDeletion?, hdiscards]
    rfl
  subst hst
  exact regular_of_failed rfl hs hs.held rfl hhad rfl howes.symm trivial

end

section

variable {w : Exchange (runtimeCalls β) (Holdings β)} (hlast : es.getLast? = some w)

include hlast

private theorem discards?_of_last :
    st.discards? = if w.refusesWrite then st.owned? else none := by
  subst hst
  show (if es.getLast?.any _ = true then _ else _) = _
  rw [hlast]
  rfl

private theorem discards?_of_not_write (hw : RuntimeCall.isWrite w.question = false) :
    st.discards? = none := by
  rw [discards?_of_last hst hlast, Exchange.refusesWrite_of_not_write hw]
  rfl

private theorem kept?_of_last :
    st.kept? = if RuntimeCall.isWrite w.question then st.owned? else none := by
  subst hst
  show (if es.getLast?.any _ = true then _ else _) = _
  rw [hlast]
  rfl

private theorem awaited?_of_creation (hc : RuntimeCall.isCreation w.question = true) :
    st.awaited? = some h.next := by
  subst hst
  show (if es.getLast?.any _ = true then _ else _) = _
  rw [hlast]
  exact if_pos hc

private theorem had_of_last (p : Nat × Condition) : st.had p = tally (before.holding p.1) p +
    tally (if RuntimeCall.isWrite w.question then st.owned? else none) p +
      tally (w.created?.map fun id => (h.next, ⟨id, true⟩)) p := by
  have hbefore : st.before = before := by
    subst hst
    rfl
  have hmakes : st.makes? = w.created?.map fun id => (h.next, ⟨id, true⟩) := by
    subst hst
    show (es.getLast?.bind _).map _ = _
    rw [hlast]
    rfl
  rw [System.Stretch.had, hbefore, kept?_of_last hst hlast, hmakes]

private theorem had_of_write (hw : RuntimeCall.isWrite w.question = true) (p : Nat × Condition) :
    st.had p = tally (before.holding p.1) p + tally st.owned? p := by
  rw [had_of_last hst hlast, hw, Exchange.created?_of_write hw]
  rfl

private theorem had_of_not_write (hw : RuntimeCall.isWrite w.question = false)
    (p : Nat × Condition) : st.had p = tally (before.holding p.1) p +
      tally (w.created?.map fun id => (h.next, ⟨id, true⟩)) p := by
  rw [had_of_last hst hlast, hw]
  rfl

end

private theorem owned?_of_created {e : Exchange (runtimeCalls β) (Holdings β)}
    {es' : List (Exchange (runtimeCalls β) (Holdings β))} (hes : es = e :: es')
    (he : e.created? = some id) : st.owned? = some (h.next, ⟨id, true⟩) := by
  subst hst hes
  show (e.created?).map _ = _
  rw [he]
  rfl

-- Once a creation has asked for a condition, it passes the handle on from one stretch to the next.
private theorem regular_of_construction (hz : Construction Held.handle es z) (hne : es ≠ [])
    (hs : Holdings.Same before z.state) : st.Regular := by
  have hlast (e w : Exchange (runtimeCalls β) (Holdings β)) (ws) :
      (e :: (ws ++ [w])).getLast? = some w := by
    rw [← List.cons_append, List.getLast?_concat]
  cases hz with
  | begins hz => exact absurd rfl hne
  | @refused e _ he hno hz =>
    have hw := Exchange.not_write_of_creation he
    have hdiscards := discards?_of_not_write hst (w := e) rfl hw
    refine regular_of_error hst hs hz hdiscards fun p => ?_
    rw [had_of_not_write hst (w := e) rfl hw, hno, hdiscards]
    rfl
  | @created e id _ he hz =>
    have hc := Exchange.creation_of_created he
    have hw := Exchange.not_write_of_creation hc
    refine regular_of_prepares hst hs hz (owned?_of_created hst rfl he)
      (discards?_of_not_write hst (w := e) rfl hw) (fun p => ?_)
      (.inl (awaited?_of_creation hst (w := e) rfl hc))
    rw [had_of_not_write hst (w := e) rfl hw, he]
    rfl
  | @written e id ws w _ he hw hok hz =>
    have howned := owned?_of_created hst rfl he
    have hkept : st.kept?.map Prod.fst = some h.next := by
      rw [kept?_of_last hst (hlast e w ws), hw, if_pos rfl, howned]
      rfl
    have hdiscards : st.discards? = none := by
      rw [discards?_of_last hst (hlast e w ws), Exchange.refusesWrite, hok, Bool.and_false]
      rfl
    refine regular_of_prepares hst hs hz howned hdiscards (fun p => ?_) (.inr hkept)
    rw [had_of_write hst (hlast e w ws) hw, howned]
  | @failed e id ws w _ he hw hno hz =>
    have howned := owned?_of_created hst rfl he
    have hdiscards : st.discards? = st.owned? := by
      rw [discards?_of_last hst (hlast e w ws), Exchange.refusesWrite, hw, hno, Bool.and_self,
        if_pos rfl]
    refine regular_of_discards hst hs hz (hdiscards.trans howned) fun p => ?_
    rw [had_of_write hst (hlast e w ws) hw, hdiscards]
  | @discarded e id ws w _ hq hz =>
    have hw : RuntimeCall.isWrite w.question = false := by
      rw [hq]
      rfl
    have hcreated : w.created? = none := by
      apply Exchange.created?_of_not_creation
      rw [hq]
      rfl
    have hdiscards := discards?_of_not_write hst (hlast e w ws) hw
    refine regular_of_error hst hs hz hdiscards fun p => ?_
    rw [had_of_not_write hst (hlast e w ws) hw, hcreated, hdiscards]
    rfl

end

private theorem regular_of_constructs {serial : Nat} {x : Creation} {h : Holdings β}
    {z : Interaction (runtimeCalls β) (Holdings β) (Except Error Held)}
    (hz : Constructs Held.handle z) (hs : Holdings.Same h.advance z.state) :
    (creating serial x h [] h z).Regular := by
  cases z with
  | done r t => exact hz.elim
  | ask q t k =>
    cases q with
    | createCondition r =>
      obtain ⟨hheld, hnext⟩ := hs
      have hsame (p : Nat × Condition) : tally (t.holding p.1) p = tally (h.holding p.1) p :=
        congrArg (tally · p) (Holdings.holding_of_held hheld p.1)
      refine ⟨fun p => Nat.le_of_eq (hsame p), fun _ p => Nat.le_of_eq (hsame p).symm, fun n => ?_,
        rfl, trivial⟩
      have hspare := h.spare_advance n
      change t.next = h.advance.next at hnext
      show t.spare n + tally (some h.next) n + 0 ≤ h.spare n + 0
      rw [Holdings.spare, hnext]
      exact Nat.le_of_eq hspare
    | _ => exact hz.elim

/-! ### Stretches -/

private theorem regular_of_drop {serial n : Nat} {h : Holdings β}
    {es : List (Exchange (runtimeCalls β) (Holdings β))}
    {y : Interaction (runtimeCalls β) (Holdings β) Unit} {st : (handlings β).Stretch}
    (hst : ⟨serial, .drop n, h, es, found h es, y⟩ = st)
    (hafter : After ((Handling.drop n).perform h) es y) : st.Regular := by
  subst hst
  have hremove (p : Nat × Condition) : tally ((h.remove n).holding p.1) p + 0 +
      (tally (h.holding n) p + 0) = tally (h.holding p.1) p + 0 + 0 := h.tally_remove n p
  cases hv : h.held.find? n with
  | none =>
    rw [Handling.drop_run, hv] at hafter
    obtain ⟨rfl, rfl⟩ := Interaction.after_done_iff.1 hafter
    have hheld : h.holding n = none := by rw [Holdings.holding, hv]; rfl
    refine .of_eq hremove (fun m => Nat.le_refl _) ?_ trivial
    show none = ((h.holding n).filter _).map _
    rw [hheld]
    rfl
  | some v =>
    have hheld : h.holding n = some (n, v.handle) := by rw [Holdings.holding, hv]; rfl
    have howes : ((h.holding n).filter fun p => p.2.ownsNode).map (fun p => (p.1, p.2.id, true)) =
        if v.handle.ownsNode then some (n, v.handle.id, true) else none := by
      rw [hheld, Option.filter_some]
      dsimp only
      split <;> rfl
    have hcourse := Handling.discards_of_after hv hafter
    clear hafter
    obtain ⟨⟨rfl, hy⟩ | ⟨e, t, rfl, he, rfl⟩, hsame, hnext⟩ := hcourse
    · have heq (p : Nat × Condition) : tally (y.state.holding p.1) p + 0 +
          (tally (h.holding n) p + 0) = tally (h.holding p.1) p + 0 + 0 := by
        have hremoved : y.state.holding p.1 = (h.remove n).holding p.1 :=
          Holdings.holding_of_held hsame p.1
        rw [hremoved]
        exact hremove p
      cases y with
      | done a t =>
        exact .of_eq heq (System.Stretch.numbered_of_same hnext rfl rfl)
          (howes.trans (if_neg (Bool.eq_false_iff.1 hy.1))).symm trivial
      | ask q t k =>
        obtain ⟨howns, rfl, hdone⟩ := hy
        exact .of_eq heq (System.Stretch.numbered_of_same hnext rfl rfl)
          (howes.trans (if_pos howns)).symm ⟨(), hdone⟩
    · obtain ⟨q, asked, r, u⟩ := e
      obtain rfl : q = .deleteNode v.handle.id true := he
      have heq (p : Nat × Condition) : tally (t.holding p.1) p = tally (u.holding p.1) p :=
        congrArg (tally · p) (Holdings.holding_of_held hsame p.1)
      exact .of_eq heq (System.Stretch.numbered_of_same hnext rfl rfl) rfl trivial

private theorem regular_of_borrow {serial n : Nat} {h : Holdings β}
    {es : List (Exchange (runtimeCalls β) (Holdings β))}
    {y : Interaction (runtimeCalls β) (Holdings β) (Option Nat)} {st : (handlings β).Stretch}
    (hst : ⟨serial, .borrow n, h, es, found h es, y⟩ = st)
    (hafter : After ((Handling.borrow n).perform h) es y) : st.Regular := by
  have hmakes : st.makes? = (h.held.find? n).map fun v => (h.next, v.handle.borrow) := by
    subst hst
    exact Option.map_map _ _ _
  rw [Handling.borrow_run] at hafter
  cases hv : h.held.find? n with
  | none =>
    rw [hv] at hafter hmakes
    obtain ⟨rfl, rfl⟩ := Interaction.after_done_iff.1 hafter
    subst hst
    refine .of_eq (fun p => ?_) (fun m => ?_) rfl trivial
    · rw [System.Stretch.had, hmakes]
      rfl
    · rw [hmakes]
      exact Nat.le_refl _
  | some v =>
    rw [hv] at hafter hmakes
    obtain ⟨rfl, rfl⟩ := Interaction.after_done_iff.1 hafter
    subst hst
    refine ⟨fun p => ?_, fun hfree p => ?_, fun m => ?_, rfl, trivial⟩
    · rw [System.Stretch.had, hmakes]
      exact h.tally_put_le h.next p (.condition v.handle.borrow)
    · rw [System.Stretch.had, hmakes]
      exact Nat.le_of_eq (h.tally_put h.next p (.condition v.handle.borrow)
        (hfree h.next (.inl h.spare_next))).symm
    · rw [hmakes]
      exact Nat.le_of_eq (h.spare_advance m)

/-- Every stretch is regular. -/
theorem System.Stretch.Genuine.regular {st : (handlings β).Stretch} (h : st.Genuine) :
    st.Regular := by
  obtain ⟨serial, x, s, es, before, y⟩ := st
  obtain ⟨hafter, hbefore⟩ := h
  change After (x.perform s) es y at hafter
  change before = found s es at hbefore
  subst hbefore
  cases x with
  | create x =>
    obtain ⟨z, hz, rfl, hsame⟩ := Handling.construction_of_after hafter
    cases es with
    | nil =>
      cases hz with
      | begins hz => exact regular_of_constructs hz hsame
    | cons e es => exact regular_of_construction rfl hz (List.cons_ne_nil e es) hsame
  | wrap id =>
    obtain ⟨rfl, rfl⟩ := Interaction.after_of_ends ⟨_, _, rfl⟩ hafter
    exact ⟨fun p => s.tally_put_le s.next p (.condition (.wrap id)),
      fun hfree p => Nat.le_of_eq (s.tally_put s.next p (.condition (.wrap id))
        (hfree s.next (.inl s.spare_next))).symm,
      fun n => Nat.le_of_eq (s.spare_advance n), rfl, trivial⟩
  | borrow n => exact regular_of_borrow rfl hafter
  | intoCondition n =>
    rw [Handling.intoCondition_run] at hafter
    cases hv : s.held.find? n with
    | none =>
      rw [hv] at hafter
      obtain ⟨rfl, rfl⟩ := Interaction.after_done_iff.1 hafter
      have hheld : s.holding n = none := by rw [Holdings.holding, hv]; rfl
      refine .of_eq (fun p => ?_) (fun m => Nat.le_refl _) rfl trivial
      have hremove := s.tally_remove n p
      rw [hheld] at hremove
      exact hremove
    | some v =>
      rw [hv] at hafter
      obtain ⟨rfl, rfl⟩ := Interaction.after_done_iff.1 hafter
      refine .of_eq (fun p => ?_) (fun m => Nat.le_refl _) rfl trivial
      have hremove := s.tally_remove n p
      have hheld : s.holding n = some (n, v.handle) := by rw [Holdings.holding, hv]; rfl
      rw [hheld] at hremove
      exact ((s.remove n).tally_put n p (.condition v.handle) (s.holding_remove_self n)).trans
        hremove
  | release n =>
    rw [Handling.release_run] at hafter
    obtain ⟨rfl, rfl⟩ := Interaction.after_done_iff.1 hafter
    refine .of_eq (fun p => ?_) (fun m => Nat.le_refl _) rfl trivial
    have hremove := s.tally_remove n p
    show tally ((s.remove n).holding p.1) p + 0 + (0 + tally (s.holding n) p) =
      tally (s.holding p.1) p + 0 + 0
    omega
  | drop n => exact regular_of_drop rfl hafter
  | beside f =>
    obtain ⟨rfl, rfl⟩ := Interaction.after_of_ends ⟨_, _, rfl⟩ hafter
    exact .of_eq (fun p => rfl) (fun n => Nat.le_refl _) rfl trivial

end AlarmServer
