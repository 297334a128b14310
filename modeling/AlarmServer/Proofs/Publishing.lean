import AlarmServer.Proofs.Hooks

/-!
# Publication of a condition

What a server does when it publishes a condition: it draws the next identifier of its series for the
event, notes that in the condition, and counts and keeps the event. The identifier differs from the
`2 ^ 62 - 1` that were drawn before it.
-/

namespace AlarmServer

open Server (Beside)

variable {β : Type}

/-! ### The series of identifiers -/

namespace Guid

/-- The fixed series repeats after `2 ^ 62` identifiers, and not before. -/
theorem drawn_inj {m n : Nat} : drawn m = drawn n ↔ m % 2 ^ 62 = n % 2 ^ 62 := by
  constructor
  · intro h
    simp only [drawn, Guid.mk.injEq, BitVec.xor_right_inj] at h
    have hnat := congrArg BitVec.toNat h
    simp only [BitVec.toNat_ofNat] at hnat
    omega
  · intro h
    simp only [drawn]
    rw [show m % 0x4000000000000000 = n % 0x4000000000000000 from h]

private theorem mod_eq_of_bytes {m n : Nat} (k : Nat)
    (h : ∀ i < k, m / 256 ^ i % 256 = n / 256 ^ i % 256) : m % 256 ^ k = n % 256 ^ k := by
  induction k with
  | zero => simp [Nat.mod_one]
  | succ k ih =>
    rw [Nat.mod_pow_succ, Nat.mod_pow_succ, h k (Nat.lt_succ_self k),
      ih fun i hi => h i (Nat.lt_succ_of_lt hi)]

/-- Different identifiers have different bytes. -/
theorem bytes_inj {g g' : Guid} : g.bytes = g'.bytes ↔ g = g' := by
  constructor
  · intro h
    have hbyte : ∀ i < 16, g.value.toNat / 256 ^ i % 256 = g'.value.toNat / 256 ^ i % 256 := by
      intro i hi
      have hat : UInt8.ofNat (g.value.toNat / 256 ^ (15 - (15 - i)) % 256) =
          UInt8.ofNat (g'.value.toNat / 256 ^ (15 - (15 - i)) % 256) :=
        List.map_inj_left.1 h (15 - i) (List.mem_range.2 (by omega))
      have hnat := congrArg UInt8.toNat hat
      rw [show 15 - (15 - i) = i by omega] at hnat
      simpa using hnat
    have hvalue := mod_eq_of_bytes 16 hbyte
    have hlt (g : Guid) : g.value.toNat < 256 ^ 16 := by
      have hbits := g.value.isLt
      omega
    rw [Nat.mod_eq_of_lt (hlt g), Nat.mod_eq_of_lt (hlt g')] at hvalue
    exact congrArg Guid.mk (BitVec.eq_of_toNat_eq hvalue)
  · intro h
    rw [h]

end Guid

namespace EventId

/-- The identifier of an event for which the `n`-th identifier of the series is drawn. -/
def drawn (n : Nat) : EventId := ⟨(Guid.drawn n).bytes⟩

/-- Events have the same identifier only if the series has repeated. -/
theorem drawn_inj {m n : Nat} : drawn m = drawn n ↔ m % 2 ^ 62 = n % 2 ^ 62 := by
  rw [drawn, drawn, EventId.mk.injEq, Guid.bytes_inj, Guid.drawn_inj]

/-- An identifier is none of those that were drawn before it. -/
theorem drawn_ne {m n : Nat} (hlt : m < n) (hseries : n < m + 2 ^ 62) : drawn n ≠ drawn m := by
  intro h
  have hnumber := drawn_inj.1 h
  omega

end EventId

/-! ### Publication -/

namespace Server

/-- The server once it has drawn the next identifier. -/
def draw (s : Server β) : Server β := { s with tables.ambient := s.tables.ambient.draw.2 }

/-- The server once it has published a condition in the given state from a node. -/
def tell (s : Server β) (c : NodeId) (cs : ConditionState) (source : NodeId) : Server β :=
  let id := EventId.drawn s.drawn
  let noted := cs.noted id s.now
  s.draw.withSpace ((s.space.setCondition c noted).emit (noted.event c source id s.now))

/-- A publication is noted in the condition, and in no other node. -/
theorem nodes_tell (s : Server β) (c : NodeId) (cs : ConditionState) (source : NodeId) :
    (s.tell c cs source).space.nodes =
      (s.space.setCondition c (cs.noted (.drawn s.drawn) s.now)).nodes := rfl

/-- A publication appends its event. -/
theorem events_tell (s : Server β) (c : NodeId) (cs : ConditionState) (source : NodeId) :
    (s.tell c cs source).space.events = s.space.events ++
      [(cs.noted (.drawn s.drawn) s.now).event c source (.drawn s.drawn) s.now] := rfl

/-- What a condition was before makes no difference to its publication. -/
theorem Beside.tell {s t : Server β} {c : NodeId} {old : ConditionState}
    (h : Beside (s.withSpace (s.space.setCondition c old)) t) (cs : ConditionState)
    (source : NodeId) : Beside (s.tell c cs source) (t.tell c cs source) := by
  have hdrawn : t.drawn = s.drawn := h.drawn
  have hnow : t.now = s.now := h.now
  refine ⟨?_, h.registry, h.sessions, hnow, congrArg Nat.succ hdrawn⟩
  show AddressSpace.emit _ _ = AddressSpace.emit _ _
  rw [hdrawn, hnow, h.space, space_withSpace, AddressSpace.setCondition_setCondition]

end Server

namespace Service

/-- A condition is published whatever its state is. -/
theorem publish_run {s : Server β} {c : NodeId} {cs : ConditionState}
    (hc : s.space.condition c = .ok cs) (source : NodeId) :
    ∃ t, (publish c source : Service β EventId).run s = .done (.ok (.drawn s.drawn)) t ∧
      Beside (s.tell c cs source) t ∧ t.announced = s.announced ∧ t.script = s.script := by
  have hpublish : (SpaceAction.publish c source (.drawn s.drawn) s.now).effect s.draw.space =
      .ok (s.tell c cs source).space :=
    AddressSpace.publish_eq_ok_iff.2 ⟨cs, hc, rfl⟩
  let text := "Published event for condition " ++ c.text ++ " from " ++ source.text
  refine ⟨(s.tell c cs source).log .debug text, ?_, Server.beside_log .debug _ _,
    Server.announced_log .debug _ _, rfl⟩
  show (query _ >>= _).run s = _
  rw [query_bind_run, hc]
  show (act (.publish c source (.drawn s.drawn) s.now) >>= _).run s.draw = _
  rw [act_bind_run (SpaceAction.checksFirst_publish _ _ _ _), hpublish]
  rfl

/-- A condition is published if it is there and the notifier may tell of it, and otherwise nothing
changes. -/
theorem trigger_run (c source : NodeId) (s : Server β) :
    (∃ e, (trigger c source : Service β EventId).run s = .done (.error e) s) ∨
      ∃ cs t, s.space.condition c = .ok cs ∧
        (trigger c source : Service β EventId).run s = .done (.ok (.drawn s.drawn)) t ∧
        Beside (s.tell c cs source) t ∧ t.announced = s.announced ∧ t.script = s.script := by
  rw [trigger, query_bind_run]
  cases hc : s.space.condition c with
  | error e => exact .inl ⟨e, rfl⟩
  | ok cs =>
    show (∃ e, (query _ >>= fun _ => publish c source : Service β EventId).run s = _) ∨
      ∃ cs' t, _ ∧ (query _ >>= fun _ => publish c source : Service β EventId).run s = _ ∧ _
    rw [query_bind_run]
    cases s.space.checkNotifier source cs.source with
    | error e => exact .inl ⟨e, rfl⟩
    | ok _ =>
      obtain ⟨t, hrun, hb, ha, hscript⟩ := publish_run hc source
      exact .inr ⟨cs, t, rfl, hrun, hb, ha, hscript⟩

end Service

end AlarmServer
