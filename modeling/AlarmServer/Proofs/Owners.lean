import AlarmServer.Proofs.Strays

/-!
# Owners

A handle knows its node by the identifier only. Where it is dropped it deletes whatever node has
the identifier, and nothing else is affected. In an orderly run that is the node that was created
for the handle, unless this was deleted and its identifier given to another node that was to have
it.
-/

namespace AlarmServer

open AddressSpace (Adds Unspent)

variable {β : Type}

/-! ### What is dropped -/

/-- Nothing changes under other identifiers than `c`, but for the references to `c`. -/
structure Server.Spares (c : NodeId) (s t : Server β) : Prop where
  /-- The nodes stay, and their references to other nodes. -/
  nodes : ∀ i, i ≠ c →
    (t.space.nodes.find? i).map (Node.forget c) = (s.space.nodes.find? i).map (Node.forget c)
  /-- The hooks stay. -/
  hooks : ∀ i, i ≠ c → ∀ k, t.space.hooks.find? (i, k) = s.space.hooks.find? (i, k)
  /-- The watchers stay. -/
  watchers : ∀ i, i ≠ c → t.space.watchers.find? i = s.space.watchers.find? i
  /-- The callbacks stay. -/
  callbacks : ∀ i, i ≠ c → t.tables.registry.callbacks? i = s.tables.registry.callbacks? i

private theorem Node.forget_forget (c : NodeId) (n : Node) :
    (n.forget c).forget c = n.forget c := by
  simp [Node.forget]

/-- A handle that is dropped spares what has other identifiers than its own. -/
theorem Condition.Dropped.spares {c : Condition} {s t : Server β} (h : c.Dropped s t) :
    s.Spares c.id t := by
  cases h with
  | nothing _ hs hr =>
    refine ⟨fun i _ => ?_, fun i _ k => ?_, fun i _ => ?_, fun i _ => ?_⟩
    · rw [hs]
    · rw [hs]
    · rw [hs]
    · rw [hr]
  | deleted _ _ hs hr =>
    obtain ⟨-, hspace⟩ := AddressSpace.deleteNode_eq_ok_iff.1 hs
    refine ⟨fun i hi => ?_, fun i hi k => ?_, fun i hi => ?_, fun i hi => ?_⟩
    · rw [hspace]
      simp only [if_true, Table.find?_mapValues, Table.find?_erase, if_neg hi, Option.map_map]
      congr 1
      funext n
      exact n.forget_forget c.id
    · rw [hspace]
      simp [Table.find?_filterKeys, hi]
    · rw [hspace]
      exact (Table.find?_erase _ _ _).trans (if_neg hi)
    · rw [hr]
      exact (Table.find?_erase _ _ _).trans (if_neg hi)

/-- A stretch that drops a handle has done so. -/
theorem Deed.dropped {st : (dealings β).Stretch} {c : Condition} (h : Deed st)
    (hr : st.request = Dealing.use (.drop c)) : c.Dropped st.before st.after := by
  cases h with
  | request hf _ _ _ _ =>
    obtain ⟨serial, x, start, answered, before, outcome⟩ := st
    cases hr
    cases hf
  | drop hr' hdropped _ =>
    rw [hr'] at hr
    cases hr
    exact hdropped
  | _ hr' =>
    rw [hr'] at hr
    cases hr

/-! ### Where nodes come from -/

section

variable {st : (dealings β).Stretch} {i : NodeId}

/-- A stretch places a node as it was asked for, or under the next identifier. -/
theorem Deed.adds (h : Deed st) (hp : st.places? = some i) : ∃ links requested,
    Adds links requested i st.before.space st.after.space ∧
      (requested = some i → st.reserves? = some i) := by
  obtain ⟨f, hf, hplaced⟩ := Option.bind_eq_some_iff.1 hp
  cases h with
  | @request f' hf' hg _ hbefore hafter =>
    rw [hf'] at hf
    cases hf
    obtain ⟨links, requested, ha, hr⟩ := hg.adds_of_placed hplaced
    rw [hbefore, hafter] at ha
    exact ⟨links, requested, ha, fun he => Option.bind_eq_some_iff.2 ⟨f, hf', hr he⟩⟩
  | register hr _ _ _ =>
    obtain ⟨serial, x, start, answered, before, outcome⟩ := st
    cases hr
    cases hf
  | drop hr _ _ =>
    obtain ⟨serial, x, start, answered, before, outcome⟩ := st
    cases hr
    cases hf
  | beside hr _ _ _ =>
    obtain ⟨serial, x, start, answered, before, outcome⟩ := st
    cases hr
    cases hf

end

section

variable {ambient : Ambient} {trace fore mid rest : List (dealings β).Stretch}
  {st g : (dealings β).Stretch} {d : (dealings β).Config} {i : NodeId}

end

section

variable {ambient : Ambient} {trace fore mid rest : List (dealings β).Stretch}
  {st₀ st₁ g : (dealings β).Stretch} {d : (dealings β).Config} {c : Condition}

end

end AlarmServer
