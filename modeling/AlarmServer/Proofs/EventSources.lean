import AlarmServer.Proofs.Creations

/-!
# Sources of events

A source of events is added in three steps: an object is added to the folder of objects, opened for
events, and referred to by the server object. The first step checks that there is a folder, but not
until the last one is it checked that there is a server object. Where this was deleted the addition
fails and the object stays, a notifier in the folder to which no notifier leads. So the addition is
all or nothing only as long as there is a server object, or no folder either.

The main result, `eventSource_of_run`, says for every moment of a run what an addition would do.
-/

namespace AlarmServer

variable {β : Type}

namespace AddressSpace

/-- A source of events is placed under the next identifier. The folder of objects refers to it, and
so does the server object, as far as they are there; nothing else changes. -/
structure Sources (name : QualifiedName) (sp sp' : AddressSpace β) : Prop where
  /-- The source is an object from which events may leave. -/
  node : sp'.nodes.find? sp.allocate.1 =
    some { Node.create name .object with notifier := true }
  /-- It is a part of the folder. -/
  folder : sp'.nodes.find? .objectsFolder =
    (sp.nodes.find? .objectsFolder).map (Node.refer .hasComponent sp.allocate.1)
  /-- It is a notifier below the server object. -/
  server : sp'.nodes.find? .serverObject =
    (sp.nodes.find? .serverObject).map (Node.referOnce .hasNotifier sp.allocate.1)
  /-- The other nodes stay. -/
  others : ∀ i, i ≠ sp.allocate.1 → i ≠ .objectsFolder → i ≠ .serverObject →
    sp'.nodes.find? i = sp.nodes.find? i
  /-- Beside the nodes, the identifier is used up. -/
  beside : sp' = { sp with nodes := sp'.nodes, nextId := sp.nextId + 1 }

/-- What comes of an addition of a source of events. -/
inductive AddsSource (name : QualifiedName) (sp : AddressSpace β) :
    Except StatusCode NodeId → AddressSpace β → Prop where
  /-- It is added, as there are a folder and a server object. -/
  | added {sp' : AddressSpace β} (folder : sp.nodes.contains .objectsFolder = true)
      (server : sp.nodes.contains .serverObject = true) (h : Sources name sp sp') :
      AddsSource name sp (.ok sp.allocate.1) sp'
  /-- Nothing is done, as there is no folder. -/
  | refused (folder : sp.nodes.contains .objectsFolder = false) :
      AddsSource name sp (.error .badNodeIdUnknown) sp
  /-- The addition fails, as there is no server object; but the source stays. -/
  | abandoned {sp' : AddressSpace β} (folder : sp.nodes.contains .objectsFolder = true)
      (server : sp.nodes.contains .serverObject = false) (h : Sources name sp sp') :
      AddsSource name sp (.error .badNodeIdUnknown) sp'

variable {sp : AddressSpace β} {name : QualifiedName}

/-- An object that is opened for events is a source of events as far as there is no server object
that is to refer to it. -/
theorem sources_openSource (h : sp.nodes.contains .serverObject = false) :
    Sources name sp (sp.openSource name) := by
  have hfolder := sp.objectsFolder_ne_allocate
  have hserver := sp.serverObject_ne_allocate
  constructor
  case node => rw [find?_openSource, if_pos rfl]
  case folder => rw [find?_openSource, if_neg hfolder, if_pos rfl]
  case server =>
    rw [find?_openSource, if_neg hserver, if_neg (by decide)]
    have hnone : sp.nodes.find? .serverObject = none := by
      simpa [Table.contains] using h
    rw [hnone]
    rfl
  case others =>
    intro i hi ho _
    rw [find?_openSource, if_neg hi, if_neg ho]
  case beside => rfl

/-- An object that is opened for events is a source of events once the server object refers to it.
-/
theorem sources_referOnce :
    Sources name sp ((sp.openSource name).modifyNode .serverObject
      (Node.referOnce .hasNotifier sp.allocate.1)) := by
  have hfolder := sp.objectsFolder_ne_allocate
  have hserver := sp.serverObject_ne_allocate
  have hfind (i : NodeId) : ((sp.openSource name).modifyNode .serverObject
      (Node.referOnce .hasNotifier sp.allocate.1)).nodes.find? i =
      if i = .serverObject then
        ((sp.openSource name).nodes.find? .serverObject).map
          (Node.referOnce .hasNotifier sp.allocate.1)
      else (sp.openSource name).nodes.find? i := Table.find?_modify _ _ _ _
  constructor
  case node => rw [hfind, if_neg hserver.symm, find?_openSource, if_pos rfl]
  case folder => rw [hfind, if_neg (by decide), find?_openSource, if_neg hfolder, if_pos rfl]
  case server =>
    rw [hfind, if_pos rfl, find?_openSource, if_neg hserver, if_neg (by decide)]
  case others =>
    intro i hi ho hs
    rw [hfind, if_neg hs, find?_openSource, if_neg hi, if_neg ho]
  case beside => rfl

/-- An addition of a source of events has one of three outcomes. -/
theorem addsSource_addEventSource (name : QualifiedName) (sp : AddressSpace β) :
    AddsSource name sp (sp.addEventSource name).1 (sp.addEventSource name).2 := by
  have houtcome := addEventSource_outcome name sp
  generalize (sp.addEventSource name).1 = r, (sp.addEventSource name).2 = sp' at houtcome ⊢
  cases houtcome with
  | refused folder => exact .refused folder
  | abandoned folder server => exact .abandoned folder server (sources_openSource server)
  | added folder server => exact .added folder server sources_referOnce

/-- An addition of a source of events is all or nothing, unless there is a folder without a server
object. -/
theorem AddsSource.atomic_iff {r : Except StatusCode NodeId} {sp' : AddressSpace β}
    (h : AddsSource name sp r sp') : ((∃ id, r = .ok id) ∨ sp' = sp) ↔
      sp.nodes.contains .serverObject = true ∨ sp.nodes.contains .objectsFolder = false := by
  cases h with
  | added _ hserver _ => exact ⟨fun _ => .inl hserver, fun _ => .inl ⟨_, rfl⟩⟩
  | refused hfolder => exact ⟨fun _ => .inr hfolder, fun _ => .inr rfl⟩
  | abandoned hfolder hserver hsources =>
    have hnext : sp'.nextId ≠ sp.nextId := by
      rw [hsources.beside]
      simp
    refine ⟨?_, ?_⟩
    · rintro (⟨id, hr⟩ | rfl)
      · cases hr
      · exact absurd rfl hnext
    · rw [hfolder, hserver]
      rintro (h | h) <;> cases h

end AddressSpace

section

variable {ambient : Ambient} {trace : List (requests β).Stretch} {d : (requests β).Config}

private theorem next_free_of_orderly
    (h : System.Run (.idle (requests β) (.create ambient)) trace d)
    (ho : Orderly Request.reservedBy? trace) :
    d.state.space.nodes.contains d.state.space.allocate.1 = false := by
  have hunspent : d.state.space.Unspent (trace.countP System.Stretch.assigns) :=
    h.invariant (P := fun old s => s.space.Unspent (old.countP System.Stretch.assigns))
      AddressSpace.unspent_initial fun _ _ _ he => ho.unspent_after he
  exact hunspent.free _ (UInt32.le_refl _)

/-- What an addition of a source of events comes to at any moment of a run. It adds the source, does
nothing, or fails and leaves the source behind; it is all or nothing exactly if there is a server
object, or no folder of objects either. In an orderly run the source has a new identifier. -/
theorem eventSource_of_run (h : System.Run (.idle (requests β) (.create ambient)) trace d)
    (name : QualifiedName) :
    ∃ r t, (Service.addEventSource name).run d.state = .done r t ∧
      t = d.state.withSpace t.space ∧ d.state.space.AddsSource name r t.space ∧
      (((∃ id, r = .ok id) ∨ t.space = d.state.space) ↔
        d.state.space.nodes.contains .serverObject = true ∨
          d.state.space.nodes.contains .objectsFolder = false) ∧
      (Orderly Request.reservedBy? trace →
        d.state.space.nodes.contains d.state.space.allocate.1 = false) := by
  have hadds := AddressSpace.addsSource_addEventSource name d.state.space
  exact ⟨_, _, rfl, rfl, hadds, hadds.atomic_iff, next_free_of_orderly h⟩

end

/-- A tank is added to a new server. -/
def tankAdded : (requests Unit).Stretch :=
  .first (requests Unit) 0 addTank (.create (.start ⟨0, 0⟩))

/-- After the tank a pump is added as a source of events, with a new identifier. -/
theorem eventSource_pump :
    ∃ d, System.Run (.idle (requests Unit) (.create (.start ⟨0, 0⟩))) [tankAdded] d ∧
      ∃ t, (Service.addEventSource (.standard "Pump")).run d.state =
          .done (.ok (.numeric 1 50001)) t ∧
        d.state.space.AddsSource (.standard "Pump") (.ok (.numeric 1 50001)) t.space ∧
        d.state.space.nodes.contains (.numeric 1 50001) = false := by
  have h : System.Run (.idle (requests Unit) (.create (.start ⟨0, 0⟩))) [tankAdded]
      ⟨tankAdded.after, 1, []⟩ := .cons (.request_of_ends ⟨_, _, rfl⟩ 0 []) (.nil _)
  have ho : Orderly Request.reservedBy? [tankAdded] := by
    refine ⟨fun st hst id hid => ?_, by decide⟩
    rw [List.mem_singleton.1 hst] at hid
    cases hid
  obtain ⟨r, t, hrun, -, hadds, -, hnew⟩ := eventSource_of_run h (.standard "Pump")
  have hr : r = .ok (.numeric 1 50001) := by
    cases hrun
    rfl
  subst hr
  exact ⟨_, h, t, hrun, hadds, hnew ho⟩

/-- The server object of a new server is deleted. -/
def serverDeleted : (requests Unit).Stretch :=
  .first (requests Unit) 0 (.call (.deleteNode .serverObject true)) (.create (.start ⟨0, 0⟩))

/-- An addition that fails may leave an object behind. Where the server object was deleted, the pump
is not added as a source of events, but stays as a notifier in the folder of objects. -/
theorem eventSource_abandoned :
    ∃ d, System.Run (.idle (requests Unit) (.create (.start ⟨0, 0⟩))) [serverDeleted] d ∧
      d.state.space.nodes.size = 1 ∧ d.state.space.references .objectsFolder = [] ∧
      ∃ t, (Service.addEventSource (.standard "Pump")).run d.state =
          .done (.error .badNodeIdUnknown) t ∧
        t.space.nodes.size = 2 ∧ t.space.nodes.contains (.numeric 1 50000) = true ∧
        t.space.references .objectsFolder = [⟨.hasComponent, .numeric 1 50000⟩] :=
  ⟨⟨serverDeleted.after, 1, []⟩, .cons (.request_of_ends ⟨_, _, rfl⟩ 0 []) (.nil _), rfl, rfl, _,
    rfl, rfl, rfl, rfl⟩

end AlarmServer
