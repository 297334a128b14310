import AlarmServer.Access.Control
import AlarmServer.Proofs.Encodings
import AlarmServer.Proofs.Journal

/-!
# Texts that stand for nodes

The text of a node identifier is built without escapes, and yet it stands for one node only: no
digit is a semicolon, so the first one ends the namespace, and a letter tells the kind of what
follows. Hence texts that are built on it tell nodes apart as well: those of sessions, errors about
publications, and announcements of dispatches for conditions that show no name.
-/

namespace AlarmServer

variable {β : Type}

/-! ### Separators -/

namespace Text

variable {front front' back back' : List Char} {c : Char}

/-- Equal texts are equal before the first separator, and after it. -/
theorem append_inj_of_first (h : c ∉ front) (h' : c ∉ front')
    (he : front ++ c :: back = front' ++ c :: back') : front = front' ∧ back = back' := by
  have hparts := congrArg (List.splitOn c) he
  rw [List.splitOn_append_cons_self_of_not_mem h,
    List.splitOn_append_cons_self_of_not_mem h'] at hparts
  obtain ⟨rfl, -⟩ := List.cons.inj hparts
  exact ⟨rfl, by simpa using he⟩

/-- Equal texts are equal before the last separator, and after it. -/
theorem append_inj_of_last (h : c ∉ back) (h' : c ∉ back')
    (he : front ++ c :: back = front' ++ c :: back') : front = front' ∧ back = back' := by
  have hreverse := congrArg List.reverse he
  simp only [List.reverse_append, List.reverse_cons, List.append_assoc, List.singleton_append]
    at hreverse
  obtain ⟨hback, hfront⟩ := append_inj_of_first (by simpa using h) (by simpa using h') hreverse
  exact ⟨List.reverse_inj.1 hfront, List.reverse_inj.1 hback⟩

end Text

/-! ### Identifiers -/

/-- Different GUIDs have different texts. -/
theorem Guid.text_inj {g g' : Guid} (h : g.text = g'.text) : g = g' := by
  have hread := ofText?_text g
  rw [h, ofText?_text g'] at hread
  exact (Option.some.inj hread).symm

namespace Identifier

/-- What is written of an identifier: a letter for its kind, and its value. -/
def written : Identifier → String
  | numeric v => "i=" ++ toString v.toNat
  | text v => "s=" ++ v
  | guid v => "g=" ++ v.text

private theorem written_inj {i j : Identifier} (h : i.written = j.written) : i = j := by
  have hchars := congrArg String.toList h
  cases i with
  | numeric v =>
    cases j with
    | numeric w =>
      have hdigits := (String.append_right_inj "i=").1 h
      rw [UInt32.toNat_inj.1 (Text.eq_of_toString hdigits)]
    | text w => simp [written] at hchars
    | guid w => simp [written] at hchars
  | text v =>
    cases j with
    | numeric w => simp [written] at hchars
    | text w => rw [(String.append_right_inj "s=").1 h]
    | guid w => simp [written] at hchars
  | guid v =>
    cases j with
    | numeric w => simp [written] at hchars
    | text w => simp [written] at hchars
    | guid w => rw [Guid.text_inj ((String.append_right_inj "g=").1 h)]

end Identifier

namespace NodeId

private theorem toList_text (id : NodeId) : id.text.toList =
    "ns=".toList ++ ((toString id.ns.toNat).toList ++ ';' :: id.identifier.written.toList) := by
  obtain ⟨ns, identifier⟩ := id
  cases identifier <;> simp [text, Identifier.written]

/-- Different node identifiers have different texts. -/
theorem text_inj {a b : NodeId} : a.text = b.text ↔ a = b := by
  refine ⟨fun h => ?_, congrArg text⟩
  have hdigits (n : Nat) : ';' ∉ (toString n).toList := fun hc =>
    absurd ((Text.numeral_toString n).digits _ hc) (by decide)
  have hchars := congrArg String.toList h
  rw [toList_text, toList_text] at hchars
  -- The namespaces are numerals, so that the first semicolon comes right after them.
  obtain ⟨hns, hwritten⟩ := Text.append_inj_of_first (hdigits _) (hdigits _)
    (List.append_cancel_left hchars)
  obtain ⟨ns, i⟩ := a
  obtain ⟨ns', j⟩ := b
  rw [NodeId.mk.injEq]
  exact ⟨UInt16.toNat_inj.1 (Text.eq_of_toString (String.toList_inj.1 hns)),
    Identifier.written_inj (String.toList_inj.1 hwritten)⟩

end NodeId

/-- Different sessions have different texts. -/
theorem SessionId.toString_inj {s s' : SessionId} : toString s = toString s' ↔ s = s' := by
  obtain ⟨a⟩ := s
  obtain ⟨b⟩ := s'
  rw [SessionId.mk.injEq]
  exact NodeId.text_inj

/-! ### Status codes -/

namespace StatusCode

/-- The digits of the code. -/
def digits (s : StatusCode) : List Char := Text.fixedDigits Text.upperDigit 16 8 s.code.toNat

/-- How the text of a status code is spelled: its last `x` stands before the digits, and there may
be a bracket after them. -/
structure Spelled (s : StatusCode) (front back : List Char) : Prop where
  /-- The parts of the text. -/
  text : s.text.toList = front ++ 'x' :: (s.digits ++ back)
  /-- There is no colon before the digits. -/
  front : ':' ∉ front
  /-- There is nothing but a bracket after them. -/
  back : ∀ c ∈ back, c = ')'

variable {s t : StatusCode}

private theorem colon_notMem_names : ∀ p ∈ names, ':' ∉ p.2.toList := by decide +kernel

private theorem exists_spelled (s : StatusCode) : ∃ front back, s.Spelled front back := by
  cases hname : s.name? with
  | none =>
    refine ⟨['0'], [], ?_, by decide, fun _ h => nomatch h⟩
    simp [text, hname, Text.upperHex, digits]
  | some name =>
    obtain ⟨fore, rest, hnames, -⟩ := List.lookup_eq_some_iff.1 hname
    have hcolon := colon_notMem_names (s, name) (by simp [hnames])
    refine ⟨name.toList ++ [' ', '(', '0'], [')'], ?_, by simpa using hcolon, by simp⟩
    simp [text, hname, Text.upperHex, digits]

/-- Nothing else comes after the last `x`. -/
theorem Spelled.notMem {front back : List Char} (h : s.Spelled front back) {c : Char}
    (hdigit : ∀ d < 16, c ≠ Text.upperDigit d) (hbracket : c ≠ ')') : c ∉ s.digits ++ back := by
  intro hc
  rcases List.mem_append.1 hc with hc | hc
  · obtain ⟨d, hd, he⟩ := Text.exists_of_mem_fixedDigits (by omega) hc
    exact hdigit d hd he
  · exact hbracket (h.back c hc)

/-- Different status codes have different texts. -/
theorem text_inj (h : s.text = t.text) : s = t := by
  obtain ⟨front, back, hs⟩ := s.exists_spelled
  obtain ⟨front', back', ht⟩ := t.exists_spelled
  have hx : ∀ d < 16, 'x' ≠ Text.upperDigit d := by decide
  rw [← String.toList_inj, hs.text, ht.text] at h
  obtain ⟨-, htail⟩ :=
    Text.append_inj_of_last (hs.notMem hx (by decide)) (ht.notMem hx (by decide)) h
  have hlength : s.digits.length = t.digits.length := by
    rw [digits, digits, Text.length_fixedDigits, Text.length_fixedDigits]
  have hdigits : s.digits = t.digits := (List.append_inj htail hlength).1
  have hcode : s.code.toNat = t.code.toNat := Text.fixedDigits_inj Text.upperDigit_inj (by omega)
    s.code.toNat_lt t.code.toNat_lt hdigits
  rw [mk.injEq, ← UInt32.toNat_inj, hcode]

private theorem colon_notMem_text (s : StatusCode) : ':' ∉ s.text.toList := by
  obtain ⟨front, back, hs⟩ := s.exists_spelled
  have htail := hs.notMem (c := ':') (by decide) (by decide)
  rw [hs.text]
  simpa [hs.front] using htail

/-- The last colon tells what is said of a status code from the code. -/
theorem append_text_inj {m n : String} :
    m ++ ": " ++ s.text = n ++ ": " ++ t.text ↔ m = n ∧ s = t := by
  refine ⟨fun h => ?_, fun ⟨hm, hs⟩ => by rw [hm, hs]⟩
  have hspaced (s : StatusCode) : ':' ∉ ' ' :: s.text.toList := by
    simpa using s.colon_notMem_text
  have hchars : m.toList ++ ':' :: ' ' :: s.text.toList =
      n.toList ++ ':' :: ' ' :: t.text.toList := by
    simpa using congrArg String.toList h
  obtain ⟨hm, hs⟩ := Text.append_inj_of_last (hspaced s) (hspaced t) hchars
  exact ⟨String.toList_inj.1 hm, text_inj (String.toList_inj.1 (List.cons.inj hs).2)⟩

end StatusCode

/-! ### Errors about publications -/

/-- The text of such an error tells the node and the status code. -/
theorem Error.message_triggerFailed_inj {a b : NodeId} {s t : StatusCode} :
    (triggerFailed a.text s).message = (triggerFailed b.text t).message ↔ a = b ∧ s = t := by
  have hframe (id : NodeId) (s : StatusCode) : (triggerFailed id.text s).message =
      "Trigger from source " ++ id.text ++ " failed" ++ ": " ++ s.text := by
    show "Trigger from source " ++ id.text ++ (" failed" ++ ": ") ++ s.text = _
    rw [← String.append_assoc]
  rw [hframe, hframe, StatusCode.append_text_inj, String.append_left_inj, String.append_right_inj,
    NodeId.text_inj]

/-- A publication fails with such an error, whatever the runtime answers. -/
theorem Condition.error_of_trigger {c : Condition} {source : NodeId} {s t : Server β} {e : Error}
    (h : (c.trigger source).perform s = .done (.error e) t) :
    ∃ status, e = .triggerFailed source.text status := by
  obtain ⟨r, u, hrun, -⟩ := Server.silent_answer (c := .trigger c.id source) nofun s
  rw [trigger, Operation.perform_request, hrun] at h
  cases r with
  | ok id => cases h
  | error status =>
    cases h
    exact ⟨status, rfl⟩

/-! ### Lines of the journal -/

/-- The runtime gives no name for the node to be shown under. -/
def Server.Nameless (s : Server β) (c : NodeId) : Prop :=
  ∃ status t, ServerAction.displayName c s = .done (.error status) t

/-- Where nothing is settled, a node has no name only if it is not there. -/
theorem Server.nameless_iff {s : Server β} (hs : s.script = .empty) (c : NodeId) :
    s.Nameless c ↔ s.space.nodes.find? c = none := by
  unfold Nameless
  rw [ServerAction.displayName_of_empty hs]
  unfold AddressSpace.displayName AddressSpace.node
  cases s.space.nodes.find? c with
  | none => exact ⟨fun _ => rfl, fun _ => ⟨_, _, rfl⟩⟩
  | some n => exact ⟨fun ⟨_, _, h⟩ => (nomatch h), fun h => nomatch h⟩

/-- A dispatch writes one line, with the label of the condition, and then ends or asks. -/
theorem ServerAction.journal_dispatch {k : TransitionKind} {c : NodeId} {s t : Server β}
    {label : String} (h : conditionLabel c s = .done label t) (session : Session) :
    (dispatch k c session s).state.journal =
      t.journal ++ [⟨.info, "[A&C] " ++ k.variableName ++ "=true | condition=" ++ label⟩] := by
  let u := t.log .info ("[A&C] " ++ k.variableName ++ "=true | condition=" ++ label)
  unfold dispatch
  rw [Action.bind_of_done h, Action.bind_of_done (show log .info _ t = .done () u from rfl),
    Action.bind_of_done (Action.get_run u)]
  cases u.tables.registry.slot? c k <;> rfl

/-- A condition without a name is announced under its identifier. -/
theorem Server.Nameless.journal_dispatch {s : Server β} {c : NodeId} (h : s.Nameless c)
    (k : TransitionKind) (session : Session) :
    (ServerAction.dispatch k c session s).state.journal.getLast? =
      some ⟨.info, "[A&C] " ++ k.variableName ++ "=true | condition=" ++ c.text⟩ := by
  obtain ⟨status, t, hname⟩ := h
  have hlabel : ServerAction.conditionLabel c s = .done c.text t := by
    unfold ServerAction.conditionLabel
    rw [Action.bind_of_done hname]
    rfl
  rw [ServerAction.journal_dispatch hlabel, List.getLast?_concat]

/-- An announcement under an identifier tells the variable and the identifier. -/
theorem eq_of_announcement {j k : TransitionKind} {a b : NodeId}
    (h : "[A&C] " ++ j.variableName ++ "=true | condition=" ++ a.text =
      "[A&C] " ++ k.variableName ++ "=true | condition=" ++ b.text) : j = k ∧ a = b := by
  have hname (k : TransitionKind) : '=' ∉ k.variableName.toList := by
    cases k <;> decide
  have hchars : j.variableName.toList ++ '=' :: ("true | condition=" ++ a.text).toList =
      k.variableName.toList ++ '=' :: ("true | condition=" ++ b.text).toList := by
    simpa using congrArg String.toList h
  obtain ⟨hvariable, hrest⟩ := Text.append_inj_of_first (hname j) (hname k) hchars
  have htext := (String.append_right_inj _).1 (String.toList_inj.1 hrest)
  exact ⟨TransitionKind.variableName_inj (String.toList_inj.1 hvariable), NodeId.text_inj.1 htext⟩

/-- The last line about the closing of a session names the session, whatever the policy is. -/
theorem AccessControl.journal_close (a : AccessControl) (session : SessionId) (t : Tables β) :
    (a.close session t).state.ambient.journal.getLast? =
      some ⟨.debug, "Dropping attributes of session " ++ toString session⟩ := by
  obtain ⟨policy⟩ := a
  cases policy <;> exact List.getLast?_concat

/-! ### What the texts tell -/

/-- No two node identifiers have the same text, whatever characters a text in them has, and no two
sessions have. Hence the last line about a closing tells the session; the error of a publication
that fails tells the node that it was to come from, and the status code; and the announcement of a
dispatch for a condition that shows no name tells the condition, and the variable. -/
theorem labels_identify :
    (∀ a b : NodeId, a.text = b.text ↔ a = b) ∧
    (∀ x y : SessionId, toString x = toString y ↔ x = y) ∧
    (∀ (p q : AccessControl) (x y : SessionId) (t u : Tables β),
      (p.close x t).state.ambient.journal.getLast? =
        (q.close y u).state.ambient.journal.getLast? ↔ x = y) ∧
    (∀ {c d : Condition} {a b : NodeId} {s t u v : Server β} {e f : Error},
      (c.trigger a).perform s = .done (.error e) t → (d.trigger b).perform u = .done (.error f) v →
      (e.message = f.message ↔ a = b ∧ e.status? = f.status?)) ∧
    ∀ (j k : TransitionKind) {a b : NodeId} (x y : Session) {s t : Server β},
      s.Nameless a → t.Nameless b →
      ((ServerAction.dispatch j a x s).state.journal.getLast? =
        (ServerAction.dispatch k b y t).state.journal.getLast? ↔ j = k ∧ a = b) := by
  refine ⟨fun a b => NodeId.text_inj, fun x y => SessionId.toString_inj, ?_, ?_, ?_⟩
  · intro p q x y t u
    rw [p.journal_close, q.journal_close, Option.some_inj, Entry.mk.injEq, String.append_right_inj,
      SessionId.toString_inj]
    exact and_iff_right rfl
  · intro c d a b s t u v e f he hf
    obtain ⟨status, rfl⟩ := Condition.error_of_trigger he
    obtain ⟨status', rfl⟩ := Condition.error_of_trigger hf
    rw [Error.message_triggerFailed_inj]
    exact and_congr_right fun _ => Option.some_inj.symm
  · intro j k a b x y s t ha hb
    rw [ha.journal_dispatch, hb.journal_dispatch, Option.some_inj, Entry.mk.injEq]
    refine ⟨fun h => eq_of_announcement h.2, ?_⟩
    rintro ⟨rfl, rfl⟩
    exact ⟨rfl, rfl⟩

/-- A node that is not there. -/
def missingPump : NodeId := ⟨1, .text "Pump"⟩

/-- Another one, with a text like the end of an error about the first. -/
def missingFailure : NodeId := ⟨1, .text "Pump failed: BadNodeIdUnknown (0x80340000)"⟩

/-- Neither an error nor an announcement about the one can be taken for one about the other. -/
theorem labels_missing :
    ∃ (s : Server Bool) (e f : Error),
      ((Condition.wrap missingPump).trigger missingPump).perform s = .done (.error e) s ∧
      ((Condition.wrap missingPump).trigger missingFailure).perform s = .done (.error f) s ∧
      e.message ≠ f.message ∧ s.Nameless missingPump ∧ s.Nameless missingFailure ∧
      (ServerAction.dispatch .acked missingPump none s).state.journal.getLast? ≠
        (ServerAction.dispatch .acked missingFailure none s).state.journal.getLast? := by
  obtain ⟨-, -, -, errors, announcements⟩ := labels_identify (β := Bool)
  let s : Server Bool := .create (.start ⟨0, 0⟩)
  have hne : missingPump ≠ missingFailure := by decide
  have hpump : ((Condition.wrap missingPump).trigger missingPump).perform s =
      .done (.error (.triggerFailed missingPump.text .badNodeIdUnknown)) s := rfl
  have hfailure : ((Condition.wrap missingPump).trigger missingFailure).perform s =
      .done (.error (.triggerFailed missingFailure.text .badNodeIdUnknown)) s := rfl
  have ha : s.Nameless missingPump := (Server.nameless_iff rfl _).2 (by decide)
  have hb : s.Nameless missingFailure := (Server.nameless_iff rfl _).2 (by decide)
  refine ⟨s, _, _, hpump, hfailure, fun h => ?_, ha, hb, fun h => ?_⟩
  · exact hne ((errors hpump hfailure).1 h).1
  · exact hne ((announcements .acked .acked none none ha hb).1 h).2

end AlarmServer
