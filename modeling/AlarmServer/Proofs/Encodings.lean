import AlarmServer.Variant.Codec
import AlarmServer.Proofs.Renderings
import AlarmServer.Proofs.Stamps

/-!
# JSON forms of values

Every node identifier is read back from its JSON form, and so is every variant but a double, as long
as a time in it is one that a clock can show. The text of a form is read back as the form. Hence
different values have different forms and different texts.
-/

namespace AlarmServer

/-! ### Globally unique identifiers -/

namespace Guid

/-- The first group is cut off. -/
theorem cut_append {n : Nat} (ns : List Nat) {front : List Char} (h : front.length = n)
    (cs : List Char) : cut (n :: ns) (front ++ cs) = front :: cut ns cs := by
  rw [cut, List.take_left' h, List.drop_left' h]

/-- A single character is cut off. -/
theorem cut_one (ns : List Nat) (c : Char) (cs : List Char) :
    cut (1 :: ns) (c :: cs) = [c] :: cut ns cs := rfl

/-- The last group is all that is left. -/
theorem cut_last {n : Nat} {cs : List Char} (h : cs.length = n) : cut [n] cs = [cs] := by
  rw [cut, cut, List.take_of_length_le h.le]

/-- Thirty-two digits fall into five groups. -/
theorem exists_groups {ds : List Char} (h : ds.length = 32) :
    ∃ a b c d e : List Char, a.length = 8 ∧ b.length = 4 ∧ c.length = 4 ∧ d.length = 4 ∧
      e.length = 12 ∧ ds = a ++ (b ++ (c ++ (d ++ e))) := by
  have split (n : Nat) (cs : List Char) (hn : n ≤ cs.length) :
      ∃ front back, front.length = n ∧ back.length = cs.length - n ∧ cs = front ++ back :=
    ⟨cs.take n, cs.drop n, List.length_take_of_le hn, List.length_drop,
      (List.take_append_drop n cs).symm⟩
  obtain ⟨a, as, ha, has, rfl⟩ := split 8 ds (by omega)
  obtain ⟨b, bs, hb, hbs, rfl⟩ := split 4 as (by omega)
  obtain ⟨c, cs, hc, hcs, rfl⟩ := split 4 bs (by omega)
  obtain ⟨d, e, hd, he, rfl⟩ := split 4 cs (by omega)
  exact ⟨a, b, c, d, e, ha, hb, hc, hd, by omega, rfl⟩

/-- The digits of a GUID stand for it. -/
theorem ofDigits?_digits (g : Guid) :
    ofDigits? (Text.fixedDigits Text.lowerDigit 16 32 g.value.toNat) = some g := by
  have small : g.value.toNat < 16 ^ 32 := g.value.isLt
  rw [ofDigits?, if_pos (Text.length_fixedDigits _ _ _ _),
    Text.natOfDigits?_fixedDigits (by omega) (by omega) (by omega), Nat.mod_eq_of_lt small,
    Option.map_some, BitVec.ofNat_toNat, BitVec.setWidth_eq]

/-- A GUID is read back from its text. -/
theorem ofText?_text (g : Guid) : ofText? g.text = some g := by
  obtain ⟨a, b, c, d, e, ha, hb, hc, hd, he, hds⟩ :=
    exists_groups (Text.length_fixedDigits Text.lowerDigit 16 32 g.value.toNat)
  have written : g.text.toList = a ++ '-' :: (b ++ '-' :: (c ++ '-' :: (d ++ '-' :: e))) := by
    rw [text, hds, groups, cut_append _ ha, cut_append _ hb, cut_append _ hc, cut_append _ hd,
      cut_last he]
    simp
  have parts : cut [8, 1, 4, 1, 4, 1, 4, 1, 12] g.text.toList =
      [a, ['-'], b, ['-'], c, ['-'], d, ['-'], e] := by
    rw [written, cut_append _ ha, cut_one, cut_append _ hb, cut_one, cut_append _ hc, cut_one,
      cut_append _ hd, cut_one, cut_last he]
  have long : g.text.toList.length = 36 := by
    rw [written]
    simp [ha, hb, hc, hd, he]
  have digits : a ++ b ++ c ++ d ++ e = a ++ (b ++ (c ++ (d ++ e))) := by simp
  simp only [ofText?, long, ofHyphenated?, parts, digits, ← hds, ofDigits?_digits]
  rfl

end Guid

/-! ### Numbers -/

namespace Json

/-- A natural number is read back when it has no more bits than asked for. -/
theorem nat?_nat {bits n : Nat} (h : n < 2 ^ bits) : (nat n).nat? bits = some n := by
  have inside : (0 : Int) ≤ n ∧ (n : Int) ≤ (Nat.pow 2 bits - 1 : Nat) := by
    rw [Nat.pow_eq]
    omega
  rw [nat?, nat, intBetween?, if_pos inside, Option.map_some, Int.toNat_natCast]

/-- Numbers of eight bits are read back. -/
theorem uint8?_nat (v : UInt8) : (nat v.toNat).uint8? = some v := by
  rw [uint8?, nat?_nat v.toNat_lt, Option.map_some, UInt8.ofNat_toNat]

/-- Numbers of sixteen bits are read back. -/
theorem uint16?_nat (v : UInt16) : (nat v.toNat).uint16? = some v := by
  rw [uint16?, nat?_nat v.toNat_lt, Option.map_some, UInt16.ofNat_toNat]

/-- Numbers of thirty-two bits are read back. -/
theorem uint32?_nat (v : UInt32) : (nat v.toNat).uint32? = some v := by
  rw [uint32?, nat?_nat v.toNat_lt, Option.map_some, UInt32.ofNat_toNat]

/-- Signed numbers of thirty-two bits are read back. -/
theorem int32?_int (v : Int32) : (int v.toInt).int32? = some v := by
  have inside : -0x80000000 ≤ v.toInt ∧ v.toInt ≤ 0x7fffffff :=
    ⟨v.le_toInt, Int.le_of_lt_add_one v.toInt_lt⟩
  rw [int32?, intBetween?, if_pos inside, Option.map_some, Int32.ofInt_toInt]

/-- Bytes are read back. -/
theorem mapM_uint8?_nat (bytes : List UInt8) :
    (bytes.map fun b => nat b.toNat).mapM uint8? = some bytes := by
  induction bytes with
  | nil => rfl
  | cons b bs ih => simp [uint8?_nat, ih]

/-- A natural number of at most thirty-two bits has a text of its own. -/
theorem plain_nat {n : Nat} (h : n < 2 ^ 32) : Plain (nat n) :=
  .int (by omega) (by omega)

/-- An object with one member has a text of its own if the member has. -/
theorem plain_tagged (name : String) {j : Json} (h : Plain j) : Plain (tagged name j) :=
  .obj (by simpa using h) (by simp)

end Json

/-! ### Records -/

namespace Identifier

/-- An identifier is read back from its JSON form. -/
theorem ofJson?_toJson (i : Identifier) : ofJson? i.toJson = some i := by
  cases i with
  | numeric v => simp [toJson, ofJson?, Json.tagged, Json.onlyMember?, Json.uint32?_nat]
  | text v => simp [toJson, ofJson?, Json.tagged, Json.onlyMember?, Json.str?]
  | guid v => simp [toJson, ofJson?, Json.tagged, Json.onlyMember?, Json.str?, Guid.ofText?_text]

/-- The form of an identifier has a text of its own. -/
theorem plain_toJson (i : Identifier) : i.toJson.Plain := by
  cases i with
  | numeric v => exact Json.plain_tagged _ (Json.plain_nat v.toNat_lt)
  | text v => exact Json.plain_tagged _ (.str v)
  | guid v => exact Json.plain_tagged _ (.str v.text)

end Identifier

namespace NodeId

/-- A node identifier is read back from its JSON form. -/
theorem ofJson?_toJson (id : NodeId) : ofJson? id.toJson = some id := by
  simp [toJson, ofJson?, Json.fields?, List.lookup_cons, Json.uint16?_nat,
    Identifier.ofJson?_toJson]

/-- The form of a node identifier has a text of its own. -/
theorem plain_toJson (id : NodeId) : id.toJson.Plain := by
  have ns : id.ns.toNat < 2 ^ 32 := by have := id.ns.toNat_lt; omega
  exact .obj (by simpa using ⟨Json.plain_nat ns, id.identifier.plain_toJson⟩) (by simp)

end NodeId

namespace LocalizedText

/-- A localized text is read back from its JSON form. -/
theorem ofJson?_toJson (t : LocalizedText) : ofJson? t.toJson = some t := by
  simp [toJson, ofJson?, Json.fields?, List.lookup_cons, Json.str?]

/-- The form of a localized text has a text of its own. -/
theorem plain_toJson (t : LocalizedText) : t.toJson.Plain :=
  .obj (by simpa using ⟨.str t.locale, .str t.text⟩) (by simp)

end LocalizedText

/-! ### Variants -/

namespace Variant

/-- Values that their form determines: any but doubles, if the text of a time is read back. -/
structure Determined (v : Variant) : Prop where
  /-- It is no double. -/
  notDouble : v.dataType ≠ .double
  /-- The text of a time is read back. -/
  time : ∀ t, v = dateTime t → Instant.ofText? t.zuluText = some t

/-- The text of a time that a clock can show is read back. -/
theorem determined_of_shown {v : Variant} (h : v.dataType ≠ .double)
    (shown : ∀ t, v = dateTime t → t.Shown) : v.Determined :=
  ⟨h, fun t ht => Instant.ofText?_zuluText (shown t ht)⟩

/-- Only the empty variant has no value. -/
theorem valueToJson?_eq_none (v : Variant) : v.valueToJson? = none ↔ v = empty := by
  cases v <;> simp [valueToJson?]

/-- A value is read back as one of its data type. -/
theorem ofValueJson?_valueToJson? {v : Variant} (h : v.Determined) {j : Json}
    (hj : v.valueToJson? = some j) : ofValueJson? v.dataType j = some v := by
  cases v <;> simp only [valueToJson?, Option.some.injEq, reduceCtorEq] at hj <;> subst hj
  case boolean b => rfl
  case uint16 v => simp [dataType, ofValueJson?, Json.uint16?_nat]
  case uint32 v => simp [dataType, ofValueJson?, Json.uint32?_nat]
  case int32 v => simp [dataType, ofValueJson?, Json.int32?_int]
  case double v => exact absurd rfl h.notDouble
  case string s => rfl
  case localizedText t => simp [dataType, ofValueJson?, t.ofJson?_toJson]
  case dateTime t => simp [dataType, ofValueJson?, Json.str?, h.time t rfl]
  case byteString b =>
    simp only [dataType, ofValueJson?, Json.arr?, Option.bind_eq_bind, Option.bind_some,
      Json.mapM_uint8?_nat]
    rfl
  case nodeId id => simp [dataType, ofValueJson?, id.ofJson?_toJson]

/-- A variant is read back from its JSON form. -/
theorem ofJson?_toJson {v : Variant} (h : v.Determined) : ofJson? v.toJson = some v := by
  have type : dataTypeOfJson? (.str v.dataType.name) = some v.dataType :=
    DataType.ofName?_name v.dataType
  cases hj : v.valueToJson? with
  | none =>
    rw [valueToJson?_eq_none] at hj
    subst hj
    rfl
  | some j =>
    have value := ofValueJson?_valueToJson? h hj
    simp [toJson, hj, ofJson?, List.lookup_cons, type, value]

/-- The form of a value has a text of its own. -/
theorem plain_valueToJson? {v : Variant} {j : Json} (hj : v.valueToJson? = some j) : j.Plain := by
  cases v <;> simp only [valueToJson?, Option.some.injEq, reduceCtorEq] at hj <;> subst hj
  case boolean b => exact .bool b
  case uint16 v => exact Json.plain_nat (by have := v.toNat_lt; omega)
  case uint32 v => exact Json.plain_nat v.toNat_lt
  case int32 v => exact .int (by have := v.le_toInt; omega) (by have := v.toInt_lt; omega)
  case double v => exact .str _
  case string s => exact .str s
  case localizedText t => exact t.plain_toJson
  case dateTime t => exact .str _
  case byteString b =>
    refine .arr fun j hj => ?_
    obtain ⟨x, -, rfl⟩ := List.mem_map.mp hj
    exact Json.plain_nat (by have := x.toNat_lt; omega)
  case nodeId id => exact id.plain_toJson

/-- The form of a variant has a text of its own. -/
theorem plain_toJson (v : Variant) : v.toJson.Plain := by
  cases hj : v.valueToJson? with
  | none =>
    rw [toJson, hj]
    exact .obj (by simpa using .str _) (by simp)
  | some j =>
    rw [toJson, hj]
    exact .obj (by simpa using ⟨.str _, plain_valueToJson? hj⟩) (by simp)

/-- The form is an object with the data type and, unless the variant is empty, the value. -/
theorem toJson_eq (v : Variant) :
    v.toJson = .obj (("type", .str v.dataType.name) ::
      (v.valueToJson?.map fun j => ("value", j)).toList) := by
  cases hj : v.valueToJson? <;> simp [toJson, hj]

end Variant

/-! ### Reading back -/

/-- Is the value read back from its JSON form, and from the text of that form? -/
structure Restores {α : Type} (toJson : α → Json) (ofJson? : Json → Option α) (a : α) : Prop where
  /-- From the form. -/
  form : ofJson? (toJson a) = some a
  /-- From the text. -/
  text : (Json.ofText? (toJson a).text).bind ofJson? = some a

namespace Restores

variable {α : Type} {toJson : α → Json} {ofJson? : Json → Option α} {a b : α}

/-- A form with a text of its own is read back from the text too. -/
theorem of_plain (plain : (toJson a).Plain) (form : ofJson? (toJson a) = some a) :
    Restores toJson ofJson? a :=
  ⟨form, by rw [Json.ofText?_text plain, Option.bind_some, form]⟩

/-- Different values have different texts. -/
theorem eq_of_text_eq (ha : Restores toJson ofJson? a) (hb : Restores toJson ofJson? b)
    (h : (toJson a).text = (toJson b).text) : a = b := by
  have same := ha.text
  rw [h, hb.text] at same
  exact (Option.some.inj same).symm

end Restores

/-- Every node identifier, and every variant that is not a double, is read back from its JSON form
and from the text of the form, given that the text of its time is read back, as it is for every time
that a clock can show. The form of a variant is its data type and its value, which only the empty
variant lacks. Different values have different texts, and hence different forms. -/
theorem forms_lossless :
    (∀ id : NodeId, Restores NodeId.toJson NodeId.ofJson? id) ∧
      (∀ v : Variant, v.Determined → Restores Variant.toJson Variant.ofJson? v) ∧
      (∀ v : Variant, v.dataType ≠ .double → (∀ t, v = .dateTime t → t.Shown) → v.Determined) ∧
      (∀ v : Variant, (v.valueToJson? = none ↔ v = .empty) ∧ v.toJson =
        .obj (("type", .str v.dataType.name) ::
          (v.valueToJson?.map fun j => ("value", j)).toList)) ∧
      (∀ a b : NodeId, a.toJson.text = b.toJson.text → a = b) ∧
      (∀ v w : Variant, v.Determined → w.Determined → v.toJson.text = w.toJson.text → v = w) ∧
      ∀ (id : NodeId) (v : Variant), id.toJson.text ≠ v.toJson.text := by
  have nodeIds (id : NodeId) : Restores NodeId.toJson NodeId.ofJson? id :=
    .of_plain id.plain_toJson id.ofJson?_toJson
  have variants (v : Variant) (h : v.Determined) : Restores Variant.toJson Variant.ofJson? v :=
    .of_plain v.plain_toJson (Variant.ofJson?_toJson h)
  refine ⟨nodeIds, variants, fun v => Variant.determined_of_shown,
    fun v => ⟨v.valueToJson?_eq_none, v.toJson_eq⟩,
    fun a b => (nodeIds a).eq_of_text_eq (nodeIds b),
    fun v w hv hw => (variants v hv).eq_of_text_eq (variants w hw), fun id v same => ?_⟩
  have forms := Json.ofText?_text id.plain_toJson
  rw [same, Json.ofText?_text v.plain_toJson, v.toJson_eq, NodeId.toJson] at forms
  simp at forms

/-- Half a second after the start of a leap second. -/
def leapSecond : Variant := .dateTime ⟨1483228799, 1500000000⟩

/-- A leap second is read back. -/
theorem forms_leapSecond :
    leapSecond.Determined ∧
      leapSecond.toJson.text =
        "\x7b\"type\":\"DateTime\",\"value\":\"2016-12-31T23:59:60.500Z\"\x7d" ∧
      Restores Variant.toJson Variant.ofJson? leapSecond := by
  obtain ⟨-, restores, determined, -⟩ := forms_lossless
  have h : leapSecond.Determined := by
    refine determined leapSecond (by decide) fun t ht => ?_
    obtain rfl := Variant.dateTime.inj ht
    exact ⟨by decide, by decide⟩
  exact ⟨h, by decide +kernel, restores leapSecond h⟩

end AlarmServer
