import AlarmServer.Json.Reader
import AlarmServer.Proofs.Numerals

/-!
# Written JSON

What is written of a JSON value is read back as that value, when the value has no floating-point
number, its integers fit into 64 bits and its objects name no member twice.
-/

namespace AlarmServer.Json

/-- Values whose text determines them: integers fit into 64 bits, there is no other number, and the
members of an object have different names. -/
inductive Plain : Json → Prop where
  /-- Nothing. -/
  | null : Plain null
  /-- A truth value. -/
  | bool (b : Bool) : Plain (bool b)
  /-- An integer. -/
  | int {n : Int} (low : -0x8000000000000000 ≤ n) (high : n < 0x10000000000000000) : Plain (int n)
  /-- A text. -/
  | str (s : String) : Plain (str s)
  /-- A list. -/
  | arr {items : List Json} (plain : ∀ j ∈ items, Plain j) : Plain (arr items)
  /-- An object. -/
  | obj {members : List (String × Json)} (plain : ∀ m ∈ members, Plain m.2)
    (distinct : (members.map Prod.fst).Nodup) : Plain (obj members)

/-! ### What is written -/

/-- List items as they are written after the first one. -/
def laterItems (items : List Json) : List Char := items.flatMap fun j => ',' :: j.text.toList

/-- A member as it is written. -/
def memberText (m : String × Json) : List Char := (quoted m.1).toList ++ ':' :: m.2.text.toList

/-- Members as they are written after the first one. -/
def laterMembers (members : List (String × Json)) : List Char :=
  members.flatMap fun m => ',' :: memberText m

mutual

/-- A value is written after what stands there already. -/
theorem toList_write (out : String) :
    (j : Json) → (write out j).toList = out.toList ++ j.text.toList
  | null => by simp [text, write]
  | bool _ => by simp [text, write]
  | int _ => by simp [text, write]
  | float _ => by simp [text, write]
  | str _ => by simp [text, write]
  | arr [] => by simp [text, write, writeItems]
  | arr (j :: js) => by
    rw [text, write, write, writeItems, writeItems, toList_writeItems _ js,
      toList_writeItems _ js, if_pos rfl, if_pos rfl, toList_write _ j, toList_write _ j]
    simp
  | obj [] => by simp [text, write, writeMembers]
  | obj ((k, j) :: ms) => by
    rw [text, write, write, writeMembers, writeMembers, toList_writeMembers _ ms,
      toList_writeMembers _ ms, if_pos rfl, if_pos rfl, toList_write _ j, toList_write _ j]
    simp

/-- Items after the first one are written with a comma each. -/
theorem toList_writeItems (out : String) :
    (items : List Json) →
      (writeItems out false items).toList = out.toList ++ laterItems items ++ [']']
  | [] => by simp [writeItems, laterItems]
  | j :: js => by
    rw [writeItems, toList_writeItems _ js, toList_write _ j]
    simp [laterItems]

/-- Members after the first one are written with a comma each. -/
theorem toList_writeMembers (out : String) :
    (members : List (String × Json)) →
      (writeMembers out false members).toList = out.toList ++ laterMembers members ++ ['\x7d']
  | [] => by simp [writeMembers, laterMembers]
  | (k, j) :: ms => by
    rw [writeMembers, toList_writeMembers _ ms, toList_write _ j]
    simp [laterMembers, memberText]

end

/-- The text of a list that is not empty. -/
theorem toList_text_arr (j : Json) (js : List Json) :
    (arr (j :: js)).text.toList = '[' :: (j.text.toList ++ (laterItems js ++ [']'])) := by
  rw [text, write, writeItems, toList_writeItems, if_pos rfl, toList_write]
  simp

/-- The text of an object that is not empty. -/
theorem toList_text_obj (m : String × Json) (ms : List (String × Json)) :
    (obj (m :: ms)).text.toList = '\x7b' :: (memberText m ++ (laterMembers ms ++ ['\x7d'])) := by
  rw [text, write, writeMembers, toList_writeMembers, if_pos rfl, toList_write]
  simp [memberText]

/-! ### Quoted texts -/

/-- The characters of a text between its quotes. -/
theorem toList_quoted (s : String) :
    (quoted s).toList = '"' :: (s.toList.flatMap (fun c => (escapedChar c).toList) ++ ['"']) := by
  simp [quoted, String.toList_join, List.flatMap_map]

/-- Four written digits are read as the number. -/
theorem readUnit?_lowerHex {n : Nat} (hn : n < 16 ^ 4) (rest : List Char) :
    readUnit? ((Text.lowerHex 4 n).toList ++ rest) = some (n, rest) := by
  have value : Text.natOfDigits? 16 (Text.fixedDigits Text.lowerDigit 16 4 n) = some n := by
    rw [Text.natOfDigits?_fixedDigits (by omega) (by omega) (by omega), Nat.mod_eq_of_lt hn]
  rw [Text.lowerHex, String.toList_ofList]
  simp only [Text.fixedDigits, List.nil_append, List.cons_append] at value ⊢
  rw [readUnit?, value, Option.map_some]

/-- A written character is read as itself, with one unit of fuel. -/
theorem readQuoted?_escapedChar (done : List Char) (fuel : Nat) (c : Char) (rest : List Char) :
    readQuoted? done (fuel + 1) ((escapedChar c).toList ++ rest) =
      readQuoted? (c :: done) fuel rest := by
  unfold escapedChar
  split_ifs with hq hb hn hr ht h8 h12 h20
  · subst hq; simp [readQuoted?, readEscape?]
  · subst hb; simp [readQuoted?, readEscape?]
  · subst hn; simp [readQuoted?, readEscape?]
  · subst hr; simp [readQuoted?, readEscape?]
  · subst ht; simp [readQuoted?, readEscape?]
  · have : c = Char.ofNat 8 := by rw [← h8, Char.ofNat_toNat]
    subst this; simp [readQuoted?, readEscape?]
  · have : c = Char.ofNat 12 := by rw [← h12, Char.ofNat_toNat]
    subst this; simp [readQuoted?, readEscape?]
  · have unit := readUnit?_lowerHex (n := c.toNat) (by omega) rest
    have high : ¬ (0xd800 ≤ c.toNat ∧ c.toNat < 0xdc00) := by omega
    have low : c.toNat < 0xdc00 ∨ 0xe000 ≤ c.toNat := by omega
    simp [readQuoted?, readEscape?, unit, high, low]
  · rw [String.toList_singleton, List.cons_append, List.nil_append, readQuoted?]
    · simp [h20]
    · exact hq
    · exact hb

/-- Characters take at least their number of places. -/
theorem length_le_length_escapedChars (cs : List Char) :
    cs.length ≤ (cs.flatMap fun c => (escapedChar c).toList).length := by
  induction cs with
  | nil => simp
  | cons c cs ih =>
    have place : 0 < (escapedChar c).toList.length := by
      unfold escapedChar
      split_ifs <;> simp
    simp only [List.flatMap_cons, List.length_append, List.length_cons]
    omega

/-- Characters are read back up to the closing quote, with a unit of fuel each. -/
theorem readQuoted?_escapedChars (cs done : List Char) {fuel : Nat} (hf : cs.length < fuel)
    (rest : List Char) :
    readQuoted? done fuel (cs.flatMap (fun c => (escapedChar c).toList) ++ '"' :: rest) =
      some (String.ofList (done.reverse ++ cs), rest) := by
  induction cs generalizing done fuel with
  | nil =>
    obtain ⟨fuel, rfl⟩ := Nat.exists_eq_add_of_lt hf
    simp [readQuoted?]
  | cons c cs ih =>
    obtain ⟨fuel, rfl⟩ : ∃ f, fuel = f + 1 := ⟨fuel - 1, by omega⟩
    rw [List.flatMap_cons, List.append_assoc, readQuoted?_escapedChar, ih]
    · simp
    · simpa using hf

/-- A text is read back from between its quotes, with the length of what is left as fuel. -/
theorem readQuoted?_quoted (s : String) (rest : List Char) :
    ∃ cs, (quoted s).toList ++ rest = '"' :: cs ∧
      readQuoted? [] (cs.length + 1) cs = some (s, rest) := by
  refine ⟨s.toList.flatMap (fun c => (escapedChar c).toList) ++ '"' :: rest, ?_, ?_⟩
  · simp [toList_quoted]
  · have enough := length_le_length_escapedChars s.toList
    rw [readQuoted?_escapedChars]
    · simp
    · rw [List.length_append]
      omega

/-! ### Integers -/

/-- Does the text go on with something that is no part of a number? -/
def NumberEnds (rest : List Char) : Prop := ∀ c ∈ rest.head?, isNumberChar c = false

/-- A numeral with or without a minus in front is an integer. -/
theorem ofNumber?_toDigits (negative : Bool) (n : Nat) :
    ofNumber? (if negative then '-' :: Nat.toDigits 10 n else Nat.toDigits 10 n) =
      ofInteger? negative (Nat.toDigits 10 n) := by
  have numeral := Text.numeral_toDigits n
  have whole : (Nat.toDigits 10 n).takeWhile Char.isDigit = Nat.toDigits 10 n :=
    List.takeWhile_eq_self_iff.mpr numeral.digits
  have nothing : (Nat.toDigits 10 n).dropWhile Char.isDigit = [] :=
    List.dropWhile_eq_nil_iff.mpr numeral.digits
  have front : (Nat.toDigits 10 n).length = 1 ∨ (Nat.toDigits 10 n).head? ≠ some '0' := by
    rcases Nat.eq_zero_or_pos n with rfl | hn
    · exact .inl rfl
    · exact .inr (Text.head?_toDigits hn)
  cases negative with
  | true => simp [ofNumber?, whole, nothing, front]
  | false =>
    obtain ⟨c, cs, hc, digit⟩ := numeral.exists_cons
    have sign : c ≠ '-' := by
      rintro rfl
      exact absurd digit (by decide)
    rw [hc] at whole nothing front ⊢
    have front : cs = [] ∨ c ≠ '0' := by simpa using front
    simp [ofNumber?, whole, nothing, front, sign]

/-- The text of an integer. -/
theorem toList_text_int (n : Int) :
    (int n).text.toList =
      if n < 0 then '-' :: Nat.toDigits 10 n.natAbs else Nat.toDigits 10 n.natAbs := by
  cases n with
  | ofNat n => simp [text, write, toString, Int.repr]
  | negSucc n => simp [text, write, toString, Int.repr]

/-- An integer within 64 bits is read back. -/
theorem ofNumber?_text_int {n : Int} (low : -0x8000000000000000 ≤ n)
    (high : n < 0x10000000000000000) : ofNumber? (int n).text.toList = some (int n) := by
  obtain ⟨m, hm⟩ : ∃ m, n.natAbs = m := ⟨_, rfl⟩
  have number := ofNumber?_toDigits (decide (n < 0)) m
  simp only [decide_eq_true_eq] at number
  rw [toList_text_int, hm, number, ofInteger?, (Text.numeral_toDigits m).value]
  by_cases negative : n < 0
  · have inside : 0 < m ∧ m ≤ 0x8000000000000000 := by omega
    have value : -(m : Int) = n := by omega
    simp [negative, inside, value]
  · have inside : m < 0x10000000000000000 := by omega
    have value : (m : Int) = n := by omega
    simp [negative, inside, value]

/-- The text of an integer is not empty and has the characters of a number only. -/
theorem chars_text_int (n : Int) :
    (int n).text.toList ≠ [] ∧ ∀ c ∈ (int n).text.toList, isNumberChar c = true := by
  have digit : ∀ c ∈ Nat.toDigits 10 n.natAbs, isNumberChar c = true := fun c hc => by
    simp [isNumberChar, (Text.numeral_toDigits _).digits c hc]
  rw [toList_text_int]
  split
  · refine ⟨by simp, fun c hc => ?_⟩
    rcases List.mem_cons.mp hc with rfl | hc
    · rfl
    · exact digit c hc
  · exact ⟨Nat.toDigits_ne_nil, digit⟩

/-! ### Reading -/

/-- Can the character stand at the start of a value? -/
def Starts (c : Char) : Prop := isSpace c = false ∧ c ≠ ']'

/-- White space is skipped, and nothing else. -/
theorem skip_cons {c : Char} (h : isSpace c = false) (cs : List Char) :
    skip (c :: cs) = c :: cs := by
  simp [skip, h]

/-- A number can start with any of its characters. -/
theorem starts_of_isNumberChar {c : Char} (h : isNumberChar c = true) : Starts c := by
  refine ⟨?_, ?_⟩
  · by_contra space
    simp only [isSpace, Bool.not_eq_false, Bool.or_eq_true, decide_eq_true_eq] at space
    rcases space with ((rfl | rfl) | rfl) | rfl <;> simp [isNumberChar] at h
  · rintro rfl
    simp [isNumberChar] at h

/-- The text of a value starts with a character that can stand at the start of one. -/
theorem Plain.starts {j : Json} (h : Plain j) : ∃ c cs, j.text.toList = c :: cs ∧ Starts c := by
  cases h with
  | null => exact ⟨_, _, rfl, rfl, by decide⟩
  | bool b => cases b <;> exact ⟨_, _, rfl, rfl, by decide⟩
  | @int n low high =>
    obtain ⟨nonempty, chars⟩ := chars_text_int n
    obtain ⟨c, cs, hc⟩ := List.exists_cons_of_ne_nil nonempty
    exact ⟨c, cs, hc, starts_of_isNumberChar (chars c (by simp [hc]))⟩
  | str s => exact ⟨'"', _, by rw [text, write, String.empty_append, toList_quoted], rfl, by decide⟩
  | @arr items plain =>
    cases items with
    | nil => exact ⟨_, _, rfl, rfl, by decide⟩
    | cons j js => exact ⟨_, _, toList_text_arr j js, rfl, by decide⟩
  | @obj members plain distinct =>
    cases members with
    | nil => exact ⟨_, _, rfl, rfl, by decide⟩
    | cons m ms => exact ⟨_, _, toList_text_obj m ms, rfl, by decide⟩

/-- An integer is read up to what is no part of a number. -/
theorem read?_text_int {n : Int} (low : -0x8000000000000000 ≤ n)
    (high : n < 0x10000000000000000) (depth : Nat) {rest : List Char} (hr : NumberEnds rest) :
    read? (depth + 1) ((int n).text.toList ++ rest) = some (int n, rest) := by
  obtain ⟨nonempty, chars⟩ := chars_text_int n
  have ends : rest.takeWhile isNumberChar = [] ∧ rest.dropWhile isNumberChar = rest := by
    cases rest with
    | nil => exact ⟨rfl, rfl⟩
    | cons c cs => simp [hr c rfl]
  have taken : ((int n).text.toList ++ rest).takeWhile isNumberChar = (int n).text.toList := by
    rw [List.takeWhile_append_of_pos chars, ends.1, List.append_nil]
  have left : ((int n).text.toList ++ rest).dropWhile isNumberChar = rest := by
    rw [List.dropWhile_append_of_pos chars, ends.2]
  have number := ofNumber?_text_int low high
  obtain ⟨c, cs, hc⟩ := List.exists_cons_of_ne_nil nonempty
  have hn : isNumberChar c = true := chars c (by simp [hc])
  rw [read?]
  rw [hc, List.cons_append] at taken left ⊢
  rw [skip_cons (starts_of_isNumberChar hn).1]
  split
  case h_7 => rw [taken, left, ← hc, number, Option.map_some]
  all_goals
    next heq =>
      obtain ⟨rfl, -⟩ := List.cons.inj heq
      simp [isNumberChar] at hn

/-- Is the value read back from its text, up to something that is no part of a number? Its length
is bound enough on the nesting. -/
def Reads (j : Json) : Prop :=
  ∀ ⦃depth : Nat⦄ ⦃rest : List Char⦄, j.text.toList.length ≤ depth → NumberEnds rest →
    read? depth (j.text.toList ++ rest) = some (j, rest)

/-- The items of a list are read up to its bracket. -/
theorem readItems?_text {j : Json} {js : List Json} (hj : Reads j) (hjs : ∀ i ∈ js, Reads i)
    (done : List Json) {depth : Nat} (rest : List Char)
    (hd : (j.text.toList ++ (laterItems js ++ [']'])).length ≤ depth) :
    readItems? depth done (j.text.toList ++ (laterItems js ++ ']' :: rest)) =
      some (arr (done.reverse ++ j :: js), rest) := by
  induction js generalizing j done depth with
  | nil =>
    simp only [laterItems, List.flatMap_nil, List.nil_append, List.length_append,
      List.length_singleton] at hd ⊢
    obtain ⟨depth, rfl⟩ : ∃ d, depth = d + 1 := ⟨depth - 1, by omega⟩
    have first := @hj depth (']' :: rest) (by omega) (by simp [NumberEnds, isNumberChar])
    simp [readItems?, first, skip, isSpace]
  | cons i is ih =>
    have later : laterItems (i :: is) = ',' :: (i.text.toList ++ laterItems is) := rfl
    simp only [later, List.cons_append, List.append_assoc, List.length_append,
      List.length_cons] at hd ⊢
    obtain ⟨depth, rfl⟩ : ∃ d, depth = d + 1 := ⟨depth - 1, by omega⟩
    have first := @hj depth (',' :: (i.text.toList ++ (laterItems is ++ ']' :: rest))) (by omega)
      (by simp [NumberEnds, isNumberChar])
    have others := @ih i (hjs i (by simp)) (fun k hk => hjs k (by simp [hk])) (j :: done) depth
      (by simp only [List.length_append, List.length_cons]; omega)
    simp [readItems?, first, skip, isSpace, others]

/-- A member of a new name is added at the end. -/
theorem addMember_of_notMem {members : List (String × Json)} {name : String} (value : Json)
    (h : name ∉ members.map Prod.fst) :
    addMember members name value = members ++ [(name, value)] := by
  have others : ∀ m ∈ members, m.1 ≠ name := by
    rintro m hm rfl
    exact h (List.mem_map_of_mem hm)
  rw [addMember, List.filter_eq_self.mpr fun m hm => decide_eq_true (others m hm)]

/-- The text of a member is longer than that of its value. -/
theorem length_lt_memberText (m : String × Json) :
    m.2.text.toList.length < (memberText m).length := by
  rw [memberText, List.length_append, List.length_cons]
  omega

/-- A member whose name none of the others has is new to those before it. -/
theorem notMem_of_nodup {done ms : List (String × Json)} {m : String × Json}
    (distinct : ((done ++ m :: ms).map Prod.fst).Nodup) : m.1 ∉ done.map Prod.fst := by
  rw [List.map_append, List.nodup_append] at distinct
  exact fun old => distinct.2.2 _ old _ List.mem_cons_self rfl

/-- One member is read; a comma goes on to the next, a brace ends the object. -/
theorem readMembers?_memberText {m : String × Json} (hm : Reads m.2) {done : List (String × Json)}
    (new : m.1 ∉ done.map Prod.fst) {depth : Nat} (hd : m.2.text.toList.length ≤ depth)
    (rest : List Char) :
    readMembers? (depth + 1) done (memberText m ++ ',' :: rest) =
        readMembers? depth (done ++ [m]) rest ∧
      readMembers? (depth + 1) done (memberText m ++ '\x7d' :: rest) =
        some (obj (done ++ [m]), rest) := by
  have start (after : List Char) : ∃ cs, memberText m ++ after = '"' :: cs ∧
      readQuoted? [] (cs.length + 1) cs = some (m.1, ':' :: (m.2.text.toList ++ after)) := by
    obtain ⟨cs, written, name⟩ := readQuoted?_quoted m.1 (':' :: (m.2.text.toList ++ after))
    exact ⟨cs, by rw [← written, memberText, List.append_assoc, List.cons_append], name⟩
  constructor
  · obtain ⟨cs, written, name⟩ := start (',' :: rest)
    have value := @hm depth (',' :: rest) hd (by simp [NumberEnds, isNumberChar])
    simp [written, readMembers?, name, value, skip, isSpace, addMember_of_notMem _ new]
  · obtain ⟨cs, written, name⟩ := start ('\x7d' :: rest)
    have value := @hm depth ('\x7d' :: rest) hd (by simp [NumberEnds, isNumberChar])
    simp [written, readMembers?, name, value, skip, isSpace, addMember_of_notMem _ new]

/-- The members of an object are read up to its brace. -/
theorem readMembers?_text {m : String × Json} {ms : List (String × Json)} (hm : Reads m.2)
    (hms : ∀ i ∈ ms, Reads i.2) (done : List (String × Json)) {depth : Nat} (rest : List Char)
    (distinct : ((done ++ m :: ms).map Prod.fst).Nodup)
    (hd : (memberText m ++ (laterMembers ms ++ ['\x7d'])).length ≤ depth) :
    readMembers? depth done (memberText m ++ (laterMembers ms ++ '\x7d' :: rest)) =
      some (obj (done ++ m :: ms), rest) := by
  induction ms generalizing m done depth with
  | nil =>
    have place := length_lt_memberText m
    rw [List.length_append] at hd
    obtain ⟨depth, rfl⟩ : ∃ d, depth = d + 1 := ⟨depth - 1, by omega⟩
    exact (readMembers?_memberText hm (notMem_of_nodup distinct) (by omega) rest).2
  | cons i is ih =>
    have place := length_lt_memberText m
    have later : laterMembers (i :: is) = ',' :: (memberText i ++ laterMembers is) := rfl
    rw [later] at hd ⊢
    simp only [List.cons_append, List.append_assoc, List.length_append, List.length_cons] at hd ⊢
    obtain ⟨depth, rfl⟩ : ∃ d, depth = d + 1 := ⟨depth - 1, by omega⟩
    have others := @ih i (hms i (by simp)) (fun k hk => hms k (by simp [hk])) (done ++ [m]) depth
      (by simpa using distinct) (by simp only [List.length_append, List.length_cons]; omega)
    rw [(readMembers?_memberText hm (notMem_of_nodup distinct) (by omega) _).1, others,
      List.append_assoc, List.singleton_append]

/-! ### Reading back -/

/-- A bound on the nesting that the text needs is not zero. -/
theorem Plain.reads_of_succ {j : Json} (h : Plain j)
    (step : ∀ depth rest, j.text.toList.length ≤ depth + 1 → NumberEnds rest →
      read? (depth + 1) (j.text.toList ++ rest) = some (j, rest)) : Reads j := by
  intro depth rest hd hr
  obtain ⟨c, cs, hc, -⟩ := h.starts
  have place : 0 < j.text.toList.length := by simp [hc]
  obtain ⟨depth, rfl⟩ : ∃ d, depth = d + 1 := ⟨depth - 1, by omega⟩
  exact step depth rest hd hr

/-- A list with a first item is read item by item. -/
theorem read?_bracket {c : Char} (start : Starts c) (depth : Nat) (cs : List Char) :
    read? (depth + 1) ('[' :: c :: cs) = readItems? depth [] (c :: cs) := by
  rw [read?, skip_cons rfl]
  simp only [skip_cons start.1]
  split
  · next close => exact absurd (List.cons.inj close).1 start.2
  · rfl

/-- An object with a first member is read member by member. -/
theorem read?_brace (depth : Nat) (m : String × Json) (rest : List Char) :
    read? (depth + 1) ('\x7b' :: (memberText m ++ rest)) =
      readMembers? depth [] (memberText m ++ rest) := by
  have quote : isSpace '"' = false := rfl
  rw [memberText, toList_quoted, List.cons_append, List.cons_append, read?, skip_cons rfl]
  simp [skip_cons quote]

/-- Whatever has a text of its own is read back from it. -/
theorem Plain.reads {j : Json} (h : Plain j) : Reads j := by
  induction h with
  | null =>
    refine Plain.null.reads_of_succ fun depth rest _ _ => ?_
    have word : Json.null.text.toList = "null".toList := rfl
    simp [word, read?, skip, isSpace]
  | bool b =>
    refine (Plain.bool b).reads_of_succ fun depth rest _ _ => ?_
    have word : (Json.bool b).text.toList = (if b then "true" else "false").toList := rfl
    cases b <;> simp [word, read?, skip, isSpace]
  | int low high =>
    exact (Plain.int low high).reads_of_succ fun depth _ _ hr => read?_text_int low high depth hr
  | str s =>
    refine (Plain.str s).reads_of_succ fun depth rest _ _ => ?_
    obtain ⟨cs, written, quoted⟩ := readQuoted?_quoted s rest
    rw [text, write, String.empty_append, written]
    simp [read?, skip, isSpace, quoted]
  | @arr items plain ih =>
    refine (Plain.arr plain).reads_of_succ fun depth rest hd _ => ?_
    cases items with
    | nil =>
      have empty : (Json.arr []).text.toList = "[]".toList := rfl
      simp [empty, read?, skip, isSpace]
    | cons j js =>
      rw [toList_text_arr] at hd ⊢
      have read := readItems?_text (ih j List.mem_cons_self)
        (fun i hi => ih i (List.mem_cons_of_mem j hi)) [] rest (Nat.le_of_succ_le_succ hd)
      obtain ⟨c, cs, hc, start⟩ := (plain j List.mem_cons_self).starts
      rw [hc] at read ⊢
      simp only [List.cons_append, List.append_assoc, List.nil_append] at read ⊢
      rw [read?_bracket start, read, List.reverse_nil, List.nil_append]
  | @obj members plain distinct ih =>
    refine (Plain.obj plain distinct).reads_of_succ fun depth rest hd _ => ?_
    cases members with
    | nil =>
      have empty : (Json.obj []).text.toList = "\x7b\x7d".toList := rfl
      simp [empty, read?, skip, isSpace]
    | cons m ms =>
      rw [toList_text_obj] at hd ⊢
      have read := readMembers?_text (ih m List.mem_cons_self)
        (fun i hi => ih i (List.mem_cons_of_mem m hi)) [] rest distinct (Nat.le_of_succ_le_succ hd)
      simp only [List.cons_append, List.append_assoc, List.nil_append] at read ⊢
      rw [read?_brace, read]

/-- A value is read back from its text. -/
theorem ofText?_text {j : Json} (h : Plain j) : ofText? j.text = some j := by
  have ends : NumberEnds [] := by simp [NumberEnds]
  have read := h.reads (Nat.le_succ j.text.toList.length) ends
  rw [List.append_nil] at read
  simp only [ofText?, read, Option.bind_eq_bind, Option.bind_some]
  rfl

end AlarmServer.Json
