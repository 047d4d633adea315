import AgentTrial.Proofs.Json.Token
import Mathlib.Data.List.DropRight

/-!
# Reading what was written

The text of a JSON value, read back.

* **Numbers** — digits are taken as they come: how a number is read from its own text is part of
  what is known of a value (`Value.ReadsAs`).
* **Texts** — the reader finds every part of a text where it ends, with fuel for each of its
  characters (`readsTexts`), so a whole text is read without a fault (`Document.ofText_compact`).
* **Values** — what is read is the value, if it is not too deep (`Value.ofText?_compact`).
-/

namespace AgentTrial.Json

/-! ## What reads as what -/

/-- The text of a number, alone, is read as a number. -/
def Number.ReadsAs (n m : Number) : Prop :=
  readValue 1 n.text.toList = (.number (.ok m), [])

mutual

/-- Two values that are alike but for their numbers, where the text of each is read as its
counterpart. -/
inductive Value.ReadsAs : Value → Value → Prop
  | null : Value.ReadsAs .null .null
  | bool (b : Bool) : Value.ReadsAs (.bool b) (.bool b)
  | number {n m : Number} (reads : n.ReadsAs m) : Value.ReadsAs (.number n) (.number m)
  | string (s : String) : Value.ReadsAs (.string s) (.string s)
  | array {items items' : List Value} (reads : ItemsReadAs items items') :
      Value.ReadsAs (.array items) (.array items')
  | object {members members' : List (String × Value)} (reads : MembersReadAs members members') :
      Value.ReadsAs (.object members) (.object members')

inductive ItemsReadAs : List Value → List Value → Prop
  | nil : ItemsReadAs [] []
  | cons {item item' : Value} {items items' : List Value} (read : item.ReadsAs item')
      (reads : ItemsReadAs items items') : ItemsReadAs (item :: items) (item' :: items')

inductive MembersReadAs : List (String × Value) → List (String × Value) → Prop
  | nil : MembersReadAs [] []
  | cons (key : String) {value value' : Value} {members members' : List (String × Value)}
      (read : value.ReadsAs value') (reads : MembersReadAs members members') :
      MembersReadAs ((key, value) :: members) ((key, value') :: members')

end

/-- Members of which each is read as itself may stand before others. -/
theorem MembersReadAs.same_append {ms ns ns' : List (String × Value)}
    (same : ∀ m ∈ ms, m.2.ReadsAs m.2) (reads : MembersReadAs ns ns') :
    MembersReadAs (ms ++ ns) (ms ++ ns') := by
  induction ms with
  | nil => exact reads
  | cons m ms ih =>
      obtain ⟨here, same⟩ := List.forall_mem_cons.mp same
      exact .cons m.1 here (ih same)

/-- An object of which each member is read as itself is read as itself. -/
theorem Value.ReadsAs.same {ms : List (String × Value)} (same : ∀ m ∈ ms, m.2.ReadsAs m.2) :
    (Value.object ms).ReadsAs (.object ms) := by
  have reads := MembersReadAs.same_append same .nil
  rw [List.append_nil] at reads
  exact .object reads

/-! ## Parts -/

section Parts

/-- Parts in a row, with commas between them. -/
def joined (parts : List String) : List Char := (",".intercalate parts).toList

theorem joined_singleton (part : String) : joined [part] = part.toList := by
  rw [joined, String.intercalate_singleton]

theorem joined_cons_cons (part next : String) (parts : List String) :
    joined (part :: next :: parts) = part.toList ++ ',' :: joined (next :: parts) := by
  simp [joined, String.intercalate_cons_cons]

variable {fuel : Nat} {cs rest : List Char} {reading : Reading}

/-- Where a value is read, there is a character that does not close an array. -/
theorem head_of_readValue (read : readValue fuel cs = (reading, rest))
    (whole : ∀ taken skipped, reading ≠ .broken taken skipped) :
    ∃ c tail, skipBlanks cs = c :: tail ∧ c ≠ ']' := by
  rcases fuel with _ | fuel
  · cases read
    exact absurd rfl (whole _ _)
  · rw [readValue] at read
    rcases visible : skipBlanks cs with _ | ⟨c, tail⟩
    · rw [visible] at read
      cases read
      exact absurd rfl (whole _ _)
    · refine ⟨c, tail, rfl, ?_⟩
      rintro rfl
      rw [visible] at read
      cases read
      exact absurd rfl (whole _ _)

theorem ofValue_ne_broken (v : Value) (taken skipped : Fault) :
    Reading.ofValue v ≠ .broken taken skipped := by
  cases v <;> simp [Reading.ofValue]

theorem skipBlanks_skipBlanks (cs : List Char) : skipBlanks (skipBlanks cs) = skipBlanks cs :=
  List.dropWhile_idempotent ..

theorem readItems_skipBlanks (fuel : Nat) (afterComma : Bool) (cs : List Char) :
    readItems fuel afterComma (skipBlanks cs) = readItems fuel afterComma cs := by
  cases fuel with
  | zero => rfl
  | succ fuel => rw [readItems, readItems, skipBlanks_skipBlanks]

theorem readMembers_skipBlanks (fuel : Nat) (afterComma : Bool) (cs : List Char) :
    readMembers fuel afterComma (skipBlanks cs) = readMembers fuel afterComma cs := by
  cases fuel with
  | zero => rfl
  | succ fuel => rw [readMembers, readMembers, skipBlanks_skipBlanks]

theorem readValue_skipBlanks (fuel : Nat) (cs : List Char) :
    readValue fuel (skipBlanks cs) = readValue fuel cs := by
  cases fuel with
  | zero => rfl
  | succ fuel => rw [readValue, readValue, skipBlanks_skipBlanks]

/-- What follows an item of an array. -/
def afterItem (fuel : Nat) (item : Reading) (rest : List Char) : Items × List Char :=
  match skipBlanks rest with
  | [] => (.cons item (.broken .endOfInput false), [])
  | ']' :: rest => (.cons item .done, rest)
  | ',' :: rest => (.cons item (readItems fuel true rest).1, (readItems fuel true rest).2)
  | _ => (.cons item (.broken .malformed false), [])

theorem readItems_of_readValue {afterComma : Bool} {v : Value}
    (read : readValue fuel cs = (.ofValue v, rest)) :
    readItems (fuel + 1) afterComma cs = afterItem fuel (.ofValue v) rest := by
  obtain ⟨c, tail, visible, opens⟩ := head_of_readValue read (ofValue_ne_broken v)
  have read' : readValue fuel (c :: tail) = (.ofValue v, rest) := by
    rw [← visible, readValue_skipBlanks, read]
  rw [readItems, visible]
  split
  · rename_i same
    cases same
  · rename_i same
    exact absurd (List.cons.inj same).1 opens
  · rw [read']
    rfl

theorem readItems_last {afterComma : Bool} {v : Value}
    (read : readValue fuel cs = (.ofValue v, ']' :: rest)) :
    readItems (fuel + 1) afterComma cs = (.cons (.ofValue v) .done, rest) :=
  readItems_of_readValue read

theorem readItems_comma {afterComma : Bool} {v : Value}
    (read : readValue fuel cs = (.ofValue v, ',' :: rest)) :
    readItems (fuel + 1) afterComma cs =
      (.cons (.ofValue v) (readItems fuel true rest).1, (readItems fuel true rest).2) :=
  readItems_of_readValue read

theorem readValue_quote (cs : List Char) :
    readValue (fuel + 1) ('"' :: cs) =
      (.string (readQuoted (.ok []) cs).1, (readQuoted (.ok []) cs).2) := rfl

/-- An array with an item is read item by item. -/
theorem readValue_array {item : Reading} {items : Items}
    (read : readItems fuel false cs = (.cons item items, rest)) :
    readValue (fuel + 1) ('[' :: cs) = (.array (.cons item items), rest) := by
  have opens (tail : List Char) : skipBlanks cs ≠ ']' :: tail := by
    intro closes
    rcases fuel with _ | fuel
    · cases read
    · rw [readItems, closes] at read
      cases read
  have bracket : skipBlanks ('[' :: cs) = '[' :: cs := rfl
  have noDigit : Text.isAsciiDigit '[' = false := by decide
  simp only [readValue, bracket, noDigit, Char.reduceEq, Bool.false_eq_true, if_false, if_true]
  rw [readItems_skipBlanks, read]

/-- An object with a member is read member by member. -/
theorem readValue_object {key : Quoted} {value : Reading} {members : Members}
    (read : readMembers fuel false cs = (.cons key value members, rest)) :
    readValue (fuel + 1) ('\x7b' :: cs) = (.object (.cons key value members), rest) := by
  have opens (tail : List Char) : skipBlanks cs ≠ '\x7d' :: tail := by
    intro closes
    rcases fuel with _ | fuel
    · cases read
    · rw [readMembers, closes] at read
      cases read
  have bracket : skipBlanks ('\x7b' :: cs) = '\x7b' :: cs := rfl
  have noDigit : Text.isAsciiDigit '\x7b' = false := by decide
  simp only [readValue, bracket, noDigit, Char.reduceEq, Bool.false_eq_true, if_false, if_true]
  rw [readMembers_skipBlanks, read]

theorem quote_append (s : String) (rest : List Char) :
    (quote s).toList ++ rest = '"' :: (s.toList.flatMap escapeChar ++ '"' :: rest) := by
  simp [quote]

/-- What follows a member of an object. -/
def afterMember (fuel : Nat) (key : Quoted) (value : Reading) (rest : List Char) :
    Members × List Char :=
  match skipBlanks rest with
  | [] => (.cons key value (.broken .endOfInput false), [])
  | '\x7d' :: rest => (.cons key value .done, rest)
  | ',' :: rest =>
    (.cons key value (readMembers fuel true rest).1, (readMembers fuel true rest).2)
  | _ => (.cons key value (.broken .malformed false), [])

theorem readMembers_of_readValue {afterComma : Bool} {v : Value} (key : String)
    (read : readValue fuel cs = (.ofValue v, rest)) :
    readMembers (fuel + 1) afterComma ((quote key).toList ++ ':' :: cs) =
      afterMember fuel (.ofString key) (.ofValue v) rest := by
  have visible (cs : List Char) : skipBlanks ('"' :: cs) = '"' :: cs := rfl
  have colon : skipBlanks (':' :: cs) = ':' :: cs := rfl
  simp only [quote_append, readMembers, visible, readQuoted_text, colon, read]
  rfl

theorem readMembers_last {afterComma : Bool} {v : Value} (key : String)
    (read : readValue fuel cs = (.ofValue v, '\x7d' :: rest)) :
    readMembers (fuel + 1) afterComma ((quote key).toList ++ ':' :: cs) =
      (.cons (.ofString key) (.ofValue v) .done, rest) :=
  readMembers_of_readValue key read

theorem readMembers_comma {afterComma : Bool} {v : Value} (key : String)
    (read : readValue fuel cs = (.ofValue v, ',' :: rest)) :
    readMembers (fuel + 1) afterComma ((quote key).toList ++ ':' :: cs) =
      (.cons (.ofString key) (.ofValue v) (readMembers fuel true rest).1,
        (readMembers fuel true rest).2) :=
  readMembers_of_readValue key read

end Parts

/-! ## Whole texts -/

/-- With this much fuel, texts of fewer characters are read. -/
structure ReadsTexts (fuel : Nat) : Prop where
  value {v w : Value} (reads : v.ReadsAs w) (enough : v.compact.toList.length < fuel)
    {rest : List Char} (stops : Stops rest) :
    readValue fuel (v.compact.toList ++ rest) = (.ofValue w, rest)
  items {vs ws : List Value} (reads : ItemsReadAs vs ws) (nonempty : vs ≠ [])
    (enough : (joined (compactItems vs)).length + 1 < fuel) (afterComma : Bool)
    (rest : List Char) :
    readItems fuel afterComma (joined (compactItems vs) ++ ']' :: rest) = (.ofValues ws, rest)
  members {ms ns : List (String × Value)} (reads : MembersReadAs ms ns) (nonempty : ms ≠ [])
    (enough : (joined (compactMembers ms)).length + 1 < fuel) (afterComma : Bool)
    (rest : List Char) :
    readMembers fuel afterComma (joined (compactMembers ms) ++ '\x7d' :: rest) =
      (.ofMembers ns, rest)

section Steps

theorem stops_cons {c : Char} (closes : c = ',' ∨ c = ']' ∨ c = '\x7d') (rest : List Char) :
    Stops (c :: rest) := by
  constructor
  · rintro d ⟨⟩
    rcases closes with rfl | rfl | rfl <;> decide
  · rintro d ⟨⟩
    rcases closes with rfl | rfl | rfl <;> decide

variable {fuel : Nat} (texts : ReadsTexts fuel)

include texts

theorem ReadsTexts.readItems {vs ws : List Value} (reads : ItemsReadAs vs ws) (nonempty : vs ≠ [])
    (enough : (joined (compactItems vs)).length < fuel) (afterComma : Bool) (rest : List Char) :
    readItems (fuel + 1) afterComma (joined (compactItems vs) ++ ']' :: rest) =
      (.ofValues ws, rest) := by
  cases reads with
  | nil => exact absurd rfl nonempty
  | @cons v w vs ws read reads =>
    cases vs with
    | nil =>
        cases reads
        rw [compactItems, compactItems, joined_singleton] at enough ⊢
        have item := texts.value read enough (stops_cons (.inr (.inl rfl)) rest)
        rw [readItems_last item]
        rfl
    | cons next vs =>
        have text : joined (compactItems (v :: next :: vs)) =
            v.compact.toList ++ ',' :: joined (compactItems (next :: vs)) := joined_cons_cons ..
        rw [text, List.length_append, List.length_cons] at enough
        rw [text, List.append_assoc, List.cons_append]
        have item := texts.value read (by omega)
          (stops_cons (.inl rfl) (joined (compactItems (next :: vs)) ++ ']' :: rest))
        have items := texts.items reads nofun (by omega) true rest
        rw [readItems_comma item, items]
        rfl

theorem ReadsTexts.readMembers {ms ns : List (String × Value)} (reads : MembersReadAs ms ns)
    (nonempty : ms ≠ []) (enough : (joined (compactMembers ms)).length < fuel)
    (afterComma : Bool) (rest : List Char) :
    readMembers (fuel + 1) afterComma (joined (compactMembers ms) ++ '\x7d' :: rest) =
      (.ofMembers ns, rest) := by
  cases reads with
  | nil => exact absurd rfl nonempty
  | @cons key v w ms ns read reads =>
    have member (rest : List Char) : (quote key ++ ":" ++ v.compact).toList ++ rest =
        (quote key).toList ++ ':' :: (v.compact.toList ++ rest) := by simp
    have size : v.compact.toList.length < (quote key ++ ":" ++ v.compact).toList.length := by
      simp only [String.toList_append, List.length_append]
      have colon : (":" : String).toList.length = 1 := rfl
      omega
    cases ms with
    | nil =>
        cases reads
        rw [compactMembers, compactMembers, joined_singleton] at enough ⊢
        have value := texts.value read (by omega) (stops_cons (.inr (.inr rfl)) rest)
        rw [member, readMembers_last key value]
        rfl
    | cons next ms =>
        have text : joined (compactMembers ((key, v) :: next :: ms)) =
            (quote key ++ ":" ++ v.compact).toList ++ ',' :: joined (compactMembers (next :: ms)) :=
          joined_cons_cons ..
        rw [text, List.length_append, List.length_cons] at enough
        rw [text, List.append_assoc, List.cons_append]
        have value := texts.value read (by omega)
          (stops_cons (.inl rfl) (joined (compactMembers (next :: ms)) ++ '\x7d' :: rest))
        have members := texts.members reads nofun (by omega) true rest
        rw [member, readMembers_comma key value, members]
        rfl

theorem ReadsTexts.readValue {v w : Value} (reads : v.ReadsAs w)
    (enough : v.compact.toList.length ≤ fuel) {rest : List Char} (stops : Stops rest) :
    readValue (fuel + 1) (v.compact.toList ++ rest) = (.ofValue w, rest) := by
  cases reads with
  | null => rfl
  | bool b => cases b <;> rfl
  | number reads => exact readValue_number reads stops _
  | string s =>
      rw [Value.compact, quote_append, readValue_quote, readQuoted_text]
      rfl
  | @array vs ws reads =>
      have text : (Value.array vs).compact.toList =
          '[' :: (joined (compactItems vs) ++ [']']) := by
        simp [Value.compact, joined]
      cases reads with
      | nil => rfl
      | cons read reads =>
          rw [text] at enough ⊢
          simp only [List.length_cons, List.length_append, List.length_nil] at enough
          have items := texts.items (.cons read reads) nofun (by omega) false rest
          rw [List.cons_append, List.append_assoc]
          exact readValue_array items
  | @object ms ns reads =>
      have text : (Value.object ms).compact.toList =
          '\x7b' :: (joined (compactMembers ms) ++ ['\x7d']) := by
        simp [Value.compact, joined]
      cases reads with
      | nil => rfl
      | cons key read reads =>
          rw [text] at enough ⊢
          simp only [List.length_cons, List.length_append, List.length_nil] at enough
          have members := texts.members (.cons key read reads) nofun (by omega) false rest
          rw [List.cons_append, List.append_assoc]
          exact readValue_object members

theorem ReadsTexts.succ : ReadsTexts (fuel + 1) where
  value reads enough := texts.readValue reads (Nat.le_of_lt_succ enough)
  items reads nonempty enough := texts.readItems reads nonempty (Nat.lt_of_succ_lt_succ enough)
  members reads nonempty enough := texts.readMembers reads nonempty (Nat.lt_of_succ_lt_succ enough)

end Steps

theorem readsTexts (fuel : Nat) : ReadsTexts fuel := by
  induction fuel with
  | zero => exact ⟨fun _ => nofun, fun _ _ => nofun, fun _ _ => nofun⟩
  | succ fuel texts => exact texts.succ

/-- A text is read as the value that it writes, but for its numbers. -/
theorem Document.ofText_compact {v w : Value} (reads : v.ReadsAs w) :
    Document.ofText v.compact = ⟨.ofValue w, .ok ()⟩ := by
  have stops : Stops [] := ⟨nofun, nofun⟩
  have enough : v.compact.toList.length < v.compact.length + 1 := Nat.lt_succ_self _
  have read := (readsTexts (v.compact.length + 1)).value reads enough stops
  rw [List.append_nil] at read
  rw [Document.ofText, read]
  rfl

/-! ## Depth -/

mutual

/-- How deep brackets are nested in a value. -/
def Value.depth : Value → Nat
  | .array items => itemsDepth items + 1
  | .object members => membersDepth members + 1
  | _ => 0

def itemsDepth : List Value → Nat
  | [] => 0
  | item :: items => max item.depth (itemsDepth items)

def membersDepth : List (String × Value) → Nat
  | [] => 0
  | (_, value) :: members => max value.depth (membersDepth members)

end

theorem membersDepth_le_iff {depth : Nat} {ms : List (String × Value)} :
    membersDepth ms ≤ depth ↔ ∀ m ∈ ms, m.2.depth ≤ depth := by
  induction ms with
  | nil => simp [membersDepth]
  | cons m ms ih => rw [membersDepth, Nat.max_le, ih, List.forall_mem_cons]

mutual

/-- A faultless reading of a value that is not too deep is that value. -/
theorem Reading.value_ofValue {depth : Nat} :
    ∀ v : Value, v.depth ≤ depth → (Reading.ofValue v).value depth = .ok v
  | .null, _ => rfl
  | .bool _, _ => rfl
  | .number _, _ => rfl
  | .string _, _ => rfl
  | .array items, shallow => by
      rw [Value.depth] at shallow
      obtain ⟨depth, rfl⟩ := Nat.exists_eq_add_of_le' (Nat.le_of_add_left_le shallow)
      have whole := Items.values_ofValues items (Nat.le_of_succ_le_succ shallow)
      rw [Reading.ofValue, Reading.value, whole]
      rfl
  | .object members, shallow => by
      rw [Value.depth] at shallow
      obtain ⟨depth, rfl⟩ := Nat.exists_eq_add_of_le' (Nat.le_of_add_left_le shallow)
      have whole := Members.members_ofMembers members (Nat.le_of_succ_le_succ shallow)
      rw [Reading.ofValue, Reading.value, whole]
      rfl

theorem Items.values_ofValues {depth : Nat} :
    ∀ vs : List Value, itemsDepth vs ≤ depth → (Items.ofValues vs).values depth = .ok vs
  | [], _ => rfl
  | v :: vs, shallow => by
      rw [itemsDepth, Nat.max_le] at shallow
      rw [Items.ofValues, Items.values, Reading.value_ofValue v shallow.1,
        Items.values_ofValues vs shallow.2]
      rfl

theorem Members.members_ofMembers {depth : Nat} :
    ∀ ms : List (String × Value), membersDepth ms ≤ depth →
      (Members.ofMembers ms).members depth = .ok ms
  | [], _ => rfl
  | (key, v) :: ms, shallow => by
      rw [membersDepth, Nat.max_le] at shallow
      rw [Members.ofMembers, Members.members, Reading.value_ofValue v shallow.1,
        Members.members_ofMembers ms shallow.2]
      rfl

end

/-- A value is read back from its text, but for its numbers. -/
theorem Value.ofText?_compact {v w : Value} (reads : v.ReadsAs w) (shallow : w.depth ≤ 127) :
    Value.ofText? v.compact = some w := by
  rw [Value.ofText?, Document.ofText_compact reads, Reading.value_ofValue w shallow]

end AgentTrial.Json
