import AgentTrial.Text.Utf8

/-!
# Text and its bytes

Decoding against encoding, for every byte string.

* **Characters** — a character is read off a byte string exactly where its encoding stands at the
  start (`decodeFirst_eq_some_iff`).
* **Texts** — so a byte string is decoded to a text exactly when it is the encoding of that text
  (`decode?_eq_some_iff`), and what is not decoded encodes no text.
* **Order** — texts are ordered as their bytes are (`encode_lt_encode`): a greater code point has a
  greater byte where its encoding first differs.
-/

namespace AgentTrial.Text.Utf8

/-! ## Characters -/

section Characters

variable {b t u v : UInt8} {n : Nat}

theorem between_iff {low high : UInt8} :
    (low ≤ b && b ≤ high) = true ↔ low.toNat ≤ b.toNat ∧ b.toNat ≤ high.toNat := by
  simp only [Bool.and_eq_true, decide_eq_true_eq, UInt8.le_iff_toNat_le]

theorem isTail_iff : isTail b = true ↔ 0x80 ≤ b.toNat ∧ b.toNat < 0xC0 := by
  simp only [isTail, between_iff, UInt8.reduceToNat]
  omega

theorem mayFollow_iff : mayFollow b t = true ↔
    0x80 ≤ t.toNat ∧ t.toNat < 0xC0 ∧ (b.toNat = 0xE0 → 0xA0 ≤ t.toNat) ∧
      (b.toNat = 0xED → t.toNat < 0xA0) ∧ (b.toNat = 0xF0 → 0x90 ≤ t.toNat) ∧
      (b.toNat = 0xF4 → t.toNat < 0x90) := by
  unfold mayFollow
  simp only [← UInt8.toNat_inj, UInt8.reduceToNat]
  repeat' split
  all_goals
    simp only [isTail_iff, between_iff, UInt8.reduceToNat]
    omega

/-- The bytes of the character of a code point. -/
theorem encodeChar_ofNat (valid : n.isValidChar) :
    String.utf8EncodeChar (Char.ofNat n) =
      if n ≤ 0x7F then [UInt8.ofNat n]
      else if n ≤ 0x7FF then [UInt8.ofNat (n / 64 % 32 + 192), UInt8.ofNat (n % 64 + 128)]
      else if n ≤ 0xFFFF then
        [UInt8.ofNat (n / 4096 % 16 + 224), UInt8.ofNat (n / 64 % 64 + 128),
          UInt8.ofNat (n % 64 + 128)]
      else
        [UInt8.ofNat (n / 262144 % 8 + 240), UInt8.ofNat (n / 4096 % 64 + 128),
          UInt8.ofNat (n / 64 % 64 + 128), UInt8.ofNat (n % 64 + 128)] := by
  have value : (Char.ofNat n).val.toNat = n := by
    unfold Char.ofNat
    rw [dif_pos valid]
    rfl
  unfold String.utf8EncodeChar
  simp only [value]

/-- A byte by its number. -/
theorem ofNat_eq_of_toNat (same : n = b.toNat) : UInt8.ofNat n = b := by
  rw [same, UInt8.ofNat_toNat]

theorem toNat_ofNat_of_lt (small : n < 256) : (UInt8.ofNat n).toNat = n :=
  UInt8.toNat_ofNat_of_lt' small

/-- The bytes of a code point, by the number of its bytes. -/
inductive Encodes : Nat → List UInt8 → Prop
  | one {b : UInt8} (lead : b.toNat < 0x80) : Encodes b.toNat [b]
  | two {b t : UInt8} (lead : 0xC2 ≤ b.toNat ∧ b.toNat ≤ 0xDF) (tail : isTail t = true) :
      Encodes (b.toNat % 0x20 * 0x40 + tailBits t) [b, t]
  | three {b t u : UInt8} (lead : 0xE0 ≤ b.toNat ∧ b.toNat ≤ 0xEF)
      (follows : mayFollow b t = true) (tail : isTail u = true) :
      Encodes ((b.toNat % 0x10 * 0x40 + tailBits t) * 0x40 + tailBits u) [b, t, u]
  | four {b t u v : UInt8} (lead : 0xF0 ≤ b.toNat ∧ b.toNat ≤ 0xF4)
      (follows : mayFollow b t = true) (tail : isTail u = true) (last : isTail v = true) :
      Encodes (((b.toNat % 8 * 0x40 + tailBits t) * 0x40 + tailBits u) * 0x40 + tailBits v)
        [b, t, u, v]

theorem Encodes.of_eq {m : Nat} {bytes : List UInt8} (same : n = m) (encodes : Encodes m bytes) :
    Encodes n bytes := same ▸ encodes

/-- Bytes that stand for a code point are the encoding of its character. -/
theorem Encodes.eq_encodeChar {bytes : List UInt8} (encodes : Encodes n bytes) :
    bytes = String.utf8EncodeChar (Char.ofNat n) := by
  cases encodes with
  | one lead =>
      rw [encodeChar_ofNat (.inl (by omega)), if_pos (by omega), ofNat_eq_of_toNat rfl]
  | two lead tail =>
      rename_i b t
      rw [isTail_iff] at tail
      unfold tailBits
      rw [encodeChar_ofNat (.inl (by omega)), if_neg (by omega), if_pos (by omega),
        ofNat_eq_of_toNat (b := b) (by omega), ofNat_eq_of_toNat (b := t) (by omega)]
  | three lead follows tail =>
      rename_i b t u
      rw [isTail_iff] at tail
      rw [mayFollow_iff] at follows
      unfold tailBits
      rw [encodeChar_ofNat (by unfold Nat.isValidChar; omega), if_neg (by omega),
        if_neg (by omega), if_pos (by omega), ofNat_eq_of_toNat (b := b) (by omega),
        ofNat_eq_of_toNat (b := t) (by omega), ofNat_eq_of_toNat (b := u) (by omega)]
  | four lead follows tail last =>
      rename_i b t u v
      rw [isTail_iff] at tail last
      rw [mayFollow_iff] at follows
      unfold tailBits
      rw [encodeChar_ofNat (by unfold Nat.isValidChar; omega), if_neg (by omega),
        if_neg (by omega), if_neg (by omega), ofNat_eq_of_toNat (b := b) (by omega),
        ofNat_eq_of_toNat (b := t) (by omega), ofNat_eq_of_toNat (b := u) (by omega),
        ofNat_eq_of_toNat (b := v) (by omega)]

variable {c : Char} {rest after bytes : List UInt8}

/-- A code point is read off the bytes that stand for it. -/
theorem Encodes.decodeFirst_eq (encodes : Encodes n (b :: bytes)) (rest : List UInt8) :
    decodeFirst b (bytes ++ rest) = (some (Char.ofNat n), rest) := by
  unfold decodeFirst
  simp only [between_iff, UInt8.lt_iff_toNat_lt, UInt8.reduceToNat]
  cases encodes with
  | one lead => rw [if_pos lead]; rfl
  | two lead tail =>
      rw [if_neg (by omega), if_pos lead]
      simp only [List.cons_append, List.nil_append, if_pos tail]
  | three lead follows tail =>
      rw [if_neg (by omega), if_neg (by omega), if_pos lead]
      simp only [List.cons_append, List.nil_append, if_pos follows, if_pos tail]
  | four lead follows tail last =>
      rw [if_neg (by omega), if_neg (by omega), if_neg (by omega), if_pos lead]
      simp only [List.cons_append, List.nil_append, if_pos follows, if_pos tail, if_pos last]

/-- What is read as a character are the bytes that stand for it. -/
theorem encodes_of_decodeFirst (read : decodeFirst b rest = (some c, after)) :
    ∃ n bytes, Encodes n (b :: bytes) ∧ c = Char.ofNat n ∧ rest = bytes ++ after := by
  unfold decodeFirst at read
  simp only [between_iff, UInt8.lt_iff_toNat_lt, UInt8.reduceToNat] at read
  split at read
  · rename_i lead
    cases read
    exact ⟨_, [], .one lead, rfl, rfl⟩
  split at read
  · rename_i lead
    split at read
    · split at read
      · rename_i tail
        cases read
        exact ⟨_, _, .two lead tail, rfl, rfl⟩
      · cases read
    · cases read
  split at read
  · rename_i lead
    split at read
    · split at read
      · rename_i follows
        split at read
        · split at read
          · rename_i tail
            cases read
            exact ⟨_, _, .three lead follows tail, rfl, rfl⟩
          · cases read
        · cases read
      · cases read
    · cases read
  split at read
  · rename_i lead
    split at read
    · split at read
      · rename_i follows
        split at read
        · split at read
          · rename_i tail
            split at read
            · split at read
              · rename_i last
                cases read
                exact ⟨_, _, .four lead follows tail last, rfl, rfl⟩
              · cases read
            · cases read
          · cases read
        · cases read
      · cases read
    · cases read
  · cases read

/-- The bytes of a character stand for its code point. -/
theorem encodes_encodeChar (c : Char) : Encodes c.toNat (String.utf8EncodeChar c) := by
  have valid : c.toNat.isValidChar := c.valid
  unfold Nat.isValidChar at valid
  have bytes := encodeChar_ofNat (n := c.toNat) c.valid
  rw [Char.ofNat_toNat] at bytes
  rw [bytes]
  by_cases one : c.toNat ≤ 0x7F
  · rw [if_pos one]
    have small := toNat_ofNat_of_lt (n := c.toNat) (by omega)
    exact .of_eq small.symm (.one (by omega))
  rw [if_neg one]
  by_cases two : c.toNat ≤ 0x7FF
  · rw [if_pos two]
    have first := toNat_ofNat_of_lt (n := c.toNat / 64 % 32 + 192) (by omega)
    have second := toNat_ofNat_of_lt (n := c.toNat % 64 + 128) (by omega)
    refine .of_eq ?_ (.two (by omega) (isTail_iff.mpr (by omega)))
    unfold tailBits
    omega
  rw [if_neg two]
  by_cases three : c.toNat ≤ 0xFFFF
  · rw [if_pos three]
    have first := toNat_ofNat_of_lt (n := c.toNat / 4096 % 16 + 224) (by omega)
    have second := toNat_ofNat_of_lt (n := c.toNat / 64 % 64 + 128) (by omega)
    have third := toNat_ofNat_of_lt (n := c.toNat % 64 + 128) (by omega)
    refine .of_eq ?_ (.three (by omega) (mayFollow_iff.mpr (by omega)) (isTail_iff.mpr (by omega)))
    unfold tailBits
    omega
  rw [if_neg three]
  have first := toNat_ofNat_of_lt (n := c.toNat / 262144 % 8 + 240) (by omega)
  have second := toNat_ofNat_of_lt (n := c.toNat / 4096 % 64 + 128) (by omega)
  have third := toNat_ofNat_of_lt (n := c.toNat / 64 % 64 + 128) (by omega)
  have fourth := toNat_ofNat_of_lt (n := c.toNat % 64 + 128) (by omega)
  refine .of_eq ?_ (.four (by omega) (mayFollow_iff.mpr (by omega)) (isTail_iff.mpr (by omega))
    (isTail_iff.mpr (by omega)))
  unfold tailBits
  omega

theorem exists_encodeChar_eq (c : Char) :
    ∃ b bytes, String.utf8EncodeChar c = b :: bytes := by
  refine List.exists_cons_of_length_pos ?_
  rw [String.length_utf8EncodeChar]
  exact c.utf8Size_pos

/-- **Characters.** A character is read where its encoding stands, and only there. -/
theorem decodeFirst_eq_some_iff :
    decodeFirst b rest = (some c, after) ↔ b :: rest = String.utf8EncodeChar c ++ after := by
  constructor
  · intro read
    obtain ⟨n, bytes, encodes, rfl, rfl⟩ := encodes_of_decodeFirst read
    rw [← encodes.eq_encodeChar]
    rfl
  · intro bytes
    have encodes := encodes_encodeChar c
    obtain ⟨first, others, encoded⟩ := exists_encodeChar_eq c
    rw [encoded] at encodes bytes
    obtain ⟨rfl, rfl⟩ : b = first ∧ rest = others ++ after := List.cons.inj bytes
    rw [encodes.decodeFirst_eq, Char.ofNat_toNat]

end Characters

/-! ## Texts -/

section Texts

variable {bytes : List UInt8} {cs : List Char} {text : String}

/-- The bytes of an array from a place on. -/
theorem toList_loop_eq (array : ByteArray) (i : Nat) (before : List UInt8) :
    ByteArray.toList.loop array i before = before.reverse ++ array.data.toList.drop i := by
  fun_induction ByteArray.toList.loop array i before with
  | case1 i before inside ih =>
      have size : i < array.data.toList.length := by simpa using inside
      have get : array.get! i = array.data.toList[i] := getElem!_pos array.data i inside
      rw [ih, List.drop_eq_getElem_cons size, get, List.reverse_cons, List.append_assoc]
      rfl
  | case2 i before outside =>
      rw [List.drop_eq_nil_of_le (by simpa using outside), List.append_nil]

/-- The bytes of a text are those of its characters. -/
theorem encode_eq (text : String) : encode text = text.toList.flatMap String.utf8EncodeChar := by
  unfold encode String.toUTF8 ByteArray.toList
  rw [toList_loop_eq, ← String.utf8Encode_toList, List.utf8Encode, List.data_toByteArray]
  rfl

/-- The encodings of some characters are read as these. -/
theorem decodeAll_flatMap (cs : List Char) :
    decodeAll (cs.flatMap String.utf8EncodeChar) = cs.map some := by
  induction cs with
  | nil =>
      rw [List.flatMap_nil, decodeAll]
      rfl
  | cons c cs ih =>
      obtain ⟨b, others, encoded⟩ := exists_encodeChar_eq c
      have read : decodeFirst b (others ++ cs.flatMap String.utf8EncodeChar) =
          (some c, cs.flatMap String.utf8EncodeChar) := by
        rw [decodeFirst_eq_some_iff, encoded]
        rfl
      rw [List.flatMap_cons, encoded, List.cons_append, decodeAll, read, ih]
      rfl

/-- Nothing else is read as characters throughout. -/
theorem eq_flatMap_of_decodeAll (read : decodeAll bytes = cs.map some) :
    bytes = cs.flatMap String.utf8EncodeChar := by
  fun_induction decodeAll bytes generalizing cs with
  | case1 =>
      rw [List.map_eq_nil_iff.mp read.symm]
      rfl
  | case2 b rest ih =>
      obtain ⟨c, others, rfl, first, tail⟩ := List.map_eq_cons_iff.mp read.symm
      have head := decodeFirst_eq_some_iff.mp (Prod.ext first.symm rfl)
      rw [head, List.flatMap_cons, ← ih tail.symm]

theorem mapM_id_eq_some_iff {found : List (Option Char)} :
    found.mapM id = some cs ↔ found = cs.map some := by
  induction found generalizing cs with
  | nil =>
      rw [List.mapM_nil]
      cases cs <;> simp
  | cons c found ih =>
      rw [List.mapM_cons]
      cases c with
      | none => cases cs <;> simp
      | some c => cases cs <;> simp [Option.bind_eq_some_iff, ih, and_comm, and_assoc]

/-- **Texts.** A byte string is decoded to the text that it is the encoding of. -/
theorem decode?_eq_some_iff : decode? bytes = some text ↔ bytes = encode text := by
  rw [encode_eq, decode?, Option.map_eq_some_iff]
  constructor
  · rintro ⟨cs, read, rfl⟩
    rw [String.toList_ofList]
    exact eq_flatMap_of_decodeAll (mapM_id_eq_some_iff.mp read)
  · rintro rfl
    exact ⟨text.toList, mapM_id_eq_some_iff.mpr (decodeAll_flatMap _), String.ofList_toList⟩

/-- A byte string that is not decoded is the encoding of no text. -/
theorem decode?_eq_none_iff : decode? bytes = none ↔ ∀ text, bytes ≠ encode text := by
  simp only [Option.eq_none_iff_forall_ne_some, ne_eq, decode?_eq_some_iff]

/-- Texts of the same bytes are the same. -/
theorem encode_inj {text' : String} (same : encode text = encode text') : text = text' := by
  have read := decode?_eq_some_iff.mpr same
  rw [decode?_eq_some_iff.mpr rfl] at read
  exact Option.some.inj read

end Texts

/-! ## Order -/

section Order

variable {m n : Nat} {b d : UInt8} {bytes others rest rest' : List UInt8} {cs cs' : List Char} {text text' : String}

/-- A number with tail bytes after it, six bits each. -/
def withTails (x : Nat) (tails : List UInt8) : Nat :=
  tails.foldl (fun y t => y * 0x40 + tailBits t) x

/-- What stands before tail bytes counts more than they do, and each counts more than those after it. -/
theorem lt_of_withTails_lt {x y : Nat} {ts us : List UInt8} (length : ts.length = us.length)
    (ht : ∀ t ∈ ts, isTail t = true) (hu : ∀ u ∈ us, isTail u = true)
    (less : withTails x ts < withTails y us) : x < y ∨ x = y ∧ ts ++ rest < us ++ rest' := by
  induction ts generalizing x y us with
  | nil =>
      obtain rfl := List.length_eq_zero_iff.mp length.symm
      exact .inl less
  | cons t ts ih =>
      obtain ⟨u, us, rfl⟩ := List.exists_cons_of_length_eq_add_one length.symm
      rw [List.forall_mem_cons, isTail_iff] at ht hu
      have later : x * 0x40 + tailBits t < y * 0x40 + tailBits u ∨
          x * 0x40 + tailBits t = y * 0x40 + tailBits u ∧ ts ++ rest < us ++ rest' :=
        ih (Nat.succ.inj length) ht.2 hu.2 less
      unfold tailBits at later
      simp only [List.cons_append, List.cons_lt_cons_iff, UInt8.lt_iff_toNat_lt,
        ← UInt8.toNat_inj]
      rcases later with less | ⟨same, later⟩
      · have first : x < y ∨ x = y ∧ t.toNat < u.toNat := by omega
        exact first.imp_right fun ⟨same, less⟩ => ⟨same, .inl less⟩
      · exact .inr ⟨by omega, .inr ⟨by omega, later⟩⟩

/-- A code point is what its lead byte has over a base, with the tail bytes after it. The number of
bytes is told by the lead byte, and bounds the code point. -/
theorem Encodes.parts (encodes : Encodes n (b :: bytes)) :
    (∀ t ∈ bytes, isTail t = true) ∧ ∃ base ≤ b.toNat, n = withTails (b.toNat - base) bytes ∧
      (bytes.length = 0 ∧ base = 0 ∧ b.toNat < 0xC0 ∧ n < 0x80 ∨
        bytes.length = 1 ∧ base = 0xC0 ∧ b.toNat < 0xE0 ∧ 0x80 ≤ n ∧ n < 0x800 ∨
        bytes.length = 2 ∧ base = 0xE0 ∧ b.toNat < 0xF0 ∧ 0x800 ≤ n ∧ n < 0x10000 ∨
        bytes.length = 3 ∧ base = 0xF0 ∧ 0x10000 ≤ n) := by
  cases encodes with
  | one lead => exact ⟨by simp, 0, by omega, rfl, .inl ⟨rfl, rfl, by omega, lead⟩⟩
  | @two b t lead tail =>
      have top : b.toNat % 0x20 = b.toNat - 0xC0 := by omega
      refine ⟨by simpa using tail, 0xC0, by omega, by rw [top]; rfl, .inr (.inl ⟨rfl, rfl, ?_⟩)⟩
      rw [isTail_iff] at tail
      unfold tailBits
      omega
  | @three b t u lead follows tail =>
      have top : b.toNat % 0x10 = b.toNat - 0xE0 := by omega
      rw [mayFollow_iff] at follows
      have first := isTail_iff.mpr ⟨follows.1, follows.2.1⟩
      refine ⟨by simpa using ⟨first, tail⟩, 0xE0, by omega, by rw [top]; rfl,
        .inr (.inr (.inl ⟨rfl, rfl, ?_⟩))⟩
      rw [isTail_iff] at tail
      unfold tailBits
      omega
  | @four b t u v lead follows tail last =>
      have top : b.toNat % 8 = b.toNat - 0xF0 := by omega
      rw [mayFollow_iff] at follows
      have first := isTail_iff.mpr ⟨follows.1, follows.2.1⟩
      refine ⟨by simpa using ⟨first, tail, last⟩, 0xF0, by omega, by rw [top]; rfl,
        .inr (.inr (.inr ⟨rfl, rfl, ?_⟩))⟩
      unfold tailBits
      omega

/-- The encoding of a greater code point is greater, whatever follows: a longer one has a greater lead
byte, and in one of the same length each byte counts more than those after it. -/
theorem Encodes.append_lt (hm : Encodes m (b :: bytes)) (hn : Encodes n (d :: others))
    (less : m < n) : b :: bytes ++ rest < d :: others ++ rest' := by
  obtain ⟨tails, base, le, rfl, lengths⟩ := hm.parts
  obtain ⟨tails', base', le', rfl, lengths'⟩ := hn.parts
  simp only [List.cons_append, List.cons_lt_cons_iff, UInt8.lt_iff_toNat_lt, ← UInt8.toNat_inj]
  by_cases length : bytes.length = others.length
  · rcases lt_of_withTails_lt length tails tails' less with lead | ⟨same, later⟩
    · exact .inl (by omega)
    · exact .inr ⟨by omega, later⟩
  · exact .inl (by omega)

theorem flatMap_encodeChar_lt (less : cs < cs') :
    cs.flatMap String.utf8EncodeChar < cs'.flatMap String.utf8EncodeChar := by
  induction cs generalizing cs' with
  | nil =>
      cases cs' with
      | nil => exact absurd less (List.lt_irrefl _)
      | cons d ds =>
          obtain ⟨b, bytes, encoded⟩ := exists_encodeChar_eq d
          rw [List.flatMap_cons, encoded]
          exact List.nil_lt_cons _ _
  | cons c cs ih =>
      cases cs' with
      | nil => exact absurd less (List.not_lt_nil _)
      | cons d ds =>
          rw [List.flatMap_cons, List.flatMap_cons]
          rcases List.cons_lt_cons_iff.mp less with first | ⟨rfl, later⟩
          · obtain ⟨b, bytes, encoded⟩ := exists_encodeChar_eq c
            obtain ⟨b', bytes', encoded'⟩ := exists_encodeChar_eq d
            have encodes := encodes_encodeChar c
            have encodes' := encodes_encodeChar d
            rw [encoded] at encodes ⊢
            rw [encoded'] at encodes' ⊢
            exact encodes.append_lt encodes' first
          · exact List.append_left_lt (ih later)

/-- **Order.** The bytes of a greater text are greater. -/
theorem encode_lt_encode (less : text < text') : encode text < encode text' := by
  rw [encode_eq, encode_eq]
  exact flatMap_encodeChar_lt (String.lt_iff.mp less)

end Order

end AgentTrial.Text.Utf8
