import RecipeBook.Url.Percent

/-!
# Percent-encoding and back

A text in which no percent sign has two hexadecimal digits behind it is read back from its encoded form
(`decode_encoded`). In every other text the encoding leaves such a sign as it is, and so what is read
back is shorter than the text was (`length_decode_encoded_lt`).
-/

namespace RecipeBook.Url.Percent

/-- The octets of a text in UTF-8. -/
def utf8 (s : List Char) : List UInt8 := s.flatMap String.utf8EncodeChar

def isHexDigit (c : Char) : Bool := c.isDigit || ('A' ≤ c && c ≤ 'F') || ('a' ≤ c && c ≤ 'f')

/-- Two hexadecimal digits come first. -/
def startsWithDigits : List Char → Bool
  | a :: b :: _ => isHexDigit a && isHexDigit b
  | _ => false

/-- Somewhere a percent sign has two hexadecimal digits behind it. -/
def hasCode : List Char → Bool
  | [] => false
  | c :: r => (c == '%' && startsWithDigits r) || hasCode r

variable {s t : List Char} {c : Char}

/-! ### Octets -/

theorem toList_loop_eq (bs : ByteArray) (i : Nat) (r : List UInt8) :
    ByteArray.toList.loop bs i r = r.reverse ++ bs.data.toList.drop i := by
  fun_induction ByteArray.toList.loop bs i r with
  | case1 i r h ih =>
    have hi : i < bs.data.toList.length := by simpa using h
    rw [ih, List.drop_eq_getElem_cons hi]
    simp [ByteArray.get!, h]
  | case2 i r h =>
    rw [List.drop_eq_nil_of_le (by simpa using Nat.le_of_not_lt h)]
    simp

theorem toList_eq_toList_data (bs : ByteArray) : bs.toList = bs.data.toList := by
  rw [ByteArray.toList, toList_loop_eq]
  rfl

theorem toList_toUTF8 (s : String) : s.toUTF8.toList = utf8 s.toList := by
  rw [toList_eq_toList_data, String.toUTF8_eq_toByteArray, ← String.utf8Encode_toList,
    List.utf8Encode, List.toList_data_toByteArray]
  rfl

theorem utf8ByteSize_eq (s : String) : s.utf8ByteSize = (utf8 s.toList).length := by
  rw [← toList_toUTF8, toList_eq_toList_data]
  rfl

theorem octets_eq (c : Char) : octets c = String.utf8EncodeChar c := by
  rw [octets, toList_toUTF8, String.toList_singleton]
  exact List.append_nil _

theorem decodeText_eq (s : String) : decodeText s = decode (utf8 s.toList) := by
  rw [decodeText, toList_toUTF8]

theorem utf8_cons (c : Char) (s : List Char) : utf8 (c :: s) = String.utf8EncodeChar c ++ utf8 s := rfl

theorem utf8_append (s t : List Char) : utf8 (s ++ t) = utf8 s ++ utf8 t := List.flatMap_append

theorem utf8_inj : utf8 s = utf8 t ↔ s = t := by
  refine ⟨fun h => ?_, congrArg utf8⟩
  have harray : (String.ofList s).toByteArray = (String.ofList t).toByteArray := by
    rw [String.toByteArray_ofList, String.toByteArray_ofList, List.utf8Encode, List.utf8Encode]
    exact congrArg List.toByteArray h
  exact String.ofList_injective (String.toByteArray_inj.1 harray)

theorem text?_eq_some_iff {bs : List UInt8} {s : String} : text? bs = some s ↔ bs = utf8 s.toList := by
  have hbytes : bs = utf8 s.toList ↔ ByteArray.mk bs.toArray = s.toByteArray := by
    rw [← toList_toUTF8, toList_eq_toList_data, ← String.toUTF8_eq_toByteArray]
    exact ⟨fun h => by rw [h, Array.toArray_toList], fun h => by rw [← h]⟩
  rw [hbytes, text?, String.fromUTF8?]
  constructor
  · intro h
    split at h
    · exact congrArg String.toByteArray (Option.some.inj h)
    · cases h
  · intro h
    have hvalid : (ByteArray.mk bs.toArray).IsValidUTF8 := h ▸ s.isValidUTF8
    rw [dif_pos hvalid]
    exact congrArg some (String.toByteArray_inj.1 h)

/-! ### Encoded octets -/

theorem decode_code {a b : UInt8} {high low : Nat} (ha : hexValue? a = some high)
    (hb : hexValue? b = some low) (bs : List UInt8) :
    decode (37 :: a :: b :: bs) = .ofNat (16 * high + low) :: decode bs := by
  rw [decode, if_pos rfl, ha, hb]

theorem decode_cons_of_ne {b : UInt8} (h : b ≠ 37) (bs : List UInt8) :
    decode (b :: bs) = b :: decode bs := by
  rcases bs with - | ⟨b', - | ⟨b'', bs⟩⟩
  · rfl
  · rfl
  · rw [decode, if_neg h]

theorem hexDigit_spec {n : Nat} (h : n < 16) : utf8 [hexDigit n] = [(hexDigit n).toUInt8] ∧
    hexValue? (hexDigit n).toUInt8 = some n ∧ isHexDigit (hexDigit n) = true := by
  decide +revert

theorem div_lt_sixteen (b : UInt8) : b.toNat / 16 < 16 ∧ b.toNat % 16 < 16 := by
  have := b.toNat_lt
  omega

theorem utf8_encodeOctet (b : UInt8) : utf8 (encodeOctet b) =
    [37, (hexDigit (b.toNat / 16)).toUInt8, (hexDigit (b.toNat % 16)).toUInt8] := by
  obtain ⟨hhigh, hlow⟩ := div_lt_sixteen b
  rw [encodeOctet, utf8_cons, ← List.singleton_append, utf8_append, (hexDigit_spec hhigh).1,
    (hexDigit_spec hlow).1]
  rfl

theorem decode_encodeOctet (b : UInt8) (bs : List UInt8) :
    decode (utf8 (encodeOctet b) ++ bs) = b :: decode bs := by
  obtain ⟨hhigh, hlow⟩ := div_lt_sixteen b
  rw [utf8_encodeOctet]
  exact (decode_code (hexDigit_spec hhigh).2.1 (hexDigit_spec hlow).2.1 bs).trans
    (by rw [Nat.div_add_mod, UInt8.ofNat_toNat])

theorem decode_flatMap_encodeOctet (os bs : List UInt8) :
    decode (utf8 (os.flatMap encodeOctet) ++ bs) = os ++ decode bs := by
  induction os with
  | nil => rfl
  | cons o os ih =>
    rw [List.flatMap_cons, utf8_append, List.append_assoc, decode_encodeOctet, ih, List.cons_append]

/-! ### Encoded paths -/

/-- A character that does not stand in a path as it is. -/
def isCoded (c : Char) : Bool := isControl c || pathSet.contains c

/-- The octets of a text that is encoded for a path. -/
def encoded (s : List Char) : List UInt8 := utf8 (encode pathSet s)

theorem encode_append (set s t : List Char) : encode set (s ++ t) = encode set s ++ encode set t :=
  List.flatMap_append

theorem encode_cons_of_isCoded (h : isCoded c = true) (r : List Char) :
    encode pathSet (c :: r) = (String.utf8EncodeChar c).flatMap encodeOctet ++ encode pathSet r := by
  rw [isCoded] at h
  rw [encode, List.flatMap_cons, if_pos h, octets_eq]
  rfl

theorem encode_cons_of_not_isCoded (h : isCoded c = false) (r : List Char) :
    encode pathSet (c :: r) = c :: encode pathSet r := by
  rw [isCoded] at h
  rw [encode, List.flatMap_cons, if_neg (Bool.eq_false_iff.1 h)]
  rfl

theorem forall_ascii {P : Char → Prop} (h : ∀ n < 128, P (Char.ofNat n)) (hc : c.toNat < 128) : P c :=
  Char.ofNat_toNat c ▸ h c.toNat hc

theorem toNat_lt_of_not_isCoded (h : isCoded c = false) : c.toNat < 128 := by
  rw [isCoded, Bool.or_eq_false_iff, isControl, Bool.or_eq_false_iff, decide_eq_false_iff_not,
    decide_eq_false_iff_not] at h
  exact Nat.lt_of_le_of_lt (Char.le_def.1 (Char.not_lt.1 h.1.2)) (by decide)

theorem toNat_lt_of_isHexDigit (h : isHexDigit c = true) : c.toNat < 128 := by
  have hle : c ≤ '9' ∨ c ≤ 'F' ∨ c ≤ 'f' := by
    simp only [isHexDigit, Char.isDigit, Bool.or_eq_true, Bool.and_eq_true, decide_eq_true_eq] at h
    exact h.elim (Or.imp And.right fun h => .inl h.2) fun h => .inr (.inr h.2)
  rcases hle with hle | hle | hle <;> exact Nat.lt_of_le_of_lt (Char.le_def.1 hle) (by decide)

/-- A character that is written as it is has one octet, and is a digit if the octet is. -/
theorem not_isCoded_spec (h : isCoded c = false) : String.utf8EncodeChar c = [c.toUInt8] ∧
    (hexValue? c.toUInt8).isSome = isHexDigit c ∧ (c.toUInt8 = 37 → c = '%') :=
  forall_ascii (P := fun c => String.utf8EncodeChar c = [c.toUInt8] ∧
    (hexValue? c.toUInt8).isSome = isHexDigit c ∧ (c.toUInt8 = 37 → c = '%')) (by decide +kernel)
    (toNat_lt_of_not_isCoded h)

theorem isCoded_of_isHexDigit (h : isHexDigit c = true) : isCoded c = false :=
  forall_ascii (P := fun c => isHexDigit c = true → isCoded c = false) (by decide +kernel)
    (toNat_lt_of_isHexDigit h) h

theorem encoded_of_isCoded (h : isCoded c = true) (r : List Char) :
    encoded (c :: r) = utf8 ((String.utf8EncodeChar c).flatMap encodeOctet) ++ encoded r := by
  rw [encoded, encode_cons_of_isCoded h, utf8_append]
  rfl

theorem encoded_of_not_isCoded (h : isCoded c = false) (r : List Char) :
    encoded (c :: r) = c.toUInt8 :: encoded r := by
  rw [encoded, encode_cons_of_not_isCoded h, utf8_cons, (not_isCoded_spec h).1]
  rfl

/-- The first octet is a digit if the first character is one. -/
theorem exists_encoded_cons (c : Char) (r : List Char) : ∃ b bs, encoded (c :: r) = b :: bs ∧
    (hexValue? b).isSome = isHexDigit c ∧ (isHexDigit c = true → bs = encoded r) := by
  cases h : isCoded c with
  | false => exact ⟨_, _, encoded_of_not_isCoded h r, (not_isCoded_spec h).2.1, fun _ => rfl⟩
  | true =>
    have hdigit : isHexDigit c = false :=
      Bool.eq_false_iff.2 fun hc => Bool.noConfusion (h.symm.trans (isCoded_of_isHexDigit hc))
    obtain ⟨o, os, hos⟩ := List.exists_cons_of_ne_nil (String.utf8EncodeChar_ne_nil (c := c))
    rw [encoded_of_isCoded h, hos, List.flatMap_cons, hdigit]
    exact ⟨37, _, rfl, rfl, nofun⟩

theorem decode_percent (h : startsWithDigits s = false) :
    decode (37 :: encoded s) = 37 :: decode (encoded s) := by
  have hnone : ∀ {c : Char} {b : UInt8}, (hexValue? b).isSome = isHexDigit c → isHexDigit c = false →
      hexValue? b = none := fun hb hc =>
    Option.isNone_iff_eq_none.1 (Option.isSome_eq_false_iff.1 (hb.trans hc))
  cases s with
  | nil => rfl
  | cons c r =>
    obtain ⟨b, bs, hb, hdigit, hrest⟩ := exists_encoded_cons c r
    rw [hb]
    cases hc : isHexDigit c with
    | false =>
      cases bs with
      | nil => rfl
      | cons b' bs => rw [decode, if_pos rfl, hnone hdigit hc]
    | true =>
      obtain rfl := hrest hc
      cases r with
      | nil => rfl
      | cons d r =>
        obtain ⟨b', bs, hb', hdigit', -⟩ := exists_encoded_cons d r
        rw [startsWithDigits, hc, Bool.true_and] at h
        rw [hb', decode, if_pos rfl, hnone hdigit' h]
        cases hexValue? b <;> rfl

/-- A character is read back unless it is a percent sign with two digits behind it. -/
theorem decode_encoded_cons (h : (c == '%' && startsWithDigits s) = false) :
    decode (encoded (c :: s)) = String.utf8EncodeChar c ++ decode (encoded s) := by
  cases hcoded : isCoded c with
  | true => rw [encoded_of_isCoded hcoded, decode_flatMap_encodeOctet]
  | false =>
    obtain ⟨hutf8, -, hpercent⟩ := not_isCoded_spec hcoded
    rw [encoded_of_not_isCoded hcoded, hutf8]
    by_cases hc : c = '%'
    · subst hc
      exact decode_percent (by simpa using h)
    · exact decode_cons_of_ne (fun hb => hc (hpercent hb)) _

theorem isHexDigit_spec (h : isHexDigit c = true) (r : List Char) :
    encoded (c :: r) = c.toUInt8 :: encoded r ∧ (∃ n, hexValue? c.toUInt8 = some n) ∧ c.toUInt8 ≠ 37 := by
  obtain ⟨-, hsome, hpercent⟩ := not_isCoded_spec (isCoded_of_isHexDigit h)
  refine ⟨encoded_of_not_isCoded (isCoded_of_isHexDigit h) r,
    Option.isSome_iff_exists.1 (hsome.trans h), fun hc => ?_⟩
  rw [hpercent hc] at h
  exact absurd h (by decide)

/-- The octets of a percent sign and two digits are read as one. -/
theorem length_decode_encoded_cons_lt (h : (c == '%' && startsWithDigits s) = true) :
    (decode (encoded (c :: s))).length < (decode (encoded s)).length := by
  obtain ⟨hc, hs⟩ := Bool.and_eq_true_iff.1 h
  obtain rfl := beq_iff_eq.1 hc
  match s, hs with
  | a :: b :: r, hs =>
    obtain ⟨ha, hb⟩ := Bool.and_eq_true_iff.1 hs
    obtain ⟨hea, ⟨high, hhigh⟩, hna⟩ := isHexDigit_spec ha (b :: r)
    obtain ⟨heb, ⟨low, hlow⟩, hnb⟩ := isHexDigit_spec hb r
    have hcode : encoded ('%' :: a :: b :: r) = 37 :: a.toUInt8 :: b.toUInt8 :: encoded r := by
      rw [encoded_of_not_isCoded (by decide), hea, heb]
      rfl
    rw [hcode, decode_code hhigh hlow, hea, heb, decode_cons_of_ne hna, decode_cons_of_ne hnb]
    simp only [List.length_cons]
    omega

/-! ### Texts -/

theorem decode_encoded (h : hasCode s = false) : decode (encoded s) = utf8 s := by
  induction s with
  | nil => rfl
  | cons c s ih =>
    rw [hasCode, Bool.or_eq_false_iff] at h
    rw [decode_encoded_cons h.1, ih h.2, utf8_cons]

theorem hasCode_of_append (s t : List Char) (h : hasCode (s ++ t) = false) : hasCode t = false := by
  induction s with
  | nil => exact h
  | cons c s ih =>
    rw [List.cons_append, hasCode, Bool.or_eq_false_iff] at h
    exact ih h.2

theorem length_decode_encoded_le (s : List Char) : (decode (encoded s)).length ≤ (utf8 s).length := by
  induction s with
  | nil => exact Nat.le_refl 0
  | cons c s ih =>
    rw [utf8_cons, List.length_append]
    cases h : c == '%' && startsWithDigits s with
    | false =>
      rw [decode_encoded_cons h, List.length_append]
      omega
    | true =>
      have := length_decode_encoded_cons_lt h
      omega

theorem length_decode_encoded_lt (h : hasCode s = true) :
    (decode (encoded s)).length < (utf8 s).length := by
  induction s with
  | nil => cases h
  | cons c s ih =>
    rw [utf8_cons, List.length_append]
    cases hcode : c == '%' && startsWithDigits s with
    | false =>
      rw [hasCode, hcode, Bool.false_or] at h
      have := ih h
      rw [decode_encoded_cons hcode, List.length_append]
      omega
    | true =>
      have := length_decode_encoded_cons_lt hcode
      have := length_decode_encoded_le s
      omega

theorem length_utf8_flatMap_encodeOctet (os : List UInt8) :
    (utf8 (os.flatMap encodeOctet)).length = 3 * os.length := by
  induction os with
  | nil => rfl
  | cons o os ih =>
    rw [List.flatMap_cons, utf8_append, List.length_append, ih, utf8_encodeOctet]
    simp only [List.length_cons, List.length_nil]
    omega

/-- An encoded text has at most three octets for each octet of the text. -/
theorem length_encoded_le (s : List Char) : (encoded s).length ≤ 3 * (utf8 s).length := by
  induction s with
  | nil => exact Nat.le_refl 0
  | cons c s ih =>
    rw [utf8_cons, List.length_append]
    cases hcoded : isCoded c with
    | true =>
      rw [encoded_of_isCoded hcoded, List.length_append, length_utf8_flatMap_encodeOctet]
      omega
    | false =>
      rw [encoded_of_not_isCoded hcoded, (not_isCoded_spec hcoded).1]
      simp only [List.length_cons, List.length_nil]
      omega

/-- An encoded text consists of percent signs, digits and characters that need no code. -/
theorem mem_encode (h : c ∈ encode pathSet s) :
    (c = '%' ∨ isHexDigit c = true) ∨ c ∈ s ∧ isCoded c = false := by
  induction s with
  | nil => cases h
  | cons d s ih =>
    cases hd : isCoded d with
    | true =>
      rw [encode_cons_of_isCoded hd] at h
      rcases List.mem_append.1 h with h | h
      · obtain ⟨b, -, hb⟩ := List.mem_flatMap.1 h
        obtain ⟨hhigh, hlow⟩ := div_lt_sixteen b
        rw [encodeOctet, List.mem_cons, List.mem_cons, List.mem_singleton] at hb
        rcases hb with rfl | rfl | rfl
        · exact .inl (.inl rfl)
        · exact .inl (.inr (hexDigit_spec hhigh).2.2)
        · exact .inl (.inr (hexDigit_spec hlow).2.2)
      · exact (ih h).imp_right fun h => ⟨List.mem_cons_of_mem d h.1, h.2⟩
    | false =>
      rw [encode_cons_of_not_isCoded hd] at h
      rcases List.mem_cons.1 h with rfl | h
      · exact .inr ⟨List.mem_cons_self, hd⟩
      · exact (ih h).imp_right fun h => ⟨List.mem_cons_of_mem d h.1, h.2⟩

theorem not_isCoded_of_mem_encode (h : c ∈ encode pathSet s) : isCoded c = false := by
  rcases mem_encode h with (rfl | hdigit) | ⟨-, hcoded⟩
  · decide
  · exact isCoded_of_isHexDigit hdigit
  · exact hcoded

end RecipeBook.Url.Percent
