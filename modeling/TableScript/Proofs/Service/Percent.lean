import TableScript.Service.Route

set_option autoImplicit false

namespace TableScript.Percent

def hexDigit (upper : Bool) (n : Nat) : Char :=
  (if upper then "0123456789ABCDEF" else "0123456789abcdef").toList.getD n '0'

def escape (high low : Bool) (b : UInt8) : List Char :=
  ['%', hexDigit high (b.toNat / 16), hexDigit low (b.toNat % 16)]

inductive Escaped : List UInt8 → List Char → Prop where
  | nil : Escaped [] []
  | cons (b : UInt8) (bytes : List UInt8) (written : List Char) (high low : Bool)
      (later : Escaped bytes written) : Escaped (b :: bytes) (escape high low b ++ written)

/-- A text as it may be written when only some characters may stand for themselves. -/
inductive Encodes (raw : Char → Prop) : List Char → List Char → Prop where
  | nil : Encodes raw [] []
  | plain (c : Char) (text written : List Char) (h : raw c) (later : Encodes raw text written) :
      Encodes raw (c :: text) (c :: written)
  | escaped (c : Char) (text escapes written : List Char)
      (h : Escaped (String.utf8EncodeChar c) escapes) (later : Encodes raw text written) :
      Encodes raw (c :: text) (escapes ++ written)

def bytes (text : List Char) : List UInt8 := text.flatMap String.utf8EncodeChar

theorem bytes_cons (c : Char) (text : List Char) :
    bytes (c :: text) = String.utf8EncodeChar c ++ bytes text :=
  List.flatMap_cons

theorem bytes_append (front rest : List Char) : bytes (front ++ rest) = bytes front ++ bytes rest :=
  List.flatMap_append

theorem toList_loop (array : ByteArray) (i : Nat) (front : List UInt8) :
    ByteArray.toList.loop array i front = front.reverse ++ array.data.toList.drop i := by
  fun_induction ByteArray.toList.loop array i front with
  | case1 i front inside ih =>
    have bound : i < array.data.toList.length := inside
    have here : array.get! i = array.data.toList[i] := getElem!_pos array.data i inside
    rw [ih, List.drop_eq_getElem_cons bound, here, List.reverse_cons, List.append_assoc]
    rfl
  | case2 i front outside =>
    have none : array.data.toList.drop i = [] := List.drop_eq_nil_of_le (Nat.le_of_not_lt outside)
    rw [none, List.append_nil]

theorem toList_toByteArray (bs : List UInt8) : bs.toByteArray.toList = bs := by
  rw [ByteArray.toList, toList_loop]
  simp

theorem toList_toUTF8 (s : String) : s.toUTF8.toList = bytes s.toList := by
  have whole : (String.ofList s.toList).toUTF8.toList = bytes s.toList := toList_toByteArray _
  rwa [String.ofList_toList] at whole

theorem fromUTF8?_bytes (text : List Char) :
    String.fromUTF8? (bytes text).toByteArray = some (String.ofList text) := by
  have valid : (bytes text).toByteArray.IsValidUTF8 := ByteArray.isValidUTF8_utf8Encode
  rw [String.fromUTF8?, dif_pos valid]
  rfl

theorem decodeBytes_plain (b : UInt8) (rest : List UInt8) (other : b ≠ '%'.toUInt8) :
    decodeBytes (b :: rest) = (decodeBytes rest).map (b :: ·) := by
  rw [decodeBytes.eq_def]
  exact if_neg other

theorem decodeBytes_percent (high low h l : UInt8) (rest : List UInt8)
    (first : hexValue? high = some h) (second : hexValue? low = some l) :
    decodeBytes ('%'.toUInt8 :: high :: low :: rest) =
      (decodeBytes rest).map ((h * 16 + l) :: ·) := by
  rw [decodeBytes, if_pos rfl, first, second]

theorem decodeBytes_of_ne (front rest : List UInt8) (other : ∀ b ∈ front, b ≠ '%'.toUInt8) :
    decodeBytes (front ++ rest) = (decodeBytes rest).map (front ++ ·) := by
  induction front with
  | nil => simp
  | cons b front ih =>
    obtain ⟨first, others⟩ := List.forall_mem_cons.mp other
    rw [List.cons_append, decodeBytes_plain b _ first, ih others, Option.map_map]
    rfl

-- A character of one byte is that byte, and the bytes of all others are above those.
theorem toNat_of_mem_utf8EncodeChar (c : Char) (b : UInt8) (inside : b ∈ String.utf8EncodeChar c)
    (small : b.toNat < 128) : c.val.toNat = b.toNat := by
  unfold String.utf8EncodeChar at inside
  dsimp only at inside
  split at inside
  next =>
    rw [List.mem_singleton] at inside
    rw [inside, UInt8.toNat_ofNat'] at small ⊢
    omega
  next =>
    split at inside
    next =>
      simp only [List.mem_cons, List.not_mem_nil, or_false] at inside
      rcases inside with rfl | rfl <;> rw [UInt8.toNat_ofNat'] at small <;> omega
    next =>
      split at inside
      next =>
        simp only [List.mem_cons, List.not_mem_nil, or_false] at inside
        rcases inside with rfl | rfl | rfl <;> rw [UInt8.toNat_ofNat'] at small <;> omega
      next =>
        simp only [List.mem_cons, List.not_mem_nil, or_false] at inside
        rcases inside with rfl | rfl | rfl | rfl <;> rw [UInt8.toNat_ofNat'] at small <;> omega

theorem utf8EncodeChar_ne (c : Char) (other : c ≠ '%') :
    ∀ b ∈ String.utf8EncodeChar c, b ≠ '%'.toUInt8 := by
  rintro b inside rfl
  have same := toNat_of_mem_utf8EncodeChar c _ inside (by decide)
  exact other (Char.ext (UInt32.toNat_inj.mp same))

theorem utf8EncodeChar_hexDigit (upper : Bool) (n : Nat) (small : n < 16) :
    ∃ b, String.utf8EncodeChar (hexDigit upper n) = [b] ∧ hexValue? b = some (UInt8.ofNat n) := by
  have table : ∀ upper : Bool, ∀ m : Fin 16,
      String.utf8EncodeChar (hexDigit upper m) = [(hexDigit upper m).toUInt8] ∧
        hexValue? (hexDigit upper m).toUInt8 = some (UInt8.ofNat m) := by decide
  exact ⟨_, table upper ⟨n, small⟩⟩

theorem decodeBytes_escape (high low : Bool) (b : UInt8) (rest : List UInt8) :
    decodeBytes (bytes (escape high low b) ++ rest) = (decodeBytes rest).map (b :: ·) := by
  have bound := b.toNat_lt
  obtain ⟨h, one, first⟩ := utf8EncodeChar_hexDigit high (b.toNat / 16) (by omega)
  obtain ⟨l, two, second⟩ := utf8EncodeChar_hexDigit low (b.toNat % 16) (by omega)
  have whole : UInt8.ofNat (b.toNat / 16) * 16 + UInt8.ofNat (b.toNat % 16) = b := by
    apply UInt8.toNat_inj.mp
    simp only [UInt8.toNat_add, UInt8.toNat_mul, UInt8.toNat_ofNat', UInt8.reduceToNat]
    omega
  have written : bytes (escape high low b) ++ rest = '%'.toUInt8 :: h :: l :: rest := by
    simp only [bytes, escape, List.flatMap_cons, one, two, List.flatMap_nil]
    rfl
  rw [written, decodeBytes_percent h l _ _ rest first second, whole]

theorem decodeBytes_escaped (bs : List UInt8) (written : List Char) (rest : List UInt8)
    (h : Escaped bs written) :
    decodeBytes (bytes written ++ rest) = (decodeBytes rest).map (bs ++ ·) := by
  induction h with
  | nil => simp [bytes]
  | cons b bs written high low later ih =>
    rw [bytes_append, List.append_assoc, decodeBytes_escape, ih, Option.map_map]
    rfl

section

variable {raw : Char → Prop} {text written : List Char}

theorem decodeBytes_encodes (escaped : ∀ c, raw c → c ≠ '%') (h : Encodes raw text written) :
    decodeBytes (bytes written) = some (bytes text) := by
  induction h with
  | nil => rfl
  | plain c text written h later ih =>
    have whole := utf8EncodeChar_ne c (escaped c h)
    rw [bytes_cons, decodeBytes_of_ne _ _ whole, ih]
    rfl
  | escaped c text escapes written h later ih =>
    rw [bytes_append, decodeBytes_escaped _ _ _ h, ih]
    rfl

theorem decode_encodes {s t : String} (escaped : ∀ c, raw c → c ≠ '%')
    (h : Encodes raw t.toList s.toList) : decode s = some t := by
  have whole := fromUTF8?_bytes t.toList
  rw [String.ofList_toList] at whole
  rw [decode, toList_toUTF8, decodeBytes_encodes escaped h]
  exact whole

theorem Escaped.chars {bs : List UInt8} (h : Escaped bs written) :
    ∀ c ∈ written, c = '%' ∨ ∃ (upper : Bool) (n : Fin 16), c = hexDigit upper n := by
  induction h with
  | nil => simp
  | cons b bs written high low later ih =>
    have bound := b.toNat_lt
    intro c inside
    rcases List.mem_append.mp inside with here | later
    next =>
      simp only [escape, List.mem_cons, List.not_mem_nil, or_false] at here
      rcases here with rfl | rfl | rfl
      next => exact .inl rfl
      next => exact .inr ⟨high, ⟨b.toNat / 16, by omega⟩, rfl⟩
      next => exact .inr ⟨low, ⟨b.toNat % 16, by omega⟩, rfl⟩
    next => exact ih c later

-- A character that may not stand for itself, and in no escape, is not written.
theorem Encodes.not_mem (h : Encodes raw text written) (c : Char) (never : ¬ raw c)
    (other : c ≠ '%') (digit : ∀ (upper : Bool) (n : Fin 16), c ≠ hexDigit upper n) :
    c ∉ written := by
  induction h with
  | nil => simp
  | plain d text written h later ih =>
    have apart : c ≠ d := fun same => never (same ▸ h)
    simp [apart, ih]
  | escaped d text escapes written h later ih =>
    have apart : c ∉ escapes := by
      intro inside
      rcases h.chars c inside with same | ⟨upper, n, same⟩
      next => exact other same
      next => exact digit upper n same
    simp [apart, ih]

end

end TableScript.Percent
