import TableScript.Proofs.Service.Percent

set_option autoImplicit false

namespace TableScript.Percent

-- The bytes that a text stands for when every percent sign in it begins an escape.
inductive StandsFor : List Char → List UInt8 → Prop where
  | nil : StandsFor [] []
  | plain (c : Char) (written : List Char) (decoded : List UInt8) (other : c ≠ '%')
      (later : StandsFor written decoded) :
      StandsFor (c :: written) (String.utf8EncodeChar c ++ decoded)
  | escaped (high low : Bool) (b : UInt8) (written : List Char) (decoded : List UInt8)
      (later : StandsFor written decoded) :
      StandsFor (escape high low b ++ written) (b :: decoded)

def StartsWithHexPair (text : List Char) : Prop :=
  ∃ high low rest, text = high :: low :: rest ∧ high.isHexDigit = true ∧ low.isHexDigit = true

/-- Past whole escapes there is a percent sign that two hexadecimal digits do not follow. -/
def Broken (written : List Char) : Prop :=
  ∃ front after decoded, written = front ++ '%' :: after ∧ StandsFor front decoded ∧
    ¬ StartsWithHexPair after

-- The first byte of a character can be told from the others.
theorem exists_utf8EncodeChar (c : Char) :
    ∃ b more, String.utf8EncodeChar c = b :: more ∧ b.IsUTF8FirstByte ∧
      ∀ d ∈ more, ¬ d.IsUTF8FirstByte := by
  obtain ⟨b, more, shape⟩ := List.exists_cons_of_ne_nil (String.utf8EncodeChar_ne_nil (c := c))
  have places (i : Nat) (inside : i < (b :: more).length) :
      (b :: more)[i].IsUTF8FirstByte ↔ i = 0 := by
    simp only [← shape]
    exact UInt8.isUTF8FirstByte_getElem_utf8EncodeChar
  refine ⟨b, more, shape, (places 0 (by simp)).mpr rfl, ?_⟩
  intro d inside first
  obtain ⟨i, bound, rfl⟩ := List.mem_iff_getElem.mp inside
  exact absurd ((places (i + 1) (by simpa using bound)).mp first) (by omega)

section Digits

theorem toNat_hexDigit (upper : Bool) (n : Nat) (small : n < 16) :
    (hexDigit upper n).val.toNat = (if n < 10 then 48 else if upper then 55 else 87) + n := by
  have table : ∀ (upper : Bool) (m : Fin 16), (hexDigit upper m).val.toNat =
      (if m.val < 10 then 48 else if upper then 55 else 87) + m.val := by decide
  exact table upper ⟨n, small⟩

theorem isHexDigit_iff (c : Char) : c.isHexDigit = true ↔
    48 ≤ c.val.toNat ∧ c.val.toNat ≤ 57 ∨ 97 ≤ c.val.toNat ∧ c.val.toNat ≤ 102 ∨
      65 ≤ c.val.toNat ∧ c.val.toNat ≤ 70 := by
  simp only [Char.isHexDigit, Char.isDigit, Bool.or_eq_true, Bool.and_eq_true, decide_eq_true_eq,
    ge_iff_le, UInt32.le_iff_toNat_le, or_assoc]
  rfl

theorem exists_hexDigit (c : Char) (digit : c.isHexDigit = true) :
    ∃ (upper : Bool) (n : Nat), n < 16 ∧ c = hexDigit upper n := by
  have same (upper : Bool) (n : Nat) (small : n < 16)
      (code : c.val.toNat = (if n < 10 then 48 else if upper then 55 else 87) + n) :
      ∃ (upper : Bool) (n : Nat), n < 16 ∧ c = hexDigit upper n := by
    rw [← toNat_hexDigit upper n small] at code
    exact ⟨upper, n, small, Char.ext (UInt32.toNat_inj.mp code)⟩
  rcases (isHexDigit_iff c).mp digit with digit | lower | upper
  next =>
    apply same false (c.val.toNat - 48) (by omega)
    rw [if_pos (by omega)]
    omega
  next =>
    apply same false (c.val.toNat - 87) (by omega)
    rw [if_neg (by omega), if_neg (by decide)]
    omega
  next =>
    apply same true (c.val.toNat - 55) (by omega)
    rw [if_neg (by omega), if_pos rfl]
    omega

theorem isHexDigit_of_hexValue? (c : Char) (b v : UInt8) (inside : b ∈ String.utf8EncodeChar c)
    (value : hexValue? b = some v) : c.isHexDigit = true := by
  have range : 48 ≤ b.toNat ∧ b.toNat ≤ 57 ∨ 97 ≤ b.toNat ∧ b.toNat ≤ 102 ∨
      65 ≤ b.toNat ∧ b.toNat ≤ 70 := by
    unfold hexValue? at value
    split at value
    next digit => exact .inl digit
    next =>
      split at value
      next lower => exact .inr (.inl lower)
      next =>
        split at value
        next upper => exact .inr (.inr upper)
        next => cases value
  have code := toNat_of_mem_utf8EncodeChar c b inside (by omega)
  rw [isHexDigit_iff, code]
  exact range

theorem hexValue?_eq_none (c : Char) (b : UInt8) (inside : b ∈ String.utf8EncodeChar c)
    (other : c.isHexDigit ≠ true) : hexValue? b = none := by
  cases value : hexValue? b with
  | none => rfl
  | some v => exact absurd (isHexDigit_of_hexValue? c b v inside value) other

theorem exists_escape (high low : Char) (first : high.isHexDigit = true)
    (second : low.isHexDigit = true) :
    ∃ (upper upper' : Bool) (b : UInt8), ['%', high, low] = escape upper upper' b := by
  obtain ⟨upper, h, hsmall, rfl⟩ := exists_hexDigit high first
  obtain ⟨upper', l, lsmall, rfl⟩ := exists_hexDigit low second
  refine ⟨upper, upper', UInt8.ofNat (16 * h + l), ?_⟩
  have value : (UInt8.ofNat (16 * h + l)).toNat = 16 * h + l := by
    rw [UInt8.toNat_ofNat']
    omega
  have front : (16 * h + l) / 16 = h := by omega
  have back : (16 * h + l) % 16 = l := by omega
  rw [escape, value, front, back]

end Digits

section Refusal

theorem decodeBytes_percent_left (b : UInt8) (rest : List UInt8) (none : hexValue? b = none) :
    decodeBytes ('%'.toUInt8 :: b :: rest) = Option.none := by
  cases rest with
  | nil => rfl
  | cons low rest => rw [decodeBytes, if_pos rfl, none]

theorem decodeBytes_percent_right (b low : UInt8) (rest : List UInt8) (none : hexValue? low = none) :
    decodeBytes ('%'.toUInt8 :: b :: low :: rest) = Option.none := by
  rw [decodeBytes, if_pos rfl, none]
  cases hexValue? b <;> rfl

theorem exists_bytes_cons (c : Char) (text : List Char) :
    ∃ b rest, b ∈ String.utf8EncodeChar c ∧ bytes (c :: text) = b :: rest := by
  obtain ⟨b, more, shape, _⟩ := exists_utf8EncodeChar c
  refine ⟨b, more ++ bytes text, by simp [shape], ?_⟩
  rw [bytes_cons, shape, List.cons_append]

theorem decodeBytes_percent_other (after : List Char) (h : ¬ StartsWithHexPair after) :
    decodeBytes (bytes ('%' :: after)) = none := by
  have whole : bytes ('%' :: after) = '%'.toUInt8 :: bytes after := rfl
  rw [whole]
  cases after with
  | nil => rfl
  | cons high rest =>
    by_cases first : high.isHexDigit = true
    next =>
      obtain ⟨upper, n, small, rfl⟩ := exists_hexDigit high first
      obtain ⟨b, single, _⟩ := utf8EncodeChar_hexDigit upper n small
      have front : bytes (hexDigit upper n :: rest) = b :: bytes rest := by
        rw [bytes_cons, single, List.singleton_append]
      rw [front]
      cases rest with
      | nil => rfl
      | cons low rest =>
        have second : low.isHexDigit ≠ true := fun digit => h ⟨_, low, rest, rfl, first, digit⟩
        obtain ⟨l, behind, inside, shape⟩ := exists_bytes_cons low rest
        rw [shape]
        exact decodeBytes_percent_right b l behind (hexValue?_eq_none low l inside second)
    next =>
      obtain ⟨b, behind, inside, shape⟩ := exists_bytes_cons high rest
      rw [shape]
      exact decodeBytes_percent_left b behind (hexValue?_eq_none high b inside first)

end Refusal

section Scanning

variable {written : List Char} {decoded : List UInt8}

theorem StandsFor.decodeBytes_append (h : StandsFor written decoded) (rest : List UInt8) :
    decodeBytes (bytes written ++ rest) = (decodeBytes rest).map (decoded ++ ·) := by
  induction h with
  | nil => simp [bytes]
  | plain c written decoded other later ih =>
    rw [bytes_cons, List.append_assoc,
      decodeBytes_of_ne _ _ (utf8EncodeChar_ne c other), ih, Option.map_map]
    congr 1
    funext tail
    exact (List.append_assoc _ _ _).symm
  | escaped high low b written decoded later ih =>
    rw [bytes_append, List.append_assoc, decodeBytes_escape, ih, Option.map_map]
    rfl

theorem StandsFor.decodeBytes_eq (h : StandsFor written decoded) :
    decodeBytes (bytes written) = some decoded := by
  have read := h.decodeBytes_append []
  rw [List.append_nil] at read
  simp [read, decodeBytes]

theorem Broken.decodeBytes_eq (h : Broken written) : decodeBytes (bytes written) = none := by
  obtain ⟨front, after, passed, rfl, whole, bad⟩ := h
  rw [bytes_append, whole.decodeBytes_append, decodeBytes_percent_other after bad]
  rfl

theorem Broken.plain {c : Char} (h : Broken written) (other : c ≠ '%') : Broken (c :: written) := by
  obtain ⟨front, after, passed, rfl, whole, bad⟩ := h
  exact ⟨c :: front, after, _, rfl, .plain c front passed other whole, bad⟩

theorem Broken.escaped {high low : Bool} {b : UInt8} (h : Broken written) :
    Broken (escape high low b ++ written) := by
  obtain ⟨front, after, passed, rfl, whole, bad⟩ := h
  exact ⟨escape high low b ++ front, after, _, by rw [List.append_assoc],
    .escaped high low b front passed whole, bad⟩

theorem standsFor_or_broken (written : List Char) :
    (∃ decoded, StandsFor written decoded) ∨ Broken written := by
  -- an escape takes three characters at once, so the induction is on the length
  induction size : written.length using Nat.strongRecOn generalizing written with
  | ind size ih =>
    subst size
    cases written with
    | nil => exact .inl ⟨[], .nil⟩
    | cons c rest =>
      by_cases percent : c = '%'
      next =>
        subst percent
        by_cases pair : StartsWithHexPair rest
        next =>
          obtain ⟨high, low, later, rfl, first, second⟩ := pair
          obtain ⟨upper, upper', b, shape⟩ := exists_escape high low first second
          have whole : '%' :: high :: low :: later = escape upper upper' b ++ later := by
            rw [← shape]
            rfl
          rw [whole]
          rcases ih later.length (by simp only [List.length_cons]; omega) later rfl with
            ⟨decoded, stands⟩ | broken
          next => exact .inl ⟨b :: decoded, .escaped upper upper' b later decoded stands⟩
          next => exact .inr broken.escaped
        next => exact .inr ⟨[], rest, [], rfl, .nil, pair⟩
      next =>
        rcases ih rest.length (by simp) rest rfl with ⟨decoded, stands⟩ | broken
        next => exact .inl ⟨_, .plain c rest decoded percent stands⟩
        next => exact .inr (broken.plain percent)

end Scanning

section Texts

variable {written : List Char} {decoded rest : List UInt8}

-- A byte inside a character begins none, so it cannot come from one that stands for itself.
theorem StandsFor.escaped_of_inside (more : List UInt8) (inside : ∀ b ∈ more, ¬ b.IsUTF8FirstByte)
    (h : StandsFor written (more ++ rest)) :
    ∃ escapes later, written = escapes ++ later ∧ Escaped more escapes ∧ StandsFor later rest := by
  induction more generalizing written with
  | nil => exact ⟨[], written, rfl, .nil, h⟩
  | cons b more ih =>
    obtain ⟨first, others⟩ := List.forall_mem_cons.mp inside
    generalize shape : b :: more ++ rest = whole at h
    cases h with
    | nil => cases shape
    | plain c written decoded other later =>
      obtain ⟨d, tail, encoded, begins, _⟩ := exists_utf8EncodeChar c
      rw [encoded] at shape
      obtain rfl : b = d := (List.cons.inj shape).1
      exact absurd begins first
    | escaped high low d written decoded later =>
      obtain ⟨rfl, behind⟩ := List.cons.inj shape
      obtain ⟨escapes, after, rfl, written, stands⟩ := ih others (behind ▸ later)
      exact ⟨escape high low b ++ escapes, after, by rw [List.append_assoc],
        .cons b more escapes high low written, stands⟩

theorem utf8EncodeChar_append_inj (c d : Char) (text : List Char) (decoded : List UInt8)
    (same : String.utf8EncodeChar d ++ decoded = bytes (c :: text)) :
    d = c ∧ decoded = bytes text := by
  have front : [d].utf8Encode ++ decoded.toByteArray = (c :: text).utf8Encode := by
    rw [List.utf8Encode_singleton, ← List.toByteArray_append, same]
    rfl
  have begins := List.isPrefix_of_utf8Encode_append_eq_utf8Encode _ front
  obtain rfl : d = c := by simpa using begins
  exact ⟨rfl, List.append_cancel_left same⟩

theorem StandsFor.encodes (text : List Char) (h : StandsFor written (bytes text)) :
    Encodes (· ≠ '%') text written := by
  induction text generalizing written with
  | nil =>
    generalize shape : bytes [] = whole at h
    cases h with
    | nil => exact .nil
    | plain c => simp [bytes, String.utf8EncodeChar_ne_nil] at shape
    | escaped => cases shape
  | cons c text ih =>
    generalize shape : bytes (c :: text) = whole at h
    cases h with
    | nil => simp [bytes, String.utf8EncodeChar_ne_nil] at shape
    | plain d written decoded other later =>
      obtain ⟨rfl, rfl⟩ := utf8EncodeChar_append_inj c d text decoded shape.symm
      exact .plain d text written other (ih later)
    | escaped high low b written decoded later =>
      obtain ⟨first, more, encoded, _, inside⟩ := exists_utf8EncodeChar c
      have split : first :: (more ++ bytes text) = b :: decoded := by
        rw [← shape, bytes_cons, encoded, List.cons_append]
      obtain ⟨rfl, rfl⟩ := List.cons.inj split
      obtain ⟨escapes, after, rfl, others, stands⟩ := later.escaped_of_inside more inside
      rw [← List.append_assoc]
      apply Encodes.escaped c text _ after _ (ih stands)
      rw [encoded]
      exact .cons first more escapes high low others

theorem fromUTF8?_eq_some_iff (decoded : List UInt8) (t : String) :
    String.fromUTF8? decoded.toByteArray = some t ↔ decoded = bytes t.toList := by
  constructor
  next =>
    intro read
    unfold String.fromUTF8? at read
    split at read
    next valid =>
      rw [Option.some.injEq] at read
      rw [← toList_toUTF8, ← read]
      exact (toList_toByteArray decoded).symm
    next => cases read
  next =>
    rintro rfl
    rw [fromUTF8?_bytes, String.ofList_toList]

theorem fromUTF8?_eq_none_iff (decoded : List UInt8) :
    String.fromUTF8? decoded.toByteArray = none ↔ ¬ decoded.toByteArray.IsValidUTF8 := by
  unfold String.fromUTF8?
  split <;> simp_all

theorem decode_of_standsFor (s : String) (h : StandsFor s.toList decoded) :
    decode s = String.fromUTF8? decoded.toByteArray := by
  rw [decode, toList_toUTF8, h.decodeBytes_eq]

theorem decode_of_broken (s : String) (h : Broken s.toList) : decode s = none := by
  rw [decode, toList_toUTF8, h.decodeBytes_eq]

theorem decode_eq_some_iff (s t : String) :
    decode s = some t ↔ Encodes (· ≠ '%') t.toList s.toList := by
  constructor
  next =>
    intro read
    rcases standsFor_or_broken s.toList with ⟨decoded, stands⟩ | broken
    next =>
      rw [decode_of_standsFor s stands, fromUTF8?_eq_some_iff] at read
      subst read
      exact stands.encodes t.toList
    next =>
      rw [decode_of_broken s broken] at read
      cases read
  next => exact decode_encodes fun _ plain => plain

theorem decode_eq_none_iff (s : String) :
    decode s = none ↔ Broken s.toList ∨
      ∃ decoded, StandsFor s.toList decoded ∧ ¬ decoded.toByteArray.IsValidUTF8 := by
  constructor
  next =>
    intro refused
    rcases standsFor_or_broken s.toList with ⟨decoded, stands⟩ | broken
    next =>
      rw [decode_of_standsFor s stands, fromUTF8?_eq_none_iff] at refused
      exact .inr ⟨decoded, stands, refused⟩
    next => exact .inl broken
  next =>
    rintro (broken | ⟨decoded, stands, invalid⟩)
    next => exact decode_of_broken s broken
    next =>
      rw [decode_of_standsFor s stands, fromUTF8?_eq_none_iff]
      exact invalid

end Texts

theorem decode_inverts_encodings (s : String) :
    (∀ t : String, decode s = some t ↔ Encodes (· ≠ '%') t.toList s.toList) ∧
      (decode s = none ↔ Broken s.toList ∨
        ∃ decoded, StandsFor s.toList decoded ∧ ¬ decoded.toByteArray.IsValidUTF8) :=
  ⟨decode_eq_some_iff s, decode_eq_none_iff s⟩

end TableScript.Percent
