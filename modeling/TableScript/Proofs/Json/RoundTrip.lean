import TableScript.Json.Basic
import TableScript.Proofs.Decimal.Written
import TableScript.Proofs.Json.Reading

set_option autoImplicit false

namespace TableScript.Json

open Numeral (Ends Written)

theorem hexValue?_hexDigit (n : Nat) (h : n < 16) : hexValue? (hexDigit n) = some n := by
  have all : ∀ m < 16, hexValue? (hexDigit m) = some m := by decide
  exact all n h

theorem textChar_cases (c : Char) :
    (∃ mark, simpleEscape? mark = some c ∧ textChar c = ['\\', mark]) ∨
    (c.toNat < 0x20 ∧ textChar c =
      ['\\', 'u', '0', '0', hexDigit (c.toNat / 16), hexDigit (c.toNat % 16)]) ∨
    (c ≠ '"' ∧ c ≠ '\\' ∧ 0x20 ≤ c.toNat ∧ textChar c = [c]) := by
  by_cases escaped : c ∈ ['"', '\\', '\x08', '\x0c', '\n', '\r', '\t']
  next =>
    left
    simp only [List.mem_cons, List.not_mem_nil, or_false] at escaped
    rcases escaped with rfl | rfl | rfl | rfl | rfl | rfl | rfl
    next => exact ⟨'"', rfl, rfl⟩
    next => exact ⟨'\\', rfl, rfl⟩
    next => exact ⟨'b', rfl, rfl⟩
    next => exact ⟨'f', rfl, rfl⟩
    next => exact ⟨'n', rfl, rfl⟩
    next => exact ⟨'r', rfl, rfl⟩
    next => exact ⟨'t', rfl, rfl⟩
  next =>
    right
    simp only [List.mem_cons, List.not_mem_nil, or_false, not_or] at escaped
    obtain ⟨quote, backslash, b, f, n, r, t⟩ := escaped
    simp only [textChar, quote, backslash, b, f, n, r, t, if_false]
    by_cases hidden : c.toNat < 0x20
    next => exact .inl ⟨hidden, if_pos hidden⟩
    next => exact .inr ⟨quote, backslash, Nat.not_lt.mp hidden, if_neg hidden⟩

theorem view_text?_textChar (c : Char) (more : List Char) :
    view (text? (textChar c ++ more)) = (view (text? more)).map fun s => (c :: s.1, s.2) := by
  rcases textChar_cases c with ⟨mark, meant, written⟩ | ⟨hidden, written⟩ |
    ⟨quote, backslash, shown, written⟩
  next =>
    rw [written, List.cons_append, view_text?_escape, List.singleton_append,
      view_escape?_simple mark c more meant]
    rfl
  next =>
    have zero : hexValue? '0' = some 0 := by decide
    have unit : view (unit? ('0' :: '0' :: hexDigit (c.toNat / 16) :: hexDigit (c.toNat % 16) :: more)) =
        some (c.toNat, more) := by
      rw [view_unit?, zero, hexValue?_hexDigit _ (by omega), hexValue?_hexDigit _ (by omega)]
      refine congrArg (fun code => some (code, more)) ?_
      omega
    have escape := view_escape?_unit _ more c.toNat unit (by omega)
    rw [Char.ofNat_toNat] at escape
    rw [written, List.cons_append, view_text?_escape]
    exact congrArg (Option.bind · _) escape
  next =>
    rw [written]
    exact view_text?_plain c more quote backslash shown

theorem view_text?_written (cs rest : List Char) :
    view (text? (cs.flatMap textChar ++ '"' :: rest)) = some (cs, rest) := by
  induction cs with
  | nil => exact view_text?_quote rest
  | cons c cs ih =>
    rw [List.flatMap_cons, List.append_assoc, view_text?_textChar, ih]
    rfl

theorem word?_self (word : String) (j : Json) (rest : List Char) :
    word? word j (word.toList ++ rest) = some (j, rest) := by
  have whole : word.toList.isPrefixOf (word.toList ++ rest) = true :=
    List.isPrefixOf_iff_prefix.mpr (List.prefix_append _ _)
  rw [word?, if_pos whole, ← String.length_toList, List.drop_left]

theorem word?_of_ne (word : String) (j : Json) (c d : Char) (letters cs : List Char)
    (spelled : word.toList = d :: letters) (other : d ≠ c) : word? word j (c :: cs) = none := by
  simp [word?, spelled, other]

theorem isDigit_or_minus (w : Written) (rest : List Char) :
    ∃ c cs, w.chars ++ rest = c :: cs ∧ (Numeral.isDigit c = true ∨ c = '-') := by
  obtain ⟨c, cs, first, digit⟩ := w.whole.exists_cons
  rw [Written.chars, first]
  cases w.negative with
  | false => exact ⟨c, _, rfl, .inl digit⟩
  | true => exact ⟨'-', _, rfl, .inr rfl⟩

theorem number?_written (w : Written) (rest : List Char) (ends : Ends rest)
    (lead : w.whole.chars.length = 1 ∨ w.whole.chars.head? ≠ some '0') :
    number? (w.chars ++ rest) = some (ofNumeral w.numeral, rest) := by
  have plus : (w.chars ++ rest).head? ≠ some '+' := by
    obtain ⟨c, cs, first, digit | rfl⟩ := isDigit_or_minus w rest
    next =>
      rw [first]
      rintro ⟨⟩
      exact absurd digit (by decide)
    next => simp [first]
  have number : isNumber w.numeral = true := by
    have fraction : w.numeral.fraction ≠ some [] := by
      intro none
      obtain ⟨ds, _, empty⟩ := Option.map_eq_some_iff.mp none
      exact ds.nonempty empty
    simp only [isNumber, Bool.and_eq_true, Bool.or_eq_true, bne_iff_ne, beq_iff_eq, ne_eq, fraction,
      not_false_eq_true, and_true]
    exact ⟨by simp [Written.numeral, w.whole.nonempty], lead⟩
  rw [number?, if_neg plus, Numeral.scan_written w rest ends]
  exact if_pos number

theorem number?_of_no_digit (cs : List Char)
    (other : ∀ c, (Numeral.sign cs).2.head? = some c → Numeral.isDigit c = false) : number? cs = none := by
  have empty : (Numeral.digits (Numeral.sign cs).2).1 = [] := by
    rw [Numeral.digits]
    cases rest : (Numeral.sign cs).2 with
    | nil => rfl
    | cons c after => simp [other c (by rw [rest]; rfl)]
  have number : isNumber (Numeral.scan cs).1 = false := by simp [isNumber, Numeral.scan, empty]
  simp [number?, number]

theorem wordOrNumber?_of_ne (c : Char) (cs : List Char) (letter : c ∉ ['n', 't', 'f']) :
    wordOrNumber? (c :: cs) = number? (c :: cs) := by
  simp only [List.mem_cons, List.not_mem_nil, or_false, not_or] at letter
  obtain ⟨n, t, f⟩ := letter
  rw [wordOrNumber?, word?_of_ne "null" .null c 'n' _ cs rfl (Ne.symm n),
    word?_of_ne "true" _ c 't' _ cs rfl (Ne.symm t), word?_of_ne "false" _ c 'f' _ cs rfl (Ne.symm f)]
  rfl

theorem view_scalar?_of_found (cs rest : List Char) (j : Json) (shorter : rest.length < cs.length)
    (found : wordOrNumber? cs = some (j, rest)) : view (scalar? cs) = some (j, rest) := by
  simp only [scalar?, found, shorter, dif_pos, view_some]

theorem scalar?_eq_none (c : Char) (cs : List Char) (letter : c ∉ ['n', 't', 'f'])
    (number : number? (c :: cs) = none) : scalar? (c :: cs) = none := by
  simp only [scalar?, wordOrNumber?_of_ne c cs letter, number]

theorem value?_eq_none (depth : Nat) (cs : List Char) (c : Char) (after : List Char)
    (first : skipSpace cs = c :: after) (plain : c ∉ ['"', '[', '{', 'n', 't', 'f'])
    (number : number? (c :: after) = none) : value? depth cs = none := by
  have opened := opened_value? depth cs
  rw [first] at opened
  suffices none : view (value? depth cs) = none by simpa [view] using none
  generalize view (value? depth cs) = out at opened ⊢
  simp only [List.mem_cons, List.not_mem_nil, or_false, not_or] at plain
  obtain ⟨text, array, object, letters⟩ := plain
  cases opened with
  | text => exact absurd rfl text
  | array => exact absurd rfl array
  | object => exact absurd rfl object
  | tooDeep => rfl
  | scalar =>
    rw [scalar?_eq_none c after (by simp [letters]) number]
    rfl

theorem numeral_first (c : Char) (kind : Numeral.isDigit c = true ∨ c = '-') :
    isSpace c = false ∧ c ∉ ['"', '[', '{'] ∧ c ∉ ['n', 't', 'f'] := by
  rcases kind with digit | rfl
  next =>
    have others : ∀ d ∈ [' ', '\t', '\n', '\r', '"', '[', '{', 'n', 't', 'f'],
        Numeral.isDigit d = false := by simp [Numeral.isDigit]
    have apart : c ∉ [' ', '\t', '\n', '\r', '"', '[', '{', 'n', 't', 'f'] := by
      intro member
      simp [others c member] at digit
    simp_all [isSpace]
  next => decide

theorem view_value?_number (depth : Nat) (w : Written) (rest : List Char) (ends : Ends rest)
    (lead : w.whole.chars.length = 1 ∨ w.whole.chars.head? ≠ some '0') :
    view (value? depth (w.chars ++ rest)) = some (ofNumeral w.numeral, rest) := by
  have number := number?_written w rest ends lead
  have shorter : rest.length < (w.chars ++ rest).length := by
    obtain ⟨c, cs, first, _⟩ := isDigit_or_minus w []
    rw [List.append_nil] at first
    rw [first, List.length_append, List.length_cons]
    omega
  obtain ⟨c, cs, first, kind⟩ := isDigit_or_minus w rest
  obtain ⟨solid, plain, letter⟩ := numeral_first c kind
  rw [first] at number shorter ⊢
  rw [view_value?_scalar depth cs c solid plain]
  exact view_scalar?_of_found _ rest _ shorter ((wordOrNumber?_of_ne c cs letter).trans number)

theorem view_value?_word (depth : Nat) (word : String) (j : Json) (c : Char) (letters rest : List Char)
    (spelled : word.toList = c :: letters) (letter : c ∈ ['n', 't', 'f'])
    (found : wordOrNumber? (word.toList ++ rest) = some (j, rest)) :
    view (value? depth (word.toList ++ rest)) = some (j, rest) := by
  have letters : ∀ d ∈ ['n', 't', 'f'], isSpace d = false ∧ d ∉ ['"', '[', '{'] := by simp [isSpace]
  obtain ⟨solid, plain⟩ := letters c letter
  have shorter : rest.length < (word.toList ++ rest).length := by
    rw [spelled, List.length_append, List.length_cons]
    omega
  rw [spelled, List.cons_append] at found shorter ⊢
  rw [view_value?_scalar depth _ c solid plain]
  exact view_scalar?_of_found _ rest j shorter found

/--
Documents with containers nested at most so deep and with reals of a given kind. The names in an object
are distinct, and none that marks a number comes first.
-/
inductive Formed (real : Binary64 → Prop) : Nat → Json → Prop where
  | null (depth : Nat) : Formed real depth .null
  | bool (depth : Nat) (b : Bool) : Formed real depth (.bool b)
  | int (depth : Nat) (n : Int) : Formed real depth (.int n)
  | real (depth : Nat) (x : Binary64) (kind : real x) : Formed real depth (.real x)
  | string (depth : Nat) (s : String) : Formed real depth (.string s)
  | array (depth : Nat) (items : List Json) (parts : ∀ j ∈ items, Formed real depth j) :
      Formed real (depth + 1) (.array items)
  | object (depth : Nat) (members : List (String × Json)) (distinct : (members.map (·.1)).Nodup)
      (unmarked : (members.map (·.1)).head? ≠ some numberMarker)
      (parts : ∀ member ∈ members, Formed real depth member.2) :
      Formed real (depth + 1) (.object members)

def ReadBack (depth : Nat) (j : Json) : Prop :=
  ∀ rest, Ends rest → view (value? depth (writeChars j ++ rest)) = some (j, rest)

theorem ends_cons (c : Char) (rest : List Char) (mark : c ∈ [',', ']', '}']) : Ends (c :: rest) := by
  have all : ∀ d ∈ [',', ']', '}'], Numeral.isDigit d = false ∧ d ≠ '.' ∧ d ≠ 'e' ∧ d ≠ 'E' := by
    simp [Numeral.isDigit]
  rintro _ ⟨⟩
  exact all c mark

theorem readBack_word (depth : Nat) (j : Json) (word : String) (c : Char) (letters : List Char)
    (written : writeChars j = word.toList) (spelled : word.toList = c :: letters)
    (letter : c ∈ ['n', 't', 'f'])
    (found : ∀ rest, wordOrNumber? (word.toList ++ rest) = some (j, rest)) : ReadBack depth j := by
  intro rest _
  rw [written]
  exact view_value?_word depth word j c letters rest spelled letter (found rest)

theorem readBack_bool (depth : Nat) (b : Bool) : ReadBack depth (.bool b) := by
  cases b with
  | false =>
    apply readBack_word depth _ "false" 'f' _ rfl rfl (by decide)
    intro rest
    have null : word? "null" .null ("false".toList ++ rest) = none :=
      word?_of_ne "null" .null 'f' 'n' _ _ rfl (by decide)
    have other : word? "true" (.bool true) ("false".toList ++ rest) = none :=
      word?_of_ne "true" _ 'f' 't' _ _ rfl (by decide)
    rw [wordOrNumber?, null, other, word?_self]
    rfl
  | true =>
    apply readBack_word depth _ "true" 't' _ rfl rfl (by decide)
    intro rest
    have null : word? "null" .null ("true".toList ++ rest) = none :=
      word?_of_ne "null" .null 't' 'n' _ _ rfl (by decide)
    rw [wordOrNumber?, null, word?_self]
    rfl

theorem readBack_int (depth : Nat) (n : Int) : ReadBack depth (.int n) := by
  intro rest ends
  obtain ⟨w, written, value, plain, lead⟩ := Decimal.exists_written_int n
  have read : ofNumeral w.numeral = .int n := by rw [ofNumeral, if_pos plain, value]
  have chars : writeChars (.int n) = w.chars := by rw [writeChars, written]
  rw [chars, view_value?_number depth w rest ends lead, read]

theorem readBack_real (depth : Nat) (x : Binary64) (finite : x.isFinite = true) :
    ReadBack depth (.real x) := by
  intro rest ends
  cases x with
  | nan => cases finite
  | infinite s => cases finite
  | finite s r =>
    obtain ⟨w, written, value, pointed, lead⟩ :=
      Decimal.exists_written_shortest realFormat .toEven s r
    have read : ofNumeral w.numeral = .real (.finite s r) := by
      rw [ofNumeral, if_neg (by simp [pointed]), value]
    have chars : writeChars (.real (.finite s r)) = w.chars := by rw [writeChars, realChars, written]
    rw [chars, view_value?_number depth w rest ends lead, read]

theorem readBack_string (depth : Nat) (s : String) : ReadBack depth (.string s) := by
  intro rest _
  rw [writeChars, textChars, List.cons_append, view_value?_text, List.append_assoc,
    List.singleton_append, view_text?_written]
  simp [String.ofList_toList]

section Containers

variable {depth : Nat}

-- A value cannot begin with what closes an array.
theorem exists_first_of_value? (cs rest : List Char) (j : Json)
    (read : view (value? depth cs) = some (j, rest)) :
    ∃ c after, skipSpace cs = c :: after ∧ c ≠ ']' := by
  cases first : skipSpace cs with
  | nil =>
    have opened := opened_value? depth cs
    rw [first, read] at opened
    cases opened
  | cons c after =>
    refine ⟨c, after, rfl, ?_⟩
    rintro rfl
    have number : number? (']' :: after) = none := number?_of_no_digit _ (by rintro _ ⟨⟩; decide)
    rw [value?_eq_none depth cs ']' after first (by decide) number] at read
    cases read

theorem ends_laterItemChars (items : List Json) (rest : List Char) :
    Ends (laterItemChars items ++ ']' :: rest) := by
  cases items with
  | nil => exact ends_cons _ _ (by decide)
  | cons j items => exact ends_cons _ _ (by decide)

theorem ends_laterMemberChars (members : List (String × Json)) (rest : List Char) :
    Ends (laterMemberChars members ++ '}' :: rest) := by
  cases members with
  | nil => exact ends_cons _ _ (by decide)
  | cons member members => exact ends_cons _ _ (by decide)

theorem memberAt_written (name : String) (j : Json) (rest : List Char) (value : ReadBack depth j)
    (ends : Ends rest) :
    MemberAt depth (textChars name.toList ++ ':' :: (writeChars j ++ rest)) rest j name := by
  have text : textChars name.toList ++ ':' :: (writeChars j ++ rest) =
      '"' :: (name.toList.flatMap textChar ++ '"' :: ':' :: (writeChars j ++ rest)) := by
    simp [textChars]
  rw [text]
  exact ⟨_, _, _, skipSpace_cons _ _ (by decide), view_text?_written _ _, skipSpace_cons _ _ (by decide),
    value rest ends⟩

theorem view_laterItems?_written (j : Json) (items : List Json) (rest : List Char)
    (first : ReadBack depth j) (others : ∀ k ∈ items, ReadBack depth k) :
    view (laterItems? depth (writeChars j ++ (laterItemChars items ++ ']' :: rest))) =
      some (j :: items, rest) := by
  induction items generalizing j with
  | nil =>
    have read := first (']' :: rest) (ends_cons _ _ (by decide))
    exact view_laterItems?_close depth _ _ rest j read (skipSpace_cons _ _ (by decide))
  | cons k items ih =>
    have read := first (',' :: (writeChars k ++ (laterItemChars items ++ ']' :: rest)))
      (ends_cons _ _ (by decide))
    have later := ih k (others k (by simp)) fun i member => others i (by simp [member])
    rw [laterItemChars, List.cons_append, List.append_assoc,
      view_laterItems?_comma depth _ _ _ j read (skipSpace_cons _ _ (by decide)), later]
    rfl

theorem readBack_array (items : List Json) (parts : ∀ j ∈ items, ReadBack depth j) :
    ReadBack (depth + 1) (.array items) := by
  intro rest _
  rw [writeChars, List.cons_append, view_value?_array, List.append_assoc, List.singleton_append]
  cases items with
  | nil =>
    rw [itemChars, List.nil_append, view_items?_close depth _ rest (skipSpace_cons _ _ (by decide))]
    rfl
  | cons j items =>
    have read := view_laterItems?_written j items rest (parts j (by simp))
      fun k member => parts k (by simp [member])
    obtain ⟨c, after, first, other⟩ :=
      exists_first_of_value? _ _ j (parts j (by simp) _ (ends_laterItemChars items rest))
    rw [itemChars, List.append_assoc, view_items?_of_ne depth _ after c first other, read]
    rfl

theorem view_laterMembers?_written (members : List (String × Json)) (rest : List Char)
    (parts : ∀ member ∈ members, ReadBack depth member.2) :
    view (laterMembers? depth (laterMemberChars members ++ '}' :: rest)) = some (members, rest) := by
  induction members with
  | nil => exact view_laterMembers?_close depth _ rest (skipSpace_cons _ _ (by decide))
  | cons member members ih =>
    obtain ⟨name, j⟩ := member
    have later := ih fun other inside => parts other (by simp [inside])
    have named := memberAt_written name j (laterMemberChars members ++ '}' :: rest)
      (parts (name, j) (by simp)) (ends_laterMemberChars members rest)
    have text : laterMemberChars ((name, j) :: members) ++ '}' :: rest =
        ',' :: (textChars name.toList ++ ':' :: (writeChars j ++ (laterMemberChars members ++ '}' :: rest))) := by
      simp [laterMemberChars]
    rw [text, view_laterMembers?_comma depth _ _ _ j name (skipSpace_cons _ _ (by decide)) named, later]
    rfl

theorem readBack_object (members : List (String × Json)) (distinct : (members.map (·.1)).Nodup)
    (unmarked : (members.map (·.1)).head? ≠ some numberMarker)
    (parts : ∀ member ∈ members, ReadBack depth member.2) : ReadBack (depth + 1) (.object members) := by
  intro rest _
  rw [writeChars, List.cons_append, view_value?_object, List.append_assoc, List.singleton_append]
  cases members with
  | nil => exact view_members?_close depth _ rest (skipSpace_cons _ _ (by decide))
  | cons member members =>
    obtain ⟨name, j⟩ := member
    have plain : name ≠ numberMarker := by simpa using unmarked
    have later := view_laterMembers?_written members rest fun other inside => parts other (by simp [inside])
    have named := memberAt_written name j (laterMemberChars members ++ '}' :: rest)
      (parts (name, j) (by simp)) (ends_laterMemberChars members rest)
    have text : memberChars ((name, j) :: members) ++ '}' :: rest =
        textChars name.toList ++ ':' :: (writeChars j ++ (laterMemberChars members ++ '}' :: rest)) := by
      simp [memberChars]
    rw [text, view_members?_member depth _ _ j name named plain, later, Option.map_some,
      Assoc.collect_of_nodup _ distinct]

end Containers

theorem Formed.readBack (depth : Nat) (j : Json) (h : Formed (·.isFinite = true) depth j) :
    ReadBack depth j := by
  induction h with
  | null depth =>
    exact readBack_word depth .null "null" 'n' _ rfl rfl (by decide) fun rest => by
      rw [wordOrNumber?, word?_self, Option.some_or]
  | bool depth b => exact readBack_bool depth b
  | int depth n => exact readBack_int depth n
  | real depth x finite => exact readBack_real depth x finite
  | string depth s => exact readBack_string depth s
  | array depth items _ ih => exact readBack_array items ih
  | object depth members distinct unmarked _ ih => exact readBack_object members distinct unmarked ih

theorem read?_writeChars (j : Json) (h : Formed (·.isFinite = true) depthLimit j) :
    read? (writeChars j) = some j := by
  have ends : Ends [] := by simp [Numeral.Ends]
  have read := h.readBack depthLimit j [] ends
  rw [List.append_nil] at read
  obtain ⟨q, found, value, rest⟩ := (view_eq_some_iff _ _ _).mp read
  have last : (skipSpace q.rest).isEmpty = true := by rw [rest]; rfl
  rw [read?, found]
  exact (if_pos last).trans (congrArg some value)

end TableScript.Json
