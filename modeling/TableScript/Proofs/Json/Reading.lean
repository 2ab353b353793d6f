import TableScript.Json.Read

set_option autoImplicit false

namespace TableScript.Json

variable {α β : Type} {m n : Nat}

def view (p : Option (Parsed α n)) : Option (α × List Char) := p.map fun p => (p.value, p.rest)

@[simp] theorem view_none : view (none : Option (Parsed α n)) = none := rfl

@[simp] theorem view_some (p : Parsed α n) : view (some p) = some (p.value, p.rest) := rfl

@[simp] theorem widen_value (p : Parsed α m) (h : m ≤ n) : (p.widen h).value = p.value := rfl

@[simp] theorem widen_rest (p : Parsed α m) (h : m ≤ n) : (p.widen h).rest = p.rest := rfl

@[simp] theorem map_value (f : α → β) (p : Parsed α n) : (p.map f).value = f p.value := rfl

@[simp] theorem map_rest (f : α → β) (p : Parsed α n) : (p.map f).rest = p.rest := rfl

theorem view_bind (p : Option (Parsed α m)) (f : Parsed α m → Option (Parsed β n))
    (g : α × List Char → Option (β × List Char)) (h : ∀ q, view (f q) = g (q.value, q.rest)) :
    view (p >>= f) = (view p).bind g := by
  cases p with
  | none => rfl
  | some q => exact h q

theorem view_widen (p : Option (Parsed α m)) (h : m ≤ n) :
    view (p >>= fun q => pure (q.widen h)) = view p := by
  cases p <;> rfl

theorem view_map_widen (p : Option (Parsed α m)) (f : α → β) (h : m ≤ n) :
    view (p >>= fun q => pure ((q.map f).widen h)) = (view p).map fun r => (f r.1, r.2) := by
  cases p <;> rfl

theorem view_eq_some_iff (p : Option (Parsed α n)) (a : α) (rest : List Char) :
    view p = some (a, rest) ↔ ∃ q, p = some q ∧ q.value = a ∧ q.rest = rest := by
  simp [view]

theorem skipSpace_cons (c : Char) (cs : List Char) (solid : isSpace c = false) :
    skipSpace (c :: cs) = c :: cs := by
  simp [skipSpace, solid]

theorem exists_expect (c : Char) (cs rest : List Char) (first : skipSpace cs = c :: rest) :
    ∃ q, expect c cs = some q ∧ q.rest = rest := by
  unfold expect
  split
  next blank => simp [blank] at first
  next d after other =>
    cases other.symm.trans first
    rw [if_pos rfl]
    exact ⟨_, rfl, rfl⟩

theorem expect_of_ne (c d : Char) (cs rest : List Char) (first : skipSpace cs = d :: rest)
    (other : d ≠ c) : expect c cs = none := by
  unfold expect
  split
  next => rfl
  next e after same =>
    cases same.symm.trans first
    rw [if_neg other]

theorem view_text?_quote (rest : List Char) : view (text? ('"' :: rest)) = some ([], rest) := by
  rw [text?]
  rfl

theorem view_text?_escape (after : List Char) :
    view (text? ('\\' :: after)) = (view (escape? after)).bind fun c =>
      (view (text? c.2)).map fun more => (c.1 :: more.1, more.2) := by
  rw [text?]
  apply view_bind
  intro c
  cases text? c.rest <;> rfl

theorem view_text?_plain (c : Char) (after : List Char) (quote : c ≠ '"') (escape : c ≠ '\\')
    (shown : 0x20 ≤ c.toNat) :
    view (text? (c :: after)) = (view (text? after)).map fun more => (c :: more.1, more.2) := by
  rw [text?]
  case x => exact quote
  case x_1 => exact escape
  rw [if_neg (Nat.not_lt.mpr shown)]
  cases text? after <;> rfl

theorem view_escape?_simple (c meant : Char) (after : List Char) (h : simpleEscape? c = some meant) :
    view (escape? (c :: after)) = some (meant, after) := by
  have other : c ≠ 'u' := by
    rintro rfl
    cases h
  rw [escape?]
  case x => exact other
  rw [h]
  rfl

theorem view_unit? (a b c d : Char) (rest : List Char) :
    view (unit? (a :: b :: c :: d :: rest)) =
      (hexValue? a).bind fun a => (hexValue? b).bind fun b => (hexValue? c).bind fun c =>
        (hexValue? d).map fun d => (((a * 16 + b) * 16 + c) * 16 + d, rest) := by
  rw [unit?]
  cases hexValue? a <;> cases hexValue? b <;> cases hexValue? c <;> cases hexValue? d <;> rfl

-- A unit below the surrogates is a character by itself.
theorem view_escape?_unit (after rest : List Char) (code : Nat) (h : view (unit? after) = some (code, rest))
    (low : code < 0xD800) : view (escape? ('u' :: after)) = some (Char.ofNat code, rest) := by
  obtain ⟨high, read, rfl, rfl⟩ := (view_eq_some_iff _ _ _).mp h
  have single : unicodeEscape? after = some (high.map Char.ofNat) := by
    simp only [unicodeEscape?, read, Option.bind_eq_bind, Option.bind_some]
    rw [if_neg (by omega), if_neg (by omega)]
    rfl
  rw [escape?, single]
  rfl

inductive Opened : Nat → List Char → Option (Json × List Char) → Prop where
  | blank (depth : Nat) : Opened depth [] none
  | text (depth : Nat) (after : List Char) :
      Opened depth ('"' :: after) ((view (text? after)).map fun s => (.string (String.ofList s.1), s.2))
  | array (depth : Nat) (after : List Char) :
      Opened (depth + 1) ('[' :: after) ((view (items? depth after)).map fun xs => (.array xs.1, xs.2))
  | object (depth : Nat) (after : List Char) :
      Opened (depth + 1) ('{' :: after) (view (members? depth after))
  | tooDeep (c : Char) (after : List Char) (container : c = '[' ∨ c = '{') : Opened 0 (c :: after) none
  | scalar (depth : Nat) (c : Char) (after : List Char) (text : c ≠ '"') (array : c ≠ '[')
      (object : c ≠ '{') : Opened depth (c :: after) (view (scalar? (c :: after)))

theorem opened_value? (depth : Nat) (cs : List Char) :
    Opened depth (skipSpace cs) (view (value? depth cs)) := by
  rw [value?]
  split
  next blank =>
    rw [blank]
    exact .blank depth
  next after first =>
    rw [view_map_widen, first]
    exact .text depth after
  next after first =>
    cases depth with
    | zero =>
      simp only [first, view_none]
      exact .tooDeep '[' after (.inl rfl)
    | succ depth =>
      simp only [view_map_widen, first]
      exact .array depth after
  next after first =>
    cases depth with
    | zero =>
      simp only [first, view_none]
      exact .tooDeep '{' after (.inr rfl)
    | succ depth =>
      simp only [view_widen, first]
      exact .object depth after
  next c after text array object first =>
    rw [view_widen, first]
    exact .scalar depth c after text array object

section First

variable (depth : Nat) (after : List Char)

theorem view_value?_text : view (value? depth ('"' :: after)) =
    (view (text? after)).map fun s => (.string (String.ofList s.1), s.2) := by
  have opened := opened_value? depth ('"' :: after)
  generalize view (value? depth ('"' :: after)) = out at opened ⊢
  rw [skipSpace_cons _ _ (by decide)] at opened
  cases opened with
  | text => rfl
  | tooDeep _ _ container => simp at container
  | scalar _ _ _ other => exact absurd rfl other

theorem view_value?_array : view (value? (depth + 1) ('[' :: after)) =
    (view (items? depth after)).map fun xs => (.array xs.1, xs.2) := by
  have opened := opened_value? (depth + 1) ('[' :: after)
  generalize view (value? (depth + 1) ('[' :: after)) = out at opened ⊢
  rw [skipSpace_cons _ _ (by decide)] at opened
  cases opened with
  | array => rfl
  | scalar _ _ _ _ other => exact absurd rfl other

theorem view_value?_object : view (value? (depth + 1) ('{' :: after)) = view (members? depth after) := by
  have opened := opened_value? (depth + 1) ('{' :: after)
  generalize view (value? (depth + 1) ('{' :: after)) = out at opened ⊢
  rw [skipSpace_cons _ _ (by decide)] at opened
  cases opened with
  | object => rfl
  | scalar _ _ _ _ _ other => exact absurd rfl other

theorem view_value?_scalar (c : Char) (solid : isSpace c = false)
    (plain : c ∉ ['"', '[', '{']) : view (value? depth (c :: after)) = view (scalar? (c :: after)) := by
  have opened := opened_value? depth (c :: after)
  generalize view (value? depth (c :: after)) = out at opened ⊢
  rw [skipSpace_cons _ _ solid] at opened
  cases opened with
  | scalar => rfl
  | tooDeep _ _ container => rcases container with rfl | rfl <;> simp at plain
  | _ => simp at plain

end First

section Items

variable (depth : Nat) (cs rest after : List Char) (j : Json)

theorem view_items?_close (first : skipSpace cs = ']' :: rest) :
    view (items? depth cs) = some ([], rest) := by
  obtain ⟨close, found, here⟩ := exists_expect ']' cs rest first
  rw [items?, found]
  simp [here]

theorem view_items?_of_ne (c : Char) (first : skipSpace cs = c :: rest) (other : c ≠ ']') :
    view (items? depth cs) = view (laterItems? depth cs) := by
  rw [items?, expect_of_ne ']' c cs rest first other]

theorem view_laterItems?_comma (item : view (value? depth cs) = some (j, rest))
    (comma : skipSpace rest = ',' :: after) :
    view (laterItems? depth cs) =
      (view (laterItems? depth after)).map fun more => (j :: more.1, more.2) := by
  obtain ⟨first, found, rfl, rfl⟩ := (view_eq_some_iff _ _ _).mp item
  obtain ⟨mark, here, rfl⟩ := exists_expect ',' _ after comma
  rw [laterItems?, found]
  simp only [Option.bind_eq_bind, Option.bind_some, here]
  exact view_map_widen _ _ _

theorem view_laterItems?_close (item : view (value? depth cs) = some (j, rest))
    (close : skipSpace rest = ']' :: after) : view (laterItems? depth cs) = some ([j], after) := by
  obtain ⟨first, found, rfl, rfl⟩ := (view_eq_some_iff _ _ _).mp item
  have missing := expect_of_ne ',' ']' _ after close (by decide)
  obtain ⟨mark, here, rfl⟩ := exists_expect ']' _ after close
  rw [laterItems?, found]
  simp [missing, here]

def MemberAt (name : String) : Prop :=
  ∃ text colon value, skipSpace cs = '"' :: text ∧ view (text? text) = some (name.toList, colon) ∧
    skipSpace colon = ':' :: value ∧ view (value? depth value) = some (j, rest)

theorem view_members?_close (first : skipSpace cs = '}' :: rest) :
    view (members? depth cs) = some (.object [], rest) := by
  obtain ⟨close, found, here⟩ := exists_expect '}' cs rest first
  rw [members?, found]
  simp [here]

theorem view_members?_member (name : String) (member : MemberAt depth cs rest j name)
    (plain : name ≠ numberMarker) :
    view (members? depth cs) = (view (laterMembers? depth rest)).map fun more =>
      (.object (Assoc.collect ((name, j) :: more.1)), more.2) := by
  obtain ⟨text, colon, value, quote, named, divided, read⟩ := member
  have missing := expect_of_ne '}' '"' cs text quote (by decide)
  obtain ⟨mark, here, rfl⟩ := exists_expect '"' cs text quote
  obtain ⟨label, known, called, rfl⟩ := (view_eq_some_iff _ _ _).mp named
  obtain ⟨point, next, rfl⟩ := exists_expect ':' _ value divided
  obtain ⟨first, found, rfl, rfl⟩ := (view_eq_some_iff _ _ _).mp read
  have spelled : String.ofList label.value = name := by rw [called, String.ofList_toList]
  rw [members?, missing]
  simp only [here, known, next, found, Option.bind_eq_bind, Option.bind_some, spelled, plain, if_false]
  cases laterMembers? depth first.rest <;> rfl

theorem view_laterMembers?_comma (name : String) (comma : skipSpace cs = ',' :: after)
    (member : MemberAt depth after rest j name) :
    view (laterMembers? depth cs) =
      (view (laterMembers? depth rest)).map fun more => ((name, j) :: more.1, more.2) := by
  obtain ⟨text, colon, value, quote, named, divided, read⟩ := member
  obtain ⟨divider, between, rfl⟩ := exists_expect ',' cs after comma
  obtain ⟨mark, here, rfl⟩ := exists_expect '"' _ text quote
  obtain ⟨label, known, called, rfl⟩ := (view_eq_some_iff _ _ _).mp named
  obtain ⟨point, next, rfl⟩ := exists_expect ':' _ value divided
  obtain ⟨first, found, rfl, rfl⟩ := (view_eq_some_iff _ _ _).mp read
  have spelled : String.ofList label.value = name := by rw [called, String.ofList_toList]
  rw [laterMembers?, between]
  simp only [here, known, next, found, Option.bind_eq_bind, Option.bind_some, spelled]
  exact view_map_widen _ _ _

theorem view_laterMembers?_close (close : skipSpace cs = '}' :: rest) :
    view (laterMembers? depth cs) = some ([], rest) := by
  have missing := expect_of_ne ',' '}' cs rest close (by decide)
  obtain ⟨mark, here, rfl⟩ := exists_expect '}' cs rest close
  rw [laterMembers?, missing]
  simp [here]

end Items

end TableScript.Json
