import TableScript.Text.Basic

set_option autoImplicit false

namespace TableScript.Text

theorem delimiter_cases (cs : List Char) : delimiter cs = '\'' ∨ delimiter cs = '"' := by
  unfold delimiter
  split
  next => exact .inr rfl
  next => exact .inl rfl

def nextChar? (delim : Char) : List Char → Option (Char × List Char)
  | '\\' :: 'n' :: rest => some ('\n', rest)
  | '\\' :: 'r' :: rest => some ('\r', rest)
  | '\\' :: 't' :: rest => some ('\t', rest)
  | '\\' :: c :: rest => some (c, rest)
  | c :: rest => if c = delim then none else some (c, rest)
  | [] => none

section Reading

variable (delim : Char) (quote : delim = '\'' ∨ delim = '"')

include quote

theorem nextChar?_delimiter (rest : List Char) : nextChar? delim (delim :: rest) = none := by
  rcases quote with rfl | rfl <;> simp [nextChar?]

theorem nextChar?_quotedChar (c : Char) (rest : List Char) :
    nextChar? delim (quotedChar delim c ++ rest) = some (c, rest) := by
  unfold quotedChar
  split
  next backslash => simp [nextChar?, backslash]
  split
  next newline => simp [nextChar?, newline]
  split
  next carriage => simp [nextChar?, carriage]
  split
  next tab => simp [nextChar?, tab]
  split
  next same =>
    subst same
    rcases quote with rfl | rfl <;> simp [nextChar?]
  next backslash _ _ _ other =>
    rw [List.singleton_append]
    unfold nextChar?
    split <;> simp_all

theorem nextChar?_cons (c : Char) (cs rest : List Char) :
    nextChar? delim ((c :: cs).flatMap (quotedChar delim) ++ delim :: rest) =
      some (c, cs.flatMap (quotedChar delim) ++ delim :: rest) := by
  rw [List.flatMap_cons, List.append_assoc, nextChar?_quotedChar delim quote]

theorem flatMap_quotedChar_inj (cs ds rest rest' : List Char)
    (same : cs.flatMap (quotedChar delim) ++ delim :: rest =
      ds.flatMap (quotedChar delim) ++ delim :: rest') : cs = ds ∧ rest = rest' := by
  induction cs generalizing ds with
  | nil =>
    cases ds with
    | nil => simpa using same
    | cons d ds =>
      have read := congrArg (nextChar? delim) same
      rw [nextChar?_cons delim quote] at read
      simp [nextChar?_delimiter delim quote] at read
  | cons c cs ih =>
    have read := congrArg (nextChar? delim) same
    rw [nextChar?_cons delim quote] at read
    cases ds with
    | nil => simp [nextChar?_delimiter delim quote] at read
    | cons d ds =>
      rw [nextChar?_cons delim quote, Option.some.injEq, Prod.mk.injEq] at read
      obtain ⟨rfl, later⟩ := read
      obtain ⟨rfl, behind⟩ := ih ds later
      exact ⟨rfl, behind⟩

end Reading

theorem quoted_append_inj (cs ds rest rest' : List Char)
    (same : quoted cs ++ rest = quoted ds ++ rest') : cs = ds ∧ rest = rest' := by
  simp only [quoted, List.cons_append, List.append_assoc, List.nil_append, List.cons.injEq] at same
  obtain ⟨delimiters, inside⟩ := same
  rw [← delimiters] at inside
  exact flatMap_quotedChar_inj _ (delimiter_cases cs) cs ds rest rest' inside

end TableScript.Text
