import Mathlib.Data.Nat.Digits.Defs
import TableScript.Proofs.Token.Slices

set_option autoImplicit false

namespace TableScript

def Escapes (front : List Char) : Prop := (front.reverse.takeWhile (· == '\\')).length % 2 = 1

instance (front : List Char) : Decidable (Escapes front) := inferInstanceAs (Decidable (_ = _))

def Encloses (quote : Char) (body : List Char) : Prop :=
  ¬ Escapes body ∧ ∀ front, front ++ [quote] <+: body → Escapes front

def unescaped : List Char → List Char
  | [] => []
  | '\\' :: e :: cs => (if e ∈ ['"', '\'', '\\'] then [e] else ['\\', e]) ++ unescaped cs
  | c :: cs => c :: unescaped cs

inductive Lexeme : List Char → TokenKind → Prop where
  | integer (ds : List Char) (some : ds ≠ []) (digits : ∀ d ∈ ds, Numeral.isDigit d = true) :
      Lexeme ds (.integer (Nat.ofDigits 10 (ds.reverse.map fun d => d.toNat - '0'.toNat) : Nat))
  | keyword (c : Char) (cs : List Char) (k : Keyword) (first : Scan.isWordStart c = true)
      (others : ∀ d ∈ cs, Scan.isWordPart d = true)
      (spelled : (c :: cs).map Char.toLower = k.spelling.toList) : Lexeme (c :: cs) (.keyword k)
  | identifier (c : Char) (cs : List Char) (first : Scan.isWordStart c = true)
      (others : ∀ d ∈ cs, Scan.isWordPart d = true)
      (free : ∀ k : Keyword, (c :: cs).map Char.toLower ≠ k.spelling.toList) :
      Lexeme (c :: cs) (.identifier (String.ofList (c :: cs)))
  | quoted (quote : Char) (body : List Char) (mark : quote = '"' ∨ quote = '\'')
      (closed : Encloses quote body) :
      Lexeme (quote :: (body ++ [quote])) (.string (String.ofList (unescaped body)))
  | symbol (s : Symbol) : Lexeme s.spelling.toList (.symbol s)

theorem quote_ne_backslash {quote : Char} (mark : quote = '"' ∨ quote = '\'') : quote ≠ '\\' := by
  rcases mark with rfl | rfl <;> decide

@[simp] theorem not_escapes_nil : ¬ Escapes [] := by decide

@[simp] theorem escapes_backslash : Escapes ['\\'] := by decide

theorem escapes_cons (c : Char) (cs : List Char) (plain : c ≠ '\\') :
    Escapes (c :: cs) ↔ Escapes cs := by
  unfold Escapes
  rw [List.reverse_cons, List.takeWhile_append]
  split
  next whole => simp [plain, whole]
  next => rfl

theorem escapes_pair (e : Char) (cs : List Char) : Escapes ('\\' :: e :: cs) ↔ Escapes cs := by
  unfold Escapes
  rw [List.reverse_cons, List.reverse_cons, List.append_assoc, List.takeWhile_append]
  split
  next whole => by_cases second : e = '\\' <;> simp [second, whole]
  next => rfl

theorem encloses_nil (quote : Char) : Encloses quote [] := by
  simp [Encloses]

theorem encloses_cons (quote c : Char) (body : List Char) (other : c ≠ quote) (plain : c ≠ '\\') :
    Encloses quote (c :: body) ↔ Encloses quote body := by
  unfold Encloses
  rw [escapes_cons c body plain]
  refine and_congr_right fun _ => ⟨fun h front inside => ?_, fun h front inside => ?_⟩
  next =>
    rw [← escapes_cons c front plain]
    exact h (c :: front) (List.cons_prefix_cons.mpr ⟨rfl, inside⟩)
  next =>
    cases front with
    | nil => exact absurd (List.cons_prefix_cons.mp inside).1.symm other
    | cons first front =>
      rw [List.cons_append, List.cons_prefix_cons] at inside
      obtain ⟨rfl, inside⟩ := inside
      rw [escapes_cons first front plain]
      exact h front inside

theorem encloses_pair (quote e : Char) (body : List Char) (mark : quote ≠ '\\') :
    Encloses quote ('\\' :: e :: body) ↔ Encloses quote body := by
  unfold Encloses
  rw [escapes_pair]
  refine and_congr_right fun _ => ⟨fun h front inside => ?_, fun h front inside => ?_⟩
  next =>
    rw [← escapes_pair e front]
    exact h ('\\' :: e :: front) (by simpa [List.cons_prefix_cons] using inside)
  next =>
    -- a quote right behind the backslash is escaped by it; later ones are those of `body`
    match front with
    | [] => exact absurd (List.cons_prefix_cons.mp inside).1 mark
    | [first] =>
      obtain ⟨rfl, -⟩ := List.cons_prefix_cons.mp inside
      exact escapes_backslash
    | first :: second :: front =>
      simp only [List.cons_append, List.cons_prefix_cons] at inside
      obtain ⟨rfl, rfl, inside⟩ := inside
      rw [escapes_pair]
      exact h front inside

namespace Quotation

theorem read_quote (quote : Char) (rest : List Char) :
    read quote (quote :: rest) = ⟨.ok [], [quote], rest⟩ := by
  rw [read.eq_def]
  exact if_pos rfl

theorem read_pair (quote e : Char) (rest : List Char) (mark : quote ≠ '\\') :
    read quote ('\\' :: e :: rest) = (read quote rest).push ['\\', e] (meaning e) := by
  rw [read, if_neg mark.symm, if_pos rfl]

theorem read_plain (quote c : Char) (rest : List Char) (other : c ≠ quote) (plain : c ≠ '\\') :
    read quote (c :: rest) = (read quote rest).push [c] [c] := by
  rw [read.eq_def]
  simp only [if_neg other, if_neg plain]

theorem push_contents_eq_ok_iff (q : Quotation) (written meant contents : List Char) :
    (q.push written meant).contents = .ok contents ↔
      ∃ later, q.contents = .ok later ∧ meant ++ later = contents := by
  cases inner : q.contents <;> simp [push, inner, Except.map]

theorem push_contents_eq_error_iff (q : Quotation) (written meant : List Char) (fault : LexFault) :
    (q.push written meant).contents = .error fault ↔ q.contents = .error fault := by
  cases inner : q.contents <;> simp [push, inner, Except.map]

theorem unescaped_pair (e : Char) (cs : List Char) :
    unescaped ('\\' :: e :: cs) = meaning e ++ unescaped cs := by
  simp [unescaped, meaning]

theorem unescaped_plain (c : Char) (cs : List Char) (plain : c ≠ '\\') :
    unescaped (c :: cs) = c :: unescaped cs := by
  rw [unescaped]
  intro e rest backslash
  exact absurd backslash plain

theorem read_of_encloses (quote : Char) (body rest : List Char) (mark : quote ≠ '\\')
    (closed : Encloses quote body) :
    read quote (body ++ quote :: rest) = ⟨.ok (unescaped body), body ++ [quote], rest⟩ := by
  fun_induction unescaped body with
  | case1 => exact read_quote quote rest
  | case2 e body ih =>
    rw [encloses_pair quote e body mark] at closed
    rw [List.cons_append, List.cons_append, read_pair quote e _ mark, ih closed]
    simp [push, Except.map, meaning]
  | case3 c body alone ih =>
    have plain : c ≠ '\\' := by
      rintro rfl
      cases body with
      | nil => exact closed.1 escapes_backslash
      | cons e body => exact alone e body rfl rfl
    have other : c ≠ quote := by
      rintro rfl
      exact not_escapes_nil (closed.2 [] (by simp))
    rw [encloses_cons quote c body other plain] at closed
    rw [List.cons_append, read_plain quote c _ other plain, ih closed]
    simp [push, Except.map]

theorem encloses_of_read (quote : Char) (cs contents : List Char) (mark : quote ≠ '\\')
    (h : (read quote cs).contents = .ok contents) :
    ∃ body, (read quote cs).taken = body ++ [quote] ∧ Encloses quote body ∧
      contents = unescaped body := by
  fun_induction read quote cs generalizing contents with
  | case1 => cases h
  | case2 cs =>
    cases h
    exact ⟨[], rfl, encloses_nil _, rfl⟩
  | case3 => cases h
  | case4 e cs other ih =>
    obtain ⟨later, inner, rfl⟩ := (push_contents_eq_ok_iff _ _ _ _).mp h
    obtain ⟨body, taken, closed, rfl⟩ := ih later inner
    refine ⟨'\\' :: e :: body, ?_, (encloses_pair quote e body mark).mpr closed, ?_⟩
    next => simp [push, taken]
    next => rw [unescaped_pair]
  | case5 c cs other plain ih =>
    obtain ⟨later, inner, rfl⟩ := (push_contents_eq_ok_iff _ _ _ _).mp h
    obtain ⟨body, taken, closed, rfl⟩ := ih later inner
    refine ⟨c :: body, ?_, (encloses_cons quote c body other plain).mpr closed, ?_⟩
    next => simp [push, taken]
    next => rw [unescaped_plain c body plain, List.singleton_append]

theorem fault_of_read (quote : Char) (cs : List Char) (fault : LexFault)
    (h : (read quote cs).contents = .error fault) :
    fault = if Escapes cs then .unterminatedEscape else .unterminatedString := by
  fun_induction read quote cs with
  | case1 =>
    cases h
    simp
  | case2 => cases h
  | case3 =>
    cases h
    simp
  | case4 e cs other ih =>
    simp only [escapes_pair]
    exact ih ((push_contents_eq_error_iff _ _ _ _).mp h)
  | case5 c cs other plain ih =>
    simp only [escapes_cons c cs plain]
    exact ih ((push_contents_eq_error_iff _ _ _ _).mp h)

end Quotation

end TableScript
