import TableScript.Proofs.Token.Longest

set_option autoImplicit false

namespace TableScript

def Settled : Except LexError Token → Prop
  | .ok t => t.kind = .eof
  | .error e => ∃ c, e.fault = .unexpectedCharacter c

def Final : Except LexError Token → Prop
  | .ok t => t.kind = .eof
  | .error _ => True

theorem Position.offset_le_after (p : Position) (cs : List Char) : p.offset ≤ (p.after cs).offset := by
  induction cs generalizing p with
  | nil => exact Nat.le_refl _
  | cons c cs ih =>
    have stepped : p.offset ≤ (p.step c).offset := by
      unfold step
      split <;> exact Nat.le_add_right _ _
    exact Nat.le_trans stepped (ih (p.step c))

theorem Scan.read_of_unexpected (c d : Char) (cs : List Char)
    (h : (read c cs).outcome = .error (.unexpectedCharacter d)) :
    read c cs = ⟨.error (.unexpectedCharacter c), [], c :: cs⟩ := by
  have cases := dispatch_read c cs
  generalize read c cs = s at cases h ⊢
  cases cases with
  | symbol | digits | word => cases h
  | withEqual plain equal => exact absurd h (withEqual_ne_error plain equal c cs _)
  | bang mark =>
    subst mark
    cases fault_of_bang cs _ h
  | quotation mark =>
    have fault := fault_of_quotation c cs _ h
    split at fault <;> cases fault
  | unexpected => rfl

namespace Lexer

theorem skipBlank_skipBlank (l : Lexer) : l.skipBlank.skipBlank = l.skipBlank := by
  have same : l.skipBlank.rest.dropWhile Text.isBlank = l.skipBlank.rest :=
    List.dropWhile_idempotent ..
  have none : l.skipBlank.rest.takeWhile Text.isBlank = [] := by
    have whole := List.takeWhile_append_dropWhile (p := Text.isBlank) (l := l.skipBlank.rest)
    rwa [same, List.append_left_eq_self] at whole
  rw [skipBlank.eq_def l.skipBlank, same, none]
  rfl

theorem next_skipBlank (l : Lexer) : l.skipBlank.next = l.next := by
  rw [next, next, skipBlank_skipBlank]

-- What one reading does: it stays in front of what it has found, or takes something off the text.
theorem settled_or_taken (l : Lexer) :
    Settled l.next.1 ∧ l.next.2 = l.skipBlank ∨
      ¬ Settled l.next.1 ∧ ∃ taken, taken ≠ [] ∧ taken ++ l.next.2.rest = l.rest := by
  rcases l.next_cases with ⟨-, same⟩ | ⟨c, cs, here, same⟩
  next =>
    rw [same]
    exact .inl ⟨rfl, rfl⟩
  rw [same]
  have consumed (some : (Scan.read c cs).taken ≠ []) :
      ∃ taken, taken ≠ [] ∧ taken ++ (finish l.skipBlank.pos (Scan.read c cs)).2.rest = l.rest := by
    have whole : (Scan.read c cs).taken ++ (Scan.read c cs).rest = c :: cs := Scan.splits_read c cs
    refine ⟨l.rest.takeWhile Text.isBlank ++ (Scan.read c cs).taken, by simp [some], ?_⟩
    rw [finish_snd, List.append_assoc, whole, ← here]
    exact List.takeWhile_append_dropWhile
  cases outcome : (Scan.read c cs).outcome with
  | ok kind =>
    have lexeme := Scan.lexical_read c cs kind outcome
    refine .inr ⟨?_, consumed lexeme.ne_nil⟩
    simpa [finish, outcome, Settled] using lexeme.ne_eof
  | error fault =>
    by_cases unexpected : ∃ d, fault = .unexpectedCharacter d
    next =>
      obtain ⟨d, rfl⟩ := unexpected
      rw [Scan.read_of_unexpected c d cs outcome]
      refine .inl ⟨⟨c, rfl⟩, ?_⟩
      rw [finish_snd, ← here]
      rfl
    next =>
      refine .inr ⟨by simpa [finish, outcome, Settled] using unexpected, consumed fun none => ?_⟩
      cases (Scan.outcome_of_taken_eq_nil c cs none).symm.trans outcome
      exact unexpected ⟨c, rfl⟩

theorem next_of_settled (l : Lexer) (h : Settled l.next.1) : l.next.2.next = l.next := by
  rcases l.settled_or_taken with ⟨-, stays⟩ | ⟨other, -⟩
  next => rw [stays, next_skipBlank]
  next => exact absurd h other

theorem afterReads_add (l : Lexer) (m n : Nat) : l.afterReads (m + n) = (l.afterReads m).afterReads n := by
  induction n with
  | zero => rfl
  | succ n ih => rw [← Nat.add_assoc, afterReads, afterReads, ih]

theorem next_afterReads_of_settled (l : Lexer) (h : Settled l.next.1) (n : Nat) :
    (l.afterReads n).next = l.next := by
  induction n with
  | zero => rfl
  | succ n ih => rw [afterReads, ih, next_of_settled l h]

theorem result_constant (l : Lexer) (m n : Nat) (before : m ≤ n)
    (h : Settled (l.afterReads m).next.1) : (l.afterReads n).next.1 = (l.afterReads m).next.1 := by
  obtain ⟨d, rfl⟩ := Nat.exists_eq_add_of_le before
  rw [afterReads_add, next_afterReads_of_settled _ h]

-- As long as nothing is settled, each reading costs the text a character.
theorem settled_or_shorter (l : Lexer) (n : Nat) :
    (∃ m < n, Settled (l.afterReads m).next.1) ∨ (l.afterReads n).rest.length + n ≤ l.rest.length := by
  induction n with
  | zero => exact .inr (Nat.le_refl _)
  | succ n ih =>
    rcases ih with ⟨m, before, settled⟩ | shorter
    next => exact .inl ⟨m, Nat.lt_succ_of_lt before, settled⟩
    next =>
      rcases (l.afterReads n).settled_or_taken with ⟨settled, -⟩ | ⟨-, taken, some, whole⟩
      next => exact .inl ⟨n, Nat.lt_succ_self n, settled⟩
      next =>
        have positive := List.length_pos_iff.mpr some
        have size := congrArg List.length whole
        rw [List.length_append] at size
        rw [afterReads]
        exact .inr (by omega)

theorem exists_settled (l : Lexer) : ∃ m ≤ l.rest.length, Settled (l.afterReads m).next.1 := by
  rcases l.settled_or_shorter l.rest.length with ⟨m, before, settled⟩ | shorter
  next => exact ⟨m, Nat.le_of_lt before, settled⟩
  next =>
    refine ⟨l.rest.length, Nat.le_refl _, ?_⟩
    have none : (l.afterReads l.rest.length).rest = [] := List.length_eq_zero_iff.mp (by omega)
    rcases (l.afterReads l.rest.length).settled_or_taken with ⟨settled, -⟩ | ⟨-, taken, some, whole⟩
    next => exact settled
    next =>
      rw [none] at whole
      exact absurd (List.append_eq_nil_iff.mp whole).1 some

theorem start_of_next (l : Lexer) (t : Token) (h : l.next.1 = .ok t) :
    t.span.start = l.skipBlank.pos.offset := by
  rcases l.next_cases with ⟨-, same⟩ | ⟨c, cs, -, same⟩
  next =>
    rw [same] at h
    cases h
    rfl
  next =>
    have read : l.next = (.ok t, l.next.2) := Prod.ext h rfl
    obtain ⟨kind, -, rfl, -⟩ := (finish_eq_ok_iff _ _ t _).mp (same.symm.trans read)
    rfl

theorem offset_le_next (l : Lexer) : l.skipBlank.pos.offset ≤ l.next.2.skipBlank.pos.offset := by
  have skipped (l : Lexer) : l.pos.offset ≤ l.skipBlank.pos.offset := l.pos.offset_le_after _
  refine Nat.le_trans ?_ (skipped l.next.2)
  rcases l.next_cases with ⟨-, same⟩ | ⟨c, cs, -, same⟩
  next => rw [same]
  next =>
    rw [same, finish_snd]
    exact l.skipBlank.pos.offset_le_after _

theorem start_le_of_le (l : Lexer) (m n : Nat) (before : m ≤ n) (t u : Token)
    (first : (l.afterReads m).next.1 = .ok t) (second : (l.afterReads n).next.1 = .ok u) :
    t.span.start ≤ u.span.start := by
  rw [start_of_next _ t first, start_of_next _ u second]
  exact monotone_nat_of_le_succ (f := fun n => (l.afterReads n).skipBlank.pos.offset)
    (fun n => (l.afterReads n).offset_le_next) before

end Lexer

namespace TokenStream

def afterPulls (s : TokenStream) : Nat → TokenStream
  | 0 => s
  | n + 1 => (s.afterPulls n).next.2

theorem isLast_iff (result : Except LexError Token) : isLast result = true ↔ Final result := by
  cases result <;> simp [isLast, Final]

-- A stream keeps step with the readings of its lexer until a result is final.
theorem afterPulls_cases (l : Lexer) (n : Nat) :
    (afterPulls ⟨l, false⟩ n).finished = true ∧ (∃ m < n, Final (l.afterReads m).next.1) ∨
      afterPulls ⟨l, false⟩ n = ⟨l.afterReads n, false⟩ ∧ ∀ m < n, ¬ Final (l.afterReads m).next.1 := by
  induction n with
  | zero => exact .inr ⟨rfl, by simp⟩
  | succ n ih =>
    rw [afterPulls]
    rcases ih with ⟨finished, m, before, final⟩ | ⟨here, going⟩
    next =>
      refine .inl ⟨?_, m, Nat.lt_succ_of_lt before, final⟩
      rw [next, if_pos finished]
      exact finished
    next =>
      rw [here]
      by_cases final : Final (l.afterReads n).next.1
      next => exact .inl ⟨(isLast_iff _).mpr final, n, Nat.lt_succ_self n, final⟩
      next =>
        have goesOn : isLast (l.afterReads n).next.1 = false :=
          Bool.eq_false_iff.mpr fun last => final ((isLast_iff _).mp last)
        refine .inr ⟨?_, fun m before => ?_⟩
        next => exact congrArg (TokenStream.mk _) goesOn
        next =>
          rcases Nat.lt_succ_iff_lt_or_eq.mp before with earlier | rfl
          next => exact going m earlier
          next => exact final

theorem next_afterPulls (l : Lexer) (k n : Nat) :
    let result m := (l.afterReads m).next.1
    let pulled := (afterPulls ⟨l.afterReads k, false⟩ n).next.1
    ((∀ m < n, ¬ Final (result (k + m))) → pulled = some (result (k + n))) ∧
      ((∃ m < n, Final (result (k + m))) → pulled = none) := by
  intro result pulled
  simp only [result, Lexer.afterReads_add]
  rcases afterPulls_cases (l.afterReads k) n with ⟨finished, m, before, final⟩ | ⟨here, none⟩
  next =>
    refine ⟨fun going => absurd final (going m before), fun _ => ?_⟩
    simp only [pulled, next, if_pos finished]
  next =>
    refine ⟨fun _ => ?_, fun ⟨m, before, final⟩ => absurd final (none m before)⟩
    simp only [pulled, here]
    rfl

end TokenStream

-- Readings are numbered from zero, failed ones included; a stream may start after any of them.
theorem readings_settle (source : String) :
    let lexer := (Lexer.ofSource source).afterReads
    let result n := (lexer n).next.1
    (∀ n, Settled (result n) ∨ ∃ taken, taken ≠ [] ∧ taken ++ (lexer (n + 1)).rest = (lexer n).rest) ∧
    (∀ m n, m ≤ n → Settled (result m) → result n = result m) ∧
    (∀ n, source.length ≤ n → result n = result source.length) ∧
    (∀ m n t u, m ≤ n → result m = .ok t → result n = .ok u → t.span.start ≤ u.span.start) ∧
    ∀ k n, let pulled := ((TokenStream.mk (lexer k) false).afterPulls n).next.1
      ((∀ m < n, ¬ Final (result (k + m))) → pulled = some (result (k + n))) ∧
      ((∃ m < n, Final (result (k + m))) → pulled = none) := by
  intro lexer result
  refine ⟨fun n => ?_, Lexer.result_constant _, ?_,
    fun m n t u before => Lexer.start_le_of_le _ m n before t u, fun k n => ?_⟩
  next =>
    rcases (lexer n).settled_or_taken with ⟨settled, -⟩ | ⟨-, taken⟩
    next => exact .inl settled
    next => exact .inr taken
  next =>
    obtain ⟨m, bound, settled⟩ := (Lexer.ofSource source).exists_settled
    rw [Lexer.ofSource, String.length_toList] at bound
    have constant (n : Nat) (before : m ≤ n) : result n = result m :=
      Lexer.result_constant _ m n before settled
    intro n enough
    rw [constant n (Nat.le_trans bound enough), constant source.length bound]
  next => exact TokenStream.next_afterPulls _ k n

end TableScript
