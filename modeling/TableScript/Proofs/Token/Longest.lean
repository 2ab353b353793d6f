import TableScript.Proofs.Token.Lexeme

set_option autoImplicit false

namespace TableScript

def Longest (text w : List Char) : Prop :=
  w <+: text ∧ ∀ v kind, Lexeme v kind → v <+: text → v.length ≤ w.length

def refusal (c : Char) (cs : List Char) : LexFault :=
  if c = '!' then .expectedEqualAfterBang
  else if c = '"' ∨ c = '\'' then
    if Escapes cs then .unterminatedEscape else .unterminatedString
  else .unexpectedCharacter c

theorem Decimal.ofDigitChars_eq (ds : List Char) :
    ofDigitChars ds = Nat.ofDigits 10 (ds.reverse.map fun d => d.toNat - '0'.toNat) := by
  induction ds using List.reverseRecOn with
  | nil => rfl
  | append_singleton ds d ih =>
    have step : ofDigitChars (ds ++ [d]) = 10 * ofDigitChars ds + (d.toNat - '0'.toNat) := by
      simp [ofDigitChars]
    rw [step, ih, List.reverse_append, List.reverse_singleton, List.singleton_append, List.map_cons,
      Nat.ofDigits_cons, Nat.add_comm]

theorem Text.isLetter_bounds (c : Char) (h : isLetter c = true) :
    0x41 ≤ c.toNat ∧ c.toNat ≤ 0x5A ∨ 0x61 ≤ c.toNat ∧ c.toNat ≤ 0x7A ∨ 0x80 ≤ c.toNat := by
  obtain ⟨range, inside, low, high⟩ := (has_eq_true_iff letterRanges c).mp h
  have table : ∀ r ∈ letterRanges, r = (0x41, 0x5A) ∨ r = (0x61, 0x7A) ∨ 0x80 ≤ r.1 := by
    decide +kernel
  rcases table range inside with rfl | rfl | beyond
  next => exact .inl ⟨low, high⟩
  next => exact .inr (.inl ⟨low, high⟩)
  next => exact .inr (.inr (Nat.le_trans beyond low))

namespace Scan

theorem isWordStart_bounds (c : Char) (h : isWordStart c = true) :
    0x41 ≤ c.toNat ∧ c.toNat ≤ 0x5A ∨ c.toNat = 0x5F ∨ 0x61 ≤ c.toNat ∧ c.toNat ≤ 0x7A ∨
      0x80 ≤ c.toNat := by
  rw [isWordStart, Bool.or_eq_true, beq_iff_eq] at h
  rcases h with letter | rfl
  next =>
    have := Text.isLetter_bounds c letter
    omega
  next => exact .inr (.inl rfl)

def marks : List Char :=
  ['+', '-', '*', '/', '(', ')', '\x7b', '\x7d', '[', ']', ',', ':', '=', '<', '>', '!', '"', '\'']

theorem read_of_not_mem_marks (c : Char) (cs : List Char) (h : c ∉ marks) :
    read c cs =
      if Numeral.isDigit c then digits c cs
      else if isWordStart c then word c cs
      else ⟨.error (.unexpectedCharacter c), [], c :: cs⟩ := by
  unfold read
  split <;> first | exact absurd (by decide) h | rfl

inductive Dispatch (c : Char) (cs : List Char) : Scan → Prop where
  | symbol (s : Symbol) (spelled : s.spelling.toList = [c]) : Dispatch c cs (symbol s [c] cs)
  | withEqual (plain equal : Symbol) (one : plain.spelling.toList = [c])
      (two : equal.spelling.toList = [c, '=']) : Dispatch c cs (withEqual plain equal c cs)
  | bang (mark : c = '!') : Dispatch c cs (bang c cs)
  | quotation (mark : c = '"' ∨ c = '\'') : Dispatch c cs (quotation c cs)
  | digits (digit : Numeral.isDigit c = true) : Dispatch c cs (digits c cs)
  | word (first : isWordStart c = true) : Dispatch c cs (word c cs)
  | unexpected (other : c ∉ marks) : Dispatch c cs ⟨.error (.unexpectedCharacter c), [], c :: cs⟩

theorem dispatch_read (c : Char) (cs : List Char) : Dispatch c cs (read c cs) := by
  by_cases mark : c ∈ marks
  next =>
    simp only [marks, List.mem_cons, List.not_mem_nil, or_false] at mark
    rcases mark with rfl | rfl | rfl | rfl | rfl | rfl | rfl | rfl | rfl | rfl | rfl | rfl | rfl | rfl |
      rfl | rfl | rfl | rfl
    all_goals
      first
      | exact .symbol _ (by decide)
      | exact .withEqual _ _ (by decide) (by decide)
      | exact .bang rfl
      | exact .quotation (by decide)
  next =>
    rw [read_of_not_mem_marks c cs mark]
    split
    next digit => exact .digits digit
    next =>
      split
      next first => exact .word first
      next => exact .unexpected mark

theorem marks_bounds (c : Char) (h : c ∈ marks) :
    c.toNat < 0x30 ∨ 0x39 < c.toNat ∧ c.toNat < 0x41 ∨ 0x5A < c.toNat ∧ c.toNat < 0x5F ∨
      0x7A < c.toNat ∧ c.toNat < 0x80 := by
  have all : ∀ m ∈ marks, m.toNat < 0x30 ∨ 0x39 < m.toNat ∧ m.toNat < 0x41 ∨
      0x5A < m.toNat ∧ m.toNat < 0x5F ∨ 0x7A < m.toNat ∧ m.toNat < 0x80 := by simp [marks]
  exact all c h

theorem read_digit (c : Char) (cs : List Char) (h : Numeral.isDigit c = true) :
    read c cs = digits c cs := by
  rw [read_of_not_mem_marks, if_pos h]
  intro mark
  have := marks_bounds c mark
  have := Numeral.isDigit_bounds c h
  omega

theorem read_word (c : Char) (cs : List Char) (h : isWordStart c = true) : read c cs = word c cs := by
  have bounds := isWordStart_bounds c h
  have other : ¬ Numeral.isDigit c = true := by
    intro digit
    have := Numeral.isDigit_bounds c digit
    omega
  rw [read_of_not_mem_marks, if_neg other, if_pos h]
  intro mark
  have := marks_bounds c mark
  omega

theorem read_quotation (c : Char) (cs : List Char) (h : c = '"' ∨ c = '\'') :
    read c cs = quotation c cs := by
  rcases h with rfl | rfl <;> rfl

theorem length_le_takeWhile (p : Char → Bool) (v cs : List Char) (all : ∀ d ∈ v, p d = true)
    (inside : v <+: cs) : v.length ≤ (cs.takeWhile p).length := by
  obtain ⟨rest, rfl⟩ := inside
  rw [List.takeWhile_append_of_pos all, List.length_append]
  exact Nat.le_add_right _ _

theorem wordKind_keyword (w : List Char) (k : Keyword) (spelled : w.map Char.toLower = k.spelling.toList) :
    wordKind w = .keyword k := by
  have found : Keyword.ofWord? w = some k := by
    rw [Keyword.ofWord?, spelled]
    cases k <;> decide
  rw [wordKind, found]

theorem wordKind_identifier (w : List Char)
    (free : ∀ k : Keyword, w.map Char.toLower ≠ k.spelling.toList) :
    wordKind w = .identifier (String.ofList w) := by
  have none : Keyword.ofWord? w = none := by
    rw [Keyword.ofWord?, List.find?_eq_none]
    intro k _ same
    exact free k (beq_iff_eq.mp same).symm
  rw [wordKind, none]

theorem lexeme_word (c : Char) (cs : List Char) (first : isWordStart c = true)
    (others : ∀ d ∈ cs, isWordPart d = true) : Lexeme (c :: cs) (wordKind (c :: cs)) := by
  by_cases spelled : ∃ k : Keyword, (c :: cs).map Char.toLower = k.spelling.toList
  next =>
    obtain ⟨k, spelled⟩ := spelled
    rw [wordKind_keyword _ k spelled]
    exact .keyword c cs k first others spelled
  next =>
    have free := not_exists.mp spelled
    rw [wordKind_identifier _ free]
    exact .identifier c cs first others free

def Lexical (s : Scan) : Prop := ∀ kind, s.outcome = .ok kind → Lexeme s.taken kind

theorem lexical_symbol (s : Symbol) (taken rest : List Char) (spelled : s.spelling.toList = taken) :
    (symbol s taken rest).Lexical := by
  intro kind h
  cases h
  exact spelled ▸ .symbol s

theorem lexical_withEqual (plain equal : Symbol) (c : Char) (cs : List Char)
    (one : plain.spelling.toList = [c]) (two : equal.spelling.toList = [c, '=']) :
    (withEqual plain equal c cs).Lexical := by
  unfold withEqual
  split
  next => exact lexical_symbol equal _ _ two
  next => exact lexical_symbol plain _ _ one

theorem lexical_bang (cs : List Char) : (bang '!' cs).Lexical := by
  unfold bang
  split
  next => exact lexical_symbol .notEqual _ _ (by decide)
  next =>
    intro kind h
    cases h

theorem lexical_quotation (quote : Char) (cs : List Char) (mark : quote = '"' ∨ quote = '\'') :
    (quotation quote cs).Lexical := by
  intro kind h
  cases inner : (Quotation.read quote cs).contents with
  | error fault => simp [quotation_eq, inner, Except.map] at h
  | ok contents =>
    obtain ⟨body, taken, closed, rfl⟩ :=
      Quotation.encloses_of_read quote cs contents (quote_ne_backslash mark) inner
    obtain rfl : .string (String.ofList (unescaped body)) = kind := by
      simpa [quotation_eq, inner, Except.map] using h
    simp only [quotation_eq, taken]
    exact .quoted quote body mark closed

theorem lexical_digits (c : Char) (cs : List Char) (digit : Numeral.isDigit c = true) :
    (digits c cs).Lexical := by
  intro kind h
  cases h
  rw [Decimal.ofDigitChars_eq]
  apply Lexeme.integer
  next => exact List.cons_ne_nil _ _
  next =>
    intro d inside
    rcases List.mem_cons.mp inside with rfl | later
    next => exact digit
    next => exact List.mem_takeWhile_imp later

theorem lexical_word (c : Char) (cs : List Char) (first : isWordStart c = true) :
    (word c cs).Lexical := by
  intro kind h
  cases h
  exact lexeme_word c _ first fun d inside => List.mem_takeWhile_imp inside

theorem lexical_read (c : Char) (cs : List Char) : (read c cs).Lexical := by
  have cases := dispatch_read c cs
  generalize read c cs = s at cases
  cases cases with
  | symbol s spelled => exact lexical_symbol s _ _ spelled
  | withEqual plain equal one two => exact lexical_withEqual plain equal c cs one two
  | bang mark =>
    subst mark
    exact lexical_bang cs
  | quotation mark => exact lexical_quotation c cs mark
  | digits digit => exact lexical_digits c cs digit
  | word first => exact lexical_word c cs first
  | unexpected =>
    intro kind h
    cases h

/-- The scan of `text` takes no less than `w`, and says `kind` when `w` is all of the text. -/
def Covers (s : Scan) (text w : List Char) (kind : TokenKind) : Prop :=
  ∃ found, s.outcome = .ok found ∧ w.length ≤ s.taken.length ∧ (w = text → found = kind)

theorem covers_digits (c : Char) (cs ds : List Char) (inside : ds <+: cs)
    (all : ∀ d ∈ ds, Numeral.isDigit d = true) :
    (digits c cs).Covers (c :: cs) (c :: ds) (.integer (Decimal.ofDigitChars (c :: ds))) := by
  refine ⟨_, rfl, ?_, ?_⟩
  next =>
    have := length_le_takeWhile _ ds cs all inside
    simp only [digits, List.length_cons]
    omega
  next =>
    intro same
    cases same
    rw [List.takeWhile_eq_self_iff.mpr all]

theorem covers_word (c : Char) (cs rest : List Char) (inside : rest <+: cs)
    (others : ∀ d ∈ rest, isWordPart d = true) :
    (word c cs).Covers (c :: cs) (c :: rest) (wordKind (c :: rest)) := by
  refine ⟨_, rfl, ?_, ?_⟩
  next =>
    have := length_le_takeWhile _ rest cs others inside
    simp only [word, List.length_cons]
    omega
  next =>
    intro same
    cases same
    rw [List.takeWhile_eq_self_iff.mpr others]

theorem covers_quotation (quote : Char) (cs body : List Char) (mark : quote = '"' ∨ quote = '\'')
    (inside : body ++ [quote] <+: cs) (closed : Encloses quote body) :
    (quotation quote cs).Covers (quote :: cs) (quote :: (body ++ [quote]))
      (.string (String.ofList (unescaped body))) := by
  obtain ⟨rest, rfl⟩ := inside
  rw [List.append_assoc, List.singleton_append]
  simp only [quotation_eq, Quotation.read_of_encloses quote body rest (quote_ne_backslash mark) closed]
  exact ⟨_, rfl, Nat.le_refl _, fun _ => rfl⟩

theorem covers_withEqual (plain equal : Symbol) (c : Char) (cs : List Char) :
    (withEqual plain equal c cs).Covers (c :: cs) [c] (.symbol plain) := by
  unfold withEqual
  split
  next => exact ⟨_, rfl, by simp [symbol], by simp⟩
  next => exact ⟨_, rfl, Nat.le_refl _, fun _ => rfl⟩

theorem covers_symbol (s : Symbol) (c : Char) (cs : List Char)
    (inside : s.spelling.toList <+: c :: cs) :
    (read c cs).Covers (c :: cs) s.spelling.toList (.symbol s) := by
  cases s <;> simp only [Symbol.spelling, String.reduceToList, List.cons_prefix_cons] at inside ⊢
  case assign | less | greater =>
    obtain ⟨rfl, -⟩ := inside
    exact covers_withEqual _ _ _ cs
  case equalEqual | notEqual | lessEqual | greaterEqual =>
    obtain ⟨rfl, rest, rfl⟩ := inside
    exact ⟨_, rfl, Nat.le_refl _, fun _ => rfl⟩
  all_goals
    obtain ⟨rfl, -⟩ := inside
    exact ⟨_, rfl, Nat.le_refl _, fun _ => rfl⟩

theorem covers_of_lexeme (w : List Char) (kind : TokenKind) (h : Lexeme w kind) (c : Char)
    (cs : List Char) (inside : w <+: c :: cs) : (read c cs).Covers (c :: cs) w kind := by
  cases h with
  | integer _ some all =>
    cases w with
    | nil => contradiction
    | cons d ds =>
      rw [List.cons_prefix_cons] at inside
      obtain ⟨rfl, inside⟩ := inside
      rw [read_digit d cs (all d (by simp)), ← Decimal.ofDigitChars_eq]
      exact covers_digits d cs ds inside fun e later => all e (by simp [later])
  | keyword d ds k first others spelled =>
    rw [List.cons_prefix_cons] at inside
    obtain ⟨rfl, inside⟩ := inside
    rw [read_word d cs first, ← wordKind_keyword _ k spelled]
    exact covers_word d cs ds inside others
  | identifier d ds first others free =>
    rw [List.cons_prefix_cons] at inside
    obtain ⟨rfl, inside⟩ := inside
    rw [read_word d cs first, ← wordKind_identifier _ free]
    exact covers_word d cs ds inside others
  | quoted quote body mark closed =>
    rw [List.cons_prefix_cons] at inside
    obtain ⟨rfl, inside⟩ := inside
    rw [read_quotation quote cs mark]
    exact covers_quotation quote cs body mark inside closed
  | symbol s => exact covers_symbol s c cs inside

theorem fault_of_bang (cs : List Char) (fault : LexFault) (h : (bang '!' cs).outcome = .error fault) :
    fault = .expectedEqualAfterBang := by
  unfold bang at h
  split at h
  next => cases h
  next =>
    cases h
    rfl

theorem fault_of_quotation (quote : Char) (cs : List Char) (fault : LexFault)
    (h : (quotation quote cs).outcome = .error fault) :
    fault = if Escapes cs then .unterminatedEscape else .unterminatedString := by
  apply Quotation.fault_of_read quote cs
  simp only [quotation_eq] at h
  cases inner : (Quotation.read quote cs).contents <;> simp_all [Except.map]

theorem withEqual_ne_error (plain equal : Symbol) (c : Char) (cs : List Char) (fault : LexFault) :
    (withEqual plain equal c cs).outcome ≠ .error fault := by
  unfold withEqual
  split <;> simp [symbol]

theorem fault_of_read (c : Char) (cs : List Char) (fault : LexFault)
    (h : (read c cs).outcome = .error fault) : fault = refusal c cs := by
  have cases := dispatch_read c cs
  generalize read c cs = s at cases h
  cases cases with
  | symbol | digits | word => cases h
  | withEqual plain equal => exact absurd h (withEqual_ne_error plain equal c cs fault)
  | bang mark =>
    subst mark
    exact fault_of_bang cs fault h
  | quotation mark =>
    have bang : c ≠ '!' := by rcases mark with rfl | rfl <;> decide
    rw [refusal, if_neg bang, if_pos mark]
    exact fault_of_quotation c cs fault h
  | unexpected other =>
    have bang : c ≠ '!' := fun mark => other (mark ▸ by decide)
    have quote : ¬ (c = '"' ∨ c = '\'') := by
      rintro (rfl | rfl) <;> exact other (by decide)
    rw [refusal, if_neg bang, if_neg quote]
    cases h
    rfl

end Scan

namespace Lexeme

variable {w : List Char} {kind other : TokenKind}

theorem ne_nil (h : Lexeme w kind) : w ≠ [] := by
  cases h with
  | integer _ some => exact some
  | keyword | identifier | quoted => exact List.cons_ne_nil _ _
  | symbol s => cases s <;> decide

theorem ne_eof (h : Lexeme w kind) : kind ≠ .eof := by
  rintro rfl
  cases h

theorem kind_unique (h : Lexeme w kind) (h' : Lexeme w other) : kind = other := by
  obtain ⟨c, cs, rfl⟩ := List.exists_cons_of_ne_nil h.ne_nil
  -- the scan of the whole lexeme gives one kind, and it is that of every derivation
  obtain ⟨found, ok, -, same⟩ := Scan.covers_of_lexeme _ kind h c cs List.prefix_rfl
  obtain ⟨found', ok', -, same'⟩ := Scan.covers_of_lexeme _ other h' c cs List.prefix_rfl
  cases ok.symm.trans ok'
  exact (same rfl).symm.trans (same' rfl)

end Lexeme

namespace Scan

theorem longest_read (c : Char) (cs : List Char) : Longest (c :: cs) (read c cs).taken := by
  constructor
  next => exact ⟨_, splits_read c cs⟩
  next =>
    intro v kind h inside
    obtain ⟨-, -, shorter, -⟩ := covers_of_lexeme v kind h c cs inside
    exact shorter

theorem exists_error_iff (c : Char) (cs : List Char) :
    (∃ fault, (read c cs).outcome = .error fault) ↔ ∀ w kind, Lexeme w kind → ¬ w <+: c :: cs := by
  constructor
  next =>
    rintro ⟨fault, failed⟩ w kind h inside
    obtain ⟨found, ok, -⟩ := covers_of_lexeme w kind h c cs inside
    cases failed.symm.trans ok
  next =>
    intro none
    cases outcome : (read c cs).outcome with
    | error fault => exact ⟨fault, rfl⟩
    | ok kind => exact absurd ⟨_, splits_read c cs⟩ (none _ kind (lexical_read c cs kind outcome))

end Scan

namespace Lexer

theorem finish_error_iff (p : Position) (c : Char) (cs : List Char) :
    (∃ e after, finish p (Scan.read c cs) = (.error e, after)) ↔
      ∀ w kind, Lexeme w kind → ¬ w <+: c :: cs := by
  rw [← Scan.exists_error_iff]
  simp [finish_eq_error_iff]

namespace Behind

variable {l : Lexer} {source front : List Char}

theorem finish_ok (h : l.Behind source front) (c : Char) (cs : List Char) (here : l.rest = c :: cs)
    (t : Token) (after : Lexer) (read : Lexer.finish l.pos (Scan.read c cs) = (.ok t, after)) :
    Longest (c :: cs) (t.lexeme source) ∧ t.lexeme source ++ after.rest = c :: cs ∧
      ∀ kind, Lexeme (t.lexeme source) kind ↔ kind = t.kind := by
  have whole : (Scan.read c cs).taken ++ (Scan.read c cs).rest = c :: cs := Scan.splits_read c cs
  obtain ⟨kind, outcome, rfl, rfl⟩ := (finish_eq_ok_iff _ _ t after).mp read
  have derived := Scan.lexical_read c cs kind outcome
  rw [h.lexeme _ _ (here.trans whole.symm) kind]
  refine ⟨Scan.longest_read c cs, whole, fun other => ⟨fun also => ?_, fun same => same ▸ derived⟩⟩
  exact also.kind_unique derived

theorem finish_error (h : l.Behind source front) (c : Char) (cs : List Char) (e : LexError)
    (after : Lexer) (read : Lexer.finish l.pos (Scan.read c cs) = (.error e, after)) :
    e = ⟨refusal c cs, lineAfter front, columnAfter front⟩ := by
  obtain ⟨fault, outcome, rfl, -⟩ := (finish_eq_error_iff _ _ e after).mp read
  rw [Scan.fault_of_read c cs fault outcome, h.place, Position.after_start]

end Behind

theorem next_takes_longest_lexeme (source : String) (n : Nat) :
    let l := (ofSource source).afterReads n
    ∃ front blanks text, source.toList = front ++ blanks ++ text ∧ l.rest = blanks ++ text ∧
      (∀ c ∈ blanks, Text.isBlank c = true) ∧ (∀ c ∈ text.head?, Text.isBlank c = false) ∧
      ∀ c cs, text = c :: cs →
        (∀ t after, l.next = (.ok t, after) →
          Longest text (t.lexeme source.toList) ∧ t.lexeme source.toList ++ after.rest = text ∧
            ∀ kind, Lexeme (t.lexeme source.toList) kind ↔ kind = t.kind) ∧
        ((∃ e after, l.next = (.error e, after)) ↔ ∀ w kind, Lexeme w kind → ¬ w <+: text) ∧
        ∀ e after, l.next = (.error e, after) →
          e = ⟨refusal c cs, lineAfter (front ++ blanks), columnAfter (front ++ blanks)⟩ := by
  intro l
  obtain ⟨front, behind⟩ := exists_behind source n
  have here := behind.skipBlank
  refine ⟨front, l.rest.takeWhile Text.isBlank, l.skipBlank.rest, here.text.symm,
    List.takeWhile_append_dropWhile.symm, fun c => List.mem_takeWhile_imp, ?_, ?_⟩
  next =>
    intro c first
    have stops := List.head?_dropWhile_not Text.isBlank l.rest
    simp only [skipBlank] at first
    simpa [Option.mem_def.mp first] using stops
  next =>
    intro c cs shape
    rw [next_of_cons l c cs shape, shape]
    exact ⟨here.finish_ok c cs shape, finish_error_iff _ c cs, here.finish_error c cs⟩

end Lexer

end TableScript
