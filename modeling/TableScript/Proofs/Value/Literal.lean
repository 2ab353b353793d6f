import TableScript.Proofs.Decimal.Written
import TableScript.Proofs.Text.Quoted
import TableScript.Proofs.Value.Document
import TableScript.Proofs.Value.Extensional
import TableScript.Value.Literal

set_option autoImplicit false

namespace TableScript

namespace Value

open Numeral

def isStop (c : Char) : Bool := c == ',' || c == ':' || c == ']' || c == '}'

def isMark (c : Char) : Bool := isStop c || c == '\'' || c == '"' || c == '[' || c == '{'

def Stops (rest : List Char) : Prop := ∀ c, rest.head? = some c → isStop c = true

theorem stops_cons (c : Char) (rest : List Char) (h : isStop c = true) : Stops (c :: rest) := by
  intro d first
  rw [List.head?_cons, Option.some.injEq] at first
  exact first ▸ h

/-- If two of these texts stand in front of stops, they are told apart and so is what follows. -/
def Delimits {α : Type} (text : α → List Char) (x y : α) : Prop :=
  ∀ rest rest' : List Char, Stops rest → Stops rest' → text x ++ rest = text y ++ rest' →
    x = y ∧ rest = rest'

theorem bare_append_inj (xs ys rest rest' : List Char) (left : ∀ c ∈ xs, isStop c = false)
    (right : ∀ c ∈ ys, isStop c = false) (stops : Stops rest) (stops' : Stops rest')
    (same : xs ++ rest = ys ++ rest') : xs = ys ∧ rest = rest' := by
  induction xs generalizing ys with
  | nil =>
    cases ys with
    | nil => exact ⟨rfl, same⟩
    | cons y ys =>
      have stop := stops y (by rw [show rest = y :: (ys ++ rest') from same]; rfl)
      simp [right y List.mem_cons_self] at stop
  | cons x xs ih =>
    cases ys with
    | nil =>
      have stop := stops' x (by rw [show rest' = x :: (xs ++ rest) from same.symm]; rfl)
      simp [left x List.mem_cons_self] at stop
    | cons y ys =>
      obtain ⟨rfl, later⟩ := List.cons.inj same
      obtain ⟨rfl, behind⟩ := ih ys (fun c member => left c (List.mem_cons_of_mem _ member))
        (fun c member => right c (List.mem_cons_of_mem _ member)) later
      exact ⟨rfl, behind⟩

def readBare (cs : List Char) : Value :=
  if (sign cs).2.head?.any isDigit then
    if (scan cs).1.isPlain then .int (scan cs).1.wholeValue else .real (scan cs).1.toBinary64
  else if cs = "None".toList then .none
  else if cs = "True".toList then .bool true
  else if cs = "False".toList then .bool false
  else if cs = "nan".toList then .real .nan
  else if cs = "inf".toList then .real (.infinite false)
  else .real (.infinite true)

theorem scan_chars (w : Written) : scan w.chars = (w.numeral, []) := by
  have read := scan_written w [] (by simp [Ends])
  rwa [List.append_nil] at read

theorem sign_chars (w : Written) : (sign w.chars).2.head?.any isDigit = true := by
  obtain ⟨c, cs, shape, digit⟩ := w.whole.exists_cons
  rw [Written.chars, sign_signChars, shape]
  exact digit

theorem readBare_chars (w : Written) : readBare w.chars =
    if w.numeral.isPlain then .int w.numeral.wholeValue else .real w.numeral.toBinary64 := by
  rw [readBare, if_pos (sign_chars w), scan_chars]

theorem isMark_of_isDigit (c : Char) (h : isDigit c = true) : isMark c = false := by
  rw [Bool.eq_false_iff]
  intro mark
  simp only [isMark, isStop, Bool.or_eq_true, beq_iff_eq] at mark
  obtain ((((((rfl | rfl) | rfl) | rfl) | rfl) | rfl) | rfl) | rfl := mark <;> simp [isDigit] at h

theorem isMark_chars (w : Written) : ∀ c ∈ w.chars, isMark c = false := by
  have digits (ds : Digits) : ∀ c ∈ ds.chars, isMark c = false :=
    fun c member => isMark_of_isDigit c (ds.all c member)
  obtain ⟨negative, whole, fraction, power⟩ := w
  simp only [Written.chars, List.forall_mem_append]
  refine ⟨?_, digits whole, ?_, ?_⟩
  next => cases negative <;> simp [Written.signChars, isMark, isStop]
  next =>
    cases fraction with
    | none => simp [Written.fractionChars]
    | some ds => exact List.forall_mem_cons.mpr ⟨rfl, digits ds⟩
  next =>
    rcases power with _ | ⟨down, ds⟩
    next => simp [Written.powerChars]
    next =>
      refine List.forall_mem_cons.mpr ⟨rfl, List.forall_mem_cons.mpr ⟨?_, digits ds⟩⟩
      cases down <;> rfl

structure Bare (v : Value) : Prop where
  nonempty : literalChars v ≠ []
  unmarked : ∀ c ∈ literalChars v, isMark c = false
  read : readBare (literalChars v) = v

theorem bare_written (v : Value) (w : Written) (text : literalChars v = w.chars)
    (worth : (if w.numeral.isPlain then Value.int w.numeral.wholeValue
      else .real w.numeral.toBinary64) = v) : Bare v where
  nonempty := by
    have digit := sign_chars w
    rintro none
    rw [← text, none] at digit
    cases digit
  unmarked := text ▸ isMark_chars w
  read := by rw [text, readBare_chars, worth]

theorem bare_int (n : Int) : Bare (.int n) := by
  obtain ⟨w, text, worth, plain, _⟩ := Decimal.exists_written_int n
  exact bare_written _ w text (by rw [if_pos plain, worth])

theorem bare_finite (negative : Bool) (r : Rank) : Bare (.real (.finite negative r)) := by
  obtain ⟨w, text, worth, pointed, _⟩ := Decimal.exists_written_shortest realFormat .up negative r
  exact bare_written _ w text (by rw [if_neg (by simp [pointed]), worth])

theorem bare_word (v : Value) (c : Char) (cs : List Char) (text : literalChars v = c :: cs)
    (unmarked : (c :: cs).all (fun d => !isMark d) = true) (read : readBare (c :: cs) = v) :
    Bare v where
  nonempty := text ▸ List.cons_ne_nil c cs
  unmarked d member := by
    rw [text] at member
    simpa using List.all_eq_true.mp unmarked d member
  read := text ▸ read

inductive Shape where
  | bare
  | text
  | list
  | dict

def Shape.ofChar (c : Char) : Shape :=
  if c = '\'' ∨ c = '"' then .text else if c = '[' then .list else if c = '{' then .dict else .bare

def shape : Value → Shape
  | .str _ => .text
  | .list _ => .list
  | .dict _ => .dict
  | _ => .bare

theorem bare_of_shape (v : Value) (h : v.shape = .bare) : Bare v := by
  cases v with
  | none => exact bare_word _ 'N' ['o', 'n', 'e'] rfl rfl rfl
  | bool b =>
    cases b with
    | true => exact bare_word _ 'T' ['r', 'u', 'e'] rfl rfl rfl
    | false => exact bare_word _ 'F' ['a', 'l', 's', 'e'] rfl rfl rfl
  | int n => exact bare_int n
  | real x =>
    match x with
    | .nan => exact bare_word _ 'n' ['a', 'n'] rfl rfl rfl
    | .infinite true => exact bare_word _ '-' ['i', 'n', 'f'] rfl rfl rfl
    | .infinite false => exact bare_word _ 'i' ['n', 'f'] rfl rfl rfl
    | .finite negative r => exact bare_finite negative r
  | str | list | dict => cases h

theorem Bare.exists_first {v : Value} (h : Bare v) :
    ∃ c cs, literalChars v = c :: cs ∧ Shape.ofChar c = .bare ∧ isStop c = false := by
  obtain ⟨c, cs, first⟩ := List.exists_cons_of_ne_nil h.nonempty
  have plain := h.unmarked c (first ▸ List.mem_cons_self)
  simp only [isMark, Bool.or_eq_false_iff, beq_eq_false_iff_ne] at plain
  obtain ⟨⟨⟨⟨stop, single⟩, double⟩, bracket⟩, brace⟩ := plain
  exact ⟨c, cs, first, by simp [Shape.ofChar, single, double, bracket, brace], stop⟩

theorem exists_first (v : Value) :
    ∃ c cs, literalChars v = c :: cs ∧ Shape.ofChar c = v.shape ∧ isStop c = false := by
  cases v with
  | none | bool | int | real => exact (bare_of_shape _ rfl).exists_first
  | str s =>
    refine ⟨_, _, rfl, ?_⟩
    rcases Text.delimiter_cases s.toList with quote | quote <;> rw [quote] <;> exact ⟨rfl, rfl⟩
  | list items => exact ⟨_, _, rfl, rfl, rfl⟩
  | dict d => exact ⟨_, _, rfl, rfl, rfl⟩

theorem exists_unstopped (v : Value) : ∃ c cs, literalChars v = c :: cs ∧ isStop c = false := by
  obtain ⟨c, cs, first, _, inside⟩ := exists_first v
  exact ⟨c, cs, first, inside⟩

theorem shape_eq (v w : Value) (rest rest' : List Char)
    (same : literalChars v ++ rest = literalChars w ++ rest') : v.shape = w.shape := by
  obtain ⟨c, cs, left, shape, _⟩ := exists_first v
  obtain ⟨d, ds, right, shape', _⟩ := exists_first w
  rw [left, right] at same
  rw [← shape, ← shape', (List.cons.inj same).1]

theorem delimits_bare (v w : Value) (bare : v.shape = .bare) : Delimits literalChars v w := by
  intro rest rest' stops stops' same
  have left := bare_of_shape v bare
  have right := bare_of_shape w ((shape_eq v w rest rest' same).symm.trans bare)
  have unstopped (c : Char) (h : isMark c = false) : isStop c = false := by
    simp only [isMark, Bool.or_eq_false_iff] at h
    exact h.1.1.1.1
  obtain ⟨texts, behind⟩ := bare_append_inj _ _ rest rest'
    (fun c member => unstopped c (left.unmarked c member))
    (fun c member => unstopped c (right.unmarked c member)) stops stops' same
  exact ⟨by rw [← left.read, texts, right.read], behind⟩

theorem delimits_str (s : String) (w : Value) : Delimits literalChars (.str s) w := by
  intro rest rest' _ _ same
  have shapes := shape_eq (.str s) w rest rest' same
  cases w with
  | str t =>
    obtain ⟨texts, behind⟩ := Text.quoted_append_inj s.toList t.toList rest rest' same
    exact ⟨congrArg Value.str (String.toList_injective texts), behind⟩
  | _ => cases shapes

theorem delimits_ofKey (k : Key) (w : Value) : Delimits literalChars (ofKey k) w := by
  cases k with
  | str s => exact delimits_str s w
  | bool | int | real => exact delimits_bare _ w rfl

section Series

variable {α : Type} (text : α → List Char)

theorem flatMap_separator (x : α) (xs : List α) :
    ((x :: xs).flatMap fun y => separator ++ text y) =
      separator ++ List.intercalate separator ((x :: xs).map text) := by
  induction xs generalizing x with
  | nil => simp
  | cons y xs ih =>
    rw [List.flatMap_cons, ih]
    simp

variable {close : Char} (closing : isStop close = true) (other : close ≠ ',')

include closing

theorem stops_later (xs : List α) (rest : List Char) :
    Stops ((xs.flatMap fun x => separator ++ text x) ++ close :: rest) := by
  cases xs with
  | nil => exact stops_cons close rest closing
  | cons x xs => exact stops_cons ',' _ rfl

include other

theorem later_append_inj (xs ys : List α) (apart : ∀ x ∈ xs, ∀ y ∈ ys, Delimits text x y)
    (rest rest' : List Char)
    (same : (xs.flatMap fun x => separator ++ text x) ++ close :: rest =
      (ys.flatMap fun y => separator ++ text y) ++ close :: rest') : xs = ys ∧ rest = rest' := by
  induction xs generalizing ys with
  | nil =>
    cases ys with
    | nil => simpa using same
    | cons y ys => exact absurd (List.cons.inj same).1 other
  | cons x xs ih =>
    cases ys with
    | nil => exact absurd (List.cons.inj same).1.symm other
    | cons y ys =>
      simp only [List.flatMap_cons, List.append_assoc, List.append_cancel_left_eq] at same
      obtain ⟨rfl, later⟩ := apart x List.mem_cons_self y List.mem_cons_self _ _
        (stops_later text closing xs rest) (stops_later text closing ys rest') same
      obtain ⟨rfl, behind⟩ := ih ys (fun x' left y' right =>
        apart x' (List.mem_cons_of_mem _ left) y' (List.mem_cons_of_mem _ right)) later
      exact ⟨rfl, behind⟩

-- No text begins like the end of the series, so an empty series is told apart from any other.
theorem series_append_inj (opens : ∀ x, ∃ c cs, text x = c :: cs ∧ isStop c = false)
    (xs ys : List α) (apart : ∀ x ∈ xs, ∀ y ∈ ys, Delimits text x y) (rest rest' : List Char)
    (same : List.intercalate separator (xs.map text) ++ close :: rest =
      List.intercalate separator (ys.map text) ++ close :: rest') : xs = ys ∧ rest = rest' := by
  have begun (x : α) (xs : List α) (rest rest' : List Char) :
      List.intercalate separator ((x :: xs).map text) ++ close :: rest ≠ close :: rest' := by
    obtain ⟨c, cs, first, inside⟩ := opens x
    intro same
    have head : c = close := by
      cases xs <;> simp_all
    rw [head, closing] at inside
    cases inside
  cases xs with
  | nil =>
    cases ys with
    | nil => simpa using same
    | cons y ys => exact absurd same.symm (begun y ys rest' rest)
  | cons x xs =>
    cases ys with
    | nil => exact absurd same (begun x xs rest rest')
    | cons y ys =>
      apply later_append_inj text closing other _ _ apart
      rw [flatMap_separator, flatMap_separator, List.append_assoc, List.append_assoc, same]

end Series

theorem itemChars_eq (items : List Value) :
    itemChars items = List.intercalate separator (items.map literalChars) := by
  cases items with
  | nil => rfl
  | cons v rest =>
    rw [itemChars]
    induction rest generalizing v with
    | nil => simp [laterItemChars]
    | cons w rest ih => simp [laterItemChars, ih]

def entryText (entry : Key × Value) : List Char :=
  keyChars entry.1 ++ ':' :: ' ' :: literalChars entry.2

theorem entryChars_eq (entries : List (Key × Value)) :
    entryChars entries = List.intercalate separator (entries.map entryText) := by
  cases entries with
  | nil => rfl
  | cons entry rest =>
    rw [entryChars]
    induction rest generalizing entry with
    | nil => simp [laterEntryChars, entryText]
    | cons other rest ih => simp [laterEntryChars, entryText, ih]

theorem literalChars_list (items : List Value) (rest : List Char) :
    literalChars (.list items) ++ rest =
      '[' :: (List.intercalate separator (items.map literalChars) ++ ']' :: rest) := by
  have text : literalChars (.list items) = '[' :: (itemChars items ++ [']']) := rfl
  rw [text, itemChars_eq, List.cons_append, List.append_assoc, List.singleton_append]

theorem literalChars_dict (d : Dict Value) (rest : List Char) :
    literalChars (.dict d) ++ rest =
      '{' :: (List.intercalate separator (d.entries.map entryText) ++ '}' :: rest) := by
  obtain ⟨entries, buckets⟩ := d
  have text : literalChars (.dict ⟨entries, buckets⟩) = '{' :: (entryChars entries ++ ['}']) := rfl
  rw [text, entryChars_eq, List.cons_append, List.append_assoc, List.singleton_append]

theorem delimits_entry (k l : Key) (v w : Value) (values : Delimits literalChars v w) :
    Delimits entryText (k, v) (l, w) := by
  intro rest rest' stops stops' same
  simp only [entryText, List.append_assoc, List.cons_append, ← literalChars_ofKey] at same
  obtain ⟨keys, later⟩ := delimits_ofKey k (ofKey l) _ _ (stops_cons ':' _ rfl)
    (stops_cons ':' _ rfl) same
  simp only [List.cons.injEq, true_and] at later
  obtain ⟨rfl, behind⟩ := values rest rest' stops stops' later
  exact ⟨by rw [ofKey_injective keys], behind⟩

theorem exists_first_entry (entry : Key × Value) :
    ∃ c cs, entryText entry = c :: cs ∧ isStop c = false := by
  obtain ⟨c, cs, first, inside⟩ := exists_unstopped (ofKey entry.1)
  rw [literalChars_ofKey] at first
  exact ⟨c, _, by rw [entryText, first, List.cons_append], inside⟩

theorem Built.dict_ext {d e : Dict Value} (left : Built (.dict d)) (right : Built (.dict e))
    (same : d.entries = e.entries) : d = e := by
  have buckets : d.buckets = e.buckets := by
    rw [left.dict_filled d, right.dict_filled e, same]
  exact congrArg₂ Dict.mk same buckets

theorem delimits (v w : Value) (left : v.Built) (right : w.Built) : Delimits literalChars v w := by
  induction v using Value.induction generalizing w with
  | none => exact delimits_bare _ w rfl
  | key k => exact delimits_ofKey k w
  | list items ih =>
    intro rest rest' _ _ same
    have shapes := shape_eq _ w rest rest' same
    cases w with
    | list items' =>
      rw [literalChars_list, literalChars_list] at same
      obtain ⟨rfl, behind⟩ := series_append_inj literalChars rfl (by decide) exists_unstopped
        items items'
        (fun v member w member' =>
          ih v member w (left.list_parts items v member) (right.list_parts items' w member'))
        rest rest' (List.cons.inj same).2
      exact ⟨rfl, behind⟩
    | _ => cases shapes
  | dict d ih =>
    intro rest rest' _ _ same
    have shapes := shape_eq _ w rest rest' same
    cases w with
    | dict e =>
      obtain ⟨_, _, parts⟩ := left.dict_facts d
      obtain ⟨_, _, parts'⟩ := right.dict_facts e
      rw [literalChars_dict, literalChars_dict] at same
      obtain ⟨entries, behind⟩ := series_append_inj entryText rfl (by decide) exists_first_entry
        d.entries e.entries
        (fun entry member entry' member' => delimits_entry _ _ _ _
          (ih entry member entry'.2 (parts entry member) (parts' entry' member')))
        rest rest' (List.cons.inj same).2
      exact ⟨congrArg Value.dict (left.dict_ext right entries), behind⟩
    | _ => cases shapes

theorem literal_determines_value (v w : Value) (left : v.Built) (right : w.Built)
    (same : v.literal = w.literal) : v = w := by
  have chars : literalChars v = literalChars w := String.ofList_injective same
  have stops : Stops [] := by simp [Stops]
  exact (delimits v w left right [] [] stops stops (by rw [chars])).1

def overwritten : Dict Value := (Dict.empty.insert (.int 1) .none).insert (.bool true) (.str "it's")

theorem literal_determines_value_overwritten :
    Built (.dict overwritten) ∧ Built (.dict (Dict.empty.insert (.int 1) (.str "it's"))) ∧
    (Value.dict overwritten).literal = (Value.dict (Dict.empty.insert (.int 1) (.str "it's"))).literal ∧
    Value.dict overwritten = .dict (Dict.empty.insert (.int 1) (.str "it's")) := by
  have left : Built (.dict overwritten) := (Built.empty.insert _ (.int 1) _ .none).insert _ _ _ (.str _)
  have right : Built (.dict (Dict.empty.insert (.int 1) (.str "it's"))) :=
    Built.empty.insert _ _ _ (.str _)
  have once (v : Value) : (Dict.empty.insert (.int 1) v).entries = [(.int 1, v)] := by
    rw [Dict.insert_entries _ Dict.indexed_empty]
    rfl
  have twice : overwritten.entries = [(.int 1, .str "it's")] := by
    rw [overwritten, Dict.insert_entries _ (Dict.indexed_insert _ Dict.indexed_empty _ _), once]
    rfl
  have same : (Value.dict overwritten).literal =
      (Value.dict (Dict.empty.insert (.int 1) (.str "it's"))).literal := by
    have chars := literalChars_dict overwritten []
    rw [twice, ← once, ← literalChars_dict, List.append_nil, List.append_nil] at chars
    rw [literal, literal, chars]
  exact ⟨left, right, same, literal_determines_value _ _ left right same⟩

end Value

end TableScript
