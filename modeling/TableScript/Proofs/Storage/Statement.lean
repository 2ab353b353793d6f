import TableScript.Proofs.Decimal.Written
import TableScript.Storage.Engine

set_option autoImplicit false

namespace TableScript.Sql

structure Reader (α : Type) where
  read : List Char → Option (α × List Char)
  shorter : ∀ text value rest, read text = some (value, rest) → rest.length < text.length

namespace Reader

variable {α : Type} (item : Reader α)

theorem length_more (text more : List Char) (first : α)
    (read : item.read text = some (first, ',' :: ' ' :: more)) : more.length < text.length := by
  have := item.shorter text first _ read
  simp only [List.length_cons] at this
  omega

-- One or more, with a comma and a blank between each two.
def series (text : List Char) : Option (List α × List Char) :=
  match _h : item.read text with
  | none => none
  | some (first, ',' :: ' ' :: more) => (series more).map (Prod.map (first :: ·) id)
  | some (only, rest) => some ([only], rest)
termination_by text.length
decreasing_by exact item.length_more text more first _h

theorem series_more (text more : List Char) (first : α)
    (read : item.read text = some (first, ',' :: ' ' :: more)) :
    item.series text = (item.series more).map (Prod.map (first :: ·) id) := by
  rw [series]
  split
  next none => simp [read] at none
  next same =>
    rw [read] at same
    cases same
    rfl
  next other same =>
    rw [read] at same
    cases same
    exact (other more rfl).elim

theorem series_last (text rest : List Char) (only : α)
    (read : item.read text = some (only, rest)) (last : rest.head? ≠ some ',') :
    item.series text = some ([only], rest) := by
  rw [series]
  split
  next none => simp [read] at none
  next same =>
    rw [read] at same
    cases same
    exact absurd rfl last
  next same =>
    rw [read] at same
    cases same
    rfl

-- What is written is read back where nothing follows that could belong to it.
def Undoes (write : α → List Char) (belongs : Char → Bool) : Prop :=
  ∀ value rest, (∀ c, rest.head? = some c → belongs c = false) →
    item.read (write value ++ rest) = some (value, rest)

end Reader

theorem commaSeparated_cons (first second : List Char) (later : List (List Char)) (rest : List Char) :
    commaSeparated (first :: second :: later) ++ rest =
      first ++ ',' :: ' ' :: (commaSeparated (second :: later) ++ rest) := by
  simp [commaSeparated, List.intercalate_cons_cons]

theorem Reader.Undoes.series {α : Type} {item : Reader α} {write : α → List Char}
    {belongs : Char → Bool} (h : item.Undoes write belongs) (comma : belongs ',' = false)
    (values : List α) (nonempty : values ≠ []) (rest : List Char)
    (ends : ∀ c, rest.head? = some c → belongs c = false) (last : rest.head? ≠ some ',') :
    item.series (commaSeparated (values.map write) ++ rest) = some (values, rest) := by
  -- what stands behind each value is a comma, which belongs to none, or else the rest
  induction values with
  | nil => exact absurd rfl nonempty
  | cons first later ih =>
    cases later with
    | nil =>
      have single : commaSeparated ([first].map write) = write first := by simp [commaSeparated]
      rw [single]
      exact item.series_last _ rest first (h first rest ends) last
    | cons second later =>
      have front : item.read (write first ++ ',' :: ' ' ::
          (commaSeparated ((second :: later).map write) ++ rest)) = some (first, _) :=
        h first _ (by simp [comma])
      rw [List.map_cons, List.map_cons, commaSeparated_cons, ← List.map_cons,
        item.series_more _ _ first front, ih (List.cons_ne_nil _ _)]
      rfl

-- A quoted name behind its opening quote, up to the first double quote that no other follows.
def nameEnd? : List Char → Option (List Char × List Char)
  | [] => none
  | '"' :: '"' :: rest => (nameEnd? rest).map (Prod.map ('"' :: ·) id)
  | '"' :: rest => some ([], rest)
  | c :: rest => (nameEnd? rest).map (Prod.map (c :: ·) id)

def name? : List Char → Option (String × List Char)
  | '"' :: rest => (nameEnd? rest).map (Prod.map String.ofList id)
  | _ => none

def placeholder? : List Char → Option (Nat × List Char)
  | '?' :: rest =>
    if (Numeral.digits rest).1.isEmpty then none
    else some ((Numeral.digits rest).map Decimal.ofDigitChars id)
  | _ => none

theorem length_of_map {α β : Type} {f : α → β} {read : Option (α × List Char)} {value : β}
    {rest : List Char} {bound : Nat}
    (shorter : ∀ a behind, read = some (a, behind) → behind.length < bound)
    (h : read.map (Prod.map f id) = some (value, rest)) : rest.length < bound := by
  obtain ⟨⟨a, behind⟩, found, same⟩ := Option.map_eq_some_iff.mp h
  obtain ⟨_, rfl⟩ := Prod.mk.inj same
  exact shorter a behind found

theorem length_nameEnd? (text name rest : List Char) (h : nameEnd? text = some (name, rest)) :
    rest.length < text.length := by
  fun_induction nameEnd? text generalizing name rest with
  | case1 => cases h
  | case2 text ih =>
    have := length_of_map ih h
    simp only [List.length_cons]
    omega
  | case3 text _ =>
    cases h
    simp
  | case4 c text _ _ ih =>
    have := length_of_map ih h
    simp only [List.length_cons]
    omega

theorem length_name? (text : List Char) (name : String) (rest : List Char)
    (h : name? text = some (name, rest)) : rest.length < text.length := by
  unfold name? at h
  split at h
  next text =>
    have := length_of_map (length_nameEnd? text) h
    simp only [List.length_cons]
    omega
  next => cases h

theorem length_placeholder? (text : List Char) (n : Nat) (rest : List Char)
    (h : placeholder? text = some (n, rest)) : rest.length < text.length := by
  unfold placeholder? at h
  split at h
  next text =>
    split at h
    next => cases h
    next =>
      obtain rfl := (Prod.mk.inj (Option.some.inj h)).2
      exact Nat.lt_succ_of_le (Numeral.digits_rest_length_le text)
  next => cases h

def nameReader : Reader String := ⟨name?, length_name?⟩

def placeholderReader : Reader Nat := ⟨placeholder?, length_placeholder?⟩

theorem nameEnd?_quoteChars (cs rest : List Char) (ends : rest.head? ≠ some '"') :
    nameEnd? (quoteChars cs ++ '"' :: rest) = some (cs, rest) := by
  induction cs with
  | nil =>
    cases rest with
    | nil => rfl
    | cons c rest =>
      have other : c ≠ '"' := by simpa using ends
      simp [quoteChars, nameEnd?, other]
  | cons c cs ih =>
    by_cases quote : c = '"'
    next => simp [quoteChars, quote, nameEnd?, ih]
    next => simp [quoteChars, quote, nameEnd?, ih]

theorem name?_quoteName (name : String) (rest : List Char) (ends : rest.head? ≠ some '"') :
    name? (quoteName name ++ rest) = some (name, rest) := by
  have shape : quoteName name ++ rest = '"' :: (quoteChars name.toList ++ '"' :: rest) := by
    simp [quoteName]
  rw [shape, name?, nameEnd?_quoteChars _ _ ends, Option.map_some, Prod.map_apply,
    String.ofList_toList]
  rfl

theorem undoes_quoteName : nameReader.Undoes quoteName (· == '"') := by
  intro name rest ends
  apply name?_quoteName
  intro quote
  exact absurd (ends '"' quote) (by decide)

-- A placeholder by its number; the first one has the number one.
def numbered (n : Nat) : List Char := '?' :: Decimal.digitChars n

theorem undoes_numbered : placeholderReader.Undoes numbered Numeral.isDigit := by
  intro n rest ends
  have digits : Numeral.digits (Decimal.digitChars n ++ rest) = (Decimal.digitChars n, rest) :=
    Numeral.digits_append _ rest (Decimal.isDigit_of_mem_digitChars n) ends
  have some : (Decimal.digitChars n).isEmpty = false := by
    rw [List.isEmpty_eq_false_iff]
    exact (Decimal.digitsOf n).nonempty
  have read : placeholder? ('?' :: (Decimal.digitChars n ++ rest)) = Option.some (n, rest) := by
    rw [placeholder?, digits, some, if_neg (by decide), Prod.map_apply, Decimal.ofDigitChars_digitChars]
    rfl
  exact read

theorem map_placeholder (count : Nat) :
    (List.range count).map placeholder = (List.range' 1 count).map numbered := by
  rw [List.range'_eq_map_range, List.map_map]
  congr 1
  funext i
  simp only [placeholder, numbered, Function.comp_apply, Decimal.digitChars, Nat.add_comm]

structure Insertion where
  table : String
  columns : List String
  placeholders : List Nat
deriving DecidableEq, Repr

def insertWord : List Char := "INSERT INTO ".toList

def columnsMark : List Char := " (".toList

def valuesMark : List Char := ") VALUES (".toList

def selectWord : List Char := "SELECT * FROM ".toList

def insertion? (text : List Char) : Option Insertion := do
  let text ← insertWord.isPrefixOf? text
  let (table, text) ← name? text
  let text ← columnsMark.isPrefixOf? text
  let (columns, text) ← nameReader.series text
  let text ← valuesMark.isPrefixOf? text
  let (placeholders, text) ← placeholderReader.series text
  if text = [')'] then some ⟨table, columns, placeholders⟩ else none

def selection? (text : List Char) : Option String := do
  let text ← selectWord.isPrefixOf? text
  let (table, text) ← name? text
  if text = [] then some table else none

theorem isPrefixOf?_append (front rest : List Char) : front.isPrefixOf? (front ++ rest) = some rest := by
  induction front with
  | nil => rfl
  | cons c front ih =>
    have step : (c :: front).isPrefixOf? (c :: (front ++ rest)) =
        if (c == c) = true then front.isPrefixOf? (front ++ rest) else none := rfl
    rw [List.cons_append, step, if_pos (beq_self_eq_true c), ih]

theorem selection?_chars (table : String) : selection? (Statement.select table).chars = some table := by
  have chars : (Statement.select table).chars = selectWord ++ quoteName table := rfl
  have read := name?_quoteName table [] (by simp)
  rw [List.append_nil] at read
  simp [chars, selection?, isPrefixOf?_append, read]

theorem chars_insert (table : String) (row : List (String × Cell)) (nonempty : row ≠ []) :
    (Statement.insert table row).chars =
      insertWord ++ (quoteName table ++ (columnsMark ++
        (commaSeparated ((row.map (·.1)).map quoteName) ++ (valuesMark ++
          (commaSeparated ((List.range' 1 (row.map (·.2)).length).map numbered) ++ [')']))))) := by
  cases row with
  | nil => exact absurd rfl nonempty
  | cons entry row =>
    rw [← map_placeholder]
    simp only [← List.append_assoc]
    rfl

theorem insertion?_chars (table : String) (row : List (String × Cell)) (nonempty : row ≠ []) :
    insertion? (Statement.insert table row).chars =
      some ⟨table, row.map (·.1), List.range' 1 (row.map (·.2)).length⟩ := by
  have behindTable (rest : List Char) : (columnsMark ++ rest).head? = some ' ' := rfl
  have behindColumns (rest : List Char) : (valuesMark ++ rest).head? = some ')' := rfl
  have named (rest : List Char) :
      name? (quoteName table ++ (columnsMark ++ rest)) = some (table, columnsMark ++ rest) := by
    apply name?_quoteName
    simp [behindTable]
  have columns (rest : List Char) : nameReader.series
      (commaSeparated ((row.map (·.1)).map quoteName) ++ (valuesMark ++ rest)) =
        some (row.map (·.1), valuesMark ++ rest) := by
    apply undoes_quoteName.series
    next => decide
    next => simpa using nonempty
    next => simp [behindColumns]
    next => simp [behindColumns]
  have values : placeholderReader.series
      (commaSeparated ((List.range' 1 (row.map (·.2)).length).map numbered) ++ [')']) =
        some (List.range' 1 (row.map (·.2)).length, [')']) := by
    apply undoes_numbered.series
    next => decide
    next => simpa using nonempty
    next => simp [Numeral.isDigit]
    next => decide
  simp only [chars_insert _ row nonempty, insertion?, isPrefixOf?_append, Option.bind_eq_bind,
    Option.bind_some, named, columns, values, if_pos]

theorem names_stay_inside :
    (∀ (name : String) (rest : List Char), rest.head? ≠ some '"' →
      name? (quoteName name ++ rest) = some (name, rest)) ∧
    (∀ (table : String) (row : List (String × Cell)), row ≠ [] →
      insertion? (Statement.insert table row).chars =
        some ⟨table, row.map (·.1), List.range' 1 (row.map (·.2)).length⟩) ∧
    (∀ table : String, selection? (Statement.select table).chars = some table) :=
  ⟨name?_quoteName, insertion?_chars, selection?_chars⟩

theorem names_stay_inside_separators :
    ([',', ' '].head? ≠ some '"' ∧
      name? (quoteName "a\", \"b\"" ++ [',', ' ']) = some ("a\", \"b\"", [',', ' '])) ∧
    ([("a\", \"b\"", Cell.null), ("", .integer 1)] ≠ [] ∧
      insertion? (Statement.insert "t\" (" [("a\", \"b\"", .null), ("", .integer 1)]).chars =
        some ⟨"t\" (", ["a\", \"b\"", ""], [1, 2]⟩) :=
  ⟨⟨by decide, names_stay_inside.1 "a\", \"b\"" [',', ' '] (by decide)⟩,
    List.cons_ne_nil _ _, names_stay_inside.2.1 "t\" (" _ (List.cons_ne_nil _ _)⟩

end TableScript.Sql
