import TableScript.Storage.Cell

set_option autoImplicit false

namespace TableScript

structure Column where
  name : String
  affinity : Affinity
  notNull : Bool
  unique : Bool
  rowKey : Bool
  default : Cell
deriving DecidableEq, Repr

def sameName (a b : String) : Bool := a.toList.map Char.toLower == b.toList.map Char.toLower

theorem sameName_iff (a b : String) :
    sameName a b = true ↔ a.toList.map Char.toLower = b.toList.map Char.toLower := by
  simp [sameName]

inductive Piece where
  | word (upper : List Char)
  | number (n : Numeral)
  | quoted (s : List Char)
  | mark (c : Char)
deriving DecidableEq, Repr

namespace Piece

def isWordChar (c : Char) : Bool := c.isAlphanum || c = '_' || c = '$' || decide (0x80 ≤ c.toNat)

def quotation (quote : Char) : List Char → List Char × List Char
  | [] => ([], [])
  | c :: cs =>
    if c = quote then
      match cs with
      | d :: after =>
        if d = quote then (c :: (quotation quote after).1, (quotation quote after).2) else ([], cs)
      | [] => ([], [])
    else (c :: (quotation quote cs).1, (quotation quote cs).2)

theorem quotation_rest_length_le (quote : Char) (cs : List Char) :
    (quotation quote cs).2.length ≤ cs.length := by
  fun_induction quotation quote cs <;> simp_all <;> omega

def next (c : Char) (cs : List Char) : Piece × List Char :=
  if c = '\'' ∨ c = '"' then (.quoted (quotation c cs).1, (quotation c cs).2)
  else if Numeral.isDigit c || c = '.' then
    (.number (Numeral.scan (c :: cs)).1, (Numeral.scan (c :: cs)).2)
  else if isWordChar c then
    (.word ((c :: cs.takeWhile isWordChar).map Char.toUpper), cs.dropWhile isWordChar)
  else (.mark c, cs)

theorem next_rest_length_le (c : Char) (cs : List Char) : (next c cs).2.length ≤ cs.length := by
  unfold next
  split
  next => exact quotation_rest_length_le c cs
  next =>
    split
    next number =>
      have := Numeral.scan_rest_length_lt c cs (by simpa using number)
      exact Nat.le_of_lt_succ this
    next =>
      split
      next => exact (List.dropWhile_sublist isWordChar).length_le
      next => exact Nat.le_refl _

def split (cs : List Char) : List Piece :=
  match _h : cs.dropWhile Affinity.isSpace with
  | [] => []
  | c :: after => (next c after).1 :: split (next c after).2
termination_by cs.length
decreasing_by
  have blank : (cs.dropWhile Affinity.isSpace).length ≤ cs.length :=
    (List.dropWhile_sublist Affinity.isSpace).length_le
  have rest := next_rest_length_le c after
  rw [_h, List.length_cons] at blank
  omega

end Piece

namespace Column

def constraintWords : List String :=
  ["NOT", "NULL", "UNIQUE", "PRIMARY", "DEFAULT", "CHECK", "COLLATE", "REFERENCES", "CONSTRAINT",
    "GENERATED", "AS", "DEFERRABLE"]

def isTypeWord (word : List Char) : Bool := !(constraintWords.any (·.toList == word))

def typeWords : List Piece → List (List Char) × List Piece
  | .word w :: rest =>
    if isTypeWord w then (w :: (typeWords rest).1, (typeWords rest).2) else ([], .word w :: rest)
  | pieces => ([], pieces)

def literal (negative : Bool) : Piece → Cell
  | .number n =>
    let signed := { n with negative := negative }
    if n.isPlain && Cell.fitsWord signed.wholeValue then .integer signed.wholeValue
    else .real (StoredReal.read signed)
  | .quoted s => .text (String.ofList s)
  | .word w =>
    if w = "TRUE".toList then .integer 1
    else if w = "FALSE".toList then .integer 0
    else if w = "NULL".toList then .null
    else .text (String.ofList w)
  | .mark _ => .null

/-- Constraints are read one after the other; what is not understood is passed over. -/
def constrain (column : Column) (isInteger : Bool) : List Piece → Column
  | .word a :: .word b :: rest =>
    if a = "NOT".toList ∧ b = "NULL".toList then
      constrain { column with notNull := true } isInteger rest
    else if a = "PRIMARY".toList ∧ b = "KEY".toList then
      let descending := rest.head? = some (.word "DESC".toList)
      if isInteger ∧ ¬descending then constrain { column with rowKey := true } isInteger rest
      else constrain { column with unique := true } isInteger rest
    else if a = "DEFAULT".toList then
      constrain { column with default := literal false (.word b) } isInteger rest
    else if a = "UNIQUE".toList then
      constrain { column with unique := true } isInteger (.word b :: rest)
    else constrain column isInteger (.word b :: rest)
  | .word a :: .mark sign :: value :: rest =>
    if a = "DEFAULT".toList then
      constrain { column with default := literal (sign = '-') value } isInteger rest
    else if a = "UNIQUE".toList then
      constrain { column with unique := true } isInteger (.mark sign :: value :: rest)
    else constrain column isInteger (.mark sign :: value :: rest)
  | .word a :: value :: rest =>
    if a = "DEFAULT".toList then
      constrain { column with default := literal false value } isInteger rest
    else if a = "UNIQUE".toList then
      constrain { column with unique := true } isInteger (value :: rest)
    else constrain column isInteger (value :: rest)
  | [.word a] => if a = "UNIQUE".toList then { column with unique := true } else column
  | _ :: rest => constrain column isInteger rest
  | [] => column
termination_by pieces => pieces.length

def ofDeclaration (name declaration : String) : Column :=
  let cs := declaration.toList
  let (words, constraints) := typeWords (Piece.split cs)
  let declared := List.intercalate [' '] words
  let plain : Column :=
    { name, affinity := .ofType declared, notNull := false, unique := false, rowKey := false
      default := .null }
  constrain plain (declared = "INTEGER".toList) constraints

end Column

end TableScript
