import TableScript.Decimal.Basic
import TableScript.Text.Basic
import TableScript.Value.Basic

set_option autoImplicit false

namespace TableScript.Value

def realFormat : Decimal.Format :=
  { lowest := -4, highest := 15, fraction := false, exponentWidth := 2 }

def realChars : Binary64 → List Char
  | .nan => "nan".toList
  | .infinite true => "-inf".toList
  | .infinite false => "inf".toList
  | .finite s r => realFormat.signed s (Decimal.shortest .up r)

def intChars (n : Int) : List Char :=
  if n < 0 then '-' :: Decimal.digitChars n.natAbs else Decimal.digitChars n.natAbs

def separator : List Char := [',', ' ']

def keyChars : Key → List Char
  | .bool true => "True".toList
  | .bool false => "False".toList
  | .int n => intChars n
  | .real x => realChars x
  | .str s => Text.quoted s.toList

mutual
def literalChars : Value → List Char
  | .none => "None".toList
  | .bool true => "True".toList
  | .bool false => "False".toList
  | .int n => intChars n
  | .real x => realChars x
  | .str s => Text.quoted s.toList
  | .list items => '[' :: (itemChars items ++ [']'])
  | .dict ⟨entries, _⟩ => '{' :: (entryChars entries ++ ['}'])

def itemChars : List Value → List Char
  | [] => []
  | v :: rest => literalChars v ++ laterItemChars rest

def laterItemChars : List Value → List Char
  | [] => []
  | v :: rest => separator ++ (literalChars v ++ laterItemChars rest)

def entryChars : List (Key × Value) → List Char
  | [] => []
  | (k, v) :: rest => keyChars k ++ (':' :: ' ' :: (literalChars v ++ laterEntryChars rest))

def laterEntryChars : List (Key × Value) → List Char
  | [] => []
  | (k, v) :: rest =>
    separator ++ (keyChars k ++ (':' :: ' ' :: (literalChars v ++ laterEntryChars rest)))
end

theorem literalChars_ofKey (k : Key) : literalChars (ofKey k) = keyChars k := by
  cases k with
  | bool b => cases b <;> rfl
  | int n | real x | str s => rfl

def literal (v : Value) : String := String.ofList v.literalChars

def output : Value → String
  | .str s => s
  | v => v.literal

end TableScript.Value
