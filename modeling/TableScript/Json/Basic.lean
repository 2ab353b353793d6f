import TableScript.Assoc
import TableScript.Binary64.Basic
import TableScript.Decimal.Basic
import TableScript.Value.Literal

set_option autoImplicit false

namespace TableScript

inductive Json where
  | null
  | bool (b : Bool)
  | int (n : Int)
  | real (x : Binary64)
  | string (s : String)
  | array (items : List Json)
  | object (members : List (String × Json))
deriving Inhabited

namespace Json

def realFormat : Decimal.Format :=
  { lowest := -5, highest := 15, fraction := false, exponentWidth := 1 }

def realChars : Binary64 → List Char
  | .finite s r => realFormat.signed s (Decimal.shortest .toEven r)
  | _ => "null".toList

def hexDigit (n : Nat) : Char := Nat.digitChar n

def textChar (c : Char) : List Char :=
  if c = '"' then ['\\', '"']
  else if c = '\\' then ['\\', '\\']
  else if c = '\x08' then ['\\', 'b']
  else if c = '\x0c' then ['\\', 'f']
  else if c = '\n' then ['\\', 'n']
  else if c = '\r' then ['\\', 'r']
  else if c = '\t' then ['\\', 't']
  else if c.toNat < 0x20 then
    ['\\', 'u', '0', '0', hexDigit (c.toNat / 16), hexDigit (c.toNat % 16)]
  else [c]

def textChars (cs : List Char) : List Char := '"' :: (cs.flatMap textChar ++ ['"'])

mutual
def writeChars : Json → List Char
  | .null => "null".toList
  | .bool true => "true".toList
  | .bool false => "false".toList
  | .int n => Value.intChars n
  | .real x => realChars x
  | .string s => textChars s.toList
  | .array items => '[' :: (itemChars items ++ [']'])
  | .object members => '{' :: (memberChars members ++ ['}'])

def itemChars : List Json → List Char
  | [] => []
  | j :: rest => writeChars j ++ laterItemChars rest

def laterItemChars : List Json → List Char
  | [] => []
  | j :: rest => ',' :: (writeChars j ++ laterItemChars rest)

def memberChars : List (String × Json) → List Char
  | [] => []
  | (name, j) :: rest => textChars name.toList ++ (':' :: (writeChars j ++ laterMemberChars rest))

def laterMemberChars : List (String × Json) → List Char
  | [] => []
  | (name, j) :: rest =>
    ',' :: (textChars name.toList ++ (':' :: (writeChars j ++ laterMemberChars rest)))
end

def write (j : Json) : String := String.ofList j.writeChars

end Json

end TableScript
