import TableScript.Json.Read
import TableScript.Json.Basic
import TableScript.Text.Basic

set_option autoImplicit false

namespace TableScript.Value

mutual
def ofJson : Json → Value
  | .null => .none
  | .bool b => .bool b
  | .int n => .int n
  | .real x => .real x
  | .string s => .str s
  | .array items => .list (ofItems items)
  | .object members => .dict (ofMembers .empty members)

def ofItems : List Json → List Value
  | [] => []
  | j :: rest => ofJson j :: ofItems rest

def ofMembers (d : Dict Value) : List (String × Json) → Dict Value
  | [] => d
  | (name, j) :: rest => ofMembers (d.insert (.str name) (ofJson j)) rest
end

def keyName : Key → String
  | .str s => s
  | k => String.ofList (keyChars k)

mutual
def toJson : Value → Json
  | .none => .null
  | .bool b => .bool b
  | .int n => .int n
  | .real x => if x.isFinite then .real x else .null
  | .str s => .string s
  | .list items => .array (toItems items)
  | .dict ⟨entries, _⟩ => .object (Assoc.collect (toMembers entries))

def toItems : List Value → List Json
  | [] => []
  | v :: rest => toJson v :: toItems rest

def toMembers : List (Key × Value) → List (String × Json)
  | [] => []
  | (k, v) :: rest => (keyName k, toJson v) :: toMembers rest
end

def trimBlank (cs : List Char) : List Char :=
  ((cs.dropWhile Text.isBlank).reverse.dropWhile Text.isBlank).reverse

def namedReal? (cs : List Char) : Option Binary64 :=
  if cs = "NaN".toList then some .nan
  else if cs = "Infinity".toList then some (.infinite false)
  else if cs = "-Infinity".toList then some (.infinite true)
  else Option.none

def ofLiteral (s : String) : Value :=
  match namedReal? (trimBlank s.toList) with
  | some x => .real x
  | Option.none =>
    match Json.read? s.toList with
    | some j => ofJson j
    | Option.none => .str s

end TableScript.Value
