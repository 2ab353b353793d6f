import TableScript.Decimal.Numeral
import TableScript.Json.Basic

set_option autoImplicit false

namespace TableScript.Json

structure Parsed (α : Type) (bound : Nat) where
  value : α
  rest : List Char
  shorter : rest.length < bound

namespace Parsed

variable {α β : Type} {m n : Nat}

def widen (p : Parsed α m) (h : m ≤ n) : Parsed α n :=
  ⟨p.value, p.rest, Nat.lt_of_lt_of_le p.shorter h⟩

def map (f : α → β) (p : Parsed α n) : Parsed β n := ⟨f p.value, p.rest, p.shorter⟩

end Parsed

def isSpace (c : Char) : Bool := c = ' ' || c = '\t' || c = '\n' || c = '\r'

def skipSpace (cs : List Char) : List Char := cs.dropWhile isSpace

theorem skipSpace_length_le (cs : List Char) : (skipSpace cs).length ≤ cs.length :=
  (List.dropWhile_sublist isSpace).length_le

theorem length_le_of_skipSpace_eq {cs rest : List Char} (h : skipSpace cs = rest) :
    rest.length ≤ cs.length :=
  h ▸ skipSpace_length_le cs

theorem length_lt_of_skipSpace_eq {cs after : List Char} {c : Char} (h : skipSpace cs = c :: after) :
    after.length < cs.length :=
  length_le_of_skipSpace_eq h

def expect (c : Char) (cs : List Char) : Option (Parsed Unit cs.length) :=
  match h : skipSpace cs with
  | [] => none
  | d :: rest => if d = c then some ⟨(), rest, length_lt_of_skipSpace_eq h⟩ else none

def hexValue? (c : Char) : Option Nat :=
  if '0' ≤ c ∧ c ≤ '9' then some (c.toNat - '0'.toNat)
  else if 'a' ≤ c ∧ c ≤ 'f' then some (c.toNat - 'a'.toNat + 10)
  else if 'A' ≤ c ∧ c ≤ 'F' then some (c.toNat - 'A'.toNat + 10)
  else none

def unit? (cs : List Char) : Option (Parsed Nat cs.length) :=
  match cs with
  | a :: b :: c :: d :: rest => do
    let a ← hexValue? a
    let b ← hexValue? b
    let c ← hexValue? c
    let d ← hexValue? d
    return ⟨((a * 16 + b) * 16 + c) * 16 + d, rest, by simp only [List.length_cons]; omega⟩
  | _ => none

def lowUnit? (cs : List Char) : Option (Parsed Nat cs.length) :=
  match cs with
  | '\\' :: 'u' :: after => do
    let low ← unit? after
    if 0xDC00 ≤ low.value ∧ low.value ≤ 0xDFFF then
      return low.widen (by simp only [List.length_cons]; omega)
    else none
  | _ => none

def unicodeEscape? (cs : List Char) : Option (Parsed Char cs.length) := do
  let high ← unit? cs
  have := high.shorter
  if 0xD800 ≤ high.value ∧ high.value ≤ 0xDBFF then
    let low ← lowUnit? high.rest
    let code := 0x10000 + (high.value - 0xD800) * 0x400 + (low.value - 0xDC00)
    return (low.map fun _ => Char.ofNat code).widen (by omega)
  else if 0xDC00 ≤ high.value ∧ high.value ≤ 0xDFFF then none
  else return high.map Char.ofNat

def simpleEscape? : Char → Option Char
  | '"' => some '"'
  | '\\' => some '\\'
  | '/' => some '/'
  | 'b' => some '\x08'
  | 'f' => some '\x0c'
  | 'n' => some '\n'
  | 'r' => some '\r'
  | 't' => some '\t'
  | _ => none

def escape? (cs : List Char) : Option (Parsed Char cs.length) :=
  match cs with
  | [] => none
  | 'u' :: after => do
    let c ← unicodeEscape? after
    return c.widen (by simp only [List.length_cons]; omega)
  | c :: after => (simpleEscape? c).map fun meant => ⟨meant, after, by simp⟩

def text? (cs : List Char) : Option (Parsed (List Char) cs.length) :=
  match cs with
  | [] => none
  | '"' :: after => some ⟨[], after, by simp⟩
  | '\\' :: after => do
    let c ← escape? after
    have := c.shorter
    let more ← text? c.rest
    return (more.map (c.value :: ·)).widen (by simp only [List.length_cons]; omega)
  | c :: after =>
    if c.toNat < 0x20 then none
    else do
      let more ← text? after
      return (more.map (c :: ·)).widen (by simp)
termination_by cs.length

def isNumber (n : Numeral) : Bool :=
  !n.whole.isEmpty && (n.whole.length == 1 || n.whole.head? != some '0') && n.fraction != some []

def ofNumeral (n : Numeral) : Json :=
  if n.isPlain then .int n.wholeValue
  else
    match n.toBinary64 with
    | .infinite _ => .real .nan
    | x => .real x

def number? (cs : List Char) : Option (Json × List Char) :=
  if cs.head? = some '+' then none
  else
    let (n, rest) := Numeral.scan cs
    if isNumber n then some (ofNumeral n, rest) else none

/-- An object whose first member has this name stands for the number that its text is. -/
def numberMarker : String := "$serde_json::private::Number"

def markedNumber? (s : List Char) : Option Json :=
  match number? s with
  | some (j, []) => some j
  | _ => none

def word? (word : String) (j : Json) (cs : List Char) : Option (Json × List Char) :=
  if word.toList.isPrefixOf cs then some (j, cs.drop word.length) else none

def wordOrNumber? (cs : List Char) : Option (Json × List Char) :=
  (word? "null" .null cs).or <| (word? "true" (.bool true) cs).or <|
    (word? "false" (.bool false) cs).or (number? cs)

def scalar? (cs : List Char) : Option (Parsed Json cs.length) :=
  match wordOrNumber? cs with
  | some (j, rest) => if h : rest.length < cs.length then some ⟨j, rest, h⟩ else none
  | none => none

def depthLimit : Nat := 127

mutual

def value? (depth : Nat) (cs : List Char) : Option (Parsed Json cs.length) :=
  match h : skipSpace cs with
  | [] => none
  | '"' :: after => do
    let s ← text? after
    return (s.map fun s => .string (String.ofList s)).widen (Nat.le_of_lt (length_lt_of_skipSpace_eq h))
  | '[' :: after =>
    match depth with
    | 0 => none
    | depth + 1 => do
      have shorter := length_lt_of_skipSpace_eq h
      let items ← items? depth after
      return (items.map .array).widen (Nat.le_of_lt shorter)
  | '{' :: after =>
    match depth with
    | 0 => none
    | depth + 1 => do
      have shorter := length_lt_of_skipSpace_eq h
      let members ← members? depth after
      return members.widen (Nat.le_of_lt shorter)
  | c :: after => do
    let j ← scalar? (c :: after)
    return j.widen (length_le_of_skipSpace_eq h)
termination_by (cs.length, 0)

def items? (depth : Nat) (cs : List Char) : Option (Parsed (List Json) cs.length) :=
  match expect ']' cs with
  | some close => some (close.map fun _ => [])
  | none => laterItems? depth cs
termination_by (cs.length, 2)

def laterItems? (depth : Nat) (cs : List Char) : Option (Parsed (List Json) cs.length) := do
  let first ← value? depth cs
  have := first.shorter
  match expect ',' first.rest with
  | some comma =>
    have := comma.shorter
    let more ← laterItems? depth comma.rest
    return (more.map (first.value :: ·)).widen (by omega)
  | none =>
    let close ← expect ']' first.rest
    return (close.map fun _ => [first.value]).widen (by omega)
termination_by (cs.length, 1)

def members? (depth : Nat) (cs : List Char) : Option (Parsed Json cs.length) :=
  match expect '}' cs with
  | some close => some (close.map fun _ => .object [])
  | none => do
    let quote ← expect '"' cs
    have := quote.shorter
    let name ← text? quote.rest
    have := name.shorter
    let colon ← expect ':' name.rest
    have := colon.shorter
    if String.ofList name.value = numberMarker then
      let quote ← expect '"' colon.rest
      have := quote.shorter
      let s ← text? quote.rest
      have := s.shorter
      let close ← expect '}' s.rest
      let j ← markedNumber? s.value
      return (close.map fun _ => j).widen (by omega)
    else
      let first ← value? depth colon.rest
      have := first.shorter
      let more ← laterMembers? depth first.rest
      let all := (String.ofList name.value, first.value) :: more.value
      return (more.map fun _ => .object (Assoc.collect all)).widen (by omega)
termination_by (cs.length, 0)

def laterMembers? (depth : Nat) (cs : List Char) :
    Option (Parsed (List (String × Json)) cs.length) :=
  match expect ',' cs with
  | some comma => do
    have := comma.shorter
    let quote ← expect '"' comma.rest
    have := quote.shorter
    let name ← text? quote.rest
    have := name.shorter
    let colon ← expect ':' name.rest
    have := colon.shorter
    let j ← value? depth colon.rest
    have := j.shorter
    let more ← laterMembers? depth j.rest
    return (more.map ((String.ofList name.value, j.value) :: ·)).widen (by omega)
  | none => do
    let close ← expect '}' cs
    return close.map fun _ => []
termination_by (cs.length, 0)

end

def read? (cs : List Char) : Option Json := do
  let j ← value? depthLimit cs
  if (skipSpace j.rest).isEmpty then some j.value else none

end TableScript.Json
