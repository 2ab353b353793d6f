import TableScript.Decimal.Numeral
import TableScript.Text.Basic
import TableScript.Text.Letter
import TableScript.Token.Basic

set_option autoImplicit false

namespace TableScript

inductive LexFault where
  | unexpectedCharacter (c : Char)
  | expectedEqualAfterBang
  | unterminatedString
  | unterminatedEscape
deriving DecidableEq, Repr

structure Scan where
  outcome : Except LexFault TokenKind
  taken : List Char
  rest : List Char

structure Quotation where
  contents : Except LexFault (List Char)
  taken : List Char
  rest : List Char

def Quotation.meaning (c : Char) : List Char :=
  if c = '"' ∨ c = '\'' ∨ c = '\\' then [c] else ['\\', c]

/--
How far the contents of a text literal are read. What stands before `segment` is copied as it is meant,
once there was an escape; what stands from `segment` to `place` is not copied yet and means itself.
-/
structure Copying where
  copied : Option (List Char)
  segment : Nat
  place : Nat

namespace Copying

def start : Copying := ⟨none, 0, 0⟩

def contents (s : Copying) (text : List Char) : List Char :=
  s.copied.getD [] ++ slice text s.segment s.place

def pass (s : Copying) (c : Char) : Copying := { s with place := s.place + c.utf8Size }

def escape (s : Copying) (text : List Char) (e : Char) : Copying :=
  let behind := ((s.pass '\\').pass e).place
  ⟨some (s.contents text ++ Quotation.meaning e), behind, behind⟩

end Copying

namespace Quotation

def behind (written : List Char) (q : Quotation) : Quotation := { q with taken := written ++ q.taken }

def copyFrom (quote : Char) (text : List Char) (s : Copying) : List Char → Quotation
  | [] => ⟨.error .unterminatedString, [], []⟩
  | c :: cs =>
    if c = quote then ⟨.ok (s.contents text), [c], cs⟩
    else if c = '\\' then
      match cs with
      | [] => ⟨.error .unterminatedEscape, [c], []⟩
      | e :: after => (copyFrom quote text (s.escape text e) after).behind [c, e]
    else (copyFrom quote text (s.pass c) cs).behind [c]

def copy (quote : Char) (text : List Char) : Quotation := copyFrom quote text .start text

theorem taken_append_rest (quote : Char) (text : List Char) (s : Copying) (cs : List Char) :
    (copyFrom quote text s cs).taken ++ (copyFrom quote text s cs).rest = cs := by
  fun_induction copyFrom quote text s cs <;> simp_all [behind]

end Quotation

namespace Scan

def isWordStart (c : Char) : Bool := Text.isLetter c || c == '_'

def isWordPart (c : Char) : Bool := Text.isLetter c || Text.isNumeral c || c == '_'

def symbol (s : Symbol) (taken rest : List Char) : Scan := ⟨.ok (.symbol s), taken, rest⟩

def withEqual (plain equal : Symbol) (c : Char) : List Char → Scan
  | '=' :: cs => symbol equal [c, '='] cs
  | cs => symbol plain [c] cs

def bang (c : Char) : List Char → Scan
  | '=' :: cs => symbol .notEqual [c, '='] cs
  | cs => ⟨.error .expectedEqualAfterBang, [c], cs⟩

def quotation (quote : Char) (cs : List Char) : Scan :=
  let q := Quotation.copy quote cs
  ⟨q.contents.map fun contents => .string (String.ofList contents), quote :: q.taken, q.rest⟩

def digits (c : Char) (cs : List Char) : Scan :=
  let ds := c :: cs.takeWhile Numeral.isDigit
  ⟨.ok (.integer (Decimal.ofDigitChars ds)), ds, cs.dropWhile Numeral.isDigit⟩

def wordKind (word : List Char) : TokenKind :=
  match Keyword.ofWord? word with
  | some k => .keyword k
  | none => .identifier (String.ofList word)

def word (c : Char) (cs : List Char) : Scan :=
  let w := c :: cs.takeWhile isWordPart
  ⟨.ok (wordKind w), w, cs.dropWhile isWordPart⟩

def read (c : Char) (cs : List Char) : Scan :=
  match c with
  | '+' => symbol .plus [c] cs
  | '-' => symbol .minus [c] cs
  | '*' => symbol .star [c] cs
  | '/' => symbol .slash [c] cs
  | '(' => symbol .lparen [c] cs
  | ')' => symbol .rparen [c] cs
  | '{' => symbol .lbrace [c] cs
  | '}' => symbol .rbrace [c] cs
  | '[' => symbol .lbracket [c] cs
  | ']' => symbol .rbracket [c] cs
  | ',' => symbol .comma [c] cs
  | ':' => symbol .colon [c] cs
  | '=' => withEqual .assign .equalEqual c cs
  | '<' => withEqual .less .lessEqual c cs
  | '>' => withEqual .greater .greaterEqual c cs
  | '!' => bang c cs
  | '"' => quotation c cs
  | '\'' => quotation c cs
  | _ =>
    if Numeral.isDigit c then digits c cs
    else if isWordStart c then word c cs
    else ⟨.error (.unexpectedCharacter c), [], c :: cs⟩

def Splits (s : Scan) (cs : List Char) : Prop := s.taken ++ s.rest = cs

theorem splits_withEqual (plain equal : Symbol) (c : Char) (cs : List Char) :
    (withEqual plain equal c cs).Splits (c :: cs) := by
  unfold withEqual
  split <;> simp [Splits, symbol]

theorem splits_bang (c : Char) (cs : List Char) : (bang c cs).Splits (c :: cs) := by
  unfold bang
  split <;> simp [Splits, symbol]

theorem splits_read (c : Char) (cs : List Char) : (read c cs).Splits (c :: cs) := by
  unfold read
  split
  all_goals
    first
    | exact splits_withEqual _ _ _ _
    | exact splits_bang _ _
    | simp [Splits, symbol, quotation, Quotation.copy, Quotation.taken_append_rest]
  split
  next => simp [digits, List.takeWhile_append_dropWhile]
  next => split <;> simp [word, List.takeWhile_append_dropWhile]

theorem outcome_of_taken_eq_nil (c : Char) (cs : List Char) (h : (read c cs).taken = []) :
    (read c cs).outcome = .error (.unexpectedCharacter c) := by
  revert h
  unfold read
  split
  all_goals
    first
    | (unfold withEqual; split <;> simp [symbol])
    | (unfold bang; split <;> simp [symbol])
    | simp [symbol, quotation]
    | skip
  split
  next => simp [digits]
  next => split <;> simp [word]

theorem rest_length_lt (c : Char) (cs : List Char) (kind : TokenKind)
    (h : (read c cs).outcome = .ok kind) : (read c cs).rest.length < (c :: cs).length := by
  have split : (read c cs).taken ++ (read c cs).rest = c :: cs := splits_read c cs
  have taken : (read c cs).taken ≠ [] := by
    intro empty
    rw [outcome_of_taken_eq_nil c cs empty] at h
    contradiction
  have positive := List.length_pos_iff.mpr taken
  rw [← split, List.length_append]
  omega

end Scan

end TableScript
