import TableScript.Decimal.Numeral
import TableScript.Json.Read
import TableScript.Text.Basic

set_option autoImplicit false

namespace TableScript

inductive IpAddress where
  | v4 (octets : List Nat)
  | v6 (groups : List Nat)
deriving DecidableEq, Repr

namespace IpAddress

def octet? (cs : List Char) : Option Nat :=
  let n := Decimal.ofDigitChars cs
  if cs.all Numeral.isDigit && 1 ≤ cs.length && cs.length ≤ 3 && n ≤ 255 &&
      (cs.length == 1 || cs.head? != some '0')
  then some n else none

def octets? (cs : List Char) : Option (List Nat) :=
  match (Text.splitOn '.' cs).mapM octet? with
  | some [a, b, c, d] => some [a, b, c, d]
  | _ => none

def group? (cs : List Char) : Option Nat :=
  if 1 ≤ cs.length ∧ cs.length ≤ 4 then
    (cs.mapM Json.hexValue?).map fun ds => ds.foldl (fun n d => 16 * n + d) 0
  else none

def groups? (octetsAllowed : Bool) : List (List Char) → Option (List Nat)
  | [] => some []
  | [part] =>
    match group? part with
    | some g => some [g]
    | none =>
      match octetsAllowed, octets? part with
      | true, some [a, b, c, d] => some [a * 256 + b, c * 256 + d]
      | _, _ => none
  | part :: rest => do
    let g ← group? part
    let gs ← groups? octetsAllowed rest
    return g :: gs

def atDoubleColon? : List Char → Option (List Char × List Char)
  | ':' :: ':' :: rest => some ([], rest)
  | c :: rest => (atDoubleColon? rest).map fun parts => (c :: parts.1, parts.2)
  | [] => none

def parts (cs : List Char) : List (List Char) := if cs.isEmpty then [] else Text.splitOn ':' cs

def v6Groups? (cs : List Char) : Option (List Nat) :=
  match atDoubleColon? cs with
  | none => do
    let all ← groups? true (parts cs)
    if all.length = 8 then some all else none
  | some (front, back) => do
    let first ← groups? false (parts front)
    let last ← groups? true (parts back)
    let given := first.length + last.length
    if given ≤ 7 then some (first ++ List.replicate (8 - given) 0 ++ last) else none

def parse? (cs : List Char) : Option IpAddress :=
  match octets? cs with
  | some octets => some (.v4 octets)
  | none => (v6Groups? cs).map .v6

def octetChars (octets : List Nat) : List Char :=
  List.intercalate ['.'] (octets.map Decimal.digitChars)

def groupChars (groups : List Nat) : List Char :=
  List.intercalate [':'] (groups.map (Nat.toDigits 16))

def leadingZeros (groups : List Nat) : Nat := (groups.takeWhile (· == 0)).length

def longestZeros (groups : List Nat) : Nat × Nat :=
  (List.range groups.length).foldl
    (fun best i =>
      let n := leadingZeros (groups.drop i)
      if best.2 < n then (i, n) else best)
    (0, 0)

def v6Chars (groups : List Nat) : List Char :=
  match groups with
  | [0, 0, 0, 0, 0, 0xFFFF, a, b] =>
    "::ffff:".toList ++ octetChars [a / 256, a % 256, b / 256, b % 256]
  | _ =>
    let (start, count) := longestZeros groups
    if 1 < count then
      groupChars (groups.take start) ++ [':', ':'] ++ groupChars (groups.drop (start + count))
    else groupChars groups

end IpAddress

structure Endpoint where
  ip : IpAddress
  port : Nat
deriving DecidableEq, Repr

namespace Endpoint

def loopback (port : Nat) : Endpoint := ⟨.v4 [127, 0, 0, 1], port⟩

def chars (e : Endpoint) : List Char :=
  let port := ':' :: Decimal.digitChars e.port
  match e.ip with
  | .v4 octets => IpAddress.octetChars octets ++ port
  | .v6 groups => '[' :: (IpAddress.v6Chars groups ++ ']' :: port)

def text (e : Endpoint) : String := String.ofList e.chars

def port? (cs : List Char) : Option Nat :=
  let n := Decimal.ofDigitChars cs
  if cs.all Numeral.isDigit && !cs.isEmpty && n ≤ 65535 then some n else none

def parse? (cs : List Char) : Option Endpoint :=
  let back := cs.reverse.takeWhile (· != ':')
  match port? back.reverse, (cs.reverse.drop (back.length + 1)).reverse with
  | some port, '[' :: inner =>
    if inner.getLast? = some ']' then
      (IpAddress.v6Groups? inner.dropLast).map fun groups => ⟨.v6 groups, port⟩
    else none
  | some port, front => (IpAddress.octets? front).map fun octets => ⟨.v4 octets, port⟩
  | none, _ => none

end Endpoint

structure OsError where
  code : Nat
  reason : String
deriving DecidableEq, Repr

namespace OsError

def noSuchFile : OsError := ⟨2, "No such file or directory"⟩

def permissionDenied : OsError := ⟨13, "Permission denied"⟩

def notADirectory : OsError := ⟨20, "Not a directory"⟩

def addressInUse : OsError := ⟨98, "Address already in use"⟩

def addressNotAvailable : OsError := ⟨99, "Cannot assign requested address"⟩

def networkUnreachable : OsError := ⟨101, "Network is unreachable"⟩

def message (e : OsError) : String := e.reason ++ s!" (os error {e.code})"

end OsError

structure Host where
  /--
  Where a service listens that asks for an endpoint while others are in use; port zero asks for any
  free port.
  -/
  bind : (inUse : List Endpoint) → Endpoint → Except OsError Endpoint
  connect : Endpoint → Except OsError Unit

namespace Host

def isPrivileged (port : Nat) : Bool := decide (0 < port) && decide (port < 1024)

def firstFreePort : Nat := 49152

def freePort (inUse : List Endpoint) : Nat :=
  inUse.foldl (fun port e => max port (e.port + 1)) firstFreePort

def isOwn : IpAddress → Bool
  | .v4 _ => true
  | .v6 [0, 0, 0, 0, 0, 0xffff, _, _] => true
  | .v6 groups => groups.all (· == 0)

def isolated : Host where
  bind inUse e :=
    if isPrivileged e.port then .error .permissionDenied
    else if !isOwn e.ip then .error .addressNotAvailable
    else if e.port = 0 then .ok { e with port := freePort inUse }
    else if inUse.contains e then .error .addressInUse
    else .ok e
  connect _ := .error .networkUnreachable

end Host

end TableScript
