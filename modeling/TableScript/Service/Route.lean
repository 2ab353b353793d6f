import TableScript.Json.Basic
import TableScript.Storage.Engine
import TableScript.Text.Basic

set_option autoImplicit false

namespace TableScript

namespace Percent

def hexValue? (b : UInt8) : Option UInt8 :=
  if '0'.toUInt8 ≤ b ∧ b ≤ '9'.toUInt8 then some (b - '0'.toUInt8)
  else if 'a'.toUInt8 ≤ b ∧ b ≤ 'f'.toUInt8 then some (b - 'a'.toUInt8 + 10)
  else if 'A'.toUInt8 ≤ b ∧ b ≤ 'F'.toUInt8 then some (b - 'A'.toUInt8 + 10)
  else none

def decodeBytes : List UInt8 → Option (List UInt8)
  | [] => some []
  | b :: rest =>
    if b = '%'.toUInt8 then
      match rest with
      | high :: low :: after =>
        match hexValue? high, hexValue? low with
        | some h, some l => (decodeBytes after).map ((h * 16 + l) :: ·)
        | _, _ => none
      | _ => none
    else (decodeBytes rest).map (b :: ·)

def decode (s : String) : Option String :=
  match decodeBytes s.toUTF8.toList with
  | some bytes => String.fromUTF8? bytes.toByteArray
  | none => none

end Percent

structure Response where
  status : Nat
  body : Option Json

namespace Response

def detail (status : Nat) (message : String) : Response :=
  ⟨status, some (.object [("detail", .string message)])⟩

def notFound : Response := detail 404 "Not Found"

def methodNotAllowed : Response := detail 405 "Method Not Allowed"

def headers : List (String × String) :=
  [("access-control-allow-headers", "*"), ("access-control-allow-methods", "*"),
    ("access-control-allow-origin", "*"), ("content-type", "application/json")]

def text (r : Response) (method : String) : String :=
  match r.body with
  | some j => if method = "HEAD" then "" else j.write
  | none => ""

end Response

namespace Service

variable {E : Engine}

def version : String := "0.1.0"

def description (title : String) : Json :=
  .object
    [("openapi", .string "3.1.0"),
      ("info", .object [("title", .string title), ("version", .string version)]),
      ("paths", .object
        [("/", .object [("get", .object [("summary", .string "Health check")])]),
          ("/tables/\x7bname\x7d",
            .object [("get", .object [("summary", .string "List table rows")])])])]

def tableRows (store : E.State) (connection : Option E.Connection) (table : String) : Response :=
  match connection with
  | none => .detail 503 "No database connected"
  | some connection =>
    match E.select store connection table with
    | .ok selection => ⟨200, some selection.toRows.toJson⟩
    | .error e => .detail 404 e.message

def tablePrefix : List Char := "/tables/".toList

def tableSegment? (path : List Char) : Option String :=
  if tablePrefix.isPrefixOf path then some (String.ofList (path.drop tablePrefix.length)) else none

def isHome (path : List Char) : Bool := path == ['/'] || path == "/openapi.json".toList

def get (title : String) (store : E.State) (connection : Option E.Connection) (path : List Char) :
    Response :=
  if path = ['/'] then ⟨200, some (.object [("status", .string "OK!")])⟩
  else if path = "/openapi.json".toList then ⟨200, some (description title)⟩
  else
    match tableSegment? path with
    | none => .notFound
    | some segment =>
      match Percent.decode segment with
      | some table => tableRows store connection table
      | none => .detail 400 "Malformed table name"

def route (title : String) (store : E.State) (connection : Option E.Connection)
    (method url : String) : Response :=
  let path := url.toList.takeWhile (· != '?')
  if method = "OPTIONS" then ⟨204, none⟩
  else if method = "GET" then get title store connection path
  else if isHome path || (tableSegment? path).isSome then .methodNotAllowed
  else .notFound

end Service

structure Request where
  method : String
  url : String
deriving DecidableEq, Repr

namespace Request

def isComplete : List Char → Bool
  | '\r' :: '\n' :: '\r' :: '\n' :: _ => true
  | _ :: rest => isComplete rest
  | [] => false

def ofHead? (head : List Char) : Option Request :=
  match Text.splitOn ' ' (head.takeWhile (· != '\r')) with
  | [method, url, _] => some ⟨String.ofList method, String.ofList url⟩
  | _ => none

end Request

namespace Response

def reason (r : Response) : String :=
  match r.status with
  | 200 => "OK"
  | 204 => "No Content"
  | 400 => "Bad Request"
  | 404 => "Not Found"
  | 405 => "Method Not Allowed"
  | 503 => "Service Unavailable"
  | _ => "Unknown"

def malformed : Response := ⟨400, none⟩

def wireText (r : Response) (method : String) : String :=
  let body := r.text method
  let fields := headers ++ [("content-length", s!"{body.utf8ByteSize}"), ("connection", "close")]
  s!"HTTP/1.1 {r.status} " ++ r.reason ++ "\r\n" ++
    String.join (fields.map fun (name, value) => name ++ ": " ++ value ++ "\r\n") ++ "\r\n" ++ body

end Response

end TableScript
