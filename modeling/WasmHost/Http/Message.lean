import WasmHost.Document.Basic
import WasmHost.Http.ApiError
import WasmHost.Text.Blank

/-! Requests and the responses to them. -/

namespace WasmHost.Http

/-- The value of a header: any bytes. -/
structure HeaderValue where
  /-- The bytes. -/
  bytes : List UInt8
deriving DecidableEq, Repr, Inhabited

namespace HeaderValue

/-- A text as a value. -/
def ofText (text : String) : HeaderValue := ⟨text.toUTF8.data.toList⟩

instance : Coe String HeaderValue := ⟨ofText⟩

/-- The text that a value is, if all of its bytes are printable. -/
def text? (value : HeaderValue) : Option String :=
  if value.bytes.all fun b => b = 0x09 || (0x20 ≤ b && b < 0x7F) then
    some (String.ofList (value.bytes.map fun b => Char.ofNat b.toNat))
  else none

end HeaderValue

/-- A request. -/
structure Request where
  /-- What is wanted of the resource. -/
  method : String
  /-- The address of the resource, as it is written. -/
  target : String
  /-- The headers in order. -/
  headers : List (String × HeaderValue)
  /-- The body. -/
  body : ByteArray
deriving Inhabited

namespace Request

/-- The first header of a name; the case of names does not matter. -/
def header? (r : Request) (name : String) : Option HeaderValue :=
  (r.headers.find? fun header => lowerAscii header.1 = lowerAscii name).map (·.2)

/-- An address without the name of a server. -/
def localPart (target : String) : String :=
  if target.startsWith "/" then target
  else
    match target.splitOn "://" with
    | _ :: rest@(_ :: _) =>
      let place := (String.intercalate "://" rest).toList.dropWhile (· ≠ '/')
      if place.isEmpty then "/" else String.ofList place
    | _ => target

/-- The path that a request asks for, without any query. -/
def path (r : Request) : String :=
  String.ofList ((localPart r.target).toList.takeWhile fun c => c ≠ '?' ∧ c ≠ '#')

end Request

/-- What a response carries. -/
inductive Body where
  /-- Nothing. -/
  | empty
  /-- A plain text. -/
  | text (text : String)
  /-- A document. -/
  | document (document : Document)
deriving Inhabited

/-- A response. -/
structure Response where
  /-- The status. -/
  status : Nat
  /-- The headers. -/
  headers : List (String × String)
  /-- The body. -/
  body : Body
deriving Inhabited

namespace Response

/-- A response without a body. -/
def empty (status : Nat) : Response := ⟨status, [], .empty⟩

/-- A response with a plain text. -/
def text (status : Nat) (text : String) : Response :=
  ⟨status, [("content-type", "text/plain; charset=utf-8")], .text text⟩

/-- A response with a document. -/
def document (status : Nat) (document : Document) : Response :=
  ⟨status, [("content-type", "application/json")], .document document⟩

/-- The response to an error. -/
def ofError (e : ApiError) : Response :=
  document e.status (.record [("error", .text e.message), ("type", .text e.kind)])

/-- A response with one more header. -/
def withHeader (r : Response) (name value : String) : Response :=
  { r with headers := r.headers ++ [(name, value)] }

/-- A response whose body is left out. -/
def withoutBody (r : Response) : Response := { r with body := .empty }

end Response

end WasmHost.Http
