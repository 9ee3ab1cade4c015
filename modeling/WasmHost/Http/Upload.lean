import WasmHost.Error
import WasmHost.Http.Multipart
import WasmHost.Text.Marked

/-! Uploads: modules that come as the parts of a form. -/

namespace WasmHost.Http

/-- A module as it was sent. -/
structure Upload where
  /-- The name that it shall have. -/
  name : String
  /-- The payload. -/
  bytes : ByteArray
  /-- The mode that is wanted for it. -/
  mode : Option ExecutionMode

/-- What a part tells of an upload. -/
inductive PartRole where
  /-- The name. -/
  | name
  /-- The mode. -/
  | mode
  /-- The payload. -/
  | payload
  /-- Nothing. -/
  | other
deriving DecidableEq, Repr, Inhabited

/-- What the part with a field's name tells. -/
def PartRole.ofName (name : String) : PartRole :=
  if ["name", "id", "module_id"].contains name then .name
  else if ["execution-mode", "execution_mode"].contains name then .mode
  else if ["module", "file", "wasm"].contains name then .payload
  else .other

/-- What a part tells of an upload. -/
def PartHead.role (head : PartHead) : PartRole := .ofName (head.name.getD "")

/-- Why a form is no upload. -/
inductive UploadFault where
  /-- It has not the form of parts. -/
  | body
  /-- It ends in the contents of a part that tells something. -/
  | unfinished (role : PartRole)
  /-- The mode is unknown. -/
  | mode (why : HostError)
  /-- There is no name. -/
  | noName
  /-- There is no payload. -/
  | noPayload
deriving Repr, Inhabited

/-- The sentence that reports a form that is no upload. -/
def UploadFault.message : UploadFault → String
  | .unfinished .name => "Invalid name field: " ++ incomplete
  | .unfinished .mode => "Invalid execution mode field: " ++ incomplete
  | .unfinished .payload => "Failed to read module: " ++ incomplete
  | .body | .unfinished .other => "Invalid multipart body: incomplete multipart stream"
  | .mode why => why.message
  | .noName => "Missing module name"
  | .noPayload => "Missing module payload"
where
  /-- The reason why a part is unfinished. -/
  incomplete : String := "field received with incomplete data"

/-- What is known of an upload after some of its parts. -/
structure Draft where
  /-- The name. -/
  name : Option String
  /-- The payload. -/
  bytes : Option ByteArray
  /-- The mode. -/
  mode : Option ExecutionMode

namespace Draft

/-- What is known at the start. -/
def empty : Draft := ⟨none, none, none⟩

/-- What is known after one more part. A later part overrides an earlier one, but the name of a file counts
only as long as there is no name. -/
def add (draft : Draft) (part : Part) : Except UploadFault Draft :=
  match part.head.role with
  | .name => return { draft with name := some (Marked.text part.content) }
  | .mode =>
    match ExecutionMode.parse (Marked.text part.content) with
    | .ok mode => return { draft with mode := some mode }
    | .error why => throw (.mode why)
  | .payload =>
    return { draft with
      name := draft.name.or (part.head.fileName.bind Path.fileStem?)
      bytes := some part.content }
  | .other => return draft

/-- The upload, if enough of it is known. -/
def finish (draft : Draft) : Except UploadFault Upload :=
  match draft.bytes, draft.name with
  | none, _ => throw .noPayload
  | some bytes, some name => if name = "" then throw .noName else return ⟨name, bytes, draft.mode⟩
  | some _, none => throw .noName

end Draft

namespace Upload

/-- The largest body of an upload: a payload, and some room around it. -/
def maxBody : Nat := maxPayload + 64 * 1024

/-- The upload that some parts tell. -/
def ofParts (parts : List Part) (ending : Ending) : Except UploadFault Upload := do
  let draft ← parts.foldlM Draft.add .empty
  match ending with
  | .closed => draft.finish
  | .broken => throw .body
  | .cut head => throw (.unfinished head.role)

/-- The upload in a body. -/
def ofBody (boundary : String) (body : ByteArray) : Except UploadFault Upload := do
  if maxBody < body.size then throw .body
  let (parts, ending) := Multipart.parts boundary body
  ofParts parts ending

end Upload

end WasmHost.Http
