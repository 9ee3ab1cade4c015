import WasmHost.Error

/-! Errors as answers to requests: a status, a kind and a sentence. -/

namespace WasmHost.Http

/-- An error as it is answered. -/
structure ApiError where
  /-- The status of the answer. -/
  status : Nat
  /-- The kind of error. -/
  kind : String
  /-- The sentence that reports it. -/
  message : String
deriving DecidableEq, Repr, Inhabited

namespace ApiError

/-- The request itself is wrong. -/
def badRequest (message : String) : ApiError := ⟨400, "bad_request", message⟩

/-- Whoever asks has not shown the right token. -/
def unauthorized (message : String) : ApiError := ⟨401, "unauthorized", message⟩

/-- The status and the kind of an error. -/
def classify : HostError → Nat × String
  | .moduleNotFound _ => (404, "module_not_found")
  | .exportNotFound .. => (404, "export_not_found")
  | .invalidArgument _ => (400, "invalid_argument")
  | .parseFailed .. => (400, "parse_failed")
  | .missingPayload _ => (409, "missing_payload")
  | .invalidConfig _ => (409, "invalid_config")
  | .fuelExhausted => (429, "fuel_exhausted")
  | .unusable .. => (503, "unusable")
  | .trap _ => (500, "trap")
  | .missingArtifact _ | .compilationFailed _ | .instantiationFailed _ | .io _ => (500, "internal")

/-- The answer to an error. -/
def ofHostError (e : HostError) : ApiError := ⟨(classify e).1, (classify e).2, e.message⟩

end ApiError

end WasmHost.Http
