import WasmHost.Proofs.Registry.Footprint

/-! Requests: everything that clients ask of a registry, as data. -/

namespace WasmHost.Registry

/-- What a client can ask of a registry. Files are the ones that stand on disk when they are read. -/
inductive Request where
  /-- To make a context, with a given strategy or the one that is chosen for it. -/
  | make (m : HostedModule) (strategy : Option Strategy)
  /-- To register a context. -/
  | add (c : Context)
  /-- To register a context in place of another one. -/
  | replace (c : Context)
  /-- To remove the context of a name. -/
  | remove (name : String)
  /-- To register all declared modules. -/
  | init (files : Files) (entries : List Entry)
  /-- To register an uploaded payload. -/
  | upload (name : String) (bytes : ByteArray) (mode : Option ExecutionMode)
  /-- To load a module anew if its file changed. -/
  | reload (files : Files) (name : String)
  /-- To give the handle of a context. -/
  | resolve (files : Files) (c : Context)
  /-- To call an export on a handle. -/
  | call (h : Handle) (exported : String) (arguments : List Value)
  /-- To register an artifact. -/
  | addArtifact (name : String) (artifact : Artifact)
  /-- To remove an artifact. -/
  | removeArtifact (name : String)

/-- What a client gets. -/
inductive Answer where
  /-- That it is done. -/
  | done
  /-- A context: the new one, or the replaced one. -/
  | context (c : Context)
  /-- The context that was removed, if there was one. -/
  | removed (c : Option Context)
  /-- What became of the declared modules. -/
  | report (r : Report)
  /-- Whether anything changed. -/
  | changed (whether : Bool)
  /-- A handle. -/
  | handle (h : Handle)
  /-- What a call gave. -/
  | outcome (o : Outcome)

namespace Request

/-- The operation that serves a request. -/
def perform : Request → Operation Answer
  | .make m none => .context <$> createContext m
  | .make m (some strategy) => .context <$> contextOf m strategy
  | .add c => (fun _ => .done) <$> Registry.add c
  | .replace c => .context <$> Registry.replace c
  | .remove name => .removed <$> Registry.remove name
  | .init files entries => .report <$> Registry.init files entries
  | .upload name bytes mode => .context <$> registerDynamic name bytes mode
  | .reload files name => .changed <$> refresh files name
  | .resolve files c => .handle <$> Registry.resolve files c
  | .call h exported arguments => .outcome <$> callHandle h exported arguments
  | .addArtifact name artifact => (fun _ => .done) <$> Registry.addArtifact name artifact
  | .removeArtifact name => .changed <$> Registry.removeArtifact name

/-- Clients only hold contexts that were made. -/
def Known (r : Registry) : Request → Prop
  | .add c | .replace c | .resolve _ c => c ∈ r.made
  | _ => True

/-- What was made stays known. -/
theorem Known.grows {q : Request} {r after : Registry} (known : q.Known r) (grows : Grows r after) :
    q.Known after := by
  -- Contexts are never forgotten.
  cases q with
  | add c | replace c | resolve files c => exact grows.made.subset known
  | _ => trivial

end Request

end WasmHost.Registry
