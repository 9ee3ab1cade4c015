import WasmHost.Registry.Basic

/-! What the registry loads: all declared modules at once, uploads, and files that changed. Every
operation consists of steps that do not interfere with other operations, one after the other. -/

namespace WasmHost.Registry

/-- What became of the declared modules. -/
structure Report where
  /-- The registered ones in order. -/
  loaded : List String
  /-- The ones whose payloads are not valid, in order. -/
  rejected : List (String × HostError)

/-- Whether every declared module is registered. -/
def Report.isClean (r : Report) : Bool := r.rejected.isEmpty

/-- Declared modules that are ready to take the place of all contexts. -/
structure Staged where
  /-- The declared artifacts. -/
  artifacts : List (String × Path)
  /-- The contexts. -/
  catalog : Catalog
  /-- What became of the declarations. -/
  report : Report

/-- Adds one declared module to what is ready. Only an invalid payload does not stop the others. -/
def stageEntry (files : Files) (artifacts : Artifacts) (staged : Staged) (entry : Entry) : Operation Staged := do
  match (← get).resources.moduleOfEntry files entry with
  | .ok m =>
    let context ← contextWith artifacts m
    return { staged with
      catalog := staged.catalog.insert context
      report.loaded := staged.report.loaded ++ [entry.name] }
  | .error (.parseFailed name why) =>
    return { staged with report.rejected := staged.report.rejected ++ [(entry.name, .parseFailed name why)] }
  | .error why => throw why

/-- The first step: loads the declared modules and chooses their strategies as if their artifacts were
registered. -/
def stage (files : Files) (entries : List Entry) : Operation Staged := do
  let declared := entries.filterMap fun entry => entry.artifact.map fun path => (entry.name, path)
  let artifacts := (← get).artifacts.insertFiles declared
  entries.foldlM (stageEntry files artifacts) ⟨declared, .empty, ⟨[], []⟩⟩

/-- The second step: registers the declared artifacts, and removes the ones that were declared before
and are no longer. -/
def publish (declared : List (String × Path)) : Operation Unit :=
  modify fun r =>
    let names := (declared.map (·.1)).eraseDups
    let retired := r.configured.filter fun name => !names.contains name
    { r with
      artifacts := (retired.foldl Artifacts.erase r.artifacts).insertFiles declared
      configured := names }

/-- Registers all declared modules in place of all contexts. -/
def init (files : Files) (entries : List Entry) : Operation Report := do
  let staged ← stage files entries
  publish staged.artifacts
  -- The third step swaps the catalog as a whole.
  updateCatalog fun _ => staged.catalog
  return staged.report

/-- The first step of an upload: the intent of the context that it will replace. -/
def inheritedIntent (name : String) : Operation Intent := do
  match (← get).get? name with
  | none => return .standard
  | some existing =>
    if existing.origin = .static then throw (.invalidConfig (.staticConflict name))
    return existing.hosted.intent

/-- Makes the context of an upload. -/
def contextOfUpload (name : String) (bytes : ByteArray) (intent : Intent) : Operation Context := do
  lift (checkSize name bytes.size)
  let payload ← lift (Payload.parse name bytes)
  let m ← lift (HostedModule.ofDynamic name (some payload) intent)
  createContext m

/-- The last step of an upload: a static module may have come in between. -/
def insertUpload (context : Context) : Operation Unit := do
  match (← get).get? context.name with
  | none => updateCatalog (·.insert context)
  | some existing =>
    if existing.origin = .static then throw (.invalidConfig (.staticConflict context.name))
    updateCatalog (·.insert context)

/-- Registers an uploaded payload as a dynamic module. It inherits what was declared for its name, except
for a mode that is wanted now. -/
def registerDynamic (name : String) (bytes : ByteArray) (mode : Option ExecutionMode) : Operation Context := do
  let inherited ← inheritedIntent name
  let context ← contextOfUpload name bytes { inherited with mode := mode.or inherited.mode }
  insertUpload context
  return context

/-- The first step of a reload: the module as its file holds it now, if it is another one. Only
development reloads, and only static modules have files. -/
def reread (files : Files) (name : String) : Operation (Option HostedModule) := do
  let r ← get
  if !r.deployment.isDev then return none
  match r.get? name with
  | none => return none
  | some current =>
    match current.hosted.source with
    | some (.file path) =>
      let bytes ← lift (readModuleFile files path)
      if current.hosted.payload.any (·.hash = contentHash bytes) then return none
      let payload ← lift (Payload.parse name bytes)
      some <$> lift (HostedModule.ofStatic name payload current.hosted.source current.hosted.intent)
    | _ => return none

/-- Reloads a module whose file changed; tells whether it did. -/
def refresh (files : Files) (name : String) : Operation Bool := do
  match ← reread files name with
  | none => return false
  | some m =>
    let context ← createContext m
    warn [.reloading]
    add context
    return true

end WasmHost.Registry
