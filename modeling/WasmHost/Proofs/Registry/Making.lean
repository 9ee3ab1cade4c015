import WasmHost.Proofs.Handle
import WasmHost.Proofs.Payload
import WasmHost.Proofs.Registry.Operation

/-! Making contexts: what modules, and then contexts, come of declarations and uploads. -/

namespace WasmHost

namespace HostedModule

/-- Checking the functions does not change the module. -/
theorem eq_of_checkInterpreted {m checked : HostedModule} (passed : m.checkInterpreted = .ok checked) :
    checked = m := by
  -- If the check passes, with or without functions to look for, it gives back what it was given.
  unfold checkInterpreted at passed
  split at passed
  · cases passed
    rfl
  · split at passed <;> cases passed
    rfl

/-- A dynamic module with a payload can be made exactly if the payload has all functions that must be interpreted. -/
theorem ofDynamic_eq_ok_iff {name : String} {payload : Payload} {intent : Intent} {m : HostedModule} :
    ofDynamic name (some payload) intent = .ok m ↔
      intent.interpreted.find? (payload.functionCount ≤ ·) = none ∧
        m = ⟨name, .dynamic, some payload, none, intent⟩ := by
  simp only [ofDynamic, checkInterpreted]
  -- A function that does not exist is the only reason to refuse the module.
  split
  · rename_i index found
    simp [found]
  · rename_i complete
    simp [complete, eq_comm]

end HostedModule

/-- A declared module has the declared name, and a payload if it is static. -/
theorem Resources.moduleOfEntry_eq_ok {resources : Resources} {files : Files} {entry : Entry} {m : HostedModule}
    (made : resources.moduleOfEntry files entry = .ok m) :
    m.name = entry.name ∧ (m.origin = .static → m.payload.isSome) := by
  -- Neither the bytes nor the payload can have failed.
  obtain ⟨origin, _, made⟩ := bind_eq_ok made
  obtain ⟨payload, _, made⟩ := bind_eq_ok made
  split at made
  -- The declaration decides which constructor is used.
  · rw [HostedModule.eq_of_checkInterpreted made]
    exact ⟨rfl, fun _ => rfl⟩
  · cases made
  · rw [HostedModule.eq_of_checkInterpreted made]
    exact ⟨rfl, nofun⟩

/-- A valid resource that is embedded becomes a static module. -/
theorem Resources.moduleOfEntry_resource {resources : Resources} {resource : String} {bytes : ByteArray}
    {code : Wasm.Module} (embedded : resources.embedded.lookup resource = some bytes)
    (small : bytes.size ≤ maxPayload) (parsed : Wasm.Module.parse .all bytes = .ok code) (files : Files)
    (name : String) (fallback : Fallback) (artifact : Option Path) :
    resources.moduleOfEntry files
        { Entry.ofResource name resource with fallback := fallback, artifact := artifact } =
      .ok ⟨name, .static, some ⟨bytes, code, parsed⟩, some (.resource resource), ⟨none, fallback, []⟩⟩ := by
  -- The resource is found, is small enough and is valid, in this order.
  have sized : checkSize resource bytes.size = .ok () := if_neg (Nat.not_lt.mpr small)
  have loaded : resources.load files (.resource resource) = .ok bytes := by
    simp only [load, get, embedded, sized, bind, Except.bind]
    rfl
  have parses := Payload.parse_of_code parsed name
  simp [moduleOfEntry, Entry.ofResource, Entry.named, Entry.origin, Entry.source?, loaded, parses, bind,
    Except.bind, Functor.map, Except.map]
  rfl

namespace Registry

/-- A context gets the next number, and the strategy that is selected for its module. -/
theorem contextWith_on (artifacts : Artifacts) (m : HostedModule) (r : Registry) :
    (contextWith artifacts m).on r =
      match Strategy.select r.deployment (artifacts.contains m.name) m.name m.origin m.intent with
      | (.ok strategy, warnings) =>
        (.ok ⟨r.made.length, m, strategy⟩,
          { r with
            made := ⟨r.made.length, m, strategy⟩ :: r.made
            warnings := warnings.reverse ++ r.warnings })
      | (.error why, warnings) => (.error why, { r with warnings := warnings.reverse ++ r.warnings }) := by
  -- The warnings are noted before the outcome is looked at.
  rcases selected : Strategy.select r.deployment (artifacts.contains m.name) m.name m.origin m.intent with
    ⟨why | strategy, warnings⟩ <;>
    simp [contextWith, contextOf, warn, selected, Except.map]

/-- A new context is made of the very module, with the strategy that is selected for it. -/
theorem contextWith_eq_ok {artifacts : Artifacts} {m : HostedModule} {r after : Registry} {c : Context}
    (made : (contextWith artifacts m).on r = (.ok c, after)) :
    c.id = r.made.length ∧ c.hosted = m ∧ c ∈ after.made ∧
      (Strategy.select r.deployment (artifacts.contains m.name) m.name m.origin m.intent).1 = .ok c.strategy := by
  rw [contextWith_on] at made
  -- Without a strategy there is no context.
  split at made
  · rename_i strategy warnings selected
    cases made
    exact ⟨rfl, rfl, List.mem_cons_self, congrArg Prod.fst selected⟩
  · cases made

theorem createContext_on (m : HostedModule) (r : Registry) :
    (createContext m).on r = (contextWith r.artifacts m).on r := by
  simp only [createContext, Operation.on_bind, Operation.on_get]

/-- The context of an upload is made of its bytes, which have been checked. -/
theorem contextOfUpload_eq_ok {name : String} {bytes : ByteArray} {intent : Intent} {r after : Registry} {c : Context}
    (made : (contextOfUpload name bytes intent).on r = (.ok c, after)) :
    ∃ payload, checkSize name bytes.size = .ok () ∧ Payload.parse name bytes = .ok payload ∧
      HostedModule.ofDynamic name (some payload) intent = .ok c.hosted ∧ c ∈ after.made := by
  -- Each check must have been passed.
  obtain ⟨_, _, sized, made⟩ := Operation.on_bind_eq_ok made
  obtain ⟨payload, _, parsed, made⟩ := Operation.on_bind_eq_ok made
  obtain ⟨m, _, checked, made⟩ := Operation.on_bind_eq_ok made
  simp only [Operation.on_lift, Prod.mk.injEq] at sized parsed checked
  rw [createContext_on] at made
  obtain ⟨_, rfl, new, _⟩ := contextWith_eq_ok made
  exact ⟨payload, sized.1, parsed.1, checked.1, new⟩

/-- The context of an upload has its name. -/
theorem contextOfUpload_name (name : String) (bytes : ByteArray) (intent : Intent) :
    (contextOfUpload name bytes intent).Yields fun c => c.name = name := by
  intro r c after made
  obtain ⟨payload, _, _, checked, _⟩ := contextOfUpload_eq_ok made
  rw [Context.name, HostedModule.eq_of_checkInterpreted checked]

/-- A module that is loaded anew is made of what its file holds now; all else is as it was. -/
theorem reread_eq_some {files : Files} {name : String} {r after : Registry} {m : HostedModule}
    (found : (reread files name).on r = (.ok (some m), after)) :
    after = r ∧ r.deployment.isDev ∧ ∃ c path bytes payload, r.get? name = some c ∧ c.hosted.source = some (.file path) ∧
      readModuleFile files path = .ok bytes ∧ Payload.parse name bytes = .ok payload ∧
      HostedModule.ofStatic name payload c.hosted.source c.hosted.intent = .ok m := by
  obtain ⟨_, _, ⟨⟩, found⟩ := Operation.on_bind_eq_ok found
  -- The deployment, the name and the source decide whether a file is read.
  split at found
  · cases found
  rename_i dev
  split at found
  · cases found
  rename_i c registered
  split at found
  · rename_i path source
    obtain ⟨bytes, _, read, found⟩ := Operation.on_bind_eq_ok found
    split at found
    · cases found
    obtain ⟨payload, _, parsed, found⟩ := Operation.on_bind_eq_ok found
    simp only [Operation.on_lift, Prod.mk.injEq] at read parsed
    obtain ⟨read, rfl⟩ := read
    obtain ⟨parsed, rfl⟩ := parsed
    obtain ⟨made, checked, same⟩ := Operation.on_map_eq_ok found
    cases same
    simp only [Operation.on_lift, Prod.mk.injEq] at checked
    obtain ⟨checked, rfl⟩ := checked
    exact ⟨rfl, by simpa using dev, c, path, bytes, payload, registered, source, read, parsed, checked⟩
  · cases found

/-- Nothing is loaded anew outside of development. -/
theorem refresh_of_built {r : Registry} (built : r.deployment ≠ .dev) (files : Files) (name : String) :
    (refresh files name).on r = (.ok false, r) := by
  have still : !r.deployment.isDev := by simpa [Deployment.isDev] using built
  rw [refresh, reread, Operation.on_bind, Operation.on_bind, Operation.on_get]
  simp only [still, if_true, Operation.on_pure]

/-- What has no file is not loaded anew. -/
theorem refresh_of_fileless {r : Registry} {name : String}
    (fileless : ∀ c path, r.get? name = some c → c.hosted.source ≠ some (.file path)) (files : Files) :
    (refresh files name).on r = (.ok false, r) := by
  by_cases built : !r.deployment.isDev
  · exact refresh_of_built (by simpa [Deployment.isDev] using built) files name
  · rw [refresh, reread, Operation.on_bind, Operation.on_bind, Operation.on_get]
    simp only [built]
    cases found : r.get? name with
    | none => rfl
    | some c =>
      -- A file would have been read.
      cases source : c.hosted.source with
      | none => simp only [source]; rfl
      | some place =>
        cases place with
        | file path => exact absurd source (fileless c path found)
        | resource resource => simp only [source]; rfl

end Registry

end WasmHost
