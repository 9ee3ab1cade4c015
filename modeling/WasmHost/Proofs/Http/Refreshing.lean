import WasmHost.Proofs.Http.Answering
import WasmHost.Proofs.Http.Serving
import WasmHost.Proofs.Registry.Declarations
import WasmHost.Proofs.Registry.Reloading
import WasmHost.Proofs.WellFormed

/-! Refreshing: what becomes of a module that is called while its file may have changed. -/

namespace WasmHost

open Registry (Host create)
open Registry.Host (annotated annotatedFile filed exists_code_of_annotated read_annotatedFile)

/-! ### Modules as they are constructed -/

/-- The same bytes are the same payload. -/
theorem Payload.eq_of_bytes_eq {p q : Payload} (same : p.bytes = q.bytes) : p = q := by
  obtain ⟨bytes, code, parsed⟩ := p
  obtain ⟨_, other, parsed'⟩ := q
  obtain rfl := same
  -- They are not read in two ways.
  cases parsed.symm.trans parsed'
  rfl

namespace HostedModule

/-- A module that was made by one of its constructors. -/
inductive Constructed (m : HostedModule) : Prop where
  | static {name : String} {payload : Payload} {source : Option Source} {intent : Intent}
      (made : ofStatic name payload source intent = .ok m)
  | dynamic {name : String} {payload : Option Payload} {intent : Intent}
      (made : ofDynamic name payload intent = .ok m)

/-- The constructors only let functions be interpreted that exist. -/
theorem ofStatic_cases (name : String) (p : Payload) (source : Option Source) (intent : Intent) :
    (∀ index ∈ intent.interpreted, index < p.functionCount) ∧
        ofStatic name p source intent = .ok ⟨name, .static, some p, source, intent⟩ ∨
      (¬ ∀ index ∈ intent.interpreted, index < p.functionCount) ∧ ∃ why, ofStatic name p source intent = .error why := by
  simp only [ofStatic, checkInterpreted]
  -- The first function that does not exist is what the constructor complains about.
  cases beyond : intent.interpreted.find? (p.functionCount ≤ ·) with
  | none =>
    refine .inl ⟨fun index member => ?_, rfl⟩
    simpa using List.find?_eq_none.mp beyond index member
  | some index =>
    refine .inr ⟨fun complete => ?_, _, rfl⟩
    have large : p.functionCount ≤ index := by simpa using List.find?_some beyond
    exact absurd (complete index (List.mem_of_find?_eq_some beyond)) (Nat.not_lt.mpr large)

namespace Constructed

variable {m : HostedModule}

/-- Only a static module has a source. -/
theorem static_of_source (constructed : m.Constructed) {source : Source} (sourced : m.source = some source) :
    m.origin = .static := by
  cases constructed with
  | static made => rw [eq_of_checkInterpreted made]
  | dynamic made =>
    rw [eq_of_checkInterpreted made] at sourced
    cases sourced

/-- A static module has a payload, with all functions that must be interpreted. -/
theorem exists_payload (constructed : m.Constructed) (static : m.origin = .static) :
    ∃ p, m.payload = some p ∧ ∀ index ∈ m.intent.interpreted, index < p.functionCount := by
  -- A static module was made from a payload, and a dynamic one is not static.
  cases constructed with
  | @static _ p _ _ made =>
    obtain rfl := eq_of_checkInterpreted made
    exact ⟨p, rfl, lt_of_checkInterpreted made rfl⟩
  | dynamic made =>
    rw [eq_of_checkInterpreted made] at static
    cases static

end Constructed

end HostedModule

theorem Resources.constructed_of_moduleOfEntry {resources : Resources} {files : Files} {entry : Entry} {m : HostedModule}
    (made : resources.moduleOfEntry files entry = .ok m) : m.Constructed := by
  obtain ⟨origin, _, made⟩ := bind_eq_ok made
  obtain ⟨payload, _, made⟩ := bind_eq_ok made
  split at made
  · exact .static made
  · cases made
  · exact .dynamic made

/-! ### A refresh by itself -/

namespace Registry

/-- A file holds a payload that can take the place of the one that a module has. -/
structure Replaces (files : Files) (path : Path) (intent : Intent) (p : Payload) : Prop where
  /-- The payload is what the file holds. -/
  read : files.read path = .ok p.bytes
  /-- It is small enough. -/
  small : p.bytes.size ≤ maxPayload
  /-- It has the functions that must be interpreted. -/
  complete : ∀ index ∈ intent.interpreted, index < p.functionCount

/-- What a file holds is told from the payload of a module by the digits by which contents are recognised. -/
def Separates (files : Files) (path : Path) (m : HostedModule) : Prop :=
  ∀ bytes p, files.read path = .ok bytes → m.payload = some p → p.hash = contentHash bytes → p.bytes = bytes

/-- The module in a file, if it is another one than before. -/
def renewal (files : Files) (name : String) (path : Path) (m : HostedModule) : Except HostError (Option HostedModule) := do
  let bytes ← readModuleFile files path
  if m.payload.any (·.hash = contentHash bytes) then return none
  let p ← Payload.parse name bytes
  some <$> HostedModule.ofStatic name p m.source m.intent

variable {files : Files} {name : String} {path : Path} {r : Registry} {c : Context} {m : HostedModule}

/-- A small file is read, and one that cannot be read or is too large is not. -/
theorem readModuleFile_of_small {bytes : ByteArray} (read : files.read path = .ok bytes) (small : bytes.size ≤ maxPayload) :
    readModuleFile files path = .ok bytes := by
  have loads := Resources.loads_of_readModuleFile files path
  rw [read] at loads
  rcases loads with ⟨_, loaded⟩ | ⟨large, _⟩
  · exact loaded
  · omega

theorem read_of_readModuleFile {bytes : ByteArray} (loaded : readModuleFile files path = .ok bytes) :
    files.read path = .ok bytes ∧ bytes.size ≤ maxPayload := by
  have loads := Resources.loads_of_readModuleFile files path
  -- A file that cannot be read, or is too large, is not loaded.
  cases read : files.read path with
  | error why =>
    rw [read] at loads
    obtain ⟨why, failed, _⟩ := loads
    cases failed.symm.trans loaded
  | ok held =>
    rw [read] at loads
    rcases loads with ⟨small, same⟩ | ⟨_, _, failed⟩
    · cases same.symm.trans loaded
      exact ⟨rfl, small⟩
    · cases failed.symm.trans loaded

/-- A payload that is found once more is not renewed. -/
theorem renewal_of_same {p : Payload} (payload : m.payload = some p) (replaces : Replaces files path m.intent p)
    (name : String) : renewal files name path m = .ok none := by
  have known : m.payload.any (·.hash = contentHash p.bytes) = true := by
    rw [payload, Option.any_some, decide_eq_true_iff]
    rfl
  simp only [renewal, readModuleFile_of_small replaces.read replaces.small, known, bind, Except.bind, if_true]
  rfl

/-- Another payload that can take the place of the old one does so. -/
theorem renewal_of_other {old p : Payload} (payload : m.payload = some old) (separates : Separates files path m)
    (replaces : Replaces files path m.intent p) (other : old.bytes ≠ p.bytes) (name : String) :
    renewal files name path m = .ok (some ⟨name, .static, some p, m.source, m.intent⟩) := by
  -- The digits differ because they separate the contents.
  have unknown : m.payload.any (·.hash = contentHash p.bytes) = false := by
    rw [payload, Option.any_some, decide_eq_false_iff_not]
    exact fun same => other (separates _ _ replaces.read payload same)
  have checked := (HostedModule.ofStatic_cases name p m.source m.intent).resolve_right fun bad => bad.1 replaces.complete
  simp only [renewal, readModuleFile_of_small replaces.read replaces.small, unknown, bind, Except.bind,
    Payload.parse_of_code p.parsed, checked.2, Bool.false_eq_true, if_false]
  rfl

/-- Without such a payload, there is only an error. -/
theorem renewal_of_not_replaces {old : Payload} (payload : m.payload = some old) (separates : Separates files path m)
    (complete : ∀ index ∈ m.intent.interpreted, index < old.functionCount)
    (broken : ∀ p, ¬ Replaces files path m.intent p) (name : String) : ∃ why, renewal files name path m = .error why := by
  unfold renewal
  cases loaded : readModuleFile files path with
  | error why => exact ⟨why, rfl⟩
  | ok bytes =>
    obtain ⟨read, small⟩ := read_of_readModuleFile loaded
    have other : m.payload.any (·.hash = contentHash bytes) = false := by
      rw [payload, Option.any_some, decide_eq_false_iff_not]
      -- The old payload would do.
      intro same
      obtain rfl := separates _ _ read payload same
      exact broken old ⟨read, small, complete⟩
    simp only [bind, Except.bind, other, Bool.false_eq_true, if_false]
    cases parsed : Payload.parse name bytes with
    | error why => exact ⟨why, rfl⟩
    | ok p =>
      obtain rfl := Payload.bytes_of_parse parsed
      have failed := (HostedModule.ofStatic_cases name p m.source m.intent).resolve_left fun good =>
        broken p ⟨read, small, good.1⟩
      obtain ⟨_, why, failed⟩ := failed
      exact ⟨why, by simp only [failed]; rfl⟩

/-- In development, the first step of a reload reads the file of a module. -/
theorem reread_of_file (dev : r.deployment = .dev) (registered : r.get? name = some c)
    (source : c.hosted.source = some (.file path)) (files : Files) :
    (reread files name).on r = (renewal files name path c.hosted, r) := by
  have looks : (!r.deployment.isDev) = false := by simp [dev, Deployment.isDev]
  rw [reread, Operation.on_bind, Operation.on_get]
  simp only [looks, Bool.false_eq_true, if_false, registered, source]
  rw [Operation.on_bind, Operation.on_lift]
  cases loaded : readModuleFile files path with
  | error why =>
    simp only [renewal, loaded]
    rfl
  | ok bytes =>
    have rest : renewal files name path c.hosted =
        if c.hosted.payload.any (·.hash = contentHash bytes) then .ok none
        else (Payload.parse name bytes).bind fun p =>
          some <$> HostedModule.ofStatic name p c.hosted.source c.hosted.intent := by
      simp only [renewal, loaded]
      rfl
    rw [rest, source]
    -- A file with other bytes is checked as a module.
    by_cases same : c.hosted.payload.any (·.hash = contentHash bytes)
    · simp only [if_pos same, Operation.on_pure]
    · simp only [if_neg same, Operation.on_bind, Operation.on_lift, Operation.on_map]
      cases Payload.parse name bytes <;> rfl

/-- For development, every static module is compiled or interpreted as it is. -/
theorem exists_selected (name : String) (intent : Intent) :
    ∃ strategy, ∀ hasArtifact, (Strategy.select .dev hasArtifact name .static intent).1 = .ok strategy := by
  have other : ¬ Strategy.Prebuilt .dev .static intent := fun prebuilt => by simpa [Deployment.isDev] using prebuilt.2.2.1
  obtain ⟨strategy, _, selected⟩ := Strategy.select_of_not_prebuilt other name
  exact ⟨strategy, selected⟩

/-- A refresh that finds nothing new, or cannot find anything, leaves the registry. -/
theorem refresh_of_renewal_none (read : (reread files name).on r = (.ok none, r)) :
    (refresh files name).on r = (.ok false, r) := by
  simp only [refresh, Operation.on_bind, read, Operation.on_pure]

theorem refresh_of_renewal_error {why : HostError} (read : (reread files name).on r = (.error why, r)) :
    (refresh files name).on r = (.error why, r) := by
  simp only [refresh, Operation.on_bind, read]

/-- A module that is found to be new is registered as a new context. -/
theorem refresh_of_renewal_some (dev : r.deployment = .dev) (read : (reread files name).on r = (.ok (some m), r))
    (static : m.origin = .static) :
    ∃ strategy warnings, (refresh files name).on r = (.ok true,
      { r with
        catalog := r.catalog.insert ⟨r.made.length, m, strategy⟩
        made := ⟨r.made.length, m, strategy⟩ :: r.made
        warnings := warnings }) := by
  -- The strategy may depend on the artifacts, but there always is one.
  obtain ⟨strategy, always⟩ := exists_selected m.name m.intent
  rcases selected : Strategy.select .dev (r.artifacts.contains m.name) m.name .static m.intent with ⟨outcome, warnings⟩
  have chosen := always (r.artifacts.contains m.name)
  rw [selected] at chosen
  cases chosen
  refine ⟨strategy, .reloading :: (warnings.reverse ++ r.warnings), ?_⟩
  simp only [refresh, Operation.on_bind, read, createContext_on, contextWith_on, dev, static, selected]
  rfl

/-- Warnings do not matter to a resolution. -/
theorem resolve_of_warned (files : Files) (c : Context) (r : Registry) (warnings : List Warning) :
    ∃ later, (Registry.resolve files c).on { r with warnings := warnings } =
      (((Registry.resolve files c).on r).1, { ((Registry.resolve files c).on r).2 with warnings := later }) := by
  have same : settled { r with warnings := warnings } c = r.settled c := rfl
  -- Warnings are neither looked up nor part of a handle.
  cases known : r.settled c with
  | some outcome => exact ⟨warnings, by rw [resolve_of_settled known, resolve_of_settled (same.trans known)]⟩
  | none =>
    rw [resolve_of_unsettled known, resolve_of_unsettled (same.trans known), finishBuild_on, finishBuild_on]
    exact ⟨_, rfl⟩

end Registry

/-! ### Calls -/

namespace Http

open Handling Registry

variable {files : Files} {name : String} {c : Context} {r : Registry}

/-- Whoever calls a function of a module gets what a context gives on some registry; apart from warnings, only the
resolution leaves traces. -/
def ServedOn (files : Files) (name : String) (r now : Registry) (c : Context) : Prop :=
  ∀ admin stamp request function arguments, callOf? admin request = some (name, function, arguments) →
    ∃ warnings, (respond admin files stamp request).run r =
      ((told stamp name function
          (callOn now.factory.execution function arguments ((Registry.resolve files c).on now).1)).sentFor request,
        { ((Registry.resolve files c).on now).2 with warnings := warnings })

/-- After a refresh, a call is served by the context that is registered then. -/
theorem servedOn_of_refresh {changed : Bool} {after : Registry} (done : (Registry.refresh files name).on r = (.ok changed, after))
    (found : after.get? name = some c) : ServedOn files name r after c := by
  intro admin stamp request function arguments asked
  -- The refresh comes first, and the call finds what it leaves.
  have reloaded : (reload files name).on r = (.ok (), after) := by
    simp only [reload, Handling.on_bind, on_caught, done]
    rfl
  obtain ⟨warnings, served⟩ := callByName_of_found found files function arguments
  rw [respond_of_reloaded asked reloaded, served]
  exact ⟨warnings, rfl⟩

/-- If the refresh fails, a call is served by the context that was registered before. -/
theorem servedOn_of_failure {why : HostError} (failed : (Registry.refresh files name).on r = (.error why, r))
    (found : r.get? name = some c) : ServedOn files name r r c := by
  intro admin stamp request function arguments asked
  -- The failure is only logged, and the call goes on.
  have reloaded : (reload files name).on r = (.ok (), { r with warnings := .reloadFailed :: r.warnings }) := by
    simp only [reload, Handling.on_bind, on_caught, failed]
    rfl
  have found' : Registry.get? { r with warnings := .reloadFailed :: r.warnings } name = some c := found
  obtain ⟨warnings, served⟩ := callByName_of_found found' files function arguments
  obtain ⟨later, resolved⟩ := resolve_of_warned files c r (.reloadFailed :: r.warnings)
  rw [respond_of_reloaded asked reloaded, served, resolved]
  exact ⟨warnings, rfl⟩

/-! ### Served hosts -/

/-- Modules that clients make are constructed. -/
def Constructs : Registry.Request → Prop
  | .make m _ => m.Constructed
  | .add _ | .replace _ | .remove _ | .init .. | .upload .. | .reload .. | .resolve .. | .call .. | .addArtifact ..
  | .removeArtifact _ => True

theorem constructs_respects : Registry.Respected Constructs fun _ c => c.hosted.Constructed where
  supplied _ constructed := fun _ _ _ _ _ => constructed
  insisted _ _ constructed := fun _ _ => constructed
  declared _ _ _ _ _ _ _ made := fun _ _ _ _ _ => Resources.constructed_of_moduleOfEntry made
  uploaded _ _ _ _ _ _ _ _ _ made := fun _ _ _ _ _ => .dynamic made
  reloaded _ _ _ _ _ _ _ _ _ _ _ made := fun _ _ _ _ _ => .static made

theorem Served.constructed {s : Host} (served : Served Constructs s) :
    Tidy Constructs (fun _ c => c.hosted.Constructed) s := by
  refine served.tidy constructs_respects fun admin files request r q caused => ?_
  -- Nobody makes modules over the network.
  cases q with
  | make => exact caused.elim
  | _ => trivial

/-- What a refresh leaves under a name if the file holds a payload that can take the place of the registered one. -/
structure Renewed (files : Files) (name : String) (path : Path) (p : Payload) (c : Context) (r : Registry) (d : Context)
    (after : Registry) : Prop where
  registered : after.get? name = some d
  /-- It has this payload, and all else is as it was. -/
  renewed : d.hosted = { c.hosted with payload := some p }
  /-- Its place is the one that it had. -/
  names : after.catalog.names = r.catalog.names
  others : ∀ other, other ≠ name → after.get? other = r.get? other
  /-- Apart from contexts, nothing changes. -/
  within : Within .contexts r after
  /-- If the payload is the same, then so is everything else. -/
  kept : c.hosted.payload = some p → d = c ∧ after = r
  /-- If it is another one, then the context is new, and nothing was built for it. -/
  dropped : c.hosted.payload ≠ some p → d ∉ r.made ∧ after.slot d = .empty
  /-- Calls are served by it. -/
  served : ServedOn files name r after d
  /-- While it is registered, another refresh finds nothing new in the same file. -/
  again : ∀ later files', later.deployment = r.deployment → later.get? name = some d →
    files'.read path = files.read path → (Registry.refresh files' name).on later = (.ok false, later)

section Refresh

variable {path : Path} {p old : Payload}

/-- The payload that a file holds is not replaced by itself. -/
theorem refresh_again (dev : r.deployment = .dev) (registered : r.get? name = some c)
    (source : c.hosted.source = some (.file path)) (payload : c.hosted.payload = some p)
    (replaces : Replaces files path c.hosted.intent p) : (Registry.refresh files name).on r = (.ok false, r) := by
  refine refresh_of_renewal_none ?_
  rw [reread_of_file dev registered source files, renewal_of_same payload replaces name]

/-- A file that holds the registered payload changes nothing. -/
theorem renewed_of_same (dev : r.deployment = .dev) (registered : r.get? name = some c)
    (source : c.hosted.source = some (.file path)) (payload : c.hosted.payload = some p)
    (replaces : Replaces files path c.hosted.intent p) :
    (Registry.refresh files name).on r = (.ok false, r) ∧ Renewed files name path p c r c r := by
  -- Nothing is registered, so all that is asked for holds of the same registry.
  have still := refresh_again dev registered source payload replaces
  exact ⟨still, {
    registered
    renewed := by rw [← payload]
    names := rfl
    others := fun _ _ => rfl
    within := refl_of (Within .contexts) r
    kept := fun _ => ⟨rfl, rfl⟩
    dropped := fun other => absurd payload other
    served := servedOn_of_refresh still registered
    again := fun later files' deployment found unchanged => refresh_again (deployment.trans dev) found source payload
      ⟨unchanged.trans replaces.read, replaces.small, replaces.complete⟩ }⟩

/-- A file that holds another payload leads to another context. -/
theorem renewed_of_other (dev : r.deployment = .dev) (tidy : r.Tidy fun _ c => c.hosted.Constructed)
    (registered : r.get? name = some c) (static : c.origin = .static) (source : c.hosted.source = some (.file path))
    (payload : c.hosted.payload = some old) (separates : Separates files path c.hosted)
    (replaces : Replaces files path c.hosted.intent p) (other : old.bytes ≠ p.bytes) :
    ∃ d after, (Registry.refresh files name).on r = (.ok true, after) ∧ Renewed files name path p c r d after := by
  have found := reread_of_file dev registered source files
  rw [renewal_of_other payload separates replaces other name] at found
  obtain ⟨strategy, warnings, done⟩ := refresh_of_renewal_some dev found rfl
  have changed : c.hosted.payload ≠ some p := fun same => other (by rw [Option.some.inj (payload.symm.trans same)])
  have present : r.catalog.contains name := by
    rw [Catalog.contains, Option.isSome_iff_exists]
    exact ⟨c, registered⟩
  let d : Context := ⟨r.made.length, ⟨name, .static, some p, c.hosted.source, c.hosted.intent⟩, strategy⟩
  have here := (r.get?_insert d name).trans (if_pos rfl)
  exact ⟨d, _, done, {
    registered := here
    renewed := by
      have named : c.hosted.name = name := tidy.valid.named name c registered
      have origin : c.hosted.origin = .static := static
      simp only [d, named, origin]
    names := (r.catalog.order_insert d).trans (if_pos present)
    others := fun elsewhere apart => (r.get?_insert d elsewhere).trans (if_neg apart)
    within := ⟨⟨rfl, rfl, rfl, List.suffix_cons _ _, fun numbered => ⟨rfl, numbered⟩⟩, by simp [Scope.contexts],
      fun _ => rfl, fun _ => rfl, fun _ => rfl, fun _ => rfl⟩
    kept := fun same => absurd same changed
    -- The new context has the next identity, so that it is none of the old ones.
    dropped := fun _ => ⟨fun member => Nat.lt_irrefl _ (tidy.numbered.id_lt member),
      by simp only [d, slot, tidy.lookup_next, Option.getD_none]⟩
    served := servedOn_of_refresh done here
    again := fun later files' deployment found unchanged => refresh_again (deployment.trans dev) found source rfl
      ⟨unchanged.trans replaces.read, replaces.small, replaces.complete⟩ }⟩

end Refresh

/-- On a host whose modules are constructed, a refresh changes nothing outside of development, and nothing for modules
that are dynamic or have no file. In development, a file that holds a payload that can be used gives a static module this
payload, which makes a difference exactly if the bytes are others; the same context stays if they are not, and a second
refresh finds nothing new. Any other file makes the refresh fail, and nothing changes: calls are served as before. -/
theorem served_refresh {s : Host} (served : Served Constructs s) (files : Files) (name : String) :
    ((s.registry.deployment ≠ .dev ∨ ∀ c, s.registry.get? name = some c →
        c.origin = .dynamic ∨ ∀ path, c.hosted.source ≠ some (.file path)) →
      (Registry.refresh files name).on s.registry = (.ok false, s.registry)) ∧
    ∀ c path, s.registry.deployment = .dev → s.registry.get? name = some c → c.origin = .static →
      c.hosted.source = some (.file path) → Separates files path c.hosted →
      (∀ p, Replaces files path c.hosted.intent p →
        ∃ changed d after, (Registry.refresh files name).on s.registry = (.ok changed, after) ∧
          (changed = true ↔ c.hosted.payload.map (·.bytes) ≠ some p.bytes) ∧
          Renewed files name path p c s.registry d after) ∧
      ((∀ p, ¬ Replaces files path c.hosted.intent p) →
        (∃ why, (Registry.refresh files name).on s.registry = (.error why, s.registry)) ∧
          ServedOn files name s.registry s.registry c) := by
  have tidy := served.constructed
  have constructed : ∀ c, s.registry.get? name = some c → c.hosted.Constructed := fun c registered =>
    tidy.registry.proper c (tidy.registry.registered name c registered)
  -- Either nothing is even looked for, or the file of a static module is compared with its payload.
  refine ⟨fun elsewhere => ?_, fun c path dev registered static source separates => ?_⟩
  · rcases elsewhere with built | fileless
    · exact refresh_of_built built files name
    · refine refresh_of_fileless (fun c path registered source => ?_) files
      rcases fileless c registered with dynamic | other
      · -- A dynamic module has no source.
        cases dynamic.symm.trans ((constructed c registered).static_of_source source)
      · exact other path source
  · obtain ⟨old, payload, complete⟩ := (constructed c registered).exists_payload static
    refine ⟨fun p replaces => ?_, fun broken => ?_⟩
    · -- Only other bytes are another payload.
      by_cases same : old.bytes = p.bytes
      · obtain rfl := Payload.eq_of_bytes_eq same
        obtain ⟨still, renewed⟩ := renewed_of_same dev registered source payload replaces
        exact ⟨false, c, _, still, by simp [payload], renewed⟩
      · obtain ⟨d, after, done, renewed⟩ :=
          renewed_of_other dev tidy.registry registered static source payload separates replaces same
        exact ⟨true, d, after, done, by simp [payload, same], renewed⟩
    · -- A file without a usable payload is an error, and the error comes before anything is registered.
      obtain ⟨why, failed⟩ := renewal_of_not_replaces payload separates complete broken name
      have done := refresh_of_renewal_error (by rw [reread_of_file dev registered source files, failed])
      exact ⟨⟨why, done⟩, servedOn_of_failure done registered⟩

/-- A module whose file was changed gets the new payload, once. -/
theorem served_refresh_annotated :
    ∃ (s : Host) (c : Context), Served Constructs s ∧ s.registry.get? "a" = some c ∧
      c.hosted.payload.map (·.bytes) = some Payload.smallest ∧
      ∃ d after, (Registry.refresh annotatedFile "a").on s.registry = (.ok true, after) ∧ after.get? "a" = some d ∧
        d.hosted.payload.map (·.bytes) = some annotated ∧
        (Registry.refresh annotatedFile "a").on after = (.ok false, after) := by
  obtain ⟨oldCode, oldValid⟩ := Payload.exists_code_of_smallest
  obtain ⟨newCode, newValid⟩ := exists_code_of_annotated
  let old : Payload := ⟨Payload.smallest, oldCode, oldValid⟩
  let new : Payload := ⟨annotated, newCode, newValid⟩
  let c : Context := ⟨0, filed old, .compileNow⟩
  have constructed : (filed old).Constructed := .static (rfl : HostedModule.ofStatic "a" old (some (.file "a")) .standard = .ok (filed old))
  -- The module is made and added before its file is looked at.
  have start : Resting Constructs (create .dev .standard .empty) := .create _ _ _
  have made := start.perform (q := .make (filed old) (some .compileNow)) constructed trivial
  obtain ⟨threads, _, served⟩ := made.perform (q := .add c) trivial List.mem_cons_self
  obtain ⟨read, small⟩ := read_of_readModuleFile read_annotatedFile
  have differ : contentHash Payload.smallest ≠ contentHash annotated := by decide +kernel
  have separates : Separates annotatedFile "a" c.hosted := by
    intro bytes p holds payload same
    cases read.symm.trans holds
    cases payload
    exact absurd same differ
  obtain ⟨_, reloads⟩ := served_refresh served annotatedFile "a"
  obtain ⟨changes, _⟩ := reloads c "a" rfl rfl rfl rfl separates
  obtain ⟨changed, d, after, done, other, renewed⟩ := changes new ⟨read, small, nofun⟩
  have different : changed = true := other.mpr fun same => differ (congrArg contentHash (Option.some.inj same))
  subst different
  refine ⟨_, c, served, rfl, rfl, d, after, done, renewed.registered, by rw [renewed.renewed]; rfl, ?_⟩
  exact renewed.again after annotatedFile renewed.within.deployment renewed.registered rfl

end Http

end WasmHost
