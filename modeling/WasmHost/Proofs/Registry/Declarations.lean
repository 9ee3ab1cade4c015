import WasmHost.ConfigFile
import WasmHost.Proofs.Registry.Loading
import WasmHost.Proofs.Registry.Roster
import WasmHost.Proofs.Registry.Selection
import WasmHost.Proofs.Resources
import WasmHost.Proofs.Strategy

/-! Declarations: what becomes of declared modules, one by one and all together. Each is loaded or rejected, or is
faulty; the first faulty one stops the others. -/

namespace WasmHost

/-! ### Names -/

namespace Configuration

/-- Names that pass the check are not empty. -/
theorem named_of_checkNames {seen : List String} {entries : List Entry} (passed : checkNames seen entries = .ok ()) :
    ∀ entry ∈ entries, entry.name ≠ "" := by
  -- Every name is looked at, with those before it in view.
  induction entries generalizing seen with
  | nil => simp
  | cons first entries ih =>
    unfold checkNames at passed
    split at passed
    · -- An empty name would not have passed.
      cases passed
    rename_i named
    split at passed
    · -- A repeated one would not have passed, either.
      cases passed
    intro entry member
    rcases List.mem_cons.mp member with rfl | later
    · simpa using named
    · exact ih passed entry later

/-- Names that pass the check are distinct, and differ from those that were seen before. -/
theorem distinct_of_checkNames {seen : List String} {entries : List Entry} (passed : checkNames seen entries = .ok ()) :
    (entries.map (·.name)).Nodup ∧ ∀ entry ∈ entries, entry.name ∉ seen := by
  induction entries generalizing seen with
  | nil => simp
  | cons first entries ih =>
    unfold checkNames at passed
    split at passed
    · cases passed
    split at passed
    · cases passed
    rename_i unseen
    -- The rest was checked with the first name among those that were seen.
    obtain ⟨distinct, others⟩ := ih passed
    refine ⟨List.nodup_cons.mpr ⟨fun again => ?_, distinct⟩, fun entry member => ?_⟩
    · obtain ⟨entry, member, same⟩ := List.mem_map.mp again
      exact others entry member (same ▸ List.mem_cons_self)
    · rcases List.mem_cons.mp member with rfl | later
      · simpa using unseen
      · exact fun before => others entry later (List.mem_cons_of_mem _ before)

/-- The names of an accepted configuration were checked. -/
theorem checkNames_of_ofToml {text : String} {c : Configuration} (accepted : ofToml text = .ok c) :
    checkNames [] c.entries = .ok () := by
  unfold ofToml at accepted
  split at accepted
  · cases accepted
  · -- This is the last check.
    obtain ⟨_, _, accepted⟩ := bind_eq_ok accepted
    obtain ⟨_, checked, accepted⟩ := bind_eq_ok accepted
    cases accepted
    exact checked

end Configuration

/-! ### Sources -/

/-- What cannot be a payload is no module. -/
theorem Payload.eq_parseFailed {name : String} {bytes : ByteArray} {why : HostError}
    (failed : parse name bytes = .error why) :
    (Wasm.Module.parse .all bytes).isOk = false ∧ ∃ fault, why = .parseFailed name fault := by
  constructor
  · -- A module would have been accepted.
    cases read : Wasm.Module.parse .all bytes with
    | error cause => rfl
    | ok code =>
      rw [parse_of_code read] at failed
      cases failed
  · unfold parse at failed
    cases scanned : Wasm.Scan.ofBytes bytes with
    | error cause =>
      rw [scanned] at failed
      cases failed
      exact ⟨_, rfl⟩
    | ok s =>
      simp only [scanned, mapError_ok, bind, Except.bind] at failed
      split at failed
      · cases failed
      · cases failed
        exact ⟨_, rfl⟩

namespace Resources

variable {resources : Resources} {files : Files}

/-- The bytes that a source holds, however many they are. -/
def held? (resources : Resources) (files : Files) : Source → Option ByteArray
  | .file path => (files.read path).toOption
  | .resource name =>
    match resources.embedded.lookup name with
    | some bytes => some bytes
    | none => resources.directory.bind fun directory =>
      if Path.descends name then (files.read (Path.join directory name)).toOption else none

/-- What loading comes to, by the bytes that are there. Too many are refused under some name, and if there are
none, then this is not the fault of a payload. -/
def Loads : Option ByteArray → Except HostError ByteArray → Prop
  | some bytes, outcome => bytes.size ≤ maxPayload ∧ outcome = .ok bytes ∨
      maxPayload < bytes.size ∧ ∃ about, outcome = .error (.parseFailed about (.tooLarge bytes.size))
  | none, outcome => ∃ why, outcome = .error why ∧ ∀ about fault, why ≠ .parseFailed about fault

theorem loads_of_checkSize (about : String) (bytes : ByteArray) :
    Loads (some bytes) (do checkSize about bytes.size; return bytes) := by
  unfold checkSize
  split
  · rename_i large
    exact .inr ⟨large, about, rfl⟩
  · rename_i small
    exact .inl ⟨Nat.not_lt.mp small, rfl⟩

/-- Whoever checks the size once more finds the same. -/
theorem Loads.again {held : Option ByteArray} {outcome : Except HostError ByteArray} (loads : Loads held outcome)
    (about : String) : Loads held (do let bytes ← outcome; checkSize about bytes.size; return bytes) := by
  cases held with
  | none =>
    obtain ⟨why, rfl, other⟩ := loads
    exact ⟨why, rfl, other⟩
  -- What was loaded is small, and what was refused is refused before.
  | some bytes =>
    rcases loads with ⟨_, rfl⟩ | ⟨large, earlier, rfl⟩
    · exact loads_of_checkSize about bytes
    · exact .inr ⟨large, earlier, rfl⟩

theorem loads_of_readModuleFile (files : Files) (path : Path) :
    Loads (files.read path).toOption (readModuleFile files path) := by
  unfold readModuleFile
  cases files.read path with
  | ok bytes => exact loads_of_checkSize path bytes
  | error why => exact ⟨_, rfl, nofun⟩

/-- What a source holds is loaded from it. -/
theorem loads_of_load (resources : Resources) (files : Files) (source : Source) :
    Loads (resources.held? files source) (resources.load files source) := by
  cases source with
  | file path => exact loads_of_readModuleFile files path
  | resource name =>
    cases embedded : resources.embedded.lookup name with
    | some bytes =>
      simp only [held?, load, get, embedded]
      exact loads_of_checkSize name bytes
    | none =>
      -- The size of a file is checked twice.
      suffices got : Loads (resources.held? files (.resource name)) (resources.get files name) from got.again name
      simp only [held?, get, embedded]
      cases resources.directory with
      | none => exact ⟨_, rfl, by simp⟩
      | some directory =>
        rw [Option.bind_some]
        by_cases inside : Path.descends name
        · rw [if_pos inside]
          simp only [inside, Bool.not_true, Bool.false_eq_true, if_false]
          -- If there is no file at the path, none can be read there; if there is one, this may still fail.
          have file := loads_of_readModuleFile files (Path.join directory name)
          by_cases present : files.isFile (Path.join directory name)
          · rwa [if_pos present]
          · have none : (files.read (Path.join directory name)).toOption = none := by
              cases found : files.read (Path.join directory name) with
              | ok bytes => exact absurd (Files.isFile_of_read found) present
              | error why => rfl
            rw [if_neg present, none]
            exact ⟨_, rfl, by simp⟩
        · rw [if_neg inside]
          simp only [inside, Bool.not_false, if_true]
          exact ⟨_, rfl, by simp⟩

/-! ### Single declarations -/

/-- Whether the payload of an entry is there but cannot be used: it is too large, or no module. -/
def rejects (resources : Resources) (files : Files) (entry : Entry) : Bool :=
  (entry.source?.bind (resources.held? files)).any fun bytes =>
    maxPayload < bytes.size || !(Wasm.Module.parse .all bytes).isOk

/-- A module that is what an entry declares. -/
structure Declares (resources : Resources) (files : Files) (entry : Entry) (m : HostedModule) : Prop where
  name : m.name = entry.name
  origin : m.origin = if entry.dynamic then .dynamic else .static
  intent : m.intent = entry.intent
  /-- Only a static module remembers where it was read from. -/
  source : m.source = if entry.dynamic then none else entry.source?
  /-- A file goes before a resource. -/
  file : ∀ path, entry.path = some path → ∃ p, m.payload = some p ∧ files.read path = .ok p.bytes
  /-- A resource only counts without a file. -/
  resource : entry.path = none → ∀ name, entry.resource = some name →
    ∃ p, m.payload = some p ∧ resources.held? files (.resource name) = some p.bytes
  /-- Without both there is no payload yet. -/
  pending : entry.path = none → entry.resource = none → m.payload = none

/-- Why an entry is no module at all, even if payloads may be rejected. -/
inductive Fault (resources : Resources) (files : Files) (entry : Entry) : HostError → Prop where
  /-- A static module has no source. -/
  | sourceless (static : entry.dynamic = false) (path : entry.path = none) (resource : entry.resource = none) :
    Fault resources files entry (.invalidConfig (.noSource entry.name))
  /-- Nothing is there to be loaded. -/
  | missing {source : Source} {why : HostError} (declared : entry.source? = some source)
      (missing : resources.held? files source = none) (failed : resources.load files source = .error why) :
    Fault resources files entry why
  /-- A function that must be interpreted does not exist. -/
  | incomplete {source : Source} {p : Payload} {index : Nat} (declared : entry.source? = some source)
      (held : resources.held? files source = some p.bytes) (small : p.bytes.size ≤ maxPayload)
      (beyond : entry.intent.interpreted.find? (p.functionCount ≤ ·) = some index) :
    Fault resources files entry (.invalidConfig (.noSuchFunction entry.name index p.functionCount))

/-- What becomes of an entry: its payload is rejected, or it has a fault, or it is a module. -/
def Comes (resources : Resources) (files : Files) (entry : Entry) : Except HostError HostedModule → Prop
  | .ok m => resources.rejects files entry = false ∧ resources.Declares files entry m
  | .error why =>
    if resources.rejects files entry then ∃ about fault, why = .parseFailed about fault
    else resources.Fault files entry why ∧ ∀ about fault, why ≠ .parseFailed about fault

variable {entry : Entry}

/-- What an entry without a source comes to. -/
theorem moduleOfEntry_of_none (sourceless : entry.source? = none) :
    resources.moduleOfEntry files entry =
      if entry.dynamic then .ok ⟨entry.name, .dynamic, none, none, entry.intent⟩
      else .error (.invalidConfig (.noSource entry.name)) := by
  rw [moduleOfEntry, Entry.origin, sourceless]
  cases entry.dynamic <;> rfl

/-- What an entry with a source comes to. -/
theorem moduleOfEntry_of_some {source : Source} (declared : entry.source? = some source) :
    resources.moduleOfEntry files entry = (do
      let bytes ← resources.load files source
      let p ← Payload.parse entry.name bytes
      HostedModule.checkInterpreted ⟨entry.name, if entry.dynamic then .dynamic else .static, some p,
        if entry.dynamic then none else some source, entry.intent⟩) := by
  simp only [moduleOfEntry, Entry.origin, declared, Option.mapM_some, Option.isSome_some, if_true]
  -- For both origins the payload is loaded and parsed in the same way.
  cases resources.load files source with
  | error why => cases entry.dynamic <;> rfl
  | ok bytes =>
    cases parsed : Payload.parse entry.name bytes with
    | error why => cases dynamic : entry.dynamic <;> simp [parsed, bind, Except.bind, Functor.map, Except.map]
    | ok p => cases dynamic : entry.dynamic <;> simp [parsed, bind, Except.bind, Functor.map, Except.map] <;> rfl

/-- A source is a file, if one is declared, or else a resource. -/
theorem held?_of_declared {source : Source} (declared : entry.source? = some source) {bytes : ByteArray}
    (held : resources.held? files source = some bytes) :
    (∀ path, entry.path = some path → files.read path = .ok bytes) ∧
      (entry.path = none → ∀ name, entry.resource = some name → resources.held? files (.resource name) = some bytes) := by
  -- A file comes before a resource.
  refine ⟨fun path file => ?_, fun none name resource => ?_⟩
  · simp only [Entry.source?, file, Option.map_some, Option.some_or, Option.some.injEq] at declared
    subst declared
    exact eq_ok_of_toOption held
  · simp only [Entry.source?, none, resource, Option.map_none, Option.none_or, Option.map_some, Option.some.injEq] at declared
    subst declared
    exact held

/-- Without a source, only a dynamic module can be made. -/
theorem comes_of_none (resources : Resources) (files : Files) (sourceless : entry.source? = none) :
    resources.Comes files entry (resources.moduleOfEntry files entry) := by
  have both : entry.path = none ∧ entry.resource = none := by simpa [Entry.source?] using sourceless
  have accepted : resources.rejects files entry = false := by simp [rejects, sourceless]
  rw [moduleOfEntry_of_none sourceless]
  cases dynamic : entry.dynamic with
  | true => exact ⟨accepted, rfl, by simp [dynamic], rfl, by simp [dynamic], by simp [both], by simp [both], fun _ _ => rfl⟩
  -- A static module needs a payload.
  | false =>
    simp only [Bool.false_eq_true, if_false, Comes, accepted]
    exact ⟨.sourceless dynamic both.1 both.2, by simp⟩

/-- With bytes that are not too many, it matters whether they are a module, and whether it has the functions that must
be interpreted. -/
theorem comes_of_held {source : Source} (declared : entry.source? = some source) {bytes : ByteArray}
    (held : resources.held? files source = some bytes) (small : bytes.size ≤ maxPayload)
    (loaded : resources.load files source = .ok bytes) :
    resources.Comes files entry (resources.moduleOfEntry files entry) := by
  simp only [moduleOfEntry_of_some declared, loaded, bind, Except.bind]
  cases parsed : Payload.parse entry.name bytes with
  | error why =>
    obtain ⟨invalid, fault⟩ := Payload.eq_parseFailed parsed
    have rejected : resources.rejects files entry := by simp [rejects, declared, held, invalid]
    simp only [Comes, rejected, if_true]
    exact ⟨_, fault⟩
  | ok p =>
    obtain rfl := Payload.bytes_of_parse parsed
    have accepted : resources.rejects files entry = false := by
      simp [rejects, declared, held, small, p.parsed, Except.isOk, Except.toBool]
    simp only [HostedModule.checkInterpreted]
    cases beyond : entry.intent.interpreted.find? (p.functionCount ≤ ·) with
    | some index =>
      simp only [Comes, accepted, Bool.false_eq_true, if_false]
      exact ⟨.incomplete declared held small beyond, by simp⟩
    | none =>
      obtain ⟨file, resource⟩ := held?_of_declared declared held
      refine ⟨accepted, rfl, rfl, rfl, by rw [declared], fun path found => ⟨p, rfl, file path found⟩,
        fun none name found => ⟨p, rfl, resource none name found⟩, fun path resource => ?_⟩
      -- There is a source.
      simp [Entry.source?, path, resource] at declared

/-- Every entry is a module, or has a fault, or its payload is rejected. -/
theorem comes_of_moduleOfEntry (resources : Resources) (files : Files) (entry : Entry) :
    resources.Comes files entry (resources.moduleOfEntry files entry) := by
  cases declared : entry.source? with
  | none => exact comes_of_none resources files declared
  | some source =>
    have loads := loads_of_load resources files source
    -- What cannot be read is a fault, what is too large is rejected, and the rest depends on the bytes.
    cases held : resources.held? files source with
    | none =>
      rw [held] at loads
      obtain ⟨why, failed, other⟩ := loads
      have accepted : resources.rejects files entry = false := by simp [rejects, declared, held]
      simp only [moduleOfEntry_of_some declared, failed, bind, Except.bind, Comes, accepted, Bool.false_eq_true, if_false]
      exact ⟨.missing declared held failed, other⟩
    | some bytes =>
      rw [held] at loads
      rcases loads with ⟨small, loaded⟩ | ⟨large, about, failed⟩
      · exact comes_of_held declared held small loaded
      · have rejected : resources.rejects files entry := by simp [rejects, declared, held, large]
        simp only [moduleOfEntry_of_some declared, failed, bind, Except.bind, Comes, rejected, if_true]
        exact ⟨about, _, rfl⟩

/-- A fault is what comes of its entry. -/
theorem Fault.moduleOfEntry {why : HostError} (fault : Fault resources files entry why) :
    resources.moduleOfEntry files entry = .error why := by
  cases fault with
  | sourceless static path resource =>
    have none : entry.source? = none := by simp [Entry.source?, path, resource]
    simp [moduleOfEntry_of_none none, static]
  | missing declared missing failed => simp only [moduleOfEntry_of_some declared, failed, bind, Except.bind]
  | @incomplete source p index declared held small beyond =>
    have loads := loads_of_load resources files source
    rw [held] at loads
    -- A payload that was parsed can still lack what the interpreter needs.
    have loaded : resources.load files source = .ok p.bytes := by
      rcases loads with ⟨_, loaded⟩ | ⟨large, _⟩
      · exact loaded
      · omega
    simp only [moduleOfEntry_of_some declared, loaded, Payload.parse_of_code p.parsed, bind, Except.bind,
      HostedModule.checkInterpreted, beyond]

/-- No fault is the one of a payload. -/
theorem Fault.ne_parseFailed {why : HostError} (fault : Fault resources files entry why) :
    ∀ about reason, why ≠ .parseFailed about reason := by
  -- Only what is loaded could be about a payload, and what is missing is not.
  cases fault with
  | @missing source _ declared missing failed =>
    have loads := loads_of_load resources files source
    rw [missing] at loads
    obtain ⟨cause, loaded, other⟩ := loads
    cases failed.symm.trans loaded
    exact other
  | _ => nofun

end Resources

/-! ### All declarations -/

namespace Registry

/-- Why an entry stops the loading of all others: it is no module, or there is no strategy for it. -/
inductive Stops (r : Registry) (files : Files) (view : Artifacts) (entry : Entry) : HostError → Prop where
  /-- The entry has a fault. -/
  | fault {why : HostError} (fault : r.resources.Fault files entry why) : Stops r files view entry why
  /-- With the artifacts in view, no strategy can be selected. -/
  | unselected {m : HostedModule} {why : HostError} (made : r.resources.moduleOfEntry files entry = .ok m)
      (failed : (Strategy.select r.deployment (view.contains m.name) m.name m.origin m.intent).1 = .error why) :
    Stops r files view entry why

/-- One of the entries stops the loading, and none before it does. -/
def FirstStops (r : Registry) (files : Files) (view : Artifacts) (entries : List Entry) (why : HostError) : Prop :=
  ∃ before entry rest, entries = before ++ entry :: rest ∧ (∀ earlier ∈ before, ∀ cause, ¬ Stops r files view earlier cause) ∧
    Stops r files view entry why

variable {r now : Registry} {files : Files} {view : Artifacts} {entry : Entry} {staged : Staged}

/-- What stops an entry is reported, whatever is ready. -/
theorem Stops.stageEntry {why : HostError} (stops : Stops r files view entry why) (same : Within .quiet r now)
    (staged : Staged) : ∃ after, (Registry.stageEntry files view staged entry).on now = (.error why, after) := by
  simp only [Registry.stageEntry, Operation.on_bind, Operation.on_get, same.resources]
  cases stops with
  | fault fault =>
    rw [fault.moduleOfEntry]
    refine ⟨now, ?_⟩
    split
    · rename_i same
      cases same
    · -- The payload is not at fault.
      rename_i about reason same
      cases same
      exact absurd rfl (fault.ne_parseFailed about reason)
    · rename_i same
      cases same
      rfl
  | @unselected m _ made failed =>
    rcases selected : Strategy.select r.deployment (view.contains m.name) m.name m.origin m.intent with ⟨outcome, warnings⟩
    rw [selected] at failed
    cases failed
    simp only [made, Operation.on_bind, contextWith_on, same.deployment, selected]
    exact ⟨_, rfl⟩

/-- A payload that cannot be used does not stop the others. -/
theorem Stops.ne_parseFailed {why : HostError} (stops : Stops r files view entry why) :
    ∀ about fault, why ≠ .parseFailed about fault := by
  cases stops with
  | fault fault => exact fault.ne_parseFailed
  | unselected made failed => simp [Strategy.select_eq_error failed]

/-- Nothing becomes of a rejected entry but a report. -/
theorem stageEntry_of_rejects (rejected : r.resources.rejects files entry) (same : Within .quiet r now)
    (view : Artifacts) (staged : Staged) :
    ∃ about fault, (stageEntry files view staged entry).on now =
      (.ok { staged with report.rejected := staged.report.rejected ++ [(entry.name, .parseFailed about fault)] }, now) := by
  have comes := r.resources.comes_of_moduleOfEntry files entry
  simp only [stageEntry, Operation.on_bind, Operation.on_get, same.resources]
  cases made : r.resources.moduleOfEntry files entry with
  -- A rejected entry is no module.
  | ok m =>
    rw [made] at comes
    cases rejected.symm.trans comes.1
  | error why =>
    rw [made, Resources.Comes, if_pos rejected] at comes
    obtain ⟨about, fault, rfl⟩ := comes
    exact ⟨about, fault, rfl⟩

/-- Any other entry becomes a context. -/
theorem stageEntry_of_sound (sound : ∀ why, ¬ Stops r files view entry why) (accepted : r.resources.rejects files entry = false)
    (same : Within .quiet r now) (staged : Staged) :
    ∃ c after, (stageEntry files view staged entry).on now =
        (.ok { staged with
          catalog := staged.catalog.insert c
          report.loaded := staged.report.loaded ++ [entry.name] }, after) ∧
      r.resources.Declares files entry c.hosted ∧
      (Strategy.select r.deployment (view.contains c.name) c.name c.origin c.hosted.intent).1 = .ok c.strategy := by
  have comes := r.resources.comes_of_moduleOfEntry files entry
  simp only [stageEntry, Operation.on_bind, Operation.on_get, same.resources]
  cases made : r.resources.moduleOfEntry files entry with
  | error why =>
    -- This would be a fault.
    rw [made, Resources.Comes, if_neg (by simp [accepted])] at comes
    exact absurd (.fault comes.1) (sound why)
  | ok m =>
    rw [made] at comes
    rcases selected : Strategy.select r.deployment (view.contains m.name) m.name m.origin m.intent with
      ⟨why | strategy, warnings⟩
    · exact absurd (.unselected made (congrArg Prod.fst selected)) (sound why)
    · simp only [Operation.on_bind, contextWith_on, same.deployment, selected]
      exact ⟨_, _, rfl, comes.2, congrArg Prod.fst selected⟩

/-- A rejected payload stops nobody. -/
theorem not_stops_of_rejects (rejected : r.resources.rejects files entry) (why : HostError) :
    ¬ Stops r files view entry why := by
  have comes := r.resources.comes_of_moduleOfEntry files entry
  -- An entry stops the others by a fault, or as a module without a strategy; a rejected one is neither.
  rintro (fault | ⟨made, _⟩)
  · rw [fault.moduleOfEntry, Resources.Comes, if_pos rejected] at comes
    obtain ⟨about, reason, same⟩ := comes
    exact fault.ne_parseFailed about reason same
  · rw [made] at comes
    cases rejected.symm.trans comes.1

/-- Neither does a module with a strategy. -/
theorem not_stops_of_selected {m : HostedModule} {strategy : Strategy} (made : r.resources.moduleOfEntry files entry = .ok m)
    (selected : (Strategy.select r.deployment (view.contains m.name) m.name m.origin m.intent).1 = .ok strategy)
    (why : HostError) : ¬ Stops r files view entry why := by
  rintro (fault | ⟨other, failed⟩)
  · cases fault.moduleOfEntry.symm.trans made
  · cases made.symm.trans other
    cases selected.symm.trans failed

/-- What is ready after some of the entries, none of which stops the others. -/
structure Sorts (r : Registry) (files : Files) (view : Artifacts) (entries : List Entry) (report : Report)
    (catalog : Catalog) : Prop where
  /-- What is not rejected is loaded, in the order of the declarations. -/
  loaded : report.loaded = (entries.filter fun entry => !r.resources.rejects files entry).map (·.name)
  /-- The others are rejected, in the order of the declarations. -/
  rejected : report.rejected.map (·.1) = (entries.filter (r.resources.rejects files)).map (·.name)
  /-- They are reported as payloads that are not valid. -/
  reasons : ∀ name why, (name, why) ∈ report.rejected → ∃ about fault, why = .parseFailed about fault
  /-- The loaded ones are listed in the same order. -/
  listed : catalog.names = report.loaded
  /-- Each of them is what its entry declares, and has the strategy that is selected for it. -/
  contexts : ∀ entry ∈ entries, r.resources.rejects files entry = false → ∃ c, catalog.get? entry.name = some c ∧
    r.resources.Declares files entry c.hosted ∧
    (Strategy.select r.deployment (view.contains c.name) c.name c.origin c.hosted.intent).1 = .ok c.strategy

section Sorts

variable {before : List Entry} {report : Report} {catalog : Catalog}

/-- One more entry is rejected. -/
theorem Sorts.reject (sorts : Sorts r files view before report catalog) (rejected : r.resources.rejects files entry)
    (about : String) (fault : PayloadFault) :
    Sorts r files view (before ++ [entry])
      { report with rejected := report.rejected ++ [(entry.name, .parseFailed about fault)] } catalog where
  loaded := by simp [sorts.loaded, rejected]
  rejected := by simp [sorts.rejected, rejected]
  reasons name why member := by
    rcases List.mem_append.mp member with earlier | latest
    · exact sorts.reasons name why earlier
    · cases List.mem_singleton.mp latest
      exact ⟨about, fault, rfl⟩
  listed := sorts.listed
  contexts other member accepted := by
    rcases List.mem_append.mp member with earlier | latest
    · exact sorts.contexts other earlier accepted
    · -- The new one is not accepted.
      rw [List.mem_singleton.mp latest, rejected] at accepted
      cases accepted

/-- One more entry is loaded, under a name that is new. -/
theorem Sorts.load (sorts : Sorts r files view before report catalog) (valid : catalog.Valid)
    (new : entry.name ∉ before.map (·.name)) (accepted : r.resources.rejects files entry = false) {c : Context}
    (declares : r.resources.Declares files entry c.hosted)
    (selected : (Strategy.select r.deployment (view.contains c.name) c.name c.origin c.hosted.intent).1 = .ok c.strategy) :
    Sorts r files view (before ++ [entry]) { report with loaded := report.loaded ++ [entry.name] } (catalog.insert c) where
  loaded := by simp [sorts.loaded, accepted]
  rejected := by simp [sorts.rejected, accepted]
  reasons := sorts.reasons
  listed := by
    -- Whatever is listed was declared before.
    have absent : c.name ∉ catalog.order := fun member => new <| by
      have loaded : c.name ∈ report.loaded := sorts.listed ▸ member
      rw [sorts.loaded, Context.name, declares.name] at loaded
      exact (List.filter_sublist.map _).subset loaded
    rw [Catalog.names, Catalog.order_insert, if_neg fun present => absent ((valid.mem_order _).mpr present), Context.name,
      declares.name]
    exact congrArg (· ++ [entry.name]) sorts.listed
  contexts other member usable := by
    rw [Catalog.get?_insert, Context.name, declares.name]
    rcases List.mem_append.mp member with earlier | latest
    · -- The earlier ones have other names.
      have different : other.name ≠ entry.name := fun same => new (same ▸ List.mem_map_of_mem earlier)
      rw [if_neg different]
      exact sorts.contexts other earlier usable
    · rw [List.mem_singleton.mp latest, if_pos rfl]
      exact ⟨c, rfl, declares, selected⟩

end Sorts

/-- If no entry stops the others, they are sorted into loaded and rejected ones. -/
theorem sorts_of_sound {entries : List Entry} (distinct : (entries.map (·.name)).Nodup)
    (sound : ∀ entry ∈ entries, ∀ why, ¬ Stops r files view entry why) (pending : List (String × Path)) :
    ∃ staged after, (entries.foldlM (stageEntry files view) ⟨pending, .empty, ⟨[], []⟩⟩).on r = (.ok staged, after) ∧
      Within .quiet r after ∧ staged.catalog.Valid ∧ Sorts r files view entries staged.report staged.catalog := by
  -- The induction follows the order of the declarations, so that the last entry comes to what the others left.
  induction entries using List.reverseRecOn with
  | nil => exact ⟨_, r, rfl, refl_of (Within .quiet) r, .empty, rfl, rfl, nofun, rfl, nofun⟩
  | append_singleton before entry ih =>
    rw [List.map_append, List.map_singleton, List.nodup_append] at distinct
    obtain ⟨earlier, _, apart⟩ := distinct
    have new : entry.name ∉ before.map (·.name) := fun member => apart _ member _ List.mem_cons_self rfl
    have last : entry ∈ before ++ [entry] := List.mem_append_right _ List.mem_cons_self
    obtain ⟨staged, middle, done, quiet, valid, sorts⟩ :=
      ih earlier fun entry member => sound entry (List.mem_append_left _ member)
    simp only [List.foldlM_append, List.foldlM_cons, List.foldlM_nil, bind_pure, Operation.on_bind, done]
    cases rejected : r.resources.rejects files entry with
    | true =>
      obtain ⟨about, fault, reported⟩ := stageEntry_of_rejects rejected quiet view staged
      exact ⟨_, middle, reported, quiet, valid, sorts.reject rejected about fault⟩
    | false =>
      obtain ⟨c, after, added, declares, selected⟩ := stageEntry_of_sound (sound entry last) rejected quiet staged
      have grown : Within .quiet middle after := (stageEntry_within files view staged entry).of_on added
      exact ⟨_, after, added, trans_of (Within .quiet) quiet grown, valid.insert c,
        sorts.load valid new rejected declares selected⟩

/-- The first entry that stops the others is the one whose error is reported. -/
theorem FirstStops.foldlM {entries : List Entry} {why : HostError} (first : FirstStops r files view entries why)
    (distinct : (entries.map (·.name)).Nodup) (pending : List (String × Path)) :
    ∃ after, (entries.foldlM (stageEntry files view) ⟨pending, .empty, ⟨[], []⟩⟩).on r = (.error why, after) := by
  obtain ⟨before, entry, rest, rfl, sound, stops⟩ := first
  rw [List.map_append, List.nodup_append] at distinct
  -- The entries before it are sorted, and then it fails.
  obtain ⟨staged, middle, done, quiet, _, _⟩ := sorts_of_sound distinct.1 sound pending
  obtain ⟨after, failed⟩ := stops.stageEntry quiet staged
  simp only [List.foldlM_append, List.foldlM_cons, Operation.on_bind, done, failed]
  exact ⟨after, rfl⟩

/-- If some entry stops the others, there is a first one. -/
theorem exists_firstStops {entries : List Entry}
    (stopped : ∃ entry ∈ entries, ∃ why, Stops r files view entry why) : ∃ why, FirstStops r files view entries why := by
  induction entries with
  | nil => simp at stopped
  | cons first entries ih =>
    by_cases here : ∃ why, Stops r files view first why
    · obtain ⟨why, stops⟩ := here
      exact ⟨why, [], first, entries, rfl, nofun, stops⟩
    · -- What comes later is not affected by an entry that does not stop the others.
      obtain ⟨entry, member, stops⟩ := stopped
      have later : entry ∈ entries := (List.mem_cons.mp member).resolve_left fun same => here (same ▸ stops)
      obtain ⟨why, before, culprit, rest, rfl, sound, stops⟩ := ih ⟨entry, later, stops⟩
      refine ⟨why, first :: before, culprit, rest, rfl, fun earlier member cause => ?_, stops⟩
      rcases List.mem_cons.mp member with rfl | inside
      · exact fun stops => here ⟨cause, stops⟩
      · exact sound earlier inside cause

/-- The artifacts in view when declared modules are loaded: the declared ones, and those that were there before. -/
def inView (r : Registry) (entries : List Entry) : Artifacts := r.artifacts.insertFiles (declared entries)

/-- Loading starts with nothing that is ready. -/
theorem stage_on (r : Registry) (files : Files) (entries : List Entry) :
    (stage files entries).on r =
      (entries.foldlM (stageEntry files (r.inView entries)) ⟨declared entries, .empty, ⟨[], []⟩⟩).on r := by
  rw [stage, Operation.on_bind, Operation.on_get]
  rfl

section Init

variable {entries : List Entry} (distinct : (entries.map (·.name)).Nodup)

include distinct

theorem init_of_firstStops {why : HostError} (first : FirstStops r files (r.inView entries) entries why) :
    ((Registry.init files entries).on r).1 = .error why := by
  obtain ⟨after, failed⟩ := first.foldlM distinct (declared entries)
  rw [← stage_on] at failed
  rw [Registry.init, Operation.on_bind, failed]

theorem init_of_sound (r : Registry) (files : Files)
    (sound : ∀ entry ∈ entries, ∀ why, ¬ Stops r files (r.inView entries) entry why) :
    ∃ report after, (Registry.init files entries).on r = (.ok report, after) ∧
      Sorts r files (r.inView entries) entries report after.catalog := by
  obtain ⟨staged, middle, done, _, _, sorts⟩ := sorts_of_sound distinct sound (declared entries)
  rw [← stage_on] at done
  exact ⟨_, _, init_on done, sorts⟩

end Init

/-- Loading the entries of an accepted configuration fails exactly if one of them stops it, with the error of the first
one that does, and never for a payload that cannot be used. Otherwise the entries are sorted into loaded ones, which are
registered in their order, and rejected ones. -/
theorem init_sorts {text : String} {config : Configuration} (accepted : Configuration.ofToml text = .ok config)
    (r : Registry) (files : Files) :
    ((∃ why, ((Registry.init files config.entries).on r).1 = .error why) ↔
        ∃ entry ∈ config.entries, ∃ why, Stops r files (r.inView config.entries) entry why) ∧
      (∀ why, ((Registry.init files config.entries).on r).1 = .error why ↔
        FirstStops r files (r.inView config.entries) config.entries why) ∧
      (∀ about fault, ((Registry.init files config.entries).on r).1 ≠ .error (.parseFailed about fault)) ∧
      ((∀ entry ∈ config.entries, ∀ why, ¬ Stops r files (r.inView config.entries) entry why) →
        ∃ report after, (Registry.init files config.entries).on r = (.ok report, after) ∧
          Sorts r files (r.inView config.entries) config.entries report after.catalog) := by
  have distinct := (Configuration.distinct_of_checkNames (Configuration.checkNames_of_ofToml accepted)).1
  -- A failure without a culprit would be a success.
  have culprit : ∀ why, ((Registry.init files config.entries).on r).1 = .error why →
      ∃ entry ∈ config.entries, ∃ why, Stops r files (r.inView config.entries) entry why := by
    intro why failed
    by_contra none
    obtain ⟨report, after, done, _⟩ := init_of_sound distinct r files
      fun entry member why stops => none ⟨entry, member, why, stops⟩
    rw [done] at failed
    cases failed
  -- The error is the one of the first culprit.
  have first : ∀ why, ((Registry.init files config.entries).on r).1 = .error why →
      FirstStops r files (r.inView config.entries) config.entries why := by
    intro why failed
    obtain ⟨cause, first⟩ := exists_firstStops (culprit why failed)
    cases failed.symm.trans (init_of_firstStops distinct first)
    exact first
  refine ⟨⟨fun ⟨why, failed⟩ => culprit why failed, fun stopped => ?_⟩,
    fun why => ⟨first why, init_of_firstStops distinct⟩, fun about fault failed => ?_, init_of_sound distinct r files⟩
  · obtain ⟨why, first⟩ := exists_firstStops stopped
    exact ⟨why, init_of_firstStops distinct first⟩
  · obtain ⟨_, _, _, _, _, stops⟩ := first _ failed
    exact stops.ne_parseFailed about fault rfl

/-- A configuration that declares two modules in resources. -/
def twoText : String :=
  "[[modules]]\nname = \"a\"\nresource = \"a.wasm\"\n\n[[modules]]\nname = \"b\"\nresource = \"b.wasm\"\n"

/-- A host where only the first of them is valid. -/
def halfHost : Registry :=
  { smallestHost with resources := smallestResource.insert "b.wasm" ByteArray.empty }

theorem exists_of_twoText :
    ∃ config, Configuration.ofToml twoText = .ok config ∧
      config.entries = [Entry.ofResource "a" "a.wasm", Entry.ofResource "b" "b.wasm"] := by
  have read : (Configuration.ofToml twoText).toOption.map (·.entries) =
      some [Entry.ofResource "a" "a.wasm", Entry.ofResource "b" "b.wasm"] := by
    decide +kernel
  obtain ⟨config, accepted, entries⟩ := Option.map_eq_some_iff.mp read
  exact ⟨config, eq_ok_of_toOption accepted, entries⟩

/-- The module that is valid is loaded although the other one is not. -/
theorem init_sorts_halves :
    ∃ config, Configuration.ofToml twoText = .ok config ∧
      ∃ report after, (Registry.init .empty config.entries).on halfHost = (.ok report, after) ∧
        report.loaded = ["a"] ∧ report.rejected.map (·.1) = ["b"] ∧ after.catalog.names = ["a"] := by
  obtain ⟨config, accepted, entries⟩ := exists_of_twoText
  obtain ⟨code, parsed⟩ := Payload.exists_code_of_smallest
  have embedded : halfHost.resources.embedded.lookup "a.wasm" = some Payload.smallest := rfl
  -- One file holds a module, and the other one something else.
  have made := Resources.moduleOfEntry_resource embedded (by decide) parsed .empty "a" .standard none
  have rejected : halfHost.resources.rejects .empty (Entry.ofResource "b" "b.wasm") := by decide +kernel
  obtain ⟨_, _, _, sorted⟩ := init_sorts accepted halfHost .empty
  obtain ⟨report, after, done, sorts⟩ := sorted <| by
    rw [entries]
    intro entry member
    rcases List.mem_pair.mp member with rfl | rfl
    · exact not_stops_of_selected made rfl
    · exact not_stops_of_rejects rejected
  have loaded : report.loaded = ["a"] := by
    rw [sorts.loaded, entries]
    decide +kernel
  refine ⟨config, accepted, report, after, done, loaded, ?_, sorts.listed.trans loaded⟩
  rw [sorts.rejected, entries]
  decide +kernel

end Registry

end WasmHost
