import WasmHost.Proofs.Payload
import WasmHost.Proofs.Registry.Tidy

/-! Well-formed modules: what every way to make a module checks. -/

namespace WasmHost

theorem le_of_checkSize {name : String} {size : Nat} (passed : checkSize name size = .ok ()) : size ≤ maxPayload := by
  unfold checkSize at passed
  split at passed
  · cases passed
  · omega

namespace HostedModule

/-- A module that can be hosted, as far as that can be known without building it. -/
structure WellFormed (m : HostedModule) : Prop where
  /-- It has a name. -/
  named : m.name ≠ ""
  /-- A static module has a payload. -/
  supplied : m.origin = .static → m.payload.isSome
  /-- Only static modules have a source. -/
  sourced : m.source.isSome → m.origin = .static
  /-- Payloads are small enough. -/
  sized : ∀ p, m.payload = some p → p.bytes.size ≤ maxPayload
  /-- They are what their bytes are read as. -/
  accepted : ∀ p, m.payload = some p → Payload.parse m.name p.bytes = .ok p
  /-- What is told about them is true of these very bytes. -/
  described : ∀ p, m.payload = some p → p.hash = contentHash p.bytes ∧
    ∀ code, Wasm.Module.parse .all p.bytes = .ok code → p.exports = code.exports
  /-- Functions that must be interpreted exist. -/
  interpreted : ∀ p, m.payload = some p → ∀ index ∈ m.intent.interpreted, index < p.functionCount

/-- If the check of functions is passed, they exist. -/
theorem lt_of_checkInterpreted {m checked : HostedModule} (passed : m.checkInterpreted = .ok checked) {p : Payload}
    (payload : m.payload = some p) : ∀ index ∈ m.intent.interpreted, index < p.functionCount := by
  intro index member
  simp only [checkInterpreted, payload] at passed
  split at passed
  · cases passed
  · -- No index was found that is too large.
    rename_i none
    have below := List.find?_eq_none.mp none index member
    simpa using below

/-- A module with a checked payload is well formed if its functions are checked, too. -/
theorem wellFormed_of_checkInterpreted {m checked : HostedModule} (passed : m.checkInterpreted = .ok checked)
    (named : m.name ≠ "") (supplied : m.origin = .static → m.payload.isSome)
    (sourced : m.source.isSome → m.origin = .static) (sized : ∀ p, m.payload = some p → p.bytes.size ≤ maxPayload) :
    checked.WellFormed := by
  rw [eq_of_checkInterpreted passed]
  -- A payload carries what its bytes were read as.
  refine ⟨named, supplied, sourced, sized, fun p _ => Payload.parse_of_code p.parsed m.name, fun p _ => ⟨rfl, ?_⟩,
    fun p payload => lt_of_checkInterpreted passed payload⟩
  intro code parsed
  -- The same bytes are not read in two ways.
  cases p.parsed.symm.trans parsed
  exact p.exports_eq

end HostedModule

namespace Resources

variable {resources : Resources} {files : Files}

theorem size_of_readModuleFile {path : Path} {bytes : ByteArray} (read : readModuleFile files path = .ok bytes) :
    bytes.size ≤ maxPayload := by
  -- The file is read as a whole before its size is checked.
  obtain ⟨_, _, read⟩ := bind_eq_ok read
  obtain ⟨_, sized, read⟩ := bind_eq_ok read
  cases read
  exact le_of_checkSize sized

/-- Whatever is loaded from a source is small enough. -/
theorem size_of_load {source : Source} {bytes : ByteArray} (loaded : resources.load files source = .ok bytes) :
    bytes.size ≤ maxPayload := by
  -- Both a file and a resource are checked for their size.
  cases source with
  | file path => exact size_of_readModuleFile loaded
  | resource name =>
    obtain ⟨_, _, loaded⟩ := bind_eq_ok loaded
    obtain ⟨_, sized, loaded⟩ := bind_eq_ok loaded
    cases loaded
    exact le_of_checkSize sized

/-- The payload of a declared module comes from a source. -/
theorem wellFormed_of_entry {entry : Entry} {m : HostedModule} (named : entry.name ≠ "")
    (made : resources.moduleOfEntry files entry = .ok m) : m.WellFormed := by
  obtain ⟨origin, _, made⟩ := bind_eq_ok made
  obtain ⟨payload, loaded, made⟩ := bind_eq_ok made
  have sized : ∀ p, payload = some p → p.bytes.size ≤ maxPayload := by
    rintro p rfl
    cases source : entry.source? with
    | none =>
      rw [source] at loaded
      cases loaded
    | some place =>
      -- The bytes were loaded before they were read as a module.
      rw [source, Option.mapM_some, map_eq_pure_bind] at loaded
      obtain ⟨_, read, same⟩ := bind_eq_ok loaded
      cases same
      obtain ⟨bytes, fetched, parsed⟩ := bind_eq_ok read
      rw [Payload.bytes_of_parse parsed]
      exact size_of_load fetched
  split at made
  · -- A static module has a payload.
    exact HostedModule.wellFormed_of_checkInterpreted made named (fun _ => rfl) (fun _ => rfl) sized
  · -- Without one it is rejected.
    cases made
  · -- A dynamic one has no source.
    exact HostedModule.wellFormed_of_checkInterpreted made named nofun nofun sized

end Resources

namespace Registry

/-- What holds of the module holds of its context, whatever strategy is chosen. -/
theorem fits_of_wellFormed {m : HostedModule} (wellFormed : m.WellFormed) :
    Fits (fun _ c => c.hosted.WellFormed) m :=
  fun _ _ _ _ _ => wellFormed

end Registry

end WasmHost
