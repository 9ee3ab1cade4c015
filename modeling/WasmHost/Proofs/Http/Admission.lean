import WasmHost.Proofs.Http.Serving
import WasmHost.Proofs.Registry.Declarations
import WasmHost.Proofs.WellFormed

/-! Admission: only well-formed modules get in, through configurations, uploads and files that change. -/

namespace WasmHost

open Registry (Host create)

namespace Configuration

theorem named_of_ofToml {text : String} {c : Configuration} (accepted : ofToml text = .ok c) :
    ∀ entry ∈ c.entries, entry.name ≠ "" :=
  named_of_checkNames (checkNames_of_ofToml accepted)

theorem named_of_resolvePaths {c : Configuration} {base : Path} (named : ∀ entry ∈ c.entries, entry.name ≠ "") :
    ∀ entry ∈ (c.resolvePaths base).entries, entry.name ≠ "" := by
  -- Where paths start does not matter to names.
  intro entry member
  obtain ⟨declared, before, rfl⟩ := List.mem_map.mp member
  exact named declared before

end Configuration

namespace Http

namespace Upload

theorem named_of_finish {draft : Draft} {u : Upload} (finished : draft.finish = .ok u) : u.name ≠ "" := by
  -- Whoever uploads must give bytes and a name.
  unfold Draft.finish at finished
  split at finished
  · cases finished
  · split at finished
    · -- The name is empty.
      cases finished
    · rename_i named
      cases finished
      exact named
  · cases finished

theorem named_of_ofBody {boundary : String} {body : ByteArray} {u : Upload} (accepted : ofBody boundary body = .ok u) :
    u.name ≠ "" := by
  rw [ofBody] at accepted
  by_cases large : maxBody < body.size
  · rw [if_pos large] at accepted
    cases accepted
  · rw [if_neg large] at accepted
    -- What was told last must have been told to its end.
    obtain ⟨draft, _, ended⟩ := bind_eq_ok accepted
    split at ended
    · exact named_of_finish ended
    · cases ended
    · cases ended

end Upload

/-- Modules are declared in configurations that are accepted, or uploaded in forms that are accepted. -/
def Admits : Registry.Request → Prop
  | .make .. => False
  | .init _ entries => ∃ text c, Configuration.ofToml text = .ok c ∧
      (entries = c.entries ∨ ∃ base, entries = (c.resolvePaths base).entries)
  | .upload name bytes mode => ∃ boundary body, Upload.ofBody boundary body = .ok ⟨name, bytes, mode⟩
  | .add _ | .replace _ | .remove _ | .reload .. | .resolve .. | .call .. | .addArtifact .. | .removeArtifact _ => True

theorem admits_respects : Registry.Respected Admits fun _ c => c.hosted.WellFormed where
  supplied m admitted := admitted.elim
  insisted m strategy admitted := admitted.elim
  declared files entries admitted entry member resources m made := by
    obtain ⟨text, c, accepted, declared⟩ := admitted
    have named := Configuration.named_of_ofToml accepted
    -- The name is checked with the configuration, and everything else when the module is made.
    refine Registry.fits_of_wellFormed (Resources.wellFormed_of_entry ?_ made)
    rcases declared with rfl | ⟨base, rfl⟩
    · exact named entry member
    · exact Configuration.named_of_resolvePaths named entry member
  uploaded name bytes mode admitted intent payload m sized parsed checked := by
    obtain ⟨boundary, body, accepted⟩ := admitted
    -- An upload is dynamic and has no source, whatever intent it inherits.
    refine Registry.fits_of_wellFormed ?_
    refine HostedModule.wellFormed_of_checkInterpreted checked (Upload.named_of_ofBody accepted) nofun nofun ?_
    rintro p ⟨⟩
    rw [Payload.bytes_of_parse parsed]
    exact le_of_checkSize sized
  reloaded deployment c files path bytes payload m wellFormed source read parsed checked := by
    refine Registry.fits_of_wellFormed ?_
    -- The functions are checked against the new payload, although the intent is the old one.
    refine HostedModule.wellFormed_of_checkInterpreted checked wellFormed.named (fun _ => rfl) (fun _ => rfl) ?_
    rintro p ⟨⟩
    rw [Payload.bytes_of_parse parsed]
    exact Resources.size_of_readModuleFile read

/-- On a host into which modules only get by configurations and uploads that are accepted, every registered context is
well formed, and stands under its own name. -/
theorem served_wellFormed {s : Host} (served : Served Admits s) {name : String} {c : Context}
    (registered : s.registry.get? name = some c) : c.name = name ∧ c.hosted.WellFormed := by
  have permitted : ∀ admin files request r q, Causes admin files request r q → Admits q := by
    intro admin files request r q caused
    cases q with
    | upload name bytes mode =>
      -- Over the network, uploads come in accepted forms only.
      obtain ⟨_, boundary, accepted⟩ := caused
      exact ⟨boundary, request.body, accepted⟩
    | make | init => exact caused.elim
    | _ => trivial
  have tidy := served.tidy admits_respects permitted
  -- Whatever is registered was made, and has the trait since then.
  have known := tidy.registry.registered name c registered
  exact ⟨tidy.registry.valid.named name c registered, tidy.registry.proper c known⟩

/-- A configuration that declares one module. -/
def smallestText : String := "[[modules]]\nname = \"a\"\nresource = \"a.wasm\"\n"

theorem exists_of_smallestText :
    ∃ c, Configuration.ofToml smallestText = .ok c ∧ c.entries = [Entry.ofResource "a" "a.wasm"] := by
  have read : (Configuration.ofToml smallestText).toOption.map (·.entries) = some [Entry.ofResource "a" "a.wasm"] := by
    decide +kernel
  cases accepted : Configuration.ofToml smallestText with
  | error why =>
    rw [accepted] at read
    cases read
  | ok c =>
    rw [accepted] at read
    exact ⟨c, rfl, Option.some.inj read⟩

/-- A module that an accepted configuration declares is hosted. -/
theorem served_wellFormed_declared :
    ∃ (s : Host) (c : Context), Served Admits s ∧ s.registry.get? "a" = some c ∧ c.origin = .static ∧
      c.name = "a" ∧ c.hosted.WellFormed := by
  obtain ⟨code, parsed⟩ := Payload.exists_code_of_smallest
  obtain ⟨text, accepted, entries⟩ := exists_of_smallestText
  let c : Context :=
    ⟨0, ⟨"a", .static, some ⟨Payload.smallest, code, parsed⟩, some (.resource "a.wasm"), .standard⟩, .compileNow⟩
  let one : Registry :=
    { Registry.smallestHost with catalog := Catalog.empty.insert c, made := [c], warnings := [.noArtifact] }
  have embedded : Registry.smallestResource.embedded.lookup "a.wasm" = some Payload.smallest := rfl
  have loaded := Resources.moduleOfEntry_resource embedded (by decide) parsed .empty "a" .standard none
  -- The configuration is loaded by one request of the program.
  have declared : ((Registry.Request.init .empty text.entries).perform.on Registry.smallestHost).2 = one := by
    have single := Registry.init_singleton (r := Registry.smallestHost) loaded rfl
    rw [entries, Registry.Request.perform, Operation.on_map]
    exact congrArg Prod.snd single
  have start : Resting Admits Registry.smallestHost := .create _ _ _
  have first := start.perform (q := .init .empty text.entries) ⟨smallestText, text, accepted, .inl rfl⟩ trivial
  rw [declared] at first
  obtain ⟨threads, _, served⟩ := first
  have registered : Registry.get? one "a" = some c := rfl
  obtain ⟨named, wellFormed⟩ := served_wellFormed served registered
  exact ⟨⟨one, threads⟩, c, served, registered, rfl, named, wellFormed⟩

end Http

end WasmHost
