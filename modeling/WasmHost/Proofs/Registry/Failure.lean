import WasmHost.Proofs.Handle
import WasmHost.Proofs.Registry.Request

/-! Failures: a request that fails leaves the registered contexts and artifacts as they were. -/

namespace WasmHost.Registry

theorem updateCatalog_succeeds (change : Catalog → Catalog) : (updateCatalog change).Succeeds :=
  Operation.Succeeds.modify _

/-- Loading declared modules fails while they are made ready, if at all. -/
theorem init_failsKeeping (files : Files) (entries : List Entry) :
    (Registry.init files entries).FailsKeeping (Within .handles) := by
  refine .bind (stage_within files entries) fun staged => ?_
  -- Once everything is ready, nothing can go wrong any more.
  refine Operation.Succeeds.failsKeeping ?_
  exact (Operation.Succeeds.modify _).bind fun _ =>
    (updateCatalog_succeeds _).bind fun _ => Operation.Succeeds.pure _

/-- A context replaces another one, or there is none and nothing happens. -/
theorem replace_failsKeeping (c : Context) : (Registry.replace c).FailsKeeping (Within .handles) := by
  refine .bind Operation.Keeps.get fun r => ?_
  -- The only failure is that the name is not taken.
  split
  · exact (Operation.Keeps.throw _).failsKeeping
  · exact ((updateCatalog_succeeds _).bind fun _ => Operation.Succeeds.pure _).failsKeeping

/-- An upload is refused before anything is registered, also at the last moment. -/
theorem insertUpload_failsKeeping (c : Context) : (insertUpload c).FailsKeeping (Within .handles) := by
  refine .bind Operation.Keeps.get fun r => ?_
  split
  · exact (updateCatalog_succeeds _).failsKeeping
  · split
    -- A static module came in between.
    · exact .bind (Operation.Keeps.throw _) fun _ => (updateCatalog_succeeds _).failsKeeping
    · exact (updateCatalog_succeeds _).failsKeeping

theorem registerDynamic_failsKeeping (name : String) (bytes : ByteArray) (mode : Option ExecutionMode) :
    (registerDynamic name bytes mode).FailsKeeping (Within .handles) := by
  -- Everything up to the last step only prepares.
  refine .bind (inheritedIntent_keeps name) fun inherited => ?_
  refine .bind (contextOfUpload_within name bytes _) fun c => ?_
  exact (insertUpload_failsKeeping c).bind_succeeds fun _ => Operation.Succeeds.pure _

/-- A file that cannot be loaded leaves the module that is there. -/
theorem refresh_failsKeeping (files : Files) (name : String) :
    (refresh files name).FailsKeeping (Within .handles) := by
  refine .bind (reread_keeps files name) fun found => ?_
  -- Once the new module has a context, nothing can go wrong any more.
  split
  · exact (Operation.Keeps.pure _).failsKeeping
  · refine .bind (createContext_within _) fun c => ?_
    refine .bind (warn_within _) fun _ => ?_
    exact ((updateCatalog_succeeds _).bind fun _ => Operation.Succeeds.pure _).failsKeeping

/-- A failed request leaves the contexts by name, their order, the artifacts and the configured names as
they were, wherever it failed. -/
theorem failed_request_keeps_tables {q : Request} {r after : Registry} {why : HostError}
    (failed : q.perform.on r = (.error why, after)) : SameTables r after := by
  -- Each request either only prepares, or cannot fail after its first effect.
  have keeping : q.perform.FailsKeeping (Within .handles) := by
    cases q with
    | make m strategy =>
      cases strategy with
      | none => exact ((createContext_within m).map _).failsKeeping
      | some strategy => exact ((contextOf_within m strategy).map _).failsKeeping
    | add c => exact (updateCatalog_succeeds _).failsKeeping.map _
    | replace c => exact (replace_failsKeeping c).map _
    | remove name =>
      refine Operation.FailsKeeping.map ?_ _
      refine .bind Operation.Keeps.get fun r => ?_
      exact ((updateCatalog_succeeds _).bind fun _ => Operation.Succeeds.pure _).failsKeeping
    | init files entries => exact (init_failsKeeping files entries).map _
    | upload name bytes mode => exact (registerDynamic_failsKeeping name bytes mode).map _
    | reload files name => exact (refresh_failsKeeping files name).map _
    | resolve files c => exact ((resolve_within rfl files c).map _).failsKeeping
    | call h exported arguments => exact ((callHandle_within h exported arguments).map _).failsKeeping
    | addArtifact name artifact => exact (Operation.Succeeds.modify _).failsKeeping.map _
    | removeArtifact name =>
      -- Whether there was an artifact or not, removing it succeeds.
      intro r why after failed
      cases failed
  exact (keeping r why after failed).sameTables rfl rfl

/-- The second of two declared modules has no payload anywhere, so that the artifact of the first one is not
registered and the module that was there stays. -/
theorem failed_init_keeps_kept_module :
    ∃ host after : Registry, host.catalog.names = ["kept"] ∧
      (Request.init .empty
        [{ Entry.ofUpload "ready" with artifact := some "ready.cwasm" },
          Entry.ofResource "ghost" "ghost.wasm"]).perform.on host =
        (.error (.invalidConfig (.resourceNotFound "ghost.wasm")), after) ∧
      SameTables host after := by
  let kept : Context := ⟨0, ⟨"kept", .dynamic, none, none, .standard⟩, .compileNow⟩
  let host : Registry :=
    { create .prodJit .standard .empty with
      catalog := Catalog.empty.insert kept
      made := [kept] }
  let request := Request.init .empty
    [{ Entry.ofUpload "ready" with artifact := some "ready.cwasm" }, Entry.ofResource "ghost" "ghost.wasm"]
  have failed : request.perform.on host =
      (.error (.invalidConfig (.resourceNotFound "ghost.wasm")), (request.perform.on host).2) := rfl
  exact ⟨host, _, rfl, failed, failed_request_keeps_tables failed⟩

end WasmHost.Registry
