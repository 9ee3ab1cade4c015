import WasmHost.Proofs.Registry.Failure
import WasmHost.Proofs.Registry.Interleaving
import WasmHost.Proofs.Registry.Loading

/-! Provenance: artifacts are registered by the program or by configurations, under the same names. Which one stands
under a name follows from what was asked so far, and it matters who came first. -/

namespace WasmHost.Registry

/-- What the past says about the artifact of a name. -/
structure Ledger where
  /-- What the program registered last and has not removed since. -/
  registered : Option Artifact
  /-- The program was first: since it registered its artifact, modules were loaded that declare one in its place. -/
  replaced : Bool
  /-- The configuration was first: the program registered its artifact in the place of a declared one, which nothing
  replaced since, and then modules were loaded that no longer declare one. -/
  lost : Bool
  /-- What the declared modules supply that were loaded last. -/
  configured : Option Path
  /-- The program removed the artifact, and nobody supplied one since. -/
  removed : Bool

namespace Ledger

/-- What is known at the start, where all that is there counts as the program's. -/
def start (present : Option Artifact) : Ledger := ⟨present, false, false, none, false⟩

/-- What is known after a request. Only modules that were loaded successfully count. -/
def note (name : String) (ledger : Ledger) (q : Request) (succeeded : Bool) : Ledger :=
  match q with
  | .addArtifact other artifact =>
    if other = name then
      { ledger with registered := some artifact, replaced := false, lost := false, removed := false }
    else ledger
  | .removeArtifact other => if other = name then { ledger with registered := none, removed := true } else ledger
  | .init _ entries =>
    let supplied := declaredPath? entries name
    if succeeded then
      { ledger with
        replaced := ledger.replaced || supplied.isSome
        lost := ledger.lost || (!ledger.replaced && ledger.configured.isSome && supplied.isNone)
        configured := supplied
        removed := ledger.removed && supplied.isNone }
    else ledger
  | _ => ledger

end Ledger

/-- Everything that was ever asked of a registry, with what it says about the artifact of a name. -/
inductive History (name : String) : Ledger → Registry → Prop where
  /-- A new registry, which may share artifacts that were registered before. -/
  | start (deployment : Deployment) (factory : Factory) (resources : Resources) (supplied : Artifacts) :
    History name (.start (supplied.get? name))
      { create deployment factory resources with artifacts := supplied }
  /-- One more request, successful or failed. -/
  | next {ledger : Ledger} {r : Registry} (history : History name ledger r) (q : Request) :
    History name (ledger.note name q (q.perform.on r).1.isOk) (q.perform.on r).2

/-- What the past implies for a registry. -/
structure Accounts (name : String) (ledger : Ledger) (r : Registry) : Prop where
  /-- The registry knows what was declared last. -/
  configured : ledger.configured.isSome ↔ name ∈ r.configured
  /-- What the program registered, and no declaration has replaced, is there unless it is lost. -/
  own : ∀ artifact, ledger.registered = some artifact → ¬ ledger.replaced →
    r.artifacts.get? name = if ledger.lost then none else some artifact
  /-- Otherwise the name has what is declared. -/
  declared : (ledger.registered.isSome → ledger.replaced) → ¬ ledger.removed →
    r.artifacts.get? name = ledger.configured.map .file
  /-- Nothing is there that the program removed. -/
  removed : ledger.removed → r.artifacts.get? name = none

namespace Accounts

variable {name : String} {ledger : Ledger} {r after : Registry}

/-- A request that leaves an artifact and what is declared is not noted. -/
theorem of_same (accounts : Accounts name ledger r) (configured : after.configured = r.configured)
    (same : after.artifacts.get? name = r.artifacts.get? name) : Accounts name ledger after := by
  refine ⟨?_, ?_, ?_, ?_⟩
  · rw [configured]
    exact accounts.configured
  -- The other accounts are about the artifact only.
  all_goals rw [same]
  · exact accounts.own
  · exact accounts.declared
  · exact accounts.removed

/-- The program registers an artifact. -/
theorem add (accounts : Accounts name ledger r) (other : String) (artifact : Artifact) :
    Accounts name (ledger.note name (.addArtifact other artifact) true)
      { r with artifacts := r.artifacts.insert other artifact } := by
  simp only [Ledger.note]
  by_cases same : other = name
  · -- From now on it is there, and the program's, whatever was declared.
    subst same
    have stands : (r.artifacts.insert other artifact).get? other = some artifact := by simp
    rw [if_pos rfl]
    refine ⟨accounts.configured, fun mine registered _ => ?_, fun replaced => ?_, nofun⟩
    · cases registered
      exact stands
    · cases replaced rfl
  · rw [if_neg same]
    exact accounts.of_same rfl (by simp [Ne.symm same])

/-- The program removes an artifact, whosever it is. -/
theorem remove (accounts : Accounts name ledger r) (other : String) :
    Accounts name (ledger.note name (.removeArtifact other) true)
      { r with artifacts := r.artifacts.erase other } := by
  simp only [Ledger.note]
  by_cases same : other = name
  · -- From now on nothing is there, and the account says so.
    subst same
    rw [if_pos rfl]
    exact ⟨accounts.configured, nofun, fun _ unremoved => absurd rfl unremoved, fun _ => by simp⟩
  · rw [if_neg same]
    exact accounts.of_same rfl (by simp [Ne.symm same])

/-- Declared modules are loaded. -/
theorem load (accounts : Accounts name ledger r) {files : Files} {entries : List Entry}
    (loaded : Loaded r entries after) : Accounts name (ledger.note name (.init files entries) true) after := by
  have configured : (declaredPath? entries name).isSome ↔ name ∈ after.configured := by
    rw [loaded.configured, List.mem_eraseDups, isSome_declaredPath?]
  have stands := loaded.supplied name
  simp only [← accounts.configured] at stands
  simp only [Ledger.note, if_true]
  cases supplied : declaredPath? entries name with
  | some path =>
    -- What is declared stands there now, in the place of anything else.
    rw [supplied] at configured stands
    refine ⟨configured, fun _ _ kept => ?_, fun _ _ => stands, fun removed => ?_⟩
    · simp at kept
    · simp at removed
  | none =>
    rw [supplied] at configured stands
    refine ⟨configured, fun artifact registered kept => ?_, fun replaced unremoved => ?_, fun removed => ?_⟩
    · -- What is the program's stays, unless the name was declared before.
      have kept : ledger.replaced = false := by simpa using kept
      have before := accounts.own artifact registered (by simp [kept])
      cases declared : ledger.configured <;> cases lost : ledger.lost <;> simp [stands, before, kept, declared, lost]
    · -- What was declared goes.
      have before := accounts.declared (by simpa using replaced) (by simpa using unremoved)
      cases declared : ledger.configured <;> simp [stands, before, declared]
    · -- What was removed is still gone.
      have before := accounts.removed (by simpa using removed)
      simp [stands, before]

/-- Every request keeps the accounts. -/
theorem perform (accounts : Accounts name ledger r) (q : Request) :
    Accounts name (ledger.note name q (q.perform.on r).1.isOk) (q.perform.on r).2 := by
  have within := Thread.perform_within q r
  -- Only three requests touch artifacts or the names that are configured.
  cases q with
  | addArtifact other artifact => exact accounts.add other artifact
  | removeArtifact other => exact accounts.remove other
  | init files entries =>
    rw [Request.perform, Operation.on_map]
    rcases outcome : (Registry.init files entries).on r with ⟨why | report, after⟩
    · -- A failure leaves everything.
      have same := (init_failsKeeping files entries r why after outcome).sameTables rfl rfl
      exact accounts.of_same same.configured (by rw [same.artifacts])
    · exact accounts.load (init_loaded outcome)
  | _ => exact accounts.of_same (within.configured rfl) (by rw [within.artifacts rfl])

end Accounts

/-- A registry agrees with its history. -/
theorem History.accounts {name : String} {ledger : Ledger} {r : Registry} (history : History name ledger r) :
    Accounts name ledger r := by
  induction history with
  | start deployment factory resources supplied =>
    -- Nothing is declared yet, and all that is there counts as the program's.
    refine ⟨by simp [Ledger.start, create], fun artifact registered _ => registered, fun replaced _ => ?_, nofun⟩
    cases found : supplied.get? name with
    | none => rfl
    | some artifact => exact absurd (replaced (by rw [Ledger.start, found]; rfl)) (by simp [Ledger.start])
  | next history q ih => exact ih.perform q

/-- Which artifact stands under a name at any time, and so after declared modules were loaded, successfully or not. What
the program registered and has not removed, and what no declared artifact has replaced since, is there, unless it is
lost: it had taken the place of a declared one, and modules were loaded that no longer declare one. If there is no
such artifact, the name has the one that the modules declare that were loaded last, if they declare one, and if the
program has not removed that one since. -/
theorem artifact_of_history {name : String} {ledger : Ledger} {r : Registry} (history : History name ledger r) :
    (∀ artifact, ledger.registered = some artifact → ¬ ledger.replaced →
        r.artifacts.get? name = if ledger.lost then none else some artifact) ∧
      ((ledger.registered.isSome → ledger.replaced) → ¬ ledger.removed →
        r.artifacts.get? name = ledger.configured.map .file) ∧
      (ledger.removed → r.artifacts.get? name = none) := by
  have accounts := history.accounts
  exact ⟨accounts.own, accounts.declared, accounts.removed⟩

/-- A module that waits for its payload, and whose artifact is declared. -/
def waitingEntry : Entry := { Entry.ofUpload "a" with artifact := some "a.cwasm" }

/-- A host without modules. -/
def emptyHost : Registry := create .prodJit .standard .empty

/-- A module without a payload anywhere, so that nothing is loaded. -/
def ghostEntry : Entry := Entry.ofResource "ghost" "ghost.wasm"

/-- An artifact of the program's own, under a name that is declared. -/
def ownArtifact : Request := .addArtifact "a" (.refused "own")

/-- What the program registers in the place of a declared artifact stays through a loading that fails; what is declared
in the place of the program's stays, too; and what the program removes is gone. -/
theorem artifact_through_failure :
    (∃ ledger r, History "a" ledger r ∧ ledger.registered = some (.refused "own") ∧ ¬ ledger.replaced ∧
      ledger.configured.isSome ∧ r.artifacts.get? "a" = some (.refused "own")) ∧
    (∃ ledger r, History "a" ledger r ∧ ledger.registered.isSome ∧ ledger.replaced ∧ ¬ ledger.removed ∧
      r.artifacts.get? "a" = some (.file "a.cwasm")) ∧
    ∃ ledger r, History "a" ledger r ∧ ledger.removed ∧ ledger.configured.isSome ∧ r.artifacts.get? "a" = none := by
  have start : History "a" (.start none) emptyHost := .start _ _ _ .empty
  have declared := start.next (.init .empty [waitingEntry])
  -- Each side comes first once, and a loading that fails comes last.
  have after := (declared.next ownArtifact).next (.init .empty [ghostEntry])
  have before := ((start.next ownArtifact).next (.init .empty [waitingEntry])).next (.init .empty [ghostEntry])
  have gone := (declared.next (.removeArtifact "a")).next (.init .empty [ghostEntry])
  have own := (artifact_of_history after).1 (.refused "own") rfl (by decide +kernel)
  have file := (artifact_of_history before).2.1 (by decide +kernel) (by decide +kernel)
  have none := (artifact_of_history gone).2.2 (by decide +kernel)
  refine ⟨⟨_, _, after, rfl, ?_, ?_, own.trans (if_neg ?_)⟩, ⟨_, _, before, ?_, ?_, ?_, file.trans rfl⟩,
    ⟨_, _, gone, ?_, ?_, none⟩⟩
  all_goals decide +kernel

/-- The program loses an artifact that nobody else put there, and that it has not removed: the name was declared when
the program registered it, and then it was dropped from the declarations. -/
theorem own_artifact_lost :
    ∃ ledger r, History "a" ledger r ∧ ledger.registered = some (.refused "own") ∧ ¬ ledger.replaced ∧
      r.artifacts.get? "a" = some (.refused "own") ∧ ((Request.init .empty []).perform.on r).1.isOk ∧
      ((Request.init .empty []).perform.on r).2.artifacts.get? "a" = none := by
  have start : History "a" (.start none) emptyHost := .start _ _ _ .empty
  refine ⟨_, _, (start.next (.init .empty [waitingEntry])).next ownArtifact, rfl, ?_, rfl, ?_, ?_⟩
  all_goals decide +kernel

end WasmHost.Registry
