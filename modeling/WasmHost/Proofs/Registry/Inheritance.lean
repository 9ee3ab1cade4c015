import Mathlib.Data.List.Induction
import WasmHost.Proofs.Registry.Interleaving
import WasmHost.Proofs.Registry.Provenance
import WasmHost.Proofs.Strategy

/-! Inheritance: uploads of one name at the same time, and what they leave of the intent that was declared for it. -/

namespace WasmHost

namespace Registry

variable {name : String} {bytes : ByteArray} {mode : Option ExecutionMode} {r : Registry}

/-! ### One upload -/

/-- Bytes are accepted as a payload that has all functions that must be interpreted. -/
structure Accepted (name : String) (interpreted : List Nat) (bytes : ByteArray) (payload : Payload) : Prop where
  sized : checkSize name bytes.size = .ok ()
  parsed : Payload.parse name bytes = .ok payload
  complete : interpreted.find? (payload.functionCount ≤ ·) = none

/-- What is made of an upload that is accepted. -/
theorem contextOfUpload_accepted {intent : Intent} {after : Registry} {c : Context}
    (made : (contextOfUpload name bytes intent).on r = (.ok c, after)) :
    ∃ payload, Accepted name intent.interpreted bytes payload ∧
      c.hosted = ⟨name, .dynamic, some payload, none, intent⟩ := by
  obtain ⟨payload, sized, parsed, checked, _⟩ := contextOfUpload_eq_ok made
  obtain ⟨complete, same⟩ := HostedModule.ofDynamic_eq_ok_iff.mp checked
  exact ⟨payload, ⟨sized, parsed, complete⟩, same⟩

/-- An upload that can be accepted is accepted: some strategy is selected for every dynamic module. -/
theorem contextOfUpload_of_accepted {intent : Intent} {payload : Payload}
    (accepted : Accepted name intent.interpreted bytes payload) (r : Registry) :
    ∃ c after, (contextOfUpload name bytes intent).on r = (.ok c, after) ∧ after.catalog = r.catalog ∧
      c.hosted = ⟨name, .dynamic, some payload, none, intent⟩ := by
  have checked : HostedModule.ofDynamic name (some payload) intent = .ok ⟨name, .dynamic, some payload, none, intent⟩ :=
    HostedModule.ofDynamic_eq_ok_iff.mpr ⟨accepted.complete, rfl⟩
  have other : ¬ Strategy.Prebuilt r.deployment .dynamic intent := by simp [Strategy.Prebuilt]
  obtain ⟨strategy, _, selected⟩ := Strategy.select_of_not_prebuilt other name
  have quiet : Within .quiet r ((contextOfUpload name bytes intent).on r).2 := contextOfUpload_within _ _ _ r
  simp only [contextOfUpload, Operation.on_bind, Operation.on_lift, accepted.sized, accepted.parsed, checked,
    createContext_on, contextWith_on] at quiet ⊢
  rcases outcome : Strategy.select r.deployment (r.artifacts.contains name) name .dynamic intent with
    ⟨why | chosen, warnings⟩
  · -- The selection does not fail.
    have failed := selected (r.artifacts.contains name)
    rw [outcome] at failed
    cases failed
  · rw [outcome] at quiet
    exact ⟨_, _, rfl, quiet.catalog rfl, rfl⟩

/-- The intent that an upload of a name inherits. -/
def intentOf (r : Registry) (name : String) : Intent := ((r.get? name).map (·.hosted.intent)).getD .standard

theorem intentOf_of_get? {c : Context} (found : r.get? name = some c) : r.intentOf name = c.hosted.intent := by
  rw [intentOf, found, Option.map_some, Option.getD_some]

/-- No static module has a name. -/
def Free (name : String) (r : Registry) : Prop := ∀ c, r.get? name = some c → c.origin = .dynamic

theorem inheritedIntent_on (free : Free name r) : (inheritedIntent name).on r = (.ok (r.intentOf name), r) := by
  rw [inheritedIntent, Operation.on_bind, Operation.on_get, intentOf]
  cases found : r.get? name with
  | none => simp [found]
  | some c => simp [found, free c found]

/-- If an upload looks a name up successfully, it has found its intent. -/
theorem inheritedIntent_eq_ok {inherited : Intent} {after : Registry}
    (looked : (inheritedIntent name).on r = (.ok inherited, after)) : inherited = r.intentOf name ∧ after = r := by
  rw [inheritedIntent, Operation.on_bind, Operation.on_get] at looked
  rw [intentOf]
  -- A static module makes the upload fail, so whatever was found is dynamic.
  cases found : r.get? name with
  | none =>
    simp only [found] at looked
    cases looked
    exact ⟨rfl, rfl⟩
  | some c =>
    simp only [found] at looked
    split at looked
    · cases looked
    · cases looked
      exact ⟨rfl, rfl⟩

/-- A context is registered under a free name. -/
theorem insertUpload_of_free {c : Context} (free : Free c.name r) :
    (insertUpload c).on r = (.ok (), { r with catalog := r.catalog.insert c }) := by
  have admitted : (r.get? c.name).any (·.origin = .static) = false := by
    cases found : r.get? c.name with
    | none => rfl
    | some other => simp [free other found]
  rw [insertUpload_on, admitted]
  rfl

/-- An upload that can be accepted for the intent of its name leaves a module with that intent, but for the mode. -/
theorem upload_on (free : Free name r) {payload : Payload}
    (accepted : Accepted name (r.intentOf name).interpreted bytes payload) (mode : Option ExecutionMode) :
    ∃ c, ((Request.upload name bytes mode).perform.on r).2.get? name = some c ∧
      c.hosted = ⟨name, .dynamic, some payload, none,
        { r.intentOf name with mode := mode.or (r.intentOf name).mode }⟩ := by
  have again : Accepted name ({ r.intentOf name with mode := mode.or (r.intentOf name).mode } : Intent).interpreted
      bytes payload := accepted
  obtain ⟨c, after, made, unchanged, same⟩ := contextOfUpload_of_accepted again r
  have named : c.name = name := by rw [Context.name, same]
  -- Making the context does not change what stands under the name.
  have still : Free c.name after := by
    intro other found
    rw [get?, unchanged, named] at found
    exact free other found
  have whole : (registerDynamic name bytes mode).on r = (.ok c, { after with catalog := after.catalog.insert c }) := by
    simp only [registerDynamic, Operation.on_bind, inheritedIntent_on free, made, insertUpload_of_free still,
      Operation.on_pure]
  refine ⟨c, ?_, same⟩
  rw [Request.perform, Operation.on_map, whole, get?_insert, if_pos named.symm]

/-! ### Uploads one after the other -/

/-- The mode that is wanted, if any. -/
def Request.wanted : Request → Option ExecutionMode
  | .upload _ _ mode => mode
  | _ => none

/-- The mode that was wanted last, or else the first one. -/
def lastMode (first : Option ExecutionMode) (requests : List Request) : Option ExecutionMode :=
  requests.foldl (fun inherited q => q.wanted.or inherited) first

theorem lastMode_concat (first : Option ExecutionMode) (requests : List Request) (q : Request) :
    lastMode first (requests ++ [q]) = q.wanted.or (lastMode first requests) := by
  rw [lastMode, List.foldl_append, List.foldl_cons, List.foldl_nil, lastMode]

/-- If a mode was wanted at all, then the last mode was. -/
theorem lastMode_cases (first : Option ExecutionMode) (requests : List Request) :
    (∃ q ∈ requests, ∃ mode, q.wanted = some mode ∧ lastMode first requests = some mode) ∨
      (∀ q ∈ requests, q.wanted = none) ∧ lastMode first requests = first := by
  -- The last request decides, if it wants anything.
  induction requests using List.reverseRecOn with
  | nil => exact .inr ⟨by simp, rfl⟩
  | append_singleton requests q ih =>
    rw [lastMode_concat]
    cases wanted : q.wanted with
    | some mode => exact .inl ⟨q, by simp, mode, wanted, rfl⟩
    | none =>
      rw [Option.none_or]
      rcases ih with ⟨other, member, mode, asked, same⟩ | ⟨none, same⟩
      · exact .inl ⟨other, List.mem_append_left _ member, mode, asked, same⟩
      · refine .inr ⟨fun other member => ?_, same⟩
        rcases List.mem_append.mp member with before | last
        · exact none other before
        · rw [List.mem_singleton.mp last, wanted]

/-- Of several requests, one can be the last so that a mode is left that it wants itself, or that another one wants, or
that was there if none does. -/
theorem exists_order {first inherited : Option ExecutionMode} {requests : List Request} {q : Request}
    (member : q ∈ requests)
    (possible : q.wanted = none → (∃ mode, inherited = some mode ∧ ∃ other ∈ requests, other.wanted = some mode) ∨
      inherited = first ∧ ∀ other ∈ requests, other.wanted = none) :
    ∃ earlier, (earlier ++ [q]).Perm requests ∧ q.wanted.or (lastMode first earlier) = q.wanted.or inherited := by
  obtain ⟨before, after, rfl⟩ := List.append_of_mem member
  have last : ∀ earlier, earlier.Perm (before ++ after) → (earlier ++ [q]).Perm (before ++ q :: after) := fun earlier same =>
    (List.perm_append_singleton q earlier).trans ((same.cons q).trans List.perm_middle.symm)
  cases wanted : q.wanted with
  | some mode => exact ⟨before ++ after, last _ (.refl _), by simp⟩
  | none =>
    simp only [Option.none_or]
    rcases possible wanted with ⟨mode, rfl, other, there, wants⟩ | ⟨rfl, none⟩
    · -- The one that wants the mode comes right before the last one.
      have elsewhere : other ∈ before ++ after := by
        rcases List.mem_append.mp there with early | late
        · exact List.mem_append_left _ early
        · rcases List.mem_cons.mp late with rfl | late
          · cases wanted.symm.trans wants
          · exact List.mem_append_right _ late
      obtain ⟨front, back, split⟩ := List.append_of_mem elsewhere
      refine ⟨front ++ back ++ [other], last _ ?_, by rw [lastMode_concat, wants, Option.some_or]⟩
      rw [split]
      exact (List.perm_append_singleton other _).trans List.perm_middle.symm
    · refine ⟨before ++ after, last _ (.refl _), ?_⟩
      rcases lastMode_cases inherited (before ++ after) with ⟨other, there, mode, wants, _⟩ | ⟨_, same⟩
      · -- Nobody wants a mode.
        have there : other ∈ before ++ q :: after := List.perm_middle.symm.subset (List.mem_cons_of_mem q there)
        cases (none other there).symm.trans wants
      · exact same

/-- A request is an upload of a name that can be accepted. -/
def Fitting (name : String) (interpreted : List Nat) (q : Request) : Prop :=
  ∃ bytes mode payload, q = .upload name bytes mode ∧ Accepted name interpreted bytes payload

/-- After uploads in turn, the name has the intent from before, with the mode that was wanted last. -/
theorem inTurn_uploads (free : Free name r) {requests : List Request}
    (fitting : ∀ q ∈ requests, Fitting name (r.intentOf name).interpreted q) :
    Free name (inTurn r requests) ∧ (inTurn r requests).intentOf name =
      { r.intentOf name with mode := lastMode (r.intentOf name).mode requests } := by
  -- The last upload inherits what those before it have left.
  induction requests using List.reverseRecOn with
  | nil => exact ⟨free, rfl⟩
  | append_singleton requests q ih =>
    obtain ⟨still, intent⟩ := ih fun other member => fitting other (List.mem_append_left _ member)
    obtain ⟨bytes, mode, payload, rfl, accepted⟩ := fitting q (by simp)
    have again : Accepted name ((inTurn r requests).intentOf name).interpreted bytes payload := by
      rw [intent]
      exact accepted
    obtain ⟨c, registered, same⟩ := upload_on still again mode
    rw [inTurn_concat, lastMode_concat]
    refine ⟨fun d found => ?_, ?_⟩
    · cases registered.symm.trans found
      rw [Context.origin, same]
    · rw [intentOf_of_get? registered, same, intent]
      rfl

/-- The last of several uploads in turn supplies the payload. -/
theorem inTurn_concat_upload (free : Free name r) {requests : List Request}
    (fitting : ∀ q ∈ requests, Fitting name (r.intentOf name).interpreted q) {payload : Payload}
    (accepted : Accepted name (r.intentOf name).interpreted bytes payload) (mode : Option ExecutionMode) :
    ∃ c, (inTurn r (requests ++ [.upload name bytes mode])).get? name = some c ∧
      c.hosted = ⟨name, .dynamic, some payload, none,
        { r.intentOf name with mode := mode.or (lastMode (r.intentOf name).mode requests) }⟩ := by
  obtain ⟨still, intent⟩ := inTurn_uploads free fitting
  -- The functions to be interpreted are inherited all along, so the upload is accepted as at first.
  have again : Accepted name ((inTurn r requests).intentOf name).interpreted bytes payload := by
    rw [intent]
    exact accepted
  obtain ⟨c, registered, same⟩ := upload_on still again mode
  rw [intent] at same
  exact ⟨c, by rw [inTurn_concat]; exact registered, same⟩

/-! ### Uploads at the same time -/

/-- An intent goes back to a first one: at most its mode is another one, and that one is wanted. -/
structure Inherits (first : Intent) (wanted : ExecutionMode → Prop) (i : Intent) : Prop where
  fallback : i.fallback = first.fallback
  interpreted : i.interpreted = first.interpreted
  mode : i.mode = first.mode ∨ ∃ mode, i.mode = some mode ∧ wanted mode

/-- A module is made of an upload, which has inherited its intent but for the mode that it wants. -/
def MadeOf (name : String) (bytes : ByteArray) (mode : Option ExecutionMode) (inherits : Intent → Prop)
    (m : HostedModule) : Prop :=
  ∃ payload inherited, inherits inherited ∧ Accepted name inherited.interpreted bytes payload ∧
    m = ⟨name, .dynamic, some payload, none, { inherited with mode := mode.or inherited.mode }⟩

/-- What the steps of an upload do: the stages before and after each, with the registry after it. -/
inductive UploadStep (name : String) (bytes : ByteArray) (mode : Option ExecutionMode) (r : Registry) :
    Stage (.upload name bytes mode) → Stage (.upload name bytes mode) → Registry → Prop where
  /-- It looks up the intent of the name. -/
  | looks : UploadStep name bytes mode r .asked (.admitted (r.intentOf name)) r
  /-- It makes its context. -/
  | makes {inherited : Intent} {c : Context} {after : Registry} (made : MadeOf name bytes mode (· = inherited) c.hosted)
      (same : after.catalog = r.catalog) : UploadStep name bytes mode r (.admitted inherited) (.prepared c) after
  /-- It registers its context. -/
  | inserts (c : Context) :
      UploadStep name bytes mode r (.prepared c) (.finished (.ok (.context c))) { r with catalog := r.catalog.insert c }
  /-- It fails, and registers nothing. -/
  | fails {stage : Stage (.upload name bytes mode)} {why : HostError} {after : Registry}
      (same : after.catalog = r.catalog) : UploadStep name bytes mode r stage (.finished (.error why)) after

/-- An upload that has not answered takes one of these steps. -/
theorem next_uploadStep {stage : Stage (.upload name bytes mode)}
    (waiting : Thread.isFinished ⟨.upload name bytes mode, stage⟩ = false) (r : Registry) :
    ∃ later, (Thread.next ⟨.upload name bytes mode, stage⟩ r).1 = ⟨.upload name bytes mode, later⟩ ∧
      UploadStep name bytes mode r stage later (Thread.next ⟨.upload name bytes mode, stage⟩ r).2 := by
  -- Every stage has one step, which fails or leads to the next stage.
  have within := stage.advance_within r
  unfold Thread.next
  rcases outcome : stage.advance.on r with ⟨why | later, after⟩
  · rw [outcome] at within
    refine ⟨_, rfl, .fails ?_⟩
    cases stage with
    | prepared c =>
      -- A context that is refused is not registered.
      simp only [Stage.advance, Operation.on_bind, insertUpload_on] at outcome
      by_cases refused : (r.get? c.name).any (·.origin = .static)
      · rw [if_pos refused] at outcome
        cases outcome
        rfl
      · rw [if_neg refused] at outcome
        cases outcome
    | finished answer => cases waiting
    | _ => exact within.catalog rfl
  · rw [outcome] at within
    refine ⟨later, rfl, ?_⟩
    cases stage with
    | asked =>
      obtain ⟨inherited, looked, rfl⟩ := Operation.on_map_eq_ok outcome
      obtain ⟨rfl, rfl⟩ := inheritedIntent_eq_ok looked
      exact .looks
    | admitted inherited =>
      obtain ⟨c, made, rfl⟩ := Operation.on_map_eq_ok outcome
      obtain ⟨payload, accepted, same⟩ := contextOfUpload_accepted made
      exact .makes ⟨payload, inherited, rfl, accepted, same⟩ (within.catalog rfl)
    | prepared c =>
      obtain ⟨_, _, inserted, done⟩ := Operation.on_bind_eq_ok outcome
      cases done
      rw [insertUpload_on] at inserted
      split at inserted
      · cases inserted
      · cases inserted
        exact .inserts c
    | finished answer => cases waiting

theorem Inherits.mono {first i : Intent} {wanted more : ExecutionMode → Prop} (inherits : Inherits first wanted i)
    (implies : ∀ mode, wanted mode → more mode) : Inherits first more i :=
  ⟨inherits.fallback, inherits.interpreted, inherits.mode.imp_right fun ⟨mode, same, asked⟩ => ⟨mode, same, implies mode asked⟩⟩

theorem MadeOf.mono {inherits others : Intent → Prop} {m : HostedModule} (made : MadeOf name bytes mode inherits m)
    (implies : ∀ i, inherits i → others i) : MadeOf name bytes mode others m := by
  obtain ⟨payload, inherited, holds, accepted, same⟩ := made
  exact ⟨payload, inherited, implies inherited holds, accepted, same⟩

/-- The intent of such a module may be inherited in turn, once the mode of the upload counts as wanted. -/
theorem MadeOf.inherits {first : Intent} {wanted : ExecutionMode → Prop} {m : HostedModule}
    (made : MadeOf name bytes mode (Inherits first wanted) m) (counts : ∀ wish, mode = some wish → wanted wish) :
    Inherits first wanted m.intent := by
  obtain ⟨payload, inherited, inherits, _, rfl⟩ := made
  refine ⟨inherits.fallback, inherits.interpreted, ?_⟩
  cases mode with
  | none => exact inherits.mode
  | some wish => exact .inr ⟨wish, rfl, counts wish rfl⟩

/-- What an upload has found out so far is based on an intent of some kind. -/
def Stage.Heeds (inherits : Intent → Prop) {q : Request} : Stage q → Prop
  | .admitted inherited => inherits inherited
  | @Stage.prepared name bytes mode c => MadeOf name bytes mode inherits c.hosted
  | _ => True

theorem Stage.Heeds.mono {inherits others : Intent → Prop} {q : Request} {stage : Stage q} (heeds : stage.Heeds inherits)
    (implies : ∀ i, inherits i → others i) : stage.Heeds others := by
  cases stage with
  | admitted inherited => exact implies inherited heeds
  | prepared c => exact MadeOf.mono heeds implies
  | _ => trivial

namespace Host

variable {s : Host}

/-- Whether an event belongs to uploads of a name. -/
def OnlyUploads (name : String) (_ : Host) : Event → Prop
  | .ask q => ∃ bytes mode, q = .upload name bytes mode
  | .act _ => True

/-- Whether a mode was wanted by a request that was successful. -/
def Wanted (s : Host) (mode : ExecutionMode) : Prop := ∃ q ∈ s.served, q.wanted = some mode

/-- What holds as long as clients only upload modules of one name, since a registry had nothing to do. -/
structure Uploading (r : Registry) (name : String) (s : Host) : Prop where
  uploads : ∀ t ∈ s.threads, ∃ bytes mode, t.request = .upload name bytes mode
  /-- The uploads that are not over have looked up an intent that goes back to the first one. -/
  heeds : ∀ t ∈ s.threads, t.stage.Heeds (Inherits (r.intentOf name) s.Wanted)
  /-- All that were successful can be accepted for that one. -/
  fitting : ∀ q ∈ s.served, Fitting name (r.intentOf name).interpreted q
  /-- Nothing has changed, or what is registered is made of a successful upload. -/
  registered : (s.served = [] ∧ s.registry.get? name = r.get? name) ∨
    ∃ c bytes mode, s.registry.get? name = some c ∧ .upload name bytes mode ∈ s.served ∧
      MadeOf name bytes mode (Inherits (r.intentOf name) s.Wanted) c.hosted

namespace Uploading

/-- Whatever is registered has an intent that goes back to the first one. -/
theorem inherits (uploading : s.Uploading r name) : Inherits (r.intentOf name) s.Wanted (s.registry.intentOf name) := by
  rcases uploading.registered with ⟨_, same⟩ | ⟨c, bytes, mode, found, served, made⟩
  · have first : s.registry.intentOf name = r.intentOf name := by rw [intentOf, same, intentOf]
    exact ⟨by rw [first], by rw [first], .inl (by rw [first])⟩
  · rw [intentOf_of_get? found]
    exact made.inherits fun wish same => ⟨_, served, same⟩

/-- What was known stays true while more uploads are successful. -/
theorem heirs (s : Host) (e : Event) {first i : Intent} (inherits : Inherits first s.Wanted i) :
    Inherits first (s.next e).Wanted i :=
  inherits.mono fun _ ⟨q, served, wanted⟩ => ⟨q, served_next served e, wanted⟩

/-- After a step there are still uploads only, and they heed what was inherited if the one that acts does. -/
theorem next_threads (uploading : s.Uploading r name) {place : Nat} {t : Thread} (found : s.threads[place]? = some t)
    (heeds : (t.next s.registry).1.stage.Heeds (Inherits (r.intentOf name) s.Wanted)) :
    ∀ other ∈ (s.next (.act place)).threads, (∃ bytes mode, other.request = .upload name bytes mode) ∧
      other.stage.Heeds (Inherits (r.intentOf name) (s.next (.act place)).Wanted) := by
  intro other member
  -- The others have not moved, and may heed only what is wanted by more.
  rcases mem_next_act found member with before | rfl
  · exact ⟨uploading.uploads other before, (uploading.heeds other before).mono fun _ => heirs s _⟩
  · refine ⟨?_, heeds.mono fun _ => heirs s _⟩
    rw [Thread.request_next]
    exact uploading.uploads t (List.mem_of_getElem? found)

/-- A step that registers nothing. -/
theorem next_quiet (uploading : s.Uploading r name) {place : Nat} {bytes : ByteArray} {mode : Option ExecutionMode}
    {stage later : Stage (.upload name bytes mode)} (found : s.threads[place]? = some ⟨_, stage⟩)
    (acted : (Thread.next ⟨_, stage⟩ s.registry).1 = ⟨_, later⟩)
    (same : (Thread.next ⟨_, stage⟩ s.registry).2.catalog = s.registry.catalog)
    (heeds : later.Heeds (Inherits (r.intentOf name) s.Wanted)) (unanswered : ∀ answer, later ≠ .finished (.ok answer)) :
    (s.next (.act place)).Uploading r name := by
  -- No request becomes successful by such a step.
  have old : ∀ q ∈ (s.next (.act place)).served, q ∈ s.served := by
    intro q served
    rcases served_of_next_act found served with before | ⟨answer, finished⟩
    · exact before
    · rw [acted] at finished
      cases finished
      exact absurd rfl (unanswered answer)
  have unchanged : (s.next (.act place)).registry.get? name = s.registry.get? name := by
    rw [registry_next_act found, get?, same, get?]
  have threads := uploading.next_threads found (by rw [acted]; exact heeds)
  refine ⟨fun t member => (threads t member).1, fun t member => (threads t member).2,
    fun q served => uploading.fitting q (old q served), ?_⟩
  rw [unchanged]
  rcases uploading.registered with ⟨none, first⟩ | ⟨c, bytes, mode, registered, served, made⟩
  · refine .inl ⟨List.eq_nil_iff_forall_not_mem.mpr fun q served => ?_, first⟩
    have before := old q served
    rw [none] at before
    cases before
  · exact .inr ⟨c, bytes, mode, registered, served_next served _, made.mono fun _ => heirs s _⟩

/-- A context is registered. -/
theorem next_inserts (uploading : s.Uploading r name) {place : Nat} {bytes : ByteArray} {mode : Option ExecutionMode}
    {c : Context} (found : s.threads[place]? = some ⟨.upload name bytes mode, .prepared c⟩)
    (acted : Thread.next ⟨.upload name bytes mode, .prepared c⟩ s.registry =
      (⟨.upload name bytes mode, .finished (.ok (.context c))⟩,
        { s.registry with catalog := s.registry.catalog.insert c })) : (s.next (.act place)).Uploading r name := by
  have made : MadeOf name bytes mode (Inherits (r.intentOf name) s.Wanted) c.hosted :=
    uploading.heeds _ (List.mem_of_getElem? found)
  -- The one that acts is successful from now on, so that its mode counts as wanted.
  have successful : .upload name bytes mode ∈ (s.next (.act place)).served := by
    refine mem_served.mpr ⟨.context c, ?_⟩
    have member := mem_of_next_act found
    rwa [acted] at member
  obtain ⟨payload, inherited, inherits, accepted, same⟩ := made
  have named : c.name = name := by rw [Context.name, same]
  have threads := uploading.next_threads found (by rw [acted]; trivial)
  refine ⟨fun t member => (threads t member).1, fun t member => (threads t member).2, fun q served => ?_,
    .inr ⟨c, bytes, mode, ?_, successful, ?_⟩⟩
  · rcases served_of_next_act found served with before | ⟨answer, finished⟩
    · exact uploading.fitting q before
    · rw [acted] at finished
      cases finished
      exact ⟨bytes, mode, payload, rfl, inherits.interpreted ▸ accepted⟩
  · rw [registry_next_act found, acted, get?_insert, if_pos named.symm]
  · exact ⟨payload, inherited, heirs s _ inherits, accepted, same⟩

/-- Every event keeps it. -/
theorem next (uploading : s.Uploading r name) {e : Event} (enabled : s.Enabled e) (only : s.OnlyUploads name e) :
    (s.next e).Uploading r name := by
  cases e with
  -- A new upload has not looked anything up yet.
  | ask q =>
    obtain ⟨bytes, mode, rfl⟩ := only
    refine ⟨fun t member => ?_, fun t member => ?_, fun q served => ?_, ?_⟩
    · rcases List.mem_append.mp member with before | new
      · exact uploading.uploads t before
      · exact ⟨bytes, mode, by rw [List.mem_singleton.mp new]⟩
    · rcases List.mem_append.mp member with before | new
      · exact (uploading.heeds t before).mono fun _ => heirs s _
      · cases List.mem_singleton.mp new
        trivial
    · rw [served_next_ask] at served
      exact uploading.fitting q served
    · have same : (s.next (.ask (.upload name bytes mode))).Wanted = s.Wanted := by
        funext wish
        rw [Wanted.eq_def, served_next_ask, Wanted.eq_def]
      rw [same, served_next_ask]
      exact uploading.registered
  -- The thread that acts is an upload of this name, at one of its stages.
  | act place =>
    obtain ⟨t, found, waiting, _⟩ := enabled
    obtain ⟨bytes, mode, same⟩ := uploading.uploads t (List.mem_of_getElem? found)
    obtain ⟨q, stage⟩ := t
    obtain rfl : q = .upload name bytes mode := same
    have heeds := uploading.heeds _ (List.mem_of_getElem? found)
    obtain ⟨later, acted, step⟩ := next_uploadStep waiting s.registry
    generalize after : (Thread.next ⟨_, stage⟩ s.registry).2 = registry at step
    -- Only the last step registers anything.
    cases step with
    | looks => exact uploading.next_quiet found acted (by rw [after]) uploading.inherits (by simp)
    | makes made same =>
      exact uploading.next_quiet found acted (by rw [after, same]) (made.mono fun _ same => same ▸ heeds) (by simp)
    | inserts c => exact uploading.next_inserts found (Prod.ext acted after)
    | fails same => exact uploading.next_quiet found acted (by rw [after, same]) trivial (by simp)

theorem of_path (path : Path (OnlyUploads name) ⟨r, []⟩ s) : s.Uploading r name := by
  induction path with
  | refl => exact ⟨by simp, by simp, by simp [served], .inl ⟨rfl, rfl⟩⟩
  | tail _ step ih =>
    obtain ⟨e, enabled, only, rfl⟩ := step
    exact ih.next enabled only

/-- Where an order leaves the same module, its mode was wanted, or none was. -/
theorem wanted_of_order (uploading : s.Uploading r name) (free : Free name r) {order : List Request}
    (permuted : order.Perm s.served) {c d : Context} (ordered : (inTurn r order).get? name = some d)
    (same : d.hosted = c.hosted) :
    (∃ mode, c.hosted.intent.mode = some mode ∧ s.Wanted mode) ∨ ∀ mode, ¬ s.Wanted mode := by
  -- In turn, the mode that is left is the last one that was wanted.
  obtain ⟨_, intent⟩ := inTurn_uploads free fun q member => uploading.fitting q (permuted.subset member)
  have left : c.hosted.intent.mode = lastMode (r.intentOf name).mode order := by
    rw [intentOf_of_get? ordered, same] at intent
    rw [intent]
  rw [left]
  rcases lastMode_cases (r.intentOf name).mode order with ⟨q, member, mode, wanted, last⟩ | ⟨none, _⟩
  · exact .inl ⟨mode, last, q, permuted.subset member, wanted⟩
  · refine .inr fun mode => ?_
    rintro ⟨q, member, wanted⟩
    cases (none q (permuted.symm.subset member)).symm.trans wanted

/-- Where the mode of a registered upload was wanted, or none was, some order leaves the same module. -/
theorem order_of_wanted (uploading : s.Uploading r name) (free : Free name r) {c : Context} {bytes : ByteArray}
    {mode : Option ExecutionMode} (served : .upload name bytes mode ∈ s.served)
    (made : MadeOf name bytes mode (Inherits (r.intentOf name) s.Wanted) c.hosted)
    (wanted : (∃ mode, c.hosted.intent.mode = some mode ∧ s.Wanted mode) ∨ ∀ mode, ¬ s.Wanted mode) :
    ∃ order d, order.Perm s.served ∧ (inTurn r order).get? name = some d ∧ d.hosted = c.hosted := by
  obtain ⟨payload, inherited, inherits, accepted, same⟩ := made
  have possible : (Request.upload name bytes mode).wanted = none →
      (∃ wish, inherited.mode = some wish ∧ ∃ other ∈ s.served, other.wanted = some wish) ∨
        inherited.mode = (r.intentOf name).mode ∧ ∀ other ∈ s.served, other.wanted = none := by
    rintro ⟨⟩
    rw [same] at wanted
    rcases wanted with asked | none
    · exact .inl asked
    · refine .inr ⟨inherits.mode.resolve_right fun ⟨wish, _, asked⟩ => none wish asked, fun other member => ?_⟩
      exact Option.eq_none_iff_forall_ne_some.mpr fun wish asked => none wish ⟨other, member, asked⟩
  obtain ⟨earlier, permuted, left⟩ := exists_order served possible
  have fitting : ∀ q ∈ earlier, Fitting name (r.intentOf name).interpreted q := fun q member =>
    uploading.fitting q (permuted.subset (List.mem_append_left _ member))
  rw [inherits.interpreted] at accepted
  obtain ⟨d, registered, hosted⟩ := inTurn_concat_upload free fitting accepted mode
  refine ⟨_, d, permuted, registered, ?_⟩
  -- The two intents have the same mode, and nothing else could differ.
  have modes : mode.or (lastMode (r.intentOf name).mode earlier) = mode.or inherited.mode := left
  simp only [hosted, same, modes, inherits.fallback, inherits.interpreted]

end Uploading

/-- Uploads of one name at the same time never lose the fallback policy and the functions that were declared for it:
whatever is registered has an intent that goes back to the first one, apart from a mode that a successful upload wanted.
But what is left is what some order of the successful uploads would have left, if and only if its mode is one that was
wanted, or none was: two uploads that look the name up at the same time may lose the mode that one of them wants. -/
theorem uploads_in_turn_iff (free : Free name r) (path : Path (OnlyUploads name) ⟨r, []⟩ s) :
    (∀ c, s.registry.get? name = some c →
      c.origin = .dynamic ∧ Inherits (r.intentOf name) s.Wanted c.hosted.intent ∧
        (s.served ≠ [] → ∃ bytes mode payload, .upload name bytes mode ∈ s.served ∧
          Payload.parse name bytes = .ok payload ∧ c.hosted.payload = some payload)) ∧
      ((∃ order : List Request, order.Perm s.served ∧
          ((inTurn r order).get? name).map (·.hosted) = (s.registry.get? name).map (·.hosted)) ↔
        ∀ c, s.registry.get? name = some c →
          (∃ mode, c.hosted.intent.mode = some mode ∧ s.Wanted mode) ∨ ∀ mode, ¬ s.Wanted mode) := by
  have uploading := Uploading.of_path path
  refine ⟨fun c found => ?_, ?_⟩
  · have inherits := uploading.inherits
    rw [intentOf_of_get? found] at inherits
    -- What is registered was there at first, or was put there by an upload that succeeded.
    rcases uploading.registered with ⟨none, same⟩ | ⟨d, bytes, mode, registered, served, made⟩
    · exact ⟨free c (same.symm.trans found), inherits, fun some => absurd none some⟩
    · obtain rfl := Option.some.inj (registered.symm.trans found)
      obtain ⟨payload, _, _, accepted, hosted⟩ := made
      refine ⟨by rw [Context.origin, hosted], inherits, fun _ => ⟨bytes, mode, payload, served, accepted.parsed, ?_⟩⟩
      rw [hosted]
  · constructor
    · rintro ⟨order, permuted, same⟩ c found
      rw [found, Option.map_some] at same
      obtain ⟨d, ordered, hosted⟩ := Option.map_eq_some_iff.mp same
      exact uploading.wanted_of_order free permuted ordered hosted
    · intro wanted
      rcases uploading.registered with ⟨none, same⟩ | ⟨c, bytes, mode, registered, served, made⟩
      · -- Without a successful upload there is nothing to order.
        exact ⟨[], by rw [none], by rw [same]; rfl⟩
      · obtain ⟨order, d, permuted, ordered, hosted⟩ :=
          uploading.order_of_wanted free served made (wanted c registered)
        exact ⟨order, permuted, by rw [ordered, registered, Option.map_some, Option.map_some, hosted]⟩

/-! ### Two uploads -/

/-- An upload that can be accepted makes a context of what it found out. -/
theorem next_admitted {inherited : Intent} {payload : Payload} (accepted : Accepted name inherited.interpreted bytes payload)
    (mode : Option ExecutionMode) (r : Registry) :
    ∃ c after, Thread.next ⟨.upload name bytes mode, .admitted inherited⟩ r =
        (⟨.upload name bytes mode, .prepared c⟩, after) ∧ after.catalog = r.catalog ∧
      c.hosted = ⟨name, .dynamic, some payload, none, { inherited with mode := mode.or inherited.mode }⟩ := by
  -- A mode does not change the functions to be interpreted.
  have again : Accepted name ({ inherited with mode := mode.or inherited.mode } : Intent).interpreted bytes payload :=
    accepted
  obtain ⟨c, after, made, unchanged, same⟩ := contextOfUpload_of_accepted again r
  refine ⟨c, after, ?_, unchanged, same⟩
  simp only [Thread.next, Stage.advance, Operation.on_map, made]
  rfl

/-- A prepared upload of a free name is registered. -/
theorem next_prepared (name : String) (bytes : ByteArray) (mode : Option ExecutionMode) {c : Context} (free : Free c.name r) :
    Thread.next ⟨.upload name bytes mode, .prepared c⟩ r =
      (⟨.upload name bytes mode, .finished (.ok (.context c))⟩, { r with catalog := r.catalog.insert c }) := by
  simp only [Thread.next, Stage.advance, Operation.on_bind, insertUpload_of_free free]
  rfl

/-- If two uploads look a name up before either of them registers its context, then the one that is registered last
knows nothing of the mode that the other one wants. -/
theorem overlapping_uploads (free : Free name r) {payload : Payload}
    (accepted : Accepted name (r.intentOf name).interpreted bytes payload) (first second : Option ExecutionMode) :
    ∃ s c, Path (OnlyUploads name) ⟨r, []⟩ s ∧
      s.served = [.upload name bytes first, .upload name bytes second] ∧ s.registry.get? name = some c ∧
      c.hosted = ⟨name, .dynamic, some payload, none,
        { r.intentOf name with mode := second.or (r.intentOf name).mode }⟩ := by
  -- Both look the name up; then both make their contexts; then they register them, the first one first.
  have looked : ∀ mode, Thread.next ⟨.upload name bytes mode, .asked⟩ r =
      (⟨.upload name bytes mode, .admitted (r.intentOf name)⟩, r) := fun mode => by
    simp only [Thread.next, Stage.advance, Request.first, Operation.on_map, inheritedIntent_on free]
    rfl
  obtain ⟨c, afterFirst, madeFirst, sameFirst, hostedFirst⟩ := next_admitted accepted first r
  obtain ⟨d, after, made, same, hosted⟩ := next_admitted accepted second afterFirst
  have namedFirst : c.name = name := by rw [Context.name, hostedFirst]
  have named : d.name = name := by rw [Context.name, hosted]
  have freeFirst : Free c.name after := by
    rw [namedFirst]
    intro other found
    rw [get?, same, sameFirst] at found
    exact free other found
  have freeSecond : Free d.name { after with catalog := after.catalog.insert c } := by
    intro other found
    rw [get?_insert, if_pos (named.trans namedFirst.symm)] at found
    cases found
    rw [Context.origin, hostedFirst]
  have insertedFirst := next_prepared name bytes first freeFirst
  have inserted := next_prepared name bytes second freeSecond
  let last : Registry := { after with catalog := (after.catalog.insert c).insert d }
  have asked : Path (OnlyUploads name) ⟨r, []⟩
      ⟨r, [⟨.upload name bytes first, .asked⟩, ⟨.upload name bytes second, .asked⟩]⟩ :=
    .head ⟨.ask (.upload name bytes first), trivial, ⟨bytes, first, rfl⟩, rfl⟩
      (.single ⟨.ask (.upload name bytes second), trivial, ⟨bytes, second, rfl⟩, rfl⟩)
  have admitted : Path (OnlyUploads name) ⟨r, [⟨.upload name bytes first, .asked⟩, ⟨.upload name bytes second, .asked⟩]⟩
      ⟨r, [⟨.upload name bytes first, .admitted (r.intentOf name)⟩,
        ⟨.upload name bytes second, .admitted (r.intentOf name)⟩]⟩ :=
    .head (step_act 0 rfl rfl rfl trivial (looked first))
      (.single (step_act 1 rfl rfl rfl trivial (looked second)))
  have prepared : Path (OnlyUploads name)
      ⟨r, [⟨.upload name bytes first, .admitted (r.intentOf name)⟩,
        ⟨.upload name bytes second, .admitted (r.intentOf name)⟩]⟩
      ⟨after, [⟨.upload name bytes first, .prepared c⟩, ⟨.upload name bytes second, .prepared d⟩]⟩ :=
    .head (step_act 0 rfl rfl rfl trivial madeFirst)
      (.single (step_act 1 rfl rfl rfl trivial made))
  have registered : Path (OnlyUploads name)
      ⟨after, [⟨.upload name bytes first, .prepared c⟩, ⟨.upload name bytes second, .prepared d⟩]⟩
      ⟨last, [⟨.upload name bytes first, .finished (.ok (.context c))⟩,
        ⟨.upload name bytes second, .finished (.ok (.context d))⟩]⟩ :=
    .head (step_act 0 rfl rfl rfl trivial insertedFirst)
      (.single (step_act 1 rfl rfl rfl trivial inserted))
  have found : last.get? name = some d :=
    (get?_insert { after with catalog := after.catalog.insert c } d name).trans (if_pos named.symm)
  exact ⟨_, d, asked.trans (admitted.trans (prepared.trans registered)), rfl, found, hosted⟩

theorem emptyHost_free (name : String) : Free name emptyHost := by
  intro c found
  cases found

/-- The smallest payload is accepted there. -/
theorem exists_accepted : ∃ payload, Accepted "a" (emptyHost.intentOf "a").interpreted Payload.smallest payload := by
  obtain ⟨code, parsed⟩ := Payload.exists_code_of_smallest
  exact ⟨⟨Payload.smallest, code, parsed⟩, ⟨rfl, Payload.parse_of_code parsed "a", rfl⟩⟩

/-- If the upload that is registered last wants a mode itself, then it might have come last altogether. -/
theorem uploads_in_turn_of_last_mode :
    ∃ (s : Host) (c : Context), Path (OnlyUploads "a") ⟨emptyHost, []⟩ s ∧ s.registry.get? "a" = some c ∧
      c.hosted.intent.mode = some .interpreter ∧ c.hosted.intent.fallback = .standard ∧
      s.served = [.upload "a" Payload.smallest none, .upload "a" Payload.smallest (some .interpreter)] ∧
      ∃ order : List Request, order.Perm s.served ∧
        ((inTurn emptyHost order).get? "a").map (·.hosted) = some c.hosted := by
  obtain ⟨payload, accepted⟩ := exists_accepted
  obtain ⟨s, c, path, served, registered, hosted⟩ :=
    overlapping_uploads (emptyHost_free "a") accepted none (some .interpreter)
  obtain ⟨first, ordered⟩ := uploads_in_turn_iff (emptyHost_free "a") path
  have mode : c.hosted.intent.mode = some .interpreter := by rw [hosted]; rfl
  have wanted : s.Wanted .interpreter := ⟨.upload "a" Payload.smallest (some .interpreter), by simp [served], rfl⟩
  -- The mode that is left is the one that was wanted, so the general theorem gives an order.
  obtain ⟨order, permuted, same⟩ := ordered.mpr fun d found => by
    obtain rfl := Option.some.inj (registered.symm.trans found)
    exact .inl ⟨_, mode, wanted⟩
  exact ⟨s, c, path, registered, mode, (first c registered).2.1.fallback, served, order, permuted,
    by rw [same, registered, Option.map_some]⟩

/-- If only the other one wants a mode, then that one is lost, which no order of the two would do. -/
theorem wanted_mode_lost :
    ∃ (s : Host) (c : Context), Path (OnlyUploads "a") ⟨emptyHost, []⟩ s ∧ Free "a" emptyHost ∧
      s.served = [.upload "a" Payload.smallest (some .interpreter), .upload "a" Payload.smallest none] ∧
      s.registry.get? "a" = some c ∧ c.hosted.intent.mode = none ∧
      ∀ order : List Request, order.Perm s.served →
        ((inTurn emptyHost order).get? "a").map (·.hosted) ≠ some c.hosted := by
  obtain ⟨payload, accepted⟩ := exists_accepted
  obtain ⟨s, c, path, served, registered, hosted⟩ :=
    overlapping_uploads (emptyHost_free "a") accepted (some .interpreter) none
  have mode : c.hosted.intent.mode = none := by rw [hosted]; rfl
  have wanted : s.Wanted .interpreter := ⟨.upload "a" Payload.smallest (some .interpreter), by simp [served], rfl⟩
  refine ⟨s, c, path, emptyHost_free "a", served, registered, mode, fun order permuted same => ?_⟩
  obtain ⟨d, ordered, left⟩ := Option.map_eq_some_iff.mp same
  -- Any order would leave a mode that was wanted.
  rcases (Uploading.of_path path).wanted_of_order (emptyHost_free "a") permuted ordered left with ⟨_, some, _⟩ | none
  · cases mode.symm.trans some
  · exact none _ wanted

end Host

end Registry

end WasmHost
