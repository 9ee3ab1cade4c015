import WasmHost.Proofs.Handle
import WasmHost.Proofs.Payload
import WasmHost.Proofs.Registry.Interleaving
import WasmHost.Proofs.Registry.Tables

/-! Resolutions: the handle of a context is built at most once, and everybody gets what came of it. -/

namespace WasmHost

namespace Slot

/-- A slot that was filled has an answer. -/
theorem answer?_ofAttempt (name : String) (attempt : Except HostError Handle) :
    ((ofAttempt attempt).answer? name).isSome := by
  cases attempt <;> rfl

/-- An answer is the handle in the slot or the failure in it. -/
theorem eq_of_answer? {slot : Slot} {name : String} {answer : Except HostError Handle}
    (answers : slot.answer? name = some answer) :
    (∃ h, slot = .built h ∧ answer = .ok h) ∨
      ∃ cause, slot = .failed cause ∧ answer = .error (.unusable name cause) := by
  cases slot with
  | empty => cases answers
  | built h => exact .inl ⟨h, rfl, (Option.some.inj answers).symm⟩
  | failed cause => exact .inr ⟨cause, rfl, (Option.some.inj answers).symm⟩

end Slot

namespace Registry

/-- What every call on a context gets from now on, if that is known already. -/
def settled (r : Registry) (c : Context) : Option (Except HostError Handle) :=
  if c.hosted.payload.isNone then some (.error (.missingPayload c.name)) else (r.slot c).answer? c.name

/-- The number of times that building the handle of a context was begun. -/
def begun (r : Registry) (id : Nat) : Nat := r.tried.countP (·.id = id)

/-- Whether the slot of a context is filled, as a number. -/
def filled (r : Registry) (id : Nat) : Nat := if (r.slots.lookup id).isSome then 1 else 0

/-- With a payload the slot decides. -/
theorem settled_of_payload {c : Context} (payload : c.hosted.payload.isSome) (r : Registry) :
    r.settled c = (r.slot c).answer? c.name := by
  rw [settled, if_neg]
  simp [Option.isSome_iff_ne_none.mp payload]

/-- Without a payload the outcome is known from the start. -/
theorem settled_of_bare {c : Context} (bare : c.hosted.payload = none) (r : Registry) :
    r.settled c = some (.error (.missingPayload c.name)) := by
  rw [settled, if_pos]
  simp [bare]

theorem payload_of_unsettled {r : Registry} {c : Context} (unsettled : r.settled c = none) :
    c.hosted.payload.isSome := by
  refine Option.isSome_iff_ne_none.mpr fun bare => ?_
  rw [settled_of_bare bare] at unsettled
  cases unsettled

theorem begun_cons (r : Registry) (c : Context) (id : Nat) :
    begun { r with tried := c :: r.tried } id = r.begun id + if c.id = id then 1 else 0 := by
  simp [begun, List.countP_cons]

theorem filled_cons (r : Registry) (c : Context) (slot : Slot) (warnings : List Warning) (id : Nat) :
    filled { r with slots := (c.id, slot) :: r.slots, warnings := warnings } id =
      if id = c.id then 1 else r.filled id := by
  rw [filled, lookup_cons_ite]
  by_cases same : id = c.id
  · rw [if_pos same, if_pos same]
    rfl
  · rw [if_neg same, if_neg same, filled]

/-- A filled slot settles what a context with a payload answers, and nothing else. -/
theorem settled_cons (r : Registry) (c d : Context) (slot : Slot) (warnings : List Warning) :
    settled { r with slots := (c.id, slot) :: r.slots, warnings := warnings } d =
      if d.hosted.payload.isSome ∧ d.id = c.id then slot.answer? d.name else r.settled d := by
  -- Contexts with the same identity share the slot.
  simp only [settled, Registry.slot, lookup_cons_ite]
  by_cases same : d.id = c.id
  · cases d.hosted.payload <;> simp [same]
  · simp [same]

/-- The first step of a resolution finds what is known. -/
theorem knownHandle_on (c : Context) (r : Registry) :
    (knownHandle c).on r =
      ((match r.settled c with
        | none => .ok none
        | some outcome => outcome.map some), r) := by
  -- Both ask for the payload first, and then look into the slot.
  unfold knownHandle settled
  by_cases without : c.hosted.payload.isNone
  · simp [without, Except.map]
  · cases answered : (r.slot c).answer? c.name <;> simp [without, answered]

/-- A resolution without interruption, if the outcome is known. -/
theorem resolve_of_settled {files : Files} {c : Context} {r : Registry} {outcome : Except HostError Handle}
    (settled : r.settled c = some outcome) : (Registry.resolve files c).on r = (outcome, r) := by
  simp only [Registry.resolve, Operation.on_bind, knownHandle_on, settled]
  cases outcome <;> rfl

/-- A resolution without interruption, if the handle must be built. -/
theorem resolve_of_unsettled {files : Files} {c : Context} {r : Registry} (unsettled : r.settled c = none) :
    (Registry.resolve files c).on r = (finishBuild files c).on { r with tried := c :: r.tried } := by
  simp only [Registry.resolve, Operation.on_bind, knownHandle_on, unsettled, beginBuild_on]

/-- A resolution fills the slot of its context, if any. -/
theorem resolve_slots (files : Files) (c : Context) (r : Registry) :
    ((Registry.resolve files c).on r).2.slots = r.slots ∨
      ((Registry.resolve files c).on r).2.slots =
        (c.id, .ofAttempt (r.factory.build r.artifacts files c.hosted c.strategy).1) :: r.slots := by
  -- What is settled is only looked up.
  cases settled : r.settled c with
  | none =>
    rw [resolve_of_unsettled settled, finishBuild_on]
    exact .inr rfl
  | some outcome =>
    rw [resolve_of_settled settled]
    exact .inl rfl

/-- Whoever gets a handle finds it in the slot from then on. -/
theorem slot_of_resolve {files : Files} {c : Context} {h : Handle} {r after : Registry}
    (resolved : (Registry.resolve files c).on r = (.ok h, after)) : after.slot c = .built h := by
  cases known : r.settled c with
  | some outcome =>
    rw [resolve_of_settled known] at resolved
    cases resolved
    -- Only a slot answers with a handle.
    rw [settled_of_payload] at known
    · rcases Slot.eq_of_answer? known with ⟨_, built, same⟩ | ⟨_, _, failed⟩
      · cases same
        exact built
      · cases failed
    · refine Option.isSome_iff_ne_none.mpr fun bare => ?_
      rw [settled_of_bare bare] at known
      cases known
  | none =>
    rw [resolve_of_unsettled known, finishBuild_on] at resolved
    cases attempt : (r.factory.build r.artifacts files c.hosted c.strategy).1 with
    | error why =>
      rw [attempt] at resolved
      cases resolved
    | ok handle =>
      rw [attempt] at resolved
      cases resolved
      simp [slot, Slot.ofAttempt]

namespace Thread

/-- A resolution is over at once if the outcome is known. -/
theorem next_of_settled {files : Files} {c : Context} {r : Registry} {outcome : Except HostError Handle}
    (settled : r.settled c = some outcome) :
    next ⟨.resolve files c, .asked⟩ r = (⟨.resolve files c, .finished (outcome.map .handle)⟩, r) := by
  simp only [next, Stage.advance, Request.first, Operation.on_bind, knownHandle_on, settled]
  cases outcome <;> rfl

/-- A resolution begins to build if the outcome is not known. -/
theorem next_of_unsettled {files : Files} {c : Context} {r : Registry} (unsettled : r.settled c = none) :
    next ⟨.resolve files c, .asked⟩ r =
      (⟨.resolve files c, .building⟩, { r with tried := c :: r.tried }) := by
  simp only [next, Stage.advance, Request.first, Operation.on_bind, knownHandle_on, unsettled]
  rfl

/-- What a builder gets is what the slot answers from then on. -/
theorem next_building (files : Files) (c : Context) (r : Registry) :
    let (attempt, warnings) := r.factory.build r.artifacts files c.hosted c.strategy
    ∃ answer, (Slot.ofAttempt attempt).answer? c.name = some answer ∧
      next ⟨.resolve files c, .building⟩ r =
        (⟨.resolve files c, .finished (answer.map .handle)⟩,
          { r with
            slots := (c.id, Slot.ofAttempt attempt) :: r.slots
            warnings := warnings.reverse ++ r.warnings }) := by
  -- Every attempt leaves a slot that has an answer.
  obtain ⟨answer, answers⟩ := Option.isSome_iff_exists.mp
    (Slot.answer?_ofAttempt c.name (r.factory.build r.artifacts files c.hosted c.strategy).1)
  refine ⟨answer, answers, ?_⟩
  simp only [next, Stage.advance, Operation.on_map, finishBuild_on, answers, Option.getD_some]
  cases answer <;> rfl

end Thread

namespace Host

/-- The number of threads that build the handle of a context. -/
def builders (threads : List Thread) (id : Nat) : Nat := threads.countP fun t => t.builds.any (·.id = id)

/-- The threads that build are the same after a step, apart from the one that took it. -/
theorem builders_set {threads : List Thread} {place : Nat} {t : Thread} (found : threads[place]? = some t)
    (later : Thread) (id : Nat) :
    builders (threads.set place later) id + (if t.builds.any (·.id = id) then 1 else 0) =
      builders threads id + (if later.builds.any (·.id = id) then 1 else 0) := by
  obtain ⟨inside, rfl⟩ := List.getElem?_eq_some_iff.mp found
  rw [builders, builders, List.countP_set inside]
  by_cases counted : threads[place].builds.any (·.id = id)
  · -- The thread itself is one of those that are counted before.
    have some : 0 < threads.countP fun t => t.builds.any (·.id = id) :=
      List.countP_pos_iff.mpr ⟨_, List.getElem_mem inside, counted⟩
    simp only [counted, if_true]
    omega
  · -- Nothing is taken away from the count.
    simp only [counted]
    simp

/-- A step of a thread that builds neither before nor afterwards does not count. -/
theorem builders_set_idle {threads : List Thread} {place : Nat} {t later : Thread}
    (found : threads[place]? = some t) (before : t.builds = none) (after : later.builds = none) (id : Nat) :
    builders (threads.set place later) id = builders threads id := by
  simpa [before, after] using builders_set found later id

/-- What the slots and the threads that fill them have to do with each other. -/
structure Orderly (s : Host) : Prop where
  /-- Building is only begun for contexts with a payload. -/
  tried : ∀ c ∈ s.registry.tried, c ∈ s.registry.made ∧ c.hosted.payload.isSome
  /-- Whatever was begun is going on or has filled the slot. -/
  counted : ∀ id, s.registry.begun id = builders s.threads id + s.registry.filled id
  /-- Building is begun at most once. -/
  once : ∀ id, s.registry.begun id ≤ 1
  /-- What is in a slot was built. -/
  genuine : ∀ id slot, s.registry.slots.lookup id = some slot →
    ∃ c ∈ s.registry.made, c.id = id ∧ ∃ artifacts files,
      slot = .ofAttempt (s.registry.factory.build artifacts files c.hosted c.strategy).1
  /-- Everybody got what is known by now. -/
  answered : ∀ files c outcome, ⟨.resolve files c, .finished outcome⟩ ∈ s.threads →
    ∃ answer, s.registry.settled c = some answer ∧ outcome = answer.map .handle

theorem scope_of_other {q : Request} (other : ∀ files c, q ≠ .resolve files c) : q.scope.builds = false := by
  cases q with
  | resolve files c => exact absurd rfl (other files c)
  | _ => rfl

namespace Orderly

variable {s : Host}

/-- Nothing was built for a context as long as the outcome is not known. -/
theorem unfilled (orderly : s.Orderly) {c : Context} (unsettled : s.registry.settled c = none) :
    s.registry.slots.lookup c.id = none := by
  cases found : s.registry.slots.lookup c.id with
  | none => rfl
  | some slot =>
    -- Whatever was built would be an answer, and settle the outcome.
    obtain ⟨built, _, _, artifacts, files, rfl⟩ := orderly.genuine _ _ found
    have answers := Slot.answer?_ofAttempt c.name
      (s.registry.factory.build artifacts files built.hosted built.strategy).1
    simp only [settled, slot, found, Option.getD_some] at unsettled
    split at unsettled
    · cases unsettled
    · rw [unsettled] at answers
      cases answers

/-- Building is only begun for a context that has a payload. -/
theorem payload_of_begun (orderly : s.Orderly) (rooted : s.Rooted) {c : Context} (known : c ∈ s.registry.made)
    (begun : 0 < s.registry.begun c.id) : c.hosted.payload.isSome := by
  -- The context for which it was begun is this one, since identities are not shared.
  obtain ⟨tried, member, same⟩ := List.countP_pos_iff.mp begun
  obtain ⟨made, payload⟩ := orderly.tried tried member
  rwa [rooted.numbered.eq_of_id_eq made known (of_decide_eq_true same)] at payload

/-- As long as somebody builds, the slot is empty, and there is a payload. -/
theorem open_of_building (orderly : s.Orderly) (rooted : s.Rooted) {place : Nat} {files : Files} {c : Context}
    (found : s.threads[place]? = some ⟨.resolve files c, .building⟩) :
    s.registry.slots.lookup c.id = none ∧ c.hosted.payload.isSome := by
  -- The thread is one of those that count for the only attempt.
  have builds : 0 < builders s.threads c.id :=
    List.countP_pos_iff.mpr ⟨_, List.mem_of_getElem? found, by simp [Thread.builds]⟩
  have counted := orderly.counted c.id
  have once := orderly.once c.id
  constructor
  · have unfilled : s.registry.filled c.id = 0 := by omega
    cases found : s.registry.slots.lookup c.id with
    | none => rfl
    | some slot => simp [filled, found] at unfilled
  · exact orderly.payload_of_begun rooted (rooted.known _ (List.mem_of_getElem? found)) (by omega)

/-- A request leaves everything as it is until its first step. -/
theorem ask (orderly : s.Orderly) (q : Request) : (s.next (.ask q)).Orderly where
  tried := orderly.tried
  counted id := by
    -- A new thread builds nothing.
    have same : builders (s.threads ++ [⟨q, .asked⟩]) id = builders s.threads id := by
      cases q <;> simp [builders, Thread.builds]
    exact (orderly.counted id).trans (by rw [next, same])
  once := orderly.once
  genuine := orderly.genuine
  answered files c outcome member := by
    rcases List.mem_append.mp member with before | new
    · exact orderly.answered files c outcome before
    · cases List.mem_singleton.mp new

/-- A step of a request that is no resolution builds nothing and does not matter. -/
theorem other (orderly : s.Orderly) {place : Nat} {t : Thread} (found : s.threads[place]? = some t)
    (other : ∀ files c, t.request ≠ .resolve files c) : (s.next (.act place)).Orderly := by
  have within := t.next_within s.registry
  have unbuilt : t.request.scope.builds = false := scope_of_other other
  have same := t.request_next s.registry
  rcases step : t.next s.registry with ⟨later, after⟩
  rw [step] at within same
  -- Neither before nor after the step does the thread build anything.
  have idle : ∀ u : Thread, u.request = t.request → u.builds = none := by
    intro u same
    refine Option.eq_none_iff_forall_ne_some.mpr fun c builds => ?_
    obtain ⟨files, rfl⟩ := Thread.eq_of_builds builds
    exact other files c same.symm
  rw [next_act found step]
  refine ⟨fun c begun => ?_, fun id => ?_, fun id => ?_, fun id slot filled => ?_,
    fun files c outcome member => ?_⟩
  · rw [within.tried unbuilt] at begun
    exact ⟨within.made.subset (orderly.tried c begun).1, (orderly.tried c begun).2⟩
  · rw [builders_set_idle found (idle t rfl) (idle _ same), begun, filled, within.tried unbuilt,
      within.slots unbuilt]
    exact orderly.counted id
  · rw [begun, within.tried unbuilt]
    exact orderly.once id
  · rw [within.slots unbuilt] at filled
    obtain ⟨c, made, rest⟩ := orderly.genuine id slot filled
    rw [within.factory]
    exact ⟨c, within.made.subset made, rest⟩
  · rw [settled, slot, within.slots unbuilt]
    rcases List.mem_or_eq_of_mem_set member with before | acted
    · exact orderly.answered files c outcome before
    · rw [← acted] at same
      exact absurd same.symm (other files c)

/-- A resolution whose outcome is known takes it over. -/
theorem look (orderly : s.Orderly) {place : Nat} {files : Files} {c : Context}
    {outcome : Except HostError Handle} (found : s.threads[place]? = some ⟨.resolve files c, .asked⟩)
    (settled : s.registry.settled c = some outcome) : (s.next (.act place)).Orderly := by
  rw [next_act found (Thread.next_of_settled settled)]
  -- The registry stays, and the thread's own outcome is the one that was known.
  refine ⟨orderly.tried, fun id => ?_, orderly.once, orderly.genuine, fun files' c' outcome' member => ?_⟩
  · rw [builders_set_idle found rfl rfl]
    exact orderly.counted id
  · rcases List.mem_or_eq_of_mem_set member with before | acted
    · exact orderly.answered files' c' outcome' before
    · cases acted
      exact ⟨outcome, settled, rfl⟩

/-- A resolution begins to build if nobody did. -/
theorem begin (orderly : s.Orderly) {place : Nat} {files : Files} {c : Context} (known : c ∈ s.registry.made)
    (found : s.threads[place]? = some ⟨.resolve files c, .asked⟩)
    (unblocked : ¬ s.Blocked ⟨.resolve files c, .asked⟩) (unsettled : s.registry.settled c = none) :
    (s.next (.act place)).Orderly := by
  rw [next_act found (Thread.next_of_unsettled unsettled)]
  -- Nobody builds this handle, or the thread would have to wait; nor did anybody before.
  have idle : builders s.threads c.id = 0 := by
    refine List.countP_eq_zero.mpr fun t member builds => unblocked ?_
    obtain ⟨built, builds, same⟩ := (Option.any_eq_true _ _).mp builds
    exact ⟨c, rfl, t, member, built, builds, of_decide_eq_true same⟩
  have untried : s.registry.begun c.id = 0 := by
    rw [orderly.counted, idle, filled, orderly.unfilled unsettled]
    rfl
  refine ⟨fun d begun => ?_, fun id => ?_, fun id => ?_, orderly.genuine, fun files' c' outcome' member => ?_⟩
  · rcases List.mem_cons.mp begun with rfl | before
    · exact ⟨known, payload_of_unsettled unsettled⟩
    · exact orderly.tried d before
  · -- There is one more attempt, and one more thread that builds.
    have more := builders_set found ⟨.resolve files c, .building⟩ id
    simp only [Thread.builds, Option.any_none, Option.any_some, Bool.false_eq_true, if_false] at more
    rw [begun_cons, orderly.counted id]
    simp only [decide_eq_true_eq, filled] at more ⊢
    omega
  · rw [begun_cons]
    by_cases same : c.id = id
    · rw [same] at untried
      rw [if_pos same]
      omega
    · rw [if_neg same]
      exact orderly.once id
  · rcases List.mem_or_eq_of_mem_set member with before | acted
    · exact orderly.answered files' c' outcome' before
    · cases acted

/-- What was built fills the slot. -/
theorem finish (orderly : s.Orderly) (rooted : s.Rooted) {place : Nat} {files : Files} {c : Context}
    (found : s.threads[place]? = some ⟨.resolve files c, .building⟩) : (s.next (.act place)).Orderly := by
  have known : c ∈ s.registry.made := rooted.known _ (List.mem_of_getElem? found)
  obtain ⟨answer, answers, step⟩ := Thread.next_building files c s.registry
  rw [next_act found step]
  obtain ⟨empty, payload⟩ := orderly.open_of_building rooted found
  have unfilled : s.registry.filled c.id = 0 := by
    rw [filled, empty]
    rfl
  refine ⟨orderly.tried, fun id => ?_, orderly.once, fun id slot filled => ?_,
    fun files' d outcome member => ?_⟩
  · -- One thread less builds, and one slot more is filled.
    have fewer := builders_set found ⟨.resolve files c, .finished (answer.map .handle)⟩ id
    simp only [Thread.builds, Option.any_none, Option.any_some, Bool.false_eq_true, if_false] at fewer
    rw [filled_cons]
    have before := orderly.counted id
    by_cases same : id = c.id
    · subst same
      simp only [decide_true, if_true] at fewer ⊢
      change s.registry.begun c.id = _
      omega
    · simp only [same, Ne.symm same, decide_false, Bool.false_eq_true, if_false] at fewer ⊢
      change s.registry.begun id = _
      omega
  · rw [lookup_cons_ite] at filled
    split at filled
    · rename_i same
      cases filled
      exact ⟨c, known, same.symm, s.registry.artifacts, files, rfl⟩
    · exact orderly.genuine id slot filled
  · rw [settled_cons]
    rcases List.mem_or_eq_of_mem_set member with before | acted
    · obtain ⟨earlier, settled, same⟩ := orderly.answered files' d outcome before
      refine ⟨earlier, ?_, same⟩
      rw [if_neg]
      · exact settled
      -- Nobody could get an answer from an empty slot.
      rintro ⟨present, shared⟩
      simp [Registry.settled, Registry.slot, shared, empty, Option.isSome_iff_ne_none.mp present,
        Slot.answer?] at settled
    · cases acted
      exact ⟨answer, by rw [if_pos ⟨payload, rfl⟩, answers], rfl⟩

/-- A slot is only filled for a context that has a payload. -/
theorem payload_of_filled (orderly : s.Orderly) (rooted : s.Rooted) {c : Context} (known : c ∈ s.registry.made)
    (filled : s.registry.slot c ≠ .empty) : c.hosted.payload.isSome := by
  -- A filled slot counts as an attempt.
  refine orderly.payload_of_begun rooted known ?_
  rw [orderly.counted, Registry.filled]
  cases found : s.registry.slots.lookup c.id with
  | none => simp [slot, found] at filled
  | some slot => simp

/-- With a payload, every call that is over gave what is in the slot. -/
theorem outcome_of_payload (orderly : s.Orderly) {files : Files} {c : Context} {outcome : Except HostError Answer}
    (member : ⟨.resolve files c, .finished outcome⟩ ∈ s.threads) (payload : c.hosted.payload.isSome) :
    (∃ h, s.registry.slot c = .built h ∧ outcome = .ok (.handle h)) ∨
      ∃ cause, s.registry.slot c = .failed cause ∧ outcome = .error (.unusable c.name cause) := by
  obtain ⟨answer, answers, rfl⟩ := orderly.answered files c outcome member
  rw [settled_of_payload payload] at answers
  -- The slot has an answer, so it was built or has failed.
  rcases Slot.eq_of_answer? answers with ⟨h, built, rfl⟩ | ⟨cause, failed, rfl⟩
  · exact .inl ⟨h, built, rfl⟩
  · exact .inr ⟨cause, failed, rfl⟩

/-- Without a payload, every call that is over says so. -/
theorem outcome_of_bare (orderly : s.Orderly) {files : Files} {c : Context} {outcome : Except HostError Answer}
    (member : ⟨.resolve files c, .finished outcome⟩ ∈ s.threads) (bare : c.hosted.payload = none) :
    outcome = .error (.missingPayload c.name) := by
  obtain ⟨answer, answers, rfl⟩ := orderly.answered files c outcome member
  rw [settled_of_bare bare] at answers
  cases answers
  rfl

end Orderly

/-- Slots and threads are in order on every reachable host. -/
theorem Reachable.orderly {s : Host} (reached : s.Reachable) : s.Orderly := by
  refine reached.invariant Orderly (fun deployment factory resources => ?_) fun s e reached enabled orderly => ?_
  · exact ⟨by simp [create], fun _ => rfl, fun _ => Nat.zero_le 1, by simp [create], by simp⟩
  -- Only the steps of resolutions have to do with slots.
  cases e with
  | ask q => exact orderly.ask q
  | act place =>
    obtain ⟨⟨q, stage⟩, found, waiting, unblocked⟩ := enabled
    cases q with
    | resolve files c =>
      cases stage with
      | asked =>
        cases settled : s.registry.settled c with
        | none => exact orderly.begin (reached.rooted.known _ (List.mem_of_getElem? found)) found unblocked settled
        | some outcome => exact orderly.look found settled
      | building => exact orderly.finish reached.rooted found
      | finished outcome => cases waiting
    | _ => exact orderly.other found (by simp)

/-- A filled slot is filled for good. -/
theorem slot_next {s : Host} (reached : s.Reachable) {e : Event} (enabled : s.Enabled e) {c : Context}
    (filled : s.registry.slot c ≠ .empty) : (s.next e).registry.slot c = s.registry.slot c := by
  cases e with
  | ask q => rfl
  | act place =>
    obtain ⟨⟨q, stage⟩, found, waiting, unblocked⟩ := enabled
    cases q with
    | resolve files d =>
      cases stage with
      | asked =>
        cases settled : s.registry.settled d with
        | none => rw [next_act found (Thread.next_of_unsettled settled), slot, slot]
        | some outcome => rw [next_act found (Thread.next_of_settled settled)]
      | building =>
        obtain ⟨answer, _, step⟩ := Thread.next_building files d s.registry
        rw [next_act found step]
        simp only [slot, lookup_cons_ite]
        -- The slot that is filled now was empty.
        rw [if_neg]
        intro same
        obtain ⟨empty, _⟩ := reached.orderly.open_of_building reached.rooted found
        rw [slot, same, empty] at filled
        exact filled rfl
      | finished outcome => cases waiting
    | _ =>
      -- No other request has slots in its scope.
      rw [registry_next_act found, slot, slot, (Thread.next_within ⟨_, stage⟩ s.registry).slots rfl]

/-- A filled slot is still filled in the same way after any number of events. -/
theorem slot_path {s later : Host} (reached : s.Reachable) (path : Path (fun _ _ => True) s later) {c : Context}
    (filled : s.registry.slot c ≠ .empty) : later.registry.slot c = s.registry.slot c := by
  -- No event along the path changes the slot.
  induction path with
  | refl => rfl
  | tail before step ih =>
    obtain ⟨e, enabled, _, rfl⟩ := step
    rw [← ih] at filled
    rw [slot_next (reached.path before) enabled filled, ih]

end Host

/-- What clients can rely on who resolve a context, whatever else happens at the same time. -/
structure BuiltOnce (s : Host) (c : Context) : Prop where
  /-- Building is begun at most once. -/
  once : s.registry.tried.countP (·.id = c.id) ≤ 1
  /-- What is in the slot is what building gave. -/
  genuine : s.registry.slot c ≠ .empty → ∃ artifacts files,
    s.registry.slot c = .ofAttempt (s.registry.factory.build artifacts files c.hosted c.strategy).1
  /-- With a payload, every call that is over gave what is in the slot. -/
  answered : c.hosted.payload.isSome → ∀ files outcome, ⟨.resolve files c, .finished outcome⟩ ∈ s.threads →
    (∃ h, s.registry.slot c = .built h ∧ outcome = .ok (.handle h)) ∨
      ∃ cause, s.registry.slot c = .failed cause ∧ outcome = .error (.unusable c.name cause)
  /-- All calls that succeeded gave the same handle. -/
  shared : ∀ files files' h h', ⟨.resolve files c, .finished (.ok (.handle h))⟩ ∈ s.threads →
    ⟨.resolve files' c, .finished (.ok (.handle h'))⟩ ∈ s.threads → h = h'
  /-- If building failed, every call that is over gave this failure. -/
  sticky : ∀ cause, s.registry.slot c = .failed cause → ∀ files outcome,
    ⟨.resolve files c, .finished outcome⟩ ∈ s.threads → outcome = .error (.unusable c.name cause)
  /-- There is not both a handle and a failure. -/
  exclusive : ¬((s.registry.slot c).isResolved ∧ (s.registry.slot c).isFailed)
  /-- A handle stays, and so does a failure. -/
  final : ∀ later, Host.Path (fun _ _ => True) s later →
    ((s.registry.slot c).isResolved → (later.registry.slot c).isResolved) ∧
      ((s.registry.slot c).isFailed → (later.registry.slot c).isFailed) ∧
      (s.registry.slot c ≠ .empty → later.registry.slot c = s.registry.slot c)
  /-- Without a payload nothing is built, and every call that is over says so. -/
  bare : c.hosted.payload = none → s.registry.tried.countP (·.id = c.id) = 0 ∧ s.registry.slot c = .empty ∧
    ∀ files outcome, ⟨.resolve files c, .finished outcome⟩ ∈ s.threads → outcome = .error (.missingPayload c.name)

/-- However calls and other requests interleave, the handle of a context is built at most once, and all calls
get it, or all get the same failure. -/
theorem built_once {s : Host} (reached : s.Reachable) {c : Context} (known : c ∈ s.registry.made) :
    BuiltOnce s c := by
  have orderly := reached.orderly
  have rooted := reached.rooted
  constructor
  case once => exact orderly.once c.id
  case genuine =>
    intro filled
    -- The slot was filled for a context with the same identity, which is this one.
    cases found : s.registry.slots.lookup c.id with
    | none => simp [slot, found] at filled
    | some slot =>
      obtain ⟨built, made, same, artifacts, files, rfl⟩ := orderly.genuine _ _ found
      obtain rfl := rooted.numbered.eq_of_id_eq made known same
      exact ⟨artifacts, files, by simp [Registry.slot, found]⟩
  case answered => exact fun payload files outcome member => orderly.outcome_of_payload member payload
  case shared =>
    intro files files' h h' first second
    obtain ⟨answer, answers, same⟩ := orderly.answered _ _ _ first
    obtain ⟨answer', answers', same'⟩ := orderly.answered _ _ _ second
    -- Both calls got what is known of the context.
    rw [answers, Option.some.injEq] at answers'
    subst answers'
    rw [← same'] at same
    cases same
    rfl
  case sticky =>
    intro cause failed files outcome member
    have payload := orderly.payload_of_filled rooted known (by simp [failed])
    -- A slot that failed holds no handle, and a single cause.
    rcases orderly.outcome_of_payload member payload with ⟨h, built, _⟩ | ⟨cause', failed', same⟩
    · rw [failed] at built
      cases built
    · rw [failed] at failed'
      cases failed'
      exact same
  case exclusive => cases s.registry.slot c <;> simp [Slot.isResolved, Slot.isFailed]
  case final =>
    intro later path
    have same : s.registry.slot c ≠ .empty → later.registry.slot c = s.registry.slot c :=
      Host.slot_path reached path
    -- A slot that is resolved or failed is not empty.
    refine ⟨fun resolved => ?_, fun failed => ?_, same⟩
    · rw [same fun empty => by simp [empty, Slot.isResolved] at resolved]
      exact resolved
    · rw [same fun empty => by simp [empty, Slot.isFailed] at failed]
      exact failed
  case bare =>
    intro bare
    -- Whatever was begun or built had a payload.
    have unbuilt : ¬ c.hosted.payload.isSome := by simp [bare]
    refine ⟨?_, ?_, fun files outcome member => orderly.outcome_of_bare member bare⟩
    · exact Nat.eq_zero_of_not_pos fun begun => unbuilt (orderly.payload_of_begun rooted known begun)
    · exact Classical.byContradiction fun filled => unbuilt (orderly.payload_of_filled rooted known filled)

/-- Two clients want the handle of the same context: one builds it, and the other one waits. -/
theorem built_once_for_two :
    ∃ (s : Host) (c : Context), s.Reachable ∧ c ∈ s.registry.made ∧
      s.threads.drop 1 = [⟨.resolve .empty c, .building⟩, ⟨.resolve .empty c, .asked⟩] ∧
      s.Blocked ⟨.resolve .empty c, .asked⟩ ∧ BuiltOnce s c := by
  obtain ⟨code, parsed⟩ := Payload.exists_code_of_smallest
  let c : Context := ⟨0, ⟨"shared", .dynamic, some ⟨Payload.smallest, code, parsed⟩, none, .standard⟩, .compileNow⟩
  let fresh : Host := ⟨create .prodJit .standard .empty, []⟩
  let s : Host :=
    ⟨{ fresh.registry with made := [c], tried := [c] },
      [⟨.make c.hosted (some .compileNow), .finished (.ok (.context c))⟩, ⟨.resolve .empty c, .building⟩,
        ⟨.resolve .empty c, .asked⟩]⟩
  have reached : s.Reachable := by
    refine ⟨.prodJit, .standard, .empty, ?_⟩
    refine .head ⟨.ask (.make c.hosted (some .compileNow)), trivial, trivial, rfl⟩ ?_
    refine .head ⟨.act 0, ⟨_, rfl, rfl, Host.not_blocked rfl⟩, trivial, rfl⟩ ?_
    refine .head ⟨.ask (.resolve .empty c), List.mem_cons_self, trivial, rfl⟩ ?_
    refine .head ⟨.act 1, ⟨_, rfl, rfl, ?_⟩, trivial, rfl⟩ ?_
    · rintro ⟨_, _, t, member, built, builds, _⟩
      -- So far, one thread is over and the other one was not served yet.
      rcases List.mem_cons.mp member with rfl | member
      · cases builds
      · cases List.mem_singleton.mp member
        cases builds
    · exact .single ⟨.ask (.resolve .empty c), List.mem_cons_self, trivial, rfl⟩
  refine ⟨s, c, reached, List.mem_cons_self, rfl, ?_, built_once reached List.mem_cons_self⟩
  exact ⟨c, rfl, ⟨.resolve .empty c, .building⟩, by simp [s], c, rfl, rfl⟩

end Registry

end WasmHost
