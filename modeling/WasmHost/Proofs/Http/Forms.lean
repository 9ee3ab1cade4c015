import WasmHost.Http.Upload
import WasmHost.Proofs.Disk.Path
import WasmHost.Proofs.Except

/-! Forms: which of its parts an upload is made of, whatever their number and order. -/

namespace WasmHost.Http

instance : DecidableEq Part := fun a b =>
  decidable_of_iff (a.head = b.head ∧ a.content.data = b.content.data)
    (by cases a; cases b; simp [ByteArray.ext_iff])

namespace Part

/-- The name that a part gives. -/
def name? (part : Part) : Option String :=
  if part.head.role = .name then some (Marked.text part.content) else none

/-- The mode that a part asks for. -/
def mode? (part : Part) : Option ExecutionMode :=
  if part.head.role = .mode then (ExecutionMode.parse (Marked.text part.content)).toOption else none

/-- The payload in a part. -/
def payload? (part : Part) : Option ByteArray :=
  if part.head.role = .payload then some part.content else none

/-- The name of the file that a payload comes from, without what follows its last dot. -/
def stem? (part : Part) : Option String :=
  if part.head.role = .payload then part.head.fileName.bind Path.fileStem? else none

end Part

/-- Every mode that some parts ask for is known. -/
def KnownModes (parts : List Part) : Prop :=
  ∀ part ∈ parts, part.head.role = .mode → ∃ mode, ExecutionMode.parse (Marked.text part.content) = .ok mode

namespace Draft

/-- A part overrides what was known, except that the file of a payload only gives a name where there is none. -/
theorem add_of_known {part : Part} (known : KnownModes [part]) (draft : Draft) :
    draft.add part = .ok ⟨part.name?.or (draft.name.or part.stem?), part.payload?.or draft.bytes,
      part.mode?.or draft.mode⟩ := by
  have parsed := known part (List.mem_singleton.2 rfl)
  unfold add Part.name? Part.payload? Part.mode? Part.stem?
  -- A part tells one thing at most, by its role.
  cases role : part.head.role with
  | name => simp [pure, Except.pure]
  | mode =>
    obtain ⟨mode, parsed⟩ := parsed role
    simp [parsed, pure, Except.pure, Except.toOption]
  | payload => simp [pure, Except.pure]
  | other => simp [pure, Except.pure]

/-- Among the values that parts give, the last one counts, and only without any of them the one from before. -/
theorem getLast?_filterMap_cons {α : Type} (given : Part → Option α) (part : Part) (parts : List Part)
    (before : Option α) :
    ((part :: parts).filterMap given).getLast?.or before =
      (parts.filterMap given).getLast?.or ((given part).or before) := by
  cases here : given part with
  | none => simp [here]
  | some value => cases later : (parts.filterMap given).getLast? <;> simp [here, List.getLast?_cons, later]

/-- Parts leave the last payload, the last mode and the last name, or the first file name without any name. -/
theorem foldlM_add {parts : List Part} (known : KnownModes parts) (draft : Draft) :
    parts.foldlM add draft = .ok
      ⟨(parts.filterMap Part.name?).getLast?.or (draft.name.or (parts.findSome? Part.stem?)),
        (parts.filterMap Part.payload?).getLast?.or draft.bytes, (parts.filterMap Part.mode?).getLast?.or draft.mode⟩ := by
  -- The induction is on the parts, for any draft, because each part changes the draft that the others find.
  induction parts generalizing draft with
  | nil => simp [pure, Except.pure]
  | cons part parts ih =>
    obtain ⟨here, later⟩ : KnownModes [part] ∧ KnownModes parts := by
      constructor <;> intro p member <;> exact known p (by simp_all)
    rw [List.foldlM_cons, add_of_known here]
    refine (ih later _).trans ?_
    rw [getLast?_filterMap_cons, getLast?_filterMap_cons, getLast?_filterMap_cons]
    -- A name that this part gives comes before the file names of all payloads, this one's among them.
    cases named : part.name? with
    | some name => simp
    | none => cases file : part.stem? <;> simp [file]

end Draft

namespace Upload

/-- The last part that holds a payload. -/
def lastPayload? (parts : List Part) : Option Part := (parts.filter (·.head.role = .payload)).getLast?

/-- The first file name among the payloads. -/
def firstStem? (parts : List Part) : Option String := parts.findSome? Part.stem?

/-- The file name of the last payload. -/
def lastStem? (parts : List Part) : Option String := (lastPayload? parts).bind Part.stem?

/-- The last name that is given, or else the one that stands in. -/
def title? (standIn : Option String) (parts : List Part) : Option String :=
  (parts.filterMap Part.name?).getLast?.or standIn

/-- An upload as parts tell it: it has the last payload, the last mode and the last name, for which another one may
stand in, and it is not nameless. -/
structure Told (standIn : Option String) (parts : List Part) (u : Upload) : Prop where
  bytes : (lastPayload? parts).map (·.content) = some u.bytes
  mode : (parts.filterMap Part.mode?).getLast? = u.mode
  name : title? standIn parts = some u.name
  named : u.name ≠ ""

theorem filterMap_payload? (parts : List Part) :
    parts.filterMap Part.payload? = (parts.filter (·.head.role = .payload)).map (·.content) := by
  induction parts with
  | nil => rfl
  | cons part parts ih => by_cases holds : part.head.role = .payload <;> simp [Part.payload?, holds, ih]

/-- What becomes of a form that is closed, all of whose modes are known. -/
theorem ofParts_eq {parts : List Part} (known : KnownModes parts) :
    ofParts parts .closed =
      Draft.finish ⟨title? (firstStem? parts) parts, (lastPayload? parts).map (·.content),
        (parts.filterMap Part.mode?).getLast?⟩ := by
  rw [ofParts, Draft.foldlM_add known]
  simp only [bind, Except.bind, Draft.empty, Option.none_or, Option.or_none, filterMap_payload?, List.getLast?_map]
  rfl

theorem finish_eq_ok_iff {draft : Draft} {u : Upload} :
    draft.finish = .ok u ↔ draft.bytes = some u.bytes ∧ draft.mode = u.mode ∧ draft.name = some u.name ∧ u.name ≠ "" := by
  obtain ⟨name, bytes, mode⟩ := draft
  obtain ⟨name', bytes', mode'⟩ := u
  cases bytes with
  | none => simp [Draft.finish]
  | some bytes =>
    cases name with
    | none => simp [Draft.finish]
    | some name =>
      by_cases empty : name = ""
      · -- An upload without a name is refused, and the name of no upload is empty.
        simp only [Draft.finish, empty, if_true]
        simp +contextual [eq_comm]
      · simp only [Draft.finish, if_neg empty, pure, Except.pure, Except.ok.injEq, Upload.mk.injEq, Option.some.injEq]
        grind

/-- Parts that tell nothing do not matter, whatever stands before or behind them. -/
theorem ofParts_filter (parts : List Part) (ending : Ending) :
    ofParts (parts.filter (·.head.role ≠ .other)) ending = ofParts parts ending := by
  have same (draft : Draft) :
      (parts.filter (·.head.role ≠ .other)).foldlM Draft.add draft = parts.foldlM Draft.add draft := by
    -- The draft is the same before and after a part that tells nothing.
    induction parts generalizing draft with
    | nil => rfl
    | cons part parts ih =>
      by_cases silent : part.head.role = .other
      · have kept : draft.add part = .ok draft := by simp [Draft.add, silent, pure, Except.pure]
        rw [List.filter_cons_of_neg (by simp [silent]), List.foldlM_cons, kept]
        exact ih draft
      · rw [List.filter_cons_of_pos (by simp [silent]), List.foldlM_cons, List.foldlM_cons]
        exact bind_congr ih
  rw [ofParts, ofParts, same]

section

variable {boundary : String} {body : ByteArray} {parts : List Part} {u : Upload}

theorem ofBody_eq {ending : Ending} (fits : body.size ≤ maxBody) (formed : Multipart.parts boundary body = (parts, ending)) :
    ofBody boundary body = ofParts parts ending := by
  simp [ofBody, show ¬ maxBody < body.size by omega, formed]

theorem ofBody_eq_ok_iff (fits : body.size ≤ maxBody) (formed : Multipart.parts boundary body = (parts, .closed))
    (known : KnownModes parts) : ofBody boundary body = .ok u ↔ Told (firstStem? parts) parts u := by
  rw [ofBody_eq fits formed, ofParts_eq known, finish_eq_ok_iff]
  exact ⟨fun ⟨bytes, mode, name, named⟩ => ⟨bytes, mode, name, named⟩,
    fun told => ⟨told.bytes, told.mode, told.name, told.named⟩⟩

end

/-- Where two names stand in, the same uploads are told if there is a name anyway or the two are the same. -/
theorem title?_congr {parts : List Part} {first last : Option String}
    (alike : parts.filterMap Part.name? ≠ [] ∨ first = last) : title? first parts = title? last parts := by
  rcases alike with given | same
  · obtain ⟨name, found⟩ := Option.isSome_iff_exists.1 (List.getLast?_isSome.2 given)
    simp [title?, found]
  · rw [same]

/-- If the file names differ, then there is a first one, and it is not empty. -/
theorem exists_firstStem {parts : List Part} (differ : firstStem? parts ≠ lastStem? parts) :
    ∃ stem content, firstStem? parts = some stem ∧ stem ≠ "" ∧ (lastPayload? parts).map (·.content) = some content := by
  cases last : lastPayload? parts with
  | none =>
    -- Without a payload there are no file names.
    have bare : parts.filter (·.head.role = .payload) = [] := List.getLast?_eq_none_iff.1 last
    have none : firstStem? parts = none := by
      refine List.findSome?_eq_none_iff.2 fun part member => if_neg fun payload => ?_
      exact List.filter_eq_nil_iff.1 bare part member (decide_eq_true payload)
    exact absurd (by simp [none, lastStem?, last]) differ
  | some part =>
    have member : part ∈ parts := (List.mem_filter.1 (List.mem_of_getLast? last)).1
    cases first : firstStem? parts with
    | none =>
      have own : part.stem? = none := List.findSome?_eq_none_iff.1 first part member
      exact absurd (by simp [first, lastStem?, last, own]) differ
    | some stem =>
      obtain ⟨other, -, found⟩ := List.exists_of_findSome?_eq_some first
      refine ⟨stem, part.content, rfl, ?_, rfl⟩
      unfold Part.stem? at found
      split at found
      · obtain ⟨file, -, named⟩ := Option.bind_eq_some_iff.1 found
        exact Path.ne_empty_of_fileStem? named
      · cases found

/-- An upload is made of the last payload, the last mode and the last name of its form, for which the first file name
of a payload stands in, and there is one exactly if there are a payload and a name that is not empty. Other parts do
not matter. The file name belongs to the payload that is taken exactly if a name is given or the file of the last
payload is called like the first one. -/
theorem made_of_parts {boundary : String} {body : ByteArray} {parts : List Part} (fits : body.size ≤ maxBody)
    (formed : Multipart.parts boundary body = (parts, .closed)) (known : KnownModes parts) :
    (∀ u, ofBody boundary body = .ok u ↔ Told (firstStem? parts) parts u) ∧
    ((∃ u, ofBody boundary body = .ok u) ↔
      lastPayload? parts ≠ none ∧ ∃ name, title? (firstStem? parts) parts = some name ∧ name ≠ "") ∧
    ofBody boundary body = ofParts (parts.filter (·.head.role ≠ .other)) .closed ∧
    ((∀ u, ofBody boundary body = .ok u ↔ Told (lastStem? parts) parts u) ↔
      parts.filterMap Part.name? ≠ [] ∨ firstStem? parts = lastStem? parts) := by
  have told (u : Upload) := ofBody_eq_ok_iff (u := u) fits formed known
  refine ⟨told, ?_, ?_, ?_, ?_⟩
  · constructor
    · rintro ⟨u, made⟩
      obtain ⟨bytes, -, name, named⟩ := (told u).1 made
      exact ⟨fun none => by simp [none] at bytes, u.name, name, named⟩
    · rintro ⟨some, name, titled, named⟩
      obtain ⟨part, last⟩ := Option.ne_none_iff_exists'.1 some
      exact ⟨⟨name, part.content, (parts.filterMap Part.mode?).getLast?⟩,
        (told _).2 ⟨by rw [last]; rfl, rfl, titled, named⟩⟩
  · rw [ofBody_eq fits formed, ofParts_filter]
  · intro own
    by_contra! ⟨unnamed, differ⟩
    -- The upload has the first file name then, which is not the one of its payload.
    obtain ⟨stem, content, first, named, last⟩ := exists_firstStem differ
    have bare (standIn : Option String) : title? standIn parts = standIn := by simp [title?, unnamed]
    have made := (told ⟨stem, content, (parts.filterMap Part.mode?).getLast?⟩).2 ⟨last, rfl, (bare _).trans first, named⟩
    have name := ((own _).1 made).name
    rw [bare] at name
    exact differ (first.trans name.symm)
  · intro alike u
    have same := title?_congr alike
    rw [told]
    exact ⟨fun t => ⟨t.bytes, t.mode, same ▸ t.name, t.named⟩, fun t => ⟨t.bytes, t.mode, same.symm ▸ t.name, t.named⟩⟩

/-! ### Two forms with two payloads -/

/-- The text of a part with a name, the name of a file and contents. -/
def partText (name file content : String) : String :=
  "--x\r\nContent-Disposition:;name=" ++ name ++ ";filename=" ++ file ++ "\r\n\r\n" ++ content ++ "\r\n"

/-- The part with this text. -/
def partOf (name file content : String) : Part := ⟨⟨some name, some file⟩, content.toUTF8⟩

theorem stem_of_wasm : Path.fileStem? "a.wasm" = some "a" ∧ Path.fileStem? "b.wasm" = some "b" := by
  simp only [Path.fileStem?, Path.fileName?, Path.components, Path.pieces_eq]
  decide +kernel

/-- A form with a name between its payloads. -/
def namedForm : ByteArray :=
  (partText "file" "a.wasm" "A" ++ partText "name" "c" "n" ++ partText "wasm" "b.wasm" "B" ++ "--x--").toUTF8

/-- Its upload has the name, and the payload that comes last. -/
theorem made_of_named_parts :
    ∃ parts, namedForm.size ≤ maxBody ∧ Multipart.parts "x" namedForm = (parts, .closed) ∧ KnownModes parts ∧
      ofBody "x" namedForm = .ok ⟨"n", "B".toUTF8, none⟩ ∧
      ∀ u, ofBody "x" namedForm = .ok u ↔ Told (lastStem? parts) parts u := by
  let parts : List Part := [partOf "file" "a.wasm" "A", partOf "name" "c" "n", partOf "wasm" "b.wasm" "B"]
  have fits : namedForm.size ≤ maxBody := by decide +kernel
  -- The file comes first, then the name, and then the payload that replaces the file.
  have formed : Multipart.parts "x" namedForm = (parts, .closed) := by decide +kernel
  have known : KnownModes parts := by simp [KnownModes, parts, partOf, PartHead.role, PartRole.ofName]
  have named : parts.filterMap Part.name? = ["n"] := by decide +kernel
  obtain ⟨-, -, -, own⟩ := made_of_parts fits formed known
  have told := own.2 (.inl (by simp [named]))
  have made : Told (lastStem? parts) parts ⟨"n", "B".toUTF8, none⟩ :=
    ⟨by decide +kernel, by decide +kernel, by simp [title?, named], by decide⟩
  exact ⟨parts, fits, formed, known, (told _).2 made, told⟩

/-- A form without a name. -/
def namelessForm : ByteArray := (partText "file" "a.wasm" "A" ++ partText "file" "b.wasm" "B" ++ "--x--").toUTF8

/-- The second payload is called like the file of the first one. -/
theorem named_after_other_file :
    ∃ parts, namelessForm.size ≤ maxBody ∧ Multipart.parts "x" namelessForm = (parts, .closed) ∧ KnownModes parts ∧
      ofBody "x" namelessForm = .ok ⟨"a", "B".toUTF8, none⟩ ∧ lastPayload? parts = some (partOf "file" "b.wasm" "B") ∧
      title? (lastStem? parts) parts = some "b" ∧
      ¬ ∀ u, ofBody "x" namelessForm = .ok u ↔ Told (lastStem? parts) parts u := by
  let parts : List Part := [partOf "file" "a.wasm" "A", partOf "file" "b.wasm" "B"]
  have fits : namelessForm.size ≤ maxBody := by decide +kernel
  have formed : Multipart.parts "x" namelessForm = (parts, .closed) := by decide +kernel
  have known : KnownModes parts := by simp [KnownModes, parts, partOf, PartHead.role, PartRole.ofName]
  have last : lastPayload? parts = some (partOf "file" "b.wasm" "B") := by decide +kernel
  have unnamed : parts.filterMap Part.name? = [] := by decide +kernel
  obtain ⟨a, b⟩ := stem_of_wasm
  have first : firstStem? parts = some "a" := by
    simp [firstStem?, parts, partOf, Part.stem?, PartHead.role, PartRole.ofName, a]
  have own : title? (lastStem? parts) parts = some "b" := by
    simp [title?, unnamed, lastStem?, last, partOf, Part.stem?, PartHead.role, PartRole.ofName, b]
  have made : ofBody "x" namelessForm = .ok ⟨"a", "B".toUTF8, none⟩ :=
    (ofBody_eq_ok_iff fits formed known).2
      ⟨by simp [last, partOf], by decide +kernel, by simp [title?, unnamed, first], by decide⟩
  refine ⟨parts, fits, formed, known, made, last, own, fun promised => ?_⟩
  -- The promise would call it like its own file.
  have name := ((promised _).1 made).name
  rw [own] at name
  exact absurd name (by decide)

end Upload

end WasmHost.Http
