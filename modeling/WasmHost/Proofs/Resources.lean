import WasmHost.Proofs.Disk.Path
import WasmHost.Proofs.Handle
import WasmHost.Resources

/-! Resources lie in their directory: no name leads out of it. -/

namespace WasmHost

namespace Files

variable {files : Files}

/-- A piece that is no parent leads on from a directory, by its name if it is one. -/
theorem descend_inside {base : List String} {piece : String} {reached : Place} (down : piece ≠ "..")
    (step : files.descend (.inside base) piece = .ok reached) :
    files.node? base = some .directory ∧ reached = .inside (base ++ Path.names [piece]) := by
  -- Only a directory has something below it.
  cases node : files.node? base with
  | none => simp [descend, node] at step
  | some found =>
    cases found with
    | file _ | locked => simp [descend, node] at step
    | directory =>
      refine ⟨rfl, ?_⟩
      simp only [descend, node, if_neg down] at step
      -- An empty piece or a dot stays, and any other piece leads on to what has its name.
      by_cases idle : piece = "" ∨ piece = "."
      · rw [if_pos idle] at step
        have passed : ¬ (piece ≠ "" ∧ piece ≠ ".") := by tauto
        simpa [Path.names, passed] using (Except.ok.inj step).symm
      · rw [if_neg idle] at step
        split at step
        · cases step
        · have kept : piece ≠ "" ∧ piece ≠ "." := by tauto
          simpa [Path.names, kept] using (Except.ok.inj step).symm

/-- Pieces without a parent lead down from where they start, by their names. -/
theorem foldlM_descend {pieces : List String} (down : ".." ∉ pieces) {base : List String} {reached : Place}
    (walk : pieces.foldlM files.descend (.inside base) = .ok reached) :
    reached = .inside (base ++ Path.names pieces) := by
  -- The induction is on the pieces, each of which leads down or stays.
  induction pieces generalizing base with
  | nil => simpa [Path.names] using (Except.ok.inj walk).symm
  | cons piece pieces ih =>
    obtain ⟨here, later⟩ : ".." ≠ piece ∧ ".." ∉ pieces := by simpa using down
    rw [List.foldlM_cons] at walk
    obtain ⟨next, step, rest⟩ := bind_eq_ok walk
    obtain ⟨-, rfl⟩ := descend_inside here.symm step
    rw [ih later rest, Path.names_cons piece pieces, List.append_assoc]

/-- What is located has been reached piece by piece. -/
theorem walk_of_locate {path : Path} {reached : Place} (located : files.locate path = .ok reached) :
    path ≠ "" ∧ (Path.pieces path).foldlM files.descend (.inside (origin path)) = .ok reached := by
  by_cases marked : path.toList.contains '\x00'
  · simp only [locate, if_pos marked] at located
    cases located
  by_cases empty : path = ""
  · simp only [locate, if_neg marked, if_pos empty] at located
    cases located
  by_cases long : maxPath ≤ path.utf8ByteSize
  · simp only [locate, if_neg marked, if_neg empty, if_pos long] at located
    cases located
  · simp only [locate, if_neg marked, if_neg empty, if_neg long] at located
    exact ⟨empty, located⟩

/-- Files are read where they are located. -/
theorem locate_of_read {path : Path} {bytes : ByteArray} (found : files.read path = .ok bytes) :
    ∃ names, files.locate path = .ok (.inside names) ∧ files.node? names = some (.file bytes) := by
  obtain ⟨place, located, rest⟩ := bind_eq_ok found
  -- Outside the root there are no files.
  cases place with
  | outside => cases rest
  | inside names =>
    refine ⟨names, located, ?_⟩
    cases node : files.node? names with
    | none => simp [node] at rest
    | some there =>
      cases there with
      | directory | locked => simp [node] at rest
      | file contents =>
        simp only [node] at rest
        cases rest
        rfl

/-- There is a file at a path from which one is read. -/
theorem isFile_of_read {path : Path} {bytes : ByteArray} (found : files.read path = .ok bytes) : files.isFile path := by
  obtain ⟨names, located, node⟩ := locate_of_read found
  simp [isFile, located, node, Node.isFile]

/-- There is no file behind a slash at the end. -/
theorem pieces_ne_of_read {path : Path} {bytes : ByteArray} (found : files.read path = .ok bytes)
    (ahead : List String) : Path.pieces path ≠ ahead ++ [""] := by
  intro slash
  obtain ⟨names, located, node⟩ := locate_of_read found
  obtain ⟨-, walk⟩ := walk_of_locate located
  rw [slash, List.foldlM_append] at walk
  obtain ⟨place, -, last⟩ := bind_eq_ok walk
  have step : files.descend place "" = .ok (.inside names) := by simpa using last
  cases place with
  | outside => cases step
  | inside before =>
    -- The empty piece stays at a directory, where no file can be.
    obtain ⟨directory, same⟩ := descend_inside (by decide) step
    have stays : names = before := by simpa [Path.names] using same
    rw [stays, directory] at node
    cases node

/-- Behind a directory, a relative path without a parent leads down by its names. -/
theorem locate_join {directory path : Path} (relative : Path.isAbsolute path = false) (down : ".." ∉ Path.pieces path)
    {base : List String} (start : files.locate directory = .ok (.inside base)) {reached : Place}
    (located : files.locate (Path.join directory path) = .ok reached) :
    reached = .inside (base ++ Path.names (Path.pieces path)) := by
  obtain ⟨filled, first⟩ := walk_of_locate start
  obtain ⟨-, walk⟩ := walk_of_locate located
  -- The walk along the joined path is the walk along the directory, and then the one along the path.
  obtain ⟨ahead, split, joined⟩ := Path.pieces_join relative filled
  have same : origin (Path.join directory path) = origin directory := by simp [origin, Path.isAbsolute_join relative]
  rw [joined, same, List.foldlM_append] at walk
  obtain ⟨place, before, rest⟩ := bind_eq_ok walk
  have here : place = .inside base := by
    rcases split with plain | slash
    · rw [plain, before] at first
      exact Except.ok.inj first
    · -- The slash at the end of the directory leads nowhere else.
      rw [slash, List.foldlM_append, before] at first
      have last : files.descend place "" = .ok (.inside base) := by
        obtain ⟨_, same, step⟩ := bind_eq_ok first
        cases same
        simpa using step
      cases place with
      | outside => cases last
      | inside names =>
        obtain ⟨-, stays⟩ := descend_inside (by decide) last
        simpa [Path.names] using stays.symm
  rw [here] at rest
  exact foldlM_descend down rest

end Files

namespace Resources

variable {r : Resources} {files : Files} {name : String}

/-- A resource that is not embedded is a file in the directory, and its name leads down. -/
theorem get_eq_ok {bytes : ByteArray} (other : r.embedded.lookup name = none) (got : r.get files name = .ok bytes) :
    ∃ directory, r.directory = some directory ∧ Path.descends name ∧
      files.read (Path.join directory name) = .ok bytes := by
  cases place : r.directory with
  | none => simp [get, other, place] at got
  | some directory =>
    -- Without a directory, or with a name that does not lead down, nothing is given.
    by_cases down : Path.descends name
    · refine ⟨directory, rfl, down, ?_⟩
      simp only [get, other, place, down, Bool.not_true, Bool.false_eq_true, if_false] at got
      split at got
      · obtain ⟨contents, found, checked⟩ := bind_eq_ok got
        obtain ⟨-, -, same⟩ := bind_eq_ok checked
        cases same
        exact mapError_eq_ok found
      · cases got
    · simp [get, other, place, down] at got

/-- A file that is read behind a directory has a name in it. -/
theorem names_ne_nil_of_read {directory : Path} {bytes : ByteArray} (down : Path.descends name)
    (found : files.read (Path.join directory name) = .ok bytes) : Path.names (Path.pieces name) ≠ [] := by
  obtain ⟨relative, start, parent⟩ := Path.descends_iff.1 down
  by_cases bare : name = ""
  · -- The path ends with a slash then, or there is no path at all.
    have single : Path.pieces "" = [""] := by simp [Path.pieces_eq, List.splitOn_eq_splitOnP]
    by_cases nowhere : directory = ""
    · obtain ⟨_, located, -⟩ := Files.locate_of_read found
      exact absurd (by simp [bare, nowhere, Path.join, Path.isAbsolute]) (Files.walk_of_locate located).1
    · obtain ⟨ahead, -, joined⟩ := Path.pieces_join relative nowhere
      exact absurd (by rw [joined, bare, single]) (Files.pieces_ne_of_read found ahead)
  · -- The first piece is a name.
    obtain ⟨first, others, split⟩ := List.exists_cons_of_ne_nil (Path.pieces_ne_nil name)
    have filled := Path.head?_pieces_ne_empty relative bare
    have named : first ≠ "" ∧ first ≠ "." := by simpa [split] using And.intro filled start
    simp [split, Path.names, named]

/-- Resources cannot escape. An embedded one is what was embedded, whatever its name. Any other is the content of the
file at the directory joined with the name, which is relative, has no dot at the start and turns to no parent, so that
the text of the joined path, and the lookup among the files, lead down from the directory by one name at least. All
other names are refused, whichever files there are. -/
theorem get_stays_inside (r : Resources) (name : String) :
    (∀ bytes, r.embedded.lookup name = some bytes → ∀ files, r.get files name = .ok bytes) ∧
    (r.embedded.lookup name = none →
      (∀ files bytes, r.get files name = .ok bytes →
        ∃ directory inner, r.directory = some directory ∧ files.read (Path.join directory name) = .ok bytes ∧
          Path.isAbsolute name = false ∧ (Path.pieces name).head? ≠ some "." ∧ ".." ∉ Path.pieces name ∧
          inner ≠ [] ∧ (∀ piece ∈ inner, piece ≠ "" ∧ piece ≠ "." ∧ piece ≠ "..") ∧
          Path.resolved (Path.join directory name) = Path.resolved directory ++ inner.map .normal ∧
          ∀ base, files.locate directory = .ok (.inside base) →
            files.locate (Path.join directory name) = .ok (.inside (base ++ inner))) ∧
      (r.directory.isSome →
        Path.isAbsolute name ∨ (Path.pieces name).head? = some "." ∨ ".." ∈ Path.pieces name →
          ∀ files, r.get files name = .error (.invalidConfig (.resourceOutside name)))) := by
  refine ⟨fun bytes embedded files => by simp [get, embedded], fun other => ⟨?_, ?_⟩⟩
  · -- What is given lies below the directory.
    intro files bytes got
    obtain ⟨directory, place, down, found⟩ := get_eq_ok other got
    obtain ⟨relative, start, parent⟩ := Path.descends_iff.1 down
    refine ⟨directory, Path.names (Path.pieces name), place, found, relative, start, parent,
      names_ne_nil_of_read down found, ?_, Path.resolved_join relative parent directory, ?_⟩
    · intro piece member
      obtain ⟨listed, named⟩ : piece ∈ Path.pieces name ∧ piece ≠ "" ∧ piece ≠ "." := by
        simpa [Path.names] using member
      exact ⟨named.1, named.2, fun turns => parent (turns ▸ listed)⟩
    · -- The lookup walks along the same names as the text.
      intro base start
      obtain ⟨names, located, -⟩ := Files.locate_of_read found
      rw [located, Files.locate_join relative parent start located]
  · intro inside leads files
    obtain ⟨directory, place⟩ := Option.isSome_iff_exists.1 inside
    -- Each of the three is what a name that leads down must not do.
    have refused : ¬ Path.descends name := by
      rw [Path.descends_iff]
      rintro ⟨relative, start, parent⟩
      rcases leads with absolute | dot | turns
      · simp [relative] at absolute
      · exact start dot
      · exact parent turns
    simp [get, other, place, refused]

/-- A table whose directory holds a file, next to one that is embedded under a name that leads out. -/
def shelf : Resources := ⟨[("../table", ByteArray.empty)], some "mods"⟩

/-- The files behind the shelf. -/
def shelved : Files :=
  ⟨[(["mods", "sub", "a.wasm"], .file ⟨#[7]⟩), (["mods", "sub"], .directory), (["mods"], .directory),
    (["secret"], .file ⟨#[9]⟩)]⟩

/-- The shelf gives what lies below its directory, behind two slashes and a dot. -/
theorem get_shelved : shelf.get shelved "sub//./a.wasm" = .ok ⟨#[7]⟩ := by
  -- Splitting is well-founded recursion, so the pieces are computed by the list's own function.
  have pieces : Path.pieces "sub//./a.wasm" = ["sub", "", ".", "a.wasm"] := by
    rw [Path.pieces_eq]
    decide +kernel
  have down : Path.descends "sub//./a.wasm" := by
    rw [Path.descends_iff, pieces]
    decide +kernel
  have joined : Path.join "mods" "sub//./a.wasm" = "mods/sub//./a.wasm" := by decide +kernel
  have located : shelved.locate "mods/sub//./a.wasm" = .ok (.inside ["mods", "sub", "a.wasm"]) := by
    have behind : Path.pieces "mods/sub//./a.wasm" = ["mods"] ++ ["sub", "", ".", "a.wasm"] := by
      rw [Path.pieces_eq]
      decide +kernel
    simp only [Files.locate, behind]
    decide +kernel
  have other : shelf.embedded.lookup "sub//./a.wasm" = none := by decide +kernel
  have place : shelf.directory = some "mods" := rfl
  have read : shelved.read "mods/sub//./a.wasm" = .ok ⟨#[7]⟩ := by
    simp only [Files.read, located]
    rfl
  simp only [get, other, place, down, joined, Files.isFile_of_read read, readModuleFile, read]
  rfl

/-- What the shelf gives lies inside, and the file beside its directory is refused. -/
theorem get_stays_inside_shelf :
    shelf.get shelved "../table" = .ok ByteArray.empty ∧
    (shelf.get shelved "sub//./a.wasm" = .ok ⟨#[7]⟩ ∧
      ∃ inner, inner ≠ [] ∧ Path.resolved (Path.join "mods" "sub//./a.wasm") =
        Path.resolved "mods" ++ inner.map .normal) ∧
    shelf.get shelved "sub/../../secret" = .error (.invalidConfig (.resourceOutside "sub/../../secret")) := by
  refine ⟨(get_stays_inside shelf "../table").1 _ (by decide +kernel) shelved, ⟨get_shelved, ?_⟩, ?_⟩
  · obtain ⟨directory, inner, place, -, -, -, -, some, -, lexical, -⟩ :=
      ((get_stays_inside shelf "sub//./a.wasm").2 (by decide +kernel)).1 shelved _ get_shelved
    cases place
    exact ⟨inner, some, lexical⟩
  · -- The third name turns to the parent twice.
    have turns : ".." ∈ Path.pieces "sub/../../secret" := by
      rw [Path.pieces_eq]
      decide +kernel
    exact ((get_stays_inside shelf "sub/../../secret").2 (by decide +kernel)).2 rfl (.inr (.inr turns)) shelved

end Resources

end WasmHost
