import Mathlib.Data.List.Forall2
import Mathlib.Data.Option.Basic
import WasmHost.ConfigFile
import WasmHost.Proofs.Resources
import WasmHost.Proofs.Text.Utf8

/-! Configuration files: what is read from a file is what its text declares, with relative paths behind the directory
of the file. -/

namespace WasmHost

namespace Files

variable {files : Files}

/-- Whoever reads a file has passed a piece that counts, so that its path has a parent. -/
theorem exists_parent_of_read {path : Path} {bytes : ByteArray} (found : files.read path = .ok bytes) :
    ∃ base, Path.parent? path = some base := by
  rcases Path.parent?_cases path with ⟨none, -⟩ | start | ⟨base, -, -, known, -⟩
  · exfalso
    have idle : ∀ piece ∈ Path.pieces path, piece = "" ∨ piece = "." := by
      intro piece member
      by_contra! ⟨filled, named⟩
      obtain ⟨place, here⟩ := List.mem_iff_getElem?.1 member
      have counted := Path.mem_countedPlaces.2 ⟨piece, here, by simp [Path.counts, filled, named]⟩
      simp [none] at counted
    have down : ".." ∉ Path.pieces path := fun parent => by simpa using idle ".." parent
    obtain ⟨names, located, node⟩ := locate_of_read found
    obtain ⟨-, walk⟩ := walk_of_locate located
    have nowhere : Path.names (Path.pieces path) = [] := by
      simp only [Path.names, List.filter_eq_nil_iff, decide_eq_true_eq]
      intro piece member
      rcases idle piece member with same | same <;> simp [same]
    -- The walk stays where it starts, and there is a directory at every start.
    have stays := foldlM_descend down walk
    rw [nowhere, List.append_nil] at stays
    cases stays
    by_cases absolute : Path.isAbsolute path <;> simp [node?, origin, absolute] at node
  · exact ⟨_, start⟩
  · exact ⟨base, known⟩

end Files

/-- Where a path comes to lie: a relative one starts at the base, and an absolute one stays. -/
inductive Path.Moves (base : Path) : Path → Path → Prop
  | relative {path : Path} (relative : isAbsolute path = false) : Moves base path (join base path)
  | absolute {path : Path} (absolute : isAbsolute path) : Moves base path path

/-- The paths of a declared module come to lie behind the base, and everything else stays. -/
structure Entry.Moves (base : Path) (e moved : Entry) : Prop where
  path : Option.Rel (Path.Moves base) e.path moved.path
  artifact : Option.Rel (Path.Moves base) e.artifact moved.artifact
  name : moved.name = e.name
  resource : moved.resource = e.resource
  dynamic : moved.dynamic = e.dynamic
  mode : moved.mode = e.mode
  fallback : moved.fallback = e.fallback
  interpreted : moved.interpreted = e.interpreted

namespace Configuration

/-- The paths of a configuration come to lie behind the base, in their order, and everything else stays. -/
structure Moves (base : Path) (c moved : Configuration) : Prop where
  resourceDirectory : Option.Rel (Path.Moves base) c.resourceDirectory moved.resourceDirectory
  entries : List.Forall₂ (Entry.Moves base) c.entries moved.entries
  runtime : moved.runtime = c.runtime
  server : moved.server = c.server
  admin : moved.admin = c.admin

/-- The paths in a configuration. -/
def paths (c : Configuration) : List Path :=
  c.resourceDirectory.toList ++ c.entries.flatMap fun entry => entry.path.toList ++ entry.artifact.toList

variable {base : Path}

theorem moves_iff_rebase {path moved : Path} : Path.Moves base path moved ↔ moved = rebase base path := by
  unfold rebase
  -- Each kind of path moves in one way only.
  cases absolute : Path.isAbsolute path with
  | true =>
    rw [if_pos rfl]
    constructor
    · rintro (relative | -)
      · simp [relative] at absolute
      · rfl
    · rintro rfl
      exact .absolute absolute
  | false =>
    rw [if_neg Bool.false_ne_true]
    constructor
    · rintro (- | rooted)
      · rfl
      · simp [rooted] at absolute
    · rintro rfl
      exact .relative absolute

theorem option_moves_iff {path moved : Option Path} :
    Option.Rel (Path.Moves base) path moved ↔ moved = path.map (rebase base) := by
  cases path <;> cases moved <;> simp [Option.rel_some_some, moves_iff_rebase]

/-- An entry whose relative paths start at the base. -/
def rebaseEntry (base : Path) (entry : Entry) : Entry :=
  { entry with path := entry.path.map (rebase base), artifact := entry.artifact.map (rebase base) }

theorem entry_moves_iff {e moved : Entry} : Entry.Moves base e moved ↔ moved = rebaseEntry base e := by
  constructor
  · rintro ⟨path, artifact, name, resource, dynamic, mode, fallback, interpreted⟩
    -- An entry is its fields, and each of them is given.
    cases moved
    simp only at path artifact name resource dynamic mode fallback interpreted
    rw [rebaseEntry, option_moves_iff.1 path, option_moves_iff.1 artifact, name, resource, dynamic, mode, fallback,
      interpreted]
  · rintro rfl
    exact ⟨option_moves_iff.2 rfl, option_moves_iff.2 rfl, rfl, rfl, rfl, rfl, rfl, rfl⟩

theorem entries_moves_iff {entries moved : List Entry} :
    List.Forall₂ (Entry.Moves base) entries moved ↔ moved = entries.map (rebaseEntry base) := by
  induction entries generalizing moved with
  | nil => simp
  | cons entry entries ih =>
    cases moved with
    | nil => simp
    | cons first rest => simp [ih, entry_moves_iff]

/-- Resolving moves the paths, and does nothing else. -/
theorem moves_iff_resolvePaths {c moved : Configuration} : Moves base c moved ↔ moved = c.resolvePaths base := by
  constructor
  · rintro ⟨directory, entries, runtime, server, admin⟩
    -- A configuration is its parts, and each of them is given.
    cases moved
    simp only at directory entries runtime server admin
    rw [option_moves_iff.1 directory, entries_moves_iff.1 entries, runtime, server, admin]
    rfl
  · rintro rfl
    exact ⟨option_moves_iff.2 rfl, entries_moves_iff.2 rfl, rfl, rfl, rfl⟩

/-- What is moved behind an absolute base is absolute. -/
theorem isAbsolute_rebase (absolute : Path.isAbsolute base) (path : Path) : Path.isAbsolute (rebase base path) := by
  unfold rebase
  split_ifs with rooted
  · exact rooted
  · rw [Path.isAbsolute_join (by simpa using rooted)]
    exact absolute

theorem isAbsolute_of_mem_paths {c : Configuration} (absolute : Path.isAbsolute base) {path : Path}
    (member : path ∈ (c.resolvePaths base).paths) : Path.isAbsolute path := by
  -- A path is that of the directory, of a module or of an artifact; each of them was moved.
  rcases List.mem_append.1 member with directory | listed
  · obtain ⟨before, -, rfl⟩ := Option.map_eq_some_iff.1 (Option.mem_toList.1 directory)
    exact isAbsolute_rebase absolute before
  · obtain ⟨moved, entry, here⟩ := List.mem_flatMap.1 listed
    obtain ⟨e, -, rfl⟩ := List.mem_map.1 entry
    rcases List.mem_append.1 here with module | artifact
    · obtain ⟨before, -, rfl⟩ := Option.map_eq_some_iff.1 (Option.mem_toList.1 module)
      exact isAbsolute_rebase absolute before
    · obtain ⟨before, -, rfl⟩ := Option.map_eq_some_iff.1 (Option.mem_toList.1 artifact)
      exact isAbsolute_rebase absolute before

/-- Absolute paths have their place. -/
theorem resolvePaths_of_absolute {c : Configuration} (absolute : ∀ path ∈ c.paths, Path.isAbsolute path) :
    c.resolvePaths base = c := by
  -- A path that is absolute, or is not given, stays.
  have still {path : Option Path} (rooted : ∀ p ∈ path.toList, Path.isAbsolute p) :
      Option.Rel (Path.Moves base) path path := by
    cases path with
    | none => exact .none
    | some p => exact .some (.absolute (rooted p (by simp)))
  refine (moves_iff_resolvePaths.1 ⟨still fun p member => ?_, ?_, rfl, rfl, rfl⟩).symm
  · exact absolute p (List.mem_append_left _ member)
  · refine List.forall₂_same.2 fun entry member => ?_
    have inside {p : Path} (here : p ∈ entry.path.toList ++ entry.artifact.toList) : Path.isAbsolute p :=
      absolute p (List.mem_append_right _ (List.mem_flatMap.2 ⟨entry, member, here⟩))
    exact ⟨still fun p here => inside (List.mem_append_left _ here),
      still fun p here => inside (List.mem_append_right _ here), rfl, rfl, rfl, rfl, rfl, rfl⟩

/-- A configuration comes out of a file exactly if a text is there that declares one, and it is that one moved
behind the directory of the file. -/
theorem ofFile_eq_ok_iff {files : Files} {path : Path} {c : Configuration} :
    ofFile files path = .ok c ↔ ∃ text declared base, files.read path = .ok text.toUTF8 ∧ ofToml text = .ok declared ∧
      Path.parent? path = some base ∧ Moves base declared c := by
  simp only [moves_iff_resolvePaths]
  constructor
  · intro made
    obtain ⟨bytes, read, rest⟩ := bind_eq_ok made
    replace read := mapError_eq_ok read
    cases known : Utf8.text? bytes with
    | none =>
      rw [known] at rest
      cases rest
    | some text =>
      rw [known] at rest
      obtain ⟨declared, accepted, rest⟩ := bind_eq_ok rest
      -- The file has been read, so that its path has a parent.
      obtain ⟨base, parent⟩ := Files.exists_parent_of_read read
      rw [parent] at rest
      cases rest
      rw [Utf8.text?_eq_some_iff.1 known] at read
      exact ⟨text, declared, base, read, accepted, parent, rfl⟩
  · rintro ⟨text, declared, base, read, accepted, parent, rfl⟩
    have known : Utf8.text? text.toUTF8 = some text := Utf8.text?_eq_some_iff.2 rfl
    simp only [ofFile, read, Except.mapError, bind, Except.bind, known, accepted, parent, pure, Except.pure]

/-- A file gives a configuration exactly if it can be read, is a text, and declares one. The relative paths of that
one come to lie behind the directory of the file, and nothing else changes. If the path of the file is absolute, so
are all paths, and moving them there again does nothing. -/
theorem located_of_ofFile (files : Files) (path : Path) :
    ((∃ c, ofFile files path = .ok c) ↔
      ∃ text declared, files.read path = .ok text.toUTF8 ∧ ofToml text = .ok declared) ∧
    (∀ c, ofFile files path = .ok c ↔ ∃ text declared base, files.read path = .ok text.toUTF8 ∧
      ofToml text = .ok declared ∧ Path.parent? path = some base ∧ Moves base declared c) ∧
    (Path.isAbsolute path → ∀ c, ofFile files path = .ok c →
      (∀ p ∈ c.paths, Path.isAbsolute p) ∧
      ∀ base, Path.parent? path = some base → c.resolvePaths base = c) := by
  refine ⟨⟨?_, ?_⟩, fun c => ofFile_eq_ok_iff, fun absolute c made => ?_⟩
  · rintro ⟨c, made⟩
    obtain ⟨text, declared, -, read, accepted, -⟩ := ofFile_eq_ok_iff.1 made
    exact ⟨text, declared, read, accepted⟩
  · rintro ⟨text, declared, read, accepted⟩
    -- A path to a file has a parent, as the root is a directory.
    obtain ⟨base, parent⟩ := Files.exists_parent_of_read read
    exact ⟨declared.resolvePaths base,
      ofFile_eq_ok_iff.2 ⟨text, declared, base, read, accepted, parent, moves_iff_resolvePaths.2 rfl⟩⟩
  · obtain ⟨-, declared, base, -, -, parent, moved⟩ := ofFile_eq_ok_iff.1 made
    obtain rfl := moves_iff_resolvePaths.1 moved
    -- The parent of an absolute path is absolute, and so is all that is moved behind it.
    have rooted : Path.isAbsolute base := by rw [Path.isAbsolute_of_parent? parent, absolute]
    have all (p : Path) (member : p ∈ (declared.resolvePaths base).paths) : Path.isAbsolute p :=
      isAbsolute_of_mem_paths rooted member
    exact ⟨all, fun _ _ => resolvePaths_of_absolute all⟩

/-- A configuration that names a directory and a file with machine code. -/
def pathsText : String :=
  "resource_dir = \"resources\"\n[[modules]]\nname = \"a\"\nresource = \"a.wasm\"\nartifact = \"/opt/a.cwasm\"\n"

theorem exists_of_pathsText :
    ∃ c, ofToml pathsText = .ok c ∧ c.resourceDirectory = some "resources" ∧
      c.entries = [{ Entry.ofResource "a" "a.wasm" with artifact := some "/opt/a.cwasm" }] := by
  -- The text is read by computation, up to the paths.
  have read : (ofToml pathsText).toOption.map (fun c => (c.resourceDirectory, c.entries)) =
      some (some "resources", [{ Entry.ofResource "a" "a.wasm" with artifact := some "/opt/a.cwasm" }]) := by
    decide +kernel
  cases accepted : ofToml pathsText with
  | error why =>
    rw [accepted] at read
    cases read
  | ok c =>
    rw [accepted] at read
    obtain ⟨directory, entries⟩ := Prod.mk.inj (Option.some.inj read)
    exact ⟨c, rfl, directory, entries⟩

/-- A directory under the root with a configuration. -/
def rootedFiles : Files :=
  ⟨[(["/", "etc"], .directory), (["/", "etc", "host.toml"], .file pathsText.toUTF8)]⟩

/-- The configuration under the root has its paths there, or where they say. -/
theorem located_of_rootedFiles :
    Path.isAbsolute "/etc/host.toml" ∧ ∃ c, ofFile rootedFiles "/etc/host.toml" = .ok c ∧
      c.paths = ["/etc/resources", "/opt/a.cwasm"] ∧ c.resolvePaths "/etc" = c := by
  -- Splitting is well-founded recursion, so the pieces are computed by the list's own function.
  have pieces : Path.pieces "/etc/host.toml" = ["", "etc", "host.toml"] := by
    rw [Path.pieces_eq]
    decide +kernel
  have read : rootedFiles.read "/etc/host.toml" = .ok pathsText.toUTF8 := by
    unfold Files.read Files.locate
    rw [pieces]
    rfl
  have parent : Path.parent? "/etc/host.toml" = some "/etc" := by
    unfold Path.parent?
    rw [pieces]
    decide +kernel
  have rooted : Path.isAbsolute "/etc/host.toml" := by decide
  obtain ⟨declared, accepted, directory, entries⟩ := exists_of_pathsText
  obtain ⟨-, made_iff, absolute⟩ := located_of_ofFile rootedFiles "/etc/host.toml"
  have made := (made_iff (declared.resolvePaths "/etc")).2
    ⟨pathsText, declared, "/etc", read, accepted, parent, moves_iff_resolvePaths.2 rfl⟩
  have moved : (declared.resolvePaths "/etc").paths = ["/etc/resources", "/opt/a.cwasm"] := by
    simp only [paths, resolvePaths, directory, entries]
    decide +kernel
  exact ⟨rooted, _, made, moved, (absolute rooted _ made).2 "/etc" parent⟩

end Configuration

end WasmHost
