import Storyline.CommandLine.Disk
import Storyline.Proofs.Text.Line

/-!
# What changes on a disk

Nothing that the program does takes anything away: a folder stays a folder and a file stays a file,
and only a file that is written gets other contents. So a path that led to something leads to it
ever after, and what was read from a file can be read again unless that very file was written.
-/

namespace Storyline.CommandLine

/-- What follows on something that can fail is reached only if that did not fail. -/
theorem exists_of_bind_eq_ok {ε α β : Type} {x : Except ε α} {f : α → Except ε β} {b : β}
    (h : x >>= f = .ok b) : ∃ a, x = .ok a ∧ f a = .ok b := by
  cases x with
  | error e => contradiction
  | ok a => exact ⟨a, rfl, h⟩

namespace Disk

variable {disk after : Disk} {place : Place} {contents : ByteArray}

/-! ### Entries -/

private theorem entry?_eq_file_iff :
    disk.entry? place = some (.file contents) ↔
      (disk.files.find? fun file ↦ file.1 = place).map (·.2) = some contents := by
  unfold entry?
  cases hfile : disk.files.find? fun file ↦ file.1 = place with
  | some file => simp
  | none =>
    simp only [Option.map_none, reduceCtorEq, iff_false]
    split <;> simp

private theorem entry?_eq_folder_iff :
    disk.entry? place = some .folder ↔
      (disk.files.find? fun file ↦ file.1 = place) = none ∧
        (place.names = [] ∨ place ∈ disk.folders ∨
          disk.files.any fun file ↦ place.isAbove file.1) := by
  unfold entry?
  cases hfile : disk.files.find? fun file ↦ file.1 = place with
  | some file => simp
  | none =>
    by_cases h : place.names = [] ∨ place ∈ disk.folders ∨
        disk.files.any fun file ↦ place.isAbove file.1
    · simp only [if_pos h]
      exact iff_of_true trivial ⟨trivial, h⟩
    · simp only [if_neg h]
      exact iff_of_false (by simp) fun hfolder ↦ h hfolder.2

/-- Nothing was lost from the first disk to the second, and no file came or changed but at places
that were written. -/
structure Grows (written : Place → Prop) (disk after : Disk) : Prop where
  /-- Folders stay. -/
  folder : ∀ place, disk.entry? place = some .folder → after.entry? place = some .folder
  /-- Other files are the same. -/
  file : ∀ place, ¬ written place → ∀ contents,
    after.entry? place = some (.file contents) ↔ disk.entry? place = some (.file contents)

/-- A disk has lost nothing if nothing was done. -/
theorem Grows.refl (written : Place → Prop) (disk : Disk) : Grows written disk disk :=
  ⟨fun _ ↦ id, fun _ _ _ ↦ Iff.rfl⟩

/-- Nothing is lost by two steps if neither loses anything. -/
theorem Grows.trans {written : Place → Prop} {later : Disk} (h : Grows written disk after)
    (h' : Grows written after later) : Grows written disk later where
  folder := fun place hfolder ↦ h'.folder place (h.folder place hfolder)
  file := fun place hplace contents ↦
    (h'.file place hplace contents).trans (h.file place hplace contents)

/-- More places can be allowed for what was written. -/
theorem Grows.mono {written written' : Place → Prop} (h : Grows written disk after)
    (hwritten : ∀ place, written place → written' place) : Grows written' disk after where
  folder := h.folder
  file := fun place hplace ↦ h.file place fun hmem ↦ hplace (hwritten place hmem)

/-! ### Following a path again -/

/-- Where a name leads from a folder. -/
def toward (place : Place) (name : String) : Place :=
  if name = Path.here then place else if name = Path.up then place.up else place.down name

/-- A name leads on from a folder if it is not too long. -/
theorem follow_cons_eq_ok_iff {name : String} {names : List String} {target : Place} :
    disk.follow place (name :: names) = .ok target ↔
      disk.entry? place = some .folder ∧
        (name = Path.here ∨ name = Path.up ∨ name.utf8ByteSize ≤ Path.maxNameLength) ∧
        disk.follow (toward place name) names = .ok target := by
  rw [Disk.follow]
  cases disk.entry? place with
  | none => simp
  | some entry =>
    cases entry with
    | file contents => simp
    | folder =>
      by_cases hhere : name = Path.here
      · simp [toward, hhere]
      · by_cases hup : name = Path.up
        · have hne : Path.up ≠ Path.here := by decide
          simp [toward, hup, hne]
        · by_cases hlength : name.utf8ByteSize > Path.maxNameLength
          · simp [hhere, hup, hlength, Nat.not_le.2 hlength]
          · simp [toward, hhere, hup, hlength, Nat.not_lt.1 hlength]

/-- What was reached by names is reached by them later. -/
theorem Grows.follow {written : Place → Prop} (h : Grows written disk after) {names : List String}
    {target : Place} (hfollow : disk.follow place names = .ok target) :
    after.follow place names = .ok target := by
  induction names generalizing place with
  | nil => exact hfollow
  | cons name names ih =>
    obtain ⟨hfolder, hlength, hrest⟩ := follow_cons_eq_ok_iff.1 hfollow
    exact follow_cons_eq_ok_iff.2 ⟨h.folder place hfolder, hlength, ih hrest⟩

/-- A path leads to the same place after the disk has grown. -/
theorem Grows.locate {written : Place → Prop} (h : Grows written disk after) {path : String}
    (hlocate : disk.locate path = .ok place) : after.locate path = .ok place := by
  simp only [Disk.locate] at hlocate ⊢
  split at hlocate
  · contradiction
  · next hempty =>
    split at hlocate
    · contradiction
    · next hlength =>
      rw [if_neg hempty, if_neg hlength]
      exact h.follow hlocate

/-- A path can be read exactly if it leads to a file and does not ask for a folder. -/
theorem read_eq_ok_iff {path : String} :
    disk.read path = .ok contents ↔
      ∃ place, disk.locate path = .ok place ∧ disk.entry? place = some (.file contents) ∧
        (Path.ofText path).slashed = false := by
  simp only [read, find]
  cases hlocate : disk.locate path with
  | error e => simp [bind, Except.bind]
  | ok place =>
    cases hentry : disk.entry? place with
    | none => simp [bind, Except.bind, hentry]
    | some entry =>
      cases entry with
      | folder => simp [bind, Except.bind, pure, Except.pure, hentry]
      | file found =>
        cases (Path.ofText path).slashed <;>
          simp [bind, Except.bind, pure, Except.pure, hentry]

/-- What was read at a path is read there later if the file was not written. -/
theorem Grows.read {written : Place → Prop} (h : Grows written disk after) {path : String}
    (hread : disk.read path = .ok contents)
    (hplace : ∀ place, disk.locate path = .ok place → ¬ written place) :
    after.read path = .ok contents := by
  obtain ⟨place, hlocate, hentry, hslashed⟩ := read_eq_ok_iff.1 hread
  exact read_eq_ok_iff.2 ⟨place, h.locate hlocate,
    (h.file place (hplace place hlocate) contents).2 hentry, hslashed⟩

/-! ### Writing -/

/-- Files other than the one that got its contents are found as before. -/
theorem find?_put (disk : Disk) (place : Place) (contents : ByteArray) (other : Place) :
    ((disk.put place contents).files.find? fun file ↦ file.1 = other) =
      if other = place then some (place, contents)
      else disk.files.find? fun file ↦ file.1 = other := by
  unfold put
  split
  · next hany =>
    -- the file was there, so the files stay where they are
    have hplaces : ((fun file : Place × ByteArray ↦ decide (file.1 = other)) ∘
        fun file ↦ if file.1 = place then (place, contents) else file) =
          fun file ↦ decide (file.1 = other) := by
      funext file
      by_cases hfile : file.1 = place <;> simp [hfile]
    rw [List.find?_map, hplaces]
    cases hfind : disk.files.find? fun file ↦ file.1 = other with
    | none =>
      have hother : other ≠ place := by
        rintro rfl
        obtain ⟨file, hmem, hfile⟩ := List.any_eq_true.1 hany
        exact List.find?_eq_none.1 hfind file hmem hfile
      rw [if_neg hother, Option.map_none]
    | some file =>
      have hfile : file.1 = other := by simpa using List.find?_some hfind
      by_cases hother : other = place <;> simp [hfile, hother]
  · next hany =>
    rw [List.find?_append]
    by_cases hother : other = place
    · subst hother
      have hnone : (disk.files.find? fun file ↦ file.1 = other) = none :=
        List.find?_eq_none.2 fun file hmem hfile ↦ hany (List.any_eq_true.2 ⟨file, hmem, hfile⟩)
      simp [hnone]
    · simp [hother, Ne.symm hother]

private theorem entry?_put : entry? (disk.put place contents) place = some (.file contents) := by
  rw [entry?_eq_file_iff, find?_put, if_pos rfl, Option.map_some]

/-- Where there was a file there is one later. -/
theorem exists_mem_put {file : Place × ByteArray} (h : file ∈ disk.files) (place : Place)
    (contents : ByteArray) : ∃ found ∈ (disk.put place contents).files, found.1 = file.1 := by
  unfold put
  split
  · refine ⟨_, List.mem_map_of_mem h, ?_⟩
    split
    · next hfile => exact hfile.symm
    · rfl
  · exact ⟨file, List.mem_append_left _ h, rfl⟩

private theorem folders_put : (disk.put place contents).folders = disk.folders := by
  unfold put
  split <;> rfl

/-- A file that is put where no folder is takes nothing away. -/
theorem grows_put (h : disk.entry? place ≠ some .folder) :
    Grows (· = place) disk (disk.put place contents) where
  folder := by
    intro other hfolder
    have hother : other ≠ place := by
      rintro rfl
      exact h hfolder
    rw [entry?_eq_folder_iff] at hfolder ⊢
    rw [find?_put, if_neg hother, folders_put]
    refine ⟨hfolder.1, hfolder.2.imp_right (Or.imp_right fun hany ↦ ?_)⟩
    obtain ⟨file, hmem, habove⟩ := List.any_eq_true.1 hany
    obtain ⟨found, hfound, hplace⟩ := exists_mem_put hmem place contents
    exact List.any_eq_true.2 ⟨found, hfound, by rwa [hplace]⟩
  file := by
    intro other hother found
    rw [entry?_eq_file_iff, entry?_eq_file_iff, find?_put, if_neg hother]

/-- What is written to a path is what is read there. -/
theorem of_write_eq_ok {path : String} (h : disk.write path contents = .ok after) :
    ∃ place, disk.locate path = .ok place ∧ Grows (· = place) disk after ∧
      after.read path = .ok contents := by
  obtain ⟨place, hlocate, h⟩ := exists_of_bind_eq_ok h
  split at h
  · contradiction
  · next hfolder =>
    split at h
    · contradiction
    · next hslashed =>
      obtain rfl := Except.ok.inj h
      have hgrows : Grows (· = place) disk (disk.put place contents) := grows_put hfolder
      exact ⟨place, hlocate, hgrows, read_eq_ok_iff.2
        ⟨place, hgrows.locate hlocate, entry?_put, Bool.eq_false_iff.2 hslashed⟩⟩

/-! ### Making folders -/

/-- Making a folder changes no file. -/
theorem grows_addFolder {path : String} (h : disk.addFolder path = .ok after) :
    Grows (fun _ ↦ False) disk after := by
  obtain ⟨place, -, h⟩ := exists_of_bind_eq_ok h
  split at h
  · contradiction
  · obtain rfl := Except.ok.inj h
    constructor
    · intro other hfolder
      rw [entry?_eq_folder_iff] at hfolder ⊢
      exact ⟨hfolder.1, hfolder.2.imp_right (Or.imp_left (List.mem_append_left _))⟩
    · intro other _ contents
      rw [entry?_eq_file_iff, entry?_eq_file_iff]

/-- What an operation gives on a disk, and the disk after it. -/
def runOn {α : Type} (operation : StateM Disk α) (disk : Disk) : α × Disk :=
  (operation.run disk).run

/-- Two operations run one after the other, the second on the disk that the first one leaves. -/
theorem runOn_bind {α β : Type} (operation : StateM Disk α) (next : α → StateM Disk β)
    (disk : Disk) : runOn (operation >>= next) disk =
      runOn (next (runOn operation disk).1) (runOn operation disk).2 := rfl

/-- The operation changes no file, on whatever disk. -/
def KeepsFiles {α : Type} (operation : StateM Disk α) : Prop :=
  ∀ disk, Grows (fun _ ↦ False) disk (runOn operation disk).2

private theorem keepsFiles_pure {α : Type} (a : α) : KeepsFiles (pure a) := fun disk ↦ .refl _ disk

/-- Two operations that keep all files keep them one after the other. -/
theorem KeepsFiles.bind {α β : Type} {operation : StateM Disk α} {next : α → StateM Disk β}
    (h : KeepsFiles operation) (hnext : ∀ a, KeepsFiles (next a)) :
    KeepsFiles (operation >>= next) := by
  intro disk
  rw [runOn_bind]
  exact (h disk).trans (hnext _ _)

/-- A change that succeeds is made. -/
theorem runOn_attempt_of_ok (change : Disk → Except FileError Disk) {disk after : Disk}
    (h : change disk = .ok after) : runOn (attempt change) disk = (.ok (), after) := by
  rw [runOn, attempt, StateT.run_modifyGet, h]
  rfl

/-- A change that fails leaves the disk as it was. -/
theorem runOn_attempt_of_error (change : Disk → Except FileError Disk) {disk : Disk}
    {e : FileError} (h : change disk = .error e) :
    runOn (attempt change) disk = (.error e, disk) := by
  rw [runOn, attempt, StateT.run_modifyGet, h]
  rfl

private theorem keepsFiles_makeFolder (path : String) :
    KeepsFiles (FileSystem.makeFolder path : StateM Disk (Except FileError Unit)) := by
  intro disk
  change Grows _ disk (runOn (attempt (·.addFolder path)) disk).2
  cases hadd : disk.addFolder path with
  | ok changed =>
    rw [runOn_attempt_of_ok (·.addFolder path) hadd]
    exact grows_addFolder hadd
  | error e =>
    rw [runOn_attempt_of_error (·.addFolder path) hadd]
    exact .refl _ disk

private theorem keepsFiles_ensureFolder (path : String) :
    KeepsFiles (ensureFolder path : StateM Disk (Except FileError Unit)) := by
  refine (keepsFiles_makeFolder path).bind fun result ↦ ?_
  cases result with
  | ok => exact keepsFiles_pure _
  | error e => exact fun disk ↦ .refl _ disk

private theorem keepsFiles_ensureFolders (paths : List String) :
    KeepsFiles (ensureFolders paths : StateM Disk (Except FileError Unit)) := by
  induction paths with
  | nil => exact keepsFiles_pure _
  | cons path parents ih =>
    refine (keepsFiles_ensureFolder path).bind fun result ↦ ?_
    split
    · refine ih.bind fun made ↦ ?_
      cases made with
      | ok => exact keepsFiles_ensureFolder path
      | error e => exact keepsFiles_pure _
    · exact keepsFiles_pure _

/-- Making a folder and those on the way to it changes no file. -/
theorem keepsFiles_createFolder (path : String) :
    KeepsFiles (createFolder path : StateM Disk (Except FileError Unit)) :=
  keepsFiles_ensureFolders _

/-! ### Files in a folder -/

/-- A name that a file can have in its folder. -/
structure IsName (name : String) : Prop where
  /-- There is a name. -/
  ne_empty : name ≠ ""
  /-- No slash stands in the name. -/
  noSlash : '/' ∉ name.toList
  /-- The name does not stay in the folder. -/
  ne_here : name ≠ Path.here
  /-- The name does not go up from the folder. -/
  ne_up : name ≠ Path.up

instance (name : String) : Decidable (IsName name) :=
  decidable_of_iff
    (name ≠ "" ∧ '/' ∉ name.toList ∧ name ≠ Path.here ∧ name ≠ Path.up)
    ⟨fun ⟨hempty, hslash, hhere, hup⟩ ↦ ⟨hempty, hslash, hhere, hup⟩,
      fun h ↦ ⟨h.ne_empty, h.noSlash, h.ne_here, h.ne_up⟩⟩

/-- The written path of a file in a folder ends with the name of the file. -/
theorem exists_names_join (folder : String) {name : String} (h : IsName name) :
    ∃ front, (Path.ofText (Path.join folder name)).names = front ++ [name] := by
  have hcut : ∀ front : List Char, ∃ names : List String,
      ((Text.pieces '/' (front ++ '/' :: name.toList)).map String.ofList).filter (· ≠ "") =
        names ++ [name] := by
    intro front
    refine ⟨((Text.pieces '/' front).map String.ofList).filter (· ≠ ""), ?_⟩
    rw [Text.pieces_append, Text.pieces_of_notMem h.noSlash, List.map_append, List.filter_append,
      List.map_singleton, String.ofList_toList, List.filter_cons_of_pos (by simpa using h.ne_empty),
      List.filter_nil]
  unfold Path.join
  split
  · next hnone =>
    refine ⟨[], ?_⟩
    rw [Path.ofText, String.toList_append, List.getLast?_eq_none_iff.1 hnone, List.nil_append,
      Text.pieces_of_notMem h.noSlash]
    simpa using h.ne_empty
  · next hslash =>
    obtain ⟨front, hfront⟩ := List.getLast?_eq_some_iff.1 hslash
    rw [Path.ofText, String.toList_append, hfront, List.append_assoc, List.singleton_append]
    exact hcut front
  · rw [Path.ofText, String.toList_append, String.toList_append, List.append_assoc]
    exact hcut folder.toList

/-- Names that end with one that goes down lead to a place of this name. -/
theorem getLast?_of_follow {name : String} (h : IsName name) {front : List String}
    {target : Place} (hfollow : disk.follow place (front ++ [name]) = .ok target) :
    target.names.getLast? = some name := by
  induction front generalizing place with
  | nil =>
    obtain ⟨-, -, hrest⟩ := follow_cons_eq_ok_iff.1 hfollow
    obtain rfl := Except.ok.inj hrest
    rw [toward, if_neg h.ne_here, if_neg h.ne_up]
    exact List.getLast?_concat
  | cons first front ih => exact ih (follow_cons_eq_ok_iff.1 hfollow).2.2

/-- The path of a file in a folder leads to a place of the name of the file. -/
theorem getLast?_of_locate_join {folder name : String} (h : IsName name)
    (hlocate : disk.locate (Path.join folder name) = .ok place) :
    place.names.getLast? = some name := by
  obtain ⟨front, hnames⟩ := exists_names_join folder h
  simp only [locate, hnames] at hlocate
  split at hlocate
  · contradiction
  · split at hlocate
    · contradiction
    · exact getLast?_of_follow h hlocate

end Disk

end Storyline.CommandLine
