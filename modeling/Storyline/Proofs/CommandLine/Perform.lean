import Storyline.Proofs.CommandLine.Job

/-!
# What commands do

A command whose inputs cannot be used stops before it does anything, whatever the command is. One
that prints only reads. The one that writes has read everything before its first file, and its
files have names of their own, so that none of them replaces another one.
-/

namespace Storyline.CommandLine

open Job

variable {disk after : Disk} {invocation : Invocation}

/-! ### Unusable inputs -/

/-- Whether a task can only be done with a manifest. -/
def Task.needsManifest : Task → Bool
  | sql | compile _ => true
  | _ => false

/-- The inputs of a command cannot be used. -/
inductive Disk.Unusable (disk : Disk) (invocation : Invocation) : Prop where
  /-- The manifest that is named, or else the default one that is there, does not load. -/
  | manifest (h : disk.manifest? invocation.manifest = none)
  /-- The command needs a manifest, and there is none. -/
  | noManifest (htask : invocation.task.needsManifest)
    (h : disk.manifest? invocation.manifest = some none)
  /-- The script cannot be read. -/
  | script (h : disk.text? invocation.script = none)
  /-- The scenario that is named cannot be read, or is none. -/
  | scenario (path : String) (hpath : invocation.scenario = some path)
    (h : disk.scenario? path = none)

private theorem blocks?_of_scenario_eq_none {path : String}
    (hpath : invocation.scenario = some path)
    (h : disk.scenario? path = none) (lectors : List Lector) :
    disk.blocks? invocation lectors = none := by
  unfold Disk.blocks?
  cases disk.text? invocation.script with
  | none => rfl
  | some text => simp [hpath, h]

/-- Without usable inputs every command stops, and nothing was done. -/
theorem reads_perform_of_unusable (h : disk.Unusable invocation) :
    Reads disk (perform invocation) none := by
  have hload : Reads disk (loadManifest _) _ := reads_loadManifest invocation.manifest
  cases hmanifest : disk.manifest? invocation.manifest with
  | none =>
    rw [hmanifest] at hload
    exact hload.stop _
  | some manifest =>
    rw [hmanifest] at hload
    refine hload.step ?_
    -- what is not missed before is missed when the blocks are loaded
    have hblocks (hneed : invocation.task.needsManifest → manifest ≠ none)
        (lectors : List Lector) : Reads disk (loadBlocks invocation lectors) none := by
      have hnone : disk.blocks? invocation lectors = none := by
        cases h with
        | manifest h => simp [hmanifest] at h
        | noManifest htask h => exact absurd (by simpa [hmanifest] using h) (hneed htask)
        | script h => rw [Disk.blocks?, h, Option.bind_none]
        | scenario path hpath h => exact blocks?_of_scenario_eq_none hpath h lectors
      rw [← hnone]
      exact reads_loadBlocks invocation lectors
    have hneeded {α : Type} (next : Manifest → List Block → Job (StateM Disk) α) :
        Reads disk (need manifest >>= fun manifest' ↦
          loadBlocks invocation ((manifest.map (·.lectors)).getD []) >>= next manifest') none := by
      cases manifest with
      | none => exact (reads_need none).stop _
      | some manifest =>
        exact (reads_need (some manifest)).step ((hblocks (fun _ ↦ by simp) _).stop _)
    cases htask : invocation.task with
    | dsl => exact (hblocks (by simp [htask, Task.needsManifest]) _).stop _
    | transcript => exact (hblocks (by simp [htask, Task.needsManifest]) _).stop _
    | scenario => exact (hblocks (by simp [htask, Task.needsManifest]) _).stop _
    | sql => exact hneeded _
    | compile => exact hneeded _
    | lint => exact (hblocks (by simp [htask, Task.needsManifest]) _).stop _

/-! ### Commands that print -/

private theorem exists_blocks?_eq_some (h : ¬ disk.Unusable invocation) (lectors : List Lector) :
    ∃ blocks, disk.blocks? invocation lectors = some blocks := by
  unfold Disk.blocks?
  cases htext : disk.text? invocation.script with
  | none => exact absurd (.script htext) h
  | some text =>
    rw [Option.bind_some]
    cases hpath : invocation.scenario with
    | none => exact ⟨_, rfl⟩
    | some path =>
      dsimp only
      cases hscenario : disk.scenario? path with
      | none => exact absurd (.scenario path hpath hscenario) h
      | some scenario => exact ⟨_, rfl⟩

/-- A command that does not compile comes to its end if its inputs can be used. -/
theorem exists_reads_perform (h : ¬ disk.Unusable invocation)
    (hcompile : ∀ folder, invocation.task ≠ .compile folder) :
    ∃ outcome, Reads disk (perform invocation) (some outcome) := by
  cases hmanifest : disk.manifest? invocation.manifest with
  | none => exact absurd (.manifest hmanifest) h
  | some manifest =>
    have hload : Reads disk (loadManifest invocation.manifest) (some manifest) :=
      hmanifest ▸ reads_loadManifest invocation.manifest
    obtain ⟨blocks, hblocks⟩ := exists_blocks?_eq_some h ((manifest.map (·.lectors)).getD [])
    have hscript : Reads disk (loadBlocks invocation _) (some blocks) :=
      hblocks ▸ reads_loadBlocks invocation _
    refine hload.exists_step ?_
    cases htask : invocation.task with
    | dsl => exact hscript.exists_step ⟨_, reads_pure _⟩
    | transcript => exact hscript.exists_step ⟨_, reads_pure _⟩
    | scenario includeStatic =>
      exact hscript.exists_step
        ((reads_scenarioText includeStatic _ blocks).exists_step ⟨_, reads_pure _⟩)
    | sql =>
      cases manifest with
      | none => exact absurd (.noManifest (by simp [htask, Task.needsManifest]) hmanifest) h
      | some manifest =>
        exact (reads_need (some manifest)).exists_step (hscript.exists_step ⟨_, reads_pure _⟩)
    | compile folder => exact absurd htask (hcompile folder)
    | lint denyWarnings =>
      refine hscript.exists_step ?_
      split
      · exact ⟨_, (reads_log _).step (reads_pure _)⟩
      · exact ⟨_, (reads_log _).step (reads_pure _)⟩

/-- The command reads this manifest and these blocks. -/
structure Disk.Holds (disk : Disk) (invocation : Invocation) (manifest : Manifest)
    (blocks : List Block) : Prop where
  /-- The manifest is there. -/
  manifest?_eq : disk.manifest? invocation.manifest = some (some manifest)
  /-- The script is there, and the scenario if one is named. -/
  blocks?_eq : disk.blocks? invocation manifest.lectors = some blocks

section

variable {manifest : Manifest} {blocks : List Block}

private theorem reads_loadManifest_of_holds (h : disk.Holds invocation manifest blocks) :
    Reads disk (loadManifest invocation.manifest) (some (some manifest)) :=
  h.manifest?_eq ▸ reads_loadManifest invocation.manifest

private theorem reads_loadBlocks_of_holds (h : disk.Holds invocation manifest blocks) :
    Reads disk (loadBlocks invocation manifest.lectors) (some blocks) :=
  h.blocks?_eq ▸ reads_loadBlocks invocation manifest.lectors

/-- The canonical script of what the disk holds is printed. -/
theorem reads_perform_dsl (h : disk.Holds invocation manifest blocks)
    (htask : invocation.task = .dsl) :
    Reads disk (perform invocation) (some { output := Dsl.render blocks }) := by
  refine (reads_loadManifest_of_holds h).step ?_
  rw [htask]
  exact (reads_loadBlocks_of_holds h).step (reads_pure _)

/-- The scenario of what the disk holds is printed. -/
theorem reads_perform_scenario {includeStatic : Bool} (h : disk.Holds invocation manifest blocks)
    (htask : invocation.task = .scenario includeStatic) :
    Reads disk (perform invocation) (some {
      output := (Scenario.ofBlocks manifest.lectors includeStatic blocks).toText ++ "\n" }) := by
  refine (reads_loadManifest_of_holds h).step ?_
  rw [htask]
  exact (reads_loadBlocks_of_holds h).step
    ((reads_scenarioText includeStatic manifest.lectors blocks).step (reads_pure _))

/-- The SQL scripts of what the disk holds are printed. -/
theorem reads_perform_sql (h : disk.Holds invocation manifest blocks)
    (htask : invocation.task = .sql) :
    Reads disk (perform invocation) (some {
      output := bundleText (.ofStory manifest blocks (Dsl.render blocks)) }) := by
  refine (reads_loadManifest_of_holds h).step ?_
  rw [htask]
  exact (reads_need (some manifest)).step
    ((reads_loadBlocks_of_holds h).step (reads_pure _))

end

/-! ### The same inputs later -/

/-- The paths of what a command reads. -/
def Invocation.inputs (invocation : Invocation) : List String :=
  invocation.manifest.getD defaultManifest :: invocation.script :: invocation.scenario.toList

namespace Disk

variable {written : Place → Prop}

/-- A file stays as it is where nothing was written. -/
theorem Grows.text? (h : Grows written disk after) {path text : String}
    (htext : disk.text? path = some text)
    (hplace : ∀ place, disk.locate path = .ok place → ¬ written place) :
    after.text? path = some text := by
  unfold Disk.text? at htext ⊢
  cases hread : disk.read path with
  | error e =>
    rw [hread] at htext
    contradiction
  | ok contents =>
    rw [hread] at htext
    rw [h.read hread hplace]
    exact htext

/-- A manifest stays as it is where nothing was written. -/
theorem Grows.manifest? (h : Grows written disk after) {named : Option String}
    {manifest : Manifest} (hmanifest : disk.manifest? named = some (some manifest))
    (hplace : ∀ place, disk.locate (named.getD defaultManifest) = .ok place → ¬ written place) :
    after.manifest? named = some (some manifest) := by
  obtain ⟨text, htext, hload⟩ := manifest?_eq_some_iff.1 hmanifest
  exact manifest?_eq_some_iff.2 ⟨text, h.text? htext hplace, hload⟩

/-- The blocks stay as they are if none of the inputs was written. -/
theorem Grows.blocks? (h : Grows written disk after) {blocks : List Block} {lectors : List Lector}
    (hblocks : disk.blocks? invocation lectors = some blocks)
    (hplace : ∀ path ∈ invocation.inputs, ∀ place, disk.locate path = .ok place → ¬ written place) :
    after.blocks? invocation lectors = some blocks := by
  unfold Disk.blocks? at hblocks ⊢
  obtain ⟨text, htext, hblocks⟩ := Option.bind_eq_some_iff.1 hblocks
  rw [h.text? htext (hplace _ (List.mem_cons_of_mem _ List.mem_cons_self)), Option.bind_some]
  cases hscenario : invocation.scenario with
  | none =>
    rw [hscenario] at hblocks
    exact hblocks
  | some path =>
    rw [hscenario] at hblocks
    dsimp only at hblocks ⊢
    have hpath : path ∈ invocation.inputs := by simp [Invocation.inputs, hscenario]
    obtain ⟨scenario, hload, hblocks⟩ := Option.map_eq_some_iff.1 hblocks
    obtain ⟨text, htext, hload⟩ := Option.bind_eq_some_iff.1 hload
    rw [Disk.scenario?, h.text? htext (hplace path hpath), Option.bind_some, hload, ← hblocks]
    rfl

/-- Inputs that were not written are the same later. -/
theorem Grows.holds (h : Grows written disk after) {manifest : Manifest} {blocks : List Block}
    (hholds : disk.Holds invocation manifest blocks)
    (hplace : ∀ path ∈ invocation.inputs, ∀ place, disk.locate path = .ok place → ¬ written place) :
    after.Holds invocation manifest blocks where
  manifest?_eq := h.manifest? hholds.manifest?_eq (hplace _ List.mem_cons_self)
  blocks?_eq := h.blocks? hholds.blocks?_eq hplace

end Disk

/-! ### Writing files into a folder -/

/-- Files were written into a folder, and nothing else has changed. -/
structure Disk.Written (folder : String) (files : List (String × String)) (disk after : Disk) :
    Prop where
  /-- Each of the files can be read. -/
  read : ∀ file ∈ files, after.read (Path.join folder file.1) = .ok file.2.toUTF8
  /-- Other files are the same. -/
  grows : Disk.Grows (fun place ↦
    ∃ file ∈ files, after.locate (Path.join folder file.1) = .ok place) disk after

private theorem Disk.written_nil (folder : String) (disk : Disk) :
    Disk.Written folder [] disk disk where
  read := fun _ hfile ↦ absurd hfile List.not_mem_nil
  grows := .refl _ disk

/-- One file and then others of other names. -/
theorem Disk.Written.cons {folder name text : String} {files : List (String × String)}
    {disk₁ : Disk} {place : Place} (hname : IsName name) (hnotMem : name ∉ files.map (·.1))
    (hlocate : disk.locate (Path.join folder name) = .ok place)
    (hgrows : Disk.Grows (· = place) disk disk₁)
    (hread : disk₁.read (Path.join folder name) = .ok text.toUTF8)
    (h : Disk.Written folder files disk₁ after) (hnames : ∀ file ∈ files, IsName file.1) :
    Disk.Written folder ((name, text) :: files) disk after := by
  have hlocate₁ : disk₁.locate (Path.join folder name) = .ok place := hgrows.locate hlocate
  have hlocate' : after.locate (Path.join folder name) = .ok place := h.grows.locate hlocate₁
  constructor
  · intro file hfile
    obtain rfl | hfile := List.mem_cons.1 hfile
    · refine h.grows.read hread fun other hother ↦ ?_
      rintro ⟨file, hfile, hlocated⟩
      -- the last name on the way to a file is the file's own
      obtain rfl : place = other := Except.ok.inj (hlocate₁.symm.trans hother)
      have hsame : some name = some file.1 :=
        (getLast?_of_locate_join hname hlocate₁).symm.trans
          (getLast?_of_locate_join (hnames file hfile) hlocated)
      exact hnotMem (List.mem_map.2 ⟨file, hfile, (Option.some.inj hsame).symm⟩)
    · exact h.read file hfile
  · refine (hgrows.mono ?_).trans (h.grows.mono ?_)
    · rintro _ rfl
      exact ⟨(name, text), List.mem_cons_self, hlocate'⟩
    · rintro other ⟨file, hfile, hlocated⟩
      exact ⟨file, List.mem_cons_of_mem _ hfile, hlocated⟩

private theorem write_eq_ok_of_on {failure : FileError → Failure} {path text : String} {a : Unit}
    {log log' : List LogEntry}
    (h : on (orFail failure (FileSystem.writeText path text)) log disk = ((.ok a, log'), after)) :
    disk.write path text.toUTF8 = .ok after := by
  have hrun : Disk.runOn (FileSystem.writeText path text) disk =
      Disk.runOn (Disk.attempt (·.write path text.toUTF8)) disk := rfl
  rw [on_orFail, hrun] at h
  cases hwrite : disk.write path text.toUTF8 with
  | ok changed =>
    rw [Disk.runOn_attempt_of_ok (·.write path text.toUTF8) hwrite] at h
    exact congrArg Except.ok (congrArg Prod.snd h)
  | error e =>
    rw [Disk.runOn_attempt_of_error (·.write path text.toUTF8) hwrite] at h
    cases h

private theorem written_of_on_loop {folder : String} {files : List (String × String)}
    (hnames : ∀ file ∈ files, Disk.IsName file.1) (hnodup : (files.map (·.1)).Nodup)
    {log log' : List LogEntry} {disk after : Disk}
    (h : on (forIn files PUnit.unit fun file _ ↦ do
      orFail (.fileNotWritten (Path.join folder file.1))
        (FileSystem.writeText (Path.join folder file.1) file.2)
      pure (ForInStep.yield PUnit.unit)) log disk = ((.ok PUnit.unit, log'), after)) :
    Disk.Written folder files disk after := by
  induction files generalizing log disk with
  | nil =>
    obtain rfl : disk = after := congrArg Prod.snd h
    exact Disk.written_nil folder disk
  | cons file files ih =>
    rw [List.forIn_cons, bind_assoc] at h
    obtain ⟨_, log₁, disk₁, hwrite, h⟩ := of_on_bind_eq_ok h
    rw [pure_bind] at h
    obtain ⟨place, hlocate, hgrows, hread⟩ := Disk.of_write_eq_ok (write_eq_ok_of_on hwrite)
    obtain ⟨hnotMem, hnodup⟩ := List.nodup_cons.1 hnodup
    obtain ⟨hname, hnames⟩ := List.forall_mem_cons.1 hnames
    exact (ih hnames hnodup h).cons hname hnotMem hlocate hgrows hread hnames

/-- What is written into a folder, if all of it is. -/
theorem written_of_on_writeFiles {folder : String} {files : List (String × String)}
    (hnames : ∀ file ∈ files, Disk.IsName file.1) (hnodup : (files.map (·.1)).Nodup)
    {log log' : List LogEntry} {a : Unit}
    (h : on (writeFiles folder files) log disk = ((.ok a, log'), after)) :
    Disk.Written folder files disk after := by
  obtain ⟨_, log₁, disk₁, hfolder, h⟩ := of_on_bind_eq_ok h
  obtain ⟨_, log₂, disk₂, hloop, h⟩ := of_on_bind_eq_ok h
  obtain rfl : disk₂ = after := congrArg Prod.snd h
  have hwritten : Disk.Written folder files disk₁ disk₂ := written_of_on_loop hnames hnodup hloop
  rw [on_orFail] at hfolder
  obtain rfl : (Disk.runOn (createFolder folder) disk).2 = disk₁ := congrArg Prod.snd hfolder
  have hgrows : Disk.Grows (fun _ ↦ False) disk _ := Disk.keepsFiles_createFolder folder disk
  exact ⟨hwritten.read, (hgrows.mono fun _ ↦ False.elim).trans hwritten.grows⟩

/-! ### Compiling -/

/-- The texts that are written for a story. -/
structure Results where
  /-- The canonical script. -/
  dsl : String
  /-- The scenario. -/
  scenario : String
  /-- Registers the voices. -/
  voices : String
  /-- Registers the story. -/
  storyType : String
  /-- Stores the canonical script. -/
  schema : String
  /-- Registers the dynamic lines. -/
  dynamicLines : String
  deriving DecidableEq, Repr

namespace Results

/-- The files of the results. -/
def files (results : Results) : List (String × String) :=
  [("schema.dsl", results.dsl), ("scenario.json", results.scenario),
    ("voices.sql", results.voices), ("story_type.sql", results.storyType),
    ("schema.sql", results.schema), ("dynamic_lines.sql", results.dynamicLines)]

/-- The SQL scripts one after the other, each under its name. -/
def sql (results : Results) : String :=
  "-- voices.sql\n" ++ results.voices ++ "\n" ++
  "-- story_type.sql\n" ++ results.storyType ++ "\n" ++
  "-- schema.sql\n" ++ results.schema ++ "\n" ++
  "-- dynamic_lines.sql\n" ++ results.dynamicLines ++ "\n"

/-- The results for a canonical script, a scenario and SQL scripts. -/
def ofBundle (dsl scenario : String) (bundle : Sql.Bundle) : Results where
  dsl := dsl
  scenario := scenario
  voices := bundle.voices.render
  storyType := bundle.storyType.render
  schema := bundle.schema.render
  dynamicLines := bundle.dynamicLines.render

private theorem files_ofBundle (dsl scenario : String) (bundle : Sql.Bundle) :
    (ofBundle dsl scenario bundle).files =
      [("schema.dsl", dsl), ("scenario.json", scenario)] ++ bundle.files := rfl

/-- The scripts of the results are printed like those of the bundle. -/
theorem sql_ofBundle (dsl scenario : String) (bundle : Sql.Bundle) :
    (ofBundle dsl scenario bundle).sql = bundleText bundle := by
  -- as texts they are put together in another order, as lists of characters they are the same
  rw [← String.toList_inj]
  unfold bundleText Sql.Bundle.files sql ofBundle
  simp [String.join, String.toList_append]

/-- The results for a story. -/
def ofStory (manifest : Manifest) (blocks : List Block) : Results :=
  ofBundle (Dsl.render blocks) (Scenario.ofBlocks manifest.lectors false blocks).toText
    (.ofStory manifest blocks (Dsl.render blocks))

/-- The results are six files of fixed names. -/
theorem map_fst_files (results : Results) :
    results.files.map (·.1) =
      ["schema.dsl", "scenario.json", "voices.sql", "story_type.sql", "schema.sql",
        "dynamic_lines.sql"] := rfl

private theorem isName_of_mem_files {results : Results} {file : String × String}
    (h : file ∈ results.files) : Disk.IsName file.1 := by
  have hname : file.1 ∈ results.files.map (·.1) := List.mem_map_of_mem h
  rw [map_fst_files] at hname
  have hnames : ∀ name ∈ ["schema.dsl", "scenario.json", "voices.sql", "story_type.sql",
      "schema.sql", "dynamic_lines.sql"], Disk.IsName name := by decide
  exact hnames _ hname

end Results

/-- A command that compiled has read everything that it needs, and has written its files. -/
theorem of_on_perform_compile {folder : String} (htask : invocation.task = .compile folder)
    {outcome : Outcome} {log log' : List LogEntry}
    (h : on (perform invocation) log disk = ((.ok outcome, log'), after)) :
    ∃ manifest blocks, disk.Holds invocation manifest blocks ∧
      Disk.Written folder (Results.ofStory manifest blocks).files disk after := by
  obtain ⟨found, log₁, hmanifest, h⟩ :=
    (reads_loadManifest invocation.manifest).of_on_bind_eq_ok h
  rw [htask] at h
  obtain ⟨manifest, log₂, rfl, h⟩ := (reads_need found).of_on_bind_eq_ok h
  obtain ⟨blocks, log₃, hblocks, h⟩ :=
    (reads_loadBlocks invocation manifest.lectors).of_on_bind_eq_ok h
  refine ⟨manifest, blocks, ⟨hmanifest, hblocks⟩, ?_⟩
  obtain ⟨text, log₄, htext, h⟩ :=
    (reads_scenarioText false manifest.lectors blocks).of_on_bind_eq_ok h
  obtain rfl := Option.some.inj htext
  obtain ⟨_, log₅, disk₁, hwrite, h⟩ := of_on_bind_eq_ok h
  obtain ⟨_, log₆, disk₂, hlog, h⟩ := of_on_bind_eq_ok h
  obtain rfl : disk₂ = after := congrArg Prod.snd h
  obtain rfl : disk₁ = disk₂ := congrArg Prod.snd hlog
  rw [← Results.files_ofBundle] at hwrite
  refine written_of_on_writeFiles (fun _ ↦ Results.isName_of_mem_files) ?_ hwrite
  rw [Results.map_fst_files]
  decide

end Storyline.CommandLine
