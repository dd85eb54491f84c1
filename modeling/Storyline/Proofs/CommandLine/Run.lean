import Storyline.Proofs.CommandLine.Arguments
import Storyline.Proofs.CommandLine.Perform

/-!
# What a command line leaves behind

A command line that fails over its inputs leaves no trace: nothing is printed, and no file comes or
changes. Only compiling ever writes files, and what it writes is what the printing commands print
for the same inputs, all of it of one state of these inputs.
-/

namespace Storyline.CommandLine

open Job

/-- What a command line comes to on a disk: its report, and the disk after it. -/
def runLine (args : List String) (disk : Disk) : Report × Disk :=
  Disk.runOn (execute args) disk

/-- The command line asks for the command. -/
def Asks (args : List String) (invocation : Invocation) : Prop :=
  Request.ofArguments? args = some (.run invocation)

/-- The command prints the text, however it is asked for, and that is all it does. -/
structure Disk.Prints (disk : Disk) (invocation : Invocation) (text : String) : Prop where
  /-- The command can be asked for. -/
  exists_asks : ∃ args, Asks args invocation
  /-- It succeeds. -/
  exitCode : ∀ args, Asks args invocation → (runLine args disk).1.exitCode = 0
  /-- It prints the text. -/
  output : ∀ args, Asks args invocation → (runLine args disk).1.output = text
  /-- It changes nothing. -/
  after : ∀ args, Asks args invocation → (runLine args disk).2 = disk

namespace Results

/-- On this disk the printing commands print the results, for the inputs of the command. -/
structure Printed (results : Results) (disk : Disk) (invocation : Invocation) : Prop where
  /-- The canonical script is printed. -/
  dsl : disk.Prints { invocation with task := .dsl } results.dsl
  /-- The scenario without static lines is printed, with a line feed. -/
  scenario : disk.Prints { invocation with task := .scenario false } (results.scenario ++ "\n")
  /-- The SQL scripts are printed, each under its name. -/
  sql : disk.Prints { invocation with task := .sql } results.sql

end Results

/-- A command has compiled its inputs into a folder. -/
structure Compiled (invocation : Invocation) (folder : String) (results : Results)
    (disk after : Disk) : Prop where
  /-- Each of the files can be read. -/
  read : ∀ file ∈ results.files, after.read (Path.join folder file.1) = .ok file.2.toUTF8
  /-- No other file has come or changed. -/
  other : ∀ place,
    (∀ file ∈ results.files, after.locate (Path.join folder file.1) ≠ .ok place) →
    ∀ contents, after.entry? place = some (.file contents) ↔
      disk.entry? place = some (.file contents)
  /-- Before, the printing commands print what is in the files. -/
  before : results.Printed disk invocation
  /-- They print it ever after if no input is one of the files. -/
  later : (∀ path ∈ invocation.inputs, ∀ file ∈ results.files,
    after.locate path ≠ after.locate (Path.join folder file.1)) → results.Printed after invocation

section

variable {args : List String} {invocation : Invocation} {disk : Disk}

private theorem runLine_of_asks (h : Asks args invocation) (disk : Disk) :
    runLine args disk =
      match on (perform invocation) [] disk with
      | ((.ok outcome, log), after) =>
        ({ exitCode := if outcome.succeeded then 0 else 1, output := outcome.output, log }, after)
      | ((.error failure, log), after) =>
        ({ exitCode := 1, log, failure := some failure }, after) := by
  unfold runLine execute
  rw [h]
  dsimp only
  rw [Disk.runOn_bind]
  unfold on
  obtain ⟨⟨failure | outcome, log⟩, after⟩ :=
    Disk.runOn ((perform invocation).run.run []) disk <;> rfl

/-- A command that stops without having done anything. -/
theorem runLine_of_reads_none (h : Asks args invocation)
    (hreads : Reads disk (perform invocation) none) :
    (runLine args disk).1.exitCode = 1 ∧ (runLine args disk).1.output = "" ∧
      (runLine args disk).2 = disk := by
  obtain ⟨result, log, hon, hresult⟩ := hreads []
  rw [runLine_of_asks h, hon]
  cases result with
  | ok outcome => contradiction
  | error failure => exact ⟨rfl, rfl, rfl⟩

private theorem runLine_of_reads_some (h : Asks args invocation) {outcome : Outcome}
    (hreads : Reads disk (perform invocation) (some outcome)) :
    (runLine args disk).1.exitCode = (if outcome.succeeded then 0 else 1) ∧
      (runLine args disk).1.output = outcome.output ∧ (runLine args disk).2 = disk := by
  obtain ⟨result, log, hon, hresult⟩ := hreads []
  rw [runLine_of_asks h, hon]
  cases result with
  | ok found =>
    obtain rfl : found = outcome := Option.some.inj hresult
    exact ⟨rfl, rfl, rfl⟩
  | error failure => contradiction

/-- A command that does not compile stops early exactly if its inputs cannot be used. -/
theorem failure_eq_none_iff (h : Asks args invocation)
    (hcompile : ∀ folder, invocation.task ≠ .compile folder) :
    (runLine args disk).1.failure = none ↔ ¬ disk.Unusable invocation := by
  rw [runLine_of_asks h]
  by_cases hunusable : disk.Unusable invocation
  · obtain ⟨result, log, hon, hresult⟩ := reads_perform_of_unusable hunusable []
    rw [hon]
    cases result with
    | ok outcome => contradiction
    | error failure => exact iff_of_false (Option.some_ne_none failure) (not_not_intro hunusable)
  · obtain ⟨outcome, hreads⟩ := exists_reads_perform hunusable hcompile
    obtain ⟨result, log, hon, hresult⟩ := hreads []
    rw [hon]
    cases result with
    | ok found => exact iff_of_true rfl hunusable
    | error failure => contradiction

private theorem prints_of_reads (hnamed : invocation.Named) {text : String}
    (hreads : Reads disk (perform invocation) (some { output := text })) :
    disk.Prints invocation text where
  exists_asks := exists_ofArguments?_iff.2 hnamed
  exitCode := fun _ h ↦ (runLine_of_reads_some h hreads).1
  output := fun _ h ↦ (runLine_of_reads_some h hreads).2.1
  after := fun _ h ↦ (runLine_of_reads_some h hreads).2.2

/-- The printing commands print the results for a story whose inputs are on the disk. -/
theorem printed_ofStory (hnamed : invocation.Named) {manifest : Manifest} {blocks : List Block}
    (h : disk.Holds invocation manifest blocks) :
    (Results.ofStory manifest blocks).Printed disk invocation := by
  have hother (task : Task) (htask : ∀ folder, task ≠ .compile folder) :
      Invocation.Named { invocation with task } :=
    ⟨hnamed.manifest, hnamed.script, hnamed.scenario,
      fun folder hfolder ↦ absurd hfolder (htask folder)⟩
  have hholds (task : Task) : disk.Holds { invocation with task } manifest blocks :=
    ⟨h.manifest?_eq, h.blocks?_eq⟩
  constructor
  · exact prints_of_reads (hother _ (by simp)) (reads_perform_dsl (hholds .dsl) rfl)
  · exact prints_of_reads (hother _ (by simp))
      (reads_perform_scenario (hholds (.scenario false)) rfl)
  · rw [Results.ofStory, Results.sql_ofBundle]
    exact prints_of_reads (hother _ (by simp)) (reads_perform_sql (hholds .sql) rfl)

/-- Only compiling changes a disk. -/
theorem after_runLine_of_ne_compile
    (h : ∀ invocation folder, Asks args invocation → invocation.task ≠ .compile folder)
    (disk : Disk) : (runLine args disk).2 = disk := by
  cases hrequest : Request.ofArguments? args with
  | none =>
    unfold runLine execute
    rw [hrequest]
    rfl
  | some request =>
    cases request with
    | version | help =>
      unfold runLine execute
      rw [hrequest]
      rfl
    | run invocation =>
      by_cases hunusable : disk.Unusable invocation
      · exact (runLine_of_reads_none hrequest (reads_perform_of_unusable hunusable)).2.2
      · obtain ⟨outcome, hreads⟩ :=
          exists_reads_perform hunusable fun folder ↦ h invocation folder hrequest
        exact (runLine_of_reads_some hrequest hreads).2.2

private theorem compiled_of_exitCode (h : Asks args invocation) {folder : String}
    (htask : invocation.task = .compile folder) (hexit : (runLine args disk).1.exitCode = 0) :
    ∃ results, Compiled invocation folder results disk (runLine args disk).2 := by
  have hnamed : invocation.Named := named_of_ofArguments? h
  rcases hon : on (perform invocation) [] disk with ⟨⟨result, log⟩, after⟩
  rw [runLine_of_asks h, hon] at hexit ⊢
  cases result with
  | error failure => contradiction
  | ok outcome =>
    obtain ⟨manifest, blocks, hholds, hwritten⟩ := of_on_perform_compile htask hon
    refine ⟨.ofStory manifest blocks, hwritten.read, ?_, printed_ofStory hnamed hholds, ?_⟩
    · intro place hplace
      refine hwritten.grows.file place ?_
      rintro ⟨file, hfile, hlocate⟩
      exact hplace file hfile hlocate
    · intro houtside
      refine printed_ofStory hnamed (hwritten.grows.holds hholds ?_)
      rintro path hpath place hlocate ⟨file, hfile, hlocate'⟩
      exact houtside path hpath file hfile ((hwritten.grows.locate hlocate).trans hlocate'.symm)

/-- A command whose inputs cannot be used fails, prints nothing and leaves the disk as it is. Only
compiling changes a disk, and if it succeeds, it leaves the results for its inputs in its folder
and nothing else. -/
theorem runLine_leaves (args : List String) (disk : Disk) :
    (∀ invocation, Asks args invocation → disk.Unusable invocation →
      (runLine args disk).1.exitCode = 1 ∧ (runLine args disk).1.output = "" ∧
        (runLine args disk).2 = disk) ∧
    ((∀ invocation folder, Asks args invocation → invocation.task ≠ .compile folder) →
      (runLine args disk).2 = disk) ∧
    ∀ invocation folder, Asks args invocation → invocation.task = .compile folder →
      (runLine args disk).1.exitCode = 0 →
      ∃ results, Compiled invocation folder results disk (runLine args disk).2 := by
  refine ⟨?_, fun h ↦ after_runLine_of_ne_compile h disk, ?_⟩
  · intro invocation hasks hunusable
    exact runLine_of_reads_none hasks (reads_perform_of_unusable hunusable)
  · intro invocation folder hasks htask hexit
    exact compiled_of_exitCode hasks htask hexit

end

/-- The script of a small story on its own, and beside the manifest that compiling needs. -/
theorem runLine_leaves_sql_and_compile :
    let script : Disk := .ofFiles [("hi.txt", "S1: Hi!".toUTF8)]
    let story : Disk := .ofFiles [("hi.txt", "S1: Hi!".toUTF8),
      ("story.toml", ("story = \x7btitle = \"Hi\", code = \"h\"\x7d\n" ++
        "lectors = [\x7bid = \"n\", name = \"Narrator\"\x7d]\n").toUTF8)]
    let compile : Invocation := ⟨none, "hi.txt", none, .compile "build"⟩
    let after : Disk := (runLine ["compile", "hi.txt"] story).2
    ((runLine ["compile", "hi.txt"] script).1.exitCode = 1 ∧
      (runLine ["compile", "hi.txt"] script).1.output = "" ∧
      (runLine ["compile", "hi.txt"] script).2 = script) ∧
    (runLine ["sql", "hi.txt"] story).2 = story ∧
    ∃ results, Compiled compile "build" results story after ∧ results.Printed after compile := by
  intro script story compile after
  have hasks : Asks ["compile", "hi.txt"] compile := rfl
  have hmissing : script.Unusable compile := .noManifest rfl rfl
  have hsql : ∀ invocation folder, Asks ["sql", "hi.txt"] invocation →
      invocation.task ≠ .compile folder := by
    intro invocation folder h
    obtain rfl : ⟨none, "hi.txt", none, .sql⟩ = invocation := Request.run.inj (Option.some.inj h)
    simp
  obtain ⟨results, hcompiled⟩ : ∃ results, Compiled compile "build" results story after :=
    (runLine_leaves ["compile", "hi.txt"] story).2.2 compile "build" hasks rfl (by decide +kernel)
  have hnames : ∀ path ∈ compile.inputs, ∀ name ∈ ["schema.dsl", "scenario.json", "voices.sql",
      "story_type.sql", "schema.sql", "dynamic_lines.sql"],
      (after.locate path).toOption ≠ (after.locate (Path.join "build" name)).toOption := by
    decide +kernel
  refine ⟨(runLine_leaves ["compile", "hi.txt"] script).1 compile hasks hmissing,
    (runLine_leaves ["sql", "hi.txt"] story).2.1 hsql, results, hcompiled,
    hcompiled.later fun path hpath file hfile hsame ↦ ?_⟩
  rw [← results.map_fst_files] at hnames
  exact hnames path hpath file.1 (List.mem_map_of_mem hfile) (congrArg Except.toOption hsame)

end Storyline.CommandLine
