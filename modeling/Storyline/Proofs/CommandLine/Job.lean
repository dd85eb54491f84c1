import Storyline.CommandLine.Run
import Storyline.Proofs.CommandLine.Disk

/-!
# Steps of commands on a disk

Before a command prints or writes anything it only reads. What a reading step finds is a matter of
the disk alone, and finding nothing is where the command stops. Then one step, the last of a
command, may write files into a folder.
-/

namespace Storyline.CommandLine

/-! ### Steps in general -/

namespace Job

variable {α β : Type} {disk : Disk}

/-- What a step comes to on a disk, after some log: its result with the log, and the disk. -/
def on (job : Job (StateM Disk) α) (log : List LogEntry) (disk : Disk) :
    (Except Failure α × List LogEntry) × Disk :=
  Disk.runOn (job.run.run log) disk

/-- A step follows on another one unless that stops. -/
theorem on_bind (job : Job (StateM Disk) α) (next : α → Job (StateM Disk) β)
    (log : List LogEntry) (disk : Disk) :
    on (job >>= next) log disk =
      match on job log disk with
      | ((.ok a, log'), disk') => on (next a) log' disk'
      | ((.error failure, log'), disk') => ((.error failure, log'), disk') := by
  cases h : on job log disk with
  | mk result disk' =>
    unfold on at h ⊢
    rw [ExceptT.run_bind, StateT.run_bind, Disk.runOn_bind, h]
    obtain ⟨failure | a, log'⟩ := result <;> rfl

/-- A step that is followed by another one came to its end if that one did. -/
theorem of_on_bind_eq_ok {job : Job (StateM Disk) α} {next : α → Job (StateM Disk) β} {b : β}
    {log log' : List LogEntry} {after : Disk}
    (h : on (job >>= next) log disk = ((.ok b, log'), after)) :
    ∃ a log₁ disk₁, on job log disk = ((.ok a, log₁), disk₁) ∧
      on (next a) log₁ disk₁ = ((.ok b, log'), after) := by
  rw [on_bind] at h
  split at h
  · next a log₁ disk₁ hjob => exact ⟨a, log₁, disk₁, hjob, h⟩
  · simp at h

/-- A file operation is a step that stops if the operation fails. -/
theorem on_orFail (failure : FileError → Failure) (operation : StateM Disk (Except FileError α))
    (log : List LogEntry) (disk : Disk) :
    on (orFail failure operation) log disk =
      (((Disk.runOn operation disk).1.mapError failure, log), (Disk.runOn operation disk).2) := by
  have hlift : on (operation : Job (StateM Disk) (Except FileError α)) log disk =
      ((.ok (Disk.runOn operation disk).1, log), (Disk.runOn operation disk).2) := rfl
  unfold orFail
  rw [on_bind, hlift]
  cases (Disk.runOn operation disk).1 <;> rfl

/-! ### Steps that read -/

/-- The step finds something on the disk, or stops if it finds nothing, and changes no file. -/
def Reads (disk : Disk) (job : Job (StateM Disk) α) (found : Option α) : Prop :=
  ∀ log, ∃ result log', on job log disk = ((result, log'), disk) ∧ result.toOption = found

/-- A step that does nothing finds its result on every disk. -/
theorem reads_pure (a : α) : Reads disk (pure a) (some a) :=
  fun log ↦ ⟨.ok a, log, rfl, rfl⟩

private theorem reads_throw (failure : Failure) : Reads disk (throw failure : Job _ α) none :=
  fun log ↦ ⟨.error failure, log, rfl, rfl⟩

/-- Writing to the log reads nothing and always goes on. -/
theorem reads_log (entries : List LogEntry) : Reads disk (log entries) (some ()) :=
  fun log ↦ ⟨.ok (), log ++ entries, rfl, rfl⟩

private theorem Reads.on_bind {job : Job (StateM Disk) α} {a : α} (h : Reads disk job (some a))
    (next : α → Job (StateM Disk) β) (log : List LogEntry) :
    ∃ log', on (job >>= next) log disk = on (next a) log' disk := by
  obtain ⟨result, log', hjob, hresult⟩ := h log
  refine ⟨log', ?_⟩
  cases result with
  | error => contradiction
  | ok b =>
    obtain rfl : b = a := Option.some.inj hresult
    rw [Job.on_bind, hjob]

/-- What a step finds goes to the next one. -/
theorem Reads.step {job : Job (StateM Disk) α} {a : α} {next : α → Job (StateM Disk) β}
    {found : Option β} (h : Reads disk job (some a)) (hnext : Reads disk (next a) found) :
    Reads disk (job >>= next) found := by
  intro log
  obtain ⟨log', hlog⟩ := h.on_bind next log
  rw [hlog]
  exact hnext log'

/-- Behind a step that stops nothing happens. -/
theorem Reads.stop {job : Job (StateM Disk) α} (h : Reads disk job none)
    (next : α → Job (StateM Disk) β) : Reads disk (job >>= next) none := by
  intro log
  obtain ⟨result, log', hjob, hresult⟩ := h log
  cases result with
  | ok => contradiction
  | error failure => exact ⟨.error failure, log', by rw [Job.on_bind, hjob], rfl⟩

/-- Two steps find something together if the first one does, and the second one behind it. -/
theorem Reads.bind {job : Job (StateM Disk) α} {found : Option α}
    {next : α → Job (StateM Disk) β} {found' : α → Option β} (h : Reads disk job found)
    (hnext : ∀ a, Reads disk (next a) (found' a)) :
    Reads disk (job >>= next) (found.bind found') := by
  cases found with
  | none => exact h.stop next
  | some a => exact h.step (hnext a)

/-- If what comes behind a reading step is reached, the step found something. -/
theorem Reads.of_on_bind_eq_ok {job : Job (StateM Disk) α} {found : Option α}
    {next : α → Job (StateM Disk) β} {b : β} {log log' : List LogEntry} {after : Disk}
    (h : Reads disk job found) (hon : on (job >>= next) log disk = ((.ok b, log'), after)) :
    ∃ a log₁, found = some a ∧ on (next a) log₁ disk = ((.ok b, log'), after) := by
  cases found with
  | none =>
    obtain ⟨result, log₁, hstop, hresult⟩ := h.stop next log
    rw [hon] at hstop
    obtain rfl : .ok b = result := congrArg (·.1.1) hstop
    contradiction
  | some a =>
    obtain ⟨log₁, hlog⟩ := h.on_bind next log
    exact ⟨a, log₁, rfl, hlog ▸ hon⟩

/-- A step goes on if it finds something and what follows it does. -/
theorem Reads.exists_step {job : Job (StateM Disk) α} {a : α} {next : α → Job (StateM Disk) β}
    (h : Reads disk job (some a)) (hnext : ∃ b, Reads disk (next a) (some b)) :
    ∃ b, Reads disk (job >>= next) (some b) := by
  obtain ⟨b, hb⟩ := hnext
  exact ⟨b, h.step hb⟩

end Job

/-! ### What a disk holds -/

namespace Disk

/-- The text of the file that a path leads to. -/
def text? (disk : Disk) (path : String) : Option String :=
  (disk.read path).toOption.bind String.fromUTF8?

/-- The path of the manifest: the one that is named, or the default one if something is there. -/
def manifestPath? (disk : Disk) (named : Option String) : Option String :=
  named.or (if disk.find defaultManifest matches .ok _ then some defaultManifest else none)

/-- The manifest, which need not be there; nothing if it does not load. -/
def manifest? (disk : Disk) (named : Option String) : Option (Option Manifest) :=
  match disk.manifestPath? named with
  | none => some none
  | some path => (disk.text? path).bind fun text ↦ (Manifest.ofText text).toOption.map some

/-- What can be read is there. -/
theorem find_of_text?_eq_some {disk : Disk} {path text : String} (h : disk.text? path = some text) :
    ∃ entry, disk.find path = .ok entry := by
  cases hfind : disk.find path with
  | ok entry => exact ⟨entry, rfl⟩
  | error e =>
    rw [text?, read, hfind] at h
    contradiction

/-- A manifest is there exactly if it can be loaded from the path that is named, or else from the
default one. -/
theorem manifest?_eq_some_iff {disk : Disk} {named : Option String} {manifest : Manifest} :
    disk.manifest? named = some (some manifest) ↔
      ∃ text, disk.text? (named.getD defaultManifest) = some text ∧
        Manifest.ofText text = .ok manifest := by
  have hload (path : String) :
      ((disk.text? path).bind fun text ↦ (Manifest.ofText text).toOption.map some) =
          some (some manifest) ↔
        ∃ text, disk.text? path = some text ∧ Manifest.ofText text = .ok manifest := by
    simp only [Option.bind_eq_some_iff, Option.map_eq_some_iff]
    refine exists_congr fun text ↦ and_congr_right fun _ ↦ ?_
    cases Manifest.ofText text <;> simp [Except.toOption]
  cases named with
  | some path => exact hload path
  | none =>
    rw [Option.getD_none]
    cases hfind : disk.find defaultManifest with
    | ok entry =>
      rw [manifest?, manifestPath?, hfind]
      exact hload defaultManifest
    | error e =>
      rw [manifest?, manifestPath?, hfind]
      refine iff_of_false (by simp) ?_
      rintro ⟨text, htext, -⟩
      obtain ⟨entry, hentry⟩ := find_of_text?_eq_some htext
      rw [hfind] at hentry
      contradiction

/-- The scenario at a path; nothing if it does not load. -/
def scenario? (disk : Disk) (path : String) : Option Scenario :=
  (disk.text? path).bind Scenario.ofText?

/-- The blocks of the script, filled from the scenario that is named; nothing if one of them does
not load. -/
def blocks? (disk : Disk) (invocation : Invocation) (lectors : List Lector) :
    Option (List Block) :=
  (disk.text? invocation.script).bind fun text ↦
    match invocation.scenario with
    | none => some (Scenario.load .ofNat lectors none text)
    | some path => (disk.scenario? path).map fun scenario ↦
        Scenario.load .ofNat lectors (some scenario) text

end Disk

section

open Job

variable {disk : Disk}

/-- Reading gives the text of a file, or fails if there is none. -/
theorem toOption_readText (disk : Disk) (path : String) :
    (Disk.runOn (FileSystem.readText path) disk).1.toOption = disk.text? path := by
  simp only [Disk.runOn, FileSystem.readText, StateT.run_bind, StateT.run_get, pure_bind,
    StateT.run_pure, Id.run_pure, Disk.text?]
  cases disk.read path with
  | error e => rfl
  | ok contents =>
    dsimp only
    rw [Except.toOption, Option.bind_some]
    cases String.fromUTF8? contents <;> rfl

private theorem reads_readText (failure : FileError → Failure) (path : String) :
    Reads disk (orFail failure (FileSystem.readText path)) (disk.text? path) := by
  intro log
  refine ⟨_, log, on_orFail failure (FileSystem.readText path) log disk, ?_⟩
  rw [← toOption_readText]
  cases (Disk.runOn (FileSystem.readText path) disk).1 <;> rfl

private theorem reads_manifestPath (named : Option String) :
    Reads disk (manifestPath named) (some (disk.manifestPath? named)) := by
  cases named with
  | some path => exact reads_pure (some path)
  | none => exact fun log ↦ ⟨_, log, rfl, rfl⟩

/-- Loading the manifest finds the manifest of the disk. -/
theorem reads_loadManifest (named : Option String) :
    Reads disk (loadManifest named) (disk.manifest? named) := by
  refine (reads_manifestPath named).step ?_
  rw [Disk.manifest?]
  cases disk.manifestPath? named with
  | none => exact reads_pure none
  | some path =>
    refine (reads_readText _ path).bind fun text ↦ ?_
    cases hmanifest : Manifest.ofText text with
    | error e => exact reads_throw _
    | ok manifest => exact (reads_log _).step (reads_pure (some manifest))

private theorem reads_loadScenario (path : String) :
    Reads disk (loadScenario path) (disk.scenario? path) := by
  refine (reads_readText _ path).bind fun text ↦ ?_
  cases hscenario : Scenario.ofText? text with
  | none => exact reads_throw _
  | some scenario => exact reads_pure scenario

/-- Loading the blocks finds the blocks of the disk. -/
theorem reads_loadBlocks (invocation : Invocation) (lectors : List Lector) :
    Reads disk (loadBlocks invocation lectors) (disk.blocks? invocation lectors) := by
  refine (reads_readText _ invocation.script).bind fun text ↦ ?_
  cases hscenario : invocation.scenario with
  | none => exact reads_pure _
  | some path =>
    change Reads disk _ ((disk.scenario? path).map _)
    rw [Option.mapM_some, map_eq_pure_bind, bind_assoc, Option.map_eq_bind]
    exact (reads_loadScenario path).bind fun scenario ↦
      (reads_pure (some scenario)).step (reads_pure _)

/-- The text of a scenario needs nothing from the disk. -/
theorem reads_scenarioText (includeStatic : Bool) (lectors : List Lector) (blocks : List Block) :
    Reads disk (scenarioText includeStatic lectors blocks)
      (some (Scenario.ofBlocks lectors includeStatic blocks).toText) :=
  (reads_log _).step (reads_pure _)

/-- A manifest that is needed is found only if there is one. -/
theorem reads_need (manifest : Option Manifest) : Reads disk (need manifest) manifest := by
  cases manifest with
  | none => exact reads_throw _
  | some manifest => exact reads_pure manifest

end

end Storyline.CommandLine
