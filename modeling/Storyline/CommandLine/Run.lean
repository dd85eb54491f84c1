import Storyline.CommandLine.Arguments
import Storyline.CommandLine.FileSystem
import Storyline.CommandLine.Log
import Storyline.Dsl
import Storyline.Encoding.Manifest
import Storyline.Encoding.Scenario
import Storyline.Finding
import Storyline.Sql
import Storyline.Transcript

/-!
# Running a command

A command reads its manifest, then its script and a scenario to fill it from, and only then prints
or writes anything. If an input cannot be read, it stops with a message and leaves no trace. What
happens along the way is logged.
-/

namespace Storyline.CommandLine

/-- The part of the program that runs commands. -/
def programName : String := "story_script"

/-- The part of the program that collects scenarios. -/
def scenarioSource : String := "story_script::export::scenario"

/-- Why a command stopped. -/
inductive Failure where
  /-- The manifest cannot be read. -/
  | manifestUnreadable (path : String) (cause : FileError)
  /-- The manifest is none. -/
  | manifestInvalid (path : String) (cause : ManifestError)
  /-- The command needs a manifest, and there is none. -/
  | manifestMissing
  /-- The script cannot be read. -/
  | scriptUnreadable (path : String) (cause : FileError)
  /-- The scenario cannot be read. -/
  | scenarioUnreadable (path : String) (cause : FileError)
  /-- The scenario is none. -/
  | scenarioInvalid (path : String)
  /-- The folder for the results cannot be made. -/
  | folderNotMade (path : String) (cause : FileError)
  /-- A result cannot be written. -/
  | fileNotWritten (path : String) (cause : FileError)
  deriving DecidableEq, Repr

/-- The manifest that is used if none is named. -/
def defaultManifest : String := "story.toml"

/-- The message for a manifest that cannot be read. -/
def manifestUnreadableMessage (path : String) (cause : FileError) : String :=
  "unable to read manifest '" ++ path ++ "': " ++ cause.message

/-- The message of a failure. Where the cause is part of a step, its words stand after the step's
and once more at the end. -/
def Failure.message : Failure → String
  | manifestUnreadable path cause =>
    "while loading manifest '" ++ path ++ "': " ++ manifestUnreadableMessage path cause ++ ": " ++
      cause.message
  | manifestInvalid path cause => "while loading manifest '" ++ path ++ "': " ++ cause.message
  | manifestMissing =>
    "this command needs story metadata; pass --manifest <" ++ defaultManifest ++ ">"
  | scriptUnreadable path cause => "unable to read script '" ++ path ++ "': " ++ cause.message
  | scenarioUnreadable path cause => "unable to read scenario '" ++ path ++ "': " ++ cause.message
  | scenarioInvalid path => "while decoding scenario '" ++ path ++ "': JSON encoding failed"
  | folderNotMade path cause => "creating '" ++ path ++ "': " ++ cause.message
  | fileNotWritten path cause => "writing '" ++ path ++ "': " ++ cause.message

/-- What a finished command shows. -/
structure Outcome where
  /-- What it prints. -/
  output : String := ""
  /-- Whether it succeeded. -/
  succeeded : Bool := true
  deriving DecidableEq, Repr

/-- A step of a command: it can read and write files, log, and fail. -/
abbrev Job (m : Type → Type) := ExceptT Failure (StateT (List LogEntry) m)

section

variable {m : Type → Type} [Monad m] [FileSystem m]

/-- Adds messages to the log. -/
def log (entries : List LogEntry) : Job m Unit :=
  modify (· ++ entries)

/-- A file operation, whose error becomes a failure. -/
def orFail {α : Type} (failure : FileError → Failure) (operation : m (Except FileError α)) :
    Job m α := do
  match ← (operation : m _) with
  | .ok a => return a
  | .error e => throw (failure e)

/-- The path of the manifest: the one that was named, or the default one if it is there. -/
def manifestPath (named : Option String) : Job m (Option String) := do
  match named with
  | some path => return some path
  | none =>
    let present ← (FileSystem.isPresent defaultManifest : m Bool)
    return if present then some defaultManifest else none

/-- Reads the manifest, if there is one. -/
def loadManifest (named : Option String) : Job m (Option Manifest) := do
  match ← manifestPath named with
  | none => return none
  | some path =>
    let text ← orFail (.manifestUnreadable path) (FileSystem.readText path)
    match Manifest.ofText text with
    | .error e => throw (.manifestInvalid path e)
    | .ok manifest =>
      log [⟨.info, programName, "manifest '" ++ path ++ "': story '" ++ manifest.story.title ++
        "', " ++ toString manifest.lectors.length ++ " lectors"⟩]
      return some manifest

/-- Reads the scenario at a path. -/
def loadScenario (path : String) : Job m Scenario := do
  let text ← orFail (.scenarioUnreadable path) (FileSystem.readText path)
  match Scenario.ofText? text with
  | some scenario => return scenario
  | none => throw (.scenarioInvalid path)

/-- Reads the script, filled from the scenario if one is named. -/
def loadBlocks (invocation : Invocation) (lectors : List Lector) : Job m (List Block) := do
  let text ← orFail (.scriptUnreadable invocation.script) (FileSystem.readText invocation.script)
  let scenario ← invocation.scenario.mapM loadScenario
  return Scenario.load BlockId.ofNat lectors scenario text

/-- The text of the scenario of some blocks. Lines that are kept out of it are logged. -/
def scenarioText (includeStatic : Bool) (lectors : List Lector) (blocks : List Block) :
    Job m String := do
  log ((Scenario.duplicates includeStatic blocks).map fun key ↦
    ⟨.warn, scenarioSource, Scenario.duplicateMessage key⟩)
  return (Scenario.ofBlocks lectors includeStatic blocks).toText

/-- Writes files into a folder, one after the other. -/
def writeFiles (folder : String) (files : List (String × String)) : Job m Unit := do
  orFail (.folderNotMade folder) (createFolder folder)
  for (name, text) in files do
    let path := Path.join folder name
    orFail (.fileNotWritten path) (FileSystem.writeText path text)

/-- The scripts of a bundle one after the other, each under its name. -/
def bundleText (bundle : Sql.Bundle) : String :=
  String.join (bundle.files.map fun (name, text) ↦ "-- " ++ name ++ "\n" ++ text ++ "\n")

/-- The manifest that a command needs. -/
def need (manifest : Option Manifest) : Job m Manifest :=
  match manifest with
  | some manifest => return manifest
  | none => throw .manifestMissing

/-- Runs a command. -/
def perform (invocation : Invocation) : Job m Outcome := do
  let manifest ← loadManifest invocation.manifest
  let lectors := (manifest.map (·.lectors)).getD []
  match invocation.task with
  | .dsl =>
    let blocks ← loadBlocks invocation lectors
    return { output := Dsl.render blocks }
  | .transcript =>
    let blocks ← loadBlocks invocation lectors
    return { output := Transcript.render lectors blocks ++ "\n" }
  | .scenario includeStatic =>
    let blocks ← loadBlocks invocation lectors
    return { output := (← scenarioText includeStatic lectors blocks) ++ "\n" }
  | .sql =>
    let manifest ← need manifest
    let blocks ← loadBlocks invocation lectors
    return { output := bundleText (.ofStory manifest blocks (Dsl.render blocks)) }
  | .compile folder =>
    let manifest ← need manifest
    let blocks ← loadBlocks invocation lectors
    let dsl := Dsl.render blocks
    let scenario ← scenarioText false lectors blocks
    let files := [("schema.dsl", dsl), ("scenario.json", scenario)] ++
      (Sql.Bundle.ofStory manifest blocks dsl).files
    writeFiles folder files
    log [⟨.info, programName, "compiled " ++ toString blocks.length ++ " blocks into " ++
      toString files.length ++ " files under '" ++ folder ++ "'"⟩]
    return {}
  | .lint denyWarnings =>
    let blocks ← loadBlocks invocation lectors
    match findings lectors blocks with
    | [] =>
      log [⟨.info, programName, "lint: OK (" ++ toString blocks.length ++ " blocks)"⟩]
      return {}
    | found =>
      log (found.map fun finding ↦
        ⟨.warn, programName, invocation.script ++ ": " ++ finding.message⟩)
      return { succeeded := !denyWarnings }

/-- What a command line leads to, beside changes to files. -/
structure Report where
  /-- The exit code. -/
  exitCode : Nat
  /-- What is printed. -/
  output : String := ""
  /-- What is logged. -/
  log : List LogEntry := []
  /-- Why the command stopped early, if it did. -/
  failure : Option Failure := none
  deriving DecidableEq, Repr

/-- The lines that are written beside the results: the log, and why the command stopped early. -/
def Report.notices (report : Report) : List Notice :=
  Notice.ofLog report.log
    (match report.failure with
      | some failure => ("error: " ++ failure.message ++ "\n").toList
      | none => [])

/-- The name and the version of the program. -/
def versionText : String := programName ++ " 0.1.0\n"

/-- How the program is used. -/
def helpText : String :=
  "Compile Story Script timelines into DSL, scenario JSON, and SQL.\n\n" ++
  "Usage: story_script [--manifest <FILE>] <COMMAND> <SCRIPT> [--scenario <FILE>]\n\n" ++
  "Commands:\n" ++
  "  dsl                          Print the canonical DSL\n" ++
  "  transcript                   Print the editor transcript\n" ++
  "  scenario [--include-static]  Print the scenario JSON map\n" ++
  "  sql                          Print the four SQL insert scripts\n" ++
  "  compile [--out-dir <DIR>]    Write every artifact into a directory\n" ++
  "  lint [--deny-warnings]       Show structural problems in a script\n"

/-- Runs what a command line asks for. A command line that cannot be understood ends with the
exit code 2, a command that stops early with 1. -/
def execute (args : List String) : m Report := do
  match Request.ofArguments? args with
  | none => return { exitCode := 2 }
  | some .version => return { exitCode := 0, output := versionText }
  | some .help => return { exitCode := 0, output := helpText }
  | some (.run invocation) =>
    match ← (perform invocation : Job m Outcome).run.run [] with
    | (.ok outcome, log) =>
      return { exitCode := if outcome.succeeded then 0 else 1, output := outcome.output, log }
    | (.error failure, log) => return { exitCode := 1, log, failure := some failure }

end

end Storyline.CommandLine
