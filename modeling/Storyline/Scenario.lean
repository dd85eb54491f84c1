import Std.Data.ExtTreeMap
import Storyline.Block
import Storyline.Repeats
import Storyline.Script

/-!
# Scenarios

The saved script has the structure of a story and a scenario has its texts: one entry for each
code, under the code without its suffix. `Scenario.ofBlocks` collects a scenario, `hydrate` fills
it into blocks that were read from a script.
-/

namespace Storyline

/-- What a scenario stores for one code. -/
structure ScenarioEntry where
  /-- Whether both genders hear the same. -/
  universal : Bool := false
  /-- Whether partners may have a text of their own here. -/
  partnerSpecific : Bool := false
  /-- The texts that listeners of no partner hear. -/
  texts : ByGender String := .uniform ""
  /-- The name of the lector; empty if there is none. -/
  lector : String := ""
  /-- The identifier of the lector; empty if there is none. -/
  lectorId : String := ""
  /-- The voice of the lector; empty if there is none. -/
  voiceId : String := ""
  /-- The images by gender. -/
  images : Option (ByGender String) := none
  /-- The texts of single partners. -/
  overrides : PartnerTable := ∅
  /-- The images of single partners. -/
  imageOverrides : PartnerTable := ∅
  deriving DecidableEq

/-- The entries of a story by code, in increasing order of the codes. -/
abbrev Scenario := Std.ExtTreeMap String ScenarioEntry

namespace ScenarioEntry

/-- The entry that a line contributes. Where the story has no lectors, the identifier that the
line carries is kept. -/
def ofLine (lectors : List Lector) (line : Line) : ScenarioEntry :=
  let lector := Lector.effective? lectors line.lectorId
  { universal := line.universal
    partnerSpecific := line.partnerSpecific
    texts := line.texts
    lector := (lector.map (·.name)).getD ""
    lectorId := ((lector.map (·.id)).or line.lectorId).getD ""
    voiceId := (lector.map (·.voiceId)).getD ""
    images := line.images
    overrides := line.overrides
    imageOverrides := line.imageOverrides }

/-- The line with what the entry stores. A line that is partner-specific stays so, and an entry
without a lector leaves the line its own. -/
def fill (entry : ScenarioEntry) (line : Line) : Line :=
  { line with
    content := entry.texts.boy
    variants := some entry.texts
    universal := entry.universal
    partnerSpecific := line.partnerSpecific || entry.partnerSpecific
    lectorId := if entry.lectorId = "" then line.lectorId else some entry.lectorId
    images := entry.images
    overrides := entry.overrides
    imageOverrides := entry.imageOverrides }

/-- Filling a line from an entry keeps its code. -/
@[simp] theorem code_fill (entry : ScenarioEntry) (line : Line) :
    (entry.fill line).code = line.code := rfl

end ScenarioEntry

namespace Scenario

/-- The key of a line: its code without the suffix. -/
def key? (line : Line) : Option String := line.tag?.map Code.base

/-- Whether a line has an entry: dynamic lines always have one, static lines if asked for. -/
def isIncluded (includeStatic : Bool) (line : Line) : Bool :=
  match line.kind? with
  | some .dynamic => true
  | some .static => includeStatic
  | none => false

/-- The lines that have an entry, with their keys. -/
def included (includeStatic : Bool) (blocks : List Block) : List (String × Line) :=
  ((Block.lines blocks).filter (isIncluded includeStatic)).filterMap fun line ↦
    (key? line).map fun key ↦ (key, line)

/-- The scenario of a story. Of several lines with one key the first counts. -/
def ofBlocks (lectors : List Lector) (includeStatic : Bool) (blocks : List Block) : Scenario :=
  (included includeStatic blocks).foldl
    (fun scenario (key, line) ↦ scenario.insertIfNew key (ScenarioEntry.ofLine lectors line)) ∅

/-- The keys of the lines that an earlier line keeps out of the scenario, in order. -/
def duplicates (includeStatic : Bool) (blocks : List Block) : List String :=
  (repeats Prod.fst (included includeStatic blocks)).map Prod.fst

/-- The warning for a line that an earlier line keeps out. -/
def duplicateMessage (key : String) : String :=
  "scenario: duplicate code " ++ key ++ "; keeping the first line"

/-- The line with what the scenario has under its key, if anything. -/
def fill (scenario : Scenario) (line : Line) : Line :=
  match (key? line).bind (scenario[·]?) with
  | some entry => entry.fill line
  | none => line

/-- The blocks with the texts of a scenario filled into their lines. -/
def hydrate (scenario : Scenario) (blocks : List Block) : List Block :=
  blocks.map (Block.mapLine (fill scenario))

/-- The blocks of a text, filled from a scenario if one is given. -/
def load (fresh : Nat → BlockId) (lectors : List Lector) (scenario : Option Scenario)
    (text : String) : List Block :=
  match scenario with
  | some scenario => hydrate scenario (Script.parse fresh lectors text)
  | none => Script.parse fresh lectors text

/-- Filling a line from a scenario keeps its code. -/
@[simp] theorem code_fill (scenario : Scenario) (line : Line) :
    (fill scenario line).code = line.code := by
  unfold fill
  split <;> simp

/-- Filling a story keeps the identifiers of its blocks. -/
@[simp] theorem map_id_hydrate (scenario : Scenario) (blocks : List Block) :
    (hydrate scenario blocks).map (·.id) = blocks.map (·.id) := by
  simp [hydrate, Function.comp_def]

end Scenario

end Storyline
