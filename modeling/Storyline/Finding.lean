import Storyline.Block
import Storyline.Repeats

/-!
# Findings

What can be wrong with a story that still can be saved: identifiers and codes that occur twice,
codes of the wrong form, lectors that are not in the story, and flags that contradict what a line
stores. `findings` lists them: first those of the blocks, then those of the lectors, then those of
each line in turn.
-/

namespace Storyline

/-- Something wrong with a story. -/
inductive Finding where
  /-- A block has the identifier of an earlier one. -/
  | duplicateBlock (kind : String) (id : BlockId)
  /-- A lector has the identifier of an earlier one. -/
  | duplicateLector (id : String)
  /-- A line has the code of an earlier one. -/
  | duplicateCode (code : String)
  /-- A code is not a letter and a number. -/
  | malformedCode (code : String)
  /-- A line names a lector that the story does not have. -/
  | unknownLector (id line : String)
  /-- A line stores something for partners and is not partner-specific. -/
  | strayOverrides (line : String)
  /-- A universal line stores different texts for the genders. -/
  | unevenLine (line : String)
  deriving DecidableEq

namespace Finding

/-- The short name of a finding. -/
def name : Finding → String
  | duplicateBlock .. => "DuplicateBlock"
  | duplicateLector _ => "DuplicateLector"
  | duplicateCode _ => "DuplicateCode"
  | malformedCode _ => "MalformedCode"
  | unknownLector .. => "UnknownLector"
  | strayOverrides _ => "StrayPartnerOverrides"
  | unevenLine _ => "UnevenUniversalLine"

/-- The text of a finding. -/
def message : Finding → String
  | duplicateBlock kind id => kind ++ " block " ++ id.toText ++ " appears twice"
  | duplicateLector id => "lector '" ++ id ++ "' is defined twice"
  | duplicateCode code => "code " ++ code ++ " is used by more than one line"
  | malformedCode code => "line code '" ++ code ++ "' is not S<n> or Z<n>"
  | unknownLector id line => "line " ++ line ++ " is read by unknown lector '" ++ id ++ "'"
  | strayOverrides line => "line " ++ line ++ " has partner overrides but is not partner-specific"
  | unevenLine line => "line " ++ line ++ " is gender-universal but its variants differ"

/-- The findings on the code of a line, after lines with the codes `seen`. -/
def ofCode (seen : List String) (line : Line) : List Finding :=
  match line.tag? with
  | none => []
  | some code =>
    (if Code.isWellFormed code then [] else [malformedCode code]) ++
      (if code ∈ seen then [duplicateCode code] else [])

/-- The findings on the lector of a line. -/
def ofLector (lectors : List Lector) (line : Line) : List Finding :=
  match line.lectorId with
  | none => []
  | some id => if id ∈ lectors.map (·.id) then [] else [unknownLector id line.label]

/-- A line is stray when it stores something for partners and is not partner-specific. -/
def IsStray (line : Line) : Prop :=
  line.partnerSpecific = false ∧
    (line.overrides.isEmpty = false ∨ line.imageOverrides.isEmpty = false)

instance (line : Line) : Decidable (IsStray line) :=
  inferInstanceAs (Decidable (_ ∧ _))

/-- A line is uneven when it is universal and some of its texts differ by gender. -/
def IsUneven (line : Line) : Prop :=
  line.universal = true ∧
    ∃ pair ∈ line.variants.toList ++ line.overrides.toList.map Prod.snd, ¬ pair.IsUniform

instance (line : Line) : Decidable (IsUneven line) :=
  inferInstanceAs (Decidable (_ ∧ _))

/-- The findings on a line, after lines with the codes `seen`. -/
def ofLine (lectors : List Lector) (seen : List String) (line : Line) : List Finding :=
  ofCode seen line ++ ofLector lectors line ++
    (if IsStray line then [strayOverrides line.label] else []) ++
    (if IsUneven line then [unevenLine line.label] else [])

/-- The findings on lines that follow lines with the codes `seen`. -/
def ofLines (lectors : List Lector) : List String → List Line → List Finding
  | _, [] => []
  | seen, line :: lines =>
    ofLine lectors seen line ++ ofLines lectors (line.tag?.toList ++ seen) lines

end Finding

/-- Everything wrong with a story. -/
def findings (lectors : List Lector) (blocks : List Block) : List Finding :=
  (repeats (·.id) blocks).map (fun block ↦ .duplicateBlock block.kind.name block.id) ++
    (repeats (·.id) lectors).map (fun lector ↦ .duplicateLector lector.id) ++
    Finding.ofLines lectors [] (Block.lines blocks)

end Storyline
