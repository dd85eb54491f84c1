import Storyline.CommandLine.Arguments
import Storyline.Proofs.CommandLine.Disk

/-!
# Commands that can be asked for

A command can be asked for exactly if nothing that it names is empty. Whatever else a path looks
like, it can be given behind an equals sign or, as the script, behind two hyphens.
-/

namespace Storyline.CommandLine

/-! ### What a command line can ask for -/

/-- Nothing that the command names is empty. -/
structure Invocation.Named (invocation : Invocation) : Prop where
  /-- The path of the manifest, if there is one. -/
  manifest : ∀ path, invocation.manifest = some path → path ≠ ""
  /-- The path of the script. -/
  script : invocation.script ≠ ""
  /-- The path of the scenario, if there is one. -/
  scenario : ∀ path, invocation.scenario = some path → path ≠ ""
  /-- The path of the folder for the results. -/
  folder : ∀ path, invocation.task = .compile path → path ≠ ""

/-- No value and no operand is empty. -/
structure Given.Named (given : Given) : Prop where
  /-- The values of options. -/
  values : ∀ value ∈ given.values, value.2 ≠ ""
  /-- The arguments that belong to no option. -/
  operands : ∀ operand ∈ given.operands, operand ≠ ""

namespace Given

variable {given given' : Given}

private theorem named_empty : Named {} :=
  ⟨fun _ h ↦ absurd h List.not_mem_nil, fun _ h ↦ absurd h List.not_mem_nil⟩

/-- A value that is accepted is not empty. -/
theorem Named.addValue (h : Named given) {name value : String}
    (hadd : given.addValue name value = .ok given') : Named given' := by
  unfold Given.addValue at hadd
  split at hadd
  · contradiction
  · next hvalue =>
    obtain rfl := Except.ok.inj hadd
    exact ⟨List.forall_mem_cons.2 ⟨fun hempty ↦ hvalue (.inl hempty), h.values⟩, h.operands⟩

/-- A switch adds nothing that could be empty. -/
theorem Named.addSwitch (h : Named given) {name : String}
    (hadd : given.addSwitch name = .ok given') : Named given' := by
  unfold Given.addSwitch at hadd
  split at hadd
  · contradiction
  · obtain rfl := Except.ok.inj hadd
    exact ⟨h.values, h.operands⟩

/-- An operand that is accepted is not empty. -/
theorem Named.addOperand (h : Named given) {arg : String}
    (hadd : given.addOperand arg = .ok given') : Named given' := by
  unfold Given.addOperand at hadd
  split at hadd
  · contradiction
  · next harg =>
    obtain rfl := Except.ok.inj hadd
    exact ⟨h.values, List.forall_mem_singleton.2 fun hempty ↦ harg (.inl hempty)⟩

private theorem Named.foldlM_addOperand (h : Named given) {args : List String}
    (hadd : args.foldlM Given.addOperand given = .ok given') : Named given' := by
  induction args generalizing given with
  | nil =>
    obtain rfl := Except.ok.inj hadd
    exact h
  | cons arg args ih =>
    rw [List.foldlM_cons] at hadd
    obtain ⟨added, hfirst, hadd⟩ := exists_of_bind_eq_ok hadd
    exact ih (h.addOperand hfirst) hadd

private theorem Named.ne_empty_of_value? (h : Named given) {name value : String}
    (hvalue : given.value? name = some value) : value ≠ "" := by
  obtain ⟨front, back, hvalues, -⟩ := List.lookup_eq_some_iff.1 hvalue
  refine h.values (name, value) ?_
  rw [hvalues]
  exact List.mem_append_right front List.mem_cons_self

end Given

/-- Reading arguments keeps it that nothing is empty. -/
theorem Given.Named.readArguments {options : Options} {given given' : Given} {args : List String}
    (h : given.Named) (hread : readArguments options given args = .ok given') : given'.Named := by
  fun_induction CommandLine.readArguments options given args with
  | case1 given =>
    obtain rfl := Except.ok.inj hread
    exact h
  | case2 given arg rest => exact h.foldlM_addOperand hread
  | case3 given arg rest hshape ih =>
    obtain ⟨added, hadd, hread⟩ := exists_of_bind_eq_ok hread
    exact ih added (h.addOperand hadd) hread
  | case5 given arg rest name hname value hshape ih =>
    obtain ⟨added, hadd, hread⟩ := exists_of_bind_eq_ok hread
    exact ih added (h.addValue hadd) hread
  | case6 given arg name hname value rest hplain hshape ih =>
    obtain ⟨added, hadd, hread⟩ := exists_of_bind_eq_ok hread
    exact ih added (h.addValue hadd) hread
  | case10 given arg rest name attached hshape hvalued hattached hname ih =>
    obtain ⟨added, hadd, hread⟩ := exists_of_bind_eq_ok hread
    exact ih added (h.addSwitch hadd) hread
  | case4 => contradiction
  | case7 => contradiction
  | case8 => contradiction
  | case9 => contradiction
  | case11 => contradiction

/-- The folder for the results has a path. -/
theorem Given.Named.folder {given : Given} (h : given.Named) {command path : String}
    (htask : taskOf? command given = some (.compile path)) : path ≠ "" := by
  unfold taskOf? at htask
  split at htask
  case h_5 =>
    obtain rfl := Task.compile.inj (Option.some.inj htask)
    cases hvalue : given.value? "out-dir" with
    | none => decide
    | some value => exact h.ne_empty_of_value? hvalue
  all_goals simp at htask

private theorem named_of_readCommand {manifest : Option String} {command : String}
    {args : List String} {invocation : Invocation}
    (hmanifest : ∀ path, manifest = some path → path ≠ "")
    (hread : readCommand manifest command args = .ok invocation) : invocation.Named := by
  unfold readCommand at hread
  split at hread
  · obtain ⟨given, hgiven, hread⟩ := exists_of_bind_eq_ok hread
    have hnamed : given.Named := Given.named_empty.readArguments hgiven
    split at hread
    · next script task hoperands htask =>
      obtain rfl := Except.ok.inj hread
      constructor
      · intro path hpath
        obtain hpath | ⟨-, hpath⟩ := Option.or_eq_some_iff.1 hpath
        · exact hnamed.ne_empty_of_value? hpath
        · exact hmanifest path hpath
      · exact hnamed.operands script (hoperands ▸ List.mem_singleton_self script)
      · exact fun path hpath ↦ hnamed.ne_empty_of_value? hpath
      · rintro path rfl
        exact hnamed.folder htask
    · contradiction
  · contradiction

private theorem named_of_readLine {given : Given} {args : List String} {invocation : Invocation}
    (h : given.Named) (hread : readLine given args = .ok invocation) : invocation.Named := by
  fun_induction readLine given args with
  | case3 given arg rest hshape =>
    exact named_of_readCommand (fun path hpath ↦ h.ne_empty_of_value? hpath) hread
  | case5 given arg rest value hshape ih =>
    obtain ⟨added, hadd, hread⟩ := exists_of_bind_eq_ok hread
    exact ih added (h.addValue hadd) hread
  | case6 given arg value rest hplain hshape ih =>
    obtain ⟨added, hadd, hread⟩ := exists_of_bind_eq_ok hread
    exact ih added (h.addValue hadd) hread
  | _ => contradiction

/-- What is asked for on a command line names nothing empty. -/
theorem named_of_ofArguments? {args : List String} {invocation : Invocation}
    (h : Request.ofArguments? args = some (.run invocation)) : invocation.Named := by
  unfold Request.ofArguments? at h
  split at h
  · next hread =>
    obtain rfl := Request.run.inj (Option.some.inj h)
    exact named_of_readLine Given.named_empty hread
  all_goals simp at h

/-! ### A command line for every command -/

namespace Task

/-- The name of the command for a task. -/
def command : Task → String
  | dsl => "dsl"
  | transcript => "transcript"
  | scenario _ => "scenario"
  | sql => "sql"
  | compile _ => "compile"
  | lint _ => "lint"

/-- The switches of a task. -/
def switches : Task → List String
  | scenario true => ["include-static"]
  | lint true => ["deny-warnings"]
  | _ => []

/-- The options of a task that have a value. -/
def values : Task → List (String × String)
  | compile folder => [("out-dir", folder)]
  | _ => []

end Task

namespace Invocation

/-- The options of a command that have a value. -/
def values (invocation : Invocation) : List (String × String) :=
  invocation.task.values ++ invocation.manifest.toList.map (("manifest", ·)) ++
    invocation.scenario.toList.map (("scenario", ·))

/-- The arguments for a command, after its name. -/
def arguments (invocation : Invocation) : List String :=
  invocation.task.switches.map ("--" ++ ·) ++
    (invocation.values.map fun value ↦ "--" ++ value.1 ++ "=" ++ value.2) ++
    ["--", invocation.script]

/-- What these arguments give. -/
def given (invocation : Invocation) : Given :=
  ⟨invocation.values.reverse, invocation.task.switches, [invocation.script]⟩

end Invocation

private theorem shape_of_value {name : String} (hname : '=' ∉ name.toList) (value : String) :
    Shape.of ("--" ++ name ++ "=" ++ value) = .long name (some value) := by
  have hlist : ("--" ++ name ++ "=" ++ value).toList =
      '-' :: '-' :: (name.toList ++ '=' :: value.toList) := by
    simp [String.toList_append]
  have hnot : ∀ c ∈ name.toList, (c != '=') = true := fun c hc ↦ by
    rw [bne_iff_ne]
    rintro rfl
    exact hname hc
  have hname' : (name.toList ++ '=' :: value.toList).takeWhile (· != '=') = name.toList := by
    rw [List.takeWhile_append_of_pos hnot, List.takeWhile_cons_of_neg (by decide),
      List.append_nil]
  have hvalue : (name.toList ++ '=' :: value.toList).dropWhile (· != '=') =
      '=' :: value.toList := by
    rw [List.dropWhile_append_of_pos hnot, List.dropWhile_cons_of_neg (by decide)]
  obtain ⟨c, cs, hcs⟩ : ∃ c cs, name.toList ++ '=' :: value.toList = c :: cs :=
    List.exists_cons_of_ne_nil (by simp)
  rw [hcs] at hlist hname' hvalue
  simp only [Shape.of, hlist, hname', hvalue, String.ofList_toList]

private theorem readArguments_value {options : Options} {given : Given} {name value : String}
    (hoption : name ∈ options.valued) (hname : '=' ∉ name.toList) (hvalue : value ≠ "")
    (hnew : given.values.any (·.1 == name) = false) (rest : List String) :
    readArguments options given (("--" ++ name ++ "=" ++ value) :: rest) =
      readArguments options { given with values := (name, value) :: given.values } rest := by
  have hadd : given.addValue name value =
      .ok { given with values := (name, value) :: given.values } :=
    if_neg (by simp [hvalue, hnew])
  rw [readArguments, shape_of_value hname]
  dsimp only
  rw [if_pos hoption, hadd]
  rfl

private theorem readArguments_values {options : Options} {given : Given}
    {values : List (String × String)}
    (hvalues : ∀ value ∈ values, value.1 ∈ options.valued ∧ '=' ∉ value.1.toList ∧ value.2 ≠ "")
    (hnodup : (values.map (·.1)).Nodup)
    (hnew : ∀ value ∈ values, given.values.any (·.1 == value.1) = false) (rest : List String) :
    readArguments options given
        ((values.map fun value ↦ "--" ++ value.1 ++ "=" ++ value.2) ++ rest) =
      readArguments options { given with values := values.reverse ++ given.values } rest := by
  induction values generalizing given with
  | nil => rfl
  | cons value values ih =>
    obtain ⟨⟨hoption, hname, hvalue⟩, hvalues⟩ := List.forall_mem_cons.1 hvalues
    obtain ⟨hnotMem, hnodup⟩ := List.nodup_cons.1 hnodup
    obtain ⟨hfirst, hnew⟩ := List.forall_mem_cons.1 hnew
    rw [List.map_cons, List.cons_append, readArguments_value hoption hname hvalue hfirst]
    rw [ih hvalues hnodup]
    · rw [List.reverse_cons, List.append_assoc, List.singleton_append]
    · intro other hother
      rw [List.any_cons, hnew other hother, Bool.or_false, beq_eq_false_iff_ne]
      rintro hsame
      exact hnotMem (List.mem_map.2 ⟨other, hother, hsame.symm⟩)

private theorem readArguments_switch {options : Options} {given : Given} {name : String}
    (hvalued : name ∉ options.valued) (hoption : name ∈ options.switches)
    (hnew : name ∉ given.switches) (hshape : Shape.of ("--" ++ name) = .long name none)
    (rest : List String) :
    readArguments options given (("--" ++ name) :: rest) =
      readArguments options { given with switches := name :: given.switches } rest := by
  have hadd : given.addSwitch name = .ok { given with switches := name :: given.switches } :=
    if_neg hnew
  rw [readArguments, hshape]
  dsimp only
  rw [if_neg hvalued, if_neg (by decide), if_pos hoption, hadd]
  rfl

private theorem readArguments_operand {options : Options} {given : Given} {script : String}
    (hscript : script ≠ "") (hnone : given.operands = []) :
    readArguments options given ["--", script] = .ok { given with operands := [script] } := by
  have hadd : given.addOperand script = .ok { given with operands := [script] } :=
    if_neg (by simp [hscript, hnone])
  have hshape : Shape.of "--" = .separator := rfl
  rw [readArguments, hshape]
  dsimp only
  rw [List.foldlM_cons, hadd]
  rfl

/-- What a command knows. -/
structure Options.Serve (options : Options) (task : Task) : Prop where
  optionsOf?_eq : optionsOf? task.command = some options
  common : ∀ name ∈ ["manifest", "scenario"], name ∈ options.valued
  values : ∀ value ∈ task.values, value.1 ∈ options.valued
  switches : ∀ rest, readArguments options {} (task.switches.map ("--" ++ ·) ++ rest) =
    readArguments options { switches := task.switches } rest

private theorem exists_serve (task : Task) : ∃ options : Options, options.Serve task := by
  cases task with
  | dsl => exact ⟨_, rfl, by decide, by decide, fun rest ↦ rfl⟩
  | transcript => exact ⟨_, rfl, by decide, by decide, fun rest ↦ rfl⟩
  | sql => exact ⟨_, rfl, by decide, by decide, fun rest ↦ rfl⟩
  | compile folder => exact ⟨_, rfl, by decide, by simp [Task.values], fun rest ↦ rfl⟩
  | scenario includeStatic =>
    refine ⟨_, rfl, by decide, by simp [Task.values], fun rest ↦ ?_⟩
    cases includeStatic with
    | false => rfl
    | true =>
      exact readArguments_switch (by decide) (by decide) (by decide) (by simp [Shape.of]) rest
  | lint denyWarnings =>
    refine ⟨_, rfl, by decide, by simp [Task.values], fun rest ↦ ?_⟩
    cases denyWarnings with
    | false => rfl
    | true =>
      exact readArguments_switch (by decide) (by decide) (by decide) (by simp [Shape.of]) rest

private theorem map_fst_values (invocation : Invocation) :
    (invocation.values.map (·.1)).Sublist ["out-dir", "manifest", "scenario"] := by
  obtain ⟨manifest, script, scenario, task⟩ := invocation
  cases task <;> cases manifest <;> cases scenario <;> simp [Invocation.values, Task.values]

private theorem mem_values_iff {invocation : Invocation} {value : String × String} :
    value ∈ invocation.values ↔
      (∃ path, invocation.task = .compile path ∧ value = ("out-dir", path)) ∨
      (∃ path, invocation.manifest = some path ∧ value = ("manifest", path)) ∨
      ∃ path, invocation.scenario = some path ∧ value = ("scenario", path) := by
  obtain ⟨manifest, script, scenario, task⟩ := invocation
  cases task <;> cases manifest <;> cases scenario <;> simp [Invocation.values, Task.values]

private theorem readArguments_arguments {invocation : Invocation} (h : invocation.Named)
    {options : Options} (hserve : options.Serve invocation.task) :
    readArguments options {} invocation.arguments = .ok invocation.given := by
  have hoptions : ∀ value ∈ invocation.values, value.1 ∈ options.valued ∧ value.2 ≠ "" := by
    intro value hvalue
    obtain ⟨path, hpath, rfl⟩ | ⟨path, hpath, rfl⟩ | ⟨path, hpath, rfl⟩ := mem_values_iff.1 hvalue
    · exact ⟨hserve.values ("out-dir", path) (by simp [hpath, Task.values]), h.folder path hpath⟩
    · exact ⟨hserve.common "manifest" (by decide), h.manifest path hpath⟩
    · exact ⟨hserve.common "scenario" (by decide), h.scenario path hpath⟩
  have hplain : ∀ name ∈ ["out-dir", "manifest", "scenario"], '=' ∉ name.toList := by decide
  have hvalues : ∀ value ∈ invocation.values,
      value.1 ∈ options.valued ∧ '=' ∉ value.1.toList ∧ value.2 ≠ "" := fun value hvalue ↦
    ⟨(hoptions value hvalue).1,
      hplain _ ((map_fst_values invocation).subset (List.mem_map_of_mem hvalue)),
      (hoptions value hvalue).2⟩
  rw [Invocation.arguments, List.append_assoc, hserve.switches, readArguments_values hvalues
    ((map_fst_values invocation).nodup (by decide)) (fun _ _ ↦ rfl), List.append_nil]
  exact readArguments_operand h.script rfl

private theorem value?_given (invocation : Invocation) :
    invocation.given.value? "manifest" = invocation.manifest ∧
      invocation.given.value? "scenario" = invocation.scenario := by
  obtain ⟨manifest, script, scenario, task⟩ := invocation
  cases task <;> cases manifest <;> cases scenario <;> exact ⟨rfl, rfl⟩

private theorem taskOf?_given (invocation : Invocation) :
    taskOf? invocation.task.command invocation.given = some invocation.task := by
  obtain ⟨manifest, script, scenario, task⟩ := invocation
  cases task with
  | dsl => rfl
  | transcript => rfl
  | sql => rfl
  | scenario includeStatic => cases includeStatic <;> rfl
  | lint denyWarnings => cases denyWarnings <;> rfl
  | compile folder => cases manifest <;> cases scenario <;> rfl

private theorem readCommand_arguments {invocation : Invocation} (h : invocation.Named) :
    readCommand none invocation.task.command invocation.arguments = .ok invocation := by
  obtain ⟨options, hserve⟩ := exists_serve invocation.task
  obtain ⟨hmanifest, hscenario⟩ := value?_given invocation
  unfold readCommand
  rw [hserve.optionsOf?_eq]
  dsimp only
  rw [readArguments_arguments h hserve]
  simp only [bind, Except.bind]
  rw [taskOf?_given]
  change Except.ok (Invocation.mk _ invocation.script _ invocation.task) = _
  rw [hmanifest, hscenario, Option.or_none]

/-- A command can be asked for exactly if it names nothing empty. -/
theorem exists_ofArguments?_iff {invocation : Invocation} :
    (∃ args, Request.ofArguments? args = some (.run invocation)) ↔ invocation.Named := by
  constructor
  · rintro ⟨args, hargs⟩
    exact named_of_ofArguments? hargs
  · intro h
    have hshape : Shape.of invocation.task.command = .plain := by
      cases invocation.task <;> simp [Task.command, Shape.of]
    refine ⟨invocation.task.command :: invocation.arguments, ?_⟩
    have hline : readLine {} (invocation.task.command :: invocation.arguments) =
        readCommand none invocation.task.command invocation.arguments := by
      rw [readLine, hshape]
      rfl
    rw [Request.ofArguments?, hline, readCommand_arguments h]

end Storyline.CommandLine
