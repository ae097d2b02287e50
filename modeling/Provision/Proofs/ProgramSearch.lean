import Provision.Proofs.OriginalPath

/-!
# Programs along the search path

A bare name is the program in the first entry of the command's search path that has one. The system
searches the same path again when a name is started as it is given, so a name that no entry has starts
nothing. Directories in front of the search path therefore come before all of it.
-/

namespace Provision

namespace Host.Path

/-- A name without a slash is one component, or none. -/
theorem length_components_of_bare {name : Bytes} (bare : slash ∉ name) :
    (components name).length ≤ 1 := by
  have single := List.splitOn_eq_singleton bare
  unfold components
  dsimp only
  rw [is_absolute_of_not_mem bare, single]
  by_cases isDot : name = dot
  · subst isDot
    decide
  · have parts : ([name].filterMap Component.ofPart?).length ≤ 1 := List.length_filterMap_le _ _
    simpa [isDot] using parts

/-- A path whose first component is a name begins as that name does. -/
theorem head_of_components {path first : Bytes} {rest : List Component}
    (named : components path = .name first :: rest) : first.head? = path.head? := by
  unfold components at named
  dsimp only at named
  split at named
  · cases named
  · next relative =>
      cases path with
      | nil => cases named
      | cons byte bytes =>
          have notSlash : byte ≠ slash := fun same => relative (by simp [isAbsolute, same])
          obtain ⟨part, parts, split⟩ := Text.split_on_cons_of_ne notSlash bytes
          rw [split] at named
          split at named
          · cases named
          · next notDot =>
              have counts : ¬ (byte :: part = [] ∨ byte :: part = dot) := by simpa using notDot
              rw [List.filterMap_cons, Component.ofPart?, if_neg counts] at named
              split at named
              · next impossible => split at impossible <;> cases impossible
              · next component is =>
                  split at is
                  · cases is
                    cases named
                  · cases is
                    cases named
                    rfl

end Host.Path

namespace Host.Search

variable {surroundings : Surroundings} {tree : FileTree} {here : Place} {command : Command}
  {path entry name : Bytes} {before after : List Bytes}

/-- The path of a name in an entry of a search path. An empty entry is the working directory. -/
def pathIn (entry name : Bytes) : Bytes :=
  if entry = [] then name
  else if entry.getLast? = some Path.slash then entry ++ name
  else entry ++ Path.slash :: name

/-- A path leads to a file, and it can be run. -/
inductive Executable (tree : FileTree) (here : Place) (path : Bytes) : Prop where
  | data {content : ByteArray} (leads : tree.status here path = .ok (.data content true)) :
      Executable tree here path
  | program {conduct : Conduct} (leads : tree.status here path = .ok (.program conduct)) :
      Executable tree here path

/-- An entry of a search path has a program of the name. -/
def Has (tree : FileTree) (here : Place) (name entry : Bytes) : Prop :=
  Executable tree here (pathIn entry name)

theorem is_runnable_iff : isRunnable tree here path = true ↔ Executable tree here path := by
  constructor
  · intro runnable
    unfold isRunnable at runnable
    split at runnable
    · next content executable leads =>
        rw [runnable] at leads
        exact .data leads
    · next leads => exact .program leads
    · cases runnable
  · rintro (leads | leads) <;> simp [isRunnable, leads]

/-! ## The search for a name -/

theorem join_of_bare (bare : Path.slash ∉ name) : Path.join entry name = pathIn entry name := by
  unfold Path.join pathIn
  rw [Path.is_absolute_of_not_mem bare]
  by_cases empty : entry = []
  · simp [empty]
  · simp [empty]

/-- Only an entry that begins with a tilde can name the home directory. -/
theorem directory_of_entry (home : Option Bytes) (notHome : entry.head? ≠ some 0x7E) :
    directoryOf home entry = entry := by
  unfold directoryOf
  split
  · next first rest home named =>
      rw [if_neg]
      rintro ⟨isTilde, _⟩
      apply notHome
      rw [← Path.head_of_components named, isTilde]
      rfl
  · rfl

theorem candidate_of_entry (home : Option Bytes) (bare : Path.slash ∉ name)
    (notHome : entry.head? ≠ some 0x7E) :
    Path.join (directoryOf home entry) name = pathIn entry name := by
  rw [directory_of_entry home notHome, join_of_bare bare]

theorem find_of_bare (bare : Path.slash ∉ Utf8.encode command.program)
    (seen : pathFor surroundings command = some path) :
    find surroundings tree command =
      match (candidates surroundings path (Utf8.encode command.program)).find?
          (isRunnable tree surroundings.directory) with
      | some path => .ok path
      | none => .error .notFound := by
  have short := Path.length_components_of_bare bare
  have single : ¬ 1 < (Path.components (Utf8.encode command.program)).length := by omega
  rw [find, if_neg single]
  generalize pathFor surroundings command = searched at seen
  subst seen
  rfl

/-- A bare name is found in the first entry that has it. -/
theorem resolve_of_first (bare : Path.slash ∉ Utf8.encode command.program)
    (seen : pathFor surroundings command = some path)
    (split : Text.splitOn separator path = before ++ entry :: after)
    (notHome : ∀ other ∈ before ++ [entry], other.head? ≠ some 0x7E)
    (missing : ∀ other ∈ before,
      ¬ Has tree surroundings.directory (Utf8.encode command.program) other)
    (present : Has tree surroundings.directory (Utf8.encode command.program) entry) :
    resolve surroundings tree command = pathIn entry (Utf8.encode command.program) := by
  have here := candidate_of_entry (surroundings.value? Variable.home) bare
    (notHome entry (by simp))
  have first : (candidates surroundings path (Utf8.encode command.program)).find?
      (isRunnable tree surroundings.directory) =
        some (pathIn entry (Utf8.encode command.program)) := by
    rw [candidates, split, List.map_append, List.map_cons, here]
    refine List.find?_eq_some_iff_append.2 ⟨is_runnable_iff.2 present, _, _, rfl, ?_⟩
    intro candidate member
    obtain ⟨other, earlier, rfl⟩ := List.mem_map.1 member
    rw [candidate_of_entry _ bare (notHome other (by simp [earlier])), Bool.not_eq_true',
      Bool.eq_false_iff]
    exact fun runnable => missing other earlier (is_runnable_iff.1 runnable)
  rw [resolve, find_of_bare bare seen, first]

theorem resolve_of_missing (bare : Path.slash ∉ Utf8.encode command.program)
    (seen : pathFor surroundings command = some path)
    (notHome : ∀ entry ∈ Text.splitOn separator path, entry.head? ≠ some 0x7E)
    (missing : ∀ entry ∈ Text.splitOn separator path,
      ¬ Has tree surroundings.directory (Utf8.encode command.program) entry) :
    resolve surroundings tree command = Utf8.encode command.program := by
  have none : (candidates surroundings path (Utf8.encode command.program)).find?
      (isRunnable tree surroundings.directory) = none := by
    refine List.find?_eq_none.2 ?_
    intro candidate member runnable
    obtain ⟨entry, inside, rfl⟩ := List.mem_map.1 member
    rw [candidate_of_entry _ bare (notHome entry inside)] at runnable
    exact missing entry inside (is_runnable_iff.1 runnable)
  rw [resolve, find_of_bare bare seen, none]

end Host.Search

/-! ## The system's own search -/

namespace Host.FileTree

variable {tree : FileTree} {here : Place} {front name : Bytes}

/-- A slash more between two names of a path leads to the same place, if the path is not too long. -/
theorem locate_of_doubled {target : Target}
    (located : tree.locate here (front ++ Path.slash :: Path.slash :: name) = .ok target) :
    tree.locate here (front ++ Path.slash :: name) = .ok target := by
  have names : (Text.splitOn Path.slash (front ++ Path.slash :: name)).filter (· ≠ []) =
      (Text.splitOn Path.slash (front ++ Path.slash :: Path.slash :: name)).filter (· ≠ []) := by
    rw [List.splitOn_append_cons_self, List.splitOn_append_cons_self, Text.split_on_cons_self]
    simp
  have start : Path.isAbsolute (front ++ Path.slash :: name) =
      Path.isAbsolute (front ++ Path.slash :: Path.slash :: name) := by
    cases front <;> rfl
  have ending : (front ++ Path.slash :: name).getLast? =
      (front ++ Path.slash :: Path.slash :: name).getLast? := by
    simp [List.getLast?_append, List.getLast?_cons]
  unfold locate at located ⊢
  split at located
  · cases located
  · next noNul =>
      have noNulToo : ¬ (front ++ Path.slash :: name).contains 0 = true := by
        simpa [List.contains_eq_mem] using noNul
      rw [if_neg noNulToo]
      split at located
      · cases located
      · next short =>
          have shorter : ¬ longestPath ≤ (front ++ Path.slash :: name).length := by
            simp only [List.length_append, List.length_cons] at short ⊢
            omega
          rw [if_neg shorter, names, start, ending]
          dsimp only at located ⊢
          split at located
          · simp at located ⊢
            exact located
          · exact located

theorem status_of_doubled {entry : Entry}
    (leads : tree.status here (front ++ Path.slash :: Path.slash :: name) = .ok entry) :
    tree.status here (front ++ Path.slash :: name) = .ok entry := by
  unfold status at leads ⊢
  cases located : tree.locate here (front ++ Path.slash :: Path.slash :: name) with
  | error refusal =>
      rw [located] at leads
      cases leads
  | ok target =>
      rw [located] at leads
      rw [locate_of_doubled located]
      exact leads

end Host.FileTree

namespace Host.Launch

open Search (Executable Has pathIn)

variable {launch : Launch} {tree : FileTree} {here : Place} {path : Bytes}

theorem program_at_refused (missing : ¬ Executable tree here path) :
    ∃ refusal, programAt tree here path = .error refusal := by
  unfold programAt
  split
  · exact ⟨_, rfl⟩
  · exact ⟨_, rfl⟩
  · next content executable leads =>
      cases executable with
      | true => exact absurd (.data leads) missing
      | false => exact ⟨_, rfl⟩
  · next leads => exact absurd (.program leads) missing

/-- The system puts a slash behind every entry, also behind one that ends with a slash. -/
theorem missing_below {directory name : Bytes} (filled : directory ≠ [])
    (missing : ¬ Has tree here name directory) :
    ¬ Executable tree here (directory ++ Path.slash :: name) := by
  unfold Has pathIn at missing
  rw [if_neg filled] at missing
  split at missing
  · next ends =>
      obtain ⟨front, rfl⟩ := List.getLast?_eq_some_iff.1 ends
      rw [List.append_assoc] at missing ⊢
      rintro (leads | leads)
      · exact missing (.data (FileTree.status_of_doubled leads))
      · exact missing (.program (FileTree.status_of_doubled leads))
  · exact missing

/-- A search among entries that do not have the program starts nothing. -/
theorem start_in_refused {entries : List Bytes} (remembered : Refusal)
    (missing : ∀ entry ∈ entries, ¬ Has tree here launch.program entry) :
    ∃ refusal, launch.startIn tree here remembered entries = .error refusal := by
  induction entries generalizing remembered with
  | nil => exact ⟨remembered, rfl⟩
  | cons directory rest ih =>
      have absent : ¬ Executable tree here
          (if directory = [] then launch.program else directory ++ Path.slash :: launch.program) := by
        have lacks := missing directory List.mem_cons_self
        split
        · next empty => simpa [Has, pathIn, empty] using lacks
        · next filled => exact missing_below filled lacks
      obtain ⟨refusal, refused⟩ := program_at_refused absent
      unfold startIn
      simp only [start, refused]
      split
      · exact ih _ fun entry later => missing entry (List.mem_cons_of_mem _ later)
      · exact ⟨refusal, rfl⟩

theorem run_refused {searched : Bytes} (named : launch.program ≠ [])
    (bare : Path.slash ∉ launch.program)
    (seen : launch.bindings.get? (Utf8.encode Variable.searchPath) = some searched)
    (missing : ∀ entry ∈ Text.splitOn Search.separator searched,
      ¬ Has tree here launch.program entry) :
    ∃ refusal, launch.run tree here = .error refusal := by
  obtain ⟨refusal, refused⟩ : ∃ refusal, launch.startIn tree here .notFound
      (Text.splitOn Search.separator searched) = .error refusal := start_in_refused .notFound missing
  have started : launch.started tree here = .error refusal := by
    have noSlash : ¬ launch.program.contains Path.slash = true := by
      simpa [List.contains_eq_mem] using bare
    unfold started
    rw [if_neg named, if_neg noSlash, seen]
    exact refused
  unfold run
  rw [started]
  split
  · exact ⟨_, rfl⟩
  · exact ⟨refusal, rfl⟩

end Host.Launch

namespace Session

open Host

variable {machine : Machine} {command : Command} {world : World}

/-- A command that cannot be started fails by the name it was given, and only something is told. -/
theorem run_command_refused {refusal : Refusal}
    (refused : (launchOf machine command world.files).run world.files machine.surroundings.directory =
      .error refusal) :
    (runCommand machine command world).1 = .error (.spawn command.program refusal.text) ∧
      world.OnlyTold (runCommand machine command world).2 := by
  obtain ⟨found, resolved⟩ := resolve_told machine command world
  unfold runCommand
  generalize resolve machine command world = located at found resolved ⊢
  obtain ⟨program, told⟩ := located
  have ready := resolved.trans (World.only_told_remark machine (spawnRemark program command) told)
  have launched : Launch.ofCommand machine.surroundings command program =
      launchOf machine command world.files := by
    rw [launchOf, ← found]
  simp only [launched, ready.files, refused, true_and]
  exact ready

end Session

/-! ## Directories in front -/

namespace Delta

open Host.Search (separator)

theorem encode_intercalate (parts : List String) :
    Utf8.encode (String.intercalate Settings.searchPathSeparator parts) =
      Text.joined separator (parts.map Utf8.encode) := by
  induction parts with
  | nil => rfl
  | cons part parts ih =>
      cases parts with
      | nil => simp [Text.joined]
      | cons next parts =>
          rw [Text.joined] at ih ⊢
          rw [String.intercalate_cons_cons, Utf8.encode_append, Utf8.encode_append, ih,
            encode_search_path_separator]
          exact List.intercalate_cons_cons.symm

theorem split_of_absent {directories : List String}
    (absent : ∀ directory ∈ directories, ':' ∉ directory.toList) :
    (directories.map Utf8.encode).flatMap (Text.splitOn separator) =
      directories.map Utf8.encode := by
  induction directories with
  | nil => rfl
  | cons directory rest ih =>
      have missing : separator ∉ Utf8.encode directory := by
        intro inside
        exact absent directory (by simp) ((Utf8.mem_encode_iff (c := ':') (by decide)).1 inside)
      rw [List.map_cons, List.flatMap_cons, List.splitOn_eq_singleton missing,
        ih fun other member => absent other (by simp [member])]
      rfl

/-- The search path of a delta's commands begins with its directories, the last one first. -/
theorem split_override {delta : Delta} (snapshot : Snapshot) (prepends : delta.prepends ≠ [])
    (absent : ∀ directory ∈ delta.prepends, ':' ∉ directory.toList) :
    ∃ path rest, (delta.overrides snapshot).get? Variable.searchPath = some path ∧
      Text.splitOn separator (Utf8.encode path) =
        delta.prepends.reverse.map Utf8.encode ++ rest := by
  let base := (snapshot.get? Variable.searchPath).toList
  refine ⟨String.intercalate Settings.searchPathSeparator (delta.prepends.reverse ++ base),
    (base.map Utf8.encode).flatMap (Text.splitOn separator), ?_, ?_⟩
  · rw [get_overrides, if_pos rfl, search_path_of_snapshot, if_neg prepends, Option.some_or]
  · have filled : (delta.prepends.reverse ++ base).map Utf8.encode ≠ [] := by
      simp [prepends]
    have absentToo : ∀ directory ∈ delta.prepends.reverse, ':' ∉ directory.toList :=
      fun directory member => absent directory (List.mem_reverse.1 member)
    rw [encode_intercalate, Text.split_on_joined separator filled, List.map_append,
      List.flatMap_append, split_of_absent absentToo]

end Delta

theorem TestRun.program_of_step {snapshot : Snapshot} {find : String → Option Installation}
    {plan : Plan} {command : Command} (planned : TestRun.plan snapshot find = .ok plan)
    (member : Step.run command ∈ plan.steps) : command.program = "cargo" := by
  obtain ⟨shown, _, rfl⟩ := plan_eq_ok planned
  simp only [planWith, Plan.run, List.nil_append, List.cons_append, List.mem_cons, Step.run.injEq,
    List.not_mem_nil, or_false] at member
  rcases member with rfl | rfl
  · rfl
  · rfl

namespace Session

open Host Host.Search

/-- A command's program is a bare name, to be looked for along a search path: the command's own, or
else that of the program. No entry of it names the home directory. -/
structure Sought (surroundings : Surroundings) (command : Command) (path : Bytes) : Prop where
  named : command.program ≠ ""
  bare : '/' ∉ command.program.toList
  seen : ((command.bindings.get? Variable.searchPath).map Utf8.encode).or
    (surroundings.value? Variable.searchPath) = some path
  noHome : ∀ entry ∈ Text.splitOn separator path, entry.head? ≠ some 0x7E

variable {machine : Machine} {command : Command} {path : Bytes}

theorem Sought.bare_bytes {surroundings : Surroundings} (sought : Sought surroundings command path) :
    Path.slash ∉ Utf8.encode command.program := by
  intro inside
  exact sought.bare ((Utf8.mem_encode_iff (c := '/') (by decide)).1 inside)

theorem Sought.path_for {surroundings : Surroundings} (sought : Sought surroundings command path) :
    pathFor surroundings command = some path := by
  have seen := sought.seen
  unfold pathFor
  cases own : command.bindings.get? Variable.searchPath with
  | none => simpa [own] using seen
  | some text => simpa [own] using seen

theorem Sought.refused {world : World} (sought : Sought machine.surroundings command path)
    (missing : ∀ entry ∈ Text.splitOn separator path,
      ¬ Has world.files machine.surroundings.directory (Utf8.encode command.program) entry) :
    ∃ refusal, (launchOf machine command world.files).run world.files
      machine.surroundings.directory = .error refusal := by
  have given := resolve_of_missing sought.bare_bytes sought.path_for sought.noHome missing
  have named : Utf8.encode command.program ≠ [] := by
    intro empty
    exact sought.named (Utf8.encode_injective (empty.trans rfl))
  have sees : (launchOf machine command world.files).bindings.get?
      (Utf8.encode Variable.searchPath) = some path :=
    (Launch.get_child_bindings machine.surroundings command.bindings _).trans sought.seen
  unfold launchOf at sees ⊢
  rw [given] at sees ⊢
  exact Launch.run_refused named sought.bare_bytes sees missing

/-- A bare name is found in the first entry of the search path that has a program of that name, whatever
stands at that name in the entries before. If none has one the name stays as it is given, and starting
it fails with nothing started. So of the directories that a test run puts in front of the search path,
the last one that has the build tool provides it, whatever the original search path has. -/
theorem program_is_first_on_path (sought : Sought machine.surroundings command path) (world : World) :
    let here := machine.surroundings.directory
    let name := Utf8.encode command.program
    let found := Search.resolve machine.surroundings world.files
    (∀ before entry after, Text.splitOn separator path = before ++ entry :: after →
        (∀ other ∈ before, ¬ Has world.files here name other) → Has world.files here name entry →
          found command = pathIn entry name) ∧
      ((∀ entry ∈ Text.splitOn separator path, ¬ Has world.files here name entry) →
        found command = name ∧
          (∃ problem, (runCommand machine command world).1 =
            .error (.spawn command.program problem)) ∧
          world.OnlyTold (runCommand machine command world).2) ∧
      ∀ (snapshot : Snapshot) (find : String → Option Installation) (plan : Plan),
        TestRun.plan snapshot find = .ok plan →
        (∀ directory ∈ plan.delta.prepends,
          ':' ∉ directory.toList ∧ (Utf8.encode directory).head? ≠ some 0x7E) →
        ∀ build ∈ plan.commands, ∀ earlier directory later,
          plan.delta.prepends = earlier ++ directory :: later →
          (∀ other ∈ later,
            ¬ Has world.files here (Utf8.encode "cargo") (Utf8.encode other)) →
          Has world.files here (Utf8.encode "cargo") (Utf8.encode directory) →
            found build = pathIn (Utf8.encode directory) (Utf8.encode "cargo") := by
  intro here name found
  refine ⟨?_, ?_, ?_⟩
  · intro before entry after split missing present
    apply resolve_of_first sought.bare_bytes sought.path_for split _ missing present
    intro other member
    apply sought.noHome
    rw [split]
    simp only [List.mem_append, List.mem_cons, List.not_mem_nil, or_false] at member ⊢
    exact member.imp_right .inl
  · intro missing
    obtain ⟨refusal, refused⟩ := sought.refused missing
    obtain ⟨failed, told⟩ := run_command_refused refused
    exact ⟨resolve_of_missing sought.bare_bytes sought.path_for sought.noHome missing,
      ⟨_, failed⟩, told⟩
  · intro snapshot find plan planned proper build member earlier directory later prepends missing
      present
    have program := TestRun.program_of_step planned (Plan.mem_commands.1 member)
    have filled : plan.delta.prepends ≠ [] := by simp [prepends]
    obtain ⟨own, rest, overridden, split⟩ := Delta.split_override snapshot filled
      fun directory member => (proper directory member).1
    have seen : pathFor machine.surroundings build = some (Utf8.encode own) := by
      rw [pathFor, TestRun.bindings_of_step planned (Plan.mem_commands.1 member), overridden]
    have bare : Path.slash ∉ Utf8.encode build.program := by
      rw [program]
      decide +kernel
    have order : plan.delta.prepends.reverse.map Utf8.encode ++ rest =
        later.reverse.map Utf8.encode ++ Utf8.encode directory ::
          (earlier.reverse.map Utf8.encode ++ rest) := by
      simp [prepends]
    rw [← program] at missing present ⊢
    refine resolve_of_first bare seen (split.trans order) ?_ ?_ present
    · intro other member
      have among : other ∈ plan.delta.prepends.map Utf8.encode := by
        rw [prepends]
        simp only [List.mem_append, List.mem_map, List.mem_reverse, List.mem_singleton] at member
        rcases member with ⟨text, behind, rfl⟩ | rfl
        · exact List.mem_map_of_mem (by simp [behind])
        · exact List.mem_map_of_mem (by simp)
      obtain ⟨text, inside, rfl⟩ := List.mem_map.1 among
      exact (proper text inside).2
    · intro other member
      obtain ⟨text, behind, rfl⟩ := List.mem_map.1 member
      exact missing text (List.mem_reverse.1 behind)

/-- Three directories with the name of the build tool, which is a directory in one, may not be run in
another and is a program in the last, and a directory of the managed library that has the tool too. -/
def crowdedFiles : FileTree :=
  let tool := Utf8.encode "cargo"
  let library := Utf8.encode "c\\envs\\testenv\\Library\\bin"
  (⟨.empty⟩ : FileTree)
    |>.put [[100]] .directory
    |>.put [[100], tool] .directory
    |>.put [[112]] .directory
    |>.put [[112], tool] (.data .empty false)
    |>.put [[98]] .directory
    |>.put [[98], tool] (.program (Script.conduct {}))
    |>.put [library] .directory
    |>.put [library, tool] (.program (Script.conduct {}))

theorem build_tool_is_first_on_path :
    let machine := managedMachine (Utf8.encode "/d:/p:/b/")
    let world : World := { files := crowdedFiles }
    let found := Search.resolve machine.surroundings world.files
    let snapshot : Snapshot := .ofPairs [("H5_SOURCE", "conda"), ("CONDA", "/c"), ("PATH", "/b")]
    found { program := "cargo" } = Utf8.encode "/b/cargo" ∧
      (∃ problem, (runCommand machine { program := "rustc" } world).1 =
        .error (.spawn "rustc" problem)) ∧
      ∃ plan, TestRun.plan snapshot Lookup.registry.find = .ok plan ∧
        ∀ build ∈ plan.commands,
          found build = Utf8.encode "/c\\envs\\testenv\\Library\\bin/cargo" := by
  intro machine world found snapshot
  have sought (program : String) (named : program ≠ "") (bare : '/' ∉ program.toList) :
      Sought machine.surroundings { program } (Utf8.encode "/d:/p:/b/") := by
    refine ⟨named, bare, ?_, by decide +kernel⟩
    exact (value_on_managed_machine _ Variable.searchPath).trans rfl
  have runs (name entry : Bytes) :
      Has world.files machine.surroundings.directory name entry ↔
        isRunnable crowdedFiles [] (pathIn entry name) = true := is_runnable_iff.symm
  obtain ⟨first, _, inFront⟩ := program_is_first_on_path
    (sought "cargo" (by decide) (by decide)) world
  obtain ⟨_, missing, _⟩ := program_is_first_on_path
    (sought "rustc" (by decide) (by decide)) world
  simp only [runs] at first missing inFront
  have requested : LibrarySource.requested snapshot = .ok (some .managed) :=
    @TestRun.requested_of_text snapshot "conda" _ (by decide +kernel) (by decide +kernel)
  have root : snapshot.get? Variable.managerRoot = some "/c" := by decide +kernel
  have planned : TestRun.plan snapshot Lookup.registry.find = .ok _ :=
    TestRun.plan_of_managed requested root
  refine ⟨?_, ?_, _, planned, ?_⟩
  · exact first [Utf8.encode "/d", Utf8.encode "/p"] (Utf8.encode "/b/") [] (by decide +kernel)
      (by decide +kernel) (by decide +kernel)
  · exact (missing (by decide +kernel)).2.1
  · intro build member
    exact inFront _ _ _ planned (by decide +kernel) build member
      ["/c\\envs\\testenv\\Scripts"] "/c\\envs\\testenv\\Library\\bin"
      ["/c\\envs\\testenv\\"] (by decide +kernel) (by decide +kernel) (by decide +kernel)

end Session

end Provision
