import Provision.Program

/-!
# Flags in any order

Flags may be spelled out or written together as letters, and may stand before and behind the name of the
action. What is asked for depends on how often each flag occurs and on nothing else. `Reached` says after
each flag what has been read so far, or that a flag has come twice that may come once.
-/

namespace Provision.Arguments

/-- What a letter of a group of flags stands for. -/
def flagOfLetter (letter : Char) : Flag :=
  if letter = 'v' then .verbose else .quiet

inductive Spelled : List Flag → String → Prop
  | verbose : Spelled [.verbose] "--verbose"
  | quiet : Spelled [.quiet] "--quiet"
  | dryRun : Spelled [.dryRun] "--dry-run"
  | group {letters : List Char} (filled : letters ≠ [])
      (short : ∀ letter ∈ letters, letter = 'v' ∨ letter = 'q') :
      Spelled (letters.map flagOfLetter) (String.ofList ('-' :: letters))

inductive Spelling : List Flag → List String → Prop
  | none : Spelling [] []
  | more {flags rest : List Flag} {argument : String} {arguments : List String}
      (first : Spelled flags argument) (behind : Spelling rest arguments) :
      Spelling (flags ++ rest) (argument :: arguments)

/-- Arguments that name an action once and otherwise spell these flags. -/
inductive Asks (action : Action) : List Flag → List String → Prop
  | named {earlier later : List Flag} {before behind : List String} {name : String}
      (names : name ∈ action.names) (front : Spelling earlier before) (back : Spelling later behind) :
      Asks action (earlier ++ later) (before ++ name :: behind)

def Flag.IsSingle (flag : Flag) : Prop := flag = .quiet ∨ flag = .dryRun

/-- The reading is past these flags, and past the name of the action if there is one. -/
structure HasRead (action : Option Action) (flags : List Flag) (reading : Reading) : Prop where
  verbosity : reading.verbosity = min (flags.count .verbose) greatestVerbosity
  quiet : reading.quiet = decide (.quiet ∈ flags)
  dryRun : reading.dryRun = decide (.dryRun ∈ flags)
  once : ∀ flag : Flag, flag.IsSingle → flags.count flag ≤ 1
  ongoing : reading.flagsEnded = false
  unnamed : action = none → reading.candidate = none ∧ reading.action = none
  settles : reading.settle = .ok { reading with candidate := none, action }

/-- How far the arguments are read once these flags have come. -/
inductive Reached (action : Option Action) (flags : List Flag) : Except Fault Reading → Prop
  | here {reading : Reading} (read : HasRead action flags reading) : Reached action flags (.ok reading)
  | clash {flag : Flag} (single : flag.IsSingle) (again : 1 < flags.count flag) :
      Reached action flags (.error (.repeatedFlag flag))

variable {action : Option Action} {flags more : List Flag} {reading : Reading}

theorem has_read_nothing : HasRead none [] {} :=
  ⟨rfl, rfl, rfl, fun _ _ => Nat.zero_le 1, rfl, fun _ => ⟨rfl, rfl⟩, rfl⟩

/-- A clash stays one, whatever comes behind it. -/
theorem Reached.bind {later : Option Action} {result : Except Fault Reading}
    {next : Reading → Except Fault Reading} (reached : Reached action flags result)
    (goesOn : ∀ reading, HasRead action flags reading → Reached later (flags ++ more) (next reading)) :
    Reached later (flags ++ more) (result >>= next) := by
  cases reached with
  | here read => exact goesOn _ read
  | clash single again =>
      apply Reached.clash single
      rw [List.count_append]
      exact Nat.lt_add_right _ again

/-! ## One flag -/

theorem once_of_new {flag : Flag} (new : flag.IsSingle → flag ∉ flags)
    (once : ∀ other : Flag, other.IsSingle → flags.count other ≤ 1) :
    ∀ other : Flag, other.IsSingle → (flags ++ [flag]).count other ≤ 1 := by
  intro other single
  rw [List.count_append, List.count_singleton]
  by_cases same : flag = other
  · subst same
    rw [List.count_eq_zero_of_not_mem (new single)]
    simp
  · rw [if_neg (by simpa using same)]
    exact once other single

theorem repeated_of_mem {flag : Flag} (inside : flag ∈ flags) : 1 < (flags ++ [flag]).count flag := by
  have before := List.count_pos_iff.2 inside
  rw [List.count_append, List.count_singleton_self]
  omega

theorem take_flag_reaches {flag : Flag} (known : flag = .verbose ∨ flag.IsSingle)
    (read : HasRead action flags reading) :
    Reached action (flags ++ [flag]) (reading.takeFlag flag) := by
  have settled : reading.takeFlag flag =
      ({ reading with candidate := none, action } : Reading).count flag := by
    unfold Reading.takeFlag
    rw [read.settles]
    rfl
  rw [settled]
  obtain ⟨verbosity, quiet, dryRun, once, ongoing, _, _⟩ := read
  rcases known with rfl | rfl | rfl
  · refine .here ⟨?_, ?_, ?_, once_of_new ?_ once, ongoing, fun none => ⟨rfl, none⟩, rfl⟩
    · simp only [verbosity, greatestVerbosity, List.count_append, List.count_singleton_self]
      omega
    · simp [quiet]
    · simp [dryRun]
    · rintro (same | same) <;> cases same
  · by_cases inside : Flag.quiet ∈ flags
    · simp only [Reading.count, quiet, inside, decide_true, if_true]
      exact .clash (.inl rfl) (repeated_of_mem inside)
    · simp only [Reading.count, quiet, inside, decide_false, Bool.false_eq_true, if_false]
      refine .here ⟨?_, ?_, ?_, once_of_new (fun _ => inside) once, ongoing,
        fun none => ⟨rfl, none⟩, rfl⟩
      · simp [verbosity]
      · simp
      · simp [dryRun]
  · by_cases inside : Flag.dryRun ∈ flags
    · simp only [Reading.count, dryRun, inside, decide_true, if_true]
      exact .clash (.inr rfl) (repeated_of_mem inside)
    · simp only [Reading.count, dryRun, inside, decide_false, Bool.false_eq_true, if_false]
      refine .here ⟨?_, ?_, ?_, once_of_new (fun _ => inside) once, ongoing,
        fun none => ⟨rfl, none⟩, rfl⟩
      · simp [verbosity]
      · simp [quiet]
      · simp

theorem take_flags_reaches (known : ∀ flag ∈ more, flag = .verbose ∨ flag.IsSingle)
    (read : HasRead action flags reading) :
    Reached action (flags ++ more) (more.foldlM Reading.takeFlag reading) := by
  induction more generalizing flags reading with
  | nil =>
      rw [List.append_nil]
      exact .here read
  | cons flag rest ih =>
      have first := take_flag_reaches (known flag List.mem_cons_self) read
      rw [List.foldlM_cons, ← List.singleton_append, ← List.append_assoc]
      exact first.bind fun _ => ih fun other later => known other (List.mem_cons_of_mem _ later)

/-! ## One argument -/

theorem Spelled.known {argument : String} (spelled : Spelled flags argument) :
    ∀ flag ∈ flags, flag = .verbose ∨ flag.IsSingle := by
  cases spelled with
  | verbose => simp
  | quiet => simp [Flag.IsSingle]
  | dryRun => simp [Flag.IsSingle]
  | group _ _ =>
      intro flag inside
      obtain ⟨letter, _, rfl⟩ := List.mem_map.1 inside
      unfold flagOfLetter
      split
      · exact .inl rfl
      · exact .inr (.inl rfl)

theorem take_letters {letters : List Char} (short : ∀ letter ∈ letters, letter = 'v' ∨ letter = 'q') :
    letters.foldlM Reading.takeLetter reading =
      (letters.map flagOfLetter).foldlM Reading.takeFlag reading := by
  induction letters generalizing reading with
  | nil => rfl
  | cons letter rest ih =>
      have first : reading.takeLetter letter = reading.takeFlag (flagOfLetter letter) := by
        rcases short letter List.mem_cons_self with rfl | rfl <;> rfl
      rw [List.map_cons, List.foldlM_cons, List.foldlM_cons, first]
      congr 1
      funext next
      exact ih fun other later => short other (List.mem_cons_of_mem _ later)

/-- An argument that spells flags is read like these flags one by one. -/
theorem take_spelled {argument : String} (ongoing : reading.flagsEnded = false)
    (spelled : Spelled flags argument) :
    reading.take argument = flags.foldlM Reading.takeFlag reading := by
  unfold Reading.take
  rw [if_neg (by simp [ongoing])]
  cases spelled with
  | verbose => exact (bind_pure _).symm
  | quiet => exact (bind_pure _).symm
  | dryRun => exact (bind_pure _).symm
  | @group letters filled short =>
      rw [String.toList_ofList]
      cases letters with
      | nil => exact absurd rfl filled
      | cons letter rest =>
          rcases short letter List.mem_cons_self with rfl | rfl <;> exact take_letters short

theorem take_spelling {arguments : List String} (spelling : Spelling more arguments)
    (read : HasRead action flags reading) :
    Reached action (flags ++ more) (arguments.foldlM Reading.take reading) := by
  induction spelling generalizing flags reading with
  | none =>
      rw [List.append_nil]
      exact .here read
  | more first behind ih =>
      have reached := take_flags_reaches first.known read
      rw [List.foldlM_cons, take_spelled read.ongoing first, ← List.append_assoc]
      exact reached.bind fun _ => ih

theorem take_action {action : Action} {name : String} (names : name ∈ action.names)
    (read : HasRead none flags reading) : Reached (some action) flags (reading.take name) := by
  obtain ⟨noCandidate, noAction⟩ := read.unnamed rfl
  have found := Action.parse?_names action name names
  have taken : reading.take name = .ok { reading with candidate := some name } := by
    have plain : reading.take name = reading.takeName name := by
      unfold Reading.take
      rw [if_neg (by simp [read.ongoing])]
      cases action with
      | installToolchain =>
          have either : name = "install-toolchain" ∨ name = "install-rust" := by
            simpa [Action.names] using names
          rcases either with rfl | rfl <;> rfl
      | installLibrary =>
          have either : name = "install-library" ∨ name = "install-hdf5" := by
            simpa [Action.names] using names
          rcases either with rfl | rfl <;> rfl
      | runTests =>
          rw [List.mem_singleton.1 names]
          rfl
    rw [plain, Reading.takeName, noCandidate, noAction]
    rfl
  rw [taken]
  refine .here ⟨read.verbosity, read.quiet, read.dryRun, read.once, read.ongoing, nofun, ?_⟩
  unfold Reading.settle
  dsimp only
  rw [found]

/-! ## All arguments -/

theorem asks_reaches {action : Action} {arguments : List String} (asks : Asks action flags arguments) :
    Reached (some action) flags (arguments.foldlM Reading.take {}) := by
  obtain ⟨names, front, back⟩ := asks
  rw [List.foldlM_append]
  have earlier := take_spelling front has_read_nothing
  rw [List.nil_append] at earlier
  refine earlier.bind fun reading read => ?_
  rw [List.foldlM_cons]
  exact (take_action names read).bind fun _ => take_spelling back

def Invocation.ofFlags (action : Action) (flags : List Flag) : Invocation where
  action
  verbosity := min (flags.count .verbose) greatestVerbosity
  quiet := decide (.quiet ∈ flags)
  dryRun := decide (.dryRun ∈ flags)

theorem Invocation.of_flags_perm {action : Action} {others : List Flag} (perm : flags.Perm others) :
    ofFlags action flags = ofFlags action others := by
  simp only [ofFlags, perm.count_eq, perm.mem_iff]

theorem finish_of_read {action : Action} (read : HasRead (some action) flags reading) :
    reading.finish = .ok (.ofFlags action flags) := by
  unfold Reading.finish
  rw [read.settles]
  simp only [bind, Except.bind, Invocation.ofFlags, read.verbosity, read.quiet, read.dryRun]

theorem parse_or_clash {action : Action} {arguments : List String} (asks : Asks action flags arguments) :
    (∀ flag : Flag, flag.IsSingle → flags.count flag ≤ 1) ∧
        parse arguments = .ok (.ofFlags action flags) ∨
      ∃ flag : Flag, flag.IsSingle ∧ 1 < flags.count flag ∧
        parse arguments = .error (.repeatedFlag flag) := by
  have reached := asks_reaches asks
  unfold parse
  cases result : arguments.foldlM Reading.take {} with
  | ok reading =>
      rw [result] at reached
      obtain ⟨read⟩ := reached
      exact .inl ⟨read.once, finish_of_read read⟩
  | error fault =>
      rw [result] at reached
      cases reached with
      | clash single again => exact .inr ⟨_, single, again, rfl⟩

/-- Flags may stand anywhere and in any grouping: how often each occurs is all that counts. More than one
of a flag that may come once is refused, in whatever order the flags stand. -/
theorem parse_of_flags {action : Action} {flags : List Flag} {arguments : List String}
    (asks : Asks action flags arguments) :
    (flags.count .quiet ≤ 1 → flags.count .dryRun ≤ 1 →
      parse arguments = .ok
        { action
          verbosity := min (flags.count .verbose) 255
          quiet := decide (.quiet ∈ flags)
          dryRun := decide (.dryRun ∈ flags) }) ∧
      (1 < flags.count .quiet ∨ 1 < flags.count .dryRun →
        ∃ flag, flag.IsSingle ∧ 1 < flags.count flag ∧
          parse arguments = .error (.repeatedFlag flag) ∧
          ∀ (machine : Machine) (world : World), (Program.run machine arguments world).1 = 2) ∧
      ∀ (others : List Flag) (otherArguments : List String), Asks action others otherArguments →
        flags.Perm others → ∀ invocation,
          parse arguments = .ok invocation ↔ parse otherArguments = .ok invocation := by
  have outcome := parse_or_clash asks
  refine ⟨?_, ?_, ?_⟩
  · intro quiet dryRun
    rcases outcome with ⟨_, parsed⟩ | ⟨flag, single, again, _⟩
    · exact parsed
    · rcases single with rfl | rfl <;> omega
  · intro again
    rcases outcome with ⟨once, _⟩ | ⟨flag, single, repeated, refused⟩
    · have quiet := once .quiet (.inl rfl)
      have dryRun := once .dryRun (.inr rfl)
      omega
    · refine ⟨flag, single, repeated, refused, fun machine world => ?_⟩
      unfold Program.run
      rw [refused]
      rfl
  · intro others otherArguments asksToo perm invocation
    have outcomeToo := parse_or_clash asksToo
    rcases outcome with ⟨once, parsed⟩ | ⟨flag, single, again, refused⟩
    · rcases outcomeToo with ⟨_, parsedToo⟩ | ⟨other, single, again, _⟩
      · rw [parsed, parsedToo, Invocation.of_flags_perm perm]
      · have same := perm.count_eq other
        have few := once other single
        omega
    · rcases outcomeToo with ⟨once, _⟩ | ⟨other, _, _, refusedToo⟩
      · have same := perm.count_eq flag
        have few := once flag single
        omega
      · rw [refused, refusedToo]
        constructor <;> nofun

theorem mixed_flags_are_counted :
    let sought : Invocation := { action := .runTests, verbosity := 3, quiet := true, dryRun := true }
    parse ["-vq", "run-tests", "--dry-run", "-vv"] = .ok sought ∧
      parse ["--dry-run", "-vvv", "--quiet", "run-tests"] = .ok sought ∧
      ∃ flag, parse ["-q", "run-tests", "-v", "--quiet"] = .error (.repeatedFlag flag) := by
  have mixed : Asks .runTests ([.verbose, .quiet] ++ ([.dryRun] ++ ([.verbose, .verbose] ++ [])))
      (["-vq"] ++ "run-tests" :: ["--dry-run", "-vv"]) := by
    refine .named (by decide) (.more (@Spelled.group ['v', 'q'] nofun (by simp)) .none) ?_
    exact .more .dryRun (.more (@Spelled.group ['v', 'v'] nofun (by simp)) .none)
  have sorted : Asks .runTests
      ([.dryRun] ++ ([.verbose, .verbose, .verbose] ++ ([.quiet] ++ [])) ++ [])
      (["--dry-run", "-vvv", "--quiet"] ++ "run-tests" :: []) := by
    refine .named (by decide) (.more .dryRun ?_) .none
    exact .more (@Spelled.group ['v', 'v', 'v'] nofun (by simp)) (.more .quiet .none)
  have repeated : Asks .runTests (([.quiet] ++ []) ++ ([.verbose] ++ ([.quiet] ++ [])))
      (["-q"] ++ "run-tests" :: ["-v", "--quiet"]) := by
    refine .named (by decide) (.more (@Spelled.group ['q'] nofun (by simp)) .none) ?_
    exact .more (@Spelled.group ['v'] nofun (by simp)) (.more .quiet .none)
  obtain ⟨counted, _, alike⟩ := parse_of_flags mixed
  obtain ⟨_, clash, _⟩ := parse_of_flags repeated
  have parsed := counted (by decide) (by decide)
  obtain ⟨flag, _, _, refused, _⟩ := clash (by decide)
  exact ⟨parsed, (alike _ _ sorted (by decide) _).1 parsed, flag, refused⟩

end Provision.Arguments
