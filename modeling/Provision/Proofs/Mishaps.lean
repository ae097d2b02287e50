import Provision.Proofs.EarlyFailure

/-!
# Mishaps

What goes wrong with a step can be told without the errors that report it: from the exchange of a download
and the files that it finds, and from the end of a process. A step that is performed answers with an error
exactly if it meets a mishap, and the error has the status of the mishap. So the error of a plan is that of
the first mishap among its steps.
-/

namespace Provision

inductive Mishap where
  | notSaved
  | notStarted
  | signalled
  | exited (code : Int)
  deriving DecidableEq, Repr

namespace Mishap

/-- The status that a program with this mishap is to end with. -/
def status : Mishap → Int
  | .exited code => code
  | .notSaved | .notStarted | .signalled => 1

/-- What is wrong with the end of a process, which has a code unless a signal ended it. -/
def ofEnd? : Option Int → Option Mishap
  | some code => if code = 0 then none else some (.exited code)
  | none => some .signalled

theorem of_end_cases {code : Option Int} {mishap : Mishap} (goesWrong : ofEnd? code = some mishap) :
    code = none ∧ mishap = .signalled ∨ ∃ other, code = some other ∧ other ≠ 0 ∧
      mishap = .exited other := by
  cases code with
  | none =>
      cases goesWrong
      exact .inl ⟨rfl, rfl⟩
  | some other =>
      by_cases zero : other = 0
      · simp [ofEnd?, zero] at goesWrong
      · simp only [ofEnd?, if_neg zero] at goesWrong
        exact .inr ⟨other, rfl, zero, (Option.some.inj goesWrong).symm⟩

end Mishap

/-! ## Downloads -/

namespace Download

open Host Host.FileTree

/-- The files with the body of an answer stored at a destination. The answer has to be one of success and
the body to arrive whole, the directories above the destination to be made, the file there to be opened,
and all of the body to fit into it. -/
def stored? (machine : Machine) (destination : String) (exchange : Http.Exchange) (files : FileTree) :
    Option FileTree :=
  let here := machine.surroundings.directory
  let path := Utf8.encode destination
  match exchange.result with
  | .error _ => none
  | .ok answer =>
      if Http.Status.isSuccess answer.head.status && answer.delivery.complete then
        match makeParents here path files with
        | (some _, _) => none
        | (none, made) =>
            match made.openForWriting here path with
            | .error _ => none
            | .ok (place, opened) =>
                match opened.append machine.fileLimit place (assembled answer.delivery.chunks) with
                | (some _, _) => none
                | (none, stored) => some stored
      else none

section Storing

variable {machine : Machine} {destination : String} {exchange : Http.Exchange}
  {answer : Http.Answer} {world : World} {made opened : FileTree} {place : Place}

/-- The whole body is written at once, and not chunk by chunk, and yet the same becomes of it. -/
theorem stored_of_opened (answered : exchange.result = .ok answer)
    (success : Http.Status.isSuccess answer.head.status = true) {files : FileTree}
    (opens : Opens machine destination files made opened place) {executable : Bool}
    (below : place ≠ []) (empty : opened = made.put place (.data .empty executable)) :
    (answer.delivery.complete = true ∧
        Fits machine.fileLimit (assembled answer.delivery.chunks).size ∧
        stored? machine destination exchange files =
          some (made.put place (.data (assembled answer.delivery.chunks) executable))) ∨
      ¬ (answer.delivery.complete = true ∧
          Fits machine.fileLimit (assembled answer.delivery.chunks).size) ∧
        stored? machine destination exchange files = none := by
  have standing : opened.entry? place = some (.data .empty executable) := by
    rw [empty, entry_put made below, if_pos rfl]
  have size : ByteArray.empty.size + (assembled answer.delivery.chunks).size =
      (assembled answer.delivery.chunks).size := Nat.zero_add _
  unfold stored?
  simp only [answered, success, Bool.true_and, opens.parents, opens.opens]
  cases complete : answer.delivery.complete with
  | false => exact .inr ⟨by simp, by simp⟩
  | true =>
      by_cases fits : Fits machine.fileLimit (assembled answer.delivery.chunks).size
      · have written := append_of_fits standing (size.symm ▸ fits)
        rw [ByteArray.empty_append, empty, put_put, ← empty] at written
        simp only [written, if_true]
        exact .inl ⟨trivial, fits, trivial⟩
      · have held : Fits machine.fileLimit ByteArray.empty.size := fun most _ => Nat.zero_le most
        obtain ⟨_, written⟩ := append_of_too_large standing held (size.symm ▸ fits)
        simp only [written, if_true]
        exact .inr ⟨fun whole => fits whole.2, trivial⟩

theorem result_of_unsaved {url : String} {error : DownloadError}
    (answered : exchange.result = .ok answer)
    (success : Http.Status.isSuccess answer.head.status = true)
    (unsaved : (save machine url destination answer.delivery world.files).1.1 = .error error) :
    (receive machine url destination exchange world).1.result = .error error := by
  have told := World.only_told_reveal_all machine (exchange.connections.flatMap connectionRemarks)
    { world with requests := world.requests ++ exchange.requests }
  unfold receive
  simp only [answered, success, if_true, told.files]
  generalize save machine url destination answer.delivery world.files = saved at unsaved ⊢
  obtain ⟨⟨result, progress⟩, files⟩ := saved
  cases unsaved
  rfl

theorem receive_stores_answer (url : String) (answered : exchange.result = .ok answer)
    (success : Http.Status.isSuccess answer.head.status = true) :
    (∃ saved, (receive machine url destination exchange world).1.result = .ok saved ∧
        stored? machine destination exchange world.files =
          some (receive machine url destination exchange world).2.files) ∨
      ∃ error, (receive machine url destination exchange world).1.result = .error error ∧
        stored? machine destination exchange world.files = none := by
  rcases parents : makeParents machine.surroundings.directory (Utf8.encode destination)
    world.files with ⟨_ | error, made⟩
  · cases opens : made.openForWriting machine.surroundings.directory (Utf8.encode destination) with
    | error refusal =>
        refine .inr ⟨.file destination refusal.text, result_of_unsaved answered success ?_, ?_⟩
        · simp only [save, parents, opens]
        · simp only [stored?, answered, parents, opens]
          split <;> rfl
    | ok opened =>
        obtain ⟨place, opened⟩ := opened
        have both : Opens machine destination world.files made opened place := ⟨parents, opens⟩
        obtain ⟨_, below, _, _, executable, empty⟩ := open_for_writing_eq opens
        rcases stored_of_opened answered success both below empty with
          ⟨complete, fits, stored⟩ | ⟨broken, stored⟩
        · obtain ⟨report, files⟩ := receive_saves url answered success complete both empty fits
          exact .inl ⟨_, congrArg Report.result report, stored.trans (congrArg some files.symm)⟩
        · rcases receive_saves_or_removes url answered success both empty with
            ⟨complete, fits, _⟩ | ⟨error, failed, _⟩
          · exact absurd ⟨complete, fits⟩ broken
          · exact .inr ⟨error, failed, stored⟩
  · refine .inr ⟨error, result_of_unsaved answered success ?_, ?_⟩
    · simp only [save, parents]
    · simp only [stored?, answered, parents]
      split <;> rfl

/-- A download answers with a file exactly if the body can be stored, and then leaves the files so. -/
theorem receive_stores (machine : Machine) (url destination : String) (exchange : Http.Exchange)
    (world : World) :
    (∃ saved, (receive machine url destination exchange world).1.result = .ok saved ∧
        stored? machine destination exchange world.files =
          some (receive machine url destination exchange world).2.files) ∨
      ∃ error, (receive machine url destination exchange world).1.result = .error error ∧
        stored? machine destination exchange world.files = none := by
  cases answered : exchange.result with
  | error failure =>
      refine .inr ⟨_, (receive_of_unopened (.unanswered answered)).1, ?_⟩
      simp only [stored?, answered]
  | ok answer =>
      cases success : Http.Status.isSuccess answer.head.status with
      | false =>
          refine .inr ⟨_, (receive_of_unopened (.declined answered success)).1, ?_⟩
          simp only [stored?, answered, success, Bool.false_and, Bool.false_eq_true, if_false]
      | true => exact receive_stores_answer url answered success

end Storing

end Download

/-! ## Steps -/

namespace Session

open Host

variable {machine : Machine} {filter : Option Log.Filter} {console : Console}

/-- The files that a step leaves among those that it finds, or what goes wrong with it. -/
def attempt (machine : Machine) (step : Step) (files : FileTree) : Except Mishap FileTree :=
  match step with
  | .download url destination =>
      match Download.stored? machine destination (Http.Client.fetch machine.network url) files with
      | some after => .ok after
      | none => .error .notSaved
  | .run command =>
      match (launchOf machine command files).run files machine.surroundings.directory with
      | .error _ => .error .notStarted
      | .ok (trace, after) =>
          match Mishap.ofEnd? trace.code with
          | some mishap => .error mishap
          | none => .ok after

/-- The first mishap when steps are attempted one after the other. -/
def firstMishap? (machine : Machine) : List Step → FileTree → Option Mishap
  | [], _ => none
  | step :: rest, files =>
      match attempt machine step files with
      | .error mishap => some mishap
      | .ok after => firstMishap? machine rest after

theorem code_in_range {launch : Launch} {files after : FileTree} {here : Place} {trace : Trace}
    {code : Int} (ran : launch.run files here = .ok (trace, after)) (ends : trace.code = some code) :
    0 ≤ code ∧ code < 256 := by
  unfold Launch.run at ran
  split at ran
  · cases ran
  · split at ran
    · cases ran
    · cases ran
      obtain ⟨whole, _, byte⟩ := Option.map_eq_some_iff.1 ends
      omega

/-- The status of a mishap is that of a failure, and the system can tell it as it is. -/
theorem status_of_attempt {step : Step} {files : FileTree} {mishap : Mishap}
    (goesWrong : attempt machine step files = .error mishap) :
    mishap.status ≠ 0 ∧ 0 ≤ mishap.status ∧ mishap.status < 256 := by
  cases step with
  | download url destination =>
      simp only [attempt] at goesWrong
      split at goesWrong
      · cases goesWrong
      · cases goesWrong
        decide
  | run command =>
      simp only [attempt] at goesWrong
      split at goesWrong
      · cases goesWrong
        decide
      · next trace after ran =>
          split at goesWrong
          · next other ended =>
              cases goesWrong
              rcases Mishap.of_end_cases ended with ⟨_, rfl⟩ | ⟨code, ends, failed, rfl⟩
              · decide
              · exact ⟨failed, code_in_range ran ends⟩
          · cases goesWrong

theorem exit_code_of_failure (command : Command) {code : Option Int} {mishap : Mishap}
    (goesWrong : Mishap.ofEnd? code = some mishap) :
    (command.failure code).exitCode = mishap.status := by
  have told : (command.failure code).exitCode = match code with
      | some code => if code = 0 then 1 else code
      | none => 1 := by
    unfold Command.failure
    cases command.kind <;> cases code <;> rfl
  rcases Mishap.of_end_cases goesWrong with ⟨rfl, rfl⟩ | ⟨other, rfl, failed, rfl⟩
  · exact told
  · rw [told]
    exact if_neg failed

theorem conclude_command_eq (command : Command) (code : Option Int) :
    concludeCommand command code =
      if Mishap.ofEnd? code = none then .ok 0 else .error (command.failure code) := by
  unfold concludeCommand
  split
  · rfl
  · next failed =>
      cases code with
      | none => rfl
      | some other =>
          have nonzero : other ≠ 0 := by
            intro zero
            exact failed (congrArg some zero)
          simp [Mishap.ofEnd?, nonzero]

/-- An outcome answers a step with which nothing goes wrong, and an error that has the status of the
mishap answers any other. -/
theorem StepCourse.agrees {before after : World} {step : Step}
    {answer : Except ProvisionError Outcome} (course : StepCourse machine before step answer after) :
    (∃ outcome, answer = .ok outcome ∧ attempt machine step before.files = .ok after.files) ∨
      ∃ error mishap, answer = .error error ∧
        attempt machine step before.files = .error mishap ∧ error.exitCode = mishap.status := by
  cases course with
  | @saved url destination file after report files _ =>
      rcases Download.receive_stores machine url destination
          (Http.Client.fetch machine.network url) { files := before.files } with
        ⟨_, _, stored⟩ | ⟨error, failed, _⟩
      · refine .inl ⟨_, rfl, ?_⟩
        simp only [attempt, stored, files]
        rfl
      · cases failed.symm.trans report
  | @notSaved url destination error after report _ =>
      rcases Download.receive_stores machine url destination
          (Http.Client.fetch machine.network url) { files := before.files } with
        ⟨saved, done, _⟩ | ⟨_, _, unstored⟩
      · cases done.symm.trans report
      · refine .inr ⟨_, .notSaved, rfl, ?_, rfl⟩
        simp only [attempt, unstored]
  | notStarted refused _ =>
      refine .inr ⟨_, .notStarted, rfl, ?_, rfl⟩
      simp only [attempt, refused]
  | @ended command trace after started _ =>
      cases ends : Mishap.ofEnd? trace.code with
      | none =>
          refine .inl ⟨.exited 0, ?_, ?_⟩
          · rw [conclude_command_eq, if_pos ends]
            rfl
          · simp only [attempt, started, ends]
      | some mishap =>
          have failed : Mishap.ofEnd? trace.code ≠ none := by simp [ends]
          refine .inr ⟨command.failure trace.code, mishap, ?_, ?_, exit_code_of_failure command ends⟩
          · rw [conclude_command_eq, if_neg failed]
            rfl
          · simp only [attempt, started, ends]

/-! ## Plans -/

section Plans

variable {step : Step} {rest steps : List Step} {files after : FileTree} {asked reached : World}
  {answer : Except ProvisionError Outcome}

theorem first_mishap_of_failed {mishap : Mishap}
    (goesWrong : attempt machine step files = .error mishap) :
    firstMishap? machine (step :: rest) files = some mishap := by
  simp only [firstMishap?, goesWrong]

theorem first_mishap_of_succeeded (succeeds : attempt machine step files = .ok after) :
    firstMishap? machine (step :: rest) files = firstMishap? machine rest after := by
  simp only [firstMishap?, succeeds]

theorem step_course_of_answered
    (answered : (performer { machine with filter } console).perform step asked =
      (answer, reached)) : StepCourse machine asked step answer reached := by
  have goes := perform_course machine filter console step asked
  have same : perform { machine with filter } console step asked = (answer, reached) := answered
  rw [same] at goes
  exact goes

/-- The remark on a step leaves the files alone, so the step can be told from those before the remark. -/
theorem agrees_of_begun {event : Log.Event} {state : World}
    (begun : asked = (performer { machine with filter } console).remark event state)
    (answered : (performer { machine with filter } console).perform step asked =
      (answer, reached)) :
    (∃ outcome, answer = .ok outcome ∧ attempt machine step state.files = .ok reached.files) ∨
      ∃ error mishap, answer = .error error ∧
        attempt machine step state.files = .error mishap ∧ error.exitCode = mishap.status := by
  have kept : asked.files = state.files := by
    rw [begun]
    exact (World.only_told_remark _ _ state).files
  rw [← kept]
  exact (step_course_of_answered answered).agrees

/-- Steps succeed if there is no mishap among them, and otherwise fail with the status of the first one.
The files carry this from step to step. -/
theorem mishap_of_course {total number : Nat} {world final : World}
    {record : List (Presentation World)} {result : Except ProvisionError (List Outcome)}
    (course : Plan.Course (performer { machine with filter } console) total number steps world record
      result final) :
    (firstMishap? machine steps world.files = none ∧ ∃ outcomes, result = .ok outcomes) ∨
      ∃ error mishap, firstMishap? machine steps world.files = some mishap ∧
        result = .error error ∧ error.exitCode = mishap.status := by
  induction course with
  | finished => exact .inl ⟨rfl, [], rfl⟩
  | @failed number step rest state asked reached error begun answered =>
      rcases agrees_of_begun begun answered with
        ⟨outcome, impossible, _⟩ | ⟨reported, mishap, same, goesWrong, status⟩
      · cases impossible
      · cases same
        exact .inr ⟨error, mishap, first_mishap_of_failed goesWrong, rfl, status⟩
  | @advanced number step rest state asked reached final outcome record result begun answered later
      ih =>
      rcases agrees_of_begun begun answered with
        ⟨_, _, succeeds⟩ | ⟨reported, mishap, impossible, _⟩
      · rw [first_mishap_of_succeeded succeeds]
        rcases ih with ⟨none, outcomes, rfl⟩ | ⟨error, mishap, first, rfl, status⟩
        · exact .inl ⟨none, outcome :: outcomes, rfl⟩
        · exact .inr ⟨error, mishap, first, rfl, status⟩
      · cases impossible

theorem first_mishap_told {mishap : Mishap}
    (first : firstMishap? machine steps files = some mishap) :
    mishap.status ≠ 0 ∧ 0 ≤ mishap.status ∧ mishap.status < 256 := by
  induction steps generalizing files with
  | nil => cases first
  | cons step rest ih =>
      cases attempted : attempt machine step files with
      | error other =>
          rw [first_mishap_of_failed attempted] at first
          cases first
          exact status_of_attempt attempted
      | ok after =>
          rw [first_mishap_of_succeeded attempted] at first
          exact ih first

end Plans

end Session

end Provision
