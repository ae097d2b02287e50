import Provision.Proofs.Refusal

/-!
# Failures in contexts

However many contexts are put around an error, the report names every one of them, the last one first, and
then the error, and it ends with the failed download if the error was made from one. The error itself is
kept, so the status of the run is that of the error.
-/

namespace Provision

namespace Failure

variable {failure : Failure} {error : ProvisionError} {messages : List String}

/-- How a report shows a link of the chain: the first is the failure, the others are its causes. -/
def reportLine (index : Nat) (link : String) : String :=
  (if index = 0 then "✗ " else "    caused by: ") ++ link ++ "\n"

theorem report_eq_join_lines (failure : Failure) :
    failure.report = String.join (failure.chain.mapIdx reportLine) := by
  obtain ⟨causes, chain⟩ : ∃ causes, failure.chain = failure.message :: causes := by
    cases failure with
    | mk contexts cause => cases contexts <;> exact ⟨_, rfl⟩
  have later : causes.mapIdx (fun index => reportLine (index + 1)) =
      causes.map fun cause => s!"    caused by: {cause}\n" := by
    apply List.ext_getElem
    · rw [List.length_mapIdx, List.length_map]
    · intro index inside _
      rw [List.getElem_mapIdx, List.getElem_map]
      rfl
  unfold report
  rw [chain, List.mapIdx_cons, later, String.join_cons]
  rfl

theorem chain_of_contexts (failure : Failure) (messages : List String) :
    (messages.foldl wrap failure).chain = messages.reverse ++ failure.chain := by
  induction messages generalizing failure with
  | nil => rfl
  | cons message rest ih =>
      rw [List.foldl_cons, ih, chain_wrap, List.reverse_cons, List.append_assoc]
      rfl

theorem inner_messages_eq (error : ProvisionError) :
    (∃ failed, error = .downloadFailure failed ∧ error.innerMessages = [failed.message]) ∨
      (∀ failed, error ≠ .downloadFailure failed) ∧ error.innerMessages = [] := by
  cases error with
  | downloadFailure failed => exact .inl ⟨failed, rfl, rfl⟩
  | _ => exact .inr ⟨nofun, rfl⟩

/-- Contexts around an error take nothing away from it: all of them are reported, the last one first, and
behind them the error and the failed download it may come from; the error and its status are kept. A run
whose action fails like this reports it like this, and ends with the status of the error. -/
theorem wrapping_loses_nothing (error : ProvisionError) (messages : List String) :
    let wrapped := messages.foldl wrap { cause := error }
    ∃ inner,
      ((∃ failed, error = .downloadFailure failed ∧ inner = [failed.message]) ∨
        (∀ failed, error ≠ .downloadFailure failed) ∧ inner = []) ∧
      wrapped.chain = messages.reverse ++ error.message :: inner ∧
      wrapped.report = String.join (wrapped.chain.mapIdx reportLine) ∧
      wrapped.cause = error ∧ wrapped.exitCode = error.exitCode ∧
      ∀ (machine : Machine) (arguments : List String) (invocation : Arguments.Invocation)
        (world : World), Arguments.parse arguments = .ok invocation →
        let acted := Program.acted machine invocation world
        let ran := Program.run machine arguments world
        acted.1 = .error wrapped →
          ran.1 = error.exitCode ∧ ran.2.errorOutput = acted.2.errorOutput ++
            (String.join ((messages.reverse ++ error.message :: inner).mapIdx reportLine)).toByteArray := by
  intro wrapped
  have cause : wrapped.cause = error := cause_of_contexts _ messages
  have chain : wrapped.chain = messages.reverse ++ error.message :: error.innerMessages :=
    chain_of_contexts _ messages
  have status : wrapped.exitCode = error.exitCode := congrArg ProvisionError.exitCode cause
  refine ⟨error.innerMessages, inner_messages_eq error, chain, report_eq_join_lines wrapped, cause,
    status, ?_⟩
  intro machine arguments invocation world parsed acted ran failed
  have ends : ran = (wrapped.exitCode, acted.2.printError wrapped.report) := by
    have answered : Program.acted machine invocation world = (.error wrapped, acted.2) :=
      Prod.ext failed rfl
    simp only [ran, Program.run_eq_of_parsed machine world parsed, answered]
  rw [ends, status]
  refine ⟨rfl, ?_⟩
  rw [← chain, ← report_eq_join_lines]
  rfl

example :
    let wrapped := ["saving", "installing"].foldl wrap
      { cause := .downloadFailure (.network "u" "HTTP 500") }
    wrapped.report = String.join ["✗ installing\n", "    caused by: saving\n",
      "    caused by: Download failed: Network error downloading 'u': HTTP 500\n",
      "    caused by: Network error downloading 'u': HTTP 500\n"] := by
  rfl

theorem failing_build_is_reported :
    let acted := Program.acted bareMachine { action := .runTests } (buildingWorld 101)
    let ran := Program.run bareMachine ["run-tests"] (buildingWorld 101)
    ran.1 = 101 ∧ ran.2.errorOutput = acted.2.errorOutput ++
      (String.join ["✗ Test run failed\n",
        "    caused by: Command failed: `cargo build -vv` exited with exit code 101\n"]).toByteArray := by
  intro acted ran
  have failed : acted.1 = .error (["Test run failed"].foldl wrap
      { cause := .commandFailure "cargo build -vv" (some 101) }) := by
    with_unfolding_all rfl
  obtain ⟨inner, either, _, _, _, _, reports⟩ := wrapping_loses_nothing
    (.commandFailure "cargo build -vv" (some 101)) ["Test run failed"]
  have parsed : Arguments.parse ["run-tests"] = .ok { action := .runTests } := rfl
  obtain ⟨status, told⟩ := reports bareMachine _ _ (buildingWorld 101) parsed failed
  rcases either with ⟨download, is, _⟩ | ⟨_, rfl⟩
  · cases is
  · exact ⟨status, told⟩

end Failure

end Provision
