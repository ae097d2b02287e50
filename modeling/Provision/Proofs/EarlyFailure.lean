import Provision.Proofs.Saving

/-!
# Failing before the file is open

A download that fails before a directory or a file has been made for it has written nothing, and yet it
removes the file at its destination, which is then an older one. So the files are as before exactly if
no file stood there, and any others are as before in every case.
-/

namespace Provision.Download

open Host Host.FileTree

variable {machine : Machine} {url destination : String} {exchange : Http.Exchange} {world : World}
  {error : DownloadError}

/-- Why a download has failed with no directory and no file made for it: there was no answer, or one
without success, or the directories above the destination were refused at once, or the file itself. -/
inductive Unopened (machine : Machine) (url destination : String) (exchange : Http.Exchange)
    (files : FileTree) : DownloadError → Prop where
  | unanswered {failure : Http.FetchError} (failed : exchange.result = .error failure) :
      Unopened machine url destination exchange files (.network url failure.text)
  | declined {answer : Http.Answer} (answered : exchange.result = .ok answer)
      (status : Http.Status.isSuccess answer.head.status = false) :
      Unopened machine url destination exchange files
        (.network url s!"HTTP {Http.Status.text answer.head.status}")
  | noParents {answer : Http.Answer} {error : DownloadError}
      (answered : exchange.result = .ok answer)
      (success : Http.Status.isSuccess answer.head.status = true)
      (refused : makeParents machine.surroundings.directory (Utf8.encode destination) files =
        (some error, files)) :
      Unopened machine url destination exchange files error
  | noFile {answer : Http.Answer} {refusal : Refusal} (answered : exchange.result = .ok answer)
      (success : Http.Status.isSuccess answer.head.status = true)
      (parents : makeParents machine.surroundings.directory (Utf8.encode destination) files =
        (none, files))
      (refused : files.openForWriting machine.surroundings.directory (Utf8.encode destination) =
        .error refusal) :
      Unopened machine url destination exchange files (.file destination refusal.text)

/-- All that is done to the files is that the destination is removed. -/
theorem receive_of_unopened
    (unopened : Unopened machine url destination exchange world.files error) :
    (receive machine url destination exchange world).1.result = .error error ∧
      (receive machine url destination exchange world).2.files =
        world.files.unlink machine.surroundings.directory (Utf8.encode destination) := by
  have told := World.only_told_reveal_all machine (exchange.connections.flatMap connectionRemarks)
    { world with requests := world.requests ++ exchange.requests }
  unfold receive
  generalize World.revealAll machine _ _ = asked at told ⊢
  have files : asked.files = world.files := told.files
  rw [← files] at unopened ⊢
  cases unopened with
  | unanswered failed =>
      simp only [failed]
      exact ⟨rfl, rfl⟩
  | declined answered status =>
      simp only [answered, status, Bool.false_eq_true, if_false]
      exact ⟨rfl, rfl⟩
  | noParents answered success refused =>
      simp only [answered, success, if_true, save, refused]
      exact ⟨rfl, rfl⟩
  | noFile answered success parents refused =>
      simp only [answered, success, if_true, save, parents, refused]
      exact ⟨rfl, rfl⟩

/-- A download that fails before anything was made for it takes away the file to which the destination
leads, and nothing else. So it leaves the files alone exactly if the destination leads to none. -/
theorem unopened_keeps_files_iff (unopened : Unopened machine url destination exchange world.files error) :
    let here := machine.surroundings.directory
    let path := Utf8.encode destination
    let report := (receive machine url destination exchange world).1
    let after := (receive machine url destination exchange world).2.files
    report.result = .error error ∧
      (∀ place, LeadsToFile world.files here path place → after.entry? place = none) ∧
      (∀ other, ¬ LeadsToFile world.files here path other →
        after.entry? other = world.files.entry? other) ∧
      (after = world.files ↔ ∀ place, ¬ LeadsToFile world.files here path place) := by
  obtain ⟨failed, removed⟩ := receive_of_unopened unopened
  dsimp only
  rw [failed, removed]
  refine ⟨rfl, ?_⟩
  by_cases leads : ∃ place, LeadsToFile world.files machine.surroundings.directory
      (Utf8.encode destination) place
  · obtain ⟨place, file⟩ := leads
    have entries := entry_remove world.files file.below
    have gone : entry? (world.files.remove place) place = none := by
      rw [entries, if_pos rfl]
    -- A path leads to one place only, so every other place is none of those that it leads to.
    have unique : ∀ other, LeadsToFile world.files machine.surroundings.directory
        (Utf8.encode destination) other → other = place := by
      intro other otherFile
      have same := file.located.symm.trans otherFile.located
      cases same
      rfl
    rw [unlink_of_file file]
    refine ⟨?_, ?_, ?_, ?_⟩
    · intro other otherFile
      rw [unique other otherFile]
      exact gone
    · intro other noFile
      have differs : other ≠ place := by
        rintro rfl
        exact noFile file
      rw [entries, if_neg differs]
    · intro kept
      obtain ⟨entry, is, _⟩ := file.standing
      rw [kept, is] at gone
      cases gone
    · intro none
      exact absurd file (none place)
  · rw [not_exists] at leads
    rw [unlink_of_no_file leads]
    exact ⟨fun place file => absurd file (leads place), fun _ _ => rfl, fun _ => leads, fun _ => rfl⟩

def shelf : FileTree :=
  ((⟨.empty⟩ : FileTree).put [[97]] (.data "old".toByteArray false)).put [[98]]
    (.data "kept".toByteArray false)

/-- The answer of a server that does not have what it is asked for. -/
def absence : Http.Answer where
  head := { knowsChunks := true, status := 404, headers := [] }
  delivery := { chunks := [], complete := true }

theorem declined_download_removes_older_file :
    let exchange : Http.Exchange := { result := .ok absence }
    let lost := receive narrowMachine "http://h/a" "a" exchange { files := shelf }
    let spared := receive narrowMachine "http://h/c" "c" exchange { files := shelf }
    lost.1.result = .error (.network "http://h/a" "HTTP 404 Not Found") ∧
      lost.2.files.entry? [[97]] = none ∧
      lost.2.files.entry? [[98]] = some (.data "kept".toByteArray false) ∧
      spared.1.result = .error (.network "http://h/c" "HTTP 404 Not Found") ∧
      spared.2.files = shelf := by
  have declined (url destination : String) : Unopened narrowMachine url destination
      { result := .ok absence } shelf (.network url "HTTP 404 Not Found") :=
    @Unopened.declined narrowMachine url destination _ shelf absence rfl rfl
  have older : LeadsToFile shelf [] (Utf8.encode "a") [[97]] := ⟨rfl, _, rfl, nofun⟩
  obtain ⟨failed, gone, others, _⟩ := @unopened_keeps_files_iff narrowMachine "http://h/a" "a" _
    { files := shelf } _ (declined "http://h/a" "a")
  obtain ⟨alsoFailed, _, _, kept⟩ := @unopened_keeps_files_iff narrowMachine "http://h/c" "c" _
    { files := shelf } _ (declined "http://h/c" "c")
  refine ⟨failed, gone _ older, (others _ ?_).trans rfl, alsoFailed, kept.2 ?_⟩
  · rintro ⟨located, _⟩
    cases older.located.symm.trans located
  · rintro place ⟨located, entry, is, _⟩
    have leads : shelf.locate [] (Utf8.encode "c") = .ok ⟨[[99]], false⟩ := rfl
    cases leads.symm.trans located
    cases is

def unconnected : Machine where
  surroundings := { bindings := .empty, directory := [] }

theorem refused_connection_loses_older_file :
    let world : World := { files := shelf }
    let exchange := Http.Client.fetch unconnected.network "http://127.0.0.1:1/a"
    let ended := run unconnected "http://127.0.0.1:1/a" "a" world
    exchange.result = .error (.notSent "http://127.0.0.1:1/a") ∧
      ended.1.result = .error (.network "http://127.0.0.1:1/a"
        "error sending request for url (http://127.0.0.1:1/a)") ∧
      world.files.status [] (Utf8.encode "a") = .ok (.data "old".toByteArray false) ∧
      ended.2.files.status [] (Utf8.encode "a") = .error .notFound ∧
      ended.2.files ≠ world.files := by
  have older : shelf.status [] (Utf8.encode "a") = .ok (.data "old".toByteArray false) := rfl
  have gone : (run unconnected "http://127.0.0.1:1/a" "a" { files := shelf }).2.files.status []
      (Utf8.encode "a") = .error .notFound := rfl
  refine ⟨rfl, rfl, older, gone, ?_⟩
  intro kept
  rw [kept, older] at gone
  cases gone

end Provision.Download
