import Provision.Proofs.Effects
import Provision.Proofs.Files
import Provision.Proofs.Pieces

/-!
# Saving a body

While a body is saved, the file at the destination holds what the chunks so far make up, and the digest is
the one of these bytes, unless a write was refused because the file had grown too large. `Stage` says
this after each chunk. So a body that arrives whole and fits is saved whole, however it was cut, and in
every other case the file is removed.
-/

namespace Provision.Download

open Host Host.FileTree

/-- What is reported of chunks that are all written: after each, how much there is of the whole. -/
def progressOf (total : Nat) (chunks : List ByteArray) : List (Nat × Nat) :=
  (List.range chunks.length).map fun index => ((assembled (chunks.take (index + 1))).size, total)

theorem progress_of_snoc (total : Nat) (chunks : List ByteArray) (chunk : ByteArray) :
    progressOf total (chunks ++ [chunk]) =
      progressOf total chunks ++ [((assembled (chunks ++ [chunk])).size, total)] := by
  have earlier : ∀ index ∈ List.range chunks.length,
      ((assembled ((chunks ++ [chunk]).take (index + 1))).size, total) =
        ((assembled (chunks.take (index + 1))).size, total) := by
    intro index inside
    rw [List.take_append_of_le_length (List.mem_range.1 inside)]
  have whole : (chunks ++ [chunk]).take (chunks.length + 1) = chunks ++ [chunk] :=
    List.take_of_length_le (by simp)
  unfold progressOf
  rw [List.length_append, List.length_singleton, List.range_succ, List.map_append,
    List.map_congr_left earlier, List.map_singleton, whole]

/-- More of a body comes when it has already become too large, so the refused write is met before the
end. -/
def Overrun (limit : Option Nat) (chunks : List ByteArray) : Prop :=
  ∃ earlier, earlier <+: chunks ∧ ¬ Fits limit (assembled earlier).size ∧
    (assembled earlier).size < (assembled chunks).size

theorem overrun_snoc_iff {limit : Option Nat} {chunks : List ByteArray} {chunk : ByteArray} :
    Overrun limit (chunks ++ [chunk]) ↔
      Overrun limit chunks ∨ ¬ Fits limit (assembled chunks).size ∧ chunk.isEmpty = false := by
  have size : (assembled (chunks ++ [chunk])).size = (assembled chunks).size + chunk.size := by
    rw [assembled_snoc, ByteArray.size_append]
  constructor
  · rintro ⟨earlier, before, large, more⟩
    rcases List.prefix_concat_iff.1 before with whole | before
    · rw [whole] at more
      exact absurd more (Nat.lt_irrefl _)
    · rcases Nat.lt_or_eq_of_le (size_assembled_le before) with less | same
      · exact .inl ⟨earlier, before, large, less⟩
      · have something : chunk.size ≠ 0 := by omega
        exact .inr ⟨same ▸ large, by simpa [ByteArray.isEmpty] using something⟩
  · rintro (⟨earlier, before, large, more⟩ | ⟨large, full⟩)
    · exact ⟨earlier, before.trans (List.prefix_append _ _), large, by omega⟩
    · have something : chunk.size ≠ 0 := by simpa [ByteArray.isEmpty] using full
      exact ⟨chunks, List.prefix_append _ _, large, by omega⟩

theorem not_overrun_of_fits {limit : Option Nat} {chunks : List ByteArray}
    (fits : Fits limit (assembled chunks).size) : ¬ Overrun limit chunks := by
  rintro ⟨earlier, _, large, more⟩
  exact large (fits.mono (Nat.le_of_lt more))

/-- Why a body could not be saved: it is too large, and the refused write is met, or else it was cut
off. -/
inductive Unsaved (url destination : String) (limit : Option Nat) (complete : Bool)
    (chunks : List ByteArray) : DownloadError → Prop where
  | tooLarge (large : ¬ Fits limit (assembled chunks).size)
      (met : complete = true ∨ Overrun limit chunks) :
      Unsaved url destination limit complete chunks (.file destination Refusal.fileTooLarge.text)
  | cutOff (cut : complete = false) (unmet : ¬ Overrun limit chunks) :
      Unsaved url destination limit complete chunks (.network url Http.brokenBody)

theorem Unsaved.not_whole {url destination : String} {limit : Option Nat} {complete : Bool}
    {chunks : List ByteArray} {error : DownloadError}
    (unsaved : Unsaved url destination limit complete chunks error) :
    ¬ (complete = true ∧ Fits limit (assembled chunks).size) := by
  rintro ⟨whole, fits⟩
  cases unsaved with
  | tooLarge large _ => exact large fits
  | cutOff cut _ =>
      rw [whole] at cut
      cases cut

/-! ## After each chunk -/

section Stages

variable {limit : Option Nat} {made : FileTree} {place : Place} {executable : Bool} {total : Nat}
  {chunks : List ByteArray} {saving : Saving}

/-- How far a body is saved after some of its chunks: all of them are in the file, or a write was refused
because they are too large together. The refusal waits until more is written. -/
inductive Stage (limit : Option Nat) (made : FileTree) (place : Place) (executable : Bool)
    (total : Nat) : List ByteArray → Saving → Prop where
  | whole {chunks : List ByteArray} (fits : Fits limit (assembled chunks).size) :
      Stage limit made place executable total chunks
        { files := made.put place (.data (assembled chunks) executable)
          hasher := ({} : Sha256.Hasher).update (assembled chunks)
          size := (assembled chunks).size
          progress := progressOf total chunks }
  | waiting {chunks : List ByteArray} {saving : Saving} (content : ByteArray)
      (large : ¬ Fits limit (assembled chunks).size) (unmet : ¬ Overrun limit chunks)
      (files : saving.files = made.put place (.data content executable))
      (unfailed : saving.failed = none) (pending : saving.pending = some .fileTooLarge) :
      Stage limit made place executable total chunks saving
  | refused {chunks : List ByteArray} {saving : Saving} (content : ByteArray)
      (overrun : Overrun limit chunks)
      (files : saving.files = made.put place (.data content executable))
      (failed : saving.failed = some .fileTooLarge) :
      Stage limit made place executable total chunks saving

theorem stage_begins :
    Stage limit made place executable total []
      { files := made.put place (.data .empty executable) } := by
  have fits : Fits limit (assembled []).size := fun most _ => Nat.zero_le most
  exact .whole fits

theorem Stage.next (below : place ≠ []) (stage : Stage limit made place executable total chunks saving)
    (chunk : ByteArray) :
    Stage limit made place executable total (chunks ++ [chunk])
      (saveChunk limit place total saving chunk) := by
  have together : (assembled (chunks ++ [chunk])).size = (assembled chunks).size + chunk.size := by
    rw [assembled_snoc, ByteArray.size_append]
  cases stage with
  | whole fits =>
      have standing : entry? (made.put place (.data (assembled chunks) executable)) place =
          some (.data (assembled chunks) executable) := by
        rw [entry_put made below, if_pos rfl]
      -- The write of a chunk that no longer fits is refused, but the refusal is not reported yet.
      by_cases more : Fits limit ((assembled chunks).size + chunk.size)
      · have written := append_of_fits standing more
        rw [put_put, ← assembled_snoc] at written
        simp only [saveChunk, written, Sha256.update_update, ← assembled_snoc, ← together,
          ← progress_of_snoc]
        exact .whole (together ▸ more)
      · obtain ⟨content, written⟩ := append_of_too_large standing fits more
        rw [put_put] at written
        have unmet : ¬ Overrun limit (chunks ++ [chunk]) := by
          rintro overrun
          rcases overrun_snoc_iff.1 overrun with overrun | ⟨large, _⟩
          · exact not_overrun_of_fits fits overrun
          · exact large fits
        simp only [saveChunk, written]
        exact .waiting _ (together ▸ more) unmet rfl rfl rfl
  | waiting content large unmet files unfailed pending =>
      -- Nothing is written of an empty chunk, so only another one meets the refusal.
      cases empty : chunk.isEmpty with
      | true =>
          have still : ¬ Overrun limit (chunks ++ [chunk]) := by
            rw [overrun_snoc_iff, empty]
            simpa using unmet
          have larger : ¬ Fits limit (assembled (chunks ++ [chunk])).size :=
            fun fits => large (fits.mono (by omega))
          simp only [saveChunk, unfailed, pending, empty, if_true]
          exact .waiting content larger still files rfl rfl
      | false =>
          simp only [saveChunk, unfailed, pending, empty]
          exact .refused content (overrun_snoc_iff.2 (.inr ⟨large, empty⟩)) files rfl
  | refused content overrun files failed =>
      simp only [saveChunk, failed]
      exact .refused content (overrun_snoc_iff.2 (.inl overrun)) files failed

theorem Stage.run (below : place ≠ []) (stage : Stage limit made place executable total chunks saving)
    (rest : List ByteArray) :
    Stage limit made place executable total (chunks ++ rest)
      (saveChunks limit place total saving rest) := by
  induction rest generalizing chunks saving with
  | nil => simpa [saveChunks] using stage
  | cons chunk rest ih =>
      have further := ih (stage.next below chunk)
      rw [List.append_assoc] at further
      exact further

/-- After all chunks, a body that has arrived whole and fits is saved, and any other is not. -/
theorem Stage.concluded (stage : Stage limit made place executable total chunks saving)
    (url destination : String) (complete : Bool) :
    (complete = true ∧ Fits limit (assembled chunks).size ∧
        conclude url destination complete saving =
          .ok { path := destination
                size := (assembled chunks).size
                digest := Sha256.digest (assembled chunks) } ∧
        saving.files = made.put place (.data (assembled chunks) executable) ∧
        saving.progress = progressOf total chunks) ∨
      ∃ error content, conclude url destination complete saving = .error error ∧
        Unsaved url destination limit complete chunks error ∧
        saving.files = made.put place (.data content executable) := by
  cases stage with
  | whole fits =>
      cases complete with
      | true => exact .inl ⟨rfl, fits, rfl, rfl, rfl⟩
      | false => exact .inr ⟨_, _, rfl, .cutOff rfl (not_overrun_of_fits fits), rfl⟩
  | waiting content large unmet files unfailed pending =>
      cases complete with
      | true =>
          exact .inr ⟨_, content, by simp only [conclude, unfailed, pending, if_true],
            .tooLarge large (.inl rfl), files⟩
      | false =>
          exact .inr ⟨_, content, by simp only [conclude, unfailed]; rfl, .cutOff rfl unmet, files⟩
  | refused content overrun files failed =>
      have large : ¬ Fits limit (assembled chunks).size := fun fits => not_overrun_of_fits fits overrun
      exact .inr ⟨_, content, by simp only [conclude, failed], .tooLarge large (.inr overrun), files⟩

end Stages

/-! ## The whole download -/

/-- The directories above a destination can be made, and then the file there can be opened. -/
structure Opens (machine : Machine) (destination : String) (files made opened : FileTree)
    (place : Place) : Prop where
  parents : makeParents machine.surroundings.directory (Utf8.encode destination) files = (none, made)
  opens : made.openForWriting machine.surroundings.directory (Utf8.encode destination) =
    .ok (place, opened)

/-- Directories above a destination are made where they are missing. -/
theorem grown_of_make_parents {here : Place} {path : Bytes} {files made : FileTree}
    (parents : makeParents here path files = (none, made)) :
    Grown here (Host.Path.IsAbove · path) files made := by
  unfold makeParents at parents
  split at parents
  · cases parents
    exact .refl _
  · next parent is =>
      split at parents
      · cases parents
        exact .refl _
      · have grown := grown_make_directories here (parent.length + 1) parent files
        split at parents
        · next created =>
            cases parents
            rw [created] at grown
            refine grown.mono ?_
            rintro above (rfl | further)
            · exact .parent is
            · exact .further is further
        · cases parents

section Receiving

variable {machine : Machine} {destination : String} {exchange : Http.Exchange}
  {answer : Http.Answer} {world : World} {made opened : FileTree} {place : Place}

theorem receive_opened (url : String) (answered : exchange.result = .ok answer)
    (success : Http.Status.isSuccess answer.head.status = true)
    (opens : Opens machine destination world.files made opened place) :
    let delivery := answer.delivery
    let saving := saveChunks machine.fileLimit place (delivery.announced.getD 0) { files := opened }
      delivery.chunks
    let result := conclude url destination delivery.complete saving
    let received := receive machine url destination exchange world
    received.1 = { result, progress := saving.progress } ∧
      received.2.files =
        match result with
        | .ok _ => saving.files
        | .error _ =>
            saving.files.unlink machine.surroundings.directory (Utf8.encode destination) := by
  have told := World.only_told_reveal_all machine (exchange.connections.flatMap connectionRemarks)
    { world with requests := world.requests ++ exchange.requests }
  dsimp only
  unfold receive
  simp only [answered, success, if_true, told.files, save, opens.parents, opens.opens]
  split
  · next error failed =>
      rw [failed]
      exact ⟨rfl, congrArg (FileTree.unlink · _ _) (World.only_told_advance_bar_all _ _ _).files⟩
  · next saved done =>
      rw [done]
      exact ⟨rfl, (World.only_told_remark _ _ _).files.trans
        (World.only_told_advance_bar_all _ _ _).files⟩

/-- A body for which a file could be opened is saved, or else the file is removed. -/
theorem receive_saves_or_removes (url : String) {executable : Bool}
    (answered : exchange.result = .ok answer)
    (success : Http.Status.isSuccess answer.head.status = true)
    (opens : Opens machine destination world.files made opened place)
    (empty : opened = made.put place (.data .empty executable)) :
    let delivery := answer.delivery
    let body := assembled delivery.chunks
    let received := receive machine url destination exchange world
    (delivery.complete = true ∧ Fits machine.fileLimit body.size ∧
        received.1 =
          { result := .ok { path := destination, size := body.size, digest := Sha256.digest body }
            progress := progressOf (delivery.announced.getD 0) delivery.chunks } ∧
        received.2.files = made.put place (.data body executable)) ∨
      ∃ error, received.1.result = .error error ∧
        Unsaved url destination machine.fileLimit delivery.complete delivery.chunks error ∧
        ∃ content, received.2.files = (made.put place content).remove place := by
  obtain ⟨located, below, noDirectory, _⟩ := open_for_writing_eq opens.opens
  -- The file is empty when it has been opened, and the chunks take it from there.
  have begins : Stage machine.fileLimit made place executable (answer.delivery.announced.getD 0) []
      { files := opened } := by
    rw [empty]
    exact stage_begins
  have ends := (begins.run below answer.delivery.chunks).concluded url destination
    answer.delivery.complete
  rw [List.nil_append] at ends
  obtain ⟨report, after⟩ := receive_opened url answered success opens
  dsimp only at report after ⊢
  rw [report, after]
  rcases ends with ⟨complete, fits, concluded, files, progress⟩ |
    ⟨error, content, concluded, why, files⟩
  · refine .inl ⟨complete, fits, ?_, ?_⟩
    · rw [concluded, progress]
    · rw [concluded]
      exact files
  · have keeps := keeps_put below noDirectory (.data content executable)
    have standing : entry? (made.put place (.data content executable)) place =
        some (.data content executable) := by
      rw [entry_put made below, if_pos rfl]
    refine .inr ⟨error, concluded, why, .data content executable, ?_⟩
    rw [concluded, files]
    exact unlink_of_file ⟨locate_of_keeps keeps located, _, standing, nofun⟩

theorem receive_saves (url : String) {executable : Bool} (answered : exchange.result = .ok answer)
    (success : Http.Status.isSuccess answer.head.status = true)
    (complete : answer.delivery.complete = true)
    (opens : Opens machine destination world.files made opened place)
    (empty : opened = made.put place (.data .empty executable))
    (fits : Fits machine.fileLimit (assembled answer.delivery.chunks).size) :
    let body := assembled answer.delivery.chunks
    let received := receive machine url destination exchange world
    received.1 =
        { result := .ok { path := destination, size := body.size, digest := Sha256.digest body }
          progress := progressOf (answer.delivery.announced.getD 0) answer.delivery.chunks } ∧
      received.2.files = made.put place (.data body executable) := by
  rcases receive_saves_or_removes url answered success opens empty with
    ⟨_, _, saved⟩ | ⟨_, _, why, _⟩
  · exact saved
  · exact absurd ⟨complete, fits⟩ why.not_whole

/-- What a download saves does not depend on how the body was cut: it is the whole body, with its size and
digest, and each chunk is reported with how much of the body there is so far. -/
theorem saved_however_cut (url : String) (exchange : Http.Exchange) (world : World)
    (answered : exchange.result = .ok answer)
    (success : Http.Status.isSuccess answer.head.status = true)
    (complete : answer.delivery.complete = true)
    (opens : Opens machine destination world.files made opened place)
    (fits : Fits machine.fileLimit (assembled answer.delivery.chunks).size) :
    let chunks := answer.delivery.chunks
    let report := (receive machine url destination exchange world).1
    let after := (receive machine url destination exchange world).2
    report.result =
        .ok { path := destination
              size := (chunks.map ByteArray.size).sum
              digest := Sha256.digest (assembled chunks) } ∧
      (∃ executable, after.files.status machine.surroundings.directory (Utf8.encode destination) =
        .ok (.data (assembled chunks) executable)) ∧
      (∃ total, report.progress = progressOf total chunks) ∧
      ∀ (other : Http.Exchange) (otherAnswer : Http.Answer), other.result = .ok otherAnswer →
        Http.Status.isSuccess otherAnswer.head.status = true →
        otherAnswer.delivery.complete = true →
        assembled otherAnswer.delivery.chunks = assembled chunks →
        (receive machine url destination other world).1.result = report.result ∧
          (receive machine url destination other world).2.files = after.files := by
  obtain ⟨located, below, noDirectory, short, executable, empty⟩ := open_for_writing_eq opens.opens
  obtain ⟨report, after⟩ := receive_saves url answered success complete opens empty fits
  dsimp only at report after ⊢
  rw [report, after]
  refine ⟨?_, ⟨executable, ?_⟩, ⟨_, rfl⟩, ?_⟩
  · rw [size_assembled]
  · have keeps := keeps_put below noDirectory (.data (assembled answer.delivery.chunks) executable)
    apply status_of_data (locate_of_keeps keeps located) short
    rw [entry_put made below, if_pos rfl]
  · intro other otherAnswer otherAnswered otherSuccess otherComplete same
    obtain ⟨otherReport, otherAfter⟩ := receive_saves url otherAnswered otherSuccess otherComplete
      opens empty (same ▸ fits)
    rw [otherReport, otherAfter, same]
    exact ⟨rfl, rfl⟩

def narrowMachine : Machine where
  surroundings := { bindings := .empty, directory := [] }
  fileLimit := some 4

def delivered (complete : Bool) (chunks : List ByteArray) : Http.Exchange where
  result := .ok { head := { knowsChunks := true, status := 200, headers := [] }
                  delivery := { chunks, complete } }

theorem narrow_opens :
    Opens narrowMachine "d/f" ⟨.empty⟩ ((⟨.empty⟩ : FileTree).put [[100]] .directory)
      (((⟨.empty⟩ : FileTree).put [[100]] .directory).put [[100], [102]] (.data .empty false))
      [[100], [102]] :=
  ⟨rfl, rfl⟩

theorem body_in_three_is_saved :
    let whole := "abcd".toByteArray
    let cut := receive narrowMachine "http://h/f" "d/f"
      (delivered true ["ab".toByteArray, .empty, "cd".toByteArray]) { files := ⟨.empty⟩ }
    let uncut := receive narrowMachine "http://h/f" "d/f" (delivered true [whole])
      { files := ⟨.empty⟩ }
    cut.1.result = .ok { path := "d/f", size := 4, digest := Sha256.digest whole } ∧
      (∃ executable,
        cut.2.files.status [] (Utf8.encode "d/f") = .ok (.data whole executable)) ∧
      uncut.1.result = cut.1.result ∧ uncut.2.files = cut.2.files := by
  have fits : Fits (some 4) (assembled ["ab".toByteArray, .empty, "cd".toByteArray]).size := by
    rintro _ ⟨⟩
    exact Nat.le_refl 4
  have whole : assembled ["ab".toByteArray, .empty, "cd".toByteArray] = "abcd".toByteArray := by
    decide
  obtain ⟨result, file, _, alike⟩ := saved_however_cut "http://h/f"
    (delivered true ["ab".toByteArray, .empty, "cd".toByteArray]) { files := ⟨.empty⟩ }
    rfl rfl rfl narrow_opens fits
  have same := alike (delivered true ["abcd".toByteArray]) _ rfl rfl rfl whole.symm
  refine ⟨result.trans ?_, ?_, same.1, same.2⟩
  · exact congrArg (fun body => Except.ok (Saved.mk "d/f" 4 (Sha256.digest body))) whole
  · exact whole ▸ file

end Receiving

end Provision.Download
