import Mathlib.Data.List.TakeWhile
import Provision.Proofs.EarlyFailure
import Provision.Proofs.LibraryPlan
import Provision.Proofs.Separator

/-!
# Where downloads go

A destination that is the name of a file stands in the working directory, and saving it changes nothing
else. The library's archive is always saved like that. A toolchain's installer is named after its channel,
so it is saved there exactly if the channel has no slash in it; otherwise it goes below a directory, which
is made if it is missing.
-/

namespace Provision

namespace Host.Path

/-- The name of a file: it has no slash, and it is neither the directory itself nor the one above. -/
structure IsFileName (path : Bytes) : Prop where
  filled : path ≠ []
  single : slash ∉ path
  notDot : path ≠ dot
  notDots : path ≠ dots

variable {path : Bytes}

theorem IsFileName.relative (plain : IsFileName path) : isAbsolute path = false :=
  is_absolute_of_not_mem plain.single

theorem IsFileName.split (plain : IsFileName path) : Text.splitOn slash path = [path] :=
  List.splitOn_eq_singleton plain.single

/-- The parent of a file name is the empty path, for which no directory is made. -/
theorem IsFileName.parent (plain : IsFileName path) : parent? path = some [] := by
  have front : frontLength path = 0 := by
    simp [frontLength, plain.relative, plain.split, plain.notDot]
  have all : (path.reverse.takeWhile (· ≠ slash)).reverse = path := by
    have every : ∀ byte ∈ path.reverse, decide (byte ≠ slash) = true := by
      intro byte inside
      refine decide_eq_true fun same => plain.single ?_
      exact same ▸ List.mem_reverse.1 inside
    rw [List.takeWhile_eq_self_iff.2 every, List.reverse_reverse]
  have cut : cutLast 0 path = ([], path) := by
    simp only [cutLast, List.drop_zero, all, Nat.lt_irrefl, if_false, Nat.sub_self, List.take_zero]
  have counts : (Component.ofPart? path).isSome := by
    unfold Component.ofPart?
    rw [if_neg (not_or.2 ⟨plain.filled, plain.notDot⟩)]
    split <;> rfl
  obtain ⟨length, long⟩ := Nat.exists_eq_succ_of_ne_zero (mt List.length_eq_zero_iff.1 plain.filled)
  have trimmed : trimEnd 0 path.length path = path := by
    rw [long, trimEnd, if_neg (by omega), cut]
    simp [counts]
  have nothing : trimEnd 0 path.length [] = [] := by
    rw [long]
    rfl
  unfold parent?
  simp only [front, trimmed, cut, nothing]
  rw [if_pos (by omega)]

end Host.Path

namespace Host.FileTree

variable {tree : FileTree} {here : Place} {path : Bytes}

theorem locate_of_file_name (plain : Path.IsFileName path) {target : Target}
    (located : tree.locate here path = .ok target) : target = ⟨here ++ [path], false⟩ := by
  have last : path.getLast? ≠ some Path.slash := by
    intro ends
    exact plain.single (List.mem_of_getLast? ends)
  unfold locate at located
  split at located
  · cases located
  · split at located
    · cases located
    · simp [plain.relative, plain.split, plain.filled, plain.notDot, plain.notDots, last,
        pure, Except.pure] at located
      exact located.symm

theorem names_of_slashes {rest : Bytes}
    (none : (Text.splitOn Path.slash rest).filter (· ≠ []) = []) :
    ∀ byte ∈ rest, byte = Path.slash := by
  induction rest with
  | nil => simp
  | cons byte rest ih =>
      by_cases same : byte = Path.slash
      · subst same
        rw [Text.split_on_cons_self, List.filter_cons_of_neg (by simp)] at none
        simpa using ih none
      · obtain ⟨part, parts, split⟩ := Text.split_on_cons_of_ne same rest
        rw [split, List.filter_cons_of_pos (by simp)] at none
        cases none

/-- A path with a slash goes through the directory that its first name leads to. -/
theorem directory_of_located {front rest : Bytes} {byte : UInt8} (named : Path.IsFileName front)
    (more : byte ∈ rest) (notSlash : byte ≠ Path.slash) {target : Target}
    (located : tree.locate here (front ++ Path.slash :: rest) = .ok target) :
    tree.entry? (here ++ [front]) = some .directory := by
  have relative : Path.isAbsolute (front ++ Path.slash :: rest) = false := by
    cases front with
    | nil => exact absurd rfl named.filled
    | cons first front => exact named.relative
  obtain ⟨next, names, later⟩ : ∃ next names,
      (Text.splitOn Path.slash rest).filter (· ≠ []) = next :: names := by
    apply List.exists_cons_of_ne_nil
    intro none
    exact notSlash (names_of_slashes none byte more)
  have parts : (Text.splitOn Path.slash (front ++ Path.slash :: rest)).filter (· ≠ []) =
      front :: next :: names := by
    rw [List.splitOn_append_cons_self, named.split, List.filter_append, later]
    simp [named.filled]
  unfold locate at located
  split at located
  · cases located
  · split at located
    · cases located
    · dsimp only at located
      rw [relative, parts] at located
      split at located
      · next none => cases none
      · split at located
        · cases located
        · next directory walked =>
            rw [List.dropLast_cons_cons, List.foldlM_cons] at walked
            cases entered : tree.enter here front with
            | error refusal =>
                rw [if_neg (by decide), entered] at walked
                cases walked
            | ok inside =>
                unfold enter at entered
                rw [if_neg named.notDot, if_neg named.notDots] at entered
                split at entered
                · cases entered
                · split at entered
                  · assumption
                  · cases entered
                  · cases entered

/-- The places of directories, and everything at any other place than that of a file, are as before. -/
structure OnlyFileAt (place : Place) (before after : FileTree) : Prop where
  elsewhere : ∀ other, other ≠ place → after.entry? other = before.entry? other
  directories : ∀ other, after.entry? other = some .directory ↔ before.entry? other = some .directory

theorem OnlyFileAt.of_place {place : Place} {before after : FileTree}
    (elsewhere : ∀ other, other ≠ place → after.entry? other = before.entry? other)
    (noneBefore : before.entry? place ≠ some .directory)
    (noneAfter : after.entry? place ≠ some .directory) : OnlyFileAt place before after := by
  refine ⟨elsewhere, fun other => ?_⟩
  by_cases same : other = place
  · subst same
    exact ⟨fun directory => absurd directory noneAfter, fun directory => absurd directory noneBefore⟩
  · rw [elsewhere other same]

theorem OnlyFileAt.refl (place : Place) (tree : FileTree) : OnlyFileAt place tree tree :=
  ⟨fun _ _ => rfl, fun _ => Iff.rfl⟩

theorem only_file_of_remove {place : Place} (below : place ≠ [])
    (noDirectory : tree.entry? place ≠ some .directory) :
    OnlyFileAt place tree (tree.remove place) := by
  refine .of_place (fun other differs => ?_) noDirectory ?_
  · rw [entry_remove tree below, if_neg differs]
  · rw [entry_remove tree below, if_pos rfl]
    nofun

theorem only_file_of_unlink (plain : Path.IsFileName path) :
    OnlyFileAt (here ++ [path]) tree (tree.unlink here path) := by
  by_cases leads : ∃ place, LeadsToFile tree here path place
  · obtain ⟨place, file⟩ := leads
    have same := locate_of_file_name plain file.located
    obtain ⟨entry, is, noDirectory⟩ := file.standing
    cases same
    rw [unlink_of_file file]
    apply only_file_of_remove file.below
    rw [is]
    exact fun directory => noDirectory (Option.some.inj directory)
  · rw [unlink_of_no_file (not_exists.1 leads)]
    exact .refl _ tree

end Host.FileTree

namespace Download

open Host Host.FileTree

variable {machine : Machine} {url destination : String} {exchange : Http.Exchange} {world : World}

theorem make_parents_of_file_name {here : Place} {path : Bytes} {files : FileTree}
    (plain : Path.IsFileName path) : makeParents here path files = (none, files) := by
  simp [makeParents, plain.parent]

/-- Saving what a server has answered under a file name changes at most the file of that name in the
working directory, whatever comes of it. -/
theorem receive_changes_one_file (plain : Path.IsFileName (Utf8.encode destination)) :
    OnlyFileAt (machine.surroundings.directory ++ [Utf8.encode destination]) world.files
      (receive machine url destination exchange world).2.files := by
  have unopened {error : DownloadError}
      (unopened : Unopened machine url destination exchange world.files error) :
      OnlyFileAt (machine.surroundings.directory ++ [Utf8.encode destination]) world.files
        (receive machine url destination exchange world).2.files := by
    rw [(receive_of_unopened unopened).2]
    exact only_file_of_unlink plain
  cases answered : exchange.result with
  | error failure => exact unopened (.unanswered answered)
  | ok answer =>
      cases success : Http.Status.isSuccess answer.head.status with
      | false => exact unopened (.declined answered success)
      | true =>
          have parents : makeParents machine.surroundings.directory (Utf8.encode destination)
              world.files = (none, world.files) := make_parents_of_file_name plain
          cases opens : world.files.openForWriting machine.surroundings.directory
              (Utf8.encode destination) with
          | error refusal => exact unopened (.noFile answered success parents opens)
          | ok written =>
              obtain ⟨place, opened⟩ := written
              obtain ⟨located, below, noDirectory, _, executable, empty⟩ :=
                open_for_writing_eq opens
              have same := locate_of_file_name plain located
              cases same
              have put := entry_put world.files below
              rcases receive_saves_or_removes url answered success ⟨parents, opens⟩ empty with
                ⟨_, _, _, files⟩ | ⟨error, _, _, content, files⟩
              · rw [files]
                refine .of_place (fun other differs => ?_) noDirectory ?_
                · rw [put, if_neg differs]
                · rw [put, if_pos rfl]
                  nofun
              · rw [files]
                refine .of_place (fun other differs => ?_) noDirectory ?_
                · rw [entry_remove _ below, if_neg differs, put, if_neg differs]
                · rw [entry_remove _ below, if_pos rfl]
                  nofun

/-- What is saved has been opened first. -/
theorem opened_of_saved {saved : Saved}
    (done : (receive machine url destination exchange world).1.result = .ok saved) :
    ∃ answer made opened place, exchange.result = .ok answer ∧
      Http.Status.isSuccess answer.head.status = true ∧
      Opens machine destination world.files made opened place := by
  have told := World.only_told_reveal_all machine (exchange.connections.flatMap connectionRemarks)
    { world with requests := world.requests ++ exchange.requests }
  unfold receive at done
  split at done
  · cases done
  · next answer answered =>
      split at done
      · next success =>
          dsimp only at done
          rw [told.files] at done
          cases parents : makeParents machine.surroundings.directory (Utf8.encode destination)
              world.files with
          | mk refused made =>
              cases refused with
              | some error =>
                  simp only [save, parents] at done
                  cases done
              | none =>
                  cases opens : made.openForWriting machine.surroundings.directory
                      (Utf8.encode destination) with
                  | error refusal =>
                      simp only [save, parents, opens] at done
                      cases done
                  | ok written => exact ⟨answer, made, _, _, answered, success, parents, opens⟩
      · cases done

/-- Whatever comes of a download, it changes nothing but the file that its destination names in the
working directory. -/
structure StaysInDirectory (url destination : String) : Prop where
  named : Path.IsFileName (Utf8.encode destination)
  received : ∀ (machine : Machine) (exchange : Http.Exchange) (world : World),
    OnlyFileAt (machine.surroundings.directory ++ [Utf8.encode destination]) world.files
      (receive machine url destination exchange world).2.files
  performed : ∀ (machine : Machine) (console : Console) (world : World),
    OnlyFileAt (machine.surroundings.directory ++ [Utf8.encode destination]) world.files
      (Session.perform machine console (.download url destination) world).2.files

/-- What a download saves stands beyond a directory in the working directory, which is there afterwards
whether or not it was there before. -/
def LeavesDirectory (url destination : String) : Prop :=
  ∃ front rest, Path.IsFileName front ∧ Utf8.encode destination = front ++ Path.slash :: rest ∧
    ∀ (machine : Machine) (exchange : Http.Exchange) (world : World) (saved : Saved),
      (receive machine url destination exchange world).1.result = .ok saved →
      (receive machine url destination exchange world).2.files.entry?
        (machine.surroundings.directory ++ [front]) = some .directory

theorem stays_of_file_name (url : String) (plain : Path.IsFileName (Utf8.encode destination)) :
    StaysInDirectory url destination := by
  refine ⟨plain, fun _ _ _ => receive_changes_one_file plain, ?_⟩
  intro machine console world
  have shown := (World.only_told_display world console (.download url)).trans
    (World.only_told_show_bar _ (console.bar 0))
  have changed : OnlyFileAt (machine.surroundings.directory ++ [Utf8.encode destination]) world.files
      (run machine url destination
        ((world.display console (.download url)).showBar (console.bar 0))).2.files :=
    shown.files ▸ receive_changes_one_file plain
  unfold Session.perform
  dsimp only
  split
  · rw [(World.only_told_clear_bar machine _).files]
    exact changed
  · rw [(World.only_told_remark machine _ _).files, (World.only_told_clear_bar machine _).files]
    exact changed

theorem leaves_of_slash (url : String) {front rest : Bytes} {byte : UInt8}
    (named : Path.IsFileName front) (path : Utf8.encode destination = front ++ Path.slash :: rest)
    (more : byte ∈ rest) (notSlash : byte ≠ Path.slash) : LeavesDirectory url destination := by
  refine ⟨front, rest, named, path, ?_⟩
  intro machine exchange world saved done
  obtain ⟨answer, made, opened, place, answered, success, opens⟩ := opened_of_saved done
  obtain ⟨located, below, noDirectory, _, executable, empty⟩ := open_for_writing_eq opens.opens
  rw [path] at located
  have stands := directory_of_located named more notSlash located
  rcases receive_saves_or_removes url answered success opens empty with
    ⟨_, _, _, files⟩ | ⟨error, failed, _⟩
  · -- The file is put where it was opened, and a directory does not stand there.
    have differs : machine.surroundings.directory ++ [front] ≠ place := by
      intro same
      exact noDirectory (same ▸ stands)
    rw [files, entry_put made below, if_neg differs]
    exact stands
  · rw [done] at failed
    cases failed

end Download

namespace Toolchain

open Host Download

theorem installer_name_eq (channel : String) :
    installerName channel = "rust-" ++ channel ++ "-x86_64-pc-windows-msvc.msi" := by
  apply String.toList_injective
  simp [installerName, Settings.hostTriple, toString]

theorem encode_installer_name (channel : String) :
    Utf8.encode (installerName channel) = Utf8.encode "rust-" ++
      (Utf8.encode channel ++ Utf8.encode "-x86_64-pc-windows-msvc.msi") := by
  rw [installer_name_eq, Utf8.encode_append, Utf8.encode_append, List.append_assoc]

theorem is_file_name_of_rust {name : Bytes} (single : Path.slash ∉ name) :
    Path.IsFileName (Utf8.encode "rust-" ++ name) where
  filled := by
    intro empty
    cases empty
  single := by
    intro inside
    rcases List.mem_append.1 inside with inside | inside
    · revert inside
      decide
    · exact single inside
  notDot := by
    intro same
    cases same
  notDots := by
    intro same
    cases same

theorem slash_mem_encode_iff {text : String} :
    Path.slash ∈ Utf8.encode text ↔ '/' ∈ text.toList :=
  Utf8.mem_encode_iff (c := '/') (by decide)

theorem stays_of_channel (url : String) {channel : String} (without : '/' ∉ channel.toList) :
    StaysInDirectory url (installerName channel) := by
  apply stays_of_file_name
  rw [encode_installer_name]
  apply is_file_name_of_rust
  intro inside
  rcases List.mem_append.1 inside with inside | inside
  · exact without (slash_mem_encode_iff.1 inside)
  · revert inside
    decide

theorem leaves_of_channel (url : String) {channel : String} (slashed : '/' ∈ channel.toList) :
    LeavesDirectory url (installerName channel) := by
  obtain ⟨before, behind, split, first⟩ :=
    List.eq_append_cons_of_mem (slash_mem_encode_iff.2 slashed)
  have path : Utf8.encode (installerName channel) = (Utf8.encode "rust-" ++ before) ++
      Path.slash :: (behind ++ Utf8.encode "-x86_64-pc-windows-msvc.msi") := by
    rw [encode_installer_name, split]
    simp only [List.append_assoc, List.cons_append]
  have ends : (0x69 : UInt8) ∈ behind ++ Utf8.encode "-x86_64-pc-windows-msvc.msi" :=
    List.mem_append_right _ (by decide)
  exact leaves_of_slash url (is_file_name_of_rust first) path ends (by decide)

end Toolchain

namespace Download

open Host

theorem LeavesDirectory.not_stays {url destination : String}
    (leaves : LeavesDirectory url destination) : ¬ StaysInDirectory url destination := by
  obtain ⟨front, rest, _, path, _⟩ := leaves
  intro stays
  apply stays.named.single
  rw [path]
  exact List.mem_append_right _ List.mem_cons_self

/-- A planned download stays in the working directory, except that of an installer whose channel has a
slash: what it saves leaves a directory behind. -/
theorem planned_downloads_stay_unless_slash (snapshot : Snapshot) (table : ReleaseTable) :
    (∀ install, Toolchain.plan snapshot = .ok install →
      ∃ channel url destination, snapshot.get? Variable.channel = some channel ∧
        install.downloads = [(url, destination)] ∧
        (StaysInDirectory url destination ↔ '/' ∉ channel.toList) ∧
        (LeavesDirectory url destination ↔ '/' ∈ channel.toList)) ∧
      ∀ install, Library.plan snapshot table = .ok install →
        ∀ url destination, (url, destination) ∈ install.downloads →
          StaysInDirectory url destination := by
  constructor
  · intro install planned
    obtain ⟨channel, found, rfl⟩ := Toolchain.plan_eq_ok planned
    refine ⟨channel, _, _, found, rfl, ⟨?_, Toolchain.stays_of_channel _⟩,
      ⟨?_, Toolchain.leaves_of_channel _⟩⟩
    · intro stays slashed
      exact (Toolchain.leaves_of_channel _ slashed).not_stays stays
    · intro leaves
      by_contra without
      exact leaves.not_stays (Toolchain.stays_of_channel _ without)
  · intro install planned url destination inside
    obtain ⟨version, _, ⟨_, rfl⟩ | ⟨_, release, _, rfl⟩⟩ := Library.plan_cases planned
    · cases inside
    · have only : (Library.directPlan version release).downloads =
          [(release.url, Settings.archiveFile)] := rfl
      rw [only, List.mem_singleton] at inside
      cases inside
      exact stays_of_file_name _ ⟨by decide, by decide, by decide, by decide⟩

def plainRequest : Snapshot :=
  .ofPairs [("CHANNEL", "stable"), ("H5_SOURCE", "msi"), ("H5_VERSION", "1.8.21")]

def oneRelease : ReleaseTable where
  releases := .ofPairs
    [("1.8.21", { version := "1.8.21", archive := "hdf5.zip", installer := "hdf5.msi" })]

theorem plain_request_stays :
    (∃ install url, Toolchain.plan plainRequest = .ok install ∧
        install.downloads = [(url, "rust-stable-x86_64-pc-windows-msvc.msi")] ∧
        StaysInDirectory url "rust-stable-x86_64-pc-windows-msvc.msi") ∧
      ∃ install url, Library.plan plainRequest oneRelease = .ok install ∧
        install.downloads = [(url, "hdf5.zip")] ∧ StaysInDirectory url "hdf5.zip" := by
  obtain ⟨toolchain, library⟩ := planned_downloads_stay_unless_slash plainRequest oneRelease
  have requested : LibrarySource.requested plainRequest = .ok (some .direct) :=
    LibrarySource.requested_eq_ok_iff.2
      ⟨"msi", Snapshot.get_eq_some_iff.1 rfl, LibrarySource.parse_eq_some_iff.1 (by decide +kernel)⟩
  have planned : Library.plan plainRequest oneRelease = .ok _ :=
    Library.plan_of_direct requested rfl rfl
  refine ⟨⟨_, _, rfl, rfl, ?_⟩, ⟨_, _, planned, rfl, ?_⟩⟩
  · obtain ⟨channel, url, destination, found, downloads, stays, _⟩ := toolchain _ rfl
    have same : channel = "stable" := (Option.some.inj found).symm
    cases downloads
    exact stays.2 (by rw [same]; decide)
  · exact library _ planned _ _ List.mem_cons_self

def workplace : Machine where
  surroundings := { bindings := .empty, directory := [[119]] }

theorem installer_leaves_directory :
    let snapshot : Snapshot := .ofPairs [("CHANNEL", "a/../../b")]
    let destination := "rust-a/../../b-x86_64-pc-windows-msvc.msi"
    let url := "https://static.rust-lang.org/dist/" ++ destination
    let files := (⟨.empty⟩ : FileTree).put [[119]] .directory
    let ended := receive workplace url destination (delivered true ["x".toByteArray]) { files }
    (Toolchain.plan snapshot).map Plan.downloads = .ok [(url, destination)] ∧
      ¬ Path.IsFileName (Utf8.encode destination) ∧
      ended.2.files.entry? [[119], Utf8.encode "rust-a"] = some .directory ∧
      ended.2.files.entry? [Utf8.encode "b-x86_64-pc-windows-msvc.msi"] =
        some (.data "x".toByteArray false) ∧
      ¬ StaysInDirectory url destination := by
  have slashed : Path.slash ∈ Utf8.encode "rust-a/../../b-x86_64-pc-windows-msvc.msi" := by decide
  have unnamed : ¬ Path.IsFileName (Utf8.encode "rust-a/../../b-x86_64-pc-windows-msvc.msi") :=
    fun plain => plain.single slashed
  exact ⟨rfl, unnamed, rfl, rfl, fun stays => unnamed stays.named⟩

end Download

end Provision
