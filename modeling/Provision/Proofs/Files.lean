import Provision.Host.FileTree

/-!
# Changes to files

What an operation leaves alone: writing and removing concern one place, and making the directories above
a path only adds directories, each where an ancestor of the path leads. A path that has been found is
found again as long as no directory is taken away, so an operation on a file does not move the paths of
other files.
-/

namespace Provision

namespace Host.FileTree

variable {tree before between after made : FileTree} {here place other : Place} {path : Bytes}
  {entry : Entry}

/-! ## Looking up places -/

theorem entry_root (tree : FileTree) : tree.entry? [] = some .directory := rfl

theorem entry_put (tree : FileTree) {place : Place} (below : place ≠ []) (entry : Entry)
    (other : Place) :
    entry? (tree.put place entry) other = if other = place then some entry else tree.entry? other := by
  unfold entry? put
  dsimp only
  rw [Dictionary.get?_insert]
  by_cases root : other = []
  · have differs : other ≠ place := fun same => below (same ▸ root)
    simp [root, Ne.symm below]
  · simp [root]

theorem entry_remove (tree : FileTree) {place : Place} (below : place ≠ []) (other : Place) :
    entry? (tree.remove place) other = if other = place then none else tree.entry? other := by
  unfold entry? remove
  dsimp only
  rw [Dictionary.get?_filter tree.entries (fun other => decide (other ≠ place))]
  by_cases root : other = []
  · simp [root, Ne.symm below]
  · rw [if_neg root, if_neg root]
    by_cases same : other = place <;> simp [same]

/-- What is put at a place replaces what was put there before. -/
theorem put_put (tree : FileTree) (place : Place) (first second : Entry) :
    (tree.put place first).put place second = tree.put place second := by
  have same : (tree.entries.insert place first).insert place second =
      tree.entries.insert place second := by
    apply Dictionary.ext_get?
    intro key
    simp only [Dictionary.get?_insert]
    split <;> rfl
  exact congrArg FileTree.mk same

/-! ## Finding paths -/

def KeepsDirectories (before after : FileTree) : Prop :=
  ∀ place, before.entry? place = some .directory → after.entry? place = some .directory

theorem enter_of_keeps (keeps : KeepsDirectories before after) {name : Bytes}
    (entered : before.enter here name = .ok place) : after.enter here name = .ok place := by
  unfold enter at entered ⊢
  split at entered
  · cases entered
  · next short =>
      rw [if_neg short]
      split at entered
      · next isDot =>
          rw [if_pos isDot]
          exact entered
      · next notDot =>
          rw [if_neg notDot]
          split at entered
          · next areDots =>
              rw [if_pos areDots]
              exact entered
          · next notDots =>
              rw [if_neg notDots]
              split at entered
              · next directory =>
                  rw [keeps _ directory]
                  exact entered
              · cases entered
              · cases entered

theorem walk_of_keeps (keeps : KeepsDirectories before after) {names : List Bytes}
    (walked : names.foldlM before.enter here = .ok place) :
    names.foldlM after.enter here = .ok place := by
  induction names generalizing here with
  | nil => exact walked
  | cons name rest ih =>
      rw [List.foldlM_cons] at walked ⊢
      cases entered : before.enter here name with
      | error refusal =>
          rw [entered] at walked
          cases walked
      | ok next =>
          rw [entered] at walked
          rw [enter_of_keeps keeps entered]
          exact ih walked

/-- A path leads where it has led, as long as no directory is taken away. -/
theorem locate_of_keeps (keeps : KeepsDirectories before after) {target : Target}
    (located : before.locate here path = .ok target) : after.locate here path = .ok target := by
  unfold locate at located ⊢
  split at located
  · cases located
  · next noNul =>
      rw [if_neg noNul]
      split at located
      · cases located
      · next short =>
          rw [if_neg short]
          dsimp only at located ⊢
          split at located
          · exact located
          · next last _ =>
              split at located
              · cases located
              · next directory walked =>
                  simp only [walk_of_keeps keeps walked]
                  exact located

/-! ## Opening, writing and removing a file -/

/-- A file can be opened where its path leads to a place below the root that is no directory, and then
it is empty. -/
theorem open_for_writing_eq (opened : tree.openForWriting here path = .ok (place, after)) :
    tree.locate here path = .ok ⟨place, false⟩ ∧ place ≠ [] ∧
      tree.entry? place ≠ some .directory ∧
      ¬ longestName < (place.getLast?.map List.length).getD 0 ∧
      ∃ executable, after = tree.put place (.data .empty executable) := by
  unfold openForWriting at opened
  cases located : tree.locate here path with
  | error refusal =>
      rw [located] at opened
      cases opened
  | ok target =>
      rw [located] at opened
      obtain ⟨found, wantsDirectory⟩ := target
      simp only [bind, Except.bind, entryAt] at opened
      cases wantsDirectory with
      | true => cases opened
      | false =>
          by_cases long : longestName < (found.getLast?.map List.length).getD 0
          · simp [long] at opened
          · simp only [long, if_false] at opened
            have notRoot (differs : tree.entry? found ≠ some .directory) : found ≠ [] := by
              intro root
              exact differs (root ▸ tree.entry_root)
            cases standing : tree.entry? found with
            | none =>
                rw [standing] at opened
                cases opened
                exact ⟨rfl, notRoot (by simp [standing]), by simp [standing], long, false, rfl⟩
            | some entry =>
                rw [standing] at opened
                cases entry with
                | directory => cases opened
                | data content executable =>
                    cases opened
                    exact ⟨rfl, notRoot (by simp [standing]), by simp [standing], long,
                      executable, rfl⟩
                | program script =>
                    cases opened
                    exact ⟨rfl, notRoot (by simp [standing]), by simp [standing], long, true, rfl⟩

/-- Changing what is at a place leaves the directories, if it was not one itself. -/
theorem keeps_of_elsewhere (noDirectory : before.entry? place ≠ some .directory)
    (elsewhere : ∀ other, other ≠ place → after.entry? other = before.entry? other) :
    KeepsDirectories before after := by
  intro other directory
  have differs : other ≠ place := by
    intro same
    exact noDirectory (same ▸ directory)
  rw [elsewhere other differs]
  exact directory

theorem keeps_put (below : place ≠ []) (noDirectory : tree.entry? place ≠ some .directory)
    (entry : Entry) : KeepsDirectories tree (tree.put place entry) := by
  apply keeps_of_elsewhere noDirectory
  intro other differs
  rw [entry_put tree below, if_neg differs]

def Fits (limit : Option Nat) (size : Nat) : Prop :=
  ∀ most, limit = some most → size ≤ most

theorem Fits.mono {limit : Option Nat} {small large : Nat} (fits : Fits limit large)
    (less : small ≤ large) : Fits limit small :=
  fun most limited => Nat.le_trans less (fits most limited)

theorem append_of_fits {limit : Option Nat} {content bytes : ByteArray} {executable : Bool}
    (standing : tree.entry? place = some (.data content executable))
    (fits : Fits limit (content.size + bytes.size)) :
    tree.append limit place bytes =
      (none, tree.put place (.data (content ++ bytes) executable)) := by
  have room : bytes.size ≤ (limit.map (· - content.size)).getD bytes.size := by
    cases limit with
    | none => exact Nat.le_refl _
    | some most => exact Nat.le_sub_of_add_le' (fits most rfl)
  simp only [append, standing, if_pos room]

theorem append_of_too_large {limit : Option Nat} {content bytes : ByteArray} {executable : Bool}
    (standing : tree.entry? place = some (.data content executable))
    (held : Fits limit content.size) (large : ¬ Fits limit (content.size + bytes.size)) :
    ∃ written, tree.append limit place bytes =
      (some .fileTooLarge, tree.put place (.data (content ++ written) executable)) := by
  have noRoom : ¬ bytes.size ≤ (limit.map (· - content.size)).getD bytes.size := by
    intro room
    apply large
    intro most limited
    subst limited
    have enough : content.size ≤ most := held most rfl
    simp only [Option.map_some, Option.getD_some] at room
    omega
  exact ⟨_, by simp only [append, standing, if_neg noRoom]; rfl⟩

/-- A path leads to a file: what is at its place is no directory, and the path does not ask for one. -/
structure LeadsToFile (tree : FileTree) (here : Place) (path : Bytes) (place : Place) : Prop where
  located : tree.locate here path = .ok ⟨place, false⟩
  standing : ∃ entry, tree.entry? place = some entry ∧ entry ≠ .directory

theorem LeadsToFile.below (leads : LeadsToFile tree here path place) : place ≠ [] := by
  rintro rfl
  obtain ⟨entry, is, noDirectory⟩ := leads.standing
  rw [entry_root] at is
  exact noDirectory (Option.some.inj is).symm

theorem unlink_of_file (leads : LeadsToFile tree here path place) :
    tree.unlink here path = tree.remove place := by
  obtain ⟨located, entry, is, noDirectory⟩ := leads
  cases entry with
  | directory => exact absurd rfl noDirectory
  | data content executable =>
      simp only [unlink, located, is]
      rfl
  | program script =>
      simp only [unlink, located, is]
      rfl

/-- Nothing but a file is removed. -/
theorem unlink_of_no_file (leads : ∀ place, ¬ LeadsToFile tree here path place) :
    tree.unlink here path = tree := by
  unfold unlink
  split
  · rfl
  · next target located =>
      split
      · rfl
      · rfl
      · next entry noDirectory is =>
          obtain ⟨found, wantsDirectory⟩ := target
          cases wantsDirectory with
          | true => rfl
          | false => exact absurd ⟨located, entry, is, noDirectory⟩ (leads found)

theorem status_of_data {content : ByteArray} {executable : Bool}
    (located : tree.locate here path = .ok ⟨place, false⟩)
    (short : ¬ longestName < (place.getLast?.map List.length).getD 0)
    (standing : tree.entry? place = some (.data content executable)) :
    tree.status here path = .ok (.data content executable) := by
  simp only [status, located, entryAt, if_neg short, bind, Except.bind, standing]
  rfl

theorem status_of_nothing (located : tree.locate here path = .ok ⟨place, false⟩)
    (short : ¬ longestName < (place.getLast?.map List.length).getD 0)
    (nothing : tree.entry? place = none) : tree.status here path = .error .notFound := by
  simp only [status, located, entryAt, if_neg short, bind, Except.bind, nothing]

/-! ## Making directories -/

end FileTree

/-- One path is above another: it is the path of the other's parent, or above that. -/
inductive Path.IsAbove : Bytes → Bytes → Prop where
  | parent {above path : Bytes} (is : parent? path = some above) : IsAbove above path
  | further {above between path : Bytes} (is : parent? path = some between)
      (rest : IsAbove above between) : IsAbove above path

namespace FileTree

/-- All that was there is still there, and what is new are directories to which some of the paths
lead. -/
structure Grown (here : Place) (paths : Bytes → Prop) (before after : FileTree) : Prop where
  kept : ∀ place entry, before.entry? place = some entry → after.entry? place = some entry
  added : ∀ place, before.entry? place = none → after.entry? place = none ∨
    after.entry? place = some .directory ∧
      ∃ path wants, paths path ∧ after.locate here path = .ok ⟨place, wants⟩

namespace Grown

variable {paths morePaths : Bytes → Prop}

theorem keeps (grown : Grown here paths before after) : KeepsDirectories before after :=
  fun place => grown.kept place .directory

theorem refl (tree : FileTree) : Grown here paths tree tree :=
  ⟨fun _ _ same => same, fun _ nothing => .inl nothing⟩

theorem trans (first : Grown here paths before between) (second : Grown here paths between after) :
    Grown here paths before after := by
  refine ⟨fun place entry standing => second.kept place entry (first.kept place entry standing), ?_⟩
  intro place nothing
  rcases first.added place nothing with still | ⟨directory, path, wants, among, located⟩
  · exact second.added place still
  · exact .inr ⟨second.kept place .directory directory, path, wants, among,
      locate_of_keeps second.keeps located⟩

theorem mono (grown : Grown here paths before after)
    (more : ∀ path, paths path → morePaths path) : Grown here morePaths before after := by
  refine ⟨grown.kept, fun place nothing => ?_⟩
  rcases grown.added place nothing with still | ⟨directory, path, wants, among, located⟩
  · exact .inl still
  · exact .inr ⟨directory, path, wants, more path among, located⟩

/-- What is at a place after changes elsewhere that take away no directory. -/
theorem elsewhere (grown : Grown here paths before between) (keeps : KeepsDirectories between after)
    (same : after.entry? other = between.entry? other) :
    after.entry? other = before.entry? other ∨
      before.entry? other = none ∧ after.entry? other = some .directory ∧
        ∃ path wants, paths path ∧ after.locate here path = .ok ⟨other, wants⟩ := by
  rw [same]
  cases standing : before.entry? other with
  | some entry => exact .inl (grown.kept other entry standing)
  | none =>
      rcases grown.added other standing with nothing | ⟨directory, path, wants, among, located⟩
      · exact .inl nothing
      · exact .inr ⟨rfl, directory, path, wants, among, locate_of_keeps keeps located⟩

end Grown

theorem grown_of_make_directory (created : tree.makeDirectory here path = .ok made) :
    Grown here (· = path) tree made := by
  unfold makeDirectory at created
  cases located : tree.locate here path with
  | error refusal =>
      rw [located] at created
      cases created
  | ok target =>
      rw [located] at created
      simp only [bind, Except.bind, entryAt] at created
      by_cases long : longestName < (target.place.getLast?.map List.length).getD 0
      · simp [long] at created
      · simp only [long, if_false] at created
        cases standing : tree.entry? target.place with
        | some entry =>
            rw [standing] at created
            cases created
        | none =>
            rw [standing] at created
            cases created
            have below : target.place ≠ [] := by
              intro root
              rw [root, entry_root] at standing
              cases standing
            have same := entry_put tree below .directory
            have kept : ∀ place entry, tree.entry? place = some entry →
                entry? (tree.put target.place .directory) place = some entry := by
              intro place entry there
              have differs : place ≠ target.place := by
                intro is
                rw [is, standing] at there
                cases there
              rw [same, if_neg differs]
              exact there
            refine ⟨kept, ?_⟩
            -- The path leads to the new directory, as it did to the empty place.
            intro place nothing
            by_cases is : place = target.place
            · refine .inr ⟨by rw [same, if_pos is], path, target.wantsDirectory, rfl, ?_⟩
              rw [is]
              exact locate_of_keeps (fun place => kept place .directory) located
            · exact .inl (by rw [same, if_neg is]; exact nothing)

/-- Making the directories of a path adds directories only, to which it or a path above it leads. -/
theorem grown_make_directories (here : Place) (steps : Nat) (path : Bytes) (tree : FileTree) :
    Grown here (fun above => above = path ∨ Path.IsAbove above path) tree
      (makeDirectories here steps path tree).2 := by
  have itself {tree made : FileTree} {path : Bytes}
      (created : tree.makeDirectory here path = .ok made) :
      Grown here (fun above => above = path ∨ Path.IsAbove above path) tree made :=
    (grown_of_make_directory created).mono fun _ same => .inl same
  -- The induction is on the depth that is left, which the path of the parent uses up.
  induction steps generalizing path tree with
  | zero => exact .refl tree
  | succ steps ih =>
      unfold makeDirectories
      split
      · exact .refl tree
      · split
        · next created => exact itself created
        · split
          · exact .refl tree
          · next parent is =>
              have above : Grown here (fun above => above = path ∨ Path.IsAbove above path) tree
                  (makeDirectories here steps parent tree).2 := by
                apply (ih parent tree).mono
                rintro other (rfl | further)
                · exact .inr (.parent is)
                · exact .inr (.further is further)
              split
              · next made =>
                  rw [made] at above
                  exact above
              · next made =>
                  rw [made] at above
                  split
                  · next created => exact above.trans (itself created)
                  · split
                    · exact above
                    · exact above
        · split
          · exact .refl tree
          · exact .refl tree

end Host.FileTree

end Provision
