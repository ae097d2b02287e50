import Provision.Arguments.Parse

/-!
# The flag for quiet mode

Arguments with a flag for quiet mode in front ask for what they ask for without it, in quiet mode. Once
the flag has been read, everything behind it is read as before, except that it must not come again.
-/

namespace Provision.Arguments

def Reading.hushed (reading : Reading) : Reading := { reading with quiet := true }

/-- Whatever is read without the flag is read in the same way behind it. -/
def Hushes (read : Reading → Except Fault Reading) : Prop :=
  ∀ before after, read before = .ok after → after.quiet = false →
    before.quiet = false ∧ read before.hushed = .ok after.hushed

theorem ok_of_bind {α β : Type} {value : Except Fault α} {next : α → Except Fault β} {result : β}
    (answered : value >>= next = .ok result) :
    ∃ middle, value = .ok middle ∧ next middle = .ok result := by
  cases value with
  | error fault => cases answered
  | ok middle => exact ⟨middle, rfl, answered⟩

variable {first second : Reading → Except Fault Reading}

theorem Hushes.bind (hushes : Hushes first) (hushesToo : Hushes second) :
    Hushes fun reading => first reading >>= second := by
  intro before after read loud
  obtain ⟨middle, reached, rest⟩ := ok_of_bind read
  obtain ⟨middleLoud, later⟩ := hushesToo _ _ rest loud
  obtain ⟨beforeLoud, earlier⟩ := hushes _ _ reached middleLoud
  dsimp only
  rw [earlier]
  exact ⟨beforeLoud, later⟩

theorem Hushes.fold {α : Type} {read : Reading → α → Except Fault Reading}
    (each : ∀ item, Hushes (read · item)) (items : List α) : Hushes (items.foldlM read) := by
  induction items with
  | nil =>
      rintro before _ ⟨⟩ loud
      exact ⟨loud, rfl⟩
  | cons item rest ih => exact Hushes.bind (each item) ih

theorem Hushes.ite {condition : Reading → Bool}
    (same : ∀ reading, condition reading.hushed = condition reading) (hushes : Hushes first)
    (hushesToo : Hushes second) :
    Hushes fun reading => if condition reading then first reading else second reading := by
  intro before after read loud
  dsimp only at read ⊢
  rw [same]
  split at read
  · next holds =>
      rw [if_pos holds]
      exact hushes _ _ read loud
  · next fails =>
      rw [if_neg fails]
      exact hushesToo _ _ read loud

theorem hushes_fault (fault : Fault) : Hushes fun _ => .error fault := by
  intro before after read
  cases read

theorem hushes_change {change : Reading → Reading}
    (same : ∀ reading, (change reading).quiet = reading.quiet)
    (commutes : ∀ reading, change reading.hushed = (change reading).hushed) :
    Hushes fun reading => .ok (change reading) := by
  rintro before _ ⟨⟩ loud
  exact ⟨(same before).symm.trans loud, congrArg Except.ok (commutes before)⟩

theorem hushes_settle : Hushes Reading.settle := by
  intro before after read loud
  obtain ⟨verbosity, quiet, dryRun, candidate, action, flagsEnded⟩ := before
  cases candidate with
  | none =>
      cases read
      exact ⟨loud, rfl⟩
  | some name =>
      simp only [Reading.settle, Reading.hushed] at read ⊢
      cases named : Action.parse? name false with
      | none =>
          rw [named] at read
          cases read
      | some other =>
          rw [named] at read
          cases read
          exact ⟨loud, rfl⟩

theorem hushes_count (flag : Flag) : Hushes (Reading.count · flag) := by
  unfold Reading.count
  cases flag with
  | verbose => exact hushes_change (fun _ => rfl) fun _ => rfl
  | quiet =>
      intro before after read loud
      dsimp only at read
      split at read
      · cases read
      · cases read
        cases loud
  | dryRun =>
      exact .ite (fun _ => rfl) (hushes_fault _) (hushes_change (fun _ => rfl) fun _ => rfl)
  | help long => exact hushes_fault _
  | version => exact hushes_fault _

theorem hushes_take_flag (flag : Flag) : Hushes (Reading.takeFlag · flag) :=
  hushes_settle.bind (hushes_count flag)

theorem hushes_take_letter (letter : Char) : Hushes (Reading.takeLetter · letter) := by
  unfold Reading.takeLetter
  split
  · exact hushes_take_flag _
  · exact hushes_fault _

theorem hushes_take_long (body : List Char) : Hushes (Reading.takeLong · body) := by
  unfold Reading.takeLong
  dsimp only
  split
  · exact hushes_fault _
  · split
    · exact hushes_take_flag _
    · exact hushes_fault _

theorem hushes_take_name (name : String) : Hushes (Reading.takeName · name) := by
  unfold Reading.takeName
  exact .ite (fun _ => rfl) (hushes_fault _) (hushes_change (fun _ => rfl) fun _ => rfl)

theorem hushes_take (argument : String) : Hushes (Reading.take · argument) := by
  unfold Reading.take
  refine .ite (fun _ => rfl) (hushes_take_name argument) ?_
  split
  · exact hushes_change (fun _ => rfl) fun _ => rfl
  · exact hushes_take_long _
  · exact hushes_take_name argument
  · exact .fold hushes_take_letter _
  · exact hushes_take_name argument

theorem finish_hushed {reading : Reading} {invocation : Invocation}
    (asked : reading.finish = .ok invocation) (loud : invocation.quiet = false) :
    reading.quiet = false ∧ reading.hushed.finish = .ok { invocation with quiet := true } := by
  unfold Reading.finish at asked ⊢
  obtain ⟨settled, settles, named⟩ := ok_of_bind asked
  split at named
  · next action found =>
      cases named
      obtain ⟨before, settlesToo⟩ := hushes_settle _ _ settles loud
      have foundToo : settled.hushed.action = some action := found
      rw [settlesToo]
      dsimp only [bind, Except.bind]
      rw [foundToo]
      exact ⟨before, rfl⟩
  · cases named

/-- With the flag in front, arguments ask for the same in quiet mode. -/
theorem parse_quiet {arguments : List String} {invocation : Invocation}
    (parsed : parse arguments = .ok invocation) (loud : invocation.quiet = false) :
    parse ("--quiet" :: arguments) = .ok { invocation with quiet := true } := by
  unfold parse at parsed ⊢
  obtain ⟨reading, read, finished⟩ := ok_of_bind parsed
  obtain ⟨still, finishedToo⟩ := finish_hushed finished loud
  have first : Reading.take {} "--quiet" = .ok (Reading.hushed {}) := by cbv
  have rest : arguments.foldlM Reading.take (Reading.hushed {}) = .ok reading.hushed :=
    (Hushes.fold hushes_take arguments _ _ read still).2
  have readToo : ("--quiet" :: arguments).foldlM Reading.take {} = .ok reading.hushed := by
    rw [List.foldlM_cons, first]
    exact rest
  rw [readToo]
  exact finishedToo

end Provision.Arguments
