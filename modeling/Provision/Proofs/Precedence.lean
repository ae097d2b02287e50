import Mathlib.Data.List.Basic
import Provision.Version

/-!
# The order of versions

Versions are compared by a key. Here the order is said in terms of the version itself: numbers, then the
pre-release, then the build, each identifier by identifier. Any two versions are equal, or one of them is
below the other, and below every version is the lack of one.
-/

namespace Provision

/-- Numbers by their value, and equal ones by how many digits they are written with; all numbers before
all words; words letter by letter. -/
def Identifier.Below : Identifier → Identifier → Prop
  | .number value width, .number other otherWidth =>
      value < other ∨ value = other ∧ width < otherWidth
  | .number _ _, .word _ => True
  | .word _, .number _ _ => False
  | .word letters, .word others => letters < others

namespace Version

def numbers (version : Version) : List Nat := [version.major, version.minor, version.patch]

/-- A version is below another if the first part in which they differ says so. A pre-release is below
its release, and of two lists of identifiers with the same beginning the shorter is the lesser one. -/
inductive Below (lesser greater : Version) : Prop
  | number (less : lesser.numbers < greater.numbers)
  | release (same : lesser.numbers = greater.numbers) (marked : lesser.preRelease ≠ [])
      (released : greater.preRelease = [])
  | preRelease (same : lesser.numbers = greater.numbers) (marked : lesser.preRelease ≠ [])
      (less : List.Lex Identifier.Below lesser.preRelease greater.preRelease)
  | build (same : lesser.numbers = greater.numbers)
      (alike : lesser.preRelease = greater.preRelease)
      (less : List.Lex Identifier.Below lesser.build greater.build)

/-- The order of versions of which there may be none. -/
def Lower : Option Version → Option Version → Prop
  | none, none => False
  | none, some _ => True
  | some _, none => False
  | some lesser, some greater => Below lesser greater

def AtMost (lesser greater : Option Version) : Prop :=
  lesser = greater ∨ Lower lesser greater

/-! ## Identifiers -/

theorem compare_letters (letters others : List Char) :
    compare (letters.map Char.toNat) (others.map Char.toNat) = .lt ↔ letters < others := by
  induction letters generalizing others with
  | nil => cases others <;> simp
  | cons c letters ih =>
      cases others with
      | nil => simp
      | cons d others =>
          have order : c.toNat < d.toNat ↔ c < d := Iff.rfl
          simp [Ordering.then_eq_lt, Nat.compare_eq_lt, order, ih, List.cons_lt_cons_iff,
            Char.toNat_inj]

theorem compare_identifiers (lesser greater : Identifier) :
    compare lesser.key greater.key = .lt ↔ lesser.Below greater := by
  cases lesser <;> cases greater <;>
    simp [Identifier.key, Identifier.Below, Ordering.then_eq_lt, Nat.compare_eq_lt, compare_letters]

theorem identifier_key_injective : Function.Injective Identifier.key := by
  intro left right same
  cases left with
  | number value width => cases right <;> simp_all [Identifier.key]
  | word letters =>
      cases right with
      | number value width => simp [Identifier.key] at same
      | word others =>
          have letters := List.map_injective_iff.2 (fun _ _ => Char.toNat_inj.1) (List.cons.inj same).2
          rw [letters]

theorem compare_identifier_lists (lesser greater : List Identifier) :
    compare (lesser.map Identifier.key) (greater.map Identifier.key) = .lt ↔
      List.Lex Identifier.Below lesser greater := by
  induction lesser generalizing greater with
  | nil => cases greater <;> simp
  | cons identifier lesser ih =>
      cases greater with
      | nil => simp
      | cons other greater =>
          simp [Ordering.then_eq_lt, compare_identifiers, ih, List.cons_lex_cons_iff,
            identifier_key_injective.eq_iff]

/-- The empty key between the pre-release and the build is below the key of every identifier, so it
compares the two parts one after the other. -/
theorem compare_tails (preRelease other build otherBuild : List Identifier) :
    compare (preRelease.map Identifier.key ++ [] :: build.map Identifier.key)
        (other.map Identifier.key ++ [] :: otherBuild.map Identifier.key) =
      (compare (preRelease.map Identifier.key) (other.map Identifier.key)).then
        (compare (build.map Identifier.key) (otherBuild.map Identifier.key)) := by
  have filled (identifier : Identifier) : ∃ first rest, identifier.key = first :: rest := by
    cases identifier <;> exact ⟨_, _, rfl⟩
  induction preRelease generalizing other with
  | nil =>
      cases other with
      | nil => simp
      | cons identifier other =>
          obtain ⟨first, rest, key⟩ := filled identifier
          simp [key]
  | cons identifier preRelease ih =>
      cases other with
      | nil =>
          obtain ⟨first, rest, key⟩ := filled identifier
          simp [key]
      | cons next other => simp [ih, Ordering.then_assoc]

/-! ## Versions -/

theorem compare_numbers (lesser greater : Version) :
    compare lesser.numbers greater.numbers = .lt ↔ lesser.numbers < greater.numbers := by
  simp [numbers, Ordering.then_eq_lt, Nat.compare_eq_lt, List.cons_lt_cons_iff]

def standing (version : Version) : Nat := if version.preRelease.isEmpty then 1 else 0

theorem compare_keys (lesser greater : Version) :
    compare lesser.key greater.key =
      (compare lesser.numbers greater.numbers).then
        ((compare lesser.standing greater.standing).then
          ((compare (lesser.preRelease.map Identifier.key)
              (greater.preRelease.map Identifier.key)).then
            (compare (lesser.build.map Identifier.key) (greater.build.map Identifier.key)))) := by
  simp [key, numbers, standing, compare_tails, Ordering.then_assoc]

theorem standing_lt_iff {lesser greater : Version} :
    lesser.standing < greater.standing ↔ lesser.preRelease ≠ [] ∧ greater.preRelease = [] := by
  cases first : lesser.preRelease <;> cases second : greater.preRelease <;>
    simp [standing, first, second]

theorem standing_eq_iff {lesser greater : Version} :
    lesser.standing = greater.standing ↔ (lesser.preRelease = [] ↔ greater.preRelease = []) := by
  cases first : lesser.preRelease <;> cases second : greater.preRelease <;>
    simp [standing, first, second]

theorem ne_nil_of_lex {lesser greater : List Identifier}
    (less : List.Lex Identifier.Below lesser greater) : greater ≠ [] := by
  intro empty
  rw [empty] at less
  exact List.not_lex_nil less

theorem compare_key_iff {lesser greater : Version} :
    compare lesser.key greater.key = .lt ↔ Below lesser greater := by
  rw [compare_keys]
  simp only [Ordering.then_eq_lt, compare_numbers, Nat.compare_eq_lt, Std.compare_eq_iff_eq,
    compare_identifier_lists, (List.map_injective_iff.2 identifier_key_injective).eq_iff]
  constructor
  · rintro (less | ⟨same, less | ⟨alike, less | ⟨equal, less⟩⟩⟩)
    · exact .number less
    · obtain ⟨marked, released⟩ := standing_lt_iff.1 less
      exact .release same marked released
    · apply Below.preRelease same _ less
      intro released
      exact ne_nil_of_lex less ((standing_eq_iff.1 alike).1 released)
    · exact .build same equal less
  · intro below
    cases below with
    | number less => exact .inl less
    | release same marked released =>
        exact .inr ⟨same, .inl (standing_lt_iff.2 ⟨marked, released⟩)⟩
    | preRelease same marked less =>
        have alike : lesser.standing = greater.standing := by
          rw [standing_eq_iff]
          simp [marked, ne_nil_of_lex less]
        exact .inr ⟨same, .inr ⟨alike, .inl less⟩⟩
    | build same equal less =>
        have alike : lesser.standing = greater.standing := standing_eq_iff.2 (by rw [equal])
        exact .inr ⟨same, .inr ⟨alike, .inr ⟨equal, less⟩⟩⟩

theorem key_injective : Function.Injective key := by
  intro left right same
  have equal : compare left.key right.key = .eq := Std.compare_eq_iff_eq.2 same
  rw [compare_keys] at equal
  simp only [Ordering.then_eq_eq, Std.compare_eq_iff_eq,
    (List.map_injective_iff.2 identifier_key_injective).eq_iff] at equal
  obtain ⟨numbers, _, preRelease, build⟩ := equal
  cases left
  cases right
  simp_all [Version.numbers]

/-! ## Versions of which there may be none -/

theorem compare_rank_iff {lesser greater : Option Version} :
    compare (rank lesser) (rank greater) = .lt ↔ Lower lesser greater := by
  cases lesser with
  | none => cases greater <;> simp [rank, Lower, key]
  | some lesser =>
      cases greater with
      | none => simp [rank, Lower, key]
      | some greater => exact compare_key_iff

theorem rank_injective : Function.Injective rank := by
  intro left right same
  cases left with
  | none => cases right <;> simp_all [rank, key]
  | some left =>
      cases right with
      | none => simp [rank, key] at same
      | some right => rw [key_injective same]

theorem Lower.trans {low middle high : Option Version} (first : Lower low middle)
    (second : Lower middle high) : Lower low high :=
  compare_rank_iff.1 (Std.TransCmp.lt_trans (compare_rank_iff.2 first) (compare_rank_iff.2 second))

theorem Lower.irrefl (version : Option Version) : ¬ Lower version version := by
  intro lower
  have order := compare_rank_iff.2 lower
  rw [Std.compare_self] at order
  cases order

theorem AtMost.trans {low middle high : Option Version} (first : AtMost low middle)
    (second : AtMost middle high) : AtMost low high := by
  rcases first with rfl | first
  · exact second
  · rcases second with rfl | second
    · exact .inr first
    · exact .inr (first.trans second)

theorem AtMost.not_lower {lesser greater : Option Version} (atMost : AtMost lesser greater) :
    ¬ Lower greater lesser := by
  intro lower
  rcases atMost with rfl | higher
  · exact Lower.irrefl _ lower
  · exact Lower.irrefl _ (lower.trans higher)

theorem AtMost.antisymm {left right : Option Version} (atMost : AtMost left right)
    (atLeast : AtMost right left) : left = right := by
  rcases atMost with same | lower
  · exact same
  · exact absurd lower atLeast.not_lower

/-- The order is total. -/
theorem at_most_of_not_lower {left right : Option Version} (reaches : ¬ Lower right left) :
    AtMost left right := by
  cases order : compare (rank left) (rank right) with
  | lt => exact .inr (compare_rank_iff.1 order)
  | eq => exact .inl (rank_injective (Std.compare_eq_iff_eq.1 order))
  | gt => exact absurd (compare_rank_iff.1 (Std.OrientedCmp.gt_iff_lt.1 order)) reaches

end Version

end Provision
