import PluginOrder.Proofs.Version.Admission
import PluginOrder.Proofs.Version.Spelling

/-!
# The line of a caret or a tilde

A caret keeps a version on the line of its major number, and a tilde on that of its minor number
too.  They are spelled out in two bounds, and both bounds are releases.  So it is the three numbers
of a version that decide whether it lies between them, with or without pre-releases: where these are
admitted nothing else is compared, and where they are not, only a release can be let in
(`admits_bounds_iff`).  The pre-releases of the next line, which sort below its first release,
therefore stay out.

Within its line a version is to be no lower than the written one.  That holds but for one case:
where pre-releases are admitted, those of the written version itself are taken for it
(`satisfies_caret_tilde_iff`).
-/

namespace PluginOrder

namespace Version

variable {v w : Version}

theorem compareTriple_eq_lt_iff :
    v.compareTriple w = .lt ↔ v.major < w.major ∨ v.major = w.major ∧
      (v.minor < w.minor ∨ v.minor = w.minor ∧ v.patch < w.patch) := by
  simp only [compareTriple, Ordering.then_eq_lt, Ordering.then_eq_eq, Nat.compare_eq_lt,
    Nat.compare_eq_eq]
  omega

/-- Two releases are compared by their numbers. -/
theorem compare_of_releases (hv : v.isPrerelease = false) (hw : w.isPrerelease = false) :
    v.compare w = v.compareTriple w := by
  have hnil : ∀ u : Version, u.isPrerelease = false → u.pre = [] := by
    intro u hu
    simpa [isPrerelease] using hu
  rw [compare, hnil v hv, hnil w hw]
  cases v.compareTriple w <;> rfl

/-- What is below a release has lower numbers, or is a pre-release of it. -/
theorem compare_eq_lt_iff (hw : w.isPrerelease = false) :
    v.compare w = .lt ↔
      v.compareTriple w = .lt ∨ w.sameTriple v = true ∧ v.isPrerelease = true := by
  have hnil : w.pre = [] := by simpa [isPrerelease] using hw
  have hpre : comparePre v.pre [] = .lt ↔ v.isPrerelease = true := by
    rw [isPrerelease]
    cases v.pre with
    | nil => decide
    | cons first rest => exact iff_of_true rfl rfl
  rw [compare, hnil, Ordering.then_eq_lt, compareTriple_eq_iff, hpre]

/-- A version may be taken for another one or for a later one: it is not below it, or it is a
pre-release of it, and no pre-release is taken unless they are admitted. -/
def Reaches (includePrerelease : Bool) (v floor : Version) : Prop :=
  (v.isPrerelease = true → includePrerelease = true) ∧
    (v.compare floor ≠ .lt ∨ floor.sameTriple v = true ∧ v.isPrerelease = true)

/-- Whether a release is reached is decided by the numbers. -/
theorem reaches_iff {includePrerelease : Bool} (hw : w.isPrerelease = false) :
    v.Reaches includePrerelease w ↔
      (v.isPrerelease = true → includePrerelease = true) ∧ v.compareTriple w ≠ .lt := by
  refine and_congr_right fun _ => ?_
  rw [ne_eq, compare_eq_lt_iff hw]
  constructor
  · rintro (habove | ⟨hsame, -⟩) hlt
    · exact habove (Or.inl hlt)
    · rw [compareTriple_eq_iff.mpr hsame] at hlt
      cases hlt
  · intro hnot
    by_cases hpre : w.sameTriple v = true ∧ v.isPrerelease = true
    · exact Or.inr hpre
    · exact Or.inl fun hbelow => hbelow.elim hnot hpre

end Version

namespace Range

variable {includePrerelease : Bool} {v lower upper : Version}

/-- Between two bounds that are releases, a version is decided by its numbers. -/
theorem admits_bounds_iff (hlower : lower.isPrerelease = false)
    (hupper : upper.isPrerelease = false) :
    admits includePrerelease v [[.bound .atLeast lower, .bound .less upper]] = true ↔
      v.Reaches includePrerelease lower ∧ v.compareTriple upper = .lt := by
  rw [Version.reaches_iff hlower]
  cases includePrerelease with
  | true =>
      simp [admits, admitsAll, Comparator.admits, Relation.holds]
  | false =>
      -- a pre-release is let in by neither bound, and releases are compared by their numbers
      cases hv : v.isPrerelease with
      | true => simp [admits, admitsAll, Comparator.opensPrerelease, hv, hlower, hupper]
      | false =>
          simp [admits, admitsAll, Comparator.admits, Relation.holds, hv,
            Version.compare_of_releases hv hlower, Version.compare_of_releases hv hupper]

/-- Up to the next major version: the major number is kept. -/
theorem admits_major_iff (hlower : lower.isPrerelease = false) :
    admits includePrerelease v
        [[.bound .atLeast lower, .bound .less ⟨lower.major + 1, 0, 0, []⟩]] = true ↔
      v.major = lower.major ∧ v.Reaches includePrerelease lower := by
  rw [admits_bounds_iff hlower rfl, Version.reaches_iff hlower, ne_eq,
    Version.compareTriple_eq_lt_iff, Version.compareTriple_eq_lt_iff]
  dsimp only
  constructor
  · rintro ⟨⟨hpre, hfloor⟩, hceiling⟩
    exact ⟨by omega, hpre, hfloor⟩
  · rintro ⟨hmajor, hpre, hfloor⟩
    exact ⟨⟨hpre, hfloor⟩, by omega⟩

/-- Up to the next minor version: the minor number is kept too. -/
theorem admits_minor_iff (hlower : lower.isPrerelease = false) :
    admits includePrerelease v
        [[.bound .atLeast lower, .bound .less ⟨lower.major, lower.minor + 1, 0, []⟩]] = true ↔
      v.major = lower.major ∧ v.minor = lower.minor ∧ v.Reaches includePrerelease lower := by
  rw [admits_bounds_iff hlower rfl, Version.reaches_iff hlower, ne_eq,
    Version.compareTriple_eq_lt_iff, Version.compareTriple_eq_lt_iff]
  dsimp only
  constructor
  · rintro ⟨⟨hpre, hfloor⟩, hceiling⟩
    exact ⟨by omega, by omega, hpre, hfloor⟩
  · rintro ⟨hmajor, hminor, hpre, hfloor⟩
    exact ⟨⟨hpre, hfloor⟩, by omega⟩

end Range

theorem satisfies_iff_admits {d : Dialect} {includePrerelease : Bool} {version range : List Char}
    {v : Version} {r : Range} (hv : Version.read? d version = some v)
    (hr : Range.read? d range = some r) :
    satisfies d includePrerelease version range = r.admits includePrerelease v := by
  rw [satisfies, hv, hr]

/-- **A caret or a tilde never leaves its line.**  What satisfies a caret has its major number, and
what satisfies a tilde its minor number too; of the versions that have them, those satisfy it that
reach the written one. -/
theorem satisfies_caret_tilde_iff {M m p : Nat} (hM : 1 ≤ M) {version : List Char} {v : Version}
    (hv : Version.read? .strict version = some v) (includePrerelease : Bool) :
    (isValidRange .strict (Shorthand.caret ⟨M, m, p, []⟩) = true →
      (satisfies .strict includePrerelease version (Shorthand.caret ⟨M, m, p, []⟩) = true ↔
        v.major = M ∧ v.Reaches includePrerelease ⟨M, m, p, []⟩)) ∧
    (isValidRange .strict (Shorthand.tilde ⟨M, m, p, []⟩) = true →
      (satisfies .strict includePrerelease version (Shorthand.tilde ⟨M, m, p, []⟩) = true ↔
        v.major = M ∧ v.minor = m ∧ v.Reaches includePrerelease ⟨M, m, p, []⟩)) := by
  have hmajor : M ≠ 0 := by omega
  refine ⟨fun hvalid => ?_, fun hvalid => ?_⟩
  · obtain ⟨r, hr⟩ := Option.isSome_iff_exists.mp hvalid
    rw [satisfies_iff_admits hv hr, Range.read?_caret hmajor hr]
    exact Range.admits_major_iff rfl
  · obtain ⟨r, hr⟩ := Option.isSome_iff_exists.mp hvalid
    rw [satisfies_iff_admits hv hr, Range.read?_tilde hr]
    exact Range.admits_minor_iff rfl

/-- A pre-release inside of both windows, which is let in by either where pre-releases are
admitted. -/
theorem satisfies_caret_tilde_candidate :
    (1 ≤ 1 ∧ Version.read? .strict "1.2.9-rc.1".toList =
        some ⟨1, 2, 9, [.alphanumeric ['r', 'c'], .numeric 1]⟩ ∧
      isValidRange .strict (Shorthand.caret ⟨1, 2, 3, []⟩) = true ∧
        isValidRange .strict (Shorthand.tilde ⟨1, 2, 3, []⟩) = true) ∧
      satisfies .strict true "1.2.9-rc.1".toList (Shorthand.caret ⟨1, 2, 3, []⟩) = true ∧
        satisfies .strict true "1.2.9-rc.1".toList (Shorthand.tilde ⟨1, 2, 3, []⟩) = true := by
  have hread : Version.read? .strict "1.2.9-rc.1".toList =
      some ⟨1, 2, 9, [.alphanumeric ['r', 'c'], .numeric 1]⟩ := by rfl
  have hcaret : isValidRange .strict (Shorthand.caret ⟨1, 2, 3, []⟩) = true := by decide +kernel
  have htilde : isValidRange .strict (Shorthand.tilde ⟨1, 2, 3, []⟩) = true := by decide +kernel
  have hreaches :
    Version.Reaches true ⟨1, 2, 9, [.alphanumeric ['r', 'c'], .numeric 1]⟩ ⟨1, 2, 3, []⟩ :=
    ⟨fun _ => rfl, Or.inl (by decide)⟩
  obtain ⟨hmajor, hminor⟩ := satisfies_caret_tilde_iff (M := 1) (m := 2) (p := 3) le_rfl hread true
  exact ⟨⟨le_rfl, hread, hcaret, htilde⟩, (hmajor hcaret).mpr ⟨rfl, hreaches⟩,
    (hminor htilde).mpr ⟨rfl, rfl, hreaches⟩⟩

/-- What a caret lets in may be below the written version, a pre-release of it. -/
theorem satisfies_caret_below :
    ∃ v, Version.read? .strict "1.2.3-alpha".toList = some v ∧ v.compare ⟨1, 2, 3, []⟩ = .lt ∧
      isValidRange .strict "^1.2.3".toList = true ∧
        satisfies .strict true "1.2.3-alpha".toList "^1.2.3".toList = true :=
  ⟨⟨1, 2, 3, [.alphanumeric "alpha".toList]⟩, by rfl, by decide, by decide +kernel,
    by decide +kernel⟩

/-- The pre-releases of the next line stay out. -/
example : satisfies .strict true "2.0.0-alpha".toList (Shorthand.caret ⟨1, 2, 3, []⟩) = false := by
  decide +kernel

/-- How the ranges are written. -/
example : Shorthand.caret ⟨1, 20, 3, []⟩ = "^1.20.3".toList ∧
    Shorthand.tilde ⟨1, 20, 3, []⟩ = "~1.20.3".toList := by
  decide +kernel

end PluginOrder
