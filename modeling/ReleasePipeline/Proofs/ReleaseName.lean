import ReleasePipeline.Proofs.Text.ByteOrder
import ReleasePipeline.Proofs.Time.Clock
import ReleasePipeline.Release.Descriptor

/-!
# `ReleasePipeline.Proofs.ReleaseName`: the name of a release tells its commit and its second

A release is named after its commit and the text of an instant, with an `@` between them. A commit
is any text here, and may itself hold an `@` and what looks like a time. The text of an instant
holds no `@`, so the last one of a name is the one between the two parts, and a name is made in
one way only (`releaseName_eq_iff`). The names of one commit stand in the order of their seconds,
in years of four digits (`bytes_releaseName_lt_iff`). Outside of them a name begins its year with
a sign, and the order is another one.
-/

set_option autoImplicit false

namespace ReleasePipeline.Proofs

/-- The name of a release, character by character. -/
theorem toList_releaseName (commit : String) (now : Instant) :
    (releaseName commit now).toList = commit.toList ++ '@' :: now.text := by
  rw [releaseName, String.toList_append, String.toList_ofList]

/-- The text of an instant has no `@`. -/
theorem notMem_text (instant : Instant) : '@' ∉ instant.text := by
  have hdate : '@' ∉ instant.date.text := notMem_dateText rfl (by decide) (by decide) _
  have hclock : '@' ∉ ' ' :: instant.clockText :=
    List.not_mem_cons_of_ne_of_not_mem (by decide) (notMem_clockText rfl (by decide) instant)
  exact fun hmem => (List.mem_append.mp hmem).elim hdate hclock

/-- Two releases have one name exactly if they are of one commit and one second. -/
theorem releaseName_eq_iff {commit commit' : String} {now now' : Instant} :
    releaseName commit now = releaseName commit' now' ↔ commit = commit' ∧ SameSecond now now' := by
  rw [← String.toList_inj, toList_releaseName, toList_releaseName,
    append_cons_inj (notMem_text now) (notMem_text now'), String.toList_inj, text_eq_iff]

/-- In years of four digits the name of an earlier second has the smaller bytes. -/
theorem bytes_releaseName_lt (commit : String) {now now' : Instant}
    (hyear : 0 ≤ now.date.year ∧ now.date.year ≤ 9999)
    (hyear' : 0 ≤ now'.date.year ∧ now'.date.year ≤ 9999) (h : EarlierSecond now now') :
    bytes (releaseName commit now) < bytes (releaseName commit now') := by
  rw [bytes_lt_iff, String.lt_iff_toList_lt, toList_releaseName, toList_releaseName]
  exact List.append_left_lt
    (List.cons_lt_cons_iff.mpr (Or.inr ⟨rfl, text_lt_text hyear hyear' h⟩))

/-- In years of four digits the names of one commit stand in the order of their seconds. -/
theorem bytes_releaseName_lt_iff (commit : String) {now now' : Instant}
    (hyear : 0 ≤ now.date.year ∧ now.date.year ≤ 9999)
    (hyear' : 0 ≤ now'.date.year ∧ now'.date.year ≤ 9999) :
    bytes (releaseName commit now) < bytes (releaseName commit now') ↔ EarlierSecond now now' := by
  refine ⟨fun h => ?_, bytes_releaseName_lt commit hyear hyear'⟩
  rcases earlierSecond_trichotomy now now' with hearlier | hsame | hlater
  · exact hearlier
  · rw [releaseName_eq_iff.mpr ⟨rfl, hsame⟩] at h
    exact absurd h (List.lt_irrefl _)
  · exact absurd (bytes_releaseName_lt commit hyear' hyear hlater) (List.lt_asymm h)

/-- **The name of a release tells its commit and its second.** Whatever the commits are, two names
are the same exactly if both the commits and the seconds are. In the years 0 to 9999 the names of
one commit stand in the order of their seconds, byte by byte. Nothing else of what is to be
released depends on the time. -/
theorem release_named_by_second (config : Config) (commit commit' : String) (now now' : Instant) :
    (releaseName commit now = releaseName commit' now' ↔ commit = commit' ∧ SameSecond now now') ∧
    (0 ≤ now.date.year ∧ now.date.year ≤ 9999 → 0 ≤ now'.date.year ∧ now'.date.year ≤ 9999 →
      (bytes (releaseName commit now) < bytes (releaseName commit now') ↔ EarlierSecond now now')) ∧
    ReleaseDescriptor.compute config commit now' =
      { ReleaseDescriptor.compute config commit now with name := releaseName commit now' } :=
  ⟨releaseName_eq_iff, bytes_releaseName_lt_iff commit, rfl⟩

/-- The last second before a leap day comes before the first one of it, also for a commit that
looks like a name itself. -/
theorem release_named_by_second_leap_day :
    let commit := "1a2b3c4@2024-03-09 07:05:09"
    let eve : Instant := ⟨951782399, 0, by decide, by decide, by decide⟩
    let leapDay : Instant := ⟨951782400, 0, by decide, by decide, by decide⟩
    releaseName commit eve = "1a2b3c4@2024-03-09 07:05:09@2000-02-28 23:59:59" ∧
    releaseName commit leapDay = "1a2b3c4@2024-03-09 07:05:09@2000-02-29 00:00:00" ∧
    bytes (releaseName commit eve) < bytes (releaseName commit leapDay) := by
  intro commit eve leapDay
  obtain ⟨-, horder, -⟩ := release_named_by_second (.ofBinary "seeker") commit commit eve leapDay
  exact ⟨by decide +kernel, by decide +kernel,
    (horder (by decide +kernel) (by decide +kernel)).mpr (Or.inl (by decide))⟩

end ReleasePipeline.Proofs
