import Mathlib.Data.List.Perm.Subperm
import ReleasePipeline.Proofs.Glob
import ReleasePipeline.Proofs.Outputs
import ReleasePipeline.Proofs.Publish.AllOrNothing

/-!
# `ReleasePipeline.Proofs.Publish.Selection`: which artifacts a release is made of

The artifacts of a release are selected by a pattern that is made of the name of the program: the
name, a dash, and a star for the identifiers of the variants. In the names of the artifacts the
name stands for itself, but in the pattern it is read as a pattern. `CoversAll` says that the
selection keeps the artifact of every variant nevertheless, and `release_covers_variants` when it
does.

A name in which no class begins is harmless, unless there are two stars in a row in it. Any other
name has to match itself, with each of the identifiers behind it. Where it does not, a publication
is refused, or the release is made without some of the variants.
-/

set_option autoImplicit false

namespace ReleasePipeline.Proofs

open Glob (tokens Pattern)
open Publish (release publish)

section
variable {config : Config} {variant : Variant}

/-! ### The pattern -/

/-- The pattern of the artifacts, character by character. -/
theorem artifactGlob_toList (config : Config) :
    config.artifactGlob.toList = config.binaryName.toList ++ ['-', '*'] :=
  String.toList_append

/-- The pattern of a valid configuration is one component. -/
theorem WellFormed.oneComponent (h : WellFormed config) :
    OneComponent config.artifactGlob.toList where
  noSlash := by
    rw [artifactGlob_toList]
    simp [h.noSlash]
  noStars := by
    rw [artifactGlob_toList]
    rintro ⟨front, hfront⟩
    have hlast := congrArg (fun text => text.dropLast.getLast?) hfront
    simp at hlast

/-- So its tokens match the texts that it accepts. -/
theorem WellFormed.accepts_iff (h : WellFormed config) {pattern : Pattern}
    (hpattern : Pattern.ofText config.artifactGlob = .ok pattern) (text : String) :
    pattern.accepts text = true ↔ Matches pattern.tokens text.toList := by
  obtain ⟨found, htokens, rfl⟩ := map_eq_ok.mp hpattern
  exact accepts_iff_matches (h.oneComponent.anyComponents_notMem htokens) text

/-! ### What is kept -/

/-- The artifacts of all variants. -/
def allArtifacts (config : Config) : List Artifact :=
  config.variants.map (Artifact.ofVariant config)

/-- The artifacts of all variants are kept by the pattern of a configuration, each of them once. -/
def CoversAll (config : Config) : Prop :=
  ∃ selected, selectArtifacts (allArtifacts config) config.artifactGlob = .ok selected ∧
    selected.Perm (allArtifacts config)

/-- All artifacts are kept when the pattern matches all of their names. -/
theorem WellFormed.coversAll_iff (h : WellFormed config) :
    CoversAll config ↔
      ∃ pattern, Pattern.ofText config.artifactGlob = .ok pattern ∧
        ∀ variant ∈ config.variants, Matches pattern.tokens
          (config.artifactName variant).toList := by
  constructor
  · rintro ⟨selected, hselect, hall⟩
    obtain ⟨pattern, hpattern, hperm, -⟩ := selectArtifacts_spec hselect
    refine ⟨pattern, hpattern, fun variant hvariant => ?_⟩
    have hkept := (hall.symm.trans hperm).subset (List.mem_map_of_mem hvariant)
    exact (h.accepts_iff hpattern _).mp (List.mem_filter.mp hkept).2
  · rintro ⟨pattern, hpattern, hmatches⟩
    have haccepts : ∀ artifact ∈ allArtifacts config, pattern.accepts artifact.fileName = true := by
      intro artifact hartifact
      obtain ⟨variant, hvariant, rfl⟩ := List.mem_map.mp hartifact
      exact (h.accepts_iff hpattern _).mpr (hmatches variant hvariant)
    cases hselect : selectArtifacts (allArtifacts config) config.artifactGlob with
    | error error =>
        unfold selectArtifacts at hselect
        rw [hpattern] at hselect
        cases hselect
    | ok selected =>
        obtain ⟨found, hfound, hperm, -⟩ := selectArtifacts_spec hselect
        obtain rfl : pattern = found := Except.ok.inj (hpattern.symm.trans hfound)
        -- Selecting filters and sorts, and here the filter keeps everything.
        rw [List.filter_eq_self.mpr haccepts] at hperm
        exact ⟨selected, hselect, hperm⟩

/-- A name in which no class begins matches itself, and two stars in a row are all that can be wrong
with it. -/
theorem WellFormed.coversAll_iff_of_plain (h : WellFormed config)
    (hclass : '[' ∉ config.binaryName.toList) :
    CoversAll config ↔ ¬ ['*', '*'] <:+: config.binaryName.toList := by
  rw [h.coversAll_iff]
  constructor
  · rintro ⟨pattern, hpattern, -⟩ hstars
    obtain ⟨found, htokens, -⟩ := map_eq_ok.mp hpattern
    rw [artifactGlob_toList] at htokens
    obtain ⟨error, herror⟩ : ∃ error, tokens (config.binaryName.toList ++ ['-', '*']).length none
        (config.binaryName.toList ++ ['-', '*']) = .error error :=
      tokens_append_error hclass h.noSlash hstars (List.cons_ne_nil '-' ['*']) (by decide)
    cases htokens.symm.trans herror
  · intro hstars
    refine ⟨⟨config.binaryName.toList.map tokenOf ++ [.char '-', .anyRun]⟩, ?_, fun variant _ => ?_⟩
    · unfold Pattern.ofText
      rw [artifactGlob_toList, tokens_append hclass hstars (by decide) fun _ => tokens_dash_star]
      rfl
    · rw [artifactName_toList]
      -- Behind the name the dash stands for itself, and the star for the identifier.
      have hos : Matches [.anyRun] variant.os.toList :=
        matches_anyRun_iff.mpr ⟨[], List.nil_suffix, .nil⟩
      exact matches_map_tokenOf (.one rfl hos) _

/-! ### What is released -/

section
variable {m : Type → Type} [Monad m] (host : ReleaseHost m) (files : Files m) (commit : String)
  (now : Instant)

/-- The publication of the artifacts of all variants. -/
def publishAll (config : Config) : m (Except PublishError PublishedRelease) :=
  publish host files (.compute config commit now) (allArtifacts config)

/-- The release of some artifacts. -/
def releaseOf (config : Config) (selected : List Artifact) :
    m (Except PublishError PublishedRelease) :=
  release host files (.compute config commit now) selected

variable {host files commit now}

/-- Where all artifacts are kept the release is made of all of them. -/
theorem publishAll_of_coversAll (hvariants : config.variants ≠ []) (h : CoversAll config) :
    ∃ selected, selected.Perm (allArtifacts config) ∧
      publishAll host files commit now config =
        releaseOf host files commit now config selected := by
  obtain ⟨selected, hselect, hall⟩ := h
  refine ⟨selected, hall, ?_⟩
  cases selected with
  | nil => exact absurd (List.map_eq_nil_iff.mp hall.nil_eq.symm) hvariants
  | cons first rest => exact publish_of_selected host files hselect

/-- Otherwise the publication is refused, or the release is made without some of them. -/
theorem publishAll_of_not_coversAll (h : ¬ CoversAll config) :
    (∃ error, publishAll host files commit now config = pure (.error (.pattern error))) ∨
    publishAll host files commit now config = pure (.error (.noArtifacts config.artifactGlob)) ∨
    ∃ selected, selected.Subperm (allArtifacts config) ∧
      ¬ allArtifacts config ⊆ selected ∧
      publishAll host files commit now config =
        releaseOf host files commit now config selected := by
  cases hselect : selectArtifacts (allArtifacts config) config.artifactGlob with
  | error error => exact .inl ⟨error, publish_of_pattern_error host files hselect⟩
  | ok selected =>
      obtain ⟨pattern, hpattern, hperm, -⟩ := selectArtifacts_spec hselect
      have hpart : selected.Subperm (allArtifacts config) :=
        hperm.subperm.trans List.filter_sublist.subperm
      have hmissing : ¬ allArtifacts config ⊆ selected := by
        intro hsubset
        -- What is selected is accepted, so nothing would be left out.
        have haccepted : ∀ artifact ∈ allArtifacts config,
            pattern.accepts artifact.fileName = true :=
          fun artifact hartifact => (List.mem_filter.mp (hperm.subset (hsubset hartifact))).2
        rw [List.filter_eq_self.mpr haccepted] at hperm
        exact h ⟨selected, hselect, hperm⟩
      cases selected with
      | nil => exact .inr (.inl (publish_of_none_selected host files hselect))
      | cons first rest =>
          exact .inr (.inr ⟨_, hpart, hmissing, publish_of_selected host files hselect⟩)

end

/-- The artifacts of all variants are released where the name of the program matches itself with
each of the identifiers behind it, and only there. For a name in which no class begins that says
that there are no two stars in a row in it. Of any other configuration no release is complete: the
publication is refused for its pattern, or because the pattern accepts nothing, or some variants
are left out. -/
theorem release_covers_variants (hvalid : config.validate = .ok ()) :
    (CoversAll config ↔
      ∃ pattern, Pattern.ofText config.artifactGlob = .ok pattern ∧
        ∀ variant ∈ config.variants,
          Matches pattern.tokens (config.artifactName variant).toList) ∧
    ('[' ∉ config.binaryName.toList →
      (CoversAll config ↔ ¬ ['*', '*'] <:+: config.binaryName.toList)) ∧
    ∀ {m : Type → Type} [Monad m] (host : ReleaseHost m) (files : Files m) (commit : String)
      (now : Instant),
      (CoversAll config → ∃ selected, selected.Perm (allArtifacts config) ∧
        publishAll host files commit now config =
          releaseOf host files commit now config selected) ∧
      (¬ CoversAll config →
        (∃ error, publishAll host files commit now config = pure (.error (.pattern error))) ∨
        publishAll host files commit now config =
          pure (.error (.noArtifacts config.artifactGlob)) ∨
        ∃ selected, selected.Subperm (allArtifacts config) ∧
          ¬ allArtifacts config ⊆ selected ∧
          publishAll host files commit now config =
            releaseOf host files commit now config selected) := by
  have hwell := validate_eq_ok.mp hvalid
  refine ⟨hwell.coversAll_iff, hwell.coversAll_iff_of_plain, fun host files commit now => ⟨?_, ?_⟩⟩
  · exact publishAll_of_coversAll hwell.variants
  · exact publishAll_of_not_coversAll

end

/-- A program whose name ends in a class. -/
def bracketed : Config :=
  { Config.ofBinary "tool*[x]" with
    variants := [.osx, { Variant.linux with os := "linux-x64" }] }

/-- The pattern wants an `x` in front of its dash, and finds it in one of the two identifiers. So
the release is made without the other variant. -/
theorem bracketed_released_in_part :
    bracketed.validate = .ok () ∧ ¬ CoversAll bracketed ∧
    (selectArtifacts (allArtifacts bracketed) bracketed.artifactGlob).map (·.map (·.fileName)) =
      .ok ["tool*[x]-linux-x64"] := by
  have hvalid : bracketed.validate = .ok () := by decide +kernel
  have hselect : (selectArtifacts (allArtifacts bracketed) bracketed.artifactGlob).map
      (·.map (·.fileName)) = .ok ["tool*[x]-linux-x64"] := by decide +kernel
  refine ⟨hvalid, fun hcovers => ?_, hselect⟩
  obtain ⟨pattern, hpattern, hmatches⟩ := (release_covers_variants hvalid).1.mp hcovers
  have hosx := ((validate_eq_ok.mp hvalid).accepts_iff hpattern _).mpr
    (hmatches .osx (List.mem_cons_self ..))
  have hrefused : (Pattern.ofText bracketed.artifactGlob).map (·.accepts "tool*[x]-osx") =
      .ok false := by decide +kernel
  rw [hpattern] at hrefused
  exact Bool.false_ne_true ((Except.ok.inj hrefused).symm.trans hosx)

end ReleasePipeline.Proofs
