import Mathlib.Data.List.Nodup
import ReleasePipeline.Config.Validation
import ReleasePipeline.Proofs.Support.Except

/-!
# `ReleasePipeline.Proofs.Config.Validation`: what a valid configuration promises

`WellFormed` lists what `Config.validate` looks at, one field for each test, and `validate_eq_ok`
says that a configuration is valid exactly when all of it holds. Of the variants it promises that
their identifiers are not empty and all different.
-/

set_option autoImplicit false

namespace ReleasePipeline.Proofs

open Config (isForbiddenInName isWebAddress startsWith validateVariants)

/-- What may stand in the name of a program. -/
theorem isForbiddenInName_eq_false_iff {c : Char} :
    isForbiddenInName c = false ↔ c ≠ '/' ∧ c ≠ '\\' ∧ Text.isBlank c = false := by
  unfold isForbiddenInName
  rw [Bool.or_eq_false_iff, Bool.or_eq_false_iff, beq_eq_false_iff_ne, beq_eq_false_iff_ne,
    and_assoc]

/-- What an address of the web begins with. -/
theorem isWebAddress_iff {address : String} :
    isWebAddress address = true ↔
      "http://".toList <+: address.toList ∨ "https://".toList <+: address.toList := by
  unfold isWebAddress startsWith
  rw [Bool.or_eq_true, List.isPrefixOf_iff_prefix, List.isPrefixOf_iff_prefix]

/-- Identifiers are accepted when they are not empty, were not seen before, and are all
different. -/
theorem validateVariants_eq_ok {seen : List String} {variants : List Variant} :
    validateVariants seen variants = .ok () ↔
      (∀ variant ∈ variants, variant.os ≠ "" ∧ variant.os ∉ seen) ∧
        (variants.map (·.os)).Nodup := by
  induction variants generalizing seen with
  | nil => simp [validateVariants]
  | cons variant rest ih =>
      rw [validateVariants]
      by_cases hempty : variant.os = ""
      · simp [hempty]
      · rw [if_neg hempty]
        by_cases hseen : variant.os ∈ seen
        · simp [hseen]
        · rw [if_neg hseen, ih, List.map_cons, List.nodup_cons, List.forall_mem_cons]
          -- What is new to the rest is what is new to all and differs from the first.
          have hnew : (∀ other ∈ rest, other.os ≠ "" ∧ other.os ∉ variant.os :: seen) ↔
              (∀ other ∈ rest, other.os ≠ "" ∧ other.os ∉ seen) ∧
                variant.os ∉ rest.map (·.os) := by
            simp only [List.mem_cons, not_or, List.mem_map, not_exists, not_and]
            constructor
            · intro h
              exact ⟨fun other hother => ⟨(h other hother).1, (h other hother).2.2⟩,
                fun other hother => (h other hother).2.1⟩
            · rintro ⟨hrest, hdiffers⟩ other hother
              exact ⟨(hrest other hother).1, hdiffers other hother, (hrest other hother).2⟩
          rw [hnew]
          constructor
          · rintro ⟨⟨hrest, hdiffers⟩, hnodup⟩
            exact ⟨⟨⟨hempty, hseen⟩, hrest⟩, hdiffers, hnodup⟩
          · rintro ⟨⟨-, hrest⟩, hdiffers, hnodup⟩
            exact ⟨⟨hrest, hdiffers⟩, hnodup⟩

/-- What a configuration has to be like to be worked with. -/
structure WellFormed (config : Config) : Prop where
  name : config.binaryName ≠ ""
  nameClean : ∀ c ∈ config.binaryName.toList, isForbiddenInName c = false
  branch : config.targetBranch ≠ ""
  address : isWebAddress config.releaseApiUrl = true
  timeout : config.stepTimeoutSeconds ≠ 0
  variants : config.variants ≠ []
  os : ∀ variant ∈ config.variants, variant.os ≠ ""
  distinct : (config.variants.map (·.os)).Nodup

/-- A configuration is valid exactly when it is well formed. -/
theorem validate_eq_ok {config : Config} : config.validate = .ok () ↔ WellFormed config := by
  unfold Config.validate
  simp only [ite_error_eq_ok, validateVariants_eq_ok]
  constructor
  · rintro ⟨hname, hclean, hbranch, haddress, htimeout, hvariants, hos, hdistinct⟩
    exact ⟨hname, by simpa using hclean, hbranch, by simpa using haddress, htimeout, hvariants,
      fun variant hvariant => (hos variant hvariant).1, hdistinct⟩
  · intro h
    exact ⟨h.name, by simpa using h.nameClean, h.branch, by simp [h.address], h.timeout,
      h.variants, fun variant hvariant => ⟨h.os variant hvariant, by simp⟩, h.distinct⟩

/-- The identifier of a variant tells which one it is. -/
theorem WellFormed.os_inj {config : Config} (h : WellFormed config) {a b : Variant}
    (ha : a ∈ config.variants) (hb : b ∈ config.variants) (hos : a.os = b.os) : a = b :=
  List.inj_on_of_nodup_map h.distinct ha hb hos

end ReleasePipeline.Proofs
