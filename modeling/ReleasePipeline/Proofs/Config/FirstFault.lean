import ReleasePipeline.Proofs.Config.Validation

/-!
# `ReleasePipeline.Proofs.Config.FirstFault`: what validation reports

Validation looks at one condition after the other. `conditions` is the list of them, in that
order, each with what is reported where it does not hold. The last ones are about the variants,
one for each of them: that its identifier is not empty, and that it is none of those before.

`validate_reports_first` says that a configuration is accepted exactly if all of them hold, and
that what is reported else is the fault of the first one that does not (`FirstFault`).
-/

set_option autoImplicit false

namespace ReleasePipeline.Proofs

open Config (validateVariants)

/-- A condition, and what is reported where it does not hold. -/
structure Condition where
  holds : Prop
  fault : ConfigError

/-- What is asked of a variant behind others. -/
def variantCondition (earlier : List Variant) (variant : Variant) : Condition where
  holds := variant.os ≠ "" ∧ ∀ other ∈ earlier, other.os ≠ variant.os
  fault := if variant.os = "" then .emptyOs variant.name else .duplicateOs variant.os

/-- What is asked of a configuration, in the order in which it is looked at. -/
def conditions (config : Config) : List Condition :=
  [⟨config.binaryName ≠ "", .emptyBinaryName⟩,
   ⟨∀ c ∈ config.binaryName.toList, c ≠ '/' ∧ c ≠ '\\' ∧ Text.isBlank c = false,
    .badBinaryName config.binaryName⟩,
   ⟨config.targetBranch ≠ "", .emptyTargetBranch⟩,
   ⟨"http://".toList <+: config.releaseApiUrl.toList ∨
     "https://".toList <+: config.releaseApiUrl.toList,
    .badApiUrl⟩,
   ⟨0 < config.stepTimeoutSeconds, .zeroTimeout⟩,
   ⟨config.variants ≠ [], .noVariants⟩] ++
  config.variants.mapIdx fun index variant => variantCondition (config.variants.take index) variant

/-- The first of some conditions that does not hold is at fault. -/
def FirstFault (conditions : List Condition) (fault : ConfigError) : Prop :=
  ∃ front condition back, conditions = front ++ condition :: back ∧
    (∀ earlier ∈ front, earlier.holds) ∧ ¬ condition.holds ∧ condition.fault = fault

section
variable {condition : Condition} {rest : List Condition} {fault : ConfigError}

/-- Where no condition is asked for, there is no fault. -/
theorem not_firstFault_nil : ¬ FirstFault [] fault := by
  rintro ⟨front, condition, back, hnil, -⟩
  cases front <;> cases hnil

/-- Either the first one is at fault, or it holds and the first fault is among the others. -/
theorem firstFault_cons :
    FirstFault (condition :: rest) fault ↔
      ¬ condition.holds ∧ condition.fault = fault ∨ condition.holds ∧ FirstFault rest fault := by
  constructor
  · rintro ⟨front, found, back, hsplit, hfront, hnot, hfault⟩
    cases front with
    | nil =>
        cases hsplit
        exact .inl ⟨hnot, hfault⟩
    | cons first more =>
        cases hsplit
        obtain ⟨hfirst, hmore⟩ := List.forall_mem_cons.mp hfront
        exact .inr ⟨hfirst, more, found, back, rfl, hmore, hnot, hfault⟩
  · rintro (⟨hnot, hfault⟩ | ⟨hholds, front, found, back, rfl, hfront, hnot, hfault⟩)
    · exact ⟨[], condition, rest, rfl, List.forall_mem_nil _, hnot, hfault⟩
    · exact ⟨condition :: front, found, back, rfl,
        List.forall_mem_cons.mpr ⟨hholds, hfront⟩, hnot, hfault⟩

/-- A test that refuses is a condition in front of what is looked at behind it. -/
theorem ite_error_iff_firstFault {p holds : Prop} [Decidable p] {error : ConfigError}
    {result : Except ConfigError Unit} (htest : holds ↔ ¬ p)
    (hrest : result = .error fault ↔ FirstFault rest fault) :
    (if p then .error error else result) = .error fault ↔
      FirstFault (⟨holds, error⟩ :: rest) fault := by
  rw [firstFault_cons, ← hrest, htest, not_not]
  by_cases h : p
  · rw [if_pos h]
    exact ⟨fun heq => .inl ⟨h, Except.error.inj heq⟩, fun heq =>
      heq.elim (fun hfault => congrArg Except.error hfault.2) fun hholds => absurd h hholds.1⟩
  · rw [if_neg h]
    exact ⟨fun heq => .inr ⟨h, heq⟩,
      fun heq => heq.elim (fun hfault => absurd hfault.1 h) And.right⟩

end

/-- Among variants behind others the first one is at fault whose identifier is empty or was seen
before. -/
theorem validateVariants_eq_error (front variants : List Variant) {fault : ConfigError} :
    validateVariants (front.reverse.map (·.os)) variants = .error fault ↔
      FirstFault (variants.mapIdx fun index variant =>
        variantCondition (front ++ variants.take index) variant) fault := by
  -- The variants before are what was put in front of those seen.
  induction variants generalizing front with
  | nil => exact ⟨nofun, fun h => absurd h not_firstFault_nil⟩
  | cons variant rest ih =>
      have hrest : validateVariants (variant.os :: front.reverse.map (·.os)) rest = .error fault ↔
          FirstFault (rest.mapIdx fun index other =>
            variantCondition (front ++ (variant :: rest).take (index + 1)) other) fault := by
        simpa using ih (front ++ [variant])
      have hseen : variant.os ∈ front.reverse.map (·.os) ↔
          ∃ other ∈ front, other.os = variant.os := by
        simp
      rw [List.mapIdx_cons, List.take_zero, List.append_nil, validateVariants]
      by_cases hempty : variant.os = ""
      · have hnot : ¬ (variantCondition front variant).holds := fun h => h.1 hempty
        have hfault : (variantCondition front variant).fault = .emptyOs variant.name :=
          if_pos hempty
        rw [if_pos hempty, firstFault_cons, hfault]
        exact ⟨fun heq => .inl ⟨hnot, Except.error.inj heq⟩, fun heq =>
          heq.elim (fun hfault => congrArg Except.error hfault.2)
            fun hholds => absurd hholds.1 hnot⟩
      · have hfault : (variantCondition front variant).fault = .duplicateOs variant.os :=
          if_neg hempty
        have hholds : (variantCondition front variant).holds ↔
            ¬ variant.os ∈ front.reverse.map (·.os) := by
          rw [hseen, not_exists]
          simp only [not_and]
          exact and_iff_right hempty
        rw [if_neg hempty, ← hfault]
        exact ite_error_iff_firstFault hholds hrest

/-- What validation reports is the fault of the first condition that does not hold. -/
theorem validate_eq_error {config : Config} {fault : ConfigError} :
    config.validate = .error fault ↔ FirstFault (conditions config) fault := by
  have hclean : (∀ c ∈ config.binaryName.toList, c ≠ '/' ∧ c ≠ '\\' ∧ Text.isBlank c = false) ↔
      ¬ config.binaryName.toList.any Config.isForbiddenInName = true := by
    simp only [← isForbiddenInName_eq_false_iff, Bool.not_eq_true, List.any_eq_false]
  have haddress : ("http://".toList <+: config.releaseApiUrl.toList ∨
      "https://".toList <+: config.releaseApiUrl.toList) ↔
        ¬ Config.isWebAddress config.releaseApiUrl = false := by
    rw [← isWebAddress_iff, Bool.not_eq_false]
  have htimeout : 0 < config.stepTimeoutSeconds ↔ ¬ config.stepTimeoutSeconds = 0 :=
    UInt64.pos_iff_ne_zero
  have hvariants := @validateVariants_eq_error [] config.variants fault
  unfold Config.validate conditions
  refine ite_error_iff_firstFault Iff.rfl ?_
  refine ite_error_iff_firstFault hclean ?_
  refine ite_error_iff_firstFault Iff.rfl ?_
  refine ite_error_iff_firstFault haddress ?_
  refine ite_error_iff_firstFault htimeout ?_
  exact ite_error_iff_firstFault Iff.rfl hvariants

/-- **Validation reports the first fault.** A configuration is accepted exactly if the name of the
program is clean, there is a branch, a web address, some time and a variant, and the identifiers
of the variants are not empty and all different. What is reported else is the first of these that
fails, and of the variants the first one whose identifier is empty or was there before. -/
theorem validate_reports_first (config : Config) :
    (config.validate = .ok () ↔
      (config.binaryName ≠ "" ∧
        ∀ c ∈ config.binaryName.toList, c ≠ '/' ∧ c ≠ '\\' ∧ Text.isBlank c = false) ∧
      config.targetBranch ≠ "" ∧
      ("http://".toList <+: config.releaseApiUrl.toList ∨
        "https://".toList <+: config.releaseApiUrl.toList) ∧
      0 < config.stepTimeoutSeconds ∧ config.variants ≠ [] ∧
      (∀ variant ∈ config.variants, variant.os ≠ "") ∧ (config.variants.map (·.os)).Nodup) ∧
    ∀ fault, config.validate = .error fault ↔ FirstFault (conditions config) fault := by
  refine ⟨?_, fun fault => validate_eq_error⟩
  rw [validate_eq_ok]
  constructor
  · intro h
    exact ⟨⟨h.name, fun c hc => isForbiddenInName_eq_false_iff.mp (h.nameClean c hc)⟩, h.branch,
      isWebAddress_iff.mp h.address, UInt64.pos_iff_ne_zero.mpr h.timeout, h.variants, h.os,
      h.distinct⟩
  · rintro ⟨⟨hname, hclean⟩, hbranch, haddress, htimeout, hvariants, hos, hdistinct⟩
    exact ⟨hname, fun c hc => isForbiddenInName_eq_false_iff.mpr (hclean c hc), hbranch,
      isWebAddress_iff.mpr haddress, UInt64.pos_iff_ne_zero.mp htimeout, hvariants, hos, hdistinct⟩

end ReleasePipeline.Proofs
