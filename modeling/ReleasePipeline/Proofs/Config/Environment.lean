import ReleasePipeline.Config.Environment
import ReleasePipeline.Proofs.Config.Validation
import ReleasePipeline.Proofs.Text.Count

/-!
# `ReleasePipeline.Proofs.Config.Environment`: which configuration variables describe

A variable is set if it has a value that is not blank (`IsSet`), and else it counts as missing
(`IsUnset`). `Follows` says of a setting that it is the value of its variable as it stands, or its
default, and `Described` says so of every field of a configuration. Only the name of the program
has to be set, and only the time limit has to be of a form.

`environment_describes` draws this together: there is a configuration unless one of these two
fails, and it is the one described. What is set is not empty and the variants are the default
ones, so of all that validation looks at only three things can still be wrong.
-/

set_option autoImplicit false

namespace ReleasePipeline.Proofs

open Config (setting setToggles readTimeout staticLinkToggles)
open Text (isBlank)

/-! ### Bindings -/

section
variable {name other value : String}

/-- A name is looked up among bindings as it was bound last. -/
theorem lookup_place (entries : List (String × String)) :
    (Bindings.place name value entries).lookup other =
      if other = name then some value else entries.lookup other := by
  have hcons : ∀ (key text : String) (rest : List (String × String)),
      List.lookup other ((key, text) :: rest) =
        if other = key then some text else rest.lookup other := by
    intro key text rest
    rw [List.lookup_cons]
    by_cases hkey : other = key
    · rw [if_pos hkey, beq_iff_eq.mpr hkey]
    · rw [if_neg hkey, beq_eq_false_iff_ne.mpr hkey]
  induction entries with
  | nil => exact hcons name value []
  | cons entry rest ih =>
      obtain ⟨key, old⟩ := entry
      rw [Bindings.place]
      split
      next => exact hcons _ _ _
      next hnot =>
        split
        next hlt =>
          have hne : key ≠ name := by
            rintro rfl
            exact hnot hlt
          rw [hcons, hcons, ih]
          by_cases hkey : other = key
          · rw [if_pos hkey, if_neg (hkey ▸ hne), if_pos hkey]
          · rw [if_neg hkey, if_neg hkey]
        next hnot' =>
          -- Neither name is smaller, so the binding of the same name is replaced.
          obtain rfl : name = key := String.le_antisymm hnot' hnot
          rw [hcons, hcons]
          by_cases hkey : other = name
          · rw [if_pos hkey, if_pos hkey]
          · rw [if_neg hkey, if_neg hkey, if_neg hkey]

/-- A bound name has the value that was bound last, and all others keep theirs. -/
theorem get?_insert (bindings : Bindings) :
    (bindings.insert name value).get? other =
      if other = name then some value else bindings.get? other :=
  lookup_place bindings.entries

end

/-! ### Variables -/

/-- A variable is set to a value that is not blank. -/
def IsSet (lookup : String → Option String) (name value : String) : Prop :=
  lookup name = some value ∧ ∃ c ∈ value.toList, isBlank c = false

/-- A variable is missing or blank. -/
def IsUnset (lookup : String → Option String) (name : String) : Prop :=
  ∀ value, lookup name = some value → ∀ c ∈ value.toList, isBlank c = true

section
variable {lookup other : String → Option String} {name value : String}

/-- A setting is read exactly where its variable is set. -/
theorem setting_eq_some : setting lookup name = some value ↔ IsSet lookup name value := by
  unfold setting IsSet
  rw [Option.filter_eq_some_iff]
  refine and_congr_right fun _ => ?_
  rw [Bool.not_eq_true', Text.isBlankText, List.all_eq_false]
  simp only [Bool.not_eq_true]

/-- A setting is missing exactly where its variable is unset. One that holds only blanks counts as
unset. -/
theorem setting_eq_none : setting lookup name = none ↔ IsUnset lookup name := by
  unfold setting IsUnset
  rw [Option.filter_eq_none_iff]
  simp only [Text.isBlankText, Bool.not_eq_true', Bool.not_eq_false, List.all_eq_true]

/-- What is missing or blank is not set, and there is nothing else. -/
theorem isUnset_iff : IsUnset lookup name ↔ ¬ ∃ value, IsSet lookup name value := by
  simp only [← setting_eq_none, ← setting_eq_some]
  exact Option.eq_none_iff_forall_ne_some.trans not_exists.symm

/-- A variable is either set, to one value, or unset. -/
theorem not_isUnset_iff : ¬ IsUnset lookup name ↔ ∃ value, IsSet lookup name value :=
  (not_congr isUnset_iff).trans not_not

/-- There is something of a value that is set. -/
theorem IsSet.ne_empty (h : IsSet lookup name value) : value ≠ "" := by
  rintro rfl
  obtain ⟨-, c, hc, -⟩ := h
  cases hc

/-- A variable is set to one value only. -/
theorem IsSet.unique {value' : String}
    (h : IsSet lookup name value) (h' : IsSet lookup name value') :
    value' = value :=
  Option.some.inj (h'.1.symm.trans h.1)

/-- A setting is made of the value of its variable as it stands, or it is its default. -/
structure Follows {α : Type} (lookup : String → Option String) (name : String) (make : String → α)
    (default' actual : α) : Prop where
  set : ∀ value, IsSet lookup name value → actual = make value
  unset : IsUnset lookup name → actual = default'

/-- What is read of a variable follows it. -/
theorem follows_setting {α : Type} {make : String → α} {default' : α} (read : Option String → α)
    (hnone : read none = default') (hsome : ∀ value, read (some value) = make value) :
    Follows lookup name make default' (read (setting lookup name)) where
  set value hset := by
    rw [setting_eq_some.mpr hset]
    exact hsome value
  unset hunset := by
    rw [setting_eq_none.mpr hunset]
    exact hnone

/-- Each toggle has the value of its variable if that is set, and else the value it had. -/
theorem get?_setToggles (lookup : String → Option String) (toggles : List String) (link : Bindings)
    (name : String) : (setToggles lookup toggles link).get? name =
      if name ∈ toggles then (setting lookup name).or (link.get? name) else link.get? name := by
  induction toggles generalizing link with
  | nil => rfl
  | cons toggle rest ih =>
      have hstep : setToggles lookup (toggle :: rest) link = setToggles lookup rest
          ((setting lookup toggle).elim link (link.insert toggle)) := by
        rw [setToggles, List.foldl_cons, ← setToggles]
        cases setting lookup toggle <;> rfl
      have hnext : ((setting lookup toggle).elim link (link.insert toggle)).get? name =
          if name = toggle then (setting lookup name).or (link.get? name) else link.get? name := by
        by_cases hname : name = toggle
        · subst hname
          rw [if_pos rfl]
          cases setting lookup name with
          | none => rfl
          | some value => exact (get?_insert link).trans (if_pos rfl)
        · rw [if_neg hname]
          cases setting lookup toggle with
          | none => rfl
          | some value => exact (get?_insert link).trans (if_neg hname)
      rw [hstep, ih, hnext]
      by_cases hname : name = toggle
      · have hmem : name ∈ toggle :: rest := hname ▸ List.mem_cons_self
        simp only [if_pos hname, if_pos hmem]
        -- A toggle that comes twice is set to the same value again.
        split
        · cases setting lookup name <;> rfl
        · rfl
      · simp only [if_neg hname, List.mem_cons, or_iff_right hname]

/-! ### What variables describe -/

/-- A configuration is the one that variables describe. -/
structure Described (lookup : String → Option String) (config : Config) : Prop where
  binaryName : IsSet lookup "BINARY_NAME" config.binaryName
  staticLink : ∀ toggle ∈ staticLinkToggles,
    Follows lookup toggle some (some "yes") (config.staticLink.get? toggle)
  noOtherLink : ∀ name, name ∉ staticLinkToggles → config.staticLink.get? name = none
  resolverAddress : Follows lookup "DNS" id "114.114.114.114" config.resolverAddress
  targetBranch : Follows lookup "RELEASE_BRANCH" id "master" config.targetBranch
  credential :
    Follows lookup "GITHUB_TOKEN" (fun value => some (Secret.mk value)) none config.credential
  releaseRepository : Follows lookup "RELEASE_REPOSITORY" some none config.releaseRepository
  releaseApiUrl : Follows lookup "RELEASE_API_URL" id "https://api.github.com" config.releaseApiUrl
  sourceDir : Follows lookup "SOURCE_DIR" Path.mk ⟨"."⟩ config.sourceDir
  artifactDir : Follows lookup "ARTIFACT_DIR" Path.mk ⟨"dist"⟩ config.artifactDir
  timeoutSet : ∀ value, IsSet lookup "STEP_TIMEOUT" value →
    HoldsCount value config.stepTimeoutSeconds.toNat
  timeoutUnset : IsUnset lookup "STEP_TIMEOUT" → config.stepTimeoutSeconds = 3600
  variants : config.variants = Variant.defaults

/-- A count fits into a word. -/
theorem toNat_ofNat_of_holdsCount {n : Nat} (h : HoldsCount value n) :
    (UInt64.ofNat n).toNat = n := by
  obtain ⟨-, -, -, -, -, -, -, -, -, -, hfits⟩ := h
  refine UInt64.toNat_ofNat_of_lt' ?_
  rw [UInt64.size]
  omega

/-- The time limit is read from a value that holds a count. -/
theorem readTimeout_eq_ok {seconds : UInt64} :
    readTimeout value = .ok seconds ↔ HoldsCount value seconds.toNat := by
  rw [← readCount_trim_eq_ok]
  unfold readTimeout
  cases hread : Text.readCount (Text.trim value.toList) with
  | error fault => exact ⟨nofun, nofun⟩
  | ok n =>
      have hword := toNat_ofNat_of_holdsCount (readCount_trim_eq_ok.mp hread)
      constructor
      · rintro ⟨⟩
        rw [hword]
      · intro h
        obtain rfl : n = seconds.toNat := Except.ok.inj h
        exact congrArg Except.ok UInt64.ofNat_toNat

/-- What the variables make of a name and a time limit. -/
def settled (lookup : String → Option String) (binaryName : String) (seconds : UInt64) :
    Config where
  binaryName := binaryName
  staticLink := setToggles lookup staticLinkToggles (Config.ofBinary binaryName).staticLink
  resolverAddress := (setting lookup "DNS").getD "114.114.114.114"
  targetBranch := (setting lookup "RELEASE_BRANCH").getD "master"
  credential := (setting lookup "GITHUB_TOKEN").map Secret.mk
  releaseRepository := setting lookup "RELEASE_REPOSITORY"
  releaseApiUrl := (setting lookup "RELEASE_API_URL").getD "https://api.github.com"
  sourceDir := ((setting lookup "SOURCE_DIR").map Path.mk).getD ⟨"."⟩
  artifactDir := ((setting lookup "ARTIFACT_DIR").map Path.mk).getD ⟨"dist"⟩
  stepTimeoutSeconds := seconds
  variants := Variant.defaults

/-- A time limit is the one that is set, or the one for which nothing is said. -/
structure Limits (lookup : String → Option String) (seconds : UInt64) : Prop where
  set : ∀ value, IsSet lookup "STEP_TIMEOUT" value → HoldsCount value seconds.toNat
  unset : IsUnset lookup "STEP_TIMEOUT" → seconds = 3600

/-- Where nothing is said of a time limit, it is an hour. -/
theorem limits_of_isUnset (h : IsUnset lookup "STEP_TIMEOUT") : Limits lookup 3600 where
  set value hset := absurd h (not_isUnset_iff.mpr ⟨value, hset⟩)
  unset _ := rfl

/-- Where one is set, it is the count that is set. -/
theorem limits_of_isSet {seconds : UInt64} (h : IsSet lookup "STEP_TIMEOUT" value)
    (hcount : HoldsCount value seconds.toNat) : Limits lookup seconds where
  set other hset := by
    rw [h.unique hset]
    exact hcount
  unset hunset := absurd hunset (not_isUnset_iff.mpr ⟨value, h⟩)

/-- Without a name, or with a time limit that is no count, nothing comes of the variables. -/
theorem ofEnvironment_eq (lookup : String → Option String) : Config.ofEnvironment lookup =
    match setting lookup "BINARY_NAME", setting lookup "STEP_TIMEOUT" with
    | none, _ => .error .noBinaryName
    | some binaryName, none => .ok (settled lookup binaryName 3600)
    | some binaryName, some value => (readTimeout value).map (settled lookup binaryName) := by
  unfold Config.ofEnvironment
  cases setting lookup "BINARY_NAME" with
  | none => rfl
  | some binaryName =>
      cases setting lookup "STEP_TIMEOUT" with
      | none => rfl
      | some value => cases hread : readTimeout value <;> simp only [hread] <;> rfl

/-- A configuration comes of a name that is set and a time limit. -/
theorem ofEnvironment_eq_ok {config : Config} : Config.ofEnvironment lookup = .ok config ↔
    ∃ binaryName seconds, IsSet lookup "BINARY_NAME" binaryName ∧ Limits lookup seconds ∧
      config = settled lookup binaryName seconds := by
  rw [ofEnvironment_eq]
  simp only [← setting_eq_some]
  -- Only the name and the time limit can be at fault, so these are the cases.
  cases hname : setting lookup "BINARY_NAME" with
  | none =>
      refine ⟨nofun, ?_⟩
      rintro ⟨binaryName, seconds, hset, -⟩
      cases hset
  | some binaryName =>
      cases htimeout : setting lookup "STEP_TIMEOUT" with
      | none =>
          have hunset := setting_eq_none.mp htimeout
          constructor
          · rintro ⟨⟩
            exact ⟨binaryName, 3600, rfl, limits_of_isUnset hunset, rfl⟩
          · rintro ⟨_, seconds, ⟨⟩, hlimits, rfl⟩
            rw [hlimits.unset hunset]
      | some value =>
          have hset := setting_eq_some.mp htimeout
          simp only [map_eq_ok, readTimeout_eq_ok]
          constructor
          · rintro ⟨seconds, hcount, rfl⟩
            exact ⟨binaryName, seconds, rfl, limits_of_isSet hset hcount, rfl⟩
          · rintro ⟨_, seconds, ⟨⟩, hlimits, rfl⟩
            exact ⟨seconds, hlimits.set value hset, rfl⟩

/-- There is a time limit unless it is set to something else than a count. -/
theorem exists_limits_iff :
    (∃ seconds, Limits lookup seconds) ↔
      ¬ ∃ value, IsSet lookup "STEP_TIMEOUT" value ∧ ∀ n, ¬ HoldsCount value n := by
  constructor
  · rintro ⟨seconds, hlimits⟩ ⟨value, hset, hnone⟩
    exact hnone _ (hlimits.set value hset)
  · intro h
    by_cases hunset : IsUnset lookup "STEP_TIMEOUT"
    · exact ⟨3600, limits_of_isUnset hunset⟩
    · obtain ⟨value, hset⟩ := not_isUnset_iff.mp hunset
      obtain ⟨n, hcount⟩ : ∃ n, HoldsCount value n := by
        by_contra hnone
        exact h ⟨value, hset, not_exists.mp hnone⟩
      refine ⟨UInt64.ofNat n, limits_of_isSet hset ?_⟩
      rw [toNat_ofNat_of_holdsCount hcount]
      exact hcount

/-- The configuration that comes of variables is the one that they describe. -/
theorem described_settled {seconds : UInt64} (hname : IsSet lookup "BINARY_NAME" value)
    (hlimits : Limits lookup seconds) : Described lookup (settled lookup value seconds) where
  binaryName := hname
  staticLink toggle htoggle := by
    -- The default toggles are the same for every name, so they can be computed for the empty one.
    have hdefault : ∀ toggle ∈ staticLinkToggles,
        (Config.ofBinary value).staticLink.get? toggle = some "yes" :=
      show ∀ toggle ∈ staticLinkToggles,
        (Config.ofBinary "").staticLink.get? toggle = some "yes" by decide
    show Follows lookup toggle some (some "yes") (Bindings.get? (setToggles _ _ _) toggle)
    rw [get?_setToggles, if_pos htoggle, hdefault toggle htoggle]
    exact follows_setting (Option.or · (some "yes")) rfl fun _ => rfl
  noOtherLink name hname := by
    have htoggles : ∀ entry ∈ (Config.ofBinary value).staticLink.entries,
        entry.1 ∈ staticLinkToggles :=
      show ∀ entry ∈ (Config.ofBinary "").staticLink.entries, entry.1 ∈ staticLinkToggles by decide
    have hdefault : (Config.ofBinary value).staticLink.get? name = none := by
      refine List.lookup_eq_none_iff.mpr fun entry hentry => bne_iff_ne.mpr ?_
      rintro rfl
      exact hname (htoggles entry hentry)
    show Bindings.get? (setToggles _ _ _) name = none
    rw [get?_setToggles, if_neg hname, hdefault]
  resolverAddress := follows_setting (Option.getD · _) rfl fun _ => rfl
  targetBranch := follows_setting (Option.getD · _) rfl fun _ => rfl
  credential := follows_setting (Option.map Secret.mk) rfl fun _ => rfl
  releaseRepository := follows_setting (fun set => set) rfl fun _ => rfl
  releaseApiUrl := follows_setting (Option.getD · _) rfl fun _ => rfl
  sourceDir := follows_setting (fun set => (set.map Path.mk).getD _) rfl fun _ => rfl
  artifactDir := follows_setting (fun set => (set.map Path.mk).getD _) rfl fun _ => rfl
  timeoutSet := hlimits.set
  timeoutUnset := hlimits.unset
  variants := rfl

/-- The variables that a configuration is made of. -/
def configVariables : List String :=
  ["BINARY_NAME", "OPENSSL_STATIC", "SODIUM_STATIC", "SODIUM_BUILD_STATIC", "DNS", "RELEASE_BRANCH",
    "GITHUB_TOKEN", "RELEASE_REPOSITORY", "RELEASE_API_URL", "SOURCE_DIR", "ARTIFACT_DIR",
    "STEP_TIMEOUT"]

/-- Variables that are set to the same values describe the same. -/
theorem ofEnvironment_congr
    (h : ∀ name ∈ configVariables, ∀ value, IsSet lookup name value ↔ IsSet other name value) :
    Config.ofEnvironment lookup = Config.ofEnvironment other := by
  -- A configuration is made of settings, and a setting only looks at what a variable is set to.
  have hsetting : ∀ name ∈ configVariables, setting lookup name = setting other name := by
    intro name hname
    refine Option.ext fun value => ?_
    rw [setting_eq_some, setting_eq_some]
    exact h name hname value
  have htoggles : ∀ link,
      setToggles lookup staticLinkToggles link = setToggles other staticLinkToggles link := by
    have hmem : ∀ toggle ∈ staticLinkToggles, toggle ∈ configVariables := by decide
    intro link
    refine List.foldl_ext _ _ _ fun link toggle htoggle => ?_
    rw [hsetting toggle (hmem toggle htoggle)]
  have hsettled : settled lookup = settled other := by
    funext binaryName seconds
    unfold settled
    rw [htoggles, hsetting "DNS" (by decide), hsetting "RELEASE_BRANCH" (by decide),
      hsetting "GITHUB_TOKEN" (by decide), hsetting "RELEASE_REPOSITORY" (by decide),
      hsetting "RELEASE_API_URL" (by decide), hsetting "SOURCE_DIR" (by decide),
      hsetting "ARTIFACT_DIR" (by decide)]
  rw [ofEnvironment_eq, ofEnvironment_eq, hsettled, hsetting "BINARY_NAME" (by decide),
    hsetting "STEP_TIMEOUT" (by decide)]

/-! ### What is left to validate -/

/-- What can be wrong with a configuration that variables describe. -/
structure Sound (config : Config) : Prop where
  name : ∀ c ∈ config.binaryName.toList, c ≠ '/' ∧ c ≠ '\\' ∧ isBlank c = false
  address : "http://".toList <+: config.releaseApiUrl.toList ∨
    "https://".toList <+: config.releaseApiUrl.toList
  timeout : config.stepTimeoutSeconds ≠ 0

/-- Nothing else can be wrong with it. -/
theorem Described.wellFormed_iff {config : Config} (h : Described lookup config) :
    WellFormed config ↔ Sound config := by
  constructor
  · exact fun hformed => ⟨fun c hc => isForbiddenInName_eq_false_iff.mp (hformed.nameClean c hc),
      isWebAddress_iff.mp hformed.address, hformed.timeout⟩
  · intro hsound
    -- What `Sound` leaves out holds of all that is read: a branch that is set is not blank, and the
    -- variants are the default ones.
    have hbranch : config.targetBranch ≠ "" := by
      by_cases hunset : IsUnset lookup "RELEASE_BRANCH"
      · rw [h.targetBranch.unset hunset]
        decide
      · obtain ⟨branch, hset⟩ := not_isUnset_iff.mp hunset
        rw [h.targetBranch.set branch hset]
        exact hset.ne_empty
    exact
      { name := h.binaryName.ne_empty
        nameClean := fun c hc => isForbiddenInName_eq_false_iff.mpr (hsound.name c hc)
        branch := hbranch
        address := isWebAddress_iff.mpr hsound.address
        timeout := hsound.timeout
        variants := by
          rw [h.variants]
          decide
        os := by
          rw [h.variants]
          decide
        distinct := by
          rw [h.variants]
          decide }

/-- What is not sound has a name that no file can have, no web address, or no time. -/
theorem not_sound_iff {config : Config} :
    ¬ Sound config ↔
      (∃ c ∈ config.binaryName.toList, c = '/' ∨ c = '\\' ∨ isBlank c = true) ∨
        (¬ "http://".toList <+: config.releaseApiUrl.toList ∧
          ¬ "https://".toList <+: config.releaseApiUrl.toList) ∨
        config.stepTimeoutSeconds = 0 := by
  constructor
  · intro hnot
    by_contra hnone
    obtain ⟨hname, hothers⟩ := not_or.mp hnone
    obtain ⟨haddress, htimeout⟩ := not_or.mp hothers
    refine hnot ⟨fun c hc => ?_, ?_, htimeout⟩
    · have hclean := not_exists.mp hname c
      rw [not_and, not_or, not_or, Bool.not_eq_true] at hclean
      exact hclean hc
    · by_contra hneither
      exact haddress (not_or.mp hneither)
  · rintro h ⟨hname, haddress, htimeout⟩
    rcases h with ⟨c, hc, hbad⟩ | ⟨hhttp, hhttps⟩ | hzero
    · obtain ⟨hslash, hbackslash, hblank⟩ := hname c hc
      rw [hblank] at hbad
      simp [hslash, hbackslash] at hbad
    · exact haddress.elim hhttp hhttps
    · exact htimeout hzero

/-- **Which configuration variables describe.** There is none if the program has no name, or if
the time limit is set to something else than a count, and only then. Where there is one it is the
one described: every setting is the value of its variable as it stands, or its default. Of all
that validation looks at, only the name, the address and the time limit can be wrong then. Whether
a variable is blank or missing makes no difference, and neither does any variable of another
name. -/
theorem environment_describes (lookup : String → Option String) :
    ((∃ error, Config.ofEnvironment lookup = .error error) ↔
      IsUnset lookup "BINARY_NAME" ∨
        ∃ value, IsSet lookup "STEP_TIMEOUT" value ∧ ∀ n, ¬ HoldsCount value n) ∧
    (∀ config, Config.ofEnvironment lookup = .ok config → Described lookup config ∧
      ((∃ error, config.validate = .error error) ↔
        (∃ c ∈ config.binaryName.toList, c = '/' ∨ c = '\\' ∨ isBlank c = true) ∨
          (¬ "http://".toList <+: config.releaseApiUrl.toList ∧
            ¬ "https://".toList <+: config.releaseApiUrl.toList) ∨
          config.stepTimeoutSeconds = 0)) ∧
    ∀ other, (∀ name ∈ configVariables, ∀ value, IsSet lookup name value ↔ IsSet other name value) →
      Config.ofEnvironment other = Config.ofEnvironment lookup := by
  refine ⟨?_, fun config hconfig => ?_, fun other hother => (ofEnvironment_congr hother).symm⟩
  · have hok : (∃ config, Config.ofEnvironment lookup = .ok config) ↔
        (∃ binaryName, IsSet lookup "BINARY_NAME" binaryName) ∧
          ∃ seconds, Limits lookup seconds := by
      simp only [ofEnvironment_eq_ok]
      constructor
      · rintro ⟨_, binaryName, seconds, hname, hlimits, -⟩
        exact ⟨⟨binaryName, hname⟩, seconds, hlimits⟩
      · rintro ⟨⟨binaryName, hname⟩, seconds, hlimits⟩
        exact ⟨_, binaryName, seconds, hname, hlimits, rfl⟩
    rw [exists_error_iff, hok, isUnset_iff, not_and_or, exists_limits_iff, not_not]
  · obtain ⟨binaryName, seconds, hname, hlimits, rfl⟩ := ofEnvironment_eq_ok.mp hconfig
    have hdescribed := described_settled hname hlimits
    refine ⟨hdescribed, exists_error_iff.trans ?_⟩
    have hok : (∃ done, (settled lookup binaryName seconds).validate = .ok done) ↔
        WellFormed (settled lookup binaryName seconds) :=
      ⟨fun ⟨_, h⟩ => validate_eq_ok.mp h, fun h => ⟨(), validate_eq_ok.mpr h⟩⟩
    rw [hok, hdescribed.wellFormed_iff]
    exact not_sound_iff

/-- Blanks around the time limit do not count, a plus sign is in order, and so are zeros in
front. -/
example : (Config.ofEnvironment fun name =>
    if name = "STEP_TIMEOUT" then some "\t+060 " else some "seeker").map (·.stepTimeoutSeconds) =
      .ok 60 := by
  decide +kernel

end

end ReleasePipeline.Proofs
