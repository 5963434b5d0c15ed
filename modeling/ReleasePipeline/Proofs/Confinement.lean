import ReleasePipeline.Proofs.Execution.Places
import ReleasePipeline.Proofs.Pipeline.Collect

/-!
# `ReleasePipeline.Proofs.Confinement`: outputs that stay apart and in the artifact directory

Every output of a pipeline has a name that is followed from the artifact directory (`calledOf`). A
valid configuration has a clean name for its program, but nothing is asked of the identifiers of
the variants except that they are different texts. An identifier with separators can lead up
again, or lead where another one leads.

`outputs_confined` says what follows from that. Which outputs are below the artifact directory
depends on the routes of their names alone, and they are apart and below it whenever these names
lead down step by step, which those of identifiers without separators do.
-/

set_option autoImplicit false

namespace ReleasePipeline.Proofs

open ReleasePipeline.Path (enter resolve)

/-! ### Routes that stay below a place -/

/-- A route that leads up from a place comes back by the same names, and goes on from there. -/
def Route.Returns (route : Route) (home : Place) : Prop :=
  ∃ name rest, route.downs = home.drop (home.length - route.ups) ++ name :: rest

/-- A route leads below the place that it starts from when it returns there. -/
theorem Route.inside_follow_iff (route : Route) (home : Place) :
    Inside home (route.follow home) ↔ route.Returns home := by
  unfold Inside Route.Returns Route.follow
  have hsplit : ∀ behind : List String,
      home ++ behind = home.take (home.length - route.ups) ++
        (home.drop (home.length - route.ups) ++ behind) := by
    intro behind
    rw [← List.append_assoc, List.take_append_drop]
  constructor
  · rintro ⟨name, rest, heq⟩
    rw [hsplit] at heq
    exact ⟨name, rest, List.append_cancel_left heq⟩
  · rintro ⟨name, rest, heq⟩
    exact ⟨name, rest, by rw [heq, hsplit]⟩

/-- A path leads below a place: by itself, or from there. -/
def LeadsBelow (home : Place) (path : Path) : Prop :=
  if path.isAbsolute then Inside home (resolve [] path) else (Route.ofPath path).Returns home

/-- Whether a path leads below a place can be told without the place, unless the path climbs out of
it and comes back. -/
theorem inside_resolve_iff (home : Place) (path : Path) :
    Inside home (resolve home path) ↔ LeadsBelow home path := by
  unfold LeadsBelow
  cases habsolute : path.isAbsolute with
  | true =>
      have hsame : resolve home path = resolve [] path := by
        unfold resolve
        rw [habsolute, if_pos rfl, if_pos rfl]
      rw [hsame, if_pos rfl]
  | false =>
    rw [Route.resolve_eq_follow habsolute, if_neg Bool.false_ne_true, Route.inside_follow_iff]

/-- Even an empty text is cut into one name. -/
theorem names_ne_nil (path : Path) : path.names ≠ [] := by
  unfold Path.names
  rw [pieces_eq_splitOnP]
  exact mt List.map_eq_nil_iff.mp (List.splitOnP_ne_nil _ _)

/-- Names that all lead somewhere lead down step by step. -/
theorem foldl_enter_of_isName {names : List String} (h : ∀ name ∈ names, IsName name)
    (place : Place) :
    names.foldl enter place = place ++ names := by
  induction names generalizing place with
  | nil => exact (List.append_nil place).symm
  | cons name rest ih =>
      obtain ⟨hname, hrest⟩ := List.forall_mem_cons.mp h
      rw [List.foldl_cons, enter_of_isName hname, ih hrest, List.append_assoc,
        List.singleton_append]

/-- A path whose names all lead somewhere is a relative one. -/
theorem not_isAbsolute_of_isName {path : Path} (h : ∀ name ∈ path.names, IsName name) :
    path.isAbsolute = false := by
  obtain ⟨text⟩ := path
  refine beq_eq_false_iff_ne.mpr fun hhead => ?_
  obtain ⟨rest, hrest⟩ := List.head?_eq_some_iff.mp hhead
  have hempty : "" ∈ (Path.mk text).names := by
    unfold Path.names
    rw [show text.toList = '/' :: rest from hrest]
    exact List.mem_map.mpr ⟨[], List.mem_cons_self, rfl⟩
  exact (h "" hempty).notEmpty rfl

/-- So it leads from a place to what its names spell below it. -/
theorem resolve_of_isName {path : Path} (h : ∀ name ∈ path.names, IsName name) (home : Place) :
    resolve home path = home ++ path.names := by
  unfold resolve
  rw [not_isAbsolute_of_isName h, if_neg Bool.false_ne_true]
  exact foldl_enter_of_isName h home

/-! ### What outputs are called -/

/-- The report of a variant as it is called from the artifact directory. An absolute identifier
makes the path of the report absolute. -/
def reportCalled (os : String) : Path :=
  if (Path.mk os).isAbsolute then ⟨os ++ ".json"⟩ else ⟨"reports/" ++ (os ++ ".json")⟩

/-- The outputs of a variant as they are called from the artifact directory. -/
def calledOf (config : Config) (variant : Variant) : List Path :=
  [⟨config.artifactName variant⟩, reportCalled variant.os]

/-- The outputs of all variants as they are called from the artifact directory. -/
def called (config : Config) : List Path :=
  config.variants.flatMap (calledOf config)

/-- The outputs of all variants. -/
def outputs (config : Config) : List Path :=
  config.variants.flatMap (outputsOf config)

/-- All outputs are different files below the artifact directory, for a pipeline that runs in some
directory. -/
structure Confined (config : Config) (here : Place) : Prop where
  apart : ((outputs config).map (resolve here)).Nodup
  below : ∀ path ∈ outputs config, Inside (resolve here config.artifactPath) (resolve here path)

/-- A path into the folder of the reports has the name of the folder in front of its other names. -/
theorem names_reports (name : String) :
    (Path.mk ("reports/" ++ name)).names = "reports" :: (Path.mk name).names := by
  have hslash : "reports/" = "reports" ++ "/" := by decide
  rw [hslash, names_append_slash, names_of_name isName_reports.noSlash, List.singleton_append]

section
variable {config : Config}

/-- A report is where its name leads from the artifact directory. -/
theorem resolve_report_eq_called (config : Config) (os : String) (here : Place) :
    resolve here ((ReportStore.ofConfig config).pathFor os) =
      resolve (resolve here config.artifactPath) (reportCalled os) := by
  have hpath : resolve here ((ReportStore.ofConfig config).pathFor os) =
      resolve (resolve here config.artifactPath ++ ["reports"]) ⟨os ++ ".json"⟩ := by
    unfold ReportStore.pathFor ReportStore.ofConfig
    rw [resolve_join_eq_resolve, resolve_join isName_reports]
  rw [hpath]
  generalize resolve here config.artifactPath = home
  unfold reportCalled
  -- Joining an absolute identifier drops the folder that stands in front of it.
  cases habsolute : (Path.mk os).isAbsolute with
  | true =>
      have hos : os ≠ "" := by
        rintro rfl
        exact absurd habsolute (by decide)
      rw [if_pos rfl]
      unfold resolve
      rw [isAbsolute_append hos, habsolute, if_pos rfl, if_pos rfl]
  | false =>
      have hjson : (Path.mk (os ++ ".json")).isAbsolute = false := by
        by_cases hos : os = ""
        · subst hos
          decide
        · rw [isAbsolute_append hos, habsolute]
      have hrelative : (Path.mk ("reports/" ++ (os ++ ".json"))).isAbsolute = false := by
        rw [isAbsolute_append (by decide)]
        decide
      rw [if_neg Bool.false_ne_true]
      unfold resolve
      rw [hjson, hrelative, if_neg Bool.false_ne_true, if_neg Bool.false_ne_true, names_reports,
        List.foldl_cons, enter_of_isName isName_reports]

/-- So are all outputs. -/
theorem map_resolve_outputs (config : Config) (here : Place) :
    (outputs config).map (resolve here) =
      (called config).map (resolve (resolve here config.artifactPath)) := by
  unfold outputs called
  rw [List.map_flatMap, List.map_flatMap]
  refine List.flatMap_congr fun variant _ => ?_
  show [resolve here (Artifact.ofVariant config variant).path, resolve here
    ((ReportStore.ofConfig config).pathFor variant.os)] = [_, _]
  rw [resolve_report_eq_called]
  unfold Artifact.ofVariant
  rw [resolve_join_eq_resolve]

/-- An artifact is not called what a report is, since the name of the program has no separator. -/
theorem artifactName_ne_report (hname : '/' ∉ config.binaryName.toList) (variant : Variant)
    (os : String) : config.artifactName variant ≠ "reports/" ++ (os ++ ".json") := by
  intro heq
  have htext := congrArg String.toList heq
  rw [artifactName_toList, String.toList_append] at htext
  -- Up to the first separator one of them has a dash.
  have hfirst := congrArg (List.takeWhile (· ≠ '/')) htext
  have hdash :
      '-' ∈ (config.binaryName.toList ++ '-' :: variant.os.toList).takeWhile (· ≠ '/') := by
    rw [List.takeWhile_append_of_pos fun c hc => decide_eq_true (ne_of_mem_of_not_mem hc hname)]
    simp
  have hreports : ("reports/".toList ++ (os ++ ".json").toList).takeWhile (· ≠ '/') =
      "reports".toList := rfl
  rw [hfirst, hreports] at hdash
  exact absurd hdash (by decide)

/-- An identifier that is no absolute path is called in the folder of the reports. -/
theorem reportCalled_of_relative {os : String} (h : (Path.mk os).isAbsolute = false) :
    reportCalled os = ⟨"reports/" ++ (os ++ ".json")⟩ := by
  unfold reportCalled
  rw [h, if_neg Bool.false_ne_true]

/-- Outputs of different variants are called differently, and so are the two of one. -/
theorem nodup_called (h : WellFormed config)
    (hrelative : ∀ variant ∈ config.variants, (Path.mk variant.os).isAbsolute = false) :
    (called config).Nodup := by
  have hapart : ∀ variant, ∀ other ∈ config.variants,
      (Path.mk (config.artifactName variant)) ≠ reportCalled other.os := by
    intro variant other hother heq
    rw [reportCalled_of_relative (hrelative other hother)] at heq
    exact artifactName_ne_report h.noSlash variant other.os (congrArg Path.text heq)
  refine List.nodup_flatMap.mpr ⟨fun variant hvariant => ?_, ?_⟩
  · exact List.nodup_cons.mpr ⟨by simpa [calledOf] using hapart variant variant hvariant,
      List.nodup_singleton _⟩
  · have hdistinct : config.variants.Pairwise fun variant other => variant.os ≠ other.os :=
      List.pairwise_map.mp h.distinct
    refine hdistinct.imp_of_mem fun {variant other} hvariant hother hne path hpath hotherPath => ?_
    simp only [calledOf, List.mem_cons, List.not_mem_nil, or_false] at hpath hotherPath
    -- Two artifacts differ by their identifiers, and so do two reports. An artifact differs from a
    -- report by the dash in it.
    rcases hpath with rfl | rfl
    · rcases hotherPath with heq | heq
      · exact hne ((String.append_right_inj (config.binaryName ++ "-")).mp (congrArg Path.text heq))
      · exact hapart variant other hother heq
    · rcases hotherPath with heq | heq
      · exact hapart other variant hvariant heq.symm
      · rw [reportCalled_of_relative (hrelative variant hvariant),
          reportCalled_of_relative (hrelative other hother)] at heq
        have hreport := (String.append_right_inj "reports/").mp (congrArg Path.text heq)
        exact hne ((String.append_left_inj ".json").mp hreport)

/-- Whether the outputs are confined depends on what they are called and on the place of the
artifact directory. -/
theorem confined_iff (config : Config) (here : Place) :
    Confined config here ↔
      ((called config).map (resolve (resolve here config.artifactPath))).Nodup ∧
        ∀ path ∈ called config, LeadsBelow (resolve here config.artifactPath) path := by
  have hbelow : (∀ place ∈ (outputs config).map (resolve here),
      Inside (resolve here config.artifactPath) place) ↔
      ∀ path ∈ called config, LeadsBelow (resolve here config.artifactPath) path := by
    rw [map_resolve_outputs, List.forall_mem_map]
    exact forall₂_congr fun path _ => inside_resolve_iff _ path
  rw [← map_resolve_outputs, ← hbelow, List.forall_mem_map]
  exact ⟨fun h => ⟨h.apart, h.below⟩, fun h => ⟨h.1, h.2⟩⟩

/-- Outputs whose names lead down step by step are confined. -/
theorem confined_of_isName (h : WellFormed config)
    (hnames : ∀ path ∈ called config, ∀ name ∈ path.names, IsName name) (here : Place) :
    Confined config here := by
  have hplaces : (called config).map (resolve (resolve here config.artifactPath)) =
      (called config).map fun path => resolve here config.artifactPath ++ path.names :=
    List.map_congr_left fun path hpath => resolve_of_isName (hnames path hpath) _
  have hrelative : ∀ variant ∈ config.variants, (Path.mk variant.os).isAbsolute = false := by
    intro variant hvariant
    have hreport : reportCalled variant.os ∈ called config :=
      List.mem_flatMap.mpr ⟨variant, hvariant, by simp [calledOf]⟩
    have hcalled := not_isAbsolute_of_isName (hnames _ hreport)
    -- An absolute identifier would make the path of its report absolute.
    by_contra habsolute
    rw [Bool.not_eq_false] at habsolute
    have hos : variant.os ≠ "" := h.os variant hvariant
    unfold reportCalled at hcalled
    rw [habsolute, if_pos rfl, isAbsolute_append hos, habsolute] at hcalled
    cases hcalled
  rw [confined_iff, hplaces]
  constructor
  · refine (nodup_called h hrelative).map fun first second heq => ?_
    obtain ⟨first⟩ := first
    obtain ⟨second⟩ := second
    exact congrArg Path.mk (names_injective (List.append_cancel_left heq))
  · intro path hpath
    rw [← inside_resolve_iff, resolve_of_isName (hnames path hpath)]
    obtain ⟨name, rest, hsome⟩ := List.exists_cons_of_ne_nil (names_ne_nil path)
    exact ⟨name, rest, by rw [hsome]⟩

/-- **Which outputs are confined.** All outputs of a valid configuration are different files below
the artifact directory exactly when what they are called leads to different places from there, and
on a route that returns if it leads up. That is so where every name leads down a step, as it does
for identifiers without separators. It is not so for all identifiers that are accepted. -/
theorem outputs_confined (hvalid : config.validate = .ok ()) (here : Place) :
    let home := resolve here config.artifactPath
    (Confined config here ↔ ((called config).map (resolve home)).Nodup ∧
      ∀ path ∈ called config, LeadsBelow home path) ∧
    ((∀ path ∈ called config, ∀ name ∈ path.names, IsName name) → Confined config here) ∧
    ((∀ variant ∈ config.variants, '/' ∉ variant.os.toList) → Confined config here) := by
  intro home
  have hformed := validate_eq_ok.mp hvalid
  refine ⟨confined_iff config here, fun hnames => confined_of_isName hformed hnames here,
    fun hplain => confined_of_isName hformed (fun path hpath name hname => ?_) here⟩
  -- Without slashes an output is one name, or one name in the folder of the reports.
  obtain ⟨variant, hvariant, hmem⟩ := List.mem_flatMap.mp hpath
  have hos := hplain variant hvariant
  simp only [calledOf, List.mem_cons, List.not_mem_nil, or_false] at hmem
  rcases hmem with rfl | rfl
  · have hartifact := isName_artifactName hformed.noSlash hos
    rw [names_of_name hartifact.noSlash, List.mem_singleton] at hname
    rw [hname]
    exact hartifact
  · have hreport := isName_reportName hos
    rw [reportCalled_of_relative (not_isAbsolute_of_name hos), names_reports,
      names_of_name hreport.noSlash] at hname
    rcases List.mem_cons.mp hname with hfirst | hsecond
    · rw [hfirst]
      exact isName_reports
    · rw [List.mem_singleton.mp hsecond]
      exact hreport

/-- Outputs under identifiers without separators are confined. An identifier may also name the
report of another variant in other words, or lead out of the artifact directory, and both are
accepted. -/
theorem outputs_confined_seeker :
    let config := Config.ofBinary "seeker"
    let taking := { config with variants := [.osx, { Variant.osx with os := "./osx" }] }
    let leaving := { config with variants := [.osx, { Variant.osx with os := "../../../x" }] }
    (config.validate = .ok () ∧ Confined config ["home"]) ∧
    (taking.validate = .ok () ∧ ¬ Confined taking ["home"]) ∧
    (leaving.validate = .ok () ∧ ¬ Confined leaving ["home"]) := by
  intro config taking leaving
  have hconfig : config.validate = .ok () := by decide +kernel
  have htaking : taking.validate = .ok () := by decide +kernel
  have hleaving : leaving.validate = .ok () := by decide +kernel
  refine ⟨⟨hconfig, (outputs_confined hconfig ["home"]).2.2 (by decide +kernel)⟩,
    ⟨htaking, fun h => ?_⟩, hleaving, fun h => ?_⟩
  · have hapart := ((outputs_confined htaking ["home"]).1.mp h).1
    exact absurd hapart (by decide +kernel)
  · have hbelow := ((outputs_confined hleaving ["home"]).1.mp h).2 ⟨"seeker-../../../x"⟩
      (by decide +kernel)
    have hhome : resolve ["home"] leaving.artifactPath = ["home", "dist"] := by decide +kernel
    have hfound : resolve ["home", "dist"] ⟨"seeker-../../../x"⟩ = ["home", "x"] := by
      decide +kernel
    rw [hhome, ← inside_resolve_iff, hfound] at hbelow
    obtain ⟨name, rest, hplace⟩ := hbelow
    -- A place below the artifact directory has more names than that has.
    have hlength : 2 = rest.length + 3 := congrArg List.length hplace
    omega

end

end ReleasePipeline.Proofs
