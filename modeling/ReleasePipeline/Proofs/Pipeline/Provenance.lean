import ReleasePipeline.Proofs.Pipeline.Deposit
import ReleasePipeline.Proofs.Publish.Reach

/-!
# `ReleasePipeline.Proofs.Pipeline.Provenance`: what is published was built from its commit

Runs of a pipeline may be for any commits, select any variants, let their tasks take turns in any
order and fail anywhere, and the artifact directory keeps whatever they leave. A run that fails
leaves the artifact of an earlier one in place, and a run of some variants leaves the reports of
the others. An aggregation for a commit publishes only what was built from that commit
nevertheless, as long as nobody else writes to the artifact directory and all reports can be
saved: `published_artifacts_built_from_commit`.

Of each variant the last call that ran it counts. What that call left is what lies there in the
end, since no later call touches the outputs of the variant. `lastRun_of_split` is the induction
over the calls. The stored report therefore is the one of the last run, with the commit of that
run, and if it is one of success, the artifact is the one that this very run collected.
`LastRun.vouches` is the way back, by which a history can be shown to be published.
-/

set_option autoImplicit false

namespace ReleasePipeline.Proofs

section
variable {σ : Type} (pipeline : Pipeline (StateM σ)) (site : Site (StateM σ))

/-- Runs a pipeline for calls, one after the other. -/
def runHistory (history : List Push) :
    StateM (Watched (Logged (Deed σ) σ)) (List (Except RunError PipelineOutcome)) :=
  history.mapM (runPush pipeline site)

/-- A call in a history is the last one that ran a variant. It left a report, and nothing behind it
touched the outputs of the variant. -/
structure LastRun (files : σ → FileSystem) (variant : Variant)
    (start : Watched (Logged (Deed σ) σ)) (earlier : List Push) (push : Push) (later : List Push)
    (report : VariantReport) : Prop where
  deposited : let before := ((runHistory pipeline site earlier).run start).2
    Deposited files pipeline.config variant push.trigger.commit report
      ((runPush pipeline site push).run before).1 before.world
      ((runPush pipeline site push).run before).2.world
  spared : SparesOutputs files pipeline.config variant
    ((runPush pipeline site push).run ((runHistory pipeline site earlier).run start).2).2.world
    ((runHistory pipeline site (earlier ++ push :: later)).run start).2.world

/-- An artifact was built from a commit: the last call that ran its variant was for the commit, the
variant was done in it, and the content of the artifact is what was copied there in it. -/
structure BuiltFrom (files : σ → FileSystem) (variant : Variant) (commit : String)
    (history : List Push) (start : Watched (Logged (Deed σ) σ)) (earlier : List Push) (push : Push)
    (later : List Push) (content : ByteArray) : Prop where
  split : history = earlier ++ push :: later
  runs : Runs pipeline.config variant push
  last : ∀ other ∈ later, ¬ Runs pipeline.config variant other
  commit : push.trigger.commit = commit
  done : let before := ((runHistory pipeline site earlier).run start).2
    ∃ outcome, ((runPush pipeline site push).run before).1 = .ok outcome ∧
      ∃ report ∈ outcome.variants, report.variant = variant ∧ report.stage = .done
  collected : let before := ((runHistory pipeline site earlier).run start).2
    Collected files pipeline.config.buildOutput (Artifact.ofVariant pipeline.config variant).path
      content before.world ((runPush pipeline site push).run before).2.world

end

/-- Among the members of a list with a property there is a last one. -/
theorem exists_last_of_exists {α : Type} {p : α → Prop} {members : List α}
    (h : ∃ member ∈ members, p member) : ∃ earlier last later, members = earlier ++ last :: later ∧
      p last ∧ ∀ other ∈ later, ¬ p other := by
  induction members with
  | nil =>
      obtain ⟨member, hmember, -⟩ := h
      exact absurd hmember List.not_mem_nil
  | cons first rest ih =>
      by_cases hrest : ∃ member ∈ rest, p member
      · obtain ⟨earlier, last, later, rfl, hlast⟩ := ih hrest
        exact ⟨first :: earlier, last, later, rfl, hlast⟩
      · have hfirst : p first := ((List.exists_mem_cons_iff ..).mp h).resolve_right hrest
        exact ⟨[], first, rest, rfl, hfirst, fun other hother hp => hrest ⟨other, hother, hp⟩⟩

section
variable {σ : Type} {files : σ → FileSystem} {site : Site (StateM σ)}
  {pipeline : Pipeline (StateM σ)} {variant : Variant}

/-- Without a call everything stays as it is. -/
theorem runHistory_nil (watched : Watched (Logged (Deed σ) σ)) :
    ((runHistory pipeline site []).run watched).2 = watched := by
  unfold runHistory
  rw [List.mapM_nil]
  rfl

/-- The calls behind the first one start where it ended. -/
theorem runHistory_cons (push : Push) (rest : List Push) (watched : Watched (Logged (Deed σ) σ)) :
    ((runHistory pipeline site (push :: rest)).run watched).2 =
      ((runHistory pipeline site rest).run ((runPush pipeline site push).run watched).2).2 := by
  unfold runHistory
  rw [run_mapM_cons]

/-- What was refused before a run stays on the account. -/
theorem refusals_push (pipeline : Pipeline (StateM σ)) (hsite : OnFiles site files) (push : Push) :
    Moves (Order.Preimage Watched.refusals (· <+: ·)) (runPush pipeline site push) := by
  intro watched
  let part := partOf (loggedPipeline pipeline) push.part
  let race := openingRace part (loggedSite site) push.trigger (push.schedule pipeline.config)
    watched.world
  have hrun : (runPush pipeline site push).run watched =
      (watchedRun part (loggedSite site) (restsOf (loggedSite site) race) push.trigger).run
        { watched with world := race.world } := run_watchedRace _ _ _ _ _
  show watched.refusals <+: ((runPush pipeline site push).run watched).2.refusals
  rw [hrun]
  -- The turns in front of the run are on no account.
  exact refusals_run part (restsOf (loggedSite site) race) push.trigger (onFiles_logged hsite)
    { watched with world := race.world }

/-- What was refused in one call stays on the account of all later ones. -/
theorem refusals_runHistory (pipeline : Pipeline (StateM σ)) (hsite : OnFiles site files)
    (history : List Push) :
    Moves (Order.Preimage Watched.refusals (· <+: ·)) (runHistory pipeline site history) :=
  moves_mapM fun push _ => refusals_push pipeline hsite push

variable (hsheltered : Sheltered pipeline site files) (hwell : WellFormed pipeline.config)
  (hslash : ∀ variant ∈ pipeline.config.variants, '/' ∉ variant.os.toList)
  (hvariant : variant ∈ pipeline.config.variants)
include hsheltered hwell hslash hvariant

/-- Calls that do not run a variant spare its outputs. -/
theorem spares_runHistory {history : List Push}
    (hnever : ∀ push ∈ history, ¬ Runs pipeline.config variant push) :
    Moves (Order.Preimage Watched.world (SparesOutputs files pipeline.config variant))
      (runHistory pipeline site history) :=
  moves_mapM fun push hpush => spares_push hsheltered hwell hslash hvariant (hnever push hpush)

/-- What the last run of a variant left is there in the end, if nothing was refused. -/
theorem lastRun_of_split (earlier : List Push) {push : Push} {later : List Push}
    (hruns : Runs pipeline.config variant push)
    (hlast : ∀ other ∈ later, ¬ Runs pipeline.config variant other)
    (start : Watched (Logged (Deed σ) σ))
    (hnone : ((runHistory pipeline site (earlier ++ push :: later)).run start).2.refusals = []) :
    ∃ report, LastRun pipeline site files variant start earlier push later report := by
  -- The calls in front of the last run are taken off one by one. The calls behind it spare what it
  -- left.
  induction earlier generalizing start with
  | nil =>
      rw [List.nil_append, runHistory_cons] at hnone
      have hspared := spares_runHistory hsheltered hwell hslash hvariant hlast
        ((runPush pipeline site push).run start).2
      have hprefix := refusals_runHistory pipeline hsheltered.workplace.toOnFiles later
        ((runPush pipeline site push).run start).2
      unfold Order.Preimage at hprefix hspared
      rw [hnone] at hprefix
      obtain ⟨report, hdeposited⟩ := deposited_push hsheltered hwell hslash hvariant hruns start
        (List.prefix_nil.mp hprefix)
      refine ⟨report, hdeposited, ?_⟩
      rw [List.nil_append, runHistory_cons]
      exact hspared
  | cons first rest ih =>
      rw [List.cons_append, runHistory_cons] at hnone
      obtain ⟨report, hdeposited, hspared⟩ := ih _ hnone
      refine ⟨report, ?_, ?_⟩
      · rw [runHistory_cons]
        exact hdeposited
      · rw [List.cons_append, runHistory_cons, runHistory_cons]
        exact hspared

/-- An artifact that the files vouch for under a commit was built from it, if there was none
before the history. -/
theorem builtFrom_of_vouches (history : List Push) (start : Watched (Logged (Deed σ) σ))
    (hempty : ∀ content, ¬ Holds (files start.world.world)
      ((ReportStore.ofConfig pipeline.config).pathFor variant.os) content)
    (hnone : ((runHistory pipeline site history).run start).2.refusals = []) {commit : String}
    (hvouches : Vouches
      (snapshotOf (files ((runHistory pipeline site history).run start).2.world.world))
      pipeline.config commit variant) :
    ∃ earlier push later content,
      BuiltFrom pipeline site files variant commit history start earlier push later content ∧
      (files ((runHistory pipeline site history).run start).2.world.world).read
        (Artifact.ofVariant pipeline.config variant).path = .ok content := by
  obtain ⟨stored, ⟨bytes, hread, hdecode, hcommit⟩, hdone, hartifact, hplace⟩ := hvouches
  have hfiled := holds_of_read hread
  have hsome : ∃ push ∈ history, Runs pipeline.config variant push := by
    -- If nothing ran the variant, its report would have been there from the start.
    by_contra hnever
    push Not at hnever
    have hspared := spares_runHistory hsheltered hwell hslash hvariant hnever start
    exact hempty bytes ((hspared.same _ (report_mem_outputs _ variant) bytes).mp hfiled)
  obtain ⟨earlier, push, later, rfl, hruns, hlast⟩ := exists_last_of_exists hsome
  obtain ⟨report, hdeposited, hspared⟩ :=
    lastRun_of_split hsheltered hwell hslash hvariant earlier hruns hlast start hnone
  -- What is stored is the report of the last run.
  have hkept := (hspared.same _ (report_mem_outputs _ variant) _).mpr hdeposited.filed
  obtain rfl : bytes = (StoredReport.mk push.trigger.commit report).bytes := by
    cases hfiled.symm.trans hkept
    rfl
  cases (ofBytes_bytes _).symm.trans hdecode
  have hsucceeded : report.succeeded = true :=
    (succeeded_iff report).mpr ⟨hdone, Option.ne_none_iff_exists'.mp hartifact⟩
  obtain ⟨content, hcollected⟩ := hdeposited.collected hsucceeded
  obtain ⟨outcome, houtcome, hshown⟩ := hdeposited.shown
  have hheld := (hspared.same _ (artifact_mem_outputs _ variant) content).mpr hcollected.held
  refine ⟨earlier, push, later, content, ?_, hheld.read hplace⟩
  exact ⟨rfl, hruns, hlast, hcommit, ⟨outcome, houtcome, report, hshown, hdeposited.about, hdone⟩,
    hcollected⟩

end

/-- Whether all variants of an outcome succeeded. -/
def allSucceeded (result : Except RunError PipelineOutcome) : Bool :=
  result.toOption.any fun outcome => outcome.variants.all (·.succeeded)

/-- The files vouch for a variant under the commit of its last run, if all went well in that run
and the outputs can be read. -/
theorem LastRun.vouches {σ : Type} {files : σ → FileSystem} {site : Site (StateM σ)}
    {pipeline : Pipeline (StateM σ)} {variant : Variant} {start : Watched (Logged (Deed σ) σ)}
    {earlier later : List Push} {push : Push} {report : VariantReport}
    (h : LastRun pipeline site files variant start earlier push later report)
    (hall : allSucceeded ((runPush pipeline site push).run
      ((runHistory pipeline site earlier).run start).2).1 = true)
    (hfiles : ∀ path ∈ outputsOf pipeline.config variant, (files ((runHistory pipeline site
      (earlier ++ push :: later)).run start).2.world.world).isFile path = true) :
    Vouches (snapshotOf (files ((runHistory pipeline site (earlier ++ push :: later)).run
      start).2.world.world)) pipeline.config push.trigger.commit variant := by
  obtain ⟨hdeposited, hspared⟩ := h
  obtain ⟨outcome, houtcome, hshown⟩ := hdeposited.shown
  rw [houtcome] at hall
  have hsucceeded : report.succeeded = true := List.all_eq_true.mp hall report hshown
  obtain ⟨hdone, artifact, hartifact⟩ := (succeeded_iff report).mp hsucceeded
  -- What the run filed was spared ever since, and it can still be reached.
  have hreport := report_mem_outputs pipeline.config variant
  have hfiled := ((hspared.same _ hreport _).mpr hdeposited.filed).read (hfiles _ hreport)
  exact ⟨_, ⟨_, hfiled, ofBytes_bytes _, rfl⟩, hdone, hartifact ▸ Option.some_ne_none artifact,
    hfiles _ (artifact_mem_outputs _ variant)⟩

/-- An aggregation behind some runs calls its publisher on the released branch, where the files that
they left vouch for all variants. -/
theorem calls_of_vouches {σ α : Type} {files : σ → FileSystem} {site : Site (StateM σ)}
    {pipeline : Pipeline (StateM σ)} {trigger : Trigger} {runs : α × σ} {results : α} {last : σ}
    (hsite : Legible site fun world => snapshotOf (files world))
    (htag : trigger.tagBlank = true) (hbranch : trigger.branch = pipeline.config.targetBranch)
    (hvariants : pipeline.config.variants ≠ []) (hpublisher : pipeline.publisher.isSome = true)
    (hruns : runs = (results, last)) (h : ∀ variant ∈ pipeline.config.variants,
      Vouches (snapshotOf (files last)) pipeline.config trigger.commit variant) :
    ((watchedAggregate pipeline site trigger).run (unwatched runs.2)).2.calls ≠ [] := by
  subst hruns
  exact (calls_aggregate_ne_nil_iff pipeline hsite rfl).mpr
    ⟨⟨htag, hbranch, hvariants, h⟩, hpublisher⟩

/-- **What is published was built from its commit.** Let a valid configuration have no separator
in its identifiers, and let nobody but the pipeline write to the artifact directory, in which
there is no file to begin with. Take any calls, for any commits and branches, with any tags and
selections, whatever comes of the tools, and in whatever order the tasks of each call take turns.
If all reports can be saved, and an aggregation for a commit calls the publisher afterwards, then
for every configured variant the last call that ran it was for that commit, the variant was done
in it, and what is read of its artifact is what that run copied from the build. A call that asks
for more places than there can be runs nothing, so it does not count. A call without turns is
`Pipeline.run`, as `racedRun_nil` says. Watching the runs and writing down their deeds makes no
difference to them. -/
theorem published_artifacts_built_from_commit {σ : Type} (pipeline : Pipeline (StateM σ))
    (site : Site (StateM σ)) (files : σ → FileSystem) (history : List Push) (trigger : Trigger)
    (world : σ) (hsheltered : Sheltered pipeline site files)
    (hvalid : pipeline.config.validate = .ok ())
    (hslash : ∀ variant ∈ pipeline.config.variants, '/' ∉ variant.os.toList)
    (hempty : ∀ place, Inside (Path.resolve (files world).workingDir pipeline.config.artifactPath)
      place → ∀ content, (files world).get? place ≠ some (.file content)) :
    let runs := (history.mapM fun push =>
      racedRun site (partOf pipeline push.part) push.trigger
        (push.schedule pipeline.config)).run world
    let start := unwatched ⟨world, []⟩
    let watched := (runHistory pipeline site history).run start
    runs = (watched.1, watched.2.world.world) ∧
    (watched.2.refusals = [] →
      ((watchedAggregate pipeline site trigger).run (unwatched runs.2)).2.calls ≠ [] →
      ∀ variant ∈ pipeline.config.variants, ∃ earlier push later content,
        BuiltFrom pipeline site files variant trigger.commit history start earlier push later
          content ∧
        (files runs.2).read (Artifact.ofVariant pipeline.config variant).path = .ok content) := by
  intro runs start watched
  obtain ⟨hresults, hworld⟩ := shadows_mapM (shadows_runPush pipeline site) history start
  have hruns : runs = (watched.1, watched.2.world.world) := Prod.ext hresults.symm hworld.symm
  rw [hruns]
  refine ⟨rfl, fun hnone hcalled variant hvariant => ?_⟩
  -- The aggregation publishes, so the files vouch for every variant.
  obtain ⟨⟨-, -, -, hvouches⟩, -⟩ :=
    (calls_aggregate_ne_nil_iff pipeline hsheltered.workplace.legible rfl).mp hcalled
  refine builtFrom_of_vouches hsheltered (validate_eq_ok.mp hvalid) hslash hvariant history start ?_
    hnone (hvouches variant hvariant)
  intro content hholds
  refine hempty _ ?_ content hholds
  exact ⟨_, _, resolve_report pipeline.config (hslash variant hvariant) _⟩

/-! ### A rehearsal of it -/

/-- A publisher of the project stays out of a directory, if its host leaves the files alone. -/
theorem staysOut_publisher {σ : Type} {site : Site (StateM σ)} {files : σ → FileSystem}
    {directory : Path} {host : ReleaseHost (StateM σ)} (hsite : OnFiles site files)
    (hhost : HostMoves (Order.Preimage files (Untouched directory)) host)
    (descriptor : ReleaseDescriptor) (artifacts : List Artifact) :
    StaysOut files directory
      ((Publish.publisher host site.toFiles).publish descriptor artifacts) := by
  refine moves_publish hhost (fun path world => ?_) descriptor artifacts
  rw [hsite.read]
  exact refl_of _ _

/-- A rehearsal where commands write nothing inside the artifact directory is a place to work in. -/
theorem workplace_rehearsal {play : FileSystem → Invocation → Answer × FileSystem}
    {directory : Path}
    (hplay : ∀ files invocation, Untouched directory files (play files invocation).2) :
    Workplace (Rehearsal.World.site play) Rehearsal.World.files directory where
  toOnFiles := onFiles_rehearsal play
  stopwatch _ := rfl
  invoke invocation world := hplay world.files invocation
  copy source target world := by
    have hrun : ((Rehearsal.World.site play).copy source target).run world =
        let copied := Rehearsal.World.orSame world.files (world.files.copy source target)
        (copied.1, { world with files := copied.2 }) := rfl
    rw [hrun]
    cases world.files.copy source target with
    | error error => exact .inl ⟨error, rfl, rfl⟩
    | ok copied => exact .inr ⟨copied.1, copied.2, rfl, rfl, rfl⟩

/-- A site where every command succeeds and does nothing. -/
def seekerSite : Site (StateM Rehearsal.World) :=
  Rehearsal.World.site (Rehearsal.Script.play [])

/-- A pipeline that publishes to the host of a rehearsal. -/
def seekerPipeline : Pipeline (StateM Rehearsal.World) where
  config := .ofBinary "seeker"
  selection := []
  deferPublish := false
  cap := none
  publisher := some (Publish.publisher Rehearsal.World.hostAccess seekerSite.toFiles)
  clock := pure .epoch

/-- A world with a program that was built, and no artifact. -/
def seekerWorld : Rehearsal.World where
  files := ⟨[], [(["target"], .folder), (["target", "release"], .folder),
    (["target", "release", "seeker"], .file "seeker".toUTF8)]⟩
  host := .ofReleases []
  invocations := []
  drawn := 0

/-- A push to the released branch. -/
def seekerTrigger : Trigger :=
  ⟨"master", true, "1a2b3c4"⟩

/-- All variants of an earlier commit, which take turns at first. -/
def earlierCall : Push :=
  ⟨⟨[], true, none⟩, ⟨"feature", true, "0ld0ld0"⟩, [.osx, .linux, .linux, .osx, .linux]⟩

/-- One variant of the commit that is published, and no others. -/
def osxCall : Push :=
  ⟨⟨["osx"], false, none⟩, seekerTrigger, []⟩

/-- The other variant of that commit. It takes two turns before it is run to its end. -/
def linuxCall : Push :=
  ⟨⟨["linux"], false, some 1⟩, seekerTrigger, [.linux, .linux]⟩

/-- Commands that do nothing and a host without files leave the artifact directory to the pipeline.
-/
theorem sheltered_seeker : Sheltered seekerPipeline seekerSite Rehearsal.World.files where
  workplace := workplace_rehearsal fun files _ => refl_of _ files
  clock world := refl_of _ world.files
  publisher publisher hpublisher descriptor artifacts := by
    cases hpublisher
    exact staysOut_publisher (onFiles_rehearsal _) ⟨fun _ world => refl_of _ world.files,
      fun _ world => refl_of _ world.files, fun _ _ _ world => refl_of _ world.files,
      fun _ world => refl_of _ world.files⟩ descriptor artifacts

/-- An earlier commit is built, and then each variant of the later one. -/
def seekerCalls : List Push :=
  [earlierCall, osxCall, linuxCall]

/-- How the three calls end: no save is refused, both runs of the commit succeed, and each variant
has both of its files. -/
theorem seekerCalls_end :
    ((runHistory seekerPipeline seekerSite seekerCalls).run
      (unwatched ⟨seekerWorld, []⟩)).2.refusals = [] ∧
    allSucceeded ((runPush seekerPipeline seekerSite osxCall).run
      ((runHistory seekerPipeline seekerSite [earlierCall]).run
        (unwatched ⟨seekerWorld, []⟩)).2).1 = true ∧
    allSucceeded ((runPush seekerPipeline seekerSite linuxCall).run
      ((runHistory seekerPipeline seekerSite [earlierCall, osxCall]).run
        (unwatched ⟨seekerWorld, []⟩)).2).1 = true ∧
    ∀ variant ∈ Variant.defaults, ∀ path ∈ outputsOf seekerPipeline.config variant,
      (Rehearsal.World.files ((runHistory seekerPipeline seekerSite seekerCalls).run
        (unwatched ⟨seekerWorld, []⟩)).2.world.world).isFile path = true := by
  -- One call after the other, so that each world between them is a term of its own.
  simp only [seekerCalls, runHistory_cons, runHistory_nil]
  decide +kernel

/-- There is no artifact at the start. -/
theorem get?_seekerWorld {place : Place}
    (h : Inside
      (Path.resolve seekerWorld.files.workingDir seekerPipeline.config.artifactPath) place)
    (content : ByteArray) : seekerWorld.files.get? place ≠ some (.file content) := by
  obtain ⟨name, rest, rfl⟩ := h
  have hnowhere : seekerWorld.files.get? (["dist"] ++ name :: rest) = none :=
    rfl
  have hplace : Path.resolve seekerWorld.files.workingDir seekerPipeline.config.artifactPath =
      ["dist"] := by
    decide
  rw [hplace, hnowhere]
  exact nofun

/-- The files vouch for both variants in the end. -/
theorem vouches_seeker : ∀ variant ∈ seekerPipeline.config.variants,
    Vouches (snapshotOf (Rehearsal.World.files ((runHistory seekerPipeline seekerSite
      seekerCalls).run (unwatched ⟨seekerWorld, []⟩)).2.world.world)) seekerPipeline.config
        seekerTrigger.commit variant := by
  obtain ⟨hnone, hosx, hlinux, hfiles⟩ := seekerCalls_end
  have hwell : WellFormed seekerPipeline.config := validate_eq_ok.mp (by decide)
  have hslash : ∀ variant ∈ seekerPipeline.config.variants, '/' ∉ variant.os.toList := by decide
  intro variant hvariant
  obtain rfl | rfl : variant = .osx ∨ variant = .linux := List.mem_pair.mp hvariant
  · have hruns : Runs seekerPipeline.config .osx osxCall := ⟨by decide, by decide, by decide⟩
    have hlast : ∀ other ∈ [linuxCall], ¬ Runs seekerPipeline.config .osx other := by
      intro other hother hruns
      rw [List.mem_singleton.mp hother] at hruns
      exact absurd hruns.selected (by decide)
    have hcalls : seekerCalls = [earlierCall] ++ osxCall :: [linuxCall] := rfl
    rw [hcalls] at hnone hfiles ⊢
    obtain ⟨report, hrun⟩ := lastRun_of_split sheltered_seeker hwell hslash hvariant [earlierCall]
      hruns hlast (unwatched ⟨seekerWorld, []⟩) hnone
    exact hrun.vouches hosx (hfiles _ hvariant)
  · have hruns : Runs seekerPipeline.config .linux linuxCall := ⟨by decide, by decide, by decide⟩
    have hcalls : seekerCalls = [earlierCall, osxCall] ++ linuxCall :: [] := rfl
    rw [hcalls] at hnone hfiles ⊢
    obtain ⟨report, hrun⟩ := lastRun_of_split sheltered_seeker hwell hslash hvariant
      [earlierCall, osxCall] hruns (List.forall_mem_nil _) (unwatched ⟨seekerWorld, []⟩) hnone
    exact hrun.vouches hlinux (hfiles _ hvariant)

/-- Two single runs for the same commit publish what they built, over what an earlier commit
left. -/
theorem published_artifacts_seeker :
    let runs := (seekerCalls.mapM fun push => racedRun seekerSite (partOf seekerPipeline push.part)
      push.trigger (push.schedule seekerPipeline.config)).run seekerWorld
    ((watchedAggregate seekerPipeline seekerSite seekerTrigger).run
      (unwatched runs.2)).2.calls ≠ [] ∧
    ∀ variant ∈ seekerPipeline.config.variants, ∃ earlier push later content,
      BuiltFrom seekerPipeline seekerSite Rehearsal.World.files variant
        seekerTrigger.commit seekerCalls
        (unwatched ⟨seekerWorld, []⟩) earlier push later content ∧
      (Rehearsal.World.files runs.2).read (Artifact.ofVariant seekerPipeline.config variant).path =
        .ok content := by
  have hvalid : seekerPipeline.config.validate = .ok () := by decide
  have hslash : ∀ variant ∈ seekerPipeline.config.variants, '/' ∉ variant.os.toList := by decide
  obtain ⟨hruns, hpublished⟩ := published_artifacts_built_from_commit seekerPipeline seekerSite
    Rehearsal.World.files seekerCalls seekerTrigger seekerWorld sheltered_seeker hvalid hslash
    fun place hinside => get?_seekerWorld hinside
  have htag : seekerTrigger.tagBlank = true := by decide
  have hcalled :=
    calls_of_vouches sheltered_seeker.workplace.legible htag (by decide) (by decide) rfl
    hruns vouches_seeker
  exact ⟨hcalled, hpublished seekerCalls_end.1 hcalled⟩

end ReleasePipeline.Proofs
