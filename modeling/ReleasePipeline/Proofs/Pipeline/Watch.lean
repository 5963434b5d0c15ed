import ReleasePipeline.Pipeline
import ReleasePipeline.Proofs.Support.State

/-!
# `ReleasePipeline.Proofs.Pipeline.Watch`: a pipeline whose effects are noted

What a pipeline may ask for is an action on a world of any type, and such an action can do
anything. So that a statement can speak of what a pipeline did, `Watched` puts an account beside
the world: the calls to the publisher, with their answers, and the file operations of the pipeline
itself that were refused.

A pipeline, its site and its execution service are made to work on a watched world by `watched`
and `quietly`. They do in the world what they did before, and only the publisher and the
operations that write files leave a note. `runAll_quietly` says that running all variants is one
of the things that leave none.
-/

set_option autoImplicit false

namespace ReleasePipeline.Proofs

/-- A call to a publisher, and its answer. -/
structure PublishCall where
  descriptor : ReleaseDescriptor
  artifacts : List Artifact
  answer : Except PublishError PublishedRelease

/-- A world with an account of what a pipeline did in it. -/
structure Watched (σ : Type) where
  world : σ
  /-- The calls to the publisher, oldest first. -/
  calls : List PublishCall
  /-- Why file operations were refused, the first refusal first. -/
  refusals : List OsError

/-- A world in which nothing was done yet. -/
def unwatched {σ : Type} (world : σ) : Watched σ :=
  ⟨world, [], []⟩

section
variable {σ α β : Type}

/-- Does in the world what the account says nothing about. -/
def quietly (action : StateM σ α) : StateM (Watched σ) α := fun watched =>
  ((action.run watched.world).1, { watched with world := (action.run watched.world).2 })

/-- The note that a refusal leaves. -/
def refusalOf : Except OsError α → List OsError
  | .ok _ => []
  | .error error => [error]

/-- Does something with files, and notes a refusal. -/
def attempt (action : StateM σ (Except OsError α)) : StateM (Watched σ) (Except OsError α) :=
  fun watched =>
    ((action.run watched.world).1,
      { watched with
        world := (action.run watched.world).2
        refusals := watched.refusals ++ refusalOf (action.run watched.world).1 })

/-- A publisher whose calls are noted. -/
def watchedPublisher (publisher : Publisher (StateM σ)) : Publisher (StateM (Watched σ)) where
  publish descriptor artifacts := fun watched =>
    let (answer, world) := (publisher.publish descriptor artifacts).run watched.world
    (answer, { watched with
      world := world
      calls := watched.calls ++ [⟨descriptor, artifacts, answer⟩] })

/-- A site whose refusals to write are noted. -/
def watchedSite (site : Site (StateM σ)) : Site (StateM (Watched σ)) where
  read path := quietly (site.read path)
  write path content := attempt (site.write path content)
  createDirs path := attempt (site.createDirs path)
  copy source target := attempt (site.copy source target)
  isFile path := quietly (site.isFile path)
  invoke invocation := quietly (site.invoke invocation)
  now := quietly site.now
  stopwatch := quietly site.stopwatch
  newRunId := quietly site.newRunId

/-- A pipeline whose publisher is watched. -/
def watchedPipeline (pipeline : Pipeline (StateM σ)) : Pipeline (StateM (Watched σ)) where
  config := pipeline.config
  selection := pipeline.selection
  deferPublish := pipeline.deferPublish
  cap := pipeline.cap
  publisher := pipeline.publisher.map watchedPublisher
  clock := quietly pipeline.clock

/-- Runs a pipeline in a watched world. -/
def watchedRun (pipeline : Pipeline (StateM σ)) (site : Site (StateM σ))
    (execute : Config → Variant → StateM σ TaskEnd) (trigger : Trigger) :
    StateM (Watched σ) (Except RunError PipelineOutcome) :=
  (watchedPipeline pipeline).run (watchedSite site)
    (fun config variant => quietly (execute config variant)) trigger

/-- Aggregates the reports of earlier runs in a watched world. -/
def watchedAggregate (pipeline : Pipeline (StateM σ)) (site : Site (StateM σ))
    (trigger : Trigger) : StateM (Watched σ) PipelineOutcome :=
  (watchedPipeline pipeline).aggregate (watchedSite site) trigger

/-! ### What leaves no note -/

/-- A quiet action does in the world what it did, and its result is the same. -/
theorem run_quietly (action : StateM σ α) (watched : Watched σ) :
    (quietly action).run watched =
      ((action.run watched.world).1, { watched with world := (action.run watched.world).2 }) :=
  rfl

/-- Two quiet actions are quiet one after the other. -/
theorem quietly_bind (action : StateM σ α) (next : α → StateM σ β) :
    quietly (action >>= next) = quietly action >>= fun a => quietly (next a) :=
  rfl

/-- Going through a list is quiet where each step is. -/
theorem quietly_mapM (action : α → StateM σ β) (list : List α) :
    list.mapM (fun a => quietly (action a)) = quietly (list.mapM action) := by
  induction list with
  | nil => rfl
  | cons a rest ih =>
      rw [List.mapM_cons, List.mapM_cons, ih]
      rfl

/-- Collecting the reports of tasks is quiet. -/
theorem collect_quietly (now : StateM σ Instant) (newRunId : StateM σ RunId)
    (number : Nat) (variants : List Variant) (ends : List TaskEnd) :
    collect (quietly now) (quietly newRunId) number variants ends =
      quietly (collect now newRunId number variants ends) := by
  induction variants generalizing number ends with
  | nil => rfl
  | cons variant rest ih =>
      cases ends with
      | nil => rfl
      | cons result results =>
          rw [collect, ih, collect, quietly_bind]
          -- A crashed task draws an identifier and the time, which are quiet as well.
          cases result with
          | ok report => rfl
          | error message => rfl

/-- Running all variants is quiet. -/
theorem runAll_quietly (execute : Variant → StateM σ TaskEnd) (now : StateM σ Instant)
    (newRunId : StateM σ RunId) (variants : List Variant) :
    runAll (fun variant => quietly (execute variant)) (quietly now) (quietly newRunId) variants =
      quietly (runAll execute now newRunId variants) := by
  rw [runAll, quietly_mapM, runAll, quietly_bind]
  congr 1
  funext ends
  exact collect_quietly now newRunId 1 variants ends

/-! ### Where saving reports leads -/

/-- Saving a report makes a folder and writes a file, and leads where these do. -/
theorem moves_save {R : σ → σ → Prop} [IsPreorder σ R] {files : Files (StateM σ)}
    {store : ReportStore} {commit : String} {report : VariantReport}
    (hmade : Moves R (files.createDirs store.directory))
    (hwritten : Moves R (files.write (store.pathFor report.variant.os)
      (StoredReport.mk commit report).bytes)) :
    Moves R (store.save files commit report) := by
  refine hmade.bind fun made => ?_
  -- Nothing follows a refusal.
  cases made with
  | error error => exact moves_pure _
  | ok _ =>
      refine hwritten.bind fun written => ?_
      cases written <;> exact moves_pure _

/-- Recording a run leads there as well. -/
theorem moves_record {R : σ → σ → Prop} [IsPreorder σ R] {site : Site (StateM σ)}
    (hmade : ∀ path, Moves R (site.createDirs path))
    (hwritten : ∀ path content, Moves R (site.write path content)) (config : Config)
    (commit : String) (reports : List VariantReport) :
    Moves R (Pipeline.record site config commit reports) :=
  moves_forM fun _ _ => (moves_save (hmade _) (hwritten _ _)).bind fun _ => moves_pure _

/-! ### What leaves the calls alone -/

/-- An operation on files calls no publisher. -/
theorem keeps_calls_attempt (action : StateM σ (Except OsError α)) :
    Keeps Watched.calls (attempt action) :=
  fun _ => rfl

/-- Recording a run calls no publisher. -/
theorem keeps_calls_record (site : Site (StateM σ)) (config : Config) (commit : String)
    (reports : List VariantReport) :
    Keeps Watched.calls (Pipeline.record (watchedSite site) config commit reports) := by
  refine moves_record (R := fun before after : Watched σ => after.calls = before.calls) ?_ ?_
    config commit reports
  · intro path
    exact keeps_calls_attempt _
  · intro path content
    exact keeps_calls_attempt _

end

end ReleasePipeline.Proofs
