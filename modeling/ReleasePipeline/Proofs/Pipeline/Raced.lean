import ReleasePipeline.Proofs.Execution.Turns
import ReleasePipeline.Proofs.Pipeline.Run
import ReleasePipeline.Proofs.Pipeline.Shadow

/-!
# `ReleasePipeline.Proofs.Pipeline.Raced`: runs whose tasks take turns

`Pipeline.run` runs its tasks one after the other. In `racedRun` they take turns first, in any
order and for as many turns as one likes, and what is left of them is run then. Without turns it
is the run (`racedRun_nil`).

Such a run can be watched too. `run_watchedRace` says that it is a watched run of what the turns
have left, from the world to which they have led (`openingRace`), and `shadows_watchedRace` that
watching it makes no difference.
-/

set_option autoImplicit false

namespace ReleasePipeline.Proofs

open Execution (execute)
open Pipeline (selectedVariants)

section
variable {m : Type → Type} [Monad m] (site : Site m) (pipeline : Pipeline m) (trigger : Trigger)
  (schedule : List Variant)

/-- The turns that count: there are none if nothing is to be run. -/
def countedTurns : List Variant :=
  if Gate.isEnabled trigger ∧
      places pipeline.cap (selectedVariants pipeline.config pipeline.selection).length ≤ maxPlaces
  then schedule else []

/-- The configuration that the tasks of a run are given. -/
abbrev taskConfig : Config :=
  { pipeline.config with variants := selectedVariants pipeline.config pipeline.selection }

/-- Where the tasks of a run stand after their turns. -/
def openingTurns : m (Variant → Lane) :=
  Lane.takeTurns site (taskConfig pipeline) (countedTurns pipeline trigger schedule)
    fun _ => .waiting

/-- A run whose tasks take turns in some order. What is left of them after the last turn is run
one task after the other. -/
def racedRun : m (Except RunError PipelineOutcome) := do
  let lanes ← openingTurns site pipeline trigger schedule
  pipeline.run site (fun config variant => (lanes variant).rest site config variant) trigger

/-- Without any turns this is the run. -/
theorem racedRun_nil [LawfulMonad m] :
    racedRun site pipeline trigger [] = pipeline.run site (execute site) trigger := by
  unfold racedRun openingTurns countedTurns
  simp only [ite_self, Lane.takeTurns, pure_bind]
  rfl

end

section
variable {σ τ : Type} {view : τ → σ} {site : Site (StateM σ)} {other : Site (StateM τ)}
  {pipeline : Pipeline (StateM σ)} {otherPipeline : Pipeline (StateM τ)}

/-- A run whose tasks take turns is shadowed where everything that it asks of its surroundings
is. -/
theorem shadows_racedRun (hpipeline : PipelineShadows view pipeline otherPipeline)
    (hsite : SiteShadows view site other) (trigger : Trigger) (schedule : List Variant) :
    Shadows view (racedRun site pipeline trigger schedule)
      (racedRun other otherPipeline trigger schedule) := by
  have hturns : Shadows view (openingTurns site pipeline trigger schedule)
      (openingTurns other otherPipeline trigger schedule) := by
    unfold openingTurns countedTurns taskConfig
    rw [hpipeline.config, hpipeline.selection, hpipeline.cap]
    exact Lane.shadows_takeTurns hsite _ _ _
  exact hturns.bind fun lanes => shadows_run hpipeline hsite
    (fun config variant => Lane.shadows_rest hsite config variant (lanes variant)) trigger

end

/-! ### Watched runs -/

section
variable {σ : Type} (pipeline : Pipeline (StateM σ)) (site : Site (StateM σ)) (trigger : Trigger)
  (schedule : List Variant)

/-- A run whose tasks take turns, in a watched world. -/
def watchedRace : StateM (Watched σ) (Except RunError PipelineOutcome) := do
  let lanes ← quietly (openingTurns site pipeline trigger schedule)
  watchedRun pipeline site (fun config variant => (lanes variant).rest site config variant) trigger

/-- The race of the tasks of a run, after their turns. -/
def openingRace (world : σ) : Race σ :=
  (Race.opening world).play site (taskConfig pipeline) (countedTurns pipeline trigger schedule)

/-- What is left of the tasks of a race. -/
abbrev restsOf (race : Race σ) : Config → Variant → StateM σ TaskEnd :=
  fun config variant => (race.lanes variant).rest site config variant

variable {pipeline trigger schedule} in
/-- Only turns that were asked for count. -/
theorem mem_of_mem_countedTurns {variant : Variant}
    (h : variant ∈ countedTurns pipeline trigger schedule) : variant ∈ schedule := by
  unfold countedTurns at h
  split at h
  · exact h
  · exact absurd h List.not_mem_nil

variable {pipeline trigger} in
/-- A run that runs nothing opens no race. -/
theorem openingRace_of_not (h : ¬ (trigger.tagBlank = true ∧ askedPlaces pipeline ≤ maxPlaces))
    (world : σ) : openingRace pipeline site trigger schedule world = Race.opening world := by
  have hnone : countedTurns pipeline trigger schedule = [] := if_neg h
  unfold openingRace
  rw [hnone]
  rfl

/-- The turns are taken first, and then what they have left is run from where they have led. -/
theorem run_watchedRace (watched : Watched σ) :
    let race := openingRace pipeline site trigger schedule watched.world
    (watchedRace pipeline site trigger schedule).run watched =
      (watchedRun pipeline site (restsOf site race) trigger).run
        { watched with world := race.world } := by
  have hturns : (openingTurns site pipeline trigger schedule).run watched.world = _ :=
    Race.run_takeTurns (Race.opening watched.world)
  unfold watchedRace
  rw [run_bind, run_quietly, hturns]
  rfl

/-- A run that is watched is the run. -/
theorem shadows_watchedRace : Shadows Watched.world (racedRun site pipeline trigger schedule)
    (watchedRace pipeline site trigger schedule) :=
  Shadows.bind (fun _ => ⟨rfl, rfl⟩) fun lanes => shadows_watchedRun pipeline site
    (fun config variant => (lanes variant).rest site config variant) trigger

end

end ReleasePipeline.Proofs
