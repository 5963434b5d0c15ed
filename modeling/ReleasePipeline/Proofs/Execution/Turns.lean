import ReleasePipeline.Proofs.Execution.Race

/-!
# `ReleasePipeline.Proofs.Execution.Turns`: where turns lead

A turn of a variant does what the next step of its plan does, and so it leads where the action of
that step leads (`moves_move`). Where everything that is asked of a site is shadowed by what is
asked of another one, turns are shadowed as well (`shadows_takeTurns`).

What is left of a lane can be run as a whole, or in turns. Eleven of them are enough
(`rest_eq_turns`), so a variant that has the world to itself for as long ends as its run does
(`play_alone`), and to run what is left of several variants, of one after the other, is to give
them some more turns (`run_rests`). What every turn preserves is therefore preserved to the end.
-/

set_option autoImplicit false

namespace ReleasePipeline.Proofs

open Execution (noteNow beginStep perform runStep completeStep failStep execute)

namespace Lane

/-! ### A move -/

section
variable {σ : Type} {R : σ → σ → Prop} [IsPreorder σ R] {site : Site (StateM σ)} {config : Config}
  {variant : Variant}

/-- A move leads where the action of the next step does. -/
theorem moves_move (hnow : Moves R site.now) (hwatch : Moves R site.stopwatch)
    (hrunId : Moves R site.newRunId) (lane : Lane)
    (hnext : ∀ next behind, lane.IsAt next behind → Moves R (perform site config next.action)) :
    Moves R (lane.move site config variant) := by
  cases lane with
  | waiting =>
      exact hrunId.bind fun _ => (moves_noteNow hnow _ _ _).bind fun _ => moves_goOn hnow _ _ _
  | underway progress results next behind =>
      -- Only the action can lead further than the clocks do.
      have haction : Moves R (perform site config next.action) := hnext next behind ⟨_, _, rfl⟩
      refine (moves_beginStep hnow _ _).bind fun _ => (moves_runStep hwatch haction).bind ?_
      intro result
      cases result with
      | error message => exact moves_pure _
      | ok result =>
          refine Moves.ite _ ?_ ?_
          · exact (moves_completeStep hnow _ _).bind fun _ => moves_goOn hnow _ _ _
          · exact (moves_failStep hnow _ _).bind fun _ => moves_pure _
  | ended result => exact moves_pure _

end

/-! ### Moves on a larger world -/

section
variable {σ τ : Type} {view : τ → σ} {site : Site (StateM σ)} {other : Site (StateM τ)}
  (h : SiteShadows view site other) (config : Config) (variant : Variant)
include h

/-- Going on does the same on either site. At the end of a plan a last line is noted, and in front
of it nothing is done yet. -/
theorem shadows_goOn (progress : Progress) (results : List StepResult) (steps : List PlannedStep) :
    Shadows view (goOn site config variant progress results steps)
      (goOn other config variant progress results steps) := by
  cases steps with
  | nil => exact (shadows_noteNow h _ _ _).bind fun _ => shadows_pure _
  | cons next behind => exact shadows_pure _

/-- A move does what it does on either site. -/
theorem shadows_move (lane : Lane) :
    Shadows view (lane.move site config variant) (lane.move other config variant) := by
  cases lane with
  | waiting =>
      exact h.newRunId.bind fun _ => (shadows_noteNow h _ _ _).bind fun _ =>
        shadows_goOn h config variant _ _ _
  | underway progress results next behind =>
      refine (shadows_noteNow h _ _ _).bind fun _ => (shadows_runStep h config next).bind ?_
      intro result
      cases result with
      | error message => exact shadows_pure _
      | ok result =>
          refine Shadows.ite _ ?_ ?_
          · exact (shadows_completeStep h _ _).bind fun _ => shadows_goOn h config variant _ _ _
          · exact (shadows_failStep h _ _).bind fun _ => shadows_pure _
  | ended result => exact shadows_pure _

/-- So does what is left of a lane. -/
theorem shadows_rest (lane : Lane) :
    Shadows view (lane.rest site config variant) (lane.rest other config variant) := by
  cases lane with
  | waiting => exact shadows_execute h config variant
  | underway progress results next behind =>
      refine (shadows_runSteps h config _ _).bind fun ended => ?_
      cases ended with
      | error message => exact shadows_pure _
      | ok walk =>
          exact Shadows.ite _ ((shadows_noteNow h _ _ _).bind fun _ => shadows_pure _)
            (shadows_pure _)
  | ended result => exact shadows_pure _

omit variant in
/-- So do moves one after the other. -/
theorem shadows_takeTurns (schedule : List Variant) (lanes : Variant → Lane) :
    Shadows view (takeTurns site config schedule lanes)
      (takeTurns other config schedule lanes) := by
  induction schedule generalizing lanes with
  | nil => exact shadows_pure _
  | cons variant rest ih => exact (shadows_move h config variant _).bind fun _ => ih _

end
end Lane

/-! ### What is left of lanes -/

namespace Race

section
variable {σ : Type} {site : Site (StateM σ)} {config : Config} {variant : Variant}

/-- Turns of one variant leave the same rest to be run as there was before. -/
theorem rest_play_alone (race : Race σ) (count : Nat) :
    let after := race.play site config (List.replicate count variant)
    ((race.lanes variant).rest site config variant).run race.world =
      ((after.lanes variant).rest site config variant).run after.world := by
  induction count generalizing race with
  | zero => rfl
  | succ count ih =>
      refine (Lane.rest_eq_move _ _).trans (Eq.trans ?_ (ih (race.turn site config variant)))
      rw [run_bind, lanes_turn_self]
      rfl

/-- After enough turns a lane has ended. -/
theorem left_play_alone (race : Race σ) (count : Nat) :
    ((race.play site config (List.replicate count variant)).lanes variant).left config variant ≤
      (race.lanes variant).left config variant - count := by
  induction count generalizing race with
  | zero => exact Nat.le_refl _
  | succ count ih =>
      let turned := race.turn site config variant
      -- A turn takes one step off what is left, until nothing is.
      have hturn : (turned.lanes variant).left config variant ≤
          (race.lanes variant).left config variant - 1 := by
        rw [lanes_turn_self]
        exact (Lane.next_move _ _).left_le
      have hrest : ((turned.play site config (List.replicate count variant)).lanes variant).left
          config variant ≤ (turned.lanes variant).left config variant - count := ih turned
      show ((turned.play site config (List.replicate count variant)).lanes variant).left _ _ ≤ _
      omega

/-- Eleven turns are enough to run what is left of a lane. -/
theorem rest_eq_turns (site : Site (StateM σ)) (race : Race σ)
    (hsound : (race.lanes variant).Sound config variant) :
    let after := race.play site config (List.replicate 11 variant)
    ∃ result, after.lanes variant = .ended result ∧
      ((race.lanes variant).rest site config variant).run race.world = (result, after.world) := by
  intro after
  have hleft : (after.lanes variant).left config variant ≤
      (race.lanes variant).left config variant - 11 := left_play_alone race 11
  rw [Nat.sub_eq_zero_of_le (Lane.left_le hsound)] at hleft
  obtain ⟨result, hended⟩ := Lane.ended_of_left (Nat.le_zero.mp hleft)
  have hrest : ((race.lanes variant).rest site config variant).run race.world =
      ((after.lanes variant).rest site config variant).run after.world :=
    rest_play_alone race 11
  refine ⟨result, hended, hrest.trans ?_⟩
  rw [hended]
  rfl

/-- A variant that has the world to itself for eleven turns, one to begin and one for each step of
its plan, ends as its run does. -/
theorem play_alone (world : σ) :
    let after := (opening world).play site config (List.replicate 11 variant)
    ∃ result, after.lanes variant = .ended result ∧
      (execute site config variant).run world = (result, after.world) :=
  rest_eq_turns site (opening world) trivial

/-- The turns in which what is left of some variants is run, of one after the other. -/
def closingTurns (variants : List Variant) : List Variant :=
  variants.flatMap (List.replicate 11)

/-- Some variants have these turns, and no others do. -/
theorem mem_closingTurns {variants : List Variant} :
    variant ∈ closingTurns variants ↔ variant ∈ variants := by
  simp [closingTurns]

/-- To run what is left of some variants, of one after the other, is to give them these turns. -/
theorem run_rests (site : Site (StateM σ)) {variants : List Variant} (hnodup : variants.Nodup)
    {lanes : Variant → Lane} (race : Race σ)
    (hlanes : ∀ variant ∈ variants, race.lanes variant = lanes variant)
    (hsound : ∀ variant ∈ variants, (lanes variant).Sound config variant) :
    let after := race.play site config (closingTurns variants)
    ∃ ends, (variants.mapM fun variant => (lanes variant).rest site config variant).run race.world =
        (ends, after.world) ∧
      List.Forall₂ (fun variant result => after.lanes variant = .ended result) variants ends := by
  induction variants generalizing race with
  | nil => exact ⟨[], rfl, .nil⟩
  | cons first others ih =>
      obtain ⟨hnot, hnodup⟩ := List.nodup_cons.mp hnodup
      obtain ⟨hfirst, hothers⟩ := List.forall_mem_cons.mp hlanes
      obtain ⟨hsoundFirst, hsoundOthers⟩ := List.forall_mem_cons.mp hsound
      rw [← hfirst] at hsoundFirst
      obtain ⟨between, hbetween⟩ : ∃ between,
          race.play site config (List.replicate 11 first) = between := ⟨_, rfl⟩
      obtain ⟨result, hended, hrest⟩ := rest_eq_turns site race hsoundFirst
      rw [hfirst, hbetween] at hrest
      rw [hbetween] at hended
      -- The others stand where they stood, since they had no turn yet.
      have hstill : ∀ variant ∈ others, between.lanes variant = lanes variant := by
        intro variant hvariant
        rw [← hbetween]
        refine (lanes_play_of_notMem fun hmem => ?_).trans (hothers variant hvariant)
        exact hnot (List.eq_of_mem_replicate hmem ▸ hvariant)
      obtain ⟨ends, hends, hall⟩ := ih hnodup between hstill hsoundOthers
      have hplay : race.play site config (closingTurns (first :: others)) =
          between.play site config (closingTurns others) := by
        rw [← hbetween]
        exact play_append _ _
      have hkept : (between.play site config (closingTurns others)).lanes first = .ended result :=
        (lanes_play_of_notMem (mt mem_closingTurns.mp hnot)).trans hended
      rw [hplay]
      refine ⟨result :: ends, ?_, .cons hkept hall⟩
      rw [run_mapM_cons, hrest, hends]

end
end Race
end ReleasePipeline.Proofs
