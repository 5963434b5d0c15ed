import ReleasePipeline.Proofs.Pipeline.Run

/-!
# `ReleasePipeline.Proofs.Pipeline.Schedule`: every order of tasks comes to the same kind of end

A floor says what may happen next: a waiting task takes a place, or a running task ends, with a
report or by crashing. A list of events is one order in which this happens.
`every_schedule_reports_all` is about all of them. It rests on `Accounted`, which the opening
floor has and every event keeps (`Accounted.step`): what has happened to a task so far is told by
where the task stands, and there are never more tasks running than there are places.

An order in which all tasks end completes them (`Completes`). As long as a task has not ended
something can happen, and no more than two things happen to each. So every order can be led to
such an end, and from the ends the reports follow, one for each variant in the order of the
variants.
-/

set_option autoImplicit false

namespace ReleasePipeline.Proofs

open Pipeline (selectedVariants)

/-! ### Events and tasks -/

/-- The task that something happens to. -/
def taskOf : FloorEvent → Nat
  | .start task => task
  | .finish task _ => task

/-- Whether a task takes a place. -/
def isStart : FloorEvent → Bool
  | .start _ => true
  | .finish .. => false

/-- What has happened to a task that stands where it does. -/
def storyOf (task : Nat) : TaskState → List FloorEvent
  | .waiting => []
  | .running => [.start task]
  | .ended result => [.start task, .finish task result]

/-- How an event moves its task. -/
inductive Advances : FloorEvent → TaskState → TaskState → Prop where
  | start (task : Nat) : Advances (.start task) .waiting .running
  | finish (task : Nat) (result : TaskEnd) : Advances (.finish task result) .running (.ended result)

/-- A task that was moved has one thing more in its story. -/
theorem Advances.story {event : FloorEvent} {old new : TaskState} (h : Advances event old new) :
    storyOf (taskOf event) new = storyOf (taskOf event) old ++ [event] := by
  cases h <;> rfl

section
variable {floor after : Floor} {event : FloorEvent} {old new : TaskState}

/-- An event moves one task. A task that takes a place finds one. -/
theorem step_eq_some (h : floor.step event = some after) :
    ∃ old new, floor.tasks[taskOf event]? = some old ∧ Advances event old new ∧
      (isStart event = true → floor.running < floor.places) ∧
      after = { floor with tasks := floor.tasks.set (taskOf event) new } := by
  cases event with
  | start task =>
      cases hstate : floor.tasks[task]? with
      | none => simp [Floor.step, hstate] at h
      | some state =>
          cases state with
          | waiting =>
              simp only [Floor.step, hstate, Option.ite_none_right_eq_some, Option.some_inj] at h
              exact ⟨_, _, hstate, .start task, fun _ => h.1, h.2.symm⟩
          | running => simp [Floor.step, hstate] at h
          | ended _ => simp [Floor.step, hstate] at h
  | finish task result =>
      cases hstate : floor.tasks[task]? with
      | none => simp [Floor.step, hstate] at h
      | some state =>
          cases state with
          | waiting => simp [Floor.step, hstate] at h
          | running =>
              simp only [Floor.step, hstate, Option.some_inj] at h
              exact ⟨_, _, hstate, .finish task result, nofun, h.symm⟩
          | ended _ => simp [Floor.step, hstate] at h

/-- Where one task of many is moved, the tasks before and behind it stay. -/
theorem exists_split_of_set {tasks : List TaskState} {task : Nat} {old : TaskState}
    (h : tasks[task]? = some old) (new : TaskState) :
    ∃ before behind, tasks = before ++ old :: behind ∧
      tasks.set task new = before ++ new :: behind := by
  obtain ⟨hlt, hold⟩ := List.getElem?_eq_some_iff.mp h
  obtain ⟨before, behind, htasks, -, hset⟩ := List.exists_of_set hlt
  rw [hold] at htasks
  exact ⟨before, behind, htasks, hset⟩

/-- Whether a task has taken a place. -/
def hasStarted : TaskState → Bool
  | .waiting => false
  | _ => true

/-- Tasks of one kind are not counted among those of another. -/
theorem countP_map_eq_zero {α : Type} {p : TaskState → Bool} {make : α → TaskState}
    (h : ∀ a, p (make a) = false) (list : List α) : (list.map make).countP p = 0 := by
  refine List.countP_eq_zero.mpr fun state hstate => ?_
  obtain ⟨a, -, rfl⟩ := List.mem_map.mp hstate
  rw [h a]
  exact Bool.false_ne_true

/-- The books of a floor: what has happened so far, and how it stands. -/
structure Accounted (most count : Nat) (events : List FloorEvent) (floor : Floor) : Prop where
  places : floor.places = most
  size : floor.tasks.length = count
  bounded : floor.running ≤ most
  balance : floor.running + events.countP (!isStart ·) = events.countP isStart
  started : events.countP isStart = floor.tasks.countP hasStarted
  known : ∀ event ∈ events, taskOf event < count
  story : ∀ task state, floor.tasks[task]? = some state →
    events.filter (taskOf · = task) = storyOf task state

variable {most count : Nat} {events : List FloorEvent}

/-- On the opening floor nothing has happened. -/
theorem accounted_opening (cap : Option Nat) (variants : List Variant) :
    Accounted (places cap variants.length) variants.length []
      (Floor.opening cap variants) where
  places := rfl
  size := List.length_map _
  bounded := by
    rw [Floor.running, Floor.opening, countP_map_eq_zero fun _ => rfl]
    exact Nat.zero_le _
  balance := countP_map_eq_zero (fun _ => rfl) variants
  started := (countP_map_eq_zero (fun _ => rfl) variants).symm
  known _ h := nomatch h
  story task state h := by
    obtain ⟨_, -, rfl⟩ := List.mem_map.mp (List.mem_of_getElem? h)
    rfl

/-- What is counted of the tasks changes with the one task that is moved. -/
theorem counts_of_step (hold : floor.tasks[taskOf event]? = some old) (h : Advances event old new)
    (hafter : after = { floor with tasks := floor.tasks.set (taskOf event) new }) :
    (after.running + (if isStart event then 0 else 1) =
      floor.running + (if isStart event then 1 else 0)) ∧
    after.tasks.countP hasStarted =
      floor.tasks.countP hasStarted + (if isStart event then 1 else 0) := by
  -- Only one task changes its state, so the counts in front of it and behind it are the same.
  obtain ⟨before, behind, htasks, hset⟩ := exists_split_of_set hold new
  subst hafter
  simp only [Floor.running, hset]
  simp only [htasks, List.countP_append, List.countP_cons]
  cases h with
  | start task =>
      simp only [TaskState.isRunning, hasStarted, isStart, if_true, Bool.false_eq_true, if_false]
      omega
  | finish task result =>
      simp only [TaskState.isRunning, hasStarted, isStart, if_true, Bool.false_eq_true, if_false]
      omega

/-- Whatever happens next is entered in the books. -/
theorem Accounted.step (h : Accounted most count events floor)
    (hstep : floor.step event = some after) :
    Accounted most count (events ++ [event]) after := by
  obtain ⟨old, new, hold, hadvances, hfree, hafter⟩ := step_eq_some hstep
  obtain ⟨hrunning, hstarted⟩ := counts_of_step hold hadvances hafter
  have hlt : taskOf event < count := by
    rw [← h.size]
    exact (List.getElem?_eq_some_iff.mp hold).1
  have hbounded := h.bounded
  have hbalance := h.balance
  rw [h.places] at hfree
  refine ⟨?_, ?_, ?_, ?_, ?_, ?_, ?_⟩
  · rw [hafter]
    exact h.places
  · rw [hafter]
    exact (List.length_set ..).trans h.size
  -- Only a task that takes a place makes them more, and it found one.
  · cases hstart : isStart event with
    | true =>
        have hroom := hfree hstart
        simp only [hstart, if_true] at hrunning
        omega
    | false =>
        simp only [hstart, Bool.false_eq_true, if_false] at hrunning
        omega
  · rw [List.countP_append, List.countP_append, List.countP_singleton, List.countP_singleton]
    cases hstart : isStart event with
    | true =>
        simp only [hstart, if_true] at hrunning
        simp only [Bool.not_true, Bool.false_eq_true, if_true, if_false]
        omega
    | false =>
        simp only [hstart, Bool.false_eq_true, if_false] at hrunning
        simp only [Bool.not_false, Bool.false_eq_true, if_true, if_false]
        omega
  · rw [List.countP_append, List.countP_singleton, h.started, hstarted]
  · intro other hother
    rcases List.mem_append.mp hother with hearlier | hnow
    · exact h.known other hearlier
    · rw [List.mem_singleton.mp hnow]
      exact hlt
  · intro task state hstate
    rw [hafter] at hstate
    rw [List.filter_append]
    by_cases htask : taskOf event = task
    · subst htask
      rw [List.getElem?_set_self (h.size ▸ hlt), Option.some_inj] at hstate
      rw [h.story _ _ hold, ← hstate, hadvances.story, List.filter_cons_of_pos (by simp)]
      rfl
    · rw [List.getElem?_set_ne htask] at hstate
      rw [h.story _ _ hstate, List.filter_cons_of_neg (by simpa using htask), List.filter_nil,
        List.append_nil]

/-- So is whatever happens in some order. -/
theorem Accounted.run {more : List FloorEvent} (h : Accounted most count events floor)
    (hrun : floor.run more = some after) : Accounted most count (events ++ more) after := by
  induction more generalizing events floor with
  | nil =>
      cases hrun
      rw [List.append_nil]
      exact h
  | cons event rest ih =>
      obtain ⟨middle, hstep, hrest⟩ := Option.bind_eq_some_iff.mp hrun
      rw [List.append_cons]
      exact ih (h.step hstep) hrest

/-- The books of a floor that was opened for some variants. -/
theorem accounted_run {cap : Option Nat} {variants : List Variant}
    (hrun : (Floor.opening cap variants).run events = some floor) :
    Accounted (places cap variants.length) variants.length events floor :=
  (accounted_opening cap variants).run hrun

/-! ### Ends of tasks -/

/-- The ends of all tasks are known when all tasks have ended. -/
theorem results?_eq_some_iff {ends : List TaskEnd} :
    floor.results? = some ends ↔ floor.tasks = ends.map .ended := by
  unfold Floor.results?
  induction floor.tasks generalizing ends with
  | nil => cases ends <;> simp
  | cons state rest ih =>
      rw [List.mapM_cons]
      cases state with
      | waiting => cases ends <;> simp
      | running => cases ends <;> simp
      | ended result =>
          cases ends with
          | nil => simp [Option.bind_eq_some_iff]
          | cons first others =>
              simp only [Option.bind_eq_bind, Option.bind_some, Option.bind_eq_some_iff,
                Option.pure_def, Option.some_inj, List.cons.injEq, List.map_cons,
                TaskState.ended.injEq]
              constructor
              · rintro ⟨found, hfound, rfl, rfl⟩
                exact ⟨rfl, ih.mp hfound⟩
              · rintro ⟨rfl, hrest⟩
                exact ⟨others, ih.mpr hrest, rfl, rfl⟩

/-- Tasks that have all ended have their ends. -/
theorem exists_ends {tasks : List TaskState}
    (h : ∀ state ∈ tasks, ∃ result, state = .ended result) :
    ∃ ends : List TaskEnd, tasks = ends.map .ended := by
  induction tasks with
  | nil => exact ⟨[], rfl⟩
  | cons state rest ih =>
      obtain ⟨⟨result, rfl⟩, hrest⟩ := List.forall_mem_cons.mp h
      obtain ⟨ends, rfl⟩ := ih hrest
      exact ⟨result :: ends, rfl⟩

/-- A task that has not ended keeps the ends from being known. -/
theorem exists_unended (h : floor.results? = none) :
    ∃ (task : Nat) (state : TaskState), floor.tasks[task]? = some state ∧
      ∀ result, state ≠ .ended result := by
  by_contra hnone
  obtain ⟨ends, hends⟩ : ∃ ends : List TaskEnd, floor.tasks = ends.map .ended := by
    refine exists_ends fun state hstate => ?_
    obtain ⟨task, htask⟩ := List.mem_iff_getElem?.mp hstate
    by_contra hunended
    exact hnone ⟨task, state, htask, fun result hresult => hunended ⟨result, hresult⟩⟩
  rw [results?_eq_some_iff.mpr hends] at h
  cases h

/-- As long as a task has not ended something can happen: a running task may end at any moment,
and if none is running there is a place for one that waits. -/
theorem exists_step (hplaces : 0 < floor.places) (h : floor.results? = none) :
    ∃ event after, floor.step event = some after := by
  -- A task that runs may end at any time. If none runs, all places are free for one that waits.
  by_cases hrunning : ∃ task : Nat, floor.tasks[task]? = some .running
  · obtain ⟨task, htask⟩ := hrunning
    refine ⟨.finish task (.error ""),
      { floor with tasks := floor.tasks.set task (.ended (.error "")) }, ?_⟩
    simp only [Floor.step, htask]
  · obtain ⟨task, state, htask, hunended⟩ := exists_unended h
    have hfree : floor.running = 0 := by
      refine List.countP_eq_zero.mpr fun other hother hruns => ?_
      obtain ⟨place, hplace⟩ := List.mem_iff_getElem?.mp hother
      cases other with
      | running => exact hrunning ⟨place, hplace⟩
      | waiting => exact Bool.false_ne_true hruns
      | ended result => exact Bool.false_ne_true hruns
    cases state with
    | waiting =>
        refine ⟨.start task, { floor with tasks := floor.tasks.set task .running }, ?_⟩
        simp only [Floor.step, htask]
        exact if_pos (hfree ▸ hplaces)
    | running => exact absurd ⟨task, htask⟩ hrunning
    | ended result => exact absurd rfl (hunended result)

end

/-! ### Orders in which all tasks end -/

/-- An order of events in which all tasks end, and how they end. -/
def Completes (cap : Option Nat) (variants : List Variant) (events : List FloorEvent)
    (ends : List TaskEnd) : Prop :=
  ∃ floor, (Floor.opening cap variants).run events = some floor ∧ floor.results? = some ends

/-- Where all tasks end, each has taken a place once and ended once, and nothing else has
happened. -/
theorem Completes.story {cap : Option Nat} {variants : List Variant} {events : List FloorEvent}
    {ends : List TaskEnd} (h : Completes cap variants events ends) :
    ends.length = variants.length ∧ (∀ event ∈ events, taskOf event < variants.length) ∧
      ∀ task result, ends[task]? = some result →
        events.filter (taskOf · = task) = [.start task, .finish task result] := by
  obtain ⟨floor, hrun, hends⟩ := h
  have hbooks := accounted_run hrun
  have htasks : floor.tasks = ends.map .ended := results?_eq_some_iff.mp hends
  refine ⟨?_, hbooks.known, fun task result hresult => ?_⟩
  · rw [← hbooks.size, htasks, List.length_map]
  · have hstate : floor.tasks[task]? = some (.ended result) := by
      rw [htasks, List.getElem?_map, hresult]
      rfl
    exact hbooks.story task _ hstate

/-- The order in which tasks run one after the other, from some task on. -/
def oneAfterAnother : Nat → List TaskEnd → List FloorEvent
  | _, [] => []
  | task, result :: rest => .start task :: .finish task result :: oneAfterAnother (task + 1) rest

/-- The task behind those that have ended takes a place and ends. -/
theorem run_next {places : Nat} (hplaces : 0 < places) (ended : List TaskEnd) (result : TaskEnd)
    (waiting : List TaskState) (hwaiting : waiting.countP TaskState.isRunning = 0) :
    (Floor.mk places (ended.map .ended ++ .waiting :: waiting)).run
        [.start ended.length, .finish ended.length result] =
      some ⟨places, (ended ++ [result]).map .ended ++ waiting⟩ := by
  have hended : (ended.map TaskState.ended).countP TaskState.isRunning = 0 :=
    countP_map_eq_zero (fun _ => rfl) ended
  -- All that is in front has ended and all that is behind still waits, so a place is free.
  have hfree : (Floor.mk places (ended.map .ended ++ .waiting :: waiting)).running < places := by
    rw [Floor.running, List.countP_append, hended, List.countP_cons_of_neg (by exact nofun),
      hwaiting]
    exact hplaces
  have hstart : (Floor.mk places (ended.map .ended ++ .waiting :: waiting)).step
      (.start ended.length) = some ⟨places, ended.map .ended ++ .running :: waiting⟩ := by
    simp [Floor.step, hfree]
  have hfinish : (Floor.mk places (ended.map .ended ++ .running :: waiting)).step
      (.finish ended.length result) =
        some ⟨places, (ended ++ [result]).map .ended ++ waiting⟩ := by
    simp [Floor.step]
  rw [Floor.run, hstart, Option.bind_some, Floor.run, hfinish]
  rfl

/-- The events of one order, then those of another. -/
theorem run_append {floor after : Floor} {first : List FloorEvent}
    (h : floor.run first = some after) (second : List FloorEvent) :
    floor.run (first ++ second) = after.run second := by
  induction first generalizing floor with
  | nil =>
      cases h
      rfl
  | cons event rest ih =>
      obtain ⟨middle, hstep, hrest⟩ := Option.bind_eq_some_iff.mp h
      rw [List.cons_append, Floor.run, hstep]
      exact ih hrest

/-- All tasks may run one after the other, and end in any way. -/
theorem run_oneAfterAnother {places : Nat} (hplaces : 0 < places) (ended ends : List TaskEnd) :
    (Floor.mk places (ended.map .ended ++ ends.map fun _ => .waiting)).run
        (oneAfterAnother ended.length ends) =
      some ⟨places, (ended ++ ends).map .ended⟩ := by
  induction ends generalizing ended with
  | nil => simp [oneAfterAnother, Floor.run]
  | cons result rest ih =>
      have hwaiting : (rest.map fun _ => TaskState.waiting).countP TaskState.isRunning = 0 :=
        countP_map_eq_zero (fun _ => rfl) rest
      have hrest := ih (ended ++ [result])
      rw [List.length_append, List.length_singleton, List.append_assoc] at hrest
      exact (run_append (run_next hplaces ended result _ hwaiting) _).trans hrest

/-- Then all tasks end, whatever the ends. -/
theorem completes_oneAfterAnother (cap : Option Nat) {variants : List Variant} {ends : List TaskEnd}
    (h : ends.length = variants.length) :
    Completes cap variants (oneAfterAnother 0 ends) ends := by
  have hwaiting : (variants.map fun _ => TaskState.waiting) = ends.map fun _ => .waiting := by
    rw [List.map_const', List.map_const', h]
  refine ⟨⟨places cap variants.length, ends.map .ended⟩, ?_, results?_eq_some_iff.mpr rfl⟩
  rw [Floor.opening, hwaiting]
  exact run_oneAfterAnother (Nat.le_max_right _ 1) [] ends

/-! ### Reports -/

/-- What is reported of a task: what it returned, or that its variant was aborted. -/
def ReportsOn (number : Nat) (variant : Variant) (report : VariantReport) : TaskEnd → Prop
  | .ok returned => report = returned
  | .error message =>
    report.variant = variant ∧ report.stage = .failed .aborted ∧
      report.history = [.pending, .failed .aborted] ∧ report.steps = [] ∧
      report.artifact = none ∧ ∃ now, report.logs = [⟨now, .error, crashReason number message⟩]

/-- A task that ended on a report is reported on by it, and one that crashed as aborted. -/
theorem reportsOn_reportTask {σ : Type} (now : StateM σ Instant) (newRunId : StateM σ RunId)
    (number : Nat) (variant : Variant) (result : TaskEnd) (world : σ) :
    ReportsOn number variant ((reportTask now newRunId number variant result).run world).1
      result := by
  cases result with
  | ok report => rfl
  | error message => exact ⟨rfl, rfl, rfl, rfl, rfl, _, rfl⟩

/-- There is one report for each variant, in the order of the variants, on what became of its
task. The tasks are numbered from some number on. -/
structure InOrder (number : Nat) (variants : List Variant) (ends : List TaskEnd)
    (reports : List VariantReport) : Prop where
  length : reports.length = variants.length
  report : ∀ task variant result, variants[task]? = some variant → ends[task]? = some result →
    ∃ report, reports[task]? = some report ∧ ReportsOn (number + task) variant report result

/-- Tasks are reported on in their order. -/
theorem inOrder_collect {σ : Type} (now : StateM σ Instant) (newRunId : StateM σ RunId)
    (number : Nat) {variants : List Variant} {ends : List TaskEnd}
    (h : ends.length = variants.length) (world : σ) :
    InOrder number variants ends ((collect now newRunId number variants ends).run world).1 := by
  induction variants generalizing number ends world with
  | nil => exact ⟨rfl, fun _ _ _ hvariant => by cases hvariant⟩
  | cons variant rest ih =>
      cases ends with
      | nil => cases h
      | cons result results =>
          rw [collect, run_bind]
          have hrest := ih (number + 1) (Nat.succ.inj h)
            ((reportTask now newRunId number variant result).run world).2
          refine ⟨congrArg Nat.succ hrest.length, fun task other otherResult hother hresult => ?_⟩
          -- The first report is that of the first task, and the others are counted from the next
          -- number on.
          cases task with
          | zero =>
              cases hother
              cases hresult
              exact ⟨_, rfl, reportsOn_reportTask now newRunId number variant result world⟩
          | succ task =>
              obtain ⟨report, hreport, hon⟩ := hrest.report task other otherResult hother hresult
              rw [Nat.add_assoc, Nat.add_comm 1] at hon
              exact ⟨report, hreport, hon⟩

/-- **Every order of tasks comes to the same kind of end.** Whatever order variants take places,
return or crash in, there are never more of them running than there are places, a crash gives the
place back, and as long as one has not ended something can happen, so that at most two events for
each variant lead to an end. Then every variant has been run once, and is reported on once, in the
order of the variants: with the report that was returned, or as aborted. A run is such an order,
unless it asks for more places than there can be: then it breaks down before anything was run. -/
theorem every_schedule_reports_all {σ : Type} (pipeline : Pipeline (StateM σ))
    (site : Site (StateM σ)) (execute : Config → Variant → StateM σ TaskEnd) (trigger : Trigger)
    (world : σ) :
    let variants := selectedVariants pipeline.config pipeline.selection
    let most := max (pipeline.cap.getD variants.length) 1
    (∀ events floor, (Floor.opening pipeline.cap variants).run events = some floor →
      floor.running ≤ most ∧
      floor.running + events.countP (!isStart ·) = events.countP isStart ∧
      events.length ≤ 2 * variants.length ∧
      (floor.results? = none → ∃ event after, floor.step event = some after)) ∧
    (∀ events ends, Completes pipeline.cap variants events ends →
      (∀ event ∈ events, taskOf event < variants.length) ∧
      ends.length = variants.length ∧
      (∀ task result, ends[task]? = some result →
        events.filter (taskOf · = task) = [.start task, .finish task result]) ∧
      ∀ (now : StateM σ Instant) (newRunId : StateM σ RunId) (world : σ),
        InOrder 1 variants ends ((collect now newRunId 1 variants ends).run world).1) ∧
    (trigger.tagBlank = true →
      match (watchedRun pipeline site execute trigger).run (unwatched world) with
      | (.error error, after) =>
        maxPlaces < most ∧ error = .tooManyPlaces most ∧ after = unwatched world
      | (.ok outcome, _) =>
        most ≤ maxPlaces ∧
          (∃ events, Completes pipeline.cap variants events (taskEnds pipeline execute world)) ∧
          InOrder 1 variants (taskEnds pipeline execute world) outcome.variants) := by
  intro variants most
  refine ⟨fun events floor hrun => ?_, fun events ends hcompletes => ?_, fun htag => ?_⟩
  · have hbooks := accounted_run hrun
    refine ⟨hbooks.bounded, hbooks.balance, ?_, exists_step ?_⟩
    · have hstarted : events.countP isStart ≤ variants.length := by
        rw [hbooks.started, ← hbooks.size]
        exact List.countP_le_length
      have hbalance := hbooks.balance
      -- Every event is one that takes a place or one that gives it back.
      have hlength := List.length_eq_countP_add_countP isStart (l := events)
      simp only [decide_not, Bool.decide_eq_true] at hlength
      omega
    · rw [hbooks.places]
      exact Nat.le_max_right _ 1
  · obtain ⟨hlength, hknown, hstory⟩ := hcompletes.story
    exact ⟨hknown, hlength, hstory,
      fun now newRunId world => inOrder_collect now newRunId 1 hlength world⟩
  · have hlength := length_taskEnds pipeline execute world
    by_cases hplaces : maxPlaces < askedPlaces pipeline
    · rw [run_tooManyPlaces site htag hplaces]
      exact ⟨hplaces, rfl, rfl⟩
    · rw [run_eq site htag hplaces]
      refine ⟨Nat.le_of_not_lt hplaces, ⟨_, completes_oneAfterAnother pipeline.cap hlength⟩, ?_⟩
      rw [variants_finish]
      exact inOrder_collect _ _ 1 hlength _

end ReleasePipeline.Proofs
