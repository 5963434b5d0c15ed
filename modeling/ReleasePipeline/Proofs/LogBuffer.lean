import ReleasePipeline.LogBuffer
import ReleasePipeline.Proofs.Execution.Journal

/-!
# `ReleasePipeline.Proofs.LogBuffer`: no entry of a log buffer is lost or taken twice

A log buffer is used by a run, which notes messages and outputs, and by everybody who has a handle
of it. All of them add entries and take them out, in any order. Which buffer a handle is of is
told by its `origin`, the handle that its first clone was made from.

`entriesOf` are the entries that an event makes. A note is one entry, and an output is an entry
for each of its lines that is not blank, as these are told by `cutAtFeeds`. `shareOf` is what one
buffer gets of them.

What one event does to one buffer is said by `Recorded`, and `recorded_step` says that every event
does so. One after the other they keep an account (`Balanced`), by an induction over the events:
what was taken out and what is still there are what was there and what was added.
`log_buffer_loses_nothing` says this of the run's buffer and of all others, whichever of its
handles they were used through.
-/

set_option autoImplicit false

namespace ReleasePipeline.Proofs

open Text (isBlank)

/-! ### Handles of one buffer -/

/-- The handle that was there before all clones. -/
def origin : LogHandle → LogHandle
  | .clone of => origin of
  | handle => handle

section
variable (buffers : LogBuffers)

/-- All handles of a buffer show the same entries. -/
theorem entries_origin (handle : LogHandle) :
    buffers.entries (origin handle) = buffers.entries handle := by
  induction handle with
  | ofRun => rfl
  | other number => rfl
  | clone of ih => exact ih

/-- The entries of a buffer after another than the run's was given new ones. -/
theorem entries_withOther (number : Nat) (entries : List LogEntry) (handle : LogHandle) :
    (buffers.withOther number entries).entries handle =
      if .other number = origin handle then entries else buffers.entries handle := by
  induction handle with
  | ofRun => rfl
  | other n => simp [origin, LogBuffers.withOther, LogBuffers.entries, eq_comm]
  | clone of ih => exact ih

/-- The entries of a buffer after the run's was given new ones. -/
theorem entries_withProgress (progress : Progress) (handle : LogHandle) :
    ({ buffers with progress := progress } : LogBuffers).entries handle =
      if .ofRun = origin handle then progress.buffered else buffers.entries handle := by
  induction handle with
  | ofRun => rfl
  | other n => rfl
  | clone of ih => exact ih

/-- What the run notes is behind the other entries for all handles of its buffer. -/
theorem entries_noted {progress : Progress} {entries : List LogEntry}
    (h : progress.buffered = buffers.progress.buffered ++ entries) (handle : LogHandle) :
    ({ buffers with progress := progress } : LogBuffers).entries handle =
      buffers.entries handle ++ if .ofRun = origin handle then entries else [] := by
  rw [entries_withProgress, ← entries_origin buffers handle]
  split
  · next horigin =>
      rw [← horigin]
      exact h
  · rw [List.append_nil]

/-- What is added through one handle is there for all handles of the buffer, and for no others. -/
theorem entries_add (entry : LogEntry) (used handle : LogHandle) :
    (buffers.add entry used).entries handle =
      buffers.entries handle ++ if origin used = origin handle then [entry] else [] := by
  induction used with
  | ofRun => exact entries_noted buffers rfl handle
  | other number =>
      show (buffers.withOther number (buffers.others number ++ [entry])).entries handle =
        buffers.entries handle ++ if .other number = origin handle then [entry] else []
      rw [entries_withOther, ← entries_origin buffers handle]
      -- The buffer that is written to is the one that is read, or its entries stay.
      split
      · next horigin =>
          rw [← horigin]
          rfl
      · rw [List.append_nil]
  | clone of ih => exact ih

/-- What is taken out are the entries that are there. -/
theorem drain_fst (handle : LogHandle) : (buffers.drain handle).1 = buffers.entries handle := by
  induction handle with
  | ofRun => rfl
  | other number => rfl
  | clone of ih => exact ih

/-- They are gone for all handles of the buffer, and for no others. -/
theorem entries_drain (used handle : LogHandle) :
    (buffers.drain used).2.entries handle =
      if origin used = origin handle then [] else buffers.entries handle := by
  induction used with
  | ofRun => exact entries_withProgress buffers _ handle
  | other number => exact entries_withOther buffers number [] handle
  | clone of ih => exact ih

end

/-! ### What events add and take out -/

/-- The lines of an output that hold more than blanks, as they stand there. -/
def linesWithInk (output : String) : List String :=
  ((cutAtFeeds output.toList).filter fun line => line.any fun c => !isBlank c).map String.ofList

/-- The lines that are noted of an output are those with something other than blanks in them. -/
theorem notedLines_eq (output : String) : notedLines output = linesWithInk output := by
  unfold notedLines linesWithInk Text.linesOf
  rw [lines_eq_cutAtFeeds, List.filter_map]
  congr 2
  funext line
  simp [Text.isBlankText, List.any_eq_not_all_not]

/-- The handle of the buffer that an event is about. -/
def handleOf : LogEvent → LogHandle
  | .add handle _ => handle
  | .drain handle => handle
  | _ => .ofRun

/-- The entries that an event makes. A note is one entry, and an output is an entry for each of
its lines; each of these has the moment that the clock gives for it. -/
def entriesOf {σ : Type} (clock : StateM σ Instant) : LogEvent → StateM σ (List LogEntry)
  | .note level message => do
    let now ← clock
    pure [⟨now, level, message⟩]
  | .noteOutput level output =>
    (linesWithInk output).mapM fun line => do
      let now ← clock
      pure ⟨now, level, line⟩
  | .add _ entry => pure [entry]
  | .enter _ | .drain _ => pure []

/-- What the buffer of a handle gets of the entries that an event makes: all if the event is about
that buffer, and else none. -/
def shareOf (handle : LogHandle) (event : LogEvent) (entries : List LogEntry) : List LogEntry :=
  if origin (handleOf event) = origin handle then entries else []

/-- Whether an event takes out the entries in the buffer of a handle. -/
def drains (handle : LogHandle) : LogEvent → Bool
  | .drain used => origin used = origin handle
  | _ => false

/-- The batches that events took out of the buffer of a handle. -/
def batchesOf (handle : LogHandle) (events : List LogEvent) (taken : List (List LogEntry)) :
    List (List LogEntry) :=
  ((events.zip taken).filter fun (event, _) => drains handle event).map Prod.snd

/-! ### One event -/

/-- What an event did to the entries of one buffer: it took all that were there, or it took none
and put those that it added behind them. -/
structure Recorded (handle : LogHandle) (event : LogEvent)
    (before after taken added : List LogEntry) :
    Prop where
  drained : drains handle event = true → taken = before ∧ after = [] ∧ added = []
  kept : drains handle event = false → after = before ++ added

/-- An event that takes nothing out of any buffer. -/
theorem recorded_of_added {handle : LogHandle} {event : LogEvent}
    {before after taken added : List LogEntry} (hdrains : drains handle event = false)
    (hafter : after = before ++ added) :
    Recorded handle event before after taken added where
  drained := by
    intro h
    rw [hdrains] at h
    contradiction
  kept := fun _ => hafter

section
variable {σ : Type} (clock : StateM σ Instant)

/-- What any event does to the entries of any buffer. It reads the clock for the entries that it
makes, and for nothing else. -/
theorem recorded_step (buffers : LogBuffers) (event : LogEvent) (handle : LogHandle) (world : σ) :
    let ended := (buffers.step clock event).run world
    let made := (entriesOf clock event).run world
    ended.2 = made.2 ∧
      Recorded handle event (buffers.entries handle) (ended.1.2.entries handle) ended.1.1
        (shareOf handle event made.1) := by
  cases event with
  | enter stage =>
      refine ⟨rfl, recorded_of_added rfl (entries_noted buffers ?_ handle)⟩
      rw [buffered_enter]
      exact (List.append_nil _).symm
  | note level message =>
      exact ⟨rfl, recorded_of_added rfl (entries_noted buffers rfl handle)⟩
  | noteOutput level output =>
      simp only [entriesOf, ← notedLines_eq]
      exact ⟨rfl, recorded_of_added rfl (entries_noted buffers rfl handle)⟩
  | add used entry =>
      exact ⟨rfl, recorded_of_added rfl (entries_add buffers entry used handle)⟩
  | drain used =>
      -- Either way nothing is added: the entries of this buffer go, or those of another one.
      have hadded : shareOf handle (.drain used) [] = [] := ite_self []
      refine ⟨rfl, ?_, ?_⟩
      · intro hdrains
        have horigin : origin used = origin handle := of_decide_eq_true hdrains
        refine ⟨?_, ?_, hadded⟩
        · show (buffers.drain used).1 = buffers.entries handle
          rw [drain_fst, ← entries_origin, horigin, entries_origin]
        · exact (entries_drain buffers used handle).trans (if_pos horigin)
      · intro hkept
        show (buffers.drain used).2.entries handle =
          buffers.entries handle ++ shareOf handle (.drain used) []
        rw [hadded, List.append_nil, entries_drain, if_neg (of_decide_eq_false hkept)]

end

/-! ### One event after the other -/

/-- The account of one buffer: what was taken out and what is there are what was there and what
was added, and what is there was added since the buffer was last drained. -/
structure Balanced (handle : LogHandle) (events : List LogEvent) (taken : List (List LogEntry))
    (before after : List LogEntry) (added : List (List LogEntry)) : Prop where
  balance : (batchesOf handle events taken).flatten ++ after = before ++ added.flatten
  sinceDrained : ∀ first last since, events = first ++ last :: since → drains handle last = true →
    (∀ event ∈ since, drains handle event = false) → after = (added.drop (first.length + 1)).flatten

section
variable {handle : LogHandle} {event : LogEvent} {events : List LogEvent}
  {before middle after entries added : List LogEntry} {taken more : List (List LogEntry)}

/-- Where no event drains a buffer, nothing is taken out. -/
theorem batchesOf_eq_nil (h : ∀ event ∈ events, drains handle event = false) :
    batchesOf handle events taken = [] := by
  simp only [batchesOf, List.map_eq_nil_iff, List.filter_eq_nil_iff, Bool.not_eq_true]
  rintro ⟨event, batch⟩ hmem
  exact h event (List.of_mem_zip hmem).1

/-- An event in front of an account. -/
theorem Recorded.cons (hevent : Recorded handle event before middle entries added)
    (hevents : Balanced handle events taken middle after more) :
    Balanced handle (event :: events) (entries :: taken) before after (added :: more) where
  balance := by
    have hrest := hevents.balance
    cases hdrains : drains handle event with
    | true =>
        obtain ⟨rfl, rfl, rfl⟩ := hevent.drained hdrains
        simpa [batchesOf, hdrains] using hrest
    | false =>
        rw [hevent.kept hdrains, List.append_assoc] at hrest
        simpa [batchesOf, hdrains] using hrest
  sinceDrained := by
    intro first last since hsplit hlast hsince
    cases first with
    | nil =>
        obtain ⟨rfl, rfl⟩ := List.cons.inj hsplit
        obtain ⟨-, rfl, -⟩ := hevent.drained hlast
        -- Nothing is taken out any more, so what is there at the end is what was added.
        simpa [batchesOf_eq_nil hsince] using hevents.balance
    | cons other others =>
        obtain ⟨rfl, hrest⟩ := List.cons.inj hsplit
        exact hevents.sinceDrained others last since hrest hlast hsince

end

section
variable {σ : Type} (clock : StateM σ Instant)

/-- All events together keep an account of each buffer. -/
theorem balanced_run (events : List LogEvent) (buffers : LogBuffers) (handle : LogHandle)
    (world : σ) :
    let ended := ((LogBuffers.run clock events buffers).run world).1
    let made := ((events.mapM (entriesOf clock)).run world).1
    Balanced handle events ended.1 (buffers.entries handle) (ended.2.entries handle)
      (List.zipWith (shareOf handle) events made) := by
  induction events generalizing buffers world with
  | nil =>
      refine ⟨(List.append_nil _).symm, ?_⟩
      intro first last since hsplit
      simp at hsplit
  | cons event rest ih =>
      obtain ⟨hworld, hevent⟩ := recorded_step clock buffers event handle world
      -- Making the entries asks the clock as often as recording them does, so both go on from the
      -- same world.
      have hmade : (((event :: rest).mapM (entriesOf clock)).run world).1 =
          ((entriesOf clock event).run world).1 ::
            ((rest.mapM (entriesOf clock)).run ((buffers.step clock event).run world).2).1 := by
        rw [run_mapM_cons, hworld]
      intro ended made
      rw [show made = _ from hmade]
      exact hevent.cons (ih _ _)

/-- **No entry of a log buffer is lost or taken twice.** Whatever a run notes and whatever is done
through handles, in whatever order, this holds of each buffer, the one of the run among them: the
batches that were taken out through its handles, one after the other, and then the entries that
are still in it, are the entries that were in it and then those that were added, in their order.
Once it has been drained, it is empty and then has exactly the entries that were added since, as
many as are counted. -/
theorem log_buffer_loses_nothing (events : List LogEvent) (buffers : LogBuffers)
    (handle : LogHandle) (world : σ) :
    let ended := ((LogBuffers.run clock events buffers).run world).1
    let made := ((events.mapM (entriesOf clock)).run world).1
    let added := List.zipWith (shareOf handle) events made
    (batchesOf handle events ended.1).flatten ++ ended.2.entries handle =
      buffers.entries handle ++ added.flatten ∧
    ∀ first last since, events = first ++ last :: since → drains handle last = true →
      (∀ event ∈ since, drains handle event = false) →
      ended.2.entries handle = (added.drop (first.length + 1)).flatten ∧
      ended.2.count handle = (added.drop (first.length + 1)).flatten.length ∧
      (since = [] → ended.2.isEmpty handle = true) := by
  intro ended made added
  obtain ⟨hbalance, hsince⟩ := balanced_run clock events buffers handle world
  refine ⟨hbalance, ?_⟩
  intro first last since hsplit hlast hkept
  have hentries : ended.2.entries handle = (added.drop (first.length + 1)).flatten :=
    hsince first last since hsplit hlast hkept
  refine ⟨hentries, congrArg List.length hentries, ?_⟩
  rintro rfl
  -- Nothing was added behind the last event of all.
  have hall : added.length ≤ first.length + 1 := by
    have hlength : events.length = first.length + 1 := by simp [hsplit]
    show (List.zipWith (shareOf handle) events made).length ≤ first.length + 1
    rw [List.length_zipWith]
    omega
  rw [List.drop_eq_nil_of_le hall] at hentries
  simp [LogBuffers.isEmpty, LogBuffers.count, hentries]

end

/-- A buffer that two clones and the run use, and another one. -/
theorem log_buffer_loses_nothing_shared :
    let handle := LogHandle.clone .ofRun
    let first : List LogEvent :=
      [.noteOutput .error "first\r\n\n \t\nsecond\n", .add handle ⟨.epoch, .info, "shared"⟩]
    let last := LogEvent.drain (.clone handle)
    let since : List LogEvent :=
      [.note .info "done", .add (.other 0) ⟨.epoch, .info, "elsewhere"⟩]
    let ended := ((LogBuffers.run (pure .epoch : StateM Unit Instant) (first ++ last :: since)
      (.ofProgress (.start (.ofNat 1) "linux"))).run ()).1
    drains handle last = true ∧
    (∀ event ∈ since, drains handle event = false) ∧
    (batchesOf handle (first ++ last :: since) ended.1).map (List.map told) =
      [[(.error, "first"), (.error, "second"), (.info, "shared")]] ∧
    ended.2.entries handle = [⟨.epoch, .info, "done"⟩] ∧
    ended.2.count handle = 1 := by
  intro handle first last since ended
  have hlast : drains handle last = true := rfl
  have hsince : ∀ event ∈ since, drains handle event = false := by decide
  obtain ⟨-, hdrained⟩ := log_buffer_loses_nothing (pure .epoch : StateM Unit Instant)
    (first ++ last :: since) (.ofProgress (.start (.ofNat 1) "linux")) handle ()
  obtain ⟨hentries, hcount, -⟩ := hdrained first last since rfl hlast hsince
  exact ⟨hlast, hsince, by decide, hentries, hcount⟩

end ReleasePipeline.Proofs
