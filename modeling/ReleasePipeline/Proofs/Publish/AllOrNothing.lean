import ReleasePipeline.Proofs.Publish.Shelf

/-!
# `ReleasePipeline.Proofs.Publish.AllOrNothing`: a release is published whole or not at all

`publish_all_or_nothing` is the main statement. It speaks of any host and any files, in the sense
of `Conditions`: every call and every read may fail, in any pattern.

A publication that returns a release leaves the host with exactly one release more, complete and
under a fresh identifier, and without the one that was found under the tag. One that returns an
error leaves the host as it was. There is one exception. If the new release had to be discarded and
that very call was refused, the draft is still there, with some of its files. The refused call is
then the last one of all, so the account of the calls tells the two cases apart.

The proof follows the order of the calls. `run_uploadAll` is the only induction: the draft stands
behind the releases that were there before, and each upload adds one file to it and to nothing
else. `run_discard` and `run_replace` then close the two ways out.
-/

set_option autoImplicit false

namespace ReleasePipeline.Proofs

open Publish (newRelease published uploadAll discard replace release publish)
open Rehearsal (HostCall)

/-! ### What is selected -/

/-- The order by name is transitive, as a merge sort asks for. -/
theorem fileName_le_trans (a b c : Artifact) (hab : decide (a.fileName ≤ b.fileName) = true)
    (hbc : decide (b.fileName ≤ c.fileName) = true) : decide (a.fileName ≤ c.fileName) = true :=
  decide_eq_true (String.le_trans (of_decide_eq_true hab) (of_decide_eq_true hbc))

/-- It is also total. -/
theorem fileName_le_total (a b : Artifact) :
    (decide (a.fileName ≤ b.fileName) || decide (b.fileName ≤ a.fileName)) = true := by
  rw [Bool.or_eq_true, decide_eq_true_eq, decide_eq_true_eq]
  exact String.le_total a.fileName b.fileName

/-- The artifacts of a release are those that the pattern accepts, in the order of their names. -/
theorem selectArtifacts_spec {artifacts selected : List Artifact} {glob : String}
    (h : selectArtifacts artifacts glob = .ok selected) :
    ∃ pattern, Glob.Pattern.ofText glob = .ok pattern ∧
      selected.Perm (artifacts.filter fun artifact => pattern.accepts artifact.fileName) ∧
      selected.Pairwise fun a b => a.fileName ≤ b.fileName := by
  unfold selectArtifacts at h
  cases hpattern : Glob.Pattern.ofText glob with
  | error error =>
      rw [hpattern] at h
      cases h
  | ok pattern =>
      rw [hpattern] at h
      cases h
      refine ⟨pattern, rfl, List.mergeSort_perm _ _, ?_⟩
      exact (List.pairwise_mergeSort fileName_le_trans fileName_le_total _).imp of_decide_eq_true

section
variable {m : Type → Type} [Monad m] (host : ReleaseHost m) (files : Files m)
  {descriptor : ReleaseDescriptor} {artifacts : List Artifact}

/-- A pattern that makes no sense ends a publication before it begins. -/
theorem publish_of_pattern_error {error : Glob.PatternError}
    (h : selectArtifacts artifacts descriptor.fileGlob = .error error) :
    publish host files descriptor artifacts = pure (.error (.pattern error)) := by
  unfold publish
  rw [h]

/-- So does a pattern that accepts nothing. -/
theorem publish_of_none_selected (h : selectArtifacts artifacts descriptor.fileGlob = .ok []) :
    publish host files descriptor artifacts =
      pure (.error (.noArtifacts descriptor.fileGlob)) := by
  unfold publish
  rw [h]

/-- Where artifacts are selected a release is made of them. -/
theorem publish_of_selected {first : Artifact} {rest : List Artifact}
    (h : selectArtifacts artifacts descriptor.fileGlob = .ok (first :: rest)) :
    publish host files descriptor artifacts = release host files descriptor (first :: rest) := by
  unfold publish
  rw [h]

end

/-! ### A shelf with a draft behind the other releases -/

namespace Shelf
variable {shelf : Shelf} {before : List KeptRelease} {draft : KeptRelease}

/-- The draft has an identifier of its own. -/
theorem draft_id_ne (h : shelf.releases = before ++ [draft]) :
    ∀ release ∈ before, release.id ≠ draft.id := by
  have hdistinct := shelf.distinct
  rw [h, List.map_append, List.map_singleton] at hdistinct
  -- All identifiers differ, and the last one is that of the draft.
  intro release hrelease
  exact (List.nodup_append.mp hdistinct).2.2 _ (List.mem_map_of_mem hrelease) _
    (List.mem_singleton_self _)

/-- A file for the draft goes to the draft alone. -/
theorem attach_draft (h : shelf.releases = before ++ [draft]) (file : String × ByteArray) :
    (shelf.attach draft.id file).releases = before ++ [draft.with [file]] := by
  have hbefore : before.map (fun release =>
      if release.id = draft.id then release.with [file] else release) = before := by
    refine (List.map_congr_left ?_).trans (List.map_id before)
    intro release hrelease
    exact if_neg (draft_id_ne h release hrelease)
  show shelf.releases.map _ = _
  rw [h, List.map_append, hbefore, List.map_singleton, if_pos rfl]

/-- Without the draft the other releases are left. -/
theorem remove_draft (h : shelf.releases = before ++ [draft]) :
    (shelf.remove draft.id).releases = before := by
  have hbefore : before.filter (fun release => decide (release.id ≠ draft.id)) = before := by
    refine List.filter_eq_self.mpr ?_
    intro release hrelease
    exact decide_eq_true (draft_id_ne h release hrelease)
  show shelf.releases.filter _ = _
  rw [h, List.filter_append, hbefore]
  simp

/-- Taking another release away leaves the draft behind the rest. -/
theorem remove_before (h : shelf.releases = before ++ [draft]) {id : UInt64}
    (hid : id ≠ draft.id) :
    (shelf.remove id).releases = before.filter (·.id ≠ id) ++ [draft] := by
  show shelf.releases.filter _ = _
  rw [h, List.filter_append]
  simp [hid.symm]

end Shelf

/-- Adding files in two goes adds them all. -/
theorem KeptRelease.with_with (release : KeptRelease) (first second : List (String × ByteArray)) :
    (release.with first).with second = release.with (first ++ second) := by
  simp [KeptRelease.with]

/-! ### The parts of a publication -/

section
variable (conditions : Conditions)

/-- The file that an artifact becomes in a release. -/
def fileOf (artifact : Artifact) : String × ByteArray :=
  (artifact.fileName, conditions.content artifact.path)

/-- Uploading adds files to the draft and changes nothing else. It adds all of them, unless it
fails, and then it adds those before the failure. -/
theorem run_uploadAll {before : List KeptRelease} {shown : HostedRelease}
    (selected : List Artifact) {draft : KeptRelease} (hid : shown.id = draft.id) {desk : Desk}
    (hdesk : desk.shelf.releases = before ++ [draft]) :
    ∃ result after added,
      (uploadAll conditions.host conditions.files shown selected).run desk = (result, after) ∧
      after.shelf.releases = before ++ [draft.with added] ∧
      added <+: selected.map (fileOf conditions) ∧
      ∀ names, result = .ok names → added = selected.map (fileOf conditions) := by
  induction selected generalizing draft desk with
  | nil =>
      refine ⟨.ok [], desk, [], rfl, ?_, List.nil_prefix, fun _ _ => rfl⟩
      rw [hdesk, KeptRelease.with, List.append_nil]
  | cons artifact rest ih =>
      have hnone : desk.shelf.releases = before ++ [draft.with []] := by
        rw [hdesk, KeptRelease.with, List.append_nil]
      rcases conditions.run_read artifact.path desk with ⟨error, hread⟩ | hread
      · -- A file that cannot be read stops the upload, and the draft has got nothing of it.
        refine ⟨.error (.unreadable artifact.path error), desk.later, [], ?_, hnone,
          List.nil_prefix, fun _ h => nomatch h⟩
        exact run_bind_of hread _
      · rcases conditions.run_upload shown artifact.fileName (conditions.content artifact.path)
          desk.later with ⟨error, hupload⟩ | ⟨asset, hupload⟩
        · refine ⟨.error (.host error), _, [], (run_bind_of hread _).trans (run_bind_of hupload _),
            hnone, List.nil_prefix, fun _ h => nomatch h⟩
        · -- The draft has its file, and the rest goes on from there.
          let file := fileOf conditions artifact
          have hdraft : (desk.shelf.attach shown.id file).releases =
              before ++ [draft.with [file]] := hid ▸ Shelf.attach_draft hdesk file
          obtain ⟨result, after, added, hrest, hshelf, hprefix, hall⟩ :=
            @ih (draft.with [file]) hid (desk.later.changed _ _) hdraft
          rw [KeptRelease.with_with] at hshelf
          refine ⟨result.map (asset.name :: ·), after, file :: added, ?_, hshelf,
            List.cons_prefix_cons.mpr ⟨rfl, hprefix⟩, ?_⟩
          · refine (run_bind_of hread _).trans ((run_bind_of hupload _).trans ?_)
            refine (run_bind_of hrest _).trans ?_
            cases result with
            | error error => rfl
            | ok names => rfl
          · intro names hnames
            cases result with
            | error error => cases hnames
            | ok others => rw [List.map_cons, hall others rfl]

/-- Discarding the draft leaves the other releases. If it is refused the draft stays, and the
refused call is the last one. -/
theorem run_discard {before : List KeptRelease} {draft : KeptRelease} {shown : HostedRelease}
    (hid : shown.id = draft.id) (error : PublishError) {desk : Desk}
    (hdesk : desk.shelf.releases = before ++ [draft]) :
    ∃ after, (discard conditions.host shown error).run desk = (.error error, after) ∧
      ((after.shelf.releases = before ∧
          after.log.getLast? = some (.delete draft.id, true)) ∨
        (after.shelf.releases = before ++ [draft] ∧
          after.log.getLast? = some (.delete draft.id, false))) := by
  -- The error is passed on whether or not the deletion is refused.
  rcases conditions.run_delete shown.id desk with ⟨refusal, hdelete⟩ | hdelete
  · refine ⟨desk.noted (.delete shown.id) false, run_bind_of hdelete _, .inr ⟨hdesk, ?_⟩⟩
    rw [← hid]
    exact List.getLast?_concat
  · refine ⟨desk.changed (.delete shown.id) (desk.shelf.remove shown.id),
      run_bind_of hdelete _, .inl ⟨?_, ?_⟩⟩
    · rw [hid]
      exact Shelf.remove_draft hdesk
    · rw [← hid]
      exact List.getLast?_concat

/-! ### How a publication ends -/

/-- A draft is the release that was asked for, with some files, and its identifier is new. -/
structure Drafted (descriptor : ReleaseDescriptor) (before : Shelf)
    (assets : List (String × ByteArray)) (draft : KeptRelease) : Prop where
  fresh : draft.id ∉ before.ids
  tag : draft.tag = descriptor.tag
  name : draft.name = descriptor.name
  isDraft : draft.draft = descriptor.draft
  assets : draft.assets = assets

/-- What a publication that went well did: the release that was found is gone, and a complete new
one is there. -/
structure Released (descriptor : ReleaseDescriptor) (selected : List Artifact)
    (found : Option KeptRelease) (before after : Shelf) (result : PublishedRelease)
    (draft : KeptRelease) : Prop where
  drafted : Drafted descriptor before (selected.map (fileOf conditions)) draft
  releases : after.releases =
    before.releases.filter (fun release => some release.id ≠ found.map (·.id)) ++ [draft]
  id : result.id = draft.id
  replaced : result.replaced = found.map (·.id)

/-- What a publication left behind whose draft could not be discarded: the draft, with the first
of its files. The call that was refused is the last one. -/
structure Abandoned (descriptor : ReleaseDescriptor) (selected : List Artifact) (before : Shelf)
    (after : Desk) (draft : KeptRelease) : Prop where
  drafted : ∃ added, added <+: selected.map (fileOf conditions) ∧
    Drafted descriptor before added draft
  releases : after.shelf.releases = before.releases ++ [draft]
  refused : after.log.getLast? = some (.delete draft.id, false)

/-- What a publication left behind that failed and was undone, or failed before it did anything:
what was there before. The last call is not a deletion that was refused. -/
structure Undone (before : Shelf) (after : Desk) : Prop where
  releases : after.shelf.releases = before.releases
  notRefused : ∀ id, after.log.getLast? ≠ some (.delete id, false)

/-- How the publication of selected artifacts ends, whatever goes wrong. -/
inductive PublishEnd (descriptor : ReleaseDescriptor) (selected : List Artifact)
    (found : Option KeptRelease) (before : Shelf) :
    Except PublishError PublishedRelease → Desk → Prop where
  | released {result after draft}
      (h : Released conditions descriptor selected found before after.shelf result draft) :
      PublishEnd descriptor selected found before (.ok result) after
  | undone {error after} (h : Undone before after) :
      PublishEnd descriptor selected found before (.error error) after
  | abandoned {error after draft}
      (h : Abandoned conditions descriptor selected before after draft) :
      PublishEnd descriptor selected found before (.error error) after

variable {conditions} {descriptor : ReleaseDescriptor} {selected : List Artifact}
  {found : Option KeptRelease} {before : Shelf}

/-- Discarding a draft that has some of its files ends a publication. -/
theorem discard_ends {draft : KeptRelease} {shown : HostedRelease} (hid : shown.id = draft.id)
    {added : List (String × ByteArray)} (hadded : added <+: selected.map (fileOf conditions))
    (hdraft : Drafted descriptor before added draft) (error : PublishError) {desk : Desk}
    (hdesk : desk.shelf.releases = before.releases ++ [draft]) :
    ∃ result after, (discard conditions.host shown error).run desk = (result, after) ∧
      PublishEnd conditions descriptor selected found before result after := by
  obtain ⟨after, hrun, hgone | hthere⟩ := run_discard conditions hid error hdesk
  · -- The last call was granted, so nothing tells of a draft that stayed.
    obtain ⟨hreleases, hlast⟩ := hgone
    refine ⟨.error error, after, hrun, .undone ⟨hreleases, fun id h => ?_⟩⟩
    rw [hlast] at h
    cases h
  · obtain ⟨hreleases, hlast⟩ := hthere
    exact ⟨.error error, after, hrun, .abandoned ⟨⟨added, hadded, hdraft⟩, hreleases, hlast⟩⟩

/-- Where no release of the tag was found, the complete draft is what is published. Otherwise the
release that was found goes first, and if it cannot go the draft is discarded. -/
theorem replace_ends {draft : KeptRelease} {shown : HostedRelease} (hid : shown.id = draft.id)
    (hdraft : Drafted descriptor before (selected.map (fileOf conditions)) draft)
    (hfound : ∀ old ∈ found, old ∈ before.releases) (names : List String) {desk : Desk}
    (hdesk : desk.shelf.releases = before.releases ++ [draft]) :
    ∃ result after,
      (replace conditions.host descriptor (found.map conditions.shown) shown names).run desk =
        (result, after) ∧
      PublishEnd conditions descriptor selected found before result after := by
  cases found with
  | none =>
      refine ⟨_, desk, rfl, .released ⟨hdraft, ?_, hid, rfl⟩⟩
      rw [hdesk]
      simp
  | some old =>
      have hold : old ∈ before.releases := hfound old rfl
      rcases conditions.run_delete (conditions.shown old).id desk with ⟨refusal, hdelete⟩ | hdelete
      · -- The release that was found stays, so the draft has to go.
        obtain ⟨result, after, hrun, hend⟩ :=
          discard_ends hid List.prefix_rfl hdraft (.host refusal)
            (show (desk.noted (.delete (conditions.shown old).id) false).shelf.releases =
              before.releases ++ [draft] from hdesk)
        exact ⟨result, after, (run_bind_of hdelete _).trans hrun, hend⟩
      · refine ⟨_, _, run_bind_of hdelete _, .released ⟨hdraft, ?_, hid, ?_⟩⟩
        · -- The draft has a fresh identifier, so it is not what the deletion takes away.
          have hne : (conditions.shown old).id ≠ draft.id := by
            rw [conditions.shown_id]
            exact fun heq => hdraft.fresh (heq ▸ Shelf.id_mem_ids hold)
          refine (Shelf.remove_before hdesk hne).trans ?_
          rw [conditions.shown_id]
          simp
        · exact congrArg some (conditions.shown_id old)

/-- What becomes of a draft once its files were uploaded, or one of them was not. -/
def settle {m : Type → Type} [Monad m] (host : ReleaseHost m) (descriptor : ReleaseDescriptor)
    (existing : Option HostedRelease) (draft : HostedRelease) :
    Except PublishError (List String) → m (Except PublishError PublishedRelease)
  | .error error => discard host draft error
  | .ok names => replace host descriptor existing draft names

/-- The publication of selected artifacts ends in one of the ways of `PublishEnd`. -/
theorem run_release (descriptor : ReleaseDescriptor) (selected : List Artifact) (desk : Desk) :
    ∃ result after,
      (release conditions.host conditions.files descriptor selected).run desk = (result, after) ∧
      PublishEnd conditions descriptor selected
        (conditions.found desk.moment desk.shelf descriptor.tag) desk.shelf result after := by
  let found := conditions.found desk.moment desk.shelf descriptor.tag
  have hfound : ∀ old ∈ found, old ∈ desk.shelf.releases :=
    fun old hold => (conditions.found_mem hold).1
  rcases conditions.run_find descriptor.tag desk with ⟨error, hfind⟩ | hfind
  · -- A lookup that is refused ends it all before anything was done.
    refine ⟨_, _, run_bind_of hfind _, .undone ⟨rfl, fun id h => ?_⟩⟩
    cases List.getLast?_concat.symm.trans h
  · let looked := desk.changed (.find descriptor.tag) desk.shelf
    by_cases hexists : ((found.map conditions.shown).isSome && !descriptor.overwrite) = true
    · -- There is a release of the tag, and it may not be replaced.
      have hstop : (release conditions.host conditions.files descriptor selected).run desk =
          (.error (.releaseExists descriptor.tag), looked) :=
        (run_bind_of hfind _).trans (run_ite_of hexists _ _ looked)
      refine ⟨_, _, hstop, .undone ⟨rfl, fun id h => ?_⟩⟩
      cases List.getLast?_concat.symm.trans h
    · rcases conditions.run_create (newRelease descriptor) looked
        with ⟨error, hcreate⟩ | ⟨id, fresh, hcreate⟩
      · have hstop : (release conditions.host conditions.files descriptor selected).run desk =
            (.error (.host error), looked.noted (.create (newRelease descriptor)) false) :=
          (run_bind_of hfind _).trans
            ((run_ite_of_not hexists _ _ looked).trans
              (run_bind_of hcreate _))
        refine ⟨_, _, hstop, .undone ⟨rfl, fun id h => ?_⟩⟩
        cases List.getLast?_concat.symm.trans h
      · -- From here on there is a draft, which is filled and then either kept or discarded.
        let draft := Conditions.drafted id (newRelease descriptor)
        let shown := conditions.shown draft
        let created := looked.changed (.create (newRelease descriptor))
          (looked.shelf.add draft fresh)
        have hid : shown.id = draft.id := conditions.shown_id draft
        have hcreated : created.shelf.releases = desk.shelf.releases ++ [draft] := rfl
        obtain ⟨uploaded, after, added, hupload, hshelf, hprefix, hall⟩ :=
          run_uploadAll conditions selected hid hcreated
        have hfilled : shown.id = (draft.with added).id := hid
        have hdraft : Drafted descriptor desk.shelf added (draft.with added) :=
          ⟨fresh, rfl, rfl, rfl, rfl⟩
        have hrest : (release conditions.host conditions.files descriptor selected).run desk =
            (settle conditions.host descriptor (found.map conditions.shown) shown uploaded).run
              after :=
          (run_bind_of hfind _).trans
            ((run_ite_of_not hexists _ _ looked).trans
              ((run_bind_of hcreate _).trans (run_bind_of hupload _)))
        rw [hrest]
        cases uploaded with
        | error error => exact discard_ends hfilled hprefix hdraft error hshelf
        | ok names =>
            obtain rfl := hall names rfl
            exact replace_ends hfilled hdraft hfound names hshelf

/-- In every end each release other than the one that was found is still there. -/
theorem PublishEnd.others {result : Except PublishError PublishedRelease} {after : Desk}
    (h : PublishEnd conditions descriptor selected found before result after)
    (hfound : ∀ old ∈ found, old ∈ before.releases) {release : KeptRelease}
    (hrelease : release ∈ before.releases) (hother : found ≠ some release) :
    release ∈ after.shelf.releases := by
  cases h with
  | released h =>
      rw [h.releases]
      refine List.mem_append_left _ (List.mem_filter.mpr ⟨hrelease, decide_eq_true ?_⟩)
      cases found with
      | none => exact Option.some_ne_none _
      | some old =>
          -- Identifiers are unique, so what is deleted with that of the found release is that
          -- release.
          intro hid
          have hsame := Shelf.eq_of_id_eq hrelease (hfound old rfl) (Option.some.inj hid)
          exact hother (congrArg some hsame.symm)
  | undone h =>
      rw [h.releases]
      exact hrelease
  | abandoned h =>
      rw [h.releases]
      exact List.mem_append_left _ hrelease

end

/-- **A release is published whole or not at all.** Take any host, with any releases on it, and any
files; every call and every read may fail. Let `found` be the release that a lookup finds under the
tag: one that carries it, unless there is none.

A publication that returns a release has published the selected artifacts, which are those that the
pattern accepts in the order of their names, and `Released` says what is on the host then. A
publication that returns an error has changed nothing, unless the last call was to discard the new
release and was refused: then `Abandoned` says what is on the host. Each release other than the one
found is there in the end, as it was. -/
theorem publish_all_or_nothing (conditions : Conditions) (descriptor : ReleaseDescriptor)
    (artifacts : List Artifact) (shelf : Shelf) (moment : Nat) :
    let found := conditions.found moment shelf descriptor.tag
    let run := (publish conditions.host conditions.files descriptor artifacts).run
      ⟨shelf, moment, []⟩
    (∀ old ∈ found, old ∈ shelf.releases ∧ old.tag = descriptor.tag) ∧
    (found = none ↔ ∀ release ∈ shelf.releases, release.tag ≠ descriptor.tag) ∧
    (match run.1 with
    | .ok result => ∃ pattern selected draft,
      Glob.Pattern.ofText descriptor.fileGlob = .ok pattern ∧
      selected.Perm (artifacts.filter fun artifact => pattern.accepts artifact.fileName) ∧
      selected.Pairwise (fun a b => a.fileName ≤ b.fileName) ∧
      Released conditions descriptor selected found shelf run.2.shelf result draft
    | .error _ => Undone shelf run.2 ∨
      ∃ selected draft, selectArtifacts artifacts descriptor.fileGlob = .ok selected ∧
        Abandoned conditions descriptor selected shelf run.2 draft) ∧
    ∀ release ∈ shelf.releases, found ≠ some release → release ∈ run.2.shelf.releases := by
  intro found run
  have hfound : ∀ old ∈ found, old ∈ shelf.releases ∧ old.tag = descriptor.tag :=
    fun old hold => conditions.found_mem hold
  refine ⟨hfound, conditions.found_eq_none, ?_⟩
  have hidle : Undone shelf ⟨shelf, moment, []⟩ := ⟨rfl, fun id h => nomatch h⟩
  -- Before the first call the selection may fail, or be empty.
  cases hselect : selectArtifacts artifacts descriptor.fileGlob with
  | error error =>
      have hrun : run = (.error (.pattern error), ⟨shelf, moment, []⟩) := by
        show (publish conditions.host conditions.files descriptor artifacts).run _ = _
        unfold publish
        rw [hselect]
        rfl
      rw [hrun]
      exact ⟨.inl hidle, fun release hrelease _ => hrelease⟩
  | ok selected =>
      cases selected with
      | nil =>
          have hrun : run = (.error (.noArtifacts descriptor.fileGlob), ⟨shelf, moment, []⟩) := by
            show (publish conditions.host conditions.files descriptor artifacts).run _ = _
            unfold publish
            rw [hselect]
            rfl
          rw [hrun]
          exact ⟨.inl hidle, fun release hrelease _ => hrelease⟩
      | cons first rest =>
          obtain ⟨result, after, hrelease, hend⟩ :=
            @run_release conditions descriptor (first :: rest) ⟨shelf, moment, []⟩
          have hrun : run = (result, after) := by
            show (publish conditions.host conditions.files descriptor artifacts).run _ = _
            unfold publish
            rw [hselect]
            exact hrelease
          rw [hrun]
          refine ⟨?_, fun release => hend.others fun old hold => (hfound old hold).1⟩
          cases hend with
          | released h =>
              obtain ⟨pattern, hpattern, hperm, hsorted⟩ := selectArtifacts_spec hselect
              exact ⟨pattern, _, _, hpattern, hperm, hsorted, h⟩
          | undone h => exact .inl h
          | abandoned h => exact .inr ⟨_, _, rfl, h⟩

end ReleasePipeline.Proofs
