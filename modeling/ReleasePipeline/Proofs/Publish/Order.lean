import ReleasePipeline.Proofs.Publish.AllOrNothing
import ReleasePipeline.Proofs.Support.Logged

/-!
# `ReleasePipeline.Proofs.Publish.Order`: the order of the calls of a publication

The host and the files are arbitrary here. They may answer anything to anything, and differently
each time. `loggedHost` and `loggedFiles` do what these do, and write down every call to the host
and every read of a file, with its answer.

`Course` is the list of all courses that a publication of selected artifacts can take. It is made of
`Uploaded`, which follows the list of artifacts, and of `Closing`, which says how a publication ends
that has made a draft. `run_release_course` says that there are no other courses.

`Orderly` adds what a course means for the release that was there before. Nothing is deleted
before there is a draft, the release that was found is deleted only behind the upload of every
artifact, and the draft is deleted at the very end or not at all. The error that is returned is
the first failure of all. `publish_in_order` is the main statement.
-/

set_option autoImplicit false

namespace ReleasePipeline.Proofs

open Publish (newRelease published uploadAll discard replace release publish)

/-! ### What is written down -/

/-- Something that a publication asked for, and the answer. -/
inductive Exchange where
  | find (tag : String) (answer : Except HostError (Option HostedRelease))
  | create (request : NewRelease) (answer : Except HostError HostedRelease)
  | read (path : Path) (answer : Except OsError ByteArray)
  | upload (release : HostedRelease) (name : String) (contents : ByteArray)
      (answer : Except HostError HostedAsset)
  | delete (id : UInt64) (answer : Except HostError Unit)

/-- The error of a result that is one. -/
def errorOf {ε α : Type} : Except ε α → Option ε
  | .ok _ => none
  | .error error => some error

namespace Exchange

/-- The error that an exchange leads to, if it failed. -/
def failure? : Exchange → Option PublishError
  | find _ answer => (errorOf answer).map .host
  | create _ answer => (errorOf answer).map .host
  | read path answer => (errorOf answer).map (.unreadable path)
  | upload _ _ _ answer => (errorOf answer).map .host
  | delete _ answer => (errorOf answer).map .host

/-- Whether something was to be deleted. -/
def isDelete : Exchange → Bool
  | delete .. => true
  | _ => false

end Exchange

/-- The first failure among some exchanges. -/
def firstFailure (log : List Exchange) : Option PublishError :=
  log.findSome? Exchange.failure?

section
variable {σ : Type}

/-- A host whose calls are written down. -/
def loggedHost (host : ReleaseHost (StateM σ)) : ReleaseHost (StateM (Logged Exchange σ)) where
  find tag := logging (fun _ => .find tag) (host.find tag)
  create request := logging (fun _ => .create request) (host.create request)
  upload release name contents :=
    logging (fun _ => .upload release name contents) (host.upload release name contents)
  delete id := logging (fun _ => .delete id) (host.delete id)

/-- Files whose reads are written down. -/
def loggedFiles (files : Files (StateM σ)) : Files (StateM (Logged Exchange σ)) where
  read path := logging (fun _ => .read path) (files.read path)
  write path content := unlogged (files.write path content)
  createDirs path := unlogged (files.createDirs path)
  copy source target := unlogged (files.copy source target)
  isFile path := unlogged (files.isFile path)

end

/-! ### The courses of a publication -/

/-- The upload of artifacts to a draft: each file is read and uploaded, one artifact behind the
other, until one cannot be read or uploaded. -/
inductive Uploaded (draft : HostedRelease) :
    List Artifact → List Exchange → Except PublishError (List String) → Prop where
  | all : Uploaded draft [] [] (.ok [])
  | unreadable {artifact rest error} :
      Uploaded draft (artifact :: rest) [.read artifact.path (.error error)]
        (.error (.unreadable artifact.path error))
  | refused {artifact rest contents error} :
      Uploaded draft (artifact :: rest)
        [.read artifact.path (.ok contents),
          .upload draft artifact.fileName contents (.error error)]
        (.error (.host error))
  | next {artifact rest during result} (contents : ByteArray) (asset : HostedAsset)
      (others : Uploaded draft rest during result) :
      Uploaded draft (artifact :: rest)
        (.read artifact.path (.ok contents) ::
          .upload draft artifact.fileName contents (.ok asset) :: during)
        (result.map (asset.name :: ·))

/-- The end of a publication that has made a draft. -/
inductive Closing (descriptor : ReleaseDescriptor) (selected : List Artifact)
    (found : Option HostedRelease) (draft : HostedRelease) :
    List Exchange → Except PublishError PublishedRelease → Prop where
  /-- An upload stopped, and the draft is discarded, whatever comes of that. -/
  | stopped {during error answer} (uploaded : Uploaded draft selected during (.error error)) :
      Closing descriptor selected found draft (during ++ [.delete draft.id answer]) (.error error)
  /-- There is nothing to replace. -/
  | first {during names} (uploaded : Uploaded draft selected during (.ok names))
      (nothing : found = none) :
      Closing descriptor selected found draft during (.ok (published descriptor draft names none))
  /-- The release that was found is replaced. -/
  | replaced {during names old} (uploaded : Uploaded draft selected during (.ok names))
      (something : found = some old) :
      Closing descriptor selected found draft (during ++ [.delete old.id (.ok ())])
        (.ok (published descriptor draft names (some old.id)))
  /-- The release that was found cannot be deleted, and the draft is discarded. -/
  | kept {during names old refusal answer} (uploaded : Uploaded draft selected during (.ok names))
      (something : found = some old) :
      Closing descriptor selected found draft
        (during ++ [.delete old.id (.error refusal), .delete draft.id answer])
        (.error (.host refusal))

/-- The course of the publication of selected artifacts, from the first call to the last one. -/
inductive Course (descriptor : ReleaseDescriptor) (selected : List Artifact) :
    List Exchange → Except PublishError PublishedRelease → Prop where
  | lookupRefused {error} :
      Course descriptor selected [.find descriptor.tag (.error error)] (.error (.host error))
  /-- There is a release of the tag, and it is not to be replaced. -/
  | taken {old} (keeps : descriptor.overwrite = false) :
      Course descriptor selected [.find descriptor.tag (.ok (some old))]
        (.error (.releaseExists descriptor.tag))
  | draftRefused {found error} (allowed : found = none ∨ descriptor.overwrite = true) :
      Course descriptor selected
        [.find descriptor.tag (.ok found), .create (newRelease descriptor) (.error error)]
        (.error (.host error))
  | drafted {found draft during result} (allowed : found = none ∨ descriptor.overwrite = true)
      (closing : Closing descriptor selected found draft during result) :
      Course descriptor selected
        (.find descriptor.tag (.ok found) :: .create (newRelease descriptor) (.ok draft) :: during)
        result

/-! ### Every publication takes one of the courses -/

section
variable {σ : Type} (host : ReleaseHost (StateM σ)) (files : Files (StateM σ))

/-- Uploading follows the list of artifacts. -/
theorem run_uploadAll_uploaded (draft : HostedRelease) (selected : List Artifact) (world : σ)
    (log : List Exchange) :
    ∃ result after during,
      (uploadAll (loggedHost host) (loggedFiles files) draft selected).run ⟨world, log⟩ =
        (result, ⟨after, log ++ during⟩) ∧
      Uploaded draft selected during result := by
  -- The log grows with each artifact, so the induction is for any log in front.
  induction selected generalizing world log with
  | nil =>
      refine ⟨.ok [], world, [], ?_, .all⟩
      rw [List.append_nil]
      rfl
  | cons artifact rest ih =>
      obtain ⟨answer, opened, hread⟩ :=
        run_logging_bind (fun _ => Exchange.read artifact.path) (files.read artifact.path) world log
      cases answer with
      | error error => exact ⟨_, _, _, hread _, .unreadable⟩
      | ok contents =>
          obtain ⟨answer, sent, hupload⟩ :=
            run_logging_bind (fun _ => Exchange.upload draft artifact.fileName contents)
              (host.upload draft artifact.fileName contents) opened
              (log ++ [.read artifact.path (.ok contents)])
          rw [List.append_assoc] at hupload
          cases answer with
          | error error => exact ⟨_, _, _, (hread _).trans (hupload _), .refused⟩
          | ok asset =>
              obtain ⟨result, after, during, hrest, huploaded⟩ := ih sent
                (log ++ [.read artifact.path (.ok contents),
                  .upload draft artifact.fileName contents (.ok asset)])
              rw [List.append_assoc] at hrest
              refine ⟨result.map (asset.name :: ·), after, _, ?_, .next contents asset huploaded⟩
              refine (hread _).trans ((hupload _).trans ((run_bind_of hrest _).trans ?_))
              cases result with
              | error error => rfl
              | ok names => rfl

/-- Discarding a draft is one call, and the error stays what it was. -/
theorem run_discard_logged (draft : HostedRelease) (error : PublishError) (world : σ)
    (log : List Exchange) :
    ∃ after answer, (discard (loggedHost host) draft error).run ⟨world, log⟩ =
      (.error error, ⟨after, log ++ [.delete draft.id answer]⟩) := by
  obtain ⟨answer, after, hdelete⟩ :=
    run_logging_bind (fun _ => Exchange.delete draft.id) (host.delete draft.id) world log
  exact ⟨after, answer, hdelete _⟩

/-- A draft that has all its files is kept, unless the release that was found cannot be deleted. -/
theorem run_replace_closing {descriptor : ReleaseDescriptor} {selected : List Artifact}
    {draft : HostedRelease} {during : List Exchange} {names : List String}
    (uploaded : Uploaded draft selected during (.ok names)) (found : Option HostedRelease)
    (world : σ) (log : List Exchange) :
    ∃ result after rest,
      (replace (loggedHost host) descriptor found draft names).run ⟨world, log ++ during⟩ =
        (result, ⟨after, log ++ rest⟩) ∧
      Closing descriptor selected found draft rest result := by
  cases found with
  | none => exact ⟨_, _, _, rfl, .first uploaded rfl⟩
  | some old =>
      obtain ⟨answer, deleted, hdelete⟩ :=
        run_logging_bind (fun _ => Exchange.delete old.id) (host.delete old.id) world
          (log ++ during)
      rw [List.append_assoc] at hdelete
      cases answer with
      | ok _ => exact ⟨_, _, _, hdelete _, .replaced uploaded rfl⟩
      | error refusal =>
          -- The release that was found stays, so the draft is discarded.
          obtain ⟨after, answer, hdiscard⟩ := run_discard_logged host draft (.host refusal) deleted
            (log ++ (during ++ [.delete old.id (.error refusal)]))
          rw [List.append_assoc, List.append_assoc] at hdiscard
          exact ⟨_, _, _, (hdelete _).trans hdiscard, .kept uploaded rfl⟩

/-- Making a release of selected artifacts takes one of the courses. -/
theorem run_release_course (descriptor : ReleaseDescriptor) (selected : List Artifact)
    (world : σ) :
    ∃ result after log,
      (release (loggedHost host) (loggedFiles files) descriptor selected).run ⟨world, []⟩ =
        (result, ⟨after, log⟩) ∧
      Course descriptor selected log result := by
  obtain ⟨answer, looked, hfind⟩ :=
    run_logging_bind (fun _ => Exchange.find descriptor.tag) (host.find descriptor.tag) world []
  cases answer with
  | error error => exact ⟨_, _, _, hfind _, .lookupRefused⟩
  | ok found =>
      by_cases hexists : (found.isSome && !descriptor.overwrite) = true
      · -- There is a release of the tag, and it may not be replaced.
        obtain ⟨hsome, hkeeps⟩ := Bool.and_eq_true_iff.mp hexists
        obtain ⟨old, rfl⟩ := Option.isSome_iff_exists.mp hsome
        refine ⟨_, _, _, (hfind _).trans (run_ite_of hexists _ _ _), .taken ?_⟩
        simpa using hkeeps
      · have hallowed : found = none ∨ descriptor.overwrite = true := by
          cases found with
          | none => exact .inl rfl
          | some old => exact .inr (by simpa using hexists)
        obtain ⟨answer, made, hcreate⟩ :=
          run_logging_bind (fun _ => Exchange.create (newRelease descriptor))
            (host.create (newRelease descriptor)) looked [.find descriptor.tag (.ok found)]
        cases answer with
        | error error =>
            exact ⟨_, _, _, (hfind _).trans ((run_ite_of_not hexists _ _ _).trans (hcreate _)),
              .draftRefused hallowed⟩
        | ok draft =>
            let opening : List Exchange :=
              [.find descriptor.tag (.ok found), .create (newRelease descriptor) (.ok draft)]
            obtain ⟨uploaded, sent, during, hupload, huploaded⟩ :=
              run_uploadAll_uploaded host files draft selected made opening
            have hrest :
                (release (loggedHost host) (loggedFiles files) descriptor selected).run
                    ⟨world, []⟩ =
                  (settle (loggedHost host) descriptor found draft uploaded).run
                    ⟨sent, opening ++ during⟩ :=
              (hfind _).trans ((run_ite_of_not hexists _ _ _).trans
                ((hcreate _).trans (run_bind_of hupload _)))
            rw [hrest]
            cases uploaded with
            | error error =>
                obtain ⟨after, answer, hdiscard⟩ :=
                  run_discard_logged host draft error sent (opening ++ during)
                exact ⟨_, _, _, hdiscard, .drafted hallowed (.stopped huploaded)⟩
            | ok names =>
                obtain ⟨result, after, rest, hreplace, hclosing⟩ :=
                  run_replace_closing host huploaded found sent opening
                exact ⟨_, _, _, hreplace, .drafted hallowed hclosing⟩

end

/-! ### What a course means -/

/-- The file of every artifact was read and uploaded to the draft. -/
def AllUploaded (draft : HostedRelease) (selected : List Artifact) (log : List Exchange) : Prop :=
  ∀ artifact ∈ selected, ∃ contents asset,
    Exchange.read artifact.path (.ok contents) ∈ log ∧
    Exchange.upload draft artifact.fileName contents (.ok asset) ∈ log

/-- What the course of a publication says of its deletions and of its error. -/
structure Orderly (descriptor : ReleaseDescriptor) (selected : List Artifact)
    (log : List Exchange) (result : Except PublishError PublishedRelease) : Prop where
  course : Course descriptor selected log result
  /-- The error is the first failure. Only where the release may not be replaced nothing failed. -/
  failure : errorOf result = firstFailure log ∨
    firstFailure log = none ∧ descriptor.overwrite = false ∧
      result = .error (.releaseExists descriptor.tag)
  /-- What is deleted is the release that was found, behind the upload of every artifact, or it is
  the draft, by the very last call and behind the failure that is returned. -/
  deletions : ∀ before id answer after, log = before ++ .delete id answer :: after →
    ∃ found draft, Exchange.find descriptor.tag (.ok found) ∈ before ∧
      Exchange.create (newRelease descriptor) (.ok draft) ∈ before ∧
      ((∃ old, found = some old ∧ id = old.id ∧ AllUploaded draft selected before) ∨
        (id = draft.id ∧ after = [] ∧ ∃ error, result = .error error ∧
          firstFailure before = some error))
  /-- A publication that fails with a draft discards it by its last call. -/
  discarded : ∀ error, result = .error error →
    (∀ draft, Exchange.create (newRelease descriptor) (.ok draft) ∉ log) ∨
    ∃ before draft answer, Exchange.create (newRelease descriptor) (.ok draft) ∈ before ∧
      log = before ++ [.delete draft.id answer] ∧ firstFailure before = some error

section
variable {descriptor : ReleaseDescriptor} {selected : List Artifact}
  {found : Option HostedRelease} {draft : HostedRelease} {log during : List Exchange}

/-- Where something failed already, what comes later is not the first failure. -/
theorem firstFailure_append (front rest : List Exchange) :
    firstFailure (front ++ rest) = (firstFailure front).or (firstFailure rest) :=
  List.findSome?_append

/-- A deletion stands behind everything that deletes nothing. -/
theorem delete_behind {front rest before after : List Exchange} {id : UInt64}
    {answer : Except HostError Unit} (hfront : ∀ exchange ∈ front, exchange.isDelete = false)
    (h : front ++ rest = before ++ .delete id answer :: after) :
    ∃ between, before = front ++ between ∧ rest = between ++ .delete id answer :: after := by
  rcases List.append_eq_append_iff.mp h with ⟨between, hbefore, hrest⟩ | ⟨between, hfore, hrest⟩
  · exact ⟨between, hbefore, hrest⟩
  · cases between with
    | nil =>
        rw [List.append_nil] at hfore
        exact ⟨[], by rw [hfore, List.append_nil], hrest.symm⟩
    | cons first others =>
        -- The deletion would be one of those that stand in front.
        obtain ⟨rfl, -⟩ := List.cons.inj hrest
        cases hfront (.delete id answer) (hfore ▸ List.mem_append_right before List.mem_cons_self)

/-- The first deletion of some exchanges is one that is known, or it comes later than that. -/
theorem delete_at_or_behind {front rest before after : List Exchange} {known id : UInt64}
    {refusal answer : Except HostError Unit}
    (hfront : ∀ exchange ∈ front, exchange.isDelete = false)
    (h : front ++ .delete known refusal :: rest = before ++ .delete id answer :: after) :
    (before = front ∧ id = known ∧ after = rest) ∨
    ∃ between, before = front ++ .delete known refusal :: between ∧
      rest = between ++ .delete id answer :: after := by
  obtain ⟨between, rfl, hrest⟩ := delete_behind hfront h
  -- The deletion that is looked for is the first one itself, or stands behind it.
  cases between with
  | nil =>
      obtain ⟨hdelete, rfl⟩ := List.cons.inj hrest
      cases hdelete
      exact .inl ⟨List.append_nil front, rfl, rfl⟩
  | cons first others =>
      obtain ⟨rfl, hothers⟩ := List.cons.inj hrest
      exact .inr ⟨others, rfl, hothers⟩

/-- An upload that stops returns its only failure. -/
theorem Uploaded.failure {result : Except PublishError (List String)}
    (h : Uploaded draft selected during result) : firstFailure during = errorOf result := by
  induction h with
  | all => rfl
  | unreadable => rfl
  | refused => rfl
  | @next _ _ _ result _ _ _ ih =>
      refine ih.trans ?_
      cases result with
      | error error => rfl
      | ok names => rfl

/-- Uploading deletes nothing. -/
theorem Uploaded.isDelete {result : Except PublishError (List String)}
    (h : Uploaded draft selected during result) :
    ∀ exchange ∈ during, exchange.isDelete = false := by
  induction h with
  | all => exact List.forall_mem_nil _
  | unreadable => simp [Exchange.isDelete]
  | refused => simp [Exchange.isDelete]
  | next _ _ _ ih => simpa [Exchange.isDelete] using ih

/-- An upload that does not stop takes in every artifact. -/
theorem Uploaded.allUploaded {names : List String}
    (h : Uploaded draft selected during (.ok names)) : AllUploaded draft selected during := by
  -- Only a course that ends well is looked at, so the result is kept apart from the induction.
  generalize hresult : (Except.ok names : Except PublishError (List String)) = result at h
  induction h generalizing names with
  | all => exact nofun
  | unreadable => cases hresult
  | refused => cases hresult
  | @next _ _ _ result contents asset _ ih =>
      cases result with
      | error error => cases hresult
      | ok others =>
          intro artifact hartifact
          cases hartifact with
          | head => exact ⟨contents, asset, by simp, by simp⟩
          | tail _ hrest =>
              obtain ⟨contents, asset, hread, hupload⟩ := ih rfl artifact hrest
              exact ⟨contents, asset, by simp [hread], by simp [hupload]⟩

/-- What is returned is the first failure since the draft was made. -/
theorem Closing.failure {result : Except PublishError PublishedRelease}
    (h : Closing descriptor selected found draft during result) :
    firstFailure during = errorOf result := by
  cases h with
  | stopped uploaded => rw [firstFailure_append, uploaded.failure]; rfl
  | first uploaded _ => exact uploaded.failure
  | replaced uploaded _ => rw [firstFailure_append, uploaded.failure]; rfl
  | kept uploaded _ => rw [firstFailure_append, uploaded.failure]; rfl

/-- An end that fails is a deletion of the draft. -/
theorem Closing.discarded {error : PublishError}
    (h : Closing descriptor selected found draft during (.error error)) :
    ∃ before answer, during = before ++ [.delete draft.id answer] ∧
      firstFailure before = some error := by
  cases h with
  | stopped uploaded => exact ⟨_, _, rfl, uploaded.failure⟩
  | @kept during _ old refusal answer uploaded _ =>
      refine ⟨during ++ [.delete old.id (.error refusal)], answer, ?_, ?_⟩
      · rw [List.append_assoc]
        rfl
      · rw [firstFailure_append, uploaded.failure]
        rfl

/-- What is deleted once the draft was made, and what was done before. -/
theorem Closing.deletions {result : Except PublishError PublishedRelease}
    (h : Closing descriptor selected found draft during result) {before after : List Exchange}
    {id : UInt64} {answer : Except HostError Unit}
    (hsplit : during = before ++ .delete id answer :: after) :
    (∃ old, found = some old ∧ id = old.id ∧ AllUploaded draft selected before) ∨
    (id = draft.id ∧ after = [] ∧ ∃ error, result = .error error ∧
      firstFailure before = some error) := by
  cases h with
  | stopped uploaded =>
      rcases delete_at_or_behind uploaded.isDelete hsplit with ⟨rfl, rfl, rfl⟩ | ⟨_, _, hnone⟩
      · exact .inr ⟨rfl, rfl, _, rfl, uploaded.failure⟩
      · simp at hnone
  | first uploaded _ =>
      -- Nothing was deleted at all.
      obtain ⟨_, _, hnone⟩ := delete_behind uploaded.isDelete
        ((List.append_nil during).trans hsplit)
      simp at hnone
  | replaced uploaded something =>
      rcases delete_at_or_behind uploaded.isDelete hsplit with ⟨rfl, rfl, -⟩ | ⟨_, _, hnone⟩
      · exact .inl ⟨_, something, rfl, uploaded.allUploaded⟩
      · simp at hnone
  | @kept front _ old refusal discard uploaded something =>
      rcases delete_at_or_behind uploaded.isDelete hsplit with ⟨rfl, rfl, -⟩ | ⟨between, rfl, hlast⟩
      · exact .inl ⟨_, something, rfl, uploaded.allUploaded⟩
      · -- Behind the refused deletion there is only one other, that of the draft.
        have hnothing : ∀ exchange ∈ ([] : List Exchange), exchange.isDelete = false :=
          List.forall_mem_nil _
        rcases delete_at_or_behind hnothing hlast with ⟨rfl, rfl, rfl⟩ | ⟨_, _, hnone⟩
        · refine .inr ⟨rfl, rfl, _, rfl, ?_⟩
          rw [firstFailure_append, uploaded.failure]
          rfl
        · simp at hnone

/-- A course without a draft deletes nothing. -/
theorem Course.orderly_of_draftless {result : Except PublishError PublishedRelease}
    (h : Course descriptor selected log result)
    (hfailure : errorOf result = firstFailure log ∨
      firstFailure log = none ∧ descriptor.overwrite = false ∧
        result = .error (.releaseExists descriptor.tag))
    (hlog : ∀ exchange ∈ log, exchange.isDelete = false)
    (hdraft : ∀ draft, Exchange.create (newRelease descriptor) (.ok draft) ∉ log) :
    Orderly descriptor selected log result := by
  refine ⟨h, hfailure, fun before id answer after hsplit => ?_, fun _ _ => .inl hdraft⟩
  obtain ⟨_, _, hnone⟩ := delete_behind hlog ((List.append_nil log).trans hsplit)
  simp at hnone

/-- Every course is orderly. -/
theorem Course.orderly {result : Except PublishError PublishedRelease}
    (h : Course descriptor selected log result) : Orderly descriptor selected log result := by
  cases h with
  | lookupRefused =>
      exact Course.lookupRefused.orderly_of_draftless (.inl rfl) (by simp [Exchange.isDelete])
        (by simp)
  | taken keeps =>
      exact (Course.taken keeps).orderly_of_draftless (.inr ⟨rfl, keeps, rfl⟩)
        (by simp [Exchange.isDelete]) (by simp)
  | draftRefused allowed =>
      exact (Course.draftRefused allowed).orderly_of_draftless (.inl rfl)
        (by simp [Exchange.isDelete]) (by simp)
  | @drafted found draft during _ allowed closing =>
      have hopening : ∀ exchange ∈ [Exchange.find descriptor.tag (.ok found),
          .create (newRelease descriptor) (.ok draft)], exchange.isDelete = false := by
        simp [Exchange.isDelete]
      refine ⟨.drafted allowed closing, .inl ?_, fun before id answer after h => ?_,
        fun error herror => .inr ?_⟩
      · exact (closing.failure).symm
      · -- The deletion is one of those at the end, so the draft was made before.
        obtain ⟨between, rfl, hduring⟩ := delete_behind hopening h
        refine ⟨found, draft, by simp, by simp, ?_⟩
        rcases closing.deletions hduring with ⟨old, hfound, hid, hall⟩ | ⟨hid, hlast, error, he, hf⟩
        · refine .inl ⟨old, hfound, hid, fun artifact hartifact => ?_⟩
          obtain ⟨contents, asset, hread, hupload⟩ := hall artifact hartifact
          exact ⟨contents, asset, List.mem_append_right _ hread, List.mem_append_right _ hupload⟩
        · exact .inr ⟨hid, hlast, error, he, hf⟩
      · subst herror
        obtain ⟨before, answer, rfl, hfailure⟩ := closing.discarded
        exact ⟨.find descriptor.tag (.ok found) :: .create (newRelease descriptor) (.ok draft) ::
          before, draft, answer, by simp, rfl, hfailure⟩

end

/-! ### The order of the calls -/

section
variable {σ : Type} (host : ReleaseHost (StateM σ)) (files : Files (StateM σ))

/-- Uploading does what it does, whether it is written down or not. -/
theorem shadows_uploadAll (draft : HostedRelease) (selected : List Artifact) :
    Shadows Logged.world (uploadAll host files draft selected)
      (uploadAll (loggedHost host) (loggedFiles files) draft selected) := by
  induction selected with
  | nil => exact shadows_pure _
  | cons artifact rest ih =>
      refine (shadows_logging (fun _ => Exchange.read artifact.path) _).bind fun answer => ?_
      cases answer with
      | error error => exact shadows_pure _
      | ok contents =>
          refine Shadows.bind
            (shadows_logging (fun _ => Exchange.upload draft artifact.fileName contents) _)
            fun answer => ?_
          cases answer with
          | error error => exact shadows_pure _
          | ok asset =>
              refine ih.bind fun answer => ?_
              cases answer with
              | error error => exact shadows_pure _
              | ok names => exact shadows_pure _

/-- So does the discarding of a draft. -/
theorem shadows_discard (draft : HostedRelease) (error : PublishError) :
    Shadows Logged.world (discard host draft error) (discard (loggedHost host) draft error) :=
  (shadows_logging (fun _ => Exchange.delete draft.id) _).bind fun _ => shadows_pure _

/-- So does the replacement of a release. -/
theorem shadows_replace (descriptor : ReleaseDescriptor) (found : Option HostedRelease)
    (draft : HostedRelease) (names : List String) :
    Shadows Logged.world (replace host descriptor found draft names)
      (replace (loggedHost host) descriptor found draft names) := by
  cases found with
  | none => exact shadows_pure _
  | some old =>
      refine (shadows_logging (fun _ => Exchange.delete old.id) _).bind fun answer => ?_
      cases answer with
      | error refusal => exact shadows_discard host draft _
      | ok _ => exact shadows_pure _

/-- So does the whole of a release. -/
theorem shadows_release (descriptor : ReleaseDescriptor) (selected : List Artifact) :
    Shadows Logged.world (release host files descriptor selected)
      (release (loggedHost host) (loggedFiles files) descriptor selected) := by
  refine (shadows_logging (fun _ => Exchange.find descriptor.tag) _).bind fun answer => ?_
  cases answer with
  | error error => exact shadows_pure _
  | ok found =>
      refine Shadows.ite _ (shadows_pure _) ?_
      refine (shadows_logging (fun _ => Exchange.create (newRelease descriptor)) _).bind
        fun answer => ?_
      cases answer with
      | error error => exact shadows_pure _
      | ok draft =>
          refine (shadows_uploadAll host files draft selected).bind fun uploaded => ?_
          cases uploaded with
          | error error => exact shadows_discard host draft error
          | ok names => exact shadows_replace host descriptor found draft names

end

/-- **A publication makes its calls in order.** Take any host and any files, which may answer
anything at any moment. A publication of nothing, or by a pattern that makes no sense, calls
nobody and reads nothing. Any other one takes one of the courses of `Course`, on the artifacts
that the pattern accepts in the order of their names, and the course is `Orderly`: nothing is
deleted before there is a draft, the release that was found goes only behind the upload of every
artifact, a draft that has to go is deleted last of all, and the first failure is what is
returned. Writing the calls down changes neither the result nor what is done. -/
theorem publish_in_order {σ : Type} (host : ReleaseHost (StateM σ)) (files : Files (StateM σ))
    (descriptor : ReleaseDescriptor) (artifacts : List Artifact) (world : σ) :
    let run := (publish host files descriptor artifacts).run world
    ∃ log,
      (publish (loggedHost host) (loggedFiles files) descriptor artifacts).run ⟨world, []⟩ =
        (run.1, ⟨run.2, log⟩) ∧
      match selectArtifacts artifacts descriptor.fileGlob with
      | .error error => log = [] ∧ run = (.error (.pattern error), world)
      | .ok [] => log = [] ∧ run = (.error (.noArtifacts descriptor.fileGlob), world)
      | .ok selected =>
        (∃ pattern, Glob.Pattern.ofText descriptor.fileGlob = .ok pattern ∧
          selected.Perm (artifacts.filter fun artifact => pattern.accepts artifact.fileName) ∧
          selected.Pairwise fun a b => a.fileName ≤ b.fileName) ∧
        Orderly descriptor selected log run.1 := by
  intro run
  have hpublish : run = (publish host files descriptor artifacts).run world := rfl
  -- Before the first call the selection may fail, or be empty.
  cases hselect : selectArtifacts artifacts descriptor.fileGlob with
  | error error =>
      rw [publish_of_pattern_error _ _ hselect] at hpublish ⊢
      exact ⟨[], by rw [hpublish]; rfl, rfl, hpublish⟩
  | ok selected =>
      cases selected with
      | nil =>
          rw [publish_of_none_selected _ _ hselect] at hpublish ⊢
          exact ⟨[], by rw [hpublish]; rfl, rfl, hpublish⟩
      | cons first rest =>
          rw [publish_of_selected _ _ hselect] at hpublish ⊢
          obtain ⟨result, after, log, hlogged, hcourse⟩ :=
            run_release_course host files descriptor (first :: rest) world
          -- The release that is written down has the result and the world of the one that is not.
          obtain ⟨hresult, hafter⟩ :=
            shadows_release host files descriptor (first :: rest) ⟨world, []⟩
          rw [hlogged, ← hpublish] at hresult hafter
          subst hresult hafter
          exact ⟨log, hlogged, selectArtifacts_spec hselect, hcourse.orderly⟩

end ReleasePipeline.Proofs
