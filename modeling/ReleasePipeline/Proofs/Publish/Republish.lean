import ReleasePipeline.Proofs.Publish.AllOrNothing

/-!
# `ReleasePipeline.Proofs.Publish.Republish`: releases of one tag, one after the other

A publication replaces the release that it finds under the tag. Here publications follow each other
on one host, each on the releases that the one before left there, and any call and any read may fail
at any moment.

Replacing one release leaves the tag with as many carriers as before. The only way to a second
carrier is a publication that fails and whose draft is not discarded, because that very call is
refused as well: `Publication.leftover`. `length_carriers_make` counts the carriers after one
publication in these terms, and `inTurn_of_publications` those that each of many comes upon.

`republishing_replaces` is the main statement. As long as nothing was left over, the release that
a publication makes is the only one of the tag. A lookup shows only one of two carriers, so a
publication that comes upon two ends with two: `two_carriers_after_leftover` is such a case.
-/

set_option autoImplicit false

namespace ReleasePipeline.Proofs

open Publish (publish)
open Rehearsal (HostCall)

/-- What is asked of a publisher. -/
structure PublishRequest where
  descriptor : ReleaseDescriptor
  artifacts : List Artifact

/-- Whether the last call of all was a deletion that was refused. -/
def Desk.deletionRefused (desk : Desk) : Bool :=
  match desk.log.getLast? with
  | some (.delete _, false) => true
  | _ => false

/-- A publication: what was on the host before it, what it returned, and what it left behind. -/
structure Publication where
  before : Shelf
  moment : Nat
  request : PublishRequest
  result : Except PublishError PublishedRelease
  after : Desk

namespace Publication

/-- The publication of a request. The account of the calls begins with it. -/
def make (conditions : Conditions) (shelf : Shelf) (moment : Nat) (request : PublishRequest) :
    Publication :=
  let ended := (publish conditions.host conditions.files request.descriptor
    request.artifacts).run ⟨shelf, moment, []⟩
  ⟨shelf, moment, request, ended.1, ended.2⟩

/-- Whether a publication returned a release. -/
def isOk (publication : Publication) : Bool :=
  publication.result.isOk

/-- Whether a publication failed and left its draft behind: the deletion of the draft was
refused. -/
def leftover (publication : Publication) : Bool :=
  !publication.isOk && publication.after.deletionRefused

end Publication

/-- The publications of some requests, one after the other. -/
def publications (conditions : Conditions) :
    Shelf → Nat → List PublishRequest → List Publication
  | _, _, [] => []
  | shelf, moment, request :: rest =>
    let publication := Publication.make conditions shelf moment request
    publication :: publications conditions publication.after.shelf publication.after.moment rest

section
variable (conditions : Conditions)

/-- The release that a publication found under its tag. -/
def Publication.found (publication : Publication) : Option KeptRelease :=
  conditions.found publication.moment publication.before publication.request.descriptor.tag

/-- A publication ends in one of the ways of `PublishEnd`. -/
theorem publication_ends (shelf : Shelf) (moment : Nat) (request : PublishRequest) :
    ∃ selected, PublishEnd conditions request.descriptor selected
      (conditions.found moment shelf request.descriptor.tag) shelf
      (Publication.make conditions shelf moment request).result
      (Publication.make conditions shelf moment request).after := by
  have hidle : Undone shelf ⟨shelf, moment, []⟩ := ⟨rfl, fun id h => nomatch h⟩
  unfold Publication.make
  -- A pattern that is none and one that selects nothing end it before the host is asked.
  cases hselect : selectArtifacts request.artifacts request.descriptor.fileGlob with
  | error error =>
      rw [publish_of_pattern_error _ _ hselect]
      exact ⟨[], .undone hidle⟩
  | ok selected =>
      cases selected with
      | nil =>
          rw [publish_of_none_selected _ _ hselect]
          exact ⟨[], .undone hidle⟩
      | cons first rest =>
          rw [publish_of_selected _ _ hselect]
          obtain ⟨result, after, hrun, hend⟩ :=
            @run_release conditions request.descriptor (first :: rest) ⟨shelf, moment, []⟩
          rw [hrun]
          exact ⟨first :: rest, hend⟩

end

/-! ### How many releases carry the tag -/

/-- Without one of its carriers a tag has one carrier less. -/
theorem Shelf.length_carriers_without {shelf : Shelf} {tag : String} {old : KeptRelease}
    (hold : old ∈ shelf.carriers tag) :
    ((shelf.carriers tag).filter fun release => decide (some release.id ≠ some old.id)).length + 1 =
      (shelf.carriers tag).length := by
  have hdistinct : ((shelf.carriers tag).map (·.id)).Nodup :=
    shelf.distinct.sublist (List.filter_sublist.map _)
  have hmem : old.id ∈ (shelf.carriers tag).map (·.id) := List.mem_map_of_mem hold
  -- The identifiers differ, so what the filter takes away is one of them.
  have hids : ((shelf.carriers tag).filter fun release =>
      decide (some release.id ≠ some old.id)).map (·.id) =
        ((shelf.carriers tag).map (·.id)).erase old.id := by
    rw [hdistinct.erase_eq_filter, List.filter_map]
    congr 1
    refine List.filter_congr fun release _ => ?_
    rw [Bool.eq_iff_iff]
    simp
  rw [← List.length_map (·.id), hids, List.length_erase_of_mem hmem, List.length_map]
  exact Nat.sub_add_cancel (List.length_pos_of_mem hold)

/-- A draft behind other releases carries its tag with those of them that do. -/
theorem Drafted.carriers {descriptor : ReleaseDescriptor} {before after : Shelf}
    {assets : List (String × ByteArray)} {draft : KeptRelease} {others : List KeptRelease}
    (h : Drafted descriptor before assets draft) (hafter : after.releases = others ++ [draft]) :
    after.carriers descriptor.tag =
      others.filter (fun release => decide (release.tag = descriptor.tag)) ++ [draft] := by
  have hdraft : [draft].filter (fun release => decide (release.tag = descriptor.tag)) =
      [draft] := by
    simp [h.tag]
  show after.releases.filter _ = _
  rw [hafter, List.filter_append, hdraft]

section
variable {conditions : Conditions} {descriptor : ReleaseDescriptor} {selected : List Artifact}
  {moment : Nat} {shelf : Shelf} {result : PublishedRelease} {draft : KeptRelease} {after : Shelf}

/-- After a publication that went well the tag is carried by the new release and by those that
carried it before, without the one that was found. -/
theorem Released.carriers {found : Option KeptRelease}
    (h : Released conditions descriptor selected found shelf after result draft) :
    after.carriers descriptor.tag = ((shelf.carriers descriptor.tag).filter fun release =>
      decide (some release.id ≠ found.map (·.id))) ++ [draft] := by
  rw [h.drafted.carriers h.releases, Shelf.carriers, List.filter_comm]

/-- There are as many of them as before, but at least the new one. -/
theorem Released.length_carriers
    (h : Released conditions descriptor selected (conditions.found moment shelf descriptor.tag)
      shelf after result draft) :
    (after.carriers descriptor.tag).length = max 1 (shelf.carriers descriptor.tag).length := by
  rw [h.carriers, List.length_append, List.length_singleton]
  -- The new one takes the place of the one that was found, or is the first one.
  cases hfound : conditions.found moment shelf descriptor.tag with
  | none =>
      have hnone : shelf.carriers descriptor.tag = [] :=
        List.filter_eq_nil_iff.mpr fun release hrelease => by
          simpa using conditions.found_eq_none.mp hfound release hrelease
      rw [hnone]
      rfl
  | some old =>
      have hold : old ∈ shelf.carriers descriptor.tag :=
        Shelf.mem_carriers.mpr (conditions.found_mem hfound)
      have hpositive := List.length_pos_of_mem hold
      refine (Shelf.length_carriers_without hold).trans ?_
      omega

end

section
variable (conditions : Conditions)

/-- A publication that went well leaves as many carriers of its tag as there were, but at least one.
One that failed leaves as many as there were, and one more if its draft was left over. -/
theorem length_carriers_make (shelf : Shelf) (moment : Nat) (request : PublishRequest) :
    let publication := Publication.make conditions shelf moment request
    let tag := request.descriptor.tag
    (publication.after.shelf.carriers tag).length =
      if publication.isOk then max 1 (shelf.carriers tag).length
      else (shelf.carriers tag).length + publication.leftover.toNat := by
  intro publication tag
  obtain ⟨selected, hend⟩ := publication_ends conditions shelf moment request
  have hpublication : publication = Publication.make conditions shelf moment request := rfl
  rw [← hpublication] at hend
  show _ = if publication.result.isOk then _
    else _ + (!publication.result.isOk && publication.after.deletionRefused).toNat
  generalize publication.result = result, publication.after = after at hend
  -- A release replaces, an attempt that was undone leaves all as it was, and an abandoned one
  -- leaves its draft.
  cases hend with
  | released h => exact h.length_carriers
  | undone h =>
      have hkept : after.shelf.carriers tag = shelf.carriers tag :=
        congrArg (List.filter _) h.releases
      have hrefused : after.deletionRefused = false := by
        unfold Desk.deletionRefused
        split
        · next id hlast => exact absurd hlast (h.notRefused id)
        · rfl
      rw [hkept, hrefused]
      rfl
  | @abandoned error _ draft h =>
      obtain ⟨_, _, hdrafted⟩ := h.drafted
      have hmore : after.shelf.carriers tag = shelf.carriers tag ++ [draft] :=
        hdrafted.carriers h.releases
      have hrefused : after.deletionRefused = true := by
        unfold Desk.deletionRefused
        rw [h.refused]
      rw [hmore, hrefused, List.length_append]
      rfl

/-- So a publication adds at most what was left over, and the first carrier if there was none. -/
theorem length_carriers_make_bounds (shelf : Shelf) (moment : Nat) (request : PublishRequest) :
    let publication := Publication.make conditions shelf moment request
    let before := (shelf.carriers request.descriptor.tag).length
    let after := (publication.after.shelf.carriers request.descriptor.tag).length
    after ≤ max 1 before + publication.leftover.toNat ∧
      (before ≠ 0 → after = before + publication.leftover.toNat) := by
  intro publication before after
  have hafter : after = if publication.isOk then max 1 before
      else before + publication.leftover.toNat :=
    length_carriers_make conditions shelf moment request
  cases hok : publication.isOk with
  | true =>
      have hleft : publication.leftover = false := by simp [Publication.leftover, hok]
      rw [hok, if_pos rfl] at hafter
      rw [hafter, hleft, Bool.toNat_false]
      omega
  | false =>
      rw [hok, if_neg Bool.false_ne_true] at hafter
      omega

/-! ### Publications one after the other -/

variable {conditions} {tag : String} {shelf : Shelf} {moment : Nat} {requests : List PublishRequest}
  {earlier later : List Publication} {publication : Publication}

/-- What can be said of one of many publications: it was made of one of the requests, and the
carriers it came upon are those of the beginning, with the drafts that were left over since. -/
structure InTurn (conditions : Conditions) (tag : String) (shelf : Shelf)
    (requests : List PublishRequest) (earlier : List Publication) (publication : Publication) :
    Prop where
  asked : publication.request ∈ requests
  made : publication = Publication.make conditions publication.before publication.moment
    publication.request
  atMost : (publication.before.carriers tag).length ≤
    max 1 (shelf.carriers tag).length + earlier.countP Publication.leftover
  exactly : (shelf.carriers tag).length ≠ 0 → (publication.before.carriers tag).length =
    (shelf.carriers tag).length + earlier.countP Publication.leftover

/-- Each of many publications has its turn. -/
theorem inTurn_of_publications (htags : ∀ request ∈ requests, request.descriptor.tag = tag)
    (h : publications conditions shelf moment requests = earlier ++ publication :: later) :
    InTurn conditions tag shelf requests earlier publication := by
  induction requests generalizing shelf moment earlier with
  | nil => simp [publications] at h
  | cons request rest ih =>
      rw [publications] at h
      cases earlier with
      | nil =>
          obtain ⟨rfl, -⟩ := List.cons.inj h
          exact ⟨List.mem_cons_self, rfl, Nat.le_max_right _ _, fun _ => rfl⟩
      | cons first others =>
          obtain ⟨hfirst, hothers⟩ := List.cons.inj h
          have hturn := ih (fun other hother => htags other (List.mem_cons_of_mem _ hother)) hothers
          -- The first publication adds what it left over, and the others come upon that.
          have hbounds := length_carriers_make_bounds conditions shelf moment request
          rw [htags request List.mem_cons_self, hfirst] at hbounds
          rw [hfirst] at hturn
          obtain ⟨hmost, hexact⟩ := hbounds
          have hcons : (first :: others).countP Publication.leftover =
              first.leftover.toNat + others.countP Publication.leftover := by
            rw [List.countP_cons, Nat.add_comm]
            cases first.leftover <;> rfl
          refine ⟨List.mem_cons_of_mem _ hturn.asked, hturn.made, ?_, fun hsome => ?_⟩
          · have hlater := hturn.atMost
            rw [hcons]
            omega
          · have hlater := hturn.exactly
            rw [hcons]
            have hfirst := hexact hsome
            omega

end

/-- **Publishing again replaces what was published before, unless a draft was left over.** Take
any host on which at most one release carries a tag, and any publications of that tag, one after
the other, in which any call and any read may fail. Every publication that returns a release has
made it: the tag is carried by the new release, and by those that carried it before other than the
one that was found. So the new release is the only one exactly where there was at most one before.

There is more than one only if an earlier publication failed and could not discard its draft
either. As long as that did not happen, the tag is carried by the new release alone. Where it
happened, every draft that was left over is a carrier more, for good. -/
theorem republishing_replaces (conditions : Conditions) (tag : String) (shelf : Shelf)
    (moment : Nat) (requests : List PublishRequest)
    (htags : ∀ request ∈ requests, request.descriptor.tag = tag)
    (hshelf : (shelf.carriers tag).length ≤ 1) :
    ∀ earlier publication later,
      publications conditions shelf moment requests = earlier ++ publication :: later →
    ∀ result, publication.result = .ok result →
      let before := publication.before.carriers tag
      let after := publication.after.shelf.carriers tag
      let found := publication.found conditions
      (found = none ↔ before = []) ∧ (∀ old ∈ found, old ∈ before) ∧
      ∃ draft, draft.id = result.id ∧ draft.id ∉ publication.before.ids ∧
        after = before.filter (fun release => decide (some release.id ≠ found.map (·.id))) ++
          [draft] ∧
        (after = [draft] ↔ before.length ≤ 1) ∧
        after.length ≤ 1 + earlier.countP Publication.leftover ∧
        ((shelf.carriers tag).length = 1 →
          after.length = 1 + earlier.countP Publication.leftover) ∧
        ((∀ other ∈ earlier, other.leftover = false) → after = [draft]) := by
  intro earlier publication later hsplit result hok before after found
  have hturn := inTurn_of_publications htags hsplit
  obtain rfl : publication.request.descriptor.tag = tag := htags _ hturn.asked
  refine ⟨?_, fun old hold => Shelf.mem_carriers.mpr (conditions.found_mem hold), ?_⟩
  · refine conditions.found_eq_none.trans ?_
    simp [before, Shelf.carriers]
  -- The publication returned a release, so it ended in the first of the ways of `PublishEnd`.
  obtain ⟨selected, hend⟩ := publication_ends conditions publication.before publication.moment
    publication.request
  rw [← hturn.made, hok] at hend
  cases hend with
  | @released _ _ draft h =>
      have hlength : after.length = max 1 before.length := h.length_carriers
      have hcarriers : after = before.filter
          (fun release => decide (some release.id ≠ found.map (·.id))) ++ [draft] := h.carriers
      have hsingle : after = [draft] ↔ before.length ≤ 1 := by
        constructor
        · intro hafter
          rw [hafter, List.length_singleton] at hlength
          omega
        · intro hbefore
          -- The draft is one of the carriers, and there is only one.
          have hone : after.length = 1 := by omega
          rw [hcarriers, List.length_append, List.length_singleton, Nat.add_eq_right,
            List.length_eq_zero_iff] at hone
          rw [hcarriers, hone]
          rfl
      have hmost : before.length ≤
          max 1 (shelf.carriers publication.request.descriptor.tag).length +
            earlier.countP Publication.leftover := hturn.atMost
      refine ⟨draft, h.id.symm, h.drafted.fresh, hcarriers, hsingle, ?_, ?_, ?_⟩
      · omega
      · intro hone
        have hexact : before.length = _ := hturn.exactly (by omega)
        omega
      · intro hclean
        have hnone : earlier.countP Publication.leftover = 0 :=
          List.countP_eq_zero.mpr fun other hother => by simp [hclean other hother]
        exact hsingle.mpr (by omega)

/-! ### A draft that is left over -/

/-- A host that refuses two calls in a row: the first upload, and the deletion that follows it. -/
def twiceRefusing : Conditions :=
  { (default : Conditions) with
    refusal := fun moment =>
      if moment = 3 ∨ moment = 4 then some (.refused 500 "Internal Server Error") else none }

/-- The releases of a host that has one. -/
def oneRelease : Shelf where
  releases := [⟨1, "preview", "1a2b3c4@2024-03-09 12:00:00", true, []⟩]
  distinct := List.nodup_singleton _

/-- A request to publish one artifact. -/
def seekerRequest : PublishRequest where
  descriptor := ⟨"preview", "2b3c4d5@2024-03-09 13:00:00", true, true, "seeker*"⟩
  artifacts := [⟨"osx", ⟨"dist/seeker-osx"⟩, "seeker-osx"⟩]

/-- A publication that fails twice over leaves its draft behind. The next one goes well, and then
two releases carry the tag. -/
theorem two_carriers_after_leftover :
    let first := Publication.make twiceRefusing oneRelease 0 seekerRequest
    let second := Publication.make twiceRefusing first.after.shelf first.after.moment seekerRequest
    (oneRelease.carriers "preview").length = 1 ∧ first.leftover = true ∧ second.isOk = true ∧
      (second.after.shelf.carriers "preview").length = 2 := by
  intro first second
  have hfirst : first.leftover = true := by decide +kernel
  have hsecond : second.isOk = true := by decide +kernel
  -- Both publications are computed, and the count of the carriers is that of the theorem.
  have hresult : ∃ result, second.result = .ok result := by
    cases h : second.result with
    | ok result => exact ⟨result, rfl⟩
    | error error =>
        rw [Publication.isOk, h] at hsecond
        cases hsecond
  obtain ⟨result, hresult⟩ := hresult
  obtain ⟨-, -, _, -, -, -, -, -, hcount, -⟩ :=
    republishing_replaces twiceRefusing "preview" oneRelease 0 [seekerRequest, seekerRequest]
      (by simp [seekerRequest]) (by decide) [first] second [] rfl result hresult
  refine ⟨by decide, hfirst, hsecond, ?_⟩
  rw [hcount (by decide), List.countP_singleton, hfirst]
  rfl

end ReleasePipeline.Proofs
