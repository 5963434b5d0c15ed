import Mathlib.Data.List.Nodup
import ReleasePipeline.Publish
import ReleasePipeline.Rehearsal.HostBook
import ReleasePipeline.Proofs.Support.State

/-!
# `ReleasePipeline.Proofs.Publish.Shelf`: a release host that keeps a list of releases

A `Shelf` is what a host has: releases with distinct identifiers. A call does one thing to it
(`add`, `attach`, `remove`) or only looks (`carriers`). How the host behaves beyond that is left
open in `Conditions`: any call may be refused at any moment and then changes nothing, a lookup may
return any of the releases that carry the tag, a new release may get any identifier that is not
taken, and what the host says of a release may be anything as long as the identifier is right. Any
file may be unreadable at any moment.

`host` and `files` are the host and the files under given conditions, for a publisher that runs in
`StateM Desk`. The lemmas `run_find`, `run_create`, `run_upload`, `run_delete` and `run_read` say
what each request can lead to, and nothing else has to be known of the host.
-/

set_option autoImplicit false

namespace ReleasePipeline.Proofs

open Rehearsal (HostCall)

/-- A release, as its host keeps it. -/
structure KeptRelease where
  id : UInt64
  tag : String
  name : String
  draft : Bool
  /-- The names and contents of its files, in the order in which they came. -/
  assets : List (String × ByteArray)

/-- The release with one file more. -/
def KeptRelease.with (release : KeptRelease) (added : List (String × ByteArray)) : KeptRelease :=
  { release with assets := release.assets ++ added }

/-- The releases of a host. No two have the same identifier. -/
structure Shelf where
  releases : List KeptRelease
  distinct : (releases.map (·.id)).Nodup

namespace Shelf

/-- The identifiers that are taken. -/
def ids (shelf : Shelf) : List UInt64 :=
  shelf.releases.map (·.id)

/-- The releases that carry a tag. -/
def carriers (shelf : Shelf) (tag : String) : List KeptRelease :=
  shelf.releases.filter (·.tag = tag)

/-- The releases other than the one with an identifier. -/
def without (shelf : Shelf) (id : UInt64) : List KeptRelease :=
  shelf.releases.filter (·.id ≠ id)

/-- Puts a release with a fresh identifier behind the others. -/
def add (shelf : Shelf) (release : KeptRelease) (fresh : release.id ∉ shelf.ids) : Shelf where
  releases := shelf.releases ++ [release]
  distinct := by
    rw [List.map_append, List.map_singleton]
    refine List.nodup_append.mpr ⟨shelf.distinct, List.nodup_singleton _, ?_⟩
    intro taken htaken id hid heq
    rw [List.mem_singleton.mp hid] at heq
    exact fresh (heq ▸ htaken)

/-- Adds a file to the release with an identifier. -/
def attach (shelf : Shelf) (id : UInt64) (file : String × ByteArray) : Shelf where
  releases := shelf.releases.map fun release =>
    if release.id = id then release.with [file] else release
  distinct := by
    have hids : ((fun release : KeptRelease => release.id) ∘ fun release =>
        if release.id = id then release.with [file] else release) = (·.id) := by
      funext release
      show (if release.id = id then release.with [file] else release).id = release.id
      split <;> rfl
    rw [List.map_map, hids]
    exact shelf.distinct

/-- Takes the release with an identifier away. -/
def remove (shelf : Shelf) (id : UInt64) : Shelf where
  releases := shelf.without id
  distinct := shelf.distinct.sublist (List.filter_sublist.map _)

/-- A release that carries a tag is on the shelf and has the tag. -/
theorem mem_carriers {shelf : Shelf} {tag : String} {release : KeptRelease} :
    release ∈ shelf.carriers tag ↔ release ∈ shelf.releases ∧ release.tag = tag := by
  simp [carriers]

/-- The identifier of a release is taken. -/
theorem id_mem_ids {shelf : Shelf} {release : KeptRelease} (h : release ∈ shelf.releases) :
    release.id ∈ shelf.ids :=
  List.mem_map_of_mem h

/-- Two releases on a shelf that have one identifier are the same. -/
theorem eq_of_id_eq {shelf : Shelf} {a b : KeptRelease} (ha : a ∈ shelf.releases)
    (hb : b ∈ shelf.releases) (h : a.id = b.id) : a = b :=
  List.inj_on_of_nodup_map shelf.distinct ha hb h

end Shelf

/-- A place where releases are asked for: what the host has, how often the host or the files were
asked before, and what became of the calls to the host. -/
structure Desk where
  shelf : Shelf
  moment : Nat
  /-- The calls, oldest first, and whether each was granted. -/
  log : List (HostCall × Bool)

namespace Desk

/-- The desk after a call that changed nothing. -/
def noted (desk : Desk) (call : HostCall) (granted : Bool) : Desk where
  shelf := desk.shelf
  moment := desk.moment + 1
  log := desk.log ++ [(call, granted)]

/-- The desk after a call that changed what the host has. -/
def changed (desk : Desk) (call : HostCall) (shelf : Shelf) : Desk :=
  { desk.noted call true with shelf := shelf }

/-- The desk after a file was read. -/
def later (desk : Desk) : Desk :=
  { desk with moment := desk.moment + 1 }

end Desk

/-- Everything about a host and the files that is not fixed. -/
structure Conditions where
  /-- Why a call is refused, if it is. -/
  refusal : Nat → Option HostError
  /-- Which of several releases of one tag is found. -/
  pick : Nat → KeptRelease → List KeptRelease → KeptRelease
  pick_mem : ∀ moment first rest, pick moment first rest ∈ first :: rest
  /-- The identifier of a new release, if there is still one to be had. -/
  number : Nat → List UInt64 → Option UInt64
  number_fresh : ∀ moment taken, ∀ id ∈ number moment taken, id ∉ taken
  /-- What the host says of a release. -/
  shown : KeptRelease → HostedRelease
  shown_id : ∀ release, (shown release).id = release.id
  /-- What the host says of a new file. -/
  asset : Nat → String → HostedAsset
  /-- Why a file cannot be read, if it cannot. -/
  unreadable : Nat → Path → Option OsError
  content : Path → ByteArray

namespace Conditions
variable (conditions : Conditions)

/-- The release that a lookup finds. -/
def found (moment : Nat) (shelf : Shelf) (tag : String) : Option KeptRelease :=
  match shelf.carriers tag with
  | [] => none
  | first :: rest => some (conditions.pick moment first rest)

/-- A lookup finds a release of the tag. -/
theorem found_mem {moment : Nat} {shelf : Shelf} {tag : String} {release : KeptRelease}
    (h : conditions.found moment shelf tag = some release) :
    release ∈ shelf.releases ∧ release.tag = tag := by
  refine Shelf.mem_carriers.mp ?_
  unfold found at h
  split at h
  · exact absurd h.symm (Option.some_ne_none release)
  · next first rest heq =>
      rw [heq, ← Option.some.inj h]
      exact conditions.pick_mem moment first rest

/-- A lookup finds nothing only if there is nothing. -/
theorem found_eq_none {moment : Nat} {shelf : Shelf} {tag : String} :
    conditions.found moment shelf tag = none ↔ ∀ release ∈ shelf.releases, release.tag ≠ tag := by
  have hnil : shelf.carriers tag = [] ↔ ∀ release ∈ shelf.releases, release.tag ≠ tag := by
    simp [Shelf.carriers]
  rw [← hnil]
  -- A lookup comes back with nothing only where the list of carriers is empty.
  unfold found
  split
  · next heq => simp [heq]
  · next heq => simp [heq]

/-- The release that the host makes when it is asked for one. -/
def drafted (id : UInt64) (release : NewRelease) : KeptRelease :=
  ⟨id, release.tagName, release.name, release.draft, []⟩

/-- Why a call about a release that is not there is refused. -/
def missing : HostError := .refused 404 "Not Found"

/-- Why no more releases can be made. -/
def full : HostError := .refused 507 "Insufficient Storage"

/-- What becomes of a lookup that is not refused. -/
def lookup (tag : String) (desk : Desk) : Except HostError (Option HostedRelease × Shelf) :=
  .ok ((conditions.found desk.moment desk.shelf tag).map conditions.shown, desk.shelf)

/-- What becomes of a request for a new release. -/
def make (release : NewRelease) (desk : Desk) : Except HostError (HostedRelease × Shelf) :=
  match h : conditions.number desk.moment desk.shelf.ids with
  | none => .error full
  | some id =>
    .ok (conditions.shown (drafted id release),
      desk.shelf.add (drafted id release) (conditions.number_fresh _ _ id h))

/-- What becomes of an upload. -/
def adopt (release : HostedRelease) (name : String) (contents : ByteArray) (desk : Desk) :
    Except HostError (HostedAsset × Shelf) :=
  if release.id ∈ desk.shelf.ids then
    .ok (conditions.asset desk.moment name, desk.shelf.attach release.id (name, contents))
  else .error missing

/-- What becomes of a deletion. -/
def drop (id : UInt64) (desk : Desk) : Except HostError (Unit × Shelf) :=
  if id ∈ desk.shelf.ids then .ok ((), desk.shelf.remove id) else .error missing

/-- Makes a call to the host. If it is not refused, `change` says what becomes of it. -/
def ask {α : Type} (call : HostCall) (change : Desk → Except HostError (α × Shelf)) :
    StateM Desk (Except HostError α) := fun desk =>
  match conditions.refusal desk.moment with
  | some error => (.error error, desk.noted call false)
  | none =>
    match change desk with
    | .error error => (.error error, desk.noted call false)
    | .ok (result, shelf) => (.ok result, desk.changed call shelf)

/-- The host under given conditions. -/
def host : ReleaseHost (StateM Desk) where
  find tag := conditions.ask (.find tag) (conditions.lookup tag)
  create release := conditions.ask (.create release) (conditions.make release)
  upload release name contents :=
    conditions.ask (.upload release.id name contents) (conditions.adopt release name contents)
  delete id := conditions.ask (.delete id) (drop id)

/-- Reads a file. -/
def look (path : Path) : StateM Desk (Except OsError ByteArray) := fun desk =>
  match conditions.unreadable desk.moment path with
  | some error => (.error error, desk.later)
  | none => (.ok (conditions.content path), desk.later)

/-- The files under given conditions. They are only there to be read. -/
def files : Files (StateM Desk) where
  read path := conditions.look path
  write _ _ := pure (.error .permissionDenied)
  createDirs _ := pure (.error .permissionDenied)
  copy _ _ := pure (.error .permissionDenied)
  isFile _ := pure false

/-- A host and files with which nothing goes wrong: the first release of a tag is found, and a new
one gets the least identifier that is not taken. -/
instance : Inhabited Conditions where
  default := {
    refusal := fun _ => none
    pick := fun _ first _ => first
    pick_mem := fun _ _ _ => List.mem_cons_self
    number := fun _ taken =>
      ((List.range (taken.length + 1)).map UInt64.ofNat).find? fun id => decide (id ∉ taken)
    number_fresh := fun _ _ _ hid => of_decide_eq_true (List.find?_some hid :)
    shown := fun release => ⟨release.id, release.tag, some release.name, release.draft, "", "", []⟩
    shown_id := fun _ => rfl
    asset := fun moment name => ⟨UInt64.ofNat moment, name, 0, ""⟩
    unreadable := fun _ _ => none
    content := fun _ => ByteArray.empty
  }

/-! ### What a request can lead to -/

/-- A call is refused and changes nothing, or it does what it is for. -/
theorem run_ask {α : Type} (call : HostCall) (change : Desk → Except HostError (α × Shelf))
    (desk : Desk) :
    (∃ error, (conditions.ask call change).run desk = (.error error, desk.noted call false)) ∨
    ∃ result shelf, change desk = .ok (result, shelf) ∧
      (conditions.ask call change).run desk = (.ok result, desk.changed call shelf) := by
  show (∃ error, conditions.ask call change desk = (.error error, desk.noted call false)) ∨
    ∃ result shelf, change desk = .ok (result, shelf) ∧
      conditions.ask call change desk = (.ok result, desk.changed call shelf)
  unfold ask
  cases conditions.refusal desk.moment with
  | some error => exact .inl ⟨error, rfl⟩
  | none =>
      cases hchange : change desk with
      | error error => exact .inl ⟨error, rfl⟩
      | ok value => exact .inr ⟨value.1, value.2, rfl, rfl⟩

/-- A lookup is refused, or shows the release found. -/
theorem run_find (tag : String) (desk : Desk) :
    (∃ error, (conditions.host.find tag).run desk =
      (.error error, desk.noted (.find tag) false)) ∨
    (conditions.host.find tag).run desk =
      (.ok ((conditions.found desk.moment desk.shelf tag).map conditions.shown),
        desk.changed (.find tag) desk.shelf) := by
  rcases conditions.run_ask (.find tag) (conditions.lookup tag) desk with hrefused | hgranted
  · exact .inl hrefused
  · obtain ⟨result, shelf, hchange, hrun⟩ := hgranted
    cases hchange
    exact .inr hrun

/-- A new release is refused, or put on the shelf under a fresh identifier. -/
theorem run_create (release : NewRelease) (desk : Desk) :
    (∃ error, (conditions.host.create release).run desk =
      (.error error, desk.noted (.create release) false)) ∨
    ∃ id, ∃ fresh : (drafted id release).id ∉ desk.shelf.ids,
      (conditions.host.create release).run desk =
        (.ok (conditions.shown (drafted id release)),
          desk.changed (.create release) (desk.shelf.add (drafted id release) fresh)) := by
  rcases conditions.run_ask (.create release) (conditions.make release) desk
    with hrefused | hgranted
  · exact .inl hrefused
  · obtain ⟨result, shelf, hchange, hrun⟩ := hgranted
    -- A release is only made if there is a free number for it.
    unfold make at hchange
    split at hchange
    · cases hchange
    · next id h =>
        cases hchange
        exact .inr ⟨id, conditions.number_fresh _ _ id h, hrun⟩

/-- An upload is refused, or adds the file to the release. -/
theorem run_upload (release : HostedRelease) (name : String) (contents : ByteArray) (desk : Desk) :
    (∃ error, (conditions.host.upload release name contents).run desk =
      (.error error, desk.noted (.upload release.id name contents) false)) ∨
    ∃ asset, (conditions.host.upload release name contents).run desk =
      (.ok asset, desk.changed (.upload release.id name contents)
        (desk.shelf.attach release.id (name, contents))) := by
  rcases conditions.run_ask (.upload release.id name contents)
      (conditions.adopt release name contents) desk
    with hrefused | hgranted
  · exact .inl hrefused
  · obtain ⟨result, shelf, hchange, hrun⟩ := hgranted
    unfold adopt at hchange
    split at hchange
    · cases hchange
      exact .inr ⟨_, hrun⟩
    · cases hchange

/-- A deletion is refused, or takes the release away. -/
theorem run_delete (id : UInt64) (desk : Desk) :
    (∃ error, (conditions.host.delete id).run desk =
      (.error error, desk.noted (.delete id) false)) ∨
    (conditions.host.delete id).run desk =
      (.ok (), desk.changed (.delete id) (desk.shelf.remove id)) := by
  rcases conditions.run_ask (.delete id) (drop id) desk with hrefused | hgranted
  · exact .inl hrefused
  · obtain ⟨result, shelf, hchange, hrun⟩ := hgranted
    unfold drop at hchange
    split at hchange
    · cases hchange
      exact .inr hrun
    · cases hchange

/-- A file cannot be read, or has its contents. -/
theorem run_read (path : Path) (desk : Desk) :
    (∃ error, (conditions.files.read path).run desk = (.error error, desk.later)) ∨
    (conditions.files.read path).run desk = (.ok (conditions.content path), desk.later) := by
  show (∃ error, conditions.look path desk = (.error error, desk.later)) ∨
    conditions.look path desk = (.ok (conditions.content path), desk.later)
  unfold look
  cases conditions.unreadable desk.moment path with
  | some error => exact .inl ⟨error, rfl⟩
  | none => exact .inr rfl

end Conditions
end ReleasePipeline.Proofs
