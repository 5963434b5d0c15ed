import ReleasePipeline.Outcome
import ReleasePipeline.Release.Hosted
import ReleasePipeline.Trigger
import ReleasePipeline.Proofs.Json.Reports

/-!
# `ReleasePipeline.Proofs.Json.RoundTrip`: whatever is written is read back

`written_values_read_back` goes through all types that are written as JSON, in files, in requests
or in answers, and says of each that its values survive, in either layout. What this rests on for
most of them is `LawfulForm`. Three of them need more than their fields:

* a status is written with its kind among the members that belong to it. The reader looks through
  the members twice, first for the kind, and then for what belongs to it;
* bindings are read one name after the other, and each is put behind the ones before it;
* a configuration is read without a credential. None is written, so the text is the same for all of
  them (`toJson_withCredential`).
-/

set_option autoImplicit false

namespace ReleasePipeline.Proofs

open Json (readItems readMembers)

/-! ### Fields that may be missing -/

section
variable {α : Type} [JsonForm α] {members : Members} {name : String}

/-- A field with a value of its own is read, when it is there, like one that must be there. -/
theorem defaulted_reads [LawfulForm α] {absent value : α} {place : Nat}
    (hmember : occurrences name 0 members.entries = [(place, (toJson value).toReading)]) :
    (Fields.defaulted name absent).read members = .ok value :=
  single_reads hmember (LawfulForm.reads value)

/-- A field that may be missing from an object is nothing where no member has its name. -/
theorem optional_reads_missing (hnamed : members.named = true)
    (hmember : occurrences name 0 members.entries = []) :
    (Fields.optional name : Fields (Option α)).read members = .ok none := by
  simp only [Fields.optional, Fields.single, hmember, hnamed, if_true]

end

instance : NeverNull String where
  ne_null _ h := nomatch h

instance : NeverNull UInt64 where
  ne_null _ h := nomatch h

/-! ### Bindings -/

/-- A name that all others come before is put behind them. -/
theorem place_of_forall_lt {entries : List (String × String)} {name : String}
    (h : ∀ entry ∈ entries, entry.1 < name) (value : String) :
    Bindings.place name value entries = entries ++ [(name, value)] := by
  induction entries with
  | nil => rfl
  | cons entry rest ih =>
      obtain ⟨other, old⟩ := entry
      obtain ⟨hother, hrest⟩ := List.forall_mem_cons.mp h
      rw [Bindings.place, if_neg (String.lt_asymm hother), if_pos hother, ih hrest,
        List.cons_append]

/-- Bindings that are read in their order are put behind the ones that were read before. -/
theorem readBindings_readMembers {entries : List (String × String)} {before after : Bindings}
    (h : after.entries = before.entries ++ entries) :
    readBindings none before
      (readMembers (entries.map fun (name, value) => (name, .str value))) = .ok after := by
  induction entries generalizing before with
  | nil =>
      rw [List.append_nil] at h
      exact congrArg Except.ok (Bindings.ext h.symm)
  | cons entry rest ih =>
      obtain ⟨name, value⟩ := entry
      -- The names of all bindings ascend, so each one is placed behind those before it.
      have hascending := after.ascending
      rw [h] at hascending
      have hbehind : ∀ other ∈ before.entries, other.1 < name := fun other hother =>
        (List.pairwise_append.mp hascending).2.2 other hother (name, value) List.mem_cons_self
      have hplaced : (before.insert name value).entries = before.entries ++ [(name, value)] :=
        place_of_forall_lt hbehind value
      refine @ih (before.insert name value) ?_
      rw [hplaced, h, List.append_assoc]
      rfl

instance : LawfulForm Bindings where
  inRange bindings := by
    show MembersInRange (bindings.entries.map fun (name, value) => (name, .str value))
    induction bindings.entries with
    | nil => trivial
    | cons entry rest ih => exact ⟨trivial, ih⟩
  reads _ := readBindings_readMembers (List.nil_append _).symm

/-! ### Triggers and releases -/

instance : LawfulForm Trigger where
  inRange _ := ⟨trivial, trivial, trivial, trivial⟩
  reads _ := record_reads <|
    seq_reads (seq_reads (map_reads (required_reads rfl)) (required_reads rfl))
      (required_reads rfl)

instance : LawfulForm ReleaseDescriptor where
  inRange _ := ⟨trivial, trivial, trivial, trivial, trivial, trivial⟩
  reads _ := record_reads <|
    seq_reads (seq_reads (seq_reads (seq_reads (map_reads (required_reads rfl))
      (required_reads rfl)) (required_reads rfl)) (required_reads rfl)) (required_reads rfl)

instance : NeverNull ReleaseDescriptor where
  ne_null _ h := nomatch h

instance : LawfulForm PublishedRelease where
  inRange release := ⟨LawfulForm.inRange release.id, trivial, trivial, trivial,
    LawfulForm.inRange release.assets, LawfulForm.inRange release.replaced, trivial⟩
  reads _ := record_reads <|
    seq_reads (seq_reads (seq_reads (seq_reads (seq_reads (map_reads (required_reads rfl))
      (required_reads rfl)) (required_reads rfl)) (required_reads rfl)) (required_reads rfl))
      (optional_reads rfl)

instance : LawfulForm NewRelease where
  inRange release := by
    obtain ⟨tagName, name, draft, prerelease, target⟩ := release
    cases target with
    | none => exact ⟨trivial, trivial, trivial, trivial, trivial⟩
    | some target => exact ⟨trivial, trivial, trivial, trivial, trivial, trivial⟩
  reads release := by
    obtain ⟨tagName, name, draft, prerelease, target⟩ := release
    -- The target is a member only if there is one.
    cases target with
    | none =>
        exact record_reads <| seq_reads (seq_reads (seq_reads (seq_reads
          (map_reads (required_reads rfl)) (required_reads rfl)) (required_reads rfl))
          (defaulted_reads rfl)) (optional_reads_missing rfl rfl)
    | some target =>
        exact record_reads <| seq_reads (seq_reads (seq_reads (seq_reads
          (map_reads (required_reads rfl)) (required_reads rfl)) (required_reads rfl))
          (defaulted_reads rfl))
          (single_reads rfl (LawfulForm.reads (some target)))

instance : LawfulForm HostedAsset where
  inRange asset := ⟨LawfulForm.inRange asset.id, trivial, LawfulForm.inRange asset.size, trivial,
    trivial⟩
  reads _ := record_reads <|
    seq_reads (seq_reads (seq_reads (map_reads (required_reads rfl)) (required_reads rfl))
      (defaulted_reads rfl)) (defaulted_reads rfl)

instance : LawfulForm HostedRelease where
  inRange release := ⟨LawfulForm.inRange release.id, trivial, LawfulForm.inRange release.name,
    trivial, trivial, trivial, LawfulForm.inRange release.assets, trivial⟩
  reads _ := record_reads <|
    seq_reads (seq_reads (seq_reads (seq_reads (seq_reads (seq_reads
      (map_reads (required_reads rfl)) (required_reads rfl)) (defaulted_reads rfl))
      (required_reads rfl)) (defaulted_reads rfl)) (required_reads rfl)) (defaulted_reads rfl)

/-! ### The end of a pipeline -/

section
open PipelineStatus
  (tag kind content readers scanMembers flaw? itemsFlaw? membersFlaw? contentDepth)

/-- There is no fault in texts that were written. -/
theorem flaw?_texts (depth : Nat) (texts : List String) :
    flaw? (depth + 1) (toJson texts).toReading = none := by
  show (itemsFlaw? depth (readItems (texts.map toJson))).or none = none
  induction texts with
  | nil => rfl
  | cons text rest ih => exact ih

/-- There is none in a release that was written. -/
theorem flaw?_published (release : PublishedRelease) :
    flaw? contentDepth (toJson release).toReading = none := by
  obtain ⟨id, tag, name, url, assets, replaced⟩ := release
  have hassets := flaw?_texts 124 assets
  have hreplaced : flaw? 125 (toJson replaced).toReading = none := by
    cases replaced <;> rfl
  show (membersFlaw? 125 [(some "id", (toJson id).toReading), (some "tag", .str tag),
    (some "name", .str name), (some "url", .str url), (some "assets", (toJson assets).toReading),
    (some "replaced", (toJson replaced).toReading)]).or none = none
  have hid : flaw? 125 (toJson id).toReading = none := rfl
  simp only [membersFlaw?, hid, hassets, hreplaced, Option.or_none]
  rfl

/-- What belongs to a status is not taken for its kind, and has no fault. -/
theorem content_sound (status : PipelineStatus) :
    ∀ member ∈ status.content, member.1 ≠ tag ∧ flaw? contentDepth member.2.toReading = none := by
  -- One case for each status, since each has members of its own beside the tag.
  cases status with
  | skippedByGate => exact List.forall_mem_nil _
  | variantsFailed => exact List.forall_mem_nil _
  | notOnReleaseBranch branch target =>
      have hbranch : "branch" ≠ tag := by decide
      have htarget : "target" ≠ tag := by decide
      exact List.forall_mem_cons.mpr ⟨⟨hbranch, rfl⟩, List.forall_mem_singleton.mpr ⟨htarget, rfl⟩⟩
  | publishDeferred built =>
      have hbuilt : "built" ≠ tag := by decide
      exact List.forall_mem_singleton.mpr ⟨hbuilt, flaw?_texts _ built⟩
  | published release =>
      have hrelease : "release" ≠ tag := by decide
      exact List.forall_mem_singleton.mpr ⟨hrelease, flaw?_published release⟩
  | publishFailed kind message =>
      have hkind : "kind" ≠ tag := by decide
      have hmessage : "message" ≠ tag := by decide
      refine List.forall_mem_cons.mpr ⟨⟨hkind, ?_⟩, List.forall_mem_singleton.mpr ⟨hmessage, rfl⟩⟩
      cases kind <;> rfl

/-- Behind the kind, members without a fault are passed over. -/
theorem scanMembers_readMembers {members : List (String × Json)}
    (h : ∀ member ∈ members, member.1 ≠ tag ∧ flaw? contentDepth member.2.toReading = none)
    (read : Reading → Except Fault PipelineStatus) :
    scanMembers contentDepth none (some read) (readMembers members) = .ok (some read) := by
  induction members with
  | nil => rfl
  | cons member rest ih =>
      obtain ⟨name, value⟩ := member
      obtain ⟨⟨hname, hvalue⟩, hrest⟩ := List.forall_mem_cons.mp h
      rw [readMembers, scanMembers, if_neg hname, hvalue]
      exact ih hrest

/-- They are all left when the kind is taken out. -/
theorem filter_readMembers {members : List (String × Json)}
    (h : ∀ member ∈ members, member.1 ≠ tag) :
    (readMembers members).filter (fun member => member.1 ≠ some tag) = readMembers members := by
  induction members with
  | nil => rfl
  | cons member rest ih =>
      obtain ⟨name, value⟩ := member
      obtain ⟨hname, hrest⟩ := List.forall_mem_cons.mp h
      rw [readMembers, List.filter_cons_of_pos (by simpa using hname), ih hrest]

/-- What belongs to a status is read by the reader of its kind. -/
theorem content_reads (status : PipelineStatus) :
    ∃ read, readers.lookup status.kind = some read ∧
      read (Json.obj status.content).toReading = .ok status := by
  cases status with
  | skippedByGate => exact ⟨_, rfl, rfl⟩
  | variantsFailed => exact ⟨_, rfl, rfl⟩
  | notOnReleaseBranch branch target =>
      exact ⟨_, rfl,
        record_reads <| seq_reads (map_reads (required_reads rfl)) (required_reads rfl)⟩
  | publishDeferred built => exact ⟨_, rfl, record_reads <| map_reads (required_reads rfl)⟩
  | published release => exact ⟨_, rfl, record_reads <| map_reads (required_reads rfl)⟩
  | publishFailed kind message =>
      refine ⟨_, rfl,
        record_reads <| seq_reads (map_reads (single_reads rfl ?_)) (required_reads rfl)⟩
      cases kind <;> rfl

instance : LawfulForm PipelineStatus where
  inRange status := by
    cases status with
    | skippedByGate => exact ⟨trivial, trivial⟩
    | variantsFailed => exact ⟨trivial, trivial⟩
    | notOnReleaseBranch branch target => exact ⟨trivial, trivial, trivial, trivial⟩
    | publishDeferred built => exact ⟨trivial, LawfulForm.inRange built, trivial⟩
    | published release => exact ⟨trivial, LawfulForm.inRange release, trivial⟩
    | publishFailed kind message => exact ⟨trivial, LawfulForm.inRange kind, trivial, trivial⟩
  reads status := by
    obtain ⟨read, hreader, hread⟩ := content_reads status
    have hsound := content_sound status
    -- The kind stands first, so its reader is known before the other members are looked through.
    have hscan : scanMembers contentDepth none none
        ((some tag, .str status.kind) :: readMembers status.content) = .ok (some read) := by
      have hkind : PipelineStatus.readerOf (.str status.kind) = .ok read := by
        simp only [PipelineStatus.readerOf, hreader]
      simp only [scanMembers, hkind, if_true]
      exact scanMembers_readMembers hsound read
    have hrest : ((some tag, Reading.str status.kind) :: readMembers status.content).filter
        (fun member => member.1 ≠ some tag) = readMembers status.content := by
      rw [List.filter_cons_of_neg (by simp)]
      exact filter_readMembers fun member hmember => (hsound member hmember).1
    show PipelineStatus.read
      (.object ((some tag, .str status.kind) :: readMembers status.content) none) = .ok status
    rw [PipelineStatus.read, hscan]
    show PipelineStatus.asShape (read (.object (((some tag, Reading.str status.kind) ::
      readMembers status.content).filter fun member => member.1 ≠ some tag) none)) = .ok status
    rw [hrest]
    show PipelineStatus.asShape (read (Json.obj status.content).toReading) = .ok status
    rw [hread]
    rfl

end

instance : LawfulForm PipelineOutcome where
  inRange outcome := ⟨LawfulForm.inRange outcome.status, LawfulForm.inRange outcome.variants,
    LawfulForm.inRange outcome.release, trivial⟩
  reads _ := record_reads <|
    seq_reads (seq_reads (map_reads (required_reads rfl)) (required_reads rfl)) (optional_reads rfl)

/-! ### Configurations -/

/-- No credential is written, so it makes no difference which one there is. -/
theorem toJson_withCredential (config : Config) (credential : Option Secret) :
    toJson { config with credential := credential } = toJson config :=
  rfl

/-- There is not even a member for it. -/
theorem no_credential_member (config : Config) :
    ∃ members, toJson config = .obj members ∧ "credential" ∉ members.map Prod.fst := by
  refine ⟨_, rfl, ?_⟩
  simp only [List.map_cons, List.map_nil]
  decide

/-- Every integer of a configuration is one that is read as an integer. -/
theorem inRange_config (config : Config) : InRange (toJson config) :=
  ⟨trivial, LawfulForm.inRange config.staticLink, trivial, trivial,
    LawfulForm.inRange config.releaseRepository, trivial, trivial, trivial,
    LawfulForm.inRange config.stepTimeoutSeconds, LawfulForm.inRange config.variants, trivial⟩

/-- A configuration is read back without its credential. -/
theorem config_reads (config : Config) :
    ofReading (toJson config).toReading = .ok { config with credential := none } :=
  record_reads <|
    seq_reads (seq_reads (seq_reads (seq_reads (seq_reads (seq_reads (seq_reads (seq_reads
      (seq_reads (map_reads (required_reads rfl)) (required_reads rfl)) (required_reads rfl))
      (required_reads rfl)) (optional_reads rfl)) (required_reads rfl)) (required_reads rfl))
      (required_reads rfl)) (required_reads rfl)) (required_reads rfl)

/-! ### All of them -/

/-- The text of a value is decoded as a value of its type, whatever the layout. -/
def ReadsAs {α : Type} [JsonForm α] (value result : α) : Prop :=
  ∀ layout, Json.decode ofReading ((toJson value).render layout).toUTF8.data.toList = .ok result

/-- A lawful form reads back what it writes, in either layout. -/
theorem readsAs_self {α : Type} [JsonForm α] [LawfulForm α] (value : α) : ReadsAs value value :=
  fun layout => decode_toJson layout value

/-- **What is written is read back.** The text of a value of any type that is written is decoded
as that value, in the compact and in the indented layout. The one exception is the credential of a
configuration: it is read as missing, there is no member for it, and the text does not depend on
it. -/
theorem written_values_read_back :
    (∀ command : Command, ReadsAs command command) ∧
    (∀ variant : Variant, ReadsAs variant variant) ∧
    (∀ result : StepResult, ReadsAs result result) ∧
    (∀ stage : Stage, ReadsAs stage stage) ∧
    (∀ entry : LogEntry, ReadsAs entry entry) ∧
    (∀ artifact : Artifact, ReadsAs artifact artifact) ∧
    (∀ descriptor : ReleaseDescriptor, ReadsAs descriptor descriptor) ∧
    (∀ release : PublishedRelease, ReadsAs release release) ∧
    (∀ status : PipelineStatus, ReadsAs status status) ∧
    (∀ report : VariantReport, ReadsAs report report) ∧
    (∀ stored : StoredReport, ReadsAs stored stored) ∧
    (∀ outcome : PipelineOutcome, ReadsAs outcome outcome) ∧
    (∀ trigger : Trigger, ReadsAs trigger trigger) ∧
    (∀ release : NewRelease, ReadsAs release release) ∧
    (∀ release : HostedRelease, ReadsAs release release) ∧
    (∀ asset : HostedAsset, ReadsAs asset asset) ∧
    (∀ config : Config, ReadsAs config { config with credential := none } ∧
      (∃ members, toJson config = .obj members ∧ "credential" ∉ members.map Prod.fst) ∧
      ∀ credential layout, (toJson { config with credential := credential }).render layout =
        (toJson config).render layout) := by
  refine ⟨readsAs_self, readsAs_self, readsAs_self, readsAs_self, readsAs_self, readsAs_self,
    readsAs_self, readsAs_self, readsAs_self, readsAs_self, readsAs_self, readsAs_self,
    readsAs_self, readsAs_self, readsAs_self, readsAs_self,
    fun config => ⟨fun layout => ?_, no_credential_member config, ?_⟩⟩
  · rw [decode_render ofReading layout (inRange_config config)]
    exact config_reads config
  · intro credential layout
    rw [toJson_withCredential]

end ReleasePipeline.Proofs
