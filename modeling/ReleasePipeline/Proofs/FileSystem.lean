import ReleasePipeline.FileSystem
import ReleasePipeline.Proofs.Path
import ReleasePipeline.Proofs.Support.Except

/-!
# `ReleasePipeline.Proofs.FileSystem`: what stays when files are written

`Grows changed before after` says that whatever stands in a file system stands in a later one as
well, but for the files at the places that were changed. Folders are never lost. So a path that
could be followed can still be followed (`Grows.locate`), and a file that could be read still reads
the same, unless its own place was changed (`Grows.read`).

`SameAt` is the other direction as well: the same file stands at a place, or none does.
`SameFiles` says so of the places that some paths lead to.

`write_spec` says that a file reads back as it was written and that no other place is changed:
writing puts one file at one place (`eq_put_of_write`). Copying comes to writing
(`write_of_copy`).
-/

set_option autoImplicit false

namespace ReleasePipeline.Proofs

open FileSystem (checkFolder checkText walk)

/-- Everything that stands in one file system stands in another one as well, but for the files at
some places. -/
structure Grows (changed : Place → Prop) (before after : FileSystem) : Prop where
  workingDir : after.workingDir = before.workingDir
  folder : ∀ place, before.get? place = some .folder → after.get? place = some .folder
  file : ∀ place content, ¬ changed place → before.get? place = some (.file content) →
    after.get? place = some (.file content)

section
variable {changed : Place → Prop} {fs before after : FileSystem} {path : Path} {place : Place}

/-- A file system grows out of itself. -/
theorem grows_refl (changed : Place → Prop) (fs : FileSystem) : Grows changed fs fs :=
  ⟨rfl, fun _ h => h, fun _ _ _ h => h⟩

/-- What stands up to some moment, and from then on, stands in the end. -/
theorem Grows.trans {middle : FileSystem} (first : Grows changed before middle)
    (second : Grows changed middle after) : Grows changed before after where
  workingDir := second.workingDir.trans first.workingDir
  folder place h := second.folder place (first.folder place h)
  file place content hplace h :=
    second.file place content hplace (first.file place content hplace h)

/-- Fewer places are changed than allowed. -/
theorem Grows.mono {others : Place → Prop} (h : Grows changed before after)
    (hless : ∀ place, changed place → others place) : Grows others before after where
  workingDir := h.workingDir
  folder := h.folder
  file place content hplace := h.file place content (mt (hless place) hplace)

/-! ### Putting one thing at one place -/

/-- Taking the entries of one key away leaves the others to be found. -/
theorem lookup_filter_ne {α β : Type} [BEq α] [LawfulBEq α] [DecidableEq α] {a b : α} (h : a ≠ b)
    (entries : List (α × β)) :
    (entries.filter fun entry => entry.1 ≠ b).lookup a = entries.lookup a := by
  induction entries with
  | nil => rfl
  | cons entry rest ih =>
      obtain ⟨key, value⟩ := entry
      -- An entry that is filtered out is not the one that is looked for.
      by_cases hkey : key = b
      · subst hkey
        rw [List.filter_cons_of_neg (by simp), ih, List.lookup_cons, beq_eq_false_iff_ne.mpr h]
      · rw [List.filter_cons_of_pos (by simpa using hkey), List.lookup_cons, List.lookup_cons, ih]

/-- What was put at a place is found there. The root cannot be replaced. -/
theorem get?_put_self (node : Node) (h : place ≠ []) :
    (fs.put place node).get? place = some node := by
  unfold FileSystem.get? FileSystem.put
  rw [if_neg h, List.lookup_cons, beq_self_eq_true]

/-- Whatever is at another place stays. -/
theorem get?_put_of_ne {other : Place} (node : Node) (h : other ≠ place) :
    (fs.put place node).get? other = fs.get? other := by
  unfold FileSystem.get? FileSystem.put
  rw [List.lookup_cons, beq_eq_false_iff_ne.mpr h, lookup_filter_ne h]

/-- The same file stands at a place before and after, or none does. -/
def SameAt (place : Place) (before after : FileSystem) : Prop :=
  ∀ content, after.get? place = some (.file content) ↔ before.get? place = some (.file content)

/-- A file system is the same at each of its places. -/
theorem sameAt_refl (place : Place) (fs : FileSystem) : SameAt place fs fs :=
  fun _ => Iff.rfl

/-- What is the same up to some moment, and from then on, is the same in the end. -/
theorem SameAt.trans {middle : FileSystem} (first : SameAt place before middle)
    (second : SameAt place middle after) : SameAt place before after :=
  fun content => (second content).trans (first content)

/-- What is put at one place changes no other one. -/
theorem sameAt_put {other : Place} (node : Node) (h : other ≠ place) :
    SameAt other fs (fs.put place node) := by
  intro content
  rw [get?_put_of_ne node h]

/-- A place where no folder stands is not the root. -/
theorem ne_nil_of_not_folder (h : fs.get? place ≠ some .folder) : place ≠ [] := by
  rintro rfl
  exact h rfl

/-- Writing a file where no folder is changes that place alone. -/
theorem grows_put_file (content : ByteArray) (h : fs.get? place ≠ some .folder) :
    Grows (· = place) fs (fs.put place (.file content)) where
  workingDir := rfl
  folder other hother := by
    have hne : other ≠ place := by
      rintro rfl
      exact h hother
    rw [get?_put_of_ne _ hne, hother]
  file other content' hne hother := by
    rw [get?_put_of_ne _ hne, hother]

/-- Making a folder where nothing was changes no file. -/
theorem grows_put_folder (h : fs.get? place = none) :
    Grows (fun _ => False) fs (fs.put place .folder) where
  workingDir := rfl
  folder other hother := by
    have hne : other ≠ place := by
      rintro rfl
      cases h.symm.trans hother
    rw [get?_put_of_ne _ hne, hother]
  file other content _ hother := by
    have hne : other ≠ place := by
      rintro rfl
      cases h.symm.trans hother
    rw [get?_put_of_ne _ hne, hother]

/-! ### Following paths -/

/-- The check that something is a folder passes for folders only. -/
theorem checkFolder_eq_ok : fs.checkFolder place = .ok () ↔ fs.get? place = some .folder := by
  unfold checkFolder
  cases fs.get? place with
  | none => exact ⟨nofun, nofun⟩
  | some node =>
      cases node with
      | file content => exact ⟨nofun, nofun⟩
      | folder => exact ⟨fun _ => rfl, fun _ => rfl⟩

/-- A name can be followed from a folder if it is not too long. -/
theorem walk_cons_eq_ok {name : String} {rest : List String} {found : Place} :
    fs.walk place (name :: rest) = .ok found ↔
      fs.get? place = some .folder ∧ ¬ FileSystem.maxName < name.utf8ByteSize ∧
        fs.walk (Path.enter place name) rest = .ok found := by
  rw [← checkFolder_eq_ok, walk]
  cases fs.checkFolder place with
  | error error => exact ⟨nofun, fun h => nomatch h.1⟩
  | ok _ =>
      refine ite_error_eq_ok.trans ?_
      exact (and_iff_right rfl).symm

/-- Names are followed one part after the other. -/
theorem walk_append_eq_ok {first second : List String} {found : Place} :
    fs.walk place (first ++ second) = .ok found ↔
      ∃ middle, fs.walk place first = .ok middle ∧ fs.walk middle second = .ok found := by
  induction first generalizing place with
  | nil =>
      constructor
      · exact fun h => ⟨place, rfl, h⟩
      · rintro ⟨_, ⟨⟩, h⟩
        exact h
  | cons name rest ih =>
      rw [List.cons_append, walk_cons_eq_ok, ih]
      constructor
      · rintro ⟨hfolder, hshort, middle, hrest, hsecond⟩
        exact ⟨middle, walk_cons_eq_ok.mpr ⟨hfolder, hshort, hrest⟩, hsecond⟩
      · rintro ⟨middle, hfirst, hsecond⟩
        obtain ⟨hfolder, hshort, hrest⟩ := walk_cons_eq_ok.mp hfirst
        exact ⟨hfolder, hshort, middle, hrest, hsecond⟩

/-- A path that can be followed leads where its names say. -/
theorem walk_eq_foldl {names : List String} {found : Place}
    (h : fs.walk place names = .ok found) : found = names.foldl Path.enter place := by
  induction names generalizing place with
  | nil =>
      cases h
      rfl
  | cons name rest ih =>
      obtain ⟨-, -, hrest⟩ := walk_cons_eq_ok.mp h
      exact ih hrest

/-- Where a path is located at all, it is located where its names lead. -/
theorem locate_eq_resolve (h : fs.locate path = .ok place) :
    place = Path.resolve fs.workingDir path := by
  obtain ⟨_, -, hwalk⟩ := bind_eq_ok.mp h
  exact walk_eq_foldl hwalk

/-- A walk that succeeded still does after growing, since no folder on its way is gone. -/
theorem Grows.walk (h : Grows changed before after) {names : List String} {found : Place}
    (hwalk : before.walk place names = .ok found) : after.walk place names = .ok found := by
  induction names generalizing place with
  | nil => exact hwalk
  | cons name rest ih =>
      obtain ⟨hfolder, hshort, hrest⟩ := walk_cons_eq_ok.mp hwalk
      exact walk_cons_eq_ok.mpr ⟨h.folder place hfolder, hshort, ih hrest⟩

/-- So a path that was located is located at the same place. -/
theorem Grows.locate (h : Grows changed before after) (hlocate : before.locate path = .ok place) :
    after.locate path = .ok place := by
  obtain ⟨_, htext, hwalk⟩ := bind_eq_ok.mp hlocate
  have hstart : after.start path = before.start path := by
    unfold FileSystem.start
    rw [h.workingDir]
  refine bind_eq_ok.mpr ⟨_, htext, ?_⟩
  rw [hstart]
  exact h.walk hwalk

/-! ### Reading -/

/-- What is read is the content of the file that the path is located at. -/
theorem read_eq_ok {content : ByteArray} :
    fs.read path = .ok content ↔
      ∃ place, fs.locate path = .ok place ∧ fs.get? place = some (.file content) := by
  unfold FileSystem.read
  rw [bind_eq_ok]
  refine exists_congr fun place => and_congr_right fun _ => ?_
  cases fs.get? place with
  | none => exact ⟨nofun, nofun⟩
  | some node =>
      cases node with
      | file other => simp
      | folder => exact ⟨nofun, nofun⟩

/-- What can be read is a file. -/
theorem isFile_of_read {content : ByteArray} (h : fs.read path = .ok content) :
    fs.isFile path = true := by
  obtain ⟨place, hlocate, hnode⟩ := read_eq_ok.mp h
  simp only [FileSystem.isFile, hlocate, hnode]

/-- Regular files are what can be read. -/
theorem isFile_iff_read : fs.isFile path = true ↔ ∃ content, fs.read path = .ok content := by
  refine ⟨fun h => ?_, fun ⟨_, h⟩ => isFile_of_read h⟩
  unfold FileSystem.isFile at h
  cases hlocate : fs.locate path with
  | error error => simp [hlocate] at h
  | ok place =>
      cases hnode : fs.get? place with
      | none => simp [hlocate, hnode] at h
      | some node =>
          cases node with
          | file content => exact ⟨content, read_eq_ok.mpr ⟨place, hlocate, hnode⟩⟩
          | folder => simp [hlocate, hnode] at h

/-- A file whose place is not changed reads the same later. -/
theorem Grows.read (h : Grows changed before after) {content : ByteArray}
    (hplace : ¬ changed (Path.resolve before.workingDir path))
    (hread : before.read path = .ok content) : after.read path = .ok content := by
  obtain ⟨place, hlocate, hnode⟩ := read_eq_ok.mp hread
  rw [← locate_eq_resolve hlocate] at hplace
  exact read_eq_ok.mpr ⟨place, h.locate hlocate, h.file place content hplace hnode⟩

/-- A file lies where a path leads by its names. Whether the path can be followed is another
matter. -/
def Holds (fs : FileSystem) (path : Path) (content : ByteArray) : Prop :=
  fs.get? (Path.resolve fs.workingDir path) = some (.file content)

/-- A file that was read is held. -/
theorem holds_of_read {content : ByteArray} (h : fs.read path = .ok content) :
    Holds fs path content := by
  obtain ⟨place, hlocate, hnode⟩ := read_eq_ok.mp h
  rw [locate_eq_resolve hlocate] at hnode
  exact hnode

/-- Where a path can be followed, the file that lies there is the one that is read. -/
theorem Holds.read {content : ByteArray} (h : Holds fs path content)
    (hfile : fs.isFile path = true) : fs.read path = .ok content := by
  unfold FileSystem.isFile at hfile
  cases hlocate : fs.locate path with
  | error error => simp [hlocate] at hfile
  | ok place =>
      refine read_eq_ok.mpr ⟨place, hlocate, ?_⟩
      rw [locate_eq_resolve hlocate]
      exact h

/-- At each of some paths the same file lies before and after, or none does. -/
def SameFiles (paths : List Path) (before after : FileSystem) : Prop :=
  ∀ path ∈ paths, ∀ content, Holds after path content ↔ Holds before path content

/-- A file system has the same files as itself. -/
theorem sameFiles_refl (paths : List Path) (fs : FileSystem) : SameFiles paths fs fs :=
  fun _ _ _ => Iff.rfl

/-- Files that are the same up to some moment, and from then on, are the same in the end. -/
theorem SameFiles.trans {paths : List Path} {middle : FileSystem}
    (first : SameFiles paths before middle) (second : SameFiles paths middle after) :
    SameFiles paths before after :=
  fun path hpath content => (second path hpath content).trans (first path hpath content)

/-- The files at some paths are the same where nothing changes at their places. -/
theorem sameFiles_of_sameAt {paths : List Path} (hdir : after.workingDir = before.workingDir)
    (h : ∀ path ∈ paths, SameAt (Path.resolve before.workingDir path) before after) :
    SameFiles paths before after := by
  intro path hpath content
  unfold Holds
  rw [hdir]
  exact h path hpath content

/-- The places that names lead through, the first and the last one included. -/
def placesOn (place : Place) : List String → List Place
  | [] => [place]
  | name :: rest => place :: placesOn (Path.enter place name) rest

/-- Following names makes no difference to what is put at a place that they do not lead through, nor
does that place make one to it. -/
theorem walk_put {other found : Place} {names : List String} (node : Node)
    (hother : other ∉ placesOn place names) (h : fs.walk place names = .ok found) :
    (fs.put other node).walk place names = .ok found ∧ found ≠ other := by
  induction names generalizing place with
  | nil =>
      cases h
      exact ⟨rfl, fun heq => hother (List.mem_singleton.mpr heq.symm)⟩
  | cons name rest ih =>
      obtain ⟨hfolder, hshort, hrest⟩ := walk_cons_eq_ok.mp h
      -- The other place is neither where the walk stands now nor anywhere ahead.
      rw [placesOn, List.mem_cons, not_or] at hother
      obtain ⟨hne, hlater⟩ := hother
      obtain ⟨hwalk, hfound⟩ := ih hlater hrest
      refine ⟨walk_cons_eq_ok.mpr ⟨?_, hshort, hwalk⟩, hfound⟩
      rw [get?_put_of_ne node (Ne.symm hne)]
      exact hfolder

/-- Whatever is put off the way to a file, the file reads the same. -/
theorem read_put {other : Place} {content : ByteArray} (node : Node)
    (hother : other ∉ placesOn (fs.start path) path.names) (h : fs.read path = .ok content) :
    (fs.put other node).read path = .ok content := by
  obtain ⟨place, hlocate, hnode⟩ := read_eq_ok.mp h
  obtain ⟨_, htext, hwalk⟩ := bind_eq_ok.mp hlocate
  obtain ⟨hput, hne⟩ := walk_put node hother hwalk
  refine read_eq_ok.mpr ⟨place, bind_eq_ok.mpr ⟨_, htext, hput⟩, ?_⟩
  rw [get?_put_of_ne node hne]
  exact hnode

/-- A file that is put where no folder stands is on no way, and opens none. -/
theorem walk_put_file (content : ByteArray) (hfree : fs.get? place ≠ some .folder)
    {from' found : Place} {names : List String} :
    (fs.put place (.file content)).walk from' names = .ok found ↔
      fs.walk from' names = .ok found := by
  -- A walk asks for nothing but folders, and these are the same.
  have hfolder : ∀ other, (fs.put place (.file content)).get? other = some .folder ↔
      fs.get? other = some .folder := by
    intro other
    by_cases hother : other = place
    · subst hother
      rw [get?_put_self _ (ne_nil_of_not_folder hfree)]
      exact ⟨nofun, fun h => absurd h hfree⟩
    · rw [get?_put_of_ne _ hother]
  induction names generalizing from' with
  | nil => exact Iff.rfl
  | cons name rest ih =>
      rw [walk_cons_eq_ok, walk_cons_eq_ok, hfolder]
      exact and_congr_right fun _ => and_congr_right fun _ => ih

/-- So it makes no difference to where a path leads. -/
theorem locate_put_file (content : ByteArray) (hfree : fs.get? place ≠ some .folder)
    {found : Place} :
    (fs.put place (.file content)).locate path = .ok found ↔ fs.locate path = .ok found := by
  unfold FileSystem.locate
  rw [bind_eq_ok, bind_eq_ok]
  exact exists_congr fun _ => and_congr_right fun _ => walk_put_file content hfree

/-- A file that is put elsewhere makes no file of a path, and takes none away. -/
theorem isFile_put_file (content : ByteArray) (hfree : fs.get? place ≠ some .folder)
    (hne : Path.resolve fs.workingDir path ≠ place) :
    (fs.put place (.file content)).isFile path = fs.isFile path := by
  rw [Bool.eq_iff_iff, isFile_iff_read, isFile_iff_read]
  refine exists_congr fun other => ?_
  rw [read_eq_ok, read_eq_ok]
  refine exists_congr fun found => ?_
  rw [locate_put_file content hfree]
  refine and_congr_right fun hlocate => ?_
  rw [get?_put_of_ne]
  rwa [locate_eq_resolve hlocate]

/-! ### Writing -/

/-- A path to which a file may be written can be followed, and no folder stands there. -/
theorem locate_of_locateForWrite (h : fs.locateForWrite path = .ok place) :
    fs.locate path = .ok place ∧ fs.get? place ≠ some .folder := by
  obtain ⟨_, htext, h⟩ := bind_eq_ok.mp h
  by_cases hlast : path.names.getLast? = some ""
  · -- The path ends in a separator: every way on from here is a refusal.
    obtain ⟨above, -, habove⟩ := bind_eq_ok.mp ((if_pos hlast).symm.trans h)
    obtain ⟨_, -, hrefused⟩ := bind_eq_ok.mp habove
    cases hrefused
  · obtain ⟨found, hwalk, hfound⟩ := bind_eq_ok.mp ((if_neg hlast).symm.trans h)
    have hlocate : fs.locate path = .ok found := bind_eq_ok.mpr ⟨_, htext, hwalk⟩
    cases hnode : fs.get? found with
    | none =>
        rw [hnode] at hfound
        cases hfound
        exact ⟨hlocate, by simp [hnode]⟩
    | some node =>
        rw [hnode] at hfound
        cases node with
        | file content =>
            cases hfound
            exact ⟨hlocate, by simp [hnode]⟩
        | folder => cases hfound

/-- Writing puts one file at the place of its path. -/
theorem eq_put_of_write {content : ByteArray} (h : fs.write path content = .ok after) :
    after = fs.put (Path.resolve fs.workingDir path) (.file content) ∧
      fs.locate path = .ok (Path.resolve fs.workingDir path) ∧
      fs.get? (Path.resolve fs.workingDir path) ≠ some .folder := by
  obtain ⟨place, hwrite, hput⟩ := bind_eq_ok.mp h
  cases hput
  obtain ⟨hlocate, hfolder⟩ := locate_of_locateForWrite hwrite
  obtain rfl := locate_eq_resolve hlocate
  exact ⟨rfl, hlocate, hfolder⟩

/-- A file that was written reads back as it was written, and nothing else is changed. -/
theorem write_spec {content : ByteArray} (h : fs.write path content = .ok after) :
    Grows (· = Path.resolve fs.workingDir path) fs after ∧ after.read path = .ok content := by
  obtain ⟨rfl, hlocate, hfolder⟩ := eq_put_of_write h
  have hgrows := grows_put_file content hfolder
  refine ⟨hgrows, read_eq_ok.mpr ⟨_, hgrows.locate hlocate, ?_⟩⟩
  exact get?_put_self (.file content) (ne_nil_of_not_folder hfolder)

/-- To copy a file is to write what is read, or nothing at all onto the file itself. -/
theorem write_of_copy {source target : Path} {size : Nat}
    (h : fs.copy source target = .ok (size, after)) :
    ∃ content, fs.read source = .ok content ∧
      fs.write target (if Path.resolve fs.workingDir target = Path.resolve fs.workingDir source
        then ByteArray.empty else content) = .ok after := by
  obtain ⟨sourcePlace, hsource, h⟩ := bind_eq_ok.mp h
  obtain rfl := locate_eq_resolve hsource
  cases hnode : fs.get? (Path.resolve fs.workingDir source) with
  | none =>
      rw [hnode] at h
      cases h
  | some node =>
      cases node with
      | folder =>
          rw [hnode] at h
          cases h
      | file content =>
          rw [hnode] at h
          obtain ⟨targetPlace, hwrite, h⟩ := bind_eq_ok.mp h
          obtain rfl := locate_eq_resolve (locate_of_locateForWrite hwrite).1
          refine ⟨content, read_eq_ok.mpr ⟨_, hsource, hnode⟩, bind_eq_ok.mpr ⟨_, hwrite, ?_⟩⟩
          -- A file that is copied to its own place is emptied before it is read.
          split at h
          next hsame =>
            cases h
            rw [if_pos hsame]
          next hsame =>
            cases h
            rw [if_neg hsame]

/-- Files that lie elsewhere are the same once one was written. -/
theorem sameFiles_of_write {content : ByteArray} {paths : List Path}
    (h : fs.write path content = .ok after)
    (helse : ∀ other ∈ paths, ∀ from', Path.resolve from' other ≠ Path.resolve from' path) :
    SameFiles paths fs after := by
  obtain ⟨rfl, -, -⟩ := eq_put_of_write h
  exact sameFiles_of_sameAt rfl fun other hother => sameAt_put _ (helse other hother _)

/-- Files that lie elsewhere are the same once one was copied. -/
theorem sameFiles_of_copy {source target : Path} {size : Nat} {paths : List Path}
    (h : fs.copy source target = .ok (size, after))
    (helse : ∀ other ∈ paths, ∀ from', Path.resolve from' other ≠ Path.resolve from' target) :
    SameFiles paths fs after := by
  obtain ⟨content, -, hwrite⟩ := write_of_copy h
  exact sameFiles_of_write hwrite helse

/-- What was copied lies at the target, unless it was copied onto itself. -/
theorem holds_target_of_copy {source target : Path} {size : Nat}
    (h : fs.copy source target = .ok (size, after)) :
    ∃ content, fs.read source = .ok content ∧
      Holds after target (if Path.resolve fs.workingDir target = Path.resolve fs.workingDir source
        then ByteArray.empty else content) := by
  obtain ⟨content, hread, hwrite⟩ := write_of_copy h
  obtain ⟨rfl, -, hfolder⟩ := eq_put_of_write hwrite
  exact ⟨content, hread, get?_put_self _ (ne_nil_of_not_folder hfolder)⟩

/-- What was copied from elsewhere lies at the target. -/
theorem holds_of_copy {source target : Path} {size : Nat}
    (h : fs.copy source target = .ok (size, after))
    (helse : Path.resolve fs.workingDir target ≠ Path.resolve fs.workingDir source) :
    ∃ content, fs.read source = .ok content ∧ Holds after target content := by
  obtain ⟨content, hread, hholds⟩ := holds_target_of_copy h
  rw [if_neg helse] at hholds
  exact ⟨content, hread, hholds⟩

end

end ReleasePipeline.Proofs
