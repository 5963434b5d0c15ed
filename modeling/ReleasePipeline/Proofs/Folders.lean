import Mathlib.Data.List.TakeWhile
import Mathlib.Order.Defs.Unbundled
import ReleasePipeline.Proofs.FileSystem

/-!
# `ReleasePipeline.Proofs.Folders`: what stays when folders are made

Making a directory makes folders one after the other, so it leads wherever making each of them
does (`createDirs_leads`), even if it is refused half way. Each comes to putting a folder where
nothing stands (`MadeFolders`): no place gets a file by it, and none loses one
(`grows_createDirs`).

They are the folders on the way to the directory, as far as they are missing. Their paths are put
together from the names of the directory that count, so every one of them leads to a place that
the path of the directory itself leads through (`resolve_of_mem_parents`). At any other place
everything is as before, and at these a folder may stand where nothing stood
(`keptBut_createDirs`).

A path may lead through a place and back again: to make `a/..` makes `a` as well.
-/

set_option autoImplicit false

namespace ReleasePipeline.Proofs

open FileSystem (checkText components ofComponents parents)
open ReleasePipeline.Path (enter resolve)

/-! ### Making folders -/

section
variable {fs before after : FileSystem} {path : Path} {place : Place}

/-- One file system comes from another by putting folders where nothing stands. -/
inductive MadeFolders (before : FileSystem) : FileSystem → Prop where
  | none : MadeFolders before before
  | more {middle place} (made : MadeFolders before middle) (free : middle.get? place = none) :
      MadeFolders before (middle.put place .folder)

/-- Folders that were made one after the other were all made. -/
theorem MadeFolders.trans {middle : FileSystem} (first : MadeFolders before middle)
    (second : MadeFolders middle after) : MadeFolders before after := by
  induction second with
  | none => exact first
  | more _ free ih => exact .more ih free

/-- Making folders changes no file and loses none, since each one comes to a free place. -/
theorem MadeFolders.grows (h : MadeFolders before after) :
    Grows (fun _ => False) before after := by
  induction h with
  | none => exact grows_refl _ before
  | more _ free ih => exact ih.trans (grows_put_folder free)

/-- Where a folder is put no file stood, and none stands afterwards. -/
theorem MadeFolders.sameAt (h : MadeFolders before after) (place : Place) :
    SameAt place before after := by
  induction h with
  | none => exact sameAt_refl place before
  | @more middle other _ free ih =>
      refine ih.trans ?_
      by_cases hother : place = other
      · subst hother
        intro content
        have hroot : place ≠ [] := by
          rintro rfl
          cases free
        rw [get?_put_self _ hroot, free]
        exact ⟨nofun, nofun⟩
      · exact sameAt_put _ hother

/-- So whatever the paths, they lead to the same files as before. -/
theorem MadeFolders.sameFiles (h : MadeFolders before after) (paths : List Path) :
    SameFiles paths before after :=
  sameFiles_of_sameAt h.grows.workingDir fun _ _ => h.sameAt _

instance isPreorder_madeFolders : IsPreorder FileSystem MadeFolders where
  refl _ := .none
  trans _ _ _ := MadeFolders.trans

/-- Empty names lead nowhere. -/
theorem foldl_enter_of_empty {names : List String} (h : ∀ name ∈ names, name = "") (place : Place) :
    names.foldl Path.enter place = place := by
  induction names with
  | nil => rfl
  | cons name rest ih =>
      obtain ⟨hname, hrest⟩ := List.forall_mem_cons.mp h
      rw [List.foldl_cons, hname, enter_empty]
      exact ih hrest

/-- So the ones at the end of a path can be left out. -/
theorem resolve_eq_foldl_trimNames (from' : Place) (path : Path) :
    Path.resolve from' path =
      (FileSystem.trimNames path).foldl Path.enter (if path.isAbsolute then [] else from') := by
  have hsplit : path.names =
      FileSystem.trimNames path ++ (path.names.reverse.takeWhile (· = "")).reverse := by
    unfold FileSystem.trimNames
    rw [← List.reverse_append, List.takeWhile_append_dropWhile, List.reverse_reverse]
  unfold Path.resolve
  conv_lhs => rw [hsplit]
  rw [List.foldl_append]
  refine foldl_enter_of_empty (fun name hname => ?_) _
  simpa using List.mem_takeWhile_imp (List.mem_reverse.mp hname)

/-- A folder is made where its path leads to, if nothing stands there. -/
theorem eq_put_of_makeFolder (h : fs.makeFolder path = .ok after) :
    fs.get? (Path.resolve fs.workingDir path) = none ∧
      after = fs.put (Path.resolve fs.workingDir path) .folder := by
  obtain ⟨_, -, h⟩ := bind_eq_ok.mp h
  obtain ⟨above, hwalk, h⟩ := bind_eq_ok.mp h
  obtain ⟨_, -, h⟩ := bind_eq_ok.mp h
  cases hlast : (FileSystem.trimNames path).getLast? with
  | none =>
      rw [hlast] at h
      cases h
  | some name =>
      rw [hlast] at h
      obtain ⟨hdots, h⟩ := ite_error_eq_ok.mp h
      obtain ⟨-, h⟩ := ite_error_eq_ok.mp h
      -- Empty names at the end were trimmed away.
      have hempty : name ≠ "" := by
        rintro rfl
        unfold FileSystem.trimNames at hlast
        rw [List.getLast?_reverse] at hlast
        have hhead :=
          List.head?_dropWhile_not (fun name : String => decide (name = "")) path.names.reverse
        rw [hlast] at hhead
        cases hhead
      -- So the last name is one that leads down, from where the names in front of it lead.
      have hplace : Path.resolve fs.workingDir path = above ++ [name] := by
        have hnames := List.dropLast_append_getLast? name hlast
        rw [resolve_eq_foldl_trimNames, ← hnames, List.foldl_append]
        rw [walk_eq_foldl hwalk]
        show Path.enter _ name = _
        unfold Path.enter
        rw [if_neg (not_or.mpr ⟨hempty, mt .inl hdots⟩), if_neg (mt .inr hdots)]
        rfl
      rw [hplace]
      cases hnode : fs.get? (above ++ [name]) with
      | some node =>
          rw [hnode] at h
          cases h
      | none =>
          rw [hnode] at h
          cases h
          exact ⟨rfl, rfl⟩

/-- Making one folder makes at most that one. -/
theorem madeFolders_makeFolder (h : fs.makeFolder path = .ok after) : MadeFolders fs after := by
  obtain ⟨hfree, rfl⟩ := eq_put_of_makeFolder h
  exact .more .none hfree

section
variable {R : FileSystem → FileSystem → Prop} [IsPreorder FileSystem R] {paths : List Path}

/-- A climb leads where making its folders does, and leaves some of them to be made. -/
theorem climb_leads
    (hmake : ∀ path ∈ paths, ∀ fs made, FileSystem.makeFolder fs path = .ok made → R fs made)
    {front missing still : List Path} (hpaths : ∀ path ∈ front ++ missing, path ∈ paths)
    (h : fs.climb missing front = .ok (after, still)) :
    R fs after ∧ ∀ path ∈ still, path ∈ paths := by
  induction front generalizing missing with
  | nil =>
      cases h
      exact ⟨refl_of R fs, hpaths⟩
  | cons path above ih =>
      have hmissing : ∀ path ∈ missing, path ∈ paths := fun other hother =>
        hpaths other (List.mem_append_right _ hother)
      have hpath : path ∈ paths := hpaths path (List.mem_append_left _ List.mem_cons_self)
      -- A climb ends where a folder can be made or stands already, and changes nothing before.
      unfold FileSystem.climb at h
      split at h
      next made hmade =>
        cases h
        exact ⟨hmake path hpath fs _ hmade, hmissing⟩
      next =>
        refine ih (fun other hother => ?_) h
        simp only [List.mem_append, List.mem_cons] at hother
        rcases hother with habove | rfl | hother
        · exact hpaths other (List.mem_append_left _ (List.mem_cons_of_mem _ habove))
        · exact hpath
        · exact hmissing other hother
      next =>
        by_cases hfolder : fs.isFolder path = true
        · cases (if_pos hfolder).symm.trans h
          exact ⟨refl_of R fs, hmissing⟩
        · cases (if_neg hfolder).symm.trans h
      next => cases h

/-- Making folders one after the other leads where making each of them does. -/
theorem makeAll_leads
    (hmake : ∀ path ∈ paths, ∀ fs made, FileSystem.makeFolder fs path = .ok made → R fs made)
    (fs : FileSystem) : R fs (fs.makeAll paths).2 := by
  induction paths generalizing fs with
  | nil => exact refl_of R fs
  | cons path rest ih =>
      obtain ⟨hone, hothers⟩ := List.forall_mem_cons.mp hmake
      -- Whatever the first folder comes to, what was made before it stays.
      unfold FileSystem.makeAll
      split
      next made hmade => exact trans_of R (hone fs made hmade) (ih hothers made)
      next =>
        split
        next => exact ih hothers fs
        next => exact refl_of R fs
      next => exact refl_of R fs

/-- Making a folder and the ones above it leads where making each of them does, whether it goes
well or not. -/
theorem createDirs_leads
    (hmake : ∀ other ∈ path :: FileSystem.parents path, ∀ fs made,
      FileSystem.makeFolder fs other = .ok made → R fs made) (fs : FileSystem) :
    R fs (fs.createDirs path).2 := by
  unfold FileSystem.createDirs
  split
  next => exact refl_of R fs
  next =>
    split
    next => exact refl_of R fs
    next made still hclimb =>
      obtain ⟨hmade, hstill⟩ := climb_leads hmake (fun other hother => by simpa using hother) hclimb
      exact trans_of R hmade
        (makeAll_leads (fun other hother => hmake other (hstill other hother)) made)

end

/-- Making a folder and the ones above it makes folders, whether it goes well or not. -/
theorem madeFolders_createDirs (fs : FileSystem) (path : Path) :
    MadeFolders fs (fs.createDirs path).2 :=
  createDirs_leads (fun _ _ _ _ => madeFolders_makeFolder) fs

/-- Making folders changes no file, and loses no folder, whether it goes well or not. -/
theorem grows_createDirs (fs : FileSystem) (path : Path) :
    Grows (fun _ => False) fs (fs.createDirs path).2 :=
  (madeFolders_createDirs fs path).grows

/-- A path is a folder when it is located and a folder is there. -/
theorem isFolder_eq_true_iff :
    fs.isFolder path = true ↔
      ∃ place, fs.locate path = .ok place ∧ fs.get? place = some .folder := by
  unfold FileSystem.isFolder
  cases fs.locate path with
  | error error => simp
  | ok place =>
      cases hnode : fs.get? place with
      | none => simp [hnode]
      | some node => cases node <;> simp [hnode]

/-- The text of a path is refused when it holds a null character, is empty or is too long. -/
theorem checkText_eq_ok :
    checkText path = .ok () ↔ '\x00' ∉ path.text.toList ∧ path.text ≠ "" ∧
      path.text.utf8ByteSize ≤ FileSystem.maxPath := by
  unfold checkText
  rw [ite_error_eq_ok, ite_error_eq_ok, ite_error_eq_ok]
  simp

/-- A path is not refused for its text if it is the beginning of one that is not. -/
theorem checkText_of_append {first second : String} (hfirst : first ≠ "")
    (h : checkText ⟨first ++ second⟩ = .ok ()) : checkText ⟨first⟩ = .ok () := by
  obtain ⟨hnul, -, hsize⟩ := checkText_eq_ok.mp h
  rw [String.toList_append, List.mem_append, not_or] at hnul
  rw [String.utf8ByteSize_append] at hsize
  exact checkText_eq_ok.mpr ⟨hnul.1, hfirst, Nat.le_trans (Nat.le_add_right _ _) hsize⟩

/-- Where a file can be read under a name joined to a path, that path leads to a folder. -/
theorem isFolder_of_read_join {base : Path} {name : String} {content : ByteArray}
    (hbase : base.text ≠ "") (hname : '/' ∉ name.toList)
    (h : fs.read (base.join name) = .ok content) :
    fs.isFolder base = true := by
  obtain ⟨text⟩ := base
  obtain ⟨hempty, -⟩ | ⟨-, front, htext, hjoin⟩ := join_cases (not_isAbsolute_of_name hname) ⟨text⟩
  · exact absurd hempty hbase
  · obtain ⟨place, hlocate, -⟩ := read_eq_ok.mp h
    obtain ⟨_, hchecked, hwalk⟩ := bind_eq_ok.mp hlocate
    rw [hjoin] at hchecked hwalk
    rw [names_append_slash, names_of_name hname] at hwalk
    obtain ⟨above, habove, hlast⟩ := walk_append_eq_ok.mp hwalk
    obtain ⟨hfolder, -, -⟩ := walk_cons_eq_ok.mp hlast
    -- The folder is checked, started from and walked to like the file in it, whether or not its own
    -- text ends in a separator.
    refine isFolder_eq_true_iff.mpr ⟨above, bind_eq_ok.mpr ⟨(), ?_, ?_⟩, hfolder⟩
    · obtain rfl | rfl : text = front ∨ text = front ++ "/" := htext
      · rw [String.append_assoc] at hchecked
        exact checkText_of_append hbase hchecked
      · exact checkText_of_append hbase hchecked
    · have hstart : fs.start ⟨front ++ "/" ++ name⟩ = fs.start ⟨text⟩ := by
        unfold FileSystem.start
        obtain rfl | rfl : text = front ∨ text = front ++ "/" := htext
        · rw [String.append_assoc, isAbsolute_append hbase]
        · rw [isAbsolute_append hbase]
      rw [hstart] at habove
      obtain rfl | rfl : text = front ∨ text = front ++ "/" := htext
      · exact habove
      · -- The empty name behind the separator leads nowhere.
        rw [names_append_empty]
        refine walk_append_eq_ok.mpr ⟨above, habove, walk_cons_eq_ok.mpr ⟨hfolder, by decide, ?_⟩⟩
        rw [enter_empty]
        rfl

/-- A folder that is there is not made again. -/
theorem createDirs_of_isFolder {init : List String} {name : String}
    (hnames : path.names = init ++ [name]) (hname : IsName name)
    (h : fs.isFolder path = true) : fs.createDirs path = (.ok (), fs) := by
  obtain ⟨place, hlocate, hfolder⟩ := isFolder_eq_true_iff.mp h
  obtain ⟨_, htext, hwalk⟩ := bind_eq_ok.mp hlocate
  rw [hnames] at hwalk
  obtain ⟨above, hinit, hlast⟩ := walk_append_eq_ok.mp hwalk
  obtain ⟨habove, hshort, hplace⟩ := walk_cons_eq_ok.mp hlast
  cases hplace
  rw [enter_of_isName hname] at hfolder
  have htrim : FileSystem.trimNames path = init ++ [name] := by
    unfold FileSystem.trimNames
    rw [hnames, List.reverse_append, List.reverse_singleton, List.singleton_append,
      List.dropWhile_cons_of_neg (by simpa using hname.notEmpty), List.reverse_cons,
      List.reverse_reverse]
  -- The folder cannot be made, as it is there. With that the climb is over.
  have hmade : fs.makeFolder path = .error .fileExists := by
    unfold FileSystem.makeFolder
    simp only [htext, htrim, List.dropLast_concat, List.getLast?_concat, hinit,
      checkFolder_eq_ok.mpr habove, hfolder, bind, Except.bind]
    rw [if_neg (not_or.mpr ⟨hname.notDot, hname.notDots⟩), if_neg hshort]
  unfold FileSystem.createDirs FileSystem.climb
  rw [hmade, if_pos h]
  exact ite_self _

end

/-! ### The places on a way -/

section
variable {names front : List String} {place other : Place}

/-- Every beginning of some names leads to a place on their way. -/
theorem foldl_mem_placesOn (h : front <+: names) (place : Place) :
    front.foldl enter place ∈ placesOn place names := by
  induction front generalizing names place with
  | nil => cases names <;> exact List.mem_cons_self
  | cons name rest ih =>
      obtain ⟨back, rfl⟩ := h
      exact List.mem_cons_of_mem _ (ih ⟨back, rfl⟩ _)

/-- Names that lead nowhere add no place to a way. -/
theorem mem_placesOn_of_filter {p : String → Bool}
    (hidle : ∀ name, p name = false → ∀ place, enter place name = place)
    (h : other ∈ placesOn place (names.filter p)) : other ∈ placesOn place names := by
  induction names generalizing place with
  | nil => exact h
  | cons name rest ih =>
      cases hname : p name with
      | false =>
          -- A name that is left out leads nowhere, so the way goes on from the same place.
          rw [List.filter_cons_of_neg (Bool.eq_false_iff.mp hname)] at h
          refine List.mem_cons_of_mem _ ?_
          rw [hidle name hname place]
          exact ih h
      | true =>
          rw [List.filter_cons_of_pos hname] at h
          exact (List.mem_cons.mp h).elim (fun heq => heq ▸ List.mem_cons_self)
            fun hrest => List.mem_cons_of_mem _ (ih hrest)

/-- The names of a path that count lead through places on its way. -/
theorem mem_placesOn_of_components {path : Path} (h : other ∈ placesOn place (components path)) :
    other ∈ placesOn place path.names := by
  have hempty : ∀ name, decide (name ≠ "") = false → ∀ place, enter place name = place := by
    intro name hname place
    rw [show name = "" by simpa using hname, enter_empty]
  have hdot : ∀ name, decide (name ≠ ".") = false → ∀ place, enter place name = place := by
    intro name hname place
    rw [show name = "." by simpa using hname]
    rfl
  refine mem_placesOn_of_filter hempty ?_
  unfold components at h
  cases hnames : path.names.filter (· ≠ "") with
  | nil =>
      rw [hnames] at h
      exact h
  | cons first rest =>
      simp only [hnames] at h
      split at h
      next hfirst =>
        -- A dot in front of an absolute path is left out, and leads nowhere.
        obtain ⟨rfl, -⟩ := hfirst
        exact List.mem_cons_of_mem _ (mem_placesOn_of_filter hdot h)
      next =>
        exact (List.mem_cons.mp h).elim (fun heq => heq ▸ List.mem_cons_self)
          fun hrest => List.mem_cons_of_mem _ (mem_placesOn_of_filter hdot hrest)

end

/-! ### The paths on a way -/

/-- There is no separator in a piece of a text. -/
theorem not_isSeparator_of_mem_pieces {isSeparator : Char → Bool} {text piece : List Char}
    (h : piece ∈ Text.pieces isSeparator text) : ∀ c ∈ piece, isSeparator c = false := by
  induction text generalizing piece with
  | nil =>
      rw [List.mem_singleton.mp h]
      exact List.forall_mem_nil _
  | cons c rest ih =>
      rw [Text.pieces] at h
      cases hc : isSeparator c with
      | true =>
          rw [if_pos hc] at h
          rcases List.mem_cons.mp h with rfl | hrest
          · exact List.forall_mem_nil _
          · exact ih hrest
      | false =>
          rw [if_neg (Bool.eq_false_iff.mp hc)] at h
          -- A character that separates nothing joins the first piece of the rest.
          cases hpieces : Text.pieces isSeparator rest with
          | nil =>
              rw [hpieces] at h
              rw [List.mem_singleton.mp h]
              exact List.forall_mem_singleton.mpr hc
          | cons first more =>
              rw [hpieces] at h ih
              rcases List.mem_cons.mp h with rfl | hmore
              · exact List.forall_mem_cons.mpr ⟨hc, ih List.mem_cons_self⟩
              · exact ih (List.mem_cons_of_mem _ hmore)

/-- There is something of each name, and no slash in it. -/
def ArePlain (names : List String) : Prop :=
  ∀ name ∈ names, name ≠ "" ∧ '/' ∉ name.toList

/-- The names of a path that count are some of its names. -/
theorem arePlain_components (path : Path) : ArePlain (components path) := by
  have hnames : ArePlain (path.names.filter (· ≠ "")) := by
    intro name hname
    obtain ⟨hmem, hsome⟩ := List.mem_filter.mp hname
    obtain ⟨piece, hpiece, rfl⟩ := List.mem_map.mp hmem
    refine ⟨by simpa using hsome, fun hslash => ?_⟩
    rw [String.toList_ofList] at hslash
    cases not_isSeparator_of_mem_pieces hpiece _ hslash
  unfold components
  -- Dots are dropped behind the first name only.
  cases hall : path.names.filter (· ≠ "") with
  | nil => exact List.forall_mem_nil _
  | cons first rest =>
      rw [hall] at hnames
      obtain ⟨hfirst, hrest⟩ := List.forall_mem_cons.mp hnames
      have hfew : ArePlain (rest.filter (· ≠ ".")) := fun name hname =>
        hrest name (List.mem_of_mem_filter hname)
      simp only
      split
      · exact hfew
      · exact List.forall_mem_cons.mpr ⟨hfirst, hfew⟩

/-- Some names, put together with slashes between them, are the names of a relative path. -/
theorem names_intercalate {first : String} {rest : List String} (h : ArePlain (first :: rest)) :
    (Path.mk (String.intercalate "/" (first :: rest))).names = first :: rest ∧
      (Path.mk (String.intercalate "/" (first :: rest))).isAbsolute = false := by
  induction rest generalizing first with
  | nil =>
      obtain ⟨-, hslash⟩ := h first List.mem_cons_self
      rw [String.intercalate_singleton]
      exact ⟨names_of_name hslash, not_isAbsolute_of_name hslash⟩
  | cons second rest ih =>
      obtain ⟨⟨hsome, hslash⟩, hrest⟩ := List.forall_mem_cons.mp h
      obtain ⟨hnames, -⟩ := ih hrest
      rw [String.intercalate_cons_cons]
      refine ⟨?_, ?_⟩
      · rw [names_append_slash, hnames, names_of_name hslash]
        rfl
      · rw [String.append_assoc, isAbsolute_append hsome]
        exact not_isAbsolute_of_name hslash

/-- The path of some names leads where the names do, from the root if it is absolute. -/
theorem resolve_ofComponents {names : List String} (h : ArePlain names) (absolute : Bool)
    (from' : Place) :
    resolve from' (ofComponents absolute names) =
      names.foldl enter (if absolute then [] else from') := by
  -- In front of the separator of the root stands an empty name, which leads nowhere.
  have hroot : ∀ text, resolve from' ⟨"/" ++ text⟩ = (Path.mk text).names.foldl enter [] := by
    intro text
    have habsolute : (Path.mk ("/" ++ text)).isAbsolute = true := by
      unfold Path.isAbsolute
      rw [String.toList_append]
      rfl
    have hnames : (Path.mk ("/" ++ text)).names = "" :: (Path.mk text).names := by
      rw [show "/" ++ text = "" ++ "/" ++ text by rw [String.empty_append], names_append_slash]
      rfl
    unfold resolve
    rw [habsolute, if_pos rfl, hnames]
    rfl
  unfold ofComponents
  cases names with
  | nil =>
      cases absolute with
      | true => exact hroot ""
      | false => rfl
  | cons first rest =>
      obtain ⟨hnames, hrelative⟩ := names_intercalate h
      cases absolute with
      | true => exact (hroot _).trans (by rw [hnames]; rfl)
      | false =>
          rw [if_neg Bool.false_ne_true, String.empty_append]
          unfold resolve
          rw [hnames, hrelative]

/-- The paths that lead to a path are made of the first ones of its names that count. -/
theorem eq_ofComponents_of_mem_parents {path other : Path} (h : other ∈ parents path) :
    ∃ front, front <+: components path ∧ other = ofComponents path.isAbsolute front := by
  -- The names that are left are kept in reverse. They spell a front of the components all the way
  -- up.
  have hgo : ∀ names rest : List String, names.reverse <+: components path →
      other ∈ parents.go path.isAbsolute names rest →
        ∃ front, front <+: components path ∧ other = ofComponents path.isAbsolute front := by
    intro names rest
    induction names generalizing rest with
    | nil =>
        intro _ hother
        cases rest with
        | nil => cases hother
        | cons _ _ =>
            rw [parents.go] at hother
            split at hother
            next habsolute =>
              refine ⟨[], List.nil_prefix, ?_⟩
              rw [List.mem_singleton.mp hother, habsolute]
            next => cases hother
    | cons name names ih =>
        intro hfront hother
        cases rest with
        | nil => cases hother
        | cons _ rest =>
            rw [parents.go] at hother
            rcases List.mem_cons.mp hother with rfl | hrest
            · exact ⟨_, hfront, rfl⟩
            · rw [List.reverse_cons] at hfront
              exact ih rest ((List.prefix_append _ _).trans hfront) hrest
  refine hgo _ _ ?_ h
  rw [List.reverse_reverse]
  exact List.dropLast_prefix _

/-- They all lead to places on the way of the path. -/
theorem resolve_of_mem_parents {path other : Path} (h : other ∈ path :: parents path)
    (from' : Place) :
    resolve from' other ∈ placesOn (if path.isAbsolute then [] else from') path.names := by
  rcases List.mem_cons.mp h with rfl | hparent
  · exact foldl_mem_placesOn (List.prefix_rfl) _
  · obtain ⟨front, hfront, rfl⟩ := eq_ofComponents_of_mem_parents hparent
    have hplain : ArePlain front := fun name hname =>
      arePlain_components path name (hfront.subset hname)
    rw [resolve_ofComponents hplain]
    exact mem_placesOn_of_components (foldl_mem_placesOn hfront _)

/-! ### What making folders changes -/

/-- At a place everything is as before, unless nothing stood there, it is one of some places, and
a folder stands there. -/
def KeptBut (way : List Place) (place : Place) (before after : FileSystem) : Prop :=
  after.get? place = before.get? place ∨
    place ∈ way ∧ before.get? place = none ∧ after.get? place = some .folder

section
variable {way : List Place} {place : Place} {before middle after : FileSystem}

/-- Two stretches that keep a place keep it together: a folder that the first one made is not made
again by the second. -/
theorem KeptBut.trans (first : KeptBut way place before middle)
    (second : KeptBut way place middle after) :
    KeptBut way place before after := by
  rcases first with hsame | ⟨hway, hnone, hfolder⟩
  · unfold KeptBut
    rw [← hsame]
    exact second
  · rcases second with hsame | ⟨-, hfree, -⟩
    · exact .inr ⟨hway, hnone, hsame.trans hfolder⟩
    · cases hfree.symm.trans hfolder

/-- No file comes to the place, and none is lost. -/
theorem KeptBut.sameAt (h : KeptBut way place before after) : SameAt place before after := by
  intro content
  rcases h with hsame | ⟨-, hnone, hfolder⟩
  · rw [hsame]
  · rw [hnone, hfolder]
    exact ⟨nofun, nofun⟩

end

/-- Making a directory keeps everything, but for the folders on the way to it that are missing. -/
theorem keptBut_createDirs (fs : FileSystem) (path : Path) (place : Place) :
    (fs.createDirs path).2.workingDir = fs.workingDir ∧
      KeptBut (placesOn (fs.start path) path.names) place fs (fs.createDirs path).2 := by
  -- The way depends on where the path starts, so the working directory is kept along with it.
  let R := fun before after : FileSystem => after.workingDir = before.workingDir ∧
    KeptBut (placesOn (before.start path) path.names) place before after
  have hpreorder : IsPreorder FileSystem R :=
    { refl := fun _ => ⟨rfl, .inl rfl⟩
      trans := fun before middle after first second => by
        have hstart : middle.start path = before.start path := by
          unfold FileSystem.start
          rw [first.1]
        obtain ⟨hdir, hkept⟩ := second
        rw [hstart] at hkept
        exact ⟨hdir.trans first.1, first.2.trans hkept⟩ }
  refine createDirs_leads (R := R) (fun other hother before made hmake => ?_) fs
  obtain ⟨hfree, rfl⟩ := eq_put_of_makeFolder hmake
  refine ⟨rfl, ?_⟩
  by_cases hplace : place = resolve before.workingDir other
  · subst hplace
    have hnot : before.get? (resolve before.workingDir other) ≠ some .folder := by
      rw [hfree]
      nofun
    have hmade : (before.put _ .folder).get? _ = _ :=
      get?_put_self .folder (ne_nil_of_not_folder hnot)
    exact .inr ⟨resolve_of_mem_parents hother before.workingDir, hfree, hmade⟩
  · exact .inl (get?_put_of_ne _ hplace)

end ReleasePipeline.Proofs
