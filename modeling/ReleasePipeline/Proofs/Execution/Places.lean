import ReleasePipeline.Execution
import ReleasePipeline.Proofs.Outputs

/-!
# `ReleasePipeline.Proofs.Execution.Places`: which files the steps of a plan work on

A command runs in the source directory, and the paths that are handed to it are followed from
there. A copy is made by the pipeline itself, and its paths are followed from where that runs. The
plan names the program by one and the same path in both of them, so the path leads to two places
as soon as it matters where it is followed from. `program_places` says which places these are, and
for which source directories they are one place.

What a relative path comes to is its `Route`: so many folders up, and then some names down. To
follow a route twice is to follow it once if as many names lead down as folders lead up, or if the
root stops the way up.
-/

set_option autoImplicit false

namespace ReleasePipeline.Proofs

open Execution (invocation)
open ReleasePipeline.Path (enter resolve)

/-! ### Routes -/

/-- What is left of some names when those that take each other back are gone: folders to go up,
and then names to go down. -/
structure Route where
  ups : Nat
  downs : List String
  deriving DecidableEq, Repr

namespace Route

/-- A route with one name behind it. -/
def enter (route : Route) (name : String) : Route :=
  if name = "" ∨ name = "." then route
  else if name = ".." then
    if route.downs = [] then { route with ups := route.ups + 1 }
    else { route with downs := route.downs.dropLast }
  else { route with downs := route.downs ++ [name] }

/-- The route of a path. -/
def ofPath (path : Path) : Route :=
  path.names.foldl enter ⟨0, []⟩

/-- Where a route leads to. No way leads up from the root. -/
def follow (route : Route) (place : Place) : Place :=
  place.take (place.length - route.ups) ++ route.downs

/-- A name behind a route is followed from where the route leads to. -/
theorem follow_enter (route : Route) (name : String) (place : Place) :
    (route.enter name).follow place = Path.enter (route.follow place) name := by
  obtain ⟨ups, downs⟩ := route
  unfold enter Path.enter follow
  split
  · rfl
  · split
    · cases downs with
      | nil =>
          -- There is no name to take back, so the way leads up from where it starts.
          rw [if_pos rfl, List.append_nil, List.append_nil, List.dropLast_eq_take, List.take_take,
            List.length_take]
          congr 1
          dsimp only
          omega
      | cons first rest =>
          rw [if_neg (List.cons_ne_nil first rest),
            List.dropLast_append_of_ne_nil (List.cons_ne_nil first rest)]
    · exact (List.append_assoc _ _ _).symm

/-- A relative path leads where its route does. -/
theorem resolve_eq_follow {path : Path} (h : path.isAbsolute = false) (place : Place) :
    resolve place path = (ofPath path).follow place := by
  -- For any route that was taken so far, since it changes with each name.
  have hfold : ∀ (names : List String) (route : Route),
      names.foldl Path.enter (route.follow place) = (names.foldl enter route).follow place := by
    intro names
    induction names with
    | nil => exact fun route => rfl
    | cons name rest ih =>
        intro route
        rw [List.foldl_cons, List.foldl_cons, ← follow_enter]
        exact ih (route.enter name)
  have hstart : (Route.mk 0 []).follow place = place := by
    unfold follow
    rw [Nat.sub_zero, List.take_length, List.append_nil]
  unfold resolve
  rw [h, if_neg Bool.false_ne_true]
  conv_lhs => rw [← hstart]
  exact hfold path.names ⟨0, []⟩

/-- Following a route for a second time leads nowhere else if it takes back as much as it adds, or
if it only leads to and fro below the root. -/
theorem follow_follow_iff (route : Route) (place : Place) :
    route.follow (route.follow place) = route.follow place ↔
      route.downs.length = route.ups ∨
        place.length ≤ route.ups ∧ route.downs.length ≤ route.ups := by
  obtain ⟨ups, downs⟩ := route
  unfold follow
  dsimp only
  rw [List.append_left_inj, List.length_append, List.length_take]
  -- Both ways end on the same names, so what counts is how much of the place they keep in front.
  constructor
  · intro heq
    have hlength := congrArg List.length heq
    simp only [List.length_take, List.length_append] at hlength
    omega
  · intro h
    have hlength : min (place.length - ups) place.length + downs.length - ups =
        (place.take (place.length - ups)).length := by
      rw [List.length_take]
      omega
    rw [hlength, List.take_left]

end Route

/-! ### The places of the program -/

/-- Where the build leaves the program below a folder. -/
def programBelow (config : Config) (tree : Place) : Place :=
  resolve tree ⟨"target/release/" ++ config.binaryName⟩

section
variable {config : Config}

/-- The name of the program is entered two folders below a tree. It is one name, but may still be
one that climbs. -/
theorem programBelow_eq (hname : '/' ∉ config.binaryName.toList) (tree : Place) :
    programBelow config tree = enter (tree ++ ["target"] ++ ["release"]) config.binaryName := by
  have htarget : (Path.mk "target").names = ["target"] := names_of_name (by decide)
  have hrelease : (Path.mk "release").names = ["release"] := names_of_name (by decide)
  have htext : "target/release/" ++ config.binaryName =
      "target" ++ "/" ++ ("release" ++ "/" ++ config.binaryName) := by
    rw [← String.append_assoc, ← String.append_assoc]
    rfl
  have hnames : (Path.mk ("target/release/" ++ config.binaryName)).names =
      ["target", "release", config.binaryName] := by
    rw [htext, names_append_slash, names_append_slash, names_of_name hname, htarget, hrelease]
    rfl
  have habsolute : (Path.mk ("target/release/" ++ config.binaryName)).isAbsolute = false :=
    isAbsolute_append (by decide) _
  have hplain : ∀ place : Place, ["target", "release"].foldl enter place =
      place ++ ["target"] ++ ["release"] := by
    intro place
    simp [enter]
  unfold programBelow resolve
  rw [habsolute, if_neg Bool.false_ne_true, hnames]
  show enter (["target", "release"].foldl enter tree) config.binaryName = _
  rw [hplain]

/-- The path of the program that the plan names leads below the source directory. -/
theorem resolve_buildOutput_eq_programBelow (hname : '/' ∉ config.binaryName.toList)
    (place : Place) :
    resolve place config.buildOutput = programBelow config (resolve place config.sourceDir) := by
  rw [resolve_buildOutput hname, programBelow_eq hname]

/-- Below another folder the program is another file, even where its name takes back the name of a
folder. -/
theorem programBelow_inj (hname : '/' ∉ config.binaryName.toList) {tree other : Place} :
    programBelow config tree = programBelow config other ↔ tree = other := by
  have hsplit : ∃ behind, ∀ place : Place,
      enter (place ++ ["target"] ++ ["release"]) config.binaryName = place ++ behind := by
    unfold enter
    split
    · exact ⟨_, fun place => List.append_assoc _ _ _⟩
    · split
      · exact ⟨["target"], fun place => List.dropLast_concat⟩
      · refine ⟨["target"] ++ ["release"] ++ [config.binaryName], fun place => ?_⟩
        simp only [List.append_assoc]
  obtain ⟨behind, hbehind⟩ := hsplit
  rw [programBelow_eq hname, programBelow_eq hname, hbehind, hbehind, List.append_left_inj]

/-- The place of the program as a step has to do with it, for a pipeline that runs in a folder:
where the build leaves it, where a tool is told to find it, and where it is copied from. -/
def workPlace (config : Config) (here : Place) (step : PlannedStep) : Option Place :=
  match step.kind, step.action with
  | .build, .run command =>
      some (programBelow config (resolve here (invocation config command).cwd))
  | .strip, .run command | .compress, .run command =>
      command.args.getLast?.map fun arg =>
        resolve (resolve here (invocation config command).cwd) ⟨arg⟩
  | .collect, .copy source _ => some (resolve here source)
  | _, _ => none

/-- The program is built and copied below the source directory. It is stripped and compressed
below the folder that the path of the source directory leads to from there. The two are one place
if the path is absolute, or if its route takes back as much as it adds, or leads to and fro below
the root. -/
theorem program_places (hvalid : config.validate = .ok ()) (variant : Variant) (here : Place) :
    let tree := resolve here config.sourceDir
    let built := programBelow config tree
    let worked := programBelow config (resolve tree config.sourceDir)
    let route := Route.ofPath config.sourceDir
    (Plan.ofVariant config variant).filterMap (workPlace config here) =
      [built, worked, worked, built] ∧
    (worked = built ↔
      config.sourceDir.isAbsolute = true ∨ route.downs.length = route.ups ∨
        here.length ≤ route.ups ∧ route.downs.length ≤ route.ups) := by
  intro tree built worked route
  have hname := (validate_eq_ok.mp hvalid).noSlash
  have hplan : (Plan.ofVariant config variant).filterMap (workPlace config here) =
      [built, resolve tree config.buildOutput, resolve tree config.buildOutput,
        resolve here config.buildOutput] := rfl
  constructor
  · rw [hplan, resolve_buildOutput_eq_programBelow hname, resolve_buildOutput_eq_programBelow hname]
  · rw [programBelow_inj hname]
    cases habsolute : config.sourceDir.isAbsolute with
    | true =>
        -- An absolute path leads to the same place from everywhere.
        have hsame : resolve tree config.sourceDir = tree := by
          show resolve tree config.sourceDir = resolve here config.sourceDir
          unfold resolve
          rw [habsolute, if_pos rfl, if_pos rfl]
        exact ⟨fun _ => .inl rfl, fun _ => hsame⟩
    | false =>
        rw [or_iff_right Bool.false_ne_true, ← Route.follow_follow_iff,
          Route.resolve_eq_follow habsolute]
        show route.follow tree = tree ↔ _
        rw [show tree = route.follow here from Route.resolve_eq_follow habsolute here]

/-- A source directory below the folder that the pipeline runs in sends the tools too far down. -/
theorem program_places_below :
    let config := { Config.ofBinary "seeker" with sourceDir := ⟨"proj"⟩ }
    config.validate = .ok () ∧
    (Plan.ofVariant config .osx).filterMap (workPlace config ["home"]) =
      [["home", "proj", "target", "release", "seeker"],
        ["home", "proj", "proj", "target", "release", "seeker"],
        ["home", "proj", "proj", "target", "release", "seeker"],
        ["home", "proj", "target", "release", "seeker"]] := by
  intro config
  have hvalid : config.validate = .ok () := by decide +kernel
  have hbuilt : programBelow config (resolve ["home"] config.sourceDir) =
      ["home", "proj", "target", "release", "seeker"] := by decide +kernel
  have hworked :
      programBelow config (resolve (resolve ["home"] config.sourceDir) config.sourceDir) =
        ["home", "proj", "proj", "target", "release", "seeker"] := by decide +kernel
  refine ⟨hvalid, (program_places hvalid .osx ["home"]).1.trans ?_⟩
  rw [hbuilt, hworked]

/-- A sibling of the folder is not: the way up and the way down are of one length. -/
example : Route.ofPath ⟨"../other"⟩ = ⟨1, ["other"]⟩ := by decide +kernel

end
end ReleasePipeline.Proofs
