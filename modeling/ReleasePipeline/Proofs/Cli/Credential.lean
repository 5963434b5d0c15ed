import ReleasePipeline.Proofs.Cli.DryRun
import ReleasePipeline.Proofs.Hosting.Credential
import ReleasePipeline.Proofs.Pipeline.Raced
import ReleasePipeline.Proofs.Support.Dialogue

/-!
# `ReleasePipeline.Proofs.Cli.Credential`: a credential makes no difference but to its header

Two sets of variables that hold different credentials, and are the same apart from that, lead to
configurations that are the same apart from that (`loadConfig_bearing`). Of a configuration
everything but the publisher is made without a look at the credential, and the publisher is made
of a client. So a command does what it does with the other credential and a transport that
exchanges the credential of each request (`runCommand_bearing`).

All of this is so in every monad. In that of dialogues it says that the whole dialogue of a
command is the same, where requests are shown without their credential. For tasks that take turns
`racedRun` is the run in place of `Pipeline.run`, which is the one without any turns
(`racedRun_nil`).
-/

set_option autoImplicit false

namespace ReleasePipeline.Proofs

open Cli (CliCommand CommandError RunArgs PushArgs checkSelection loadConfig publisher?
  publishReports readArguments readConfig runCommand runVariants selectVariants)
open Execution (execute runStep runSteps)
open Pipeline (selectedVariants)

/-! ### Variables that differ in the credential -/

/-- The name of the variable that holds the credential. -/
def credentialVariable : String := "GITHUB_TOKEN"

/-- Variables that hold the same, apart from a credential that each of them has. -/
structure DifferInCredential (env other : String → Option String) (secret otherSecret : Secret) :
    Prop where
  same : ∀ name, name ≠ credentialVariable → env name = other name
  held : env credentialVariable = some secret.exposed
  otherHeld : other credentialVariable = some otherSecret.exposed
  notBlank : Text.isBlankText secret.exposed = false
  otherNotBlank : Text.isBlankText otherSecret.exposed = false
  sendable : Http.isHeaderText secret.exposed = true
  otherSendable : Http.isHeaderText otherSecret.exposed = true

/-- A configuration with another credential. -/
def configBearing (secret : Secret) (config : Config) : Config :=
  { config with credential := some secret }

section
variable {env other : String → Option String} {secret otherSecret : Secret}
  (h : DifferInCredential env other secret otherSecret)
include h

/-- The arguments are read the same, since the credential is never told by them. -/
theorem readArguments_eq (args : List String) :
    readArguments env args = readArguments other args := by
  have hbranch := h.same "PIPELINE_BRANCH" (by decide)
  have htag := h.same "PIPELINE_TAG" (by decide)
  have hcommit := h.same "PIPELINE_COMMIT" (by decide)
  have hread : Cli.readCommand env = Cli.readCommand other := by
    funext name args
    simp only [Cli.readCommand, Cli.toldPush, Cli.toldCommit, Cli.told, Cli.told?, hbranch, htag,
      hcommit]
  unfold readArguments
  rw [hread]

/-- Every other variable is set in both environments or in neither, to the same value. -/
theorem setting_eq {name : String} (hname : name ≠ credentialVariable) :
    Config.setting env name = Config.setting other name := by
  unfold Config.setting
  rw [h.same name hname]

/-- The toggles are none of them the credential. -/
theorem setToggles_eq (link : Bindings) :
    Config.setToggles env Config.staticLinkToggles link =
      Config.setToggles other Config.staticLinkToggles link := by
  have hopenssl := setting_eq h (show "OPENSSL_STATIC" ≠ credentialVariable by decide)
  have hsodium := setting_eq h (show "SODIUM_STATIC" ≠ credentialVariable by decide)
  have hbuild := setting_eq h (show "SODIUM_BUILD_STATIC" ≠ credentialVariable by decide)
  simp only [Config.setToggles, Config.staticLinkToggles, List.foldl_cons, List.foldl_nil, hopenssl,
    hsodium, hbuild]

/-- The configurations that the variables describe differ in the credential. -/
theorem ofEnvironment_bearing :
    Config.ofEnvironment env = (Config.ofEnvironment other).map (configBearing secret) := by
  have hname := setting_eq h (show "BINARY_NAME" ≠ credentialVariable by decide)
  have hdns := setting_eq h (show Config.resolverVariable ≠ credentialVariable by decide)
  have hbranch := setting_eq h (show "RELEASE_BRANCH" ≠ credentialVariable by decide)
  have hrepository := setting_eq h (show "RELEASE_REPOSITORY" ≠ credentialVariable by decide)
  have hurl := setting_eq h (show "RELEASE_API_URL" ≠ credentialVariable by decide)
  have hsource := setting_eq h (show "SOURCE_DIR" ≠ credentialVariable by decide)
  have hartifacts := setting_eq h (show "ARTIFACT_DIR" ≠ credentialVariable by decide)
  have htimeout := setting_eq h (show "STEP_TIMEOUT" ≠ credentialVariable by decide)
  have hcredential : Config.setting env "GITHUB_TOKEN" = some secret.exposed := by
    unfold Config.setting
    rw [show env "GITHUB_TOKEN" = some secret.exposed from h.held]
    simp [h.notBlank]
  unfold Config.ofEnvironment
  rw [hname]
  -- Without a name, or with a time limit that is none, there is no configuration on either side.
  cases Config.setting other "BINARY_NAME" with
  | none => rfl
  | some name =>
      simp only [hdns, hbranch, hrepository, hurl, hsource, hartifacts, htimeout, hcredential,
        setToggles_eq h]
      cases Config.setting other "STEP_TIMEOUT" with
      | none => rfl
      | some value =>
          show (Config.readTimeout value >>= fun _ => _) =
            Except.map _ (Config.readTimeout value >>= fun _ => _)
          cases Config.readTimeout value <;> rfl

/-- Neither do they if they can be worked with. -/
theorem loadConfig_bearing :
    loadConfig env = (loadConfig other).map (configBearing secret) := by
  unfold loadConfig readConfig
  rw [ofEnvironment_bearing h]
  cases Config.ofEnvironment other with
  | error error => rfl
  | ok config =>
      show (config.validate.mapError CommandError.config >>= fun _ => _) =
        Except.map _ (config.validate.mapError CommandError.config >>= fun _ => _)
      cases config.validate <;> rfl

/-- Nor do they if they are only read. -/
theorem readConfig_bearing :
    readConfig env = (readConfig other).map (configBearing secret) := by
  unfold readConfig
  rw [ofEnvironment_bearing h]
  cases Config.ofEnvironment other <;> rfl

/-- The second environment does not differ from itself, so that what is proved of the two can be
used at one of them. -/
theorem DifferInCredential.refl_other : DifferInCredential other other otherSecret otherSecret where
  same _ _ := rfl
  held := h.otherHeld
  otherHeld := h.otherHeld
  notBlank := h.otherNotBlank
  otherNotBlank := h.otherNotBlank
  sendable := h.otherSendable
  otherSendable := h.otherSendable

/-- The credential of a configuration is the one that the variables hold. -/
theorem credential_of_loadConfig {config : Config} (hload : loadConfig other = .ok config) :
    config.credential = some otherSecret := by
  have hbearing := loadConfig_bearing h.refl_other
  rw [hload] at hbearing
  rw [Except.ok.inj hbearing]
  rfl

end

/-! ### What a configuration leads to -/

section
variable {m : Type → Type} [Monad m] (site : Site m) (secret : Secret) (config : Config)

/-- Variants are selected in the same way. -/
theorem selectVariants_bearing (only : List String) :
    selectVariants (configBearing secret config) only =
      (selectVariants config only).map (configBearing secret) := by
  unfold selectVariants
  cases only with
  | nil => rfl
  | cons os rest =>
      show (checkSelection config (os :: rest) >>= fun _ => _) =
        Except.map _ (checkSelection config (os :: rest) >>= fun _ => _)
      cases checkSelection config (os :: rest) <;> rfl

/-- A step is carried out the same. -/
theorem runStep_bearing (step : PlannedStep) :
    runStep site (configBearing secret config) step = runStep site config step := by
  unfold runStep
  cases step.action <;> rfl

/-- All steps of a plan are carried out the same. -/
theorem runSteps_bearing (steps : List PlannedStep) (progress : Progress) :
    runSteps site (configBearing secret config) steps progress =
      runSteps site config steps progress := by
  induction steps generalizing progress with
  | nil => rfl
  | cons step rest ih =>
      unfold runSteps
      simp only [runStep_bearing, ih]

/-- The run of a variant is the same. -/
theorem execute_bearing : execute site (configBearing secret config) = execute site config := by
  funext variant
  unfold execute
  simp only [runSteps_bearing]
  rfl

/-- So is each step of it that a lane takes. -/
theorem move_bearing (lane : Lane) (variant : Variant) :
    lane.move site (configBearing secret config) variant = lane.move site config variant := by
  cases lane with
  | waiting => rfl
  | ended result => rfl
  | underway progress results next behind =>
      unfold Lane.move
      simp only [runStep_bearing]
      rfl

/-- What is left of a lane is run the same. -/
theorem rest_bearing (lane : Lane) (variant : Variant) :
    lane.rest site (configBearing secret config) variant = lane.rest site config variant := by
  cases lane with
  | waiting =>
      unfold Lane.rest
      rw [execute_bearing]
  | ended result => rfl
  | underway progress results next behind =>
      unfold Lane.rest
      simp only [runSteps_bearing]
      rfl

/-- So the turns of any schedule are the same with another credential. -/
theorem takeTurns_bearing (schedule : List Variant) (lanes : Variant → Lane) :
    Lane.takeTurns site (configBearing secret config) schedule lanes =
      Lane.takeTurns site config schedule lanes := by
  induction schedule generalizing lanes with
  | nil => rfl
  | cons variant rest ih =>
      unfold Lane.takeTurns
      simp only [move_bearing, ih]

/-- A pipeline runs the same if its tasks do. -/
theorem run_bearing (pipeline : Pipeline m) {task otherTask : Config → Variant → m TaskEnd}
    (htask : ∀ config, task (configBearing secret config) = otherTask config) (trigger : Trigger) :
    ({ pipeline with config := configBearing secret pipeline.config } : Pipeline m).run site
      task trigger = pipeline.run site otherTask trigger := by
  let selected := selectedVariants pipeline.config pipeline.selection
  have hselected : task { configBearing secret pipeline.config with variants := selected } =
      otherTask { pipeline.config with variants := selected } :=
    htask { pipeline.config with variants := selected }
  unfold Pipeline.run
  -- Only the tasks are given a configuration as a whole.
  show (if _ then (if _ then _ else runAll (task { configBearing secret pipeline.config with
    variants := selected }) _ _ _ >>= _) else _) = _
  rw [hselected]
  rfl

end

section
variable {m : Type → Type} [Monad m] (site : Site m) (transport : Http.Transport m)
  {secret held : Secret} {config : Config} (hheld : config.credential = some held)
  (hheader : Http.isHeaderText secret.exposed = true)
  (hother : Http.isHeaderText held.exposed = true)
include hheld hheader hother

/-- Publishing is the same, but for a transport that exchanges the credential. -/
theorem publisher?_bearing :
    publisher? site transport (configBearing secret config) =
      publisher? site (transportBearing secret transport) config := by
  -- Whether there is a publisher is told by the repository, since there is a credential on both
  -- sides.
  unfold publisher? Config.validateForPublish configBearing
  rw [hheld]
  cases config.releaseRepository with
  | none => rfl
  | some repository =>
      cases hvalid : Config.isRepository repository with
      | false => simp [hvalid]
      | true =>
          have hhost := @host_bearing m _ transport
            (ReleaseClient.connect config.releaseApiUrl repository held) secret hheader hother
          simp only [hvalid, if_true, ← hhost]
          rfl

/-- The pipeline of a command is the same, but for its configuration and for such a transport. -/
theorem commandPipeline_bearing (args : RunArgs) :
    commandPipeline site transport (configBearing secret config) args =
      { commandPipeline site (transportBearing secret transport) config args with
        config := configBearing secret config } := by
  unfold commandPipeline
  rw [publisher?_bearing site transport hheld hheader hother]

/-- Running variants is the same. -/
theorem runVariants_bearing (color : Bool) (args : RunArgs) :
    runVariants site transport color (configBearing secret config) args =
      runVariants site (transportBearing secret transport) color config args := by
  show (commandPipeline site transport (configBearing secret config) args).run site _ _ >>= _ = _
  rw [commandPipeline_bearing site transport hheld hheader hother args]
  exact congrArg (· >>= _) (run_bearing site secret
    (commandPipeline site (transportBearing secret transport) config args)
    (execute_bearing site secret) args.push.trigger)

/-- So is publishing what earlier runs left behind. -/
theorem publishReports_bearing (color : Bool) (push : PushArgs) (json : Bool) :
    publishReports site transport color (configBearing secret config) push json =
      publishReports site (transportBearing secret transport) color config push json := by
  unfold publishReports
  rw [publisher?_bearing site transport hheld hheader hother]
  rfl

end

/-! ### Tasks that take turns -/

section
variable {m : Type → Type} [Monad m] (site : Site m)

/-- A run whose tasks take turns is the same as well. -/
theorem racedRun_bearing (secret : Secret) (pipeline : Pipeline m) (trigger : Trigger)
    (schedule : List Variant) :
    racedRun site { pipeline with config := configBearing secret pipeline.config }
      trigger schedule =
      racedRun site pipeline trigger schedule := by
  let selected := selectedVariants pipeline.config pipeline.selection
  have hturns := takeTurns_bearing site secret { pipeline.config with variants := selected }
    (countedTurns pipeline trigger schedule) fun _ => .waiting
  have hrun : ∀ lanes : Variant → Lane,
      ({ pipeline with config := configBearing secret pipeline.config } : Pipeline m).run site
          (fun config variant => (lanes variant).rest site config variant) trigger =
        pipeline.run site
          (fun config variant => (lanes variant).rest site config variant) trigger :=
    fun lanes => run_bearing site secret pipeline
      (fun config => funext fun variant => rest_bearing site secret config _ variant) trigger
  unfold racedRun
  simp only [hrun]
  exact congrArg (· >>= _) hturns

end

/-! ### What a command leads to -/

section
variable {env other : String → Option String} {secret otherSecret : Secret}
  (h : DifferInCredential env other secret otherSecret)
include h

/-- The dry run is the same, what it prints and how it ends. -/
theorem showPlan_eq (color : Bool) (only : List String) (json : Bool) :
    Cli.showPlan env color only json = Cli.showPlan other color only json := by
  unfold Cli.showPlan
  rw [loadConfig_bearing h]
  cases loadConfig other with
  | error error => rfl
  | ok config =>
      show (selectVariants (configBearing secret config) only >>= _) =
        (selectVariants config only >>= _)
      rw [selectVariants_bearing]
      cases selectVariants config only <;> rfl

/-- In every monad, a command does what it does with another credential and a transport that
exchanges the credential of each request. -/
theorem runCommand_bearing {m : Type → Type} [Monad m] (site : Site m)
    (transport : Http.Transport m) (color : Bool) (command : CliCommand) :
    runCommand site transport env color command =
      runCommand site (transportBearing secret transport) other color command := by
  cases command with
  | plan only json => simp only [runCommand, showPlan_eq h]
  | releaseName commit json =>
      simp only [runCommand, readConfig_bearing h]
      cases readConfig other <;> rfl
  | publish push json =>
      simp only [runCommand, loadConfig_bearing h]
      cases hload : loadConfig other with
      | error error => rfl
      | ok config =>
          -- Only here and in a run is the credential used, and both transports send the same with
          -- it.
          show (publishReports site transport color (configBearing secret config) push json
              >>= _) = _
          rw [publishReports_bearing site transport (credential_of_loadConfig h hload) h.sendable
            h.otherSendable]
  | run args =>
      cases hload : loadConfig other with
      | error error =>
          simp only [runCommand, loadConfig_bearing h, hload]
          rfl
      | ok config =>
          have hbearing : loadConfig env = .ok (configBearing secret config) := by
            rw [loadConfig_bearing h, hload]
            rfl
          rw [runCommand_run site transport color hbearing, runCommand_run site _ color hload,
            runVariants_bearing site transport (credential_of_loadConfig h hload) h.sendable
              h.otherSendable]
          rfl

/-- So does a run whose tasks take turns. -/
theorem racedRun_command_bearing {m : Type → Type} [Monad m] (site : Site m)
    (transport : Http.Transport m) {config otherConfig : Config}
    (hload : loadConfig env = .ok config) (hother : loadConfig other = .ok otherConfig)
    (args : RunArgs) (schedule : List Variant) :
    racedRun site (commandPipeline site transport config args) args.push.trigger schedule =
      racedRun site (commandPipeline site (transportBearing secret transport) otherConfig args)
        args.push.trigger schedule := by
  have hconfig : config = configBearing secret otherConfig := by
    rw [loadConfig_bearing h, hother] at hload
    exact (Except.ok.inj hload).symm
  rw [hconfig, commandPipeline_bearing site transport (credential_of_loadConfig h hother) h.sendable
    h.otherSendable]
  exact racedRun_bearing site secret
    (commandPipeline site (transportBearing secret transport) otherConfig args) _ schedule

end

/-! ### Two credentials -/

section
variable {m : Type → Type} [Monad m]

/-- A transport that comes to the same with either credential. -/
def SendsAlike (transport : Http.Transport m) (secret otherSecret : Secret) : Prop :=
  ∀ request, transport.send (requestBearing secret request) =
    transport.send (requestBearing otherSecret request)

/-- What is done with one set of variables is done with the other one. -/
structure ActsAlike (site : Site m) (transport : Http.Transport m)
    (env other : String → Option String) : Prop where
  command : ∀ color command,
    runCommand site transport env color command = runCommand site transport other color command
  /-- It is so for a run whose tasks take turns. -/
  raced : ∀ config otherConfig, loadConfig env = .ok config → loadConfig other = .ok otherConfig →
    ∀ args schedule,
      racedRun site (commandPipeline site transport config args) args.push.trigger schedule =
        racedRun site (commandPipeline site transport otherConfig args) args.push.trigger schedule

/-- A transport that comes to the same with either credential leaves no difference. -/
theorem SendsAlike.actsAlike {transport : Http.Transport m} {env other : String → Option String}
    {secret otherSecret : Secret} (halike : SendsAlike transport secret otherSecret)
    (h : DifferInCredential env other secret otherSecret) (site : Site m) :
    ActsAlike site transport env other := by
  have htransport : transportBearing secret transport = transportBearing otherSecret transport :=
    congrArg Http.Transport.mk (funext halike)
  -- Both come to the same as the other variables with a transport that exchanges credentials,
  -- since these differ from themselves in no more than a credential.
  refine ⟨?_, ?_⟩
  · intro color command
    rw [runCommand_bearing h, htransport, ← runCommand_bearing h.refl_other]
  · intro config otherConfig hload hother args schedule
    rw [racedRun_command_bearing h site transport hload hother, htransport,
      ← racedRun_command_bearing h.refl_other site transport hother hother]

/-- A transport in a dialogue, where requests are shown without their credential. -/
def discreetTransport : Http.Transport Dialogue :=
  Dialogue.transport withoutCredential

/-- A transport that answers without looking at a header sends alike. -/
theorem sendsAlike_discreet (secret otherSecret : Secret) :
    SendsAlike discreetTransport secret otherSecret := by
  intro request
  have hshown : withoutCredential (requestBearing secret request) =
      withoutCredential (requestBearing otherSecret request) := by
    rw [withoutCredential_bearing, withoutCredential_bearing]
  exact congrArg (fun shown => Dialogue.ask (.send shown) .ended) hshown

end

/-- **A credential makes no difference but to its header.** Take variables that hold different
credentials, and are the same apart from that. They read the same commands off the command line.
The dialogue of each command is the same one, where requests are shown without their credential:
with the same replies it writes the same files, invokes the same tools in the same way, sends the
same requests and comes to the same end, which is what is printed and the exit code. It is the
same one as well for a run whose tasks take turns, in whatever order. And in any monad, a command
does the same as long as what is sent with either credential comes to the same. -/
theorem credential_only_in_header {env other : String → Option String} {secret otherSecret : Secret}
    (h : DifferInCredential env other secret otherSecret) :
    (∀ args, readArguments env args = readArguments other args) ∧
    ActsAlike Dialogue.site discreetTransport env other ∧
    ∀ {m : Type → Type} [Monad m] (site : Site m) (transport : Http.Transport m),
      SendsAlike transport secret otherSecret → ActsAlike site transport env other :=
  ⟨readArguments_eq h, (sendsAlike_discreet secret otherSecret).actsAlike h Dialogue.site,
    fun site _ halike => halike.actsAlike h site⟩

/-- The variables of a pipeline that can publish, with a credential. -/
def variablesHolding (secret : Secret) (name : String) : Option String :=
  if name = credentialVariable then some secret.exposed
  else if name = "BINARY_NAME" then some "tool"
  else if name = "RELEASE_REPOSITORY" then some "owner/tool"
  else none

/-- Publishing with one credential asks what it asks with another one. -/
theorem credential_only_in_header_publish :
    loadConfig (variablesHolding ⟨"one"⟩) ≠ loadConfig (variablesHolding ⟨"two"⟩) ∧
    runCommand Dialogue.site discreetTransport (variablesHolding ⟨"one"⟩) false
        (.publish ⟨"master", none, "1a2b3c4"⟩ false) =
      runCommand Dialogue.site discreetTransport (variablesHolding ⟨"two"⟩) false
        (.publish ⟨"master", none, "1a2b3c4"⟩ false) := by
  have h :
      DifferInCredential (variablesHolding ⟨"one"⟩) (variablesHolding ⟨"two"⟩) ⟨"one"⟩ ⟨"two"⟩ :=
    { same := fun name hname => by simp only [variablesHolding, if_neg hname]
      held := rfl
      otherHeld := rfl
      notBlank := by decide
      otherNotBlank := by decide
      sendable := by decide
      otherSendable := by decide }
  refine ⟨?_, (credential_only_in_header h).2.1.command false _⟩
  intro hsame
  have hcredential := congrArg (fun loaded => loaded.toOption.bind Config.credential) hsame
  revert hcredential
  decide

end ReleasePipeline.Proofs
