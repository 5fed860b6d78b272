import StaticPages.Proofs.Command.Render
import StaticPages.Proofs.Config.Setting
import StaticPages.Proofs.Files.Path

namespace StaticPages.Command

/-- Whether a configuration is what a file says, or an empty one because there is no file. -/
inductive ConfigAt (files : FileSystem) (p : Path) : Config → Prop where
  | absent (h : files.isPresent p = false) : ConfigAt files p {}
  | present {text : String} {config : Config} (hread : files.read p = .ok text)
      (hparse : Config.parse p text = .ok config) : ConfigAt files p config

/-- The configuration that a file gives, or why it gives none. -/
def configIn (files : FileSystem) (p : Path) : Except Fault Config :=
  if files.isPresent p then
    match files.read p with
    | .error e => .error (.file e)
    | .ok text => (Config.parse p text).mapError .config
  else .ok {}

/-- The settings that some files give to a run, or why they give none. -/
def loadIn (files : FileSystem) (env : Environment) : Except Fault Loaded := do
  let user ← configIn files (env.settingsFile.getD (settingsFile env.home))
  match env.directory.upwards.find? fun p => files.isPresent (settingsFile p) with
  | none => .ok ⟨Config.overlay {} user, none⟩
  | some root => do
    let project ← configIn files (settingsFile root)
    .ok ⟨user.overlay (project.inProject root), some root⟩

theorem loadIn_of_none {files : FileSystem} {env : Environment}
    (h : (env.directory.upwards.find? fun p => files.isPresent (settingsFile p)) = none) :
    loadIn files env =
      (configIn files (env.settingsFile.getD (settingsFile env.home))).map fun user =>
        ⟨user.settings, none⟩ := by
  unfold loadIn
  rw [h]
  cases configIn files (env.settingsFile.getD (settingsFile env.home)) with
  | error fault => rfl
  | ok user => exact congrArg (fun settings => Except.ok (Loaded.mk settings none)) user.overlay_empty

theorem loadIn_of_some {files : FileSystem} {env : Environment} {root : Path}
    (h : (env.directory.upwards.find? fun p => files.isPresent (settingsFile p)) = some root) :
    loadIn files env =
      (configIn files (env.settingsFile.getD (settingsFile env.home))).bind fun user =>
        (configIn files (settingsFile root)).map fun project =>
          ⟨user.overlay (project.inProject root), some root⟩ := by
  unfold loadIn
  rw [h]
  cases configIn files (env.settingsFile.getD (settingsFile env.home)) with
  | error fault => rfl
  | ok user => cases hproject : configIn files (settingsFile root) <;> simp only [hproject] <;> rfl

theorem configIn_eq_ok_iff {files : FileSystem} {p : Path} {config : Config} :
    configIn files p = .ok config ↔ ConfigAt files p config := by
  unfold configIn
  cases hpresent : files.isPresent p with
  | false =>
    constructor
    · intro h
      cases h
      exact .absent hpresent
    · rintro (_ | hread)
      · rfl
      · exact absurd (FileSystem.isPresent_of_read hread) (by simp [hpresent])
  | true =>
    rw [if_pos rfl]
    cases hread : files.read p with
    | error e =>
      constructor
      · nofun
      · rintro (habsent | ⟨hread', -⟩)
        · exact absurd habsent (by simp [hpresent])
        · cases hread.symm.trans hread'
    | ok text =>
      dsimp only
      constructor
      · intro h
        cases hparse : Config.parse p text with
        | error e =>
          rw [hparse] at h
          cases h
        | ok found =>
          rw [hparse] at h
          cases h
          exact .present hread hparse
      · rintro (habsent | ⟨hread', hparse⟩)
        · exact absurd habsent (by simp [hpresent])
        · cases hread.symm.trans hread'
          rw [hparse]
          rfl

section Load

variable {machine after : Machine} {p : Path} {config : Config}

/-- Reading a configuration changes nothing. -/
theorem run_readConfig (p : Path) (machine : Machine) :
    (readConfig p : Action (StateM Machine) Config).run machine =
      (configIn machine.files p, machine) := by
  rw [readConfig, run_bind, run_isPresent, configIn]
  dsimp only
  cases machine.files.isPresent p with
  | false => rfl
  | true =>
    rw [if_pos rfl, if_pos rfl, run_bind, run_readText]
    cases machine.files.read p with
    | error e => rfl
    | ok text =>
      dsimp only
      cases Config.parse p text <;> rfl

/-- The search for a project only looks. -/
theorem firstProject_apply (directories : List Path) (machine : Machine) :
    (firstProject directories : StateM Machine (Option Path)) machine =
      (directories.find? fun p => machine.files.isPresent (settingsFile p), machine) := by
  induction directories with
  | nil => rfl
  | cons directory rest ih =>
    have hlook : (FileAccess.isPresent (settingsFile directory) : StateM Machine Bool) machine =
        (machine.files.isPresent (settingsFile directory), machine) := rfl
    rw [firstProject, bind_apply, hlook, List.find?_cons]
    dsimp only
    cases machine.files.isPresent (settingsFile directory) with
    | true => rfl
    | false => exact ih

theorem run_findProject (directory : Path) (machine : Machine) :
    (ExceptT.lift (findProject directory) : Action (StateM Machine) (Option Path)).run machine =
      (.ok (directory.upwards.find? fun p => machine.files.isPresent (settingsFile p)),
        machine) := by
  rw [run_lift, findProject, firstProject_apply]

/-- Loading changes nothing. -/
theorem run_load (env : Environment) (machine : Machine) :
    (load env : Action (StateM Machine) Loaded).run machine =
      (loadIn machine.files env, machine) := by
  rw [load, run_bind, run_readConfig, loadIn]
  cases configIn machine.files (env.settingsFile.getD (settingsFile env.home)) with
  | error fault => rfl
  | ok user =>
    dsimp only
    rw [run_bind, run_findProject]
    cases env.directory.upwards.find? fun p => machine.files.isPresent (settingsFile p) with
    | none => rfl
    | some root =>
      dsimp only
      rw [run_bind, run_readConfig]
      cases configIn machine.files (settingsFile root) <;> rfl

/-- Whether settings are those of the user with those of the nearest project over them. -/
inductive Layered (files : FileSystem) (directory : Path) (user : Config) : Loaded → Prop where
  | alone {settings : Settings}
      (absent : ∀ p, p.AtOrAbove directory → files.isPresent (settingsFile p) = false)
      (keys : ∀ {α : Type} (k : Setting α), settings.get? k = user.settings.get? k) :
      Layered files directory user ⟨settings, none⟩
  | inProject {settings : Settings} {root : Path} {project : Config}
      (nearest : Path.IsNearest (fun p => files.isPresent (settingsFile p) = true) directory root)
      (config : ConfigAt files (settingsFile root) project)
      (keys : ∀ {α : Type} (k : Setting α), settings.get? k =
        ((project.settings.get? k).map (k.inProject root)).or (user.settings.get? k)) :
      Layered files directory user ⟨settings, some root⟩

theorem layered_of_load {env : Environment} {loaded : Loaded}
    (h : (load env : Action (StateM Machine) Loaded).run machine = (.ok loaded, after)) :
    after = machine ∧ ∃ user,
      ConfigAt machine.files (env.settingsFile.getD (settingsFile env.home)) user ∧
        Layered machine.files env.directory user loaded := by
  rw [run_load] at h
  obtain ⟨hload, rfl⟩ := Prod.mk.inj h
  cases huser : configIn machine.files (env.settingsFile.getD (settingsFile env.home)) with
  | error fault =>
    rw [loadIn, huser] at hload
    cases hload
  | ok user =>
    refine ⟨rfl, user, configIn_eq_ok_iff.mp huser, ?_⟩
    cases hfound : env.directory.upwards.find? fun p =>
        machine.files.isPresent (settingsFile p) with
    | none =>
      rw [loadIn_of_none hfound, huser] at hload
      cases hload
      exact .alone (Path.find?_upwards_eq_none_iff.mp hfound) fun _ => rfl
    | some root =>
      rw [loadIn_of_some hfound, huser] at hload
      cases hproject : configIn machine.files (settingsFile root) with
      | error fault =>
        rw [hproject] at hload
        cases hload
      | ok project =>
        rw [hproject] at hload
        cases hload
        refine .inProject (Path.find?_upwards_eq_some_iff.mp hfound)
          (configIn_eq_ok_iff.mp hproject) ?_
        intro α k
        rw [Config.get?_overlay, Config.get?_inProject]

end Load

section Flags

theorem choosePrecedence_eq_ok_iff {given : Option String} {fallback p : Precedence} :
    choosePrecedence given fallback = .ok p ↔ given.getD fallback.name = p.name := by
  unfold choosePrecedence
  cases given with
  | none => cases fallback <;> cases p <;> decide
  | some word =>
    dsimp only
    rw [Option.getD_some, ← Precedence.ofName?_eq_some_iff]
    cases Precedence.ofName? word <;> simp

/-- Whether a plan goes by the flags of a call, and where they say nothing by the settings. -/
structure RenderPlan.Follows (plan : RenderPlan) (call : Call) (settings : Settings)
    (directory : Path) : Prop where
  template : (call.flags.first? "template").or (settings.get? .template) = some plan.template
  outDir : plan.outDir =
    directory.resolve (((call.flags.first? "out").or (settings.get? .outDir)).getD ".")
  precedence : (call.flags.first? "precedence").getD
    ((settings.get? .precedence).getD .metadata).name = plan.precedence.name
  toStdout : plan.toStdout = call.flags.has "stdout"

theorem RenderPlan.follows_of_make {call : Call} {settings : Settings} {directory : Path}
    {plan : RenderPlan} (h : make call settings.render directory = .ok plan) :
    plan.Follows call settings directory := by
  obtain ⟨htoStdout, houtDir⟩ := of_make h
  unfold make at h
  split at h
  · cases h
  · dsimp only at h
    split at h
    · cases h
    · next htemplate =>
      split at h
      · cases h
      · split at h
        · cases h
        · next precedence hprecedence =>
          cases h
          refine ⟨?_, houtDir, choosePrecedence_eq_ok_iff.mp hprecedence, htoStdout⟩
          -- A template that is asked for nowhere is an empty one, which is refused.
          change (call.flags.first? "template").or settings.render.template =
            some (((call.flags.first? "template").or settings.render.template).getD "")
          cases hgiven : (call.flags.first? "template").or settings.render.template with
          | none =>
            rw [hgiven] at htemplate
            exact absurd rfl htemplate
          | some given => rfl

end Flags

section Pages

/-- Whether a page is what a plan makes of its input and a template. -/
structure RenderPlan.Makes (plan : RenderPlan) (renderer : Renderer) (directory : Path)
    (template : String) (files : FileSystem) (page : RenderedPage) : Prop where
  html : ∃ source made, files.read (directory.resolve page.input) = .ok source ∧
    Document.render renderer plan.precedence source template = .ok made ∧ page.html = made.html
  output : page.output = if plan.toStdout then none else some (plan.output page.input)

variable {plan : RenderPlan} {renderer : Renderer} {directory : Path} {template : String}
  {machine after : Machine}

theorem render_of_renderSource {input source : String} {page : Page}
    (h : (renderSource plan renderer template input source : Action (StateM Machine) Page).run
      machine = (.ok page, after)) :
    Document.render renderer plan.precedence source template = .ok page := by
  unfold renderSource at h
  split at h
  · next made hmade =>
    cases h
    exact hmade
  · cases h
  · obtain ⟨_, recorded, -, hstop⟩ := run_bind_eq_ok_iff.mp h
    cases hstop

theorem makes_of_renderInput {input : String} {page : RenderedPage}
    (h : (renderInput plan renderer directory template input :
      Action (StateM Machine) RenderedPage).run machine = (.ok page, after)) :
    plan.Makes renderer directory template machine.files page := by
  have houtput := (page_of_renderInput h).2.1
  unfold renderInput at h
  obtain ⟨source, read, hsource, hrest⟩ := run_bind_eq_ok_iff.mp h
  obtain ⟨rfl, hsource⟩ := run_readText_eq_ok_iff.mp hsource
  obtain ⟨made, rendered, hmade, hwrite⟩ := run_bind_eq_ok_iff.mp hrest
  have hpage : page.input = input ∧ page.html = made.html := by
    cases hstdout : plan.toStdout with
    | true =>
      rw [hstdout] at hwrite
      obtain ⟨_, recorded, -, hdone⟩ := run_bind_eq_ok_iff.mp hwrite
      cases hdone
      exact ⟨rfl, rfl⟩
    | false =>
      rw [hstdout] at hwrite
      obtain ⟨_, written, -, hrecord⟩ := run_bind_eq_ok_iff.mp hwrite
      obtain ⟨_, recorded, -, hdone⟩ := run_bind_eq_ok_iff.mp hrecord
      cases hdone
      exact ⟨rfl, rfl⟩
  obtain ⟨rfl, hhtml⟩ := hpage
  exact ⟨⟨source, made, hsource, render_of_renderSource hmade, hhtml⟩, houtput⟩

theorem makes_of_renderInputs {targets : List Path} {inputs : List String}
    {pages : List RenderedPage} (htargets : ∀ p ∈ plan.targets inputs, p ∈ targets)
    (h : (renderInputs plan renderer directory template inputs :
      Action (StateM Machine) (List RenderedPage)).run machine = (.ok pages, after)) :
    pages.map RenderedPage.input = inputs ∧
      ∀ page ∈ pages, ∃ between, Machine.Keeps targets machine between ∧
        plan.Makes renderer directory template between.files page := by
  induction inputs generalizing machine pages with
  | nil =>
    cases h
    exact ⟨rfl, nofun⟩
  | cons input rest ih =>
    obtain ⟨first, between, hfirst, hrest⟩ := run_bind_eq_ok_iff.mp h
    obtain ⟨others, last, hothers, hdone⟩ := run_bind_eq_ok_iff.mp hrest
    cases hdone
    rw [RenderPlan.targets_cons] at htargets
    obtain ⟨hinputs, hpages⟩ := ih (fun p hp => htargets p (List.mem_append_right _ hp)) hothers
    have hwithin : Within (Machine.Keeps targets)
        (renderInput plan renderer directory template input :
          Action (StateM Machine) RenderedPage) :=
      within_renderInput (permits_keeps targets)
        (fun p hp => htargets p (List.mem_append_left _ hp)) template
    have hkeeps := hwithin machine
    rw [hfirst] at hkeeps
    refine ⟨by rw [List.map_cons, hinputs, (page_of_renderInput hfirst).1], ?_⟩
    intro page hpage
    rcases List.mem_cons.mp hpage with rfl | hlater
    · exact ⟨machine, Std.Refl.refl machine, makes_of_renderInput hfirst⟩
    · obtain ⟨state, hstate, hmade⟩ := hpages page hlater
      exact ⟨state, Trans.trans hkeeps hstate, hmade⟩

/-- The pages that were rendered stay in their files as long as only logs change. -/
theorem read_of_keeps {between : Machine} {inputs : List String} {pages : List RenderedPage}
    (hpages : (renderInputs plan renderer directory template inputs :
      Action (StateM Machine) (List RenderedPage)).run machine = (.ok pages, between))
    (hkeeps : Machine.Keeps [] between after) {earlier later : List RenderedPage} {page : RenderedPage}
    (hsplit : pages = earlier ++ page :: later)
    (hlater : ∀ other ∈ later, other.output ≠ page.output) {path : Path}
    (hpath : page.output = some path) : after.files.read path = .ok page.html := by
  have hmem (other : RenderedPage) (hother : other ∈ page :: later) : other ∈ pages :=
    hsplit ▸ List.mem_append_right earlier hother
  obtain ⟨-, hmakes⟩ := makes_of_renderInputs (fun _ hp => hp) hpages
  obtain ⟨_, -, hmade⟩ := hmakes page (hmem page List.mem_cons_self)
  have hfiles : plan.toStdout = false := by
    cases hstdout : plan.toStdout with
    | false => rfl
    | true =>
      rw [hmade.output, hstdout] at hpath
      cases hpath
  obtain ⟨-, houtputs, hwritten⟩ := pages_of_renderInputs hpages hfiles
  have houtput := houtputs page (hmem page List.mem_cons_self)
  obtain rfl : plan.output page.input = path := Option.some.inj (houtput.symm.trans hpath)
  have hothers : ∀ other ∈ later, plan.output other.input ≠ plan.output page.input := by
    intro other hother heq
    apply hlater other hother
    rw [houtput, houtputs other (hmem other (List.mem_cons_of_mem page hother)), heq]
  rw [FileSystem.read_eq_ok_iff,
    hkeeps.files _ (output_not_mem_logFiles plan page.input between)]
  exact hwritten earlier page later hsplit hothers

end Pages

/-- What a run loads is the user's configuration with that of the nearest project over it,
    key by key. Rendering goes by the flags before it goes by what was loaded. -/
theorem load_render_spec {env : Environment} {machine after : Machine} {loaded : Loaded}
    (h : (load env : Action (StateM Machine) Loaded).run machine = (.ok loaded, after)) :
    after = machine ∧
      (∃ user, ConfigAt machine.files (env.settingsFile.getD (settingsFile env.home)) user ∧
        Layered machine.files env.directory user loaded) ∧
      ∀ (call : Call) (start finish : Machine) (pages : List RenderedPage),
        call.flags.has "help" = false →
        (render loaded.settings env.directory call :
          Action (StateM Machine) (List RenderedPage)).run start = (.ok pages, finish) →
        ∃ (plan : RenderPlan) (template : String), plan.Follows call loaded.settings env.directory ∧
          start.files.read (env.directory.resolve plan.template) = .ok template ∧
          pages.map RenderedPage.input = call.words ∧
          ∀ page ∈ pages, ∃ between,
            Machine.Keeps (plan.targets call.words) start between ∧
              plan.Makes loaded.settings.markdown.renderer env.directory template between.files
                page := by
  obtain ⟨hafter, hlayered⟩ := layered_of_load h
  refine ⟨hafter, hlayered, fun call start finish pages hhelp hrun => ?_⟩
  unfold render at hrun
  rw [if_neg (by simp [hhelp])] at hrun
  cases hmake : RenderPlan.make call loaded.settings.render env.directory with
  | error problem =>
    rw [hmake] at hrun
    cases hrun
  | ok plan =>
    rw [hmake] at hrun
    obtain ⟨template, read, htemplate, hrest⟩ := run_bind_eq_ok_iff.mp hrun
    obtain ⟨rfl, hread⟩ := run_readText_eq_ok_iff.mp htemplate
    obtain ⟨rendered, between, hrendered, hprint⟩ := run_bind_eq_ok_iff.mp hrest
    have hpages : rendered = pages := by
      cases hstdout : plan.toStdout with
      | true | false =>
        rw [hstdout] at hprint
        obtain ⟨_, printed, -, hdone⟩ := run_bind_eq_ok_iff.mp hprint
        cases hdone
        rfl
    subst hpages
    exact ⟨plan, template, RenderPlan.follows_of_make hmake, hread,
      makes_of_renderInputs (fun _ hp => hp) hrendered⟩

/-- A user's settings, and a project with settings of its own. -/
def studio : Machine :=
  sampleMachine [
    ("/home/.pagewright/config.json",
      .file "\x7b\"render\": \x7b\"outDir\": \"out\", \"precedence\": \"derived\"\x7d\x7d"),
    ("/work", .directory),
    ("/work/.pagewright/config.json",
      .file "\x7b\"render\": \x7b\"template\": \"page.html\"\x7d\x7d"),
    ("/work/page.html", .file "{{ £title }}"),
    ("/work/posts", .directory),
    ("/work/posts/a.md", .file "# A")]

def studioEnvironment : Environment where
  home := ⟨["home"]⟩
  directory := ⟨["work", "posts"]⟩

def studioSettings : Settings :=
  { render := ⟨some "/work/page.html", some "out", some .derived⟩ }

def studioCall : Call :=
  ⟨["a.md"], [("precedence", .one "metadata")], false⟩

theorem load_studio :
    ((load studioEnvironment : Action (StateM Machine) Loaded).run studio).1.toOption =
      some ⟨studioSettings, some ⟨["work"]⟩⟩ := by
  decide +kernel

theorem render_studio :
    ((render studioSettings ⟨["work", "posts"]⟩ studioCall :
        Action (StateM Machine) (List RenderedPage)).run studio).1.toOption =
      some [⟨"a.md", some ⟨["work", "posts", "out", "a.html"]⟩, 1, "A"⟩] := by
  decide +kernel

/-- A directory of the user's settings and a template of the project's, with a precedence
    that a flag gives. -/
theorem load_render_spec_studio :
    (∃ user, ConfigAt studio.files ⟨["home", ".pagewright", "config.json"]⟩ user ∧
        Layered studio.files ⟨["work", "posts"]⟩ user ⟨studioSettings, some ⟨["work"]⟩⟩) ∧
      ∃ plan : RenderPlan, plan.template = "/work/page.html" ∧
        plan.outDir = ⟨["work", "posts", "out"]⟩ ∧ plan.precedence = .metadata := by
  obtain ⟨-, hlayered, hrender⟩ := load_render_spec (run_of_toOption load_studio)
  obtain ⟨plan, template, hfollows, -⟩ := hrender studioCall studio _ _ (by decide)
    (run_of_toOption render_studio)
  refine ⟨hlayered, plan, Option.some.inj hfollows.template.symm,
    hfollows.outDir.trans (by decide), ?_⟩
  have hname := hfollows.precedence
  cases hprecedence : plan.precedence with
  | metadata => rfl
  | derived =>
    rw [hprecedence] at hname
    exact absurd hname (by decide)

end StaticPages.Command
