import StaticPages.Proofs.Command.Load
import StaticPages.Proofs.Command.Outcome

namespace StaticPages.Command

section User

/-- Whether no directory from a run's own one upwards has a settings file, but for the user's
    home. -/
def Environment.HasNoProject (env : Environment) (files : FileSystem) : Prop :=
  ∀ p, p.AtOrAbove env.directory → p ≠ env.home →
    files.isPresent (Command.settingsFile p) = false

/-- Whether the search for a project comes to the user's own settings file. -/
def Environment.MeetsUser (env : Environment) (files : FileSystem) : Prop :=
  env.home.AtOrAbove env.directory ∧ files.isPresent (Command.settingsFile env.home) = true

variable {env : Environment} {files : FileSystem}

theorem find?_of_meetsUser (halone : env.HasNoProject files) (hmeets : env.MeetsUser files) :
    (env.directory.upwards.find? fun p => files.isPresent (settingsFile p)) = some env.home := by
  rw [Path.find?_upwards_eq_some_iff]
  refine ⟨hmeets.1, hmeets.2, fun p habove hpresent => ?_⟩
  have heq : p = env.home := by
    by_contra hne
    exact absurd hpresent (by simp [halone p habove hne])
  rw [heq]
  exact List.prefix_rfl

theorem find?_of_not_meetsUser (halone : env.HasNoProject files)
    (hmeets : ¬ env.MeetsUser files) :
    (env.directory.upwards.find? fun p => files.isPresent (settingsFile p)) = none := by
  rw [Path.find?_upwards_eq_none_iff]
  intro p habove
  by_cases heq : p = env.home
  · subst heq
    simpa using fun hpresent => hmeets ⟨habove, hpresent⟩
  · exact halone p habove heq

theorem loadIn_of_not_meetsUser (hdefault : env.settingsFile = none)
    (halone : env.HasNoProject files) (hmeets : ¬ env.MeetsUser files) :
    loadIn files env =
      (configIn files (settingsFile env.home)).map fun user => ⟨user.settings, none⟩ := by
  rw [loadIn_of_none (find?_of_not_meetsUser halone hmeets), hdefault, Option.getD_none]

/-- The user's settings are read a second time, as those of a project. -/
theorem loadIn_of_meetsUser (hdefault : env.settingsFile = none)
    (halone : env.HasNoProject files) (hmeets : env.MeetsUser files) :
    loadIn files env =
      (configIn files (settingsFile env.home)).map fun user =>
        ⟨(user.inProject env.home).settings, some env.home⟩ := by
  rw [loadIn_of_some (find?_of_meetsUser halone hmeets), hdefault, Option.getD_none]
  cases huser : configIn files (settingsFile env.home) with
  | error fault => rfl
  | ok user =>
    dsimp only [Except.bind, Except.map]
    rw [Config.overlay_inProject]

/-- Two directories give the same settings exactly if the search comes to the user's file from
    both, or from neither: the runs differ at least in the project that they are given. -/
theorem loadIn_eq_iff {other : Environment} {user : Config} (hhome : other.home = env.home)
    (hdefault : env.settingsFile = none) (hother : other.settingsFile = none)
    (halone : env.HasNoProject files) (halone' : other.HasNoProject files)
    (huser : configIn files (settingsFile env.home) = .ok user) :
    loadIn files other = loadIn files env ↔ (other.MeetsUser files ↔ env.MeetsUser files) := by
  by_cases hmeets : env.MeetsUser files <;> by_cases hmeets' : other.MeetsUser files
  · rw [loadIn_of_meetsUser hdefault halone hmeets, loadIn_of_meetsUser hother halone' hmeets',
      hhome]
    exact iff_of_true rfl (iff_of_true hmeets' hmeets)
  · rw [loadIn_of_meetsUser hdefault halone hmeets,
      loadIn_of_not_meetsUser hother halone' hmeets', hhome, huser]
    refine iff_of_false (fun heq => ?_) fun h => hmeets' (h.mpr hmeets)
    cases congrArg (fun result => result.toOption.map Loaded.project) heq
  · rw [loadIn_of_not_meetsUser hdefault halone hmeets,
      loadIn_of_meetsUser hother halone' hmeets', hhome, huser]
    refine iff_of_false (fun heq => ?_) fun h => hmeets (h.mp hmeets')
    cases congrArg (fun result => result.toOption.map Loaded.project) heq
  · rw [loadIn_of_not_meetsUser hdefault halone hmeets,
      loadIn_of_not_meetsUser hother halone' hmeets', hhome]
    exact iff_of_true rfl (iff_of_false hmeets' hmeets)

end User

/-- Where only the user has settings, a run loads them as they are written, without a project,
    unless its directory is the user's home or below it. There the same file is taken for that
    of a project in the home, and its paths are read in it. So two directories give the same
    settings exactly if both are such, or neither is. -/
theorem load_user_spec (env : Environment) (machine : Machine)
    (hdefault : env.settingsFile = none) (halone : env.HasNoProject machine.files) :
    (∀ fault, configIn machine.files (settingsFile env.home) = .error fault →
        (load env : Action (StateM Machine) Loaded).run machine = (.error fault, machine)) ∧
      (∀ user, ConfigAt machine.files (settingsFile env.home) user →
        (¬ env.MeetsUser machine.files →
          (load env : Action (StateM Machine) Loaded).run machine =
            (.ok ⟨user.settings, none⟩, machine)) ∧
        (env.MeetsUser machine.files →
          (load env : Action (StateM Machine) Loaded).run machine =
            (.ok ⟨(user.inProject env.home).settings, some env.home⟩, machine))) ∧
      ∀ other : Environment, other.home = env.home → other.settingsFile = none →
        other.HasNoProject machine.files →
          ∀ user, ConfigAt machine.files (settingsFile env.home) user →
            ((load other : Action (StateM Machine) Loaded).run machine =
                (load env : Action (StateM Machine) Loaded).run machine ↔
              (other.MeetsUser machine.files ↔ env.MeetsUser machine.files)) := by
  refine ⟨fun fault hfault => ?_, fun user huser => ⟨fun hmeets => ?_, fun hmeets => ?_⟩,
    fun other hhome hother halone' user huser => ?_⟩
  · by_cases hmeets : env.MeetsUser machine.files
    · rw [run_load, loadIn_of_meetsUser hdefault halone hmeets, hfault]
      rfl
    · rw [run_load, loadIn_of_not_meetsUser hdefault halone hmeets, hfault]
      rfl
  · rw [run_load, loadIn_of_not_meetsUser hdefault halone hmeets, configIn_eq_ok_iff.mpr huser]
    rfl
  · rw [run_load, loadIn_of_meetsUser hdefault halone hmeets, configIn_eq_ok_iff.mpr huser]
    rfl
  · rw [run_load, run_load, Prod.mk.injEq, and_iff_left rfl]
    exact loadIn_eq_iff hhome hdefault hother halone halone' (configIn_eq_ok_iff.mpr huser)

/-- A user with settings, a directory below the home and one elsewhere. -/
def homestead : Machine :=
  sampleMachine [("/home", .directory), ("/home/.pagewright", .directory),
    ("/home/.pagewright/config.json",
      .file "\x7b\"render\": \x7b\"outDir\": \"out\"\x7d\x7d"),
    ("/home/site", .directory), ("/work", .directory)]

theorem configIn_homestead :
    ConfigAt homestead.files (settingsFile ⟨["home"]⟩)
      { render := some { outDir := some "out" } } := by
  have htext : homestead.files.text? (settingsFile ⟨["home"]⟩) =
      some "\x7b\"render\": \x7b\"outDir\": \"out\"\x7d\x7d" := by decide +kernel
  refine .present (FileSystem.read_eq_ok_iff.mpr htext) (eq_ok_of_toOption ?_)
  decide +kernel

/-- The same settings elsewhere and below the home. -/
theorem load_user_spec_homestead :
    (load ⟨⟨["home"]⟩, ⟨["work"]⟩, none, none⟩ : Action (StateM Machine) Loaded).run homestead =
        (.ok ⟨{ render := { outDir := some "out" } }, none⟩, homestead) ∧
      (load ⟨⟨["home"]⟩, ⟨["home", "site"]⟩, none, none⟩ :
          Action (StateM Machine) Loaded).run homestead =
        (.ok ⟨{ render := { outDir := some "/home/out" } }, some ⟨["home"]⟩⟩, homestead) := by
  have halone (env : Environment) (habove : ∀ p ∈ env.directory.upwards, p ≠ env.home →
      homestead.files.isPresent (settingsFile p) = false) : env.HasNoProject homestead.files :=
    fun p hp => habove p (Path.mem_upwards_iff.mpr hp)
  constructor
  · obtain ⟨-, hload, -⟩ := load_user_spec ⟨⟨["home"]⟩, ⟨["work"]⟩, none, none⟩ homestead rfl
      (halone _ (by decide +kernel))
    refine (hload _ configIn_homestead).1 fun hmeets => ?_
    exact absurd (Path.mem_upwards_iff.mpr hmeets.1) (by decide)
  · obtain ⟨-, hload, -⟩ := load_user_spec ⟨⟨["home"]⟩, ⟨["home", "site"]⟩, none, none⟩
      homestead rfl (halone _ (by decide +kernel))
    have hsettings : (Config.inProject ⟨["home"]⟩
        { render := some { outDir := some "out" } }).settings =
          { render := { outDir := some "/home/out" } } := by decide
    rw [(hload _ configIn_homestead).2
      ⟨Path.mem_upwards_iff.mp (by decide), by decide +kernel⟩, hsettings]

section Output

/-- Whether a directory is one of a project: from there upwards, the nearest settings file is
    that of the project. -/
structure InProject (files : FileSystem) (root directory : Path) : Prop where
  proper : directory.IsProper
  nearest : Path.IsNearest (fun p => files.isPresent (settingsFile p) = true) directory root

/-- Where a project has the page of an input: in its directory for pages, or in the working
    directory if the project gives an empty one. -/
def projectPage (root directory : Path) (outDir input : String) : Path :=
  (if outDir = "" then directory else root.resolve outDir).child
    (Path.stem (Path.baseName input) ++ ".html")

theorem projectPage_eq_iff {root directory other : Path} {outDir input : String} :
    projectPage root directory outDir input = projectPage root other outDir input ↔
      outDir ≠ "" ∨ directory = other := by
  unfold projectPage
  by_cases h : outDir = "" <;> simp [h]

variable {machine : Machine} {user project : Config} {root directory : Path} {outDir : String}

theorem run_load_of_inProject (env : Environment)
    (huser : ConfigAt machine.files (env.settingsFile.getD (settingsFile env.home)) user)
    (hproject : ConfigAt machine.files (settingsFile root) project)
    (hdirectory : InProject machine.files root directory) :
    (load { env with directory } : Action (StateM Machine) Loaded).run machine =
      (.ok ⟨user.overlay (project.inProject root), some root⟩, machine) := by
  let here : Environment := { env with directory }
  have hfound : (here.directory.upwards.find? fun p => machine.files.isPresent (settingsFile p)) =
      some root := Path.find?_upwards_eq_some_iff.mpr hdirectory.nearest
  rw [run_load, loadIn_of_some hfound, configIn_eq_ok_iff.mpr huser]
  dsimp only [Except.bind]
  rw [configIn_eq_ok_iff.mpr hproject]
  rfl

/-- The path that a project's directory for pages is given as means the same in every directory
    of the project. -/
theorem outputDirectory_of_inProject (hdirectory : InProject machine.files root directory)
    (houtDir : project.settings.get? .outDir = some outDir) {call : Call}
    (hcall : call.flags.first? "out" = none) :
    outputDirectory (user.overlay (project.inProject root)).render directory call =
      if outDir = "" then directory else root.resolve outDir := by
  have hroot := hdirectory.proper.of_atOrAbove hdirectory.nearest.above
  have hgiven : (user.overlay (project.inProject root)).render.outDir =
      some (if outDir = "" then "" else (root.resolve outDir).toText) := by
    change (user.overlay (project.inProject root)).get? .outDir = _
    rw [Config.get?_overlay, Config.get?_inProject, houtDir]
    rfl
  rw [outputDirectory, hcall, hgiven, Option.none_or, Option.getD_some]
  split
  · rfl
  · exact Path.resolve_toText (Path.isProper_resolve hroot outDir) directory

/-- Where a run that writes its pages has each of them: in a file of its own directory, which
    holds it unless it is also the file of a later page. -/
theorem output_of_render {settings : Settings} {call : Call} {start finish : Machine}
    {pages : List RenderedPage} (hstdout : call.flags.has "stdout" = false)
    (h : (render settings directory call : Action (StateM Machine) (List RenderedPage)).run start =
      (.ok pages, finish)) {earlier later : List RenderedPage} {page : RenderedPage}
    (hsplit : pages = earlier ++ page :: later) :
    let path := (outputDirectory settings.render directory call).child
      (Path.stem (Path.baseName page.input) ++ ".html")
    page.output = some path ∧
      ((∀ other ∈ later, other.output ≠ page.output) →
        finish.files.read path = .ok page.html) := by
  have hrenders := renders_render settings directory call start
  rw [h] at hrenders
  cases hrenders with
  | helped hhelp stdout => simp at hsplit
  | @finished plan template _ between hprepared hinputs stdout =>
    obtain ⟨htoStdout, houtDir⟩ := RenderPlan.of_make hprepared.make
    obtain ⟨-, houtputs, -⟩ := pages_of_renderInputs hinputs (htoStdout.trans hstdout)
    have houtput : page.output = some (plan.output page.input) :=
      houtputs page (hsplit ▸ List.mem_append_right earlier List.mem_cons_self)
    have hkeeps : Machine.Keeps [] between { between with stdout } :=
      ⟨rfl, .refl _ between.files⟩
    rw [RenderPlan.output, houtDir] at houtput
    exact ⟨houtput, fun hlater => read_of_keeps hinputs hkeeps hsplit hlater houtput⟩

/-- Whether a page comes from a run in a directory that writes its pages, without `--out`. -/
def RenderedIn (env : Environment) (machine : Machine) (directory : Path)
    (page : RenderedPage) : Prop :=
  ∃ loaded call start finish pages,
    (load { env with directory } : Action (StateM Machine) Loaded).run machine =
        (.ok loaded, machine) ∧
      call.flags.first? "out" = none ∧ call.flags.has "stdout" = false ∧
      (render loaded.settings directory call : Action (StateM Machine) (List RenderedPage)).run
          start = (.ok pages, finish) ∧
      page ∈ pages

end Output

/-- A project that gives a directory for its pages has the page of an input in that directory,
    seen from the project's own, wherever in the project a run without `--out` works: it writes
    the page there and writes no other page. Only an empty text is not seen from the project's
    directory: it means the directory that the run works in. -/
theorem project_output_spec (env : Environment) {machine : Machine} {user project : Config}
    {root : Path} {outDir : String}
    (huser : ConfigAt machine.files (env.settingsFile.getD (settingsFile env.home)) user)
    (hproject : ConfigAt machine.files (settingsFile root) project)
    (houtDir : project.settings.get? .outDir = some outDir) :
    (∀ directory, InProject machine.files root directory →
      ∃ settings, (load { env with directory } : Action (StateM Machine) Loaded).run machine =
          (.ok ⟨settings, some root⟩, machine) ∧
        ∀ (call : Call) (start : Machine), call.flags.first? "out" = none →
          let run := (render settings directory call :
            Action (StateM Machine) (List RenderedPage)).run start
          (∀ p ∉ call.words.map (projectPage root directory outDir), p ∉ start.logFiles →
            run.2.files.text? p = start.files.text? p) ∧
          ∀ pages, run.1 = .ok pages → call.flags.has "stdout" = false →
            ∀ earlier page later, pages = earlier ++ page :: later →
              page.output = some (projectPage root directory outDir page.input) ∧
                ((∀ other ∈ later, other.output ≠ page.output) →
                  run.2.files.read (projectPage root directory outDir page.input) =
                    .ok page.html)) ∧
      ∀ directory other page page', InProject machine.files root directory →
        InProject machine.files root other → RenderedIn env machine directory page →
          RenderedIn env machine other page' → page.input = page'.input →
            (page.output = page'.output ↔ outDir ≠ "" ∨ directory = other) := by
  constructor
  · intro directory hdirectory
    refine ⟨_, run_load_of_inProject _ huser hproject hdirectory, fun call start hcall => ⟨?_, ?_⟩⟩
    · intro p hp hlog
      refine text?_of_within (keeps_render _ call) rfl (fun hpage => hp ?_) hlog
      obtain ⟨-, -, -, input, hinput, rfl⟩ := of_mem_pageFiles hpage
      rw [outputDirectory_of_inProject hdirectory houtDir hcall]
      exact List.mem_map_of_mem hinput
    · intro pages hpages hstdout earlier page later hsplit
      have houtput := output_of_render hstdout (Prod.ext hpages rfl) hsplit
      rw [outputDirectory_of_inProject hdirectory houtDir hcall] at houtput
      exact houtput
  · have houtput : ∀ directory page, InProject machine.files root directory →
        RenderedIn env machine directory page →
          page.output = some (projectPage root directory outDir page.input) := by
      rintro directory page hdirectory ⟨loaded, call, start, finish, pages, hload, hcall, hstdout,
        hrun, hpage⟩
      cases (run_load_of_inProject _ huser hproject hdirectory).symm.trans hload
      obtain ⟨earlier, later, hsplit⟩ := List.append_of_mem hpage
      rw [(output_of_render hstdout hrun hsplit).1,
        outputDirectory_of_inProject hdirectory houtDir hcall]
      rfl
    intro directory other page page' hdirectory hother hpage hpage' hinput
    rw [houtput directory page hdirectory hpage, houtput other page' hother hpage', hinput,
      Option.some.injEq, projectPage_eq_iff]

/-- A project that has its pages in a directory of their own, and a document deeper down. -/
def press : Machine :=
  sampleMachine [("/work", .directory),
    ("/work/.pagewright/config.json",
      .file "\x7b\"render\": \x7b\"template\": \"page.html\", \"outDir\": \"public\"\x7d\x7d"),
    ("/work/page.html", .file "{{ £title }}"), ("/work/posts", .directory),
    ("/work/posts/a.md", .file "# A")]

def pressConfig : Config :=
  { render := some { template := some "page.html", outDir := some "public" } }

def pressCall : Call :=
  ⟨["a.md"], [], false⟩

theorem configAt_press : ConfigAt press.files (settingsFile ⟨["work"]⟩) pressConfig := by
  have htext : press.files.text? (settingsFile ⟨["work"]⟩) =
      some "\x7b\"render\": \x7b\"template\": \"page.html\", \"outDir\": \"public\"\x7d\x7d" := by
    decide +kernel
  refine .present (FileSystem.read_eq_ok_iff.mpr htext) (eq_ok_of_toOption ?_)
  decide +kernel

theorem render_press :
    ((render (Config.overlay {} (pressConfig.inProject ⟨["work"]⟩)) ⟨["work", "posts"]⟩ pressCall :
        Action (StateM Machine) (List RenderedPage)).run press).1.toOption =
      some [⟨"a.md", some ⟨["work", "public", "a.html"]⟩, 1, "A"⟩] := by
  decide +kernel

/-- A run deeper down writes to the directory beside the project's settings. -/
theorem project_output_spec_press :
    ConfigAt press.files (settingsFile ⟨["home"]⟩) {} ∧
      ConfigAt press.files (settingsFile ⟨["work"]⟩) pressConfig ∧
      pressConfig.settings.get? .outDir = some "public" ∧
      InProject press.files ⟨["work"]⟩ ⟨["work", "posts"]⟩ ∧
      ((render (Config.overlay {} (pressConfig.inProject ⟨["work"]⟩)) ⟨["work", "posts"]⟩
          pressCall : Action (StateM Machine) (List RenderedPage)).run press).2.files.read
        ⟨["work", "public", "a.html"]⟩ = .ok "A" := by
  have huser : ConfigAt press.files (settingsFile ⟨["home"]⟩) {} := .absent (by decide +kernel)
  have hdirectory : InProject press.files ⟨["work"]⟩ ⟨["work", "posts"]⟩ := by
    refine ⟨Path.isProper_resolve Path.isProper_root "work/posts",
      Path.find?_upwards_eq_some_iff.mp ?_⟩
    decide +kernel
  refine ⟨huser, configAt_press, rfl, hdirectory, ?_⟩
  let env : Environment := ⟨⟨["home"]⟩, ⟨["work"]⟩, none, none⟩
  obtain ⟨hruns, -⟩ := project_output_spec env huser configAt_press rfl
  obtain ⟨settings, hload, hrun⟩ := hruns _ hdirectory
  cases (run_load_of_inProject env huser configAt_press hdirectory).symm.trans hload
  obtain ⟨-, hpages⟩ := hrun pressCall press rfl
  exact (hpages _ (eq_ok_of_toOption render_press) rfl [] _ [] rfl).2 nofun

end StaticPages.Command
