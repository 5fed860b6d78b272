import StaticPages.Proofs.Command.Action

namespace StaticPages.Command

open Machine (Keeps)

/-- The files that a plan has pages written to. -/
def RenderPlan.targets (plan : RenderPlan) (inputs : List String) : List Path :=
  if plan.toStdout then [] else inputs.map plan.output

theorem RenderPlan.targets_cons (plan : RenderPlan) (input : String) (rest : List String) :
    plan.targets (input :: rest) = plan.targets [input] ++ plan.targets rest := by
  unfold targets
  split <;> rfl

/-- The directory that a call has its pages written to. -/
def outputDirectory (settings : RenderConfig) (directory : Path) (call : Call) : Path :=
  directory.resolve (((call.flags.first? "out").or settings.outDir).getD ".")

theorem RenderPlan.of_make {call : Call} {settings : RenderConfig} {directory : Path}
    {plan : RenderPlan} (h : make call settings directory = .ok plan) :
    plan.toStdout = call.flags.has "stdout" ∧
      plan.outDir = outputDirectory settings directory call := by
  unfold make at h
  split at h
  · cases h
  · dsimp only at h
    split at h
    · cases h
    · split at h
      · cases h
      · split at h
        · cases h
        · cases h
          exact ⟨rfl, rfl⟩

/-- The files that the `render` command has pages written to. -/
def pageFiles (settings : Settings) (directory : Path) (call : Call) : List Path :=
  if call.flags.has "help" then []
  else
    match RenderPlan.make call settings.render directory with
    | .error _ => []
    | .ok plan => plan.targets call.words

section Within

variable {R : Machine → Machine → Prop} [Std.Refl R] [Trans R R R] {targets : List Path}
  {plan : RenderPlan} {renderer : Renderer} {directory : Path}

theorem within_renderSource (hR : Permits R targets) (template input source : String) :
    Within R (renderSource plan renderer template input source :
      Action (StateM Machine) Page) := by
  unfold renderSource
  split
  · exact within_pure _
  · exact within_stop _
  · exact within_bind (hR.record _) fun _ => within_stop _

theorem within_renderInput (hR : Permits R targets) {input : String}
    (h : ∀ p ∈ plan.targets [input], p ∈ targets) (template : String) :
    Within R (renderInput plan renderer directory template input :
      Action (StateM Machine) RenderedPage) := by
  unfold renderInput
  refine within_bind (hR.readText _) fun source => ?_
  refine within_bind (within_renderSource hR template input source) fun page => ?_
  unfold RenderPlan.targets at h
  cases hstdout : plan.toStdout with
  | true => exact within_bind (hR.record _) fun _ => within_pure _
  | false =>
    have hwritten : plan.output input ∈ targets := h _ (by simp [hstdout])
    exact within_bind (hR.writeText hwritten page.html) fun _ =>
      within_bind (hR.record _) fun _ => within_pure _

theorem within_renderInputs (hR : Permits R targets) {inputs : List String}
    (h : ∀ p ∈ plan.targets inputs, p ∈ targets) (template : String) :
    Within R (renderInputs plan renderer directory template inputs :
      Action (StateM Machine) (List RenderedPage)) := by
  induction inputs with
  | nil => exact within_pure []
  | cons input rest ih =>
    rw [RenderPlan.targets_cons] at h
    exact within_bind
      (within_renderInput hR (fun p hp => h p (List.mem_append_left _ hp)) template) fun _ =>
        within_bind (ih fun p hp => h p (List.mem_append_right _ hp)) fun _ => within_pure _

end Within

section Keeps

variable {targets : List Path} {directory : Path}

theorem keeps_printPage (json : Bool) (pages : List RenderedPage) :
    Within (Keeps targets) (printPage json pages : Action (StateM Machine) Unit) := by
  unfold printPage
  split
  · exact within_pure ()
  · split
    · exact keeps_print _
    · exact keeps_print _

theorem keeps_printSummaries (json : Bool) (pages : List RenderedPage) :
    Within (Keeps targets)
      (printSummaries json directory pages : Action (StateM Machine) Unit) := by
  unfold printSummaries
  split
  · exact keeps_print _
  · exact within_forM (fun _ => keeps_print _) pages

theorem keeps_render (settings : Settings) (call : Call) :
    Within (Keeps (pageFiles settings directory call))
      (render settings directory call : Action (StateM Machine) (List RenderedPage)) := by
  unfold render pageFiles
  split
  · exact within_bind (keeps_print _) fun _ => within_pure []
  · cases RenderPlan.make call settings.render directory with
    | error problem => exact within_stop _
    | ok plan =>
      refine within_bind (keeps_readText _) fun template => ?_
      refine within_bind (within_renderInputs (permits_keeps _) (fun _ hp => hp) template) fun pages => ?_
      dsimp only
      split
      · exact within_bind (keeps_printPage _ pages) fun _ => within_pure pages
      · exact within_bind (keeps_printSummaries _ pages) fun _ => within_pure pages

end Keeps

/-- A page's file is no log. -/
theorem output_not_mem_logFiles (plan : RenderPlan) (input : String) (machine : Machine) :
    plan.output input ∉ machine.logFiles := by
  intro hmem
  unfold Machine.logFiles Log.Logger.logFiles at hmem
  split at hmem
  · cases hmem
  · obtain ⟨directory, -, hpath⟩ := List.mem_map.mp hmem
    have hnames := congrArg Path.names hpath
    have hname : Log.Calendar.dateText machine.stamp.instant ++ ".jsonl" =
        Path.stem (Path.baseName input) ++ ".html" := by
      have hlast := congrArg List.getLast? hnames
      simpa [RenderPlan.output, Path.child] using hlast
    have hchars := congrArg (fun name => name.toList.reverse) hname
    simp at hchars

theorem output_eq_iff (plan : RenderPlan) (input other : String) :
    plan.output input = plan.output other ↔
      Path.stem (Path.baseName input) = Path.stem (Path.baseName other) := by
  simp [RenderPlan.output, Path.child]

section Pages

variable {plan : RenderPlan} {renderer : Renderer} {directory : Path}

/-- A page that was rendered is in its file, if it is to be written at all. -/
theorem page_of_renderInput {template input : String} {machine after : Machine}
    {page : RenderedPage}
    (h : (renderInput plan renderer directory template input :
      Action (StateM Machine) RenderedPage).run machine = (.ok page, after)) :
    page.input = input ∧ page.output = (if plan.toStdout then none else some (plan.output input)) ∧
      (plan.toStdout = false → after.files.text? (plan.output input) = some page.html) := by
  unfold renderInput at h
  obtain ⟨source, read, -, h⟩ := run_bind_eq_ok_iff.mp h
  obtain ⟨rendered, between, -, h⟩ := run_bind_eq_ok_iff.mp h
  cases hstdout : plan.toStdout with
  | true =>
    rw [hstdout] at h
    obtain ⟨_, recorded, -, h⟩ := run_bind_eq_ok_iff.mp h
    cases h
    exact ⟨rfl, rfl, nofun⟩
  | false =>
    rw [hstdout] at h
    obtain ⟨_, written, hwrite, h⟩ := run_bind_eq_ok_iff.mp h
    obtain ⟨_, recorded, hrecord, h⟩ := run_bind_eq_ok_iff.mp h
    cases h
    refine ⟨rfl, rfl, fun _ => ?_⟩
    rw [text?_of_within (keeps_record _) hrecord List.not_mem_nil
      (output_not_mem_logFiles plan input written)]
    exact text?_of_writeText hwrite

/-- A run over some inputs gives one page for each. The file of a page holds it at the end
    unless it is also the file of a later page. -/
theorem pages_of_renderInputs {template : String} {inputs : List String}
    {machine after : Machine} {pages : List RenderedPage}
    (h : (renderInputs plan renderer directory template inputs :
      Action (StateM Machine) (List RenderedPage)).run machine = (.ok pages, after))
    (hfiles : plan.toStdout = false) :
    pages.map RenderedPage.input = inputs ∧
      (∀ page ∈ pages, page.output = some (plan.output page.input)) ∧
      ∀ earlier page later, pages = earlier ++ page :: later →
        (∀ other ∈ later, plan.output other.input ≠ plan.output page.input) →
          after.files.text? (plan.output page.input) = some page.html := by
  induction inputs generalizing machine pages with
  | nil =>
    cases h
    exact ⟨rfl, by simp, by simp⟩
  | cons input rest ih =>
    obtain ⟨first, between, hfirst, h⟩ := run_bind_eq_ok_iff.mp h
    obtain ⟨others, last, hothers, h⟩ := run_bind_eq_ok_iff.mp h
    cases h
    obtain ⟨hinput, houtput, hwritten⟩ := page_of_renderInput hfirst
    obtain ⟨hinputs, houtputs, hlast⟩ := ih hothers
    subst hinput
    rw [hfiles] at houtput
    refine ⟨by simp [hinputs], List.forall_mem_cons.mpr ⟨houtput, houtputs⟩, ?_⟩
    intro earlier page later hsplit hlater
    cases earlier with
    | cons e earlier =>
      obtain ⟨rfl, rfl⟩ := List.cons.inj hsplit
      exact hlast earlier page later rfl hlater
    | nil =>
      -- The other pages are written elsewhere, so the first one stays as it was written.
      obtain ⟨rfl, rfl⟩ := List.cons.inj hsplit
      have hother : plan.output first.input ∉ plan.targets rest := by
        rw [RenderPlan.targets, hfiles, if_neg Bool.false_ne_true, ← hinputs, List.map_map]
        rintro hmem
        obtain ⟨other, hmem, heq⟩ := List.mem_map.mp hmem
        exact hlater other hmem heq
      rw [text?_of_within (within_renderInputs (permits_keeps _) (fun _ hp => hp) template) hothers hother
        (output_not_mem_logFiles plan first.input between)]
      exact hwritten hfiles

end Pages

section Render

variable {settings : Settings} {directory : Path} {call : Call} {machine after : Machine}

/-- A page that was rendered without `--stdout` is in the file of its output at the end, if
    no later page has the same output. Two pages have the same output exactly if the names of
    their inputs are the same but for their extensions. There is a page for each input, or
    none where help is asked for. -/
theorem render_pages_spec {pages : List RenderedPage}
    (h : (render settings directory call : Action (StateM Machine) (List RenderedPage)).run
      machine = (.ok pages, after))
    (hstdout : call.flags.has "stdout" = false) :
    (call.flags.has "help" = false → pages.map RenderedPage.input = call.words) ∧
      (call.flags.has "help" = true → pages = []) ∧
      (∀ page ∈ pages, ∃ path, page.output = some path) ∧
      (∀ page ∈ pages, ∀ other ∈ pages, other.output = page.output ↔
        Path.stem (Path.baseName other.input) = Path.stem (Path.baseName page.input)) ∧
      ∀ earlier page later, pages = earlier ++ page :: later →
        (∀ other ∈ later, other.output ≠ page.output) →
          ∀ path, page.output = some path → after.files.read path = .ok page.html := by
  unfold render at h
  split at h
  · next hhelp =>
    obtain ⟨_, printed, -, h⟩ := run_bind_eq_ok_iff.mp h
    cases h
    exact ⟨fun hnot => absurd hhelp (by simp [hnot]), fun _ => rfl, by simp, by simp, by simp⟩
  · next hhelp =>
    cases hmake : RenderPlan.make call settings.render directory with
    | error problem =>
      rw [hmake] at h
      cases h
    | ok plan =>
      rw [hmake] at h
      have hfiles : plan.toStdout = false := (RenderPlan.of_make hmake).1.trans hstdout
      obtain ⟨template, read, -, h⟩ := run_bind_eq_ok_iff.mp h
      obtain ⟨rendered, between, hrendered, h⟩ := run_bind_eq_ok_iff.mp h
      obtain ⟨hinputs, houtputs, hlast⟩ := pages_of_renderInputs hrendered hfiles
      rw [hfiles] at h
      obtain ⟨_, printed, hprinted, h⟩ := run_bind_eq_ok_iff.mp h
      cases h
      refine ⟨fun _ => hinputs, fun hasked => absurd hasked hhelp,
        fun page hpage => ⟨_, houtputs page hpage⟩, ?_, ?_⟩
      · intro page hpage other hother
        rw [houtputs page hpage, houtputs other hother, Option.some.injEq, output_eq_iff]
      · intro earlier page later hsplit hlater path hpath
        have hpage : page ∈ pages := by simp [hsplit]
        obtain rfl : plan.output page.input = path :=
          Option.some.inj ((houtputs page hpage).symm.trans hpath)
        have hothers : ∀ other ∈ later, plan.output other.input ≠ plan.output page.input := by
          intro other hother heq
          apply hlater other hother
          rw [houtputs other (by simp [hsplit, hother]), houtputs page hpage, heq]
        rw [FileSystem.read_eq_ok_iff, text?_of_within (keeps_printSummaries _ _) hprinted
          List.not_mem_nil (output_not_mem_logFiles plan page.input between)]
        exact hlast earlier page later hsplit hothers

/-- Two documents of one name in two directories, and a third one. -/
def twins : Machine :=
  sampleMachine [("/work", .directory), ("/work/a", .directory), ("/work/b", .directory),
    ("/work/page.html", .file "{{ £title }}"), ("/work/a/x.md", .file "# A"),
    ("/work/y.md", .file "# Y"), ("/work/b/x.md", .file "# B")]

def twinCall : Call :=
  ⟨["a/x.md", "y.md", "b/x.md"], [("template", .one "page.html"), ("out", .one "out")], false⟩

def twinPages : List RenderedPage :=
  [⟨"a/x.md", some ⟨["work", "out", "x.html"]⟩, 1, "A"⟩,
    ⟨"y.md", some ⟨["work", "out", "y.html"]⟩, 1, "Y"⟩,
    ⟨"b/x.md", some ⟨["work", "out", "x.html"]⟩, 1, "B"⟩]

/-- What is left of `twins` by rendering all of its documents. -/
def twinsAfter : Machine :=
  ((render {} ⟨["work"]⟩ twinCall : Action (StateM Machine) (List RenderedPage)).run twins).2

theorem render_twins :
    (render {} ⟨["work"]⟩ twinCall : Action (StateM Machine) (List RenderedPage)).run twins =
      (.ok twinPages, twinsAfter) := by
  have hpages : ((render {} ⟨["work"]⟩ twinCall :
      Action (StateM Machine) (List RenderedPage)).run twins).1.toOption = some twinPages := by
    decide +kernel
  exact Prod.ext (eq_ok_of_toOption hpages) rfl

/-- The page of the third document and that of the last one are in their files. -/
theorem render_pages_spec_twins :
    (render {} ⟨["work"]⟩ twinCall : Action (StateM Machine) (List RenderedPage)).run twins =
        (.ok twinPages, twinsAfter) ∧
      twinCall.flags.has "stdout" = false ∧
      twinsAfter.files.read ⟨["work", "out", "y.html"]⟩ = .ok "Y" ∧
      twinsAfter.files.read ⟨["work", "out", "x.html"]⟩ = .ok "B" := by
  have hstdout : twinCall.flags.has "stdout" = false := by decide
  have hlast := (render_pages_spec render_twins hstdout).2.2.2.2
  refine ⟨render_twins, hstdout, ?_, ?_⟩
  · exact hlast [⟨"a/x.md", some ⟨["work", "out", "x.html"]⟩, 1, "A"⟩] _ _ rfl (by decide) _ rfl
  · exact hlast [⟨"a/x.md", some ⟨["work", "out", "x.html"]⟩, 1, "A"⟩,
      ⟨"y.md", some ⟨["work", "out", "y.html"]⟩, 1, "Y"⟩] _ _ rfl (by simp) _ rfl

/-- A page does not stay in its file if a later input has the same name. -/
theorem not_forall_page_in_file :
    ¬ ∀ (settings : Settings) (directory : Path) (call : Call) (machine after : Machine)
        (pages : List RenderedPage),
      (render settings directory call : Action (StateM Machine) (List RenderedPage)).run machine =
          (.ok pages, after) →
        call.flags.has "stdout" = false →
          ∀ page ∈ pages, ∀ path, page.output = some path →
            after.files.read path = .ok page.html := by
  intro h
  have hfirst := h _ _ _ _ _ _ render_twins (by decide)
    ⟨"a/x.md", some ⟨["work", "out", "x.html"]⟩, 1, "A"⟩ (by decide) _ rfl
  have hlast : twinsAfter.files.text? ⟨["work", "out", "x.html"]⟩ = some "B" := by decide +kernel
  rw [FileSystem.read_eq_ok_iff, hlast] at hfirst
  exact absurd hfirst (by decide)

/-- Pages are written at `<out>/<name>.html` for the names of the inputs, and none if they
    are to be printed, if help is asked for or if the call is a wrong one. -/
theorem of_mem_pageFiles {p : Path} (hp : p ∈ pageFiles settings directory call) :
    call.flags.has "help" = false ∧ call.flags.has "stdout" = false ∧
      (∃ plan, RenderPlan.make call settings.render directory = .ok plan) ∧
      ∃ input ∈ call.words, p = (outputDirectory settings.render directory call).child
        (Path.stem (Path.baseName input) ++ ".html") := by
  unfold pageFiles at hp
  split at hp
  · cases hp
  · next hhelp =>
    split at hp
    · cases hp
    · next plan hmake =>
      obtain ⟨hstdout, hdirectory⟩ := RenderPlan.of_make hmake
      unfold RenderPlan.targets at hp
      split at hp
      · cases hp
      · next hfiles =>
        obtain ⟨input, hinput, rfl⟩ := List.mem_map.mp hp
        refine ⟨by simpa using hhelp, ?_, ⟨plan, hmake⟩, input, hinput, ?_⟩
        · rw [← hstdout]
          simpa using hfiles
        · rw [RenderPlan.output, hdirectory]

/-- Whether rendering succeeds or fails, every file stays as it is, the template and the
    inputs among them, unless a page is written to it or it is a log. -/
theorem render_keeps_spec (settings : Settings) (directory : Path) (call : Call)
    (machine : Machine) :
    (∀ p ∉ pageFiles settings directory call, p ∉ machine.logFiles →
        ((render settings directory call :
            Action (StateM Machine) (List RenderedPage)).run machine).2.files.text? p =
          machine.files.text? p) ∧
      ∀ p ∈ pageFiles settings directory call,
        call.flags.has "help" = false ∧ call.flags.has "stdout" = false ∧
          (∃ plan, RenderPlan.make call settings.render directory = .ok plan) ∧
          ∃ input ∈ call.words, p = (outputDirectory settings.render directory call).child
            (Path.stem (Path.baseName input) ++ ".html") :=
  ⟨fun _ hpage hlog => text?_of_within (keeps_render settings call) rfl hpage hlog,
    fun _ hp => of_mem_pageFiles hp⟩

/-- Rendering keeps a template that is neither a page nor a log, with logging on. -/
theorem render_keeps_spec_twins :
    (⟨["work", "page.html"]⟩ ∉ pageFiles {} ⟨["work"]⟩ twinCall ∧
        ⟨["work", "page.html"]⟩ ∉ twins.logFiles) ∧
      twinsAfter.files.text? ⟨["work", "page.html"]⟩ = some "{{ £title }}" := by
  have hpage : ⟨["work", "page.html"]⟩ ∉ pageFiles {} ⟨["work"]⟩ twinCall := by decide +kernel
  have hlog : ⟨["work", "page.html"]⟩ ∉ twins.logFiles := by decide +kernel
  have hkept := (render_keeps_spec {} ⟨["work"]⟩ twinCall twins).1 _ hpage hlog
  exact ⟨⟨hpage, hlog⟩, hkept.trans (by decide +kernel)⟩

/-- The names of the files that the `render` command reads: its template and its inputs. -/
def sourceNames (settings : Settings) (call : Call) : List String :=
  ((call.flags.first? "template").or settings.render.template).toList ++ call.words

/-- A document with a template of the same name beside it, and a log. -/
def desk : Machine :=
  sampleMachine [("/work", .directory), ("/work/post.html", .file "{{ £title }}"),
    ("/work/post.md", .file "# A"), ("/home", .directory), ("/home/.pagewright", .directory),
    ("/home/.pagewright/logs", .directory),
    ("/home/.pagewright/logs/1970-01-01.jsonl", .file "{{ £title }}")]

/-- A template does not stay as it is if it is the file of a page, nor if it is a log. -/
theorem not_forall_sources_kept :
    (¬ ∀ (settings : Settings) (directory : Path) (call : Call) (machine : Machine),
        ∀ name ∈ sourceNames settings call,
          ((render settings directory call :
              Action (StateM Machine) (List RenderedPage)).run machine).2.files.text?
              (directory.resolve name) =
            machine.files.text? (directory.resolve name)) ∧
      ¬ ∀ (settings : Settings) (directory : Path) (call : Call) (machine : Machine),
        ∀ name ∈ sourceNames settings call,
          directory.resolve name ∉ pageFiles settings directory call →
            ((render settings directory call :
                Action (StateM Machine) (List RenderedPage)).run machine).2.files.text?
                (directory.resolve name) =
              machine.files.text? (directory.resolve name) := by
  constructor
  · intro h
    have hkept := h {} ⟨["work"]⟩ ⟨["post.md"], [("template", .one "post.html")], false⟩ desk
      "post.html" (by decide)
    exact absurd hkept (by decide +kernel)
  · intro h
    have hkept := h {} ⟨["work"]⟩
      ⟨["post.md"], [("template", .one "/home/.pagewright/logs/1970-01-01.jsonl"),
        ("stdout", .present)], false⟩ desk
      "/home/.pagewright/logs/1970-01-01.jsonl" (by decide) (by decide +kernel)
    exact absurd hkept (by decide +kernel)

end Render

end StaticPages.Command
