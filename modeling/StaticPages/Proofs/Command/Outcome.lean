import StaticPages.Proofs.Command.Action

namespace StaticPages.Command

open Machine (Keeps)

section Print

/-- Whether an action prints, and does nothing else. -/
def Prints (x : Action (StateM Machine) Unit) : Prop :=
  ∀ machine, ∃ stdout, x.run machine = (.ok (), { machine with stdout })

theorem prints_print (text : String) : Prints (print text) :=
  fun _ => ⟨_, rfl⟩

theorem prints_pure : Prints (pure ()) :=
  fun machine => ⟨machine.stdout, rfl⟩

theorem prints_bind {x y : Action (StateM Machine) Unit} (hx : Prints x) (hy : Prints y) :
    Prints (x >>= fun _ => y) := by
  intro machine
  obtain ⟨first, hfirst⟩ := hx machine
  obtain ⟨second, hsecond⟩ := hy { machine with stdout := first }
  exact ⟨second, by rw [run_bind, hfirst]; exact hsecond⟩

theorem prints_forM {α : Type} {f : α → Action (StateM Machine) Unit} (h : ∀ a, Prints (f a))
    (xs : List α) : Prints (xs.forM f) := by
  induction xs with
  | nil => exact prints_pure
  | cons x rest ih => exact prints_bind (h x) ih

theorem prints_printPage (json : Bool) (pages : List RenderedPage) :
    Prints (printPage json pages) := by
  unfold printPage
  split
  · exact prints_pure
  · split
    · exact prints_print _
    · exact prints_print _

theorem prints_printSummaries (json : Bool) (directory : Path) (pages : List RenderedPage) :
    Prints (printSummaries json directory pages) := by
  unfold printSummaries
  split
  · exact prints_print _
  · exact prints_forM (fun _ => prints_print _) pages

/-- What is printed of the pages at last cannot fail. -/
theorem run_report (json toStdout : Bool) (directory : Path) (pages : List RenderedPage)
    (machine : Machine) :
    ∃ stdout, (if toStdout then printPage json pages >>= fun _ => pure pages
      else printSummaries json directory pages >>= fun _ => pure pages :
        Action (StateM Machine) (List RenderedPage)).run machine =
          (.ok pages, { machine with stdout }) := by
  cases toStdout with
  | true =>
    obtain ⟨stdout, hprinted⟩ := prints_printPage json pages machine
    exact ⟨stdout, run_bind_eq_ok_iff.mpr ⟨(), _, hprinted, rfl⟩⟩
  | false =>
    obtain ⟨stdout, hprinted⟩ := prints_printSummaries json directory pages machine
    exact ⟨stdout, run_bind_eq_ok_iff.mpr ⟨(), _, hprinted, rfl⟩⟩

end Print

section Inputs

variable {plan : RenderPlan} {renderer : Renderer} {directory : Path} {template : String}
  {machine after : Machine} {fault : Fault}

/-- Why an input is not rendered: its file cannot be read, the document or the template is a
    wrong one, or its page cannot be written. -/
inductive InputFault (plan : RenderPlan) (renderer : Renderer) (directory : Path)
    (template : String) (files : FileSystem) (input : String) : Fault → Prop where
  | unreadable {e : FileError} (hsource : files.read (directory.resolve input) = .error e) :
      InputFault plan renderer directory template files input (.file e)
  | rejected {source : String} {e : RenderError}
      (hsource : files.read (directory.resolve input) = .ok source)
      (hrender : Document.render renderer plan.precedence source template = .error (.render e)) :
      InputFault plan renderer directory template files input (.page input e)
  | foreign {source message : String}
      (hsource : files.read (directory.resolve input) = .ok source)
      (hrender : Document.render renderer plan.precedence source template =
        .error (.foreign message)) :
      InputFault plan renderer directory template files input (.foreign message)
  | unwritten {source : String} {page : Page} {e : FileError}
      (hsource : files.read (directory.resolve input) = .ok source)
      (hrender : Document.render renderer plan.precedence source template = .ok page)
      (hstdout : plan.toStdout = false)
      (hwrite : files.RefusesText (plan.output input) page.html e) :
      InputFault plan renderer directory template files input (.file e)

/-- The event that tells of an input that was rejected. -/
def RenderPlan.rejection (plan : RenderPlan) (input : String) (e : RenderError) : Log.Event :=
  .rendering { failed := true, input, template := plan.template, message := some e.message }

theorem run_renderSource (input source : String) (machine : Machine) :
    (renderSource plan renderer template input source : Action (StateM Machine) Page).run machine =
      match Document.render renderer plan.precedence source template with
      | .ok page => (.ok page, machine)
      | .error (.foreign message) => (.error (.foreign message), machine)
      | .error (.render e) =>
        (.error (.page input e), (Machine.log (plan.rejection input e) machine).2) := by
  unfold renderSource
  cases Document.render renderer plan.precedence source template with
  | ok page => rfl
  | error cause => cases cause <;> rfl

/-- An input that is not rendered leaves all files as they are, but for logs. -/
theorem inputFault_of_renderInput {input : String}
    (h : (renderInput plan renderer directory template input :
      Action (StateM Machine) RenderedPage).run machine = (.error fault, after)) :
    InputFault plan renderer directory template machine.files input fault ∧
      Keeps [] machine after := by
  rw [renderInput, run_bind, run_readText] at h
  cases hsource : machine.files.read (directory.resolve input) with
  | error e =>
    rw [hsource] at h
    cases h
    exact ⟨.unreadable hsource, Std.Refl.refl machine⟩
  | ok source =>
    rw [hsource] at h
    dsimp only at h
    rw [run_bind, run_renderSource] at h
    cases hrender : Document.render renderer plan.precedence source template with
    | error cause =>
      rw [hrender] at h
      cases cause with
      | foreign message =>
        cases h
        exact ⟨.foreign hsource hrender, Std.Refl.refl machine⟩
      | render e =>
        cases h
        exact ⟨.rejected hsource hrender, Machine.keeps_log _ machine⟩
    | ok page =>
      rw [hrender] at h
      cases hstdout : plan.toStdout with
      | true =>
        -- A page that is only to be printed needs nothing more that could fail.
        rw [hstdout] at h
        cases h
      | false =>
        rw [hstdout] at h
        obtain hwrite | ⟨_, written, -, hrest⟩ := run_bind_eq_error_iff.mp h
        · obtain ⟨e, rfl, hrefused, hkeeps⟩ := refused_of_writeText hwrite
          exact ⟨.unwritten hsource hrender hstdout hrefused, hkeeps⟩
        · cases hrest

/-- A run over some inputs that fails has rendered those before one of them, and stopped at
    that one. -/
theorem run_renderInputs_eq_error_iff {inputs : List String} :
    (renderInputs plan renderer directory template inputs :
        Action (StateM Machine) (List RenderedPage)).run machine = (.error fault, after) ↔
      ∃ done input rest pages between, inputs = done ++ input :: rest ∧
        (renderInputs plan renderer directory template done :
          Action (StateM Machine) (List RenderedPage)).run machine = (.ok pages, between) ∧
        (renderInput plan renderer directory template input :
          Action (StateM Machine) RenderedPage).run between = (.error fault, after) := by
  induction inputs generalizing machine with
  | nil =>
    constructor
    · intro h
      cases h
    · rintro ⟨done, input, rest, pages, between, hsplit, -⟩
      simp at hsplit
  | cons first others ih =>
    rw [renderInputs, run_bind_eq_error_iff]
    constructor
    · rintro (hfirst | ⟨page, between, hfirst, hrest⟩)
      · exact ⟨[], first, others, [], machine, rfl, rfl, hfirst⟩
      · obtain hothers | ⟨pages, last, -, hdone⟩ := run_bind_eq_error_iff.mp hrest
        · obtain ⟨done, input, rest, pages, stopped, rfl, hpages, hstop⟩ := ih.mp hothers
          refine ⟨first :: done, input, rest, page :: pages, stopped, rfl, ?_, hstop⟩
          exact run_bind_eq_ok_iff.mpr ⟨page, between, hfirst,
            run_bind_eq_ok_iff.mpr ⟨pages, stopped, hpages, rfl⟩⟩
        · cases hdone
    · rintro ⟨done, input, rest, pages, stopped, hsplit, hpages, hstop⟩
      cases done with
      | nil =>
        cases hpages
        obtain ⟨rfl, rfl⟩ := List.cons.inj hsplit
        exact .inl hstop
      | cons head done =>
        obtain ⟨rfl, rfl⟩ := List.cons.inj hsplit
        obtain ⟨page, between, hfirst, hrest⟩ := run_bind_eq_ok_iff.mp hpages
        obtain ⟨others, last, hothers, hdone⟩ := run_bind_eq_ok_iff.mp hrest
        cases hdone
        refine .inr ⟨page, between, hfirst, run_bind_eq_error_iff.mpr (.inl ?_)⟩
        exact ih.mpr ⟨done, input, rest, others, stopped, rfl, hothers, hstop⟩

end Inputs

section Render

variable (settings : Settings) (directory : Path) (call : Call)

/-- Why no input of a call is rendered: it is a wrong one, or its template cannot be read. -/
inductive CallFault (files : FileSystem) : Fault → Prop where
  | usage {problem : UsageProblem}
      (hmake : RenderPlan.make call settings.render directory = .error problem) :
      CallFault files (.usage problem)
  | template {plan : RenderPlan} {e : FileError}
      (hmake : RenderPlan.make call settings.render directory = .ok plan)
      (hread : files.read (directory.resolve plan.template) = .error e) :
      CallFault files (.file e)

/-- What a call comes to its inputs with. -/
structure Prepared (files : FileSystem) (plan : RenderPlan) (template : String) : Prop where
  help : call.flags.has "help" = false
  make : RenderPlan.make call settings.render directory = .ok plan
  read : files.read (directory.resolve plan.template) = .ok template

/-- How the `render` command ends, from its result and what it leaves. -/
inductive Renders (machine : Machine) : Except Fault (List RenderedPage) → Machine → Prop where
  | helped (hhelp : call.flags.has "help" = true) (stdout : String) :
      Renders machine (.ok []) { machine with stdout }
  | refused {fault : Fault} (hhelp : call.flags.has "help" = false)
      (hfault : CallFault settings directory call machine.files fault) :
      Renders machine (.error fault) machine
  | stopped {plan : RenderPlan} {template : String} {fault : Fault} {after : Machine}
      (hprepared : Prepared settings directory call machine.files plan template)
      (hinputs : (renderInputs plan settings.markdown.renderer directory template call.words :
        Action (StateM Machine) (List RenderedPage)).run machine = (.error fault, after)) :
      Renders machine (.error fault) after
  | finished {plan : RenderPlan} {template : String} {pages : List RenderedPage}
      {between : Machine} (hprepared : Prepared settings directory call machine.files plan template)
      (hinputs : (renderInputs plan settings.markdown.renderer directory template call.words :
        Action (StateM Machine) (List RenderedPage)).run machine = (.ok pages, between))
      (stdout : String) :
      Renders machine (.ok pages) { between with stdout }

theorem renders_render (machine : Machine) :
    Renders settings directory call machine
      ((render settings directory call : Action (StateM Machine) (List RenderedPage)).run
        machine).1
      ((render settings directory call : Action (StateM Machine) (List RenderedPage)).run
        machine).2 := by
  unfold render
  split
  · next hhelp =>
    obtain ⟨stdout, hprinted⟩ := prints_print
      ((if call.json then Json.quote renderHelp else renderHelp) ++ "\n") machine
    rw [printMessage, run_bind, hprinted]
    exact .helped hhelp stdout
  · next hhelp =>
    have hhelp : call.flags.has "help" = false := by simpa using hhelp
    cases hmake : RenderPlan.make call settings.render directory with
    | error problem => exact .refused hhelp (.usage hmake)
    | ok plan =>
      rw [run_bind, run_readText]
      cases hread : machine.files.read (directory.resolve plan.template) with
      | error e => exact .refused hhelp (.template hmake hread)
      | ok template =>
        have hprepared : Prepared settings directory call machine.files plan template :=
          ⟨hhelp, hmake, hread⟩
        dsimp only
        rw [run_bind]
        cases hinputs : (renderInputs plan settings.markdown.renderer directory template
            call.words : Action (StateM Machine) (List RenderedPage)).run machine with
        | mk result between =>
          cases result with
          | error fault => exact .stopped hprepared hinputs
          | ok pages =>
            dsimp only
            obtain ⟨stdout, hreport⟩ := run_report call.json plan.toStdout directory pages between
            rw [hreport]
            exact .finished hprepared hinputs stdout

end Render

end StaticPages.Command
