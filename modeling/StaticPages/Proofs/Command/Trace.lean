import StaticPages.Proofs.Command.Failure
import StaticPages.Proofs.Command.Simulation

namespace StaticPages.Command

open Log (Event)

/-- A machine with the events that were logged on it, also those that its logger drops. -/
structure Traced where
  machine : Machine
  events : List Event

namespace Traced

/-- Does on the machine what logs nothing. -/
def onMachine {α : Type} (operation : StateM Machine α) : StateM Traced α := fun traced =>
  let (value, machine) := operation traced.machine
  (value, { traced with machine })

instance : FileAccess (StateM Traced) where
  isPresent p := onMachine (FileAccess.isPresent p)
  read p := onMachine (FileAccess.read p)
  makeDirectory p := onMachine (FileAccess.makeDirectory p)
  write p text := onMachine (FileAccess.write p text)
  append p text := onMachine (FileAccess.append p text)

instance : Console (StateM Traced) where
  print text := onMachine (Console.print text)
  printError text := onMachine (Console.printError text)

instance : Journal (StateM Traced) where
  disable := onMachine Journal.disable
  enable := onMachine Journal.enable
  configure options := onMachine (Journal.configure options)
  record e := fun traced =>
    ((), ⟨(Machine.log e traced.machine).2, traced.events ++ [e]⟩)

/-- Whether a traced machine is a machine on which some events were logged. -/
def Holds (events : List Event) (traced : Traced) (machine : Machine) : Prop :=
  traced = ⟨machine, events⟩

/-- Files and the console are those of the machine, whatever has been logged. -/
theorem mirrors_holds (events : List Event) :
    Mirrors (fun _ => True) (fun _ => True) (Holds events) where
  isPresent _ := by
    rintro _ machine rfl
    exact ⟨rfl, rfl⟩
  readText _ := by
    rintro _ machine rfl
    rw [readText, readText, run_attempt, run_attempt]
    exact ⟨rfl, rfl⟩
  writeText _ text := by
    refine simulates_bind ?_ fun _ => ?_
    · rintro _ machine rfl
      rw [run_attempt, run_attempt]
      exact ⟨rfl, rfl⟩
    · rintro _ machine rfl
      rw [run_attempt, run_attempt]
      exact ⟨rfl, rfl⟩
  print text := by
    rintro _ machine rfl
    exact ⟨rfl, rfl⟩

end Traced

section Tells

variable {α β : Type} {x : Action (StateM Traced) α} {y : Action (StateM Machine) α}
  {f : α → Action (StateM Traced) β} {g : α → Action (StateM Machine) β}
  {machine between : Machine} {told later : List Event}

/-- Whether an action does on a traced machine what another one does on the machine, and logs
    some events meanwhile. -/
def Tells (x : Action (StateM Traced) α) (y : Action (StateM Machine) α) (machine : Machine)
    (told : List Event) : Prop :=
  ∀ events, x.run ⟨machine, events⟩ = ((y.run machine).1, ⟨(y.run machine).2, events ++ told⟩)

theorem tells_of_simulates (h : ∀ events, Simulates (Traced.Holds events) x y)
    (machine : Machine) : Tells x y machine [] := by
  intro events
  obtain ⟨hresult, hafter⟩ := h events ⟨machine, events⟩ machine rfl
  rw [List.append_nil]
  exact Prod.ext hresult hafter

theorem tells_record (e : Event) (machine : Machine) :
    Tells (record e : Action (StateM Traced) Unit) (record e) machine [e] :=
  fun _ => rfl

theorem tells_stop (fault : Fault) (machine : Machine) :
    Tells (stop fault : Action (StateM Traced) α) (stop fault) machine [] :=
  tells_of_simulates (fun _ => simulates_stop fault) machine

theorem tells_pure (a : α) (machine : Machine) :
    Tells (pure a : Action (StateM Traced) α) (pure a) machine [] :=
  tells_of_simulates (fun _ => simulates_pure a) machine

theorem tells_readText (p : Path) (machine : Machine) :
    Tells (readText p : Action (StateM Traced) String) (readText p) machine [] :=
  tells_of_simulates (fun events => (Traced.mirrors_holds events).readText trivial) machine

theorem tells_writeText (p : Path) (text : String) (machine : Machine) :
    Tells (writeText p text : Action (StateM Traced) Unit) (writeText p text) machine [] :=
  tells_of_simulates (fun events => (Traced.mirrors_holds events).writeText trivial text) machine

theorem tells_print (text : String) (machine : Machine) :
    Tells (print text : Action (StateM Traced) Unit) (print text) machine [] :=
  tells_of_simulates (fun events => (Traced.mirrors_holds events).print text) machine

theorem tells_prepareLog (env : Environment) (loaded : Loaded) (disabled : Bool)
    (machine : Machine) :
    Tells (ExceptT.lift (prepareLog env loaded disabled) : Action (StateM Traced) Unit)
      (ExceptT.lift (prepareLog env loaded disabled)) machine [] := by
  refine tells_of_simulates ?_ machine
  rintro events _ machine rfl
  cases disabled <;> exact ⟨rfl, rfl⟩

/-- Where the first of two actions succeeds, the events of the second follow its own. -/
theorem tells_bind_of_ok {a : α} {all : List Event} (hrun : y.run machine = (.ok a, between))
    (hx : Tells x y machine told) (hf : Tells (f a) (g a) between later)
    (hall : all = told ++ later) : Tells (x >>= f) (y >>= g) machine all := by
  subst hall
  intro events
  rw [run_bind, run_bind, hx events, hrun]
  dsimp only
  rw [hf, List.append_assoc]

theorem tells_bind_of_error {fault : Fault} (hrun : y.run machine = (.error fault, between))
    (hx : Tells x y machine told) : Tells (x >>= f) (y >>= g) machine told := by
  intro events
  rw [run_bind, run_bind, hx events, hrun]

/-- What is tried tells what it would tell otherwise. -/
theorem tells_try (hx : Tells x y machine told) :
    Tells (ExceptT.lift x.run) (ExceptT.lift y.run) machine told := by
  intro events
  rw [run_lift, run_lift, hx events]

end Tells

section Inputs

variable {plan : RenderPlan} {renderer : Renderer} {directory : Path} {template : String}
  {machine between after : Machine}

/-- The event that tells of a page. -/
def RenderPlan.rendering (plan : RenderPlan) (page : RenderedPage) : Event :=
  .rendering
    { failed := false, input := page.input, template := plan.template,
      output := page.output.map Path.toText, placeholders := some page.placeholders }

/-- The events that tell of a fault in an input: one if the input is rejected, and none
    otherwise. -/
def RenderPlan.rejections (plan : RenderPlan) : Fault → List Event
  | .page input e => [plan.rejection input e]
  | _ => []

/-- The events that tell how an input was rendered. -/
def RenderPlan.told (plan : RenderPlan) : Except Fault RenderedPage → List Event
  | .ok page => [plan.rendering page]
  | .error fault => plan.rejections fault

theorem tells_renderSource (input source : String) (machine : Machine) :
    Tells (renderSource plan renderer template input source : Action (StateM Traced) Page)
      (renderSource plan renderer template input source) machine
      (match Document.render renderer plan.precedence source template with
      | .error (.render e) => [plan.rejection input e]
      | _ => []) := by
  unfold renderSource
  cases Document.render renderer plan.precedence source template with
  | ok page => exact tells_pure page machine
  | error cause =>
    cases cause with
    | foreign message => exact tells_stop _ machine
    | render e => exact fun _ => rfl

theorem tells_renderInput {input : String} {result : Except Fault RenderedPage}
    (h : (renderInput plan renderer directory template input :
      Action (StateM Machine) RenderedPage).run machine = (result, after)) :
    Tells (renderInput plan renderer directory template input :
        Action (StateM Traced) RenderedPage)
      (renderInput plan renderer directory template input) machine (plan.told result) := by
  obtain rfl := congrArg Prod.fst h
  intro events
  rw [renderInput, renderInput, run_bind, run_bind, tells_readText, run_readText, List.append_nil]
  cases machine.files.read (directory.resolve input) with
  | error e => simp [RenderPlan.told, RenderPlan.rejections]
  | ok source =>
    dsimp only
    rw [run_bind, run_bind, tells_renderSource, run_renderSource]
    cases Document.render renderer plan.precedence source template with
    | error cause =>
      cases cause with
      | foreign message => rfl
      | render e => rfl
    | ok page =>
      dsimp only
      rw [List.append_nil]
      cases plan.toStdout with
      | true => rfl
      | false =>
        -- A page tells of itself only once it is in its file.
        simp only [Bool.false_eq_true, if_false]
        rw [run_bind, run_bind, tells_writeText, List.append_nil]
        cases hwrite : (writeText (plan.output input) page.html :
            Action (StateM Machine) Unit).run machine with
        | mk result after =>
          cases result with
          | ok _ => rfl
          | error fault =>
            obtain ⟨e, rfl, -⟩ := refused_of_writeText hwrite
            simp [RenderPlan.told, RenderPlan.rejections]

/-- Inputs that are all rendered tell of their pages, in their order. -/
theorem tells_renderInputs {inputs : List String} {pages : List RenderedPage}
    (h : (renderInputs plan renderer directory template inputs :
      Action (StateM Machine) (List RenderedPage)).run machine = (.ok pages, after)) :
    Tells (renderInputs plan renderer directory template inputs :
        Action (StateM Traced) (List RenderedPage))
      (renderInputs plan renderer directory template inputs) machine
      (pages.map plan.rendering) := by
  induction inputs generalizing machine pages with
  | nil =>
    cases h
    exact tells_pure [] after
  | cons input rest ih =>
    obtain ⟨page, between, hfirst, hrest⟩ := run_bind_eq_ok_iff.mp h
    obtain ⟨others, _, hothers, hdone⟩ := run_bind_eq_ok_iff.mp hrest
    cases hdone
    refine tells_bind_of_ok hfirst (tells_renderInput hfirst) ?_ rfl
    exact tells_bind_of_ok hothers (ih hothers) (tells_pure _ after) (List.append_nil _).symm

/-- Inputs one of which is not rendered tell of the pages of those before it, and of the fault
    if the input is rejected. -/
theorem tells_renderInputs_append {done rest : List String} {input : String}
    {pages : List RenderedPage} {fault : Fault}
    (hpages : (renderInputs plan renderer directory template done :
      Action (StateM Machine) (List RenderedPage)).run machine = (.ok pages, between))
    (hstop : (renderInput plan renderer directory template input :
      Action (StateM Machine) RenderedPage).run between = (.error fault, after)) :
    Tells (renderInputs plan renderer directory template (done ++ input :: rest) :
        Action (StateM Traced) (List RenderedPage))
      (renderInputs plan renderer directory template (done ++ input :: rest)) machine
      (pages.map plan.rendering ++ plan.rejections fault) := by
  -- Each page before the fault puts its event in front of what the later inputs tell.
  induction done generalizing machine pages with
  | nil =>
    cases hpages
    exact tells_bind_of_error hstop (tells_renderInput hstop)
  | cons first done ih =>
    obtain ⟨page, second, hfirst, hrest⟩ := run_bind_eq_ok_iff.mp hpages
    obtain ⟨others, last, hothers, hdone⟩ := run_bind_eq_ok_iff.mp hrest
    cases hdone
    have hfails : (renderInputs plan renderer directory template (done ++ input :: rest) :
        Action (StateM Machine) (List RenderedPage)).run second = (.error fault, after) :=
      run_renderInputs_eq_error_iff.mpr ⟨done, input, rest, others, between, rfl, hothers, hstop⟩
    exact tells_bind_of_ok hfirst (tells_renderInput hfirst)
      (tells_bind_of_error hfails (ih hothers)) rfl

end Inputs

section Render

variable (settings : Settings) (directory : Path) (call : Call)

/-- What a `render` command tells between its begin and its end, by the way it ends. -/
inductive RenderTrace (machine : Machine) :
    Except Fault (List RenderedPage) → List Event → Prop where
  | refused {fault : Fault} (hfault : CallFault settings directory call machine.files fault) :
      RenderTrace machine (.error fault) []
  | stopped {plan : RenderPlan} {template : String} {done rest : List String} {input : String}
      {pages : List RenderedPage} {between : Machine} {fault : Fault}
      (hprepared : Prepared settings directory call machine.files plan template)
      (hwords : call.words = done ++ input :: rest)
      (hpages : (renderInputs plan settings.markdown.renderer directory template done :
        Action (StateM Machine) (List RenderedPage)).run machine = (.ok pages, between))
      (hinputs : pages.map RenderedPage.input = done)
      (hfault : InputFault plan settings.markdown.renderer directory template between.files input
        fault) :
      RenderTrace machine (.error fault) (pages.map plan.rendering ++ plan.rejections fault)
  | finished {plan : RenderPlan} {template : String} {pages : List RenderedPage}
      {between : Machine}
      (hprepared : Prepared settings directory call machine.files plan template)
      (hpages : (renderInputs plan settings.markdown.renderer directory template call.words :
        Action (StateM Machine) (List RenderedPage)).run machine = (.ok pages, between))
      (hinputs : pages.map RenderedPage.input = call.words) :
      RenderTrace machine (.ok pages) (pages.map plan.rendering)

theorem tells_report (json toStdout : Bool) (directory : Path) (pages : List RenderedPage)
    (machine : Machine) :
    Tells (if toStdout then printPage json pages >>= fun _ => pure pages
        else printSummaries json directory pages >>= fun _ => pure pages)
      (if toStdout then printPage json pages >>= fun _ => pure pages
        else printSummaries json directory pages >>= fun _ => pure pages) machine [] := by
  refine tells_of_simulates (fun events => ?_) machine
  cases toStdout with
  | true =>
    exact simulates_bind (simulates_printPage (Traced.mirrors_holds events) json pages)
      fun _ => simulates_pure pages
  | false =>
    exact simulates_bind
      (simulates_printSummaries (Traced.mirrors_holds events) json directory pages)
      fun _ => simulates_pure pages

variable {call}

theorem tells_render (hhelp : call.flags.has "help" = false) (machine : Machine) :
    ∃ told, RenderTrace settings directory call machine
        ((render settings directory call : Action (StateM Machine) (List RenderedPage)).run
          machine).1 told ∧
      Tells (render settings directory call : Action (StateM Traced) (List RenderedPage))
        (render settings directory call) machine told := by
  unfold render
  rw [if_neg (by simp [hhelp]), if_neg (by simp [hhelp])]
  cases hmake : RenderPlan.make call settings.render directory with
  | error problem => exact ⟨[], .refused (.usage hmake), tells_stop _ machine⟩
  | ok plan =>
    have hread := run_readText (directory.resolve plan.template) machine
    cases hsource : machine.files.read (directory.resolve plan.template) with
    | error e =>
      rw [hsource] at hread
      refine ⟨[], ?_, tells_bind_of_error hread (tells_readText _ machine)⟩
      dsimp only
      rw [run_bind, hread]
      exact .refused (.template hmake hsource)
    | ok template =>
      rw [hsource] at hread
      have hprepared : Prepared settings directory call machine.files plan template :=
        ⟨hhelp, hmake, hsource⟩
      dsimp only
      rw [run_bind, hread]
      dsimp only
      cases hinputs : (renderInputs plan settings.markdown.renderer directory template call.words :
          Action (StateM Machine) (List RenderedPage)).run machine with
      | mk result between =>
        rw [run_bind, hinputs]
        cases result with
        | error fault =>
          -- What was told before the fault shows only in a run over the inputs before it.
          obtain ⟨done, input, rest, pages, reached, hwords, hpages, hstop⟩ :=
            run_renderInputs_eq_error_iff.mp hinputs
          refine ⟨_, .stopped hprepared hwords hpages
            (makes_of_renderInputs (fun _ hp => hp) hpages).1
            (inputFault_of_renderInput hstop).1, ?_⟩
          rw [hwords] at hinputs ⊢
          exact tells_bind_of_ok hread (tells_readText _ machine)
            (tells_bind_of_error hinputs (tells_renderInputs_append hpages hstop)) rfl
        | ok pages =>
          obtain ⟨stdout, hreport⟩ := run_report call.json plan.toStdout directory pages between
          dsimp only
          rw [hreport]
          refine ⟨_, .finished hprepared hinputs
            (makes_of_renderInputs (fun _ hp => hp) hinputs).1, ?_⟩
          refine tells_bind_of_ok hread (tells_readText _ machine) ?_ rfl
          exact tells_bind_of_ok hinputs (tells_renderInputs hinputs)
            (tells_report _ _ directory pages between) (List.append_nil _).symm

end Render

section Run

variable {env : Environment} {settings : Settings} {command : String} {call : Call}
  {machine : Machine} {told : List Event}

/-- The events that tell how a command ended. -/
def ending (words : List String) : Except Fault Unit → List Event
  | .ok () => [.result words 0 none]
  | .error fault =>
    [.error (if fault.isOwn then some fault.code.text else none) fault.message
        (some { command := some words }),
      .result words 1 none]

/-- The event that tells of a call. -/
def Call.beginning (call : Call) (command : String) (directory : Path) : Event :=
  .command (command :: call.words) call.words call.flags directory.toText

theorem tells_load (env : Environment) (machine : Machine) :
    Tells (load env : Action (StateM Traced) Loaded) (load env) machine [] :=
  tells_of_simulates
    (fun events => simulates_load (Traced.mirrors_holds events) (fun _ => trivial) env) machine

theorem dispatch_render {m : Type → Type} [Monad m] [FileAccess m] [Console m] [Journal m]
    (settings : Settings) (directory : Path) (call : Call) :
    (dispatch settings directory "render" call : Action m Unit) =
      (render settings directory call >>= fun _ => pure ()) :=
  rfl

theorem tells_dispatch_of_ne (h : command ≠ "render") (directory : Path) (machine : Machine) :
    Tells (dispatch settings directory command call : Action (StateM Traced) Unit)
      (dispatch settings directory command call) machine [] := by
  unfold dispatch
  split
  · exact absurd rfl h
  · exact tells_of_simulates
      (fun events => simulates_inspect (Traced.mirrors_holds events) fun _ => trivial) machine
  · exact tells_print _ machine
  · exact tells_stop _ machine

/-- What a command tells between its begin and its end, by its name and its result: only
    `render` tells anything. -/
inductive CommandTrace (settings : Settings) (directory : Path) (call : Call) (machine : Machine) :
    String → Except Fault Unit → List Event → Prop where
  | render {rendered : Except Fault (List RenderedPage)} {told : List Event}
      (htrace : RenderTrace settings directory call machine rendered told) :
      CommandTrace settings directory call machine "render" (rendered.map fun _ => ()) told
  | other {command : String} (hother : command ≠ "render") (result : Except Fault Unit) :
      CommandTrace settings directory call machine command result []

theorem tells_dispatch (hhelp : call.flags.has "help" = false) (settings : Settings)
    (directory : Path) (command : String) (machine : Machine) :
    ∃ told, CommandTrace settings directory call machine command
        ((dispatch settings directory command call : Action (StateM Machine) Unit).run
          machine).1 told ∧
      Tells (dispatch settings directory command call : Action (StateM Traced) Unit)
        (dispatch settings directory command call) machine told := by
  by_cases hrender : command = "render"
  · subst hrender
    obtain ⟨told, htrace, htells⟩ := tells_render settings directory hhelp machine
    refine ⟨told, ?_⟩
    rw [dispatch_render, dispatch_render]
    cases hrun : (render settings directory call :
        Action (StateM Machine) (List RenderedPage)).run machine with
    | mk result after =>
      rw [hrun] at htrace
      rw [run_bind, hrun]
      cases result with
      | ok pages =>
        exact ⟨.render htrace,
          tells_bind_of_ok hrun htells (tells_pure () after) (List.append_nil _).symm⟩
      | error fault => exact ⟨.render htrace, tells_bind_of_error hrun htells⟩
  · exact ⟨[], .other hrender _, tells_dispatch_of_ne hrender directory machine⟩

theorem tells_recordEnd (words : List String) (fault : Fault) (machine : Machine) :
    Tells (recordEnd words (some fault) : Action (StateM Traced) Unit)
      (recordEnd words (some fault)) machine (ending words (.error fault)) :=
  tells_bind_of_ok rfl (tells_record _ machine) (tells_record _ _) rfl

/-- A command that is called tells of its begin, of what it does and of its end. -/
theorem tells_runLogged (env : Environment) (machine : Machine)
    (hdispatch : Tells
      (dispatch settings env.directory command call : Action (StateM Traced) Unit)
      (dispatch settings env.directory command call)
      (Machine.log (call.beginning command env.directory) machine).2 told) :
    let result := ((dispatch settings env.directory command call :
      Action (StateM Machine) Unit).run
        (Machine.log (call.beginning command env.directory) machine).2).1
    ((runLogged env settings command call : Action (StateM Machine) Unit).run machine).1 = result ∧
      Tells (runLogged env settings command call : Action (StateM Traced) Unit)
        (runLogged env settings command call) machine
        (call.beginning command env.directory :: told ++
          ending (command :: call.words) result) := by
  unfold runLogged
  have hbegin : (record (call.beginning command env.directory) :
      Action (StateM Machine) Unit).run machine =
        (.ok (), (Machine.log (call.beginning command env.directory) machine).2) := rfl
  cases hrun : (dispatch settings env.directory command call : Action (StateM Machine) Unit).run
      (Machine.log (call.beginning command env.directory) machine).2 with
  | mk result after =>
    have htry : (ExceptT.lift (dispatch settings env.directory command call :
        Action (StateM Machine) Unit).run : Action (StateM Machine) _).run
          (Machine.log (call.beginning command env.directory) machine).2 = (.ok result, after) := by
      rw [run_lift, hrun]
    dsimp only
    rw [← Call.beginning, run_bind, hbegin]
    dsimp only
    rw [run_bind, htry]
    cases result with
    | ok _ =>
      refine ⟨rfl, tells_bind_of_ok hbegin (tells_record _ machine) ?_ rfl⟩
      exact tells_bind_of_ok htry (tells_try hdispatch) (tells_record _ after) rfl
    | error fault =>
      refine ⟨rfl, tells_bind_of_ok hbegin (tells_record _ machine) ?_ rfl⟩
      refine tells_bind_of_ok htry (tells_try hdispatch) ?_ rfl
      exact tells_bind_of_ok rfl (tells_recordEnd _ fault after) (tells_stop fault _)
        (List.append_nil _).symm

/-- Whether a command line calls a command: the settings can be loaded, there is a first word,
    and neither the version nor help is asked for. -/
structure Calls (env : Environment) (files : FileSystem) (tokens : List String) (loaded : Loaded)
    (command : String) (call : Call) : Prop where
  load : loadIn files env = .ok loaded
  words : (Arguments.parse switches tokens).positional = command :: call.words
  flags : (Arguments.parse switches tokens).flags = call.flags
  json : call.flags.has "json" = call.json
  version : (call.flags.has "version" || call.flags.has "v") = false
  help : (call.flags.has "help" || call.flags.has "h") = false

theorem Calls.unique {files : FileSystem} {tokens : List String} {loaded loaded' : Loaded}
    {command' : String} {call' : Call} (h : Calls env files tokens loaded command call)
    (h' : Calls env files tokens loaded' command' call') :
    loaded = loaded' ∧ command = command' ∧ call = call' := by
  obtain ⟨words, flags, json⟩ := call
  obtain ⟨words', flags', json'⟩ := call'
  obtain ⟨rfl, rfl⟩ := List.cons.inj (h.words.symm.trans h'.words)
  obtain rfl : flags = flags' := h.flags.symm.trans h'.flags
  obtain rfl : json = json' := h.json.symm.trans h'.json
  exact ⟨Except.ok.inj (h.load.symm.trans h'.load), rfl, rfl⟩

/-- The machine that a called command works on: its log is prepared, and tells of the call. -/
def Machine.called (machine : Machine) (env : Environment) (loaded : Loaded) (command : String)
    (call : Call) : Machine :=
  let ready := ((prepareLog env loaded (call.flags.has "no-log") : StateM Machine Unit) machine).2
  (Machine.log (call.beginning command env.directory) ready).2

theorem tells_run_of_calls {tokens : List String} {loaded : Loaded}
    (hcalls : Calls env machine.files tokens loaded command call)
    (hdispatch : Tells
      (dispatch loaded.settings env.directory command call : Action (StateM Traced) Unit)
      (dispatch loaded.settings env.directory command call)
      (machine.called env loaded command call) told) :
    let result := ((dispatch loaded.settings env.directory command call :
      Action (StateM Machine) Unit).run (machine.called env loaded command call)).1
    ((run env tokens : Action (StateM Machine) Unit).run machine).1 = result ∧
      Tells (run env tokens : Action (StateM Traced) Unit) (run env tokens) machine
        (call.beginning command env.directory :: told ++
          ending (command :: call.words) result) := by
  have hload : (load env : Action (StateM Machine) Loaded).run machine = (.ok loaded, machine) := by
    rw [run_load, hcalls.load]
  obtain ⟨hresult, htells⟩ := tells_runLogged env _ hdispatch
  have hprepared : (ExceptT.lift (prepareLog env loaded (call.flags.has "no-log")) :
      Action (StateM Machine) Unit).run machine =
        (.ok (), ((prepareLog env loaded (call.flags.has "no-log") :
          StateM Machine Unit) machine).2) := rfl
  unfold run
  simp only [hcalls.words, hcalls.flags, hcalls.json, hcalls.version, hcalls.help,
    Bool.false_eq_true, if_false]
  rw [run_bind, hload]
  dsimp only
  rw [run_bind, hprepared]
  refine ⟨hresult, tells_bind_of_ok hload (tells_load env machine) ?_ rfl⟩
  exact tells_bind_of_ok hprepared (tells_prepareLog env loaded _ machine) htells rfl

theorem tells_run_of_not_calls {tokens : List String}
    (h : ∀ loaded command call, ¬ Calls env machine.files tokens loaded command call) :
    Tells (run env tokens : Action (StateM Traced) Unit) (run env tokens) machine [] := by
  have hrun := run_load env machine
  unfold run
  cases hload : loadIn machine.files env with
  | error fault =>
    rw [hload] at hrun
    exact tells_bind_of_error hrun (tells_load env machine)
  | ok loaded =>
    rw [hload] at hrun
    refine tells_bind_of_ok hrun (tells_load env machine) ?_ rfl
    refine tells_bind_of_ok rfl (tells_prepareLog env loaded _ machine) ?_ rfl
    -- The version, help and an empty command line are answered before anything is logged.
    split
    · exact tells_print _ _
    · next hversion =>
      split
      · exact tells_print _ _
      · next command words hwords =>
        split
        · exact tells_print _ _
        · next hhelp =>
          let flags := (Arguments.parse switches tokens).flags
          have hcalls : Calls env machine.files tokens loaded command
              ⟨words, flags, flags.has "json"⟩ :=
            ⟨hload, hwords, rfl, rfl, by simpa using hversion, by simpa using hhelp⟩
          exact absurd hcalls (h _ _ _)

/-- A command line that calls a command logs the call, then what the command tells, then how
    it ended: by its result, with an error before it if the command fails. Only `render` tells
    anything itself: of each page, in the order of its inputs, and of an input that it rejects.
    Any other command line logs nothing. -/
theorem trace_spec (env : Environment) (tokens : List String) (machine : Machine) :
    let result := ((run env tokens : Action (StateM Machine) Unit).run machine).1
    ∃ events, Tells (run env tokens : Action (StateM Traced) Unit) (run env tokens) machine events ∧
      (∀ loaded command call, Calls env machine.files tokens loaded command call →
        ∃ told, events = call.beginning command env.directory :: told ++
            ending (command :: call.words) result ∧
          CommandTrace loaded.settings env.directory call (machine.called env loaded command call)
            command result told) ∧
      ((∀ loaded command call, ¬ Calls env machine.files tokens loaded command call) →
        events = []) := by
  by_cases hexists : ∃ loaded command call, Calls env machine.files tokens loaded command call
  · obtain ⟨loaded, command, call, hcalls⟩ := hexists
    obtain ⟨told, htrace, hdispatch⟩ := tells_dispatch (Bool.or_eq_false_iff.mp hcalls.help).1
      loaded.settings env.directory command (machine.called env loaded command call)
    obtain ⟨hresult, htells⟩ := tells_run_of_calls hcalls hdispatch
    refine ⟨_, htells, fun loaded' command' call' hcalls' => ?_, fun hnone => ?_⟩
    · obtain ⟨rfl, rfl, rfl⟩ := hcalls.unique hcalls'
      rw [hresult]
      exact ⟨told, rfl, htrace⟩
    · exact absurd hcalls (hnone loaded command call)
  · have hnone : ∀ loaded command call, ¬ Calls env machine.files tokens loaded command call :=
      fun loaded command call h => hexists ⟨loaded, command, call, h⟩
    exact ⟨[], tells_run_of_not_calls hnone,
      fun loaded command call h => absurd h (hnone loaded command call), fun _ => rfl⟩

def draftsEnvironment : Environment where
  home := ⟨["home"]⟩
  directory := ⟨["work"]⟩

def draftsTokens : List String :=
  ["render", "a.md", "b.md", "c.md", "--template", "page.html"]

/-- The documents up to the one that is rejected are told of, and the failure at the end. -/
theorem trace_spec_drafts :
    Calls draftsEnvironment drafts.files draftsTokens ⟨{}, none⟩ "render" draftsCall ∧
      let run : Action (StateM Traced) Unit := run draftsEnvironment draftsTokens
      let events := (run.run ⟨drafts, []⟩).2.events
      (∃ told, events = draftsCall.beginning "render" ⟨["work"]⟩ :: told ++
          ending ["render", "a.md", "b.md", "c.md"] (run.run ⟨drafts, []⟩).1 ∧
        CommandTrace {} ⟨["work"]⟩ draftsCall
          (drafts.called draftsEnvironment ⟨{}, none⟩ "render" draftsCall) "render"
          (run.run ⟨drafts, []⟩).1 told) ∧
      events.map Event.typeName =
        ["cli.command", "render.event", "render.event", "error", "cli.result"] := by
  have hcalls : Calls draftsEnvironment drafts.files draftsTokens ⟨{}, none⟩ "render"
      draftsCall := by
    refine ⟨by rfl, by decide +kernel, by decide +kernel, by decide +kernel, by decide +kernel,
      by decide +kernel⟩
  refine ⟨hcalls, ?_, by decide +kernel⟩
  obtain ⟨events, htells, hcalled, -⟩ := trace_spec draftsEnvironment draftsTokens drafts
  rw [htells []]
  exact hcalled _ _ _ hcalls

end Run

end StaticPages.Command
