import StaticPages.Proofs.Command.Load
import StaticPages.Proofs.Command.Outcome

namespace StaticPages.Command

open Machine (Keeps)

/-- What is left of a run that stops at an input: those before it are rendered, their pages
    are in their files, and every other file but for logs is as it was. -/
structure StopsAt (plan : RenderPlan) (renderer : Renderer) (directory : Path) (template : String)
    (machine after : Machine) (done : List String) (input : String) (fault : Fault)
    (pages : List RenderedPage) : Prop where
  stops : ∃ between, (renderInputs plan renderer directory template done :
      Action (StateM Machine) (List RenderedPage)).run machine = (.ok pages, between) ∧
    InputFault plan renderer directory template between.files input fault
  inputs : pages.map RenderedPage.input = done
  made : ∀ page ∈ pages, ∃ between, Keeps (plan.targets done) machine between ∧
    plan.Makes renderer directory template between.files page
  written : ∀ earlier page later, pages = earlier ++ page :: later →
    (∀ other ∈ later, other.output ≠ page.output) →
      ∀ path, page.output = some path → after.files.read path = .ok page.html
  unchanged : ∀ p ∉ plan.targets done, p ∉ machine.logFiles →
    after.files.text? p = machine.files.text? p

section Inputs

variable {plan : RenderPlan} {renderer : Renderer} {directory : Path} {template : String}
  {machine after : Machine}

theorem stopsAt_of_renderInputs {inputs : List String} {fault : Fault}
    (h : (renderInputs plan renderer directory template inputs :
      Action (StateM Machine) (List RenderedPage)).run machine = (.error fault, after)) :
    ∃ done input rest pages, inputs = done ++ input :: rest ∧
      StopsAt plan renderer directory template machine after done input fault pages := by
  obtain ⟨done, input, rest, pages, between, hsplit, hpages, hstop⟩ :=
    run_renderInputs_eq_error_iff.mp h
  obtain ⟨hfault, hkeeps⟩ := inputFault_of_renderInput hstop
  obtain ⟨hinputs, hmakes⟩ := makes_of_renderInputs (fun _ hp => hp) hpages
  have hwithin : Within (Keeps (plan.targets done))
      (renderInputs plan renderer directory template done :
        Action (StateM Machine) (List RenderedPage)) :=
    within_renderInputs (permits_keeps _) (fun _ hp => hp) template
  have hbetween : Keeps (plan.targets done) machine between := by
    have hdone := hwithin machine
    rw [hpages] at hdone
    exact hdone
  refine ⟨done, input, rest, pages, hsplit, ⟨between, hpages, hfault⟩, hinputs, hmakes, ?_, ?_⟩
  · exact fun _ _ _ hpage hlater _ hpath => read_of_keeps hpages hkeeps hpage hlater hpath
  · intro p hp hlog
    rw [hkeeps.files p (by rwa [List.nil_append, hbetween.logFiles])]
    exact text?_of_within hwithin hpages hp hlog

end Inputs

theorem pageFiles_of_stdout {settings : Settings} {directory : Path} {call : Call}
    (h : call.flags.has "stdout" = true) : pageFiles settings directory call = [] := by
  rw [List.eq_nil_iff_forall_not_mem]
  intro p hp
  obtain ⟨-, hstdout, -⟩ := of_mem_pageFiles hp
  exact absurd h (by simp [hstdout])

/-- A `render` command that fails has printed nothing. If it fails before its first input, it
    leaves the machine as it was. Otherwise it stops at an input: the pages of those before it
    are in their files, and no other file is written to but for logs. With `--stdout` no file
    is written to at all, however the command ends. -/
theorem render_failure_spec (settings : Settings) (directory : Path) (call : Call)
    (machine : Machine) :
    (∀ fault after,
      (render settings directory call : Action (StateM Machine) (List RenderedPage)).run machine =
          (.error fault, after) →
        machine.ShowsSame after ∧
          ((CallFault settings directory call machine.files fault ∧ after = machine) ∨
            ∃ plan template done input rest pages,
              Prepared settings directory call machine.files plan template ∧
              call.words = done ++ input :: rest ∧
              StopsAt plan settings.markdown.renderer directory template machine after done input
                fault pages)) ∧
      (call.flags.has "stdout" = true → ∀ p ∉ machine.logFiles,
        ((render settings directory call :
            Action (StateM Machine) (List RenderedPage)).run machine).2.files.text? p =
          machine.files.text? p) := by
  constructor
  · intro fault after hrun
    have hrenders := renders_render settings directory call machine
    rw [hrun] at hrenders
    cases hrenders with
    | refused _ hfault => exact ⟨Std.Refl.refl after, .inl ⟨hfault, rfl⟩⟩
    | @stopped plan template _ _ hprepared hinputs =>
      obtain ⟨done, input, rest, pages, hsplit, hstops⟩ := stopsAt_of_renderInputs hinputs
      have hwithin : Within Machine.ShowsSame
          (renderInputs plan settings.markdown.renderer directory template call.words :
            Action (StateM Machine) (List RenderedPage)) :=
        within_renderInputs (permits_showsSame _) (fun _ hp => hp) template
      have hsame := hwithin machine
      rw [hinputs] at hsame
      exact ⟨hsame, .inr ⟨plan, template, done, input, rest, pages, hprepared, hsplit, hstops⟩⟩
  · intro hstdout p hlog
    exact text?_of_within (keeps_render settings call) rfl
      (by rw [pageFiles_of_stdout hstdout]; exact List.not_mem_nil) hlog

/-- A document without a title between two others. -/
def drafts : Machine :=
  sampleMachine [("/work", .directory), ("/work/page.html", .file "{{ £title }}"),
    ("/work/a.md", .file "# A"), ("/work/b.md", .file "B"), ("/work/c.md", .file "# C")]

def draftsCall : Call :=
  ⟨["a.md", "b.md", "c.md"], [("template", .one "page.html")], false⟩

/-- What is left of `drafts` by an attempt to render all of its documents. -/
def draftsAfter : Machine :=
  ((render {} ⟨["work"]⟩ draftsCall : Action (StateM Machine) (List RenderedPage)).run drafts).2

theorem render_drafts : ∃ fault,
    (render {} ⟨["work"]⟩ draftsCall : Action (StateM Machine) (List RenderedPage)).run drafts =
      (.error fault, draftsAfter) := by
  have hfails : ((render {} ⟨["work"]⟩ draftsCall :
      Action (StateM Machine) (List RenderedPage)).run drafts).1.toOption = none := by
    decide +kernel
  cases hrun : (render {} ⟨["work"]⟩ draftsCall :
      Action (StateM Machine) (List RenderedPage)).run drafts with
  | mk result after =>
    rw [hrun] at hfails
    cases result with
    | ok pages => cases hfails
    | error fault => exact ⟨fault, by rw [draftsAfter, hrun]⟩

/-- The run stops at one of the documents, so the last one has no page. -/
theorem render_failure_spec_drafts :
    (∃ fault, (render {} ⟨["work"]⟩ draftsCall :
        Action (StateM Machine) (List RenderedPage)).run drafts = (.error fault, draftsAfter)) ∧
      draftsAfter.stdout = "" ∧ draftsAfter.files.text? ⟨["work", "c.html"]⟩ = none := by
  obtain ⟨fault, hrun⟩ := render_drafts
  obtain ⟨hsame, hcause⟩ := (render_failure_spec _ _ _ _).1 fault _ hrun
  refine ⟨⟨fault, hrun⟩, hsame.stdout, ?_⟩
  have hnone : drafts.files.text? ⟨["work", "c.html"]⟩ = none := by decide +kernel
  obtain ⟨-, heq⟩ | ⟨plan, template, done, input, rest, pages, hprepared, hsplit, hstops⟩ := hcause
  · rw [heq, hnone]
  · have hmake : RenderPlan.make draftsCall {} ⟨["work"]⟩ =
        .ok ⟨"page.html", .metadata, false, ⟨["work"]⟩⟩ := by rfl
    cases hmake.symm.trans hprepared.make
    have hother : ⟨["work", "c.html"]⟩ ∉
        RenderPlan.targets ⟨"page.html", .metadata, false, ⟨["work"]⟩⟩ done := by
      rcases done with _ | ⟨first, _ | ⟨second, _ | ⟨third, others⟩⟩⟩
      · decide
      · cases hsplit
        decide +kernel
      · cases hsplit
        decide +kernel
      · simp [draftsCall] at hsplit
    rw [hstops.unchanged _ hother (by decide +kernel), hnone]

end StaticPages.Command
