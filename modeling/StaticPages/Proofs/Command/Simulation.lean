import StaticPages.Command.Run
import StaticPages.Proofs.Command.Render

namespace StaticPages.Command

variable {σ τ α β : Type} {R : σ → τ → Prop}

/-- Whether two actions end alike on hosts that are in a relation, and leave hosts that are in
    it again. -/
def Simulates (R : σ → τ → Prop) (x : Action (StateM σ) α) (y : Action (StateM τ) α) : Prop :=
  ∀ s t, R s t → (x.run s).1 = (y.run t).1 ∧ R (x.run s).2 (y.run t).2

theorem simulates_pure (a : α) :
    Simulates R (pure a : Action (StateM σ) α) (pure a : Action (StateM τ) α) :=
  fun _ _ h => ⟨rfl, h⟩

theorem simulates_stop (fault : Fault) :
    Simulates R (stop fault : Action (StateM σ) α) (stop fault : Action (StateM τ) α) :=
  fun _ _ h => ⟨rfl, h⟩

theorem simulates_bind {x : Action (StateM σ) α} {y : Action (StateM τ) α}
    {f : α → Action (StateM σ) β} {g : α → Action (StateM τ) β} (hx : Simulates R x y)
    (hf : ∀ a, Simulates R (f a) (g a)) : Simulates R (x >>= f) (y >>= g) := by
  intro s t h
  obtain ⟨hresult, hafter⟩ := hx s t h
  rw [run_bind, run_bind]
  cases hs : x.run s with
  | mk first s' =>
    cases ht : y.run t with
    | mk second t' =>
      rw [hs, ht] at hresult hafter
      obtain rfl : first = second := hresult
      cases first with
      | ok a => exact hf a s' t' hafter
      | error fault => exact ⟨rfl, hafter⟩

theorem simulates_forM {f : α → Action (StateM σ) Unit} {g : α → Action (StateM τ) Unit}
    (h : ∀ a, Simulates R (f a) (g a)) (xs : List α) : Simulates R (xs.forM f) (xs.forM g) := by
  induction xs with
  | nil => exact simulates_pure ()
  | cons x rest ih => exact simulates_bind (h x) fun _ => ih

section Log

variable [Journal (StateM σ)] [Journal (StateM τ)]

end Log

section Mirrors

variable [FileAccess (StateM σ)] [FileAccess (StateM τ)] [Console (StateM σ)]
  [Console (StateM τ)]

/-- Whether hosts that are in a relation do the same with what is printed and with files, as
    far as these may be read or written. -/
structure Mirrors (reads writes : Path → Prop) (R : σ → τ → Prop) : Prop where
  isPresent {p : Path} (hp : reads p) : Simulates R (isPresent p : Action (StateM σ) Bool)
    (isPresent p : Action (StateM τ) Bool)
  readText {p : Path} (hp : reads p) : Simulates R (readText p : Action (StateM σ) String)
    (readText p : Action (StateM τ) String)
  writeText {p : Path} (hp : writes p) (text : String) :
    Simulates R (writeText p text : Action (StateM σ) Unit)
      (writeText p text : Action (StateM τ) Unit)
  print (text : String) : Simulates R (print text : Action (StateM σ) Unit)
    (print text : Action (StateM τ) Unit)

variable {reads writes : Path → Prop}

theorem simulates_readConfig (hR : Mirrors reads writes R) {p : Path} (hp : reads p) :
    Simulates R (readConfig p : Action (StateM σ) Config)
      (readConfig p : Action (StateM τ) Config) := by
  unfold readConfig
  refine simulates_bind (hR.isPresent hp) fun present => ?_
  cases present with
  | false => exact simulates_pure _
  | true =>
    refine simulates_bind (hR.readText hp) fun text => ?_
    cases Config.parse p text with
    | ok config => exact simulates_pure config
    | error e => exact simulates_stop _

theorem simulates_firstProject (hR : Mirrors reads writes R) (hall : ∀ p, reads p)
    (directories : List Path) :
    Simulates R (ExceptT.lift (firstProject directories) : Action (StateM σ) (Option Path))
      (ExceptT.lift (firstProject directories) : Action (StateM τ) (Option Path)) := by
  induction directories with
  | nil => exact simulates_pure none
  | cons directory rest ih =>
    intro s t h
    obtain ⟨hresult, hafter⟩ := hR.isPresent (hall (settingsFile directory)) s t h
    simp only [isPresent, run_lift, Except.ok.injEq] at hresult hafter
    simp only [run_lift, firstProject, bind_apply]
    rw [hresult]
    cases ((FileAccess.isPresent (settingsFile directory) : StateM τ Bool) t).1 with
    | false => exact ih _ _ hafter
    | true => exact ⟨rfl, hafter⟩

theorem simulates_load (hR : Mirrors reads writes R) (hall : ∀ p, reads p) (env : Environment) :
    Simulates R (load env : Action (StateM σ) Loaded) (load env : Action (StateM τ) Loaded) := by
  unfold load
  refine simulates_bind (simulates_readConfig hR (hall _)) fun user => ?_
  refine simulates_bind (simulates_firstProject hR hall _) fun found => ?_
  cases found with
  | none => exact simulates_pure _
  | some root =>
    exact simulates_bind (simulates_readConfig hR (hall _)) fun _ => simulates_pure _

theorem simulates_printPage (hR : Mirrors reads writes R) (json : Bool)
    (pages : List RenderedPage) :
    Simulates R (printPage json pages : Action (StateM σ) Unit)
      (printPage json pages : Action (StateM τ) Unit) := by
  cases pages with
  | nil => exact simulates_pure ()
  | cons page rest => cases json <;> exact hR.print _

theorem simulates_printSummaries (hR : Mirrors reads writes R) (json : Bool) (directory : Path)
    (pages : List RenderedPage) :
    Simulates R (printSummaries json directory pages : Action (StateM σ) Unit)
      (printSummaries json directory pages : Action (StateM τ) Unit) := by
  cases json with
  | true => exact hR.print _
  | false => exact simulates_forM (fun _ => hR.print _) pages

theorem simulates_inspectTemplate (hR : Mirrors reads writes R) (json : Bool) {path : Path}
    (hpath : reads path) (file : String) :
    Simulates R (inspectTemplate json path file : Action (StateM σ) Unit)
      (inspectTemplate json path file : Action (StateM τ) Unit) := by
  unfold inspectTemplate
  refine simulates_bind (hR.readText hpath) fun template => ?_
  cases Placeholder.locate (Cursor.ofString template) with
  | error e => exact simulates_stop _
  | ok found =>
    dsimp only
    split
    · exact hR.print _
    · split
      · exact hR.print _
      · exact simulates_forM (fun _ => hR.print _) _

theorem simulates_inspectMarkdown (hR : Mirrors reads writes R) (json : Bool) {path : Path}
    (hpath : reads path) (file : String) :
    Simulates R (inspectMarkdown json path file : Action (StateM σ) Unit)
      (inspectMarkdown json path file : Action (StateM τ) Unit) := by
  unfold inspectMarkdown
  refine simulates_bind (hR.readText hpath) fun source => ?_
  cases Document.parse source with
  | error e => exact simulates_stop _
  | ok document => cases json <;> exact hR.print _

theorem simulates_inspect (hR : Mirrors reads writes R) {directory : Path} {call : Call}
    (hfile : call.words.tail.headD "" ≠ "" →
      reads (directory.resolve (call.words.tail.headD ""))) :
    Simulates R (inspect directory call : Action (StateM σ) Unit)
      (inspect directory call : Action (StateM τ) Unit) := by
  unfold inspect
  dsimp only
  split
  · exact hR.print _
  · split
    · exact simulates_stop _
    · next hgiven =>
      have hread := hfile (by simpa using hgiven)
      split
      · exact simulates_inspectTemplate hR _ hread _
      · exact simulates_inspectMarkdown hR _ hread _
      · exact simulates_stop _

section Render

variable [Journal (StateM σ)] [Journal (StateM τ)] {plan : RenderPlan} {renderer : Renderer}
  {directory : Path}

end Render

end Mirrors

end StaticPages.Command
