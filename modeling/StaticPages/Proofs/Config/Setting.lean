import StaticPages.Config.Basic

namespace StaticPages

/-- The keys of a configuration, with the types of their values. -/
inductive Setting : Type → Type where
  | level : Setting Log.Level
  | toGlobal : Setting Bool
  | toProject : Setting Bool
  | template : Setting String
  | outDir : Setting String
  | precedence : Setting Precedence
  | html : Setting Bool
  | linkify : Setting Bool
  | typographer : Setting Bool
  | taskLists : Setting Bool

variable {α : Type}

/-- The value of a key, as far as it is given. -/
def Settings.get? (s : Settings) : Setting α → Option α
  | .level => s.logging.level
  | .toGlobal => s.logging.toGlobal
  | .toProject => s.logging.toProject
  | .template => s.render.template
  | .outDir => s.render.outDir
  | .precedence => s.render.precedence
  | .html => s.markdown.html
  | .linkify => s.markdown.linkify
  | .typographer => s.markdown.typographer
  | .taskLists => s.markdown.taskLists

/-- What the values of a key mean in a project's configuration: a path is one in the
    project's directory, unless it is empty, and every other value stays as it is. -/
def Setting.inProject (project : Path) : Setting α → α → α
  | .template => fun path => if path = "" then "" else (project.resolve path).toText
  | .outDir => fun path => if path = "" then "" else (project.resolve path).toText
  | _ => id

theorem Settings.ext_get? {s t : Settings}
    (h : ∀ {α : Type} (k : Setting α), s.get? k = t.get? k) : s = t := by
  obtain ⟨⟨_, _, _⟩, ⟨_, _, _⟩, ⟨_, _, _, _⟩⟩ := s
  obtain ⟨⟨_, _, _⟩, ⟨_, _, _⟩, ⟨_, _, _, _⟩⟩ := t
  cases h .level
  cases h .toGlobal
  cases h .toProject
  cases h .template
  cases h .outDir
  cases h .precedence
  cases h .html
  cases h .linkify
  cases h .typographer
  cases h .taskLists
  rfl

/-- A search by name finds exactly the one that has the name, if each is found by its own. -/
theorem find?_name_eq_some_iff {all : List α} {name : α → String}
    (hself : ∀ a, (all.find? fun b => name b == name a) = some a) {word : String} {a : α} :
    (all.find? fun b => name b == word) = some a ↔ word = name a := by
  constructor
  · intro h
    have hname := List.find?_some h
    exact (beq_iff_eq.mp hname).symm
  · rintro rfl
    exact hself a

theorem Precedence.ofName?_eq_some_iff {word : String} {p : Precedence} :
    ofName? word = some p ↔ word = p.name :=
  find?_name_eq_some_iff fun p => by cases p <;> rfl

theorem Precedence.mem_all (p : Precedence) : p ∈ all := by
  cases p <;> decide

theorem Log.Level.ofName?_eq_some_iff {word : String} {level : Level} :
    ofName? word = some level ↔ word = level.name :=
  find?_name_eq_some_iff fun level => by cases level <;> rfl

theorem Log.Level.mem_all (level : Level) : level ∈ all := by
  cases level <;> decide

namespace Config

theorem get?_empty (k : Setting α) : ({} : Config).settings.get? k = none := by
  cases k <;> rfl

/-- Each key has the value of the upper configuration if it is given there, and otherwise
    that of the lower one. -/
theorem get?_overlay (base layer : Config) (k : Setting α) :
    (base.overlay layer).get? k = (layer.settings.get? k).or (base.settings.get? k) := by
  cases k <;> exact Option.orElse_eq_or

theorem pathIn_eq (project : Path) :
    RenderConfig.pathIn project =
      fun path => if path = "" then "" else (project.resolve path).toText := by
  funext path
  unfold RenderConfig.pathIn
  by_cases h : path = "" <;> simp [h]

theorem get?_inProject (project : Path) (c : Config) (k : Setting α) :
    (c.inProject project).settings.get? k = (c.settings.get? k).map (k.inProject project) := by
  obtain ⟨logging, render, markdown⟩ := c
  cases k with
  | template | outDir =>
    rw [Setting.inProject, ← pathIn_eq]
    cases render <;> rfl
  | precedence => cases render <;> exact Option.map_id'.symm
  | _ => exact Option.map_id'.symm

/-- A configuration over none gives its own settings. -/
theorem overlay_empty (c : Config) : overlay {} c = c.settings := by
  apply Settings.ext_get?
  intro α k
  rw [get?_overlay, get?_empty, Option.or_none]

/-- A configuration over itself gives its own settings, with the paths of the upper one. -/
theorem overlay_inProject (project : Path) (c : Config) :
    c.overlay (c.inProject project) = (c.inProject project).settings := by
  apply Settings.ext_get?
  intro α k
  rw [get?_overlay, get?_inProject]
  cases c.settings.get? k <;> rfl

end Config

end StaticPages
