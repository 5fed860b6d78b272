import StaticPages.Proofs.Arguments.Spelling
import StaticPages.Proofs.Command.Action

namespace StaticPages.Command

/-- What a machine shows when it tells of a fault, as JSON or as a message. -/
def Machine.tell (json : Bool) (report : Report) (machine : Machine) : Machine :=
  if json then { machine with stdout := machine.stdout ++ (report.toJson.pretty ++ "\n") }
  else { machine with stderr := machine.stderr ++ (report.message ++ "\n") }

theorem execute_eq (env : Environment) (tokens : List String) (machine : Machine) :
    (execute env tokens : StateM Machine Int) machine =
      match (run env tokens : Action (StateM Machine) Unit).run machine with
      | (.ok (), after) => (0, after)
      | (.error fault, after) =>
        (fault.report.exitCode, after.tell (tokens.contains "--json") fault.report) := by
  unfold execute
  rw [bind_apply]
  cases (run env tokens : Action (StateM Machine) Unit).run machine with
  | mk result after =>
    cases result with
    | ok _ => rfl
    | error fault =>
      dsimp only [Machine.tell]
      split <;> rfl

/-- The tokens that ask for JSON: the flag behind two dashes, with a value or without and
    with white space or without, or behind one dash. -/
def AsksForJson (token : String) : Prop :=
  (∃ body, token.toList = '-' :: '-' :: body ∧
      Text.trimChars (body.takeWhile (· != '=')) = "json".toList) ∨
    token = "-json"

theorem has_json_iff (tokens : List String) :
    (Arguments.parse switches tokens).flags.has "json" = true ↔
      ∃ token ∈ tokens, AsksForJson token := by
  have hname : "json" ∉ Flags.reserved := by decide
  have hform (token : String) :
      (Arguments.form token).flag? = some "json" ↔ AsksForJson token := by
    have hshort : '-' :: "json".toList = "-json".toList := by decide
    have hname : "json" ≠ "" ∧ "json".toList.head? ≠ some '-' := by decide
    rw [Arguments.form_flag?_eq_some_iff, Arguments.Names, hshort, String.toList_inj, AsksForJson,
      and_iff_right hname.1, and_iff_left hname.2]
  simp only [Arguments.has_parse_iff, hname, not_false_eq_true, true_and, hform]

theorem asksForJson_word : AsksForJson "--json" :=
  .inl ⟨"json".toList, rfl, by decide⟩

/-- A failed run is told as JSON exactly if the very word `--json` is among the tokens. The
    command itself takes any spelling of the flag, so the two differ exactly on command lines
    that ask for JSON in other spellings alone. -/
theorem report_spec (env : Environment) (tokens : List String) (machine : Machine) :
    ((execute env tokens : StateM Machine Int) machine =
      match (run env tokens : Action (StateM Machine) Unit).run machine with
      | (.ok (), after) => (0, after)
      | (.error fault, after) =>
        (fault.report.exitCode, after.tell (tokens.contains "--json") fault.report)) ∧
      ((Arguments.parse switches tokens).flags.has "json" = true ↔
        ∃ token ∈ tokens, AsksForJson token) ∧
      ((tokens.contains "--json" = (Arguments.parse switches tokens).flags.has "json") ↔
        "--json" ∈ tokens ∨ ∀ token ∈ tokens, ¬ AsksForJson token) := by
  refine ⟨execute_eq env tokens machine, has_json_iff tokens, ?_⟩
  rw [Bool.eq_iff_iff, List.contains_iff_mem, has_json_iff]
  constructor
  · intro h
    by_cases hword : "--json" ∈ tokens
    · exact .inl hword
    · refine .inr fun token htoken hasks => hword ?_
      exact h.mpr ⟨token, htoken, hasks⟩
  · rintro (hword | hnone)
    · exact ⟨fun _ => ⟨_, hword, asksForJson_word⟩, fun _ => hword⟩
    · constructor
      · intro hword
        exact absurd asksForJson_word (hnone _ hword)
      · rintro ⟨token, htoken, hasks⟩
        exact absurd hasks (hnone token htoken)

/-- A flag with a value asks the command for JSON, but its failure is told as a message. -/
theorem report_spec_value :
    ["publish", "--no-log", "--json=1"].contains "--json" ≠
        (Arguments.parse switches ["publish", "--no-log", "--json=1"]).flags.has "json" ∧
      (execute ⟨⟨["home"]⟩, ⟨["work"]⟩, none, none⟩ ["publish", "--no-log", "--json=1"] :
          StateM Machine Int) (sampleMachine []) =
        (1, { sampleMachine [] with
          logger := { session := "session", disabled := true }
          stderr := "Unknown command: publish. Run pagewright --help.\n" }) := by
  obtain ⟨-, -, hsame⟩ := report_spec ⟨⟨["home"]⟩, ⟨["work"]⟩, none, none⟩
    ["publish", "--no-log", "--json=1"] (sampleMachine [])
  refine ⟨?_, by rfl⟩
  rw [Ne, hsame, not_or]
  refine ⟨by decide, fun hnone => ?_⟩
  exact hnone "--json=1" (by decide) (.inl ⟨"json=1".toList, rfl, by decide⟩)

end StaticPages.Command
