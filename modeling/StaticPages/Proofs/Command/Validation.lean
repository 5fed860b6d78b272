import StaticPages.Proofs.Command.Load
import StaticPages.Proofs.Config.Reader

namespace StaticPages

/-- Whether a file holds a JSON value. -/
def FileSystem.Holds (files : FileSystem) (p : Path) (value : Json) : Prop :=
  ∃ text, files.read p = .ok text ∧ Json.parse? text = some value

namespace Command

open Config

/-- Whether reading the configuration in a file has a result, and changes nothing. -/
def Machine.ReadsConfig (machine : Machine) (p : Path) (result : Except Fault Config) : Prop :=
  (readConfig p : Action (StateM Machine) Config).run machine = (result, machine)

/-- The fault of a configuration file that holds a value which is not right. -/
def invalidConfig (p : Path) (keys : List String) (issue : Issue) : Fault :=
  .config ⟨p.toText, .invalid keys issue⟩

section Validation

variable {machine other : Machine} {p q : Path} {value : Json} {config : Config}

/-- What a file is read as depends on the value in it only, but for the path in a fault. -/
theorem readsConfig_iff (h : machine.files.Holds p value) {result : Except Fault Config} :
    machine.ReadsConfig p result ↔
      (ofJson value).mapError (fun e => invalidConfig p e.1 e.2) = result := by
  obtain ⟨text, hread, hvalue⟩ := h
  have hconfig : configIn machine.files p =
      (ofJson value).mapError fun e => invalidConfig p e.1 e.2 := by
    rw [configIn, if_pos (FileSystem.isPresent_of_read hread), hread]
    dsimp only
    rw [Config.parse, hvalue]
    dsimp only
    cases ofJson value <;> rfl
  rw [Machine.ReadsConfig, run_readConfig, hconfig, Prod.mk.injEq]
  exact and_iff_left rfl

theorem readsConfig_ok_iff (h : machine.files.Holds p value) :
    machine.ReadsConfig p (.ok config) ↔ ofJson value = .ok config := by
  rw [readsConfig_iff h]
  cases ofJson value <;> simp [Except.mapError]

theorem message_invalidConfig (p : Path) (keys : List String) (issue : Issue) :
    (invalidConfig p keys issue).message =
      "Invalid config in " ++ p.toText ++ " at " ++
        (if keys = [] then "(root)" else ".".intercalate keys) ++ ": " ++ issue.message := by
  cases keys <;> rfl

/-- The compact form of a configuration holds that configuration. -/
theorem holds_of_compact (h : other.files.read q = .ok (Json.compact config.toJson)) :
    other.files.Holds q config.toJson :=
  ⟨_, h, (plain_toJson config).parse?_compact⟩

/-- A configuration file that holds a JSON value is read exactly if the value conforms to the
    schema. What is read is the value without its unknown keys, and is read again from its own
    form. A value that does not conform is reported with its first misfit in the order of the
    schema. Unknown keys never matter, but for the path in a report. -/
theorem validation_spec (h : machine.files.Holds p value) :
    ((∃ config, machine.ReadsConfig p (.ok config)) ↔ Conforms value) ∧
      (∀ config, machine.ReadsConfig p (.ok config) → config.toJson = known value ∧
        ∀ (other : Machine) (q : Path),
          other.files.read q = .ok (Json.compact config.toJson) →
            other.ReadsConfig q (.ok config)) ∧
      (¬ Conforms value → ∃ place found, IsFirstMisfit value schema place found ∧
        machine.ReadsConfig p
          (.error (invalidConfig p place.keys (place.kind.complaint found))) ∧
        (invalidConfig p place.keys (place.kind.complaint found)).message =
          "Invalid config in " ++ p.toText ++ " at " ++
            (if place.keys = [] then "(root)" else ".".intercalate place.keys) ++ ": " ++
              (place.kind.complaint found).message) ∧
      ∀ fields, value = .object fields →
        ∀ (other : Machine) (q : Path) (others : List (String × Json)),
          other.files.Holds q (.object others) → Alike fields others →
            (∃ config, machine.ReadsConfig p (.ok config) ∧ other.ReadsConfig q (.ok config)) ∨
              ∃ keys issue, machine.ReadsConfig p (.error (invalidConfig p keys issue)) ∧
                other.ReadsConfig q (.error (invalidConfig q keys issue)) := by
  refine ⟨?_, ?_, ?_, ?_⟩
  · simp only [readsConfig_ok_iff h]
    exact ofJson_succeeds_iff
  · intro config hconfig
    rw [readsConfig_ok_iff h] at hconfig
    refine ⟨toJson_of_ofJson hconfig, fun other q hread => ?_⟩
    exact (readsConfig_ok_iff (holds_of_compact hread)).mpr (ofJson_toJson hconfig)
  · intro hnot
    cases hresult : ofJson value with
    | ok config => exact absurd (ofJson_succeeds_iff.mp ⟨config, hresult⟩) hnot
    | error e =>
      obtain ⟨place, found, hmisfit, rfl⟩ := isFirstMisfit_of_ofJson hresult
      refine ⟨place, found, hmisfit, ?_, message_invalidConfig p _ _⟩
      rw [readsConfig_iff h, hresult]
      rfl
  · rintro fields rfl other q others hother halike
    have hsame : ofJson (.object others) = ofJson (.object fields) := by
      rw [← ofJson_known, ← ofJson_known (.object fields), known, known, keptSections_congr halike]
    simp only [readsConfig_iff h, readsConfig_iff hother, hsame]
    cases ofJson (.object fields) with
    | ok config => exact .inl ⟨config, rfl, rfl⟩
    | error e => exact .inr ⟨e.1, e.2, rfl, rfl⟩

/-- A file with settings and with keys that nothing knows, and one with the settings alone. -/
def workshop : Machine :=
  sampleMachine [
    ("/a.json",
      .file "\x7b\"logging\":\x7b\"level\":\"info\",\"color\":\"red\"\x7d,\"theme\":\x7b\x7d\x7d"),
    ("/b.json", .file "\x7b\"logging\":\x7b\"level\":\"info\"\x7d\x7d")]

def workshopSettings : Json :=
  .object [("logging", .object [("level", .string "info"), ("color", .string "red")]),
    ("theme", .object [])]

theorem plain_workshopSettings : workshopSettings.Plain := by
  have hlogging : (Json.object [("level", .string "info"), ("color", .string "red")]).Plain := by
    refine .object (by decide) ?_
    simp [Json.Plain.string]
  have htheme : (Json.object []).Plain := .object List.nodup_nil (List.forall_mem_nil _)
  refine .object (by decide) ?_
  simp [hlogging, htheme]

theorem holds_workshop : workshop.files.Holds ⟨["a.json"]⟩ workshopSettings :=
  ⟨Json.compact workshopSettings, FileSystem.read_eq_ok_iff.mpr (by decide +kernel),
    plain_workshopSettings.parse?_compact⟩

/-- Both files give one configuration. -/
theorem validation_spec_workshop :
    ∃ config, workshop.ReadsConfig ⟨["a.json"]⟩ (.ok config) ∧
      workshop.ReadsConfig ⟨["b.json"]⟩ (.ok config) := by
  obtain ⟨hreads, hkept, -, -⟩ := validation_spec holds_workshop
  obtain ⟨config, hconfig⟩ := hreads.mpr (by decide +kernel)
  obtain ⟨hjson, hagain⟩ := hkept config hconfig
  refine ⟨config, hconfig, hagain workshop ⟨["b.json"]⟩ ?_⟩
  rw [hjson]
  exact FileSystem.read_eq_ok_iff.mpr (by decide +kernel)

end Validation

end Command

end StaticPages
