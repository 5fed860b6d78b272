import StaticPages.Proofs.Files.Path
import StaticPages.Proofs.Json.Line
import StaticPages.Proofs.Log.Logger

namespace StaticPages

namespace FileSystem

/-- The number of lines that are complete in the file at a path. No file has none. -/
def lineCount (fs : FileSystem) (p : Path) : Nat :=
  ((fs.text? p).getD "").toList.count '\n'

section Grows

/-- What the file at a path gains: some lines, at its end. -/
def Grows (before after : FileSystem) (p : Path) (lines : List String) : Prop :=
  after.text? p =
    if lines = [] then before.text? p else some ((before.text? p).getD "" ++ String.join lines)

variable {a b c : FileSystem} {p : Path}

theorem Grows.of_text? (h : b.text? p = a.text? p) : a.Grows b p [] :=
  h

theorem Grows.trans {first second : List String} (hab : a.Grows b p first)
    (hbc : b.Grows c p second) : a.Grows c p (first ++ second) := by
  unfold Grows at *
  rw [hbc, hab]
  by_cases hfirst : first = []
  · subst hfirst
    simp
  · by_cases hsecond : second = []
    · subst hsecond
      simp
    · have hboth : first ++ second ≠ [] := List.append_ne_nil_of_left_ne_nil hfirst second
      rw [if_neg hfirst, if_neg hsecond, if_neg hboth, Option.getD_some, String.join_append,
        String.append_assoc]

/-- An update that appends a line is felt in one file. -/
theorem grows_append {line : String} {w : Path} (h : a.append w line = .ok b) (p : Path) :
    a.Grows b p (if p = w then [line] else []) := by
  have htext := text?_update h p
  unfold Grows
  by_cases heq : p = w
  · subst heq
    rw [htext]
    simp [String.join]
  · rw [htext, if_neg heq, if_neg heq, if_pos rfl]

/-- Each line that a file gains counts. -/
theorem Grows.lineCount_eq {lines : List String} (h : a.Grows b p lines)
    (hlines : ∀ line ∈ lines, ∃ text, line = text ++ "\n" ∧ Text.OneLine text) :
    b.lineCount p = a.lineCount p + lines.length := by
  have hjoin : (String.join lines).toList.count '\n' = lines.length := by
    clear h
    induction lines with
    | nil => rfl
    | cons line rest ih =>
      obtain ⟨⟨text, rfl, htext⟩, hrest⟩ := List.forall_mem_cons.mp hlines
      have hone : (text ++ "\n").toList.count '\n' = 1 := by
        rw [String.toList_append, List.count_append, List.count_eq_zero.mpr htext]
        rfl
      rw [String.join_cons, String.toList_append, List.count_append, hone, ih hrest,
        List.length_cons, Nat.add_comm]
  unfold lineCount
  rw [h]
  split
  · next hnone => simp [hnone]
  · rw [Option.getD_some, String.toList_append, List.count_append, hjoin]

end Grows

end FileSystem

/-- A text several times over. -/
def Text.times : Nat → String → String
  | 0, _ => ""
  | n + 1, text => text ++ times n text

theorem Text.times_eq_join (n : Nat) (text : String) :
    times n text = String.join (List.replicate n text) := by
  induction n with
  | zero => rfl
  | succ n ih => rw [times, ih, List.replicate_succ, String.join_cons]

namespace FileSystem

/-- What the file at a path gains: a line so many times, at its end. -/
def Gains (before after : FileSystem) (p : Path) (line : String) (n : Nat) : Prop :=
  after.text? p =
    if n = 0 then before.text? p else some ((before.text? p).getD "" ++ Text.times n line)

theorem gains_iff_grows {before after : FileSystem} {p : Path} {line : String} {n : Nat} :
    before.Gains after p line n ↔ before.Grows after p (List.replicate n line) := by
  unfold Gains Grows
  rw [Text.times_eq_join, if_congr (List.replicate_eq_nil_iff line) rfl rfl]

theorem Gains.of_text? {before after : FileSystem} {p : Path} (h : after.text? p = before.text? p)
    (line : String) : before.Gains after p line 0 :=
  h

theorem Gains.trans {a b c : FileSystem} {p : Path} {line : String} {m n : Nat}
    (hab : a.Gains b p line m) (hbc : b.Gains c p line n) : a.Gains c p line (m + n) := by
  rw [gains_iff_grows] at *
  rw [← List.replicate_append_replicate]
  exact hab.trans hbc

theorem Gains.lineCount_eq {before after : FileSystem} {p : Path} {text : String} {n : Nat}
    (h : before.Gains after p (text ++ "\n") n) (htext : Text.OneLine text) :
    after.lineCount p = before.lineCount p + n := by
  have hlines : ∀ line ∈ List.replicate n (text ++ "\n"),
      ∃ text, line = text ++ "\n" ∧ Text.OneLine text :=
    fun _ hline => ⟨text, List.eq_of_mem_replicate hline, htext⟩
  rw [(gains_iff_grows.mp h).lineCount_eq hlines, List.length_replicate]

/-- Text is appended to one file, or refused, and nothing else changes. -/
theorem gains_append (fs : FileSystem) (p : Path) (line : String) :
    ((commit (fun fs => fs.append p line) fs).1 = .ok () ∧
        ∀ other, fs.Gains (commit (fun fs => fs.append p line) fs).2 other line
          (if other = p then 1 else 0)) ∨
      ∃ e, commit (fun fs => fs.append p line) fs = (.error e, fs) := by
  unfold commit
  split
  · next changed hchanged =>
    refine .inl ⟨rfl, fun other => ?_⟩
    have hgrown := grows_append hchanged other
    rw [gains_iff_grows]
    by_cases h : other = p <;> simpa [h] using hgrown
  · next e he => exact .inr ⟨e, rfl⟩

end FileSystem

namespace Log.Logger

open FileSystem

/-- A line reaches the file that it is for, and no other, or else changes no file. -/
theorem append_gains (fs : FileSystem) (directory : Path) (fileName line : String) :
    let run := (append directory fileName line : StateM FileSystem (Except FileError Unit)) fs
    (run.1 = .ok () ∧
        ∀ p, fs.Gains run.2 p line (if p = directory.child fileName then 1 else 0)) ∨
      ∃ e, run.1 = .error e ∧ ∀ p, fs.Gains run.2 p line 0 := by
  intro run
  cases hmade : fs.makeDirectory directory with
  | error e =>
    have hrun : run = (.error e, fs) := by
      simp only [run, append, bind_apply, FileAccess.makeDirectory, commit, hmade, pure_apply]
    rw [hrun]
    exact .inr ⟨e, rfl, fun p => .of_text? rfl line⟩
  | ok made =>
    have hrun : run = commit (fun fs => fs.append (directory.child fileName) line) made := by
      simp only [run, append, bind_apply, FileAccess.makeDirectory, commit, hmade]
      rfl
    have hnone (p : Path) : fs.Gains made p line 0 :=
      .of_text? (text?_makeDirectory hmade p) line
    rw [hrun]
    obtain ⟨hok, hgains⟩ | ⟨e, he⟩ := gains_append made (directory.child fileName) line
    · refine .inl ⟨hok, fun p => ?_⟩
      simpa only [Nat.zero_add] using (hnone p).trans (hgains p)
    · rw [he]
      exact .inr ⟨e, rfl, hnone⟩

/-- Each file gains a line for each time that it is written to, and the writes that fail
    are counted. -/
theorem appendAll_gains (l : Logger) (fileName line : String) (directories : List Path)
    (fs : FileSystem) :
    let run := (l.appendAll fileName line directories : StateM FileSystem Logger) fs
    ∃ written : List Path,
      written.Sublist (directories.map fun directory => directory.child fileName) ∧
        run.1.failedWrites + written.length = l.failedWrites + directories.length ∧
        ∀ p, fs.Gains run.2 p line (written.count p) := by
  induction directories generalizing l fs with
  | nil => exact ⟨[], .slnil, rfl, fun p => .of_text? rfl line⟩
  | cons directory rest ih =>
    intro run
    obtain ⟨first, hfirst⟩ : ∃ first, first =
        (append directory fileName line : StateM FileSystem (Except FileError Unit)) fs :=
      ⟨_, rfl⟩
    have hstep := append_gains fs directory fileName line
    rw [← hfirst] at hstep
    -- A write that succeeds puts its file before those of the rest, one that fails drops it.
    obtain ⟨hok, hgained⟩ | ⟨e, he, hgained⟩ := hstep
    · have hrun : run = (l.appendAll fileName line rest : StateM FileSystem Logger) first.2 := by
        simp only [run, appendAll, bind_apply, ← hfirst, hok]
      obtain ⟨written, hsub, hcount, hgains⟩ := ih l first.2
      refine ⟨directory.child fileName :: written, hsub.cons_cons _, ?_, fun p => ?_⟩
      · rw [hrun, List.length_cons, List.length_cons]
        omega
      · rw [hrun, List.count_cons, Nat.add_comm]
        simpa only [beq_iff_eq, eq_comm (b := p)] using (hgained p).trans (hgains p)
    · have hrun : run =
          (l.countFailure.appendAll fileName line rest : StateM FileSystem Logger) first.2 := by
        simp only [run, appendAll, bind_apply, ← hfirst, he]
      obtain ⟨written, hsub, hcount, hgains⟩ := ih l.countFailure first.2
      have hfailed : l.countFailure.failedWrites = l.failedWrites + 1 := rfl
      refine ⟨written, hsub.cons _, ?_, fun p => ?_⟩
      · rw [hrun, List.length_cons]
        omega
      · rw [hrun]
        simpa only [Nat.zero_add] using (hgained p).trans (hgains p)

/-- Whether the global logs of a logger are also those of its project, and are logged to
    as both. -/
def LogsTwice (l : Logger) (home : Path) (fs : FileSystem) : Prop :=
  l.toGlobal = true ∧ l.toProject = true ∧ ∃ project, l.project = some project ∧
    fs.isPresent (settingsDirectory project) = true ∧
    l.globalLogs.getD (logsDirectory home) = logsDirectory project

variable (l : Logger) (home : Path) (fs : FileSystem)

theorem length_chosen_le : (l.chosen home fs).length ≤ 2 := by
  have hglobal :
      (if l.toGlobal then [l.globalLogs.getD (logsDirectory home)] else []).length ≤ 1 := by
    split <;> simp
  unfold chosen
  rw [List.length_append]
  refine Nat.le_trans (Nat.add_le_add_right hglobal _) ?_
  split
  · simp
  · split <;> simp

theorem nodup_chosen_iff : (l.chosen home fs).Nodup ↔ ¬ l.LogsTwice home fs := by
  unfold chosen LogsTwice
  cases hproject : l.project with
  | none => cases l.toGlobal <;> simp
  | some project =>
    simp only [Option.some.injEq, exists_eq_left']
    generalize fs.isPresent (settingsDirectory project) = present
    cases l.toGlobal <;> cases l.toProject <;> cases present <;> simp

variable (stamp : Stamp) (e : Event)

/-- An entry is written at most twice, and twice to one file only if both its directories
    are the same and no write failed. -/
theorem record_gains :
    let run := (l.record home stamp e : StateM FileSystem Logger) fs
    ∃ written : List Path, written.length ≤ 2 ∧
      (∀ p, fs.Gains run.2 p (l.line stamp e) (written.count p)) ∧
      (written.Nodup ↔ ¬ (l.accepts e.level = true ∧ l.LogsTwice home fs ∧
        run.1.failedWrites = l.failedWrites)) := by
  intro run
  by_cases haccepts : l.accepts e.level = true
  · have hrun : run = _ := record_of_accepts l home stamp e fs haccepts
    obtain ⟨written, hsub, hcount, hgains⟩ := appendAll_gains l
      (Calendar.dateText stamp.instant ++ ".jsonl") (l.line stamp e) (l.chosen home fs) fs
    rw [← hrun] at hcount hgains
    have hchosen := length_chosen_le l home fs
    have hlength := hsub.length_le
    rw [List.length_map] at hlength
    refine ⟨written, by omega, hgains, ?_⟩
    by_cases hall : run.1.failedWrites = l.failedWrites
    · have heq := hsub.eq_of_length (by rw [List.length_map]; omega)
      have hnodup : written.Nodup ↔ ¬ l.LogsTwice home fs := by
        rw [heq, ← nodup_chosen_iff]
        simp only [List.Nodup, List.pairwise_map, ne_eq, Path.child_inj]
      simp only [hnodup, haccepts, hall, true_and, and_true]
    · -- A write failed, so at most one is left.
      refine iff_of_true ?_ fun hboth => hall hboth.2.2
      have hshort : written.length ≤ 1 := by omega
      rcases written with _ | ⟨first, _ | ⟨second, others⟩⟩
      · exact .nil
      · simp
      · simp at hshort
  · have hrun : run = (l, fs) := record_of_not_accepts l home stamp e fs haccepts
    rw [hrun]
    exact ⟨[], by simp, fun p => .of_text? rfl _, by simp [haccepts]⟩

/-- The lines that an entry adds to files: as many complete lines as it is written times. -/
theorem lineCount_record :
    let run := (l.record home stamp e : StateM FileSystem Logger) fs
    (∀ p, ∃ n ≤ 2, fs.Gains run.2 p (l.line stamp e) n ∧
        run.2.lineCount p = fs.lineCount p + n) ∧
      ((∀ p, run.2.lineCount p ≤ fs.lineCount p + 1) ↔
        ¬ (l.accepts e.level = true ∧ l.LogsTwice home fs ∧
          run.1.failedWrites = l.failedWrites)) := by
  intro run
  obtain ⟨written, hlength, hgains, hnodup⟩ := record_gains l home fs stamp e
  have hcount (p : Path) : run.2.lineCount p = fs.lineCount p + written.count p :=
    (hgains p).lineCount_eq (Json.oneLine_compact _)
  refine ⟨fun p => ⟨written.count p, ?_, hgains p, hcount p⟩, ?_⟩
  · exact Nat.le_trans List.count_le_length hlength
  · rw [← hnodup, List.nodup_iff_count]
    exact forall_congr' fun p => by rw [hcount, Nat.add_le_add_iff_left]

end Log.Logger

end StaticPages
