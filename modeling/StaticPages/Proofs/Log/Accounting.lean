import StaticPages.Proofs.Log.Queue

namespace StaticPages

namespace Log

namespace Queue

section Work

variable {q : Queue} {w : Write} {rest : List (Write × Bool)}

/-- The first write under way gets its directory, or is given up. -/
theorem work_new (h : q.pending = (w, false) :: rest) :
    q.work 0 = match q.files.makeDirectory w.directory with
      | .ok made => { q with files := made, pending := (w, true) :: rest }
      | .error _ =>
        { q with logger := q.logger.countFailure, pending := rest, failed := q.failed ++ [w] } := by
  unfold work giveUp
  rw [h]
  rfl

/-- The first write under way is made in its directory, or is given up. -/
theorem work_ready (h : q.pending = (w, true) :: rest) :
    q.work 0 = match q.files.append w.file w.line with
      | .ok grown => { q with files := grown, pending := rest, written := q.written ++ [w] }
      | .error _ =>
        { q with logger := q.logger.countFailure, pending := rest, failed := q.failed ++ [w] } := by
  unfold work giveUp
  rw [h]
  rfl

/-- Work on the first write until it is done is what appending its line is. -/
theorem exists_works_append (home : Path) (h : q.pending = (w, false) :: rest) :
    ∃ works, OnlyWork works ∧
      let run := (Logger.append w.directory w.fileName w.line :
        StateM FileSystem (Except FileError Unit)) q.files
      let done := q.run home works
      done.pending = rest ∧ done.files = run.2 ∧
        done.logger = match run.1 with
          | .ok _ => q.logger
          | .error _ => q.logger.countFailure := by
  have hnew := work_new h
  cases hmade : q.files.makeDirectory w.directory with
  | error e =>
    rw [hmade] at hnew
    refine ⟨[.work 0], by simp [OnlyWork], ?_⟩
    simp only [run, List.foldl_cons, List.foldl_nil, step, hnew, Logger.append, bind_apply,
      FileAccess.makeDirectory, FileSystem.commit, hmade, pure_apply, and_self]
  | ok made =>
    rw [hmade] at hnew
    refine ⟨[.work 0, .work 0], by simp [OnlyWork], ?_⟩
    have hready := work_ready (q := { q with files := made, pending := (w, true) :: rest }) rfl
    simp only [run, List.foldl_cons, List.foldl_nil, step, hnew, hready, Logger.append, bind_apply,
      FileAccess.makeDirectory, FileAccess.append, FileSystem.commit, hmade, Write.file]
    cases made.append (w.directory.child w.fileName) w.line <;> exact ⟨rfl, rfl, rfl⟩

end Work

/-- Appending a line in some directories, one after the other, is work on such writes. -/
theorem exists_works_appendAll (home : Path) (fileName line : String) {directories : List Path}
    {q : Queue}
    (h : q.pending = directories.map fun directory => (⟨directory, fileName, line⟩, false)) :
    ∃ works, OnlyWork works ∧ (q.run home works).pending = [] ∧
      (q.logger.appendAll fileName line directories : StateM FileSystem Logger) q.files =
        ((q.run home works).logger, (q.run home works).files) := by
  induction directories generalizing q with
  | nil => exact ⟨[], nofun, h, rfl⟩
  | cons directory rest ih =>
    obtain ⟨works, hworks, hpending, hfiles, hlogger⟩ := exists_works_append home h
    obtain ⟨others, hothers, hdone, hrun⟩ := ih hpending
    refine ⟨works ++ others, ?_, ?_, ?_⟩
    · exact fun m hm => (List.mem_append.mp hm).elim (hworks m) (hothers m)
    · rw [run_append, hdone]
    · rw [run_append, ← hrun, Logger.appendAll, bind_apply, hfiles, hlogger]
      cases ((Logger.append directory fileName line :
        StateM FileSystem (Except FileError Unit)) q.files).1 <;> rfl

/-- The writes of a queue come to an end if they are worked on. -/
theorem exists_flushed (q : Queue) (home : Path) :
    ∃ works, OnlyWork works ∧ (q.run home works).pending = [] := by
  obtain ⟨pending, hpending⟩ : ∃ pending, q.pending = pending := ⟨_, rfl⟩
  induction pending generalizing q with
  | nil => exact ⟨[], nofun, hpending⟩
  | cons head rest ih =>
    have hafter {q : Queue} (h : ∃ works, OnlyWork works ∧ ((q.work 0).run home works).pending = []) :
        ∃ works, OnlyWork works ∧ (q.run home works).pending = [] := by
      obtain ⟨works, hworks, hdone⟩ := h
      exact ⟨.work 0 :: works, List.forall_mem_cons.mpr ⟨⟨0, rfl⟩, hworks⟩, hdone⟩
    obtain ⟨w, ready⟩ := head
    have hready (q : Queue) (h : q.pending = (w, true) :: rest) :
        ∃ works, OnlyWork works ∧ (q.run home works).pending = [] :=
      hafter (ih (q.work 0) (by rw [work_ready h]; split <;> rfl))
    cases ready with
    | true => exact hready q hpending
    | false =>
      have hnew := work_new hpending
      cases hmade : q.files.makeDirectory w.directory with
      | ok made =>
        rw [hmade] at hnew
        exact hafter (hready (q.work 0) (by rw [hnew]))
      | error e =>
        rw [hmade] at hnew
        exact hafter (ih (q.work 0) (by rw [hnew]))

/-- A call that is obeyed at once is a call with work on its writes after it. -/
theorem exists_run_obey (home : Path) (call : Call) {q : Queue} (h : q.pending = []) :
    ∃ works, OnlyWork works ∧
      let done := q.run home (.call call :: works)
      done.pending = [] ∧
        (q.logger.obey home call : StateM FileSystem Logger) q.files = (done.logger, done.files) := by
  cases call with
  | configure | disable | enable => exact ⟨[], nofun, h, rfl⟩
  | record stamp e =>
    have hpending : (q.obey home (.record stamp e)).pending =
        (q.logger.writes home stamp e q.files).map fun w => (w, false) := by simp [obey, h]
    by_cases haccepts : q.logger.accepts e.level = true
    · rw [Logger.writes, if_pos haccepts, List.map_map] at hpending
      obtain ⟨works, hworks, hdone, hrun⟩ := exists_works_appendAll home _ _ hpending
      exact ⟨works, hworks, hdone, (Logger.record_of_accepts _ _ _ _ _ haccepts).trans hrun⟩
    · rw [Logger.writes, if_neg haccepts] at hpending
      exact ⟨[], nofun, hpending, Logger.record_of_not_accepts _ _ _ _ _ haccepts⟩

/-- Calls that are obeyed one after the other make a run in which nothing else happens than
    work, and after which nothing is under way. -/
theorem exists_run_obeyAll (home : Path) (calls : List Call) {q : Queue} (h : q.pending = []) :
    ∃ moments, moments.filterMap Moment.call? = calls ∧
      (∀ m ∈ moments, (∃ call, m = .call call) ∨ ∃ i, m = .work i) ∧
      let done := q.run home moments
      done.pending = [] ∧
        (Logger.obeyAll home calls q.logger : StateM FileSystem Logger) q.files =
          (done.logger, done.files) := by
  induction calls generalizing q with
  | nil => exact ⟨[], rfl, by simp, h, rfl⟩
  | cons call rest ih =>
    obtain ⟨works, hworks, hpending, hobeyed⟩ := exists_run_obey home call h
    obtain ⟨moments, hcalls, hown, hdone, hrest⟩ := ih hpending
    have hnone : works.filterMap Moment.call? = [] := by
      rw [List.filterMap_eq_nil_iff]
      intro m hm
      obtain ⟨i, rfl⟩ := hworks m hm
      rfl
    refine ⟨.call call :: works ++ moments, ?_, ?_, ?_, ?_⟩
    · have hfirst : (Moment.call call :: works).filterMap Moment.call? =
          call :: works.filterMap Moment.call? := rfl
      rw [List.filterMap_append, hfirst, hnone, hcalls]
      rfl
    · intro m hm
      rcases List.mem_append.mp hm with hfirst | hlater
      · rcases List.mem_cons.mp hfirst with rfl | hwork
        · exact .inl ⟨call, rfl⟩
        · exact .inr (hworks m hwork)
      · exact hown m hlater
    · rw [run_append, hdone]
    · rw [run_append, ← hrest, Logger.obeyAll, bind_apply, hobeyed]

end Queue

/-- A write is asked for by a logger that is in use, and is for one line. -/
theorem Logger.of_mem_writes {l : Logger} {home : Path} {stamp : Stamp} {e : Event}
    {fs : FileSystem} {w : Write} (h : w ∈ l.writes home stamp e fs) :
    (l.disabled = false ∧ l.level ≠ .off) ∧ ∃ text, w.line = text ++ "\n" ∧ Text.OneLine text := by
  unfold writes at h
  split at h
  · next haccepts =>
    obtain ⟨directory, -, rfl⟩ := List.mem_map.mp h
    simp only [accepts, Bool.and_eq_true, Bool.not_eq_true', bne_iff_ne] at haccepts
    exact ⟨haccepts.1, _, rfl, Json.oneLine_compact _⟩
  · cases h

/-- What has become of the entries that were logged in a run, once nothing is under way. -/
structure Accounts (home : Path) (moments : List Moment) (start done : Queue) : Prop where
  /-- Each write that was asked for was either made or given up. -/
  outcome : (done.written ++ done.failed).Perm (start.requested home moments)
  /-- It was asked for by a logger that was neither disabled nor off. -/
  source : ∀ w ∈ start.requested home moments, ∃ before stamp e after,
    moments = before ++ .call (.record stamp e) :: after ∧
      (start.run home before).logger.disabled = false ∧
      (start.run home before).logger.level ≠ .off ∧
      w ∈ (start.run home before).logger.writes home stamp e (start.run home before).files
  /-- The lines that were written and the failures add up to the destinations. -/
  balance : done.written.length + done.logger.failedWrites =
    start.logger.failedWrites + start.selectedIn home moments
  /-- What was written are the lines that the files have gained. -/
  lines : ∀ p, (∀ m ∈ moments, m.LeavesAlone p) →
    start.files.Grows done.files p (Write.linesFor p done.written) ∧
      done.files.lineCount p = start.files.lineCount p + (Write.linesFor p done.written).length

theorem accounts_of_flushed {home : Path} {l : Logger} {fs : FileSystem} {moments : List Moment}
    (hflushed : ((Queue.start l fs).run home moments).pending = []) :
    Accounts home moments (.start l fs) ((Queue.start l fs).run home moments) := by
  obtain ⟨hall, hfailures⟩ := Queue.settles_run (.start l fs) home moments
  obtain ⟨done, hdone⟩ : ∃ done, done = (Queue.start l fs).run home moments := ⟨_, rfl⟩
  rw [← hdone] at hall hfailures hflushed ⊢
  have houtcome : (done.written ++ done.failed).Perm ((Queue.start l fs).requested home moments) := by
    simpa [Queue.all, Queue.start, hflushed] using hall
  have hsource {w : Write} (hw : w ∈ (Queue.start l fs).requested home moments) :=
    Queue.exists_of_mem_requested hw
  refine ⟨houtcome, fun w hw => ?_, ?_, fun p hp => ?_⟩
  · obtain ⟨before, stamp, e, after, hsplit, hmem⟩ := hsource hw
    obtain ⟨hopen, -⟩ := Logger.of_mem_writes hmem
    exact ⟨before, stamp, e, after, hsplit, hopen.1, hopen.2, hmem⟩
  · have hlength := houtcome.length_eq
    have hnone : (Queue.start l fs).failed.length = 0 := rfl
    rw [List.length_append, Queue.length_requested] at hlength
    omega
  · obtain ⟨new, hnew, hgrows⟩ := Queue.extends_run (.start l fs) home hp
    rw [← hdone] at hnew hgrows
    have hwritten : done.written = new := hnew
    rw [hwritten] at houtcome ⊢
    refine ⟨hgrows, hgrows.lineCount_eq fun line hline => ?_⟩
    obtain ⟨w, hw, rfl⟩ := List.mem_map.mp hline
    have hrequested := houtcome.subset (List.mem_append_left _ (List.mem_filter.mp hw).1)
    obtain ⟨_, _, _, _, _, hmem⟩ := hsource hrequested
    exact (Logger.of_mem_writes hmem).2

/-- Every destination of every entry is accounted for, however the writes of different entries
    overlap and whatever happens to the files and the settings in the meantime: work on the
    writes brings them to an end, and then each of them is written or counted. A program that
    waits for each of its writes makes such a run. -/
theorem accounting (home : Path) (l : Logger) (fs : FileSystem) :
    let start := Queue.start l fs
    (∀ moments,
        (∃ works, OnlyWork works ∧ (start.run home (moments ++ works)).pending = []) ∧
          ((start.run home moments).pending = [] →
            Accounts home moments start (start.run home moments))) ∧
      ∀ calls, ∃ moments, moments.filterMap Moment.call? = calls ∧
        (∀ p, ∀ m ∈ moments, m.LeavesAlone p) ∧
        Accounts home moments start (start.run home moments) ∧
        (Logger.obeyAll home calls l : StateM FileSystem Logger) fs =
          ((start.run home moments).logger, (start.run home moments).files) := by
  intro start
  refine ⟨fun moments => ⟨?_, accounts_of_flushed⟩, fun calls => ?_⟩
  · obtain ⟨works, hworks, hflushed⟩ := (start.run home moments).exists_flushed home
    exact ⟨works, hworks, by rwa [Queue.run_append]⟩
  · obtain ⟨moments, hcalls, hown, hflushed, hrun⟩ :=
      Queue.exists_run_obeyAll home calls (q := start) rfl
    refine ⟨moments, hcalls, fun p m hm => ?_, accounts_of_flushed hflushed, hrun⟩
    obtain ⟨call, rfl⟩ | ⟨i, rfl⟩ := hown m hm <;> trivial

/-- One of two writes fails, for there is a file where its directory should be, and the other is
    made. Nothing is asked for once the logger is disabled. -/
theorem accounting_blocked :
    let home : Path := ⟨["home"]⟩
    let site : Path := ⟨["site"]⟩
    let files : FileSystem :=
      ⟨[(settingsDirectory home, .file ""), (settingsDirectory site, .directory)]⟩
    let logger : Logger := { session := "a", project := some site }
    let failure : Moment := .call (.record ⟨"b", 0⟩ (.error none "missing" none))
    let moments : List Moment :=
      [failure, .work 1, .call (.configure { toGlobal := some false }), .work 0, .work 0,
        .call .disable, failure]
    let done := (Queue.start logger files).run home moments
    done.pending = [] ∧ Accounts home moments (.start logger files) done ∧
      done.written.length = 1 ∧ done.logger.failedWrites = 1 ∧
        (Queue.start logger files).selectedIn home moments = 2 := by
  intro home site files logger failure moments done
  have hflushed : done.pending = [] := by decide +kernel
  exact ⟨hflushed, ((accounting home logger files).1 moments).2 hflushed, by decide +kernel,
    by decide +kernel, by decide +kernel⟩

end Log

end StaticPages
