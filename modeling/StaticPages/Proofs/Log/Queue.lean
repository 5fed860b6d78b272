import Mathlib.Data.List.Perm.Basic
import StaticPages.Proofs.Log.Lines

namespace StaticPages

namespace Log

/-- A line on its way to a file in a directory of logs. -/
structure Write where
  directory : Path
  fileName : String
  line : String
  deriving DecidableEq, Repr

namespace Write

def file (w : Write) : Path :=
  w.directory.child w.fileName

/-- The lines of those of some writes that are for one file. -/
def linesFor (p : Path) (writes : List Write) : List String :=
  (writes.filter fun w => w.file = p).map (·.line)

theorem linesFor_append (p : Path) (front back : List Write) :
    linesFor p (front ++ back) = linesFor p front ++ linesFor p back := by
  simp [linesFor]

theorem linesFor_singleton (p : Path) (w : Write) :
    linesFor p [w] = if p = w.file then [w.line] else [] := by
  by_cases h : p = w.file
  · simp [linesFor, h]
  · simp [linesFor, h, Ne.symm h]

end Write

namespace Logger

/-- The writes that an entry leads to: one in each directory that is chosen for it. -/
def writes (l : Logger) (home : Path) (stamp : Stamp) (e : Event) (fs : FileSystem) : List Write :=
  if l.accepts e.level then
    (l.chosen home fs).map fun directory =>
      ⟨directory, Calendar.dateText stamp.instant ++ ".jsonl", l.line stamp e⟩
  else []

/-- How many destinations an entry of some level has. There are none while the logger is
    disabled, if its level is off or if the entry is of a level above it. Otherwise the global
    logs count if they are enabled, and those of a project if they are enabled, the project is
    known and it has a settings directory. -/
def selected (l : Logger) (fs : FileSystem) (level : Level) : Nat :=
  if l.disabled || l.level == .off || l.level.rank < level.rank then 0
  else
    (if l.toGlobal then 1 else 0) +
      if l.toProject && l.project.any fun project => fs.isPresent (settingsDirectory project) then 1
      else 0

theorem accepts_eq_not (l : Logger) (level : Level) :
    l.accepts level = !(l.disabled || l.level == .off || l.level.rank < level.rank) := by
  have hrank : decide (level.rank ≤ l.level.rank) = !decide (l.level.rank < level.rank) := by
    rw [← decide_not, decide_eq_decide, Nat.not_lt]
  rw [accepts, Bool.not_or, Bool.not_or, hrank]
  rfl

theorem length_writes (l : Logger) (home : Path) (stamp : Stamp) (e : Event) (fs : FileSystem) :
    (l.writes home stamp e fs).length = l.selected fs e.level := by
  unfold writes selected
  rw [accepts_eq_not]
  cases l.disabled || l.level == .off || l.level.rank < e.level.rank with
  | true => rfl
  | false =>
    rw [Bool.not_false, if_pos rfl, if_neg Bool.false_ne_true, List.length_map, chosen,
      List.length_append]
    congr 1
    · split <;> rfl
    · cases l.project with
      | none => simp
      | some project =>
        simp only [Option.any_some]
        split <;> rfl

end Logger

/-- What a program asks of its logger. -/
inductive Call where
  | configure (options : Options)
  | disable
  | enable
  | record (stamp : Stamp) (e : Event)

section Calls

variable {m : Type → Type} [Monad m] [FileAccess m]

/-- What a program does when it is asked something of its logger. -/
def Logger.obey (l : Logger) (home : Path) : Call → m Logger
  | .configure options => pure (l.configure options)
  | .disable => pure l.disable
  | .enable => pure l.enable
  | .record stamp e => l.record home stamp e

def Logger.obeyAll (home : Path) : List Call → Logger → m Logger
  | [], l => pure l
  | call :: rest, l => do obeyAll home rest (← l.obey home call)

end Calls

/-- What happens to a logger and its writes: a call, a piece of work on one of the writes that
    are under way, a write that the machine refuses for a reason of its own, or a change that
    somebody else makes to the files. -/
inductive Moment where
  | call (call : Call)
  | work (i : Nat)
  | refuse (i : Nat)
  | change (f : FileSystem → FileSystem)

def Moment.call? : Moment → Option Call
  | .call asked => some asked
  | _ => none

/-- Whether nothing but work on writes happens at some moments. -/
def OnlyWork (moments : List Moment) : Prop :=
  ∀ m ∈ moments, ∃ i, m = .work i

/-- Whether nobody but the logger changes a file at a moment. -/
def Moment.LeavesAlone (p : Path) : Moment → Prop
  | .change f => ∀ fs, (f fs).text? p = fs.text? p
  | _ => True

/-- A logger whose writes are made one by one, while the program goes on. Those under way are
    marked once there is a directory for them. The history of a write ends with it being written or
    given up. -/
structure Queue where
  logger : Logger
  files : FileSystem
  pending : List (Write × Bool)
  written : List Write
  failed : List Write

namespace Queue

def start (l : Logger) (fs : FileSystem) : Queue :=
  ⟨l, fs, [], [], []⟩

def giveUp (q : Queue) (i : Nat) (w : Write) : Queue :=
  { q with
    logger := q.logger.countFailure
    pending := q.pending.eraseIdx i
    failed := q.failed ++ [w] }

def work (q : Queue) (i : Nat) : Queue :=
  match q.pending[i]? with
  | none => q
  | some (w, false) =>
    match q.files.makeDirectory w.directory with
    | .ok made => { q with files := made, pending := q.pending.set i (w, true) }
    | .error _ => q.giveUp i w
  | some (w, true) =>
    match q.files.append w.file w.line with
    | .ok grown =>
      { q with files := grown, pending := q.pending.eraseIdx i, written := q.written ++ [w] }
    | .error _ => q.giveUp i w

def refuse (q : Queue) (i : Nat) : Queue :=
  match q.pending[i]? with
  | none => q
  | some (w, _) => q.giveUp i w

/-- The writes that are asked for at a moment. -/
def requests (q : Queue) (home : Path) : Moment → List Write
  | .call (.record stamp e) => q.logger.writes home stamp e q.files
  | _ => []

/-- The number of destinations that are selected at a moment. -/
def selected (q : Queue) : Moment → Nat
  | .call (.record _ e) => q.logger.selected q.files e.level
  | _ => 0

def obey (q : Queue) (home : Path) : Call → Queue
  | .configure options => { q with logger := q.logger.configure options }
  | .disable => { q with logger := q.logger.disable }
  | .enable => { q with logger := q.logger.enable }
  | .record stamp e =>
    { q with
      pending := q.pending ++ (q.logger.writes home stamp e q.files).map fun w => (w, false) }

def step (q : Queue) (home : Path) : Moment → Queue
  | .call call => q.obey home call
  | .work i => q.work i
  | .refuse i => q.refuse i
  | .change f => { q with files := f q.files }

def run (q : Queue) (home : Path) (moments : List Moment) : Queue :=
  moments.foldl (fun q m => q.step home m) q

theorem run_append (q : Queue) (home : Path) (moments later : List Moment) :
    q.run home (moments ++ later) = (q.run home moments).run home later :=
  List.foldl_append

/-- The writes that are asked for in a run. -/
def requested (q : Queue) (home : Path) : List Moment → List Write
  | [] => []
  | m :: rest => q.requests home m ++ (q.step home m).requested home rest

/-- How many destinations are selected in a run, over all of its calls. -/
def selectedIn (q : Queue) (home : Path) : List Moment → Nat
  | [] => 0
  | m :: rest => q.selected m + (q.step home m).selectedIn home rest

/-- All writes that were ever asked for. -/
def all (q : Queue) : List Write :=
  q.written ++ q.failed ++ q.pending.map (·.1)

/-- Whether the writes of a queue are those of an earlier one and some more, and all that have
    failed since have been counted. -/
structure Settles (before after : Queue) (more : List Write) : Prop where
  all : after.all.Perm (before.all ++ more)
  failures : after.logger.failedWrites + before.failed.length =
    before.logger.failedWrites + after.failed.length

variable {home : Path}

theorem Settles.refl (q : Queue) : q.Settles q [] :=
  ⟨by rw [List.append_nil], rfl⟩

theorem Settles.trans {a b c : Queue} {first second : List Write} (hab : a.Settles b first)
    (hbc : b.Settles c second) : a.Settles c (first ++ second) := by
  refine ⟨?_, ?_⟩
  · rw [← List.append_assoc]
    exact hbc.all.trans (hab.all.append_right second)
  · have hfirst := hab.failures
    have hsecond := hbc.failures
    omega

/-- A write that is no longer under way is one of those that were, and leaves the others. -/
theorem perm_eraseIdx {pending : List (Write × Bool)} {i : Nat} {w : Write} {ready : Bool}
    (h : pending[i]? = some (w, ready)) :
    (w :: (pending.eraseIdx i).map (·.1)).Perm (pending.map (·.1)) := by
  obtain ⟨hi, hget⟩ := List.getElem?_eq_some_iff.mp h
  have hperm := (List.getElem_cons_eraseIdx_perm hi).map (·.1)
  rwa [List.map_cons, hget] at hperm

theorem settles_giveUp {q : Queue} {i : Nat} {w : Write} {ready : Bool}
    (h : q.pending[i]? = some (w, ready)) : q.Settles (q.giveUp i w) [] := by
  refine ⟨?_, ?_⟩
  · have hall : (q.giveUp i w).all =
        q.written ++ q.failed ++ w :: (q.pending.eraseIdx i).map (·.1) := by
      simp [all, giveUp]
    rw [hall, List.append_nil]
    exact (perm_eraseIdx h).append_left _
  · simp only [giveUp, Logger.countFailure, List.length_append, List.length_singleton]
    omega

/-- A write that has been made moves to the written ones. -/
theorem settles_written {q : Queue} {i : Nat} {w : Write} {ready : Bool}
    (h : q.pending[i]? = some (w, ready)) (grown : FileSystem) :
    q.Settles
      { q with files := grown, pending := q.pending.eraseIdx i, written := q.written ++ [w] } [] := by
  refine ⟨?_, rfl⟩
  have hmiddle : (w :: (q.failed ++ (q.pending.eraseIdx i).map (·.1))).Perm
      (q.failed ++ w :: (q.pending.eraseIdx i).map (·.1)) := List.perm_middle.symm
  have hlast := (perm_eraseIdx h).append_left q.failed
  simpa [all] using (hmiddle.trans hlast).append_left q.written

/-- Making a directory for a write leaves all writes as they are. -/
theorem settles_ready {q : Queue} {i : Nat} {w : Write} (h : q.pending[i]? = some (w, false))
    (made : FileSystem) :
    q.Settles { q with files := made, pending := q.pending.set i (w, true) } [] := by
  obtain ⟨hi, hget⟩ := List.getElem?_eq_some_iff.mp h
  have hmap : (q.pending.set i (w, true)).map (·.1) = q.pending.map (·.1) := by
    rw [List.map_set]
    exact List.ext_getElem (by simp) fun k _ _ => by
      rw [List.getElem_set]
      split
      · next hk => subst hk; simp [hget]
      · rfl
  refine ⟨?_, rfl⟩
  rw [all, hmap, List.append_nil]
  exact .refl _

theorem settles_work (q : Queue) (i : Nat) : q.Settles (q.work i) [] := by
  unfold work
  split
  · exact .refl q
  · next w hw =>
    cases q.files.makeDirectory w.directory with
    | ok made => exact settles_ready hw made
    | error _ => exact settles_giveUp hw
  · next w hw =>
    cases q.files.append w.file w.line with
    | ok grown => exact settles_written hw grown
    | error _ => exact settles_giveUp hw

theorem settles_refuse (q : Queue) (i : Nat) : q.Settles (q.refuse i) [] := by
  unfold refuse
  split
  · exact .refl q
  · next w ready hw => exact settles_giveUp hw

/-- At each moment, the writes that are asked for join those there are. -/
theorem settles_step (q : Queue) (m : Moment) : q.Settles (q.step home m) (q.requests home m) := by
  cases m with
  | call call =>
    cases call with
    | record stamp e =>
      have hnew (writes : List Write) : (writes.map fun w => (w, false)).map (·.1) = writes := by
        rw [List.map_map]
        exact List.map_id' writes
      refine ⟨?_, rfl⟩
      simp only [step, obey, requests, all, List.map_append, hnew, List.append_assoc]
      exact .refl _
    | configure | disable | enable => exact ⟨(Settles.refl q).all, rfl⟩
  | work i => exact settles_work q i
  | refuse i => exact settles_refuse q i
  | change f => exact ⟨(Settles.refl q).all, rfl⟩

theorem settles_run (q : Queue) (home : Path) (moments : List Moment) :
    q.Settles (q.run home moments) (q.requested home moments) := by
  induction moments generalizing q with
  | nil => exact .refl q
  | cons m rest ih => exact (settles_step q m).trans (ih (q.step home m))

theorem length_requests (q : Queue) (home : Path) (m : Moment) :
    (q.requests home m).length = q.selected m := by
  cases m with
  | call call =>
    cases call with
    | record stamp e => exact q.logger.length_writes home stamp e q.files
    | configure | disable | enable => rfl
  | work | refuse | change => rfl

theorem length_requested (q : Queue) (home : Path) (moments : List Moment) :
    (q.requested home moments).length = q.selectedIn home moments := by
  induction moments generalizing q with
  | nil => rfl
  | cons m rest ih => rw [requested, selectedIn, List.length_append, length_requests, ih]

/-- Whatever is asked for in a run is asked for by one of the calls that log an entry. -/
theorem exists_of_mem_requested {q : Queue} {moments : List Moment} {w : Write}
    (h : w ∈ q.requested home moments) :
    ∃ before stamp e after, moments = before ++ .call (.record stamp e) :: after ∧
      w ∈ (q.run home before).logger.writes home stamp e (q.run home before).files := by
  induction moments generalizing q with
  | nil => cases h
  | cons m rest ih =>
    rcases List.mem_append.mp h with hnow | hlater
    · cases m with
      | call call =>
        cases call with
        | record stamp e => exact ⟨[], stamp, e, rest, rfl, hnow⟩
        | configure | disable | enable => cases hnow
      | work | refuse | change => cases hnow
    · obtain ⟨before, stamp, e, after, rfl, hw⟩ := ih hlater
      exact ⟨m :: before, stamp, e, after, rfl, hw⟩

/-- What is written in a run is new, and is what the files gain that are left alone by
    everybody else. -/
def Extends (p : Path) (before after : Queue) : Prop :=
  ∃ new, after.written = before.written ++ new ∧
    before.files.Grows after.files p (Write.linesFor p new)

theorem Extends.of_same {p : Path} {before after : Queue} (hwritten : after.written = before.written)
    (hfiles : after.files.text? p = before.files.text? p) : Extends p before after :=
  ⟨[], by rw [hwritten, List.append_nil], .of_text? hfiles⟩

theorem Extends.trans {p : Path} {a b c : Queue} (hab : Extends p a b) (hbc : Extends p b c) :
    Extends p a c := by
  obtain ⟨first, hfirst, hgrows⟩ := hab
  obtain ⟨second, hsecond, hgrows'⟩ := hbc
  refine ⟨first ++ second, by rw [hsecond, hfirst, List.append_assoc], ?_⟩
  rw [Write.linesFor_append]
  exact hgrows.trans hgrows'

theorem extends_work (q : Queue) (i : Nat) (p : Path) : Extends p q (q.work i) := by
  unfold work
  split
  · exact .of_same rfl rfl
  · next w _ =>
    split
    · next made hmade => exact .of_same rfl (FileSystem.text?_makeDirectory hmade p)
    · exact .of_same rfl rfl
  · next w _ =>
    split
    · next grown hgrown =>
      refine ⟨[w], rfl, ?_⟩
      rw [Write.linesFor_singleton]
      exact FileSystem.grows_append hgrown p
    · exact .of_same rfl rfl

theorem extends_refuse (q : Queue) (i : Nat) (p : Path) : Extends p q (q.refuse i) := by
  unfold refuse
  split <;> exact .of_same rfl rfl

theorem extends_step (q : Queue) {m : Moment} {p : Path} (h : m.LeavesAlone p) :
    Extends p q (q.step home m) := by
  cases m with
  | call call => cases call <;> exact .of_same rfl rfl
  | work i => exact extends_work q i p
  | refuse i => exact extends_refuse q i p
  | change f => exact .of_same rfl (h q.files)

theorem extends_run (q : Queue) (home : Path) {moments : List Moment} {p : Path}
    (h : ∀ m ∈ moments, m.LeavesAlone p) : Extends p q (q.run home moments) := by
  induction moments generalizing q with
  | nil => exact .of_same rfl rfl
  | cons m rest ih =>
    obtain ⟨hm, hrest⟩ := List.forall_mem_cons.mp h
    exact (extends_step q hm).trans (ih (q.step home m) hrest)

end Queue

end Log

end StaticPages
