import LineMetrics.Proofs.Scan.Settled

/-!
# Workers side by side

Workers share one scanner (specification, section 5).  A task scans one file in three steps, each of
which happens at once: it takes the file's parser, which is made and kept under a lock; it examines
the file, which looks at nothing that another task changes; it enters its finding into the ledger,
under the ledger's lock.  A schedule says whose step comes next.

What a task is going to do to the ledger is fixed from its start (`Task.pending?`), so whatever the
schedule, a pool whose tasks are all finished has settled its batch (`settled_run`).
-/

namespace LineMetrics
namespace Scanner

/-- How far a worker is with a file. -/
inductive Task
  | queued (path : Path)
  | equipped (path : Path) (key : String) (parser : Parser)
  | examined (path : Path) (key : String) (finding : Finding)
  | finished (path : Path) (result : Except Fault (Option Entity))

/-- Workers' tasks and the scanner they share. -/
structure Pool where
  scanner : Scanner
  tasks : List Task

/-- The path of a file's task. -/
def Task.path : Task → Path
  | .queued path | .equipped path .. | .examined path .. | .finished path _ => path

section Steps

variable (files : FileStore) (catalog : Catalog)

/-- One step of a task on the shared scanner. -/
def Task.step (s : Scanner) : Task → Task × Scanner
  | .queued path =>
    let prepare : Scan (String × Parser) := do
      let key ← Scan.orFault (keyOf files path)
      let parser ← parserFor catalog path
      return (key, parser)
    match s.run prepare with
    | (.ok (key, parser), s') => (.equipped path key parser, s')
    | (.error fault, s') => (.finished path (.error fault), s')
  | .equipped path key parser =>
    match examine s.settings s.visitors files catalog false parser path key with
    | .ok finding => (.examined path key finding, s)
    | .error fault => (.finished path (.error fault), s)
  | .examined path key finding =>
    let (result, s') := s.run (deliver path key finding)
    (.finished path result, s')
  | .finished path result => (.finished path result, s)

/-- The pool in which no task has begun. -/
def Pool.start (s : Scanner) (paths : List Path) : Pool := ⟨s, paths.map .queued⟩

/-- The pool after a step of its task with a number. -/
def Pool.step (p : Pool) (i : Nat) : Pool :=
  match p.tasks[i]? with
  | some task =>
    let (task', s) := task.step files catalog p.scanner
    ⟨s, p.tasks.set i task'⟩
  | none => p

/-- The pool after steps in the order of a schedule. -/
def Pool.run (p : Pool) (schedule : List Nat) : Pool :=
  schedule.foldl (Pool.step files catalog) p

end Steps

variable {files : FileStore} {catalog : Catalog} {settings : Settings} {visitors : List Visitor}
  {project : Value}

namespace Task

/-- Whether nothing is left of a task. -/
def isFinished : Task → Bool
  | .finished .. => true
  | _ => false

/-- How many steps are left of a task at most. -/
def rank : Task → Nat
  | .queued _ => 3
  | .equipped .. => 2
  | .examined .. => 1
  | .finished .. => 0

section

variable (files catalog settings visitors)

/-- The call that a task has still to make, or the fault that it will end with. -/
def pending? : Task → Option (Except Fault Ledger.Call)
  | .queued path => some (verdict files catalog settings visitors false path)
  | .equipped path key parser => some (do
      let finding ← examine settings visitors files catalog false parser path key
      finding.delivery key)
  | .examined _ key finding => some (finding.delivery key)
  | .finished .. => none

end

/-- A task is one step nearer to its end after a step. -/
theorem rank_step (files : FileStore) (catalog : Catalog) (s : Scanner) (task : Task) :
    (task.step files catalog s).1.rank ≤ task.rank - 1 := by
  cases task with
  | queued path =>
    rw [step]
    split <;> simp [rank]
  | equipped path key parser =>
    rw [step]
    split <;> simp [rank]
  | examined path key finding => simp [step, rank]
  | finished path result => simp [step, rank]

/-- A task keeps its path. -/
theorem path_step (files : FileStore) (catalog : Catalog) (s : Scanner) (task : Task) :
    (task.step files catalog s).1.path = task.path := by
  cases task with
  | queued path =>
    rw [step]
    split <;> rfl
  | equipped path key parser =>
    rw [step]
    split <;> rfl
  | examined path key finding => rfl
  | finished path result => rfl

/-- **A step of a task** that is going to make a call keeps to it, or makes it. -/
theorem pending_step {s : Scanner} (hs : Steady catalog settings visitors s) {task : Task}
    {c : Ledger.Call} (h : task.pending? files catalog settings visitors = some (.ok c)) :
    Steady catalog settings visitors (task.step files catalog s).2 ∧
      ((task.step files catalog s).1.pending? files catalog settings visitors = some (.ok c) ∧
          (task.step files catalog s).2.ledger = s.ledger ∨
        (task.step files catalog s).1 =
            .finished task.path (.ok (c.entity? s.ledger.project)) ∧
          s.ledger.call c = .ok (task.step files catalog s).2.ledger) := by
  cases task with
  | queued path =>
    obtain ⟨key, hkey, parser, hcreate, hfinding⟩ := verdict_eq_ok_iff.1 (Option.some.inj h)
    obtain ⟨s', hrun, hs', hledger⟩ := run_parserFor hs path
    rw [hcreate] at hrun
    simp only [step, run_bind, run_orFault, hkey, hrun, run_pure]
    exact ⟨hs', .inl ⟨congrArg some (bind_eq_ok_iff.2 hfinding), hledger⟩⟩
  | equipped path key parser =>
    obtain ⟨finding, hfinding, hdelivery⟩ := bind_eq_ok_iff.1 (Option.some.inj h)
    simp only [step, hs.settings_eq, hs.visitors_eq, hfinding]
    exact ⟨hs, .inl ⟨congrArg some hdelivery, trivial⟩⟩
  | examined path key finding =>
    obtain ⟨s', hrun, hs', hcall⟩ := run_deliver hs path key finding
    rw [Option.some.inj h] at hrun
    simp only [step, hrun]
    exact ⟨hs', .inr ⟨rfl, hcall c (Option.some.inj h)⟩⟩
  | finished path result => exact nomatch h

/-- A task is finished when no step is left of it. -/
theorem isFinished_iff_rank {task : Task} : task.isFinished = true ↔ task.rank = 0 := by
  cases task <;> simp [isFinished, rank]

end Task

namespace Pool

/-- Whether all tasks are finished. -/
def isDone (pool : Pool) : Bool := pool.tasks.all Task.isFinished

/-- How many steps are left of the task with a number at most. -/
def rank (pool : Pool) (i : Nat) : Nat := ((pool.tasks[i]?).map Task.rank).getD 0

/-- A step of the pool is a step of the named task, on the shared scanner. -/
theorem step_of_some {pool : Pool} {i : Nat} {task : Task} (h : pool.tasks[i]? = some task) :
    pool.step files catalog i = ⟨(task.step files catalog pool.scanner).2,
      pool.tasks.set i (task.step files catalog pool.scanner).1⟩ := by
  rw [step, h]

/-- A step of a task that does not exist changes nothing. -/
theorem step_of_none {pool : Pool} {i : Nat} (h : pool.tasks[i]? = none) :
    pool.step files catalog i = pool := by
  rw [step, h]

/-- The tasks stand in the order of the paths. -/
theorem map_path_start (s : Scanner) (paths : List Path) :
    (start s paths).tasks.map Task.path = paths := by
  rw [start, List.map_map]
  exact List.map_id paths

/-- A step leaves the paths of the tasks as they are. -/
theorem map_path_step (files : FileStore) (catalog : Catalog) (pool : Pool) (i : Nat) :
    (pool.step files catalog i).tasks.map Task.path = pool.tasks.map Task.path := by
  cases htask : pool.tasks[i]? with
  | none => rw [step_of_none htask]
  | some task =>
    obtain ⟨hi, hget⟩ := List.getElem?_eq_some_iff.1 htask
    have hi' : i < (pool.tasks.map Task.path).length := by rwa [List.length_map]
    have hsame : task.path = (pool.tasks.map Task.path)[i] := by rw [List.getElem_map, hget]
    rw [step_of_some htask, List.map_set, Task.path_step, hsame, List.set_getElem_self]

/-- A step of the pool brings the named task nearer to its end, and no task away from it. -/
theorem rank_step (files : FileStore) (catalog : Catalog) (pool : Pool) (i j : Nat) :
    (pool.step files catalog j).rank i ≤ pool.rank i - if j = i then 1 else 0 := by
  cases htask : pool.tasks[j]? with
  | none =>
    rw [step_of_none htask]
    by_cases heq : j = i
    · subst heq
      simp [rank, htask]
    · rw [if_neg heq]
      exact Nat.le_refl _
  | some task =>
    rw [step_of_some htask]
    dsimp only [rank]
    rw [List.getElem?_set]
    by_cases heq : j = i
    · subst heq
      rw [if_pos rfl, if_pos rfl, if_pos (List.getElem?_eq_some_iff.1 htask).1, htask]
      exact Task.rank_step files catalog pool.scanner task
    · rw [if_neg heq, if_neg heq]
      exact Nat.le_refl _

/-- A schedule brings each task nearer to its end by as many steps as it gives it. -/
theorem rank_run (files : FileStore) (catalog : Catalog) (schedule : List Nat) (pool : Pool)
    (i : Nat) :
    (pool.run files catalog schedule).rank i ≤ pool.rank i - schedule.count i := by
  induction schedule generalizing pool with
  | nil => exact Nat.le_refl _
  | cons j rest ih =>
    have hstep := rank_step files catalog pool i j
    have hrest := ih (pool.step files catalog j)
    rw [run, List.foldl_cons, ← run, List.count_cons]
    simp only [beq_iff_eq]
    omega

/-- The tasks stand in the order of the paths throughout. -/
theorem map_path_run (files : FileStore) (catalog : Catalog) (schedule : List Nat) (pool : Pool) :
    (pool.run files catalog schedule).tasks.map Task.path = pool.tasks.map Task.path := by
  induction schedule generalizing pool with
  | nil => rfl
  | cons i rest ih => rw [run, List.foldl_cons, ← run, ih, map_path_step]

/-- No task is lost or added. -/
theorem length_run (schedule : List Nat) (pool : Pool) :
    (pool.run files catalog schedule).tasks.length = pool.tasks.length := by
  have h := congrArg List.length (map_path_run files catalog schedule pool)
  rwa [List.length_map, List.length_map] at h

/-- **What the steps of tasks keep,** of the scanner and of the tasks, is kept under every
schedule. -/
theorem run_keeps {P : Scanner → Prop} {Q : Task → Prop}
    (hstep : ∀ s task, P s → Q task →
      P (task.step files catalog s).2 ∧ Q (task.step files catalog s).1)
    (schedule : List Nat) {pool : Pool} (hs : P pool.scanner) (htasks : ∀ t ∈ pool.tasks, Q t) :
    P (pool.run files catalog schedule).scanner ∧
      ∀ t ∈ (pool.run files catalog schedule).tasks, Q t := by
  induction schedule generalizing pool with
  | nil => exact ⟨hs, htasks⟩
  | cons i rest ih =>
    rw [run, List.foldl_cons, ← run]
    cases htask : pool.tasks[i]? with
    | none =>
      rw [step_of_none htask]
      exact ih hs htasks
    | some task =>
      obtain ⟨hs', htask'⟩ := hstep _ _ hs (htasks task (List.mem_of_getElem? htask))
      rw [step_of_some htask]
      refine ih hs' fun t ht => ?_
      rcases List.mem_or_eq_of_mem_set ht with ht | rfl
      · exact htasks t ht
      · exact htask'

/-- **A schedule that lets each task take three steps** finishes them all. -/
theorem isDone_run (files : FileStore) (catalog : Catalog) (s : Scanner) {paths : List Path}
    {schedule : List Nat} (h : ∀ i < paths.length, 3 ≤ schedule.count i) :
    ((start s paths).run files catalog schedule).isDone = true := by
  rw [isDone, List.all_eq_true]
  intro task htask
  obtain ⟨i, hi, rfl⟩ := List.getElem_of_mem htask
  have hrank := rank_run files catalog schedule (start s paths) i
  have hstart : (start s paths).rank i ≤ 3 := by
    rw [rank, start, List.getElem?_map]
    cases paths[i]? <;> simp [Task.rank]
  have hcount : 3 ≤ schedule.count i := by
    rw [length_run, start, List.length_map] at hi
    exact h i hi
  have hnow : ((start s paths).run files catalog schedule).rank i =
      (((start s paths).run files catalog schedule).tasks[i]).rank := by
    rw [rank, List.getElem?_eq_getElem hi]
    rfl
  rw [Task.isFinished_iff_rank]
  omega

section

variable (files catalog settings visitors project)

/-- A pool in the midst of a batch.  The calls made so far are verdicts on the batch's paths, and
each task has made the call of its path's verdict or is still going to. -/
structure Underway (paths : List Path) (pool : Pool) (calls : List Ledger.Call) : Prop where
  steady : Steady catalog settings visitors pool.scanner
  records : pool.scanner.ledger.Records project calls
  paths_eq : pool.tasks.map Task.path = paths
  sound : ∀ c ∈ calls, ∃ p ∈ paths, verdict files catalog settings visitors false p = .ok c
  tasks : ∀ t ∈ pool.tasks, ∃ c,
    verdict files catalog settings visitors false t.path = .ok c ∧
      (t.pending? files catalog settings visitors = some (.ok c) ∨
        t = .finished t.path (.ok (c.entity? project)) ∧ c ∈ calls)

end

/-- No call is made before the first step. -/
theorem underway_start {s : Scanner} {paths : List Path}
    (hs : Steady catalog settings visitors s) (hledger : s.ledger = .ofProject project)
    (hpaths : ∀ p ∈ paths, ∃ c, verdict files catalog settings visitors false p = .ok c) :
    Underway files catalog settings visitors project paths (start s paths) [] where
  steady := hs
  records := hledger ▸ Ledger.records_ofProject project
  paths_eq := map_path_start s paths
  sound := nofun
  tasks t ht := by
    obtain ⟨p, hp, rfl⟩ := List.mem_map.1 ht
    obtain ⟨c, hc⟩ := hpaths p hp
    exact ⟨c, hc, .inl (congrArg some hc)⟩

/-- **A step of a pool** makes at most one call, that of the task's verdict. -/
theorem underway_step {paths : List Path} {pool : Pool} {calls : List Ledger.Call}
    (h : Underway files catalog settings visitors project paths pool calls) (i : Nat) :
    ∃ calls', Underway files catalog settings visitors project paths (pool.step files catalog i)
      calls' := by
  cases htask : pool.tasks[i]? with
  | none => exact ⟨calls, (step_of_none htask).symm ▸ h⟩
  | some task =>
    have hpaths := (map_path_step files catalog pool i).trans h.paths_eq
    rw [step_of_some htask] at hpaths ⊢
    have hpath := Task.path_step files catalog pool.scanner task
    -- The task is pending and stays so, is pending and makes its call, or has made it before.
    obtain ⟨c, hc, hpending | ⟨hfinished, hmade⟩⟩ := h.tasks task (List.mem_of_getElem? htask)
    · obtain ⟨hs', ⟨hstill, hledger⟩ | ⟨hnow, hcall⟩⟩ := Task.pending_step h.steady hpending
      · refine ⟨calls, hs', hledger ▸ h.records, hpaths, h.sound, fun t ht => ?_⟩
        rcases List.mem_or_eq_of_mem_set ht with ht | rfl
        · exact h.tasks t ht
        · exact ⟨c, hpath ▸ hc, .inl hstill⟩
      · refine ⟨calls ++ [c], hs', h.records.call hcall, hpaths, ?_, fun t ht => ?_⟩
        · intro d hd
          rcases List.mem_append.1 hd with hd | hd
          · exact h.sound d hd
          · obtain rfl := List.mem_singleton.1 hd
            refine ⟨task.path, ?_, hc⟩
            rw [← h.paths_eq]
            exact List.mem_map_of_mem (List.mem_of_getElem? htask)
        · rcases List.mem_or_eq_of_mem_set ht with ht | rfl
          · obtain ⟨d, hd, hpending' | ⟨hfinished', hmade'⟩⟩ := h.tasks t ht
            · exact ⟨d, hd, .inl hpending'⟩
            · exact ⟨d, hd, .inr ⟨hfinished', List.mem_append_left _ hmade'⟩⟩
          · refine ⟨c, hpath ▸ hc, .inr ⟨?_, List.mem_append_right _ (List.mem_singleton_self c)⟩⟩
            rw [hpath, hnow, h.records.project_eq]
    · have hstay : task.step files catalog pool.scanner = (task, pool.scanner) := by
        rw [hfinished]
        rfl
      obtain ⟨_, rfl⟩ := List.getElem?_eq_some_iff.1 htask
      rw [hstay, List.set_getElem_self]
      exact ⟨calls, h⟩

/-- A run of a pool stays underway. -/
theorem underway_run {paths : List Path} (schedule : List Nat) {pool : Pool}
    {calls : List Ledger.Call}
    (h : Underway files catalog settings visitors project paths pool calls) :
    ∃ calls', Underway files catalog settings visitors project paths
      (pool.run files catalog schedule) calls' := by
  induction schedule generalizing pool calls with
  | nil => exact ⟨calls, h⟩
  | cons i rest ih =>
    obtain ⟨calls', h'⟩ := underway_step h i
    exact ih h'

/-- **Whatever the schedule,** a pool whose tasks are finished has settled its batch, and no task
has ended with a fault. -/
theorem settled_run {s : Scanner} {paths : List Path} (hs : Steady catalog settings visitors s)
    (hledger : s.ledger = .ofProject project)
    (hpaths : ∀ p ∈ paths, ∃ c, verdict files catalog settings visitors false p = .ok c)
    {schedule : List Nat} (hdone : ((start s paths).run files catalog schedule).isDone = true) :
    Settled files catalog settings visitors project paths
        ((start s paths).run files catalog schedule).scanner.ledger ∧
      ∀ t ∈ ((start s paths).run files catalog schedule).tasks,
        ∃ entity, t = .finished t.path (.ok entity) := by
  obtain ⟨calls, h⟩ := underway_run schedule (underway_start hs hledger hpaths)
  have hmade : ∀ t ∈ ((start s paths).run files catalog schedule).tasks, ∃ c,
      verdict files catalog settings visitors false t.path = .ok c ∧
        t = .finished t.path (.ok (c.entity? project)) ∧ c ∈ calls := by
    intro t ht
    obtain ⟨c, hc, hpending | hfinished⟩ := h.tasks t ht
    · have hlast := List.all_eq_true.1 hdone t ht
      cases t with
      | finished => exact nomatch hpending
      | _ => exact nomatch hlast
    · exact ⟨c, hc, hfinished⟩
  refine ⟨⟨calls, h.records, h.sound, fun p hp => ?_⟩, fun t ht => ?_⟩
  · rw [← h.paths_eq] at hp
    obtain ⟨t, ht, rfl⟩ := List.mem_map.1 hp
    obtain ⟨c, hc, -, hmem⟩ := hmade t ht
    exact ⟨c, hmem, hc⟩
  · obtain ⟨c, -, hfinished, -⟩ := hmade t ht
    exact ⟨_, hfinished⟩

end Pool

end Scanner
end LineMetrics
