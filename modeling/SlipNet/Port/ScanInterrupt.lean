import SlipNet.Port.PortScanner

/-!
# Interrupting a port scan

The collecting loop reads the stop flag and then blocks in `get()`.  A signal
that arrives while it waits for a worker that has not read the flag itself
makes that worker return without connecting, and the collector takes its value
for a closed port.  This is the only way in which a port that was never tried
can reach the results.
-/

namespace SlipNet.Scanning

open SlipNet.Foundation
open SlipNet.Standard
open SlipNet.Core

/-! ## What was tried, skipped and awaited -/

def ScanState.attempts (state : ScanState) : List Port :=
  state.workers.filterMap Worker.attempt?

def ScanState.skipped (state : ScanState) : List Int :=
  (state.workers.filter (·.phase = .skipped)).map Worker.port

def ScanState.awaited (state : ScanState) : Option Worker :=
  match state.pc with
  | .get _ i => state.workers[state.released + i]?
  | _ => none

/-- No signal while the scanning thread waits for a worker that has not read
the flag yet. -/
def SignalAwaited (state : ScanState) (action : Action) : Prop :=
  action = .signal → ∀ worker ∈ state.awaited, worker.phase ≠ .started

/-- Every reported result is the outcome of a connection attempt, and a port
that was skipped or never launched is absent from the results; storing them
changes the table for attempted ports only. -/
structure ReportsAttempts (host : Str) (state : ScanState) : Prop where
  attempted : ∀ result ∈ state.results, result ∈ state.attempts
  absent : ∀ port ∈ state.skipped ++ state.todo,
    port ∉ state.results.map Port.number
  stored : ∀ (network : NetworkState) (ip : Str), ∀ record ∈
    (storeResults host state.results network).getPorts ip,
      record ∈ network.getPorts ip ∨
        ip = host ∧ ∃ attempt ∈ state.attempts, record = attempt.info
  kept : ∀ (network : NetworkState) (ip : Str),
    ∀ port ∈ state.skipped ++ state.todo,
      lookup PortInfo.port port
          ((storeResults host state.results network).getPorts ip) =
        lookup PortInfo.port port (network.getPorts ip)

theorem mem_awaited {state : ScanState} {worker : Worker} :
    worker ∈ state.awaited ↔ ∃ last i, state.pc = .get last i ∧
      state.workers[state.released + i]? = some worker := by
  unfold ScanState.awaited
  cases state.pc <;> simp

theorem mem_attempts {state : ScanState} {attempt : Port} :
    attempt ∈ state.attempts ↔
      ∃ worker ∈ state.workers, worker.attempt? = some attempt :=
  List.mem_filterMap

theorem mem_skipped {state : ScanState} {port : Int} :
    port ∈ state.skipped ↔
      ∃ worker ∈ state.workers, worker.phase = .skipped ∧
        worker.port = port := by
  simp [ScanState.skipped, and_assoc]

theorem Worker.result?_of_attempt? {worker : Worker} {port : Port}
    (h : worker.attempt? = some port) : worker.result? = some port := by
  cases worker with
  | mk number phase =>
      cases phase with
      | connected valid latencyMs => exact h
      | _ => cases h

theorem Worker.attempt?_of_result? {worker : Worker} {port : Port}
    (h : worker.result? = some port) (hskipped : worker.phase ≠ .skipped) :
    worker.attempt? = some port := by
  cases worker with
  | mk number phase =>
      cases phase with
      | connected valid latencyMs => exact h
      | skipped => exact absurd rfl hskipped
      | _ => cases h

theorem Worker.number_of_result? {worker : Worker} {port : Port}
    (h : worker.result? = some port) : port.number = worker.port := by
  cases worker with
  | mk number phase =>
      cases phase <;> cases h <;> rfl

/-! ## The invariant of every run -/

variable {std : SortRoutine Port} {job : ScanJob} {state next : ScanState}
  {action : Action}

/-- Workers and waiting ports are the job's ports in order; a worker was
skipped only under the flag. -/
structure Consistent (job : ScanJob) (state : ScanState) : Prop where
  ports : state.workers.map Worker.port ++ state.todo = job.ports
  flagged : ∀ worker ∈ state.workers, worker.phase = .skipped →
    state.stop = true

theorem consistent_start (job : ScanJob) : Consistent job job.start where
  ports := rfl
  flagged := by simp [ScanJob.start]

theorem Consistent.setPhase (h : Consistent job state) {i : Nat}
    {worker : Worker} {phase : Phase} (hworker : state.workers[i]? = some worker)
    (hphase : phase = .skipped → state.stop = true) :
    Consistent job (state.setPhase i worker phase) where
  ports := by
    rw [map_port_setPhase hworker]
    exact h.ports
  flagged := by
    intro other hother hskipped
    rcases mem_workers_setPhase hother with hother | rfl
    · exact h.flagged other hother hskipped
    · exact hphase hskipped

theorem Consistent.step (h : Consistent job state)
    (hstep : ScanStep std job state action next) : Consistent job next := by
  cases action with
  | signal =>
      cases hstep
      exact ⟨h.ports, fun _ _ _ => rfl⟩
  | check i =>
      obtain ⟨worker, hworker, _, rfl⟩ := stepCheck_cases hstep
      refine h.setPhase hworker fun hphase => ?_
      by_contra hstop
      simp [hstop] at hphase
  | connect i valid latencyMs =>
      obtain ⟨worker, hworker, _, rfl⟩ := stepConnect_cases hstep
      exact h.setPhase hworker (by simp)
  | main =>
      rcases stepMain_cases hstep with ⟨_, _, rfl⟩ |
        ⟨port, rest, _, htodo, _, rfl⟩ | ⟨last, i, _, _, _, rfl⟩ |
        ⟨last, i, _, _, rfl⟩ | ⟨last, i, worker, port, _, _, _, rfl⟩ |
        ⟨_, rfl⟩ | ⟨_, rfl⟩
      case inr.inl =>
        constructor
        · simpa [ScanState.launchWorker, htodo] using h.ports
        · intro worker hworker hskipped
          rcases List.mem_append.mp hworker with hworker | hworker
          · exact h.flagged worker hworker hskipped
          · rw [List.mem_singleton] at hworker
            subst hworker
            cases hskipped
      all_goals exact ⟨h.ports, h.flagged⟩

theorem Consistent.nodup_ports (h : Consistent job state) :
    (state.workers.map Worker.port ++ state.todo).Nodup :=
  h.ports ▸ job.nodup_ports

theorem Consistent.worker_unique (h : Consistent job state)
    {a b : Worker} (ha : a ∈ state.workers) (hb : b ∈ state.workers)
    (hport : a.port = b.port) : a = b :=
  List.inj_on_of_nodup_map (List.nodup_append.mp h.nodup_ports).1 ha hb hport

theorem mem_attempts_of_step (hstep : ScanStep std job state action next)
    {attempt : Port} (h : attempt ∈ state.attempts) :
    attempt ∈ next.attempts := by
  obtain ⟨worker, hworker, hattempt⟩ := mem_attempts.mp h
  exact mem_attempts.mpr ⟨worker, mem_workers_of_step hstep hworker
    (Worker.result?_of_attempt? hattempt), hattempt⟩

theorem mem_skipped_of_step (hstep : ScanStep std job state action next)
    {port : Int} (h : port ∈ state.skipped) : port ∈ next.skipped := by
  obtain ⟨worker, hworker, hphase, hport⟩ := mem_skipped.mp h
  have hresult : worker.result? = some ⟨worker.port, false, .zero⟩ := by
    simp [Worker.result?, hphase]
  exact mem_skipped.mpr
    ⟨worker, mem_workers_of_step hstep hworker hresult, hphase, hport⟩

theorem mem_results_of_step (hstep : ScanStep std job state action next)
    {result : Port} (h : result ∈ state.results) : result ∈ next.results := by
  cases action with
  | signal =>
      cases hstep
      exact h
  | check i =>
      obtain ⟨worker, _, _, rfl⟩ := stepCheck_cases hstep
      exact h
  | connect i valid latencyMs =>
      obtain ⟨worker, _, _, rfl⟩ := stepConnect_cases hstep
      exact h
  | main =>
      rcases stepMain_cases hstep with ⟨_, _, rfl⟩ |
        ⟨port, rest, _, _, _, rfl⟩ |
        ⟨last, i, _, _, _, rfl⟩ | ⟨last, i, _, _, rfl⟩ |
        ⟨last, i, worker, port, _, _, _, rfl⟩ | ⟨_, rfl⟩ | ⟨_, rfl⟩
      case inr.inr.inr.inr.inl => exact List.mem_append_left _ h
      case inr.inr.inr.inr.inr.inr =>
        exact (std.mem_sort byNumber_strictWeakOrder).mpr h
      all_goals exact h

/-! ## Runs without such a signal -/

/-- What holds as long as no signal meets an awaited worker that has not read
the flag: the next value the collector takes is no skipped worker's. -/
structure Genuine (state : ScanState) : Prop where
  attempted : ∀ result ∈ state.results, result ∈ state.attempts
  unskipped : ∀ worker ∈ state.awaited, worker.phase ≠ .skipped
  unflagged : ∀ worker ∈ state.awaited, worker.phase = .started →
    state.stop = false

theorem genuine_start (job : ScanJob) : Genuine job.start where
  attempted := by simp [ScanJob.start]
  unskipped := by simp [ScanState.awaited, ScanJob.start]
  unflagged := by simp [ScanState.awaited, ScanJob.start]

theorem mem_awaited_setPhase {i : Nat} {worker other : Worker} {phase : Phase}
    (hworker : state.workers[i]? = some worker)
    (h : other ∈ (state.setPhase i worker phase).awaited) :
    other ∈ state.awaited ∨
      worker ∈ state.awaited ∧ other = { worker with phase := phase } := by
  obtain ⟨last, k, hpc, hother⟩ := mem_awaited.mp h
  by_cases hik : i = state.released + k
  · subst hik
    refine .inr ⟨mem_awaited.mpr ⟨last, k, hpc, hworker⟩, ?_⟩
    have hlt := (List.getElem?_eq_some_iff.mp hworker).1
    simpa [ScanState.setPhase, hlt, eq_comm] using hother
  · refine .inl (mem_awaited.mpr ⟨last, k, hpc, ?_⟩)
    simpa [ScanState.setPhase, List.getElem?_set_ne hik] using hother

theorem Genuine.of_no_wait {state : ScanState}
    (attempted : ∀ result ∈ state.results, result ∈ state.attempts)
    (h : state.awaited = none) : Genuine state where
  attempted := attempted
  unskipped := by simp [h]
  unflagged := by simp [h]

theorem Genuine.check (h : Genuine state) {i : Nat}
    (hstep : ScanStep std job state (.check i) next) : Genuine next := by
  have hattempts := fun result hresult =>
    mem_attempts_of_step hstep (h.attempted result hresult)
  obtain ⟨worker, hworker, hphase, rfl⟩ := stepCheck_cases hstep
  refine ⟨hattempts, ?_, ?_⟩
  · intro other hother
    rcases mem_awaited_setPhase hworker hother with hother | ⟨hself, rfl⟩
    · exact h.unskipped other hother
    · simp [h.unflagged worker hself hphase]
  · intro other hother hstarted
    rcases mem_awaited_setPhase hworker hother with hother | ⟨_, rfl⟩
    · exact h.unflagged other hother hstarted
    · cases hstop : state.stop <;> simp [hstop] at hstarted

theorem Genuine.connect (h : Genuine state) {i : Nat} {valid : Bool}
    {latencyMs : Double}
    (hstep : ScanStep std job state (.connect i valid latencyMs) next) :
    Genuine next := by
  have hattempts := fun result hresult =>
    mem_attempts_of_step hstep (h.attempted result hresult)
  obtain ⟨worker, hworker, hphase, rfl⟩ := stepConnect_cases hstep
  refine ⟨hattempts, ?_, ?_⟩
  · intro other hother
    rcases mem_awaited_setPhase hworker hother with hother | ⟨_, rfl⟩
    · exact h.unskipped other hother
    · simp
  · intro other hother hstarted
    rcases mem_awaited_setPhase hworker hother with hother | ⟨_, rfl⟩
    · exact h.unflagged other hother hstarted
    · cases hstarted

theorem Genuine.main (hconsistent : Consistent job state)
    (h : Genuine state) (hstep : ScanStep std job state .main next) :
    Genuine next := by
  have hattempts := fun result hresult =>
    mem_attempts_of_step hstep (h.attempted result hresult)
  rcases stepMain_cases hstep with ⟨_, _, rfl⟩ | ⟨port, rest, _, _, _, rfl⟩ |
    ⟨last, i, _, _, hstop, rfl⟩ | ⟨last, i, _, _, rfl⟩ |
    ⟨last, i, worker, port, hpc, hworker, hresult, rfl⟩ | ⟨_, rfl⟩ | ⟨_, rfl⟩
  · exact .of_no_wait hattempts rfl
  · refine .of_no_wait hattempts ?_
    unfold ScanState.awaited ScanState.launchWorker
    split_ifs <;> rfl
  · -- the flag was just read as clear, so no worker has seen it set
    refine ⟨hattempts, fun worker hworker hskipped => ?_, fun _ _ _ => hstop⟩
    obtain ⟨_, k, _, hget⟩ := mem_awaited.mp hworker
    have hflag := hconsistent.flagged worker
      (List.mem_iff_getElem?.mpr ⟨_, hget⟩) hskipped
    rw [hstop] at hflag
    cases hflag
  · exact .of_no_wait hattempts rfl
  · -- the collected value is that of the awaited worker
    refine .of_no_wait (fun result hmem => ?_) rfl
    rcases List.mem_append.mp hmem with hmem | hmem
    · exact h.attempted result hmem
    · rw [List.mem_singleton] at hmem
      subst hmem
      have hskipped := h.unskipped worker (mem_awaited.mpr
        ⟨last, i, hpc, hworker⟩)
      exact mem_attempts.mpr ⟨worker, List.mem_iff_getElem?.mpr ⟨_, hworker⟩,
        Worker.attempt?_of_result? hresult hskipped⟩
  · exact .of_no_wait hattempts rfl
  · refine .of_no_wait (fun result hmem => ?_) rfl
    exact h.attempted result ((std.mem_sort byNumber_strictWeakOrder).mp hmem)

theorem Genuine.step (hconsistent : Consistent job state) (h : Genuine state)
    (haction : SignalAwaited state action)
    (hstep : ScanStep std job state action next) : Genuine next := by
  cases action with
  | signal =>
      cases hstep
      exact ⟨h.attempted, h.unskipped, fun worker hworker hstarted =>
        absurd hstarted (haction rfl worker hworker)⟩
  | check i => exact h.check hstep
  | connect i valid latencyMs => exact h.connect hstep
  | main => exact h.main hconsistent hstep

theorem Consistent.attempt_not_skipped (h : Consistent job state)
    {attempt : Port} (hattempt : attempt ∈ state.attempts) :
    attempt.number ∉ state.skipped ++ state.todo := by
  obtain ⟨worker, hworker, hresult⟩ := mem_attempts.mp hattempt
  have hnumber :=
    Worker.number_of_result? (Worker.result?_of_attempt? hresult)
  rw [List.mem_append, not_or, hnumber]
  constructor
  · intro hskipped
    obtain ⟨other, hother, hphase, hport⟩ := mem_skipped.mp hskipped
    have heq := h.worker_unique hother hworker hport
    subst heq
    simp [Worker.attempt?, hphase] at hresult
  · exact fun htodo => (List.nodup_append.mp h.nodup_ports).2.2 _
      (List.mem_map_of_mem hworker) _ htodo rfl

theorem Genuine.reportsAttempts (h : Genuine state)
    (hconsistent : Consistent job state) (host : Str) :
    ReportsAttempts host state := by
  have habsent : ∀ port ∈ state.skipped ++ state.todo,
      port ∉ state.results.map Port.number := by
    intro port hport hmem
    obtain ⟨result, hresult, rfl⟩ := List.mem_map.mp hmem
    exact hconsistent.attempt_not_skipped (h.attempted result hresult) hport
  refine ⟨h.attempted, habsent, ?_, ?_⟩
  · intro network ip record hrecord
    rcases mem_getPorts_storeResults hrecord with hold | ⟨hip, result, hmem, hinfo⟩
    · exact .inl hold
    · exact .inr ⟨hip, result, h.attempted result hmem, hinfo⟩
  · exact fun network ip port hport =>
      lookup_storeResults_of_notMem (habsent port hport)

/-! ## Runs with such a signal -/

/-- A skipped worker was collected, or is the one the collector waits for. -/
def Doomed (state : ScanState) : Prop :=
  (∃ port ∈ state.skipped, port ∈ state.results.map Port.number) ∨
    ∃ worker ∈ state.awaited, worker.phase = .skipped ∨
      worker.phase = .started ∧ state.stop = true

theorem doomed_of_signal
    (h : ¬ SignalAwaited state action)
    (hstep : ScanStep std job state action next) : Doomed next := by
  obtain ⟨rfl, hawaited⟩ := Classical.not_imp.mp h
  push Not at hawaited
  obtain ⟨worker, hworker, hstarted⟩ := hawaited
  cases hstep
  exact .inr ⟨worker, hworker, .inr ⟨hstarted, rfl⟩⟩

theorem mem_awaited_setPhase_of_ne {i : Nat} {worker other : Worker}
    {phase : Phase} (hworker : state.workers[i]? = some worker)
    (h : other ∈ state.awaited) (hne : other.phase ≠ worker.phase) :
    other ∈ (state.setPhase i worker phase).awaited := by
  obtain ⟨last, k, hpc, hother⟩ := mem_awaited.mp h
  have hik : i ≠ state.released + k := by
    rintro rfl
    rw [hworker] at hother
    exact hne (Option.some.inj hother ▸ rfl)
  refine mem_awaited.mpr ⟨last, k, hpc, ?_⟩
  rw [← hother]
  exact List.getElem?_set_ne hik

theorem mem_awaited_setPhase_or {i : Nat} {worker other : Worker}
    {phase : Phase} (hworker : state.workers[i]? = some worker)
    (h : other ∈ state.awaited) :
    other ∈ (state.setPhase i worker phase).awaited ∨
      { worker with phase := phase } ∈
        (state.setPhase i worker phase).awaited := by
  obtain ⟨last, k, hpc, hother⟩ := mem_awaited.mp h
  by_cases hik : i = state.released + k
  · subst hik
    have hlt := (List.getElem?_eq_some_iff.mp hworker).1
    exact .inr (mem_awaited.mpr ⟨last, k, hpc, by
      simp [ScanState.setPhase, hlt]⟩)
  · refine .inl (mem_awaited.mpr ⟨last, k, hpc, ?_⟩)
    rw [← hother]
    exact List.getElem?_set_ne hik

theorem Doomed.step (h : Doomed state)
    (hstep : ScanStep std job state action next) : Doomed next := by
  rcases h with ⟨port, hskipped, hresult⟩ | ⟨worker, hworker, hphase⟩
  · obtain ⟨result, hmem, rfl⟩ := List.mem_map.mp hresult
    exact .inl ⟨_, mem_skipped_of_step hstep hskipped,
      List.mem_map_of_mem (mem_results_of_step hstep hmem)⟩
  · cases action with
    | signal =>
        cases hstep
        exact .inr ⟨worker, hworker, hphase.imp_right fun h => ⟨h.1, rfl⟩⟩
    | check i =>
        obtain ⟨other, hother, hstarted, rfl⟩ := stepCheck_cases hstep
        rcases hphase with hphase | ⟨hphase, hstop⟩
        · refine .inr ⟨worker, mem_awaited_setPhase_of_ne hother hworker ?_,
            .inl hphase⟩
          rw [hphase, hstarted]
          simp
        · rw [hstop]
          rcases mem_awaited_setPhase_or hother hworker with hkept | hset
          · exact .inr ⟨worker, hkept, .inr ⟨hphase, hstop⟩⟩
          · exact .inr ⟨_, hset, .inl rfl⟩
    | connect i valid latencyMs =>
        obtain ⟨other, hother, hconnecting, rfl⟩ := stepConnect_cases hstep
        refine .inr ⟨worker, mem_awaited_setPhase_of_ne hother hworker ?_,
          hphase⟩
        rcases hphase with hphase | ⟨hphase, _⟩ <;>
          rw [hphase, hconnecting] <;> simp
    | main =>
        obtain ⟨last, k, hpc, hget⟩ := mem_awaited.mp hworker
        rcases stepMain_cases hstep with ⟨h, _⟩ | ⟨_, _, h, _⟩ |
          ⟨_, _, h, _⟩ | ⟨_, _, h, _⟩ |
          ⟨last', i, other, port, h, hother, hvalue, rfl⟩ | ⟨h, _⟩ | ⟨h, _⟩
        case inr.inr.inr.inr.inl =>
          obtain ⟨rfl, rfl⟩ := Pc.get.inj (hpc.symm.trans h)
          rw [hget] at hother
          cases hother
          have hskipped : worker.phase = .skipped :=
            hphase.resolve_right fun hstarted =>
              (Worker.finished_of_result? hvalue).1 hstarted.1
          refine .inl ⟨worker.port, mem_skipped.mpr ⟨worker,
            List.mem_iff_getElem?.mpr ⟨_, hget⟩, hskipped, rfl⟩, ?_⟩
          rw [List.map_append, ← Worker.number_of_result? hvalue]
          simp
        all_goals cases hpc.symm.trans h

theorem not_reportsAttempts_of_doomed {host : Str} (h : Doomed state)
    (hreturned : state.pc = .returned) : ¬ ReportsAttempts host state := by
  rcases h with ⟨port, hskipped, hresult⟩ | ⟨worker, hworker, _⟩
  · exact fun hreports => hreports.absent port
      (List.mem_append_left _ hskipped) hresult
  · obtain ⟨last, k, hpc, _⟩ := mem_awaited.mp hworker
    cases hpc.symm.trans hreturned

/-! ## The scan as a whole -/

/-- Whatever the interleaving, a scan in which no signal meets an awaited
worker that has not read the flag reports attempts only, in every state; a scan
that returns reports attempts only exactly if there was no such signal. -/
theorem scan_reportsAttempts_iff (std : SortRoutine Port) (job : ScanJob)
    (host : Str) {trace : List (ScanState × Action)} {state : ScanState}
    (run : Run (ScanStep std job) job.start trace state) :
    (Throughout SignalAwaited trace → ReportsAttempts host state) ∧
      (state.pc = .returned →
        (ReportsAttempts host state ↔ Throughout SignalAwaited trace)) := by
  have hconsistent : Consistent job state :=
    run.invariant (Consistent job) (fun _ _ _ h hstep => h.step hstep)
      (consistent_start job)
  have hgenuine : Throughout SignalAwaited trace → Genuine state := by
    intro hmeets
    exact (run.invariant_of_throughout
      (fun state => Consistent job state ∧ Genuine state) SignalAwaited
      (fun _ _ _ h haction hstep =>
        ⟨h.1.step hstep, h.2.step h.1 haction hstep⟩)
      hmeets ⟨consistent_start job, genuine_start job⟩).2
  refine ⟨fun hmeets => (hgenuine hmeets).reportsAttempts hconsistent host,
    fun hreturned => ⟨fun hreports => ?_, fun hmeets =>
      (hgenuine hmeets).reportsAttempts hconsistent host⟩⟩
  by_contra hbroken
  have hdoomed : Doomed state :=
    run.absorbed (fun _ => True) Doomed SignalAwaited
      (fun _ _ _ _ _ => trivial)
      (fun _ _ _ _ h hstep => doomed_of_signal h hstep)
      (fun _ _ _ _ h hstep => h.step hstep) trivial hbroken
  exact not_reportsAttempts_of_doomed hdoomed hreturned hreports

/-! ## Two scans of one port -/

theorem onePort_waiting (std : SortRoutine Port) :
    ∃ trace, Run (ScanStep std (.range 1 1)) (ScanJob.range 1 1).start trace
        (onePort 1 false (.get true 0) .started []) ∧
      Throughout SignalAwaited trace :=
  ⟨_, .tail (t := onePort 1 false (.collect true 0) .started []) (a := .main)
      (.tail (t := onePort 1 false .launch .started []) (a := .main)
        (.tail (a := .main) (.refl _) rfl) rfl) rfl,
    by simp [SignalAwaited]⟩

/-- The worker connects before the signal and fails: closed is an outcome. -/
theorem scan_reportsAttempts_connecting :
    ∃ trace state, Run (ScanStep (.merge Port) (.range 1 1))
        (ScanJob.range 1 1).start trace state ∧
      state.pc = .returned ∧ state.stop = true ∧
      ReportsAttempts "10.0.0.5".toList state := by
  obtain ⟨trace, run, hmeets⟩ := onePort_waiting (.merge Port)
  let result : Port := ⟨1, false, .zero⟩
  let phase : Phase := .connected false .zero
  have checked := run.tail (a := .check 0)
    (u := onePort 1 false (.get true 0) .connecting []) rfl
  have signalled := checked.tail (a := .signal)
    (u := onePort 1 true (.get true 0) .connecting []) rfl
  have connected := signalled.tail (a := .connect 0 false .zero)
    (u := onePort 1 true (.get true 0) phase []) rfl
  have collected := connected.tail (a := .main)
    (u := onePort 1 true (.collect true 1) phase [result]) rfl
  have released := collected.tail (a := .main)
    (u := onePort 1 true (.release true) phase [result]) rfl
  have returned := released.tail (a := .main)
    (u := onePort 1 true .returned phase
      ((SortRoutine.merge Port).sort byNumber [result])) rfl
  refine ⟨_, _, returned, rfl, rfl,
    (scan_reportsAttempts_iff _ _ _ returned).1 ?_⟩
  simp [hmeets, SignalAwaited, ScanState.awaited, onePort]

/-- The signal comes first: the port is reported closed and was never tried. -/
theorem scan_reports_skipped :
    ∃ trace state, Run (ScanStep (.merge Port) (.range 1 1))
        (ScanJob.range 1 1).start trace state ∧
      state.pc = .returned ∧ state.attempts = [] ∧
      ⟨1, false, .zero⟩ ∈ state.results ∧
      ¬ ReportsAttempts "10.0.0.5".toList state := by
  obtain ⟨trace, run, _⟩ := onePort_waiting (.merge Port)
  let result : Port := ⟨1, false, .zero⟩
  have signalled := run.tail (a := .signal)
    (u := onePort 1 true (.get true 0) .started []) rfl
  have checked := signalled.tail (a := .check 0)
    (u := onePort 1 true (.get true 0) .skipped []) rfl
  have collected := checked.tail (a := .main)
    (u := onePort 1 true (.collect true 1) .skipped [result]) rfl
  have released := collected.tail (a := .main)
    (u := onePort 1 true (.release true) .skipped [result]) rfl
  have returned := released.tail (a := .main)
    (u := onePort 1 true .returned .skipped
      ((SortRoutine.merge Port).sort byNumber [result])) rfl
  have hresult : result ∈ (SortRoutine.merge Port).sort byNumber [result] :=
    (SortRoutine.mem_sort _ byNumber_strictWeakOrder).mpr (by simp)
  refine ⟨_, _, returned, rfl, rfl, hresult, fun hreports => ?_⟩
  have hattempted := hreports.attempted result hresult
  cases hattempted

end SlipNet.Scanning
