import Breez.Lnnode.Daemon

set_option autoImplicit false

namespace Breez.Lnnode

-- A run whose lnd.Main has returned has a stopDaemon on its way.
def Daemon.StopPending (d : Daemon) : Prop :=
  d.daemonRunning = true → d.mainRunning = false → d.pendingStops ≠ []

theorem Daemon.StopPending.of_grow {d d' : Daemon} (pending : d.StopPending)
    (running : d'.daemonRunning = d.daemonRunning) (main : d'.mainRunning = d.mainRunning)
    (grow : d.pendingStops ≠ [] → d'.pendingStops ≠ []) : d'.StopPending :=
  fun live exited => grow (pending (running ▸ live) (main ▸ exited))

theorem stopDaemon_daemonRunning (request : StopRequest) (d : Daemon) :
    (stopDaemon request d).daemonRunning = false := by
  unfold stopDaemon
  split
  · rfl
  · simp_all

theorem step_stopPending (d d' : Daemon) (e : Event) (pending : d.StopPending)
    (stepped : step d e = some d') : d'.StopPending := by
  cases e with
  | start ntfnServerStart =>
    cases stepped
    refine pending.of_grow (congrArg Prod.fst (start_runState _ _))
      (congrArg (·.2.2.1) (start_runState _ _)) ?_
    unfold start
    split
    · exact id
    · split <;> exact id
  | restartDaemon =>
    cases stepped
    refine pending.of_grow (congrArg Prod.fst (restartDaemon_runState _))
      (congrArg (·.2.2.1) (restartDaemon_runState _)) ?_
    unfold restartDaemon
    split <;> exact id
  | stop =>
    cases stepped
    unfold stop
    split
    · exact pending
    · exact pending.of_grow rfl rfl fun _ => by simp [Daemon.spawnStop]
  | startDaemon i =>
    obtain ⟨call, -, rfl⟩ := Option.map_eq_some'.mp stepped
    unfold finishStart startDaemon
    by_cases running : d.daemonRunning = true
    · cases call <;> rw [if_pos running] <;> exact pending.of_grow rfl rfl id
    · simp only [running, Bool.false_eq_true, if_false]
      intro _ exited
      cases exited
  | stopDaemon i =>
    obtain ⟨request, -, rfl⟩ := Option.map_eq_some'.mp stepped
    intro live
    simp [stopDaemon_daemonRunning] at live
  | mainReturns =>
    simp only [step] at stepped
    split at stepped <;> cases stepped
    intro _ _
    simp [Daemon.spawnStop]
  | ready startSubscriptions =>
    simp only [step] at stepped
    split at stepped
    next live =>
      intro _ exited
      split at stepped <;> cases stepped <;> simp_all [Daemon.spawnStop]
    next => cases stepped

theorem runEvents_stopPending (events : List Event) (d d' : Daemon) (pending : d.StopPending)
    (ran : runEvents d events = some d') : d'.StopPending := by
  induction events generalizing d with
  | nil => cases ran; exact pending
  | cons e rest ih =>
    obtain ⟨next, stepped, ran⟩ := Option.bind_eq_some.mp ran
    exact ih next (step_stopPending d next e pending stepped) ran

theorem step_stopDaemon_of_returned (d : Daemon) (request : StopRequest)
    (rest : List StopRequest) (stops : d.pendingStops = request :: rest)
    (exited : d.mainRunning = false) (quiet : d.daemonRunning = false → d.awaitingReady = false) :
    ∃ d', step d (.stopDaemon 0) = some d' ∧ d'.daemonRunning = false ∧
      d'.mainRunning = false ∧ d'.awaitingReady = false ∧ d'.pendingStops = rest ∧
      d'.pendingStarts = d.pendingStarts := by
  refine ⟨stopDaemon request { d with pendingStops := rest }, by simp [step, stops], ?_⟩
  unfold stopDaemon
  split
  · simp [exited]
  · simp_all

theorem runEvents_drainStops (d : Daemon) (exited : d.mainRunning = false)
    (pending : d.StopPending) (quiet : d.daemonRunning = false → d.awaitingReady = false) :
    ∃ d', runEvents d (List.replicate d.pendingStops.length (.stopDaemon 0)) = some d' ∧
      d'.daemonRunning = false ∧ d'.mainRunning = false ∧ d'.awaitingReady = false ∧
      d'.pendingStops = [] ∧ d'.pendingStarts = d.pendingStarts := by
  obtain ⟨queue, stops⟩ : ∃ queue, d.pendingStops = queue := ⟨_, rfl⟩
  rw [stops]
  induction queue generalizing d with
  | nil =>
    have idle : d.daemonRunning = false := by
      cases running : d.daemonRunning
      · rfl
      · exact absurd stops (pending running exited)
    exact ⟨d, rfl, idle, exited, quiet idle, stops, rfl⟩
  | cons request rest ih =>
    obtain ⟨next, stepped, idle, exited', quiet', stops', starts⟩ :=
      step_stopDaemon_of_returned d request rest stops exited quiet
    obtain ⟨d', ran, down, returned, notAwaiting, drained, kept⟩ :=
      ih next exited' (fun live => absurd live (by simp [idle])) (fun _ => quiet') stops'
    exact ⟨d', by simp [List.replicate_succ, stepped, ran], down, returned, notAwaiting, drained,
      kept.trans starts⟩

theorem runEvents_winds_down (schedule : List Event) (d : Daemon)
    (ran : runEvents Daemon.initial schedule = some d) :
    ∃ events d', (∀ e ∈ events, e = .mainReturns ∨ e = .stopDaemon 0) ∧
      runEvents d events = some d' ∧ d'.daemonRunning = false ∧ d'.mainRunning = false ∧
      d'.awaitingReady = false ∧ d'.pendingStops = [] ∧ d'.pendingStarts = d.pendingStarts := by
  have c := runEvents_consistent schedule _ d Daemon.initial_consistent ran
  have pending := runEvents_stopPending schedule _ d (by intro live; cases live) ran
  have onlyStops : ∀ n, ∀ e ∈ List.replicate n (Event.stopDaemon 0),
      e = .mainReturns ∨ e = .stopDaemon 0 :=
    fun n e mem => .inr (List.eq_of_mem_replicate mem)
  cases main : d.mainRunning
  · obtain ⟨d', ran', down⟩ := runEvents_drainStops d main pending
      (fun idle => Bool.eq_false_iff.mpr fun awaiting => by simp [c.awaiting_ready awaiting] at idle)
    exact ⟨_, d', onlyStops _, ran', down⟩
  · let returned := ({ d with mainRunning := false } : Daemon).spawnStop .mainReturned
    have live : returned.daemonRunning = true := c.main_running main
    obtain ⟨d', ran', down⟩ := runEvents_drainStops returned rfl
      (fun _ _ => by simp [returned, Daemon.spawnStop]) (fun idle => by simp [live] at idle)
    refine ⟨.mainReturns :: List.replicate returned.pendingStops.length (.stopDaemon 0), d', ?_,
      by simpa [step, main] using ran', down⟩
    exact List.forall_mem_cons.mpr ⟨.inl rfl, onlyStops _⟩

def stopCalledSchedule : List Event :=
  [.start none, .startDaemon 0, .ready none, .stop]

theorem runEvents_winds_down_after_stop_call :
    ∃ d, runEvents Daemon.initial stopCalledSchedule = some d ∧
      ∃ events d', (∀ e ∈ events, e = .mainReturns ∨ e = .stopDaemon 0) ∧
        runEvents d events = some d' ∧ d'.daemonRunning = false ∧ d'.mainRunning = false ∧
        d'.awaitingReady = false ∧ d'.pendingStops = [] ∧ d'.pendingStarts = d.pendingStarts :=
  ⟨_, rfl, runEvents_winds_down stopCalledSchedule _ rfl⟩

end Breez.Lnnode
