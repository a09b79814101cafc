import Mathlib.Data.List.Range
import Breez.Go.Runtime

set_option autoImplicit false

namespace Breez.Lnnode

inductive StopOrigin where
  | stopCall
  | mainReturned
  | subscriptionsFailed
  deriving DecidableEq, Repr

-- A pending stopDaemon, with the run that was the latest begun when it was made.
structure StopRequest where
  origin : StopOrigin
  issuedIn : Nat
  deriving DecidableEq, Repr

inductive LifecycleCall where
  | start
  | restartDaemon
  deriving DecidableEq, Repr

structure Shutdown where
  run : Nat
  request : StopRequest
  deriving DecidableEq, Repr

-- Runs are numbered from 1 in the order startDaemon begins them; `shutdowns` and `replies`
-- record what happened, for the statements about whole runs.
structure Daemon where
  started : Bool
  stopped : Bool
  daemonRunning : Bool
  runs : Nat
  mainRunning : Bool
  awaitingReady : Bool
  pendingStarts : List LifecycleCall
  pendingStops : List StopRequest
  shutdowns : List Shutdown
  replies : List (LifecycleCall × Option String)
  deriving DecidableEq

def Daemon.initial : Daemon :=
  ⟨false, false, false, 0, false, false, [], [], [], []⟩

-- The atomic steps: a call up to its lock section, a lock section, and the run's own events.
inductive Event where
  | start (ntfnServerStart : Option String)
  | restartDaemon
  | stop
  | startDaemon (i : Nat)
  | stopDaemon (i : Nat)
  | mainReturns
  | ready (startSubscriptions : Option String)
  deriving DecidableEq

namespace Daemon

def reply (d : Daemon) (call : LifecycleCall) (result : Option String) : Daemon :=
  { d with replies := d.replies ++ [(call, result)] }

def spawnStop (d : Daemon) (origin : StopOrigin) : Daemon :=
  { d with pendingStops := d.pendingStops ++ [⟨origin, d.runs⟩] }

end Daemon

def start (ntfnServerStart : Option String) (d : Daemon) : Daemon :=
  if d.started then d.reply .start (some "Daemon already started")
  else
    match ntfnServerStart with
    | some e => { d with started := true }.reply .start (some e)
    | none => { d with started := true, pendingStarts := d.pendingStarts ++ [.start] }

-- RestartDaemon reads only `started`.
def restartDaemon (d : Daemon) : Daemon :=
  if d.started then { d with pendingStarts := d.pendingStarts ++ [.restartDaemon] }
  else d.reply .restartDaemon (some "Daemon must be started before attempt to restart")

def stop (d : Daemon) : Daemon :=
  if d.stopped then d else { d with stopped := true }.spawnStop .stopCall

def startDaemon (d : Daemon) : Except String Daemon :=
  if d.daemonRunning then .error "Daemon already running"
  else .ok { d with
    daemonRunning := true
    runs := d.runs + 1
    mainRunning := true
    awaitingReady := true }

def finishStart (call : LifecycleCall) (d : Daemon) : Daemon :=
  match startDaemon d, call with
  | .ok running, _ => running.reply call none
  | .error e, .start => d.reply .start (some ("Failed to start daemon: " ++ e))
  | .error e, .restartDaemon => d.reply .restartDaemon (some e)

-- d.wg.Wait() waits for the run's goroutine, whose deferred function first spawns another
-- stopDaemon.
def stopDaemon (request : StopRequest) (d : Daemon) : Daemon :=
  if d.daemonRunning then
    { (if d.mainRunning then d.spawnStop .mainReturned else d) with
      daemonRunning := false, mainRunning := false, awaitingReady := false,
      shutdowns := d.shutdowns ++ [⟨d.runs, request⟩] }
  else d

def step (d : Daemon) : Event → Option Daemon
  | .start ntfnServerStart => some (start ntfnServerStart d)
  | .restartDaemon => some (restartDaemon d)
  | .stop => some (stop d)
  | .startDaemon i =>
    d.pendingStarts[i]?.map fun call =>
      finishStart call { d with pendingStarts := d.pendingStarts.eraseIdx i }
  | .stopDaemon i =>
    d.pendingStops[i]?.map fun request =>
      stopDaemon request { d with pendingStops := d.pendingStops.eraseIdx i }
  | .mainReturns =>
    if d.mainRunning then some ({ d with mainRunning := false }.spawnStop .mainReturned) else none
  | .ready startSubscriptions =>
    if d.mainRunning ∧ d.awaitingReady then
      match startSubscriptions with
      | none => some { d with awaitingReady := false }
      | some _ => some ({ d with awaitingReady := false }.spawnStop .subscriptionsFailed)
    else none

def runEvents : Daemon → List Event → Option Daemon
  | d, [] => some d
  | d, e :: rest => (step d e).bind fun next => runEvents next rest

@[simp] theorem runEvents_nil (d : Daemon) : runEvents d [] = some d := rfl

@[simp] theorem runEvents_cons (d : Daemon) (e : Event) (rest : List Event) :
    runEvents d (e :: rest) = (step d e).bind fun next => runEvents next rest := rfl

namespace Daemon

structure Consistent (d : Daemon) : Prop where
  main_running : d.mainRunning = true → d.daemonRunning = true
  awaiting_ready : d.awaitingReady = true → d.daemonRunning = true
  running_begun : d.daemonRunning = true → 0 < d.runs
  shutdown_log : d.shutdowns.map Shutdown.run =
    List.range' 1 (if d.daemonRunning then d.runs - 1 else d.runs)

-- The fields that only the lock sections and the run's own goroutines change.
def runState (d : Daemon) : Bool × Nat × Bool × Bool × List Shutdown :=
  (d.daemonRunning, d.runs, d.mainRunning, d.awaitingReady, d.shutdowns)

theorem Consistent.of_runState {d d' : Daemon} (c : d.Consistent) (same : d'.runState = d.runState) :
    d'.Consistent := by
  simp only [runState, Prod.mk.injEq] at same
  obtain ⟨running, runs, main, awaiting, log⟩ := same
  exact ⟨running ▸ main ▸ c.main_running, running ▸ awaiting ▸ c.awaiting_ready,
    running ▸ runs ▸ c.running_begun, by rw [log, running, runs, c.shutdown_log]⟩

@[simp] theorem reply_runState (d : Daemon) (call : LifecycleCall) (result : Option String) :
    (d.reply call result).runState = d.runState := rfl

@[simp] theorem spawnStop_runState (d : Daemon) (origin : StopOrigin) :
    (d.spawnStop origin).runState = d.runState := rfl

theorem initial_consistent : initial.Consistent :=
  ⟨nofun, nofun, nofun, rfl⟩

end Daemon

theorem start_runState (ntfnServerStart : Option String) (d : Daemon) :
    (start ntfnServerStart d).runState = d.runState := by
  unfold start
  split
  · rfl
  · split <;> rfl

theorem restartDaemon_runState (d : Daemon) : (restartDaemon d).runState = d.runState := by
  unfold restartDaemon
  split <;> rfl

theorem stop_runState (d : Daemon) : (stop d).runState = d.runState := by
  unfold stop
  split <;> rfl

theorem finishStart_consistent (call : LifecycleCall) (d : Daemon) (c : d.Consistent) :
    (finishStart call d).Consistent := by
  unfold finishStart startDaemon
  by_cases running : d.daemonRunning = true
  · cases call <;> simpa [running] using c.of_runState (by simp)
  · have log := c.shutdown_log
    simp only [running, if_false] at log ⊢
    exact ⟨fun _ => rfl, fun _ => rfl, fun _ => Nat.succ_pos _, by simpa [Daemon.reply] using log⟩

theorem stopDaemon_consistent (request : StopRequest) (d : Daemon) (c : d.Consistent) :
    (stopDaemon request d).Consistent := by
  unfold stopDaemon
  split
  next running =>
    have begun := c.running_begun running
    have log := c.shutdown_log
    simp only [running, if_true] at log
    refine ⟨nofun, nofun, nofun, ?_⟩
    have runs : (if d.mainRunning then d.spawnStop .mainReturned else d).runs = d.runs := by
      split <;> rfl
    simp only [List.map_append, log, runs, Bool.false_eq_true, if_false, List.map_cons,
      List.map_nil]
    obtain ⟨n, last⟩ : ∃ n, d.runs = n + 1 := ⟨d.runs - 1, by omega⟩
    rw [last, Nat.add_sub_cancel, List.range'_concat, Nat.one_mul, Nat.add_comm]
  next => exact c

theorem step_consistent (d d' : Daemon) (e : Event) (c : d.Consistent)
    (stepped : step d e = some d') : d'.Consistent := by
  cases e with
  | start ntfnServerStart =>
    cases stepped
    exact c.of_runState (start_runState _ _)
  | restartDaemon =>
    cases stepped
    exact c.of_runState (restartDaemon_runState _)
  | stop =>
    cases stepped
    exact c.of_runState (stop_runState _)
  | startDaemon i =>
    obtain ⟨call, -, rfl⟩ := Option.map_eq_some'.mp stepped
    exact finishStart_consistent call _ (c.of_runState rfl)
  | stopDaemon i =>
    obtain ⟨request, -, rfl⟩ := Option.map_eq_some'.mp stepped
    exact stopDaemon_consistent request _ (c.of_runState rfl)
  | mainReturns =>
    simp only [step] at stepped
    split at stepped
    next main =>
      cases stepped
      exact ⟨nofun, c.awaiting_ready, c.running_begun, c.shutdown_log⟩
    next => cases stepped
  | ready startSubscriptions =>
    simp only [step] at stepped
    split at stepped
    next live =>
      have consistent : ({ d with awaitingReady := false } : Daemon).Consistent :=
        ⟨c.main_running, nofun, c.running_begun, c.shutdown_log⟩
      split at stepped <;> cases stepped
      · exact consistent
      · exact consistent.of_runState rfl
    next => cases stepped

theorem runEvents_consistent (events : List Event) (d d' : Daemon) (c : d.Consistent)
    (ran : runEvents d events = some d') : d'.Consistent := by
  induction events generalizing d with
  | nil => cases ran; exact c
  | cons e rest ih =>
    obtain ⟨next, stepped, ran⟩ := Option.bind_eq_some.mp ran
    exact ih next (step_consistent d next e c stepped) ran

theorem runEvents_shutdown_log (events : List Event) (d : Daemon)
    (ran : runEvents Daemon.initial events = some d) :
    d.shutdowns.map Shutdown.run = List.range' 1 (if d.daemonRunning then d.runs - 1 else d.runs) :=
  (runEvents_consistent events _ d Daemon.initial_consistent ran).shutdown_log

-- Run 1's lnd.Main returns, the stopDaemon it spawns shuts run 1 down, and RestartDaemon
-- begins run 2.
def restartAfterExitSchedule : List Event :=
  [.start none, .startDaemon 0, .mainReturns, .stopDaemon 0, .restartDaemon, .startDaemon 0]

theorem runEvents_shutdown_log_restart_after_exit :
    ∃ d, runEvents Daemon.initial restartAfterExitSchedule = some d ∧
      d.shutdowns.map Shutdown.run =
        List.range' 1 (if d.daemonRunning then d.runs - 1 else d.runs) :=
  ⟨_, rfl, runEvents_shutdown_log restartAfterExitSchedule _ rfl⟩

def Daemon.Halted (d : Daemon) : Prop :=
  d.started = true ∧ d.stopped = true ∧ d.pendingStarts = [] ∧ d.daemonRunning = false ∧
    d.mainRunning = false ∧ d.awaitingReady = false

theorem step_halted (d d' : Daemon) (e : Event) (notRestart : e ≠ .restartDaemon)
    (halted : d.Halted) (stepped : step d e = some d') : d'.Halted := by
  obtain ⟨started, stopped, noStarts, idle, noMain, notAwaiting⟩ := halted
  cases e with
  | start ntfnServerStart =>
    cases stepped
    simp only [start, started, if_true]
    exact ⟨started, stopped, noStarts, idle, noMain, notAwaiting⟩
  | restartDaemon => exact absurd rfl notRestart
  | stop =>
    cases stepped
    simp only [stop, stopped, if_true]
    exact ⟨started, stopped, noStarts, idle, noMain, notAwaiting⟩
  | startDaemon i => simp [step, noStarts] at stepped
  | stopDaemon i =>
    obtain ⟨request, -, rfl⟩ := Option.map_eq_some'.mp stepped
    simp only [stopDaemon, idle, Bool.false_eq_true, if_false]
    exact ⟨started, stopped, noStarts, rfl, noMain, notAwaiting⟩
  | mainReturns => simp [step, noMain] at stepped
  | ready startSubscriptions => simp [step, notAwaiting] at stepped

theorem runEvents_halted_without_restart (events : List Event) (d d' : Daemon)
    (noRestart : Event.restartDaemon ∉ events) (halted : d.Halted)
    (ran : runEvents d events = some d') : d'.Halted := by
  induction events generalizing d with
  | nil => cases ran; exact halted
  | cons e rest ih =>
    obtain ⟨next, stepped, ran⟩ := Option.bind_eq_some.mp ran
    have notRestart : e ≠ .restartDaemon := fun same => noRestart (same ▸ List.mem_cons_self _ _)
    exact ih next (fun mem => noRestart (List.mem_cons_of_mem _ mem))
      (step_halted d next e notRestart halted stepped) ran

-- Start, then Stop, whose stopDaemon shuts run 1 down, then the stale stopDaemon of run 1's
-- goroutine.
def stopSchedule : List Event :=
  [.start none, .startDaemon 0, .stop, .stopDaemon 0, .stopDaemon 0]

def stoppedDaemon : Daemon :=
  ⟨true, true, false, 1, false, false, [], [], [⟨1, ⟨.stopCall, 1⟩⟩], [(.start, none)]⟩

theorem runEvents_halted_without_restart_after_stop :
    runEvents Daemon.initial stopSchedule = some stoppedDaemon ∧
      Event.restartDaemon ∉ [.start none, .stop] ∧ stoppedDaemon.Halted ∧
      ∃ d', runEvents stoppedDaemon [.start none, .stop] = some d' ∧ d'.Halted :=
  ⟨rfl, by decide, ⟨rfl, rfl, rfl, rfl, rfl, rfl⟩, _, rfl,
    runEvents_halted_without_restart [.start none, .stop] stoppedDaemon _ (by decide)
      ⟨rfl, rfl, rfl, rfl, rfl, rfl⟩ rfl⟩

structure Channel where
  active : Bool
  deriving DecidableEq

def channelsActive : List Channel → Bool
  | [] => true
  | c :: rest => if !c.active then false else channelsActive rest

def allChannelsActive (channels : Except String (List Channel)) : Except String Bool :=
  channels.map channelsActive

-- The listing is none when APIClient() is nil.
def isReadyForPayment (channels : Option (Except String (List Channel))) : Bool :=
  match channels with
  | none => false
  | some listing =>
    match allChannelsActive listing with
    | .ok active => active
    | .error _ => false

def hasActiveChannel (activeChannels : Option (Except String (List Channel))) : Bool :=
  match activeChannels with
  | some (.ok channels) => 0 < channels.length
  | _ => false

theorem channelsActive_iff (channels : List Channel) :
    channelsActive channels = true ↔ ∀ c ∈ channels, c.active = true := by
  induction channels with
  | nil => simp [channelsActive]
  | cons c rest ih => cases active : c.active <;> simp [channelsActive, active, ih]

theorem isReadyForPayment_iff (channels : Option (Except String (List Channel))) :
    isReadyForPayment channels = true ↔
      ∃ listed, channels = some (.ok listed) ∧ ∀ c ∈ listed, c.active = true := by
  rcases channels with _ | (_ | listed) <;>
    simp [isReadyForPayment, allChannelsActive, Except.map, channelsActive_iff]

-- What WaitReadyForPayment's select receives; a closed Updates channel gives nil updates
-- (otherUpdate).  `channels` is the listing the IsReadyForPayment call on that wake reads.
inductive Wake where
  | channelEvent (channels : Option (Except String (List Channel)))
  | otherUpdate
  | timer (channels : Option (Except String (List Channel)))

def waitForReady : List Wake → Option (Option String)
  | [] => none
  | .channelEvent channels :: rest =>
    if isReadyForPayment channels then some none else waitForReady rest
  | .otherUpdate :: rest => waitForReady rest
  | .timer channels :: _ =>
    some (if isReadyForPayment channels then none
      else some "timeout has exceeded while trying to process your request")

def waitReadyForPayment (subscribe : Option String)
    (channels : Option (Except String (List Channel))) (wakes : List Wake) : Option (Option String) :=
  match subscribe with
  | some e => some (some e)
  | none => if isReadyForPayment channels then some none else waitForReady wakes

namespace Wake

def check : Wake → Option (Option (Except String (List Channel)))
  | .channelEvent channels => some channels
  | .otherUpdate => none
  | .timer channels => some channels

-- The spec of the loop: the wakes it returns on, and what it returns there.
def endsWait : Wake → Bool
  | .channelEvent channels => isReadyForPayment channels
  | .otherUpdate => false
  | .timer _ => true

def answer : Wake → Option String
  | .timer channels => if isReadyForPayment channels then none
    else some "timeout has exceeded while trying to process your request"
  | _ => none

theorem endsWait_answer_eq_none (w : Wake) :
    w.endsWait = true ∧ w.answer = none ↔
      ∃ listing, w.check = some listing ∧ isReadyForPayment listing = true := by
  cases w <;> simp [endsWait, answer, check]

theorem endsWait_eq_false (w : Wake) :
    w.endsWait = false ↔ w = .otherUpdate ∨
      ∃ listing, w = .channelEvent listing ∧ isReadyForPayment listing = false := by
  cases w <;> simp [endsWait]

theorem answer_eq_some (w : Wake) (e : String) :
    w.answer = some e ↔ ∃ listing, w = .timer listing ∧ isReadyForPayment listing = false ∧
      e = "timeout has exceeded while trying to process your request" := by
  cases w with
  | timer channels =>
    cases ready : isReadyForPayment channels <;>
      simp only [answer, ready, timer.injEq, exists_eq_left', if_true, Bool.false_eq_true,
        if_false, Option.some.injEq, true_and, reduceCtorEq, false_and, iff_false]
    · exact eq_comm
  | _ => simp [answer]

end Wake

theorem waitForReady_eq_find (wakes : List Wake) :
    waitForReady wakes = (wakes.find? Wake.endsWait).map Wake.answer := by
  induction wakes with
  | nil => rfl
  | cons w rest ih =>
    cases w with
    | channelEvent channels =>
      cases ready : isReadyForPayment channels <;>
        simp [waitForReady, List.find?_cons, Wake.endsWait, Wake.answer, ready, ih]
    | otherUpdate => simp [waitForReady, List.find?_cons, Wake.endsWait, ih]
    | timer channels => simp [waitForReady, List.find?_cons, Wake.endsWait, Wake.answer]

theorem waitForReady_eq_some (wakes : List Wake) (result : Option String) :
    waitForReady wakes = some result ↔ ∃ before w after, wakes = before ++ w :: after ∧
      (∀ b ∈ before, b.endsWait = false) ∧ (w.endsWait = true ∧ w.answer = result) := by
  simp only [waitForReady_eq_find, Option.map_eq_some', List.find?_eq_some, Bool.not_eq_true']
  constructor
  · rintro ⟨w, ⟨ends, before, after, split, first⟩, answered⟩
    exact ⟨before, w, after, split, first, ends, answered⟩
  · rintro ⟨before, w, after, split, first, ends, answered⟩
    exact ⟨w, ⟨ends, before, after, split, first⟩, answered⟩

theorem waitReadyForPayment_eq_nil (subscribe : Option String)
    (channels : Option (Except String (List Channel))) (wakes : List Wake) :
    waitReadyForPayment subscribe channels wakes = some none ↔ subscribe = none ∧
      (isReadyForPayment channels = true ∨ ∃ before w after listing,
        wakes = before ++ w :: after ∧ (∀ b ∈ before, b.endsWait = false) ∧
          w.check = some listing ∧ isReadyForPayment listing = true) := by
  cases subscribe with
  | some e => simp [waitReadyForPayment]
  | none =>
    cases ready : isReadyForPayment channels <;>
      simp [waitReadyForPayment, ready, waitForReady_eq_some, Wake.endsWait_answer_eq_none]

theorem waitReadyForPayment_eq_error (subscribe : Option String)
    (channels : Option (Except String (List Channel))) (wakes : List Wake) (e : String) :
    waitReadyForPayment subscribe channels wakes = some (some e) ↔ subscribe = some e ∨
      subscribe = none ∧ isReadyForPayment channels = false ∧ ∃ before listing after,
        wakes = before ++ .timer listing :: after ∧ (∀ b ∈ before, b.endsWait = false) ∧
          isReadyForPayment listing = false ∧
          e = "timeout has exceeded while trying to process your request" := by
  cases subscribe with
  | some e' => simp [waitReadyForPayment]
  | none =>
    cases ready : isReadyForPayment channels <;>
      simp only [waitReadyForPayment, ready, if_true, Bool.false_eq_true, if_false,
        waitForReady_eq_some, Wake.answer_eq_some, reduceCtorEq, false_and, and_false, or_false,
        true_and, false_or, exists_false, Option.some.injEq, iff_false]
    constructor
    · rintro ⟨before, _, after, split, first, -, listing, rfl, notReady, text⟩
      exact ⟨before, listing, after, split, first, notReady, text⟩
    · rintro ⟨before, listing, after, split, first, notReady, text⟩
      exact ⟨before, _, after, split, first, rfl, listing, rfl, notReady, text⟩

theorem waitReadyForPayment_eq_none (subscribe : Option String)
    (channels : Option (Except String (List Channel))) (wakes : List Wake) :
    waitReadyForPayment subscribe channels wakes = none ↔ subscribe = none ∧
      isReadyForPayment channels = false ∧ ∀ w ∈ wakes, w = .otherUpdate ∨
        ∃ listing, w = .channelEvent listing ∧ isReadyForPayment listing = false := by
  cases subscribe with
  | some e => simp [waitReadyForPayment]
  | none =>
    cases ready : isReadyForPayment channels <;>
      simp [waitReadyForPayment, ready, waitForReady_eq_find, Wake.endsWait_eq_false]

-- Subscriptions of run 1 fail.  The stopDaemon this spawns waits for run 1's goroutine, whose
-- deferred function spawns one more stopDaemon; RestartDaemon begins run 2 before that one takes
-- the lock, and it then shuts run 2 down.
def staleStopSchedule : List Event :=
  [.start none, .startDaemon 0, .ready (some "subscriptions failed"), .stopDaemon 0,
    .restartDaemon, .startDaemon 0, .stopDaemon 0]

theorem stale_stop_shuts_down_later_run :
    (runEvents Daemon.initial staleStopSchedule).map Daemon.shutdowns =
      some [⟨1, ⟨.subscriptionsFailed, 1⟩⟩, ⟨2, ⟨.mainReturned, 1⟩⟩] := rfl

def restartAfterStopSchedule : List Event :=
  stopSchedule ++ [.restartDaemon, .startDaemon 0]

theorem restartDaemon_after_stop_begins_run :
    (runEvents Daemon.initial restartAfterStopSchedule).map
        (fun d => (d.stopped, d.daemonRunning, d.runs, d.pendingStops, d.replies.getLast?)) =
      some (true, true, 2, [], some (.restartDaemon, none)) := rfl

end Breez.Lnnode
