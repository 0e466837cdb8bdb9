import RouteCoordinator.Forwarder

/-!
# Import Supervisor

`runBirdImportLoop`, with `reconnectStream` inlined, as a state machine over one
holder: its import context, its stream slot `*holder.currentStream`, the flag
`streamActive`, and the position in the loop.

The environment decides everything the code waits on: which ready case a `select`
takes (a timer or ticker case may fire at any time; the `ctx.Done()`/`quitCh` cases only
once they are closed), what `GetState`, `FeedRIB` and `Run` answer, and which batches the
reader hands to `onUpdate` while `Run` is in progress. `runBirdImportLoopStep quit s a` is the step the
environment's choice `a` makes, `none` when the code cannot make it.

Steps that only compute between two observation points are taken together: the
classification after `Run` returns, the `CloseAndRecv` that may follow, and the
idle-reset of the backoff are one step, ending at the backoff `select`. The backoff
durations are not modelled: they only decide when the timer case can fire.

`SupMove` lists the transitions once, one constructor per branch of the code
(`runBirdImportLoopStep_move`); later proofs do case analysis on it and never unfold `runBirdImportLoopStep`.
-/

namespace RouteCoordinator

/-! ## §1 State -/

/-- Where `runBirdImportLoop` stands. -/
inductive Pc
  /-- The `select` on `ctx.Done()`, `m.quitCh` and `default` at the top of the loop. -/
  | loopHead
  /-- `holder.conn.GetState() == connectivity.Shutdown`. -/
  | checkConn
  /-- `if !streamActive`. -/
  | checkStream
  /-- The `select` on `m.quitCh`, `ctx.Done()` and `ticker.C` in `reconnectStream`. -/
  | reconnectWait
  /-- Inside `holder.export.Run(ctx)`; `cbErr` is the error a callback returned, after
  which the reader calls no callback again. -/
  | running (cbErr : Option GoError)
  /-- The backoff `select` on `ctx.Done()`, `m.quitCh` and `time.After`. -/
  | backoffWait
  /-- Returned, after the deferred cleanup. -/
  | exited
  deriving DecidableEq, Repr

/-- One supervisor and the parts of its holder it uses. Streams are numbered in the
order they were opened (stream `0` by `processBirdImport`); `closes`, `sent` and
`delivered` record per stream the `CloseAndRecv` calls, the updates sent and the routes
handed to `onUpdate`, and `runs` and `liveRuns` count the calls of `Run`, all of them and
those made while the context was live. These records are history: the code reads none of
them. -/
structure Sup where
  target : TargetModule
  pc : Pc
  ctxDone : Bool
  streamActive : Bool
  currentStream : Nat
  streams : Nat
  closes : Nat → Nat
  sent : Nat → List Update
  delivered : Nat → List Route
  runs : Nat
  liveRuns : Nat

/-- The supervisor `processBirdImport` starts: on the stream it has just opened. -/
def Sup.init (target : TargetModule) : Sup where
  target := target
  pc := .loopHead
  ctxDone := false
  streamActive := true
  currentStream := 0
  streams := 1
  closes := fun _ => 0
  sent := fun _ => []
  delivered := fun _ => []
  runs := 0
  liveRuns := 0

/-- A choice of the environment. -/
inductive SupAct
  /-- The top `select` runs. -/
  | loopHead
  /-- `GetState` answers; `shutdown` is whether it answered `Shutdown`. -/
  | checkConn (shutdown : Bool)
  /-- The `streamActive` test runs. -/
  | checkStream
  /-- `ticker.C` fires and `FeedRIB(ctx)` answers `err`. -/
  | tick (err : Option ForeignError)
  /-- The reconnect `select` takes `m.quitCh` or `ctx.Done()`. -/
  | abortReconnect
  /-- The reader calls `onUpdate(ctx, routes)`; `env` answers its `select`s and calls. -/
  | update (routes : List Route) (env : Nat → SendStep)
  /-- The reader calls `onFlush()` and `FlushRoutes` answers `err`. -/
  | flush (err : Option ForeignError)
  /-- `Run` returns `err`. -/
  | runReturn (err : Option GoError)
  /-- `time.After` fires. -/
  | backoffFire
  /-- The backoff `select` takes `ctx.Done()` or `m.quitCh`. -/
  | abortBackoff

/-! ## §2 Transitions -/

/-- `return`, through the deferred cleanup: `holder.cancel()`. The connection the
cleanup closes belongs to the world (`World`). -/
@[simps]
def Sup.exit (s : Sup) : Sup := { s with pc := .exited, ctxDone := true }

/-- `holder.export.Run(ctx)` is called. -/
@[simps]
def Sup.startRun (s : Sup) : Sup :=
  { s with pc := .running none, runs := s.runs + 1,
           liveRuns := if s.ctxDone then s.liveRuns else s.liveRuns + 1 }

/-- `*currentStream = newStream` and `streamActive = true`. -/
@[simps]
def Sup.openStream (s : Sup) : Sup :=
  { s with currentStream := s.streams, streams := s.streams + 1, streamActive := true }

/-- `(*holder.currentStream).CloseAndRecv()` by the supervisor. -/
@[simps]
def Sup.closeStream (s : Sup) : Sup :=
  { s with closes := Function.update s.closes s.currentStream (s.closes s.currentStream + 1) }

/-- The reader's call `onUpdate(ctx, routes)` with outcome `out`: its stream calls go to
the current stream; a `select` that saw `ctx.Done()` means the context is done. -/
@[simps]
def Sup.forward (s : Sup) (routes : List Route) (out : List StreamOp × Option GoError) :
    Sup :=
  { s with
    pc := .running out.2
    ctxDone := s.ctxDone || decide (0 < closesOf out.1)
    closes := Function.update s.closes s.currentStream (s.closes s.currentStream + closesOf out.1)
    sent := Function.update s.sent s.currentStream (s.sent s.currentStream ++ sentOf out.1)
    delivered := Function.update s.delivered s.currentStream
      (s.delivered s.currentStream ++ routes) }

/-- What follows `err := holder.export.Run(ctx)`: a clean return ends the loop; an error
clears `streamActive`, ends the loop if it reaches `context.Canceled` or
`context.DeadlineExceeded`, and otherwise closes the stream unless it reaches
`errStreamClosed`, then waits in the backoff `select`. -/
def Sup.afterRun (s : Sup) : Option GoError → Sup
  | none => s.exit
  | some e =>
    let s := { s with streamActive := false }
    if e.canceled || e.deadlineExceeded then s.exit
    else { (if e.streamClosed then s else s.closeStream) with pc := .backoffWait }

/-- One step of the supervisor, `quit` being whether `m.quitCh` is closed. -/
def runBirdImportLoopStep (quit : Bool) (s : Sup) (a : SupAct) : Option Sup :=
  match s.pc, a with
  | .loopHead, .loopHead =>
    some (if s.ctxDone || quit then s.exit else { s with pc := .checkConn })
  | .checkConn, .checkConn shutdown =>
    some (if shutdown then s.exit else { s with pc := .checkStream })
  | .checkStream, .checkStream =>
    some (if s.streamActive then s.startRun else { s with pc := .reconnectWait })
  | .reconnectWait, .tick none => some s.openStream.startRun
  | .reconnectWait, .tick (some _) => some s
  | .reconnectWait, .abortReconnect => if s.ctxDone || quit then some s.exit else none
  | .running none, .update routes env =>
    if s.ctxDone && !(routes.isEmpty || (env 0).isCancelled) then none
    else some (s.forward routes (onUpdate s.target env routes))
  | .running none, .flush err => some { s with pc := .running (onFlush err) }
  | .running _, .runReturn err => some (s.afterRun err)
  | .backoffWait, .backoffFire => some { s with pc := .loopHead }
  | .backoffWait, .abortBackoff => if s.ctxDone || quit then some s.exit else none
  | _, _ => none

/-! ## §3 The transitions, once -/

/-- The transitions of `runBirdImportLoopStep`, one constructor per branch of the code. -/
inductive SupMove (quit : Bool) : Sup → SupAct → Sup → Prop
  | loopExit {s} : s.pc = .loopHead → (s.ctxDone || quit) = true →
      SupMove quit s .loopHead s.exit
  | loopOn {s} : s.pc = .loopHead → s.ctxDone = false → quit = false →
      SupMove quit s .loopHead { s with pc := .checkConn }
  | shutdown {s b} : s.pc = .checkConn → b = true → SupMove quit s (.checkConn b) s.exit
  | connOk {s b} : s.pc = .checkConn → b = false →
      SupMove quit s (.checkConn b) { s with pc := .checkStream }
  | runActive {s} : s.pc = .checkStream → s.streamActive = true →
      SupMove quit s .checkStream s.startRun
  | reconnect {s} : s.pc = .checkStream → s.streamActive = false →
      SupMove quit s .checkStream { s with pc := .reconnectWait }
  | reopened {s} : s.pc = .reconnectWait → SupMove quit s (.tick none) s.openStream.startRun
  | feedFailed {s err} : s.pc = .reconnectWait → SupMove quit s (.tick (some err)) s
  | reconnectAborted {s} : s.pc = .reconnectWait → (s.ctxDone || quit) = true →
      SupMove quit s .abortReconnect s.exit
  | update {s routes env} : s.pc = .running none →
      (s.ctxDone && !(routes.isEmpty || (env 0).isCancelled)) = false →
      SupMove quit s (.update routes env) (s.forward routes (onUpdate s.target env routes))
  | flush {s err} : s.pc = .running none →
      SupMove quit s (.flush err) { s with pc := .running (onFlush err) }
  | runClean {s cb} : s.pc = .running cb → SupMove quit s (.runReturn none) s.exit
  | runCancelled {s cb e} : s.pc = .running cb → (e.canceled || e.deadlineExceeded) = true →
      SupMove quit s (.runReturn (some e)) { s with streamActive := false }.exit
  | runFailedClosed {s cb e} : s.pc = .running cb →
      (e.canceled || e.deadlineExceeded) = false → e.streamClosed = true →
      SupMove quit s (.runReturn (some e)) { s with streamActive := false, pc := .backoffWait }
  | runFailed {s cb e} : s.pc = .running cb →
      (e.canceled || e.deadlineExceeded) = false → e.streamClosed = false →
      SupMove quit s (.runReturn (some e))
        { s.closeStream with streamActive := false, pc := .backoffWait }
  | backoffDone {s} : s.pc = .backoffWait →
      SupMove quit s .backoffFire { s with pc := .loopHead }
  | backoffAborted {s} : s.pc = .backoffWait → (s.ctxDone || quit) = true →
      SupMove quit s .abortBackoff s.exit

/-- The four ways `Run` can return, as `Sup.afterRun` tells them apart. -/
theorem SupMove.of_afterRun {quit : Bool} {s : Sup} {cb err : Option GoError}
    (hpc : s.pc = .running cb) : SupMove quit s (.runReturn err) (s.afterRun err) := by
  rcases err with _ | e
  · exact .runClean hpc
  · cases hc : (e.canceled || e.deadlineExceeded)
    · cases hs : e.streamClosed
      · simpa [Sup.afterRun, hc, hs] using @SupMove.runFailed quit _ _ _ hpc hc hs
      · simpa [Sup.afterRun, hc, hs] using @SupMove.runFailedClosed quit _ _ _ hpc hc hs
    · simpa [Sup.afterRun, hc] using @SupMove.runCancelled quit _ _ _ hpc hc

/-- Every step of `runBirdImportLoopStep` is one of the listed transitions. -/
theorem runBirdImportLoopStep_move {quit : Bool} {s s' : Sup} {a : SupAct}
    (h : runBirdImportLoopStep quit s a = some s') : SupMove quit s a s' := by
  unfold runBirdImportLoopStep at h
  split at h <;> rename_i hpc <;> (try split at h) <;> cases h
  all_goals first
    | exact .loopExit hpc ‹_›
    | exact .loopOn hpc (by simp_all) (by simp_all)
    | exact .shutdown hpc ‹_›
    | exact .connOk hpc (by simp_all)
    | exact .runActive hpc ‹_›
    | exact .reconnect hpc (by simp_all)
    | exact .reopened hpc
    | exact .feedFailed hpc
    | exact .reconnectAborted hpc ‹_›
    | exact .update hpc (by simp_all)
    | exact .flush hpc
    | exact .of_afterRun hpc
    | exact .backoffDone hpc
    | exact .backoffAborted hpc ‹_›

/-- Every listed transition is a step of `runBirdImportLoopStep`: the inversion loses nothing. -/
theorem SupMove.runBirdImportLoopStep_eq {quit : Bool} {s s' : Sup} {a : SupAct} (h : SupMove quit s a s') :
    runBirdImportLoopStep quit s a = some s' := by
  cases h <;> simp_all [runBirdImportLoopStep, Sup.afterRun, Sup.closeStream]

/-- A supervisor that has returned takes no step. -/
theorem SupMove.pc_ne_exited {quit : Bool} {s s' : Sup} {a : SupAct} (h : SupMove quit s a s') :
    s.pc ≠ .exited := by
  cases h <;> simp_all

/-- The loop returns only through its deferred cleanup, which cancels the context. -/
theorem SupMove.ctxDone_of_exited {quit : Bool} {s s' : Sup} {a : SupAct}
    (h : SupMove quit s a s') (he : s'.pc = .exited) : s'.ctxDone = true := by
  cases h <;> simp_all

/-- A supervisor serves the target it was started with. -/
theorem SupMove.target_eq {quit : Bool} {s s' : Sup} {a : SupAct} (h : SupMove quit s a s') :
    s'.target = s.target := by
  cases h <;> rfl

end RouteCoordinator
