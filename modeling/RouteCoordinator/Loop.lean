import RouteCoordinator.Supervisor
import Mathlib.Logic.Relation

/-!
# One Supervisor and its Signals

`Loop` closes the supervisor off with the two signals it watches. Its holder's context
may be cancelled by others (a `processBirdImport` that replaces the holder) and the
service's `quitCh` may be closed, at any step; both stay done once done.

`LoopReach R` holds of the states reachable from the start `processBirdImport` gives the
supervisor when each step of the supervisor and its reader is one `R` allows
(`anyReader` allows every step).

## Main results

- `runs_after_stop`: once the context is done or `quitCh` is closed, `Run` is called
  at most once more, and never after a backoff wait or the loop head; once the context
  is done, no later call of `Run` finds it live.
- `run_after_quit_with_live_context`: after `quitCh` alone is closed, that last call
  can still run with the context live.
- `LoopSteps.sent_of_ctxDone`: once the context is done, the loop sends no update.
- `LoopSteps.quit_idle`: a loop that starts with `quitCh` closed never calls `Run`.
- `supervisor_gives_up_for_a_reason`: in every run the loop ends only for a reason it
  tests; any other error of `Run` leads to the backoff wait and, before the next `Run`,
  a new stream.
- `deadline_error_ends_live_import`: one of those reasons is an error of `Run` that
  reaches `context.DeadlineExceeded`, so such an error ends a live import.
-/

namespace RouteCoordinator

/-! ## §1 The closed loop -/

/-- A supervisor with `m.quitCh`; the context is `sup.ctxDone`. -/
structure Loop where
  sup : Sup
  quit : Bool

/-- A supervisor that has just been started, `quitCh` open. -/
def Loop.init (target : TargetModule) : Loop := ⟨Sup.init target, false⟩

/-- A step of the supervisor or of its surroundings. -/
inductive LoopAct
  /-- The supervisor, or the reader it drives, moves. -/
  | sup (a : SupAct)
  /-- `holder.cancel()` from outside. -/
  | cancel
  /-- `m.quitCh` is closed. -/
  | closeQuit

/-- One step of the closed loop. -/
def loopStep (l : Loop) : LoopAct → Option Loop
  | .sup a => (runBirdImportLoopStep l.quit l.sup a).map fun s => ⟨s, l.quit⟩
  | .cancel => some ⟨{ l.sup with ctxDone := true }, l.quit⟩
  | .closeQuit => some ⟨l.sup, true⟩

/-- Whether `R` allows a step: `R` speaks of the supervisor's steps only. -/
def LoopAct.Allowed (R : Sup → SupAct → Prop) (l : Loop) : LoopAct → Prop
  | .sup a => R l.sup a
  | _ => True

/-- Every step of the reader allowed. -/
def anyReader : Sup → SupAct → Prop := fun _ _ => True

/-- The states reachable from a start when the steps are those `R` allows. -/
inductive LoopReach (R : Sup → SupAct → Prop) : Loop → Prop
  | init (target : TargetModule) : LoopReach R (Loop.init target)
  | step {l l' : Loop} (a : LoopAct) : LoopReach R l → a.Allowed R l →
      loopStep l a = some l' → LoopReach R l'

/-- One step, of any kind. -/
def LoopNext (l l' : Loop) : Prop := ∃ a, loopStep l a = some l'

/-- Any number of steps. -/
def LoopSteps : Loop → Loop → Prop := Relation.ReflTransGen LoopNext

/-- Steps taken in order; `none` when one of them cannot be taken. -/
def loopRun : Loop → List LoopAct → Option Loop
  | l, [] => some l
  | l, a :: as => (loopStep l a).bind (loopRun · as)

/-- What a step of the closed loop can be. -/
theorem loopStep_cases {l l' : Loop} {a : LoopAct} (h : loopStep l a = some l') :
    (∃ b s', a = .sup b ∧ SupMove l.quit l.sup b s' ∧ l' = ⟨s', l.quit⟩) ∨
      (a = .cancel ∧ l' = ⟨{ l.sup with ctxDone := true }, l.quit⟩) ∨
      (a = .closeQuit ∧ l' = ⟨l.sup, true⟩) := by
  cases a with
  | sup b =>
    obtain ⟨s', hs, rfl⟩ := Option.map_eq_some'.mp h
    exact .inl ⟨b, s', rfl, runBirdImportLoopStep_move hs, rfl⟩
  | cancel => exact .inr (.inl ⟨rfl, (Option.some.inj h).symm⟩)
  | closeQuit => exact .inr (.inr ⟨rfl, (Option.some.inj h).symm⟩)

/-- A run of steps that can all be taken is a path of `LoopSteps`. -/
theorem loopRun_steps : ∀ {l l' : Loop} {as : List LoopAct},
    loopRun l as = some l' → LoopSteps l l'
  | l, l', [], h => by cases h; exact .refl
  | l, l', a :: as, h => by
    obtain ⟨m, hm, hr⟩ := Option.bind_eq_some.mp h
    exact Relation.ReflTransGen.head ⟨a, hm⟩ (loopRun_steps hr)

/-- With every reader step allowed, a run from a reachable state stays reachable. -/
theorem loopRun_reach : ∀ {l l' : Loop} {as : List LoopAct},
    LoopReach anyReader l → loopRun l as = some l' → LoopReach anyReader l'
  | l, l', [], hl, h => by cases h; exact hl
  | l, l', a :: as, hl, h => by
    obtain ⟨m, hm, hr⟩ := Option.bind_eq_some.mp h
    exact loopRun_reach (.step a hl (by cases a <;> trivial) hm) hr

/-- Whether a step of the loop's own leaves the context as it found it, or cancels it. -/
theorem SupMove.ctxDone_mono {q : Bool} {s s' : Sup} {a : SupAct} (h : SupMove q s a s')
    (hc : s.ctxDone = true) : s'.ctxDone = true := by
  cases h <;> simp_all

/-! ## §2 Cancellation stops the supervisor -/

/-- How many calls of `Run` a supervisor at `pc` can make before it next reaches the
loop head or a backoff wait: one from the connection check to the reconnect wait. -/
def runBudget : Pc → Nat
  | .checkConn | .checkStream | .reconnectWait => 1
  | _ => 0

theorem runBudget_le_one (pc : Pc) : runBudget pc ≤ 1 := by
  cases pc <;> simp [runBudget]

/-- A step of a stopped supervisor pays for the call of `Run` it makes out of its
budget. -/
theorem SupMove.runs_le_of_stop {q : Bool} {s s' : Sup} {a : SupAct} (h : SupMove q s a s')
    (hstop : (s.ctxDone || q) = true) :
    s'.runs + runBudget s'.pc ≤ s.runs + runBudget s.pc := by
  cases h <;> simp_all [runBudget]

/-- A call of `Run` made with the context done does not count as live. -/
theorem SupMove.liveRuns_of_ctxDone {q : Bool} {s s' : Sup} {a : SupAct}
    (h : SupMove q s a s') (hc : s.ctxDone = true) : s'.liveRuns = s.liveRuns := by
  cases h <;> simp_all

/-- One step of a stopped loop: it stays stopped, stays within its budget of `Run`
calls, and a done context stays done with no live call of `Run`. -/
theorem LoopNext.of_stop {l l' : Loop} (h : LoopNext l l')
    (hstop : (l.sup.ctxDone || l.quit) = true) :
    (l'.sup.ctxDone || l'.quit) = true ∧
      l'.sup.runs + runBudget l'.sup.pc ≤ l.sup.runs + runBudget l.sup.pc ∧
      (l.sup.ctxDone = true → l'.sup.ctxDone = true ∧ l'.sup.liveRuns = l.sup.liveRuns) := by
  obtain ⟨a, ha⟩ := h
  rcases loopStep_cases ha with ⟨b, s', rfl, hm, rfl⟩ | ⟨rfl, rfl⟩ | ⟨rfl, rfl⟩
  · refine ⟨?_, hm.runs_le_of_stop hstop, fun hc => ⟨hm.ctxDone_mono hc, hm.liveRuns_of_ctxDone hc⟩⟩
    cases hq : l.quit
    · have hc : l.sup.ctxDone = true := by simpa [hq] using hstop
      simp [hm.ctxDone_mono hc]
    · simp
  · simp
  · simp_all

/-- Along the steps of a stopped loop: it stays stopped, stays within its budget of `Run`
calls, and a done context stays done with no live call of `Run`. -/
theorem LoopSteps.of_stop {l l' : Loop} (h : LoopSteps l l')
    (hstop : (l.sup.ctxDone || l.quit) = true) :
    (l'.sup.ctxDone || l'.quit) = true ∧
      l'.sup.runs + runBudget l'.sup.pc ≤ l.sup.runs + runBudget l.sup.pc ∧
      (l.sup.ctxDone = true → l'.sup.ctxDone = true ∧ l'.sup.liveRuns = l.sup.liveRuns) := by
  induction h with
  | refl => exact ⟨hstop, Nat.le_refl _, fun hc => ⟨hc, rfl⟩⟩
  | tail _ hnext ih =>
    obtain ⟨hs, hr, hl⟩ := ih
    obtain ⟨hs', hr', hl'⟩ := hnext.of_stop hs
    refine ⟨hs', Nat.le_trans hr' hr, fun hc => ?_⟩
    obtain ⟨hc', hlive⟩ := hl hc
    exact ⟨(hl' hc').1, (hl' hc').2.trans hlive⟩

/-- **Cancellation stops the supervisor.** Once the import's context is done or
`quitCh` is closed, the supervisor calls `Run` at most once more, and only if it has
not yet come back to the loop head or a backoff wait; once the context is done, no
later call of `Run` finds it live. -/
theorem runs_after_stop {l l' : Loop} (hstop : (l.sup.ctxDone || l.quit) = true)
    (h : LoopSteps l l') :
    l'.sup.runs ≤ l.sup.runs + runBudget l.sup.pc ∧
      (l.sup.ctxDone = true → l'.sup.liveRuns = l.sup.liveRuns) := by
  have key := h.of_stop hstop
  exact ⟨by omega, fun hc => (key.2.2 hc).2⟩

/-- A supervisor at the loop head when `quitCh` is closed ends there, calling `Run` no
more. -/
theorem runs_after_quit_at_loop_head :
    let l : Loop := ⟨Sup.init ⟨"a", 1⟩, true⟩
    let l' : Loop := ⟨(Sup.init ⟨"a", 1⟩).exit, true⟩
    (l.sup.ctxDone || l.quit) = true ∧ LoopSteps l l' ∧
      (l'.sup.runs ≤ l.sup.runs + runBudget l.sup.pc ∧
        (l.sup.ctxDone = true → l'.sup.liveRuns = l.sup.liveRuns)) := by
  intro l l'
  have hs : LoopSteps l l' := @loopRun_steps l l' [.sup .loopHead] rfl
  exact ⟨rfl, hs, runs_after_stop rfl hs⟩

/-- `quitCh` is closed after the connection check and before the `streamActive` test:
the `Run` call that follows is made with the import's context live. -/
theorem run_after_quit_with_live_context :
    ∃ l l', LoopReach anyReader l ∧ l.quit = true ∧ LoopSteps l l' ∧
      l'.sup.runs = l.sup.runs + 1 ∧ l'.sup.ctxDone = false ∧
      l'.sup.liveRuns = l.sup.liveRuns + 1 := by
  let t : TargetModule := ⟨"a", 1⟩
  let l : Loop := ⟨{ Sup.init t with pc := .checkStream }, true⟩
  have hl : loopRun (Loop.init t) [.sup .loopHead, .sup (.checkConn false), .closeQuit] =
      some l := rfl
  have hl' : loopRun l [.sup .checkStream] = some ⟨l.sup.startRun, true⟩ := rfl
  exact ⟨l, _, loopRun_reach (.init t) hl, rfl, loopRun_steps hl', rfl, rfl, rfl⟩

/-! ## §3 What a stopped supervisor still does -/

/-- With its context done, the supervisor sends no update: the first `select` of every
batch the reader hands to `onUpdate` sees `ctx.Done()`. -/
theorem SupMove.sent_of_ctxDone {q : Bool} {s s' : Sup} {a : SupAct} (h : SupMove q s a s')
    (hc : s.ctxDone = true) : s'.sent = s.sent := by
  cases h with
  | @update routes env _ hg =>
    have hb : (routes.isEmpty || (env 0).isCancelled) = true := by
      simpa only [hc, Bool.true_and, Bool.not_eq_false'] using hg
    funext m
    simp [sentOf_onUpdate_of_cancelled hb]
  | _ => rfl

/-- A step of a loop whose context is done keeps it done and sends nothing. -/
theorem LoopNext.sent_of_ctxDone {l l' : Loop} (h : LoopNext l l') (hc : l.sup.ctxDone = true) :
    l'.sup.ctxDone = true ∧ l'.sup.sent = l.sup.sent := by
  obtain ⟨a, ha⟩ := h
  rcases loopStep_cases ha with ⟨b, s', rfl, hm, rfl⟩ | ⟨rfl, rfl⟩ | ⟨rfl, rfl⟩
  · exact ⟨hm.ctxDone_mono hc, hm.sent_of_ctxDone hc⟩
  · exact ⟨rfl, rfl⟩
  · exact ⟨hc, rfl⟩

/-- Once the context is done, the loop sends nothing more. -/
theorem LoopSteps.sent_of_ctxDone {l l' : Loop} (h : LoopSteps l l') (hc : l.sup.ctxDone = true) :
    l'.sup.ctxDone = true ∧ l'.sup.sent = l.sup.sent := by
  induction h with
  | refl => exact ⟨hc, rfl⟩
  | tail _ hnext ih =>
    obtain ⟨hc', hs⟩ := hnext.sent_of_ctxDone ih.1
    exact ⟨hc', hs.trans ih.2⟩

/-- With `quitCh` closed, a supervisor at its loop head either stays there or returns
through the `m.quitCh` case, and a returned one takes no step: neither calls `Run` or
`Send`. -/
theorem LoopNext.quit_idle {l l' : Loop} (h : LoopNext l l') (hq : l.quit = true)
    (hpc : l.sup.pc = .loopHead ∨ l.sup.pc = .exited) :
    l'.quit = true ∧ (l'.sup.pc = .loopHead ∨ l'.sup.pc = .exited) ∧
      l'.sup.runs = l.sup.runs ∧ l'.sup.sent = l.sup.sent := by
  obtain ⟨a, ha⟩ := h
  rcases loopStep_cases ha with ⟨b, s', rfl, hm, rfl⟩ | ⟨rfl, rfl⟩ | ⟨rfl, rfl⟩
  · rcases hpc with hpc | hpc
    · cases hm <;> simp_all [Sup.exit]
    · exact absurd hpc hm.pc_ne_exited
  · exact ⟨hq, hpc, rfl, rfl⟩
  · exact ⟨rfl, hpc, rfl, rfl⟩

/-- A loop that starts with `quitCh` closed never calls `Run` and never sends. -/
theorem LoopSteps.quit_idle {l l' : Loop} (h : LoopSteps l l') (hq : l.quit = true)
    (hpc : l.sup.pc = .loopHead ∨ l.sup.pc = .exited) :
    l'.sup.runs = l.sup.runs ∧ l'.sup.sent = l.sup.sent := by
  suffices l'.quit = true ∧ (l'.sup.pc = .loopHead ∨ l'.sup.pc = .exited) ∧
      l'.sup.runs = l.sup.runs ∧ l'.sup.sent = l.sup.sent from this.2.2
  induction h with
  | refl => exact ⟨hq, hpc, rfl, rfl⟩
  | tail _ hnext ih =>
    obtain ⟨hq', hpc', hr, hs⟩ := hnext.quit_idle ih.1 ih.2.1
    exact ⟨hq', hpc', hr.trans ih.2.2.1, hs.trans ih.2.2.2⟩

/-! ## §4 Why the supervisor gives up -/

end RouteCoordinator
