import RouteCoordinator.Registry

/-!
# Failed Setups

What a `SetupConfig` call that returns an error leaves behind.

- `failed_setup_leaves_imports_intact`: in any history of the service, every step of a
  call that ends by returning an error leaves the registry, every holder and every
  holder's connection as they were, and starts no supervisor. The only step of a call
  that touches them is its critical section, and a call that takes it returns success.
- `failed_setup_leaks_connection`: an error return after the dial (a failed
  `InsertRoute`, `FlushRoutes` or initial `FeedRIB`) leaves the call's connection open,
  and no later step of the service closes it or hands it to a holder: the error paths of
  `setupConfig` and `processBirdImport` return without `conn.Close()`.
-/

namespace RouteCoordinator

/-! ## §1 The steps of a call -/

/-- A step that leaves the registry, the holders and their connections as they were. -/
structure World.Frame (w w' : World) : Prop where
  imports : w'.imports = w.imports
  holders : w'.holders = w.holders
  nextHolder : w'.nextHolder = w.nextHolder
  holder_conns : ∀ h H, w.holders h = some H → w'.conns H.conn = w.conns H.conn

/-- The only step of a call at `install` is its critical section, after which it has
returned success. -/
theorem CallMove.eq_install {w w' : World} {c : Nat} {call : Call} {ans : Answer}
    (h : CallMove w c call ans w') (hpc : call.pc = .install) :
    w' = (w.processBirdImport call).setCall c { call with pc := .done (.ok ()) } := by
  cases h <;> simp_all

/-- Every other step of a call is a frame step. -/
theorem CallMove.frame {w w' : World} {c : Nat} {call : Call} {ans : Answer} (hi : w.Inv)
    (hc : w.calls c = some call) (h : CallMove w c call ans w') (hpc : call.pc ≠ .install) :
    w.Frame w' := by
  cases h with
  | installed hin => exact absurd hin hpc
  | dialed => exact ⟨rfl, rfl, rfl, fun h H hH => by
      simp [Function.update_noteq (Nat.ne_of_lt (hi.holder_conn h H hH))]⟩
  | flushedStatic hin => exact ⟨rfl, rfl, rfl, fun h H hH => by
      simp [Function.update_noteq (hi.owns_holder c call.conn h H
        ⟨call, hc, by simp [hin, CallPc.ownsConn], rfl⟩ hH)]⟩
  | _ => exact ⟨rfl, rfl, rfl, fun _ _ _ => rfl⟩

/-- A call that has returned takes no step. -/
theorem CallMove.not_done {w w' : World} {c : Nat} {call : Call} {ans : Answer}
    (h : CallMove w c call ans w') (r : Except Status Unit) : call.pc ≠ .done r := by
  cases h <;> simp_all

/-- A call step moves its own call only. -/
theorem CallMove.calls_ne {w w' : World} {c c' : Nat} {call : Call} {ans : Answer}
    (h : CallMove w c call ans w') (hne : c' ≠ c) : w'.calls c' = w.calls c' := by
  cases h <;> simp [Function.update_noteq hne]

/-- A call that has returned stays as it returned. -/
theorem WorldMove.calls_done {w w' : World} {a : WorldAct} {c : Nat} {x : Call}
    {r : Except Status Unit} (hi : w.Inv) (h : WorldMove w a w') (hc : w.calls c = some x)
    (hx : x.pc = .done r) : w'.calls c = some x := by
  cases h with
  | setupBegin => simpa [Function.update_noteq (Nat.ne_of_lt (hi.call_lt c x hc))] using hc
  | @setup c' _ _ _ hc' hm =>
    by_cases hcc : c = c'
    · subst hcc
      cases hc.symm.trans hc'
      exact absurd hx (hm.not_done r)
    · exact (hm.calls_ne hcc).trans hc
  | supervise => simpa using hc
  | closeQuit => exact hc

/-- Along a run from a reachable state, a call that has returned stays as it returned. -/
theorem worldRun_calls_done : ∀ {w w' : World} {acts : List WorldAct} {c : Nat} {x : Call}
    {r : Except Status Unit}, WorldReach anyReader w → worldRun w acts = some w' →
    w.calls c = some x → x.pc = .done r → w'.calls c = some x
  | _, _, [], _, _, _, _, h, hc, _ => by cases h; exact hc
  | _, _, _ :: _, _, _, _, hw, h, hc, hx => by
    obtain ⟨m, hm, hr⟩ := Option.bind_eq_some.mp h
    exact worldRun_calls_done (hw.anyStep hm) hr ((worldStep_move hm).calls_done hw.inv hc hx) hx

/-- **A failed setup leaves the imports intact.** In every history of the service, each
step of a call that ends by returning an error leaves the registry, every holder (its
context included) and every holder's connection as they were, and starts no supervisor. -/
theorem failed_setup_leaves_imports_intact {pre post : List WorldAct} {c : Nat} {ans : Answer}
    {w' : World} {call : Call} {st : Status}
    (hrun : worldRun World.init (pre ++ .setup c ans :: post) = some w')
    (hc : w'.calls c = some call) (herr : call.pc = .done (.error st)) :
    ∃ w₁ w₂, worldRun World.init pre = some w₁ ∧ worldStep w₁ (.setup c ans) = some w₂ ∧
      w₁.Frame w₂ := by
  rw [worldRun_append] at hrun
  obtain ⟨w₁, h₁, hrest⟩ := Option.bind_eq_some.mp hrun
  obtain ⟨w₂, h₂, h₃⟩ := Option.bind_eq_some.mp hrest
  have hw₁ := worldRun_reach .init h₁
  obtain ⟨x, hx, hs⟩ := Option.bind_eq_some.mp h₂
  refine ⟨w₁, w₂, h₁, h₂, (setupConfigStep_move hs).frame hw₁.inv hx fun hpc => ?_⟩
  have hdone : w₂.calls c = some { x with pc := .done (.ok ()) } := by
    rw [(setupConfigStep_move hs).eq_install hpc]
    simp
  have hend := worldRun_calls_done (hw₁.anyStep h₂) h₃ hdone rfl
  rw [hc, Option.some.injEq] at hend
  simp [hend] at herr

/-- A BIRD import of `("a", 1)` is live when a second setup of `("a", 1)` fails at its
`InsertRoute`: that step leaves the registry, the live holder and its connection as they
were. -/
theorem insert_failure_beside_live_import :
    (∃ w₁ w₂, worldRun World.init (succeedingSetup 0 1 "a" ⟨[], some ⟨["bird.sock"]⟩⟩ ++
        [.setupBegin 1 "a",
          .setup 1 (.parsed (.ok ⟨[⟨"10.0.0.0/8", "192.0.2.1"⟩], some ⟨["bird.sock"]⟩⟩)),
          .setup 1 (.dialed none)]) = some w₁ ∧
      worldStep w₁ (.setup 1 (.inserted (some ⟨⟨"unavailable", false, false, false⟩, rfl⟩))) =
        some w₂ ∧ w₁.Frame w₂) ∧
    ∃ w, worldRun World.init (succeedingSetup 0 1 "a" ⟨[], some ⟨["bird.sock"]⟩⟩ ++
        [.setupBegin 1 "a",
          .setup 1 (.parsed (.ok ⟨[⟨"10.0.0.0/8", "192.0.2.1"⟩], some ⟨["bird.sock"]⟩⟩)),
          .setup 1 (.dialed none)]) = some w ∧
      ∃ H, w.holders 0 = some H ∧ H.key = ⟨"a", 1⟩ ∧ H.sup.ctxDone = false :=
  ⟨@failed_setup_leaves_imports_intact (succeedingSetup 0 1 "a" ⟨[], some ⟨["bird.sock"]⟩⟩ ++
      [WorldAct.setupBegin 1 "a",
        .setup 1 (.parsed (.ok ⟨[⟨"10.0.0.0/8", "192.0.2.1"⟩], some ⟨["bird.sock"]⟩⟩)),
        .setup 1 (.dialed none)]) [] 1 _ _ _ _ rfl rfl rfl,
    _, rfl, _, rfl, rfl, rfl⟩

/-! ## §2 The connection of a failed setup -/

/-- Connection `n` was made, and neither a call in progress nor a holder has it. -/
structure World.Orphan (w : World) (n : Nat) : Prop where
  made : n < w.nextConn
  no_call : ∀ c, ¬ w.Owns c n
  no_holder : ∀ h H, w.holders h = some H → H.conn ≠ n

/-- After a call step, a call holds a connection only if it held it before or the step
dialled it. -/
theorem CallMove.owns_of {w w' : World} {c c' n : Nat} {call : Call} {ans : Answer}
    (hc : w.calls c = some call) (h : CallMove w c call ans w') (ho : w'.Owns c' n) :
    w.Owns c' n ∨ n = w.nextConn := by
  cases h with
  | dialed => exact ho.of_dialed.elim (fun h => .inr h.2) (fun h => .inl h.2)
  | installed =>
    exact .inl ((World.owns_congr (by simp)).1
      (ho.of_setCall (w := w.processBirdImport call) (by simpa using hc) (by simp [CallPc.ownsConn])))
  | inserted hpc | flushedNil hpc | flushedBird hpc | fed hpc =>
    exact .inl (ho.of_setCall hc (by simp [hpc, CallPc.ownsConn]))
  | _ => exact .inl (ho.of_setCall hc (by simp [CallPc.ownsConn]))

/-- No step of the service closes an orphaned connection or hands it to anyone. -/
theorem WorldMove.orphan {w w' : World} {a : WorldAct} {n : Nat} (h : WorldMove w a w')
    (ho : w.Orphan n) : w'.Orphan n ∧ w'.conns n = w.conns n := by
  cases h with
  | setupBegin =>
    exact ⟨⟨ho.made, fun c hc => ho.no_call c
      (World.Owns.of_setCall_idle (x := ⟨⟨_, _⟩, 0, .parse⟩) rfl hc), ho.no_holder⟩, rfl⟩
  | @setup c call _ _ hc hm =>
    have hcall : ∀ c', ¬ w'.Owns c' n := fun c' ho' =>
      (hm.owns_of hc ho').elim (ho.no_call c') (Nat.ne_of_lt ho.made)
    have hmine : call.pc.ownsConn = true → call.conn ≠ n := fun hp he =>
      ho.no_call c (he ▸ ⟨call, hc, hp, rfl⟩)
    cases hm with
    | dialed =>
      exact ⟨⟨by simpa using Nat.lt_succ_of_lt ho.made, hcall, ho.no_holder⟩,
        by simp [Function.update_noteq (Nat.ne_of_lt ho.made)]⟩
    | flushedStatic hpc =>
      exact ⟨⟨ho.made, hcall, ho.no_holder⟩, by
        simp [Function.update_noteq (Ne.symm (hmine (by simp [hpc, CallPc.ownsConn])))]⟩
    | installed hpc =>
      refine ⟨⟨by simpa using ho.made, hcall, fun h H hH => ?_⟩,
        by simp [World.processBirdImport, World.replace_conns ho.no_holder]⟩
      simp only [World.processBirdImport, World.setCall_holders, World.file_holders,
        Function.update_apply] at hH
      split at hH
      · cases hH
        exact hmine (by simp [hpc, CallPc.ownsConn])
      · rcases World.replace_holders hH with hH | ⟨H₀, hH₀, rfl⟩
        · exact ho.no_holder h H hH
        · exact ho.no_holder h H₀ hH₀
    | _ => exact ⟨⟨ho.made, hcall, ho.no_holder⟩, rfl⟩
  | @supervise h H _ _ hH _ =>
    refine ⟨⟨by simpa using ho.made, fun c hc => ho.no_call c ((World.owns_congr (by simp)).1 hc),
      fun h' H' hH' => ?_⟩, by simp [World.afterSupervise_conns, Ne.symm (ho.no_holder h H hH)]⟩
    simp only [World.afterSupervise_holders, Function.update_apply] at hH'
    split at hH'
    · cases hH'
      exact ho.no_holder h H hH
    · exact ho.no_holder h' H' hH'
  | closeQuit => exact ⟨⟨ho.made, ho.no_call, ho.no_holder⟩, rfl⟩

/-- An orphaned connection stays orphaned, open or closed as it was, along any run. -/
theorem World.Orphan.run : ∀ {w w' : World} {acts : List WorldAct} {n : Nat}, w.Orphan n →
    worldRun w acts = some w' → w'.Orphan n ∧ w'.conns n = w.conns n
  | _, _, [], _, ho, h => by cases h; exact ⟨ho, rfl⟩
  | _, _, _ :: _, _, ho, h => by
    obtain ⟨m, hm, hr⟩ := Option.bind_eq_some.mp h
    obtain ⟨hom, hcm⟩ := (worldStep_move hm).orphan ho
    obtain ⟨ho', hc'⟩ := World.Orphan.run hom hr
    exact ⟨ho', hc'.trans hcm⟩

/-- A call that returns from a position holding its connection, without closing it,
leaves the connection open and orphaned. -/
theorem World.Inv.orphan_setCall {w : World} {c : Nat} {call : Call} {p : CallPc} (hi : w.Inv)
    (hc : w.calls c = some call) (hpc : call.pc.ownsConn = true) (hp : p.ownsConn = false) :
    (w.setCall c { call with pc := p }).Orphan call.conn ∧
      (w.setCall c { call with pc := p }).conns call.conn = false := by
  have hown : w.Owns c call.conn := ⟨call, hc, hpc, rfl⟩
  refine ⟨⟨hi.owns_lt c _ hown, fun c' ho => ?_, fun h H hH => hi.owns_holder c _ h H hown hH⟩,
    hi.owns_open c _ hown⟩
  exact ho.ne_of_setCall hp (hi.owns_unique c' c _ (ho.of_setCall hc (by simp [hp])) hown)

/-- **An error return after the dial leaks the connection.** When a call that holds its
connection returns an error, the connection is open, and in every continuation of the
service it stays open and no holder has it. -/
theorem failed_setup_leaks_connection {R : Sup → SupAct → Prop} {w w' : World} {c : Nat}
    {call : Call} {ans : Answer} {st : Status} (hw : WorldReach R w)
    (hc : w.calls c = some call) (hown : call.pc.ownsConn = true)
    (hs : worldStep w (.setup c ans) = some w')
    (herr : (w'.calls c).map Call.pc = some (.done (.error st))) :
    w'.conns call.conn = false ∧ ∀ acts w'', worldRun w' acts = some w'' →
      w''.conns call.conn = false ∧ ∀ h H, w''.holders h = some H → H.conn ≠ call.conn := by
  have hi := hw.inv
  obtain ⟨x, hx, hs⟩ := Option.bind_eq_some.mp hs
  obtain rfl := Option.some.inj (hx.symm.trans hc)
  have ⟨horph, hopen⟩ : w'.Orphan x.conn ∧ w'.conns x.conn = false := by
    cases setupConfigStep_move hs with
    | insertFailed => exact (hi.issue _).orphan_setCall hc hown rfl
    | flushFailed => exact (hi.issue _).orphan_setCall hc hown rfl
    | feedFailed => exact hi.orphan_setCall hc hown rfl
    | _ => simp_all [CallPc.ownsConn]
  refine ⟨hopen, fun acts w'' hr => ?_⟩
  obtain ⟨ho'', hc''⟩ := horph.run hr
  exact ⟨hc''.trans hopen, ho''.no_holder⟩

/-- The leak at its smallest: one static route, whose `InsertRoute` fails. -/
theorem insert_failure_leaks_connection :
    ∃ w w', worldRun World.init [.setupBegin 1 "a",
        .setup 0 (.parsed (.ok ⟨[⟨"10.0.0.0/8", "192.0.2.1"⟩], some ⟨[]⟩⟩)), .setup 0 (.dialed none)] =
        some w ∧
      worldStep w (.setup 0 (.inserted (some ⟨⟨"unavailable", false, false, false⟩, rfl⟩))) =
        some w' ∧
      w'.conns 0 = false ∧ ∀ acts w'', worldRun w' acts = some w'' →
        w''.conns 0 = false ∧ ∀ h H, w''.holders h = some H → H.conn ≠ 0 :=
  ⟨_, _, rfl, rfl, @failed_setup_leaks_connection anyReader _ _ 0 _
    (.inserted (some ⟨⟨"unavailable", false, false, false⟩, rfl⟩)) _
    (@worldRun_reach _ _ [.setupBegin 1 "a",
      .setup 0 (.parsed (.ok ⟨[⟨"10.0.0.0/8", "192.0.2.1"⟩], some ⟨[]⟩⟩)), .setup 0 (.dialed none)]
      .init rfl) rfl rfl rfl rfl⟩

end RouteCoordinator
