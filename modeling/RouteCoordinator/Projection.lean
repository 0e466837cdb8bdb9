import RouteCoordinator.Registry
import RouteCoordinator.Streams

/-!
# Holders as Closed Loops

The service (`World`) and the closed loop of one supervisor (`Loop`) are two levels of
one design. A step of the service moves each holder by at most one step of its closed
loop: the supervisor's own step, the `holder.cancel()` of a replacement, or the closing
of `quitCh` (`WorldMove.holder_loop`). So every holder, with the service's `quitCh`, is
a reachable state of its loop (`WorldReach.holder_loop`), and along any continuation of
the service its loop takes `LoopSteps` (`worldRun_holder_steps`).

What the loop guarantees then holds of every holder of the service:

- `superseded_holder_runs_at_most_once`: a holder replaced by a later setup calls `Run`
  at most once more, and never with a live context, whatever the service does next.
- `holder_updates_carry_key_target`: a holder serves the target its key names, every
  update it has sent on any stream is for that target, in the reader's order, and while
  `Run` goes on every route handed over on the current stream has been sent.
- `holder_streams_closed_once`: with readers that return their callbacks' errors, every
  stream a holder has moved off was closed exactly once, and none twice.
- `superseded_holder_sends_nothing`: a replaced holder sends no further update.
- `import_after_quit_never_runs`: once `quitCh` is closed, a holder filed later never
  calls `Run`; `worldRun_new_holder_steps` follows such a holder from its start.
-/

namespace RouteCoordinator

/-! ## §1 One step of the service, seen from a holder -/

/-- A closed loop that starts from a fresh supervisor is reachable, whether or not
`quitCh` is already closed. -/
theorem LoopReach.init_quit {R : Sup → SupAct → Prop} (t : TargetModule) (q : Bool) :
    LoopReach R ⟨Sup.init t, q⟩ := by
  cases q
  · exact .init t
  · exact .step .closeQuit (.init t) trivial rfl

/-- Every step of the service either files a fresh holder under a number no holder had,
or moves a holder's closed loop by at most one step, which the readers allow when they
allowed the service's step. -/
theorem WorldMove.holder_loop {w w' : World} {a : WorldAct} (hi : w.Inv) (h : WorldMove w a w')
    {n : Nat} {H' : Holder} (hH' : w'.holders n = some H') :
    (w.holders n = none ∧ ∃ t, H'.sup = Sup.init t) ∨ ∃ H, w.holders n = some H ∧
      ((H'.sup = H.sup ∧ w'.quit = w.quit) ∨
        ∃ b, (∀ R, a.Allowed R w → b.Allowed R ⟨H.sup, w.quit⟩) ∧
          loopStep ⟨H.sup, w.quit⟩ b = some ⟨H'.sup, w'.quit⟩) := by
  cases h with
  | setupBegin => exact .inr ⟨H', hH', .inl ⟨rfl, rfl⟩⟩
  | @setup c call _ _ hc hm =>
    cases hm with
    | installed hpc =>
      simp only [World.processBirdImport, World.setCall_holders, World.file_holders,
        World.replace_nextHolder, Function.update_apply] at hH'
      split at hH'
      · rename_i hn
        cases hH'
        refine .inl ⟨?_, _, rfl⟩
        cases hw : w.holders n with
        | none => rfl
        | some H => exact absurd (hn ▸ hi.holder_lt n H hw) (Nat.lt_irrefl _)
      · rcases World.replace_holders hH' with hH | ⟨H, hH, rfl⟩
        · exact .inr ⟨H', hH, .inl ⟨rfl, by simp [World.processBirdImport]⟩⟩
        · exact .inr ⟨H, hH, .inr ⟨.cancel, fun _ _ => trivial, by simp [loopStep, World.processBirdImport]⟩⟩
    | _ => exact .inr ⟨H', hH', .inl ⟨rfl, rfl⟩⟩
  | @supervise h H b s hH hm =>
    simp only [World.afterSupervise_holders, Function.update_apply] at hH'
    split at hH'
    · rename_i hn
      subst hn
      cases hH'
      exact .inr ⟨H, hH, .inr ⟨.sup b, fun _ hR => hR H hH, by simp [loopStep, hm.runBirdImportLoopStep_eq]⟩⟩
    · exact .inr ⟨H', hH', .inl ⟨rfl, by simp⟩⟩
  | closeQuit => exact .inr ⟨H', hH', .inr ⟨.closeQuit, fun _ _ => trivial, rfl⟩⟩

/-- A step of the service keeps every holder. -/
theorem WorldMove.holders_some {w w' : World} {a : WorldAct} (h : WorldMove w a w') {n : Nat}
    {H : Holder} (hH : w.holders n = some H) : ∃ H', w'.holders n = some H' := by
  cases h with
  | @setup c call _ _ hc hm =>
    cases hm with
    | installed =>
      simp only [World.processBirdImport, World.setCall_holders, World.file_holders, Function.update_apply]
      split
      · exact ⟨_, rfl⟩
      · unfold World.replace World.supersede
        split
        · split
          · simp only [World.closeConn_holders, World.setHolder_holders, Function.update_apply]
            split
            · exact ⟨_, rfl⟩
            · exact ⟨H, hH⟩
          · exact ⟨H, hH⟩
        · exact ⟨H, hH⟩
    | _ => exact ⟨H, hH⟩
  | supervise =>
    simp only [World.afterSupervise_holders, Function.update_apply]
    split
    · exact ⟨_, rfl⟩
    · exact ⟨H, hH⟩
  | _ => exact ⟨H, hH⟩

/-- A holder stays, and its closed loop moves by at most one step. -/
theorem WorldMove.holder_next {w w' : World} {a : WorldAct} (hi : w.Inv) (h : WorldMove w a w')
    {n : Nat} {H : Holder} (hH : w.holders n = some H) :
    ∃ H', w'.holders n = some H' ∧ Relation.ReflGen LoopNext ⟨H.sup, w.quit⟩ ⟨H'.sup, w'.quit⟩ := by
  obtain ⟨H', hH'⟩ := h.holders_some hH
  refine ⟨H', hH', ?_⟩
  rcases h.holder_loop hi hH' with ⟨hnone, -⟩ | ⟨H₀, hH₀, hsame | ⟨b, -, hstep⟩⟩
  · simp [hH] at hnone
  all_goals obtain rfl := Option.some.inj (hH₀.symm.trans hH)
  · rw [hsame.1, hsame.2]
  · exact .single ⟨b, hstep⟩

/-- **Every holder runs its closed loop.** In every reachable state of the service, each
holder's supervisor with the service's `quitCh` is a reachable state of the closed loop,
under the same readers. -/
theorem WorldReach.holder_loop {R : Sup → SupAct → Prop} {w : World} (hw : WorldReach R w)
    {n : Nat} {H : Holder} (hH : w.holders n = some H) : LoopReach R ⟨H.sup, w.quit⟩ := by
  induction hw generalizing n H with
  | init => exact nomatch hH
  | step a hw₀ ha hs ih =>
    rcases (worldStep_move hs).holder_loop hw₀.inv hH with
      ⟨-, t, ht⟩ | ⟨H₀, hH₀, ⟨hsup, hq⟩ | ⟨b, hb, hstep⟩⟩
    · rw [ht]; exact LoopReach.init_quit t _
    · rw [hsup, hq]; exact ih hH₀
    · exact .step b (ih hH₀) (hb R ha) hstep

/-- Along any run of the service, each holder's closed loop takes steps of its own. -/
theorem worldRun_holder_steps : ∀ {w w' : World} {acts : List WorldAct} {n : Nat} {H : Holder},
    w.Inv → worldRun w acts = some w' → w.holders n = some H →
    ∃ H', w'.holders n = some H' ∧ LoopSteps ⟨H.sup, w.quit⟩ ⟨H'.sup, w'.quit⟩
  | _, _, [], _, H, _, h, hH => by cases h; exact ⟨H, hH, .refl⟩
  | _, _, _ :: _, _, _, hi, h, hH => by
    obtain ⟨m, hm, hr⟩ := Option.bind_eq_some.mp h
    have hmove := worldStep_move hm
    obtain ⟨Hm, hHm, hnext⟩ := hmove.holder_next hi hH
    obtain ⟨H', hH', hsteps⟩ := worldRun_holder_steps (hmove.inv hi) hr hHm
    exact ⟨H', hH', hnext.to_reflTransGen.trans hsteps⟩

/-- Once closed, `quitCh` stays closed. -/
theorem WorldMove.quit_mono {w w' : World} {a : WorldAct} (h : WorldMove w a w')
    (hq : w.quit = true) : w'.quit = true := by
  cases h with
  | setup _ hm => cases hm <;> simpa [World.processBirdImport] using hq
  | closeQuit => rfl
  | _ => simpa using hq

/-- Along a run from a state where `quitCh` is closed, a holder filed during the run runs
a closed loop that started fresh with `quitCh` closed. -/
theorem worldRun_new_holder_steps : ∀ {w w' : World} {acts : List WorldAct} {n : Nat}
    {H' : Holder}, w.Inv → w.quit = true → worldRun w acts = some w' → w.holders n = none →
    w'.holders n = some H' → ∃ t, LoopSteps ⟨Sup.init t, true⟩ ⟨H'.sup, w'.quit⟩
  | _, _, [], _, _, _, _, h, hn, hH' => by cases h; simp [hn] at hH'
  | _, _, _ :: _, n, _, hi, hq, h, hn, hH' => by
    obtain ⟨m, hm, hr⟩ := Option.bind_eq_some.mp h
    have hmove := worldStep_move hm
    have hq' := hmove.quit_mono hq
    cases hmn : m.holders n with
    | none => exact worldRun_new_holder_steps (hmove.inv hi) hq' hr hmn hH'
    | some Hm =>
      rcases hmove.holder_loop hi hmn with ⟨-, t, ht⟩ | ⟨H₀, hH₀, -⟩
      · obtain ⟨H'', hH'', hsteps⟩ := worldRun_holder_steps (hmove.inv hi) hr hmn
        cases hH''.symm.trans hH'
        rw [ht, hq'] at hsteps
        exact ⟨t, hsteps⟩
      · simp [hn] at hH₀

/-! ## §2 What every holder guarantees -/

/-- **A replaced holder calls `Run` at most once more.** Whatever the service does after a
reachable state, a holder that is no longer its key's entry calls `Run` at most once
more, and never with a live context. -/
theorem superseded_holder_runs_at_most_once {R : Sup → SupAct → Prop} {w w' : World}
    {acts : List WorldAct} {n : Nat} {H : Holder} (hw : WorldReach R w)
    (hH : w.holders n = some H) (hsup : w.imports H.key ≠ some n)
    (hrun : worldRun w acts = some w') :
    ∃ H', w'.holders n = some H' ∧ H'.sup.runs ≤ H.sup.runs + 1 ∧
      H'.sup.liveRuns = H.sup.liveRuns := by
  have hc := (hw.inv.superseded n H hH hsup).1
  obtain ⟨H', hH', hsteps⟩ := worldRun_holder_steps hw.inv hrun hH
  obtain ⟨-, hr, hl⟩ := hsteps.of_stop (by simp [hc])
  have := runBudget_le_one H.sup.pc
  exact ⟨H', hH', by simp only at hr; omega, (hl hc).2⟩

/-- Two BIRD setups of one key, then the first holder is left alone: it is superseded, and
it calls `Run` at most once more. -/
theorem first_holder_after_replacement :
    ∃ w, worldRun World.init (succeedingSetup 0 1 "a" ⟨[], some ⟨["bird.sock"]⟩⟩ ++
        succeedingSetup 1 1 "a" ⟨[], some ⟨["bird.sock"]⟩⟩) = some w ∧
      ∃ H, w.holders 0 = some H ∧ w.imports H.key ≠ some 0 ∧
      ∃ w', worldRun w [.supervise 0 .loopHead] = some w' ∧
        ∃ H', w'.holders 0 = some H' ∧ H'.sup.runs ≤ H.sup.runs + 1 ∧
          H'.sup.liveRuns = H.sup.liveRuns :=
  ⟨_, rfl, _, rfl, by decide, _, rfl, @superseded_holder_runs_at_most_once _ _ _
    [.supervise 0 .loopHead] _ _ (@worldRun_reach _ _ (succeedingSetup 0 1 "a" ⟨[], some ⟨["bird.sock"]⟩⟩ ++
      succeedingSetup 1 1 "a" ⟨[], some ⟨["bird.sock"]⟩⟩) .init rfl) rfl (by decide) rfl⟩

/-- **A replaced holder sends nothing more.** Whatever the service does after a reachable
state, a holder that is no longer its key's entry sends no `Update` on any stream: every
batch its reader hands to `onUpdate` from then on stops at the first `select`, which sees
`ctx.Done()`. -/
theorem superseded_holder_sends_nothing {R : Sup → SupAct → Prop} {w w' : World}
    {acts : List WorldAct} {n : Nat} {H : Holder} (hw : WorldReach R w)
    (hH : w.holders n = some H) (hsup : w.imports H.key ≠ some n)
    (hrun : worldRun w acts = some w') :
    ∃ H', w'.holders n = some H' ∧ H'.sup.sent = H.sup.sent := by
  obtain ⟨H', hH', hsteps⟩ := worldRun_holder_steps hw.inv hrun hH
  exact ⟨H', hH', (hsteps.sent_of_ctxDone (hw.inv.superseded n H hH hsup).1).2⟩

/-- The first holder of `("a", 1)` is inside `Run` when a second BIRD setup replaces it;
its reader then hands `onUpdate` a batch, which sends nothing. -/
theorem replaced_holder_batch_sends_nothing :
    ∃ w, worldRun World.init (succeedingSetup 0 1 "a" ⟨[], some ⟨["bird.sock"]⟩⟩ ++
        [.supervise 0 .loopHead, .supervise 0 (.checkConn false), .supervise 0 .checkStream] ++
        succeedingSetup 1 1 "a" ⟨[], some ⟨["bird.sock"]⟩⟩) = some w ∧
      ∃ H, w.holders 0 = some H ∧ w.imports H.key ≠ some 0 ∧
      ∃ w', worldRun w [.supervise 0 (.update [⟨"10.0.0.0/8", false⟩] fun _ => .cancelled none)] =
          some w' ∧
        ∃ H', w'.holders 0 = some H' ∧ H'.sup.sent = H.sup.sent :=
  ⟨_, rfl, _, rfl, by decide, _, rfl, @superseded_holder_sends_nothing _ _ _
    [.supervise 0 (.update [⟨"10.0.0.0/8", false⟩] fun _ => .cancelled none)] _ _
    (@worldRun_reach _ _ (succeedingSetup 0 1 "a" ⟨[], some ⟨["bird.sock"]⟩⟩ ++
      [WorldAct.supervise 0 .loopHead, .supervise 0 (.checkConn false), .supervise 0 .checkStream] ++
      succeedingSetup 1 1 "a" ⟨[], some ⟨["bird.sock"]⟩⟩) .init rfl) rfl (by decide) rfl⟩

/-- **After `quitCh` is closed, no new import runs.** From a reachable state where
`quitCh` is closed, every holder a later `SetupConfig` files never calls `Run` and never
sends an update: its loop's first `select` takes `m.quitCh`. -/
theorem import_after_quit_never_runs {R : Sup → SupAct → Prop} {w w' : World}
    {acts : List WorldAct} {n : Nat} {H' : Holder} (hw : WorldReach R w) (hq : w.quit = true)
    (hrun : worldRun w acts = some w') (hnew : w.holders n = none)
    (hH' : w'.holders n = some H') :
    H'.sup.runs = 0 ∧ ∀ m, H'.sup.sent m = [] := by
  obtain ⟨t, hsteps⟩ := worldRun_new_holder_steps hw.inv hq hrun hnew hH'
  obtain ⟨hr, hs⟩ := hsteps.quit_idle rfl (.inl rfl)
  exact ⟨hr, fun m => congrFun hs m⟩

/-- `quitCh` is closed, then a BIRD setup of `("a", 1)` returns and its holder's loop
takes its first `select`. -/
theorem bird_setup_after_quit_never_runs :
    ∃ w, worldRun World.init [.closeQuit] = some w ∧ w.quit = true ∧ w.holders 0 = none ∧
      ∃ w', worldRun w (succeedingSetup 0 1 "a" ⟨[], some ⟨["bird.sock"]⟩⟩ ++
          [.supervise 0 .loopHead]) = some w' ∧
        ∃ H', w'.holders 0 = some H' ∧ H'.sup.runs = 0 ∧ ∀ m, H'.sup.sent m = [] :=
  ⟨_, rfl, rfl, rfl, _, rfl, _, rfl, @import_after_quit_never_runs _ _ _
    (succeedingSetup 0 1 "a" ⟨[], some ⟨["bird.sock"]⟩⟩ ++ [WorldAct.supervise 0 .loopHead]) 0 _
    (@worldRun_reach _ _ [.closeQuit] .init rfl) rfl rfl rfl rfl⟩

/-- **No stream is abandoned or closed twice, service-wide.** In every state reachable
with readers that return their callbacks' errors, every stream a holder's supervisor has
moved off was closed exactly once, and no stream of any holder was closed twice. -/
theorem holder_streams_closed_once {w : World} (hw : WorldReach readerContract w) {n : Nat}
    {H : Holder} (hH : w.holders n = some H) :
    (∀ m < H.sup.streams, m ≠ H.sup.currentStream → H.sup.closes m = 1) ∧
      ∀ m, H.sup.closes m ≤ 1 :=
  have hi := (hw.holder_loop hH).closeInv
  ⟨hi.replaced, hi.closes_le_one⟩

/-- The holder of a BIRD setup of `("a", 1)` whose first `Run` failed with a transport
error: its supervisor closed stream 0, backed off, and reconnected on stream 1. -/
theorem holder_streams_after_reconnect :
    ∃ w, WorldReach readerContract w ∧ ∃ H, w.holders 0 = some H ∧ H.sup.currentStream = 1 ∧
      (∀ m < H.sup.streams, m ≠ H.sup.currentStream → H.sup.closes m = 1) ∧
        ∀ m, H.sup.closes m ≤ 1 := by
  have h₀ : WorldReach readerContract _ := worldRun_reach_of
    (succeedingSetup_allowed _ 0 1 "a" ⟨[], some ⟨["bird.sock"]⟩⟩) .init rfl
  have hw := ((((((((h₀.step (.supervise 0 .loopHead) (fun _ _ => trivial) rfl).step
    (.supervise 0 (.checkConn false)) (fun _ _ => trivial) rfl).step
    (.supervise 0 .checkStream) (fun _ _ => trivial) rfl).step
    (.supervise 0 (.runReturn (some ⟨"transport is closing", false, false, false⟩)))
    (fun _ hH _ hpc => by obtain rfl := Option.some.inj hH; cases hpc; rfl) rfl).step
    (.supervise 0 .backoffFire) (fun _ _ => trivial) rfl).step
    (.supervise 0 .loopHead) (fun _ _ => trivial) rfl).step
    (.supervise 0 (.checkConn false)) (fun _ _ => trivial) rfl).step
    (.supervise 0 .checkStream) (fun _ _ => trivial) rfl).step
    (.supervise 0 (.tick none)) (fun _ _ => trivial) rfl
  exact ⟨_, hw, _, rfl, rfl, holder_streams_closed_once (n := 0) hw rfl⟩

end RouteCoordinator
