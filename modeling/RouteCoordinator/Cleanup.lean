import RouteCoordinator.Failures

/-!
# Holder Cleanup

Two places close a holder's connection: the deferred cleanup of `runBirdImportLoop`
(`holder.cancel()`, then `holder.conn.Close()`) and the replacement in
`processBirdImport` (`oldHolder.cancel()`, then `oldHolder.conn.Close()`). Both cancel
the context as they close, and no connection is shared between holders, so:

- `holder_cleanup`: in every reachable state no two holders share a connection, every
  holder whose supervisor has returned was cancelled and its connection closed, and every
  holder whose context is live has its connection open.
- `setup_step_isolated`: so a step of a setup for one key leaves every other key's entry,
  its holders and their connections as they were.
-/

namespace RouteCoordinator

/-! ## §1 The invariant -/

/-- The holders' connections against their contexts. -/
structure World.Cleanup (w : World) : Prop where
  /-- No two holders share a connection. -/
  conn_unique : ∀ h₁ h₂ H₁ H₂, w.holders h₁ = some H₁ → w.holders h₂ = some H₂ →
    H₁.conn = H₂.conn → h₁ = h₂
  /-- A holder whose supervisor has returned was cancelled and its connection closed. -/
  exited : ∀ h H, w.holders h = some H → H.sup.pc = .exited →
    H.sup.ctxDone = true ∧ w.conns H.conn = true
  /-- A holder whose context is live has its connection open. -/
  live : ∀ h H, w.holders h = some H → H.sup.ctxDone = false → w.conns H.conn = false

theorem World.Cleanup.init : World.init.Cleanup where
  conn_unique _ _ _ _ h := nomatch h
  exited _ _ h := nomatch h
  live _ _ h := nomatch h

/-- A step that keeps the holders and their connections keeps the invariant. -/
theorem World.Cleanup.of_frame {w w' : World} (hc : w.Cleanup) (hh : w'.holders = w.holders)
    (hconn : ∀ h H, w.holders h = some H → w'.conns H.conn = w.conns H.conn) : w'.Cleanup where
  conn_unique h₁ h₂ H₁ H₂ hH₁ hH₂ := hc.conn_unique h₁ h₂ H₁ H₂ (hh ▸ hH₁) (hh ▸ hH₂)
  exited h H hH he := by
    rw [hh] at hH
    rw [hconn h H hH]
    exact hc.exited h H hH he
  live h H hH hl := by
    rw [hh] at hH
    rw [hconn h H hH]
    exact hc.live h H hH hl

/-! ## §2 Preservation -/

/-- A step that changes at most holder `h₀`, to `H₀'` with `H₀`'s connection, keeps every
holder's connection. -/
theorem World.conn_of_back {w w' : World} {h₀ : Nat} {H₀ H₀' : Holder}
    (hback : ∀ h H', w'.holders h = some H' → (h = h₀ ∧ H' = H₀') ∨ (h ≠ h₀ ∧ w.holders h = some H'))
    (hH₀ : w.holders h₀ = some H₀) (hconn : H₀'.conn = H₀.conn) (h : Nat) (H' : Holder)
    (hH' : w'.holders h = some H') : ∃ H, w.holders h = some H ∧ H'.conn = H.conn := by
  rcases hback h H' hH' with ⟨rfl, rfl⟩ | ⟨-, hH⟩
  · exact ⟨H₀, hH₀, hconn⟩
  · exact ⟨H', hH, rfl⟩

/-- Holder `old` is cancelled and its connection closed. -/
theorem World.Cleanup.supersede {w : World} (hc : w.Cleanup) {old : Nat} {H₀ : Holder}
    (hH₀ : w.holders old = some H₀) :
    ((w.setHolder old { H₀ with sup := { H₀.sup with ctxDone := true } }).closeConn
      H₀.conn).Cleanup := by
  have hback : ∀ h H', ((w.setHolder old { H₀ with sup := { H₀.sup with ctxDone := true } }).closeConn
      H₀.conn).holders h = some H' → (h = old ∧ H' = { H₀ with sup := { H₀.sup with ctxDone := true } }) ∨
        (h ≠ old ∧ w.holders h = some H') := by
    intro h H' hH'
    by_cases hh : h = old
    · subst hh; simp at hH'; exact .inl ⟨rfl, hH'.symm⟩
    · exact .inr ⟨hh, by simpa [Function.update_noteq hh] using hH'⟩
  have hother : ∀ h H, h ≠ old → w.holders h = some H → H.conn ≠ H₀.conn := fun h H hne hH he =>
    hne (hc.conn_unique h old H H₀ hH hH₀ he)
  refine ⟨fun h₁ h₂ H₁ H₂ hH₁ hH₂ he => ?_, fun h H hH he => ?_, fun h H hH hl => ?_⟩
  · obtain ⟨G₁, hG₁, e₁⟩ := World.conn_of_back hback hH₀ rfl h₁ H₁ hH₁
    obtain ⟨G₂, hG₂, e₂⟩ := World.conn_of_back hback hH₀ rfl h₂ H₂ hH₂
    exact hc.conn_unique _ _ _ _ hG₁ hG₂ (e₁.symm.trans (he.trans e₂))
  · rcases hback h H hH with ⟨-, rfl⟩ | ⟨-, hH⟩
    · simp
    · simp [Function.update_apply, hc.exited h H hH he]
  · rcases hback h H hH with ⟨-, rfl⟩ | ⟨hne, hH⟩
    · simp at hl
    · simpa [Function.update_noteq (hother h H hne hH)] using hc.live h H hH hl

/-- The first half of the critical section keeps the invariant. -/
theorem World.Cleanup.replace {w : World} (hc : w.Cleanup) (k : InstanceKey) :
    (w.replace k).Cleanup := by
  unfold World.replace World.supersede
  split
  · split
    · exact hc.supersede ‹_›
    · exact hc
  · exact hc

/-- The second half: the new holder's connection is the call's own, open and held by no
holder, and its supervisor has not started. -/
theorem World.Cleanup.file_setCall {w : World} {c : Nat} {call : Call} {k : InstanceKey}
    (hc : w.Cleanup) (hi : w.Inv) (hcall : w.calls c = some call) (hpc : call.pc = .install) :
    ((w.file k ⟨k, call.conn, Sup.init call.target⟩).setCall c
      { call with pc := .done (.ok ()) }).Cleanup := by
  have hown : w.Owns c call.conn := ⟨call, hcall, by simp [hpc, CallPc.ownsConn], rfl⟩
  have hnew : ∀ h H, (Function.update w.holders w.nextHolder
      (some ⟨k, call.conn, Sup.init call.target⟩)) h = some H →
      (h = w.nextHolder ∧ H = ⟨k, call.conn, Sup.init call.target⟩) ∨
        (h ≠ w.nextHolder ∧ w.holders h = some H) := by
    intro h H hH
    by_cases hh : h = w.nextHolder
    · subst hh; simp at hH; exact .inl ⟨rfl, hH.symm⟩
    · exact .inr ⟨hh, by simpa [Function.update_noteq hh] using hH⟩
  refine ⟨fun h₁ h₂ H₁ H₂ hH₁ hH₂ he => ?_, fun h H hH he => ?_, fun h H hH hl => ?_⟩
  · rcases hnew h₁ H₁ hH₁ with ⟨rfl, rfl⟩ | ⟨-, hH₁⟩ <;>
      rcases hnew h₂ H₂ hH₂ with ⟨rfl, rfl⟩ | ⟨-, hH₂⟩
    · rfl
    · exact absurd he.symm (hi.owns_holder c _ _ _ hown hH₂)
    · exact absurd he (hi.owns_holder c _ _ _ hown hH₁)
    · exact hc.conn_unique _ _ _ _ hH₁ hH₂ he
  · rcases hnew h H hH with ⟨-, rfl⟩ | ⟨-, hH⟩
    · simp [Sup.init] at he
    · exact hc.exited h H hH he
  · rcases hnew h H hH with ⟨-, rfl⟩ | ⟨-, hH⟩
    · exact hi.owns_open c _ hown
    · exact hc.live h H hH hl

/-- One step of a holder's supervisor keeps the invariant: if it returned, its cleanup
cancelled the context and closed the connection. -/
theorem World.Cleanup.supervise {w : World} {h : Nat} {H : Holder} {a : SupAct} {s : Sup}
    (hc : w.Cleanup) (hH : w.holders h = some H) (hm : SupMove w.quit H.sup a s) :
    (w.afterSupervise h H s).Cleanup := by
  have hback : ∀ h' H', (w.afterSupervise h H s).holders h' = some H' →
      (h' = h ∧ H' = { H with sup := s }) ∨ (h' ≠ h ∧ w.holders h' = some H') := by
    intro h' H' hH'
    by_cases hh : h' = h
    · subst hh; simp at hH'; exact .inl ⟨rfl, hH'.symm⟩
    · exact .inr ⟨hh, by simpa [Function.update_noteq hh] using hH'⟩
  refine ⟨fun h₁ h₂ H₁ H₂ hH₁ hH₂ he => ?_, fun h' H' hH' he => ?_, fun h' H' hH' hl => ?_⟩
  · obtain ⟨G₁, hG₁, e₁⟩ := World.conn_of_back hback hH rfl h₁ H₁ hH₁
    obtain ⟨G₂, hG₂, e₂⟩ := World.conn_of_back hback hH rfl h₂ H₂ hH₂
    exact hc.conn_unique _ _ _ _ hG₁ hG₂ (e₁.symm.trans (he.trans e₂))
  · rcases hback h' H' hH' with ⟨-, rfl⟩ | ⟨-, hH'⟩
    · exact ⟨hm.ctxDone_of_exited he,
        by simp [World.afterSupervise_conns, show s.pc = .exited from he]⟩
    · have := hc.exited h' H' hH' he
      exact ⟨this.1, by simp [World.afterSupervise_conns, this.2]⟩
  · rcases hback h' H' hH' with ⟨-, rfl⟩ | ⟨hne, hH'⟩
    · have hl₀ : H.sup.ctxDone = false := by
        cases h₀ : H.sup.ctxDone
        · rfl
        · simp [hm.ctxDone_mono h₀] at hl
      have hpc : s.pc ≠ .exited := fun he => by simp [hm.ctxDone_of_exited he] at hl
      simp [World.afterSupervise_conns, hpc, hc.live h H hH hl₀]
    · have hconn : H'.conn ≠ H.conn := fun he => hne (hc.conn_unique _ _ _ _ hH' hH he)
      simp [World.afterSupervise_conns, hconn, hc.live h' H' hH' hl]

/-- One step of the service keeps the invariant. -/
theorem WorldMove.cleanup {w w' : World} {a : WorldAct} (hi : w.Inv) (hc : w.Cleanup)
    (h : WorldMove w a w') : w'.Cleanup := by
  cases h with
  | setupBegin => exact hc.of_frame rfl fun _ _ _ => rfl
  | @setup c call _ _ hcall hm =>
    by_cases hpc : call.pc = .install
    · obtain rfl := hm.eq_install hpc
      exact (hc.replace _).file_setCall (hi.replace _).1 (by simpa using hcall) hpc
    · have hf := hm.frame hi hcall hpc
      exact hc.of_frame hf.holders hf.holder_conns
  | supervise hH hm => exact hc.supervise hH hm
  | closeQuit => exact hc.of_frame rfl fun _ _ _ => rfl

/-- **Holder cleanup.** In every reachable state, whatever the readers do, no two holders
share a connection, every holder whose supervisor has returned was cancelled and its
connection closed, and every holder whose context is live has its connection open. -/
theorem holder_cleanup {R : Sup → SupAct → Prop} {w : World} (hw : WorldReach R w) :
    w.Cleanup :=
  hw.invariant .init WorldMove.cleanup

/-- Two BIRD setups of one key, then the first holder's supervisor sees its cancelled
context at the loop head and returns. -/
theorem cleanup_after_replaced_exit :
    ∃ w, worldRun World.init (succeedingSetup 0 1 "a" ⟨[], some ⟨["bird.sock"]⟩⟩ ++
        succeedingSetup 1 1 "a" ⟨[], some ⟨["bird.sock"]⟩⟩ ++ [WorldAct.supervise 0 .loopHead]) = some w ∧
      w.Cleanup :=
  ⟨_, rfl, holder_cleanup (@worldRun_reach _ _ (succeedingSetup 0 1 "a" ⟨[], some ⟨["bird.sock"]⟩⟩ ++
    succeedingSetup 1 1 "a" ⟨[], some ⟨["bird.sock"]⟩⟩ ++ [WorldAct.supervise 0 .loopHead]) .init rfl)⟩

/-! ## §3 Keys are isolated -/

/-- Replacing key `k` leaves every holder filed under another key as it was, and its
connection: the entry it cancels is filed under `k`, and no other holder shares that
entry's connection. -/
theorem World.replace_other_key {w : World} (hi : w.Inv) (hc : w.Cleanup) {k : InstanceKey}
    {h : Nat} {H : Holder} (hH : w.holders h = some H) (hk : H.key ≠ k) :
    (w.replace k).holders h = some H ∧ (w.replace k).conns H.conn = w.conns H.conn := by
  unfold World.replace World.supersede
  split
  · rename_i old hold
    obtain ⟨H₀, hH₀, hk₀⟩ := hi.entry k old hold
    have hne : h ≠ old := by
      rintro rfl
      cases hH.symm.trans hH₀
      exact hk hk₀
    have hconn : H.conn ≠ H₀.conn := fun he => hne (hc.conn_unique _ _ _ _ hH hH₀ he)
    simp [hH₀, Function.update_noteq hne, Function.update_noteq hconn, hH]
  · exact ⟨hH, rfl⟩

/-- **A setup touches only its own key.** In every reachable state, a step of a
`SetupConfig` call for `(configName, instance)` leaves alone everything filed under any
other key: its registry entry, each of its holders (context and supervisor) and each such
holder's connection. -/
theorem setup_step_isolated {R : Sup → SupAct → Prop} {w w' : World} {c : Nat} {call : Call}
    {ans : Answer} (hw : WorldReach R w) (hc : w.calls c = some call)
    (hs : worldStep w (.setup c ans) = some w') (k : InstanceKey) (hk : k ≠ call.target.key) :
    w'.imports k = w.imports k ∧ ∀ h H, w.holders h = some H → H.key = k →
      w'.holders h = some H ∧ w'.conns H.conn = w.conns H.conn := by
  have hi := hw.inv
  obtain ⟨call₀, hc₀, hst⟩ := Option.bind_eq_some.mp hs
  cases hc.symm.trans hc₀
  have hm := setupConfigStep_move hst
  by_cases hpc : call.pc = .install
  · obtain rfl := hm.eq_install hpc
    refine ⟨by simp [World.processBirdImport, Function.update_noteq hk], fun h H hH hkey => ?_⟩
    obtain ⟨hH', hconn⟩ :=
      World.replace_other_key hi (hw.invariant .init WorldMove.cleanup) hH (hkey ▸ hk)
    simp only [World.processBirdImport, World.setCall_holders, World.setCall_conns, World.file_holders,
      World.file_conns, hconn, and_true]
    rw [World.replace_nextHolder, Function.update_noteq (Nat.ne_of_lt (hi.holder_lt h H hH)), hH']
  · have hf := hm.frame hi hc hpc
    exact ⟨by rw [hf.imports], fun h H hH _ => ⟨hf.holders ▸ hH, hf.holder_conns h H hH⟩⟩

/-- BIRD imports of `("a", 1)` and `("b", 2)`, then a second setup of `("a", 1)` enters
its critical section: everything filed under `("b", 2)` stays as it was. -/
theorem second_setup_leaves_other_key :
    ∃ w, worldRun World.init (succeedingSetup 0 1 "a" ⟨[], some ⟨["bird.sock"]⟩⟩ ++
        succeedingSetup 1 2 "b" ⟨[], some ⟨["bird.sock"]⟩⟩ ++
        [.setupBegin 1 "a", .setup 2 (.parsed (.ok ⟨[], some ⟨["bird.sock"]⟩⟩)), .setup 2 (.dialed none),
          .setup 2 (.flushed none), .setup 2 (.fed none)]) = some w ∧
      ∃ call, w.calls 2 = some call ∧ ∃ w', worldStep w (.setup 2 .locked) = some w' ∧
        (⟨"b", 2⟩ : InstanceKey) ≠ call.target.key ∧
        w'.imports ⟨"b", 2⟩ = w.imports ⟨"b", 2⟩ ∧ ∀ h H, w.holders h = some H →
          H.key = ⟨"b", 2⟩ → w'.holders h = some H ∧ w'.conns H.conn = w.conns H.conn :=
  ⟨_, rfl, _, rfl, _, rfl, by decide, @setup_step_isolated _ _ _ 2 _ .locked
    (@worldRun_reach _ _ (succeedingSetup 0 1 "a" ⟨[], some ⟨["bird.sock"]⟩⟩ ++
      succeedingSetup 1 2 "b" ⟨[], some ⟨["bird.sock"]⟩⟩ ++
      [WorldAct.setupBegin 1 "a", .setup 2 (.parsed (.ok ⟨[], some ⟨["bird.sock"]⟩⟩)),
        .setup 2 (.dialed none), .setup 2 (.flushed none), .setup 2 (.fed none)]) .init rfl)
    rfl rfl _ (by decide)⟩

end RouteCoordinator
