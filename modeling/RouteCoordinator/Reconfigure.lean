import RouteCoordinator.Registry

/-!
# Reconfiguration

A `SetupConfig` call whose external calls all succeed (`succeedingSetup`), run from any
state of the service.

- `worldRun_inserts`: the loop over `config.Routes` issues one `InsertRoute` per route, in
  order.
- `static_setup_run`: with a `BirdImport` that lists no sockets the call returns success
  after the static prelude, closes the connection it made, and leaves the registry and
  every holder as it found them.
- `static_reconfiguration_keeps_import`: so a static-only reconfiguration of a key that
  has a BIRD import leaves that import registered and running. `setupConfig` returns
  before `processBirdImport`, the only code that cancels a predecessor.
-/

namespace RouteCoordinator

/-! ## §1 The static prelude -/

/-- The loop over `config.Routes`: with every `InsertRoute` answered, the call issues one
request per remaining route, in order, and reaches `FlushRoutes`. -/
theorem worldRun_inserts {c : Nat} {cfg : Config} : ∀ (rest : List StaticRoute) (w : World)
    (call : Call), w.calls c = some call → call.pc = .insert cfg rest →
    worldRun w (rest.map fun _ => .setup c (.inserted none)) =
      some { w with
        rpcs := w.rpcs ++ rest.map (fun r => .insertRoute (insertRequest call.target r))
        calls := Function.update w.calls c (some { call with pc := .insert cfg [] }) }
  | [], w, ⟨_, _, _⟩, hc, hpc => by
    subst hpc
    simp [worldRun, ← hc]
  | r :: rest, w, call, hc, hpc => by
    have hs : worldStep w (.setup c (.inserted none)) =
        some ((w.issue (.insertRoute (insertRequest call.target r))).setCall c
          { call with pc := .insert cfg rest }) := by
      simp only [worldStep, hc, Option.some_bind]
      unfold World.setupConfigStep
      rw [hpc]
    simp only [List.map_cons, worldRun, hs, Option.some_bind]
    rw [worldRun_inserts rest _ { call with pc := .insert cfg rest } (by simp) rfl]
    simp [World.setCall, World.issue, Function.update_idem]

/-- **A static-only setup.** From any state, a call on a configuration whose `BirdImport`
lists no sockets, and whose external calls all succeed, returns success after one
`InsertRoute` per static route and a `FlushRoutes`, closes the connection it made, and
leaves the registry, the holders and every other connection as they were. -/
theorem static_setup_run (w : World) (inst : UInt32) (name : String) (cfg : Config)
    {bird : BirdConfig} (hb : cfg.birdImport = some bird) (hs : bird.sockets = []) :
    ∃ w', worldRun w (succeedingSetup w.nextCall inst name cfg) = some w' ∧
      w'.calls w.nextCall = some ⟨⟨name, inst⟩, w.nextConn, .done (.ok ())⟩ ∧
      w'.rpcs = w.rpcs ++ cfg.routes.map (fun r => .insertRoute (insertRequest ⟨name, inst⟩ r)) ++
        [.flushRoutes ⟨name, inst⟩] ∧
      w'.imports = w.imports ∧ w'.holders = w.holders ∧ w'.nextHolder = w.nextHolder ∧
      w'.conns w.nextConn = true ∧ ∀ n, n ≠ w.nextConn → w'.conns n = w.conns n := by
  simp only [succeedingSetup, hb, hs, List.isEmpty_nil, if_true, List.append_nil, List.cons_append,
    List.nil_append]
  rw [worldRun_setupBegin_cons,
    @worldRun_setup_cons _ _ _ ⟨⟨name, inst⟩, 0, .parse⟩ _ _ (by simp) (.parsed rfl),
    @worldRun_setup_cons _ _ _ ⟨⟨name, inst⟩, 0, .dial cfg⟩ _ _ (by simp) (.dialed rfl),
    worldRun_append,
    worldRun_inserts cfg.routes _ ⟨⟨name, inst⟩, w.nextConn, .insert cfg cfg.routes⟩ (by simp) rfl,
    Option.some_bind,
    @worldRun_setup_cons _ _ _ ⟨⟨name, inst⟩, w.nextConn, .insert cfg []⟩ _ _ (by simp)
      (.flushedStatic rfl hb hs)]
  simp only [worldRun, World.setCall, World.closeConn, World.issue, World.openConn,
    Function.update_idem, Function.update_same, List.append_assoc, Option.some.injEq,
    exists_eq_left', Function.update_apply, true_and]
  exact fun n hn => if_neg hn

/-! ## §2 Reconfiguring an imported key -/

/-- **A static-only reconfiguration leaves the import running.** In every reachable state
where key `k` has an import, a `SetupConfig` for `k` on a configuration whose
`BirdImport` lists no sockets returns success and leaves that import registered, its
holder (context and supervisor) as it was, and its connection as it was. -/
theorem static_reconfiguration_keeps_import {R : Sup → SupAct → Prop} {w : World}
    {k : InstanceKey} {h : Nat} {H : Holder} {cfg : Config} {bird : BirdConfig}
    (hw : WorldReach R w) (hk : w.imports k = some h) (hH : w.holders h = some H)
    (hb : cfg.birdImport = some bird) (hs : bird.sockets = []) :
    ∃ w', worldRun w (succeedingSetup w.nextCall k.dataplaneInstance k.name cfg) = some w' ∧
      (w'.calls w.nextCall).map Call.pc = some (.done (.ok ())) ∧
      w'.imports k = some h ∧ w'.holders h = some H ∧ w'.conns H.conn = w.conns H.conn := by
  obtain ⟨w', hrun, hc, -, himp, hhold, -, -, hconn⟩ :=
    static_setup_run w k.dataplaneInstance k.name cfg hb hs
  exact ⟨w', hrun, by simp [hc], himp ▸ hk, hhold ▸ hH,
    hconn _ (Nat.ne_of_lt (hw.inv.holder_conn h H hH))⟩

/-- A BIRD import of `("a", 1)`, then a static-only reconfiguration of the same key: the
import's context is still live after the reconfiguration returned. -/
theorem static_reconfiguration_after_bird_import :
    ∃ w, worldRun World.init (succeedingSetup 0 1 "a" ⟨[], some ⟨["bird.sock"]⟩⟩) = some w ∧
      ∃ H, w.holders 0 = some H ∧ H.sup.ctxDone = false ∧
      ∃ w', worldRun w (succeedingSetup w.nextCall 1 "a" ⟨[⟨"10.0.0.0/8", "192.0.2.1"⟩], some ⟨[]⟩⟩) =
          some w' ∧
        (w'.calls w.nextCall).map Call.pc = some (.done (.ok ())) ∧
        w'.imports ⟨"a", 1⟩ = some 0 ∧ w'.holders 0 = some H ∧ w'.conns H.conn = w.conns H.conn :=
  ⟨_, rfl, _, rfl, rfl, static_reconfiguration_keeps_import (k := ⟨"a", 1⟩)
    (@worldRun_reach _ _ (succeedingSetup 0 1 "a" ⟨[], some ⟨["bird.sock"]⟩⟩) .init rfl) rfl rfl rfl
    rfl⟩


/-! ## §3 Reconfiguring with a BIRD import -/

/-- A call on a configuration whose `BirdImport` lists sockets, and whose external calls
all succeed, returns success after the static prelude, the first `FeedRIB` and the
critical section, which files a fresh supervisor for the call's target, on the connection it dialled, under the
call's key as the next holder. -/
theorem bird_setup_steps (w : World) (inst : UInt32) (name : String) (cfg : Config)
    {bird : BirdConfig} (hb : cfg.birdImport = some bird) (hs : bird.sockets ≠ []) :
    ∃ w', worldRun w (succeedingSetup w.nextCall inst name cfg) = some w' ∧
      w'.calls w.nextCall = some ⟨⟨name, inst⟩, w.nextConn, .done (.ok ())⟩ ∧
      w'.imports ⟨name, inst⟩ = some w.nextHolder ∧
      w'.holders w.nextHolder = some ⟨⟨name, inst⟩, w.nextConn, Sup.init ⟨name, inst⟩⟩ := by
  have he : bird.sockets.isEmpty = false := by
    cases h : bird.sockets with
    | nil => exact absurd h hs
    | cons _ _ => rfl
  simp only [succeedingSetup, hb, he, Bool.false_eq_true, if_false, List.cons_append,
    List.nil_append, List.append_assoc, List.singleton_append]
  rw [worldRun_setupBegin_cons,
    @worldRun_setup_cons _ _ _ ⟨⟨name, inst⟩, 0, .parse⟩ _ _ (by simp) (.parsed rfl),
    @worldRun_setup_cons _ _ _ ⟨⟨name, inst⟩, 0, .dial cfg⟩ _ _ (by simp) (.dialed rfl),
    worldRun_append,
    worldRun_inserts cfg.routes _ ⟨⟨name, inst⟩, w.nextConn, .insert cfg cfg.routes⟩ (by simp) rfl,
    Option.some_bind,
    @worldRun_setup_cons _ _ _ ⟨⟨name, inst⟩, w.nextConn, .insert cfg []⟩ _ _ (by simp)
      (.flushedBird rfl hb hs),
    @worldRun_setup_cons _ _ _ ⟨⟨name, inst⟩, w.nextConn, .feed⟩ _ _ (by simp) (.fed rfl),
    @worldRun_setup_cons _ _ _ ⟨⟨name, inst⟩, w.nextConn, .install⟩ _ _ (by simp) (.installed rfl)]
  simp [worldRun, World.processBirdImport, TargetModule.key, Function.update_apply]

/-- **A BIRD setup replaces the key's import.** From any reachable state, a call on a
configuration whose `BirdImport` lists sockets, and whose external calls all succeed,
returns success and files its own holder under its key, with a fresh supervisor for its
target on the connection it dialled, and every other holder of the key is then cancelled
with its connection closed. -/
theorem bird_setup_replaces {R : Sup → SupAct → Prop} {w : World} (hw : WorldReach R w)
    (inst : UInt32) (name : String) (cfg : Config) {bird : BirdConfig}
    (hb : cfg.birdImport = some bird) (hs : bird.sockets ≠ []) :
    ∃ w', worldRun w (succeedingSetup w.nextCall inst name cfg) = some w' ∧
      w'.calls w.nextCall = some ⟨⟨name, inst⟩, w.nextConn, .done (.ok ())⟩ ∧
      w'.imports ⟨name, inst⟩ = some w.nextHolder ∧
      w'.holders w.nextHolder = some ⟨⟨name, inst⟩, w.nextConn, Sup.init ⟨name, inst⟩⟩ ∧
      ∀ h H, w'.holders h = some H → H.key = ⟨name, inst⟩ → h ≠ w.nextHolder →
        H.sup.ctxDone = true ∧ w'.conns H.conn = true := by
  obtain ⟨w', hrun, hc, himp, hH⟩ := bird_setup_steps w inst name cfg hb hs
  have hw' : WorldReach R w' :=
    worldRun_reach_of (succeedingSetup_allowed R _ _ _ _) hw hrun
  refine ⟨w', hrun, hc, himp, hH, fun h H hH' hkey hne => hw'.inv.superseded h H hH' ?_⟩
  rw [hkey, himp]
  exact fun he => hne (Option.some.inj he).symm

/-- A second BIRD setup of `("a", 1)`: the first holder is cancelled and its connection
closed. -/
theorem second_bird_setup_replaces_first :
    ∃ w, worldRun World.init (succeedingSetup 0 1 "a" ⟨[], some ⟨["bird.sock"]⟩⟩) = some w ∧
      ∃ w', worldRun w (succeedingSetup w.nextCall 1 "a" ⟨[], some ⟨["bird.sock"]⟩⟩) = some w' ∧
        w'.calls w.nextCall = some ⟨⟨"a", 1⟩, w.nextConn, .done (.ok ())⟩ ∧
        w'.imports ⟨"a", 1⟩ = some w.nextHolder ∧
        w'.holders w.nextHolder = some ⟨⟨"a", 1⟩, w.nextConn, Sup.init ⟨"a", 1⟩⟩ ∧
        ∀ h H, w'.holders h = some H → H.key = ⟨"a", 1⟩ → h ≠ w.nextHolder →
          H.sup.ctxDone = true ∧ w'.conns H.conn = true :=
  ⟨_, rfl, bird_setup_replaces
    (@worldRun_reach _ _ (succeedingSetup 0 1 "a" ⟨[], some ⟨["bird.sock"]⟩⟩) .init rfl) 1 "a"
    ⟨[], some ⟨["bird.sock"]⟩⟩ rfl (by simp)⟩

end RouteCoordinator
