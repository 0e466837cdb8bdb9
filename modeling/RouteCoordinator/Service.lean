import RouteCoordinator.Loop

/-!
# The Module Service

`ModuleService` as a whole: the `SetupConfig` calls in progress, the registry
`m.imports` under `m.importsMu`, every holder ever installed with its supervisor, the
gRPC connections the setups made, and `m.quitCh`. A step is one step of one call, one
step of one supervisor (`runBirdImportLoopStep`), or the closing of `quitCh`, in any interleaving.

A call runs `SetupConfig`, `setupConfig` and `processBirdImport` in order: parse the
configuration, dial the gateway, one `InsertRoute` per static route, `FlushRoutes`, and
then either close the connection (no BIRD sockets) or open the first `FeedRIB` stream and
enter the critical section. A configuration whose `BirdImport` is nil panics at
`len(config.BirdImport.Sockets)`, right after `FlushRoutes`: the call never returns. The critical section is one step: the mutex admits no other
registry access in between, and supervisors never touch the registry. The environment
answers every external call (`Answer`).

Holders are numbered in the order their calls entered the critical section. `holders`,
`calls` and `rpcs` are history that the code does not keep: a holder that has left the
registry lives on in its supervisor.

`WorldMove` lists the transitions once (`worldStep_move`).
-/

namespace RouteCoordinator

/-! ## §1 Setup calls -/

/-- Where a `SetupConfig` call stands. -/
inductive CallPc
  /-- `yaml.Unmarshal(req.GetConfig(), cfg)`. -/
  | parse
  /-- `grpc.NewClient(m.gatewayEndpoint, ...)`. -/
  | dial (cfg : Config)
  /-- The loop over `config.Routes` with `rest` still to insert, then `FlushRoutes`. -/
  | insert (cfg : Config) (rest : List StaticRoute)
  /-- `processBirdImport`: `context.WithCancel` and `client.FeedRIB(streamCtx)`. -/
  | feed
  /-- Waiting for `m.importsMu`. -/
  | install
  /-- Returned to the gRPC server. -/
  | done (res : Except Status Unit)
  /-- Panicked on the nil `config.BirdImport`; it never returns, and its connection stays
  open. -/
  | panicked

/-- Whether a call at this position holds the connection it dialled. -/
def CallPc.ownsConn : CallPc → Bool
  | .insert _ _ | .feed | .install | .panicked => true
  | _ => false

/-- One `SetupConfig` call: its target (`configName`, `instance`) and, from `dial` on,
its connection. -/
structure Call where
  target : TargetModule
  conn : Nat
  pc : CallPc

/-- What the environment answers to the operation a call is waiting on. -/
inductive Answer
  | parsed (res : Except ForeignError Config)
  | dialed (err : Option ForeignError)
  | inserted (err : Option ForeignError)
  | flushed (err : Option ForeignError)
  | fed (err : Option ForeignError)
  | locked

/-- `status.Errorf(codes.InvalidArgument, "failed to unmarshal configuration: %v", err)`. -/
def unmarshalFailed (err : GoError) : Except Status Unit :=
  .error ⟨.invalidArgument, "failed to unmarshal configuration: " ++ err.msg⟩

/-- `status.Errorf(codes.Internal, "failed to setup configuration: %v", err)`. -/
def setupFailed (err : GoError) : Except Status Unit :=
  .error ⟨.internal, "failed to setup configuration: " ++ err.msg⟩

/-- The `InsertRouteRequest` of one static route. -/
def insertRequest (target : TargetModule) (r : StaticRoute) : InsertRouteRequest :=
  { target := target, netPrefix := r.netPrefix, nexthopAddr := r.nexthop }

/-! ## §2 The service -/

/-- An `importHolder` as its supervisor sees it: the key it was filed under, its
connection, and its supervisor with context and stream slot. -/
structure Holder where
  key : InstanceKey
  conn : Nat
  sup : Sup

/-- The state of `ModuleService` and of the tasks it started. `conns n` is whether
connection `n` has been closed. -/
structure World where
  imports : InstanceKey → Option Nat
  holders : Nat → Option Holder
  nextHolder : Nat
  conns : Nat → Bool
  nextConn : Nat
  calls : Nat → Option Call
  nextCall : Nat
  rpcs : List Rpc
  quit : Bool

/-- `NewModuleService`: an empty registry, `quitCh` open. -/
def World.init : World where
  imports _ := none
  holders _ := none
  nextHolder := 0
  conns _ := false
  nextConn := 0
  calls _ := none
  nextCall := 0
  rpcs := []
  quit := false

/-- Call `c` moves to `call`. -/
@[simps]
def World.setCall (w : World) (c : Nat) (call : Call) : World :=
  { w with calls := Function.update w.calls c (some call) }

/-- A unary call on the Route service is issued. -/
@[simps]
def World.issue (w : World) (r : Rpc) : World := { w with rpcs := w.rpcs ++ [r] }

/-- `conn.Close()`. -/
@[simps]
def World.closeConn (w : World) (n : Nat) : World :=
  { w with conns := Function.update w.conns n true }

/-- `grpc.NewClient` succeeded: connection `nextConn` is made. -/
@[simps]
def World.openConn (w : World) : World :=
  { w with conns := Function.update w.conns w.nextConn false, nextConn := w.nextConn + 1 }

/-- Holder `h` is now `H`. -/
@[simps]
def World.setHolder (w : World) (h : Nat) (H : Holder) : World :=
  { w with holders := Function.update w.holders h (some H) }

/-- `oldHolder.cancel()` and `oldHolder.conn.Close()`. The code's nil checks never fail:
an installed holder always has both. -/
def World.supersede (w : World) (h : Nat) : World :=
  match w.holders h with
  | some H => (w.setHolder h { H with sup := { H.sup with ctxDone := true } }).closeConn H.conn
  | none => w

/-- `if oldHolder, ok := m.imports[key]; ok { ... }`. -/
def World.replace (w : World) (key : InstanceKey) : World :=
  match w.imports key with
  | some old => w.supersede old
  | none => w

/-- `m.imports[key] = holder` and `go m.runBirdImportLoop(...)`. -/
@[simps]
def World.file (w : World) (key : InstanceKey) (H : Holder) : World :=
  { w with holders := Function.update w.holders w.nextHolder (some H),
           imports := Function.update w.imports key (some w.nextHolder),
           nextHolder := w.nextHolder + 1 }

/-- The critical section of `processBirdImport` for a call that opened its stream. -/
def World.processBirdImport (w : World) (call : Call) : World :=
  (w.replace call.target.key).file call.target.key
    ⟨call.target.key, call.conn, Sup.init call.target⟩

/-- Holder `h`'s supervisor moved to `s`; when it returned, its deferred cleanup closed
the connection (the `holder.cancel()` of the cleanup is in `Sup.exit`). -/
def World.afterSupervise (w : World) (h : Nat) (H : Holder) (s : Sup) : World :=
  if s.pc = .exited then (w.setHolder h { H with sup := s }).closeConn H.conn
  else w.setHolder h { H with sup := s }

/-- One step of call `c`, the environment answering `ans`. -/
def World.setupConfigStep (w : World) (c : Nat) (call : Call) (ans : Answer) : Option World :=
  match call.pc, ans with
  | .parse, .parsed (.ok cfg) => some (w.setCall c { call with pc := .dial cfg })
  | .parse, .parsed (.error e) =>
    some (w.setCall c { call with pc := .done (unmarshalFailed e.err) })
  | .dial cfg, .dialed none =>
    some (w.openConn.setCall c { call with conn := w.nextConn, pc := .insert cfg cfg.routes })
  | .dial _, .dialed (some e) =>
    some (w.setCall c
      { call with pc := .done (setupFailed (e.err.wrap "failed to connect to the gateway: ")) })
  | .insert cfg (r :: rest), .inserted none =>
    some ((w.issue (.insertRoute (insertRequest call.target r))).setCall c
      { call with pc := .insert cfg rest })
  | .insert _ (r :: _), .inserted (some e) =>
    some ((w.issue (.insertRoute (insertRequest call.target r))).setCall c
      { call with pc := .done (setupFailed (e.err.wrap "failed to insert static route: ")) })
  | .insert cfg [], .flushed none =>
    match cfg.birdImport with
    | none => some ((w.issue (.flushRoutes call.target)).setCall c { call with pc := .panicked })
    | some bird =>
      if bird.sockets.isEmpty then
        some (((w.issue (.flushRoutes call.target)).closeConn call.conn).setCall c
          { call with pc := .done (.ok ()) })
      else some ((w.issue (.flushRoutes call.target)).setCall c { call with pc := .feed })
  | .insert _ [], .flushed (some e) =>
    some ((w.issue (.flushRoutes call.target)).setCall c
      { call with pc := .done (setupFailed (e.err.wrap
          ("failed to flush static routes for " ++ call.target.configName ++ ": "))) })
  | .feed, .fed none => some (w.setCall c { call with pc := .install })
  | .feed, .fed (some e) =>
    some (w.setCall c { call with pc := .done (setupFailed
      (e.err.wrap "failed to setup initial BIRD import stream: ")) })
  | .install, .locked => some ((w.processBirdImport call).setCall c { call with pc := .done (.ok ()) })
  | _, _ => none

/-- A step of the service. -/
inductive WorldAct
  /-- A `SetupConfig` request arrives for `(configName, inst)`. -/
  | setupBegin (inst : UInt32) (configName : String)
  /-- Call `c` moves. -/
  | setup (c : Nat) (ans : Answer)
  /-- Holder `h`'s supervisor, or the reader it drives, moves. -/
  | supervise (h : Nat) (a : SupAct)
  /-- `m.quitCh` is closed. -/
  | closeQuit

/-- One step of the service. -/
def worldStep (w : World) : WorldAct → Option World
  | .setupBegin inst name =>
    some { w.setCall w.nextCall ⟨⟨name, inst⟩, 0, .parse⟩ with nextCall := w.nextCall + 1 }
  | .setup c ans => (w.calls c).bind fun call => w.setupConfigStep c call ans
  | .supervise h a =>
    (w.holders h).bind fun H => (runBirdImportLoopStep w.quit H.sup a).map (w.afterSupervise h H)
  | .closeQuit => some { w with quit := true }

/-- Steps taken in order; `none` when one of them cannot be taken. -/
def worldRun : World → List WorldAct → Option World
  | w, [] => some w
  | w, a :: as => (worldStep w a).bind (worldRun · as)

/-- Whether `R` allows a step: `R` speaks of the supervisors' steps only. -/
def WorldAct.Allowed (R : Sup → SupAct → Prop) (w : World) : WorldAct → Prop
  | .supervise h a => ∀ H, w.holders h = some H → R H.sup a
  | _ => True

/-- The states of the service reachable from `NewModuleService` when the supervisors'
steps are those `R` allows. -/
inductive WorldReach (R : Sup → SupAct → Prop) : World → Prop
  | init : WorldReach R World.init
  | step {w w' : World} (a : WorldAct) : WorldReach R w → a.Allowed R w →
      worldStep w a = some w' → WorldReach R w'

/-! ## §3 The transitions, once -/

/-- The steps of one call, one constructor per branch of the code. -/
inductive CallMove (w : World) (c : Nat) (call : Call) : Answer → World → Prop
  | parsed {cfg} : call.pc = .parse →
      CallMove w c call (.parsed (.ok cfg)) (w.setCall c { call with pc := .dial cfg })
  | parseFailed {e} : call.pc = .parse →
      CallMove w c call (.parsed (.error e))
        (w.setCall c { call with pc := .done (unmarshalFailed e.err) })
  | dialed {cfg} : call.pc = .dial cfg →
      CallMove w c call (.dialed none)
        (w.openConn.setCall c { call with conn := w.nextConn, pc := .insert cfg cfg.routes })
  | dialFailed {cfg e} : call.pc = .dial cfg →
      CallMove w c call (.dialed (some e)) (w.setCall c
        { call with pc := .done (setupFailed (e.err.wrap "failed to connect to the gateway: ")) })
  | inserted {cfg r rest} : call.pc = .insert cfg (r :: rest) →
      CallMove w c call (.inserted none)
        ((w.issue (.insertRoute (insertRequest call.target r))).setCall c
          { call with pc := .insert cfg rest })
  | insertFailed {cfg r rest e} : call.pc = .insert cfg (r :: rest) →
      CallMove w c call (.inserted (some e))
        ((w.issue (.insertRoute (insertRequest call.target r))).setCall c
          { call with pc := .done (setupFailed (e.err.wrap "failed to insert static route: ")) })
  | flushedNil {cfg} : call.pc = .insert cfg [] → cfg.birdImport = none →
      CallMove w c call (.flushed none)
        ((w.issue (.flushRoutes call.target)).setCall c { call with pc := .panicked })
  | flushedStatic {cfg bird} : call.pc = .insert cfg [] → cfg.birdImport = some bird →
      bird.sockets = [] → CallMove w c call (.flushed none)
        (((w.issue (.flushRoutes call.target)).closeConn call.conn).setCall c
          { call with pc := .done (.ok ()) })
  | flushedBird {cfg bird} : call.pc = .insert cfg [] → cfg.birdImport = some bird →
      bird.sockets ≠ [] → CallMove w c call (.flushed none)
        ((w.issue (.flushRoutes call.target)).setCall c { call with pc := .feed })
  | flushFailed {cfg e} : call.pc = .insert cfg [] →
      CallMove w c call (.flushed (some e))
        ((w.issue (.flushRoutes call.target)).setCall c
          { call with pc := .done (setupFailed (e.err.wrap
              ("failed to flush static routes for " ++ call.target.configName ++ ": "))) })
  | fed : call.pc = .feed →
      CallMove w c call (.fed none) (w.setCall c { call with pc := .install })
  | feedFailed {e} : call.pc = .feed →
      CallMove w c call (.fed (some e)) (w.setCall c { call with pc := .done (setupFailed
        (e.err.wrap "failed to setup initial BIRD import stream: ")) })
  | installed : call.pc = .install →
      CallMove w c call .locked ((w.processBirdImport call).setCall c { call with pc := .done (.ok ()) })

/-- The steps of the service. -/
inductive WorldMove : World → WorldAct → World → Prop
  | setupBegin {w inst name} : WorldMove w (.setupBegin inst name)
      { w.setCall w.nextCall ⟨⟨name, inst⟩, 0, .parse⟩ with nextCall := w.nextCall + 1 }
  | setup {w c call ans w'} : w.calls c = some call → CallMove w c call ans w' →
      WorldMove w (.setup c ans) w'
  | supervise {w h H a s} : w.holders h = some H → SupMove w.quit H.sup a s →
      WorldMove w (.supervise h a) (w.afterSupervise h H s)
  | closeQuit {w} : WorldMove w .closeQuit { w with quit := true }

/-- Every step of a call is one of the listed transitions. -/
theorem setupConfigStep_move {w w' : World} {c : Nat} {call : Call} {ans : Answer}
    (h : w.setupConfigStep c call ans = some w') : CallMove w c call ans w' := by
  unfold World.setupConfigStep at h
  split at h <;> rename_i hpc <;> (try split at h) <;> (try split at h) <;> cases h
  all_goals first
    | exact .parsed hpc
    | exact .parseFailed hpc
    | exact .dialed hpc
    | exact .dialFailed hpc
    | exact .inserted hpc
    | exact .insertFailed hpc
    | exact .flushedNil hpc ‹_›
    | exact .flushedStatic hpc ‹_› (List.isEmpty_iff.mp ‹_›)
    | exact .flushedBird hpc ‹_› (fun h => by simp_all)
    | exact .flushFailed hpc
    | exact .fed hpc
    | exact .feedFailed hpc
    | exact .installed hpc

/-- Every listed transition of a call is a step of `setupConfigStep`: the inversion loses
nothing. -/
theorem CallMove.setupConfigStep_eq {w w' : World} {c : Nat} {call : Call} {ans : Answer}
    (h : CallMove w c call ans w') : w.setupConfigStep c call ans = some w' := by
  cases h <;> simp_all [World.setupConfigStep]

/-- Every step of the service is one of the listed transitions. -/
theorem worldStep_move {w w' : World} {a : WorldAct} (h : worldStep w a = some w') :
    WorldMove w a w' := by
  cases a with
  | setupBegin inst name => cases h; exact .setupBegin
  | setup c ans =>
    obtain ⟨call, hc, hs⟩ := Option.bind_eq_some.mp h
    exact .setup hc (setupConfigStep_move hs)
  | supervise h a =>
    obtain ⟨H, hH, hm⟩ := Option.bind_eq_some.mp h
    obtain ⟨s, hs, rfl⟩ := Option.map_eq_some'.mp hm
    exact .supervise hH (runBirdImportLoopStep_move hs)
  | closeQuit => cases h; exact .closeQuit


/-- With every reader step allowed, a step from a reachable state stays reachable. -/
theorem WorldReach.anyStep {w w' : World} {a : WorldAct} (hw : WorldReach anyReader w)
    (h : worldStep w a = some w') : WorldReach anyReader w' :=
  .step a hw (by cases a <;> first | trivial | exact fun _ _ => trivial) h

/-- A run of steps the readers allow wherever they are taken stays reachable. -/
theorem worldRun_reach_of {R : Sup → SupAct → Prop} : ∀ {w w' : World} {as : List WorldAct},
    (∀ a ∈ as, ∀ w, a.Allowed R w) → WorldReach R w → worldRun w as = some w' → WorldReach R w'
  | _, _, [], _, hw, h => by cases h; exact hw
  | _, _, a :: _, hall, hw, h => by
    obtain ⟨m, hm, hr⟩ := Option.bind_eq_some.mp h
    exact worldRun_reach_of (fun b hb => hall b (.tail _ hb)) (.step a hw (hall a (.head _) _) hm) hr

/-- With every reader step allowed, a run from a reachable state stays reachable. -/
theorem worldRun_reach {w w' : World} {as : List WorldAct} (hw : WorldReach anyReader w)
    (h : worldRun w as = some w') : WorldReach anyReader w' :=
  worldRun_reach_of (fun a _ _ => by cases a <;> first | trivial | exact fun _ _ => trivial) hw h

/-- A new call, inside a run. -/
theorem worldRun_setupBegin_cons (w : World) (inst : UInt32) (name : String)
    (as : List WorldAct) : worldRun w (.setupBegin inst name :: as) =
      worldRun { w.setCall w.nextCall ⟨⟨name, inst⟩, 0, .parse⟩ with nextCall := w.nextCall + 1 } as :=
  rfl

/-- A step of a call, inside a run. -/
theorem worldRun_setup_cons {w w' : World} {c : Nat} {call : Call} {ans : Answer}
    {as : List WorldAct} (hc : w.calls c = some call) (h : CallMove w c call ans w') :
    worldRun w (.setup c ans :: as) = worldRun w' as := by
  simp only [worldRun, worldStep, hc, Option.some_bind, h.setupConfigStep_eq]

/-- A run splits at any point. -/
theorem worldRun_append : ∀ (w : World) (xs ys : List WorldAct),
    worldRun w (xs ++ ys) = (worldRun w xs).bind (worldRun · ys)
  | _, [], _ => rfl
  | w, a :: xs, ys => by
    simp only [List.cons_append, worldRun]
    cases worldStep w a with
    | none => rfl
    | some m => exact worldRun_append m xs ys


/-- The steps of a `SetupConfig` call `c` for `(name, inst)` on `cfg` in which every
external call succeeds: parse, dial, one `InsertRoute` per static route, `FlushRoutes`,
and with BIRD sockets the first `FeedRIB` and the critical section. With a nil
`BirdImport` the call panics after `FlushRoutes`. -/
def succeedingSetup (c : Nat) (inst : UInt32) (name : String) (cfg : Config) : List WorldAct :=
  [.setupBegin inst name, .setup c (.parsed (.ok cfg)), .setup c (.dialed none)] ++
    cfg.routes.map (fun _ => .setup c (.inserted none)) ++ [.setup c (.flushed none)] ++
    match cfg.birdImport with
    | some bird => if bird.sockets.isEmpty then [] else [.setup c (.fed none), .setup c .locked]
    | none => []


/-- A setup's steps are steps of a call, which the readers' relation leaves alone. -/
theorem succeedingSetup_allowed (R : Sup → SupAct → Prop) (c : Nat) (inst : UInt32)
    (name : String) (cfg : Config) : ∀ a ∈ succeedingSetup c inst name cfg, ∀ w, a.Allowed R w := by
  intro a ha w
  cases a with
  | supervise => unfold succeedingSetup at ha; split at ha <;> simp at ha
  | _ => trivial

end RouteCoordinator
