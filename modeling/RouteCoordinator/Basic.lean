import Mathlib.Logic.Function.Basic

/-!
# Route Coordinator: Data Model

The values the BIRD import coordinator of the route module
(`modules/route/coordinator/service.go`) reads and writes: the registry key, the RIB
target, the routes the BIRD reader hands to its callbacks, the `Update` messages of the
`FeedRIB` stream, the static-route configuration, the gRPC statuses of `SetupConfig`,
and the error values the code tests with `errors.Is`.

## Errors

The coordinator looks into an error only through `errors.Is` against three sentinels:
`context.Canceled`, `context.DeadlineExceeded` and its own `errStreamClosed`. An `error`
is therefore its text and those three answers. `errStreamClosed` is unexported, so an
error made outside the package (by gRPC, by the BIRD reader's internals) cannot reach
it: `ForeignError` carries that as a field.
-/

namespace RouteCoordinator

/-! ## §1 Errors -/

/-- A non-nil Go `error`: its text and what `errors.Is` answers for the three sentinels
the coordinator tests. -/
structure GoError where
  msg : String
  canceled : Bool
  deadlineExceeded : Bool
  streamClosed : Bool
  deriving DecidableEq, Repr

/-- `fmt.Errorf(text + "%w", err)`: a new text around the same chain. -/
def GoError.wrap (text : String) (err : GoError) : GoError :=
  { err with msg := text ++ err.msg }

/-- `errors.Join`: nil when every argument is nil, otherwise an error whose text joins
the texts by lines and whose chain reaches what any argument reaches. -/
def errorsJoin (errs : List (Option GoError)) : Option GoError :=
  match errs.filterMap id with
  | [] => none
  | es => some
      { msg := "\n".intercalate (es.map GoError.msg)
        canceled := es.any GoError.canceled
        deadlineExceeded := es.any GoError.deadlineExceeded
        streamClosed := es.any GoError.streamClosed }

/-- `ctx.Err()` of a cancelled `context.WithCancel(context.Background())`: the import
context has no deadline, so this is the only error it reports. -/
def contextCanceled : GoError :=
  { msg := "context canceled", canceled := true, deadlineExceeded := false,
    streamClosed := false }

/-- `errStreamClosed = fmt.Errorf("stream closed")`. -/
def errStreamClosed : GoError :=
  { msg := "stream closed", canceled := false, deadlineExceeded := false,
    streamClosed := true }

/-- An error made outside the package: it cannot wrap the unexported `errStreamClosed`. -/
structure ForeignError where
  err : GoError
  not_streamClosed : err.streamClosed = false

/-- `errors.Is(err, errStreamClosed)` for a possibly nil `err`. -/
def wrapsStreamClosed : Option GoError → Bool
  | some e => e.streamClosed
  | none => false

@[simp] theorem wrapsStreamClosed_none : wrapsStreamClosed none = false := rfl

@[simp] theorem wrapsStreamClosed_some (e : GoError) :
    wrapsStreamClosed (some e) = e.streamClosed := rfl

@[simp] theorem GoError.wrap_canceled (text : String) (e : GoError) :
    (e.wrap text).canceled = e.canceled := rfl

@[simp] theorem GoError.wrap_deadlineExceeded (text : String) (e : GoError) :
    (e.wrap text).deadlineExceeded = e.deadlineExceeded := rfl

@[simp] theorem GoError.wrap_streamClosed (text : String) (e : GoError) :
    (e.wrap text).streamClosed = e.streamClosed := rfl

/-- `errors.Join` keeps a sentinel that one of its non-nil arguments reaches. -/
theorem errorsJoin_eq_some_of_mem {errs : List (Option GoError)} {e : GoError}
    (h : some e ∈ errs) :
    ∃ j, errorsJoin errs = some j ∧ (e.canceled → j.canceled) ∧
      (e.deadlineExceeded → j.deadlineExceeded) ∧ (e.streamClosed → j.streamClosed) := by
  have hm : e ∈ errs.filterMap id := List.mem_filterMap.mpr ⟨some e, h, rfl⟩
  unfold errorsJoin
  split
  · simp_all
  · refine ⟨_, rfl, ?_, ?_, ?_⟩ <;> intro hf <;> exact List.any_eq_true.mpr ⟨e, hm, hf⟩

/-! ## §2 Targets, routes and updates -/

/-- `instanceKey`: the key of `ModuleService.imports`. -/
structure InstanceKey where
  name : String
  dataplaneInstance : UInt32
  deriving DecidableEq, Repr

/-- `commonpb.TargetModule`: the routing table a RIB update is addressed to. -/
structure TargetModule where
  configName : String
  dataplaneInstance : UInt32
  deriving DecidableEq, Repr

/-- The key `processBirdImport` files a target's import under. -/
def TargetModule.key (t : TargetModule) : InstanceKey :=
  { name := t.configName, dataplaneInstance := t.dataplaneInstance }

/-- `rib.Route`, with the fields the coordinator reads itself (`Prefix` is printed in
the send error). -/
structure Route where
  netPrefix : String
  toRemove : Bool
  deriving DecidableEq, Repr

/-- `routepb.FromRIBRoute(&route, isBest)`. The converter is pure, so the wire record
is kept as its two arguments. -/
structure RouteRecord where
  route : Route
  isBest : Bool
  deriving DecidableEq, Repr

/-- `routepb.Update`, one message of the `FeedRIB` client stream. -/
structure Update where
  target : TargetModule
  isDelete : Bool
  route : RouteRecord
  deriving DecidableEq, Repr

/-- The `Update` that `onUpdate` builds for `routes[idx]`. -/
def updateOf (target : TargetModule) (r : Route) : Update :=
  { target := target, isDelete := r.toRemove, route := { route := r, isBest := false } }

/-! ## §3 Configuration and statuses -/

/-- One entry of `Config.Routes`: a static route, printed with `String()`. -/
structure StaticRoute where
  netPrefix : String
  nexthop : String
  deriving DecidableEq, Repr

/-- `bird.Config`; the tuning parameters it passes to the reader are not read here. -/
structure BirdConfig where
  sockets : List String
  deriving DecidableEq, Repr

/-- `Config`, as `yaml.Unmarshal` fills it. `BirdImport` is a `*bird.Config`: a document
that sets `bird_import: null` leaves it nil (`none`). -/
structure Config where
  routes : List StaticRoute
  birdImport : Option BirdConfig
  deriving DecidableEq, Repr

/-- `routepb.InsertRouteRequest`. -/
structure InsertRouteRequest where
  target : TargetModule
  netPrefix : String
  nexthopAddr : String
  deriving DecidableEq, Repr

/-- A unary call the coordinator makes on the Route service. -/
inductive Rpc
  | insertRoute (req : InsertRouteRequest)
  | flushRoutes (target : TargetModule)
  deriving DecidableEq, Repr

/-- The gRPC codes `SetupConfig` answers with. -/
inductive Code
  | invalidArgument
  | internal
  deriving DecidableEq, Repr

/-- A gRPC status error, `status.Errorf(code, ...)`. -/
structure Status where
  code : Code
  msg : String
  deriving DecidableEq, Repr

end RouteCoordinator
