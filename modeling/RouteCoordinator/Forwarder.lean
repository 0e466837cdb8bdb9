import RouteCoordinator.Basic

/-!
# Update and Flush Forwarders

The two callbacks `processBirdImport` gives the BIRD reader:

- `onUpdate` walks a batch of routes; at each index a `select` checks the import
  context, then the route is sent on `*holder.currentStream`. A cancellation seen at
  index `j` closes the stream with `CloseAndRecv` and returns
  `errors.Join(ctx.Err(), closeErr, errStreamClosed)`; a failed `Send` returns the
  wrapped send error.
- `onFlush` issues `FlushRoutes` and wraps its error.

The environment answers each `select` and each stream call (`SendStep`). The main
result, `onUpdateFrom_cases`, says that every run of the loop ends in exactly one of the
three ways the forwarder's contract lists, with the stream calls in batch order.
-/

namespace RouteCoordinator

/-! ## §1 The forwarders -/

/-- What happens at one index of the loop in `onUpdate`: the `select` takes
`ctx.Done()` and `CloseAndRecv` answers `closeErr`, or it falls to `default` and `Send`
answers `err`. -/
inductive SendStep
  | cancelled (closeErr : Option ForeignError)
  | send (err : Option ForeignError)

/-- Whether the `select` took `ctx.Done()`. -/
def SendStep.isCancelled : SendStep → Bool
  | .cancelled _ => true
  | .send _ => false

/-- A call `onUpdate` makes on `*holder.currentStream`. -/
inductive StreamOp
  | send (u : Update)
  | closeAndRecv
  deriving DecidableEq, Repr

/-- The loop of `onUpdate` from index `idx` on: the calls made on the stream, in order,
and the returned error (`none` is `nil`). -/
def onUpdateFrom (target : TargetModule) (env : Nat → SendStep) :
    Nat → List Route → List StreamOp × Option GoError
  | _, [] => ([], none)
  | idx, r :: rs =>
    match env idx with
    | .cancelled closeErr =>
      ([.closeAndRecv],
        errorsJoin [some contextCanceled, closeErr.map ForeignError.err, some errStreamClosed])
    | .send (some err) =>
      ([.send (updateOf target r)],
        some (err.err.wrap ("send BIRD route update for " ++ r.netPrefix ++ " failed: ")))
    | .send none =>
      let rest := onUpdateFrom target env (idx + 1) rs
      (.send (updateOf target r) :: rest.1, rest.2)

/-- `onUpdate(ctx, routes)`, the update forwarder of one import. -/
def onUpdate (target : TargetModule) (env : Nat → SendStep) (routes : List Route) :
    List StreamOp × Option GoError :=
  onUpdateFrom target env 0 routes

/-- `onFlush()`, given what `FlushRoutes` answered. -/
def onFlush (err : Option ForeignError) : Option GoError :=
  err.map fun e => e.err.wrap "flush BIRD routes failed: "

/-- The `Send` calls for a list of routes, in order. -/
def sendsOf (target : TargetModule) (rs : List Route) : List StreamOp :=
  rs.map fun r => .send (updateOf target r)

/-- The updates sent by a list of stream calls. -/
def sentOf (ops : List StreamOp) : List Update :=
  ops.filterMap fun | .send u => some u | .closeAndRecv => none

/-- How many `CloseAndRecv` calls a list of stream calls holds. -/
def closesOf (ops : List StreamOp) : Nat :=
  ops.count .closeAndRecv

@[simp] theorem sentOf_sendsOf (target : TargetModule) (rs : List Route) :
    sentOf (sendsOf target rs) = rs.map (updateOf target) := by
  induction rs with
  | nil => rfl
  | cons r rs ih => simp [sentOf, sendsOf] at ih ⊢; exact ih

@[simp] theorem closesOf_sendsOf (target : TargetModule) (rs : List Route) :
    closesOf (sendsOf target rs) = 0 := by
  simp [closesOf, sendsOf, List.count_eq_zero]

@[simp] theorem sentOf_append_close (ops : List StreamOp) :
    sentOf (ops ++ [.closeAndRecv]) = sentOf ops := by
  simp [sentOf]

@[simp] theorem closesOf_append_close (ops : List StreamOp) :
    closesOf (ops ++ [.closeAndRecv]) = closesOf ops + 1 := by
  simp [closesOf]

/-! ## §2 The three ends of a batch -/

section Cases

variable (target : TargetModule) (env : Nat → SendStep)

/-- The batch ends with every route sent and `nil` returned. -/
def AllSent (k : Nat) (routes : List Route) : Prop :=
  (∀ i < routes.length, env (k + i) = .send none) ∧
    onUpdateFrom target env k routes = (sendsOf target routes, none)

/-- The batch stops at index `j`: the `select` saw the cancellation, nothing from `j`
on is sent, the stream is closed once, and the error reaches `context.Canceled` and
`errStreamClosed`. -/
def CancelledAt (k j : Nat) (routes : List Route) : Prop :=
  (∃ ce, env (k + j) = .cancelled ce) ∧
    ∃ e, onUpdateFrom target env k routes =
        (sendsOf target (routes.take j) ++ [.closeAndRecv], some e) ∧
      e.canceled = true ∧ e.streamClosed = true

/-- The batch stops at index `j` because `Send(routes[j])` failed; the error does not
reach `errStreamClosed`. -/
def SendFailedAt (k j : Nat) (routes : List Route) : Prop :=
  (∃ err, env (k + j) = .send (some err)) ∧
    ∃ e, onUpdateFrom target env k routes = (sendsOf target (routes.take (j + 1)), some e) ∧
      e.streamClosed = false

/-- Every batch, from any start index, ends in one of the three ways, after sending the
routes before the stopping index in order. -/
theorem onUpdateFrom_cases (k : Nat) (routes : List Route) :
    AllSent target env k routes ∨
      ∃ j < routes.length, (∀ i < j, env (k + i) = .send none) ∧
        (CancelledAt target env k j routes ∨ SendFailedAt target env k j routes) := by
  induction routes generalizing k with
  | nil => exact .inl ⟨by simp, rfl⟩
  | cons r rs ih =>
    rcases hk : env k with ce | _ | err
    · have hmem : ∀ x ∈ [contextCanceled, errStreamClosed],
          some x ∈ [some contextCanceled, ce.map ForeignError.err, some errStreamClosed] := by
        simp
      obtain ⟨e, he, hc, -, hs⟩ := errorsJoin_eq_some_of_mem (hmem contextCanceled (by simp))
      obtain ⟨e', he', -, -, hs'⟩ := errorsJoin_eq_some_of_mem (hmem errStreamClosed (by simp))
      obtain rfl : e = e' := Option.some.inj (he.symm.trans he')
      refine .inr ⟨0, by simp, by simp, .inl ⟨⟨ce, hk⟩, e, ?_, hc rfl, hs' rfl⟩⟩
      simp [onUpdateFrom, hk, he, sendsOf]
    · rcases ih (k + 1) with ⟨hall, hrun⟩ | ⟨j, hj, hpre, hend⟩
      · refine .inl ⟨fun i hi => ?_, by simp [onUpdateFrom, hk, hrun, sendsOf]⟩
        cases i with
        | zero => exact hk
        | succ i => simpa [Nat.add_assoc, Nat.add_comm 1] using hall i (by simpa using hi)
      · have hpre' : ∀ i < j + 1, env (k + i) = .send none := fun i hi => by
          cases i with
          | zero => exact hk
          | succ i => simpa [Nat.add_assoc, Nat.add_comm 1] using hpre i (by omega)
        refine .inr ⟨j + 1, by simpa using hj, hpre', ?_⟩
        rcases hend with ⟨⟨ce, hce⟩, e, hrun, hc, hs⟩ | ⟨⟨err, herr⟩, e, hrun, hs⟩
        · refine .inl ⟨⟨ce, by simpa [Nat.add_assoc, Nat.add_comm 1] using hce⟩, e, ?_, hc, hs⟩
          simp [onUpdateFrom, hk, hrun, sendsOf]
        · refine .inr ⟨⟨err, by simpa [Nat.add_assoc, Nat.add_comm 1] using herr⟩, e, ?_, hs⟩
          simp [onUpdateFrom, hk, hrun, sendsOf]
    · refine .inr ⟨0, by simp, by simp, .inr ⟨⟨err, hk⟩,
        err.err.wrap ("send BIRD route update for " ++ r.netPrefix ++ " failed: "), ?_, ?_⟩⟩
      · simp [onUpdateFrom, hk, sendsOf]
      · simpa using err.not_streamClosed

/-- What a batch leaves on the stream: a prefix of the batch's updates, all of them when
`nil` is returned, and one `CloseAndRecv` exactly when the error carries the sentinel. -/
theorem onUpdate_effect (routes : List Route) :
    ∃ n ≤ routes.length,
      sentOf (onUpdate target env routes).1 = (routes.take n).map (updateOf target) ∧
      closesOf (onUpdate target env routes).1 =
        (if wrapsStreamClosed (onUpdate target env routes).2 then 1 else 0) ∧
      ((onUpdate target env routes).2 = none → n = routes.length) := by
  rcases onUpdateFrom_cases target env 0 routes with ⟨-, h⟩ | ⟨j, hj, -, hend⟩
  · exact ⟨routes.length, Nat.le_refl _, by simp [onUpdate, h], by simp [onUpdate, h, wrapsStreamClosed],
      fun _ => rfl⟩
  · rcases hend with ⟨-, e, h, -, hs⟩ | ⟨-, e, h, hs⟩
    · exact ⟨j, Nat.le_of_lt hj, by simp [onUpdate, h], by simp [onUpdate, h, wrapsStreamClosed, hs],
        by simp [onUpdate, h]⟩
    · exact ⟨j + 1, hj, by simp [onUpdate, h], by simp [onUpdate, h, wrapsStreamClosed, hs],
        by simp [onUpdate, h]⟩

end Cases

/-! ## §3 A batch after cancellation -/

/-- An empty batch, or one whose first `select` sees `ctx.Done()`, sends nothing. -/
theorem sentOf_onUpdate_of_cancelled {target : TargetModule} {env : Nat → SendStep}
    {routes : List Route} (h : (routes.isEmpty || (env 0).isCancelled) = true) :
    sentOf (onUpdate target env routes).1 = [] := by
  cases routes with
  | nil => rfl
  | cons r rs =>
    cases he : env 0 with
    | cancelled ce => simp [onUpdate, onUpdateFrom, he, sentOf]
    | send err => simp [he, SendStep.isCancelled] at h

end RouteCoordinator
