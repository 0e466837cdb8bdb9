import RouteCoordinator.Service

/-!
# The Registry under Replacement

The invariant `World.Inv` of the service: registry entries name the newest holder of
their key, every other holder of the key has been cancelled and its connection closed,
and the connections held by calls in progress are their own.

`WorldReach.inv` proves it of every reachable state, whatever the supervisors and their
readers do. From it:

- `registry_replacement`: in every reachable state the entry of a key is the holder
  whose call entered the critical section last, every other holder of the key has been
  cancelled and its connection closed, supervisors never write the registry, and at
  most one holder per key has a live context.
-/

namespace RouteCoordinator

/-! ## §1 Frame lemmas -/

@[simp] theorem World.replace_imports (w : World) (k : InstanceKey) :
    (w.replace k).imports = w.imports := by
  unfold World.replace World.supersede; split <;> (try split) <;> rfl

@[simp] theorem World.replace_calls (w : World) (k : InstanceKey) :
    (w.replace k).calls = w.calls := by
  unfold World.replace World.supersede; split <;> (try split) <;> rfl

@[simp] theorem World.replace_nextHolder (w : World) (k : InstanceKey) :
    (w.replace k).nextHolder = w.nextHolder := by
  unfold World.replace World.supersede; split <;> (try split) <;> rfl

@[simp] theorem World.replace_nextConn (w : World) (k : InstanceKey) :
    (w.replace k).nextConn = w.nextConn := by
  unfold World.replace World.supersede; split <;> (try split) <;> rfl

@[simp] theorem World.replace_quit (w : World) (k : InstanceKey) :
    (w.replace k).quit = w.quit := by
  unfold World.replace World.supersede; split <;> (try split) <;> rfl

@[simp] theorem World.processBirdImport_calls (w : World) (call : Call) :
    (w.processBirdImport call).calls = w.calls := by
  simp [World.processBirdImport, World.file]

@[simp] theorem World.processBirdImport_nextConn (w : World) (call : Call) :
    (w.processBirdImport call).nextConn = w.nextConn := by
  simp [World.processBirdImport, World.file]

@[simp] theorem World.afterSupervise_imports (w : World) (h : Nat) (H : Holder) (s : Sup) :
    (w.afterSupervise h H s).imports = w.imports := by
  unfold World.afterSupervise; split <;> rfl

@[simp] theorem World.afterSupervise_calls (w : World) (h : Nat) (H : Holder) (s : Sup) :
    (w.afterSupervise h H s).calls = w.calls := by
  unfold World.afterSupervise; split <;> rfl

@[simp] theorem World.afterSupervise_nextHolder (w : World) (h : Nat) (H : Holder) (s : Sup) :
    (w.afterSupervise h H s).nextHolder = w.nextHolder := by
  unfold World.afterSupervise; split <;> rfl

@[simp] theorem World.afterSupervise_nextConn (w : World) (h : Nat) (H : Holder) (s : Sup) :
    (w.afterSupervise h H s).nextConn = w.nextConn := by
  unfold World.afterSupervise; split <;> rfl

@[simp] theorem World.afterSupervise_nextCall (w : World) (h : Nat) (H : Holder) (s : Sup) :
    (w.afterSupervise h H s).nextCall = w.nextCall := by
  unfold World.afterSupervise; split <;> rfl

@[simp] theorem World.afterSupervise_quit (w : World) (h : Nat) (H : Holder) (s : Sup) :
    (w.afterSupervise h H s).quit = w.quit := by
  unfold World.afterSupervise; split <;> rfl

@[simp] theorem World.afterSupervise_holders (w : World) (h : Nat) (H : Holder) (s : Sup) :
    (w.afterSupervise h H s).holders = Function.update w.holders h (some { H with sup := s }) := by
  unfold World.afterSupervise; split <;> rfl

/-- Replacing cancels the key's entry and changes no other holder. -/
theorem World.replace_holders {w : World} {k : InstanceKey} {h : Nat} {H' : Holder}
    (hH : (w.replace k).holders h = some H') : w.holders h = some H' ∨
      ∃ H, w.holders h = some H ∧ H' = { H with sup := { H.sup with ctxDone := true } } := by
  unfold World.replace World.supersede at hH
  split at hH
  · split at hH
    · rename_i old _ _ H₀ hH₀
      by_cases hh : h = old
      · subst hh
        simp only [World.closeConn_holders, World.setHolder_holders, Function.update_same,
          Option.some.injEq] at hH
        exact .inr ⟨H₀, hH₀, hH.symm⟩
      · exact .inl (by simpa [Function.update_noteq hh] using hH)
    · exact .inl hH
  · exact .inl hH

/-- Replacing closes a holder's connection only. -/
theorem World.replace_conns {w : World} {k : InstanceKey} {n : Nat}
    (hn : ∀ h H, w.holders h = some H → H.conn ≠ n) : (w.replace k).conns n = w.conns n := by
  unfold World.replace World.supersede
  split
  · split
    · rename_i hH
      simp [Function.update_noteq (Ne.symm (hn _ _ hH))]
    · rfl
  · rfl

/-- A supervisor's step closes at most its own connection. -/
theorem World.afterSupervise_conns (w : World) (h : Nat) (H : Holder) (s : Sup) (n : Nat) :
    (w.afterSupervise h H s).conns n = (w.conns n || (s.pc = .exited && n = H.conn)) := by
  unfold World.afterSupervise
  split <;> by_cases hn : n = H.conn <;> simp_all [Function.update_apply]

/-! ## §2 The invariant -/

/-- Call `c` is between `dial` and `done` and holds connection `n`. -/
def World.Owns (w : World) (c n : Nat) : Prop :=
  ∃ call, w.calls c = some call ∧ call.pc.ownsConn = true ∧ call.conn = n

/-- The invariant of the service. -/
structure World.Inv (w : World) : Prop where
  /-- Holders are numbered below the counter. -/
  holder_lt : ∀ h H, w.holders h = some H → h < w.nextHolder
  /-- Every registry entry names a holder filed under that key. -/
  entry : ∀ k h, w.imports k = some h → ∃ H, w.holders h = some H ∧ H.key = k
  /-- Every holder's key has an entry no older than the holder. -/
  latest : ∀ h H, w.holders h = some H → ∃ h', w.imports H.key = some h' ∧ h ≤ h'
  /-- A holder that is not its key's entry was cancelled and its connection closed. -/
  superseded : ∀ h H, w.holders h = some H → w.imports H.key ≠ some h →
    H.sup.ctxDone = true ∧ w.conns H.conn = true
  /-- A holder's supervisor serves the target its key was taken from. -/
  holder_key : ∀ h H, w.holders h = some H → H.key = H.sup.target.key
  /-- Holders' connections were made by setups. -/
  holder_conn : ∀ h H, w.holders h = some H → H.conn < w.nextConn
  /-- Calls are numbered below the counter. -/
  call_lt : ∀ c call, w.calls c = some call → c < w.nextCall
  /-- Connections held by calls were made by setups. -/
  owns_lt : ∀ c n, w.Owns c n → n < w.nextConn
  /-- No holder has a connection a call holds. -/
  owns_holder : ∀ c n h H, w.Owns c n → w.holders h = some H → H.conn ≠ n
  /-- No two calls hold the same connection. -/
  owns_unique : ∀ c c' n, w.Owns c n → w.Owns c' n → c = c'
  /-- Connections held by calls are open. -/
  owns_open : ∀ c n, w.Owns c n → w.conns n = false

theorem World.Inv.init : World.init.Inv where
  holder_lt _ _ h := nomatch h
  entry _ _ h := nomatch h
  latest _ _ h := nomatch h
  superseded _ _ h := nomatch h
  holder_key _ _ h := nomatch h
  holder_conn _ _ h := nomatch h
  call_lt _ _ h := nomatch h
  owns_lt _ _ h := by obtain ⟨_, hc, _⟩ := h; exact nomatch hc
  owns_holder _ _ _ _ h := by obtain ⟨_, hc, _⟩ := h; exact nomatch hc
  owns_unique _ _ _ h := by obtain ⟨_, hc, _⟩ := h; exact nomatch hc
  owns_open _ _ h := by obtain ⟨_, hc, _⟩ := h; exact nomatch hc

/-- Two states with the same calls have the same connections held by calls. -/
theorem World.owns_congr {w w' : World} (h : w'.calls = w.calls) {c n : Nat} :
    w'.Owns c n ↔ w.Owns c n := by
  simp [World.Owns, h]

/-! ## §3 Preservation -/

/-- A step that changes only calls (and closes connections) keeps the invariant when no
call comes to hold a connection it did not hold. -/
theorem World.Inv.of_calls {w w' : World} (hi : w.Inv) (himp : w'.imports = w.imports)
    (hh : w'.holders = w.holders) (hnh : w'.nextHolder = w.nextHolder)
    (hc : ∀ n, w.conns n = true → w'.conns n = true) (hnc : w'.nextConn = w.nextConn)
    (hlt : ∀ c call, w'.calls c = some call → c < w'.nextCall)
    (hown : ∀ c n, w'.Owns c n → w.Owns c n)
    (hopen : ∀ c n, w'.Owns c n → w'.conns n = w.conns n) : w'.Inv where
  holder_lt h H hH := hnh ▸ hi.holder_lt h H (hh ▸ hH)
  entry k h hk := hh ▸ hi.entry k h (himp ▸ hk)
  latest h H hH := himp ▸ hi.latest h H (hh ▸ hH)
  superseded h H hH hne :=
    have hs := hi.superseded h H (hh ▸ hH) (himp ▸ hne)
    ⟨hs.1, hc _ hs.2⟩
  holder_key h H hH := hi.holder_key h H (hh ▸ hH)
  holder_conn h H hH := hnc ▸ hi.holder_conn h H (hh ▸ hH)
  call_lt := hlt
  owns_lt c n ho := hnc ▸ hi.owns_lt c n (hown c n ho)
  owns_holder c n h H ho hH := hi.owns_holder c n h H (hown c n ho) (hh ▸ hH)
  owns_unique c c' n ho ho' := hi.owns_unique c c' n (hown c n ho) (hown c' n ho')
  owns_open c n ho := (hopen c n ho).trans (hi.owns_open c n (hown c n ho))

/-- A step that changes only holders' supervisors keeps the invariant when keys and
connections stay, contexts and connections only get closed, and targets stay. -/
theorem World.Inv.of_holders {w w' : World} (hi : w.Inv) (himp : w'.imports = w.imports)
    (hcalls : w'.calls = w.calls) (hnh : w'.nextHolder = w.nextHolder)
    (hnc : w'.nextConn = w.nextConn) (hncall : w'.nextCall = w.nextCall)
    (hh : ∀ h H', w'.holders h = some H' → ∃ H, w.holders h = some H ∧ H'.key = H.key ∧
      H'.conn = H.conn ∧ (H.sup.ctxDone = true → H'.sup.ctxDone = true) ∧
      H'.sup.target = H.sup.target)
    (hdom : ∀ h H, w.holders h = some H → ∃ H', w'.holders h = some H')
    (hc : ∀ n, w.conns n = true → w'.conns n = true)
    (hopen : ∀ c n, w.Owns c n → w'.conns n = w.conns n) : w'.Inv where
  holder_lt h H' hH := by
    obtain ⟨H, hH, -⟩ := hh h H' hH
    exact hnh ▸ hi.holder_lt h H hH
  entry k h hk := by
    obtain ⟨H, hH, hk'⟩ := hi.entry k h (himp ▸ hk)
    obtain ⟨H', hH'⟩ := hdom h H hH
    obtain ⟨H₀, hH₀, hkey, -⟩ := hh h H' hH'
    obtain rfl : H₀ = H := Option.some.inj (hH₀.symm.trans hH)
    exact ⟨H', hH', hkey.trans hk'⟩
  latest h H' hH := by
    obtain ⟨H, hH, hkey, -⟩ := hh h H' hH
    simpa [hkey, himp] using hi.latest h H hH
  superseded h H' hH hne := by
    obtain ⟨H, hH, hkey, hconn, hdone, -⟩ := hh h H' hH
    have hs := hi.superseded h H hH (by simpa [hkey, himp] using hne)
    exact ⟨hdone hs.1, hconn ▸ hc _ hs.2⟩
  holder_key h H' hH := by
    obtain ⟨H, hH, hkey, -, -, ht⟩ := hh h H' hH
    rw [hkey, ht]; exact hi.holder_key h H hH
  holder_conn h H' hH := by
    obtain ⟨H, hH, -, hconn, -⟩ := hh h H' hH
    exact hconn ▸ hnc ▸ hi.holder_conn h H hH
  call_lt c call hc' := hncall ▸ hi.call_lt c call (hcalls ▸ hc')
  owns_lt c n ho := hnc ▸ hi.owns_lt c n ((World.owns_congr hcalls).1 ho)
  owns_holder c n h H' ho hH := by
    obtain ⟨H, hH, -, hconn, -⟩ := hh h H' hH
    exact hconn ▸ hi.owns_holder c n h H ((World.owns_congr hcalls).1 ho) hH
  owns_unique c c' n ho ho' :=
    hi.owns_unique c c' n ((World.owns_congr hcalls).1 ho) ((World.owns_congr hcalls).1 ho')
  owns_open c n ho :=
    have ho := (World.owns_congr hcalls).1 ho
    (hopen c n ho).trans (hi.owns_open c n ho)

/-- After a call moves to `p`, it holds a connection only if it held it before. -/
theorem World.Owns.of_setCall {w : World} {c c' n : Nat} {call : Call} {p : CallPc}
    (hc : w.calls c = some call) (hp : p.ownsConn = true → call.pc.ownsConn = true)
    (h : (w.setCall c { call with pc := p }).Owns c' n) : w.Owns c' n := by
  obtain ⟨x, hx, hxo, rfl⟩ := h
  by_cases hcc : c' = c
  · subst hcc
    simp only [World.setCall_calls, Function.update_same, Option.some.injEq] at hx
    subst hx
    exact ⟨call, hc, hp hxo, rfl⟩
  · exact ⟨x, by simpa [Function.update_noteq hcc] using hx, hxo, rfl⟩

/-- A call put at a position without a connection gives it no connection. -/
theorem World.Owns.of_setCall_idle {w : World} {c c' n : Nat} {x : Call}
    (hx : x.pc.ownsConn = false) (h : (w.setCall c x).Owns c' n) : w.Owns c' n := by
  obtain ⟨y, hy, hyo, rfl⟩ := h
  by_cases hcc : c' = c
  · subst hcc
    simp only [World.setCall_calls, Function.update_same, Option.some.injEq] at hy
    simp [← hy, hx] at hyo
  · exact ⟨y, by simpa [Function.update_noteq hcc] using hy, hyo, rfl⟩

/-- A call that moved to a position without a connection holds none. -/
theorem World.Owns.ne_of_setCall {w : World} {c c' n : Nat} {call : Call} {p : CallPc}
    (hp : p.ownsConn = false) (h : (w.setCall c { call with pc := p }).Owns c' n) : c' ≠ c := by
  rintro rfl
  obtain ⟨x, hx, hxo, -⟩ := h
  simp only [World.setCall_calls, Function.update_same, Option.some.injEq] at hx
  simp [← hx, hp] at hxo

/-- A call that moves to `p` keeps the invariant when it holds no connection it did not
hold before. -/
theorem World.Inv.setCall {w : World} {c : Nat} {call : Call} {p : CallPc} (hi : w.Inv)
    (hc : w.calls c = some call) (hp : p.ownsConn = true → call.pc.ownsConn = true) :
    (w.setCall c { call with pc := p }).Inv :=
  hi.of_calls rfl rfl rfl (fun _ h => h) rfl
    (fun c' x hx => by
      by_cases hcc : c' = c
      · exact hcc ▸ hi.call_lt c call hc
      · exact hi.call_lt c' x (by simpa [Function.update_noteq hcc] using hx))
    (fun _ _ ho => ho.of_setCall hc hp) (fun _ _ _ => rfl)

/-- After `grpc.NewClient` succeeded for call `c`, the fresh connection is the only one it
has that it did not have before. -/
theorem World.Owns.of_dialed {w : World} {c c' n : Nat} {call : Call} {cfg : Config}
    (h : (w.openConn.setCall c { call with conn := w.nextConn, pc := .insert cfg cfg.routes }).Owns
      c' n) : (c' = c ∧ n = w.nextConn) ∨ (c' ≠ c ∧ w.Owns c' n) := by
  obtain ⟨x, hx, hxo, rfl⟩ := h
  by_cases hcc : c' = c
  · subst hcc
    simp only [World.setCall_calls, Function.update_same, Option.some.injEq] at hx
    exact .inl ⟨rfl, by rw [← hx]⟩
  · exact .inr ⟨hcc, x, by simpa [Function.update_noteq hcc] using hx, hxo, rfl⟩

/-- `grpc.NewClient` succeeded for call `c`: the fresh connection is the call's. -/
theorem World.Inv.dialed {w : World} {c : Nat} {call : Call} {cfg : Config} (hi : w.Inv)
    (hc : w.calls c = some call) :
    (w.openConn.setCall c { call with conn := w.nextConn, pc := .insert cfg cfg.routes }).Inv := by
  have hown := fun c' n (ho : (w.openConn.setCall c
      { call with conn := w.nextConn, pc := .insert cfg cfg.routes }).Owns c' n) => ho.of_dialed
  have hfresh : ∀ h H, w.holders h = some H → H.conn ≠ w.nextConn := fun h H hH =>
    Nat.ne_of_lt (hi.holder_conn h H hH)
  exact {
    holder_lt := hi.holder_lt
    entry := hi.entry
    latest := hi.latest
    superseded := fun h H hH hne => by
      simpa [Function.update_noteq (hfresh h H hH)] using hi.superseded h H hH hne
    holder_key := hi.holder_key
    holder_conn := fun h H hH => by simpa using Nat.lt_succ_of_lt (hi.holder_conn h H hH)
    call_lt := fun c' x hx => by
      by_cases hcc : c' = c
      · exact hcc ▸ hi.call_lt c call hc
      · exact hi.call_lt c' x (by simpa [Function.update_noteq hcc] using hx)
    owns_lt := fun c' n ho => by
      rcases hown c' n ho with ⟨-, rfl⟩ | ⟨-, ho⟩
      · simp
      · simpa using Nat.lt_succ_of_lt (hi.owns_lt c' n ho)
    owns_holder := fun c' n h H ho hH => by
      rcases hown c' n ho with ⟨-, rfl⟩ | ⟨-, ho⟩
      · exact hfresh h H hH
      · exact hi.owns_holder c' n h H ho hH
    owns_unique := fun c₁ c₂ n ho₁ ho₂ => by
      rcases hown c₁ n ho₁ with ⟨h₁, hn₁⟩ | ⟨h₁, ho₁⟩ <;>
        rcases hown c₂ n ho₂ with ⟨h₂, hn₂⟩ | ⟨h₂, ho₂⟩
      · exact h₁.trans h₂.symm
      · exact absurd (hn₁ ▸ hi.owns_lt _ _ ho₂) (Nat.lt_irrefl _)
      · exact absurd (hn₂ ▸ hi.owns_lt _ _ ho₁) (Nat.lt_irrefl _)
      · exact hi.owns_unique _ _ _ ho₁ ho₂
    owns_open := fun c' n ho => by
      rcases hown c' n ho with ⟨-, rfl⟩ | ⟨-, ho⟩
      · simp
      · simpa [Function.update_noteq (Nat.ne_of_lt (hi.owns_lt c' n ho))] using
          hi.owns_open c' n ho }

/-- Every holder filed under `k` has been cancelled and its connection closed. -/
def World.AllClosed (w : World) (k : InstanceKey) : Prop :=
  ∀ h H, w.holders h = some H → H.key = k → H.sup.ctxDone = true ∧ w.conns H.conn = true

/-- The first half of the critical section keeps the invariant and leaves every holder
of the key cancelled and closed. -/
theorem World.Inv.replace {w : World} (hi : w.Inv) (k : InstanceKey) :
    (w.replace k).Inv ∧ (w.replace k).AllClosed k := by
  rcases hk : w.imports k with _ | old
  · rw [show w.replace k = w by simp [World.replace, hk]]
    refine ⟨hi, fun h H hH hkey => ?_⟩
    obtain ⟨h', hh', -⟩ := hi.latest h H hH
    simp [hkey, hk] at hh'
  · obtain ⟨H₀, hH₀, hkey₀⟩ := hi.entry k old hk
    rw [show w.replace k = (w.setHolder old { H₀ with sup := { H₀.sup with ctxDone := true } }).closeConn
      H₀.conn by simp [World.replace, World.supersede, hk, hH₀]]
    have hsame : ∀ h H', ((w.setHolder old { H₀ with sup := { H₀.sup with ctxDone := true } }).closeConn
        H₀.conn).holders h = some H' → (h = old ∧ H' = { H₀ with sup := { H₀.sup with ctxDone := true } }) ∨
          (h ≠ old ∧ w.holders h = some H') := by
      intro h H' hH'
      by_cases hh : h = old
      · subst hh; simp at hH'; exact .inl ⟨rfl, hH'.symm⟩
      · exact .inr ⟨hh, by simpa [Function.update_noteq hh] using hH'⟩
    refine ⟨hi.of_holders rfl rfl rfl rfl rfl (fun h H' hH' => ?_) (fun h H hH => ?_)
      (fun n hn => by simp [Function.update_apply, hn]) (fun c n ho => ?_),
      fun h H' hH' hkey => ?_⟩
    · rcases hsame h H' hH' with ⟨rfl, rfl⟩ | ⟨-, hH⟩
      · exact ⟨H₀, hH₀, rfl, rfl, fun _ => rfl, rfl⟩
      · exact ⟨H', hH, rfl, rfl, id, rfl⟩
    · by_cases hh : h = old
      · subst hh; exact ⟨{ H₀ with sup := { H₀.sup with ctxDone := true } }, by simp⟩
      · exact ⟨H, by simpa [Function.update_noteq hh] using hH⟩
    · simp [Function.update_noteq (Ne.symm (hi.owns_holder c n old H₀ ho hH₀))]
    · rcases hsame h H' hH' with ⟨rfl, rfl⟩ | ⟨hne, hH⟩
      · simp
      · have hs := hi.superseded h H' hH (by rw [hkey, hk]; simpa using Ne.symm hne)
        simp [Function.update_apply, hs.1, hs.2]

/-- The second half of the critical section: the new holder is filed under its key and
its supervisor started, and the call returns. -/
theorem World.Inv.file_setCall {w : World} {c : Nat} {call : Call} (hi : w.Inv)
    (hc : w.calls c = some call) (hpc : call.pc = .install) (hall : w.AllClosed call.target.key) :
    ((w.file call.target.key ⟨call.target.key, call.conn, Sup.init call.target⟩).setCall c
      { call with pc := .done (.ok ()) }).Inv := by
  have hownc : w.Owns c call.conn := ⟨call, hc, by simp [hpc, CallPc.ownsConn], rfl⟩
  have hown : ∀ c' n, ((w.file call.target.key ⟨call.target.key, call.conn,
      Sup.init call.target⟩).setCall c { call with pc := .done (.ok ()) }).Owns c' n →
      c' ≠ c ∧ w.Owns c' n := by
    intro c' n ho
    exact ⟨ho.ne_of_setCall (p := .done (.ok ())) rfl, ho.of_setCall hc (by simp [CallPc.ownsConn])⟩
  have hnew : ∀ h H, (Function.update w.holders w.nextHolder
      (some ⟨call.target.key, call.conn, Sup.init call.target⟩)) h = some H →
      (h = w.nextHolder ∧ H = ⟨call.target.key, call.conn, Sup.init call.target⟩) ∨
        (h ≠ w.nextHolder ∧ w.holders h = some H) := by
    intro h H hH
    by_cases hh : h = w.nextHolder
    · subst hh; simp at hH; exact .inl ⟨rfl, hH.symm⟩
    · exact .inr ⟨hh, by simpa [Function.update_noteq hh] using hH⟩
  exact {
    holder_lt := fun h H hH => by
      rcases hnew h H hH with ⟨rfl, -⟩ | ⟨-, hH⟩
      · simp
      · simpa using Nat.lt_succ_of_lt (hi.holder_lt h H hH)
    entry := fun k h hk => by
      by_cases hkk : k = call.target.key
      · subst hkk
        simp only [World.setCall_imports, World.file_imports, Function.update_same,
          Option.some.injEq] at hk
        subst hk
        exact ⟨⟨call.target.key, call.conn, Sup.init call.target⟩, by simp, rfl⟩
      · obtain ⟨H, hH, hkey⟩ := hi.entry k h (by simpa [Function.update_noteq hkk] using hk)
        have hne : h ≠ w.nextHolder := Nat.ne_of_lt (hi.holder_lt h H hH)
        exact ⟨H, by simpa [Function.update_noteq hne] using hH, hkey⟩
    latest := fun h H hH => by
      rcases hnew h H hH with ⟨rfl, rfl⟩ | ⟨-, hH⟩
      · exact ⟨w.nextHolder, by simp, Nat.le_refl _⟩
      · by_cases hkk : H.key = call.target.key
        · exact ⟨w.nextHolder, by simp [hkk], Nat.le_of_lt (hi.holder_lt h H hH)⟩
        · simpa [Function.update_noteq hkk] using hi.latest h H hH
    superseded := fun h H hH hne => by
      rcases hnew h H hH with ⟨rfl, rfl⟩ | ⟨-, hH⟩
      · simp at hne
      · by_cases hkk : H.key = call.target.key
        · simpa using hall h H hH hkk
        · simpa using hi.superseded h H hH (by simpa [Function.update_noteq hkk] using hne)
    holder_key := fun h H hH => by
      rcases hnew h H hH with ⟨-, rfl⟩ | ⟨-, hH⟩
      · rfl
      · exact hi.holder_key h H hH
    holder_conn := fun h H hH => by
      rcases hnew h H hH with ⟨-, rfl⟩ | ⟨-, hH⟩
      · exact hi.owns_lt c _ hownc
      · exact hi.holder_conn h H hH
    call_lt := fun c' x hx => by
      by_cases hcc : c' = c
      · exact hcc ▸ hi.call_lt c call hc
      · exact hi.call_lt c' x (by simpa [Function.update_noteq hcc] using hx)
    owns_lt := fun c' n ho => hi.owns_lt c' n (hown c' n ho).2
    owns_holder := fun c' n h H ho hH => by
      obtain ⟨hcc, ho⟩ := hown c' n ho
      rcases hnew h H hH with ⟨-, rfl⟩ | ⟨-, hH⟩
      · intro heq
        exact hcc (hi.owns_unique c' c n ho (heq ▸ hownc))
      · exact hi.owns_holder c' n h H ho hH
    owns_unique := fun c₁ c₂ n ho₁ ho₂ =>
      hi.owns_unique c₁ c₂ n (hown c₁ n ho₁).2 (hown c₂ n ho₂).2
    owns_open := fun c' n ho => hi.owns_open c' n (hown c' n ho).2 }


/-- A unary call on the Route service changes nothing the invariant reads. -/
theorem World.Inv.issue {w : World} (hi : w.Inv) (r : Rpc) : (w.issue r).Inv :=
  hi.of_calls rfl rfl rfl (fun _ h => h) rfl hi.call_lt (fun _ _ h => h) (fun _ _ _ => rfl)

/-- A new call starts at `parse`, holding nothing. -/
theorem World.Inv.setupBegin {w : World} (hi : w.Inv) (inst : UInt32) (name : String) :
    { w.setCall w.nextCall ⟨⟨name, inst⟩, 0, .parse⟩ with nextCall := w.nextCall + 1 }.Inv := by
  refine hi.of_calls rfl rfl rfl (fun _ h => h) rfl (fun c x hx => ?_)
    (fun _ _ ho => World.Owns.of_setCall_idle (x := ⟨⟨name, inst⟩, 0, .parse⟩) rfl ho)
    (fun _ _ _ => rfl)
  by_cases hc : c = w.nextCall
  · exact hc ▸ Nat.lt_succ_self _
  · exact Nat.lt_succ_of_lt (hi.call_lt c x (by simpa [Function.update_noteq hc] using hx))

/-- A call that gives up its connection and closes it keeps the invariant. -/
theorem World.Inv.closeOwn {w : World} {c : Nat} {call : Call} {p : CallPc} (hi : w.Inv)
    (hc : w.calls c = some call) (hpc : call.pc.ownsConn = true) (hp : p.ownsConn = false) :
    ((w.closeConn call.conn).setCall c { call with pc := p }).Inv := by
  have hown : ∀ c' n, ((w.closeConn call.conn).setCall c { call with pc := p }).Owns c' n →
      n ≠ call.conn ∧ w.Owns c' n := fun c' n ho => by
    have ho' : w.Owns c' n := ho.of_setCall hc (by simp [hp])
    refine ⟨fun hn => ho.ne_of_setCall hp ?_, ho'⟩
    exact hi.owns_unique c' c n ho' (hn ▸ ⟨call, hc, hpc, rfl⟩)
  refine hi.of_calls rfl rfl rfl (fun n hn => by simp [Function.update_apply, hn]) rfl
    (fun c' x hx => ?_) (fun c' n ho => (hown c' n ho).2)
    (fun c' n ho => by simp [Function.update_noteq (hown c' n ho).1])
  by_cases hcc : c' = c
  · exact hcc ▸ hi.call_lt c call hc
  · exact hi.call_lt c' x (by simpa [Function.update_noteq hcc] using hx)

/-- One step of a holder's supervisor keeps the invariant. -/
theorem World.Inv.supervise {w : World} {h : Nat} {H : Holder} {a : SupAct} {s : Sup}
    (hi : w.Inv) (hH : w.holders h = some H) (hm : SupMove w.quit H.sup a s) :
    (w.afterSupervise h H s).Inv := by
  refine hi.of_holders (by simp) (by simp) (by simp) (by simp) (by simp) (fun h' H' hH' => ?_)
    (fun h' H' hH' => ?_) (fun n hn => by simp [World.afterSupervise_conns, hn])
    (fun c n ho => by
      simp [World.afterSupervise_conns, Ne.symm (hi.owns_holder c n h H ho hH)])
  · by_cases hh : h' = h
    · subst hh
      simp only [World.afterSupervise_holders, Function.update_same, Option.some.injEq] at hH'
      subst hH'
      exact ⟨H, hH, rfl, rfl, hm.ctxDone_mono, hm.target_eq⟩
    · exact ⟨H', by simpa [Function.update_noteq hh] using hH', rfl, rfl, id, rfl⟩
  · by_cases hh : h' = h
    · exact ⟨{ H with sup := s }, by simp [hh]⟩
    · exact ⟨H', by simpa [Function.update_noteq hh] using hH'⟩

/-- **One step of the service keeps the invariant.** -/
theorem WorldMove.inv {w w' : World} {a : WorldAct} (h : WorldMove w a w') (hi : w.Inv) :
    w'.Inv := by
  cases h with
  | setupBegin => exact hi.setupBegin _ _
  | @setup _ call _ _ hc hm =>
    cases hm with
    | parsed => exact hi.setCall hc (by simp [CallPc.ownsConn])
    | parseFailed => exact hi.setCall hc (by simp [CallPc.ownsConn])
    | dialed => exact hi.dialed hc
    | dialFailed => exact hi.setCall hc (by simp [CallPc.ownsConn])
    | inserted hpc => exact (hi.issue _).setCall hc (by simp [hpc, CallPc.ownsConn])
    | insertFailed => exact (hi.issue _).setCall hc (by simp [CallPc.ownsConn])
    | flushedStatic hpc => exact (hi.issue _).closeOwn hc (by simp [hpc, CallPc.ownsConn]) rfl
    | flushedNil hpc | flushedBird hpc => exact (hi.issue _).setCall hc (by simp [hpc, CallPc.ownsConn])
    | flushFailed => exact (hi.issue _).setCall hc (by simp [CallPc.ownsConn])
    | fed hpc => exact hi.setCall hc (by simp [hpc, CallPc.ownsConn])
    | feedFailed => exact hi.setCall hc (by simp [CallPc.ownsConn])
    | installed hpc =>
      obtain ⟨hr, hall⟩ := hi.replace call.target.key
      exact hr.file_setCall (by simpa using hc) hpc hall
  | supervise hH hm => exact hi.supervise hH hm
  | closeQuit =>
    exact hi.of_calls rfl rfl rfl (fun _ h => h) rfl hi.call_lt (fun _ _ h => h) (fun _ _ _ => rfl)

/-- **The invariant holds in every reachable state**, whatever the readers do. -/
theorem WorldReach.inv {R : Sup → SupAct → Prop} {w : World} (h : WorldReach R w) : w.Inv := by
  induction h with
  | init => exact World.Inv.init
  | step _ _ _ hs ih => exact (worldStep_move hs).inv ih

/-- A property that holds of `NewModuleService` and that every step from a state with the
invariant keeps holds in every reachable state. -/
theorem WorldReach.invariant {R : Sup → SupAct → Prop} {P : World → Prop} {w : World}
    (hw : WorldReach R w) (h₀ : P World.init)
    (hstep : ∀ {w w' a}, w.Inv → P w → WorldMove w a w' → P w') : P w := by
  induction hw with
  | init => exact h₀
  | step _ hw₀ _ hs ih => exact hstep hw₀.inv ih (worldStep_move hs)


/-! ## §4 The registry -/

/-- The only step that writes the registry is the critical section of a call at
`install`, and it files the next holder number, its own, under the call's key. -/
theorem WorldMove.imports_or_install {w w' : World} {a : WorldAct} (h : WorldMove w a w') :
    w'.imports = w.imports ∨ ∃ c call, a = .setup c .locked ∧ w.calls c = some call ∧
      call.pc = .install ∧
      w'.imports = Function.update w.imports call.target.key (some w.nextHolder) ∧
      w'.holders w.nextHolder = some ⟨call.target.key, call.conn, Sup.init call.target⟩ ∧
      w'.nextHolder = w.nextHolder + 1 := by
  cases h with
  | @setup c call _ _ hc hm =>
    cases hm with
    | installed hpc =>
      exact .inr ⟨c, call, rfl, hc, hpc, funext fun _ => by simp [World.processBirdImport,
        Function.update_apply], by simp [World.processBirdImport, Function.update_apply],
        by simp [World.processBirdImport]⟩
    | _ => exact .inl rfl
  | supervise => exact .inl (by simp)
  | _ => exact .inl rfl

/-- A holder whose context is live is its key's entry. -/
theorem World.Inv.entry_of_live {w : World} {h : Nat} {H : Holder} (hi : w.Inv)
    (hH : w.holders h = some H) (hlive : H.sup.ctxDone = false) : w.imports H.key = some h :=
  Classical.byContradiction fun hne => by simp [(hi.superseded h H hH hne).1] at hlive

/-- What the registry promises in a state. -/
structure World.RegistrySound (w : World) : Prop where
  /-- An entry names a holder filed under its key, the newest one of the key. -/
  entry_newest : ∀ k h, w.imports k = some h → ∃ H, w.holders h = some H ∧ H.key = k ∧
    ∀ h' H', w.holders h' = some H' → H'.key = k → h' ≤ h
  /-- Every other holder ever filed has been cancelled and its connection closed. -/
  others_stopped : ∀ h H, w.holders h = some H → w.imports H.key ≠ some h →
    H.sup.ctxDone = true ∧ w.conns H.conn = true
  /-- No step but the critical section of a call at `install` writes the registry; that
  step files the call's own holder, numbered in order of entry, under the call's key. -/
  writes : ∀ a w', worldStep w a = some w' → w'.imports = w.imports ∨
    ∃ c call, a = .setup c .locked ∧ w.calls c = some call ∧ call.pc = .install ∧
      w'.imports = Function.update w.imports call.target.key (some w.nextHolder) ∧
      w'.holders w.nextHolder = some ⟨call.target.key, call.conn, Sup.init call.target⟩ ∧
      w'.nextHolder = w.nextHolder + 1
  /-- At most one holder per key has a live context. -/
  one_live : ∀ h₁ h₂ H₁ H₂, w.holders h₁ = some H₁ → w.holders h₂ = some H₂ →
    H₁.key = H₂.key → H₁.sup.ctxDone = false → H₂.sup.ctxDone = false → h₁ = h₂

/-- **Registry replacement.** In every state reachable under any interleaving of calls and
supervisors, whatever the readers do, the registry keeps its promises. -/
theorem registry_replacement {R : Sup → SupAct → Prop} {w : World} (hw : WorldReach R w) :
    w.RegistrySound := by
  have hi := hw.inv
  refine ⟨fun k h hk => ?_, hi.superseded, fun _ _ hs => (worldStep_move hs).imports_or_install,
    fun h₁ h₂ H₁ H₂ hH₁ hH₂ hkey hl₁ hl₂ => ?_⟩
  · obtain ⟨H, hH, hkey⟩ := hi.entry k h hk
    refine ⟨H, hH, hkey, fun h' H' hH' hk' => ?_⟩
    obtain ⟨h'', he, hle⟩ := hi.latest h' H' hH'
    rw [hk', hk, Option.some.injEq] at he
    exact he ▸ hle
  · have he := hi.entry_of_live hH₁ hl₁
    rw [hkey, hi.entry_of_live hH₂ hl₂, Option.some.injEq] at he
    exact he.symm


/-- Two BIRD setups of one key: the second call's holder is the entry. -/
theorem registry_after_second_setup :
    ∃ w, worldRun World.init (succeedingSetup 0 1 "a" ⟨[], some ⟨["bird.sock"]⟩⟩ ++
        succeedingSetup 1 1 "a" ⟨[], some ⟨["bird.sock"]⟩⟩) = some w ∧
      w.imports ⟨"a", 1⟩ = some 1 ∧ w.RegistrySound :=
  ⟨_, rfl, rfl, registry_replacement (@worldRun_reach _ _ (succeedingSetup 0 1 "a"
    ⟨[], some ⟨["bird.sock"]⟩⟩ ++ succeedingSetup 1 1 "a" ⟨[], some ⟨["bird.sock"]⟩⟩) .init rfl)⟩

end RouteCoordinator
