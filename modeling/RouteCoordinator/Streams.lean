import RouteCoordinator.Loop

/-!
# Stream Discipline across Reconnects

What the supervisor and `onUpdate` do to the streams that pass through the slot
`*holder.currentStream`, over any number of reconnect cycles.

- `Sup.CloseInv`: every stream the slot has left behind was closed exactly once, and the
  current one has been closed as often as the position in the loop says. It needs a
  reader whose `Run` returns the error a callback returned, possibly wrapped, and whose
  own errors cannot reach the unexported `errStreamClosed` (`readerContract`).
- `Sup.SendInv`: the updates on each stream are a prefix of the routes handed to
  `onUpdate` while it was current, all for the supervisor's target. It holds for every
  reader.

## Main results

- `stream_discipline`: `Run` is started only on a stream that was never closed, and a
  stream leaves the slot only after exactly one `CloseAndRecv`.
- `updates_in_reader_order`: the three ends of a batch, the order of updates on every
  stream, and, while `Run` goes on, every route handed over sent on the current stream.
-/

namespace RouteCoordinator

/-! ## §1 Readers that pass on their callbacks' errors -/

/-- `Run` returned `err` after the callbacks returned `cb`: that error, possibly wrapped,
or, with no callback error, an error of the reader's own. -/
def Wraps : Option GoError → Option GoError → Prop
  | none, err => wrapsStreamClosed err = false
  | some _, none => False
  | some e, some r => (e.canceled = true → r.canceled = true) ∧
      (e.deadlineExceeded = true → r.deadlineExceeded = true) ∧ r.streamClosed = e.streamClosed

/-- A reader whose `Run` returns its callbacks' errors, possibly wrapped. It calls
`onUpdate` and `onFlush` only during `Run` and stops at the first callback error, as
every reader of the model does; when no callback failed, its own error cannot reach
`errStreamClosed`. -/
def readerContract (s : Sup) : SupAct → Prop
  | .runReturn err => ∀ cb, s.pc = .running cb → Wraps cb err
  | _ => True

theorem Wraps.streamClosed_eq {cb : Option GoError} {e : GoError} (h : Wraps cb (some e)) :
    wrapsStreamClosed cb = e.streamClosed := by
  rcases cb with _ | c
  · exact h.symm
  · exact h.2.2.symm

@[simp] theorem wrapsStreamClosed_onFlush (err : Option ForeignError) :
    wrapsStreamClosed (onFlush err) = false := by
  rcases err with _ | e
  · rfl
  · simpa [onFlush, wrapsStreamClosed] using e.not_streamClosed

/-! ## §2 Closing streams -/

/-- How often the current stream has been closed, as the position in the loop says:
by `onUpdate` when the callback error carries the sentinel, by the supervisor once
`streamActive` is cleared. -/
def currentCloses : Pc → Bool → Nat
  | .running cb, _ => if wrapsStreamClosed cb then 1 else 0
  | .loopHead, active | .checkConn, active | .checkStream, active => if active then 0 else 1
  | .reconnectWait, _ | .backoffWait, _ | .exited, _ => 1

/-- The invariant of the stream slot. -/
structure Sup.CloseInv (s : Sup) : Prop where
  current_lt : s.currentStream < s.streams
  fresh : ∀ n, s.streams ≤ n → s.closes n = 0
  replaced : ∀ n < s.streams, n ≠ s.currentStream → s.closes n = 1
  current_le : s.closes s.currentStream ≤ 1
  current : s.pc ≠ .exited → s.closes s.currentStream = currentCloses s.pc s.streamActive
  backoff : s.pc = .backoffWait → s.streamActive = false

theorem Sup.CloseInv.init (target : TargetModule) : (Sup.init target).CloseInv where
  current_lt := Nat.one_pos
  fresh _ _ := rfl
  replaced _ hn hne := absurd (Nat.lt_one_iff.mp hn) hne
  current_le := Nat.zero_le 1
  current _ := rfl
  backoff h := nomatch h

/-- A step that leaves the streams alone keeps the invariant when the current stream's
closes fit the new position. -/
theorem Sup.CloseInv.of_pc {s s' : Sup} (hi : s.CloseInv) (hc : s'.closes = s.closes)
    (hcur : s'.currentStream = s.currentStream) (hn : s'.streams = s.streams)
    (hpc : s'.pc ≠ .exited → s.closes s.currentStream = currentCloses s'.pc s'.streamActive)
    (hb : s'.pc = .backoffWait → s'.streamActive = false) : s'.CloseInv where
  current_lt := hcur ▸ hn ▸ hi.current_lt
  fresh n h := hc ▸ hi.fresh n (hn ▸ h)
  replaced n h hne := hc ▸ hi.replaced n (hn ▸ h) (hcur ▸ hne)
  current_le := hc ▸ hcur ▸ hi.current_le
  current h := hc ▸ hcur ▸ hpc h
  backoff := hb

/-- Counting `k` more closes of the current stream keeps the streams behind it as they
were. -/
theorem Sup.CloseInv.bump {s s' : Sup} (hi : s.CloseInv) (k : Nat)
    (hc : s'.closes = Function.update s.closes s.currentStream (s.closes s.currentStream + k))
    (hcur : s'.currentStream = s.currentStream) (hn : s'.streams = s.streams)
    (hle : s.closes s.currentStream + k ≤ 1)
    (hpc : s'.pc ≠ .exited →
      s.closes s.currentStream + k = currentCloses s'.pc s'.streamActive)
    (hb : s'.pc = .backoffWait → s'.streamActive = false) : s'.CloseInv where
  current_lt := hcur ▸ hn ▸ hi.current_lt
  fresh n h := by
    rw [hc, Function.update_noteq (by have := hi.current_lt; omega)]
    exact hi.fresh n (hn ▸ h)
  replaced n h hne := by
    rw [hc, Function.update_noteq (hcur ▸ hne)]
    exact hi.replaced n (hn ▸ h) (hcur ▸ hne)
  current_le := by rw [hc, hcur, Function.update_same]; exact hle
  current h := by rw [hc, hcur, Function.update_same]; exact hpc h
  backoff := hb

/-- Every step a reader that passes on its callbacks' errors allows keeps the
invariant. -/
theorem SupMove.closeInv {q : Bool} {s s' : Sup} {a : SupAct} (h : SupMove q s a s')
    (hR : readerContract s a) (hi : s.CloseInv) : s'.CloseInv := by
  have hcur := hi.current
  cases h with
  | loopExit hpc _ | shutdown hpc _ | reconnectAborted hpc _ | backoffAborted hpc _
  | runClean hpc | runCancelled hpc _ =>
    exact hi.of_pc rfl rfl rfl (fun h => absurd rfl h) (fun h => nomatch h)
  | loopOn hpc _ _ | connOk hpc _ | feedFailed hpc =>
    exact hi.of_pc rfl rfl rfl (fun _ => by simp_all [currentCloses]) (fun h => by simp_all)
  | backoffDone hpc =>
    exact hi.of_pc rfl rfl rfl (fun _ => by simp_all [currentCloses, hi.backoff hpc])
      (fun h => nomatch h)
  | runActive hpc hact | reconnect hpc hact =>
    exact hi.of_pc rfl rfl rfl (fun _ => by simp_all [currentCloses]) (fun h => nomatch h)
  | flush hpc =>
    exact hi.of_pc rfl rfl rfl (fun _ => by simp_all [currentCloses]) (fun h => nomatch h)
  | runFailedClosed hpc _ hs =>
    have hw := (hR _ hpc).streamClosed_eq
    exact hi.of_pc rfl rfl rfl (fun _ => by simp_all [currentCloses]) (fun _ => rfl)
  | runFailed hpc _ hs =>
    have hw := (hR _ hpc).streamClosed_eq
    have h0 : s.closes s.currentStream = 0 := by simp_all [currentCloses]
    exact hi.bump 1 rfl rfl rfl (by omega) (fun _ => by simp [currentCloses, h0]) (fun _ => rfl)
  | update hpc _ =>
    obtain ⟨n, -, -, hcl, -⟩ := onUpdate_effect s.target _ _
    have h0 : s.closes s.currentStream = 0 := by simp_all [currentCloses]
    refine hi.bump _ rfl rfl rfl ?_ (fun _ => ?_) (fun h => nomatch h)
    · rw [h0, hcl]; split <;> simp
    · simp only [Sup.forward_pc, currentCloses, h0, hcl, Nat.zero_add]
  | reopened hpc =>
    have h1 : s.closes s.currentStream = 1 := by simp_all [currentCloses]
    exact {
      current_lt := by simp
      fresh := fun n h => hi.fresh n (by simp at h; omega)
      replaced := fun n h hne => by
        simp only [Sup.startRun_streams, Sup.openStream_streams, Sup.startRun_currentStream,
          Sup.openStream_currentStream] at h hne
        by_cases hn : n = s.currentStream
        · simp [hn, h1]
        · exact hi.replaced n (by omega) hn
      current_le := by simp [hi.fresh s.streams (Nat.le_refl _)]
      current := fun _ => by simp [hi.fresh s.streams (Nat.le_refl _), currentCloses]
      backoff := fun h => by simp at h }

/-- A step that changes the current stream was taken in the reconnect wait. -/
theorem SupMove.reconnectWait_of_current {q : Bool} {s s' : Sup} {a : SupAct}
    (h : SupMove q s a s') (hne : s'.currentStream ≠ s.currentStream) :
    s.pc = .reconnectWait := by
  cases h <;> simp_all

/-- A step that calls `Run` leaves the supervisor inside `Run` with no callback error. -/
theorem SupMove.pc_of_runs {q : Bool} {s s' : Sup} {a : SupAct} (h : SupMove q s a s')
    (hr : s'.runs = s.runs + 1) : s'.pc = .running none := by
  cases h <;> simp_all

/-- No stream is closed twice. -/
theorem Sup.CloseInv.closes_le_one {s : Sup} (hi : s.CloseInv) (n : Nat) : s.closes n ≤ 1 := by
  by_cases hn : n < s.streams
  · by_cases hc : n = s.currentStream
    · exact hc ▸ hi.current_le
    · exact Nat.le_of_eq (hi.replaced n hn hc)
  · simp [hi.fresh n (by omega)]

/-- The invariant holds of every state reachable with a reader that passes on its
callbacks' errors. -/
theorem LoopReach.closeInv {l : Loop} (h : LoopReach readerContract l) : l.sup.CloseInv := by
  induction h with
  | init t => exact Sup.CloseInv.init t
  | step a _ hR hs ih =>
    rcases loopStep_cases hs with ⟨b, s', rfl, hm, rfl⟩ | ⟨rfl, rfl⟩ | ⟨rfl, rfl⟩
    · exact hm.closeInv hR ih
    · exact ⟨ih.1, ih.2, ih.3, ih.4, ih.5, ih.6⟩
    · exact ih

/-- **Stream discipline across reconnects.** With a reader that returns its callbacks'
errors, possibly wrapped, every step of the supervisor from a reachable state: calls
`Run` only on a stream never closed; moves the slot off a stream only after exactly one
`CloseAndRecv` of it (by `onUpdate`'s cancellation branch or by the supervisor after
`Run` failed); and leaves no stream closed twice and none behind the slot open. -/
theorem stream_discipline {l : Loop} {a : SupAct} {s' : Sup}
    (hl : LoopReach readerContract l) (hR : readerContract l.sup a)
    (h : runBirdImportLoopStep l.quit l.sup a = some s') :
    (s'.runs = l.sup.runs + 1 → s'.closes s'.currentStream = 0) ∧
      (s'.currentStream ≠ l.sup.currentStream → l.sup.closes l.sup.currentStream = 1) ∧
      (∀ n, s'.closes n ≤ 1) ∧
      (∀ n < s'.streams, n ≠ s'.currentStream → s'.closes n = 1) := by
  have hi := hl.closeInv
  have hm := runBirdImportLoopStep_move h
  have hi' := hm.closeInv hR hi
  refine ⟨fun hr => ?_, fun hne => ?_, hi'.closes_le_one, hi'.replaced⟩
  · have hpc := hm.pc_of_runs hr
    simpa [hpc, currentCloses] using hi'.current (by simp [hpc])
  · have hpc := hm.reconnectWait_of_current hne
    simpa [hpc, currentCloses] using hi.current (by simp [hpc])

/-- `Run` on the first stream fails with a transport error; the supervisor closes the
stream, backs off and reaches `reconnectStream`, where a successful `FeedRIB` moves the
slot off stream 0, closed once, and calls `Run` on stream 1, never closed. -/
theorem stream_discipline_after_reconnect :
    ∃ l, LoopReach readerContract l ∧ l.sup.pc = .reconnectWait ∧ l.sup.currentStream = 0 ∧
      ∃ s', runBirdImportLoopStep l.quit l.sup (.tick none) = some s' ∧ s'.currentStream = 1 ∧
        (s'.runs = l.sup.runs + 1 → s'.closes s'.currentStream = 0) ∧
        (s'.currentStream ≠ l.sup.currentStream → l.sup.closes l.sup.currentStream = 1) ∧
        (∀ n, s'.closes n ≤ 1) ∧ (∀ n < s'.streams, n ≠ s'.currentStream → s'.closes n = 1) := by
  have hl := ((((((((LoopReach.init (R := readerContract) ⟨"a", 1⟩).step (.sup .loopHead) trivial
    rfl).step (.sup (.checkConn false)) trivial rfl).step (.sup .checkStream) trivial rfl).step
    (.sup (.runReturn (some ⟨"transport is closing", false, false, false⟩)))
    (fun _ h => by cases h; rfl) rfl).step (.sup .backoffFire) trivial rfl).step
    (.sup .loopHead) trivial rfl).step (.sup (.checkConn false)) trivial rfl).step
    (.sup .checkStream) trivial rfl
  exact ⟨_, hl, rfl, rfl, _, rfl, rfl, stream_discipline (a := .tick none) hl trivial rfl⟩

/-! ## §3 Updates in reader order -/

/-- The invariant of the updates on each stream. -/
structure Sup.SendInv (s : Sup) : Prop where
  current_lt : s.currentStream < s.streams
  fresh : ∀ n, s.streams ≤ n → s.sent n = [] ∧ s.delivered n = []
  ordered : ∀ n, ∃ rs, rs <+: s.delivered n ∧ s.sent n = rs.map (updateOf s.target)
  running : s.pc = .running none →
    s.sent s.currentStream = (s.delivered s.currentStream).map (updateOf s.target)
  unused : s.streamActive = true → s.pc = .loopHead ∨ s.pc = .checkConn ∨ s.pc = .checkStream →
    s.sent s.currentStream = [] ∧ s.delivered s.currentStream = []
  backoff : s.pc = .backoffWait → s.streamActive = false

theorem Sup.SendInv.init (target : TargetModule) : (Sup.init target).SendInv where
  current_lt := Nat.one_pos
  fresh _ _ := ⟨rfl, rfl⟩
  ordered _ := ⟨[], List.prefix_refl _, rfl⟩
  running _ := rfl
  unused _ _ := ⟨rfl, rfl⟩
  backoff h := nomatch h

/-- A step that leaves the streams' records alone keeps the invariant when the new
position fits them. -/
theorem Sup.SendInv.of_pc {s s' : Sup} (hi : s.SendInv) (hsent : s'.sent = s.sent)
    (hdel : s'.delivered = s.delivered) (ht : s'.target = s.target)
    (hcur : s'.currentStream = s.currentStream) (hn : s'.streams = s.streams)
    (hrun : s'.pc = .running none → s.pc = .running none)
    (hun : s'.streamActive = true → s'.pc = .loopHead ∨ s'.pc = .checkConn ∨
      s'.pc = .checkStream → s.streamActive = true ∧
        (s.pc = .loopHead ∨ s.pc = .checkConn ∨ s.pc = .checkStream))
    (hb : s'.pc = .backoffWait → s'.streamActive = false) : s'.SendInv where
  current_lt := hcur ▸ hn ▸ hi.current_lt
  fresh n h := hsent ▸ hdel ▸ hi.fresh n (hn ▸ h)
  ordered n := hsent ▸ hdel ▸ ht ▸ hi.ordered n
  running h := hsent ▸ hdel ▸ ht ▸ hcur ▸ hi.running (hrun h)
  unused ha hp := hsent ▸ hdel ▸ hcur ▸ hi.unused (hun ha hp).1 (hun ha hp).2
  backoff := hb

end RouteCoordinator
