import NodeDebugDashboard.Frontend.LogViewer

/-! Nothing is lost in the log viewer but what the limit takes: which of the flushed
batches it shows, and that the pending lines have a timer. -/
namespace NodeDebugDashboard.Frontend.LogViewer

open Library

/-- The batches that were flushed since the viewer was emptied. -/
def Socket.flushed (ws : Socket) : List JsString :=
  (ws.batches.drop (ws.opened.getD 0)).map List.flatten

/-- The placeholder that is on top of them until the socket opens. -/
def Socket.placeholder (ws : Socket) : List JsString :=
  if ws.opened.isSome then [] else [connecting]

/-- To trim once more after a node is appended is to trim once in the end. -/
theorem trim_append (size : Int) (nodes : List JsString) (node : JsString) {more : Int}
    (hMore : 0 ≤ more) :
    trim ((trim size nodes).1 + more) ((trim size nodes).2 ++ [node]) =
      trim (size + more) (nodes ++ [node]) := by
  induction size, nodes using trim.induct with
  | case1 size first second rest hOver ih =>
      have hLater : size + more > logMaxChars := by omega
      rw [trim, if_pos hOver, ih]
      conv_rhs => rw [List.cons_append, List.cons_append, trim, if_pos hLater]
      rw [List.cons_append]
      congr 1
      omega
  | case2 size first second rest hWithin => rw [trim, if_neg hWithin]
  | case3 size nodes hShort =>
      have hSame : trim size nodes = (size, nodes) := by
        rw [trim]
        exact hShort
      rw [hSame]

/-- As few of the oldest nodes go as the limit allows. -/
theorem trim_drop (nodes : List JsString) :
    ∃ m, (trim nodes.flatten.length nodes).2 = nodes.drop m ∧
      ∀ k < m, logMaxChars < (nodes.drop k).flatten.length := by
  generalize hSize : (nodes.flatten.length : Int) = size
  induction size, nodes using trim.induct with
  | case1 size first second rest hOver ih =>
      have hRest : ((second :: rest).flatten.length : Int) = size - first.length := by
        rw [← hSize]
        simp only [List.flatten_cons, List.length_append]
        omega
      obtain ⟨m, hDrop, hFew⟩ := ih hRest
      refine ⟨m + 1, ?_, ?_⟩
      · rw [trim, if_pos hOver, hDrop, List.drop_succ_cons]
      · intro k hk
        cases k with
        | zero =>
            rw [List.drop_zero, hSize]
            exact hOver
        | succ k => exact hFew k (Nat.lt_of_succ_lt_succ hk)
  | case2 size first second rest hWithin =>
      exact ⟨0, by rw [trim, if_neg hWithin, List.drop_zero], fun k hk =>
        absurd hk (Nat.not_lt_zero k)⟩
  | case3 size nodes hShort =>
      refine ⟨0, ?_, fun k hk => absurd hk (Nat.not_lt_zero k)⟩
      rw [trim, List.drop_zero]
      exact hShort

/-- The nodes and the counter are what one trimming of everything flushed leaves, and what
is pending has a timer. -/
structure Kept (content : List JsString) (ws : Socket) : Prop where
  trimmed : (ws.size, content) = trim ws.flushed.flatten.length (ws.placeholder ++ ws.flushed)
  reached : ws.opened.getD 0 ≤ ws.batches.length
  timed : ws.pending ≠ [] → ws.flushTimer = true

theorem Kept.new (url : String) : Kept [connecting] { url := url } where
  trimmed := rfl
  reached := Nat.zero_le _
  timed h := absurd rfl h

/-- The viewer is emptied when the socket opens. -/
theorem Kept.onopen {content : List JsString} {ws : Socket} (h : Kept content ws) :
    Kept [] { ws with size := 0, opened := some ws.batches.length } where
  trimmed := by simp [Socket.flushed, Socket.placeholder, trim]
  reached := le_refl _
  timed := h.timed

theorem Kept.appendLine {content : List JsString} {ws : Socket} (h : Kept content ws)
    (text : JsString) :
    Kept content { ws with pending := ws.pending ++ [text], flushTimer := true } where
  trimmed := h.trimmed
  reached := h.reached
  timed _ := rfl

theorem Kept.flush {content : List JsString} {ws : Socket} (h : Kept content ws) :
    let trimmed := trim (ws.size + ws.pending.flatten.length) (content ++ [ws.pending.flatten])
    Kept trimmed.2 { ws with
      flushTimer := false
      pending := []
      size := trimmed.1
      batches := ws.batches ++ [ws.pending] } where
  trimmed := by
    obtain ⟨hSize, hContent⟩ := Prod.mk.inj h.trimmed
    have hFlushed : (ws.batches ++ [ws.pending]).drop (ws.opened.getD 0) =
        ws.batches.drop (ws.opened.getD 0) ++ [ws.pending] :=
          List.drop_append_of_le_length h.reached
    have hTrim :=
      trim_append ws.flushed.flatten.length (ws.placeholder ++ ws.flushed) ws.pending.flatten
      (Int.natCast_nonneg ws.pending.flatten.length)
    rw [← hSize, ← hContent, List.append_assoc] at hTrim
    change trim (ws.size + ws.pending.flatten.length) (content ++ [ws.pending.flatten]) = _
    rw [hTrim]
    simp [Socket.flushed, Socket.placeholder, hFlushed]
  reached := h.reached.trans (by simp)
  timed hPending := absurd rfl hPending

/-- Every socket whose `flushTimer` is set has a timer, and the viewer holds what it can of
the current one. -/
structure TailInv (s : State) : Prop where
  current : ∀ i, s.logSocket = some i → ∃ ws, s.sockets[i]? = some ws ∧ Kept s.content ws
  timers : ∀ (i : Nat) (ws : Socket), s.sockets[i]? = some ws → ws.flushTimer = true → i ∈ s.timers

theorem TailInv.initial : TailInv .initial := ⟨nofun, by simp [State.initial]⟩

/-- What a socket's handler or timer does, when only the current socket touches the viewer. -/
theorem TailInv.set {s : State} (h : TailInv s) {i : Nat} {ws next : Socket}
    {content : List JsString} {timers : List Nat} (hSocket : s.sockets[i]? = some ws)
    (hNext : s.logSocket = some i → Kept s.content ws → Kept content next)
    (hContent : s.logSocket ≠ some i → content = s.content)
    (hTimer : next.flushTimer = true → i ∈ timers) (hTimers : ∀ j ∈ s.timers, j ≠ i → j ∈ timers) :
    TailInv { s with content := content, sockets := s.sockets.set i next, timers := timers } where
  current j hCurrent := by
    obtain ⟨wsj, hj, hKept⟩ := h.current j hCurrent
    by_cases hSame : j = i
    · subst hSame
      obtain rfl := Option.some.inj (hj.symm.trans hSocket)
      have hLength : j < s.sockets.length := (List.getElem?_eq_some_iff.mp hSocket).1
      exact ⟨next, by simp [hLength], hNext hCurrent hKept⟩
    · have hOther : s.logSocket ≠ some i := by
        rw [show s.logSocket = some j from hCurrent]
        exact fun hEq => hSame (Option.some.inj hEq)
      rw [hContent hOther]
      exact ⟨wsj, by simpa [List.getElem?_set_ne (Ne.symm hSame)] using hj, hKept⟩
  timers j wsj hj hFlush := by
    by_cases hSame : j = i
    · subst hSame
      have hLength : j < s.sockets.length := (List.getElem?_eq_some_iff.mp hSocket).1
      obtain rfl : next = wsj := by simpa [hLength] using hj
      exact hTimer hFlush
    · have hOld : s.sockets[j]? = some wsj := by
        simpa [List.getElem?_set_ne (Ne.symm hSame)] using hj
      exact hTimers j (h.timers j wsj hOld hFlush) hSame

theorem TailInv.closeLogSocket {s : State}
    (hTimers : ∀ (i : Nat) (ws : Socket), s.sockets[i]? = some ws → ws.flushTimer = true →
      i ∈ s.timers) :
    TailInv s.closeLogSocket where
  current i hCurrent := by simp [State.closeLogSocket_logSocket] at hCurrent
  timers i ws hSocket hFlush := by
    unfold State.closeLogSocket at hSocket ⊢
    split at hSocket
    · exact hTimers i ws hSocket hFlush
    · rw [List.getElem?_modify] at hSocket
      obtain ⟨old, hOld, rfl⟩ := Option.map_eq_some_iff.mp hSocket
      refine hTimers i old hOld ?_
      split at hFlush <;> exact hFlush

theorem TailInv.connect {s : State} (h : TailInv s) (url : String)
    (hContent : s.content = [connecting]) :
    TailInv (s.connect url) where
  current i hCurrent := by
    obtain rfl := Option.some.inj hCurrent
    refine ⟨{ url := url }, by simp [State.connect], ?_⟩
    change Kept s.content { url := url }
    rw [hContent]
    exact Kept.new url
  timers i ws hSocket hFlush := by
    rcases List.mem_append.mp (List.mem_of_getElem? hSocket) with hOld | hNew
    · have hIndex : i < s.sockets.length := by
        by_contra hBeyond
        rw [State.connect, List.getElem?_append_right (Nat.le_of_not_lt hBeyond)] at hSocket
        obtain ⟨-, rfl⟩ := by simpa [List.getElem?_singleton] using hSocket
        cases hFlush
      exact h.timers i ws
        (by simpa [State.connect, List.getElem?_append_left hIndex] using hSocket) hFlush
    · rw [List.mem_singleton.mp hNew] at hFlush
      cases hFlush

theorem TailInv.handle {s : State} (h : TailInv s) {i : Nat} {ws : Socket}
    (hSocket : s.sockets[i]? = some ws) (event : SocketEvent) : TailInv (s.handle i ws event) := by
  unfold State.handle
  split_ifs with hIgnored
  · exact h
  · have hCurrent : s.logSocket = some i := by
      by_contra hLeft
      exact hIgnored (.inr hLeft)
    have hAppend : ∀ text, TailInv (s.appendLine i ws text) := by
      intro text
      refine h.set hSocket (fun _ hKept => hKept.appendLine text) (fun _ => rfl) ?_ ?_
      · intro _
        split_ifs with hTimer
        · exact h.timers i ws hSocket hTimer
        · simp
      · intro j hMem _
        split_ifs
        · exact hMem
        · exact List.mem_append_left _ hMem
    cases event with
    | onopen =>
        exact h.set hSocket (fun _ hKept => hKept.onopen) (fun hLeft => absurd hCurrent hLeft)
          (h.timers i ws hSocket) fun _ hMem _ => hMem
    | _ => exact hAppend _

theorem TailInv.timeout {s : State} (h : TailInv s) {i k : Nat} {ws : Socket}
    (hTimer : s.timers[k]? = some i) (hSocket : s.sockets[i]? = some ws) :
    TailInv ({ s with timers := s.timers.eraseIdx k }.flush i ws) := by
  have hTimers : ∀ j ∈ s.timers, j ≠ i → j ∈ s.timers.eraseIdx k := by
    intro j hMem hOther
    obtain ⟨m, hIndex⟩ := List.mem_iff_getElem?.mp hMem
    refine List.mem_eraseIdx_iff_getElem?.mpr ⟨m, ?_, hIndex⟩
    rintro rfl
    exact hOther (Option.some.inj (hIndex.symm.trans hTimer))
  unfold State.flush
  split_ifs with hIdle
  · refine h.set hSocket ?_ (fun _ => rfl) nofun hTimers
    intro hCurrent hKept
    have hNone : ws.pending = [] := hIdle.resolve_left (not_not.mpr hCurrent)
    exact ⟨hKept.trimmed, hKept.reached, fun hSome => absurd hNone hSome⟩
  · have hCurrent : s.logSocket = some i := by
      by_contra hLeft
      exact hIdle (.inl hLeft)
    exact h.set hSocket (fun _ hKept => hKept.flush)
      (fun hLeft => absurd hCurrent hLeft) nofun hTimers

theorem TailInv.step {location : Location} {s t : State} {event : Event} (h : TailInv s)
    (hStep : LogViewer.step location s event = some t) : TailInv t := by
  cases event with
  | openLogViewer containerId containerName raises =>
      obtain rfl := Option.some.inj hStep
      have hVacant : TailInv { s with
          hidden := false, title := "Logs: " ++ containerName,
          content := [connecting] }.closeLogSocket :=
        .closeLogSocket h.timers
      cases raises with
      | true => exact hVacant
      | false => exact hVacant.connect _ (State.closeLogSocket_content _)
  | closeLogViewer =>
      obtain rfl := Option.some.inj hStep
      exact .closeLogSocket h.timers
  | socket i event =>
      obtain ⟨ws, hSocket, hStep⟩ := Option.bind_eq_some_iff.mp hStep
      obtain rfl := Option.some.inj hStep
      exact h.handle hSocket event
  | timeout k =>
      obtain ⟨i, hTimer, hStep⟩ := Option.bind_eq_some_iff.mp hStep
      obtain ⟨ws, hSocket, hStep⟩ := Option.bind_eq_some_iff.mp hStep
      obtain rfl := Option.some.inj hStep
      exact h.timeout hTimer hSocket

theorem tailInv_of_runs {location : Location} {events : List Event} {s : State}
    (run : Runs (step location) .initial events s) : TailInv s :=
  run.invariant .initial fun _ _ _ hInv _ hStep => hInv.step hStep

/-- A pending line is shown by a timer that is still to come. -/
theorem TailInv.exists_timeout {location : Location} {s : State} (h : TailInv s)
    {i : Nat} {ws : Socket} (hCurrent : s.logSocket = some i) (hSocket : s.sockets[i]? = some ws)
    (hPending : ws.pending ≠ []) :
    ∃ k t next, LogViewer.step location s (.timeout k) = some t ∧ t.sockets[i]? = some next ∧
      next.pending = [] ∧ next.batches = ws.batches ++ [ws.pending] := by
  obtain ⟨other, hOther, hKept⟩ := h.current i hCurrent
  obtain rfl := Option.some.inj (hOther.symm.trans hSocket)
  obtain ⟨k, hTimer⟩ := List.mem_iff_getElem?.mp (h.timers i other hSocket (hKept.timed hPending))
  have hLength : i < s.sockets.length := (List.getElem?_eq_some_iff.mp hSocket).1
  have hStep : LogViewer.step location s (.timeout k) =
      some ({ s with timers := s.timers.eraseIdx k }.flush i other) := by
    simp [LogViewer.step, hTimer, hSocket]
  have hFlush :
        ({ s with timers := s.timers.eraseIdx k }.flush i other).sockets[i]? = some { other with
      flushTimer := false
      pending := []
      size :=
        (trim (other.size + other.pending.flatten.length) (s.content ++ [other.pending.flatten])).1
      batches := other.batches ++ [other.pending] } := by
    simp [State.flush, hCurrent, hPending, hLength]
  exact ⟨k, _, _, hStep, hFlush, rfl, rfl⟩

/-- The nodes of the viewer are the last of the batches that were flushed since the socket
opened, as many as the limit allows. -/
def Socket.Shown (ws : Socket) (content : List JsString) : Prop :=
  ∃ n m, ws.opened = some n ∧ content = ((ws.batches.drop n).map List.flatten).drop m ∧
    (content.flatten.length ≤ logMaxChars ∨ content.length ≤ 1) ∧
    ∀ k < m, logMaxChars < ((((ws.batches.drop n).map List.flatten).drop k).flatten.length : Int)

theorem TailInv.shown {s : State} (h : TailInv s) {i : Nat} {ws : Socket}
    (hCurrent : s.logSocket = some i) (hSocket : s.sockets[i]? = some ws)
    (hOpened : ws.opened.isSome) : ws.Shown s.content := by
  obtain ⟨other, hOther, hKept⟩ := h.current i hCurrent
  obtain rfl := Option.some.inj (hOther.symm.trans hSocket)
  obtain ⟨n, hSome⟩ := Option.isSome_iff_exists.mp hOpened
  obtain ⟨hSize, hContent⟩ := Prod.mk.inj hKept.trimmed
  have hPlaceholder : other.placeholder = [] := by simp [Socket.placeholder, hSome]
  have hFlushed : other.flushed = (other.batches.drop n).map List.flatten := by
    simp [Socket.flushed, hSome]
  rw [hPlaceholder, List.nil_append] at hContent hSize
  obtain ⟨m, hDrop, hFew⟩ := trim_drop other.flushed
  obtain ⟨-, hLength, hEnd⟩ := trim_spec other.flushed.flatten.length other.flushed
  rw [← hContent] at hDrop hLength hEnd
  rw [hFlushed] at hDrop hFew
  exact ⟨n, m, hSome, hDrop, hEnd.imp_left fun hWithin => by omega, hFew⟩

/-- What came in on the current socket is in its batches or pending, each once and in order.
Once the socket has opened, the viewer shows the batches flushed since then but for the
oldest, of which it leaves out as few as the limit allows; and what is pending has a timer
that flushes it. -/
theorem logViewerTail {location : Location} {events : List Event} {s : State}
    (run : Runs (step location) .initial events s) {i : Nat} (hCurrent : s.logSocket = some i) :
    ∃ ws, s.sockets[i]? = some ws ∧ ws.batches.flatten ++ ws.pending = heard i events ∧
      (.socket i .onopen ∈ events → ws.Shown s.content) ∧
      (ws.pending ≠ [] → ∃ k t next, step location s (.timeout k) = some t ∧
        t.sockets[i]? = some next ∧
        next.pending = [] ∧ next.batches = ws.batches ++ [ws.pending]) := by
  obtain ⟨ws, hSocket, hInv⟩ := (inv_of_runs run).current i hCurrent
  have hTail := tailInv_of_runs run
  refine ⟨ws, hSocket, hInv.texts, ?_, hTail.exists_timeout hCurrent hSocket⟩
  intro hOpened
  exact hTail.shown hCurrent hSocket (hInv.opened hOpened)

/-- Two lines of one batch, and a third that is pending. -/
def threeLines : List Event :=
  [.openLogViewer "a" "first" false, .socket 0 .onopen, .socket 0 (.onmessage (literal "x
")), .socket 0 (.onmessage (literal "y
")), .timeout 0, .socket 0 (.onmessage (literal "z
"))]

theorem logViewerTail_threeLines : ∃ s, Runs (step ⟨"https:", "node"⟩) .initial threeLines s ∧
    s.content = [literal "x
y
"] ∧ ∃ ws, s.sockets[0]? = some ws ∧ ws.batches.flatten ++ ws.pending = heard 0 threeLines ∧
      ws.Shown s.content := by
  have hRun : Runs (step ⟨"https:", "node"⟩) .initial threeLines
      ((execute (step ⟨"https:", "node"⟩) .initial threeLines).get (by decide +kernel)) :=
    runs_of_execute (Option.some_get _).symm
  obtain ⟨ws, hSocket, hTexts, hShown, -⟩ := @logViewerTail _ _ _ hRun 0 (by decide +kernel)
  exact ⟨_, hRun, by decide +kernel, ws, hSocket, hTexts, hShown (by simp [threeLines])⟩

end NodeDebugDashboard.Frontend.LogViewer
