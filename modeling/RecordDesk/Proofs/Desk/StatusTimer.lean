import RecordDesk.Desk

/-!
The timers of the status line. Each message that the desk shows sets one timer, which carries the number that was
counted for it, and runs out whenever it likes: after later messages, and in any order. The one that belongs to the
message in the line clears it, all others do nothing, and nothing else clears it (`timer_clears_own_message`).

What a step of the desk can do to the line is said once (`DeskStep.Tells`). From it follows what a run keeps
(`TimedSession.Counted`): the timers are those of the messages, in their order, and the session's number is that of
the latest one. Only numbers that no two messages share tell the timers apart, so there may be no more messages than
numbers.
-/

namespace RecordDesk

/-- What can happen in a session. A timer is known by its place among those that were set. -/
inductive SessionEvent where
  | press (k : Key)
  | deliver (e : Delivery)
  | resize (height : Nat)
  | timer (index : Nat)

/-- A session with the numbers of all timers that it has set, the oldest first. None is taken off the list, so a timer
may run out at any time after it was set, and even again. -/
structure TimedSession where
  session : Session
  timers : List Nat

/-- The messages that a step puts into the status line. -/
def DeskStep.messages (r : DeskStep) : List String :=
  r.events.filterMap fun
    | .statusUpdated message => some message
    | _ => none

namespace TimedSession

def desk (w : TimedSession) : Desk := w.session.desk

/-- Takes over a step of the desk, and sets the timer that the session counts for it. -/
def follow (w : TimedSession) (r : DeskStep) : TimedSession :=
  let s := w.session.follow r
  ⟨s, if r.events.any Session.setsStatus then w.timers ++ [s.token] else w.timers⟩

/-- A new desk on a screen of some height, whose first tab is loaded. -/
def opened (start : Kind) (height : Nat) : TimedSession :=
  let desk := (Desk.new start).setViewport height
  follow ⟨⟨desk, 0⟩, []⟩ desk.start

/-- The step of the desk that an event is. -/
def deskStep (w : TimedSession) : SessionEvent → DeskStep
  | .press k => w.desk.press k
  | .deliver e => w.desk.deliver e
  | .resize height => ⟨w.desk.setViewport height, [], []⟩
  | .timer _ => ⟨w.desk, [], []⟩

def step (w : TimedSession) (e : SessionEvent) : TimedSession :=
  match e with
  | .timer index =>
    match w.timers[index]? with
    | some token => { w with session := w.session.timer token }
    | none => w
  | e => w.follow (w.deskStep e)

def run (w : TimedSession) (es : List SessionEvent) : TimedSession := es.foldl step w

/-- All messages of a run, the oldest first. -/
def messages (w : TimedSession) : List SessionEvent → List String
  | [] => []
  | e :: es => (w.deskStep e).messages ++ (w.step e).messages es

/-- The same with an empty status line. -/
def cleared (w : TimedSession) : TimedSession :=
  { w with session := { w.session with desk := { w.desk with statusLine := none } } }

end TimedSession

/-! ## What a step says -/

/-- A step sets one message and shows it, or it says nothing and leaves the line as it was. -/
inductive DeskStep.Tells (d : Desk) (r : DeskStep) : Prop where
  | nothing (messages : r.messages = []) (line : r.desk.statusLine = d.statusLine)
  | message (m : String) (messages : r.messages = [m]) (line : r.desk.statusLine = some m)

namespace Desk

variable (d : Desk)

theorem tells_stepTab (k : Kind) (r : Tab × List Command) : (d.stepTab k r).Tells d := .nothing rfl rfl

theorem tells_showTab (k : Kind) : (d.showTab k).Tells d := .nothing rfl rfl

theorem tells_press (k : Key) : (d.press k).Tells d := by
  have horder (order : DeskOrder) (h : d.order? k = some order) : (d.dispatch order).Tells d := by
    unfold order? at h
    split at h
    · cases h
      exact .nothing rfl rfl
    · split at h
      · cases h
      · cases h
        exact d.tells_showTab _
    · split at h
      · cases h
      · cases h
        exact d.tells_showTab _
    · cases h
  unfold press
  split
  · next order h => exact horder order h
  · exact d.tells_stepTab _ _

theorem tells_deliver (e : Delivery) : (d.deliver e).Tells d := by
  unfold deliver
  dsimp only
  split
  · exact d.tells_stepTab _ _
  · split
    · exact d.tells_stepTab _ _
    · exact .message _ rfl rfl

end Desk

namespace TimedSession

variable {w : TimedSession}

theorem tells_deskStep (w : TimedSession) (e : SessionEvent) : (w.deskStep e).Tells w.desk := by
  cases e with
  | press k => exact w.desk.tells_press k
  | deliver e => exact w.desk.tells_deliver e
  | resize height => exact .nothing rfl rfl
  | timer index => exact .nothing rfl rfl

theorem any_setsStatus (r : DeskStep) : r.events.any Session.setsStatus = !r.messages.isEmpty := by
  unfold DeskStep.messages
  induction r.events with
  | nil => rfl
  | cons event events ih =>
    cases event with
    | statusUpdated m => rfl
    | tabChanged k => exact ih
    | statusCleared => exact ih
    | quitRequested => exact ih

/-! ## Steps -/

theorem follow_of_no_messages {r : DeskStep} (h : r.messages = []) :
    w.follow r = ⟨⟨r.desk, w.session.token⟩, w.timers⟩ := by
  have hany : r.events.any Session.setsStatus = false := by rw [any_setsStatus, h]; rfl
  unfold follow Session.follow
  simp only [hany, Bool.false_eq_true, if_false]

theorem follow_of_message {r : DeskStep} {m : String} (h : r.messages = [m]) :
    w.follow r = ⟨⟨r.desk, min (w.session.token + 1) Session.lastToken⟩,
      w.timers ++ [min (w.session.token + 1) Session.lastToken]⟩ := by
  have hany : r.events.any Session.setsStatus = true := by rw [any_setsStatus, h]; rfl
  unfold follow Session.follow
  simp only [hany, if_true]

/-- A timer that runs out clears the line if its number is the session's, and else does nothing. -/
theorem step_timer {index token : Nat} (h : w.timers[index]? = some token) :
    w.step (.timer index) = if token = w.session.token then w.cleared else w := by
  unfold step
  simp only [h, Session.timer]
  split
  · rfl
  · rfl

theorem step_timer_of_not_set {index : Nat} (h : w.timers[index]? = none) : w.step (.timer index) = w := by
  unfold step
  simp only [h]

/-- A step sets one timer for a message, which carries the number that the session then has, and no other timer. -/
theorem timers_step (w : TimedSession) (e : SessionEvent) :
    (w.step e).timers = w.timers ++ (w.deskStep e).messages.map fun _ => (w.step e).session.token := by
  have hfollow : (w.follow (w.deskStep e)).timers =
      w.timers ++ (w.deskStep e).messages.map fun _ => (w.follow (w.deskStep e)).session.token := by
    rcases w.tells_deskStep e with ⟨hmessages, -⟩ | ⟨m, hmessages, -⟩
    · rw [follow_of_no_messages hmessages, hmessages, List.map_nil, List.append_nil]
    · rw [follow_of_message hmessages, hmessages]
      rfl
  cases e with
  | press | deliver | resize => exact hfollow
  | timer index =>
    refine Eq.trans ?_ (List.append_nil _).symm
    cases h : w.timers[index]? with
    | none => rw [step_timer_of_not_set h]
    | some token =>
      rw [step_timer h]
      split
      · rfl
      · rfl

/-! ## Runs -/

/-- The number of the message with an index. -/
def tokenOf (index : Nat) : Nat := min (index + 1) Session.lastToken

theorem tokenOf_eq {index : Nat} (h : index < Session.lastToken) : tokenOf index = index + 1 :=
  Nat.min_eq_left h

/-- After some messages: each has its timer, the session's number is that of the latest one, and the line shows that one
or nothing. -/
structure Counted (w : TimedSession) (ms : List String) : Prop where
  timers : w.timers = (List.range ms.length).map tokenOf
  token : w.session.token = min ms.length Session.lastToken
  line : ∀ m, w.desk.statusLine = some m → ms.getLast? = some m

variable {ms : List String}

theorem counted_opened (start : Kind) (height : Nat) : (opened start height).Counted [] :=
  ⟨rfl, rfl, fun _ h => nomatch h⟩

theorem Counted.cleared (h : w.Counted ms) : w.cleared.Counted ms := ⟨h.timers, h.token, fun _ hm => nomatch hm⟩

theorem Counted.follow (h : w.Counted ms) {r : DeskStep} (tells : r.Tells w.desk) :
    (w.follow r).Counted (ms ++ r.messages) := by
  rcases tells with ⟨hmessages, hline⟩ | ⟨m, hmessages, hline⟩
  · rw [follow_of_no_messages hmessages, hmessages, List.append_nil]
    exact ⟨h.timers, h.token, fun m hm => h.line m (hline.symm.trans hm)⟩
  · have htoken : min (w.session.token + 1) Session.lastToken = tokenOf ms.length := by
      have := h.token
      unfold tokenOf
      omega
    rw [follow_of_message hmessages, hmessages, htoken]
    refine ⟨?_, ?_, fun m' hm' => ?_⟩
    · rw [h.timers, List.length_append, List.length_singleton, List.range_succ, List.map_append]
      rfl
    · rw [List.length_append]
      rfl
    · rw [← hline.symm.trans hm', List.getLast?_concat]

theorem Counted.step (h : w.Counted ms) (e : SessionEvent) :
    (w.step e).Counted (ms ++ (w.deskStep e).messages) := by
  cases e with
  | press | deliver | resize => exact h.follow (w.tells_deskStep _)
  | timer index =>
    have hnone : (w.deskStep (.timer index)).messages = [] := rfl
    rw [hnone, List.append_nil]
    cases ht : w.timers[index]? with
    | none =>
      rw [step_timer_of_not_set ht]
      exact h
    | some token =>
      rw [step_timer ht]
      split
      · exact h.cleared
      · exact h

theorem Counted.run (h : w.Counted ms) (es : List SessionEvent) : (w.run es).Counted (ms ++ w.messages es) := by
  induction es generalizing w ms with
  | nil => exact (List.append_nil ms).symm ▸ h
  | cons e es ih =>
    have hrest := ih (h.step e)
    rw [List.append_assoc] at hrest
    exact hrest

/-- As long as the numbers suffice, a timer that runs out clears the line if it is the latest message's, and else it
does nothing. -/
theorem Counted.step_timer (h : w.Counted ms) (hfew : ms.length ≤ Session.lastToken) {index : Nat}
    (hindex : index < ms.length) : w.step (.timer index) = if index + 1 = ms.length then w.cleared else w := by
  have hset : w.timers[index]? = some (index + 1) := by
    rw [h.timers, List.getElem?_map, List.getElem?_range hindex, Option.map_some,
      tokenOf_eq (Nat.lt_of_lt_of_le hindex hfew)]
  have htoken : w.session.token = ms.length := by rw [h.token, Nat.min_eq_left hfew]
  rw [TimedSession.step_timer hset, htoken]

theorem Counted.step_timer_of_not_set (h : w.Counted ms) {index : Nat} (hindex : ms.length ≤ index) :
    w.step (.timer index) = w := by
  apply TimedSession.step_timer_of_not_set
  rw [h.timers, List.getElem?_eq_none_iff, List.length_map, List.length_range]
  exact hindex

/-- Keys, results and resizing never empty the line. -/
theorem ne_none_of_tells {d : Desk} {r : DeskStep} (tells : r.Tells d) (hshown : d.statusLine ≠ none) :
    r.desk.statusLine ≠ none := by
  rcases tells with ⟨-, hline⟩ | ⟨m, -, hline⟩
  · rwa [hline]
  · simp [hline]

/-- Only the timer of the latest message empties the line. -/
theorem Counted.eq_timer_of_empty (h : w.Counted ms) (hfew : ms.length ≤ Session.lastToken)
    (hshown : w.desk.statusLine ≠ none) {e : SessionEvent} (hempty : (w.step e).desk.statusLine = none) :
    e = .timer (ms.length - 1) := by
  cases e with
  | press k => exact absurd hempty (ne_none_of_tells (w.desk.tells_press k) hshown)
  | deliver d => exact absurd hempty (ne_none_of_tells (w.desk.tells_deliver d) hshown)
  | resize height => exact absurd hempty (ne_none_of_tells (w.tells_deskStep (.resize height)) hshown)
  | timer index =>
    by_cases hset : index < ms.length
    · rw [h.step_timer hfew hset] at hempty
      split at hempty
      · next hlast => rw [← hlast, Nat.add_sub_cancel]
      · exact absurd hempty hshown
    · rw [h.step_timer_of_not_set (Nat.le_of_not_lt hset)] at hempty
      exact absurd hempty hshown

/-- A timer never clears a message newer than its own. In a run with fewer messages than there are numbers, each message
sets one timer, which has the place among the timers that the message has among the messages. When a timer runs out, it
clears the line if no message was set after its own, and else nothing changes. And the message in the line is the latest
one, and nothing but its timer empties the line. -/
theorem timer_clears_own_message (start : Kind) (height : Nat) (es : List SessionEvent)
    (hfew : ((opened start height).messages es).length < 2 ^ 64) :
    let w := (opened start height).run es
    let ms := (opened start height).messages es
    w.timers.length = ms.length ∧
    (∀ e, (w.deskStep e).messages.length ≤ 1 ∧
      (w.step e).timers = w.timers ++ (w.deskStep e).messages.map fun _ => (w.step e).session.token) ∧
    (∀ index < ms.length, w.step (.timer index) = if ms.drop (index + 1) = [] then w.cleared else w) ∧
    (∀ m, w.desk.statusLine = some m → ms.getLast? = some m ∧
      ∀ e, (w.step e).desk.statusLine = none → e = .timer (ms.length - 1)) := by
  intro w ms
  have hcounted : w.Counted ms := (counted_opened start height).run es
  have hfew : ms.length ≤ Session.lastToken := Nat.le_sub_one_of_lt hfew
  refine ⟨?_, fun e => ⟨?_, timers_step w e⟩, fun index hindex => ?_, fun m hm => ⟨hcounted.line m hm, fun e he => ?_⟩⟩
  · rw [hcounted.timers, List.length_map, List.length_range]
  · rcases w.tells_deskStep e with ⟨hmessages, -⟩ | ⟨m, hmessages, -⟩
    · simp [hmessages]
    · simp [hmessages]
  · have hlast : ms.drop (index + 1) = [] ↔ index + 1 = ms.length := by
      rw [List.drop_eq_nil_iff]
      omega
    rw [hcounted.step_timer hfew hindex]
    simp only [hlast]
  · exact hcounted.eq_timer_of_empty hfew (by simp [hm]) he

/-- Two tabs behind the one in front fail, one after the other. -/
def twoFailures : List SessionEvent :=
  [.deliver ⟨.jobs, .load, 1, .error "offline"⟩, .deliver ⟨.logs, .load, 1, .error "timed out"⟩]

/-- The timer of the first failure leaves the second one in the line, and that one's own timer clears it. -/
theorem timer_clears_own_message_twoFailures :
    let w := (opened .entities 12).run twoFailures
    (opened .entities 12).messages twoFailures = ["jobs: offline", "logs: timed out"] ∧
      w.desk.statusLine = some "logs: timed out" ∧ w.timers = [1, 2] ∧
      w.step (.timer 0) = w ∧ (w.step (.timer 1)).desk.statusLine = none := by
  intro w
  have hmessages : (opened .entities 12).messages twoFailures = ["jobs: offline", "logs: timed out"] := by
    decide +kernel
  have hlength : ((opened .entities 12).messages twoFailures).length = 2 := congrArg List.length hmessages
  obtain ⟨-, -, hfires, -⟩ := timer_clears_own_message .entities 12 twoFailures (by rw [hlength]; decide)
  have hfirst := hfires 0 (by rw [hlength]; decide)
  have hsecond := hfires 1 (by rw [hlength]; decide)
  simp only [hmessages] at hfirst hsecond
  exact ⟨hmessages, by decide +kernel, by decide +kernel, hfirst, hsecond ▸ rfl⟩

end TimedSession

end RecordDesk
