/-
The running time of a booking in progress, `CountdownWidget`.

`init` waits a second, counts, and calls itself while `stopTimer` is unset; nothing ends a
wait that has begun.  The clock is an event, one for each microsecond.
-/

import FiksOpp.Constants
import FiksOpp.Foundations.EventRun

namespace FiksOpp.Countdown

open EventRun

def second : ℕ := 1000000

/-- The number of a text of digits, zero for any other. -/
def toInt (text : Option String) : ℤ :=
  let digits := (text.getD "").toList
  if digits ≠ [] ∧ digits.all Char.isDigit then Nat.ofDigitChars 10 digits 0 else 0

structure CountdownWidget where
  stopTimer : Bool := true
  value : ℤ := 0
  /-- For each call of `init` that waits, the time left of its delay. -/
  delays : List ℕ := []
  mounted : Bool := true
  deriving DecidableEq, Repr

inductive TimerEvent where
  | clock
  | startTimer (status : BookingStatus) (inSeconds : ℤ)
  | pauseTimer
  | dispose
  deriving DecidableEq, Repr

namespace CountdownWidget

def init (widget : CountdownWidget) : CountdownWidget :=
  { widget with delays := widget.delays ++ [second] }

/-- Nothing is built where `startAt` is no date. -/
def initState (now : ℤ) (status : Option BookingStatus) (durationDiff : Option String)
    (startAt : Option ℤ) : Option CountdownWidget :=
  if status = some .inProgress then
    startAt.map fun started =>
      init
        { value :=
            toInt (some (toString (toInt durationDiff + (now - started).tdiv second)))
          stopTimer := false }
  else
    some { value := toInt durationDiff }

/-- A delay that ends counts, also on a widget that is gone. -/
def clock (widget : CountdownWidget) : CountdownWidget :=
  let ended := widget.delays.filter fun left => left ≤ 1
  let waiting := (widget.delays.filter fun left => 1 < left).map fun left => left - 1
  { widget with
    value := widget.value + ended.length
    delays := waiting ++ if widget.stopTimer then [] else ended.map fun _ => second }

def isStop (status : BookingStatus) : Bool :=
  status = .hold || status = .complete

/-- The parameter of the handler is called `value` too, so `value = data['inSeconds']`
leaves the field as it is. -/
def onStartTimer (widget : CountdownWidget) (status : BookingStatus) (_inSeconds : ℤ) :
    CountdownWidget :=
  if isStop status then
    init { widget with stopTimer := true }
  else
    init { widget with stopTimer := false }

def onPauseTimer (widget : CountdownWidget) : CountdownWidget :=
  { widget with stopTimer := true }

def dispose (widget : CountdownWidget) : CountdownWidget :=
  { widget with mounted := false }

def next (widget : CountdownWidget) : TimerEvent → CountdownWidget
  | .clock => widget.clock
  | .startTimer status inSeconds =>
      if widget.mounted then widget.onStartTimer status inSeconds else widget
  | .pauseTimer => if widget.mounted then widget.onPauseTimer else widget
  | .dispose => widget.dispose

end CountdownWidget

def commonStartTimer (isHourlyService : Bool) (status : BookingStatus) (timeInSec : ℤ) :
    Option TimerEvent :=
  if isHourlyService then some (.startTimer status timeInSec) else none

/-- What the reason dialog emits for a hold; `elapsed` is the duration it has sent. -/
def saveHoldClick (durationDiff : Option String) (elapsed : ℤ) : TimerEvent :=
  .startTimer .hold
    (toInt (some (toString (toInt durationDiff + toInt (some (toString elapsed))))))

/-- The widget, and beside it what its events have asked for: the seconds to count from,
whether the time is running, and the microseconds it has been running since. -/
structure World where
  widget : CountdownWidget
  base : ℤ
  running : Bool
  ranFor : ℕ
  deriving DecidableEq, Repr

namespace World

def opened (widget : CountdownWidget) : World :=
  { widget := widget, base := widget.value, running := !widget.stopTimer, ranFor := 0 }

def next (world : World) (event : TimerEvent) : World :=
  let widget := world.widget.next event
  match event with
  | .clock =>
      { world with
        widget := widget
        ranFor := if world.running then world.ranFor + 1 else world.ranFor }
  | .startTimer status inSeconds =>
      if world.widget.mounted then
        { widget := widget
          base := inSeconds
          running := !CountdownWidget.isStop status
          ranFor := 0 }
      else { world with widget := widget }
  | .pauseTimer =>
      if world.widget.mounted then { world with widget := widget, running := false }
      else { world with widget := widget }
  | .dispose => { world with widget := widget, running := false }

end World

def machine : Machine World TimerEvent Empty where
  next := World.next
  outputs := fun _ _ => []

/-- At most one loop, none while the time is stopped, and the value that was asked for. -/
structure Counts (world : World) : Prop where
  single : world.widget.delays.length ≤ 1
  stopped : world.running = false → world.widget.delays = []
  shown : world.widget.value = world.base + (world.ranFor / second : ℕ)

/-- Events reach the widget while no loop waits; it is never told of a hold or a
completion, and only started from the value it shows. -/
def Undisturbed (world : World) : TimerEvent → Prop
  | .clock => True
  | .startTimer status inSeconds =>
      world.widget.mounted = true →
        status ≠ .hold ∧ status ≠ .complete ∧ world.widget.delays = [] ∧
          world.widget.value = inSeconds
  | .pauseTimer => world.widget.mounted = true → world.widget.delays = []
  | .dispose => world.widget.delays = []

/-! ### One step -/

/-- What good runs keep: while the time runs, one loop waits for the next whole second. -/
structure InStep (world : World) : Prop where
  delays : world.widget.delays =
    if world.running then [second - world.ranFor % second] else []
  goes : world.running = true → world.widget.stopTimer = false
  shown : world.widget.value = world.base + (world.ranFor / second : ℕ)

theorem InStep.delays_eq_nil_iff {world : World} (inStep : InStep world) :
    world.widget.delays = [] ↔ world.running = false := by
  rw [inStep.delays]
  cases world.running with
  | true => exact iff_of_false (List.cons_ne_nil _ _) nofun
  | false => exact iff_of_true rfl rfl

theorem InStep.counts {world : World} (inStep : InStep world) : Counts world where
  single := by
    rw [inStep.delays]
    cases world.running with
    | true => exact Nat.le_refl 1
    | false => exact Nat.zero_le 1
  stopped := inStep.delays_eq_nil_iff.mpr
  shown := inStep.shown

theorem InStep.of_stopped {world : World} (idle : world.widget.delays = [])
    (stopped : world.running = false)
    (shown : world.widget.value = world.base + (world.ranFor / second : ℕ)) :
    InStep world where
  delays := by rw [idle, stopped]; rfl
  goes := fun running => absurd running (by rw [stopped]; decide)
  shown := shown

theorem clock_waits {widget : CountdownWidget} {left : ℕ} (later : 1 < left)
    (waits : widget.delays = [left]) :
    widget.clock.delays = [left - 1] ∧ widget.clock.value = widget.value := by
  unfold CountdownWidget.clock
  have notYet : ¬ left ≤ 1 := Nat.not_le.mpr later
  constructor
  · simp [waits, later, notYet]
  · simp [waits, notYet]

theorem clock_ends {widget : CountdownWidget} (goes : widget.stopTimer = false)
    (waits : widget.delays = [1]) :
    widget.clock.delays = [second] ∧ widget.clock.value = widget.value + 1 := by
  unfold CountdownWidget.clock
  constructor
  · simp [waits, goes]
  · simp [waits]

theorem clock_idle {widget : CountdownWidget} (idle : widget.delays = []) :
    widget.clock.delays = [] ∧ widget.clock.value = widget.value := by
  unfold CountdownWidget.clock
  constructor
  · simp [idle]
  · simp [idle]

theorem inStep_clock {world : World} (inStep : InStep world) : InStep (world.next .clock) := by
  cases running : world.running with
  | false =>
      obtain ⟨idle, same⟩ := clock_idle (inStep.delays_eq_nil_iff.mpr running)
      refine InStep.of_stopped idle running ?_
      change world.widget.clock.value =
        world.base + ((if world.running then world.ranFor + 1 else world.ranFor) / second : ℕ)
      rw [same, inStep.shown, running]
      rfl
  | true =>
      have waits := inStep.delays
      rw [running, if_pos rfl] at waits
      have goes := inStep.goes running
      have advanced : (world.next .clock).ranFor = world.ranFor + 1 := by
        change (if world.running then _ else _) = _
        rw [running]
        rfl
      by_cases ends : world.ranFor % second = second - 1
      · have last : second - world.ranFor % second = 1 := by
          rw [ends]
          rfl
        rw [last] at waits
        obtain ⟨again, counted⟩ := clock_ends goes waits
        refine ⟨?_, fun _ => goes, ?_⟩
        · change world.widget.clock.delays = if world.running then _ else _
          rw [again, running, if_pos rfl, advanced]
          unfold second at ends ⊢
          have whole : (world.ranFor + 1) % 1000000 = 0 := by omega
          rw [whole]
        · change world.widget.clock.value = world.base + _
          rw [counted, inStep.shown, advanced]
          unfold second at ends ⊢
          omega
      · have later : 1 < second - world.ranFor % second := by
          unfold second at ends ⊢
          omega
        obtain ⟨waiting, same⟩ := clock_waits later waits
        refine ⟨?_, fun _ => goes, ?_⟩
        · change world.widget.clock.delays = if world.running then _ else _
          rw [waiting, running, if_pos rfl, advanced]
          unfold second at ends ⊢
          have next : (world.ranFor + 1) % 1000000 = world.ranFor % 1000000 + 1 := by omega
          rw [next, Nat.sub_sub]
        · change world.widget.clock.value = world.base + _
          rw [same, inStep.shown, advanced]
          unfold second at ends ⊢
          omega

theorem onStartTimer_spec (widget : CountdownWidget) (status : BookingStatus)
    (inSeconds : ℤ) :
    (widget.onStartTimer status inSeconds).delays = widget.delays ++ [second] ∧
      (widget.onStartTimer status inSeconds).value = widget.value ∧
      (widget.onStartTimer status inSeconds).stopTimer = CountdownWidget.isStop status := by
  unfold CountdownWidget.onStartTimer
  cases CountdownWidget.isStop status with
  | true => exact ⟨rfl, rfl, rfl⟩
  | false => exact ⟨rfl, rfl, rfl⟩

theorem isStop_eq_false_iff (status : BookingStatus) :
    CountdownWidget.isStop status = false ↔ status ≠ .hold ∧ status ≠ .complete := by
  unfold CountdownWidget.isStop
  rw [Bool.or_eq_false_iff, decide_eq_false_iff_not, decide_eq_false_iff_not]

theorem next_startTimer {world : World} (mounted : world.widget.mounted = true)
    (status : BookingStatus) (inSeconds : ℤ) :
    world.next (.startTimer status inSeconds) =
      { widget := world.widget.onStartTimer status inSeconds
        base := inSeconds
        running := !CountdownWidget.isStop status
        ranFor := 0 } := by
  unfold World.next CountdownWidget.next
  simp only [mounted, if_true]

theorem next_pauseTimer {world : World} (mounted : world.widget.mounted = true) :
    world.next .pauseTimer =
      { world with widget := world.widget.onPauseTimer, running := false } := by
  unfold World.next CountdownWidget.next
  simp only [mounted, if_true]

theorem next_unmounted {world : World} (gone : world.widget.mounted = false) :
    (∀ status inSeconds, world.next (.startTimer status inSeconds) = world) ∧
      world.next .pauseTimer = world := by
  unfold World.next CountdownWidget.next
  simp [gone]

private theorem add_noSeconds (value : ℤ) : value + (0 / second : ℕ) = value := by
  rw [Nat.zero_div]
  exact Int.add_zero value

theorem counts_startTimer_iff {world : World} (mounted : world.widget.mounted = true)
    (status : BookingStatus) (inSeconds : ℤ) :
    Counts (world.next (.startTimer status inSeconds)) ↔
      status ≠ .hold ∧ status ≠ .complete ∧ world.widget.delays = [] ∧
        world.widget.value = inSeconds := by
  obtain ⟨delays, value, _⟩ := onStartTimer_spec world.widget status inSeconds
  rw [next_startTimer mounted, ← and_assoc, ← isStop_eq_false_iff]
  constructor
  · rintro ⟨single, stopped, shown⟩
    change (world.widget.onStartTimer status inSeconds).delays.length ≤ 1 at single
    change _ → (world.widget.onStartTimer status inSeconds).delays = [] at stopped
    change (world.widget.onStartTimer status inSeconds).value = inSeconds + (0 / second : ℕ)
      at shown
    rw [delays, List.length_append, List.length_singleton] at single
    rw [delays] at stopped
    rw [value, add_noSeconds] at shown
    refine ⟨?_, List.eq_nil_of_length_eq_zero (by omega), shown⟩
    rw [← Bool.not_eq_true]
    intro stop
    exact List.append_ne_nil_of_right_ne_nil _ (List.cons_ne_nil _ _) (stopped (by rw [stop]; rfl))
  · rintro ⟨goes, idle, same⟩
    refine ⟨?_, ?_, ?_⟩
    · change (world.widget.onStartTimer status inSeconds).delays.length ≤ 1
      rw [delays, idle]
      exact Nat.le_refl 1
    · intro stopped
      change (!CountdownWidget.isStop status) = false at stopped
      rw [goes] at stopped
      cases stopped
    · change (world.widget.onStartTimer status inSeconds).value = inSeconds + (0 / second : ℕ)
      rw [value, same, add_noSeconds]

theorem inStep_startTimer {world : World} (mounted : world.widget.mounted = true)
    {status : BookingStatus} {inSeconds : ℤ}
    (counts : Counts (world.next (.startTimer status inSeconds))) :
    InStep (world.next (.startTimer status inSeconds)) := by
  obtain ⟨notHold, notComplete, idle, _⟩ := (counts_startTimer_iff mounted _ _).mp counts
  have goes := (isStop_eq_false_iff status).mpr ⟨notHold, notComplete⟩
  have shown := counts.shown
  obtain ⟨delays, _, stopTimer⟩ := onStartTimer_spec world.widget status inSeconds
  rw [next_startTimer mounted] at shown ⊢
  refine ⟨?_, fun _ => ?_, shown⟩
  · change (world.widget.onStartTimer status inSeconds).delays = if _ then _ else _
    rw [delays, idle, goes]
    rfl
  · exact stopTimer.trans goes

theorem next_spec {world : World} (inStep : InStep world) (event : TimerEvent) :
    (Counts (world.next event) ↔ Undisturbed world event) ∧
      (Counts (world.next event) → InStep (world.next event)) := by
  cases event with
  | clock =>
      have kept := inStep_clock inStep
      exact ⟨iff_of_true kept.counts trivial, fun _ => kept⟩
  | startTimer status inSeconds =>
      cases mounted : world.widget.mounted with
      | false =>
          rw [(next_unmounted mounted).1]
          refine ⟨iff_of_true inStep.counts fun present => ?_, fun _ => inStep⟩
          rw [mounted] at present
          cases present
      | true =>
          refine ⟨?_, inStep_startTimer mounted⟩
          rw [counts_startTimer_iff mounted]
          exact ⟨fun alone _ => alone, fun alone => alone mounted⟩
  | pauseTimer =>
      cases mounted : world.widget.mounted with
      | false =>
          rw [(next_unmounted mounted).2]
          refine ⟨iff_of_true inStep.counts fun present => ?_, fun _ => inStep⟩
          rw [mounted] at present
          cases present
      | true =>
          rw [next_pauseTimer mounted]
          have kept : world.widget.delays = [] →
              InStep { world with widget := world.widget.onPauseTimer, running := false } :=
            fun idle => .of_stopped idle rfl inStep.shown
          refine ⟨⟨fun counts _ => counts.stopped rfl, fun idle => (kept (idle mounted)).counts⟩,
            fun counts => kept (counts.stopped rfl)⟩
  | dispose =>
      have kept : world.widget.delays = [] → InStep (world.next .dispose) :=
        fun idle => .of_stopped idle rfl inStep.shown
      exact ⟨⟨fun counts => counts.stopped rfl, fun idle => (kept idle).counts⟩,
        fun counts => kept (counts.stopped rfl)⟩

theorem inStep_opened {now : ℤ} {status : Option BookingStatus} {durationDiff : Option String}
    {startAt : Option ℤ} {widget : CountdownWidget}
    (built : CountdownWidget.initState now status durationDiff startAt = some widget) :
    InStep (World.opened widget) := by
  have shown := (add_noSeconds widget.value).symm
  unfold CountdownWidget.initState at built
  by_cases inProgress : status = some .inProgress
  · rw [if_pos inProgress] at built
    cases startAt with
    | none => cases built
    | some started =>
        cases built
        exact ⟨rfl, fun _ => rfl, shown⟩
  · rw [if_neg inProgress] at built
    cases built
    exact .of_stopped rfl rfl shown

/-- Over the whole life of a countdown at most one loop runs, none while the time is
stopped, and the value is the one asked for, exactly while pauses and `dispose` come when
no loop waits, no hold or completion is told, and each start comes when no loop waits and
asks for the value that is shown. -/
theorem countdown_iff (now : ℤ) (status : Option BookingStatus)
    (durationDiff : Option String) (startAt : Option ℤ) (widget : CountdownWidget)
    (built : CountdownWidget.initState now status durationDiff startAt = some widget)
    (events : List TimerEvent) :
    Counts (World.opened widget) ∧
      (machine.Every (fun world event => Counts (machine.next world event))
          (World.opened widget) events ↔
        machine.Every Undisturbed (World.opened widget) events) :=
  ⟨(inStep_opened built).counts,
    machine.every_iff_of_step InStep (fun _ event inStep => next_spec inStep event)
      (inStep_opened built)⟩

theorem undisturbed_clocks (world : World) (count : ℕ) :
    machine.Every Undisturbed world (List.replicate count .clock) := by
  induction count generalizing world with
  | zero => exact trivial
  | succ count ih => exact ⟨trivial, ih (world.next .clock)⟩

/-- A booking on hold is taken up again from the time shown, and two seconds pass. -/
theorem countdown_iff_example :
    machine.Every (fun world event => Counts (machine.next world event))
      (World.opened { value := 90 })
      (.clock :: (commonStartTimer true .inProgress 90).toList ++
        List.replicate (2 * second) .clock) := by
  have built : CountdownWidget.initState 0 (some .hold) (some "90") none =
      some { value := 90 } := by decide
  refine (countdown_iff 0 (some .hold) (some "90") none _ built _).2.mpr ?_
  exact ⟨trivial, fun _ => ⟨nofun, nofun, rfl, rfl⟩, undisturbed_clocks _ _⟩

/-- The hold of a booking in progress starts another loop. -/
theorem hold_starts_a_loop :
    ¬ ∀ now status durationDiff startAt widget,
      CountdownWidget.initState now status durationDiff startAt = some widget →
      ∀ events, machine.Every (fun world event => Counts (machine.next world event))
        (World.opened widget) events := by
  intro always
  have built : CountdownWidget.initState 5000000 (some .inProgress) (some "90") (some 0) =
      some { stopTimer := false, value := 95, delays := [second] } := by decide
  have held := (always _ _ _ _ _ built [saveHoldClick (some "90") 5]).1
  have idle := held.stopped rfl
  cases idle

end FiksOpp.Countdown
