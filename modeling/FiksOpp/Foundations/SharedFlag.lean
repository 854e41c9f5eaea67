/-
A flag shared by operations that wait.

An operation is a script: stretches of writes, each ended by a wait or by the end of the
operation.  Its bracket is open while its own last write was `true`.  The flag should be
up exactly while a bracket is open.  A run keeps this exactly while no stretch takes the
flag down inside the bracket of another operation, and every stretch beside which no other
bracket is open leaves the flag as its own bracket.
-/

import FiksOpp.Foundations.EventRun

namespace FiksOpp.SharedFlag

open EventRun

/-- The answer to a wait decides how an operation goes on.  A helper that an operation
calls writes the flag too, without opening or closing the bracket; a child that nobody
awaits runs to its first wait and is an operation of its own from there on. -/
inductive Script (Answer : Type) where
  | finished
  | write (value : Bool) (rest : Script Answer)
  | helperWrite (value : Bool) (rest : Script Answer)
  | spawn (child rest : Script Answer)
  | await (resume : Answer → Script Answer)

structure Process (Answer : Type) where
  opened : Bool
  resume : Answer → Script Answer

structure State (Answer : Type) where
  flag : Bool := false
  waiting : List (Process Answer) := []

inductive Event (Answer : Type) where
  | start (script : Script Answer)
  | resume (index : ℕ) (answer : Answer)

variable {Answer : Type}

namespace Script

/-- What is left to do after the stretch, by whoever waits then. -/
def left (opened : Bool) : Script Answer → List (Process Answer)
  | .finished => []
  | .write value rest => rest.left value
  | .helperWrite _ rest => rest.left opened
  | .spawn child rest => child.left false ++ rest.left opened
  | .await resume => [{ opened := opened, resume := resume }]

def lastWrite : Script Answer → Option Bool
  | .finished => none
  | .write value rest => rest.lastWrite.or (some value)
  | .helperWrite value rest => rest.lastWrite.or (some value)
  | .spawn child rest => rest.lastWrite.or child.lastWrite
  | .await _ => none

end Script

def anyOpened (waiting : List (Process Answer)) : Bool :=
  waiting.any Process.opened

def runStretch (flag : Bool) (others : List (Process Answer)) (opened : Bool)
    (script : Script Answer) : State Answer :=
  { flag := script.lastWrite.getD flag
    waiting := others ++ script.left opened }

/-- An answer for an operation that is not there is ignored. -/
def next (state : State Answer) : Event Answer → State Answer
  | .start script => runStretch state.flag state.waiting false script
  | .resume index answer =>
      match state.waiting[index]? with
      | none => state
      | some process =>
          runStretch state.flag (state.waiting.eraseIdx index) process.opened
            (process.resume answer)

def machine : Machine (State Answer) (Event Answer) Unit where
  next := next
  outputs _ _ := []

/-- The flag is up exactly while a bracket is open. -/
def Brackets (state : State Answer) : Prop :=
  state.flag = anyOpened state.waiting

/-- Where no other bracket is open, the stretch leaves the flag as its own bracket. -/
def Clean (opened : Bool) (script : Script Answer) : Prop :=
  script.lastWrite.getD opened = anyOpened (script.left opened)

/-- What a stretch must do beside the others for the flag to stay on the brackets. -/
def KeepsStretch (others : List (Process Answer)) (opened : Bool) (script : Script Answer) :
    Prop :=
  if anyOpened others then script.lastWrite ≠ some false else Clean opened script

def KeepsBrackets (state : State Answer) : Event Answer → Prop
  | .start script => KeepsStretch state.waiting false script
  | .resume index answer =>
      ∀ process, state.waiting[index]? = some process →
        KeepsStretch (state.waiting.eraseIdx index) process.opened (process.resume answer)

theorem anyOpened_append (others more : List (Process Answer)) :
    anyOpened (others ++ more) = (anyOpened others || anyOpened more) :=
  List.any_append

theorem brackets_runStretch_iff {flag opened : Bool} {others : List (Process Answer)}
    (before : flag = (opened || anyOpened others)) (script : Script Answer) :
    Brackets (runStretch flag others opened script) ↔ KeepsStretch others opened script := by
  unfold Brackets runStretch KeepsStretch
  dsimp only
  rw [anyOpened_append]
  cases busy : anyOpened others with
  | false =>
      rw [busy, Bool.or_false] at before
      rw [before, Bool.false_or, if_neg Bool.false_ne_true]
      rfl
  | true =>
      rw [busy, Bool.or_true] at before
      rw [before, Bool.true_or, if_pos rfl]
      cases script.lastWrite with
      | none => exact iff_of_true rfl nofun
      | some value =>
          cases value with
          | true => exact iff_of_true rfl nofun
          | false => exact iff_of_false nofun (fun other => other rfl)

theorem anyOpened_eraseIdx {waiting : List (Process Answer)} {index : ℕ}
    {process : Process Answer} (found : waiting[index]? = some process) :
    anyOpened waiting = (process.opened || anyOpened (waiting.eraseIdx index)) := by
  induction waiting generalizing index with
  | nil => cases found
  | cons first rest ih =>
      cases index with
      | zero =>
          cases found
          rfl
      | succ index =>
          have later := ih found
          change (first.opened || anyOpened rest) =
            (process.opened || (first.opened || anyOpened (rest.eraseIdx index)))
          rw [later, Bool.or_left_comm]

theorem next_resume_of_none {state : State Answer} {index : ℕ}
    (missing : state.waiting[index]? = none) (answer : Answer) :
    next state (.resume index answer) = state := by
  unfold next
  dsimp only
  rw [missing]

theorem next_resume_of_some {state : State Answer} {index : ℕ} {process : Process Answer}
    (found : state.waiting[index]? = some process) (answer : Answer) :
    next state (.resume index answer) =
      runStretch state.flag (state.waiting.eraseIdx index) process.opened
        (process.resume answer) := by
  unfold next
  dsimp only
  rw [found]

theorem next_brackets_iff {state : State Answer} (brackets : Brackets state)
    (event : Event Answer) :
    Brackets (next state event) ↔ KeepsBrackets state event := by
  cases event with
  | start script =>
      have before : state.flag = (false || anyOpened state.waiting) := by
        rw [Bool.false_or]
        exact brackets
      exact brackets_runStretch_iff before script
  | resume index answer =>
      cases found : state.waiting[index]? with
      | none =>
          rw [next_resume_of_none found]
          refine iff_of_true brackets ?_
          intro process impossible
          rw [found] at impossible
          cases impossible
      | some process =>
          have before : state.flag =
              (process.opened || anyOpened (state.waiting.eraseIdx index)) := by
            rw [← anyOpened_eraseIdx found]
            exact brackets
          rw [next_resume_of_some found, brackets_runStretch_iff before]
          constructor
          · intro keeps other same
            rw [found] at same
            cases same
            exact keeps
          · intro keeps
            exact keeps process found

/-- A run keeps the flag on the brackets exactly while each of its stretches does. -/
theorem every_brackets_iff {state : State Answer} (brackets : Brackets state)
    (events : List (Event Answer)) :
    machine.Every (fun before event => Brackets (machine.next before event)) state events ↔
      machine.Every KeepsBrackets state events :=
  machine.every_next_iff Brackets (fun _ event kept => next_brackets_iff kept event) brackets

/-! ### Operations whose stretches are all clean -/

/-- Every stretch that allowed answers lead to is clean; what is allowed may depend on
whether the bracket of the one who waits is open. -/
inductive Steady (allowed : Bool → Answer → Prop) : Bool → Script Answer → Prop
  | intro {opened : Bool} {script : Script Answer} (clean : Clean opened script)
      (later : ∀ process ∈ script.left opened, ∀ answer, allowed process.opened answer →
        Steady allowed process.opened (process.resume answer)) :
      Steady allowed opened script

section Steady

variable {allowed : Bool → Answer → Prop} {opened : Bool} {script : Script Answer}

theorem Steady.clean (steady : Steady allowed opened script) : Clean opened script := by
  cases steady with
  | intro clean _ => exact clean

theorem Steady.later (steady : Steady allowed opened script) {process : Process Answer}
    (waits : process ∈ script.left opened) {answer : Answer}
    (isAllowed : allowed process.opened answer) :
    Steady allowed process.opened (process.resume answer) := by
  cases steady with
  | intro _ later => exact later process waits answer isAllowed

theorem Steady.ends (nobody : script.left opened = [])
    (down : script.lastWrite.getD opened = false) : Steady allowed opened script := by
  refine .intro ?_ ?_
  · rw [Clean, nobody]
    exact down
  · intro process waits
    rw [nobody] at waits
    cases waits

theorem Steady.waits {after : Bool} {resume : Answer → Script Answer}
    (one : script.left opened = [{ opened := after, resume := resume }])
    (up : script.lastWrite.getD opened = after)
    (later : ∀ answer, allowed after answer → Steady allowed after (resume answer)) :
    Steady allowed opened script := by
  refine .intro ?_ ?_
  · rw [Clean, one, up]
    exact (Bool.or_false after).symm
  · intro process waits
    rw [one] at waits
    rw [List.mem_singleton.mp waits]
    exact later

theorem Steady.await {resume : Answer → Script Answer}
    (later : ∀ answer, allowed opened answer → Steady allowed opened (resume answer)) :
    Steady allowed opened (.await resume) :=
  .waits rfl rfl later

theorem clean_write_iff (value : Bool) :
    Clean opened (.write value script) ↔ Clean value script := by
  unfold Clean
  change (script.lastWrite.or (some value)).getD opened = _ ↔ _
  cases script.lastWrite with
  | none => exact Iff.rfl
  | some _ => exact Iff.rfl

theorem steady_write_iff (value : Bool) :
    Steady allowed opened (.write value script) ↔ Steady allowed value script := by
  constructor
  · intro steady
    exact .intro ((clean_write_iff value).mp steady.clean)
      (fun _ waits _ isAllowed => steady.later waits isAllowed)
  · intro steady
    exact .intro ((clean_write_iff value).mpr steady.clean)
      (fun _ waits _ isAllowed => steady.later waits isAllowed)

/-- A reset by a helper does no harm where no bracket is open. -/
theorem Steady.helperWrite (steady : Steady allowed false script) :
    Steady allowed false (.helperWrite false script) := by
  have asOwn : Steady allowed false (.write false script) := (steady_write_iff false).mpr steady
  exact .intro asOwn.clean (fun _ waits _ isAllowed => asOwn.later waits isAllowed)

end Steady

/-- An event starts an operation with clean stretches, or brings an allowed answer. -/
def Behaves (allowed : Bool → Answer → Prop) (state : State Answer) : Event Answer → Prop
  | .start script => Steady allowed false script
  | .resume index answer =>
      ∀ process, state.waiting[index]? = some process → allowed process.opened answer

def AllSteady (allowed : Bool → Answer → Prop) (waiting : List (Process Answer)) : Prop :=
  ∀ process ∈ waiting, ∀ answer, allowed process.opened answer →
    Steady allowed process.opened (process.resume answer)

/-- A stretch that takes the flag down runs while no other bracket is open. -/
def ResetsAlone (state : State Answer) : Event Answer → Prop
  | .start script => script.lastWrite = some false → anyOpened state.waiting = false
  | .resume index answer =>
      ∀ process, state.waiting[index]? = some process →
        (process.resume answer).lastWrite = some false →
          anyOpened (state.waiting.eraseIdx index) = false

theorem keepsStretch_iff_of_clean {others : List (Process Answer)} {opened : Bool}
    {script : Script Answer} (clean : Clean opened script) :
    KeepsStretch others opened script ↔
      (script.lastWrite = some false → anyOpened others = false) := by
  unfold KeepsStretch
  cases anyOpened others with
  | false => exact iff_of_true (by rwa [if_neg Bool.false_ne_true]) (fun _ => rfl)
  | true =>
      rw [if_pos rfl]
      exact ⟨fun other same => absurd same other, fun down same => nomatch down same⟩

theorem keepsBrackets_iff_resetsAlone {allowed : Bool → Answer → Prop} {state : State Answer}
    {event : Event Answer} (all : AllSteady allowed state.waiting)
    (behaves : Behaves allowed state event) :
    KeepsBrackets state event ↔ ResetsAlone state event := by
  cases event with
  | start script => exact keepsStretch_iff_of_clean (Steady.clean behaves)
  | resume index answer =>
      refine forall_congr' fun process => forall_congr' fun found => ?_
      have steady := all process (List.mem_of_getElem? found) answer (behaves process found)
      exact keepsStretch_iff_of_clean steady.clean

theorem next_allSteady {allowed : Bool → Answer → Prop} {state : State Answer}
    {event : Event Answer} (all : AllSteady allowed state.waiting)
    (behaves : Behaves allowed state event) :
    AllSteady allowed (next state event).waiting := by
  cases event with
  | start script =>
      intro process waits answer isAllowed
      rcases List.mem_append.mp waits with other | own
      · exact all process other answer isAllowed
      · exact Steady.later behaves own isAllowed
  | resume index answered =>
      cases found : state.waiting[index]? with
      | none =>
          rw [next_resume_of_none found]
          exact all
      | some resumed =>
          rw [next_resume_of_some found]
          have steady :=
            all resumed (List.mem_of_getElem? found) answered (behaves resumed found)
          intro process waits answer isAllowed
          rcases List.mem_append.mp waits with other | own
          · exact all process (List.mem_of_mem_eraseIdx other) answer isAllowed
          · exact steady.later own isAllowed

/-- Operations with clean stretches keep the flag on the brackets exactly while each of
them takes it down outside the brackets of the others. -/
theorem every_keepsBrackets_iff {allowed : Bool → Answer → Prop} {state : State Answer}
    {events : List (Event Answer)} (all : AllSteady allowed state.waiting)
    (behaves : machine.Every (Behaves allowed) state events) :
    machine.Every KeepsBrackets state events ↔ machine.Every ResetsAlone state events :=
  machine.every_iff_of_promise (fun before => AllSteady allowed before.waiting)
    (fun _ _ clean promised _ => next_allSteady clean promised)
    (fun _ _ clean promised => keepsBrackets_iff_resetsAlone clean promised) all behaves

end FiksOpp.SharedFlag
