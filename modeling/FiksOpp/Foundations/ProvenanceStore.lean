/-
Stores that remember who chose the content of each cell.  Two stores agree for a
chooser when they hold the same in every cell that nobody else has a part in, in
either store.  What others do to either store keeps that agreement, and so does
what the chooser does to both.
-/

import Mathlib.Logic.Function.Basic

namespace FiksOpp.ProvenanceStore

structure Tracked (Chooser : Type*) {Cell : Type*} (Value : Cell → Type*) where
  value : ∀ cell, Value cell
  choosers : Cell → List Chooser

variable {Chooser Cell : Type*} {Value : Cell → Type*}

namespace Tracked

def untouched (value : ∀ cell, Value cell) : Tracked Chooser Value :=
  { value := value, choosers := fun _ => [] }

/-- Nobody but `me` has a part in the cell. -/
def Own (me : Chooser) (store : Tracked Chooser Value) (cell : Cell) : Prop :=
  ∀ chooser ∈ store.choosers cell, chooser = me

def AgreeFor (me : Chooser) (left right : Tracked Chooser Value) : Prop :=
  ∀ cell, left.Own me cell → right.Own me cell → left.value cell = right.value cell

theorem AgreeFor.refl (me : Chooser) (store : Tracked Chooser Value) : AgreeFor me store store :=
  fun _ _ _ => rfl

theorem AgreeFor.symm {me : Chooser} {left right : Tracked Chooser Value}
    (agree : AgreeFor me left right) : AgreeFor me right left :=
  fun cell ownRight ownLeft => (agree cell ownLeft ownRight).symm

/-- Cells in `kept` stay; the others are emptied, which nobody has chosen. -/
def reset (kept : Cell → Bool) (blank : ∀ cell, Value cell) (store : Tracked Chooser Value) :
    Tracked Chooser Value :=
  { value := fun cell => if kept cell then store.value cell else blank cell
    choosers := fun cell => if kept cell then store.choosers cell else [] }

theorem AgreeFor.reset {me : Chooser} {left right : Tracked Chooser Value}
    (agree : AgreeFor me left right) (kept : Cell → Bool) (blank : ∀ cell, Value cell) :
    AgreeFor me (left.reset kept blank) (right.reset kept blank) := by
  intro cell ownLeft ownRight
  unfold Own Tracked.reset at ownLeft ownRight
  unfold Tracked.reset
  dsimp only at ownLeft ownRight ⊢
  by_cases stays : kept cell = true
  · rw [if_pos stays] at ownLeft ownRight
    rw [if_pos stays, if_pos stays]
    exact agree cell ownLeft ownRight
  · rw [if_neg stays, if_neg stays]

variable [DecidableEq Cell]

def put (store : Tracked Chooser Value) (cell : Cell) (value : Value cell)
    (choosers : List Chooser) : Tracked Chooser Value :=
  { value := Function.update store.value cell value
    choosers := Function.update store.choosers cell choosers }

theorem own_put_self {me : Chooser} {store : Tracked Chooser Value} {cell : Cell}
    {value : Value cell} {choosers : List Chooser} :
    (store.put cell value choosers).Own me cell ↔ ∀ chooser ∈ choosers, chooser = me := by
  unfold Own put
  dsimp only
  rw [Function.update_self]

theorem own_put_of_ne {me : Chooser} {store : Tracked Chooser Value} {cell other : Cell}
    (different : other ≠ cell) {value : Value cell} {choosers : List Chooser} :
    (store.put cell value choosers).Own me other ↔ store.Own me other := by
  unfold Own put
  dsimp only
  rw [Function.update_of_ne different]

theorem AgreeFor.put {me : Chooser} {left right : Tracked Chooser Value}
    (agree : AgreeFor me left right) {cell : Cell} {value value' : Value cell}
    {choosers choosers' : List Chooser}
    (same : (∀ chooser ∈ choosers, chooser = me) → (∀ chooser ∈ choosers', chooser = me) →
      value = value') :
    AgreeFor me (left.put cell value choosers) (right.put cell value' choosers') := by
  intro other ownLeft ownRight
  by_cases here : other = cell
  · subst here
    unfold Tracked.put
    dsimp only
    rw [Function.update_self, Function.update_self]
    exact same (own_put_self.mp ownLeft) (own_put_self.mp ownRight)
  · unfold Tracked.put
    dsimp only
    rw [Function.update_of_ne here, Function.update_of_ne here]
    exact agree other ((own_put_of_ne here).mp ownLeft) ((own_put_of_ne here).mp ownRight)

theorem AgreeFor.put_other {me : Chooser} {left right : Tracked Chooser Value}
    (agree : AgreeFor me left right) {cell : Cell} (value : Value cell)
    {choosers : List Chooser} {other : Chooser} (member : other ∈ choosers)
    (different : other ≠ me) : AgreeFor me (left.put cell value choosers) right := by
  intro place ownLeft ownRight
  by_cases here : place = cell
  · subst here
    exact absurd (own_put_self.mp ownLeft other member) different
  · unfold Tracked.put
    dsimp only
    rw [Function.update_of_ne here]
    exact agree place ((own_put_of_ne here).mp ownLeft) ownRight

/-- What a chooser does to one cell: a new content, a change of what is there, or a
change of what the cell held when it was looked at. -/
inductive Choice (Value : Cell → Type*) where
  | set (cell : Cell) (value : Value cell)
  | modify (cell : Cell) (update : Value cell → Value cell)
  | fromSeen (cell : Cell) (update : Value cell → Value cell)

def choose (store : Tracked Chooser Value) (who : Chooser) (seen : Tracked Chooser Value) :
    Choice Value → Tracked Chooser Value
  | .set cell value => store.put cell value [who]
  | .modify cell update =>
      store.put cell (update (store.value cell)) (who :: store.choosers cell)
  | .fromSeen cell update =>
      store.put cell (update (seen.value cell)) (who :: seen.choosers cell)

def chooseAll (store : Tracked Chooser Value) (who : Chooser) (seen : Tracked Chooser Value) :
    List (Choice Value) → Tracked Chooser Value
  | [] => store
  | choice :: rest => chooseAll (store.choose who seen choice) who seen rest

/-- Looking at a cell takes over its content and who chose it. -/
def look (store : Tracked Chooser Value) (cell : Cell) (seen : Tracked Chooser Value) :
    Tracked Chooser Value :=
  seen.put cell (store.value cell) (store.choosers cell)

theorem AgreeFor.look {me : Chooser} {left right seen seen' : Tracked Chooser Value}
    (agree : AgreeFor me left right) (agreeSeen : AgreeFor me seen seen') (cell : Cell) :
    AgreeFor me (left.look cell seen) (right.look cell seen') :=
  agreeSeen.put (agree cell)

theorem AgreeFor.choose {me : Chooser} {left right seen seen' : Tracked Chooser Value}
    (agree : AgreeFor me left right) (agreeSeen : AgreeFor me seen seen')
    (choice : Choice Value) :
    AgreeFor me (left.choose me seen choice) (right.choose me seen' choice) := by
  cases choice with
  | set cell value => exact agree.put (fun _ _ => rfl)
  | modify cell update =>
      apply agree.put
      intro ownLeft ownRight
      rw [agree cell (fun chooser member => ownLeft chooser (List.mem_cons_of_mem me member))
        (fun chooser member => ownRight chooser (List.mem_cons_of_mem me member))]
  | fromSeen cell update =>
      apply agree.put
      intro ownLeft ownRight
      rw [agreeSeen cell (fun chooser member => ownLeft chooser (List.mem_cons_of_mem me member))
        (fun chooser member => ownRight chooser (List.mem_cons_of_mem me member))]

theorem AgreeFor.chooseAll {me : Chooser} {left right seen seen' : Tracked Chooser Value}
    (agree : AgreeFor me left right) (agreeSeen : AgreeFor me seen seen')
    (choices : List (Choice Value)) :
    AgreeFor me (left.chooseAll me seen choices) (right.chooseAll me seen' choices) := by
  induction choices generalizing left right with
  | nil => exact agree
  | cons choice rest ih => exact ih (agree.choose agreeSeen choice)

theorem AgreeFor.choose_other {me other : Chooser} (different : other ≠ me)
    {left right : Tracked Chooser Value} (agree : AgreeFor me left right)
    (seen : Tracked Chooser Value) (choice : Choice Value) :
    AgreeFor me (left.choose other seen choice) right := by
  cases choice with
  | set cell value => exact agree.put_other value List.mem_cons_self different
  | modify cell update => exact agree.put_other _ List.mem_cons_self different
  | fromSeen cell update => exact agree.put_other _ List.mem_cons_self different

theorem AgreeFor.chooseAll_other {me other : Chooser} (different : other ≠ me)
    {left right : Tracked Chooser Value} (agree : AgreeFor me left right)
    (seen : Tracked Chooser Value) (choices : List (Choice Value)) :
    AgreeFor me (left.chooseAll other seen choices) right := by
  induction choices generalizing left with
  | nil => exact agree
  | cons choice rest ih => exact ih (agree.choose_other different seen choice)

end Tracked

end FiksOpp.ProvenanceStore
