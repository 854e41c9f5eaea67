/-
Collections of documents in the manner of a document database: a collection is
addressed by a path, a new document gets an identifier no document had before,
and documents are changed or removed by a test.  The counting lemmas say what
each operation does to a query that counts documents.
-/

import Mathlib.Data.List.Basic
import Mathlib.Logic.Function.Basic

namespace FiksOpp.DocumentStore

structure Document (Data : Type*) where
  id : Nat
  data : Data
  deriving DecidableEq, Repr

/-- Identifiers are handed out in order, so the next one is in no collection. -/
structure Store (Path Data : Type*) where
  next : Nat
  documents : Path → List (Document Data)
  issued : ∀ path, ∀ document ∈ documents path, document.id < next

namespace Store

variable {Path Data : Type*}

def empty : Store Path Data :=
  { next := 0
    documents := fun _ => []
    issued := by
      intro path document member
      exact absurd member List.not_mem_nil }

def count (store : Store Path Data) (path : Path) (holds : Data → Bool) : Nat :=
  (store.documents path).countP (fun document => holds document.data)

theorem count_congr {left right : Store Path Data} {path : Path}
    (same : left.documents path = right.documents path) (holds : Data → Bool) :
    left.count path holds = right.count path holds := by
  unfold count
  rw [same]

theorem map_id_of_issued {store : Store Path Data} {path : Path} {id : Nat}
    (unused : store.next ≤ id) (change : Document Data → Document Data) :
    ((store.documents path).map fun document =>
      if document.id == id then change document else document) = store.documents path := by
  have fixed : ∀ document ∈ store.documents path,
      (if document.id == id then change document else document) = document := by
    intro document member
    have bound := store.issued path document member
    have differs : (document.id == id) = false := beq_false_of_ne (by omega)
    rw [differs]
    rfl
  exact (List.map_congr_left fixed).trans (List.map_id _)

variable [DecidableEq Path]

def add (store : Store Path Data) (path : Path) (data : Data) : Store Path Data :=
  { next := store.next + 1
    documents := Function.update store.documents path
      (store.documents path ++ [{ id := store.next, data := data }])
    issued := by
      intro path' document member
      by_cases same : path' = path
      · subst same
        rw [Function.update_self, List.mem_append, List.mem_singleton] at member
        rcases member with old | new
        · have bound := store.issued path' document old
          omega
        · rw [new]
          exact Nat.lt_succ_self store.next
      · rw [Function.update_of_ne same] at member
        have bound := store.issued path' document member
        omega }

def modify (store : Store Path Data) (path : Path) (selects : Document Data → Bool)
    (change : Data → Data) : Store Path Data :=
  { next := store.next
    documents := Function.update store.documents path
      ((store.documents path).map fun document =>
        if selects document then { document with data := change document.data } else document)
    issued := by
      intro path' document member
      by_cases same : path' = path
      · subst same
        rw [Function.update_self, List.mem_map] at member
        obtain ⟨before, present, changed⟩ := member
        have sameId : document.id = before.id := by
          rw [← changed]
          split <;> rfl
        rw [sameId]
        exact store.issued path' before present
      · rw [Function.update_of_ne same] at member
        exact store.issued path' document member }

def discard (store : Store Path Data) (path : Path) (selects : Document Data → Bool) :
    Store Path Data :=
  { next := store.next
    documents := Function.update store.documents path
      ((store.documents path).filter fun document => !selects document)
    issued := by
      intro path' document member
      by_cases same : path' = path
      · subst same
        rw [Function.update_self] at member
        exact store.issued path' document (List.mem_of_mem_filter member)
      · rw [Function.update_of_ne same] at member
        exact store.issued path' document member }

/-! ### The collections an operation leaves -/

@[simp] theorem documents_add (store : Store Path Data) (path : Path) (data : Data) :
    (store.add path data).documents path =
      store.documents path ++ [{ id := store.next, data := data }] :=
  Function.update_self ..

@[simp] theorem next_add (store : Store Path Data) (path : Path) (data : Data) :
    (store.add path data).next = store.next + 1 := rfl

theorem documents_add_of_ne {path path' : Path} (other : path' ≠ path)
    (store : Store Path Data) (data : Data) :
    (store.add path data).documents path' = store.documents path' :=
  Function.update_of_ne other ..

@[simp] theorem documents_modify (store : Store Path Data) (path : Path)
    (selects : Document Data → Bool) (change : Data → Data) :
    (store.modify path selects change).documents path =
      (store.documents path).map fun document =>
        if selects document then { document with data := change document.data } else document :=
  Function.update_self ..

theorem documents_modify_of_ne {path path' : Path} (other : path' ≠ path)
    (store : Store Path Data) (selects : Document Data → Bool) (change : Data → Data) :
    (store.modify path selects change).documents path' = store.documents path' :=
  Function.update_of_ne other ..

@[simp] theorem documents_discard (store : Store Path Data) (path : Path)
    (selects : Document Data → Bool) :
    (store.discard path selects).documents path =
      (store.documents path).filter fun document => !selects document :=
  Function.update_self ..

theorem documents_discard_of_ne {path path' : Path} (other : path' ≠ path)
    (store : Store Path Data) (selects : Document Data → Bool) :
    (store.discard path selects).documents path' = store.documents path' :=
  Function.update_of_ne other ..

theorem count_add (store : Store Path Data) (path : Path) (data : Data) (holds : Data → Bool) :
    (store.add path data).count path holds =
      store.count path holds + if holds data then 1 else 0 := by
  unfold count
  rw [documents_add, List.countP_append, List.countP_singleton]

theorem count_modify_eq_zero {store : Store Path Data} {path : Path}
    {selects : Document Data → Bool} {change : Data → Data} {holds : Data → Bool}
    (selected : ∀ document, holds document.data = true → selects document = true)
    (cleared : ∀ data, holds (change data) = false) :
    (store.modify path selects change).count path holds = 0 := by
  unfold count
  rw [documents_modify, List.countP_eq_zero]
  intro document member
  obtain ⟨before, _, changed⟩ := List.mem_map.mp member
  rw [← changed]
  by_cases chosen : selects before = true
  · rw [if_pos chosen, Bool.not_eq_true]
    exact cleared before.data
  · rw [if_neg chosen]
    intro counted
    exact chosen (selected before counted)

/-- Removing documents keeps the count exactly when no counted one is removed. -/
theorem count_discard_eq_iff {store : Store Path Data} {path : Path}
    {selects : Document Data → Bool} {holds : Data → Bool} :
    (store.discard path selects).count path holds = store.count path holds ↔
      ∀ document ∈ store.documents path, selects document = true →
        holds document.data = false := by
  unfold count
  rw [documents_discard]
  induction store.documents path with
  | nil =>
      constructor
      · intro _ document member
        exact absurd member List.not_mem_nil
      · intro _
        rfl
  | cons head tail ih =>
      have shrinks : (tail.filter fun document => !selects document).countP
          (fun document => holds document.data) ≤
          tail.countP (fun document => holds document.data) :=
        List.Sublist.countP_le List.filter_sublist
      rw [List.forall_mem_cons, ← ih]
      cases chosen : selects head with
      | false =>
          rw [List.filter_cons_of_pos (by rw [chosen]; rfl), List.countP_cons, List.countP_cons]
          constructor
          · intro same
            refine ⟨fun impossible => absurd impossible Bool.false_ne_true, ?_⟩
            omega
          · intro both
            rw [both.2]
      | true =>
          rw [List.filter_cons_of_neg (by rw [chosen]; exact Bool.false_ne_true),
            List.countP_cons]
          cases counted : holds head.data with
          | false =>
              constructor
              · intro same
                exact ⟨fun _ => rfl, same⟩
              · intro both
                exact both.2
          | true =>
              constructor
              · intro same
                rw [if_pos rfl] at same
                omega
              · intro both
                exact absurd (both.1 rfl) Bool.true_eq_false.mp

theorem count_discard_all (store : Store Path Data) (path : Path) (holds : Data → Bool) :
    (store.discard path fun _ => true).count path holds = 0 := by
  unfold count
  rw [documents_discard]
  have none : (store.documents path).filter (fun _ => !true) = [] :=
    List.filter_eq_nil_iff.mpr fun _ _ => Bool.false_ne_true
  rw [none]
  rfl

end Store

end FiksOpp.DocumentStore
