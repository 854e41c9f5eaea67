/-
The first item of each key of a list, as a loop keeps it that notes the keys it has seen.
-/

import Mathlib.Data.List.Nodup

namespace FiksOpp.FirstOfKey

variable {α κ γ : Type*} [DecidableEq κ] (key : α → κ)

def firstOfKey (seen : List κ) : List α → List α
  | [] => []
  | item :: rest =>
      if key item ∈ seen then firstOfKey seen rest
      else item :: firstOfKey (key item :: seen) rest

variable {key}

theorem first_of_mem {seen : List κ} {list : List α} {item : α}
    (member : item ∈ firstOfKey key seen list) :
    key item ∉ seen ∧
      ∃ before after, list = before ++ item :: after ∧
        ∀ earlier ∈ before, key earlier ≠ key item := by
  induction list generalizing seen with
  | nil => cases member
  | cons head rest ih =>
      unfold firstOfKey at member
      by_cases known : key head ∈ seen
      · rw [if_pos known] at member
        obtain ⟨unseen, before, after, rfl, others⟩ := ih member
        refine ⟨unseen, head :: before, after, rfl, ?_⟩
        intro earlier place
        rcases List.mem_cons.mp place with rfl | later
        · exact fun same => unseen (same ▸ known)
        · exact others earlier later
      · rw [if_neg known] at member
        rcases List.mem_cons.mp member with rfl | later
        · exact ⟨known, [], rest, rfl, fun _ impossible => nomatch impossible⟩
        · obtain ⟨unseen, before, after, rfl, others⟩ := ih later
          rw [List.mem_cons, not_or] at unseen
          refine ⟨unseen.2, head :: before, after, rfl, ?_⟩
          intro earlier place
          rcases List.mem_cons.mp place with rfl | further
          · exact fun same => unseen.1 same.symm
          · exact others earlier further

theorem mem_of_mem {seen : List κ} {list : List α} {item : α}
    (member : item ∈ firstOfKey key seen list) : item ∈ list := by
  obtain ⟨-, before, after, rfl, -⟩ := first_of_mem member
  exact List.mem_append_right before List.mem_cons_self

theorem pairwise_firstOfKey (seen : List κ) (list : List α) :
    (firstOfKey key seen list).Pairwise fun left right => key left ≠ key right := by
  induction list generalizing seen with
  | nil => exact List.Pairwise.nil
  | cons head rest ih =>
      unfold firstOfKey
      split
      · exact ih seen
      · refine List.pairwise_cons.mpr ⟨?_, ih _⟩
        intro later member same
        exact (first_of_mem member).1 (same ▸ List.mem_cons_self)

theorem exists_of_mem {seen : List κ} {list : List α} {item : α} (member : item ∈ list)
    (unseen : key item ∉ seen) : ∃ first ∈ firstOfKey key seen list, key first = key item := by
  induction list generalizing seen with
  | nil => cases member
  | cons head rest ih =>
      unfold firstOfKey
      by_cases known : key head ∈ seen
      · rw [if_pos known]
        rcases List.mem_cons.mp member with rfl | later
        · exact absurd known unseen
        · exact ih later unseen
      · rw [if_neg known]
        by_cases same : key head = key item
        · exact ⟨head, List.mem_cons_self, same⟩
        · rcases List.mem_cons.mp member with rfl | later
          · exact absurd rfl same
          · have unseen' : key item ∉ key head :: seen := by
              rw [List.mem_cons, not_or]
              exact ⟨fun equal => same equal.symm, unseen⟩
            obtain ⟨first, kept, equal⟩ := ih later unseen'
            exact ⟨first, List.mem_cons_of_mem _ kept, equal⟩

theorem eq_of_key_eq {list : List α} {left right : α} (inLeft : left ∈ firstOfKey key [] list)
    (inRight : right ∈ firstOfKey key [] list) (same : key left = key right) : left = right := by
  have apart : ((firstOfKey key [] list).map key).Nodup :=
    List.pairwise_map.mpr (pairwise_firstOfKey [] list)
  exact List.inj_on_of_nodup_map apart inLeft inRight same

/-- Where the key is made of what an item says, nothing that is said is lost exactly when no two
items of one key say different things. -/
theorem says_everything_iff (content : α → γ) (made : ∀ left right, content left = content right →
    key left = key right) (list : List α) :
    (∀ item ∈ list, ∃ first ∈ firstOfKey key [] list, content first = content item) ↔
      ∀ left ∈ list, ∀ right ∈ list, key left = key right → content left = content right := by
  constructor
  · intro said left inLeft right inRight same
    obtain ⟨first, kept, equal⟩ := said left inLeft
    obtain ⟨second, kept', equal'⟩ := said right inRight
    have one : first = second := by
      apply eq_of_key_eq kept kept'
      rw [made first left equal, made second right equal', same]
    rw [← equal, ← equal', one]
  · intro injective item member
    obtain ⟨first, kept, same⟩ :=
      @exists_of_mem α κ _ key [] list item member List.not_mem_nil
    exact ⟨first, kept, injective first (mem_of_mem kept) item member same⟩

end FiksOpp.FirstOfKey
