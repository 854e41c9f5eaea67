/-
Partial values put over one another.  The last layer that has a value shows, so the order
of the layers matters exactly where two of them have different values.
-/

import Mathlib.Data.List.Perm.Basic

namespace FiksOpp.Overlays

variable {Layer Value : Type*}

def overlay (view : Layer → Option Value) (base : Option Value) (layers : List Layer) :
    Option Value :=
  layers.foldl (fun shown layer => (view layer).or shown) base

theorem overlay_append (view : Layer → Option Value) (base : Option Value)
    (lower upper : List Layer) :
    overlay view base (lower ++ upper) = overlay view (overlay view base lower) upper :=
  List.foldl_append

theorem overlay_singleton (view : Layer → Option Value) (base : Option Value) (layer : Layer) :
    overlay view base [layer] = (view layer).or base := rfl

theorem view_foldl {State : Type*} (shown : State → Option Value) {put : State → Layer → State}
    {view : Layer → Option Value}
    (step : ∀ state layer, shown (put state layer) = (view layer).or (shown state))
    (state : State) (layers : List Layer) :
    shown (layers.foldl put state) = overlay view (shown state) layers := by
  induction layers generalizing state with
  | nil => rfl
  | cons layer rest ih =>
      rw [List.foldl_cons, ih, step]
      rfl

theorem overlay_of_hidden {view : Layer → Option Value} {layers : List Layer}
    (hidden : ∀ layer ∈ layers, view layer = none) (base : Option Value) :
    overlay view base layers = base := by
  induction layers generalizing base with
  | nil => rfl
  | cons layer rest ih =>
      have first := hidden layer List.mem_cons_self
      change overlay view ((view layer).or base) rest = base
      rw [first, Option.none_or]
      exact ih (fun other member => hidden other (List.mem_cons_of_mem _ member)) base

theorem overlay_of_agree {view : Layer → Option Value} {layers : List Layer} {value : Value}
    (agree : ∀ layer ∈ layers, ∀ other, view layer = some other → other = value)
    {base : Option Value}
    (shows : base = some value ∨ ∃ layer ∈ layers, view layer = some value) :
    overlay view base layers = some value := by
  induction layers generalizing base with
  | nil =>
      rcases shows with same | ⟨layer, member, _⟩
      · exact same
      · exact absurd member List.not_mem_nil
  | cons layer rest ih =>
      have later := fun other member => agree other (List.mem_cons_of_mem layer member)
      change overlay view ((view layer).or base) rest = some value
      cases first : view layer with
      | some other =>
          rw [agree layer List.mem_cons_self other first]
          exact ih later (Or.inl rfl)
      | none =>
          rw [Option.none_or]
          apply ih later
          rcases shows with same | ⟨other, member, shown⟩
          · exact Or.inl same
          · rcases List.mem_cons.mp member with now | after
            · subst now
              rw [first] at shown
              cases shown
            · exact Or.inr ⟨other, after, shown⟩

theorem overlay_isSome_cases {view : Layer → Option Value} (layers : List Layer) :
    (∀ layer ∈ layers, view layer = none) ∨
      ∃ layer ∈ layers, ∃ value, view layer = some value := by
  by_cases hidden : ∀ layer ∈ layers, view layer = none
  · exact Or.inl hidden
  · right
    push Not at hidden
    obtain ⟨layer, member, shown⟩ := hidden
    exact ⟨layer, member, Option.ne_none_iff_exists'.mp shown⟩

theorem exists_perm_last {layer : Layer} {layers : List Layer} (member : layer ∈ layers) :
    ∃ lower : List Layer, (lower ++ [layer]).Perm layers := by
  obtain ⟨before, after, split⟩ := List.append_of_mem member
  refine ⟨before ++ after, ?_⟩
  rw [split, List.append_assoc]
  exact List.perm_append_comm.append_left before

theorem overlay_last {view : Layer → Option Value} {layer : Layer} {value : Value}
    (shown : view layer = some value) (base : Option Value) (lower : List Layer) :
    overlay view base (lower ++ [layer]) = some value := by
  rw [overlay_append, overlay_singleton, shown, Option.some_or]

def Agree (view : Layer → Option Value) (layers : List Layer) : Prop :=
  ∀ layer ∈ layers, ∀ other ∈ layers, ∀ value value',
    view layer = some value → view other = some value' → value = value'

/-- What shows is the same in every order exactly when the layers agree. -/
theorem overlay_perm_iff (view : Layer → Option Value) (base : Option Value)
    (layers : List Layer) :
    (∀ others, others.Perm layers → overlay view base others = overlay view base layers) ↔
      Agree view layers := by
  constructor
  · intro same layer member other member' value value' shown shown'
    obtain ⟨lower, order⟩ := exists_perm_last member
    obtain ⟨lower', order'⟩ := exists_perm_last member'
    have first := same _ order
    have second := same _ order'
    rw [overlay_last shown] at first
    rw [overlay_last shown'] at second
    exact Option.some.inj (first.trans second.symm)
  · intro agree others order
    rcases @overlay_isSome_cases _ _ view layers with hidden | ⟨layer, member, value, shown⟩
    · rw [overlay_of_hidden hidden,
        overlay_of_hidden fun other present => hidden other (order.mem_iff.mp present)]
    · have within : ∀ other ∈ layers, ∀ value', view other = some value' → value' = value := by
        intro other present value' shown'
        exact agree other present layer member value' value shown' shown
      rw [overlay_of_agree within (Or.inr ⟨layer, member, shown⟩),
        overlay_of_agree
          (fun other present => within other (order.mem_iff.mp present))
          (Or.inr ⟨layer, order.mem_iff.mpr member, shown⟩)]

section Lookup

variable {Key : Type*} [BEq Key] [LawfulBEq Key]

theorem lookup_eq_some_iff_mem {entries : List (Key × Value)}
    (distinct : (entries.map Prod.fst).Nodup) {key : Key} {value : Value} :
    entries.lookup key = some value ↔ (key, value) ∈ entries := by
  induction entries with
  | nil => simp
  | cons entry rest ih =>
      obtain ⟨own, shown⟩ := entry
      rw [List.map_cons, List.nodup_cons] at distinct
      rw [List.lookup_cons, List.mem_cons, Prod.mk.injEq]
      by_cases same : key = own
      · subst same
        have absent : (key, value) ∉ rest :=
          fun member => distinct.1 (List.mem_map.mpr ⟨_, member, rfl⟩)
        simp [absent, eq_comm]
      · have differs : (key == own) = false := beq_eq_false_iff_ne.mpr same
        rw [differs]
        simp [same, ih distinct.2]

theorem lookup_perm {entries others : List (Key × Value)}
    (distinct : (entries.map Prod.fst).Nodup) (order : others.Perm entries) (key : Key) :
    others.lookup key = entries.lookup key := by
  have distinct' : (others.map Prod.fst).Nodup := (order.map Prod.fst).nodup_iff.mpr distinct
  ext value
  rw [lookup_eq_some_iff_mem distinct', lookup_eq_some_iff_mem distinct, order.mem_iff]

end Lookup

end FiksOpp.Overlays
