/-
The button of `CreatePostRequestScreen`: Publish once something has changed, Save before.

Each edit compares the whole form with what was noted when the screen was opened or the list
of services last came, and a load that succeeds notes the form as it is by then.
-/

import FiksOpp.Foundations.SameMembers
import FiksOpp.PostRequestServices

namespace FiksOpp.PostRequest

open EventRun
open SameMembers

/-- The texts of the three fields; the last one holds the date. -/
structure FormTexts where
  title : String
  description : String
  price : String
  deriving DecidableEq, Repr

inductive Field where
  | title
  | description
  | price
  deriving DecidableEq, Repr

def FormTexts.typed (texts : FormTexts) (field : Field) (text : String) : FormTexts :=
  match field with
  | .title => { texts with title := text }
  | .description => { texts with description := text }
  | .price => { texts with price := text }

inductive ButtonText where
  | save
  | publish
  deriving DecidableEq, Repr

structure Draft where
  screen : Screen
  texts : FormTexts
  hasChanges : Bool
  initialTexts : FormTexts
  initialSelectedServiceIds : List ℤ
  deriving DecidableEq, Repr

inductive DraftEvent where
  | typed (field : Field) (text : String)
  | screen (event : ScreenEvent)
  deriving DecidableEq, Repr

namespace Draft

def opened (texts : FormTexts) : Draft :=
  { screen := {}
    texts := texts
    hasChanges := false
    initialTexts := texts
    initialSelectedServiceIds := [] }

def changed (draft : Draft) : Bool :=
  draft.texts.title != draft.initialTexts.title ||
    draft.texts.description != draft.initialTexts.description ||
    draft.texts.price != draft.initialTexts.price ||
    !sameMembers draft.screen.serviceIds draft.initialSelectedServiceIds

def checkForChanges (draft : Draft) : Draft :=
  { draft with hasChanges := draft.changed }

def pressed (draft : Draft) (row : ℕ) : Draft :=
  match draft.screen.filteredServices[row]? with
  | none => draft
  | some _ => { draft with screen := draft.screen.pressed row }.checkForChanges

/-- What is noted is the form when the answer comes, not when it was asked for. -/
def loaded (draft : Draft) (userServices : Option (List ServiceJson)) : Draft :=
  { draft with
    screen := draft.screen.loaded userServices
    initialTexts := draft.texts
    initialSelectedServiceIds := (draft.screen.loaded userServices).serviceIds
    hasChanges := false }

def next (draft : Draft) : DraftEvent → Draft
  | .typed field text => { draft with texts := draft.texts.typed field text }.checkForChanges
  | .screen (.pressed row) => draft.pressed row
  | .screen (.loaded userServices) => draft.loaded userServices
  | .screen event => { draft with screen := draft.screen.next event }

def buttonText (draft : Draft) : ButtonText :=
  if draft.hasChanges then .publish else .save

end Draft

def draftMachine : Machine Draft DraftEvent Empty :=
  { next := Draft.next
    outputs := fun _ _ => [] }

def DraftEvent.IsLoad : DraftEvent → Prop
  | .screen (.loaded _) => True
  | _ => False

namespace Draft

def SameForm (draft other : Draft) : Prop :=
  draft.texts = other.texts ∧ draft.screen.serviceIds.Perm other.screen.serviceIds

/-- What is kept: no service is selected twice, now or when the form was noted, and the
button is up to date. -/
structure UpToDate (draft : Draft) : Prop where
  nodup : (draft.screen.selectedServiceList.map ServiceData.id).Nodup
  noted : ∃ chosen : List (Option ℤ), chosen.Nodup ∧
    draft.initialSelectedServiceIds = chosen.map fun id => id.getD 0
  current : draft.hasChanges = draft.changed

/-! ### Steps -/

theorem serviceIds_eq (screen : Screen) :
    screen.serviceIds =
      (screen.selectedServiceList.map ServiceData.id).map fun id => id.getD 0 := by
  rw [List.map_map]
  rfl

theorem nodup_pressed {screen : Screen} (row : ℕ)
    (nodup : (screen.selectedServiceList.map ServiceData.id).Nodup) :
    ((screen.pressed row).selectedServiceList.map ServiceData.id).Nodup := by
  cases found : screen.filteredServices[row]? with
  | none =>
      rw [Screen.pressed_of_none found]
      exact nodup
  | some data =>
      by_cases shows : screen.showsRemove data = true
      · rw [Screen.pressed_remove found shows]
        exact (List.erase_sublist.map ServiceData.id).nodup nodup
      · rw [Screen.pressed_add found shows]
        change ((screen.selectedServiceList ++ [data]).map ServiceData.id).Nodup
        rw [List.map_append, List.nodup_append]
        refine ⟨nodup, List.nodup_singleton _, ?_⟩
        intro id member other single same
        obtain ⟨chosen, selected, rfl⟩ := List.mem_map.mp member
        rw [List.mem_singleton.mp single] at same
        exact shows ((Screen.showsRemove_iff screen data).mpr ⟨chosen, selected, same⟩)

theorem selectedServiceList_loaded (screen : Screen) (userServices : Option (List ServiceJson)) :
    (screen.loaded userServices).selectedServiceList = screen.selectedServiceList := by
  cases userServices with
  | none => rfl
  | some services => rfl

theorem changed_of_noted {draft : Draft} (texts : draft.texts = draft.initialTexts)
    (services : draft.screen.serviceIds = draft.initialSelectedServiceIds) :
    draft.changed = false := by
  have same : sameMembers draft.screen.serviceIds draft.initialSelectedServiceIds = true := by
    rw [sameMembers_iff, services]
    exact ⟨rfl, fun _ => Iff.rfl⟩
  unfold changed
  rw [texts, same]
  simp

theorem upToDate_opened (texts : FormTexts) : (opened texts).UpToDate where
  nodup := List.nodup_nil
  noted := ⟨[], List.nodup_nil, rfl⟩
  current := (changed_of_noted rfl rfl).symm

theorem upToDate_next (draft : Draft) (event : DraftEvent) (held : draft.UpToDate) :
    (draft.next event).UpToDate := by
  cases event with
  | typed field text => exact ⟨held.nodup, held.noted, rfl⟩
  | screen event =>
      cases event with
      | pressed row =>
          change (draft.pressed row).UpToDate
          unfold pressed
          split
          · exact held
          · exact ⟨nodup_pressed row held.nodup, held.noted, rfl⟩
      | loaded userServices =>
          have kept := selectedServiceList_loaded draft.screen userServices
          refine ⟨?_, ⟨_, held.nodup, ?_⟩, (changed_of_noted rfl rfl).symm⟩
          · change ((draft.screen.loaded userServices).selectedServiceList.map _).Nodup
            rw [kept]
            exact held.nodup
          · change (draft.screen.loaded userServices).serviceIds = _
            rw [serviceIds_eq, kept]
      | filtered category => exact ⟨held.nodup, held.noted, held.current⟩
      | deletionSucceeded id => exact ⟨held.nodup, held.noted, held.current⟩
      | requestFailed => exact ⟨held.nodup, held.noted, held.current⟩

theorem noted_next (draft : Draft) {event : DraftEvent} (other : ¬ event.IsLoad) :
    (draft.next event).initialTexts = draft.initialTexts ∧
      (draft.next event).initialSelectedServiceIds = draft.initialSelectedServiceIds := by
  cases event with
  | typed field text => exact ⟨rfl, rfl⟩
  | screen event =>
      cases event with
      | pressed row =>
          change (draft.pressed row).initialTexts = _ ∧
            (draft.pressed row).initialSelectedServiceIds = _
          unfold pressed
          split <;> exact ⟨rfl, rfl⟩
      | loaded userServices => exact absurd trivial other
      | filtered category => exact ⟨rfl, rfl⟩
      | deletionSucceeded id => exact ⟨rfl, rfl⟩
      | requestFailed => exact ⟨rfl, rfl⟩

theorem changed_eq_false_iff {draft : Draft} (held : draft.UpToDate) :
    draft.changed = false ↔
      draft.texts = draft.initialTexts ∧
        draft.screen.serviceIds.Perm draft.initialSelectedServiceIds := by
  obtain ⟨chosen, distinct, ids⟩ := held.noted
  have services : sameMembers draft.screen.serviceIds draft.initialSelectedServiceIds = true ↔
      draft.screen.serviceIds.Perm draft.initialSelectedServiceIds := by
    rw [ids, serviceIds_eq]
    exact sameMembers_iff_perm (onlyRepeats_getD 0 held.nodup) (onlyRepeats_getD 0 distinct)
  have texts : draft.texts = draft.initialTexts ↔
      draft.texts.title = draft.initialTexts.title ∧
        draft.texts.description = draft.initialTexts.description ∧
        draft.texts.price = draft.initialTexts.price := by
    cases draft.texts
    cases draft.initialTexts
    rw [FormTexts.mk.injEq]
  rw [texts, ← services]
  unfold changed
  simp only [Bool.or_eq_false_iff, bne_eq_false_iff_eq, Bool.not_eq_false', and_assoc]

end Draft

open Draft

theorem upToDate_run (texts : FormTexts) (events : List DraftEvent) :
    (draftMachine.run (opened texts) events).UpToDate :=
  draftMachine.invariant_run_of_kept UpToDate upToDate_next (upToDate_opened texts) events

theorem noted_run (draft : Draft) {events : List DraftEvent}
    (other : ∀ event ∈ events, ¬ event.IsLoad) :
    (draftMachine.run draft events).initialTexts = draft.initialTexts ∧
      (draftMachine.run draft events).initialSelectedServiceIds =
        draft.initialSelectedServiceIds := by
  induction events generalizing draft with
  | nil => exact ⟨rfl, rfl⟩
  | cons event rest ih =>
      have first := noted_next draft (other event List.mem_cons_self)
      have later := ih (draft.next event) fun event member => other event (List.mem_cons_of_mem _ member)
      exact ⟨later.1.trans first.1, later.2.trans first.2⟩

def Noted (draft : Draft) : Prop :=
  draft.initialTexts = draft.texts ∧
    draft.initialSelectedServiceIds = draft.screen.serviceIds

theorem noted_of_load (texts : FormTexts) {before : List DraftEvent}
    (loads : before = [] ∨ ∃ earlier userServices,
      before = earlier ++ [.screen (.loaded userServices)]) :
    Noted (draftMachine.run (opened texts) before) := by
  rcases loads with rfl | ⟨earlier, userServices, rfl⟩
  · exact ⟨rfl, rfl⟩
  · rw [draftMachine.run_concat]
    exact ⟨rfl, rfl⟩

theorem buttonText_eq_publish_iff (draft : Draft) :
    draft.buttonText = .publish ↔ draft.hasChanges = true := by
  unfold buttonText
  cases draft.hasChanges with
  | true => exact iff_of_true rfl rfl
  | false => exact iff_of_false (fun impossible => nomatch impossible) Bool.false_ne_true

/-- In every order of typing, taps on the rows, loads, deletions and failures: the button says
Publish exactly when the texts are not those, or the selected services not in some order those,
that the form held when it was opened or the services last came. -/
theorem publish_iff_changed (texts : FormTexts) {before after : List DraftEvent}
    (loads : before = [] ∨ ∃ earlier userServices,
      before = earlier ++ [.screen (.loaded userServices)])
    (other : ∀ event ∈ after, ¬ event.IsLoad) :
    (draftMachine.run (opened texts) (before ++ after)).buttonText = .publish ↔
      ¬ SameForm (draftMachine.run (opened texts) (before ++ after))
        (draftMachine.run (opened texts) before) := by
  have held := upToDate_run texts (before ++ after)
  have noted := noted_of_load texts loads
  have kept := noted_run (draftMachine.run (opened texts) before) other
  rw [← draftMachine.run_append] at kept
  rw [buttonText_eq_publish_iff, held.current, ← Bool.not_eq_false, not_iff_not,
    changed_eq_false_iff held, kept.1, kept.2, noted.1, noted.2]
  rfl

/-- A service is selected and taken back again, and another one selected. -/
theorem publish_iff_changed_two_services :
    (draftMachine.run (opened { title := "Wall", description := "", price := "" })
      ([.screen (.loaded (some [{ id := some 4, categoryId := none },
          { id := some 5, categoryId := none }]))] ++
        [.screen (.pressed 0), .screen (.pressed 0), .screen (.pressed 1)])).buttonText =
      .publish := by
  refine (publish_iff_changed _ (Or.inr ⟨[], _, rfl⟩) ?_).mpr ?_
  · simp [DraftEvent.IsLoad]
  · rintro ⟨-, perm⟩
    exact absurd perm.length_eq (by decide)

end FiksOpp.PostRequest
