/-
The detail responses that are kept by id: what a detail screen shows while its own request
is on the way.
-/

import FiksOpp.AppStoreRestart

namespace FiksOpp.UserState

open CellStore EventRun

variable {δ : Type}

def initialData (cached : List (ℤ × δ)) (id : ℤ) : Option δ :=
  (cached.find? (·.1 == id)).map (·.2)

theorem upsert_nil (id : ℤ) (response : δ) : upsert id response [] = [(id, response)] := rfl

theorem upsert_cons_of_eq (id : ℤ) (response : δ) {entry : ℤ × δ} (same : entry.1 = id)
    (rest : List (ℤ × δ)) : upsert id response (entry :: rest) = (id, response) :: rest := by
  have here : (entry.1 == id) = true := beq_iff_eq.mpr same
  unfold upsert
  rw [List.any_cons, here, Bool.true_or, Bool.not_true, if_neg Bool.false_ne_true,
    List.findIdx_cons, here]
  rfl

theorem upsert_cons_of_ne (id : ℤ) (response : δ) {entry : ℤ × δ} (other : entry.1 ≠ id)
    (rest : List (ℤ × δ)) :
    upsert id response (entry :: rest) = entry :: upsert id response rest := by
  have here : (entry.1 == id) = false := beq_eq_false_iff_ne.mpr other
  unfold upsert
  rw [List.any_cons, here, Bool.false_or, List.findIdx_cons, here]
  cases rest.any (·.1 == id) with
  | true => rfl
  | false => rfl

theorem initialData_upsert (id : ℤ) (response : δ) (cached : List (ℤ × δ)) (shown : ℤ) :
    initialData (upsert id response cached) shown =
      if id = shown then some response else initialData cached shown := by
  induction cached with
  | nil =>
      by_cases same : id = shown
      · rw [if_pos same, upsert_nil, initialData,
          List.find?_cons_of_pos (by exact beq_iff_eq.mpr same)]
        rfl
      · rw [if_neg same, upsert_nil, initialData,
          List.find?_cons_of_neg (by exact fun here => same (beq_iff_eq.mp here))]
        rfl
  | cons entry rest ih =>
      by_cases replaced : entry.1 = id
      · rw [upsert_cons_of_eq id response replaced]
        by_cases same : id = shown
        · rw [if_pos same, initialData,
            List.find?_cons_of_pos (by exact beq_iff_eq.mpr same)]
          rfl
        · have other : entry.1 ≠ shown := fun here => same (replaced.symm.trans here)
          rw [if_neg same, initialData, initialData,
            List.find?_cons_of_neg (by exact fun here => same (beq_iff_eq.mp here)),
            List.find?_cons_of_neg (by exact fun here => other (beq_iff_eq.mp here))]
      · rw [upsert_cons_of_ne id response replaced]
        by_cases here : entry.1 = shown
        · have other : id ≠ shown := fun same => replaced (here.trans same.symm)
          rw [if_neg other, initialData, initialData,
            List.find?_cons_of_pos (by exact beq_iff_eq.mpr here),
            List.find?_cons_of_pos (by exact beq_iff_eq.mpr here)]
        · unfold initialData at ih ⊢
          rw [List.find?_cons_of_neg (by exact fun found => here (beq_iff_eq.mp found)), ih,
            List.find?_cons_of_neg (by exact fun found => here (beq_iff_eq.mp found))]

theorem ids_upsert (id : ℤ) (response : δ) (cached : List (ℤ × δ)) :
    (upsert id response cached).map Prod.fst =
      if id ∈ cached.map Prod.fst then cached.map Prod.fst else cached.map Prod.fst ++ [id] := by
  induction cached with
  | nil => rfl
  | cons entry rest ih =>
      by_cases replaced : entry.1 = id
      · rw [upsert_cons_of_eq id response replaced, List.map_cons, List.map_cons,
          if_pos (by rw [replaced]; exact List.mem_cons_self), replaced]
      · have inTail : id ∈ entry.1 :: rest.map Prod.fst ↔ id ∈ rest.map Prod.fst := by
          rw [List.mem_cons]
          exact or_iff_right (Ne.symm replaced)
        rw [upsert_cons_of_ne id response replaced, List.map_cons, List.map_cons, ih]
        by_cases present : id ∈ rest.map Prod.fst
        · rw [if_pos present, if_pos (inTail.mpr present)]
        · rw [if_neg present, if_neg (fun found => present (inTail.mp found)), List.cons_append]

theorem nodup_upsert (id : ℤ) (response : δ) {cached : List (ℤ × δ)}
    (nodup : (cached.map Prod.fst).Nodup) :
    ((upsert id response cached).map Prod.fst).Nodup := by
  rw [ids_upsert]
  split
  · exact nodup
  · rename_i absent
    rw [List.nodup_append]
    refine ⟨nodup, List.pairwise_singleton _ id, ?_⟩
    intro kept present added new
    rw [List.mem_singleton.mp new]
    exact fun same => absent (same ▸ present)

/-! ### What the rest of the app does to the caches -/

def ofDetail (state : State δ) (cache : KeyedCache) : List (ℤ × δ) :=
  state (.keyed cache)

theorem keyed_of_untouched {cache : KeyedCache} {writes : Writes δ}
    (untouched : Cell.keyed cache ∉ cells writes) (state : State δ) :
    applyAll writes state (.keyed cache) = state (.keyed cache) :=
  applyAll_of_not_mem untouched state

theorem keyed_saveUserData (cache : KeyedCache) (data : UserData) (force : Bool) :
    Cell.keyed cache ∉ cells (saveUserData data force : Writes δ) := by
  unfold saveUserData
  cases force <;> split <;> split <;> simp

theorem keyed_clearWrites (cache : KeyedCache) (isRemembered : Bool)
    (unsubscription : Unsubscription) :
    Cell.keyed cache ∉ cells (clearWrites isRemembered unsubscription : Writes δ) := by
  rw [clearWrites_cells]
  intro member
  have erased := (clearedCells_not_kept isRemembered unsubscription _ member).2
  cases erased

/-- What an event does to the entry of an id: a restart forgets it, a response under the id
takes its place. -/
def LifeEvent.setsDetail (cache : KeyedCache) (id : ℤ) : LifeEvent δ → Option (Option δ)
  | .restart => some none
  | .fetched ⟨.detail call key, response⟩ =>
      if call.cache = cache ∧ key = id then some (some response) else none
  | _ => none

theorem ofDetail_writes {call : Call} (other : ∀ detail id, call ≠ .detail detail id)
    (answer : call.Answer δ) (state : State δ) (cache : KeyedCache) :
    ofDetail (applyAll (writes state call answer) state) cache = ofDetail state cache := by
  cases call with
  | detail call id => exact absurd rfl (other call id)
  | saveUserData force => exact keyed_of_untouched (keyed_saveUserData cache answer force) state
  | getAppConfigurations toolkit currentTimeStamp timestamp =>
      exact keyed_of_untouched (untouched_getAppConfigurations nofun) state
  | appleSignIn =>
      apply keyed_of_untouched
      change Cell.keyed cache ∉ cells (appleSignIn answer)
      unfold appleSignIn
      split <;> simp
  | _ => exact keyed_of_untouched (by simp [writes, setUserWalletAmount, userDashboard,
      buildFullAddressFromLatLong, setUnreadCount]) state

theorem ofDetail_detail (call : DetailCall) (id : ℤ) (response : δ) (state : State δ)
    (cache : KeyedCache) :
    ofDetail (applyAll (writes state (.detail call id) response) state) cache =
      if call.cache = cache then upsert id response (ofDetail state cache)
      else ofDetail state cache := by
  by_cases same : call.cache = cache
  · subst same
    rw [if_pos rfl]
    exact @Write.apply_same _ (Content δ) _ ⟨.keyed call.cache, upsert id response⟩ state
  · rw [if_neg same]
    apply keyed_of_untouched
    intro member
    have named := List.mem_singleton.mp member
    exact same (Cell.keyed.inj named).symm

theorem ofDetail_logout (unsubscription : Unsubscription) (state : State δ)
    (cache : KeyedCache) :
    ofDetail (clearPreferences unsubscription state) cache = ofDetail state cache :=
  keyed_of_untouched (keyed_clearWrites cache _ unsubscription) state

theorem initialData_lifeNext (cache : KeyedCache) (id : ℤ) (state : State δ)
    (event : LifeEvent δ) :
    initialData (ofDetail (lifeNext state event) cache) id =
      (event.setsDetail cache id).getD (initialData (ofDetail state cache) id) := by
  cases event with
  | fetched answer =>
      obtain ⟨call, answer⟩ := answer
      by_cases detail : ∃ detailCall key, call = .detail detailCall key
      · obtain ⟨detailCall, key, rfl⟩ := detail
        change initialData (ofDetail (applyAll (writes state (.detail detailCall key) answer)
          state) cache) id = _
        rw [ofDetail_detail]
        by_cases same : detailCall.cache = cache
        · rw [if_pos same, initialData_upsert]
          by_cases here : key = id
          · rw [if_pos here]
            change _ = (if _ then _ else _ : Option (Option δ)).getD _
            rw [if_pos ⟨same, here⟩]
            rfl
          · rw [if_neg here]
            change _ = (if _ then _ else _ : Option (Option δ)).getD _
            rw [if_neg (fun both => here both.2)]
            rfl
        · rw [if_neg same]
          change _ = (if _ then _ else _ : Option (Option δ)).getD _
          rw [if_neg (fun both => same both.1)]
          rfl
      · have other : ∀ detailCall key, call ≠ .detail detailCall key :=
          fun detailCall key same => detail ⟨detailCall, key, same⟩
        change initialData (ofDetail (applyAll (writes state call answer) state) cache) id = _
        rw [ofDetail_writes other]
        cases call with
        | detail call id => exact absurd rfl (other call id)
        | _ => rfl
  | logout unsubscription =>
      change initialData (ofDetail (clearPreferences unsubscription state) cache) id = _
      rw [ofDetail_logout]
      rfl
  | restart => rfl
  | setText own val => rfl
  | setCurrentLocation val => rfl
  | setLatitude val => rfl
  | setLongitude val => rfl

theorem nodup_lifeNext (cache : KeyedCache) (state : State δ) (event : LifeEvent δ)
    (nodup : ((ofDetail state cache).map Prod.fst).Nodup) :
    ((ofDetail (lifeNext state event) cache).map Prod.fst).Nodup := by
  cases event with
  | fetched answer =>
      obtain ⟨call, answer⟩ := answer
      by_cases detail : ∃ detailCall key, call = .detail detailCall key
      · obtain ⟨detailCall, key, rfl⟩ := detail
        change ((ofDetail (applyAll (writes state (.detail detailCall key) answer)
          state) cache).map Prod.fst).Nodup
        rw [ofDetail_detail]
        split
        · exact nodup_upsert key answer nodup
        · exact nodup
      · have other : ∀ detailCall key, call ≠ .detail detailCall key :=
          fun detailCall key same => detail ⟨detailCall, key, same⟩
        change ((ofDetail (applyAll (writes state call answer) state) cache).map
          Prod.fst).Nodup
        rw [ofDetail_writes other]
        exact nodup
  | logout unsubscription =>
      change ((ofDetail (clearPreferences unsubscription state) cache).map Prod.fst).Nodup
      rw [ofDetail_logout]
      exact nodup
  | restart => exact List.nodup_nil
  | setText own val => exact nodup
  | setCurrentLocation val => exact nodup
  | setLatitude val => exact nodup
  | setLongitude val => exact nodup

/-- No call fills `listOfCachedData`. -/
theorem setsDetail_listOfCachedData (id : ℤ) (event : LifeEvent δ) :
    event.setsDetail .listOfCachedData id = none ∨
      event.setsDetail .listOfCachedData id = some none := by
  cases event with
  | fetched answer =>
      obtain ⟨call, answer⟩ := answer
      cases call with
      | detail call key =>
          left
          change (if _ then _ else _ : Option (Option δ)) = none
          apply if_neg
          rintro ⟨same, -⟩
          cases call <;> cases same
      | _ => exact .inl rfl
  | restart => exact .inr rfl
  | _ => exact .inl rfl

theorem initialData_listOfCachedData_next (id : ℤ) (state : State δ) (event : LifeEvent δ)
    (missing : initialData (ofDetail state .listOfCachedData) id = none) :
    initialData (ofDetail (lifeNext state event) .listOfCachedData) id = none := by
  rw [initialData_lifeNext]
  rcases setsDetail_listOfCachedData id event with untouched | forgotten
  · rw [untouched]
    exact missing
  · rw [forgotten]
    rfl

/-- In every state of every life of the app a cache holds one entry an id at most, and a
detail screen opens with the last response of its call under that id since the app was
started, whoever was logged in when it came; the service screen never does. -/
theorem details_open_with_last_response (events : List (LifeEvent δ)) :
    (∀ cache,
      ((ofDetail ((life δ).run (freshInstall δ) events) cache).map Prod.fst).Nodup ∧
        ∀ id, initialData (ofDetail ((life δ).run (freshInstall δ) events) cache) id =
          ((events.filterMap fun event => event.setsDetail cache id).getLast?).getD none) ∧
      ∀ id, initialData (ofDetail ((life δ).run (freshInstall δ) events) .listOfCachedData) id =
        none := by
  refine ⟨fun cache => ⟨?_, fun id => ?_⟩, fun id => ?_⟩
  · have initially : ((ofDetail (freshInstall δ) cache).map Prod.fst).Nodup := List.nodup_nil
    exact @Machine.invariant_run_of_kept _ _ _ (life δ)
      (fun state => ((ofDetail state cache).map Prod.fst).Nodup) (nodup_lifeNext cache)
      _ initially events
  · exact @Machine.view_run _ _ _ (life δ) _ (fun state => initialData (ofDetail state cache) id)
      (LifeEvent.setsDetail cache id) (initialData_lifeNext cache id) (freshInstall δ) events
  · have initially : initialData (ofDetail (freshInstall δ) .listOfCachedData) id = none := rfl
    exact @Machine.invariant_run_of_kept _ _ _ (life δ)
      (fun state => initialData (ofDetail state .listOfCachedData) id = none)
      (initialData_listOfCachedData_next id) _ initially events

end FiksOpp.UserState
