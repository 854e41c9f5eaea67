/-
Adding images to `CreateServiceScreen`, one await at a time.

`_addImageIfNotDuplicate` reads the file that was picked, then each image of the list in turn.
While it waits, images are removed and other calls add theirs; the iterator only notices that
the list has another length, and whatever is thrown inside, the image is added.
-/

import FiksOpp.Foundations.EventRun
import FiksOpp.ServiceRequest

namespace FiksOpp.CreateService

open EventRun

inductive Awaited where
  | newBytes
  /-- The bytes of the image that was at `position`, in a loop over a list of `length` images;
  `began` is the number of changes before the loop. -/
  | existing (path : String) (position length began : ℕ)
  deriving DecidableEq, Repr

/-- A call under way, with the files picked together that are added after it. -/
structure Adding where
  path : String
  awaited : Awaited := .newBytes
  rest : List String
  deriving DecidableEq, Repr

structure PickingScreen where
  imageFiles : ImageFiles
  adding : List Adding := []
  /-- How often the list was changed; nothing reads it. -/
  changes : ℕ := 0

inductive PickEvent where
  /-- From the camera, the gallery, or several at once. -/
  | picked (paths : List String)
  /-- A file has been read, or could not be. -/
  | read (call : ℕ) (succeeds : Bool)
  | removed (index : ℕ)
  deriving DecidableEq, Repr

inductive Comparison where
  | adds
  | duplicate
  | reads (path : String) (position : ℕ)
  deriving DecidableEq, Repr

/-- The loop up to its next `await`, from a position. -/
def compareFrom (path : String) (position : ℕ) : List XFile → Comparison
  | [] => .adds
  | existing :: rest =>
      if existing.path = path then .duplicate
      else if hasHttps existing then compareFrom path (position + 1) rest
      else .reads existing.path position

/-- The iterator throws when the list has another length than at the start of the loop. -/
def moveNext (files : List XFile) (path : String) (position length : ℕ) : Comparison :=
  if files.length = length then compareFrom path position (files.drop position)
  else .adds

def Adding.following (call : Adding) : Option Adding :=
  match call.rest with
  | [] => none
  | path :: rest => some { path := path, rest := rest }

section Reading

variable (readAsBytes : String → List UInt8)

/-- What is thrown by a file that cannot be read is caught, and the image is added. -/
def Adding.compare (call : Adding) (files : List XFile) (succeeds : Bool) : Comparison :=
  if succeeds then
    match call.awaited with
    | .newBytes => moveNext files call.path 0 files.length
    | .existing path position length _ =>
        if readAsBytes path = readAsBytes call.path then .duplicate
        else moveNext files call.path (position + 1) length
  else .adds

namespace PickingScreen

def finished (screen : PickingScreen) (index : ℕ) (call : Adding) : List Adding :=
  match call.following with
  | none => screen.adding.eraseIdx index
  | some following => screen.adding.set index following

def beganAt (screen : PickingScreen) : Awaited → ℕ × ℕ
  | .newBytes => (screen.imageFiles.files.length, screen.changes)
  | .existing _ _ length began => (length, began)

def goOn (screen : PickingScreen) (index : ℕ) (call : Adding) : Comparison → PickingScreen
  | .adds =>
      { imageFiles := screen.imageFiles.add call.path true
        adding := screen.finished index call
        changes := screen.changes + 1 }
  | .duplicate => { screen with adding := screen.finished index call }
  | .reads path position =>
      { screen with
        adding := screen.adding.set index
          { call with
            awaited := .existing path position (screen.beganAt call.awaited).1
              (screen.beganAt call.awaited).2 } }

def read (screen : PickingScreen) (index : ℕ) (succeeds : Bool) : PickingScreen :=
  match screen.adding[index]? with
  | none => screen
  | some call => screen.goOn index call (call.compare readAsBytes screen.imageFiles.files succeeds)

def next (screen : PickingScreen) : PickEvent → PickingScreen
  | .picked [] => screen
  | .picked (path :: rest) =>
      { screen with adding := screen.adding ++ [{ path := path, rest := rest }] }
  | .read index succeeds => screen.read readAsBytes index succeeds
  | .removed index =>
      { screen with
        imageFiles := screen.imageFiles.removeAt index
        changes := screen.changes + 1 }

end PickingScreen

def pickMachine : Machine PickingScreen PickEvent Empty :=
  { next := PickingScreen.next readAsBytes
    outputs := fun _ _ => [] }

/-- What the comparison of an image of the list with a picked file finds. -/
def Apart (existing : XFile) (path : String) : Prop :=
  existing.path ≠ path ∧
    (hasHttps existing = false → readAsBytes existing.path ≠ readAsBytes path)

def NoTwoAlike (screen : PickingScreen) : Prop :=
  screen.imageFiles.files.Pairwise fun earlier later => Apart readAsBytes earlier later.path

/-- The list is as it was when the loop of the call began. -/
def Undisturbed (screen : PickingScreen) (call : Adding) : Prop :=
  ∀ path position length began, call.awaited = .existing path position length began →
    began = screen.changes

/-- An image that is added because a file could not be read, or after the list was changed
under the loop, is unlike all there are. -/
def BlindAdditionFits (screen : PickingScreen) : PickEvent → Prop
  | .read index succeeds =>
      ∀ call, screen.adding[index]? = some call →
        call.compare readAsBytes screen.imageFiles.files succeeds = .adds →
          (succeeds = false ∨ ¬ Undisturbed screen call) →
            ∀ existing ∈ screen.imageFiles.files, Apart readAsBytes existing call.path
  | _ => True

def Compared (files : List XFile) (file path : String) (position : ℕ) : Prop :=
  ∃ before existing after, files = before ++ existing :: after ∧ before.length = position ∧
    existing.path = path ∧ path ≠ file ∧ ∀ image ∈ before, Apart readAsBytes image file

/-- How far a call has come, as long as nothing else has changed the list. -/
def Sound (screen : PickingScreen) : Prop :=
  ∀ call ∈ screen.adding, ∀ path position length began,
    call.awaited = .existing path position length began →
      began ≤ screen.changes ∧
        (began = screen.changes →
          length = screen.imageFiles.files.length ∧
            Compared readAsBytes screen.imageFiles.files call.path path position)

end Reading

section Loop

variable {readAsBytes : String → List UInt8}

/-- What the loop has found out when it stops, from what it knew. -/
def Learned (readAsBytes : String → List UInt8) (files : List XFile) (file : String) :
    Comparison → Prop
  | .adds => ∀ existing ∈ files, Apart readAsBytes existing file
  | .duplicate => True
  | .reads path position => Compared readAsBytes files file path position

theorem learned_compareFrom {file : String} {before : List XFile} (rest : List XFile)
    (known : ∀ image ∈ before, Apart readAsBytes image file) :
    Learned readAsBytes (before ++ rest) file (compareFrom file before.length rest) := by
  induction rest generalizing before with
  | nil =>
      intro existing member
      rw [List.append_nil] at member
      exact known existing member
  | cons existing rest ih =>
      unfold compareFrom
      by_cases same : existing.path = file
      · rw [if_pos same]
        trivial
      rw [if_neg same]
      cases online : hasHttps existing with
      | true =>
          have further := @ih (before ++ [existing]) ?_
          · rw [List.append_assoc, List.length_append] at further
            exact further
          · intro image member
            rcases List.mem_append.mp member with old | new
            · exact known image old
            · rw [List.mem_singleton.mp new]
              refine ⟨same, fun offline => ?_⟩
              rw [online] at offline
              cases offline
      | false => exact ⟨before, existing, rest, rfl, rfl, rfl, same, known⟩

theorem learned_moveNext {files : List XFile} {file path : String} {position : ℕ}
    (compared : Compared readAsBytes files file path position)
    (different : readAsBytes path ≠ readAsBytes file) :
    Learned readAsBytes files file (moveNext files file (position + 1) files.length) := by
  obtain ⟨before, existing, after, rfl, rfl, rfl, other, known⟩ := compared
  unfold moveNext
  rw [if_pos rfl]
  have split : before ++ existing :: after = (before ++ [existing]) ++ after := by
    rw [List.append_assoc]
    rfl
  have length : before.length + 1 = (before ++ [existing]).length := by
    rw [List.length_append]
    rfl
  rw [split, length, List.drop_left]
  apply learned_compareFrom
  intro image member
  rcases List.mem_append.mp member with old | new
  · exact known image old
  · rw [List.mem_singleton.mp new]
    exact ⟨other, fun _ => different⟩

theorem learned_compare {screen : PickingScreen} (sound : Sound readAsBytes screen)
    {call : Adding} (member : call ∈ screen.adding) (undisturbed : Undisturbed screen call) :
    Learned readAsBytes screen.imageFiles.files call.path
      (call.compare readAsBytes screen.imageFiles.files true) := by
  unfold Adding.compare
  rw [if_pos rfl]
  cases awaited : call.awaited with
  | newBytes =>
      change Learned readAsBytes _ _ (moveNext _ _ 0 _)
      unfold moveNext
      rw [if_pos rfl, List.drop_zero]
      exact @learned_compareFrom readAsBytes _ [] _ (fun _ impossible => nomatch impossible)
  | existing path position length began =>
      have now := undisturbed path position length began awaited
      obtain ⟨rfl, compared⟩ := (sound call member path position length began awaited).2 now
      change Learned readAsBytes _ _ (if readAsBytes path = readAsBytes call.path then _ else _)
      split
      · trivial
      · rename_i different
        exact learned_moveNext compared different

end Loop

/-! ### Steps -/

section Steps

variable {readAsBytes : String → List UInt8}

theorem mem_finished {screen : PickingScreen} {index : ℕ} {call other : Adding}
    (member : other ∈ screen.finished index call) :
    other ∈ screen.adding ∨ other.awaited = .newBytes := by
  unfold PickingScreen.finished at member
  cases following : call.following with
  | none =>
      rw [following] at member
      exact Or.inl (List.mem_of_mem_eraseIdx member)
  | some next =>
      rw [following] at member
      rcases List.mem_or_eq_of_mem_set member with old | rfl
      · exact Or.inl old
      · right
        unfold Adding.following at following
        split at following
        · cases following
        · rw [← Option.some.inj following]

theorem sound_of_old {screen screen' : PickingScreen} (sound : Sound readAsBytes screen)
    (same : screen'.imageFiles = screen.imageFiles ∧ screen'.changes = screen.changes ∨
      screen.changes < screen'.changes)
    (calls : ∀ call ∈ screen'.adding, call ∈ screen.adding ∨ call.awaited = .newBytes) :
    Sound readAsBytes screen' := by
  intro call member path position length began awaited
  rcases calls call member with old | fresh
  · have before := sound call old path position length began awaited
    rcases same with ⟨images, changes⟩ | later
    · rw [images, changes]
      exact before
    · refine ⟨by omega, fun now => ?_⟩
      omega
  · rw [fresh] at awaited
    cases awaited

theorem sound_reads {screen : PickingScreen} (sound : Sound readAsBytes screen) {index : ℕ}
    {call : Adding} (member : call ∈ screen.adding) {path : String} {position : ℕ}
    (learned : Undisturbed screen call →
      Compared readAsBytes screen.imageFiles.files call.path path position) :
    Sound readAsBytes (screen.goOn index call (.reads path position)) := by
  intro other others path' position' length' began' awaited
  rcases List.mem_or_eq_of_mem_set others with old | rfl
  · exact sound other old path' position' length' began' awaited
  · injection awaited with same_path same_position same_length same_began
    subst same_path same_position same_length same_began
    cases waited : call.awaited with
    | newBytes =>
        refine ⟨Nat.le_refl _, fun _ => ⟨rfl, learned ?_⟩⟩
        intro path position length began impossible
        rw [waited] at impossible
        cases impossible
    | existing path position length began =>
        have before := sound call member path position length began waited
        refine ⟨before.1, fun now => ⟨(before.2 now).1, learned ?_⟩⟩
        intro path' position' length' began' same
        rw [waited] at same
        injection same with _ _ _ same
        exact same ▸ now

theorem next_read_none {screen : PickingScreen} {index : ℕ} (succeeds : Bool)
    (none_ : screen.adding[index]? = none) :
    screen.next readAsBytes (.read index succeeds) = screen := by
  change screen.read readAsBytes index succeeds = screen
  unfold PickingScreen.read
  rw [none_]

theorem next_read {screen : PickingScreen} {index : ℕ} {call : Adding} (succeeds : Bool)
    (found : screen.adding[index]? = some call) :
    screen.next readAsBytes (.read index succeeds) =
      screen.goOn index call
        (call.compare readAsBytes screen.imageFiles.files succeeds) := by
  change screen.read readAsBytes index succeeds = _
  unfold PickingScreen.read
  rw [found]

theorem sound_goOn {screen : PickingScreen} (sound : Sound readAsBytes screen) {index : ℕ}
    {call : Adding} (member : call ∈ screen.adding) {comparison : Comparison}
    (learned : Undisturbed screen call →
      Learned readAsBytes screen.imageFiles.files call.path comparison) :
    Sound readAsBytes (screen.goOn index call comparison) := by
  cases comparison with
  | adds =>
      exact sound_of_old sound (Or.inr (Nat.lt_succ_self _)) (fun _ member => mem_finished member)
  | duplicate =>
      exact sound_of_old sound (Or.inl ⟨rfl, rfl⟩) (fun _ member => mem_finished member)
  | reads path position => exact sound_reads sound member learned

theorem compare_ne_reads_of_failed {call : Adding} (files : List XFile) :
    call.compare readAsBytes files false = .adds := rfl

theorem sound_next (screen : PickingScreen) (event : PickEvent)
    (sound : Sound readAsBytes screen) : Sound readAsBytes (screen.next readAsBytes event) := by
  cases event with
  | picked paths =>
      cases paths with
      | nil => exact sound
      | cons path rest =>
          refine sound_of_old sound (Or.inl ⟨rfl, rfl⟩) (fun call member => ?_)
          rcases List.mem_append.mp member with old | new
          · exact Or.inl old
          · rw [List.mem_singleton.mp new]
            exact Or.inr rfl
  | read index succeeds =>
      cases found : screen.adding[index]? with
      | none =>
          rw [next_read_none succeeds found]
          exact sound
      | some call =>
          rw [next_read succeeds found]
          have member := List.mem_of_getElem? found
          cases succeeds with
          | true => exact sound_goOn sound member (learned_compare sound member)
          | false =>
              rw [compare_ne_reads_of_failed]
              exact sound_of_old sound (Or.inr (Nat.lt_succ_self _))
                (fun _ member => mem_finished member)
  | removed index =>
      exact sound_of_old sound (Or.inr (Nat.lt_succ_self _)) (fun _ member => Or.inl member)

theorem noTwoAlike_add_iff {screen : PickingScreen} (apart : NoTwoAlike readAsBytes screen)
    (index : ℕ) (call : Adding) :
    NoTwoAlike readAsBytes (screen.goOn index call .adds) ↔
      ∀ existing ∈ screen.imageFiles.files, Apart readAsBytes existing call.path := by
  change List.Pairwise _ (screen.imageFiles.files ++ [_]) ↔ _
  rw [List.pairwise_append]
  constructor
  · rintro ⟨-, -, added⟩ existing member
    exact added existing member _ (List.mem_singleton_self _)
  · intro unlike
    refine ⟨apart, List.pairwise_singleton _ _, ?_⟩
    intro existing member new single
    rw [List.mem_singleton.mp single]
    exact unlike existing member

theorem noTwoAlike_next_iff (screen : PickingScreen) (event : PickEvent)
    (sound : Sound readAsBytes screen) (apart : NoTwoAlike readAsBytes screen) :
    NoTwoAlike readAsBytes (screen.next readAsBytes event) ↔
      BlindAdditionFits readAsBytes screen event := by
  cases event with
  | picked paths =>
      cases paths with
      | nil => exact iff_of_true apart trivial
      | cons path rest => exact iff_of_true apart trivial
  | removed index =>
      exact iff_of_true (apart.sublist (List.eraseIdx_sublist _ _)) trivial
  | read index succeeds =>
      cases found : screen.adding[index]? with
      | none =>
          rw [next_read_none succeeds found]
          refine iff_of_true apart (fun call impossible => ?_)
          rw [found] at impossible
          cases impossible
      | some call =>
          rw [next_read succeeds found]
          cases compared : call.compare readAsBytes screen.imageFiles.files succeeds with
          | duplicate =>
              refine iff_of_true apart (fun other there adds => ?_)
              rw [found] at there
              cases there
              rw [compared] at adds
              cases adds
          | reads path position =>
              refine iff_of_true apart (fun other there adds => ?_)
              rw [found] at there
              cases there
              rw [compared] at adds
              cases adds
          | adds =>
              rw [noTwoAlike_add_iff apart]
              constructor
              · intro unlike other there adds blind
                rw [found] at there
                cases there
                exact unlike
              · intro fits
                by_cases blind : succeeds = false ∨ ¬ Undisturbed screen call
                · exact fits call found compared blind
                · rw [not_or, not_not, Bool.not_eq_false] at blind
                  obtain ⟨rfl, undisturbed⟩ := blind
                  have learned := learned_compare sound (List.mem_of_getElem? found) undisturbed
                  rw [compared] at learned
                  exact learned

end Steps

section Undisturbed

variable {readAsBytes : String → List UInt8}

def afterComparison (readAsBytes : String → List UInt8) (images : ImageFiles) (path : String)
    (rest : List XFile) : ImageFiles :=
  if isDuplicate (fun path => some (readAsBytes path)) path (readAsBytes path) rest = some true
  then images
  else images.add path true

theorem afterComparison_same (images : ImageFiles) {path : String} {existing : XFile}
    (rest : List XFile) (same : existing.path = path) :
    afterComparison readAsBytes images path (existing :: rest) = images := by
  simp [afterComparison, isDuplicate, same]

theorem afterComparison_online (images : ImageFiles) {path : String} {existing : XFile}
    (rest : List XFile) (other : existing.path ≠ path) (online : hasHttps existing = true) :
    afterComparison readAsBytes images path (existing :: rest) =
      afterComparison readAsBytes images path rest := by
  simp [afterComparison, isDuplicate, other, online]

theorem afterComparison_read (images : ImageFiles) {path : String} {existing : XFile}
    (rest : List XFile) (other : existing.path ≠ path) (offline : hasHttps existing = false) :
    afterComparison readAsBytes images path (existing :: rest) =
      if readAsBytes existing.path = readAsBytes path then images
      else afterComparison readAsBytes images path rest := by
  by_cases alike : readAsBytes existing.path = readAsBytes path
  · simp [afterComparison, isDuplicate, other, offline, alike]
  · simp [afterComparison, isDuplicate, other, offline, alike]

def Adding.pausedAt (call : Adding) (path : String) (position length began : ℕ) : Adding :=
  { call with awaited := .existing path position length began }

def PickingScreen.only (screen : PickingScreen) (call : Adding) : PickingScreen :=
  { screen with adding := [call] }

theorem finished_last {screen : PickingScreen} {call : Adding} (only : screen.adding = [call])
    (last : call.rest = []) : screen.finished 0 call = [] := by
  unfold PickingScreen.finished Adding.following
  rw [last, only]
  rfl

theorem next_read_existing {screen : PickingScreen} {call : Adding} {before rest : List XFile}
    {existing : XFile} {began : ℕ}
    (files : screen.imageFiles.files = before ++ existing :: rest)
    (only : screen.adding = [call])
    (awaits : call.awaited = .existing existing.path before.length
      screen.imageFiles.files.length began) :
    screen.next readAsBytes (.read 0 true) =
      screen.goOn 0 call
        (if readAsBytes existing.path = readAsBytes call.path then .duplicate
        else compareFrom call.path (before ++ [existing]).length rest) := by
  have found : screen.adding[0]? = some call := by
    rw [only]
    rfl
  have split : screen.imageFiles.files = (before ++ [existing]) ++ rest := by
    rw [files, List.append_assoc]
    rfl
  have length : (before ++ [existing]).length = before.length + 1 := by
    rw [List.length_append]
    rfl
  rw [next_read true found]
  unfold Adding.compare moveNext
  rw [awaits, if_pos rfl]
  dsimp only
  rw [if_pos rfl, split, ← length, List.drop_left]

theorem run_goOn {before rest : List XFile} {screen : PickingScreen} {call : Adding}
    (files : screen.imageFiles.files = before ++ rest)
    (began : (screen.beganAt call.awaited).1 = screen.imageFiles.files.length)
    (only : screen.adding = [call]) (last : call.rest = []) :
    ∃ reads, ∃ changes,
      (pickMachine readAsBytes).run
          (screen.goOn 0 call (compareFrom call.path before.length rest))
          (List.replicate reads (.read 0 true)) =
        { imageFiles := afterComparison readAsBytes screen.imageFiles call.path rest
          changes := changes } := by
  have finished := finished_last only last
  induction rest generalizing before screen call with
  | nil =>
      refine ⟨0, screen.changes + 1, ?_⟩
      change PickingScreen.mk _ (screen.finished 0 call) _ = _
      rw [finished]
      rfl
  | cons existing rest ih =>
      unfold compareFrom
      by_cases same : existing.path = call.path
      · rw [if_pos same, afterComparison_same _ rest same]
        refine ⟨0, screen.changes, ?_⟩
        change PickingScreen.mk _ (screen.finished 0 call) _ = _
        rw [finished]
      rw [if_neg same]
      cases online : hasHttps existing with
      | true =>
          rw [afterComparison_online _ rest same online]
          have split : screen.imageFiles.files = (before ++ [existing]) ++ rest := by
            rw [files, List.append_assoc]
            rfl
          have further := ih split began only last finished
          rw [List.length_append] at further
          exact further
      | false =>
          obtain ⟨waiting, waits⟩ : ∃ waiting, waiting =
              call.pausedAt existing.path before.length screen.imageFiles.files.length
                (screen.beganAt call.awaited).2 := ⟨_, rfl⟩
          have stops : screen.goOn 0 call (.reads existing.path before.length) =
              screen.only waiting := by
            rw [waits]
            change PickingScreen.mk _ (screen.adding.set 0 _) _ = _
            rw [only, began]
            rfl
          have path : waiting.path = call.path := by
            rw [waits]
            rfl
          have last' : waiting.rest = [] := by
            rw [waits]
            exact last
          have finished' := @finished_last (screen.only waiting) waiting rfl last'
          have resumes : (screen.only waiting).next readAsBytes (.read 0 true) = _ :=
            next_read_existing files rfl (by rw [waits]; rfl)
          rw [path] at resumes
          rw [if_neg Bool.false_ne_true, afterComparison_read _ rest same online, stops]
          by_cases alike : readAsBytes existing.path = readAsBytes call.path
          · rw [if_pos alike] at resumes ⊢
            refine ⟨1, screen.changes, ?_⟩
            change (screen.only waiting).next readAsBytes (.read 0 true) = _
            rw [resumes]
            change PickingScreen.mk _ ((screen.only waiting).finished 0 waiting) _ = _
            rw [finished']
            rfl
          · rw [if_neg alike] at resumes ⊢
            have began' : ((screen.only waiting).beganAt waiting.awaited).1 =
                screen.imageFiles.files.length := by
              rw [waits]
              rfl
            have split : (screen.only waiting).imageFiles.files =
                (before ++ [existing]) ++ rest := by
              rw [List.append_assoc]
              exact files
            obtain ⟨reads, changes, run⟩ := ih split began' rfl last' finished'
            rw [path] at run
            refine ⟨reads + 1, changes, ?_⟩
            change (pickMachine readAsBytes).run
              ((screen.only waiting).next readAsBytes (.read 0 true))
              (List.replicate reads (.read 0 true)) = _
            rw [resumes, run]
            rfl

theorem afterComparison_files (images : ImageFiles) (path : String) :
    afterComparison readAsBytes images path images.files =
      addImageIfNotDuplicate (fun path => some (readAsBytes path)) images path := by
  unfold afterComparison addImageIfNotDuplicate
  rw [Option.bind_some]
  split
  · rename_i duplicate
    rw [duplicate]
  · rename_i different
    split
    · rename_i duplicate
      exact absurd duplicate different
    · rfl

/-- Where nothing comes between, the images are compared as if at once. -/
theorem run_picked {screen : PickingScreen} (idle : screen.adding = []) (path : String) :
    ∃ reads, ∃ changes,
      (pickMachine readAsBytes).run screen
          (.picked [path] :: List.replicate reads (.read 0 true)) =
        { imageFiles :=
            addImageIfNotDuplicate (fun path => some (readAsBytes path)) screen.imageFiles path
          changes := changes } := by
  obtain ⟨call, called⟩ : ∃ call : Adding, call = { path := path, rest := [] } := ⟨_, rfl⟩
  have picks : screen.next readAsBytes (.picked [path]) = screen.only call := by
    change PickingScreen.mk _ (screen.adding ++ _) _ = _
    rw [idle, called]
    rfl
  have found : (screen.only call).adding[0]? = some call := rfl
  have starts := @next_read readAsBytes _ _ _ true found
  have compares : call.compare readAsBytes (screen.only call).imageFiles.files true =
      compareFrom call.path ([] : List XFile).length screen.imageFiles.files := by
    rw [called]
    unfold Adding.compare moveNext
    rw [if_pos rfl, if_pos rfl]
    rfl
  rw [compares] at starts
  obtain ⟨reads, changes, run⟩ := @run_goOn readAsBytes [] screen.imageFiles.files
    (screen.only call) call rfl (by rw [called]; rfl) rfl (by rw [called])
  refine ⟨reads + 1, changes, ?_⟩
  change (pickMachine readAsBytes).run
    ((screen.next readAsBytes (.picked [path])).next readAsBytes (.read 0 true))
    (List.replicate reads (.read 0 true)) = _
  rw [picks, starts, run, ← afterComparison_files, called]
  rfl

end Undisturbed

/-! ### One call at a time -/

/-- Nothing is picked while images are added, nothing removed while they are compared, and every
file can be read. -/
def OneAtATime (screen : PickingScreen) : PickEvent → Prop
  | .picked _ => screen.adding = []
  | .read _ succeeds => succeeds = true
  | .removed _ => ∀ call ∈ screen.adding, call.awaited = .newBytes

/-- There is one call at most, and its loop goes over the list as it is. -/
structure Alone (screen : PickingScreen) : Prop where
  one : screen.adding.length ≤ 1
  undisturbed : ∀ call ∈ screen.adding, Undisturbed screen call

section Alone

variable {readAsBytes : String → List UInt8}

theorem undisturbed_of_newBytes (screen : PickingScreen) {call : Adding}
    (waits : call.awaited = .newBytes) : Undisturbed screen call := by
  intro path position length began impossible
  rw [waits] at impossible
  cases impossible

theorem Alone.eq_singleton {screen : PickingScreen} (alone : Alone screen) {index : ℕ}
    {call : Adding} (found : screen.adding[index]? = some call) :
    screen.adding = [call] ∧ index = 0 := by
  have one := alone.one
  cases calls : screen.adding with
  | nil =>
      rw [calls] at found
      cases found
  | cons only others =>
      rw [calls] at one found
      have none_ : others = [] := by
        rw [List.length_cons] at one
        exact List.eq_nil_of_length_eq_zero (by omega)
      subst none_
      have bound := (List.getElem?_eq_some_iff.mp found).1
      have first : index = 0 := by
        rw [List.length_singleton] at bound
        omega
      subst first
      cases found
      exact ⟨rfl, rfl⟩

theorem following_awaited {call following : Adding} (next : call.following = some following) :
    following.awaited = .newBytes := by
  unfold Adding.following at next
  split at next
  · cases next
  · rw [← Option.some.inj next]

theorem alone_finished {screen screen' : PickingScreen} {call : Adding}
    (calls : screen.adding = [call]) (finished : screen'.adding = screen.finished 0 call) :
    Alone screen' := by
  unfold PickingScreen.finished at finished
  rw [calls] at finished
  cases following : call.following with
  | none =>
      rw [following] at finished
      change screen'.adding = [] at finished
      constructor
      · rw [finished]
        exact Nat.zero_le _
      · intro other member
        rw [finished] at member
        cases member
  | some next =>
      rw [following] at finished
      change screen'.adding = [next] at finished
      constructor
      · rw [finished]
        exact Nat.le_refl _
      · intro other member
        rw [finished] at member
        rw [List.mem_singleton.mp member]
        exact undisturbed_of_newBytes screen' (following_awaited following)

theorem alone_goOn {screen : PickingScreen} {call : Adding} (calls : screen.adding = [call])
    (undisturbed : Undisturbed screen call) (comparison : Comparison) :
    Alone (screen.goOn 0 call comparison) := by
  cases comparison with
  | adds => exact alone_finished calls rfl
  | duplicate => exact alone_finished calls rfl
  | reads path position =>
      constructor
      · change (screen.adding.set 0 _).length ≤ 1
        rw [List.length_set, calls]
        exact Nat.le_refl _
      · intro other member path' position' length began awaited
        change other ∈ screen.adding.set 0 _ at member
        rw [calls] at member
        rw [List.mem_singleton.mp member] at awaited
        change _ = screen.changes
        injection awaited with _ _ _ same
        rw [← same]
        cases waited : call.awaited with
        | newBytes => rfl
        | existing path position length began =>
            exact undisturbed path position length began waited

theorem alone_next (screen : PickingScreen) (event : PickEvent) (alone : Alone screen)
    (waits : OneAtATime screen event) :
    Alone (screen.next readAsBytes event) ∧ BlindAdditionFits readAsBytes screen event := by
  cases event with
  | picked paths =>
      refine ⟨?_, trivial⟩
      cases paths with
      | nil => exact alone
      | cons path rest =>
          have calls : (screen.next readAsBytes (.picked (path :: rest))).adding =
              [{ path := path, rest := rest }] := by
            change screen.adding ++ _ = _
            rw [show screen.adding = [] from waits]
            rfl
          constructor
          · rw [calls]
            exact Nat.le_refl _
          · intro call member
            rw [calls] at member
            apply undisturbed_of_newBytes
            rw [List.mem_singleton.mp member]
  | read index succeeds =>
      have succeeded : succeeds = true := waits
      subst succeeded
      constructor
      · cases found : screen.adding[index]? with
        | none =>
            rw [next_read_none true found]
            exact alone
        | some call =>
            obtain ⟨calls, rfl⟩ := alone.eq_singleton found
            rw [next_read true found]
            exact alone_goOn calls (alone.undisturbed call (List.mem_of_getElem? found)) _
      · intro call found adds blind existing member
        rcases blind with impossible | disturbed
        · cases impossible
        · exact absurd (alone.undisturbed call (List.mem_of_getElem? found)) disturbed
  | removed index =>
      refine ⟨⟨alone.one, ?_⟩, trivial⟩
      intro call member
      exact undisturbed_of_newBytes _ (waits call member)

end Alone

/-- In every order of picking (of several images at once, too), reads and removals, with any
number of calls under way: no two images of the list are alike, in every state, exactly when an
image that is added because a file could not be read, or after the list was changed under the
comparison, is unlike all there are; and one call at a time that can read every file never adds
such an image. -/
theorem images_apart_iff (readAsBytes : String → List UInt8) {screen : PickingScreen}
    (apart : NoTwoAlike readAsBytes screen) (idle : screen.adding = [])
    (events : List PickEvent) :
    ((pickMachine readAsBytes).Every
        (fun screen event => NoTwoAlike readAsBytes (screen.next readAsBytes event))
        screen events ↔
      (pickMachine readAsBytes).Every (BlindAdditionFits readAsBytes) screen events) ∧
    ((pickMachine readAsBytes).Every OneAtATime screen events →
      (pickMachine readAsBytes).Every (BlindAdditionFits readAsBytes) screen events) := by
  constructor
  · have sound : Sound readAsBytes screen := by
      intro call member
      rw [idle] at member
      cases member
    exact (pickMachine readAsBytes).every_next_iff_of_sound (Sound readAsBytes)
      (NoTwoAlike readAsBytes) sound_next noTwoAlike_next_iff sound apart
  · have alone : Alone screen := by
      constructor
      · rw [idle]
        exact Nat.zero_le _
      · intro call member
        rw [idle] at member
        cases member
    exact (pickMachine readAsBytes).every_of_invariant Alone alone_next alone

/-- An image is removed while another one is compared with it: the same file is added again. -/
def removedMeanwhile : List PickEvent :=
  [.picked ["a.jpg"], .read 0 true, .picked ["b.jpg"], .read 0 true, .read 0 true,
    .picked ["b.jpg"], .read 0 true, .removed 0, .read 0 true]

def storedBytes (path : String) : List UInt8 :=
  if path = "a.jpg" then [1] else [2]

theorem images_apart_iff_removed_meanwhile :
    ¬ (pickMachine storedBytes).Every
      (fun screen event => NoTwoAlike storedBytes (screen.next storedBytes event))
      { imageFiles := ImageFiles.empty } removedMeanwhile := by
  have empty : NoTwoAlike storedBytes { imageFiles := ImageFiles.empty } := List.Pairwise.nil
  rw [(images_apart_iff storedBytes empty rfl _).1]
  rintro ⟨-, -, -, -, -, -, -, -, fits, -⟩
  have unlike := fits { path := "b.jpg", awaited := .existing "a.jpg" 0 2 2, rest := [] } rfl
    (by decide) (.inr fun undisturbed => absurd (undisturbed _ _ _ _ rfl) (by decide))
  exact (unlike { ref := 1, path := "b.jpg", picked := true } (List.mem_singleton_self _)).1 rfl

end FiksOpp.CreateService
