/-
Values whose type is found out when they are read, and maps of them from text keys.

A read asks for a type.  It fails where the value has another one, and a missing key
reads as null.  A record that is written key by key is read back by the same keys.
-/

import Mathlib.Data.List.Nodup
import Mathlib.Data.Rat.Defs

namespace FiksOpp.DynamicValues

inductive Untyped where
  | null
  | bool (value : Bool)
  | int (value : ℤ)
  | double (value : ℚ)
  | text (value : String)
  | list (items : List Untyped)
  | map (entries : List (String × Untyped))
  /-- An instance of a class, with the map that its own encoder makes of it. -/
  | object (encoded : List (String × Untyped))

abbrev Entries := List (String × Untyped)

section Keys

variable {Value : Type*}

theorem lookup_cons_of_ne {key other : String} (different : key ≠ other) (value : Value)
    (rest : List (String × Value)) : ((other, value) :: rest).lookup key = rest.lookup key := by
  rw [List.lookup_cons, beq_eq_false_iff_ne.mpr different]

variable {Field : Type*} (key : Field → String) (value : Field → Value)

/-- A record written field by field is read by the key of a field. -/
theorem lookup_written {fields : List Field} (distinct : (fields.map key).Nodup) {field : Field}
    (written : field ∈ fields) :
    (fields.map fun own => (key own, value own)).lookup (key field) = some (value field) := by
  induction fields with
  | nil => exact absurd written List.not_mem_nil
  | cons first rest ih =>
      rw [List.map_cons, List.nodup_cons] at distinct
      rw [List.map_cons]
      rcases List.mem_cons.mp written with here | later
      · rw [here, List.lookup_cons_self]
      · have different : key field ≠ key first := by
          intro same
          apply distinct.1
          rw [← same]
          exact List.mem_map_of_mem later
        rw [lookup_cons_of_ne different, ih distinct.2 later]

theorem lookup_unwritten {fields : List Field} {other : String}
    (absent : other ∉ fields.map key) :
    (fields.map fun own => (key own, value own)).lookup other = none := by
  induction fields with
  | nil => rfl
  | cons first rest ih =>
      rw [List.map_cons, List.mem_cons, not_or] at absent
      rw [List.map_cons, lookup_cons_of_ne absent.1, ih absent.2]

end Keys

theorem nodup_of_pairwise_size {texts : List String}
    (apart : texts.Pairwise fun left right =>
      left.utf8ByteSize = right.utf8ByteSize → left ≠ right) : texts.Nodup := by
  apply apart.imp
  intro left right different same
  exact different (congrArg String.utf8ByteSize same) same

namespace Entries

def get (entries : Entries) (key : String) : Untyped :=
  (entries.lookup key).getD .null

end Entries

namespace Untyped

/-- The reads of a nullable type: nothing where the value has another type. -/
def asInt : Untyped → Option (Option ℤ)
  | null => some none
  | int value => some (some value)
  | _ => none

def asNum : Untyped → Option (Option ℚ)
  | null => some none
  | int value => some (some value)
  | double value => some (some value)
  | _ => none

def asText : Untyped → Option (Option String)
  | null => some none
  | text value => some (some value)
  | _ => none

/-- Every item is decoded, or the read fails. -/
def asListOf {α : Type*} (decode : Untyped → Option α) : Untyped → Option (Option (List α))
  | null => some none
  | list items => (items.mapM decode).map some
  | _ => none

def asItemText : Untyped → Option String
  | text value => some value
  | _ => none

def asMapOf {α : Type*} (decode : Entries → Option α) : Untyped → Option α
  | map entries => decode entries
  | _ => none

def asRecord {α : Type*} (decode : Entries → Option α) : Untyped → Option (Option α)
  | null => some none
  | value => (asMapOf decode value).map some

def asRecords {α : Type*} (decode : Entries → Option α) : Untyped → Option (Option (List α)) :=
  asListOf (asMapOf decode)

def ofInt : Option ℤ → Untyped
  | none => null
  | some value => int value

def ofNumber (value : ℚ) : Untyped :=
  if value.den = 1 then int value.num else double value

def ofNum : Option ℚ → Untyped
  | none => null
  | some value => ofNumber value

def ofText : Option String → Untyped
  | none => null
  | some value => text value

def ofRecord {α : Type*} (encode : α → Entries) : Option α → Untyped
  | none => null
  | some value => map (encode value)

def ofListOf {α : Type*} (encode : α → Untyped) : Option (List α) → Untyped
  | none => null
  | some items => list (items.map encode)

def ofRecords {α : Type*} (encode : α → Entries) : Option (List α) → Untyped :=
  ofListOf fun value => map (encode value)

/-- The entries of a record that leaves out what is null. -/
def present (entries : Entries) : Entries :=
  entries.filter fun entry =>
    match entry.2 with
    | null => false
    | _ => true

/-! ### What is written is read -/

@[simp] theorem asInt_ofInt (value : Option ℤ) : asInt (ofInt value) = some value := by
  cases value <;> rfl

theorem ofNumber_cases (value : ℚ) :
    (∃ whole : ℤ, ofNumber value = int whole ∧ (whole : ℚ) = value) ∨
      ofNumber value = double value := by
  unfold ofNumber
  by_cases whole : value.den = 1
  · exact Or.inl ⟨value.num, if_pos whole, Rat.coe_int_num_of_den_eq_one whole⟩
  · exact Or.inr (if_neg whole)

@[simp] theorem asNum_ofNumber (value : ℚ) : asNum (ofNumber value) = some (some value) := by
  rcases ofNumber_cases value with ⟨whole, written, same⟩ | written
  · rw [written, ← same]
    rfl
  · rw [written]
    rfl

@[simp] theorem asNum_ofNum (value : Option ℚ) : asNum (ofNum value) = some value := by
  cases value with
  | none => rfl
  | some value => exact asNum_ofNumber value

@[simp] theorem asText_ofText (value : Option String) : asText (ofText value) = some value := by
  cases value <;> rfl

theorem mapM_map_eq {α β : Type*} {encode : α → Untyped} {decode : Untyped → Option β}
    {returned : α → β} {items : List α}
    (each : ∀ item ∈ items, decode (encode item) = some (returned item)) :
    (items.map encode).mapM decode = some (items.map returned) := by
  induction items with
  | nil => rfl
  | cons item rest ih =>
      rw [List.forall_mem_cons] at each
      rw [List.map_cons, List.mapM_cons, each.1, ih each.2]
      rfl

@[simp] theorem asListOf_ofListOf_text (items : Option (List String)) :
    asListOf asItemText (ofListOf text items) = some items := by
  have each : ∀ item, asItemText (text item) = some (id item) := fun _ => rfl
  cases items with
  | none => rfl
  | some items =>
      change Option.map some _ = _
      rw [mapM_map_eq fun item _ => each item, List.map_id]
      rfl

section Records

variable {α β : Type*} {encode : α → Entries}

theorem asRecord_ofRecord {decode : Entries → Option β} {returned : α → β}
    (each : ∀ value, decode (encode value) = some (returned value)) (value : Option α) :
    asRecord decode (ofRecord encode value) = some (value.map returned) := by
  cases value with
  | none => rfl
  | some value =>
      change Option.map some (decode (encode value)) = _
      rw [each]
      rfl

theorem asRecords_ofRecords {decode : Entries → Option β} {returned : α → β}
    (each : ∀ value, decode (encode value) = some (returned value)) (values : Option (List α)) :
    asRecords decode (ofRecords encode values) = some (values.map (List.map returned)) := by
  have eachMap : ∀ value, asMapOf decode (map (encode value)) = some (returned value) := each
  cases values with
  | none => rfl
  | some values =>
      change Option.map some _ = _
      rw [mapM_map_eq fun value _ => eachMap value]
      rfl

theorem asRecord_ofRecord_self {decode : Entries → Option α}
    (each : ∀ value, decode (encode value) = some value) (value : Option α) :
    asRecord decode (ofRecord encode value) = some value := by
  have read := @asRecord_ofRecord _ _ _ _ id each value
  rwa [Option.map_id] at read

theorem asRecords_ofRecords_self {decode : Entries → Option α}
    (each : ∀ value, decode (encode value) = some value) (values : Option (List α)) :
    asRecords decode (ofRecords encode values) = some values := by
  have read := @asRecords_ofRecords _ _ _ _ id each values
  rwa [List.map_id_fun, Option.map_id] at read

end Records

section Unchanged

variable {α : Type*} {change : α → α}

theorem map_eq_self_iff {value : Option α} :
    value.map change = value ↔ ∀ held ∈ value, change held = held := by
  cases value with
  | none => simp
  | some value => simp

theorem map_map_eq_self_iff {values : Option (List α)} :
    values.map (List.map change) = values ↔
      ∀ held ∈ values, ∀ value ∈ held, change value = value := by
  have inside : ∀ held : List α,
      held.map change = held ↔ ∀ value ∈ held, change value = value := by
    intro held
    have pointwise := @List.map_inj_left _ _ held change id
    rwa [List.map_id] at pointwise
  rw [map_eq_self_iff]
  simp only [inside]

end Unchanged

theorem mapM_map_eq_none {α β : Type*} {encode : α → Untyped} {decode : Untyped → Option β}
    {items : List α} {bad : α} (member : bad ∈ items) (fails : decode (encode bad) = none) :
    (items.map encode).mapM decode = none := by
  induction items with
  | nil => exact absurd member List.not_mem_nil
  | cons item rest ih =>
      rw [List.map_cons, List.mapM_cons]
      rcases List.mem_cons.mp member with here | later
      · rw [← here, fails]
        rfl
      · rw [ih later]
        cases decode (encode item) <;> rfl

end Untyped

theorem get_present {entries : Entries} (distinct : (entries.map Prod.fst).Nodup)
    (key : String) : Entries.get (Untyped.present entries) key = entries.get key := by
  unfold Entries.get Untyped.present
  induction entries with
  | nil => rfl
  | cons entry rest ih =>
      obtain ⟨own, value⟩ := entry
      rw [List.map_cons, List.nodup_cons] at distinct
      have later := ih distinct.2
      by_cases same : key = own
      · rw [same, List.lookup_cons_self]
        cases value with
        | null =>
            have absent : rest.lookup own = none := by
              rw [List.lookup_eq_none_iff]
              intro entry member
              rw [bne_iff_ne]
              intro clash
              exact distinct.1 (List.mem_map.mpr ⟨entry, member, clash.symm⟩)
            rw [List.filter_cons_of_neg (by simp), ← same, later, same, absent]
            rfl
        | _ => rw [List.filter_cons_of_pos rfl, List.lookup_cons_self]
      · rw [lookup_cons_of_ne same, ← later]
        cases value with
        | null => rw [List.filter_cons_of_neg (by simp)]
        | _ => rw [List.filter_cons_of_pos rfl, lookup_cons_of_ne same]

/-- A JSON document.  What its text looks like is left open. -/
inductive JsonText where
  | null
  | bool (value : Bool)
  | int (value : ℤ)
  | double (value : ℚ)
  | text (value : String)
  | array (items : List JsonText)
  | object (entries : List (String × JsonText))

mutual

/-- An instance is encoded as the map that its own encoder makes. -/
def jsonEncode : Untyped → JsonText
  | .null => .null
  | .bool value => .bool value
  | .int value => .int value
  | .double value => .double value
  | .text value => .text value
  | .list items => .array (jsonEncodeItems items)
  | .map entries => .object (jsonEncodeEntries entries)
  | .object encoded => .object (jsonEncodeEntries encoded)

def jsonEncodeItems : List Untyped → List JsonText
  | [] => []
  | item :: rest => jsonEncode item :: jsonEncodeItems rest

def jsonEncodeEntries : Entries → List (String × JsonText)
  | [] => []
  | (key, value) :: rest => (key, jsonEncode value) :: jsonEncodeEntries rest

end

mutual

def jsonDecode : JsonText → Untyped
  | .null => .null
  | .bool value => .bool value
  | .int value => .int value
  | .double value => .double value
  | .text value => .text value
  | .array items => .list (jsonDecodeItems items)
  | .object entries => .map (jsonDecodeEntries entries)

def jsonDecodeItems : List JsonText → List Untyped
  | [] => []
  | item :: rest => jsonDecode item :: jsonDecodeItems rest

def jsonDecodeEntries : List (String × JsonText) → Entries
  | [] => []
  | (key, value) :: rest => (key, jsonDecode value) :: jsonDecodeEntries rest

end

theorem lookup_jsonDecode_jsonEncode (entries : Entries) (key : String) :
    (jsonDecodeEntries (jsonEncodeEntries entries)).lookup key =
      (entries.lookup key).map fun value => jsonDecode (jsonEncode value) := by
  induction entries with
  | nil => rfl
  | cons entry rest ih =>
      obtain ⟨own, value⟩ := entry
      rw [jsonEncodeEntries, jsonDecodeEntries]
      by_cases same : key = own
      · rw [same, List.lookup_cons_self, List.lookup_cons_self]
        rfl
      · rw [lookup_cons_of_ne same, lookup_cons_of_ne same, ih]

theorem get_jsonDecode_jsonEncode (entries : Entries) (key : String) :
    (jsonDecodeEntries (jsonEncodeEntries entries)).get key =
      jsonDecode (jsonEncode (entries.get key)) := by
  unfold Entries.get
  rw [lookup_jsonDecode_jsonEncode]
  cases entries.lookup key <;> rfl

theorem sizeOf_lookup_lt {entries : Entries} {key : String} {value : Untyped}
    (found : entries.lookup key = some value) : sizeOf value < sizeOf entries := by
  induction entries with
  | nil => cases found
  | cons entry rest ih =>
      obtain ⟨own, held⟩ := entry
      by_cases same : key = own
      · rw [same, List.lookup_cons_self] at found
        cases found
        simp only [List.cons.sizeOf_spec, Prod.mk.sizeOf_spec]
        omega
      · rw [lookup_cons_of_ne same] at found
        have smaller := ih found
        simp only [List.cons.sizeOf_spec]
        omega

theorem sizeOf_nested_lt {entries nested : Entries} {key : String} {items : List Untyped}
    (found : entries.get key = .list items) (member : .map nested ∈ items) :
    sizeOf nested < sizeOf entries := by
  have here : entries.lookup key = some (.list items) := by
    unfold Entries.get at found
    cases looked : entries.lookup key with
    | none =>
        rw [looked] at found
        cases found
    | some value =>
        rw [looked, Option.getD_some] at found
        rw [found]
  have held := sizeOf_lookup_lt here
  have item := List.sizeOf_lt_of_mem member
  simp only [Untyped.list.sizeOf_spec] at held
  simp only [Untyped.map.sizeOf_spec] at item
  omega

/-- The maps in a list under a key, for a decoder that calls itself on them. -/
def asNestedList {α : Type*} (entries : Entries) (key : String)
    (decode : (nested : Entries) → sizeOf nested < sizeOf entries → Option α) :
    Option (Option (List α)) :=
  match found : entries.get key with
  | .null => some none
  | .list items =>
      (items.attach.mapM fun (item : {value // value ∈ items}) =>
        match item with
        | ⟨.map nested, member⟩ => decode nested (sizeOf_nested_lt found member)
        | _ => none).map some
  | _ => none

theorem asNestedList_eq {α : Type*} (entries : Entries) (key : String)
    (decode : Entries → Option α) :
    asNestedList entries key (fun nested _ => decode nested) =
      Untyped.asRecords decode (entries.get key) := by
  unfold asNestedList
  split
  case h_1 found =>
    rw [found]
    rfl
  case h_2 items found =>
    have read : Untyped.asRecords decode (entries.get key) =
        (items.mapM (Untyped.asMapOf decode)).map some := by
      rw [found]
      rfl
    rw [read]
    congr 1
    rw [List.mapM_subtype (g := Untyped.asMapOf decode), List.unattach_attach]
    intro item member
    cases item <;> rfl
  case h_3 noNull noList =>
    cases held : entries.get key with
    | null => exact (noNull held).elim
    | list items => exact (noList items held).elim
    | _ => rfl

end FiksOpp.DynamicValues
