import FederatedPresence.Proofs.Encoding

/-!
# Records in normal form

A record is in *normal form* when it is what the presence that it gives is stored as. Any record is
brought into normal form by decoding it and storing what it says (`normalized`).

**Theorem (`normalized_field_by_field`).** This keeps the user key and the fields of other names. A
field of presence gets a text that comes from its own text alone: neither a field that is missing nor
one that is malformed changes how another is read, and it counts as its default. A record in normal
form stays as it is.

Every field but the name is read and written in one way (`FieldFormat`), with a reader, a default and
a text for each value. The name is kept as it is.
-/

namespace FederatedPresence

open Text

theorem Record.ext_get? {r s : Record} (hid : r.userId = s.userId)
    (h : ∀ name, r.get? name = s.get? name) : r = s := by
  obtain ⟨_, fields⟩ := r
  obtain ⟨_, fields'⟩ := s
  obtain rfl : fields = fields' := TextMap.ext_get? h
  rw [Record.mk.injEq]
  exact ⟨hid, rfl⟩

/-! ## Formats -/

/-- How the fields of one kind are read and written. -/
structure FieldFormat where
  Value : Type
  read? : List Char → Option Value
  /-- What a field counts as that says nothing. -/
  default : Value
  text : Value → String
  /-- The value is written by leaving the field out. -/
  isLeftOut : Value → Bool
  read?_text : ∀ v, read? (strip isBlank (text v).toList) = some v
  read?_nil : read? [] = none

namespace FieldFormat

variable (f : FieldFormat)

/-- What the text of a field, if there is one, is written as again. -/
def normal (text : Option String) : Option String :=
  let value := Presence.readField f.read? f.default text
  if f.isLeftOut value then none else some (f.text value)

/-- A field says nothing. -/
inductive SaysNothing : Option String → Prop where
  | missing : SaysNothing none
  | blank {raw : String} (h : strip isBlank raw.toList = []) : SaysNothing (some raw)
  | malformed {raw : String} (h : f.read? (strip isBlank raw.toList) = none) :
    SaysNothing (some raw)

variable {f}

/-- **A field that says nothing counts as its default.** -/
theorem SaysNothing.readField {text : Option String} (h : f.SaysNothing text) :
    Presence.readField f.read? f.default text = f.default := by
  cases h with
  | missing => rfl
  | blank h => rw [Presence.readField, h, f.read?_nil, Option.getD_none]
  | malformed h => rw [Presence.readField, h, Option.getD_none]

theorem readField_default :
    Presence.readField f.read? f.default (some (f.text f.default)) = f.default := by
  rw [Presence.readField, f.read?_text, Option.getD_some]

/-- Fields that count as the same are written in the same way. -/
theorem normal_congr {text text' : Option String}
    (h : Presence.readField f.read? f.default text = Presence.readField f.read? f.default text') :
    f.normal text = f.normal text' := by
  rw [normal, normal, h]

end FieldFormat

/-- Regions. -/
def regionFormat : FieldFormat where
  Value := Uuid
  read? := Uuid.ofChars?
  default := .nil
  text := Uuid.text
  isLeftOut _ := false
  read?_text u := by rw [Uuid.text, String.toList_ofList, u.strip_chars, u.ofChars?_chars]
  read?_nil := by decide

/-- Positions and directions. -/
def vectorFormat : FieldFormat where
  Value := Vector3
  read? := Vector3.ofChars?
  default := .zero
  text := Vector3.text
  isLeftOut _ := false
  read?_text v := by rw [Vector3.text, String.toList_ofList, v.strip_chars, v.ofChars?_chars]
  read?_nil := by decide

/-- Whether the user is online. -/
def onlineFormat : FieldFormat where
  Value := Bool
  read? := Presence.readBool?
  default := false
  text := Presence.boolText
  isLeftOut _ := false
  read?_text := Presence.readBool?_boolText
  read?_nil := by decide

/-- Times of login and logout. -/
def timeFormat : FieldFormat where
  Value := Timestamp
  read? := Timestamp.ofChars?
  default := .epoch
  text t := String.ofList t.chars
  isLeftOut _ := false
  read?_text t := by rw [String.toList_ofList, t.strip_chars, t.ofChars?_chars]
  read?_nil := by decide

/-- The time of the name, which is left out when there is none. -/
def nameTimeFormat : FieldFormat :=
  { timeFormat with
    default := Timestamp.first
    isLeftOut := fun t : Timestamp => t = .first }

namespace Presence

/-- The formats of the fields that are always written, the name aside. -/
def coreFormats : List (String × FieldFormat) :=
  [(homeRegionField, regionFormat), (homePositionField, vectorFormat),
    (homeLookAtField, vectorFormat), (lastRegionField, regionFormat),
    (lastPositionField, vectorFormat), (lastLookAtField, vectorFormat), (onlineField, onlineFormat),
    (loginField, timeFormat), (logoutField, timeFormat)]

/-- The formats of the fields, the name aside. -/
def formats : List (String × FieldFormat) := coreFormats ++ [(nameCachedField, nameTimeFormat)]

theorem isLeftOut_eq_false : ∀ e ∈ coreFormats, ∀ v, e.2.isLeftOut v = false := by
  simp only [coreFormats, List.forall_mem_cons]
  exact ⟨fun _ => rfl, fun _ => rfl, fun _ => rfl, fun _ => rfl, fun _ => rfl, fun _ => rfl,
    fun _ => rfl, fun _ => rfl, fun _ => rfl, fun _ h => absurd h List.not_mem_nil⟩

/-- Every field but the name has a format. -/
theorem names_formats : formats.map (·.1) = fieldNames.erase displayNameField := by decide

/-! ## Normal forms -/

/-- The normal form of a record. -/
def normalized (r : Record) : Record := (ofRecord r).toRecord

theorem coreFields_ofRecord (r : Record) : (ofRecord r).coreFields =
    coreFormats.map (fun e => (e.1, e.2.text (readField e.2.read? e.2.default (r.get? e.1)))) ++
      [(displayNameField, (r.get? displayNameField).getD "")] := by
  simp only [coreFields, ofRecord, coreFormats, regionFormat, vectorFormat, onlineFormat, timeFormat,
    List.map_cons, List.map_nil, List.cons_append, List.nil_append]

theorem get?_normalized_of_mem_coreFormats {name : String} {f : FieldFormat}
    (h : (name, f) ∈ coreFormats) (r : Record) :
    (normalized r).get? name = f.normal (r.get? name) := by
  have hmem : (name, f.text (readField f.read? f.default (r.get? name))) ∈
      (ofRecord r).coreFields := by
    rw [coreFields_ofRecord]
    exact List.mem_append_left _ (List.mem_map.2 ⟨(name, f), h, rfl⟩)
  rw [normalized, get?_toRecord_of_mem (coreFields_subset _ hmem), FieldFormat.normal,
    isLeftOut_eq_false _ h]
  rfl

/-- The time of the name is left out when there is none. -/
theorem get?_normalized_nameCached (r : Record) :
    (normalized r).get? nameCachedField = nameTimeFormat.normal (r.get? nameCachedField) :=
  get?_toRecord_nameCached (extraOnly_ofRecord r)

/-- **The normal form has each field in its own normal form.** -/
theorem get?_normalized {name : String} {f : FieldFormat} (h : (name, f) ∈ formats) (r : Record) :
    (normalized r).get? name = f.normal (r.get? name) := by
  rcases List.mem_append.1 h with h | h
  · exact get?_normalized_of_mem_coreFormats h r
  · cases List.mem_singleton.1 h
    exact get?_normalized_nameCached r

/-- The name is kept as it is. -/
theorem get?_normalized_displayName (r : Record) :
    (normalized r).get? displayNameField = some ((r.get? displayNameField).getD "") := by
  have hmem : (displayNameField, (r.get? displayNameField).getD "") ∈ (ofRecord r).coreFields := by
    rw [coreFields_ofRecord]
    exact List.mem_append_right _ List.mem_cons_self
  exact get?_toRecord_of_mem (coreFields_subset _ hmem)

/-- Fields of other names are kept as they are. -/
theorem get?_normalized_of_not_mem {name : String} (h : name ∉ fieldNames) (r : Record) :
    (normalized r).get? name = r.get? name := by
  have hextra : isExtra name = true := by simp [isExtra, h]
  rw [normalized, get?_toRecord_extra _ h]
  exact (TextMap.get?_filterKeys isExtra r.fields name).trans (if_pos hextra)

/-- **Each field of the normal form comes from the field itself.** -/
theorem get?_normalized_congr {r s : Record} {name : String} (h : s.get? name = r.get? name) :
    (normalized s).get? name = (normalized r).get? name := by
  by_cases hmem : name ∈ fieldNames
  · by_cases hname : name = displayNameField
    · subst hname
      rw [get?_normalized_displayName, get?_normalized_displayName, h]
    · have hformat : name ∈ formats.map (·.1) :=
        names_formats ▸ (List.mem_erase_of_ne hname).2 hmem
      obtain ⟨⟨_, f⟩, hf, rfl⟩ := List.mem_map.1 hformat
      rw [get?_normalized hf, get?_normalized hf, h]
  · rw [get?_normalized_of_not_mem hmem, get?_normalized_of_not_mem hmem, h]

/-- **A field that says nothing may as well have its default.** -/
theorem normalized_set_default {name : String} {f : FieldFormat} (h : (name, f) ∈ formats)
    {r : Record} (hr : f.SaysNothing (r.get? name)) :
    normalized (r.set name (f.text f.default)) = normalized r := by
  refine Record.ext_get? rfl fun other => ?_
  by_cases hother : other = name
  · subst hother
    rw [get?_normalized h, get?_normalized h, Record.get?_set, if_pos rfl]
    exact FieldFormat.normal_congr (FieldFormat.readField_default.trans hr.readField.symm)
  · exact get?_normalized_congr (by rw [Record.get?_set, if_neg hother])

/-- The fields of a user of whom nothing is known. -/
theorem toRecord_new (userId : String) : (new userId).toRecord = normalized (Record.new userId) := rfl

/-- **A field that says nothing is written as that of a user of whom nothing is known.** -/
theorem get?_normalized_of_saysNothing {name : String} {f : FieldFormat} (h : (name, f) ∈ formats)
    {r : Record} (hr : f.SaysNothing (r.get? name)) :
    (normalized r).get? name = (new r.userId).toRecord.get? name := by
  rw [toRecord_new, get?_normalized h, get?_normalized h]
  exact FieldFormat.normal_congr hr.readField

/-- **A record in normal form stays as it is.** -/
theorem normalized_normalized (r : Record) : normalized (normalized r) = normalized r := by
  rw [normalized, normalized, ofRecord_toRecord (extraOnly_ofRecord r)]

/-- **The normal form of a record, field by field.** The user key and the fields of other names stay.
A field of presence depends on its own text alone, and one that says nothing counts as its default,
which is what a user of whom nothing is known has. The name stays, and is empty when it is missing. A
normal form is its own normal form. -/
theorem normalized_field_by_field (r : Record) :
    (normalized r).userId = r.userId ∧
      (∀ name ∉ fieldNames, (normalized r).get? name = r.get? name) ∧
      (∀ name ∈ fieldNames, ∀ s : Record, s.get? name = r.get? name →
        (normalized s).get? name = (normalized r).get? name) ∧
      formats.map (·.1) = fieldNames.erase displayNameField ∧
      (∀ name f, (name, f) ∈ formats → f.SaysNothing (r.get? name) →
        (normalized r).get? name = (new r.userId).toRecord.get? name ∧
        normalized (r.set name (f.text f.default)) = normalized r) ∧
      (normalized r).get? displayNameField = some ((r.get? displayNameField).getD "") ∧
      normalized (normalized r) = normalized r := by
  refine ⟨rfl, fun name h => get?_normalized_of_not_mem h r, fun name _ s h =>
    get?_normalized_congr h, names_formats, fun name f hf hr => ⟨?_, ?_⟩,
    get?_normalized_displayName r, normalized_normalized r⟩
  · exact get?_normalized_of_saysNothing hf hr
  · exact normalized_set_default hf hr

/-- A login that no calendar has, next to a position in an odd spelling. -/
theorem normalized_field_by_field_odd :
    let r : Record := ⟨"11111111-1111-1111-1111-111111111111",
      .ofList [("Login", "99999999999999"), ("HomePosition", " <<NaN,+1e1, -0> "), ("Mood", "calm")]⟩
    (loginField, timeFormat) ∈ formats ∧ timeFormat.SaysNothing (r.get? loginField) ∧
      normalized (r.set loginField "0") = normalized r ∧
      (normalized r).get? homePositionField = some "<NaN, 10, -0>" := by
  intro r
  have hmem : (loginField, timeFormat) ∈ formats := by simp [formats, coreFormats]
  have hr : timeFormat.SaysNothing (some "99999999999999") := .malformed (by decide)
  have hzero : timeFormat.text timeFormat.default = "0" := by decide
  refine ⟨hmem, hr, ?_, by decide +kernel⟩
  rw [← hzero]
  exact ((normalized_field_by_field r).2.2.2.2.1 _ _ hmem hr).2

end Presence

end FederatedPresence
