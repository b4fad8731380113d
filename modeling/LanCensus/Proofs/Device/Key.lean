/-
# LanCensus.Proofs.Device.Key -- the fields of a device as one family

The seven fields of a record differ in their names, in the values they hold and in what a text may say about
them, and in nothing else. `Key` names them, and what is proved of reading a record is proved once for every
key: a field is read as what its text says, a draft keeps a value that was put into it, and a full draft
makes the device that it is true of.
-/

import LanCensus.Device.Record
import LanCensus.Proofs.Json.Members

namespace LanCensus.Device

/-- **`Key`** — the fields of a record. -/
inductive Key where
  | address
  | name
  | kind
  | mac
  | online
  | lastSeen
  | responseTime
  deriving DecidableEq

namespace Key

/-- The name of the field's member. -/
def text : Key → String
  | address => "address"
  | name => "name"
  | kind => "type"
  | mac => "mac_address"
  | online => "is_online"
  | lastSeen => "last_seen"
  | responseTime => "response_time_ms"

/-- What the field holds while a record is read. -/
abbrev Value : Key → Type
  | address => Address
  | name => String
  | kind => String
  | mac => String
  | online => Bool
  | lastSeen => Instant
  | responseTime => Nat

/-- The value of the field in a draft. -/
def get : (k : Key) → Draft → Option k.Value
  | address, r => r.address
  | name, r => r.name
  | kind, r => r.kind
  | mac, r => r.mac
  | online, r => r.online
  | lastSeen, r => r.lastSeen
  | responseTime, r => r.responseMillis

/-- A draft with a value for the field. -/
def put : (k : Key) → Draft → k.Value → Draft
  | address, r, x => { r with address := some x }
  | name, r, x => { r with name := some x }
  | kind, r, x => { r with kind := some x }
  | mac, r, x => { r with mac := some x }
  | online, r, x => { r with online := some x }
  | lastSeen, r, x => { r with lastSeen := some x }
  | responseTime, r, x => { r with responseMillis := some x }

@[simp]
theorem get_put (k : Key) (r : Draft) (x : k.Value) : k.get (k.put r x) = some x := by
  cases k <;> rfl

theorem get_put_of_ne {k j : Key} (h : j ≠ k) (r : Draft) (x : k.Value) :
    j.get (k.put r x) = j.get r := by
  cases k <;> cases j <;> first | rfl | exact absurd rfl h

@[simp]
theorem get_blank (k : Key) : k.get .blank = none := by
  cases k <;> rfl

/-! ## What texts say -/

/-- **`Says k v x`** — as the text of the field's value, `v` says `x`. -/
def Says : (k : Key) → List Char → k.Value → Prop
  | address, v, x => ∃ s, Json.IsText v s ∧ Address.ofString? s = some x
  | name, v, x => Json.IsText v x
  | kind, v, x => Json.IsText v x
  | mac, v, x => Json.IsText v x
  | online, v, x => v = Json.boolText x
  | lastSeen, v, x => ∃ s, Json.IsText v s ∧ Instant.ofString? s = some x
  | responseTime, v, x => v = Nat.toDigits 10 x ∧ x < Text.wordBound

/-- The reader of the field's value. -/
def reader : (k : Key) → Json.Reader k.Value
  | address => Json.readMeaning Address.ofString?
  | name => Json.readString
  | kind => Json.readString
  | mac => Json.readString
  | online => Json.readBool
  | lastSeen => Json.readMeaning Instant.ofString?
  | responseTime => Json.readNat Text.wordBound

theorem decodes (k : Key) : Json.Decodes k.reader k.Says := by
  cases k with
  | address => exact Json.decodes_meaning _
  | name => exact Json.decodes_string
  | kind => exact Json.decodes_string
  | mac => exact Json.decodes_string
  | online => exact Json.decodes_bool
  | lastSeen => exact Json.decodes_meaning _
  | responseTime => exact Json.decodes_nat (Nat.le_refl _)

/-! ## Fields -/

/-- Whether a record needs the field. -/
def required : Key → Bool
  | address | name | lastSeen => true
  | kind | mac | online | responseTime => false

/-- The field of a record. -/
def field (k : Key) : Json.Field Draft :=
  ⟨k.text, k.required, fun r => (k.get r).isSome, fun r => storing k.reader (k.put r)⟩

/-- The keys in the order of the fields. -/
def all : List Key := [address, name, kind, mac, online, lastSeen, responseTime]

theorem fields_eq : fields = all.map field := rfl

theorem text_inj {k j : Key} (h : k.text = j.text) : k = j := by
  cases k <;> cases j <;> first | rfl | exact absurd h (by decide)

theorem find?_text (k : Key) : fields.find? (·.name == k.text) = some k.field := by
  cases k <;> rfl

theorem find?_foreign {name : String} (h : ∀ k : Key, name ≠ k.text) :
    fields.find? (·.name == name) = none := by
  rw [fields_eq, List.find?_eq_none]
  intro field hfield
  obtain ⟨k, -, rfl⟩ := List.mem_map.mp hfield
  simpa [field] using (h k).symm

/-- **`Stores field r v e`** — the text of the field's value takes the draft from `r` to `e`. -/
def Stores (field : Json.Field Draft) (r : Draft) (v : List Char) (e : Draft) : Prop :=
  ∃ (k : Key) (x : k.Value), field = k.field ∧ k.Says v x ∧ e = k.put r x

theorem stores_iff {k : Key} {r e : Draft} {v : List Char} :
    Stores k.field r v e ↔ ∃ x, k.Says v x ∧ e = k.put r x := by
  constructor
  · rintro ⟨j, x, hfield, hsaid, rfl⟩
    obtain rfl := text_inj (congrArg Json.Field.name hfield)
    exact ⟨x, hsaid, rfl⟩
  · rintro ⟨x, hsaid, rfl⟩
    exact ⟨k, x, rfl, hsaid, rfl⟩

/-- **`fieldsDecode`** — every field is read as what its text says. -/
theorem fieldsDecode : Json.FieldsDecode fields Stores := by
  intro field hfield r v hv b rest e after hb hrest
  rw [fields_eq] at hfield
  obtain ⟨k, -, rfl⟩ := List.mem_map.mp hfield
  have hdecodes : ∀ x, k.reader (b ++ (v ++ rest)) = .ok (x, after) ↔ k.Says v x ∧ after = rest :=
    fun _ => k.decodes hv hb hrest
  rw [stores_iff]
  constructor
  · intro hread
    obtain ⟨⟨x, left⟩, hread, hput⟩ := Json.bind_eq_ok hread
    cases hput
    obtain ⟨hsaid, hafter⟩ := (hdecodes x).mp hread
    exact ⟨⟨x, hsaid, rfl⟩, hafter⟩
  · rintro ⟨⟨x, hsaid, rfl⟩, rfl⟩
    show (k.reader _).bind _ = _
    rw [(hdecodes x).mpr ⟨hsaid, rfl⟩]
    rfl

end Key

end LanCensus.Device
