/-
# LanCensus.Proofs.Device.Record -- a device that was written is read

A record keeps everything about a device but the fraction of a millisecond of its response time
(`Device.stored`). The members of a record are the fields of a device in their order, so reading them
fills one field of the draft after another, and the draft that is full is the device.
-/

import LanCensus.Device.Record
import LanCensus.Proofs.Json.Gives
import LanCensus.Proofs.Json.Record
import LanCensus.Proofs.Net.Address
import LanCensus.Proofs.Time.Rfc3339

namespace LanCensus.Device

/-- **`stored d`** — the device as a record keeps it: the response time in whole milliseconds. -/
def stored (d : Device) : Device := { d with responseTime := .ofMillis d.writtenMillis }

/-- **`truncated d`** — the device with the whole milliseconds of its response time. -/
def truncated (d : Device) : Device := { d with responseTime := .ofMillis d.responseTime.millis }

/-- A response time below 2^64 milliseconds loses no more than its fraction. -/
theorem stored_eq {d : Device} (h : d.responseTime.millis < Text.wordBound) :
    d.stored = d.truncated := by
  rw [stored, truncated, writtenMillis, Nat.mod_eq_of_lt h]

/-- The value of a field is read, and put into the draft. -/
theorem fills_storing {α : Type} {level : Nat} {required : Bool} {given : Draft → Bool}
    {r : Json.Reader α} {put : Draft → α → Draft} {name : String} {v : Json} {x : α} {d e : Draft}
    {ms : List (String × Json)}
    (hfield : fields.find? (·.name == name) = some ⟨name, required, given, fun d => storing r (put d)⟩)
    (hgiven : given d = false) (hread : Json.Reads r (Json.indented level v) x)
    (hmore : Json.Fills fields level (put d x) ms e) :
    Json.Fills fields level d ((name, v) :: ms) e := by
  refine .member hfield hgiven (fun blanks rest hblanks hrest => ?_) hmore
  simp only [storing, hread blanks rest hblanks hrest]
  rfl

/-- **`reads_device`** — a device is read from its record. -/
theorem reads_device (level : Nat) {d : Device} (h : d.lastSeen.IsWritable) :
    Json.Reads reader (Json.indented level d.toJson) d.stored := by
  have hseen : Instant.ofString? d.lastSeen.text = some d.lastSeen := by
    rw [Instant.ofString?, Instant.text, String.toList_ofList, Time.parse?_format h]
  have hmillis : d.writtenMillis < Text.wordBound := Nat.mod_lt _ (by decide)
  refine Json.reads_record (e := ⟨some d.address, some d.name, some d.kind, some d.mac, some d.online,
    some d.lastSeen, some d.writtenMillis⟩) ?_ rfl
  refine fills_storing rfl rfl (Json.reads_meaning _ (Address.ofString?_text d.address)) ?_
  refine fills_storing rfl rfl (Json.reads_string _ d.name) ?_
  refine fills_storing rfl rfl (Json.reads_string _ d.kind) ?_
  refine fills_storing rfl rfl (Json.reads_string _ d.mac) ?_
  refine fills_storing rfl rfl (Json.reads_bool _ d.online) ?_
  refine fills_storing rfl rfl (Json.reads_meaning _ hseen) ?_
  refine fills_storing rfl rfl (Json.reads_nat _ hmillis (Nat.le_refl _)) ?_
  exact .done _

/-- **`listOfText_pretty`** — a list of devices is read from the text that lists them. -/
theorem listOfText_pretty {ds : List Device} (h : ∀ d ∈ ds, d.lastSeen.IsWritable) :
    listOfText (String.ofList (listToJson ds).pretty) = .ok (ds.map stored) := by
  have hread : Json.Reads (Json.readList reader) (Json.indented 0 (listToJson ds)) (ds.map stored) :=
    Json.reads_list fun d hd => reads_device 1 (h d hd)
  exact Json.readWhole_of_reads hread

/-! ## What a record gives -/

/-- A draft whose time can be written. -/
def Draft.IsWritable (r : Draft) : Prop := ∀ t ∈ r.lastSeen, t.IsWritable

/-- The value of a field is of a kind, and with it the draft. -/
theorem gives_storing {α : Type} {r : Json.Reader α} {put : α → Draft} {P : α → Prop}
    {Q : Draft → Prop} (hr : Json.Gives r P) (h : ∀ x, P x → Q (put x)) :
    Json.Gives (storing r put) Q := by
  intro s e rest hread
  obtain ⟨⟨x, s⟩, hx, hread⟩ := Json.bind_eq_ok hread
  cases hread
  exact h x (hr _ _ _ hx)

/-- Every field leaves a draft whose time can be written. -/
theorem keeps_fields : Json.Keeps fields Draft.IsWritable := by
  intro field hfield draft hd
  have hother : ∀ {α : Type} (r : Json.Reader α) {put : α → Draft},
      (∀ x, (put x).lastSeen = draft.lastSeen) → Json.Gives (storing r put) Draft.IsWritable :=
    fun r _ hput => gives_storing (Json.gives_any r) fun x _ t ht => hd t (hput x ▸ ht)
  simp only [fields, List.mem_cons, List.not_mem_nil, or_false] at hfield
  -- Only one field is a time, and what is read for it can be written.
  rcases hfield with rfl | rfl | rfl | rfl | rfl | rfl | rfl
  case inr.inr.inr.inr.inr.inl =>
    have hseen : ∀ text x, Instant.ofString? text = some x → x.IsWritable := fun _ _ hx =>
      Time.parse?_isWritable hx
    dsimp only
    refine gives_storing (Json.gives_meaning hseen) ?_
    rintro x hx t ⟨⟩
    exact hx
  all_goals
    dsimp only
    exact hother _ fun _ => rfl

/-- **`isWritable_of_listOfText`** — the records that a text lists can be written. -/
theorem isWritable_of_listOfText {s : String} {ds : List Device} (hread : listOfText s = .ok ds) :
    ∀ d ∈ ds, d.lastSeen.IsWritable := by
  refine Json.of_readWhole (Json.gives_list (Json.gives_record keeps_fields ?_ ?_)) hread
  · rintro t ⟨⟩
  · intro e d he hfinish
    simp only [Draft.finish, Option.bind_eq_bind, Option.bind_eq_some_iff] at hfinish
    obtain ⟨_, -, _, -, t, ht, hd⟩ := hfinish
    cases hd
    exact he t ht

end LanCensus.Device
