/-
# LanCensus.Proofs.Detect.Description -- what the label of a description is worth

A label is usable if it is not blank and no blanks stand around it, and these are the labels that a cascade
passes on as they are (`isUsable_iff`). Maker and model are trimmed before they go into a label, and both can
be read off it again.

The name that stands in the type is not trimmed. So a label is usable exactly if that name does not begin with
a blank, and does not end with one either where the label is nothing but the name
(`Description.label_of_parts`).
-/

import LanCensus.Detect.Description
import LanCensus.Proofs.Detect.Cascade
import LanCensus.Proofs.Text.Letter

namespace LanCensus.Detect

open Text (IsBare allBlank isBlank)

variable {s t : List Char}

/-! ## Usable labels -/

/-- **`IsUsable label`** — the label is not blank and no blanks stand around it. -/
structure IsUsable (label : String) : Prop where
  said : allBlank label.toList = false
  bare : IsBare label.toList

/-- **`isUsable_iff`** — usable labels are those that a cascade passes on as they are. -/
theorem isUsable_iff {label : String} : IsUsable label ↔ label? (some label) = some label := by
  have htrimmed : Text.trimmed label = label ↔ IsBare label.toList := by
    rw [← Text.trim_eq_self_iff, Text.trimmed, ← String.toList_inj, String.toList_ofList]
  rw [label?_eq_some_iff]
  constructor
  · intro h
    exact ⟨label, rfl, h.said, htrimmed.mpr h.bare⟩
  · rintro ⟨_, hs, hsaid, htrim⟩
    cases hs
    exact ⟨hsaid, htrimmed.mp htrim⟩

/-! ## Words told apart -/

theorem head?_spaced (s : List Char) : (spaced s).head? = s.head? := by
  cases s <;> simp [spaced, spacedFrom]

theorem getLast?_spacedFrom (small : Bool) (s : List Char) :
    (spacedFrom small s).getLast? = s.getLast? := by
  induction s generalizing small with
  | nil => rfl
  | cons c rest ih =>
      unfold spacedFrom
      split <;> simp [List.getLast?_cons, ih]

theorem allBlank_spacedFrom (small : Bool) (s : List Char) : allBlank (spacedFrom small s) = allBlank s := by
  have hspace : isBlank ' ' = true := by decide
  induction s generalizing small with
  | nil => rfl
  | cons c rest ih =>
      unfold spacedFrom
      unfold allBlank at ih ⊢
      split <;> simp only [List.all_cons, ih, hspace, Bool.true_and]

/-! ## Kinds -/

/-- **`Shows name kind`** — a kind shows the name that a type gives it: it begins and ends with a blank where
the name does. -/
structure Shows (name kind : List Char) : Prop where
  named : name ≠ []
  ne_nil : kind ≠ []
  head : (∀ c ∈ kind.head?, isBlank c = false) ↔ ∀ c ∈ name.head?, isBlank c = false
  bare : IsBare kind ↔ IsBare name
  blank : allBlank kind = allBlank name

theorem shows_spaced (hs : s ≠ []) : Shows s (spaced s) where
  named := hs
  ne_nil h := hs (List.head?_eq_none_iff.mp (by rw [← head?_spaced, h, List.head?_nil]))
  head := by rw [head?_spaced]
  bare := Text.isBare_congr (head?_spaced s) (getLast?_spacedFrom false s)
  blank := allBlank_spacedFrom false s

/-- Neither a bare name nor the bare word for it hides a blank. -/
theorem shows_of_isBare {name kind : List Char} (hname : IsBare name) (hname' : name ≠ [])
    (hkind : IsBare kind) (hkind' : kind ≠ []) : Shows name kind where
  named := hname'
  ne_nil := hkind'
  head := iff_of_true hkind.head hname.head
  bare := iff_of_true hkind hname
  blank := by rw [Text.allBlank_eq_false hname' hname.head, Text.allBlank_eq_false hkind' hkind.head]

/-- A name that shows in no kind is bare. -/
theorem shows_kindOfType {urn name : List Char} (hname : (Text.splitAt ':' urn)[3]? = some name) :
    (∀ kind ∈ kindOfType urn, Shows name kind) ∧ (kindOfType urn = none → IsBare name) := by
  have bare {word : String} (h : String.ofList name = word)
      (hword : Text.trim word.toList = word.toList) : IsBare name := by
    rw [← h, String.toList_ofList] at hword
    exact Text.trim_eq_self_iff.mp hword
  have router {word : String} (h : String.ofList name = word)
      (hword : Text.trim word.toList = word.toList) (hne : word ≠ "") :
      (∀ kind ∈ some "Router".toList, Shows name kind) ∧ (some "Router".toList = none → IsBare name) := by
    refine ⟨?_, nofun⟩
    rintro kind hkind
    cases hkind
    have hnonempty : name ≠ [] := by
      rintro rfl
      exact hne (h.symm.trans String.ofList_nil)
    have hrouter : IsBare "Router".toList := Text.trim_eq_self_iff.mp (by decide)
    exact shows_of_isBare (bare h hword) hnonempty hrouter (by decide)
  simp only [kindOfType, hname]
  split
  · next h => exact router h (by decide) (by decide)
  · next h => exact router h (by decide) (by decide)
  · next h => exact router h (by decide) (by decide)
  · next h => exact ⟨nofun, fun _ => bare h (by decide)⟩
  · next h => exact ⟨nofun, fun _ => bare h (by decide)⟩
  · next hother =>
    -- The name is written out, unless it is empty.
    refine ⟨?_, nofun⟩
    rintro kind hkind
    cases hkind
    apply shows_spaced
    rintro rfl
    exact hother String.ofList_nil

/-! ## Makers and models -/

theorem meaningful_eq_some_iff : meaningful s = some t ↔ allBlank s = false ∧ Text.trim s = t := by
  rw [← Bool.not_eq_true, ← Text.trim_eq_nil_iff, meaningful]
  cases htrim : Text.trim s with
  | nil => simp
  | cons c rest => simp

theorem isBare_of_meaningful (h : meaningful s = some t) : IsBare t ∧ t ≠ [] := by
  obtain ⟨hsaid, rfl⟩ := meaningful_eq_some_iff.mp h
  refine ⟨Text.isBare_trim s, fun hnil => ?_⟩
  rw [Text.trim_eq_nil_iff.mp hnil] at hsaid
  cases hsaid

namespace Description

variable {d : Description} {v m p : List Char}

theorem isBare_vendor (hv : d.vendor = some v) : IsBare v ∧ v ≠ [] := by
  obtain ⟨s, -, hs⟩ := Option.bind_eq_some_iff.mp hv
  exact isBare_of_meaningful hs

theorem isBare_model (hm : d.model = some m) : IsBare m ∧ m ≠ [] := by
  obtain ⟨s, -, hs⟩ := Option.bind_eq_some_iff.mp hm
  exact isBare_of_meaningful hs

theorem isBare_product (hp : d.product = some p) : IsBare p ∧ p ≠ [] := by
  unfold product at hp
  split at hp
  · next v m hv hm =>
    split at hp <;> cases hp
    · exact isBare_model hm
    · have hv := isBare_vendor hv
      have hm := isBare_model hm
      rw [← List.singleton_append, ← List.append_assoc]
      exact ⟨(Text.isBare_append hv.2 hm.2).mpr ⟨hv.1.head, hm.1.last⟩, by simp [hv.2]⟩
  · next v hv _ => exact isBare_vendor (hp ▸ hv)
  · next m _ hm => exact isBare_model (hp ▸ hm)
  · cases hp

/-- A model can be read off what the label says of maker and model. -/
theorem model_infix_product (hm : d.model = some m) : ∃ p, d.product = some p ∧ m <:+: p := by
  unfold product
  rw [hm]
  cases d.vendor with
  | none => exact ⟨m, rfl, List.infix_rfl⟩
  | some v =>
      by_cases hprefix : (Text.lower v).isPrefixOf (Text.lower m) = true
      · exact ⟨m, if_pos hprefix, List.infix_rfl⟩
      · exact ⟨v ++ ' ' :: m, if_neg hprefix, v ++ [' '], [], by simp⟩

/-- So can a maker, but for the case of its letters: it may stand there as the beginning of the model only. -/
theorem vendor_infix_product (hv : d.vendor = some v) :
    ∃ p, d.product = some p ∧ Text.lower v <:+: Text.lower p := by
  unfold product
  rw [hv]
  cases d.model with
  | none => exact ⟨v, rfl, List.infix_rfl⟩
  | some m =>
      by_cases hprefix : (Text.lower v).isPrefixOf (Text.lower m) = true
      · exact ⟨m, if_pos hprefix, (List.isPrefixOf_iff_prefix.mp hprefix).isInfix⟩
      · refine ⟨v ++ ' ' :: m, if_neg hprefix, ?_⟩
        rw [Text.lower_append Text.endsWord_space, List.append_assoc]
        exact (List.prefix_append _ _).isInfix

/-! ## Labels -/

/-- The name in the type. -/
def typeName (d : Description) : Option (List Char) :=
  d.deviceType.bind fun t => (Text.splitAt ':' t.toList)[3]?

/-- The kind of the device. -/
def kind (d : Description) : Option (List Char) := d.deviceType.bind fun t => kindOfType t.toList

theorem kind_cases (d : Description) :
    (∃ name kind, d.typeName = some name ∧ d.kind = some kind ∧ Shows name kind) ∨
    (d.kind = none ∧ ∀ name ∈ d.typeName, IsBare name) := by
  cases htype : d.deviceType with
  | none => exact .inr (by simp [kind, typeName, htype])
  | some t =>
      have hkind : d.kind = kindOfType t.toList := by rw [kind, htype, Option.bind_some]
      have hname : d.typeName = (Text.splitAt ':' t.toList)[3]? := by rw [typeName, htype, Option.bind_some]
      rw [hkind, hname]
      cases hpiece : (Text.splitAt ':' t.toList)[3]? with
      | none => exact .inr ⟨by simp only [kindOfType, hpiece], nofun⟩
      | some name =>
          obtain ⟨hshows, hnone⟩ := shows_kindOfType hpiece
          cases hk : kindOfType t.toList with
          | some kind => exact .inl ⟨name, kind, rfl, rfl, hshows kind hk⟩
          | none =>
              refine .inr ⟨rfl, ?_⟩
              intro name' hname'
              cases hname'
              exact hnone hk

/-- A label is put together in one of four ways. -/
theorem label_eq (d : Description) : d.label.toList =
    match d.kind, d.product with
    | some kind, some product => kind ++ [' '] ++ '(' :: (product ++ [')'])
    | some kind, none => kind
    | none, some product => product
    | none, none => plainUpnpLabel.toList := by
  unfold label
  rw [show (d.deviceType.bind fun t => kindOfType t.toList) = d.kind from rfl]
  cases d.kind <;> cases d.product <;> simp [String.toList_ofList]

theorem product_infix_label (hp : d.product = some p) :
    p <:+: d.label.toList ∧ Text.lower p <:+: Text.lower d.label.toList := by
  rw [label_eq, hp]
  cases d.kind with
  | none => exact ⟨List.infix_rfl, List.infix_rfl⟩
  | some kind =>
      refine ⟨⟨kind ++ [' ', '('], [')'], by simp⟩, ?_⟩
      simp only [Text.lower_append Text.endsWord_open, Text.lower_append Text.endsWord_close]
      exact ⟨Text.lower (kind ++ [' ']) ++ Text.lowerChar '(', Text.lowerChar ')' ++ Text.lower [],
        by simp only [List.append_assoc]⟩

theorem label_ne_nil (d : Description) : d.label.toList ≠ [] := by
  rw [label_eq]
  rcases kind_cases d with ⟨name, kind, -, hkind, hshows⟩ | ⟨hkind, -⟩ <;> rw [hkind] <;>
    cases hp : d.product
  · exact hshows.ne_nil
  · simp
  · decide
  · exact (isBare_product hp).2

/-- The name in the type decides whether a label is bare. -/
theorem isBare_label_iff : IsBare d.label.toList ↔
    ∀ name ∈ d.typeName, (∀ c ∈ name.head?, isBlank c = false) ∧ (d.product = none → IsBare name) := by
  rcases kind_cases d with ⟨name, kind, hname, hkind, hshows⟩ | ⟨hkind, hbare⟩
  · simp only [hname, Option.mem_some_iff, forall_eq']
    cases hp : d.product with
    | none =>
        have hlabel : d.label.toList = kind := by rw [label_eq, hkind, hp]
        rw [hlabel, hshows.bare]
        constructor
        · intro h
          exact ⟨h.head, fun _ => h⟩
        · intro h
          exact h.2 rfl
    | some p =>
        have hlabel : d.label.toList = kind ++ (" (".toList ++ p) ++ [')'] := by
          rw [label_eq, hkind, hp]
          simp
        have hclose : ∀ c ∈ [')'].getLast?, isBlank c = false := by
          intro c hc
          cases hc
          decide
        rw [hlabel, Text.isBare_append hshows.ne_nil (by simp), hshows.head]
        exact and_congr_right fun _ => iff_of_true hclose nofun
  · refine iff_of_true ?_ fun name hname => ⟨(hbare name hname).head, fun _ => hbare name hname⟩
    rw [label_eq, hkind]
    cases hp : d.product with
    | none => exact Text.trim_eq_self_iff.mp (by decide)
    | some p => exact (isBare_product hp).1

/-- Only a label that is nothing but a blank name is blank. -/
theorem allBlank_label_iff : allBlank d.label.toList = true ↔
    d.product = none ∧ ∃ name ∈ d.typeName, name ≠ [] ∧ allBlank name = true := by
  have hsaid {s : List Char} (hs : IsBare s) (hne : s ≠ []) : ¬ allBlank s = true := by
    rw [Text.allBlank_eq_false hne hs.head]
    exact Bool.false_ne_true
  rcases kind_cases d with ⟨name, kind, hname, hkind, hshows⟩ | ⟨hkind, hbare⟩
  · cases hp : d.product with
    | none =>
        have hlabel : d.label.toList = kind := by rw [label_eq, hkind, hp]
        rw [hlabel, hshows.blank, hname]
        constructor
        · intro hblank
          exact ⟨rfl, name, rfl, hshows.named, hblank⟩
        · rintro ⟨-, name', hname', -, hblank⟩
          cases hname'
          exact hblank
    | some p =>
        -- The bracket at the end is no blank.
        refine iff_of_false (fun hblank => ?_) nofun
        rw [label_eq, hkind, hp] at hblank
        have hclose : isBlank ')' = true := List.all_eq_true.mp hblank ')' (by simp)
        exact absurd hclose (by decide)
  · refine iff_of_false ?_ ?_
    · rw [label_eq, hkind]
      cases hp : d.product with
      | none => decide
      | some p => exact hsaid (isBare_product hp).1 (isBare_product hp).2
    · rintro ⟨-, name, hname, hne, hblank⟩
      exact hsaid (hbare name hname) hne hblank

/-! ## The whole -/

/-- **`label_of_parts`** — whatever a description holds. Its label is usable exactly if the name in the type
does not begin with a blank, and is bare where neither maker nor model is told. A cascade rejects it exactly if
nothing but a blank name is told. The trimmed model can be read off it, and so can the trimmed maker up to the
first comma, but for the case of its letters. -/
theorem label_of_parts (d : Description) :
    (IsUsable d.label ↔ ∀ name ∈ d.typeName,
      (∀ c ∈ name.head?, isBlank c = false) ∧ (d.product = none → IsBare name)) ∧
    (label? (some d.label) = none ↔
      d.product = none ∧ ∃ name ∈ d.typeName, name ≠ [] ∧ allBlank name = true) ∧
    (∀ m ∈ d.modelName, allBlank m.toList = false → Text.trim m.toList <:+: d.label.toList) ∧
    (∀ v ∈ d.manufacturer, allBlank (v.toList.takeWhile (· ≠ ',')) = false →
      Text.lower (Text.trim (v.toList.takeWhile (· ≠ ','))) <:+: Text.lower d.label.toList) := by
  refine ⟨?_, ?_, ?_, ?_⟩
  · rw [← isBare_label_iff]
    constructor
    · intro h
      exact h.bare
    · intro h
      exact ⟨Text.allBlank_eq_false (label_ne_nil d) h.head, h⟩
  · rw [label?_eq_none_iff, ← allBlank_label_iff]
    constructor
    · intro h
      exact h _ rfl
    · rintro h _ ⟨⟩
      exact h
  · intro m hm hsaid
    have hmodel : d.model = some (Text.trim m.toList) :=
      Option.bind_eq_some_iff.mpr ⟨m, hm, meaningful_eq_some_iff.mpr ⟨hsaid, rfl⟩⟩
    obtain ⟨p, hp, hinfix⟩ := model_infix_product hmodel
    exact hinfix.trans (product_infix_label hp).1
  · intro v hv hsaid
    have hvendor : d.vendor = some (Text.trim (v.toList.takeWhile (· ≠ ','))) :=
      Option.bind_eq_some_iff.mpr ⟨v, hv, meaningful_eq_some_iff.mpr ⟨hsaid, rfl⟩⟩
    obtain ⟨p, hp, hinfix⟩ := vendor_infix_product hvendor
    exact hinfix.trans (product_infix_label hp).2

/-- A loudspeaker that tells a type, a maker and a model with blanks around it. -/
def speaker : Description where
  deviceType := some "urn:schemas-upnp-org:device:ZonePlayer:1"
  friendlyName := some "Kitchen"
  manufacturer := some "Sonos, Inc."
  modelName := some " One "

theorem speaker_label : IsUsable speaker.label ∧ label? (some speaker.label) ≠ none ∧
    "One".toList <:+: speaker.label.toList ∧ "sonos".toList <:+: Text.lower speaker.label.toList := by
  obtain ⟨husable, hrejected, hmodel, hvendor⟩ := label_of_parts speaker
  have hname : speaker.typeName = some "ZonePlayer".toList := by decide +kernel
  have hproduct : speaker.product ≠ none := by decide +kernel
  have hone : Text.trim " One ".toList = "One".toList := by decide
  have hsonos : Text.lower (Text.trim ("Sonos, Inc.".toList.takeWhile (· ≠ ','))) = "sonos".toList := by
    decide +kernel
  refine ⟨?_, ?_, ?_, ?_⟩
  · rw [husable]
    rintro name hspeaker
    cases hname.symm.trans hspeaker
    have hhead : ∀ c ∈ "ZonePlayer".toList.head?, isBlank c = false := by
      rintro c ⟨⟩
      decide
    exact ⟨hhead, fun hnone => absurd hnone hproduct⟩
  · rw [ne_eq, hrejected]
    rintro ⟨hnone, -⟩
    exact hproduct hnone
  · rw [← hone]
    exact hmodel _ rfl (by decide)
  · rw [← hsonos]
    exact hvendor _ rfl (by decide)

/-- A type whose name is a blank, and nothing else: the label is that blank, and a cascade rejects it. -/
theorem blank_label_rejected :
    (Description.mk (some "urn:schemas-upnp-org:device: :1") none none none).label = " " ∧
    ¬ IsUsable " " ∧ label? (some " ") = none := by
  refine ⟨by decide +kernel, fun h => ?_, by decide⟩
  exact absurd h.said (by decide)

end Description

end LanCensus.Detect
