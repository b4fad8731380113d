/-
# LanCensus.Proofs.Net.Sources -- the tool and the file tell the same

The system lists a neighbour in two ways: the tool writes words of which some announce the next one, the file
has fixed columns. Both lines are read as entries for the same host on the same interface, with the same
hardware address if one has been found out, and as entries without use if not. There is one exception: the tool
is asked for what follows the word `lladdr`, and an interface may be called so (`sources_agree_iff`).
-/

import LanCensus.Proofs.Net.Address
import LanCensus.Proofs.Net.Neighbour

namespace LanCensus

/-! ## Words for freshness -/

namespace Freshness

/-- **`IsUnanswered w`** — the word says, in letters of any case, that no hardware address has been found
out. -/
def IsUnanswered (w : List Char) : Prop :=
  Text.upper w = "FAILED".toList ∨ Text.upper w = "INCOMPLETE".toList

theorem isUnanswered_iff {w : List Char} :
    IsUnanswered w ↔ ofWord w = .failed ∨ ofWord w = .incomplete := by
  have hword {s : String} : Text.upper w = s.toList ↔ String.ofList (Text.upper w) = s := by
    rw [← String.toList_inj, String.toList_ofList]
  unfold IsUnanswered ofWord
  rw [hword, hword]
  split <;> simp_all

end Freshness

namespace Neighbour

/-! ## The two lines of a contact -/

/-- **`Contact`** — what the system knows of a host: through which interface it can be reached, its hardware
address if one has been found out, and a word for what the system thinks of it. -/
structure Contact where
  address : Address
  interface : List Char
  mac : Option (List Char)
  state : List Char

namespace Contact

/-- A hardware address is missing exactly if the word says so. -/
def IsSettled (x : Contact) : Prop := x.mac = none ↔ Freshness.IsUnanswered x.state

/-- The columns of the tool. -/
def toolColumns (x : Contact) : List (List Char) :=
  x.address.text.toList :: "dev".toList :: x.interface ::
    x.mac.elim [x.state] fun m => ["lladdr".toList, m, x.state]

/-- The columns of the file. -/
def fileColumns (x : Contact) : List (List Char) :=
  match x.mac with
  | some m => [x.address.text.toList, "0x1".toList, "0x2".toList, m, "*".toList, x.interface]
  | none => [x.address.text.toList, "0x1".toList, "0x0".toList, blankMac.toList, "*".toList, x.interface]

/-- The interface has the name of the word that announces a hardware address, and is taken for it. -/
def IsMisread (x : Contact) : Prop :=
  x.interface = "lladdr".toList ∧ ∃ m ∈ x.mac, macOf m ≠ "lladdr"

/-- The hardware address that is read from the line of the tool. -/
def toolMac (x : Contact) : String :=
  if x.interface = "lladdr".toList then macOf (if x.mac.isSome then "lladdr".toList else x.state)
  else x.mac.elim "" macOf

/-- The entry that is read from the line of the tool. -/
def toolEntry (x : Contact) : Neighbour :=
  ⟨x.address, x.toolMac, String.ofList x.interface, .ofWord x.state⟩

/-- The entry that is read from the line of the file. -/
def fileEntry (x : Contact) : Neighbour :=
  ⟨x.address, macOf (x.mac.getD blankMac.toList), String.ofList x.interface,
    if x.mac.isSome then .reachable else .incomplete⟩

end Contact

/-! ## Reading the lines -/

/-- A word without dots is no address. -/
theorem text_ne_word (a : Address) {w : String} (hw : '.' ∉ w.toList) : a.text.toList ≠ w.toList := by
  intro h
  apply hw
  rw [← h, Address.toList_text]
  simp

theorem afterWord_cons_self (w : String) (rest : List (List Char)) :
    afterWord w (w.toList :: rest) = some rest := if_pos rfl

theorem afterWord_cons_of_ne {w : String} {x : List Char} (h : x ≠ w.toList) (rest : List (List Char)) :
    afterWord w (x :: rest) = afterWord w rest := if_neg h

/-- What stands before the interface in a line of the tool is neither of the two words that are looked for. -/
theorem afterWord_toolColumns (x : Contact) : ∃ rest,
    afterWord "dev" x.toolColumns = some (x.interface :: rest) ∧
      afterWord "lladdr" x.toolColumns = afterWord "lladdr" (x.interface :: rest) ∧
      rest = x.mac.elim [x.state] fun m => ["lladdr".toList, m, x.state] := by
  refine ⟨_, ?_, ?_, rfl⟩
  · rw [Contact.toolColumns, afterWord_cons_of_ne (text_ne_word _ (by decide)), afterWord_cons_self]
  · rw [Contact.toolColumns, afterWord_cons_of_ne (text_ne_word _ (by decide)),
      afterWord_cons_of_ne (by decide)]

/-- The hardware address is what follows the first `lladdr`, be it the name of the interface. -/
theorem toolMac_eq (x : Contact) :
    ((afterWord "lladdr" x.toolColumns).bind List.head?).elim "" macOf = x.toolMac := by
  obtain ⟨rest, -, hlladdr, rfl⟩ := afterWord_toolColumns x
  rw [hlladdr, Contact.toolMac]
  by_cases hname : x.interface = "lladdr".toList
  · rw [if_pos hname, hname, afterWord_cons_self]
    cases x.mac <;> rfl
  · rw [if_neg hname, afterWord_cons_of_ne hname]
    cases x.mac with
    | some m =>
        rw [Option.elim_some, afterWord_cons_self]
        rfl
    | none =>
        rw [Option.elim_none, afterWord]
        split <;> rfl

theorem ofToolLine?_of_words {line : List Char} {x : Contact} (h : Text.words line = x.toolColumns) :
    ofToolLine? line = some x.toolEntry := by
  have haddress : Address.parse? x.address.text.toList = some x.address := Address.parse?_eq_some_iff.mpr rfl
  obtain ⟨rest, hdev, -, -⟩ := afterWord_toolColumns x
  have hmac := toolMac_eq x
  unfold ofToolLine?
  rw [h]
  cases hx : x.mac with
  | some m =>
      simp only [Contact.toolColumns, hx, Option.elim_some] at hdev hmac ⊢
      simp only [haddress, hdev, hmac]
      rfl
  | none =>
      simp only [Contact.toolColumns, hx, Option.elim_none] at hdev hmac ⊢
      simp only [haddress, hdev, hmac]
      rfl

theorem ofFileLine?_of_words {line : List Char} {x : Contact} (h : Text.words line = x.fileColumns) :
    ofFileLine? line = some x.fileEntry := by
  have haddress : Address.parse? x.address.text.toList = some x.address := Address.parse?_eq_some_iff.mpr rfl
  have hknown : Text.unsigned? 16 Text.halfWordBound (dropHexMarks "0x2".toList) = some 2 := by decide
  have hunknown : Text.unsigned? 16 Text.halfWordBound (dropHexMarks "0x0".toList) = some 0 := by decide
  have hreachable : Freshness.ofFlags 2 = .reachable := by decide
  have hincomplete : Freshness.ofFlags 0 = .incomplete := by decide
  unfold Contact.fileColumns at h
  unfold Contact.fileEntry
  cases hmac : x.mac with
  | some m =>
      rw [hmac] at h
      simp only [ofFileLine?, h, haddress, hknown]
      simp [hreachable]
  | none =>
      rw [hmac] at h
      simp only [ofFileLine?, h, haddress, hunknown]
      simp [hincomplete]

/-! ## What the entries say -/

namespace Contact

variable {x : Contact}

theorem isUsable_toolEntry (h : x.IsSettled) : x.toolEntry.isUsable = true ↔
    x.mac ≠ none ∧ x.toolMac ≠ "" ∧ x.toolMac ≠ blankMac := by
  have hanswered : x.mac ≠ none ↔
      x.toolEntry.freshness ≠ .failed ∧ x.toolEntry.freshness ≠ .incomplete := by
    rw [← not_or]
    exact not_congr (h.trans Freshness.isUnanswered_iff)
  rw [isUsable_iff, hanswered, ← and_assoc, and_comm]
  rfl

theorem isUsable_fileEntry : x.fileEntry.isUsable = true ↔
    ∃ m ∈ x.mac, macOf m ≠ "" ∧ macOf m ≠ blankMac := by
  rw [isUsable_iff]
  cases hx : x.mac <;> simp [fileEntry, hx]

theorem toolMac_eq_iff {m : List Char} (hm : x.mac = some m) : x.toolMac = macOf m ↔ ¬ x.IsMisread := by
  have hown : macOf "lladdr".toList = "lladdr" := by decide +kernel
  have hmisread : x.IsMisread ↔ x.interface = "lladdr".toList ∧ macOf m ≠ "lladdr" := by
    simp only [IsMisread, hm, Option.mem_some_iff, exists_eq_left']
  rw [hmisread, toolMac, hm]
  by_cases hname : x.interface = "lladdr".toList
  · rw [if_pos hname, Option.isSome_some, if_pos rfl, hown, eq_comm]
    exact ⟨fun h hne => hne.2 h, fun h => not_not.mp fun hne => h ⟨hname, hne⟩⟩
  · rw [if_neg hname]
    exact iff_of_true rfl fun h => hname h.1

theorem mac_fileEntry {m : List Char} (hm : x.mac = some m) : x.fileEntry.mac = macOf m := by
  rw [fileEntry, hm]
  rfl

/-- Where a hardware address has been found out, the entries agree unless the interface is taken for it. -/
theorem entries_agree_iff {m : List Char} (h : x.IsSettled) (hm : x.mac = some m) :
    (x.toolEntry.mac = x.fileEntry.mac ∧ x.toolEntry.isUsable = x.fileEntry.isUsable) ↔ ¬ x.IsMisread := by
  rw [mac_fileEntry hm, ← toolMac_eq_iff hm]
  refine ⟨fun hagree => hagree.1, fun hmac => ⟨hmac, ?_⟩⟩
  rw [Bool.eq_iff_iff, isUsable_toolEntry h, isUsable_fileEntry, hmac, hm]
  simp

/-- Where none has been found out, neither entry is of use. -/
theorem entries_unusable (h : x.IsSettled) (hm : x.mac = none) :
    x.toolEntry.isUsable = false ∧ x.fileEntry.isUsable = false := by
  rw [← Bool.not_eq_true, ← Bool.not_eq_true, isUsable_toolEntry h, isUsable_fileEntry, hm]
  simp

end Contact

/-! ## Tables -/

theorem filterMap_toolLines {xs : List Contact} {rows : List (List Char)}
    (h : List.Forall₂ (fun x row => Text.SetOut x.toolColumns row) xs rows) :
    rows.filterMap ofToolLine? = xs.map Contact.toolEntry := by
  induction h with
  | nil => rfl
  | cons hrow _ ih =>
      rw [List.filterMap_cons_some (ofToolLine?_of_words (Text.words_eq_iff.mpr hrow)), ih, List.map_cons]

theorem filterMap_fileLines {xs : List Contact} {rows : List (List Char)}
    (h : List.Forall₂ (fun x row => Text.SetOut x.fileColumns row) xs rows) :
    rows.filterMap ofFileLine? = xs.map Contact.fileEntry := by
  induction h with
  | nil => rfl
  | cons hrow _ ih =>
      rw [List.filterMap_cons_some (ofFileLine?_of_words (Text.words_eq_iff.mpr hrow)), ih, List.map_cons]

theorem macIn_cons (n : Neighbour) (ns : List Neighbour) (a : Address) :
    macIn (n :: ns) a = if n.address = a ∧ n.isUsable = true then some n.mac else macIn ns a := by
  rw [macIn, List.find?_cons]
  split
  · next h => rw [if_pos (by simpa using h), Option.map_some]
  · next h => rw [if_neg (by simpa using h), macIn]

/-- A host has the same hardware address in both tables. -/
theorem macIn_entries {a : Address} {xs : List Contact}
    (h : ∀ x ∈ xs, x.address = a → x.IsSettled ∧ ¬ x.IsMisread) :
    macIn (xs.map Contact.toolEntry) a = macIn (xs.map Contact.fileEntry) a := by
  induction xs with
  | nil => rfl
  | cons x xs ih =>
      obtain ⟨hx, hxs⟩ := List.forall_mem_cons.mp h
      rw [List.map_cons, List.map_cons, macIn_cons, macIn_cons, ih hxs]
      by_cases ha : x.address = a
      · obtain ⟨hsettled, hread⟩ := hx ha
        cases hm : x.mac with
        | some m =>
            obtain ⟨hmac, husable⟩ := (Contact.entries_agree_iff hsettled hm).mpr hread
            rw [hmac, husable]
            rfl
        | none =>
            obtain ⟨htool, hfile⟩ := Contact.entries_unusable hsettled hm
            rw [htool, hfile, if_neg (by simp), if_neg (by simp)]
      · rw [if_neg fun hand => ha hand.1, if_neg fun hand => ha hand.1]

/-! ## The whole -/

/-- **`sources_agree_iff`** — the two lines of any contact with a host, with any blanks between the columns. Both
are read, as entries for the host and the same interface. If a hardware address has been found out, the entries
agree on it and on its use unless the interface is taken for it; if none has, neither is of use. So a host that is
never misread has the same hardware address by the tool as by the file that takes its place. -/
theorem sources_agree_iff (a : Address) :
    (∀ (x : Contact) (toolLine fileLine : List Char), x.address = a → x.IsSettled →
      Text.SetOut x.toolColumns toolLine → Text.SetOut x.fileColumns fileLine →
      ∃ n k, ofToolLine? toolLine = some n ∧ ofFileLine? fileLine = some k ∧ n.address = a ∧ k.address = a ∧
        n.interface = String.ofList x.interface ∧ k.interface = String.ofList x.interface ∧
        (∀ m ∈ x.mac, k.mac = macOf m ∧
          ((n.mac = k.mac ∧ n.isUsable = k.isUsable) ↔ ¬ x.IsMisread)) ∧
        (x.mac = none → n.isUsable = false ∧ k.isUsable = false)) ∧
    ∀ (xs : List Contact) (output content : List UInt8) (s : List Char) (run : ToolRun)
      (file : Option (List UInt8)), (∀ x ∈ xs, x.address = a → x.IsSettled ∧ ¬ x.IsMisread) →
      List.Forall₂ (fun x row => Text.SetOut x.toolColumns row) xs (Text.lines (Text.Utf8.decodeLossy output)) →
      Text.Utf8.decode? content = some s →
      List.Forall₂ (fun x row => Text.SetOut x.fileColumns row) xs ((Text.lines s).drop 1) → Fails run →
      mac? (.ended true output) file a = mac? run (some content) a := by
  constructor
  · intro x toolLine fileLine ha hsettled htool hfile
    refine ⟨x.toolEntry, x.fileEntry, ofToolLine?_of_words (Text.words_eq_iff.mpr htool),
      ofFileLine?_of_words (Text.words_eq_iff.mpr hfile), ha, ha, rfl, rfl, ?_, ?_⟩
    · intro m hm
      exact ⟨Contact.mac_fileEntry hm, Contact.entries_agree_iff hsettled hm⟩
    · exact Contact.entries_unusable hsettled
  · intro xs output content s run file hread htool hs hfile hrun
    rw [mac?_ended, mac?_fails_file hrun hs, ← ofToolOutput_eq, ← ofFile_eq, ofToolOutput, ofFile,
      filterMap_toolLines htool, filterMap_fileLines hfile]
    exact macIn_entries hread

/-- A host whose hardware address is known. -/
def knownContact : Contact :=
  ⟨⟨192, 168, 1, 7⟩, "wlan0".toList, some "AA:BB:CC:DD:EE:FF".toList, "stale".toList⟩

/-- A host that has not answered, on an interface with the name of a word of the tool. -/
def silentContact : Contact := ⟨⟨192, 168, 1, 8⟩, "lladdr".toList, none, "INCOMPLETE".toList⟩

/-- What the tool writes about the two. -/
def twoLines : List UInt8 :=
  "192.168.1.7 dev wlan0  lladdr AA:BB:CC:DD:EE:FF stale\n192.168.1.8 dev lladdr INCOMPLETE\n".toUTF8.toList

/-- What the file holds about them. -/
def twoRows : List UInt8 := ("IP address\n192.168.1.7  0x1 0x2 AA:BB:CC:DD:EE:FF * wlan0\n" ++
  "192.168.1.8  0x1 0x0 00:00:00:00:00:00 *\tlladdr\n").toUTF8.toList

theorem twoContacts_agree :
    (∃ n k, ofToolLine? "192.168.1.7 dev wlan0 lladdr AA:BB:CC:DD:EE:FF stale".toList = some n ∧
      ofFileLine? "192.168.1.7\t0x1 0x2 AA:BB:CC:DD:EE:FF * wlan0".toList = some k ∧
      k.mac = "aa:bb:cc:dd:ee:ff" ∧ n.mac = k.mac ∧ n.isUsable = k.isUsable) ∧
    mac? (.ended true twoLines) none ⟨192, 168, 1, 7⟩ = mac? .missing (some twoRows) ⟨192, 168, 1, 7⟩ := by
  obtain ⟨hlines, htables⟩ := sources_agree_iff ⟨192, 168, 1, 7⟩
  have hanswered : knownContact.IsSettled :=
    iff_of_false nofun (by unfold Freshness.IsUnanswered; decide +kernel)
  have hunanswered : silentContact.IsSettled :=
    iff_of_true rfl (by unfold Freshness.IsUnanswered; decide +kernel)
  have hread : ¬ knownContact.IsMisread := fun h => absurd h.1 (by decide)
  constructor
  · obtain ⟨n, k, hn, hk, -, -, -, -, hagree, -⟩ := hlines knownContact
      "192.168.1.7 dev wlan0 lladdr AA:BB:CC:DD:EE:FF stale".toList
      "192.168.1.7\t0x1 0x2 AA:BB:CC:DD:EE:FF * wlan0".toList rfl hanswered
      (Text.words_eq_iff.mp (by decide +kernel)) (Text.words_eq_iff.mp (by decide +kernel))
    obtain ⟨hmac, hsame⟩ := hagree _ rfl
    exact ⟨n, k, hn, hk, hmac.trans (by decide +kernel), hsame.mpr hread⟩
  · refine htables [knownContact, silentContact] _ _ (Text.Utf8.decodeLossy twoRows) .missing none ?_ ?_
      (by decide +kernel) ?_ (.inl rfl)
    · intro x hx hhost
      simp only [List.mem_cons, List.not_mem_nil, or_false] at hx
      rcases hx with rfl | rfl
      · exact ⟨hanswered, hread⟩
      · exact ⟨hunanswered, fun h => by obtain ⟨-, m, hm, -⟩ := h; cases hm⟩
    · rw [show Text.lines (Text.Utf8.decodeLossy twoLines) =
        ["192.168.1.7 dev wlan0  lladdr AA:BB:CC:DD:EE:FF stale".toList,
          "192.168.1.8 dev lladdr INCOMPLETE".toList] by decide +kernel]
      exact .cons (Text.words_eq_iff.mp (by decide +kernel))
        (.cons (Text.words_eq_iff.mp (by decide +kernel)) .nil)
    · rw [show (Text.lines (Text.Utf8.decodeLossy twoRows)).drop 1 =
        ["192.168.1.7  0x1 0x2 AA:BB:CC:DD:EE:FF * wlan0".toList,
          "192.168.1.8  0x1 0x0 00:00:00:00:00:00 *\tlladdr".toList] by decide +kernel]
      exact .cons (Text.words_eq_iff.mp (by decide +kernel))
        (.cons (Text.words_eq_iff.mp (by decide +kernel)) .nil)

/-- A host on an interface with the name of the word that announces a hardware address: the tool is taken to
say that this name is the address, and the file says what it is. -/
theorem interface_read_as_mac :
    (∃ x : Contact, x.IsSettled ∧
      Text.SetOut x.toolColumns "192.168.1.1 dev lladdr lladdr aa:bb:cc:dd:ee:ff REACHABLE".toList ∧
      Text.SetOut x.fileColumns "192.168.1.1 0x1 0x2 aa:bb:cc:dd:ee:ff * lladdr".toList) ∧
    ofToolLine? "192.168.1.1 dev lladdr lladdr aa:bb:cc:dd:ee:ff REACHABLE".toList =
      some ⟨⟨192, 168, 1, 1⟩, "lladdr", "lladdr", .reachable⟩ ∧
    ofFileLine? "192.168.1.1 0x1 0x2 aa:bb:cc:dd:ee:ff * lladdr".toList =
      some ⟨⟨192, 168, 1, 1⟩, "aa:bb:cc:dd:ee:ff", "lladdr", .reachable⟩ := by
  refine ⟨⟨⟨⟨192, 168, 1, 1⟩, "lladdr".toList, some "aa:bb:cc:dd:ee:ff".toList, "REACHABLE".toList⟩, ?_, ?_, ?_⟩,
    by decide +kernel, by decide +kernel⟩
  · exact iff_of_false nofun (by unfold Freshness.IsUnanswered; decide +kernel)
  · exact Text.words_eq_iff.mp (by decide +kernel)
  · exact Text.words_eq_iff.mp (by decide +kernel)

end Neighbour

end LanCensus
