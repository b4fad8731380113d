/-
# LanCensus.Proofs.Net.Neighbour -- whose hardware address is found

The table of neighbours is a text of many rows. A row tells the hardware address of a host if it can be read as
an entry, names the host and holds an address that can be used. The first row that does so decides; all others
may come and go, wherever they stand (`first_usable_counts`).
-/

import LanCensus.Net.Neighbour
import LanCensus.Proofs.Text.Pieces
import LanCensus.Proofs.Text.Words

namespace LanCensus.Neighbour

variable {reader : List Char → Option Neighbour} {a : Address} {rows : List (List Char)} {row : List Char}

/-! ## Rows -/

theorem isUsable_iff {n : Neighbour} : n.isUsable = true ↔
    n.mac ≠ "" ∧ n.mac ≠ blankMac ∧ n.freshness ≠ .failed ∧ n.freshness ≠ .incomplete := by
  simp [isUsable, and_assoc]

/-- **`tells reader a row`** — to `reader`, the row is an entry for the host `a` with a hardware address
that can be used. -/
def tells (reader : List Char → Option Neighbour) (a : Address) (row : List Char) : Bool :=
  (reader row).any fun n => n.address = a && n.isUsable

theorem tells_iff : tells reader a row = true ↔
    ∃ n, reader row = some n ∧ n.address = a ∧ n.isUsable = true := by
  cases h : reader row <;> simp [tells, h]

/-- What the rows say is what those say that tell of the host. -/
theorem macIn_filterMap (rows : List (List Char)) (a : Address) : macIn (rows.filterMap reader) a =
    ((rows.filter (tells reader a)).head?.bind reader).map (·.mac) := by
  rw [macIn, List.find?_filterMap, List.head?_filter]
  rfl

/-! ## The first row that tells -/

/-- **`Resolves reader rows a answer`** — the answer is the hardware address in the first of the rows that tell
one of the host, and nothing if none does. -/
structure Resolves (reader : List Char → Option Neighbour) (rows : List (List Char)) (a : Address)
    (answer : Option String) : Prop where
  first : ∀ m, answer = some m ↔ ∃ before row after n, rows = before ++ row :: after ∧
    (∀ r ∈ before, tells reader a r = false) ∧ reader row = some n ∧ n.address = a ∧
    n.isUsable = true ∧ n.mac = m
  nothing : answer = none ↔ ∀ row ∈ rows, tells reader a row = false
  usable : ∀ m, answer = some m → m ≠ "" ∧ m ≠ blankMac ∧ ∃ row ∈ rows, ∃ n, reader row = some n ∧
    n.address = a ∧ n.mac = m ∧ n.freshness ≠ .failed ∧ n.freshness ≠ .incomplete

theorem macIn_eq_some_iff {m : String} : macIn (rows.filterMap reader) a = some m ↔
    ∃ before row after n, rows = before ++ row :: after ∧ (∀ r ∈ before, tells reader a r = false) ∧
      reader row = some n ∧ n.address = a ∧ n.isUsable = true ∧ n.mac = m := by
  rw [macIn_filterMap, List.head?_filter]
  constructor
  · intro h
    obtain ⟨n, hn, hm⟩ := Option.map_eq_some_iff.mp h
    obtain ⟨row, hfind, hrow⟩ := Option.bind_eq_some_iff.mp hn
    obtain ⟨htells, before, after, hrows, hbefore⟩ := List.find?_eq_some_iff_append.mp hfind
    obtain ⟨k, hk, hhost, husable⟩ := tells_iff.mp htells
    obtain rfl : n = k := Option.some.inj (hrow.symm.trans hk)
    exact ⟨before, row, after, n, hrows, fun r hr => by simpa using hbefore r hr, hrow, hhost, husable, hm⟩
  · rintro ⟨before, row, after, n, hrows, hbefore, hrow, hhost, husable, hm⟩
    have hfind : rows.find? (tells reader a) = some row :=
      List.find?_eq_some_iff_append.mpr ⟨tells_iff.mpr ⟨n, hrow, hhost, husable⟩, before, after, hrows,
        fun r hr => by simpa using hbefore r hr⟩
    rw [hfind, Option.bind_some, hrow, Option.map_some, hm]

theorem macIn_eq_none_iff :
    macIn (rows.filterMap reader) a = none ↔ ∀ row ∈ rows, tells reader a row = false := by
  simp only [macIn, Option.map_eq_none_iff, List.find?_filterMap, Option.bind_eq_none_iff]
  constructor
  · intro h row hrow
    by_contra htells
    rw [Bool.not_eq_false] at htells
    -- The first row that tells can be read.
    obtain ⟨first, hfind⟩ := Option.isSome_iff_exists.mp (List.find?_isSome.mpr ⟨row, hrow, htells⟩)
    obtain ⟨n, hn, -⟩ := tells_iff.mp (List.find?_some hfind)
    rw [h first hfind] at hn
    cases hn
  · intro h row hfind
    have htells : tells reader a row = true := List.find?_some hfind
    rw [h row (List.mem_of_find?_eq_some hfind)] at htells
    cases htells

/-- **`resolves_macIn`** — looking a host up in the entries of some rows. -/
theorem resolves_macIn (reader : List Char → Option Neighbour) (rows : List (List Char)) (a : Address) :
    Resolves reader rows a (macIn (rows.filterMap reader) a) where
  first _ := macIn_eq_some_iff
  nothing := macIn_eq_none_iff
  usable m hm := by
    obtain ⟨before, row, after, n, rfl, -, hrow, hhost, husable, rfl⟩ := macIn_eq_some_iff.mp hm
    obtain ⟨hsaid, hreal, hfailed, hincomplete⟩ := isUsable_iff.mp husable
    exact ⟨hsaid, hreal, row, by simp, n, hrow, hhost, rfl, hfailed, hincomplete⟩

/-! ## Lines -/

theorem ofToolLine?_chompReturn (line : List Char) : ofToolLine? (Text.chompReturn line) = ofToolLine? line := by
  simp only [ofToolLine?, Text.words_chompReturn]

theorem ofFileLine?_chompReturn (line : List Char) : ofFileLine? (Text.chompReturn line) = ofFileLine? line := by
  simp only [ofFileLine?, Text.words_chompReturn]

/-- The entries in the output of the tool, piece by piece. -/
theorem ofToolOutput_eq (s : List Char) : ofToolOutput s = (Text.splitAt '\n' s).filterMap ofToolLine? :=
  Text.filterMap_drop_lines rfl ofToolLine?_chompReturn 0 s

/-- The entries in the file are those in its pieces after the heading. -/
theorem ofFile_eq (s : List Char) : ofFile s = ((Text.splitAt '\n' s).drop 1).filterMap ofFileLine? :=
  Text.filterMap_drop_lines rfl ofFileLine?_chompReturn 1 s

/-! ## Sources -/

/-- **`Fails run`** — the tool is missing, or ends without success. -/
def Fails (run : ToolRun) : Prop := run = .missing ∨ ∃ output, run = .ended false output

theorem mac?_ended (output : List UInt8) (file : Option (List UInt8)) (a : Address) :
    mac? (.ended true output) file a =
      macIn ((Text.splitAt '\n' (Text.Utf8.decodeLossy output)).filterMap ofToolLine?) a := by
  rw [← ofToolOutput_eq]
  rfl

theorem mac?_fails {run : ToolRun} (h : Fails run) (file : Option (List UInt8)) (a : Address) :
    mac? run file a = (file.bind Text.Utf8.decode?).bind fun s =>
      macIn (((Text.splitAt '\n' s).drop 1).filterMap ofFileLine?) a := by
  have htable : mac? run file a = (table run file).toOption.bind fun t => macIn t a := by
    rcases h with rfl | ⟨output, rfl⟩ <;> rfl
  have hfile : table run file =
      (file.bind Text.Utf8.decode?).elim (.error tableMissing) fun s => .ok (ofFile s) := by
    rcases h with rfl | ⟨output, rfl⟩ <;> simp only [table] <;> cases file.bind Text.Utf8.decode? <;> rfl
  rw [htable, hfile]
  cases file.bind Text.Utf8.decode? with
  | none => rfl
  | some s =>
      rw [Option.bind_some, ← ofFile_eq]
      rfl

theorem mac?_fails_file {run : ToolRun} (h : Fails run) {content : List UInt8} {s : List Char}
    (hs : Text.Utf8.decode? content = some s) (a : Address) :
    mac? run (some content) a = macIn (((Text.splitAt '\n' s).drop 1).filterMap ofFileLine?) a := by
  rw [mac?_fails h, Option.bind_some, hs, Option.bind_some]

/-! ## The whole -/

/-- **`first_usable_counts`** — a host is looked up, and the tool ends in time. If it ends with success, its
output alone counts, and of its lines the first that tells of the host. If it is missing or fails, the lines of
the file after the heading take their place, and without a file nothing is known. So only the lines that tell
of the host matter, in their order: others may be put in or taken out anywhere. -/
theorem first_usable_counts (a : Address) :
    (∀ output file, Resolves ofToolLine? (Text.splitAt '\n' (Text.Utf8.decodeLossy output)) a
      (mac? (.ended true output) file a)) ∧
    (∀ run content s, Fails run → Text.Utf8.decode? content = some s →
      Resolves ofFileLine? ((Text.splitAt '\n' s).drop 1) a (mac? run (some content) a)) ∧
    (∀ run, Fails run → mac? run none a = none) ∧
    (∀ output output' file file',
      (Text.splitAt '\n' (Text.Utf8.decodeLossy output)).filter (tells ofToolLine? a) =
        (Text.splitAt '\n' (Text.Utf8.decodeLossy output')).filter (tells ofToolLine? a) →
      mac? (.ended true output) file a = mac? (.ended true output') file' a) ∧
    ∀ run run' content content' s s', Fails run → Fails run' →
      Text.Utf8.decode? content = some s → Text.Utf8.decode? content' = some s' →
      ((Text.splitAt '\n' s).drop 1).filter (tells ofFileLine? a) =
        ((Text.splitAt '\n' s').drop 1).filter (tells ofFileLine? a) →
      mac? run (some content) a = mac? run' (some content') a := by
  refine ⟨?_, ?_, ?_, ?_, ?_⟩
  · intro output file
    rw [mac?_ended]
    exact resolves_macIn _ _ a
  · intro run content s hrun hs
    rw [mac?_fails_file hrun hs]
    exact resolves_macIn _ _ a
  · intro run hrun
    rw [mac?_fails hrun]
    rfl
  · intro output output' file file' hsame
    rw [mac?_ended, mac?_ended, macIn_filterMap, macIn_filterMap, hsame]
  · intro run run' content content' s s' hrun hrun' hs hs' hsame
    rw [mac?_fails_file hrun hs, mac?_fails_file hrun' hs', macIn_filterMap, macIn_filterMap, hsame]

/-- What the tool may write: a failed entry of the host, a line that is none, another host, and the host. -/
def crowdedOutput : List UInt8 := ("192.168.1.7 dev eth0 lladdr 02:00:00:00:00:01 FAILED\nno entry\n" ++
  "192.168.1.8 dev eth0 lladdr 02:00:00:00:00:08 STALE\n" ++
  "192.168.1.7 dev eth0 lladdr AA:BB:CC:DD:EE:FF REACHABLE\n").toUTF8.toList

/-- The same with nothing but the host. -/
def bareOutput : List UInt8 := "192.168.1.7 dev eth0 lladdr AA:BB:CC:DD:EE:FF REACHABLE".toUTF8.toList

/-- A file about the host, whose heading looks like an entry. -/
def smallFile : List UInt8 := ("192.168.1.7 0x1 0x2 02:00:00:00:00:01 * eth0\n" ++
  "192.168.1.7 0x1 0x2 AA:BB:CC:DD:EE:01 * eth0\n").toUTF8.toList

theorem crowdedOutput_resolved :
    mac? (.ended true bareOutput) none ⟨192, 168, 1, 7⟩ = some "aa:bb:cc:dd:ee:ff" ∧
    mac? (.ended true crowdedOutput) (some smallFile) ⟨192, 168, 1, 7⟩ =
      mac? (.ended true bareOutput) none ⟨192, 168, 1, 7⟩ ∧
    mac? (.ended false crowdedOutput) (some smallFile) ⟨192, 168, 1, 7⟩ = some "aa:bb:cc:dd:ee:01" ∧
    mac? .missing none ⟨192, 168, 1, 7⟩ = none := by
  obtain ⟨htool, hfile, hnothing, htools, -⟩ := first_usable_counts ⟨192, 168, 1, 7⟩
  have hfails : Fails (.ended false crowdedOutput) := .inr ⟨_, rfl⟩
  have htext : Text.Utf8.decode? smallFile = some (Text.Utf8.decodeLossy smallFile) := by decide +kernel
  refine ⟨((htool bareOutput none).first _).mpr ?_, htools _ _ _ _ (by decide +kernel),
    ((hfile _ _ _ hfails htext).first _).mpr ?_, hnothing _ (.inl rfl)⟩
  · exact ⟨[], "192.168.1.7 dev eth0 lladdr AA:BB:CC:DD:EE:FF REACHABLE".toList, [],
      ⟨⟨192, 168, 1, 7⟩, "aa:bb:cc:dd:ee:ff", "eth0", .reachable⟩, by decide +kernel, nofun, by decide +kernel,
      rfl, by decide, rfl⟩
  · exact ⟨[], "192.168.1.7 0x1 0x2 AA:BB:CC:DD:EE:01 * eth0".toList, [[]],
      ⟨⟨192, 168, 1, 7⟩, "aa:bb:cc:dd:ee:01", "eth0", .reachable⟩, by decide +kernel, nofun, by decide +kernel,
      rfl, by decide, rfl⟩

end LanCensus.Neighbour
