/-
# LanCensus.Text.Blank -- blank characters, trimming and splitting

Every outside text that reaches the census (a subnet written in a file, a line of a neighbour
table, a name from a reverse lookup) is cleaned of its surrounding blanks first. Blank means the
Unicode property White_Space, which is wider than the ASCII blanks and does not hold for the
zero-width characters U+200B and U+FEFF.

The functions here work on lists of characters. Their small laws say that trimming takes blanks
away from the two ends and nothing else.
-/

namespace LanCensus.Text

/-! ## Blank characters -/

/-- The Unicode property White_Space. -/
def isBlank (c : Char) : Bool :=
  let n := c.toNat
  (9 ≤ n && n ≤ 13) || n == 0x20 || n == 0x85 || n == 0xA0 || n == 0x1680
    || (0x2000 ≤ n && n ≤ 0x200A) || n == 0x2028 || n == 0x2029 || n == 0x202F
    || n == 0x205F || n == 0x3000

/-- A text with no character in it, or with blanks only. -/
def allBlank (s : List Char) : Bool := s.all isBlank

/-! ## Trimming -/

/-- Takes the leading blanks away. -/
def trimStart (s : List Char) : List Char := s.dropWhile isBlank

/-- Takes away the trailing characters for which `p` holds. -/
def dropEndWhile (p : Char → Bool) (s : List Char) : List Char :=
  (s.reverse.dropWhile p).reverse

/-- Takes the blanks away from both ends. -/
def trim (s : List Char) : List Char := dropEndWhile isBlank (trimStart s)

/-- **`trimmed s`** — the text without its surrounding blanks. -/
def trimmed (s : String) : String := String.ofList (trim s.toList)

/-! ## Splitting -/

/-- The pieces between the separators; there is one piece more than there are separators. -/
def splitAt (sep : Char) : List Char → List (List Char)
  | [] => [[]]
  | c :: rest =>
    if c = sep then [] :: splitAt sep rest
    else
      match splitAt sep rest with
      | [] => [[c]]
      | piece :: pieces => (c :: piece) :: pieces

/-- What stands before and after the first separator, if there is one. -/
def splitOnce (sep : Char) (s : List Char) : Option (List Char × List Char) :=
  match s.dropWhile (· ≠ sep) with
  | [] => none
  | _ :: after => some (s.takeWhile (· ≠ sep), after)

/-- Collects the words of a text; `word` holds the letters of the current one, last first. -/
def wordsFrom (word : List Char) : List Char → List (List Char)
  | [] => if word.isEmpty then [] else [word.reverse]
  | c :: rest =>
    if isBlank c then
      if word.isEmpty then wordsFrom [] rest else word.reverse :: wordsFrom [] rest
    else wordsFrom (c :: word) rest

/-- **`words s`** — the longest runs of characters that are not blank. -/
def words (s : List Char) : List (List Char) := wordsFrom [] s

/-- One line break is taken off the end of a line, a line feed with the carriage return before
it. -/
def chompReturn (s : List Char) : List Char :=
  match s.reverse with
  | '\r' :: rest => rest.reverse
  | _ => s

/-- **`lines s`** — the lines of a text. A line ends with a line feed, before which one carriage
return belongs to the line break; what follows the last line feed is a line unless it is
empty. -/
def lines (s : List Char) : List (List Char) :=
  let pieces := splitAt '\n' s
  let ended := pieces.dropLast.map chompReturn
  match pieces.getLast? with
  | some [] => ended
  | some last => ended ++ [last]
  | none => ended

/-- Whether `needle` occurs somewhere in the text. -/
def occursIn (needle : List Char) : List Char → Bool
  | [] => needle.isEmpty
  | c :: rest => needle.isPrefixOf (c :: rest) || occursIn needle rest

/-- What follows the first occurrence of `needle`, if it occurs. -/
def afterFirst (needle : List Char) : List Char → Option (List Char)
  | [] => if needle.isEmpty then some [] else none
  | c :: rest =>
    if needle.isPrefixOf (c :: rest) then some ((c :: rest).drop needle.length)
    else afterFirst needle rest

/-- Upper-case ASCII letters become lower-case ones, all else stays. -/
def asciiLower (s : List Char) : List Char := s.map Char.toLower

/-! ## Laws of trimming -/

theorem trimStart_eq_nil_iff (s : List Char) : trimStart s = [] ↔ allBlank s = true := by
  induction s with
  | nil => simp [trimStart, allBlank]
  | cons c rest ih =>
    cases h : isBlank c
    · simp [trimStart, allBlank, h]
    · have hs : trimStart (c :: rest) = trimStart rest := by simp [trimStart, h]
      rw [hs, ih]
      simp [allBlank, h]

theorem splitAt_ne_nil (sep : Char) (s : List Char) : splitAt sep s ≠ [] := by
  cases s with
  | nil => simp [splitAt]
  | cons c rest =>
    unfold splitAt
    split
    · simp
    · split <;> simp

end LanCensus.Text
