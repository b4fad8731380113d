/-
# LanCensus.Proofs.Detect.Ssdp -- whose location a reply tells

A search goes through what arrives, and in each reply through its lines. Both times the first one of use
counts, and what is of no use is passed over: a line that is no header `LOCATION` with a value, and a reply
without such a line. So what a search finds for an address is a matter of the replies from there alone
(`get?_responders`), and those from elsewhere may arrive before, after or between them.
-/

import LanCensus.Detect.Ssdp
import LanCensus.Proofs.Inventory
import LanCensus.Proofs.Net.Address
import LanCensus.Proofs.Text.Blank
import LanCensus.Proofs.Text.Pieces

namespace LanCensus.Detect

/-! ## Lines -/

/-- **`Tells line location`** — the line is a header `LOCATION`, in capital or small letters. What stands
after its first colon is not blank, and `location` is what trimming leaves of it. -/
def Tells (line location : List Char) : Prop :=
  ∃ name value, line = name ++ ':' :: value ∧ ':' ∉ name ∧
    Text.asciiLower (Text.trim name) = "location".toList ∧ Text.allBlank value = false ∧ location = Text.trim value

theorem isEmpty_trim (value : List Char) : (Text.trim value).isEmpty = Text.allBlank value := by
  rw [Bool.eq_iff_iff, List.isEmpty_iff, Text.trim_eq_nil_iff]

theorem locationInLine?_eq_some_iff {line location : List Char} :
    locationInLine? line = some location ↔ Tells line location := by
  constructor
  · intro h
    obtain ⟨⟨name, value⟩, hsplit, h⟩ := Option.bind_eq_some_iff.mp h
    obtain ⟨hline, hname⟩ := Text.splitOnce_eq_some_iff.mp hsplit
    obtain ⟨hheader, hvalue⟩ := Option.ite_none_right_eq_some.mp h
    rw [isEmpty_trim, Bool.and_eq_true, decide_eq_true_iff, Bool.not_eq_true'] at hheader
    exact ⟨name, value, hline, hname, hheader.1, hheader.2, (Option.some.inj hvalue).symm⟩
  · rintro ⟨name, value, rfl, hname, hheader, hvalue, rfl⟩
    have hsplit : Text.splitOnce ':' (name ++ ':' :: value) = some (name, value) :=
      Text.splitOnce_eq_some_iff.mpr ⟨rfl, hname⟩
    refine Option.bind_eq_some_iff.mpr ⟨_, hsplit, Option.ite_none_right_eq_some.mpr ⟨?_, rfl⟩⟩
    rw [isEmpty_trim, hvalue, Bool.not_false, Bool.and_true, decide_eq_true_iff]
    exact hheader

theorem locationInLine?_eq_none_iff {line : List Char} :
    locationInLine? line = none ↔ ∀ location, ¬ Tells line location := by
  simp only [Option.eq_none_iff_forall_ne_some, ne_eq, locationInLine?_eq_some_iff]

/-! ## Replies -/

/-- The location in a reply is that of its first line that tells one. -/
theorem locationIn?_eq_some_iff {reply location : List Char} :
    locationIn? reply = some location ↔ ∃ before line after, Text.lines reply = before ++ line :: after ∧
      Tells line location ∧ ∀ l ∈ before, ∀ other, ¬ Tells l other := by
  simp only [locationIn?, List.findSome?_eq_some_iff, locationInLine?_eq_some_iff, locationInLine?_eq_none_iff]

/-- What stands before a line feed comes first. -/
theorem locationIn?_append (s t : List Char) : locationIn? (s ++ '\n' :: t) =
    (((Text.splitAt '\n' s).map Text.chompReturn).findSome? locationInLine?).or (locationIn? t) := by
  rw [locationIn?, Text.lines_append, List.findSome?_append, locationIn?]

/-- **`locationIn?_drop_line`** — a line that tells no location may as well be missing. -/
theorem locationIn?_drop_line {before line : List Char} (after : List Char)
    (hbefore : before = [] ∨ before.getLast? = some '\n') (hline : '\n' ∉ line)
    (huseless : ∀ location, ¬ Tells (Text.chompReturn line) location) :
    locationIn? (before ++ line ++ '\n' :: after) = locationIn? (before ++ after) := by
  have hnone : locationInLine? (Text.chompReturn line) = none := locationInLine?_eq_none_iff.mpr huseless
  have hrest : locationIn? (line ++ '\n' :: after) = locationIn? after := by
    rw [locationIn?_append, Text.splitAt_of_not_mem hline, List.map_singleton, List.findSome?_singleton, hnone,
      Option.none_or]
  rcases hbefore with rfl | hlast
  · exact hrest
  · obtain ⟨text, rfl⟩ := List.getLast?_eq_some_iff.mp hlast
    calc locationIn? (text ++ ['\n'] ++ line ++ '\n' :: after)
        = locationIn? (text ++ '\n' :: (line ++ '\n' :: after)) := by simp
      _ = locationIn? (text ++ '\n' :: after) := by rw [locationIn?_append, hrest, locationIn?_append]
      _ = locationIn? (text ++ ['\n'] ++ after) := by simp

/-! ## Searches -/

/-- **`repliesFrom origin arrivals`** — the replies from an address, as far as anything can be received. -/
def repliesFrom (origin : Address) : List Arrival → List (List UInt8)
  | [] => []
  | .reply o bytes :: rest => if o = origin then bytes :: repliesFrom origin rest else repliesFrom origin rest
  | .foreign :: rest => repliesFrom origin rest
  | .fault :: _ => []

theorem Responders.get?_hear (found : Responders) (o : Address) (bytes : List UInt8) (origin : Address) :
    (found.hear o bytes).get? origin =
      (found.get? origin).or (if o = origin then locationInBytes? bytes else none) := by
  unfold Responders.hear
  cases hlocation : locationInBytes? bytes with
  | none => simp
  | some location =>
      by_cases horigin : o = origin
      · subst horigin
        cases hfound : found.get? o with
        | none => simp [AddressMap.contains, hfound, AddressMap.get?_insert]
        | some known => simp [AddressMap.contains, hfound]
      · simp only [if_neg horigin, Option.or_none]
        split
        · rfl
        · rw [AddressMap.get?_insert, if_neg (Ne.symm horigin)]

/-- What is known already stays; beyond that the first reply of use counts. -/
theorem get?_respondersFrom (origin : Address) (arrivals : List Arrival) (found : Responders) :
    (respondersFrom found arrivals).get? origin =
      (found.get? origin).or ((repliesFrom origin arrivals).findSome? locationInBytes?) := by
  induction arrivals generalizing found with
  | nil => simp [respondersFrom, repliesFrom]
  | cons x rest ih =>
      cases x with
      | reply o bytes =>
          rw [respondersFrom, ih, Responders.get?_hear, repliesFrom]
          split
          · rw [List.findSome?_cons, Option.or_assoc]
            cases locationInBytes? bytes <;> rfl
          · rw [Option.or_none]
      | foreign => exact ih found
      | fault => simp [respondersFrom, repliesFrom]

/-- **`get?_responders`** — what a search finds for an address. -/
theorem get?_responders (origin : Address) (arrivals : List Arrival) :
    (responders arrivals).get? origin = (repliesFrom origin arrivals).findSome? locationInBytes? := by
  rw [responders, get?_respondersFrom, AddressMap.get?_empty, Option.none_or]

theorem Responders.ordered_hear {found : Responders} (h : found.Ordered) (o : Address) (bytes : List UInt8) :
    (found.hear o bytes).Ordered := by
  unfold Responders.hear
  cases locationInBytes? bytes with
  | none => exact h
  | some location =>
      show AddressMap.Ordered (if _ then _ else _)
      split
      · exact h
      · exact h.insert o location

theorem ordered_respondersFrom {found : Responders} (h : found.Ordered) (arrivals : List Arrival) :
    (respondersFrom found arrivals).Ordered := by
  induction arrivals generalizing found with
  | nil => exact h
  | cons x rest ih =>
      cases x with
      | reply o bytes => exact ih (Responders.ordered_hear h o bytes)
      | foreign => exact ih h
      | fault => exact h

/-- Searches that hear the same from every address find the same. -/
theorem responders_eq_of_repliesFrom {xs ys : List Arrival}
    (h : ∀ origin, repliesFrom origin xs = repliesFrom origin ys) : responders xs = responders ys := by
  refine AddressMap.ext_of_ordered (ordered_respondersFrom List.Pairwise.nil xs)
    (ordered_respondersFrom List.Pairwise.nil ys) fun origin => ?_
  rw [get?_responders, get?_responders, h origin]

theorem Responders.hear_of_none {bytes : List UInt8} (h : locationInBytes? bytes = none)
    (found : Responders) (o : Address) : found.hear o bytes = found := by
  rw [Responders.hear, h]

/-- A reply that tells no location may as well be missing. -/
theorem respondersFrom_drop_reply {bytes : List UInt8} (h : locationInBytes? bytes = none)
    (found : Responders) (o : Address) (xs ys : List Arrival) :
    respondersFrom found (xs ++ .reply o bytes :: ys) = respondersFrom found (xs ++ ys) := by
  induction xs generalizing found with
  | nil => rw [List.nil_append, respondersFrom, Responders.hear_of_none h, List.nil_append]
  | cons x xs ih =>
      cases x with
      | reply | foreign => exact ih _
      | fault => rfl

/-! ## The whole -/

/-- **`replies_attributed`** — whatever arrives during a search, from whatever addresses and in whatever order.
What is found for an address is the location in the first reply from there that tells one, and nothing if none
does. A reply tells the location in the first of its lines that tells one, as far as its first 2048 bytes go.
So only the order of the replies from one address counts, and replies or lines that tell no location hide
nothing. -/
theorem replies_attributed (arrivals : List Arrival) :
    (∀ origin location, (responders arrivals).get? origin = some location ↔
      ∃ before bytes after, repliesFrom origin arrivals = before ++ bytes :: after ∧
        locationInBytes? bytes = some location ∧ ∀ b ∈ before, locationInBytes? b = none) ∧
    (∀ bytes location, locationInBytes? bytes = some location ↔
      ∃ before line after,
        Text.lines (Text.Utf8.decodeLossy (bytes.take 2048)) = before ++ line :: after ∧
        Tells line location ∧ ∀ l ∈ before, ∀ other, ¬ Tells l other) ∧
    (∀ others, (∀ origin, repliesFrom origin others = repliesFrom origin arrivals) →
      responders others = responders arrivals) ∧
    (∀ before after origin bytes, arrivals = before ++ .reply origin bytes :: after →
      locationInBytes? bytes = none → responders arrivals = responders (before ++ after)) ∧
    ∀ before line after : List Char, before = [] ∨ before.getLast? = some '\n' → '\n' ∉ line →
      (∀ location, ¬ Tells (Text.chompReturn line) location) →
      locationIn? (before ++ line ++ '\n' :: after) = locationIn? (before ++ after) := by
  refine ⟨fun origin location => ?_, fun bytes location => locationIn?_eq_some_iff,
    fun others h => responders_eq_of_repliesFrom h, ?_,
    fun before line after hbefore hline huseless => locationIn?_drop_line after hbefore hline huseless⟩
  · rw [get?_responders, List.findSome?_eq_some_iff]
  · rintro before after origin bytes rfl hnone
    exact respondersFrom_drop_reply hnone .empty origin before after

/-- A reply whose header `LOCATION` is blank. -/
def blankReply : List UInt8 := "HTTP/1.1 200 OK\r\nLocation: \r\n".toUTF8.toList

/-- A reply that tells its location in the last line. -/
def lateReply : List UInt8 := "location :\r\nno header\r\nlocation : http://10.0.0.7/ \r\n".toUTF8.toList

/-- One device replies twice, and between its replies another one does. -/
def threeReplies : List Arrival :=
  [.reply ⟨10, 0, 0, 7⟩ blankReply, .reply ⟨10, 0, 0, 8⟩ lateReply, .reply ⟨10, 0, 0, 7⟩ lateReply]

/-- The other device may as well reply first, and the blank reply may be missing. -/
theorem threeReplies_attributed :
    (∀ origin, repliesFrom origin [.reply ⟨10, 0, 0, 8⟩ lateReply, .reply ⟨10, 0, 0, 7⟩ blankReply,
      .reply ⟨10, 0, 0, 7⟩ lateReply] = repliesFrom origin threeReplies) ∧
    locationInBytes? blankReply = none ∧
    (responders threeReplies).get? ⟨10, 0, 0, 7⟩ = some "http://10.0.0.7/".toList ∧
    responders [.reply ⟨10, 0, 0, 8⟩ lateReply, .reply ⟨10, 0, 0, 7⟩ blankReply,
      .reply ⟨10, 0, 0, 7⟩ lateReply] = responders threeReplies ∧
    responders threeReplies =
      responders [.reply ⟨10, 0, 0, 8⟩ lateReply, .reply ⟨10, 0, 0, 7⟩ lateReply] := by
  obtain ⟨hfound, -, hreorder, hdrop, -⟩ := replies_attributed threeReplies
  have hblank : locationInBytes? blankReply = none := by decide +kernel
  have hlate : locationInBytes? lateReply = some "http://10.0.0.7/".toList := by decide +kernel
  have hsame : ∀ origin, repliesFrom origin [.reply ⟨10, 0, 0, 8⟩ lateReply,
      .reply ⟨10, 0, 0, 7⟩ blankReply, .reply ⟨10, 0, 0, 7⟩ lateReply] = repliesFrom origin threeReplies := by
    intro origin
    by_cases horigin : (⟨10, 0, 0, 7⟩ : Address) = origin
    · subst horigin
      rfl
    · simp [threeReplies, repliesFrom, horigin]
  refine ⟨hsame, hblank, ?_, hreorder _ hsame, hdrop [] _ _ _ rfl hblank⟩
  exact (hfound _ _).mpr ⟨[blankReply], lateReply, [], rfl, hlate, by simpa using hblank⟩

end LanCensus.Detect
