/-
Pages of the form that the AtCoder fetcher expects. A page is put together from its
parts, each of which is free of the tags that end what it stands in; the fetcher then reads
off one contest for each row, whatever else the parts hold.
-/

import ContestSync.AtcoderScraper

namespace ContestSync.Atcoder

open Scan

open Scan (index slice sliceFrom sliceTo)
open Telegram (Bytes literal isSpace)

/-! ### Elements -/

def element (opening attributes content closing : Bytes) : Bytes :=
  opening ++ (attributes ++ (tagEnd ++ (content ++ closing)))

/-- The searches for an element in a text, and the parts that are cut out after them. -/
structure Element (text before opening attributes content closing after : Bytes) : Prop where
  openAt : index opening text = some before.length
  tag : ∃ rest, sliceFrom before.length text = some rest ∧
    index tagEnd rest = some (opening.length + attributes.length)
  body : ∃ rest, sliceFrom (before.length + (opening.length + attributes.length) + 1) text =
      some rest ∧ index closing rest = some content.length
  inside : slice (before.length + (opening.length + attributes.length) + 1)
    (before.length + (opening.length + attributes.length) + 1 + content.length) text = some content
  rest : sliceFrom (before.length + (opening.length + attributes.length) + 1 + content.length +
    closing.length) text = some after

variable {before attributes : Bytes} {byte : UInt8} {char : Char} {row : Row}

theorem element_found {opening content closing : Bytes} (after : Bytes)
    (openSingle : Scan.Single opening) (openTag : 62 ∉ opening)
    (closeSingle : Scan.Single closing) (first : ¬opening <:+: before)
    (oneTag : 62 ∉ attributes) (uncut : ¬closing <:+: content) :
    Element (before ++ (element opening attributes content closing ++ after)) before opening
      attributes content closing after := by
  have flat : element opening attributes content closing ++ after =
      opening ++ (attributes ++ (tagEnd ++ (content ++ (closing ++ after)))) := by
    simp only [element, List.append_assoc]
  rw [flat]
  have single : Scan.Single tagEnd := by decide
  have absent : ¬tagEnd <:+: opening ++ attributes := by
    change ¬[62] <:+: opening ++ attributes
    rw [List.singleton_infix_iff, List.mem_append, not_or]
    exact ⟨openTag, oneTag⟩
  -- The text up to the content, in one piece.
  have regroup : ∀ rest, before ++ (opening ++ (attributes ++ (tagEnd ++ rest))) =
      (before ++ (opening ++ (attributes ++ tagEnd))) ++ rest := by
    intro rest
    simp only [List.append_assoc]
  have size : before.length + (opening.length + attributes.length) + 1 =
      (before ++ (opening ++ (attributes ++ tagEnd))).length := by
    simp only [List.length_append, length_tagEnd]
    omega
  constructor
  · exact index_single openSingle first _
  · refine ⟨_, sliceFrom_append before _ rfl, ?_⟩
    have found := index_single single absent (content ++ (closing ++ after))
    rw [List.length_append, List.append_assoc] at found
    exact found
  · refine ⟨content ++ (closing ++ after), ?_, index_single closeSingle uncut after⟩
    rw [regroup]
    exact sliceFrom_append _ _ size
  · rw [regroup]
    exact slice_middle _ content _ size (by rw [← size])
  · rw [regroup, ← List.append_assoc content, ← List.append_assoc]
    apply sliceFrom_append
    simp only [List.length_append, length_tagEnd]
    omega

theorem cellLoop_cell {filler content : Bytes} (fuel : Nat) (rest : Bytes)
    (cells : List Bytes) (first : ¬cellOpen <:+: filler) (oneTag : 62 ∉ attributes)
    (uncut : ¬cellClose <:+: content) :
    cellLoop (fuel + 1) (filler ++ (element cellOpen attributes content cellClose ++ rest)) cells =
      cellLoop fuel rest (cells ++ [content]) := by
  have found := element_found rest (show Scan.Single cellOpen by decide) (by decide)
    (show Scan.Single cellClose by decide) first oneTag uncut
  obtain ⟨tag, tagged, ended⟩ := found.tag
  obtain ⟨body, opened, closed⟩ := found.body
  have inside := found.inside
  have after := found.rest
  rw [length_cellOpen] at ended opened inside after
  rw [length_cellClose] at after
  simp only [cellLoop, found.openAt, tagged, ended, opened, closed, inside, after,
    Option.bind_eq_bind, Option.bind_some]

theorem extractHrefText_anchor {content : Bytes} (after : Bytes)
    (first : ¬anchorOpen <:+: before) (oneTag : 62 ∉ attributes)
    (uncut : ¬anchorClose <:+: content) :
    extractHrefText (before ++ (element anchorOpen attributes content anchorClose ++ after)) =
      some content := by
  have found := element_found after (show Scan.Single anchorOpen by decide) (by decide)
    (show Scan.Single anchorClose by decide) first oneTag uncut
  obtain ⟨tag, tagged, ended⟩ := found.tag
  obtain ⟨body, opened, closed⟩ := found.body
  have inside := found.inside
  rw [length_anchorOpen] at ended opened inside
  simp only [extractHrefText, found.openAt, tagged, ended, opened, closed, inside,
    Option.bind_eq_bind, Option.bind_some]

theorem extractHref_quoted {href : Bytes} (after : Bytes)
    (first : ¬hrefOpen <:+: before) (unquoted : 34 ∉ href) :
    extractHref (before ++ (hrefOpen ++ (href ++ (quote ++ after)))) = some href := by
  have opened : index hrefOpen (before ++ (hrefOpen ++ (href ++ (quote ++ after)))) =
      some before.length := index_single (by decide) first _
  have absent : ¬quote <:+: href := by
    change ¬[34] <:+: href
    rw [List.singleton_infix_iff]
    exact unquoted
  have closed : index quote (href ++ (quote ++ after)) = some href.length :=
    index_single (by decide) absent after
  have size : before.length + 6 = (before ++ hrefOpen).length := by
    rw [List.length_append, length_hrefOpen]
  have value : sliceFrom (before.length + 6) (before ++ (hrefOpen ++ (href ++ (quote ++ after)))) =
      some (href ++ (quote ++ after)) := by
    rw [← List.append_assoc before]
    exact sliceFrom_append _ _ size
  have inside : slice (before.length + 6) (before.length + 6 + href.length)
      (before ++ (hrefOpen ++ (href ++ (quote ++ after)))) = some href := by
    rw [← List.append_assoc before]
    exact slice_middle _ href _ size (by rw [← size])
  simp only [extractHref, opened, value, closed, inside, Option.bind_eq_bind, Option.bind_some]

/-! ### Times in links -/

/-- A valid `YYYYMMDDThhmm`. -/
structure Stamp where
  year : Nat
  month : Nat
  day : Nat
  hour : Nat
  minute : Nat
  yearBound : year < 10000
  monthBound : 1 ≤ month ∧ month ≤ 12
  dayBound : 1 ≤ day ∧ day ≤ TimeLayout.daysIn year month
  hourBound : hour < 24
  minuteBound : minute < 60

def Stamp.bytes (stamp : Stamp) : Bytes :=
  TimeLayout.fourDigits stamp.year ++ (TimeLayout.twoDigits stamp.month ++
    (TimeLayout.twoDigits stamp.day ++ (84 :: (TimeLayout.twoDigits stamp.hour ++
      TimeLayout.twoDigits stamp.minute))))

/-- The seconds from the epoch to that minute, in UTC. -/
def Stamp.unix (stamp : Stamp) : Int :=
  TimeLayout.daysFromCivil stamp.year stamp.month stamp.day * 86400 + stamp.hour * 3600 +
    stamp.minute * 60

theorem daysIn_le (year month : Nat) : TimeLayout.daysIn year month ≤ 31 := by
  unfold TimeLayout.daysIn
  split_ifs <;> omega

theorem Stamp.parse (stamp : Stamp) :
    TimeLayout.parse stampLayout stamp.bytes = some stamp.unix := by
  have monthBound := stamp.monthBound
  have dayBound := stamp.dayBound
  have hourBound := stamp.hourBound
  have minuteBound := stamp.minuteBound
  have longest := daysIn_le stamp.year stamp.month
  have last := TimeLayout.getnum_twoDigits true (show stamp.minute < 100 by omega) []
  rw [List.append_nil] at last
  have chunks : TimeLayout.readChunks stampLayout .initial stamp.bytes =
      some (⟨stamp.year, stamp.month, stamp.day, stamp.hour, stamp.minute, 0, 0⟩, []) := by
    simp only [stampLayout, Stamp.bytes, TimeLayout.readChunks, TimeLayout.Chunk.read,
      TimeLayout.getYear_fourDigits stamp.yearBound,
      TimeLayout.getnum_twoDigits true (show stamp.month < 100 by omega),
      TimeLayout.getnum_twoDigits true (show stamp.day < 100 by omega),
      TimeLayout.getnum_twoDigits false (show stamp.hour < 100 by omega), last,
      Option.map_some, Option.bind_some, if_true,
      if_neg (show ¬(stamp.month = 0 ∨ 12 < stamp.month) by omega),
      if_neg (show ¬24 ≤ stamp.hour by omega), if_neg (show ¬60 ≤ stamp.minute by omega),
      TimeLayout.Fields.initial]
  rw [TimeLayout.parse, chunks]
  simp only
  rw [if_neg (by omega), TimeLayout.Fields.unix, Stamp.unix]
  simp

theorem digitByte_ne {digit : Nat} (small : digit < 10)
    (other : byte.toNat < 48 ∨ 58 ≤ byte.toNat) : byte ≠ TimeLayout.digitByte digit := by
  intro same
  have value := TimeLayout.toNat_digitByte small
  rw [← same] at value
  omega

theorem Stamp.notMem (stamp : Stamp)
    (other : byte.toNat < 48 ∨ 58 ≤ byte.toNat) (notT : byte ≠ 84) : byte ∉ stamp.bytes := by
  have yearBound := stamp.yearBound
  have monthBound := stamp.monthBound
  have dayBound := stamp.dayBound
  have hourBound := stamp.hourBound
  have minuteBound := stamp.minuteBound
  have longest := daysIn_le stamp.year stamp.month
  simp only [Stamp.bytes, TimeLayout.fourDigits, TimeLayout.twoDigits, List.mem_append,
    List.mem_cons, List.not_mem_nil, or_false, not_or]
  repeat' apply And.intro
  all_goals first | exact notT | exact digitByte_ne (by omega) other

structure TimeCell where
  before : Bytes
  path : Bytes
  stamp : Stamp
  -- What follows an ampersand.
  more : Option Bytes
  after : Bytes
  firstHref : ¬hrefOpen <:+: before
  firstMark : ¬isoMark <:+: path
  unquotedPath : 34 ∉ path
  unquotedMore : ∀ text, more = some text → 34 ∉ text

variable (cell : TimeCell)

def TimeCell.query : Bytes :=
  match cell.more with
  | none => []
  | some text => 38 :: text

def TimeCell.href : Bytes :=
  cell.path ++ (isoMark ++ (cell.stamp.bytes ++ cell.query))

def TimeCell.content : Bytes :=
  cell.before ++ (hrefOpen ++ (cell.href ++ (quote ++ cell.after)))

theorem TimeCell.unquoted : 34 ∉ cell.href := by
  simp only [TimeCell.href, List.mem_append, not_or]
  refine ⟨cell.unquotedPath, by decide, cell.stamp.notMem (by decide) (by decide), ?_⟩
  rw [TimeCell.query]
  cases rest : cell.more with
  | none => exact List.not_mem_nil
  | some text =>
    have unquoted := cell.unquotedMore text rest
    simp [unquoted]

theorem TimeCell.href_ne_nil : cell.href ≠ [] := by
  intro empty
  have size := congrArg List.length empty
  simp [TimeCell.href] at size

theorem TimeCell.linkedTime :
    linkedTime cell.href = some (some cell.stamp.unix) := by
  have marked : index isoMark cell.href = some cell.path.length :=
    index_single (by decide) cell.firstMark _
  have value : sliceFrom (cell.path.length + 5) cell.href =
      some (cell.stamp.bytes ++ cell.query) := by
    rw [TimeCell.href, ← List.append_assoc]
    apply sliceFrom_append
    rw [List.length_append, length_isoMark]
  simp only [Atcoder.linkedTime, marked, value, Option.bind_eq_bind, Option.bind_some]
  have absent : ¬ampersand <:+: cell.stamp.bytes := by
    change ¬[38] <:+: cell.stamp.bytes
    rw [List.singleton_infix_iff]
    exact cell.stamp.notMem (by decide) (by decide)
  cases rest : cell.more with
  | none =>
    have none : index ampersand (cell.stamp.bytes ++ cell.query) = none := by
      rw [TimeCell.query, rest, List.append_nil]
      exact index_eq_none_iff.mpr absent
    simp only [none]
    rw [TimeCell.query, rest, List.append_nil, cell.stamp.parse]
  | some text =>
    have query : cell.query = ampersand ++ text := by
      rw [TimeCell.query, rest]
      rfl
    have found : index ampersand (cell.stamp.bytes ++ cell.query) =
        some cell.stamp.bytes.length := by
      rw [query]
      exact index_single (by decide) absent text
    simp only [found, sliceTo_append _ _ rfl, Option.bind_some, cell.stamp.parse]

/-! ### Names and durations -/

theorem withoutTags_plain {text : List Char} (noOpen : '<' ∉ text) (noClose : '>' ∉ text) :
    withoutTags false text = text := by
  induction text with
  | nil => rfl
  | cons char rest ih =>
    rw [List.mem_cons, not_or] at noOpen noClose
    rw [withoutTags, if_neg (Ne.symm noOpen.1), if_neg (Ne.symm noClose.1),
      if_neg Bool.false_ne_true, ih noOpen.2 noClose.2]

theorem stripTags_plain {text : List Char} (noOpen : '<' ∉ text) (noClose : '>' ∉ text) :
    stripTags (Utf8.encode text) = trimSpace text := by
  rw [stripTags, Utf8.runes_encode, withoutTags_plain noOpen noClose]

theorem trimSpace_eq_nil_iff (text : List Char) :
    trimSpace text = [] ↔ ∀ char ∈ text, isSpace char = true := by
  rw [trimSpace, List.rdropWhile_eq_nil_iff]
  constructor
  · intro blank char member
    rw [← List.takeWhile_append_dropWhile (p := isSpace) (l := text)] at member
    rcases List.mem_append.mp member with lead | rest
    · exact List.mem_takeWhile_imp lead
    · exact blank char rest
  · intro blank char member
    exact blank char ((List.dropWhile_sublist isSpace).mem member)

theorem trimSpace_of_visible {text : List Char} (visible : ∀ char ∈ text, isSpace char = false) :
    trimSpace text = text := by
  have front : text.dropWhile isSpace = text := by
    cases text with
    | nil => rfl
    | cons char rest =>
      rw [List.dropWhile_cons_of_neg]
      rw [visible char List.mem_cons_self]
      exact Bool.false_ne_true
  rw [trimSpace, front, List.rdropWhile_eq_self_iff]
  intro nonempty
  rw [visible _ (List.getLast_mem nonempty)]
  exact Bool.false_ne_true

structure NameCell where
  before : Bytes
  attributes : Bytes
  name : List Char
  after : Bytes
  firstAnchor : ¬anchorOpen <:+: before
  oneTag : 62 ∉ attributes
  noOpen : '<' ∉ name
  noClose : '>' ∉ name
  visible : ∃ char ∈ name, isSpace char = false

def NameCell.content (cell : NameCell) : Bytes :=
  cell.before ++ (element anchorOpen cell.attributes (Utf8.encode cell.name) anchorClose ++
    cell.after)

theorem NameCell.extractHrefText (cell : NameCell) :
    extractHrefText cell.content = some (Utf8.encode cell.name) := by
  apply extractHrefText_anchor cell.after cell.firstAnchor cell.oneTag
  intro found
  have tag : (60 : UInt8) ∈ Utf8.encode cell.name := found.subset (by decide)
  exact Utf8.notMem_encode (by decide) (by decide) cell.noOpen tag

theorem NameCell.name_ne_nil (cell : NameCell) : trimSpace cell.name ≠ [] := by
  rw [Ne, trimSpace_eq_nil_iff]
  intro blank
  obtain ⟨char, member, visible⟩ := cell.visible
  rw [blank char member] at visible
  cases visible

/-- The content of the third cell: two numbers that do not make the duration overflow. -/
structure DurationCell where
  hours : List Char
  minutes : List Char
  hourDigits : ∀ char ∈ hours, char.isDigit = true
  minuteDigits : ∀ char ∈ minutes, char.isDigit = true
  hoursGiven : hours ≠ []
  minutesGiven : minutes ≠ []
  small : 3600000000000 * Nat.ofDigitChars 10 hours 0 +
    60000000000 * Nat.ofDigitChars 10 minutes 0 < 2 ^ 63

variable (cell : DurationCell)

def DurationCell.text : List Char :=
  cell.hours ++ ([':'] ++ cell.minutes)

def DurationCell.content : Bytes :=
  Utf8.encode cell.text

def DurationCell.seconds : Int :=
  3600 * (Nat.ofDigitChars 10 cell.hours 0 : Nat) + 60 * (Nat.ofDigitChars 10 cell.minutes 0 : Nat)

theorem ne_of_isDigit {other : Char} (digit : char.isDigit = true)
    (different : other.isDigit = false) : char ≠ other := by
  rintro rfl
  rw [digit] at different
  cases different

theorem isSpace_of_isDigit (digit : char.isDigit = true) :
    isSpace char = false := by
  have bound := (Char.isDigit_iff_toNat.mp digit).2
  rw [isSpace, decide_eq_false_iff_not, not_or]
  constructor
  · intro member
    have others : (['\t', '\n', '\x0b', '\x0c', '\r', ' ', '\u0085', '\u00a0', '\u1680', '\u2028',
        '\u2029', '\u202f', '\u205f', '\u3000'].all (fun space => !space.isDigit)) = true := by
      decide
    have other := List.all_eq_true.mp others char member
    rw [digit] at other
    cases other
  · rintro ⟨lower, _⟩
    have order : '\u2000'.toNat ≤ char.toNat := lower
    have ends : '9'.toNat < '\u2000'.toNat := by decide
    omega

theorem DurationCell.mem_text (member : char ∈ cell.text) :
    char.isDigit = true ∨ char = ':' := by
  simp only [DurationCell.text, List.mem_append, List.mem_singleton] at member
  rcases member with hour | colon | minute
  · exact Or.inl (cell.hourDigits char hour)
  · exact Or.inr colon
  · exact Or.inl (cell.minuteDigits char minute)

theorem DurationCell.notMem (other : char.isDigit = false)
    (notColon : char ≠ ':') : char ∉ cell.text := by
  intro member
  rcases cell.mem_text member with digit | colon
  · rw [digit] at other
    cases other
  · exact notColon colon

theorem DurationCell.stripTags : stripTags cell.content = cell.text := by
  rw [DurationCell.content, stripTags_plain (cell.notMem (by decide) (by decide))
    (cell.notMem (by decide) (by decide))]
  apply trimSpace_of_visible
  intro char member
  rcases cell.mem_text member with digit | rfl
  · exact isSpace_of_isDigit digit
  · decide

theorem DurationCell.uncut : ¬cellClose <:+: cell.content := by
  intro found
  have noTag : '<' ∉ cell.text := cell.notMem (by decide) (by decide)
  have tag : (60 : UInt8) ∈ Utf8.encode cell.text := found.subset (by decide)
  exact Utf8.notMem_encode (by decide) (by decide) noTag tag

theorem DurationCell.hoursAndMinutes :
    hoursAndMinutes cell.text = some (some (((Nat.ofDigitChars 10 cell.hours 0 : Nat) : Int),
      ((Nat.ofDigitChars 10 cell.minutes 0 : Nat) : Int))) := by
  have small := cell.small
  have absent : ¬[':'] <:+: cell.hours := by
    rw [List.singleton_infix_iff]
    intro member
    exact ne_of_isDigit (cell.hourDigits ':' member) (by decide) rfl
  have separated : index [':'] cell.text = some cell.hours.length :=
    index_single (by decide) absent cell.minutes
  have first : sliceTo cell.hours.length cell.text = some cell.hours :=
    sliceTo_append _ _ rfl
  have second : sliceFrom (cell.hours.length + 1) cell.text = some cell.minutes := by
    rw [DurationCell.text, ← List.append_assoc]
    apply sliceFrom_append
    simp
  simp only [Atcoder.hoursAndMinutes, separated, first, second, Option.bind_eq_bind,
    Option.bind_some, Numerals.atoi]
  rw [Numerals.parseInt_digits cell.hourDigits cell.hoursGiven (by omega),
    Numerals.parseInt_digits cell.minuteDigits cell.minutesGiven (by omega)]

/-! ### Rows and pages -/

structure Row where
  lead : Bytes
  timeAttributes : Bytes
  time : TimeCell
  afterTime : Bytes
  nameAttributes : Bytes
  name : NameCell
  afterName : Bytes
  durationAttributes : Bytes
  duration : DurationCell
  trail : Bytes
  -- What stands between this row and the next.
  gap : Bytes

def Row.inner (row : Row) : Bytes :=
  row.lead ++ (element cellOpen row.timeAttributes row.time.content cellClose ++
    (row.afterTime ++ (element cellOpen row.nameAttributes row.name.content cellClose ++
      (row.afterName ++ (element cellOpen row.durationAttributes row.duration.content cellClose ++
        row.trail)))))

def Row.text (row : Row) : Bytes :=
  rowOpen ++ (row.inner ++ (rowClose ++ row.gap))

/-- No part of the row has a tag that ends, or starts anew, what the part stands in. -/
structure Row.WellFormed (row : Row) : Prop where
  lead : ¬cellOpen <:+: row.lead
  timeAttributes : 62 ∉ row.timeAttributes
  timeContent : ¬cellClose <:+: row.time.content
  afterTime : ¬cellOpen <:+: row.afterTime
  nameAttributes : 62 ∉ row.nameAttributes
  nameContent : ¬cellClose <:+: row.name.content
  afterName : ¬cellOpen <:+: row.afterName
  durationAttributes : 62 ∉ row.durationAttributes
  inner : ¬rowClose <:+: row.inner
  gap : ¬rowOpen <:+: row.gap
  whole : ¬tableClose <:+: row.text

def Row.listing (row : Row) : Listing :=
  ⟨row.time.href, trimSpace row.name.name, row.time.stamp.unix,
    (Nat.ofDigitChars 10 row.duration.hours 0 : Nat),
    (Nat.ofDigitChars 10 row.duration.minutes 0 : Nat)⟩

def Row.contest (row : Row) : AtcoderContest :=
  { id := generateContestID "atcoder" row.time.stamp.unix
    name := String.ofList (trimSpace row.name.name)
    url := literal "https://atcoder.jp" ++ row.time.href
    startTime := row.time.stamp.unix
    endTime := row.time.stamp.unix + row.duration.seconds
    duration := row.duration.seconds
    platform := "atcoder" }

theorem Row.extractCells (wellFormed : row.WellFormed) :
    ∃ others, extractCells row.inner =
      some (row.time.content :: row.name.content :: row.duration.content :: others) := by
  have enough : ∃ fuel, row.inner.length + 1 = fuel + 1 + 1 + 1 ∧ row.trail.length < fuel := by
    refine ⟨row.inner.length - 2, ?_, ?_⟩
    all_goals
      simp only [Row.inner, element, List.length_append, length_cellOpen, length_cellClose,
        length_tagEnd]
      omega
  obtain ⟨fuel, rounds, long⟩ := enough
  obtain ⟨others, rest⟩ := cellLoop_total long
    [row.time.content, row.name.content, row.duration.content]
  refine ⟨others, ?_⟩
  rw [Atcoder.extractCells, rounds, Row.inner,
    cellLoop_cell _ _ _ wellFormed.lead wellFormed.timeAttributes wellFormed.timeContent,
    cellLoop_cell _ _ _ wellFormed.afterTime wellFormed.nameAttributes wellFormed.nameContent,
    cellLoop_cell _ _ _ wellFormed.afterName wellFormed.durationAttributes row.duration.uncut]
  exact rest

theorem Row.readRow (wellFormed : row.WellFormed) :
    readRow row.inner = some (some row.listing) := by
  obtain ⟨others, cells⟩ := Row.extractCells wellFormed
  have href : extractHref row.time.content = some row.time.href :=
    extractHref_quoted row.time.after row.time.firstHref row.time.unquoted
  have named : stripTags (Utf8.encode row.name.name) = trimSpace row.name.name :=
    stripTags_plain row.name.noOpen row.name.noClose
  simp only [Atcoder.readRow, cells, href, row.time.linkedTime, row.duration.stripTags,
    row.duration.hoursAndMinutes, row.name.extractHrefText, named, if_neg row.time.href_ne_nil,
    if_neg row.name.name_ne_nil, Option.bind_eq_bind, Option.bind_some]
  rfl

theorem rowLoop_rows {fuel : Nat} {rows : List Row} {gap : Bytes} {listings : List Listing}
    (wellFormed : ∀ row ∈ rows, row.WellFormed) (clean : ¬rowOpen <:+: gap)
    (enough : rows.length < fuel) :
    rowLoop fuel (gap ++ rows.flatMap Row.text) listings =
      some (listings ++ rows.map Row.listing) := by
  induction rows generalizing fuel gap listings with
  | nil =>
    cases fuel with
    | zero => exact absurd enough (Nat.not_lt_zero _)
    | succ fuel =>
      rw [List.flatMap_nil, List.append_nil, rowLoop, index_eq_none_iff.mpr clean]
      simp
  | cons row rows ih =>
    cases fuel with
    | zero => exact absurd enough (Nat.not_lt_zero _)
    | succ fuel =>
      rw [List.forall_mem_cons] at wellFormed
      have text : gap ++ (row :: rows).flatMap Row.text =
          gap ++ (rowOpen ++ (row.inner ++ (rowClose ++ (row.gap ++ rows.flatMap Row.text)))) := by
        rw [List.flatMap_cons, Row.text]
        simp only [List.append_assoc]
      have opened := index_single (show Scan.Single rowOpen by decide) clean
        (row.inner ++ (rowClose ++ (row.gap ++ rows.flatMap Row.text)))
      have closed := index_single (show Scan.Single rowClose by decide)
        wellFormed.1.inner (row.gap ++ rows.flatMap Row.text)
      have inside : sliceFrom (gap.length + 4) (gap ++ (rowOpen ++ (row.inner ++ (rowClose ++
          (row.gap ++ rows.flatMap Row.text))))) =
          some (row.inner ++ (rowClose ++ (row.gap ++ rows.flatMap Row.text))) := by
        rw [← List.append_assoc gap]
        apply sliceFrom_append
        rw [List.length_append, length_rowOpen]
      have rest : sliceFrom (row.inner.length + 5) (row.inner ++ (rowClose ++
          (row.gap ++ rows.flatMap Row.text))) = some (row.gap ++ rows.flatMap Row.text) := by
        rw [← List.append_assoc row.inner]
        apply sliceFrom_append
        rw [List.length_append, length_rowClose]
      rw [List.length_cons] at enough
      simp only [text, rowLoop, opened, inside, closed, sliceTo_append _ _ rfl, rest,
        Row.readRow wellFormed.1, Option.bind_eq_bind, Option.bind_some]
      rw [ih wellFormed.2 wellFormed.1.gap (by omega), List.map_cons, List.append_assoc]
      rfl

/-- The listing of a row makes the contest of the row: its duration does not overflow. -/
theorem Row.contest_listing (row : Row) : row.listing.contest = row.contest := by
  have small := row.duration.small
  have duration : row.listing.duration = row.duration.seconds * 1000000000 := by
    simp only [Listing.duration, Row.listing, DurationCell.seconds]
    rw [Int.bmod_eq_of_le (n := (Nat.ofDigitChars 10 row.duration.hours 0 : Nat) * 3600000000000)
        (by omega) (by omega),
      Int.bmod_eq_of_le (n := (Nat.ofDigitChars 10 row.duration.minutes 0 : Nat) * 60000000000)
        (by omega) (by omega),
      Int.bmod_eq_of_le (by omega) (by omega)]
    omega
  rw [Listing.contest, duration, Row.contest,
    Int.mul_ediv_cancel _ (by decide), Int.mul_tdiv_cancel _ (by decide)]
  rfl

structure Page where
  first : Bytes
  second : Bytes
  -- What stands before the first row.
  lead : Bytes
  rows : List Row
  suffix : Bytes
  firstClean : ¬tableOpen <:+: first
  secondClean : ¬tableOpen <:+: second
  leadRow : ¬rowOpen <:+: lead
  leadTable : ¬tableClose <:+: lead
  wellFormed : ∀ row ∈ rows, row.WellFormed

def Page.table (page : Page) : Bytes :=
  page.lead ++ page.rows.flatMap Row.text

def Page.text (page : Page) : Bytes :=
  page.first ++ (tableOpen ++ (page.second ++ (tableOpen ++ (page.table ++
    (tableClose ++ page.suffix)))))

theorem Page.layout (page : Page) :
    Layout page.text page.first page.second page.table page.suffix := by
  have single : Scan.Single tableOpen := by decide
  constructor
  · rfl
  · exact index_single single page.firstClean _
  · exact index_single single page.secondClean _
  · apply index_single (by decide)
    apply Scan.Single.not_infix_append_flatMap (by decide) _ page.leadTable
    · intro row member
      exact (page.wellFormed row member).whole
    · intro row _
      rfl

theorem length_le_flatMap_text (rows : List Row) :
    rows.length ≤ (rows.flatMap Row.text).length := by
  induction rows with
  | nil => exact Nat.le_refl _
  | cons row rows ih =>
    rw [List.flatMap_cons, List.length_cons, List.length_append, Row.text, List.length_append,
      length_rowOpen]
    omega

theorem Page.readTable (page : Page) :
    readTable page.table = some (page.rows.map Row.listing) := by
  have bound := length_le_flatMap_text page.rows
  have enough : page.rows.length < page.table.length + 1 := by
    rw [Page.table, List.length_append]
    omega
  exact rowLoop_rows page.wellFormed page.leadRow enough

theorem Page.contestsOf (page : Page) :
    contestsOf page.text = some (.ok (page.rows.map Row.contest)) := by
  have contests : page.rows.map (Listing.contest ∘ Row.listing) = page.rows.map Row.contest := by
    apply List.map_congr_left
    intro row _
    exact row.contest_listing
  rw [Atcoder.contestsOf, listingsOf_layout page.layout, page.readTable]
  simp only [Option.map_some, Except.map, List.map_map, contests]

/-- A page of the form that the fetcher expects is read off completely: one contest for each
row, in the order of the rows. -/
theorem page_read_back (page : Page) :
    contestsOf page.text = some (.ok (page.rows.map Row.contest)) ∧
      (page.text.length ≤ maxResponseSize →
        fetchAtcoderContests page.text = some (.ok (page.rows.map Row.contest))) := by
  refine ⟨page.contestsOf, ?_⟩
  intro short
  rw [fetchAtcoderContests, List.take_of_length_le short, page.contestsOf]

def sampleRow : Row where
  lead := literal "\n"
  timeAttributes := literal " class=\"time\""
  time :=
    { before := literal "<a "
      path := literal "/fixed"
      stamp := ⟨2025, 1, 31, 9, 30, by decide, by decide, by decide, by decide, by decide⟩
      more := some (literal "p1=248")
      after := literal ">Fri</a>"
      firstHref := by decide
      firstMark := by decide
      unquotedPath := by decide
      unquotedMore := by
        intro text same
        rw [← Option.some.inj same]
        decide }
  afterTime := []
  nameAttributes := []
  name :=
    { before := literal "<b>"
      attributes := literal " href=\"/contests/abc\""
      name := " Round é ".toList
      after := literal "</b>"
      firstAnchor := by decide
      oneTag := by decide
      noOpen := by decide
      noClose := by decide
      visible := ⟨'R', by decide, by decide⟩ }
  afterName := literal "<!-- </t -->"
  durationAttributes := []
  duration :=
    { hours := ['0', '1']
      minutes := ['4', '0']
      hourDigits := List.all_eq_true.mp (by decide)
      minuteDigits := List.all_eq_true.mp (by decide)
      hoursGiven := by decide
      minutesGiven := by decide
      small := by decide }
  trail := literal "<td>~ 1999</td>"
  gap := literal "\n"

def samplePage : Page where
  first := []
  second := literal "</tbody>"
  lead := literal "\n"
  rows := [sampleRow]
  suffix := []
  firstClean := by decide
  secondClean := by decide
  leadRow := by decide
  leadTable := by decide
  wellFormed := by
    intro row member
    rw [List.mem_singleton.mp member]
    constructor <;> decide +kernel

theorem page_read_back_sample :
    contestsOf samplePage.text = some (.ok [{
      id := generateContestID "atcoder" 1738315800
      name := "Round é"
      url := literal "https://atcoder.jp" ++ sampleRow.time.href
      startTime := 1738315800
      endTime := 1738315800 + 6000
      duration := 6000
      platform := "atcoder" }]) := by
  have start : sampleRow.time.stamp.unix = 1738315800 := by decide
  have seconds : sampleRow.duration.seconds = 6000 := by decide
  have name : trimSpace sampleRow.name.name = "Round é".toList := by decide
  rw [(page_read_back samplePage).1]
  simp only [samplePage, List.map_cons, List.map_nil, Row.contest, start, seconds, name,
    String.ofList_toList]

end ContestSync.Atcoder
