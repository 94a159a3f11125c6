/-
The iCalendar feed. Texts of a row reach the feed in five properties of its event;
three of them are escaped, the identifier and the link are not. The feed is split at
its line ends and compared with the lines that it is meant to have.
-/

import ContestSync.Models
import ContestSync.TextLines

namespace ContestSync.ICal

abbrev Text := List Char

/-! ### Escaping -/

/-- `strings.ReplaceAll`, for an old string of one character. -/
def replaceAll (old : Char) (new : Text) (text : Text) : Text :=
  text.flatMap (fun character => if character = old then new else [character])

def escapeICalText (text : Text) : Text :=
  let text := replaceAll '\\' ['\\', '\\'] text
  let text := replaceAll ';' ['\\', ';'] text
  let text := replaceAll ',' ['\\', ','] text
  let text := replaceAll '\n' ['\\', 'n'] text
  replaceAll '\r' [] text

/-- How a reader of the feed takes a text value. -/
def unescapeICalText : Text → Text
  | '\\' :: '\\' :: rest => '\\' :: unescapeICalText rest
  | '\\' :: ';' :: rest => ';' :: unescapeICalText rest
  | '\\' :: ',' :: rest => ',' :: unescapeICalText rest
  | '\\' :: 'n' :: rest => '\n' :: unescapeICalText rest
  | character :: rest => character :: unescapeICalText rest
  | [] => []

def withoutReturns (text : Text) : Text :=
  text.filter (fun character => character ≠ '\r')

theorem replaceAll_append (old : Char) (new left right : Text) :
    replaceAll old new (left ++ right) = replaceAll old new left ++ replaceAll old new right :=
  List.flatMap_append

theorem escapeICalText_append (left right : Text) :
    escapeICalText (left ++ right) = escapeICalText left ++ escapeICalText right := by
  simp only [escapeICalText, replaceAll_append]

/-- The five passes do not see what an earlier one has put in. -/
theorem escapeICalText_singleton (character : Char) :
    escapeICalText [character] =
      if character = '\\' then ['\\', '\\']
      else if character = ';' then ['\\', ';']
      else if character = ',' then ['\\', ',']
      else if character = '\n' then ['\\', 'n']
      else if character = '\r' then []
      else [character] := by
  by_cases backslash : character = '\\'
  · subst backslash
    rfl
  by_cases semicolon : character = ';'
  · subst semicolon
    rfl
  by_cases comma : character = ','
  · subst comma
    rfl
  by_cases newline : character = '\n'
  · subst newline
    rfl
  by_cases carriage : character = '\r'
  · subst carriage
    rfl
  simp [escapeICalText, replaceAll, *]

variable {character : Char}

theorem unescapeICalText_plain (plain : character ≠ '\\') (rest : Text) :
    unescapeICalText (character :: rest) = character :: unescapeICalText rest := by
  rw [unescapeICalText]
  all_goals
    intros
    contradiction

theorem unescape_singleton_append (character : Char) (rest : Text) :
    unescapeICalText (escapeICalText [character] ++ rest) =
      withoutReturns [character] ++ unescapeICalText rest := by
  rw [escapeICalText_singleton]
  split
  · next same => subst same; rfl
  split
  · next same => subst same; rfl
  split
  · next same => subst same; rfl
  split
  · next same => subst same; rfl
  split
  · next same => subst same; rfl
  · next backslash _ _ _ carriage =>
      rw [List.singleton_append, unescapeICalText_plain backslash]
      simp [withoutReturns, carriage]

theorem unescape_escape (text : Text) :
    unescapeICalText (escapeICalText text) = withoutReturns text := by
  induction text with
  | nil => rfl
  | cons character rest ih =>
    rw [← List.singleton_append, escapeICalText_append, unescape_singleton_append, ih]
    exact (List.filter_append _ _).symm

theorem return_notMem_escape (text : Text) : '\r' ∉ escapeICalText text := by
  unfold escapeICalText replaceAll
  simp only [List.mem_flatMap, not_exists, not_and]
  intro character _
  split
  · exact List.not_mem_nil
  · next different => exact fun member => different (List.mem_singleton.mp member).symm

/-! ### Reading an escaped text -/

/-- What a reader takes at once: a backslash with one of four characters, or a character
that stands for itself. -/
inductive Symbol where
  | pair (second : Char)
  | plain (character : Char)
deriving DecidableEq

def Symbol.text : Symbol → Text
  | .pair second => ['\\', second]
  | .plain character => [character]

def Symbol.meaning : Symbol → Char
  | .pair 'n' => '\n'
  | .pair second => second
  | .plain character => character

def readSymbols : Text → List Symbol
  | '\\' :: '\\' :: rest => .pair '\\' :: readSymbols rest
  | '\\' :: ';' :: rest => .pair ';' :: readSymbols rest
  | '\\' :: ',' :: rest => .pair ',' :: readSymbols rest
  | '\\' :: 'n' :: rest => .pair 'n' :: readSymbols rest
  | character :: rest => .plain character :: readSymbols rest
  | [] => []

theorem unescapeICalText_eq (text : Text) :
    unescapeICalText text = (readSymbols text).map Symbol.meaning := by
  induction text using readSymbols.induct with
  | case1 rest ih => rw [unescapeICalText, readSymbols, ih]; rfl
  | case2 rest ih => rw [unescapeICalText, readSymbols, ih]; rfl
  | case3 rest ih => rw [unescapeICalText, readSymbols, ih]; rfl
  | case4 rest ih => rw [unescapeICalText, readSymbols, ih]; rfl
  | case5 character rest backslash semicolon comma letter ih =>
    rw [unescapeICalText, readSymbols, ih]
    · rfl
    all_goals assumption
  | case6 => rfl

theorem flatMap_text_readSymbols (text : Text) :
    (readSymbols text).flatMap Symbol.text = text := by
  induction text using readSymbols.induct with
  | case1 rest ih => rw [readSymbols, List.flatMap_cons, ih]; rfl
  | case2 rest ih => rw [readSymbols, List.flatMap_cons, ih]; rfl
  | case3 rest ih => rw [readSymbols, List.flatMap_cons, ih]; rfl
  | case4 rest ih => rw [readSymbols, List.flatMap_cons, ih]; rfl
  | case5 character rest backslash semicolon comma letter ih =>
    rw [readSymbols, List.flatMap_cons, ih]
    · rfl
    all_goals assumption
  | case6 => rfl

/-- A character that an escaped text may hold by itself. -/
def Plain (character : Char) : Prop :=
  character ∉ ['\\', ';', ',', '\n', '\r']

theorem readSymbols_plain (plain : character ≠ '\\') (rest : Text) :
    readSymbols (character :: rest) = .plain character :: readSymbols rest := by
  rw [readSymbols]
  all_goals
    intros
    contradiction

theorem mem_readSymbols_escape {text : Text} {symbol : Symbol}
    (member : symbol ∈ readSymbols (escapeICalText text)) :
    (∃ second ∈ ['\\', ';', ',', 'n'], symbol = .pair second) ∨
      ∃ character, Plain character ∧ symbol = .plain character := by
  induction text with
  | nil => cases member
  | cons character rest ih =>
    rw [← List.singleton_append, escapeICalText_append, escapeICalText_singleton] at member
    split at member
    · rcases List.mem_cons.mp member with first | later
      · exact Or.inl ⟨'\\', by decide, first⟩
      · exact ih later
    split at member
    · rcases List.mem_cons.mp member with first | later
      · exact Or.inl ⟨';', by decide, first⟩
      · exact ih later
    split at member
    · rcases List.mem_cons.mp member with first | later
      · exact Or.inl ⟨',', by decide, first⟩
      · exact ih later
    split at member
    · rcases List.mem_cons.mp member with first | later
      · exact Or.inl ⟨'n', by decide, first⟩
      · exact ih later
    split at member
    · exact ih member
    · rename_i backslash semicolon comma newline carriage
      rw [List.singleton_append, readSymbols_plain backslash] at member
      rcases List.mem_cons.mp member with first | later
      · refine Or.inr ⟨character, ?_, first⟩
        simp [Plain, backslash, semicolon, comma, newline, carriage]
      · exact ih later

theorem feed_notMem_escape (text : Text) : '\n' ∉ escapeICalText text := by
  intro member
  rw [← flatMap_text_readSymbols (escapeICalText text)] at member
  obtain ⟨symbol, present, inside⟩ := List.mem_flatMap.mp member
  rcases mem_readSymbols_escape present with ⟨second, known, rfl⟩ | ⟨character, plain, rfl⟩
  · simp only [Symbol.text, List.mem_cons, List.not_mem_nil, or_false] at inside known
    rcases inside with impossible | rfl
    · exact absurd impossible (by decide)
    · exact absurd known (by decide)
  · have same := List.mem_singleton.mp inside
    rw [← same] at plain
    exact plain (by decide)

/-- Where a text that is put together from symbols has a character which none of them
holds by itself, one of them is the pair that ends with it. -/
theorem pair_at {symbols : List Symbol} {before after : Text}
    (whole : symbols.flatMap Symbol.text = before ++ character :: after)
    (notBackslash : character ≠ '\\') (escaped : .plain character ∉ symbols) :
    ∃ earlier later, symbols = earlier ++ .pair character :: later ∧
      before = earlier.flatMap Symbol.text ++ ['\\'] := by
  induction symbols generalizing before with
  | nil => simp at whole
  | cons symbol symbols ih =>
    rw [List.mem_cons, not_or] at escaped
    rw [List.flatMap_cons] at whole
    cases symbol with
    | plain other =>
      cases before with
      | nil =>
        have same := (List.cons.inj whole).1
        rw [same] at escaped
        exact absurd rfl escaped.1
      | cons first before =>
        obtain ⟨head, tail⟩ := List.cons.inj whole
        obtain ⟨earlier, later, parts, position⟩ := ih tail escaped.2
        refine ⟨.plain other :: earlier, later, ?_, ?_⟩
        · rw [parts, List.cons_append]
        · rw [position, ← head]
          rfl
    | pair second =>
      cases before with
      | nil => exact absurd (List.cons.inj whole).1.symm notBackslash
      | cons first before =>
        obtain ⟨head, tail⟩ := List.cons.inj whole
        cases before with
        | nil =>
          have same := (List.cons.inj tail).1
          subst same
          exact ⟨[], symbols, rfl, by rw [← head]; rfl⟩
        | cons next before =>
          obtain ⟨follows, rest⟩ := List.cons.inj tail
          obtain ⟨earlier, later, parts, position⟩ := ih rest escaped.2
          refine ⟨.pair second :: earlier, later, ?_, ?_⟩
          · rw [parts, List.cons_append]
          · rw [position, ← head, ← follows]
            rfl

/-- An escaped text has no line end, a reader takes it back to the text without its carriage
returns, and each separator in it is the second character of a pair that is read. -/
theorem escapeICalText_read (text : Text) :
    '\r' ∉ escapeICalText text ∧ '\n' ∉ escapeICalText text ∧
    (readSymbols (escapeICalText text)).map Symbol.meaning = withoutReturns text ∧
    ∀ before after separator, separator ∈ [';', ','] →
      escapeICalText text = before ++ separator :: after →
      ∃ earlier later, readSymbols (escapeICalText text) = earlier ++ .pair separator :: later ∧
        before = earlier.flatMap Symbol.text ++ ['\\'] := by
  refine ⟨return_notMem_escape text, feed_notMem_escape text, ?_, ?_⟩
  · rw [← unescapeICalText_eq]
    exact unescape_escape text
  intro before after separator known split
  apply pair_at
  · rw [flatMap_text_readSymbols]
    exact split
  · intro same
    rw [same] at known
    exact absurd known (by decide)
  · intro bare
    rcases mem_readSymbols_escape bare with ⟨second, _, impossible⟩ | ⟨character, plain, same⟩
    · cases impossible
    · cases same
      simp only [List.mem_cons, List.not_mem_nil, or_false] at known
      rcases known with rfl | rfl
      · exact plain (by decide)
      · exact plain (by decide)

/-! ### Times -/

/-- The proleptic Gregorian date of a number of days since the epoch: year, month and
day. Years are counted from March here, so that a leap day ends its year. -/
def civilDate (days : Int) : Int × Nat × Nat :=
  let shifted := days + 719468
  let era := shifted / 146097
  let dayOfEra := (shifted % 146097).toNat
  let yearOfEra := (dayOfEra - dayOfEra / 1460 + dayOfEra / 36524 - dayOfEra / 146096) / 365
  let dayOfYear := dayOfEra - (365 * yearOfEra + yearOfEra / 4 - yearOfEra / 100)
  let monthFromMarch := (5 * dayOfYear + 2) / 153
  let day := dayOfYear - (153 * monthFromMarch + 2) / 5 + 1
  let year := (yearOfEra : Int) + era * 400
  if monthFromMarch < 10 then
    (year, monthFromMarch + 3, day)
  else
    (year + 1, monthFromMarch - 9, day)

def padded (width value : Nat) : Text :=
  let digits := Nat.toDigits 10 value
  List.replicate (width - digits.length) '0' ++ digits

/-- `UTC().Format("20060102T150405Z")`. -/
def formatTime (time : Timestamp) : Text :=
  let seconds := time / 1000000
  let date := civilDate (seconds / 86400)
  let secondOfDay := (seconds % 86400).toNat
  let sign := if date.1 < 0 then ['-'] else []
  sign ++ padded 4 date.1.natAbs ++ padded 2 date.2.1 ++ padded 2 date.2.2 ++ ['T'] ++
    padded 2 (secondOfDay / 3600) ++ padded 2 (secondOfDay / 60 % 60) ++
    padded 2 (secondOfDay % 60) ++ ['Z']

example : formatTime (unixTime 1709210096) = "20240229T123456Z".toList := by decide

theorem return_notMem_padded (width value : Nat) : '\r' ∉ padded width value := by
  unfold padded
  rw [List.mem_append, not_or]
  constructor
  · intro member
    exact absurd (List.eq_of_mem_replicate member) (by decide)
  · intro member
    exact absurd (Nat.isDigit_of_mem_toDigits (by decide) (by decide) member) (by decide)

theorem return_notMem_formatTime (time : Timestamp) : '\r' ∉ formatTime time := by
  unfold formatTime
  simp only [List.mem_append, not_or]
  refine ⟨⟨⟨⟨⟨⟨⟨⟨?_, return_notMem_padded _ _⟩, return_notMem_padded _ _⟩,
    return_notMem_padded _ _⟩, by decide⟩, return_notMem_padded _ _⟩, return_notMem_padded _ _⟩,
    return_notMem_padded _ _⟩, by decide⟩
  split <;> decide

/-! ### The feed -/

/-- `r.Host`; `net/http` turns down a request whose host has a line end in it. -/
structure Host where
  text : Text
  valid : '\r' ∉ text

def Host.domain (host : Host) : Text :=
  if host.text = [] then "contestsync.0xarchit.is-a.dev".toList else host.text

/-- Every `Fprintf` and `WriteString` ends its line. -/
def writeLines (lines : List Text) : Text :=
  Lines.terminated '\r' '\n' lines

def headerLines : List Text :=
  ["BEGIN:VCALENDAR".toList, "VERSION:2.0".toList,
    "PRODID:-//ContestSync//Competitive Programming Calendar Feed//EN".toList,
    "CALSCALE:GREGORIAN".toList,
    "METHOD:PUBLISH".toList,
    "X-WR-CALNAME:ContestSync Contests".toList]

section Feed

-- `strings.ToUpper` is used as it is.
variable (toUpper : String → String)

def summary (row : ContestRow) : Text :=
  ("[" ++ toUpper row.platform ++ "] " ++ row.name).toList

def description (row : ContestRow) : Text :=
  ("Platform: " ++ row.platform ++ "\nURL: " ++ row.url ++ "\n\nSynced by ContestSync").toList

def eventLines (host : Host) (now : Timestamp) (row : ContestRow) : List Text :=
  ["BEGIN:VEVENT".toList, "UID:".toList ++ (row.id.toList ++ '@' :: host.domain),
    "DTSTAMP:".toList ++ formatTime now,
    "SUMMARY:".toList ++ escapeICalText (summary toUpper row),
    "DESCRIPTION:".toList ++ escapeICalText (description row),
    "URL:".toList ++ row.url.toList,
    "LOCATION:".toList ++ escapeICalText row.url.toList,
    "DTSTART:".toList ++ formatTime row.startTime,
    "DTEND:".toList ++ formatTime row.endTime,
    "BEGIN:VALARM".toList,
    "TRIGGER:-PT30M".toList,
    "ACTION:DISPLAY".toList,
    "DESCRIPTION:Reminder".toList,
    "END:VALARM".toList,
    "END:VEVENT".toList]

def calendarLines (host : Host) (now : Timestamp) (rows : List ContestRow) : List Text :=
  headerLines ++ rows.flatMap (eventLines toUpper host now) ++ ["END:VCALENDAR".toList]

def calendar (host : Host) (now : Timestamp) (rows : List ContestRow) : Text :=
  writeLines (calendarLines toUpper host now rows)

end Feed

/-! ### The handler -/

inductive QueryError where
  | noRows
  | failed

/-- The answers of the database: `none` is an error of `Query`, in a list a row whose
`Scan` fails. The flag beside the contests is `rows.Err() == nil`. -/
structure Queries where
  users : Option (List (Option (Int × List String)))
  platformsOf : Int → Except QueryError (List String)
  contests : List String → Option (List (Option ContestRow) × Bool)

structure Failure where
  text : String
  status : Nat
deriving DecidableEq

section Handler

-- `fmt.Sscanf` with the format `%d`, and `strings.ToUpper`.
variable (sscanf : String → Option Int) (toUpper : String → String)

def feedPlatforms (queries : Queries) (token userID : String) : Except Failure (List String) :=
  if token ≠ "" then
    match queries.users with
    | none => .error ⟨"database error", 500⟩
    | some users =>
      match users.reduceOption.find? (fun user =>
          feedToken user.1 = token ∨ toString user.1 = token) with
      | some user => .ok user.2
      | none => .error ⟨"feed not found", 404⟩
  else if userID ≠ "" then
    match sscanf userID with
    | none => .error ⟨"invalid request parameter", 400⟩
    | some id =>
      if id ≤ 0 then
        .error ⟨"invalid request parameter", 400⟩
      else
        match queries.platformsOf id with
        | .ok platforms => .ok platforms
        | .error .noRows => .error ⟨"feed not found", 404⟩
        | .error .failed => .error ⟨"database error", 500⟩
  else
    .error ⟨"missing feed token", 400⟩

def serveICalFeed (queries : Queries) (host : Host) (now : Timestamp) (token userID : String) :
    Except Failure Text :=
  match feedPlatforms sscanf queries token userID with
  | .error failure => .error failure
  | .ok chosen =>
    let platforms := if chosen = [] then platforms else chosen
    match queries.contests platforms with
    | none => .error ⟨"failed to query contests", 500⟩
    | some (_, false) => .error ⟨"error generating feed", 500⟩
    | some (rows, true) => .ok (calendar toUpper host now rows.reduceOption)

theorem serveICalFeed_served {queries : Queries} {host : Host} {now : Timestamp}
    {token userID : String} {chosen : List String} {rows : List (Option ContestRow)}
    (found : feedPlatforms sscanf queries token userID = .ok chosen)
    (answered : queries.contests (if chosen = [] then platforms else chosen) =
      some (rows, true)) :
    serveICalFeed sscanf toUpper queries host now token userID =
      .ok (calendar toUpper host now rows.reduceOption) := by
  unfold serveICalFeed
  rw [found]
  simp only
  rw [answered]

end Handler

/-! ### Its lines -/

section WellFormed

variable (toUpper : String → String) (now : Timestamp)

/-- The lines of one event: the properties in their order, and the row's texts in
those that are text values. What identifier and link there are is left open. -/
def EventBlock (row : ContestRow) (block : List Text) : Prop :=
  ∃ uid summaryValue descriptionValue url location, block = ["BEGIN:VEVENT".toList,
        "UID:".toList ++ uid,
        "DTSTAMP:".toList ++ formatTime now,
        "SUMMARY:".toList ++ summaryValue,
        "DESCRIPTION:".toList ++ descriptionValue,
        "URL:".toList ++ url,
        "LOCATION:".toList ++ location,
        "DTSTART:".toList ++ formatTime row.startTime,
        "DTEND:".toList ++ formatTime row.endTime,
        "BEGIN:VALARM".toList,
        "TRIGGER:-PT30M".toList,
        "ACTION:DISPLAY".toList,
        "DESCRIPTION:Reminder".toList,
        "END:VALARM".toList,
        "END:VEVENT".toList] ∧
    unescapeICalText summaryValue = withoutReturns (summary toUpper row) ∧
    unescapeICalText descriptionValue = withoutReturns (description row) ∧
    unescapeICalText location = withoutReturns row.url.toList

/-- The last line end is followed by nothing. -/
def WellFormed (rows : List ContestRow) (body : Text) : Prop :=
  ∃ blocks, List.Forall₂ (EventBlock toUpper now) rows blocks ∧
    Lines.split '\r' '\n' body = headerLines ++ blocks.flatten ++ ["END:VCALENDAR".toList, []]

abbrev Unbroken (text : Text) : Prop :=
  Lines.Unbroken '\r' '\n' text

variable {toUpper now} {host : Host} {rows : List ContestRow}

theorem eventBlock_eventLines (row : ContestRow) :
    EventBlock toUpper now row (eventLines toUpper host now row) :=
  ⟨_, _, _, _, _, rfl, unescape_escape _, unescape_escape _, unescape_escape _⟩

theorem EventBlock.length {row : ContestRow} {block : List Text}
    (event : EventBlock toUpper now row block) : block.length = 15 := by
  obtain ⟨_, _, _, _, _, rfl, _⟩ := event
  rfl

theorem length_flatten_blocks {blocks : List (List Text)}
    (events : List.Forall₂ (EventBlock toUpper now) rows blocks) :
    blocks.flatten.length = 15 * rows.length := by
  induction events with
  | nil => rfl
  | cons event _ ih =>
    rw [List.flatten_cons, List.length_append, event.length, ih, List.length_cons]
    omega

theorem WellFormed.length {body : Text} (wellFormed : WellFormed toUpper now rows body) :
    (Lines.split '\r' '\n' body).length = 15 * rows.length + 8 := by
  obtain ⟨blocks, events, lines⟩ := wellFormed
  rw [lines, List.length_append, List.length_append, length_flatten_blocks events]
  simp [headerLines]
  omega

theorem events_eventLines (rows : List ContestRow) :
    List.Forall₂ (EventBlock toUpper now) rows (rows.map (eventLines toUpper host now)) := by
  induction rows with
  | nil => exact .nil
  | cons row _ ih => exact .cons (eventBlock_eventLines row) ih

theorem length_calendarLines :
    (calendarLines toUpper host now rows).length = 15 * rows.length + 7 := by
  have events : List.Forall₂ (EventBlock toUpper now) rows
      (rows.map (eventLines toUpper host now)) := events_eventLines rows
  unfold calendarLines
  rw [List.length_append, List.length_append, List.flatMap_def, length_flatten_blocks events]
  simp [headerLines]
  omega

theorem Host.return_notMem_domain (host : Host) : '\r' ∉ host.domain := by
  unfold Host.domain
  split
  · decide
  · exact host.valid

variable {name value : Text}

theorem unbroken_value (plainName : '\r' ∉ name) (plain : '\r' ∉ value) :
    Unbroken (name ++ value) := by
  apply Lines.unbroken_of_notMem
  rw [List.mem_append, not_or]
  exact ⟨plainName, plain⟩

/-- The name of a property does not meet the value in a line end. -/
theorem unbroken_property_iff (plainName : '\r' ∉ name) :
    Unbroken (name ++ value) ↔ Unbroken value := by
  have apart : name.getLast? ≠ some '\r' :=
    fun last => plainName (List.mem_of_getLast? last)
  rw [Unbroken, Lines.unbroken_append_iff (.inl apart)]
  exact and_iff_right (Lines.unbroken_of_notMem plainName)

theorem unbroken_uid_iff {id : Text} :
    Unbroken ("UID:".toList ++ (id ++ '@' :: host.domain)) ↔ Unbroken id := by
  have domain : '\r' ∉ '@' :: host.domain := by
    rw [List.mem_cons, not_or]
    exact ⟨by decide, host.return_notMem_domain⟩
  rw [unbroken_property_iff (by decide), Unbroken, Lines.unbroken_append_iff (.inr (by simp))]
  exact and_iff_left (Lines.unbroken_of_notMem domain)

theorem unbroken_eventLines_iff (row : ContestRow) :
    (∀ line ∈ eventLines toUpper host now row, Unbroken line) ↔
      Unbroken row.id.toList ∧ Unbroken row.url.toList := by
  have fixed : ∀ line : Text, '\r' ∉ line → Unbroken line :=
    fun _ plain => Lines.unbroken_of_notMem plain
  have link : Unbroken ("URL:".toList ++ row.url.toList) ↔ Unbroken row.url.toList :=
    unbroken_property_iff (by decide)
  simp only [eventLines, List.forall_mem_cons, unbroken_uid_iff, link]
  constructor
  · rintro ⟨_, id, _, _, _, url, _⟩
    exact ⟨id, url⟩
  · rintro ⟨id, url⟩
    exact ⟨fixed _ (by decide), id, unbroken_value (by decide) (return_notMem_formatTime _),
      unbroken_value (by decide) (return_notMem_escape _),
      unbroken_value (by decide) (return_notMem_escape _), url,
      unbroken_value (by decide) (return_notMem_escape _),
      unbroken_value (by decide) (return_notMem_formatTime _),
      unbroken_value (by decide) (return_notMem_formatTime _),
      fixed _ (by decide), fixed _ (by decide), fixed _ (by decide), fixed _ (by decide),
      fixed _ (by decide), fixed _ (by decide), nofun⟩

theorem unbroken_calendarLines_iff :
    (∀ line ∈ calendarLines toUpper host now rows, Unbroken line) ↔
      ∀ row ∈ rows, Unbroken row.id.toList ∧ Unbroken row.url.toList := by
  have plain : ∀ line ∈ headerLines, '\r' ∉ line := by decide +kernel
  have header : ∀ line ∈ headerLines, Unbroken line :=
    fun line member => Lines.unbroken_of_notMem (plain line member)
  have ending : Unbroken "END:VCALENDAR".toList := Lines.unbroken_of_notMem (by decide)
  simp only [calendarLines, List.forall_mem_append, List.forall_mem_flatMap,
    unbroken_eventLines_iff, List.forall_mem_singleton]
  constructor
  · exact fun unbroken => unbroken.1.2
  · exact fun rowsUnbroken => ⟨⟨header, rowsUnbroken⟩, ending⟩

theorem split_calendar :
    Lines.split '\r' '\n' (calendar toUpper host now rows) =
      (calendarLines toUpper host now rows).flatMap (Lines.split '\r' '\n') ++ [[]] :=
  Lines.split_terminated (by decide) _

theorem calendar_wellFormed_iff :
    WellFormed toUpper now rows (calendar toUpper host now rows) ↔
      ∀ row ∈ rows, Unbroken row.id.toList ∧ Unbroken row.url.toList := by
  constructor
  · intro wellFormed
    have length := wellFormed.length
    rw [split_calendar, List.length_append, List.length_singleton] at length
    have unbroken : ∀ line ∈ calendarLines toUpper host now rows, Unbroken line := by
      apply Lines.unbroken_of_length (by decide)
      rw [length_calendarLines]
      omega
    exact unbroken_calendarLines_iff.mp unbroken
  · intro unbroken
    refine ⟨rows.map (eventLines toUpper host now), events_eventLines rows, ?_⟩
    rw [split_calendar, Lines.flatMap_split_unbroken (unbroken_calendarLines_iff.mpr unbroken),
      calendarLines, List.flatMap_def, List.append_assoc, List.append_assoc, List.append_assoc]
    rfl

/-- The feed that is served has exactly the lines it is meant to have when no line end
stands in the identifier or the link of a row, and only then. -/
theorem served_feed_wellFormed_iff (toUpper : String → String) (host : Host) (now : Timestamp)
    {sscanf : String → Option Int} {queries : Queries} {token userID : String}
    {chosen : List String} {answer : List (Option ContestRow)}
    (found : feedPlatforms sscanf queries token userID = .ok chosen)
    (answered : queries.contests (if chosen = [] then platforms else chosen) =
      some (answer, true)) :
    ∃ body, serveICalFeed sscanf toUpper queries host now token userID = .ok body ∧
      (WellFormed toUpper now answer.reduceOption body ↔
        ∀ row ∈ answer.reduceOption, Unbroken row.id.toList ∧ Unbroken row.url.toList) :=
  ⟨_, serveICalFeed_served sscanf toUpper found answered, calendar_wellFormed_iff⟩

end WellFormed

/-! ### Two feeds of one user -/

def sampleHost : Host :=
  { text := "localhost:8080".toList
    valid := by decide }

def sampleQueries (rows : List ContestRow) : Queries :=
  { users := some []
    platformsOf := fun _ => .ok []
    contests := fun _ => some (rows.map some, true) }

/-- What `FetchLeetcodeContests` makes of a slug. -/
def leetcodeRow (titleSlug : String) : ContestRow :=
  { id := generateContestID "leetcode" 5000
    name := "Weekly Contest, 400"
    url := "https://leetcode.com/contest/" ++ titleSlug
    startTime := unixTime 5000
    endTime := unixTime 6000
    duration := 1000
    platform := "leetcode" }

theorem served_feed_wellFormed_slug :
    ∃ body, serveICalFeed (fun _ => some 1) String.toUpper
        (sampleQueries [leetcodeRow "weekly-contest-400"]) sampleHost 0 "" "1" = .ok body ∧
      WellFormed String.toUpper 0 [leetcodeRow "weekly-contest-400"] body := by
  have found : feedPlatforms (fun _ => some 1) (sampleQueries [leetcodeRow "weekly-contest-400"])
      "" "1" = .ok [] := rfl
  have answered : (sampleQueries [leetcodeRow "weekly-contest-400"]).contests platforms =
      some ([some (leetcodeRow "weekly-contest-400")], true) := rfl
  obtain ⟨body, served, wellFormed⟩ :=
    served_feed_wellFormed_iff String.toUpper sampleHost 0 found answered
  exact ⟨body, served, wellFormed.mpr (by decide +kernel)⟩

/-- A line end in the slug becomes one of the feed. -/
theorem served_feed_line_added :
    ∃ body, serveICalFeed (fun _ => some 1) String.toUpper
        (sampleQueries [leetcodeRow "weekly\r\nSTATUS:CANCELLED"]) sampleHost 0 "" "1" = .ok body ∧
      "STATUS:CANCELLED".toList ∈ Lines.split '\r' '\n' body ∧
      ¬WellFormed String.toUpper 0 [leetcodeRow "weekly\r\nSTATUS:CANCELLED"] body := by
  have served : ([leetcodeRow "weekly\r\nSTATUS:CANCELLED"].map some).reduceOption =
      [leetcodeRow "weekly\r\nSTATUS:CANCELLED"] := rfl
  refine ⟨_, serveICalFeed_served _ _ rfl rfl, ?_, ?_⟩
  · rw [served, split_calendar]
    apply List.mem_append_left
    rw [List.mem_flatMap]
    refine ⟨"URL:".toList ++ (leetcodeRow "weekly\r\nSTATUS:CANCELLED").url.toList, ?_, ?_⟩
    · simp [calendarLines, eventLines]
    · decide +kernel
  · rw [served, calendar_wellFormed_iff]
    decide +kernel

end ContestSync.ICal
