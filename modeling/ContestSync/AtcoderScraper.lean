/-
The AtCoder fetcher reads its contests off a page by searching for tags. Every search
goes on where the last one ended, on a part of the page that is cut out by positions; a
position outside the part would be a panic. A search never looks past what it finds, so a
page that was cut off gives an error or the same contests.
-/

import ContestSync.Models
import ContestSync.Numerals
import ContestSync.Scanning
import ContestSync.SendableChunks
import ContestSync.TimeLayouts
import Mathlib.Data.List.DropRight

namespace ContestSync.Atcoder

open Scan

open Scan (index slice sliceFrom sliceTo)
open Telegram (Bytes literal isSpace)

/-! ### Tags -/

def tableOpen : Bytes :=
  literal "<tbody>"

def tableClose : Bytes :=
  literal "</tbody>"

def rowOpen : Bytes :=
  literal "<tr>"

def rowClose : Bytes :=
  literal "</tr>"

def cellOpen : Bytes :=
  literal "<td"

def cellClose : Bytes :=
  literal "</td>"

def tagEnd : Bytes :=
  literal ">"

def hrefOpen : Bytes :=
  literal "href=\""

def quote : Bytes :=
  literal "\""

def anchorOpen : Bytes :=
  literal "<a"

def anchorClose : Bytes :=
  literal "</a>"

def isoMark : Bytes :=
  literal "?iso="

def ampersand : Bytes :=
  literal "&"

/-! ### The scanners

In all of them `none` is a panic or, for a loop, that it has not ended after as many rounds
as the fuel allows. -/

def cellLoop : (fuel : Nat) → (row : Bytes) → (cells : List Bytes) → Option (List Bytes)
  | 0, _, _ => none
  | fuel + 1, row, cells =>
    match index cellOpen row with
    | none => some cells
    | some tdIdx => do
        let tag ← sliceFrom tdIdx row
        match index tagEnd tag with
        | none => some cells
        | some closeIdx =>
          let contentStart := tdIdx + closeIdx + 1
          let content ← sliceFrom contentStart row
          match index cellClose content with
          | none => some cells
          | some endTd =>
            let cell ← slice contentStart (contentStart + endTd) row
            let rest ← sliceFrom (contentStart + endTd + 5) row
            cellLoop fuel rest (cells ++ [cell])

def extractCells (row : Bytes) : Option (List Bytes) :=
  cellLoop (row.length + 1) row []

def extractHref (text : Bytes) : Option Bytes :=
  match index hrefOpen text with
  | none => some []
  | some hrefIdx => do
      let start := hrefIdx + 6
      let value ← sliceFrom start text
      match index quote value with
      | none => some []
      | some finish => slice start (start + finish) text

def extractHrefText (text : Bytes) : Option Bytes :=
  match index anchorOpen text with
  | none => some []
  | some aIdx => do
      let tag ← sliceFrom aIdx text
      match index tagEnd tag with
      | none => some []
      | some closeA =>
        let contentStart := aIdx + closeA + 1
        let content ← sliceFrom contentStart text
        match index anchorClose content with
        | none => some []
        | some endA => slice contentStart (contentStart + endA) text

def withoutTags (inTag : Bool) : List Char → List Char
  | [] => []
  | char :: rest =>
    if char = '<' then withoutTags true rest
    else if char = '>' then withoutTags false rest
    else if inTag then withoutTags inTag rest
    else char :: withoutTags inTag rest

/-- `strings.TrimSpace`. -/
def trimSpace (text : List Char) : List Char :=
  (text.dropWhile isSpace).rdropWhile isSpace

def stripTags (text : Bytes) : List Char :=
  trimSpace (withoutTags false (Utf8.runes text))

/-! ### Rows -/

/-- The layout `20060102T1504`. -/
def stampLayout : List TimeLayout.Chunk :=
  [.longYear, .zeroMonth, .zeroDay, .literal 84, .hour, .zeroMinute]

structure Listing where
  href : Bytes
  name : List Char
  startTime : Int
  hours : Int
  minutes : Int
deriving DecidableEq

/-- The time that the link gives, up to an ampersand. -/
def linkedTime (href : Bytes) : Option (Option Int) :=
  match index isoMark href with
  | none => some none
  | some isoIdx => do
      let startTimeStr ← sliceFrom (isoIdx + 5) href
      let startTimeStr ←
        match index ampersand startTimeStr with
        | none => some startTimeStr
        | some ampIdx => sliceTo ampIdx startTimeStr
      some (TimeLayout.parse stampLayout startTimeStr)

/-- The hours and minutes around the first colon; what is no number counts as zero. -/
def hoursAndMinutes (durationStr : List Char) : Option (Option (Int × Int)) :=
  match index [':'] durationStr with
  | none => some none
  | some colonIdx => do
      let hours ← sliceTo colonIdx durationStr
      let minutes ← sliceFrom (colonIdx + 1) durationStr
      some (some (Numerals.atoi hours, Numerals.atoi minutes))

/-- One round of the loop over the rows; the inner `none` is `continue`. -/
def readRow (row : Bytes) : Option (Option Listing) := do
  match ← extractCells row with
  | first :: second :: third :: _ =>
    let href ← extractHref first
    if href = [] then some none
    else
      match ← linkedTime href with
      | none => some none
      | some startTime =>
        match ← hoursAndMinutes (stripTags third) with
        | none => some none
        | some (hours, minutes) =>
          let name := stripTags (← extractHrefText second)
          if name = [] then some none
          else some (some ⟨href, name, startTime, hours, minutes⟩)
  | _ => some none

def rowLoop : (fuel : Nat) → (table : Bytes) → (listings : List Listing) → Option (List Listing)
  | 0, _, _ => none
  | fuel + 1, table, listings =>
    match index rowOpen table with
    | none => some listings
    | some trIdx => do
        let inside ← sliceFrom (trIdx + 4) table
        match index rowClose inside with
        | none => some listings
        | some endTr =>
          let row ← sliceTo endTr inside
          let rest ← sliceFrom (endTr + 5) inside
          match ← readRow row with
          | none => rowLoop fuel rest listings
          | some listing => rowLoop fuel rest (listings ++ [listing])

def readTable (table : Bytes) : Option (List Listing) :=
  rowLoop (table.length + 1) table []

/-! ### Pages -/

/-- A contest of AtCoder; its URL may hold bytes that are no UTF-8. -/
structure AtcoderContest where
  id : String
  name : String
  url : Bytes
  startTime : Int
  endTime : Int
  duration : Int
  platform : String
deriving DecidableEq

/-- The `time.Duration` in nanoseconds. -/
def Listing.duration (listing : Listing) : Int :=
  Int.bmod (Int.bmod (listing.hours * 3600000000000) (2 ^ 64) +
    Int.bmod (listing.minutes * 60000000000) (2 ^ 64)) (2 ^ 64)

/-- `Add` and `Unix` round down to a second, `int64(duration.Seconds())` towards zero. -/
def Listing.contest (listing : Listing) : AtcoderContest :=
  { id := generateContestID "atcoder" listing.startTime
    name := String.ofList listing.name
    url := literal "https://atcoder.jp" ++ listing.href
    startTime := listing.startTime
    endTime := listing.startTime + listing.duration / 1000000000
    duration := listing.duration.tdiv 1000000000
    platform := "atcoder" }

def contestsTable (html : Bytes) : Option (Except String Bytes) :=
  match index tableOpen html with
  | none => some (.error "atcoder: no tbody")
  | some tbodyIdx => do
      let afterFirst ← sliceFrom (tbodyIdx + 7) html
      match index tableOpen afterFirst with
      | none => some (.error "atcoder: no contests table")
      | some secondTbody =>
        let start := tbodyIdx + 7 + secondTbody + 7
        let body ← sliceFrom start html
        match index tableClose body with
        | none => some (.error "atcoder: malformed table")
        | some endIdx => (slice start (start + endIdx) html).map .ok

def listingsOf (html : Bytes) : Option (Except String (List Listing)) := do
  match ← contestsTable html with
  | .error message => some (.error message)
  | .ok table => (readTable table).map .ok

/-- `FetchAtcoderContests` after `fetchPage`. -/
def contestsOf (html : Bytes) : Option (Except String (List AtcoderContest)) :=
  (listingsOf html).map fun listings => listings.map (List.map Listing.contest)

def maxResponseSize : Nat :=
  10 * 1024 * 1024

/-- `FetchAtcoderContests` for a page that the server sends: what is longer than
`maxResponseSize` is not read, without an error. -/
def fetchAtcoderContests (page : Bytes) : Option (Except String (List AtcoderContest)) :=
  contestsOf (page.take maxResponseSize)

/-! ### No search leaves the text -/

@[simp] theorem length_cellOpen : cellOpen.length = 3 := by decide
@[simp] theorem length_cellClose : cellClose.length = 5 := by decide
@[simp] theorem length_tagEnd : tagEnd.length = 1 := by decide
@[simp] theorem length_hrefOpen : hrefOpen.length = 6 := by decide
@[simp] theorem length_quote : quote.length = 1 := by decide
@[simp] theorem length_anchorOpen : anchorOpen.length = 2 := by decide
@[simp] theorem length_anchorClose : anchorClose.length = 4 := by decide
@[simp] theorem length_isoMark : isoMark.length = 5 := by decide
@[simp] theorem length_rowOpen : rowOpen.length = 4 := by decide
@[simp] theorem length_rowClose : rowClose.length = 5 := by decide
@[simp] theorem length_tableOpen : tableOpen.length = 7 := by decide
/-- One round of the loop over the cells: `none` is `break`. -/
def nextCell (row : Bytes) : Option (Option (Bytes × Bytes)) :=
  match index cellOpen row with
  | none => some none
  | some tdIdx => do
      let tag ← sliceFrom tdIdx row
      match index tagEnd tag with
      | none => some none
      | some closeIdx =>
        let contentStart := tdIdx + closeIdx + 1
        let content ← sliceFrom contentStart row
        match index cellClose content with
        | none => some none
        | some endTd =>
          let cell ← slice contentStart (contentStart + endTd) row
          let rest ← sliceFrom (contentStart + endTd + 5) row
          some (some (cell, rest))

theorem consumes_nextCell : Scan.Consumes nextCell := by
  intro row
  unfold nextCell
  cases opened : index cellOpen row with
  | none => exact Or.inl rfl
  | some tdIdx =>
    have openBound := index_le opened
    rw [length_cellOpen] at openBound
    simp only [sliceFrom_eq (show tdIdx ≤ row.length by omega), Option.bind_eq_bind,
      Option.bind_some]
    cases closed : index tagEnd (row.drop tdIdx) with
    | none => exact Or.inl rfl
    | some closeIdx =>
      have closeBound := index_le closed
      rw [length_tagEnd, List.length_drop] at closeBound
      simp only [sliceFrom_eq (show tdIdx + closeIdx + 1 ≤ row.length by omega), Option.bind_some]
      cases ended : index cellClose (row.drop (tdIdx + closeIdx + 1)) with
      | none => exact Or.inl rfl
      | some endTd =>
        have endBound := index_le ended
        rw [length_cellClose, List.length_drop] at endBound
        simp only [slice_eq (show tdIdx + closeIdx + 1 ≤ tdIdx + closeIdx + 1 + endTd by omega)
          (show tdIdx + closeIdx + 1 + endTd ≤ row.length by omega),
          sliceFrom_eq (show tdIdx + closeIdx + 1 + endTd + 5 ≤ row.length by omega),
          Option.bind_some]
        refine Or.inr ⟨_, _, rfl, ?_⟩
        rw [List.length_drop]
        omega

def addCell (cells : List Bytes) (cell : Bytes) : Option (List Bytes) :=
  some (cells ++ [cell])

theorem cellLoop_succ (fuel : Nat) (row : Bytes) (cells : List Bytes) :
    cellLoop (fuel + 1) row cells = proceed (nextCell row) cells
        (fun cell rest => (addCell cells cell).bind (cellLoop fuel rest)) := by
  rw [cellLoop, nextCell]
  cases index cellOpen row with
  | none => rfl
  | some tdIdx =>
    simp only [Option.bind_eq_bind]
    cases sliceFrom tdIdx row with
    | none => rfl
    | some tag =>
      simp only [Option.bind_some]
      cases index tagEnd tag with
      | none => rfl
      | some closeIdx =>
        simp only
        cases sliceFrom (tdIdx + closeIdx + 1) row with
        | none => rfl
        | some content =>
          simp only [Option.bind_some]
          cases index cellClose content with
          | none => rfl
          | some endTd =>
            simp only
            cases slice (tdIdx + closeIdx + 1) (tdIdx + closeIdx + 1 + endTd) row with
            | none => rfl
            | some cell =>
              cases sliceFrom (tdIdx + closeIdx + 1 + endTd + 5) row <;> rfl

theorem cellLoop_eq (fuel : Nat) (row : Bytes) (cells : List Bytes) :
    cellLoop fuel row cells = (rounds nextCell fuel row).map (fun others => cells ++ others) := by
  rw [rounds_bind_foldlM nextCell cellLoop addCell (fun _ _ => rfl) cellLoop_succ]
  cases rounds nextCell fuel row with
  | none => rfl
  | some others =>
    simp only [Option.bind_some, Option.map_some]
    induction others generalizing cells with
    | nil => simp
    | cons cell others ih =>
      rw [List.foldlM_cons]
      simp only [addCell, Option.bind_eq_bind, Option.bind_some]
      rw [ih, List.append_assoc]
      rfl

theorem cellLoop_total {fuel : Nat} {row : Bytes} (enough : row.length < fuel)
    (cells : List Bytes) : ∃ others, cellLoop fuel row cells = some (cells ++ others) := by
  obtain ⟨others, ended, _⟩ := consumes_nextCell.rounds_total enough enough
  exact ⟨others, by rw [cellLoop_eq, ended]; rfl⟩

theorem extractCells_total (row : Bytes) : ∃ cells, extractCells row = some cells :=
  cellLoop_total (Nat.lt_succ_self _) []

theorem extractHref_total (text : Bytes) : ∃ href, extractHref text = some href := by
  rw [extractHref]
  cases opened : index hrefOpen text with
  | none => exact ⟨[], rfl⟩
  | some hrefIdx =>
    have openBound := index_le opened
    rw [length_hrefOpen] at openBound
    simp only [sliceFrom_eq openBound, Option.bind_eq_bind, Option.bind_some]
    cases closed : index quote (text.drop (hrefIdx + 6)) with
    | none => exact ⟨[], rfl⟩
    | some finish =>
      have closeBound := index_le closed
      rw [length_quote, List.length_drop] at closeBound
      exact ⟨_, slice_eq (Nat.le_add_right _ _) (by omega)⟩

theorem extractHrefText_total (text : Bytes) : ∃ content, extractHrefText text = some content := by
  rw [extractHrefText]
  cases opened : index anchorOpen text with
  | none => exact ⟨[], rfl⟩
  | some aIdx =>
    have openBound := index_le opened
    rw [length_anchorOpen] at openBound
    simp only [sliceFrom_eq (show aIdx ≤ text.length by omega), Option.bind_eq_bind,
      Option.bind_some]
    cases closed : index tagEnd (text.drop aIdx) with
    | none => exact ⟨[], rfl⟩
    | some closeA =>
      have closeBound := index_le closed
      rw [length_tagEnd, List.length_drop] at closeBound
      simp only [sliceFrom_eq (show aIdx + closeA + 1 ≤ text.length by omega), Option.bind_some]
      cases ended : index anchorClose (text.drop (aIdx + closeA + 1)) with
      | none => exact ⟨[], rfl⟩
      | some endA =>
        have endBound := index_le ended
        rw [length_anchorClose, List.length_drop] at endBound
        exact ⟨_, slice_eq (Nat.le_add_right _ _) (by omega)⟩

theorem linkedTime_total (href : Bytes) : ∃ time, linkedTime href = some time := by
  rw [linkedTime]
  cases marked : index isoMark href with
  | none => exact ⟨none, rfl⟩
  | some isoIdx =>
    have markBound := index_le marked
    rw [length_isoMark] at markBound
    simp only [sliceFrom_eq markBound, Option.bind_eq_bind, Option.bind_some]
    cases separated : index ampersand (href.drop (isoIdx + 5)) with
    | none => exact ⟨_, rfl⟩
    | some ampIdx =>
      have bound := index_le separated
      simp only [sliceTo_eq (Nat.le_of_add_right_le bound), Option.bind_some]
      exact ⟨_, rfl⟩

theorem hoursAndMinutes_total (text : List Char) : ∃ pair, hoursAndMinutes text = some pair := by
  rw [hoursAndMinutes]
  cases separated : index [':'] text with
  | none => exact ⟨none, rfl⟩
  | some colonIdx =>
    have bound : colonIdx + 1 ≤ text.length := index_le separated
    simp only [sliceTo_eq (Nat.le_of_add_right_le bound), sliceFrom_eq bound,
      Option.bind_eq_bind, Option.bind_some]
    exact ⟨_, rfl⟩

theorem readRow_total (row : Bytes) : ∃ listing, readRow row = some listing := by
  obtain ⟨cells, extracted⟩ := extractCells_total row
  simp only [readRow, extracted, Option.bind_eq_bind, Option.bind_some]
  split
  · rename_i first second third _
    obtain ⟨href, linked⟩ := extractHref_total first
    simp only [linked, Option.bind_some]
    split
    · exact ⟨none, rfl⟩
    obtain ⟨time, timed⟩ := linkedTime_total href
    simp only [timed, Option.bind_some]
    cases time with
    | none => exact ⟨none, rfl⟩
    | some startTime =>
      obtain ⟨pair, split⟩ := hoursAndMinutes_total (stripTags third)
      simp only [split, Option.bind_some]
      cases pair with
      | none => exact ⟨none, rfl⟩
      | some pair =>
        obtain ⟨content, named⟩ := extractHrefText_total second
        simp only [named, Option.bind_some]
        split
        · exact ⟨none, rfl⟩
        · exact ⟨_, rfl⟩
  · exact ⟨none, rfl⟩

/-- One round of the loop over the rows, up to the reading of the row. -/
def nextRow (table : Bytes) : Option (Option (Bytes × Bytes)) :=
  match index rowOpen table with
  | none => some none
  | some trIdx => do
      let inside ← sliceFrom (trIdx + 4) table
      match index rowClose inside with
      | none => some none
      | some endTr =>
        let row ← sliceTo endTr inside
        let rest ← sliceFrom (endTr + 5) inside
        some (some (row, rest))

def addRow (listings : List Listing) (row : Bytes) : Option (List Listing) :=
  (readRow row).map (fun listing => listings ++ listing.toList)

theorem consumes_nextRow : Scan.Consumes nextRow := by
  intro table
  unfold nextRow
  cases opened : index rowOpen table with
  | none => exact Or.inl rfl
  | some trIdx =>
    have openBound := index_le opened
    rw [length_rowOpen] at openBound
    simp only [sliceFrom_eq openBound, Option.bind_eq_bind, Option.bind_some]
    cases closed : index rowClose (table.drop (trIdx + 4)) with
    | none => exact Or.inl rfl
    | some endTr =>
      have closeBound := index_le closed
      rw [length_rowClose] at closeBound
      simp only [sliceTo_eq (Nat.le_of_add_right_le closeBound),
        sliceFrom_eq closeBound, Option.bind_some]
      refine Or.inr ⟨_, _, rfl, ?_⟩
      rw [List.length_drop, List.length_drop]
      omega

theorem rowLoop_succ (fuel : Nat) (table : Bytes) (listings : List Listing) :
    rowLoop (fuel + 1) table listings = proceed (nextRow table) listings
        (fun row rest => (addRow listings row).bind (rowLoop fuel rest)) := by
  rw [rowLoop, nextRow]
  cases index rowOpen table with
  | none => rfl
  | some trIdx =>
    simp only [Option.bind_eq_bind]
    cases sliceFrom (trIdx + 4) table with
    | none => rfl
    | some inside =>
      simp only [Option.bind_some]
      cases index rowClose inside with
      | none => rfl
      | some endTr =>
        simp only
        cases sliceTo endTr inside with
        | none => rfl
        | some row =>
          cases sliceFrom (endTr + 5) inside with
          | none => rfl
          | some rest =>
            simp only [Option.bind_some, proceed, addRow]
            cases readRow row with
            | none => rfl
            | some listing =>
              cases listing with
              | none =>
                simp only [Option.bind_some, Option.map_some, Option.toList_none, List.append_nil]
              | some listing => rfl

theorem rowLoop_eq (fuel : Nat) (table : Bytes) (listings : List Listing) :
    rowLoop fuel table listings =
      (rounds nextRow fuel table).bind (fun rows => rows.foldlM addRow listings) :=
  rounds_bind_foldlM nextRow rowLoop addRow (fun _ _ => rfl) rowLoop_succ fuel table listings

theorem addRows_total (listings : List Listing) (rows : List Bytes) :
    ∃ all, rows.foldlM addRow listings = some all := by
  induction rows generalizing listings with
  | nil => exact ⟨listings, rfl⟩
  | cons row rows ih =>
    obtain ⟨listing, read⟩ := readRow_total row
    rw [List.foldlM_cons, addRow, read]
    exact ih _

variable {table : Bytes}

theorem rowLoop_total {fuel : Nat} (enough : table.length < fuel)
    (listings : List Listing) : ∃ all, rowLoop fuel table listings = some all := by
  obtain ⟨rows, ended, _⟩ := consumes_nextRow.rounds_total enough enough
  obtain ⟨all, read⟩ := addRows_total listings rows
  exact ⟨all, by rw [rowLoop_eq, ended]; exact read⟩

theorem readTable_total (table : Bytes) : ∃ listings, readTable table = some listings :=
  rowLoop_total (Nat.lt_succ_self _) []

/-! ### Where the table is -/

/-- The parts of a page around its second table, and that its tags are found there. -/
structure Layout (html first second table suffix : Bytes) : Prop where
  parts : html =
    first ++ (tableOpen ++ (second ++ (tableOpen ++ (table ++ (tableClose ++ suffix)))))
  firstOpen : index tableOpen html = some first.length
  secondOpen : index tableOpen (second ++ (tableOpen ++ (table ++ (tableClose ++ suffix)))) =
    some second.length
  close : index tableClose (table ++ (tableClose ++ suffix)) = some table.length

variable {html first second suffix : Bytes}

theorem Layout.contestsTable (layout : Layout html first second table suffix) :
    contestsTable html = some (.ok table) := by
  have afterFirst : sliceFrom (first.length + 7) html =
      some (second ++ (tableOpen ++ (table ++ (tableClose ++ suffix)))) := by
    rw [layout.parts, ← List.append_assoc]
    apply sliceFrom_append
    simp
  have body : sliceFrom (first.length + 7 + second.length + 7) html =
      some (table ++ (tableClose ++ suffix)) := by
    rw [layout.parts, ← List.append_assoc, ← List.append_assoc, ← List.append_assoc]
    apply sliceFrom_append
    simp only [List.length_append, length_tableOpen]
  have whole : slice (first.length + 7 + second.length + 7)
      (first.length + 7 + second.length + 7 + table.length) html = some table := by
    rw [layout.parts, ← List.append_assoc, ← List.append_assoc, ← List.append_assoc]
    apply slice_middle
    · simp only [List.length_append, length_tableOpen]
    · simp only [List.length_append, length_tableOpen]
  simp only [Atcoder.contestsTable, layout.firstOpen, afterFirst, layout.secondOpen, body,
    layout.close, whole, Option.bind_eq_bind, Option.bind_some, Option.map_some]

theorem contestsTable_cases (html : Bytes) :
    (∃ message, contestsTable html = some (.error message)) ∨
      ∃ first second table suffix, Layout html first second table suffix := by
  cases opened : index tableOpen html with
  | none => exact Or.inl ⟨_, by rw [contestsTable, opened]⟩
  | some tbodyIdx =>
    obtain ⟨first, afterFirst, parts, rfl⟩ := index_eq_some opened
    have rest : sliceFrom (first.length + 7) html = some afterFirst := by
      rw [parts, ← List.append_assoc]
      apply sliceFrom_append
      simp
    cases openedAgain : index tableOpen afterFirst with
    | none =>
      left
      refine ⟨"atcoder: no contests table", ?_⟩
      simp only [contestsTable, opened, rest, openedAgain, Option.bind_eq_bind, Option.bind_some]
    | some secondTbody =>
      obtain ⟨second, body, secondParts, rfl⟩ := index_eq_some openedAgain
      have bodyRest : sliceFrom (first.length + 7 + second.length + 7) html = some body := by
        rw [parts, secondParts, ← List.append_assoc, ← List.append_assoc, ← List.append_assoc]
        apply sliceFrom_append
        simp only [List.length_append, length_tableOpen]
      cases closed : index tableClose body with
      | none =>
        left
        refine ⟨"atcoder: malformed table", ?_⟩
        simp only [contestsTable, opened, rest, openedAgain, bodyRest, closed,
          Option.bind_eq_bind, Option.bind_some]
      | some endIdx =>
        obtain ⟨table, suffix, tableParts, rfl⟩ := index_eq_some closed
        subst tableParts secondParts
        exact Or.inr ⟨first, second, table, suffix, parts, opened, openedAgain, closed⟩

theorem Layout.append (layout : Layout html first second table suffix) (more : Bytes) :
    Layout (html ++ more) first second table (suffix ++ more) := by
  constructor
  · rw [layout.parts]
    simp only [List.append_assoc]
  · exact index_append layout.firstOpen more
  · have found := index_append layout.secondOpen more
    simpa only [List.append_assoc] using found
  · have found := index_append layout.close more
    simpa only [List.append_assoc] using found

theorem listingsOf_layout (layout : Layout html first second table suffix) :
    listingsOf html = (readTable table).map .ok := by
  simp only [listingsOf, layout.contestsTable, Option.bind_eq_bind, Option.bind_some]

/-- What is read off a page that was cut off is read off the whole page too. -/
theorem contestsOf_append {cut : Bytes} {contests : List AtcoderContest}
    (read : contestsOf cut = some (.ok contests)) (more : Bytes) :
    contestsOf (cut ++ more) = some (.ok contests) := by
  rcases contestsTable_cases cut with ⟨message, failed⟩ | ⟨first, second, table, suffix, layout⟩
  · simp [contestsOf, listingsOf, failed, Except.map] at read
  · rw [contestsOf, listingsOf_layout layout] at read
    rw [contestsOf, listingsOf_layout (layout.append more)]
    exact read

theorem contestsOf_total (html : Bytes) :
    (∃ message, contestsOf html = some (.error message)) ∨
      ∃ contests, contestsOf html = some (.ok contests) := by
  rcases contestsTable_cases html with ⟨message, failed⟩ | ⟨first, second, table, suffix, layout⟩
  · exact Or.inl ⟨message, by simp [contestsOf, listingsOf, failed, Except.map]⟩
  · obtain ⟨listings, read⟩ := readTable_total table
    exact Or.inr ⟨_, by rw [contestsOf, listingsOf_layout layout, read]; rfl⟩

/-- No slice of the scanners is out of range, whatever the text: each round of the two loops
leaves less of it, so that both end, and a page is read or an error is reported. -/
theorem scanners_stay_inside :
    (Scan.Consumes nextCell ∧ Scan.Consumes nextRow) ∧
    (∀ row fuel, row.length < fuel → ∃ cells,
      rounds nextCell fuel row = some cells ∧ cellLoop fuel row [] = some cells ∧
        extractCells row = some cells) ∧
    (∀ table fuel, table.length < fuel → ∃ rows listings,
      rounds nextRow fuel table = some rows ∧ rows.foldlM addRow [] = some listings ∧
        rowLoop fuel table [] = some listings ∧ readTable table = some listings) ∧
    (∀ text, ∃ href content, extractHref text = some href ∧ extractHrefText text = some content) ∧
    ∀ page, ∃ result, contestsOf page = some result := by
  refine ⟨⟨consumes_nextCell, consumes_nextRow⟩, ?_, ?_, ?_, ?_⟩
  · intro row fuel enough
    obtain ⟨cells, ended, again⟩ :=
      consumes_nextCell.rounds_total enough (Nat.lt_succ_self row.length)
    refine ⟨cells, ended, ?_, ?_⟩
    · rw [cellLoop_eq, ended]
      rfl
    · rw [extractCells, cellLoop_eq, again]
      rfl
  · intro table fuel enough
    obtain ⟨rows, ended, again⟩ :=
      consumes_nextRow.rounds_total enough (Nat.lt_succ_self table.length)
    obtain ⟨listings, read⟩ := addRows_total [] rows
    refine ⟨rows, listings, ended, read, ?_, ?_⟩
    · rw [rowLoop_eq, ended]
      exact read
    · rw [readTable, rowLoop_eq, again]
      exact read
  · intro text
    obtain ⟨href, linked⟩ := extractHref_total text
    obtain ⟨content, named⟩ := extractHrefText_total text
    exact ⟨href, content, linked, named⟩
  · intro page
    rcases contestsOf_total page with ⟨message, failed⟩ | ⟨contests, read⟩
    · exact ⟨_, failed⟩
    · exact ⟨_, read⟩

/-- A part from the start of a page that is read at all has the contests of the page. A
page that is too long is therefore an error, or all its contests are returned. -/
theorem cut_page_complete (page : Bytes) :
    (∀ cut contests, cut <+: page → contestsOf cut = some (.ok contests) →
      contestsOf page = some (.ok contests)) ∧
    ((∃ message, fetchAtcoderContests page = some (.error message)) ∨
      ∃ contests, fetchAtcoderContests page = some (.ok contests) ∧
        contestsOf page = some (.ok contests)) := by
  have complete : ∀ cut contests, cut <+: page → contestsOf cut = some (.ok contests) →
      contestsOf page = some (.ok contests) := by
    rintro cut contests ⟨more, rfl⟩ read
    exact contestsOf_append read more
  refine ⟨complete, ?_⟩
  rcases contestsOf_total (page.take maxResponseSize) with failed | ⟨contests, read⟩
  · exact Or.inl failed
  · exact Or.inr ⟨contests, read, complete _ contests (List.take_prefix _ _) read⟩

end ContestSync.Atcoder
