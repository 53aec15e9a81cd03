import CardSearch.Report.Column
import CardSearch.Report.Review
import CardSearch.Search.Basic

/-!
# Pages as tables

A page of results for reading: a header, a line for each card, an empty line and
a line that tells which of the results are on the page. A page without cards is
one line that tells why. Every column but the last has a fixed width, to which
its text is cut or filled.
-/

namespace CardSearch.Report

open Number (digits)
open Search (Page Options)
open Text (ellipsize padRight ofLines)
open Time (Instant)

/-- A column of a table. -/
structure Column where
  title : List Char
  width : Nat
  /-- The text of a card in the column. -/
  content : Card → List Char

/-- The columns of a fixed width. -/
def columns : List Column :=
  [⟨"ID".toList, 8, idText⟩, ⟨"Deck".toList, 16, (columnText · "deck")⟩,
   ⟨"Front".toList, 30, (columnText · "front")⟩, ⟨"Tags".toList, 20, (columnText · "tag")⟩]

/-- The title of the last column. -/
def reviewTitle : List Char := "Next review".toList

namespace Column

/-- A text cut or filled to the width of the column, and the space after it. -/
def cell (col : Column) (s : List Char) : List Char :=
  padRight col.width (ellipsize s col.width) ++ [' ']

theorem length_cell {col : Column} (h : 3 ≤ col.width) (s : List Char) :
    (col.cell s).length = col.width + 1 := by
  have := Text.length_ellipsize_le (s := s) h
  simp only [cell, List.length_append, Text.length_padRight, List.length_cons, List.length_nil]
  omega

end Column

/-- The header of the table. -/
def header : List Char := columns.flatMap (fun col => col.cell col.title) ++ reviewTitle

/-- The line of a card. -/
def cardLine (styled : Bool) (now : Instant) (c : Card) : List Char :=
  columns.flatMap (fun col => col.cell (col.content c)) ++
    (ReviewLabel.ofText now (c.string? "nextReview")).shown styled

/-- The line under the table. -/
def footer (p : Page) (o : Options) : List Char :=
  let first := o.offset + 1
  let last := o.offset + p.rows.length
  if first = 1 ∧ last = p.count then
    if p.count = 1 then "1 card".toList else digits p.count ++ " cards".toList
  else
    "Showing ".toList ++ digits first ++ '-' :: digits last ++ " of ".toList ++ digits p.count ++
      " cards".toList

/-- The line of a page without cards. -/
def emptyLine (p : Page) (o : Options) : List Char :=
  if p.count = 0 then "No cards found.".toList
  else
    "No cards on this page (".toList ++ digits p.count ++ " matches, offset ".toList ++
      digits o.offset ++ ").".toList

/-- The lines of a page. -/
def tableLines (styled : Bool) (now : Instant) (p : Page) (o : Options) : List (List Char) :=
  if p.rows.isEmpty then [emptyLine p o]
  else
    paint styled .dimmed header :: p.cards.map (cardLine styled now) ++
      [[], paint styled .dimmed (footer p o)]

/-- The page as a table. -/
def pageTable (styled : Bool) (now : Instant) (p : Page) (o : Options) : List Char :=
  ofLines (tableLines styled now p o)

end CardSearch.Report
