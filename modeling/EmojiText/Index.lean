import EmojiText.Record
import EmojiText.Table

/-!
Indexes of records: by the first code point of the text, by short code and by unified code.

A record is known by its number, its place among the records with a text. The records that share a
first code point stand in the order of their lengths, the longest first, and among equal lengths in
the order of their numbers; of the records that share a short code or a unified code the last one is
found.
-/

namespace EmojiText

/-- Records that all have a text. -/
structure Arena where
  records : Array Record
  text_ne_nil : ∀ record ∈ records, record.text ≠ []

namespace Arena

/-- The number of a record. -/
abbrev Id (arena : Arena) : Type := Fin arena.records.size

/-- The records that have a text. -/
def ofRecords (records : List Record) : Arena where
  records := (records.filter (·.text ≠ [])).toArray
  text_ne_nil := by simp

variable (arena : Arena)

/-- All numbers. -/
def ids : List arena.Id := List.finRange arena.records.size

/-- The record with a number. -/
def record (id : arena.Id) : Record := arena.records[id]

/-- The text of the record with a number. -/
def text (id : arena.Id) : Text := (arena.record id).text

theorem text_id_ne_nil (id : arena.Id) : arena.text id ≠ [] :=
  arena.text_ne_nil _ (Array.getElem_mem _)

/-- The first code point of the text of a record. -/
def leadingUnit (id : arena.Id) : CodePoint := (arena.text id).head (arena.text_id_ne_nil id)

/-- The numbers with longer texts first, those with texts of the same length in their order. -/
def longestFirst (ids : List arena.Id) : List arena.Id :=
  ids.mergeSort fun i j => (arena.text j).length ≤ (arena.text i).length

/-- The numbers of the records that start with each code point. -/
def leadingUnitTable : Table CodePoint (List arena.Id) :=
  (Table.group (arena.ids.map fun id => (arena.leadingUnit id, id))).map arena.longestFirst

/-- The number of the last record with each short code in lower case. -/
def shortCodeTable : Table Text arena.Id :=
  Table.ofList (arena.ids.flatMap fun id =>
    (arena.record id).shortCodes.map fun code => (code.lowercase, id))

/-- The number of the last record with each unified code. -/
def unifiedCodeTable : Table Text arena.Id :=
  Table.ofList (arena.ids.map fun id => ((arena.record id).unifiedCode, id))

end Arena

/-- Records with the tables to find them. -/
structure Index extends Arena where
  byLeadingUnit : Table CodePoint (List toArena.Id)
  byShortCode : Table Text toArena.Id
  byUnifiedCode : Table Text toArena.Id
  shortCodes : List Text

namespace Index

/-- The index of an arena. -/
def ofArena (arena : Arena) : Index where
  toArena := arena
  byLeadingUnit := arena.leadingUnitTable
  byShortCode := arena.shortCodeTable
  byUnifiedCode := arena.unifiedCodeTable
  shortCodes := Text.sorted arena.shortCodeTable.keys

/-- The index of the records that have a text. -/
def ofRecords (records : List Record) : Index := ofArena (.ofRecords records)

/-- The index without records. -/
def empty : Index := ofRecords []

instance : EmptyCollection Index := ⟨empty⟩

instance : Inhabited Index := ⟨empty⟩

/-- The part of the program that writes about indexes. -/
def origin : Text := "emoji_index"

/-- The warning about a record without a text. -/
def noTextWarning (record : Record) : Text :=
  "Запись " ++ record.unifiedCode ++ " без текста не индексируется"

variable (index : Index)

/-- The number of records. -/
def size : Nat := index.records.size

/-- The report on an index. -/
def builtMessage : Text :=
  "Построен индекс: " ++ Text.ofNat index.size ++ " записей, " ++ Text.ofNat index.byShortCode.size
    ++ " алиасов, " ++ Text.ofNat index.byLeadingUnit.size ++ " первых символов"

/-- The index of records, with a report on it and a warning about each record that has no text. -/
def build (records : List Record) : Logged Index := do
  let index := ofRecords records
  Logged.write ((records.filter (·.text = [])).map fun record =>
    ⟨.warning, some origin, noTextWarning record⟩)
  Logged.record .info origin index.builtMessage
  return index

/-- The records whose text starts with a code point. -/
def candidates (unit : CodePoint) : List index.Id := (index.byLeadingUnit.find? unit).getD []

/-- The records whose text starts with the only code point of a text. -/
def candidatesFor : Text → List index.Id
  | [unit] => index.candidates unit
  | _ => []

/-- The number of the record with a short code in any letter case. -/
def idOfShortCode? (code : Text) : Option index.Id := index.byShortCode.find? code.lowercase

/-- The number of the record with a unified code in any letter case. -/
def idOfUnifiedCode? (code : Text) : Option index.Id := index.byUnifiedCode.find? code.uppercase

/-- The record with a short code in any letter case. -/
def ofShortCode? (code : Text) : Option Record := (index.idOfShortCode? code).map index.record

/-- The record with a unified code in any letter case. -/
def ofUnifiedCode? (code : Text) : Option Record := (index.idOfUnifiedCode? code).map index.record

/-- The record at a place in the list of records, a negative place counted from its end. -/
def recordAt? (place : Int) : Option Record :=
  let fromStart := if place < 0 then place + index.size else place
  if fromStart < 0 then none else index.records[fromStart.toNat]?

/-- The most completions that are given unless another limit is set. -/
def defaultLimit : Int := 10

/-- The short codes that start with a text in any letter case, up to a limit. -/
def completions (start : Text) (limit : Option Int) : List Text :=
  Text.upTo limit (index.shortCodes.filter (start.lowercase.isPrefixOf ·))

end Index

end EmojiText
