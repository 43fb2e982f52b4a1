import PortKnock.Octets

/-!
# Object files

Files in the Executable and Linkable Format.  A file is readable if its header
is one of version one and everything that the header leads to lies within the
file, aligned as the word size asks for: the program headers, the section
headers, and the symbol tables with the sections that belong to them.
-/

namespace PortKnock.ObjectFile

/-! ## Words -/

inductive WordSize
  | bits32
  | bits64
  deriving DecidableEq, Repr

inductive ByteOrder
  | littleEndian
  | bigEndian
  deriving DecidableEq, Repr

/-- The octets that a word has and that offsets are a multiple of. -/
def WordSize.octets : WordSize → Nat
  | bits32 => 4
  | bits64 => 8

/-- A file with the form that its numbers have. -/
structure Source where
  file : ByteArray
  wordSize : WordSize
  byteOrder : ByteOrder

namespace Source

/-- The number that some octets from a place on make up. -/
def number (source : Source) (place length : Nat) : Nat :=
  let octets := (source.file.extract place (place + length)).toList
  match source.byteOrder with
  | .littleEndian => Octets.toNatLE octets
  | .bigEndian => Octets.toNatBE octets

/-- A number with as many octets as a word. -/
def word (source : Source) (place : Nat) : Nat :=
  source.number place source.wordSize.octets

/-- What depends on the word size. -/
def choose (source : Source) (narrow wide : Nat) : Nat :=
  match source.wordSize with
  | .bits32 => narrow
  | .bits64 => wide

/-- Whether the file holds the octets. -/
def holds (source : Source) (place length : Nat) : Bool :=
  place + length ≤ source.file.size

/-- Whether the file holds a table of words at a place that is aligned. -/
def holdsTable (source : Source) (place length : Nat) : Bool :=
  place % source.wordSize.octets = 0 && source.holds place length

end Source

/-! ## Sections -/

structure Section where
  kind : Nat
  offset : Nat
  size : Nat
  link : Nat
  info : Nat
  deriving DecidableEq, Repr

namespace Section

def symbolTable : Nat := 2
def stringTable : Nat := 3
/-- Relocations with addends. -/
def relocationsWithAddends : Nat := 4
/-- A section that takes no room in the file. -/
def noBits : Nat := 8
def relocations : Nat := 9
def dynamicSymbolTable : Nat := 11
/-- Section numbers that symbols have no room for. -/
def symbolSections : Nat := 18

def isRelocation (entry : Section) : Bool :=
  entry.kind = relocations || entry.kind = relocationsWithAddends

/-- The section whose header is at a place. -/
def read (source : Source) (place : Nat) : Section where
  kind := source.number (place + 4) 4
  offset := source.word (place + source.choose 16 24)
  size := source.word (place + source.choose 20 32)
  link := source.number (place + source.choose 24 40) 4
  info := source.number (place + source.choose 28 44) 4

/-- Whether the end of the section can be written in 64 bits. -/
def ends (entry : Section) : Bool :=
  entry.kind = noBits || entry.offset + entry.size < UInt64.size

end Section

namespace Source

/-! ## Headers -/

def headerSize (source : Source) : Nat := source.choose 52 64
def programHeaderSize (source : Source) : Nat := source.choose 32 56
def sectionHeaderSize (source : Source) : Nat := source.choose 40 64

def programTable (source : Source) : Nat := source.word (source.choose 28 32)
def sectionTable (source : Source) : Nat := source.word (source.choose 32 40)
def programEntrySize (source : Source) : Nat := source.number (source.choose 42 54) 2
def programCount (source : Source) : Nat := source.number (source.choose 44 56) 2
def sectionEntrySize (source : Source) : Nat := source.number (source.choose 46 58) 2
def sectionCount (source : Source) : Nat := source.number (source.choose 48 60) 2
def sectionNames (source : Source) : Nat := source.number (source.choose 50 62) 2

/-- The first section, which holds numbers that the header has no room for. -/
def firstSection? (source : Source) : Option Section :=
  if source.sectionTable ≠ 0 && source.sectionEntrySize = source.sectionHeaderSize
      && source.holdsTable source.sectionTable source.sectionHeaderSize then
    some (Section.read source source.sectionTable)
  else none

/-- All sections, none if they are not in the file. -/
def sections? (source : Source) : Option (List Section) := do
  if source.sectionTable = 0 then return []
  let count ←
    if source.sectionCount ≠ 0 then pure source.sectionCount
    else (·.size) <$> source.firstSection?
  if count = 0 then return []
  guard (source.sectionEntrySize = source.sectionHeaderSize)
  guard (source.holdsTable source.sectionTable (count * source.sectionHeaderSize))
  return (List.range count).map fun number =>
    Section.read source (source.sectionTable + number * source.sectionHeaderSize)

/-- Whether the program headers are in the file. -/
def programsReadable (source : Source) : Bool :=
  let count? :=
    if source.programCount < 0xffff then some source.programCount
    else source.firstSection?.map (·.info)
  source.programTable = 0 || count?.any fun count =>
    count = 0 || source.programEntrySize = source.programHeaderSize
      && source.holdsTable source.programTable (count * source.programHeaderSize)

/-- Whether the section that names the sections exists. -/
def namesReadable (source : Source) (sections : List Section) : Bool :=
  let number? :=
    if source.sectionNames < 0xffff then some source.sectionNames
    else source.firstSection?.map (·.link)
  sections.isEmpty || ((number?.bind (sections[·]?)).any (·.ends))

/-! ## Symbols -/

/-- Whether a section is text for the names of symbols; section zero stands for no text. -/
def stringsReadable (sections : List Section) (number : Nat) : Bool :=
  number = 0 || sections[number]?.any fun entry =>
    entry.kind = Section.stringTable && entry.ends

/-- Whether the first symbol table of a kind is in the file, if there is one. -/
def symbolsReadable (source : Source) (sections : List Section) (kind : Nat) : Bool :=
  match sections.findIdx? (·.kind = kind) with
  | none => true
  | some number =>
    sections[number]?.all fun table =>
      source.holdsTable table.offset table.size
        && stringsReadable sections table.link
        && sections.all fun entry =>
          !(entry.kind = Section.symbolSections && entry.link = number)
            || entry.offset % 4 = 0 && source.holds entry.offset entry.size

/-- Whether relocations with the symbols of the symbol table are for sections that exist and hold
no relocations. -/
def relocationsReadable (sections : List Section) : Bool :=
  let table := (sections.findIdx? (·.kind = Section.symbolTable)).getD 0
  sections.all fun entry =>
    !(entry.isRelocation && entry.link = table) || entry.info = 0
      || sections[entry.info]?.any fun target => !target.isRelocation

/-- The form of numbers that the start of a file tells. -/
def ofFile? (file : ByteArray) : Option Source := do
  let (wordSize, byteOrder) ←
    match (file.extract 0 7).toList with
    | [0x7f, 0x45, 0x4c, 0x46, wordSize, byteOrder, 1] => pure (wordSize, byteOrder)
    | _ => none
  let wordSize ← if wordSize = 1 then some WordSize.bits32
    else if wordSize = 2 then some .bits64 else none
  let byteOrder ← if byteOrder = 1 then some ByteOrder.littleEndian
    else if byteOrder = 2 then some .bigEndian else none
  return { file, wordSize, byteOrder }

end Source

/-- Whether a file is a readable object file. -/
def isReadable (file : ByteArray) : Bool :=
  match Source.ofFile? file with
  | none => false
  | some source =>
    source.holds 0 source.headerSize && source.programsReadable
      && source.sections?.any fun sections =>
        source.namesReadable sections
          && source.symbolsReadable sections Section.symbolTable
          && source.symbolsReadable sections Section.dynamicSymbolTable
          && Source.relocationsReadable sections

end PortKnock.ObjectFile
