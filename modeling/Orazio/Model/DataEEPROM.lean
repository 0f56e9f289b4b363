import Orazio.Lib.Flash

/-!
# The EEPROM of the dsPIC

Model of `DEE Emulation 16-bit.c` and `arch/dspic/eeprom.c`: the data EEPROM is a journal in pages of
program memory. Program memory is counted in words from the beginning of `emulationPages`; an operation of
the flash, from `UnlockWrite` to the end of the stall, is one step. The table page register is not modelled.
-/

namespace Orazio

abbrev DATA_EE_BANKS : Nat := 1
abbrev DATA_EE_SIZE : Nat := 255
abbrev DATA_EE_TOTAL_SIZE : Nat := DATA_EE_BANKS * DATA_EE_SIZE
abbrev NUM_DATA_EE_PAGES : Nat := 16
abbrev NUMBER_OF_INSTRUCTIONS_IN_PAGE : Nat := 512
abbrev NUMBER_OF_INSTRUCTIONS_IN_ROW : Nat := 64
abbrev ERASE_WRITE_CYCLE_MAX : Nat := 100

abbrev PAGE_CURRENT : UInt8 := 0
abbrev PAGE_EXPIRED : UInt8 := 0
abbrev PAGE_NOT_CURRENT : UInt8 := 1

abbrev STATUS_AVAILABLE : UInt8 := 18
abbrev STATUS_CURRENT : UInt8 := 19
abbrev STATUS_EXPIRED : UInt8 := 20

/-- A word of program memory, as `ReadPMHigh` and `ReadPMLow` read it. -/
structure PMWord where
  high : UInt8
  low : UInt16
  deriving DecidableEq, Repr

instance : Flash.Word PMWord where
  erased := ⟨0xFF, 0xFFFF⟩
  program old new := ⟨old.high &&& new.high, old.low &&& new.low⟩
  program_erased w := by
    show PMWord.mk (-1 &&& w.high) (-1 &&& w.low) = w
    rw [UInt8.neg_one_and, UInt16.neg_one_and]
  program_blank w := by
    show PMWord.mk (w.high &&& -1) (w.low &&& -1) = w
    rw [UInt8.and_neg_one, UInt16.and_neg_one]

/-- `DATA_EE_FLAGS`. -/
structure DataEEFlags where
  addrNotFound : Bool
  expiredPage : Bool
  packBeforePageFull : Bool
  packBeforeInit : Bool
  packSkipped : Bool
  illegalAddress : Bool
  pageCorrupt : Bool
  writeError : Bool
  deriving DecidableEq, Repr

/-- `dataEEFlags.val = 0`. -/
def DataEEFlags.zero : DataEEFlags :=
  ⟨false, false, false, false, false, false, false, false⟩

/-- The program memory, `dataEEFlags` and the operations of the flash so far, the first one first. -/
structure DataEE where
  memory : Nat → PMWord
  dataEEFlags : DataEEFlags
  operations : List (Flash.Op PMWord)

namespace DataEE

/-- The address of a page, `DEE_PAGE_TBL` and `DEE_PAGE_OFFSET` in one. -/
def pageAddress (bank page : Nat) : Nat :=
  (NUM_DATA_EE_PAGES * bank + page) * NUMBER_OF_INSTRUCTIONS_IN_PAGE

def setFlags (flags : DataEEFlags) (s : DataEE) : DataEE :=
  { s with dataEEFlags := flags }

def SetaddrNotFound (x : Bool) (s : DataEE) : DataEE :=
  s.setFlags { s.dataEEFlags with addrNotFound := x }

/-- `UnlockWrite`, with the operation that `NVMCON` and the write latches select. -/
def UnlockWrite (op : Flash.Op PMWord) (s : DataEE) : DataEE :=
  { s with
    memory := op.apply NUMBER_OF_INSTRUCTIONS_IN_PAGE s.memory
    operations := s.operations ++ [op] }

def GetPageStatus (bank page : Nat) (field : UInt8) (s : DataEE) : UInt8 :=
  let statusByte := (s.memory (pageAddress bank page)).high
  if field = STATUS_AVAILABLE then (statusByte &&& 4) >>> 2
  else if field = STATUS_CURRENT then (statusByte &&& 8) >>> 3
  else if field = STATUS_EXPIRED then (statusByte &&& 16) >>> 4
  else 0

def ErasePage (bank page : Nat) (s : DataEE) : DataEE :=
  s.UnlockWrite (.erase (NUM_DATA_EE_PAGES * bank + page))

/-- The loops over the pages: the first page with a property, or the number of pages if there is none. -/
def firstPage (p : Nat → Bool) : Nat :=
  ((List.range NUM_DATA_EE_PAGES).find? p).getD NUM_DATA_EE_PAGES

/-- The active page. -/
def activePage (bank : Nat) (s : DataEE) : Nat :=
  firstPage fun page => s.GetPageStatus bank page STATUS_CURRENT ≠ PAGE_NOT_CURRENT

/-- The offset of the first available location of the active page in bytes, or 0 if there is none. -/
def GetNextAvailCount (bank : Nat) (s : DataEE) : Nat :=
  let page := pageAddress bank (s.activePage bank)
  match (List.range' 1 (NUMBER_OF_INSTRUCTIONS_IN_PAGE - 1)).find? fun i => (s.memory (page + i)).high = 0xFF with
  | some i => 2 * i
  | none => 0

/-- The reverse search in a page for an address, from word `i` down to word 1. -/
def searchPage (page addr : Nat) (s : DataEE) : Nat → Option Nat
  | 0 => none
  | i + 1 => if (s.memory (page + (i + 1))).high.toNat = addr then some (i + 1) else searchPage page addr s i

def DataEERead (addr : UInt16) (s : DataEE) : UInt16 × DataEE :=
  if addr.toNat ≥ DATA_EE_TOTAL_SIZE then
    (0xFFFF, s.setFlags { s.dataEEFlags with illegalAddress := true })
  else
    let bank := addr.toNat / DATA_EE_SIZE
    let currentPage := s.activePage bank
    if currentPage = NUM_DATA_EE_PAGES then
      (0xFFFF, s.setFlags { s.dataEEFlags with pageCorrupt := true })
    else
      let page := pageAddress bank currentPage
      match s.searchPage page (addr.toNat % DATA_EE_SIZE) (NUMBER_OF_INSTRUCTIONS_IN_PAGE - 1) with
      | none => (0xFFFF, s.SetaddrNotFound true)
      | some i => ((s.memory (page + i)).low, s)

/-! ### Packing -/

/-- `DataEERead` of a location of a bank. -/
def readLocation (bank location : Nat) (s : DataEE) : UInt16 × DataEE :=
  s.DataEERead (UInt16.ofNat (DATA_EE_SIZE * bank + location))

/-- The words that `WritePMLow(0xFFFF, ..)` and `WritePMHigh(0xFF, ..)` fill the rest of a row with. -/
def padRow (row : List PMWord) : List PMWord :=
  row ++ List.replicate (NUMBER_OF_INSTRUCTIONS_IN_ROW - row.length) ⟨0xFF, 0xFFFF⟩

/-- The programming loops of `PackEE`, with `n` locations left: `row` is in the write latches, to be
programmed at `packedAddress`. A row is programmed when it is full, and the last one when it is padded. -/
def packRows (bank : Nat) (packedAddress : Nat) (row : List PMWord) (s : DataEE) : Nat → DataEE
  | 0 => s.UnlockWrite (.program packedAddress (padRow row))
  | n + 1 =>
    let (packedAddress, row, s) :=
      if row.length < NUMBER_OF_INSTRUCTIONS_IN_ROW then (packedAddress, row, s)
      else (packedAddress + NUMBER_OF_INSTRUCTIONS_IN_ROW, [], s.UnlockWrite (.program packedAddress row))
    let latchAddr := DATA_EE_SIZE - (n + 1)
    let (latchData, s) := s.readLocation bank latchAddr
    if s.dataEEFlags.addrNotFound then packRows bank packedAddress row (s.SetaddrNotFound false) n
    else packRows bank packedAddress (row ++ [⟨UInt8.ofNat latchAddr, latchData⟩]) s n

/-- The loop that verifies the packed page from an address on. A page without an erased word is more than
there are locations; it counts as not verified. -/
def verifyPage (bank : Nat) (packedAddress : Nat) (s : DataEE) : Nat → Bool × DataEE
  | 0 => (false, s)
  | n + 1 =>
    let word := s.memory packedAddress
    if word.high = 0xFF then (true, s)
    else
      let (data, s) := s.readLocation bank word.high.toNat
      if data ≠ word.low then (false, s) else verifyPage bank (packedAddress + 1) s n

/-- The next unexpired page after the active one. -/
def nextUnexpired (bank currentPage : Nat) (s : DataEE) : Option Nat :=
  ((List.range' 1 (NUM_DATA_EE_PAGES - 1)).map fun i => (currentPage + i) % NUM_DATA_EE_PAGES).find? fun page =>
    s.GetPageStatus bank page STATUS_EXPIRED ≠ PAGE_EXPIRED

/-- The status word of the packed page. -/
def packedStatus (currentStatus : PMWord) (packedPage : Nat) : PMWord :=
  let latchData := if packedPage = 0 then currentStatus.low + 1 else currentStatus.low
  if latchData.toNat ≥ ERASE_WRITE_CYCLE_MAX - 1 then ⟨currentStatus.high &&& 0b11101111, latchData⟩
  else ⟨currentStatus.high, latchData⟩

/-- The end of `PackEE`: the packed page becomes the active one. -/
def activatePage (bank currentPage packedPage : Nat) (s : DataEE) : UInt8 × DataEE :=
  let packedAddress := pageAddress bank packedPage
  let status := packedStatus (s.memory (pageAddress bank currentPage)) packedPage
  let s :=
    if status.low.toNat ≥ ERASE_WRITE_CYCLE_MAX - 1 then s.setFlags { s.dataEEFlags with expiredPage := true }
    else s
  let s := s.UnlockWrite (.program packedAddress [status])
  if s.memory packedAddress ≠ status then (7, s.setFlags { s.dataEEFlags with writeError := true })
  else
    let s := s.ErasePage bank currentPage
    (if s.dataEEFlags.expiredPage then 1 else 0, s)

def PackEE (bank : Nat) (s : DataEE) : UInt8 × DataEE :=
  let currentPage := s.activePage bank
  if currentPage = NUM_DATA_EE_PAGES then (3, s.setFlags { s.dataEEFlags with packBeforeInit := true })
  else
    match s.nextUnexpired bank currentPage with
    | none => (1, s.setFlags { s.dataEEFlags with expiredPage := true })
    | some packedPage =>
      let s :=
        if s.GetNextAvailCount bank ≠ 0 then s.setFlags { s.dataEEFlags with packBeforePageFull := true }
        else s
      let flags := s.dataEEFlags
      let s := s.SetaddrNotFound false
      let packedAddress := pageAddress bank packedPage
      let s := s.packRows bank packedAddress [⟨0xFF, 0xFFFF⟩] DATA_EE_SIZE
      let (verified, s) :=
        (s.setFlags flags).verifyPage bank (packedAddress + 1) (NUMBER_OF_INSTRUCTIONS_IN_PAGE - 1)
      if verified then s.activatePage bank currentPage packedPage
      else (7, s.setFlags { s.dataEEFlags with writeError := true })

/-! ### The functions of the user -/

/-- The iteration of `DataEEInit` for a bank, with the error that it returns. -/
def initBank (bank : Nat) (s : DataEE) : Option UInt8 × DataEE :=
  let isCurrent := fun page => s.GetPageStatus bank page STATUS_CURRENT = PAGE_CURRENT
  if firstPage (fun page => s.GetPageStatus bank page STATUS_EXPIRED ≠ PAGE_EXPIRED) = NUM_DATA_EE_PAGES then
    (some 1, s.setFlags { s.dataEEFlags with expiredPage := true })
  else
    let pageCnt := (List.range NUM_DATA_EE_PAGES).countP isCurrent
    if pageCnt = 0 then
      let s := s.ErasePage bank 0
      (none, s.UnlockWrite (.program (pageAddress bank 0) [⟨0xF3, 0⟩]))
    else if pageCnt = 1 then (none, s)
    else if pageCnt = 2 then
      let erasePage :=
        if isCurrent (NUM_DATA_EE_PAGES - 1) ∧ isCurrent 0 then 0
        else if s.activePage bank + 1 = NUM_DATA_EE_PAGES then 0
        else s.activePage bank + 1
      let s := s.ErasePage bank erasePage
      if s.GetNextAvailCount bank = 0 then (none, (s.PackEE bank).2) else (none, s)
    else (some 6, s.setFlags { s.dataEEFlags with pageCorrupt := true })

/-- The loop over the banks. -/
def initBanks : List Nat → DataEE → UInt8 × DataEE
  | [], s => (0, s)
  | bank :: banks, s =>
    match s.initBank bank with
    | (some e, s) => (e, s)
    | (none, s) => initBanks banks s

def DataEEInit (s : DataEE) : UInt8 × DataEE :=
  initBanks (List.range DATA_EE_BANKS) s

/-- `DataEEWrite` once the active page has been found and the data are known to have changed. -/
def writeWord (data addr : UInt16) (bank page : Nat) (s : DataEE) : UInt8 × DataEE :=
  let nextLoc := s.GetNextAvailCount bank
  if nextLoc = 0 then (4, s.setFlags { s.dataEEFlags with packSkipped := true })
  else
    let address := page + nextLoc / 2
    let location := addr.toNat % DATA_EE_SIZE
    let s := s.UnlockWrite (.program address [⟨UInt8.ofNat location, data⟩])
    let word := s.memory address
    if word.low.toUInt8 ≠ data.toUInt8 ∨ word.high.toNat ≠ location ∨
        (word.low >>> 8).toUInt8 ≠ (data >>> 8).toUInt8 then
      (7, s.setFlags { s.dataEEFlags with writeError := true })
    else if nextLoc + 2 = NUMBER_OF_INSTRUCTIONS_IN_PAGE * 2 then (0, (s.PackEE bank).2)
    else (0, s)

def DataEEWrite (data addr : UInt16) (s : DataEE) : UInt8 × DataEE :=
  if addr.toNat ≥ DATA_EE_TOTAL_SIZE then
    (5, s.setFlags { s.dataEEFlags with illegalAddress := true })
  else
    let bank := addr.toNat / DATA_EE_SIZE
    let currentPage := s.activePage bank
    if currentPage = NUM_DATA_EE_PAGES then
      (6, s.setFlags { s.dataEEFlags with pageCorrupt := true })
    else
      let flags := s.dataEEFlags
      let (value, s) := s.DataEERead addr
      if value = data ∧ s.dataEEFlags.addrNotFound = false then (0, s.setFlags flags)
      else (s.setFlags flags).writeWord data addr bank (pageAddress bank currentPage)

/-! ### `eeprom.c` -/

def EEPROM_init (s : DataEE) : DataEE :=
  s.DataEEInit.2.setFlags .zero

/-- The loop of `EEPROM_read`, with `n` bytes left. -/
def readBytes (src : UInt16) (s : DataEE) : Nat → List UInt8 × DataEE
  | 0 => ([], s)
  | n + 1 =>
    let (data, s) := s.DataEERead src
    let (bytes, s) := readBytes (src + 1) s n
    (data.toUInt8 :: bytes, s)

/-- `EEPROM_read`; the end address is computed with 16 bits. -/
def EEPROM_read (src size : UInt16) (s : DataEE) : List UInt8 × DataEE :=
  s.readBytes src ((src + size).toNat - src.toNat)

def EEPROM_write (dest : UInt16) (s : DataEE) : List UInt8 → DataEE
  | [] => s
  | b :: bs => EEPROM_write (dest + 1) (s.DataEEWrite b.toUInt16 dest).2 bs

end DataEE

end Orazio
