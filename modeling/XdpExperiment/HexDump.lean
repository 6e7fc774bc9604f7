import XdpExperiment.XdpData
import XdpExperiment.Text

/-!
# The hex dump of a payload

`payload_hex_dump` assembles each line in two buffers on the stack. The cells of the hexadecimal
part overlap by their terminating zeros; what the buffers contained before does not matter.
-/

namespace XdpExperiment

/-- `bytes_per_line`. -/
abbrev BYTES_PER_LINE : Nat := 16

/-- The local variables for one line. -/
structure LineBuffers where
  hexPart : Vector Char (3 * BYTES_PER_LINE + 1)
  asciiPart : Vector Char (BYTES_PER_LINE + 1)
  asciiPos : Nat

/-- The character of a byte in the right-hand part of a line. -/
def visible (currentByte : UInt8) : Char :=
  if 0x20 ≤ currentByte ∧ currentByte ≤ 0x7e then Char.ofNat currentByte.toNat else '.'

/-- One round of the inner loop. -/
def dumpColumn (payloadBytes : List UInt8) (lineOffset column : Nat) (line : LineBuffers) :
    Except Text.Fault LineBuffers := do
  let byteIndex := lineOffset + column
  if within : byteIndex < payloadBytes.length then
    let currentByte := payloadBytes.get ⟨byteIndex, within⟩
    let hexPart ← Text.snprintfAt line.hexPart (3 * column) 4 (hex02 currentByte ++ [' '])
    let asciiPart ← Text.store line.asciiPart line.asciiPos (visible currentByte)
    return { hexPart, asciiPart, asciiPos := line.asciiPos + 1 }
  else
    let hexPart ← Text.snprintfAt line.hexPart (3 * column) 4 [' ', ' ', ' ']
    return { line with hexPart }

/-- One round of the outer loop, in variables that contain anything at first. -/
def dumpLine (payloadBytes : List UInt8) (lineOffset : Nat) (stale : LineBuffers) :
    Except Text.Fault (List Char) := do
  let mut line := { stale with asciiPos := 0 }
  for column in [0:BYTES_PER_LINE] do
    line ← dumpColumn payloadBytes lineOffset column line
  let asciiPart ← Text.store line.asciiPart line.asciiPos Text.nul
  let hexText ← Text.cString line.hexPart
  let asciiText ← Text.cString asciiPart
  return [' ', ' ', ' ', ' '] ++ hexText ++ [' ', '|'] ++ asciiText ++ ['|', '\n']

/-- `payload_hex_dump()`, given what the stack contains at the start of each line. -/
def XdpData.payloadHexDump (stale : Nat → LineBuffers) (packetData : XdpData) :
    Except Text.Fault String := do
  let mut hexDump := ""
  for lineOffset in [0:packetData.payloadBytes.length:BYTES_PER_LINE] do
    let line ← dumpLine packetData.payloadBytes lineOffset (stale lineOffset)
    hexDump := hexDump ++ String.ofList line
  return hexDump

/-! ## What a dump shows -/

/-- The hexadecimal cell of a byte. -/
def hexCell (byte : UInt8) : List Char := hex02 byte ++ [' ']

/-- The line of up to sixteen bytes. -/
def hexLine (bytes : List UInt8) : List Char :=
  [' ', ' ', ' ', ' '] ++ (bytes.flatMap hexCell ++ List.replicate (48 - 3 * bytes.length) ' ') ++
    [' ', '|'] ++ bytes.map visible ++ ['|', '\n']

/-- The bytes of the line at some offset. -/
def lineBytes (payload : List UInt8) (offset : Nat) : List UInt8 := (payload.drop offset).take 16

/-- The first lines of a payload. -/
def hexLines (payload : List UInt8) (count : Nat) : List Char :=
  (List.range count).flatMap fun line => hexLine (lineBytes payload (16 * line))

/-- How many lines a payload takes. -/
def lineCount (payload : List UInt8) : Nat := (payload.length + 15) / 16

/-- Read cells until the first empty one. -/
def readCells : List Char → List UInt8
  | high :: low :: _ :: cells =>
      if high = ' ' then []
      else UInt8.ofNat (16 * Text.hexValue high + Text.hexValue low) :: readCells cells
  | _ => []

/-- Read a dump back from its hexadecimal columns alone. -/
def readDump (dump : List Char) : List UInt8 :=
  if dump = [] then []
  else
    let bytes := readCells ((dump.drop 4).take 48)
    bytes ++ readDump (dump.drop (56 + bytes.length))
termination_by dump.length
decreasing_by
  rename_i nonempty
  have positive := List.length_pos_iff.mpr nonempty
  rw [List.length_drop]
  omega

theorem length_lineBytes (payload : List UInt8) (offset : Nat) :
    (lineBytes payload offset).length = min 16 (payload.length - offset) := by
  rw [lineBytes, List.length_take, List.length_drop]

theorem length_flatMap_hexCell (bytes : List UInt8) :
    (bytes.flatMap hexCell).length = 3 * bytes.length := by
  induction bytes with
  | nil => rfl
  | cons byte bytes ih =>
      rw [List.flatMap_cons, List.length_append, ih, List.length_cons]
      simp only [hexCell, hex02, List.length_append, List.length_cons, List.length_nil]
      omega

/-! ## Printable characters -/

/-- Printable ASCII. -/
def Printable (character : Char) : Prop := 0x20 ≤ character.toNat ∧ character.toNat ≤ 0x7e

instance (character : Char) : Decidable (Printable character) :=
  inferInstanceAs (Decidable (_ ∧ _))

theorem Printable.ne_nul {character : Char} (printable : Printable character) :
    character ≠ Text.nul := by
  rintro rfl
  revert printable
  decide

theorem printable_visible (byte : UInt8) : Printable (visible byte) := by
  rw [visible]
  split
  case isFalse => decide
  case isTrue range =>
    have lower : 0x20 ≤ byte.toNat := UInt8.le_iff_toNat_le.mp range.1
    have upper : byte.toNat ≤ 0x7e := UInt8.le_iff_toNat_le.mp range.2
    have ascii : ∀ code : Fin 127, (Char.ofNat code.val).toNat = code.val := by decide
    have code : (Char.ofNat byte.toNat).toNat = byte.toNat := ascii ⟨byte.toNat, by omega⟩
    rw [Printable, code]
    exact ⟨lower, upper⟩

theorem printable_digitChar {digit : Nat} (digit_lt : digit < 16) :
    Printable digit.digitChar := by
  have all : ∀ digit : Fin 16, Printable digit.val.digitChar := by decide
  exact all ⟨digit, digit_lt⟩

theorem printable_hexCell (byte : UInt8) : ∀ character ∈ hexCell byte, Printable character := by
  have byte_lt := byte.toNat_lt
  intro character member
  simp only [hexCell, hex02, List.mem_append, List.mem_cons, List.not_mem_nil, or_false] at member
  rcases member with (rfl | rfl) | rfl
  · exact printable_digitChar (by omega)
  · exact printable_digitChar (by omega)
  · decide

/-! ## One line -/

/-- The first cells of a line. -/
def hexCells (bytes : List UInt8) (columns : Nat) : List Char :=
  (bytes.take columns).flatMap hexCell ++ List.replicate (3 * (columns - bytes.length)) ' '

theorem length_hexCells (bytes : List UInt8) (columns : Nat) :
    (hexCells bytes columns).length = 3 * columns := by
  rw [hexCells, List.length_append, length_flatMap_hexCell, List.length_take, List.length_replicate]
  omega

theorem hexCells_succ_of_lt {bytes : List UInt8} {column : Nat} (within : column < bytes.length) :
    hexCells bytes (column + 1) = hexCells bytes column ++ hexCell bytes[column] := by
  have noPadding : column - bytes.length = 0 := by omega
  have noPadding' : column + 1 - bytes.length = 0 := by omega
  rw [hexCells, hexCells, List.take_succ_eq_append_getElem within, noPadding, noPadding',
    List.flatMap_append, List.flatMap_singleton]
  simp only [Nat.mul_zero, List.replicate_zero, List.append_nil]

theorem hexCells_succ_of_le {bytes : List UInt8} {column : Nat} (beyond : bytes.length ≤ column) :
    hexCells bytes (column + 1) = hexCells bytes column ++ [' ', ' ', ' '] := by
  have padding : 3 * (column + 1 - bytes.length) = 3 * (column - bytes.length) + 3 := by omega
  rw [hexCells, hexCells, List.take_of_length_le (by omega), List.take_of_length_le beyond, padding,
    ← List.replicate_append_replicate, List.append_assoc]
  rfl

/-- The buffers after some rounds of the inner loop. -/
structure Filled (bytes : List UInt8) (columns : Nat) (line : LineBuffers) : Prop where
  hexPart : Text.Starts line.hexPart (hexCells bytes columns)
  terminated : 0 < columns → Text.Starts line.hexPart (hexCells bytes columns ++ [Text.nul])
  asciiPart : Text.Starts line.asciiPart ((bytes.take columns).map visible)
  asciiPos : line.asciiPos = (bytes.take columns).length

namespace Filled

variable {bytes : List UInt8} {column : Nat} {line : LineBuffers}

/-- Printing a cell of three characters stays inside the buffer and keeps it terminated. -/
theorem printCell (filled : Filled bytes column line) (inLine : column < 16) {cell : List Char}
    (three : cell.length = 3) :
    ∃ hexPart, Text.snprintfAt line.hexPart (3 * column) 4 cell = .ok hexPart ∧
      Text.Starts hexPart (hexCells bytes column ++ cell ++ [Text.nul]) := by
  have cells := length_hexCells bytes column
  have room : (hexCells bytes column).length + cell.length < 3 * 16 + 1 := by omega
  have printed := filled.hexPart.snprintfAt (by omega : cell.length < 4) room
  rwa [cells] at printed

/-- A visible character stays inside its buffer. -/
theorem storeVisible (filled : Filled bytes column line) (inLine : column < 16) (character : Char) :
    ∃ asciiPart, Text.store line.asciiPart line.asciiPos character = .ok asciiPart ∧
      Text.Starts asciiPart ((bytes.take column).map visible ++ [character]) := by
  have room : ((bytes.take column).map visible).length < 16 + 1 := by
    rw [List.length_map, List.length_take]
    omega
  have stored := filled.asciiPart.store room character
  rwa [List.length_map, ← filled.asciiPos] at stored

end Filled

theorem dumpColumn_filled {payloadBytes : List UInt8} {lineOffset column : Nat}
    {line : LineBuffers} (inLine : column < 16)
    (filled : Filled (lineBytes payloadBytes lineOffset) column line) :
    ∃ line', dumpColumn payloadBytes lineOffset column line = .ok line' ∧
      Filled (lineBytes payloadBytes lineOffset) (column + 1) line' := by
  have length := length_lineBytes payloadBytes lineOffset
  by_cases within : lineOffset + column < payloadBytes.length
  · have inBytes : column < (lineBytes payloadBytes lineOffset).length := by omega
    have same :
        payloadBytes[lineOffset + column] = (lineBytes payloadBytes lineOffset)[column] := by
      simp [lineBytes]
    obtain ⟨hexPart, printed, cells⟩ :=
      filled.printCell inLine (rfl : (hexCell payloadBytes[lineOffset + column]).length = 3)
    obtain ⟨asciiPart, stored, characters⟩ :=
      filled.storeVisible inLine (visible payloadBytes[lineOffset + column])
    refine ⟨⟨hexPart, asciiPart, line.asciiPos + 1⟩, ?_, ?_⟩
    · rw [dumpColumn, dif_pos within]
      change Text.snprintfAt line.hexPart (3 * column) 4 (hexCell payloadBytes[lineOffset + column])
        >>= _ = _
      rw [printed]
      change Text.store line.asciiPart line.asciiPos (visible payloadBytes[lineOffset + column])
        >>= _ = _
      rw [stored]
      rfl
    · rw [same, ← hexCells_succ_of_lt inBytes] at cells
      constructor
      · exact cells.of_append
      · exact fun _ => cells
      · rw [List.take_succ_eq_append_getElem inBytes, List.map_append, ← same]
        exact characters
      · rw [List.take_succ_eq_append_getElem inBytes, List.length_append, ← filled.asciiPos]
        rfl
  · have beyond : (lineBytes payloadBytes lineOffset).length ≤ column := by omega
    obtain ⟨hexPart, printed, cells⟩ :=
      filled.printCell inLine (rfl : [' ', ' ', ' '].length = 3)
    refine ⟨{ line with hexPart }, ?_, ?_⟩
    · rw [dumpColumn, dif_neg within, printed]
      rfl
    · rw [← hexCells_succ_of_le beyond] at cells
      have unchanged : (lineBytes payloadBytes lineOffset).take (column + 1) =
          (lineBytes payloadBytes lineOffset).take column := by
        rw [List.take_of_length_le beyond, List.take_of_length_le (by omega)]
      constructor
      · exact cells.of_append
      · exact fun _ => cells
      · rw [unchanged]
        exact filled.asciiPart
      · rw [unchanged]
        exact filled.asciiPos

theorem printable_hexCells (bytes : List UInt8) (columns : Nat) :
    ∀ character ∈ hexCells bytes columns, Printable character := by
  intro character member
  rcases List.mem_append.mp member with cell | padding
  · obtain ⟨byte, -, inCell⟩ := List.mem_flatMap.mp cell
    exact printable_hexCell byte character inCell
  · rw [(List.mem_replicate.mp padding).2]
    decide

theorem nul_notMem {text : List Char} (printable : ∀ character ∈ text, Printable character) :
    Text.nul ∉ text :=
  fun member => (printable Text.nul member).ne_nul rfl

/-- The inner loop fills both buffers, whatever they contained. -/
theorem dumpColumns_filled (payloadBytes : List UInt8) (lineOffset : Nat) {line : LineBuffers}
    (start : line.asciiPos = 0) :
    ∃ line', (forIn [0:BYTES_PER_LINE] line fun column line =>
        dumpColumn payloadBytes lineOffset column line >>= fun line => pure (.yield line)) =
        .ok line' ∧
      Filled (lineBytes payloadBytes lineOffset) 16 line' := by
  have filled : Filled (lineBytes payloadBytes lineOffset) 0 line := by
    constructor
    · simpa [hexCells] using Text.Starts.nil _
    · exact fun positive => absurd positive (Nat.lt_irrefl 0)
    · simpa using Text.Starts.nil _
    · rw [start, List.take_zero, List.length_nil]
  apply Text.forIn_range _ filled
  intro column inLine line filled
  obtain ⟨line', round, kept⟩ := dumpColumn_filled inLine filled
  refine ⟨line', ?_, kept⟩
  simp only [Nat.zero_add, Nat.one_mul, round]
  rfl

/-- One line shows its bytes, whatever the buffers contained. -/
theorem dumpLine_eq (payloadBytes : List UInt8) (lineOffset : Nat) (stale : LineBuffers) :
    dumpLine payloadBytes lineOffset stale =
      .ok (hexLine (lineBytes payloadBytes lineOffset)) := by
  let bytes := lineBytes payloadBytes lineOffset
  have short : bytes.length ≤ 16 := by
    rw [length_lineBytes]
    exact Nat.min_le_left _ _
  have whole : bytes.take 16 = bytes := List.take_of_length_le short
  obtain ⟨line, rounds, filled⟩ :=
    @dumpColumns_filled payloadBytes lineOffset { stale with asciiPos := 0 } rfl
  have asciiPart := filled.asciiPart
  have asciiPos := filled.asciiPos
  rw [whole] at asciiPart asciiPos
  obtain ⟨asciiPart', stored, terminated⟩ := asciiPart.store (by
    rw [List.length_map]
    exact Nat.lt_succ_of_le short) Text.nul
  rw [List.length_map, ← asciiPos] at stored
  have hexText := (filled.terminated (by decide)).cString (nul_notMem (printable_hexCells bytes 16))
  have asciiText := terminated.cString (nul_notMem (by
    intro character member
    obtain ⟨byte, -, rfl⟩ := List.mem_map.mp member
    exact printable_visible byte))
  have columns : hexCells bytes 16 =
      bytes.flatMap hexCell ++ List.replicate (48 - 3 * bytes.length) ' ' := by
    rw [hexCells, whole, Nat.mul_sub]
  change (forIn [0:BYTES_PER_LINE] _ _ >>= _) = _
  rw [rounds]
  change (Text.store line.asciiPart line.asciiPos Text.nul >>= _) = _
  rw [stored]
  change (Text.cString line.hexPart >>= _) = _
  rw [hexText]
  change (Text.cString asciiPart' >>= _) = _
  rw [asciiText, columns]
  rfl

/-! ## The whole dump -/

theorem hexLines_succ (payload : List UInt8) (count : Nat) :
    hexLines payload (count + 1) =
      hexLines payload count ++ hexLine (lineBytes payload (16 * count)) := by
  rw [hexLines, List.range_succ, List.flatMap_append, List.flatMap_singleton, hexLines]

/-- The dump is the lines of the payload, whatever the stack contained. -/
theorem payloadHexDump_eq (stale : Nat → LineBuffers) (packetData : XdpData) :
    packetData.payloadHexDump stale =
      .ok (String.ofList
        (hexLines packetData.payloadBytes (lineCount packetData.payloadBytes))) := by
  let range : Std.Legacy.Range := [0:packetData.payloadBytes.length:BYTES_PER_LINE]
  have size : range.size = lineCount packetData.payloadBytes := rfl
  obtain ⟨hexDump, rounds, lines⟩ := @Text.forIn_range _ _
    (fun lineOffset hexDump =>
      dumpLine packetData.payloadBytes lineOffset (stale lineOffset) >>= fun line =>
        pure (.yield (hexDump ++ String.ofList line)))
    (fun count hexDump => hexDump = String.ofList (hexLines packetData.payloadBytes count)) range
    (by
      rintro index - _ rfl
      refine ⟨_, by rw [dumpLine_eq]; rfl, ?_⟩
      rw [hexLines_succ, String.ofList_append]
      simp only [range, Nat.zero_add, BYTES_PER_LINE]) "" rfl
  rw [size] at lines
  rw [XdpData.payloadHexDump, ← lines]
  change (forIn range _ _ >>= pure) = _
  rw [bind_pure]
  exact rounds

/-! ## Reading a dump back -/

theorem length_hexLine {bytes : List UInt8} (short : bytes.length ≤ 16) :
    (hexLine bytes).length = 56 + bytes.length := by
  simp only [hexLine, List.length_append, length_flatMap_hexCell, List.length_replicate,
    List.length_map, List.length_cons, List.length_nil]
  omega

theorem hexValue_hex02 (byte : UInt8) :
    UInt8.ofNat (16 * Text.hexValue (byte.toNat / 16).digitChar +
      Text.hexValue (byte.toNat % 16).digitChar) = byte := by
  have byte_lt := byte.toNat_lt
  rw [Text.hexValue_digitChar (by omega), Text.hexValue_digitChar (by omega), Nat.div_add_mod,
    UInt8.ofNat_toNat]

theorem readCells_columns (bytes : List UInt8) (padding : Nat) :
    readCells (bytes.flatMap hexCell ++ List.replicate padding ' ') = bytes := by
  induction bytes with
  | nil =>
      obtain _ | _ | _ | padding := padding
      all_goals rfl
  | cons byte bytes ih =>
      have byte_lt := byte.toNat_lt
      have digit : (byte.toNat / 16).digitChar ≠ ' ' := by
        have digits : ∀ digit : Fin 16, digit.val.digitChar ≠ ' ' := by decide
        exact digits ⟨byte.toNat / 16, by omega⟩
      rw [List.flatMap_cons, List.append_assoc]
      change readCells ((byte.toNat / 16).digitChar :: (byte.toNat % 16).digitChar :: ' ' ::
        (bytes.flatMap hexCell ++ List.replicate padding ' ')) = _
      rw [readCells, if_neg digit, ih, hexValue_hex02]

/-- The columns of the first line are those of its bytes. -/
theorem columns_hexLine {bytes : List UInt8} (short : bytes.length ≤ 16) (dump : List Char) :
    ((hexLine bytes ++ dump).drop 4).take 48 =
      bytes.flatMap hexCell ++ List.replicate (48 - 3 * bytes.length) ' ' := by
  have width :
      (bytes.flatMap hexCell ++ List.replicate (48 - 3 * bytes.length) ' ').length = 48 := by
    rw [List.length_append, length_flatMap_hexCell, List.length_replicate]
    omega
  simp only [hexLine, List.append_assoc]
  rw [← List.append_assoc (bytes.flatMap hexCell)]
  exact List.take_left' width

theorem readDump_hexLine {bytes : List UInt8} (short : bytes.length ≤ 16) (dump : List Char) :
    readDump (hexLine bytes ++ dump) = bytes ++ readDump dump := by
  have nonempty : hexLine bytes ++ dump ≠ [] := List.cons_ne_nil _ _
  rw [readDump, if_neg nonempty, columns_hexLine short, readCells_columns]
  change bytes ++ readDump ((hexLine bytes ++ dump).drop (56 + bytes.length)) = _
  rw [List.drop_left' (length_hexLine short)]

/-- The bytes of the first lines are the first bytes of the payload. -/
theorem readDump_hexLines (payload : List UInt8) (count : Nat) (dump : List Char) :
    readDump (hexLines payload count ++ dump) = payload.take (16 * count) ++ readDump dump := by
  induction count generalizing dump with
  | zero => rfl
  | succ count ih =>
      have short : (lineBytes payload (16 * count)).length ≤ 16 := by
        rw [length_lineBytes]
        exact Nat.min_le_left _ _
      rw [hexLines_succ, List.append_assoc, ih, readDump_hexLine short, Nat.mul_succ, List.take_add,
        List.append_assoc]
      rfl

theorem readDump_lines (payload : List UInt8) :
    readDump (hexLines payload (lineCount payload)) = payload := by
  have whole : payload.length ≤ 16 * lineCount payload := by
    rw [lineCount]
    omega
  have lines := readDump_hexLines payload (lineCount payload) []
  rw [List.append_nil, List.take_of_length_le whole] at lines
  rw [lines, readDump, if_pos rfl, List.append_nil]

theorem printable_hexLine (bytes : List UInt8) :
    ∀ character ∈ hexLine bytes, Printable character ∨ character = '\n' := by
  intro character member
  simp only [hexLine, List.mem_append, List.mem_cons, List.not_mem_nil, or_false, or_self] at member
  obtain (((rfl | cell | padding) | rfl | rfl) | shown) | rfl | rfl := member
  · decide
  · obtain ⟨byte, -, inCell⟩ := List.mem_flatMap.mp cell
    exact .inl (printable_hexCell byte character inCell)
  · rw [(List.mem_replicate.mp padding).2]
    decide
  · decide
  · decide
  · obtain ⟨byte, -, rfl⟩ := List.mem_map.mp shown
    exact .inl (printable_visible byte)
  · decide
  · decide

theorem printable_hexLines (payload : List UInt8) (count : Nat) :
    ∀ character ∈ hexLines payload count, Printable character ∨ character = '\n' := by
  intro character member
  obtain ⟨line, -, inLine⟩ := List.mem_flatMap.mp member
  exact printable_hexLine _ character inLine

/-- A dump is the lines of its payload, in printable characters and newlines, whatever the stack
contained; no store leaves its buffer and no text lacks its end. The payload can be read back from
the hexadecimal columns alone, so that equal dumps show equal payloads. -/
theorem payloadHexDump_faithful (packetData : XdpData) :
    ∃ dump : String,
      (∀ stale, packetData.payloadHexDump stale = .ok dump) ∧
      dump.toList = hexLines packetData.payloadBytes (lineCount packetData.payloadBytes) ∧
      (∀ line < lineCount packetData.payloadBytes,
        (lineBytes packetData.payloadBytes (16 * line)).length =
            min 16 (packetData.payloadBytes.length - 16 * line) ∧
          (hexLine (lineBytes packetData.payloadBytes (16 * line))).length =
            56 + min 16 (packetData.payloadBytes.length - 16 * line)) ∧
      readDump dump.toList = packetData.payloadBytes ∧
      (∀ (other : XdpData) (stale : Nat → LineBuffers), other.payloadHexDump stale = .ok dump →
        other.payloadBytes = packetData.payloadBytes) ∧
      ∀ character ∈ dump.toList, Printable character ∨ character = '\n' := by
  refine ⟨String.ofList (hexLines packetData.payloadBytes (lineCount packetData.payloadBytes)),
    fun stale => payloadHexDump_eq stale packetData, String.toList_ofList, ?_, ?_, ?_, ?_⟩
  · intro line _
    have size := length_lineBytes packetData.payloadBytes (16 * line)
    refine ⟨size, ?_⟩
    rw [length_hexLine (by omega), size]
  · rw [String.toList_ofList, readDump_lines]
  · intro other stale same
    rw [payloadHexDump_eq, Except.ok.injEq, String.ofList_inj] at same
    rw [← readDump_lines other.payloadBytes, same, readDump_lines]
  · rw [String.toList_ofList]
    exact printable_hexLines _ _

end XdpExperiment
