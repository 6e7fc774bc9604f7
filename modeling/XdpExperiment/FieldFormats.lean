import XdpExperiment.Application
import XdpExperiment.Format
import XdpExperiment.HexDump

/-!
# Formats of packet fields

The texts of addresses, ports, protocols and payloads, each with what is printed behind it, can be
read back.
-/

namespace XdpExperiment

open Bytes Text

/-! ## Numbers -/

/-- The value of a decimal text. -/
def decimalValue (text : List Char) : Nat := Nat.ofDigitChars 10 text 0

theorem decimalValue_toDigits (number : Nat) : decimalValue (Nat.toDigits 10 number) = number :=
  Nat.ofDigitChars_ten_toDigits

theorem notMem_toDigits {character : Char} (other : character.isDigit = false) (number : Nat) :
    character ∉ Nat.toDigits 10 number := by
  intro member
  rw [Nat.isDigit_of_mem_toDigits (by decide) (by decide) member] at other
  cases other

theorem notDigit_space : ' '.isDigit = false := rfl

theorem notDigit_colon : ':'.isDigit = false := rfl

theorem notDigit_parenthesis : ')'.isDigit = false := rfl

/-- A number with a character behind it that is no digit. -/
def numberFormat (last : Char) (other : last.isDigit = false) : Format Nat :=
  .terminated last (Nat.toDigits 10) decimalValue (notMem_toDigits other) decimalValue_toDigits

/-- `%u` of a port. -/
def portFormat (last : Char) (other : last.isDigit = false) : Format UInt16 :=
  .terminated last (fun port => Nat.toDigits 10 port.toNat)
    (fun text => UInt16.ofNat (decimalValue text)) (fun port => notMem_toDigits other port.toNat)
    (fun port => by rw [decimalValue_toDigits, UInt16.ofNat_toNat])

theorem toList_toString_port (port : UInt16) :
    (toString port).toList = Nat.toDigits 10 port.toNat :=
  String.toList_ofList

theorem toList_toString_nat (number : Nat) :
    (toString number).toList = Nat.toDigits 10 number :=
  String.toList_ofList

/-- `%04x`. -/
def hex04 (number : UInt16) : List Char :=
  [Nat.digitChar (number.toNat / 4096), Nat.digitChar (number.toNat / 256 % 16),
    Nat.digitChar (number.toNat / 16 % 16), Nat.digitChar (number.toNat % 16)]

/-- The value of a hexadecimal text. -/
def hexadecimalValue (text : List Char) : Nat :=
  text.foldl (fun number digit => 16 * number + hexValue digit) 0

theorem hexadecimalValue_hex04 (number : UInt16) :
    UInt16.ofNat (hexadecimalValue (hex04 number)) = number := by
  have number_lt := number.toNat_lt
  apply UInt16.toNat_inj.mp
  simp only [hex04, hexadecimalValue, List.foldl_cons, List.foldl_nil]
  rw [hexValue_digitChar (by omega), hexValue_digitChar (by omega),
    hexValue_digitChar (by omega), hexValue_digitChar (by omega), UInt16.toNat_ofNat']
  omega

def hexFormat : Format UInt16 :=
  .fixed 4 hex04 (fun text => UInt16.ofNat (hexadecimalValue text)) (fun _ => rfl)
    hexadecimalValue_hex04

/-! ## Addresses -/

/-- The byte of two hexadecimal digits at some place of a text. -/
def hexByteAt (text : List Char) (place : Nat) : UInt8 :=
  UInt8.ofNat (16 * hexValue (text.getD place ' ') + hexValue (text.getD (place + 1) ' '))

/-- The address of a `%02x:...:%02x` text. -/
def macOfText (text : List Char) : Vector UInt8 6 :=
  Vector.ofFn fun index => hexByteAt text (3 * index.val)

theorem length_colonHex_mac (mac : Vector UInt8 6) : (colonHex mac.toList).length = 17 := by
  rw [toList_six]
  rfl

theorem macOfText_colonHex (mac : Vector UInt8 6) : macOfText (colonHex mac.toList) = mac := by
  rw [toList_six]
  apply Vector.ext
  intro index bound
  rw [macOfText, Vector.getElem_ofFn]
  obtain rfl | rfl | rfl | rfl | rfl | rfl : index = 0 ∨ index = 1 ∨ index = 2 ∨ index = 3 ∨
    index = 4 ∨ index = 5 := by omega
  all_goals exact hexValue_hex02 _

def macFormat : Format (Vector UInt8 6) :=
  .fixed 17 (fun mac => colonHex mac.toList) macOfText length_colonHex_mac macOfText_colonHex

theorem splitOn_dottedQuad {octets : List UInt8} (nonempty : octets ≠ []) :
    (dottedQuad octets).splitOn '.' = octets.map decimal := by
  apply List.splitOn_intercalate '.' _ (by simpa)
  intro part member
  obtain ⟨octet, -, rfl⟩ := List.mem_map.mp member
  exact dot_notMem_decimal octet

theorem notMem_dottedQuad {character : Char} (other : character.isDigit = false)
    (noDot : character ≠ '.') (address : Vector UInt8 4) :
    character ∉ dottedQuad address.toList := by
  have digits (octet : UInt8) : character ∉ decimal octet := notMem_toDigits other octet.toNat
  rw [toList_four, dottedQuad]
  simp [digits, noDot, List.intercalate_cons_cons]

/-- The address of a dotted quad. -/
def addressOfText (text : List Char) : Vector UInt8 4 :=
  Vector.ofFn fun index => UInt8.ofNat (decimalValue ((text.splitOn '.').getD index.val []))

theorem addressOfText_dottedQuad (address : Vector UInt8 4) :
    addressOfText (dottedQuad address.toList) = address := by
  have decoded (octet : UInt8) : UInt8.ofNat (decimalValue (decimal octet)) = octet := by
    rw [decimal, decimalValue_toDigits, UInt8.ofNat_toNat]
  rw [addressOfText, splitOn_dottedQuad (by simp [toList_four]), toList_four]
  apply Vector.ext
  intro index bound
  rw [Vector.getElem_ofFn]
  obtain rfl | rfl | rfl | rfl : index = 0 ∨ index = 1 ∨ index = 2 ∨ index = 3 := by omega
  all_goals exact decoded _

theorem colon_ne_dot : ':' ≠ '.' := by decide

/-- An address with a character behind it that is no part of one. -/
def addressFormat (last : Char) (other : last.isDigit = false) (noDot : last ≠ '.') :
    Format (Vector UInt8 4) :=
  .terminated last (fun address => dottedQuad address.toList) addressOfText
    (notMem_dottedQuad other noDot) addressOfText_dottedQuad

/-! ## Protocols -/

theorem comma_notMem_ipProtocolName (ipProtocol : UInt8) :
    ',' ∉ (ipProtocolName ipProtocol).toList := by
  rw [ipProtocolName]
  split
  case isTrue => decide
  split
  case isTrue => decide
  split
  case isTrue => decide
  case isFalse =>
    intro member
    rw [String.toList_ofList, snprintf] at member
    have inText := List.mem_of_mem_take member
    have digits : ',' ∉ decimal ipProtocol := notMem_toDigits (by decide) ipProtocol.toNat
    simp [digits] at inText

def protocolFormat : Format UInt8 :=
  .terminated ',' (fun ipProtocol => (ipProtocolName ipProtocol).toList)
    (fun text => UInt8.ofNat (protocolNumber text)) comma_notMem_ipProtocolName
    (fun ipProtocol => by rw [protocolNumber_ipProtocolName, UInt8.ofNat_toNat])

/-! ## Payloads -/

theorem length_hexLines (payload : List UInt8) (count : Nat) :
    (hexLines payload count).length = 56 * count + min (16 * count) payload.length := by
  induction count with
  | zero => rfl
  | succ count ih =>
      have size := length_lineBytes payload (16 * count)
      rw [hexLines_succ, List.length_append, ih, length_hexLine (by omega), size]
      omega

/-- The length of a dump, from the number of bytes. -/
def dumpSize (count : Nat) : Nat := 56 * ((count + 15) / 16) + count

theorem length_dump (payload : List UInt8) :
    (hexLines payload (lineCount payload)).length = dumpSize payload.length := by
  rw [length_hexLines, lineCount, dumpSize]
  omega

/-- The number of bytes and their dump. -/
def payloadFormat : Format (List UInt8) :=
  .counted ((numberFormat ' ' notDigit_space).before "bytes)\n".toList) List.length dumpSize
    (fun payload => hexLines payload (lineCount payload)) readDump length_dump readDump_lines

/-! ## What is printed -/

section Print

variable {last : Char} (other : last.isDigit = false)

@[simp] theorem print_numberFormat (number : Nat) :
    (numberFormat last other).print number = Nat.toDigits 10 number ++ [last] := rfl

@[simp] theorem print_portFormat (port : UInt16) :
    (portFormat last other).print port = Nat.toDigits 10 port.toNat ++ [last] := rfl

@[simp] theorem print_hexFormat (number : UInt16) : hexFormat.print number = hex04 number := rfl

@[simp] theorem print_macFormat (mac : Vector UInt8 6) :
    macFormat.print mac = colonHex mac.toList := rfl

@[simp] theorem print_addressFormat (noDot : last ≠ '.') (address : Vector UInt8 4) :
    (addressFormat last other noDot).print address = dottedQuad address.toList ++ [last] := rfl

@[simp] theorem print_protocolFormat (ipProtocol : UInt8) :
    protocolFormat.print ipProtocol = (ipProtocolName ipProtocol).toList ++ [','] := rfl

@[simp] theorem print_payloadFormat (payload : List UInt8) :
    payloadFormat.print payload = Nat.toDigits 10 payload.length ++ [' '] ++ "bytes)\n".toList ++
      hexLines payload (lineCount payload) := rfl

end Print

end XdpExperiment
