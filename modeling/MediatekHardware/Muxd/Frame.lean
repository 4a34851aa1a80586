import Mathlib.Tactic

/-!
# Frames of the GSM 07.10 multiplexer

Constants of `gsm0710muxd.h`, the frame record, and the frame check sequence
of `gsm0710muxd.c`.  The build is the one of `Android.mk`: `MUX_ANDROID`,
`__MUXD_FLOWCONTROL__` and `MTK_GEMINI` are defined, `__MUX_UT__` and
`__ANDROID_VT_SUPPORT__` are not.
-/

namespace MediatekHardware
namespace Muxd

abbrev Byte := UInt8

/-! ## Constants -/

def gsm0710MaxChannels : ℕ := 32
def gsm0710WriteRetries : ℕ := 5
def gsm0710BufferSize : ℕ := 2048
def rxFlowCtrlHighWatermark : ℕ := 4096
def muxdVtChNum : ℕ := 24
def maxResyncGetFrameCount : ℕ := 3

def gsm0710FrameFlag : Byte := 0xF9
def gsm0710FrameAdvFlag : Byte := 0x7E
def gsm0710FrameAdvEsc : Byte := 0x7D
def gsm0710FrameAdvEscCopml : Byte := 0x20
def gsm0710FrameAdvEscapedSyms : List Byte :=
  [gsm0710FrameAdvFlag, gsm0710FrameAdvEsc, 0x11, 0x91, 0x13, 0x93]

def gsm0710Pf : Byte := 0x10
def gsm0710Cr : Byte := 0x02
def gsm0710Ea : Byte := 0x01

def gsm0710TypeSabm : Byte := 0x2F
def gsm0710TypeUa : Byte := 0x63
def gsm0710TypeDm : Byte := 0x0F
def gsm0710TypeDisc : Byte := 0x43
def gsm0710TypeUih : Byte := 0xEF
def gsm0710TypeUi : Byte := 0x03

def gsm0710ControlPn : Byte := 0x80 ||| gsm0710Ea
def gsm0710ControlCld : Byte := 0xC0 ||| gsm0710Ea
def gsm0710ControlPsc : Byte := 0x40 ||| gsm0710Ea
def gsm0710ControlTest : Byte := 0x20 ||| gsm0710Ea
def gsm0710ControlMsc : Byte := 0xE0 ||| gsm0710Ea
def gsm0710ControlNsc : Byte := 0x10 ||| gsm0710Ea

def gsm0710SignalFc : Byte := 0x02

def mscChannelCmd : List Byte :=
  [gsm0710ControlMsc ||| gsm0710Cr, gsm0710Ea ||| ((2 : Byte) <<< 1), 0x03, 0x8D]

def closeChannelCmd : List Byte :=
  [gsm0710ControlCld ||| gsm0710Cr, gsm0710Ea ||| ((0 : Byte) <<< 1)]

/-- `PING` and a line end. -/
def testChannelCmd : List Byte :=
  [gsm0710ControlTest ||| gsm0710Cr, gsm0710Ea ||| ((6 : Byte) <<< 1),
    0x50, 0x49, 0x4E, 0x47, 0x0D, 0x0A]

/-! ## Frames -/

structure Gsm0710Frame where
  channel : Byte
  control : Byte
  data : List Byte
  deriving DecidableEq, Repr

def Gsm0710Frame.length (frame : Gsm0710Frame) : ℕ := frame.data.length

/-- `GSM0710_COMMAND_IS(type, command)` -/
def gsm0710CommandIs (type command : Byte) : Bool :=
  type &&& ~~~gsm0710Cr == command

/-- `GSM0710_FRAME_IS(type, frame)` -/
def gsm0710FrameIs (type control : Byte) : Bool :=
  control &&& ~~~gsm0710Pf == type

def gsm0710DecodeAddress (byte : Byte) : Byte := (byte &&& 252) >>> 2

/-- The `type` arguments of `write_frame` that open, close and carry data on
a channel; `UI` is not among them. -/
def frameTypes : List Byte :=
  [gsm0710TypeSabm ||| gsm0710Pf, gsm0710TypeUa ||| gsm0710Pf,
    gsm0710TypeDm ||| gsm0710Pf, gsm0710TypeDisc ||| gsm0710Pf,
    gsm0710TypeUih, gsm0710TypeUih ||| gsm0710Pf]

/-! ## Frame check sequence -/

def rCrctableEntries : List Byte := [
  0x00, 0x91, 0xE3, 0x72, 0x07, 0x96, 0xE4, 0x75, 0x0E, 0x9F, 0xED,
  0x7C, 0x09, 0x98, 0xEA, 0x7B, 0x1C, 0x8D, 0xFF, 0x6E, 0x1B, 0x8A,
  0xF8, 0x69, 0x12, 0x83, 0xF1, 0x60, 0x15, 0x84, 0xF6, 0x67, 0x38,
  0xA9, 0xDB, 0x4A, 0x3F, 0xAE, 0xDC, 0x4D, 0x36, 0xA7, 0xD5, 0x44,
  0x31, 0xA0, 0xD2, 0x43, 0x24, 0xB5, 0xC7, 0x56, 0x23, 0xB2, 0xC0,
  0x51, 0x2A, 0xBB, 0xC9, 0x58, 0x2D, 0xBC, 0xCE, 0x5F, 0x70, 0xE1,
  0x93, 0x02, 0x77, 0xE6, 0x94, 0x05, 0x7E, 0xEF, 0x9D, 0x0C, 0x79,
  0xE8, 0x9A, 0x0B, 0x6C, 0xFD, 0x8F, 0x1E, 0x6B, 0xFA, 0x88, 0x19,
  0x62, 0xF3, 0x81, 0x10, 0x65, 0xF4, 0x86, 0x17, 0x48, 0xD9, 0xAB,
  0x3A, 0x4F, 0xDE, 0xAC, 0x3D, 0x46, 0xD7, 0xA5, 0x34, 0x41, 0xD0,
  0xA2, 0x33, 0x54, 0xC5, 0xB7, 0x26, 0x53, 0xC2, 0xB0, 0x21, 0x5A,
  0xCB, 0xB9, 0x28, 0x5D, 0xCC, 0xBE, 0x2F, 0xE0, 0x71, 0x03, 0x92,
  0xE7, 0x76, 0x04, 0x95, 0xEE, 0x7F, 0x0D, 0x9C, 0xE9, 0x78, 0x0A,
  0x9B, 0xFC, 0x6D, 0x1F, 0x8E, 0xFB, 0x6A, 0x18, 0x89, 0xF2, 0x63,
  0x11, 0x80, 0xF5, 0x64, 0x16, 0x87, 0xD8, 0x49, 0x3B, 0xAA, 0xDF,
  0x4E, 0x3C, 0xAD, 0xD6, 0x47, 0x35, 0xA4, 0xD1, 0x40, 0x32, 0xA3,
  0xC4, 0x55, 0x27, 0xB6, 0xC3, 0x52, 0x20, 0xB1, 0xCA, 0x5B, 0x29,
  0xB8, 0xCD, 0x5C, 0x2E, 0xBF, 0x90, 0x01, 0x73, 0xE2, 0x97, 0x06,
  0x74, 0xE5, 0x9E, 0x0F, 0x7D, 0xEC, 0x99, 0x08, 0x7A, 0xEB, 0x8C,
  0x1D, 0x6F, 0xFE, 0x8B, 0x1A, 0x68, 0xF9, 0x82, 0x13, 0x61, 0xF0,
  0x85, 0x14, 0x66, 0xF7, 0xA8, 0x39, 0x4B, 0xDA, 0xAF, 0x3E, 0x4C,
  0xDD, 0xA6, 0x37, 0x45, 0xD4, 0xA1, 0x30, 0x42, 0xD3, 0xB4, 0x25,
  0x57, 0xC6, 0xB3, 0x22, 0x50, 0xC1, 0xBA, 0x2B, 0x59, 0xC8, 0xBD,
  0x2C, 0x5E, 0xCF]

def rCrctable (index : Byte) : Byte := rCrctableEntries.getD index.toNat 0

def crcStep (fcs byte : Byte) : Byte := rCrctable (fcs ^^^ byte)

def frameCalcCrc (input : List Byte) : Byte := 0xFF - input.foldl crcStep 0xFF

/-- Only `UI` frames are checked over their payload. -/
def payloadFcs (frame : Gsm0710Frame) (fcs : Byte) : Byte :=
  if gsm0710FrameIs gsm0710TypeUi frame.control then
    frame.data.foldl crcStep fcs
  else fcs

theorem payloadFcs_of_not_ui {frame : Gsm0710Frame}
    (hcontrol : gsm0710FrameIs gsm0710TypeUi frame.control = false)
    (fcs : Byte) : payloadFcs frame fcs = fcs := by
  simp [payloadFcs, hcontrol]

theorem xor_complement (fcs : Byte) : fcs ^^^ (0xFF - fcs) = 0xFF := by
  have hbits : ∀ bits : BitVec 8, bits ^^^ (255#8 - bits) = 255#8 := by decide
  exact UInt8.toBitVec_inj.mp (hbits fcs.toBitVec)

theorem xor_copml_copml (byte : Byte) :
    (byte ^^^ gsm0710FrameAdvEscCopml) ^^^ gsm0710FrameAdvEscCopml = byte := by
  rw [UInt8.xor_assoc, UInt8.xor_self, UInt8.xor_zero]

/-- Folding the table over a list and its frame check sequence gives the
residue that the receiver compares with. -/
theorem frameCalcCrc_residue (input : List Byte) :
    crcStep (input.foldl crcStep 0xFF) (frameCalcCrc input) = 0xCF := by
  have hxor := xor_complement (input.foldl crcStep 0xFF)
  rw [crcStep, frameCalcCrc, hxor]
  rfl

theorem frameTypes_not_ui {type : Byte} (htype : type ∈ frameTypes) :
    gsm0710FrameIs gsm0710TypeUi type = false := by
  have hall : (frameTypes.all fun type =>
      !gsm0710FrameIs gsm0710TypeUi type) = true := by decide
  simpa using List.all_eq_true.mp hall type htype

end Muxd
end MediatekHardware
