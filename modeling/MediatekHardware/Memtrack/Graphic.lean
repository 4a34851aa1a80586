import MediatekHardware.Lib.Lines
import MediatekHardware.Lib.Scanf
import Mathlib.Tactic

/-!
# Graphics memory of a process

`graphic_memtrack_get_memory` goes through the files of `/d/ion/`, takes those whose name
begins with the number of the process, and adds up the sizes that their `ion_mm_heap` lines
give, each divided by the count of its handles.
-/

namespace MediatekHardware
namespace Memtrack

open Lines Scanf

abbrev Byte := UInt8

def lineFeed : Byte := 0x0A
def minus : Byte := 0x2D
def dot : Byte := 0x2E

/-- `ion_mm_heap` -/
def ionMmHeap : List Byte :=
  [0x69, 0x6F, 0x6E, 0x5F, 0x6D, 0x6D, 0x5F, 0x68, 0x65, 0x61, 0x70]

/-- The size of `size_t`, and the `int` that `sscanf` and `atoi` make of a number. -/
structure Platform where
  sizeBits : ℕ
  sizeBits_ge : 32 ≤ sizeBits
  scanInt : ℤ → Int32
  scanInt_of_fits : ∀ n, -2 ^ 31 ≤ n → n < 2 ^ 31 → (scanInt n).toInt = n
  atoiInt : ℤ → Int32
  atoiInt_of_fits : ∀ n, -2 ^ 31 ≤ n → n < 2 ^ 31 → (atoiInt n).toInt = n

/-- The conversion to `size_t`. -/
def Platform.sizeT (platform : Platform) (n : ℤ) : ℕ := (n % 2 ^ platform.sizeBits).toNat

/-! ## Lines -/

structure Scanned where
  heap : List Byte
  size : ℕ
  handleCount : Int32
  deriving DecidableEq, Repr

/-- `sscanf` with the format `"%s %d %8zu %d\n"`, if all four are there. -/
def scanLine (platform : Platform) (line : List Byte) : Option Scanned :=
  (scanString (line.takeWhile (· != 0))).bind fun heap =>
    (scanInteger none heap.2).bind fun handlePid =>
      (scanInteger (some 8) handlePid.2).bind fun size =>
        (scanInteger none size.2).map fun handleCount =>
          ⟨heap.1, platform.sizeT size.1, platform.scanInt handleCount.1⟩

inductive Failure where
  | unreadable (errno : ℤ)
  | dividesByZero
  deriving DecidableEq, Repr

def accountLine (platform : Platform) (unaccountedSize : ℕ) (line : List Byte) :
    Except Failure ℕ :=
  match scanLine platform line with
  | none => .ok unaccountedSize
  | some entry =>
      if entry.heap = ionMmHeap then
        if platform.sizeT entry.handleCount.toInt = 0 then .error .dividesByZero
        else .ok ((unaccountedSize + entry.size / platform.sizeT entry.handleCount.toInt) %
          2 ^ platform.sizeBits)
      else .ok unaccountedSize

/-- `fgets` leaves room for a zero in `line[1024]`. -/
def readLimit : ℕ := 1023

def isLineFeed (c : Byte) : Bool := c == lineFeed

def accountFile (platform : Platform) (unaccountedSize : ℕ) (content : List Byte) :
    Except Failure ℕ :=
  (readsOf isLineFeed readLimit content).foldlM (accountLine platform) unaccountedSize

/-! ## Files -/

/-- A name has no zero in it; a file that cannot be opened has an error. -/
structure IonFile where
  name : { name : List Byte // 0 ∉ name }
  content : Except ℤ (List Byte)

/-- What `strtok` with `"-"` leaves in its argument. -/
def strtokFront (name : List Byte) : List Byte :=
  name.takeWhile (· == minus) ++ (name.dropWhile (· == minus)).takeWhile (· != minus)

def atoi (platform : Platform) (text : List Byte) : Int32 :=
  platform.atoiInt ((integerAt (text.dropWhile isSpace)).getD 0)

def accountDir (platform : Platform) (pid : Int32) : List IonFile → ℕ → Except Failure ℕ
  | [], unaccountedSize => .ok unaccountedSize
  | file :: files, unaccountedSize =>
      if file.name.val.head? = some dot then accountDir platform pid files unaccountedSize
      else if (atoi platform (strtokFront file.name.val)).toInt = 0 then
        accountDir platform pid files unaccountedSize
      else if pid ≠ atoi platform (strtokFront file.name.val) then
        accountDir platform pid files unaccountedSize
      else
        match file.content with
        | .error errno => .error (.unreadable errno)
        | .ok content =>
            (accountFile platform unaccountedSize content).bind fun unaccountedSize =>
              accountDir platform pid files unaccountedSize

inductive MemtrackFlag where
  | smapsUnaccounted
  | shared
  | system
  | nonsecure
  deriving DecidableEq, Repr

structure MemtrackRecord where
  sizeInBytes : ℕ
  flags : List MemtrackFlag
  deriving DecidableEq, Repr

/-- The result, `*num_records` and `records[0]`, if it is filled in; nothing is defined
behind a division by zero. -/
inductive Outcome where
  | returned (ret : ℤ) (numRecords : ℕ) (record : Option MemtrackRecord)
  | undefined
  deriving DecidableEq, Repr

def reportFlags : List MemtrackFlag := [.smapsUnaccounted, .shared, .system, .nonsecure]

def reportOf (numRecords : ℕ) : Except Failure ℕ → Outcome
  | .error (.unreadable errno) => .returned (-errno) numRecords none
  | .error .dividesByZero => .undefined
  | .ok unaccountedSize => .returned 0 1 (some ⟨unaccountedSize, reportFlags⟩)

/-- `dir` is what is read from `/d/ion/`, if it can be opened. -/
def graphicMemtrackGetMemory (platform : Platform) (pid : Int32) (numRecords : ℕ)
    (dir : Option (List IonFile)) : Outcome :=
  if numRecords = 0 then .returned 0 1 none
  else
    match dir with
    | none => .returned (-1) numRecords none
    | some files => reportOf numRecords (accountDir platform pid files 0)

/-! ## What the files say -/

/-- A file that can be opened. -/
structure ReadableFile where
  name : { name : List Byte // 0 ∉ name }
  content : List Byte

def ReadableFile.opened (file : ReadableFile) : IonFile := ⟨file.name, .ok file.content⟩

/-- The number a name consists of, or begins with in front of a minus sign. -/
def fileNumber (name : List Byte) : Option ℕ :=
  if name.takeWhile isDigit = [] then none
  else if (name.dropWhile isDigit).head?.all (· == minus) then
    some (value (name.takeWhile isDigit))
  else none

/-- Such a name, or one that begins with no digit, blank or sign. -/
def ValidName (name : List Byte) : Prop :=
  fileNumber name ≠ none ∨
    ∀ c, name.head? = some c → isDigit c = false ∧ isSpace c = false ∧ c ≠ 0x2B ∧ c ≠ minus

structure Entry where
  heap : List Byte
  size : ℕ
  count : ℕ
  deriving DecidableEq, Repr

/-- The length of a line without its terminator. -/
def bodyLength (line : List Byte) : ℕ := (line.takeWhile fun c => !isLineFeed c).length

/-- `<heap> <pid> <size> <count>` -/
def entryOf (sizeBits : ℕ) (line : List Byte) : Option Entry :=
  match words line with
  | [heap, pid, size, count] =>
      if bodyLength line < 1024 ∧ pid.all isDigit ∧ size.all isDigit ∧ count.all isDigit ∧
          value size < 2 ^ sizeBits ∧ 0 < value count then
        some ⟨heap, value size, value count⟩
      else none
  | _ => none

def trueAmount (sizeBits : ℕ) (line : List Byte) : ℕ :=
  match entryOf sizeBits line with
  | some entry => if entry.heap = ionMmHeap then entry.size / entry.count else 0
  | none => 0

def ReadableFile.lines (file : ReadableFile) : List (List Byte) :=
  allLines isLineFeed file.content

def isOwn (pid : Int32) (file : ReadableFile) : Bool :=
  (fileNumber file.name.val).any fun n : ℕ => (n : ℤ) = pid.toInt

/-- The files whose number is that of the process. -/
def ownFiles (pid : Int32) (files : List ReadableFile) : List ReadableFile :=
  files.filter (isOwn pid)

def trueMemory (sizeBits : ℕ) (pid : Int32) (files : List ReadableFile) : ℕ :=
  (((ownFiles pid files).flatMap ReadableFile.lines).map (trueAmount sizeBits)).sum %
    2 ^ sizeBits

/-- The sum over the lines is what is reported. -/
def Reports (platform : Platform) (pid : Int32) (numRecords : ℕ)
    (files : List ReadableFile) : Prop :=
  graphicMemtrackGetMemory platform pid numRecords (some (files.map ReadableFile.opened)) =
    .returned 0 1 (some ⟨trueMemory platform.sizeBits pid files, reportFlags⟩)

end Memtrack
end MediatekHardware
