import MediatekHardware.Atv.CtrlService
import MediatekHardware.Lib.Overlay

/-!
# Fresh memory in the replies of the service

Six transactions read a buffer of the length that the request names into fresh memory,
hand it to the implementation and send all of it back.  Nobody looks whether the read
has found so many bytes.  If it has not, the buffer is fresh memory where the
implementation has not filled it.
-/

namespace MediatekHardware
namespace Atv
namespace ServiceMemory

open Parcel Overlay

variable {P Binder Client Args : Type}

/-- The reading side of a parcel.  A number that is not there reads as some number; a
read of `len` bytes copies all of them or, with an error, none. -/
structure Input (P Binder : Type) where
  checkInterface : StateM P Bool
  readInt32 : StateM P Int32
  readStrongBinder : StateM P Binder
  read : (len : ℕ) → StateM P (Option (Buffer len))

/-! ## The implementation -/

/-- What a method gives back: its return value, or 0, and the bytes it fills in. -/
structure Outputs where
  ret : Int32
  fills : ℕ → Option UInt8

inductive BufferMethod where
  | matvGetChtable (ch : Int32)
  | matvSetChtable (ch : Int32)
  | fmPowerup
  | fmTune
  | fmSeek
  | fmScan

/-- The methods with a buffer get any length, and `none` for the null pointer. -/
structure Implementation (Client : Type) where
  method : IATVCtrlService Client Id
  bufferMethod : BufferMethod → (len : Int32) → (parm : Option (List UInt8)) → Outputs

/-- The outputs of the implementation, if it is called, and the reply, or `none` for
`PERMISSION_DENIED`. -/
structure Outcome (Binder : Type) where
  outputs : Option Outputs
  reply : Option (Items Binder)

/-! ## The transactions -/

section Transactions

variable (input : Input P Binder) (memory : ℕ → UInt8)

/-- `CHECK_INTERFACE` -/
def check (data : P) (next : P → Outcome Binder) : Outcome Binder :=
  let checked := input.checkInterface.run data
  if checked.1 then next checked.2 else ⟨none, none⟩

def serveInt (data : P) (args : StateM P Args) (method : Args → Int32) : Outcome Binder :=
  check input data fun data =>
    let ret := method (args.run data).1
    ⟨some ⟨ret, fun _ => none⟩, some [.int32 ret]⟩

def serveVoid (data : P) (args : StateM P Args) (method : Args → Unit) : Outcome Binder :=
  check input data fun data =>
    let () := method (args.run data).1
    ⟨some ⟨0, fun _ => none⟩, some []⟩

/-- The bytes that a read has copied. -/
def copied {len : ℕ} (found : Option (Buffer len)) : ℕ → Option UInt8 :=
  found.elim (fun _ => none) fun buffer => ofList buffer.val

def buffer (size : ℕ) (block : ℕ → UInt8) : Buffer size :=
  ⟨contents size block, length_contents block⟩

/-- Nothing is allocated, read or written for a negative length. -/
def serveBuffer (data : P) (args : StateM P Args) (method : Args → BufferMethod)
    (service : Implementation Client) : Outcome Binder :=
  check input data fun data =>
    let arg := args.run data
    let len := input.readInt32.run arg.2
    if 0 ≤ len.1 then
      let size := len.1.toNatClampNeg
      let parm := overlay (copied ((input.read size).run len.2).1) memory
      let outputs := service.bufferMethod (method arg.1) len.1 (some (contents size parm))
      ⟨some outputs,
        some [.int32 outputs.ret, .ofBuffer (buffer size (overlay outputs.fills parm))]⟩
    else
      let outputs := service.bufferMethod (method arg.1) len.1 none
      ⟨some outputs, some [.int32 outputs.ret]⟩

def readTwo : StateM P (Int32 × Int32) := do
  let item ← input.readInt32
  let val ← input.readInt32
  return (item, val)

def serve (interfaceCast : Binder → Client) (service : Implementation Client) :
    TransactionCode → P → Outcome Binder
  | .atvInit, data => serveInt input data (pure ()) fun _ => service.method .matvInit
  | .atvPsInit, data =>
      serveInt input data input.readInt32 fun on => service.method (.matvPsInit on)
  | .atvSetParameterb, data =>
      serveInt input data input.readInt32 fun on => service.method (.matvSetParameterb on)
  | .atvSuspend, data =>
      serveInt input data input.readInt32 fun on => service.method (.matvSuspend on)
  | .atvShutdown, data => serveInt input data (pure ()) fun _ => service.method .matvShutdown
  | .atvChScan, data =>
      serveVoid input data input.readInt32 fun mode => service.method (.matvChscan mode)
  | .atvChScanStop, data =>
      serveVoid input data (pure ()) fun _ => service.method .matvChscanStop
  | .atvGetChTable, data =>
      serveBuffer input memory data input.readInt32 (fun ch => .matvGetChtable ch) service
  | .atvSetChTable, data =>
      serveBuffer input memory data input.readInt32 (fun ch => .matvSetChtable ch) service
  | .atvClearChTable, data =>
      serveInt input data (pure ()) fun _ => service.method .matvClearChtable
  | .atvChangeCh, data =>
      serveVoid input data input.readInt32 fun ch => service.method (.matvChangeChannel ch)
  | .atvSetCountry, data =>
      serveVoid input data input.readInt32 fun country =>
        service.method (.matvSetCountry country)
  | .atvSetTparam, data =>
      serveVoid input data input.readInt32 fun mode => service.method (.matvSetTparam mode)
  | .atvAudioPlay, data => serveVoid input data (pure ()) fun _ => service.method .matvAudioPlay
  | .atvAudioStop, data => serveVoid input data (pure ()) fun _ => service.method .matvAudioStop
  | .atvAudioGetFormat, data =>
      serveInt input data (pure ()) fun _ => service.method .matvAudioGetFormat
  | .atvAudioSetFormat, data =>
      serveVoid input data input.readInt32 fun val => service.method (.matvAudioSetFormat val)
  | .atvGetSoundSystem, data =>
      serveInt input data (pure ()) fun _ => service.method .matvAudioGetSoundSystem
  | .atvAdjust, data =>
      serveInt input data (readTwo input) fun args => service.method (.matvAdjust args.1 args.2)
  | .atvGetChipdep, data =>
      serveInt input data input.readInt32 fun item => service.method (.matvGetChipdep item)
  | .atvSetChipdep, data =>
      serveInt input data (readTwo input) fun args =>
        service.method (.matvSetChipdep args.1 args.2)
  | .atvRegCallback, data =>
      serveVoid input data (pure ()) fun _ => service.method .matvRegisterCallback
  | .registerClient, data =>
      serveVoid input data input.readStrongBinder fun binder =>
        service.method (.registerClient (interfaceCast binder))
  | .registerClientFm, data =>
      serveVoid input data input.readStrongBinder fun binder =>
        service.method (.registerClientFM (interfaceCast binder))
  | .atvCli, data =>
      serveVoid input data input.readInt32 fun n => service.method (.cli (intToChar n))
  | .fmPowerup, data =>
      serveBuffer input memory data (pure ()) (fun _ => .fmPowerup) service
  | .fmPowerdown, data => serveInt input data (pure ()) fun _ => service.method .fmPowerdown
  | .fmGetrssi, data => serveInt input data (pure ()) fun _ => service.method .fmGetrssi
  | .fmTune, data => serveBuffer input memory data (pure ()) (fun _ => .fmTune) service
  | .fmSeek, data => serveBuffer input memory data (pure ()) (fun _ => .fmSeek) service
  | .fmScan, data => serveBuffer input memory data (pure ()) (fun _ => .fmScan) service
  | .fmMute, data => serveInt input data input.readInt32 fun val => service.method (.fmMute val)
  | .fmGetchipid, data => serveInt input data (pure ()) fun _ => service.method .fmGetchipid
  | .fmIsfmpowerup, data => serveInt input data (pure ()) fun _ => service.method .fmIsFMPowerUp

end Transactions

/-- The transaction codes from `FIRST_CALL_TRANSACTION` on. -/
def transactionCodes : List TransactionCode :=
  [.atvInit, .atvPsInit, .atvSetParameterb, .atvSuspend, .atvShutdown, .atvChScan,
    .atvChScanStop, .atvGetChTable, .atvSetChTable, .atvClearChTable, .atvChangeCh,
    .atvSetCountry, .atvSetTparam, .atvAudioPlay, .atvAudioStop, .atvAudioGetFormat,
    .atvAudioSetFormat, .atvGetSoundSystem, .atvAdjust, .atvGetChipdep, .atvSetChipdep,
    .atvRegCallback, .registerClient, .registerClientFm, .atvCli, .fmPowerup, .fmPowerdown,
    .fmGetrssi, .fmTune, .fmSeek, .fmScan, .fmMute, .fmGetchipid, .fmIsfmpowerup]

def firstCallTransaction : ℕ := 1

def decode (code : ℕ) : Option TransactionCode :=
  if code < firstCallTransaction then none else transactionCodes[code - firstCallTransaction]?

/-- Other codes are left to `BBinder::onTransact`. -/
def onTransact (input : Input P Binder) (bbinder : ℕ → P → Option (Items Binder))
    (interfaceCast : Binder → Client) (memory : ℕ → UInt8) (service : Implementation Client)
    (code : ℕ) (data : P) : Outcome Binder :=
  match decode code with
  | some code => serve input memory interfaceCast service code data
  | none => ⟨none, bbinder code data⟩

/-! ## What a reply is made of -/

/-- How many numbers stand before the length of the buffer, if there is a buffer. -/
def bufferArgs : TransactionCode → Option ℕ
  | .atvGetChTable | .atvSetChTable => some 1
  | .fmPowerup | .fmTune | .fmSeek | .fmScan => some 0
  | _ => none

section Fresh

variable (input : Input P Binder)

def skip : ℕ → StateM P Unit
  | 0 => pure ()
  | n + 1 => do
      let _ ← input.readInt32
      skip n

/-- Where the length field stands. -/
def lengthPosition (count : ℕ) (data : P) : P :=
  ((skip input count).run (input.checkInterface.run data).2).2

def lengthField (position : P) : Int32 × P := input.readInt32.run position

/-- What a read of the length finds behind it. -/
def found (position : P) : Option (Buffer (lengthField input position).1.toNatClampNeg) :=
  ((input.read _).run (lengthField input position).2).1

/-- The number of bytes that a request leaves as they were allocated. -/
def fresh (code : TransactionCode) (data : P) : ℕ :=
  match bufferArgs code with
  | none => 0
  | some count =>
      if (input.checkInterface.run data).1 = true ∧
          0 ≤ (lengthField input (lengthPosition input count data)).1 ∧
          (found input (lengthPosition input count data)).isNone then
        (lengthField input (lengthPosition input count data)).1.toNatClampNeg
      else 0

def freshBytes (code : ℕ) (data : P) : ℕ := (decode code).elim 0 fun code => fresh input code data

/-- The reply to a buffer transaction, by the outputs of the implementation. -/
def bufferReply (memory : ℕ → UInt8) (position : P) (outputs : Outputs) : Items Binder :=
  if 0 ≤ (lengthField input position).1 then
    [.int32 outputs.ret,
      .ofBuffer (buffer (lengthField input position).1.toNatClampNeg
        (overlay outputs.fills (overlay (copied (found input position)) memory)))]
  else [.int32 outputs.ret]

end Fresh

section Replies

variable {input : Input P Binder} {memory : ℕ → UInt8} {service : Implementation Client}
  {data : P}

theorem check_of_true {next : P → Outcome Binder}
    (hchecked : (input.checkInterface.run data).1 = true) :
    check input data next = next (input.checkInterface.run data).2 := if_pos hchecked

theorem check_of_false {next : P → Outcome Binder}
    (hchecked : ¬ (input.checkInterface.run data).1 = true) :
    check input data next = ⟨none, none⟩ := if_neg hchecked

theorem check_congr {next other : P → Outcome Binder}
    (hnext : next (input.checkInterface.run data).2 = other (input.checkInterface.run data).2) :
    check input data next = check input data other := by
  by_cases hchecked : (input.checkInterface.run data).1 = true
  · rw [check_of_true hchecked, check_of_true hchecked, hnext]
  · rw [check_of_false hchecked, check_of_false hchecked]

theorem check_reply {next : P → Outcome Binder} {reply : Outputs → Items Binder}
    (hnext : (next (input.checkInterface.run data).2).reply =
      (next (input.checkInterface.run data).2).outputs.map reply) :
    (check input data next).reply = (check input data next).outputs.map reply := by
  by_cases hchecked : (input.checkInterface.run data).1 = true
  · rw [check_of_true hchecked]
    exact hnext
  · rw [check_of_false hchecked]
    rfl

theorem serveInt_reply (args : StateM P Args) (method : Args → Int32) :
    (serveInt input data args method).reply =
      (serveInt input data args method).outputs.map fun outputs => [.int32 outputs.ret] :=
  check_reply rfl

theorem serveVoid_reply (args : StateM P Args) (method : Args → Unit) :
    (serveVoid input data args method).reply =
      (serveVoid input data args method).outputs.map fun _ => [] :=
  check_reply rfl

/-- A buffer transaction calls one method and replies with its outputs. -/
theorem serveBuffer_eq (args : StateM P Args) (method : Args → BufferMethod) :
    ∃ called parm, serveBuffer input memory data args method service =
      check input data fun _ =>
        let position := (args.run (input.checkInterface.run data).2).2
        let outputs := service.bufferMethod called (lengthField input position).1 parm
        ⟨some outputs, some (bufferReply input memory position outputs)⟩ := by
  let arg := args.run (input.checkInterface.run data).2
  by_cases hlen : 0 ≤ (lengthField input arg.2).1
  · let parm := contents (lengthField input arg.2).1.toNatClampNeg
      (overlay (copied (found input arg.2)) memory)
    refine ⟨method arg.1, some parm, check_congr ((if_pos hlen).trans ?_)⟩
    dsimp only
    rw [bufferReply, if_pos hlen]
    rfl
  · refine ⟨method arg.1, none, check_congr ((if_neg hlen).trans ?_)⟩
    dsimp only
    rw [bufferReply, if_neg hlen]
    rfl

end Replies

/-! ## Parcels of items

The requests that `BpATVCtrlService` can write are served as before; where a reader of
items fails, the parcel goes on with the number 0, with no binder or with an error.
-/

section Items

variable {α β : Type}

/-- Read what is there, or some value instead. -/
def ofReader (missing : α) (reader : Reader Binder α) : StateM (Items Binder) α :=
  fun items => (reader.run items).getD (missing, items)

def itemsInput (noBinder : Binder) : Input (Items Binder) Binder where
  checkInterface := ofReader false do
    checkInterface interfaceDescriptor
    return true
  readInt32 := ofReader 0 readInt32
  readStrongBinder := ofReader noBinder readStrongBinder
  read len := ofReader none (some <$> readBuffer len)

/-- What one reads the other reads as well. -/
def Extends (reader : Reader Binder α) (total : StateM (Items Binder) α) : Prop :=
  ∀ items a rest, reader.run items = some (a, rest) → total.run items = (a, rest)

theorem extends_ofReader (missing : α) (reader : Reader Binder α) :
    Extends reader (ofReader missing reader) := by
  intro items a rest hread
  show (reader.run items).getD (missing, items) = (a, rest)
  rw [hread, Option.getD_some]

theorem extends_pure (a : α) : Extends (pure a : Reader Binder α) (pure a) := by
  intro items b rest hread
  cases hread
  rfl

theorem Extends.bind {reader : Reader Binder α} {total : StateM (Items Binder) α}
    {next : α → Reader Binder β} {later : α → StateM (Items Binder) β}
    (hreader : Extends reader total) (hnext : ∀ a, Extends (next a) (later a)) :
    Extends (reader >>= next) (total >>= later) := by
  intro items b rest hread
  rcases run_bind_eq_some.mp hread with ⟨a, between, hfirst, hsecond⟩
  rw [StateT.run_bind, hreader items a between hfirst]
  exact hnext a between b rest hsecond

variable {noBinder : Binder} {args : Reader Binder Args} {total : StateM (Items Binder) Args}
  {data : Items Binder} {reply : Items Binder}

theorem extends_readTwo : Extends Atv.readTwo (readTwo (itemsInput noBinder)) :=
  (extends_ofReader 0 readInt32).bind fun _ =>
    (extends_ofReader 0 readInt32).bind fun _ => extends_pure _

/-- A request whose interface and arguments are there passes the check and is read on. -/
theorem check_of_readRequest (noBinder : Binder) {a : Args}
    (hrequest : readRequest args data = some a) :
    ∃ items rest, (∀ next, check (itemsInput noBinder) data next = next items) ∧
      args.run items = some (a, rest) := by
  rcases Option.map_eq_some_iff.mp hrequest with ⟨⟨b, rest⟩, hread, hb⟩
  cases hb
  rcases run_bind_eq_some.mp hread with ⟨⟨⟩, items, htoken, hargs⟩
  have hchecked : (itemsInput noBinder).checkInterface.run data = (true, items) :=
    extends_ofReader false _ data true items (run_bind_eq_some.mpr ⟨(), items, htoken, rfl⟩)
  refine ⟨items, rest, fun next => ?_, hargs⟩
  rw [check_of_true (by rw [hchecked]), hchecked]

theorem serveInt_of_readRequest (hargs : Extends args total) {method : Args → Id Int32}
    (hserve : Atv.serveInt (m := Id) data args method = some reply) :
    (serveInt (itemsInput noBinder) data total method).reply = some reply := by
  unfold Atv.serveInt at hserve
  cases hrequest : readRequest args data with
  | none =>
      rw [hrequest] at hserve
      cases hserve
  | some a =>
      rw [hrequest] at hserve
      rcases check_of_readRequest noBinder hrequest with ⟨items, rest, hcheck, hread⟩
      rw [serveInt, hcheck, hargs items a rest hread]
      exact hserve

theorem serveVoid_of_readRequest {method : Args → Id Unit}
    (hserve : Atv.serveVoid (m := Id) data args method = some reply) :
    (serveVoid (itemsInput noBinder) data total method).reply = some reply := by
  unfold Atv.serveVoid at hserve
  cases hrequest : readRequest args data with
  | none =>
      rw [hrequest] at hserve
      cases hserve
  | some a =>
      rw [hrequest] at hserve
      rcases check_of_readRequest noBinder hrequest with ⟨items, rest, hcheck, hread⟩
      rw [serveVoid, hcheck]
      exact hserve

def bufferResult (service : IATVCtrlService Client Id) :
    BufferMethod → (len : Len) → LenBuffer len → Int32 × LenBuffer len
  | .matvGetChtable ch, len, entry => service (.matvGetChtable ch len entry)
  | .matvSetChtable ch, len, entry => service (.matvSetChtable ch len entry)
  | .fmPowerup, len, parm => service (.fmPowerup len parm)
  | .fmTune, len, parm => service (.fmTune len parm)
  | .fmSeek, len, parm => service (.fmSeek len parm)
  | .fmScan, len, parm => service (.fmScan len parm)

/-- An implementation for buffers of their lengths, which fills in all of them. -/
def ofService (service : IATVCtrlService Client Id) : Implementation Client where
  method := service
  bufferMethod called len parm :=
    if hlen : 0 ≤ len then
      if hparm : (parm.getD []).length = Len.size ⟨len, hlen⟩ then
        let result := bufferResult service called ⟨len, hlen⟩ ⟨parm.getD [], hparm⟩
        ⟨result.1, ofList result.2.val⟩
      else ⟨0, fun _ => none⟩
    else ⟨0, fun _ => none⟩

theorem ofService_bufferMethod (service : IATVCtrlService Client Id) (called : BufferMethod)
    (len : Len) (entry : LenBuffer len) :
    (ofService service).bufferMethod called len.val (some entry.val) =
      ⟨(bufferResult service called len entry).1,
        ofList (bufferResult service called len entry).2.val⟩ := by
  show dite _ _ _ = _
  rw [dif_pos len.property]
  exact dif_pos entry.property

theorem buffer_overlay {size : ℕ} (entry : Buffer size) (before : ℕ → UInt8) :
    buffer size (overlay (ofList entry.val) before) = entry :=
  Subtype.ext (contents_overlay_ofList entry.property before)

theorem readLen_eq_some {items rest : Items Binder} {len : Len}
    (hread : readLen.run items = some (len, rest)) :
    readInt32.run items = some (len.val, rest) := by
  rcases run_bind_eq_some.mp hread with ⟨n, between, hnumber, hlen⟩
  by_cases hn : 0 ≤ n
  · rw [dif_pos hn] at hlen
    cases hlen
    exact hnumber
  · rw [dif_neg hn] at hlen
    cases hlen

theorem readLenBuffer_eq_some {items rest : Items Binder} {len : Len} {entry : LenBuffer len}
    (hread : readLenBuffer.run items = some (⟨len, entry⟩, rest)) :
    ∃ between, readInt32.run items = some (len.val, between) ∧
      (readBuffer len.size).run between = some (entry, rest) := by
  rcases run_bind_eq_some.mp hread with ⟨len', between, hlen, hblock⟩
  rcases run_bind_eq_some.mp hblock with ⟨entry', behind, hbuffer, hpair⟩
  cases hpair
  exact ⟨between, readLen_eq_some hlen, hbuffer⟩

theorem serveBuffer_of_readRequest (hargs : Extends args total) (called : Args → BufferMethod)
    (service : IATVCtrlService Client Id) (memory : ℕ → UInt8)
    (hserve : Atv.serveBuffer (m := Id) data args
      (fun a len entry => bufferResult service (called a) len entry) = some reply) :
    (serveBuffer (itemsInput noBinder) memory data total called (ofService service)).reply =
      some reply := by
  unfold Atv.serveBuffer at hserve
  cases hrequest : readRequest
      (do let a ← args; let block ← readLenBuffer; return (a, block)) data with
  | none =>
      rw [hrequest] at hserve
      cases hserve
  | some request =>
      rcases request with ⟨a, len, entry⟩
      rw [hrequest] at hserve
      rcases check_of_readRequest noBinder hrequest with ⟨items, rest, hcheck, hread⟩
      rcases run_bind_eq_some.mp hread with ⟨b, behind, harg, hblock⟩
      rcases run_bind_eq_some.mp hblock with ⟨block, behind', hlenBuffer, hpair⟩
      cases hpair
      rcases readLenBuffer_eq_some hlenBuffer with ⟨between, hlen, hentry⟩
      have hnumber : (itemsInput noBinder).readInt32.run behind = (len.val, between) :=
        extends_ofReader 0 readInt32 behind len.val between hlen
      let parm : Buffer len.val.toNatClampNeg := entry
      have hfound : ((itemsInput noBinder).read len.val.toNatClampNeg).run between =
          (some parm, rest) := by
        apply extends_ofReader
        rw [StateT.run_map, show (readBuffer len.val.toNatClampNeg).run between = _ from hentry]
        rfl
      have hparm : contents len.val.toNatClampNeg (overlay (copied (some parm)) memory) =
          entry.val := contents_overlay_ofList entry.property memory
      have hfilled (block : ℕ → UInt8) : buffer len.val.toNatClampNeg
          (overlay (ofList (bufferResult service (called a) len entry).2.val) block) =
            (bufferResult service (called a) len entry).2 := buffer_overlay _ block
      rw [serveBuffer, hcheck, hargs items a behind harg]
      dsimp only
      rw [hnumber]
      dsimp only
      rw [if_pos len.property, hfound]
      dsimp only
      rw [hparm, ofService_bufferMethod]
      dsimp only
      rw [hfilled]
      exact hserve

/-- Where the readers of items find everything, the reply is the one of before. -/
theorem serve_of_bnOnTransact (interfaceCast : Binder → Client)
    (service : IATVCtrlService Client Id) (memory : ℕ → UInt8) {code : TransactionCode}
    (hserve : bnOnTransact (m := Id) interfaceCast service code data = some reply) :
    (serve (itemsInput noBinder) memory interfaceCast (ofService service) code data).reply =
      some reply := by
  have hnumber : Extends readInt32 (itemsInput noBinder).readInt32 := extends_ofReader 0 readInt32
  cases code <;> rw [serve]
  case atvGetChTable =>
    exact serveBuffer_of_readRequest hnumber (fun ch => .matvGetChtable ch) service memory
      hserve
  case atvSetChTable =>
    exact serveBuffer_of_readRequest hnumber (fun ch => .matvSetChtable ch) service memory
      hserve
  case fmPowerup =>
    exact serveBuffer_of_readRequest (extends_pure ()) (fun _ => .fmPowerup) service memory
      hserve
  case fmTune =>
    exact serveBuffer_of_readRequest (extends_pure ()) (fun _ => .fmTune) service memory
      hserve
  case fmSeek =>
    exact serveBuffer_of_readRequest (extends_pure ()) (fun _ => .fmSeek) service memory
      hserve
  case fmScan =>
    exact serveBuffer_of_readRequest (extends_pure ()) (fun _ => .fmScan) service memory
      hserve
  case atvChScan | atvChScanStop | atvChangeCh | atvSetCountry | atvSetTparam | atvAudioPlay |
      atvAudioStop | atvAudioSetFormat | atvRegCallback | registerClient | registerClientFm |
      atvCli =>
    exact serveVoid_of_readRequest hserve
  case atvPsInit | atvSetParameterb | atvSuspend | atvGetChipdep | fmMute =>
    exact serveInt_of_readRequest hnumber hserve
  case atvAdjust | atvSetChipdep => exact serveInt_of_readRequest extends_readTwo hserve
  all_goals exact serveInt_of_readRequest (extends_pure ()) hserve

end Items

/-! ## Two runs -/

section TwoRuns

variable {input : Input P Binder} {code : TransactionCode} {data : P} {count : ℕ}

theorem fresh_plain (hcode : bufferArgs code = none) : fresh input code data = 0 := by
  rw [fresh, hcode]

theorem lt_fresh_iff (hcode : bufferArgs code = some count) {i : ℕ} :
    i < fresh input code data ↔
      (input.checkInterface.run data).1 = true ∧
        0 ≤ (lengthField input (lengthPosition input count data)).1 ∧
        (found input (lengthPosition input count data)).isNone ∧
        i < (lengthField input (lengthPosition input count data)).1.toNatClampNeg := by
  rw [fresh, hcode]
  dsimp only
  by_cases hfails : (input.checkInterface.run data).1 = true ∧
      0 ≤ (lengthField input (lengthPosition input count data)).1 ∧
      (found input (lengthPosition input count data)).isNone
  · rw [if_pos hfails]
    exact ⟨fun hi => ⟨hfails.1, hfails.2.1, hfails.2.2, hi⟩, fun hall => hall.2.2.2⟩
  · rw [if_neg hfails]
    refine iff_of_false (Nat.not_lt_zero i) fun hall => ?_
    exact hfails ⟨hall.1, hall.2.1, hall.2.2.1⟩

theorem copied_isSome {len i : ℕ} (found : Option (Buffer len)) (hi : i < len) :
    (copied found i).isSome = found.isSome := by
  cases found with
  | none => rfl
  | some buffer => simp [copied, ofList, buffer.property, hi]

instance nontrivialUInt8 : Nontrivial UInt8 := ⟨0, 1, by decide⟩

theorem bufferReply_independent_iff {position : P} {outputs : Outputs} :
    (∀ memory other, bufferReply input memory position outputs =
        bufferReply input other position outputs) ↔
      (0 ≤ (lengthField input position).1 → (found input position).isNone →
        ∀ i < (lengthField input position).1.toNatClampNeg, (outputs.fills i).isSome) := by
  by_cases hlen : 0 ≤ (lengthField input position).1
  · simp only [bufferReply, if_pos hlen, List.cons.injEq, true_and, and_true,
      Item.ofBuffer_inj, buffer, Subtype.mk.injEq, overlay_overlay]
    rw [contents_overlay_independent_iff]
    constructor
    · intro hcovered _ hnone i hi
      have hcell := hcovered i hi
      rw [Option.isSome_or, copied_isSome _ hi, Option.isSome_eq_false_iff.mpr hnone,
        Bool.or_false] at hcell
      exact hcell
    · intro hcovered i hi
      rw [Option.isSome_or, copied_isSome _ hi]
      cases hfound : found input position with
      | none =>
          rw [hcovered hlen (by rw [hfound]; rfl) i hi]
          rfl
      | some buffer => simp
  · refine iff_of_true (fun memory other => ?_) fun hnonneg => absurd hnonneg hlen
    rw [bufferReply, bufferReply, if_neg hlen, if_neg hlen]

section Codes

variable (input data) (memory : ℕ → UInt8) (service : Implementation Client)
  (interfaceCast : Binder → Client)

theorem serve_plain (hcode : bufferArgs code = none) :
    ∃ reply : Outputs → Items Binder, ∀ memory (service : Implementation Client),
      (serve input memory interfaceCast service code data).reply =
        (serve input memory interfaceCast service code data).outputs.map reply := by
  cases code
  case atvGetChTable | atvSetChTable | fmPowerup | fmTune | fmSeek | fmScan => cases hcode
  case atvChScan | atvChScanStop | atvChangeCh | atvSetCountry | atvSetTparam | atvAudioPlay |
      atvAudioStop | atvAudioSetFormat | atvRegCallback | registerClient | registerClientFm |
      atvCli =>
    refine ⟨fun _ => [], fun memory service => ?_⟩
    rw [serve]
    exact serveVoid_reply _ _
  all_goals
    refine ⟨fun outputs => [.int32 outputs.ret], fun memory service => ?_⟩
    rw [serve]
    exact serveInt_reply _ _

theorem serve_buffer (hcode : bufferArgs code = some count) :
    ∃ called parm, serve input memory interfaceCast service code data =
      check input data fun _ =>
        let position := lengthPosition input count data
        let outputs := service.bufferMethod called (lengthField input position).1 parm
        ⟨some outputs, some (bufferReply input memory position outputs)⟩ := by
  cases code
  case atvGetChTable | atvSetChTable | fmPowerup | fmTune | fmSeek | fmScan =>
    cases hcode
    rw [serve]
    exact serveBuffer_eq _ _
  all_goals cases hcode

/-- The reply is the one to the outputs, and there are outputs only if the interface is
the right one. -/
theorem serve_buffer_reply (hcode : bufferArgs code = some count) :
    (serve input memory interfaceCast service code data).reply =
        (serve input memory interfaceCast service code data).outputs.map
          (bufferReply input memory (lengthPosition input count data)) ∧
      ((serve input memory interfaceCast service code data).outputs.isSome →
        (input.checkInterface.run data).1 = true) := by
  rcases serve_buffer input data memory service interfaceCast hcode with ⟨called, parm, hserve⟩
  rw [hserve]
  by_cases hchecked : (input.checkInterface.run data).1 = true
  · rw [check_of_true hchecked]
    exact ⟨rfl, fun _ => hchecked⟩
  · rw [check_of_false hchecked]
    exact ⟨rfl, fun hsome => by cases hsome⟩

end Codes

/-- Methods that do nothing. -/
def idle : IATVCtrlService Client Id
  | .matvInit | .matvPsInit _ | .matvSetParameterb _ | .matvSuspend _ => (0 : Int32)
  | .matvShutdown | .matvClearChtable | .matvAudioGetFormat => (0 : Int32)
  | .matvAudioGetSoundSystem | .matvAdjust .. | .matvGetChipdep _ => (0 : Int32)
  | .matvSetChipdep .. | .fmPowerdown | .fmGetrssi | .fmMute _ => (0 : Int32)
  | .fmGetchipid | .fmIsFMPowerUp => (0 : Int32)
  | .matvChscan _ | .matvChscanStop | .matvChangeChannel _ | .matvSetCountry _ => ()
  | .matvSetTparam _ | .matvAudioPlay | .matvAudioStop | .matvAudioSetFormat _ => ()
  | .matvRegisterCallback | .registerClient _ | .registerClientFM _ | .cli _ => ()
  | .matvGetChtable _ _ entry | .matvSetChtable _ _ entry => ((0 : Int32), entry)
  | .fmPowerup _ parm | .fmTune _ parm | .fmSeek _ parm | .fmScan _ parm => ((0 : Int32), parm)

def answering (Client : Type) (outputs : Outputs) : Implementation Client :=
  ⟨idle, fun _ _ _ => outputs⟩

theorem serve_buffer_answering (memory : ℕ → UInt8) (interfaceCast : Binder → Client)
    (hcode : bufferArgs code = some count) (hchecked : (input.checkInterface.run data).1 = true)
    (outputs : Outputs) :
    (serve input memory interfaceCast (answering Client outputs) code data).outputs =
      some outputs := by
  rcases serve_buffer input data memory (answering Client outputs) interfaceCast hcode with
    ⟨called, parm, hserve⟩
  rw [hserve, check_of_true hchecked]
  rfl

end TwoRuns

/-- Two runs of the service whose implementations give the same outputs send the same
reply, whatever fresh memory holds, exactly if the outputs fill in all bytes that the
request leaves as they were allocated. -/
theorem replies_leak_nothing_iff (input : Input P Binder)
    (bbinder : ℕ → P → Option (Items Binder)) (interfaceCast : Binder → Client) (code : ℕ)
    (data : P) (answer : Option Outputs) :
    (∀ memory other (service service' : Implementation Client),
      (onTransact input bbinder interfaceCast memory service code data).outputs = answer →
      (onTransact input bbinder interfaceCast other service' code data).outputs = answer →
      (onTransact input bbinder interfaceCast memory service code data).reply =
        (onTransact input bbinder interfaceCast other service' code data).reply) ↔
      ∀ outputs, answer = some outputs →
        ∀ i < freshBytes input code data, (outputs.fills i).isSome := by
  unfold onTransact freshBytes
  cases hdecode : decode code with
  | none => simp
  | some code =>
      dsimp only [Option.elim_some]
      cases hcode : bufferArgs code with
      | none =>
          rcases serve_plain input data interfaceCast hcode with
            ⟨reply, hreply⟩
          constructor
          · intro _ outputs _ i hi
            rw [fresh_plain hcode] at hi
            exact absurd hi (Nat.not_lt_zero i)
          · intro _ memory other service service' hfirst hsecond
            rw [hreply memory service, hreply other service', hfirst, hsecond]
      | some count =>
          have hreply (memory : ℕ → UInt8) (service : Implementation Client) :=
            serve_buffer_reply input data memory service interfaceCast hcode
          constructor
          · intro hsame outputs hanswer i hi
            rcases (lt_fresh_iff hcode).mp hi with ⟨hchecked, hlen, hnone, hsize⟩
            refine bufferReply_independent_iff.mp (fun memory other => ?_) hlen hnone i hsize
            have houtputs (memory : ℕ → UInt8) :=
              serve_buffer_answering memory interfaceCast hcode hchecked outputs
            have hreplies := hsame memory other (answering Client outputs)
              (answering Client outputs) (by rw [houtputs, hanswer]) (by rw [houtputs, hanswer])
            rw [(hreply _ _).1, (hreply _ _).1, houtputs, houtputs] at hreplies
            exact Option.some.inj hreplies
          · intro hcovered memory other service service' hfirst hsecond
            have hchecked := (hreply memory service).2
            rw [(hreply _ _).1, (hreply _ _).1, hfirst, hsecond]
            rw [hfirst] at hchecked
            cases answer with
            | none => rfl
            | some outputs =>
                refine congrArg some (bufferReply_independent_iff.mpr ?_ memory other)
                intro hlen hnone i hi
                exact hcovered outputs rfl i
                  ((lt_fresh_iff hcode).mpr ⟨hchecked rfl, hlen, hnone, hi⟩)

/-- A `FM_TUNE` request for 8 bytes that brings none of them is answered with what the
fresh memory held. -/
theorem unread_buffer_sent_back :
    ¬ ∀ memory other : ℕ → UInt8, ∀ service service' : Implementation ℕ,
      (onTransact (itemsInput 0) (fun _ _ => none) id memory service 29
          [.token interfaceDescriptor, .int32 8]).outputs =
        (onTransact (itemsInput 0) (fun _ _ => none) id other service' 29
          [.token interfaceDescriptor, .int32 8]).outputs →
      (onTransact (itemsInput 0) (fun _ _ => none) id memory service 29
          [.token interfaceDescriptor, .int32 8]).reply =
        (onTransact (itemsInput 0) (fun _ _ => none) id other service' 29
          [.token interfaceDescriptor, .int32 8]).reply := by
  intro hsame
  have hreply := hsame (fun _ => 0) (fun _ => 1) (answering ℕ ⟨0, fun _ => none⟩)
    (answering ℕ ⟨0, fun _ => none⟩) rfl
  exact absurd hreply (by decide)

end ServiceMemory
end Atv
end MediatekHardware
