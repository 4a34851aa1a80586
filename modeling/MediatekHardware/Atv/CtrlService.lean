import MediatekHardware.Lib.Parcel
import Mathlib.Tactic

/-!
# The binder proxy of the analogue TV service

`BpATVCtrlService` writes a call into a parcel, `BnATVCtrlService::onTransact`
reads it and calls the local implementation.  The methods of `IATVCtrlService`
fall into three families: they return a number, nothing, or a number and a buffer
that the implementation has changed in place.
-/

namespace MediatekHardware
namespace Atv

open Parcel

/-! ## The interface -/

/-- An `int len` that is not negative. -/
abbrev Len := { n : Int32 // 0 ≤ n }

def Len.size (len : Len) : ℕ := len.val.toNatClampNeg

/-- `void *entry` of `len` bytes. -/
abbrev LenBuffer (len : Len) := Buffer len.size

/-- A method of `IATVCtrlService` with its arguments. -/
inductive ATVCtrlCall (Client : Type) where
  | matvInit
  | matvPsInit (on : Int32)
  | matvSetParameterb (on : Int32)
  | matvSuspend (on : Int32)
  | matvShutdown
  | matvChscan (mode : Int32)
  | matvChscanStop
  | matvGetChtable (ch : Int32) (len : Len) (entry : LenBuffer len)
  | matvSetChtable (ch : Int32) (len : Len) (entry : LenBuffer len)
  | matvClearChtable
  | matvChangeChannel (ch : Int32)
  | matvSetCountry (country : Int32)
  | matvSetTparam (mode : Int32)
  | matvAudioPlay
  | matvAudioStop
  | matvAudioGetFormat
  | matvAudioSetFormat (val : Int32)
  | matvAudioGetSoundSystem
  | matvAdjust (item val : Int32)
  | matvGetChipdep (item : Int32)
  | matvSetChipdep (item val : Int32)
  | fmPowerup (len : Len) (parm : LenBuffer len)
  | fmPowerdown
  | fmGetrssi
  | fmTune (len : Len) (parm : LenBuffer len)
  | fmSeek (len : Len) (parm : LenBuffer len)
  | fmScan (len : Len) (parm : LenBuffer len)
  | fmMute (val : Int32)
  | fmGetchipid
  | fmIsFMPowerUp
  | matvRegisterCallback
  | registerClient (client : Client)
  | registerClientFM (client : Client)
  | cli (input : UInt8)

variable {Client Binder : Type}

/-- The return value, with the buffer as the method leaves it. -/
def ATVCtrlCall.Result : ATVCtrlCall Client → Type
  | .matvInit | .matvPsInit _ | .matvSetParameterb _ | .matvSuspend _ | .matvShutdown => Int32
  | .matvChscan _ | .matvChscanStop => Unit
  | .matvGetChtable _ len _ | .matvSetChtable _ len _ => Int32 × LenBuffer len
  | .matvClearChtable => Int32
  | .matvChangeChannel _ | .matvSetCountry _ | .matvSetTparam _ => Unit
  | .matvAudioPlay | .matvAudioStop => Unit
  | .matvAudioGetFormat => Int32
  | .matvAudioSetFormat _ => Unit
  | .matvAudioGetSoundSystem | .matvAdjust .. | .matvGetChipdep _ | .matvSetChipdep .. => Int32
  | .fmPowerup len _ | .fmTune len _ | .fmSeek len _ | .fmScan len _ => Int32 × LenBuffer len
  | .fmPowerdown | .fmGetrssi | .fmMute _ | .fmGetchipid | .fmIsFMPowerUp => Int32
  | .matvRegisterCallback | .registerClient _ | .registerClientFM _ | .cli _ => Unit

/-- An implementation, with the effects of its methods in a monad. -/
abbrev IATVCtrlService (Client : Type) (m : Type → Type) :=
  (call : ATVCtrlCall Client) → m call.Result

inductive TransactionCode where
  | atvInit
  | atvPsInit
  | atvSetParameterb
  | atvSuspend
  | atvShutdown
  | atvChScan
  | atvChScanStop
  | atvGetChTable
  | atvSetChTable
  | atvClearChTable
  | atvChangeCh
  | atvSetCountry
  | atvSetTparam
  | atvAudioPlay
  | atvAudioStop
  | atvAudioGetFormat
  | atvAudioSetFormat
  | atvGetSoundSystem
  | atvAdjust
  | atvGetChipdep
  | atvSetChipdep
  | atvRegCallback
  | registerClient
  | registerClientFm
  | atvCli
  | fmPowerup
  | fmPowerdown
  | fmGetrssi
  | fmTune
  | fmSeek
  | fmScan
  | fmMute
  | fmGetchipid
  | fmIsfmpowerup
  deriving DecidableEq, Repr

def interfaceDescriptor : String := "android.media.IATVCtrlService"

/-- `transact`: the reply, or `none` if the call fails. -/
abbrev Transact (Binder : Type) (m : Type → Type) :=
  TransactionCode → Items Binder → m (Option (Items Binder))

/-! ## The proxy -/

section Proxy

variable {m : Type → Type} [Monad m] (remote : Transact Binder m)

def callInt (code : TransactionCode) (args : Items Binder) : m (Option Int32) := do
  let reply ← remote code (.token interfaceDescriptor :: args)
  return reply.bind fun items => (readInt32.run items).map Prod.fst

def callVoid (code : TransactionCode) (args : Items Binder) : m (Option Unit) := do
  let reply ← remote code (.token interfaceDescriptor :: args)
  return reply.map fun _ => ()

def readReply (len : Len) : Reader Binder (Int32 × LenBuffer len) := do
  let ret ← readInt32
  let entry ← readBuffer len.size
  return (ret, entry)

def callBuffer (code : TransactionCode) (args : Items Binder) (len : Len)
    (entry : LenBuffer len) : m (Option (Int32 × LenBuffer len)) := do
  let reply ← remote code
    (.token interfaceDescriptor :: (args ++ [.int32 len.val, .ofBuffer entry]))
  return reply.bind fun items => ((readReply len).run items).map Prod.fst

/-- `char` is promoted to `int` with or without its sign. -/
def charToInt (charSigned : Bool) (c : UInt8) : Int32 :=
  if charSigned then c.toInt8.toInt32 else c.toUInt32.toInt32

def intToChar (n : Int32) : UInt8 := n.toUInt32.toUInt8

def bpATVCtrlService (asBinder : Client → Binder) (charSigned : Bool) :
    (call : ATVCtrlCall Client) → m (Option call.Result)
  | .matvInit => callInt remote .atvInit []
  | .matvPsInit on => callInt remote .atvPsInit [.int32 on]
  | .matvSetParameterb on => callInt remote .atvSetParameterb [.int32 on]
  | .matvSuspend on => callInt remote .atvSuspend [.int32 on]
  | .matvShutdown => callInt remote .atvShutdown []
  | .matvChscan mode => callVoid remote .atvChScan [.int32 mode]
  | .matvChscanStop => callVoid remote .atvChScanStop []
  | .matvGetChtable ch len entry => callBuffer remote .atvGetChTable [.int32 ch] len entry
  | .matvSetChtable ch len entry => callBuffer remote .atvSetChTable [.int32 ch] len entry
  | .matvClearChtable => callInt remote .atvClearChTable []
  | .matvChangeChannel ch => callVoid remote .atvChangeCh [.int32 ch]
  | .matvSetCountry country => callVoid remote .atvSetCountry [.int32 country]
  | .matvSetTparam mode => callVoid remote .atvSetTparam [.int32 mode]
  | .matvAudioPlay => callVoid remote .atvAudioPlay []
  | .matvAudioStop => callVoid remote .atvAudioStop []
  | .matvAudioGetFormat => callInt remote .atvAudioGetFormat []
  | .matvAudioSetFormat val => callVoid remote .atvAudioSetFormat [.int32 val]
  | .matvAudioGetSoundSystem => callInt remote .atvGetSoundSystem []
  | .matvAdjust item val => callInt remote .atvAdjust [.int32 item, .int32 val]
  | .matvGetChipdep item => callInt remote .atvGetChipdep [.int32 item]
  | .matvSetChipdep item val => callInt remote .atvSetChipdep [.int32 item, .int32 val]
  | .fmPowerup len parm => callBuffer remote .fmPowerup [] len parm
  | .fmPowerdown => callInt remote .fmPowerdown []
  | .fmGetrssi => callInt remote .fmGetrssi []
  | .fmTune len parm => callBuffer remote .fmTune [] len parm
  | .fmSeek len parm => callBuffer remote .fmSeek [] len parm
  | .fmScan len parm => callBuffer remote .fmScan [] len parm
  | .fmMute val => callInt remote .fmMute [.int32 val]
  | .fmGetchipid => callInt remote .fmGetchipid []
  | .fmIsFMPowerUp => callInt remote .fmIsfmpowerup []
  | .matvRegisterCallback => callVoid remote .atvRegCallback []
  | .registerClient client =>
      callVoid remote .registerClient [.strongBinder (asBinder client)]
  | .registerClientFM client =>
      callVoid remote .registerClientFm [.strongBinder (asBinder client)]
  | .cli input => callVoid remote .atvCli [.int32 (charToInt charSigned input)]

end Proxy

/-! ## The local side -/

section Local

variable {m : Type → Type} [Monad m] {Args : Type}

/-- `CHECK_INTERFACE` and the arguments. -/
def readRequest (args : Reader Binder Args) (data : Items Binder) : Option Args :=
  ((do checkInterface interfaceDescriptor; args : Reader Binder Args).run data).map Prod.fst

def serveInt (data : Items Binder) (args : Reader Binder Args) (method : Args → m Int32) :
    m (Option (Items Binder)) :=
  match readRequest args data with
  | none => return none
  | some a => do
      let ret ← method a
      return some [.int32 ret]

def serveVoid (data : Items Binder) (args : Reader Binder Args) (method : Args → m Unit) :
    m (Option (Items Binder)) :=
  match readRequest args data with
  | none => return none
  | some a => do
      method a
      return some []

/-- No memory is allocated for a negative length. -/
def readLen : Reader Binder Len := do
  let n ← readInt32
  if hn : 0 ≤ n then return ⟨n, hn⟩ else failure

def readLenBuffer : Reader Binder ((len : Len) × LenBuffer len) := do
  let len ← readLen
  let entry ← readBuffer len.size
  return ⟨len, entry⟩

/-- The method works on the buffer that has been read, and the reply holds what it
leaves there. -/
def serveBuffer (data : Items Binder) (args : Reader Binder Args)
    (method : Args → (len : Len) → LenBuffer len → m (Int32 × LenBuffer len)) :
    m (Option (Items Binder)) :=
  match readRequest (do let a ← args; let block ← readLenBuffer; return (a, block)) data with
  | none => return none
  | some (a, ⟨len, entry⟩) => do
      let (ret, entry) ← method a len entry
      return some [.int32 ret, .ofBuffer entry]

def noArgs : Reader Binder Unit := return ()

def readTwo : Reader Binder (Int32 × Int32) := do
  let item ← readInt32
  let val ← readInt32
  return (item, val)

def bnOnTransact (interfaceCast : Binder → Client) (service : IATVCtrlService Client m) :
    Transact Binder m
  | .atvInit, data => serveInt data noArgs fun _ => service .matvInit
  | .atvPsInit, data => serveInt data readInt32 fun on => service (.matvPsInit on)
  | .atvSetParameterb, data =>
      serveInt data readInt32 fun on => service (.matvSetParameterb on)
  | .atvSuspend, data => serveInt data readInt32 fun on => service (.matvSuspend on)
  | .atvShutdown, data => serveInt data noArgs fun _ => service .matvShutdown
  | .atvChScan, data => serveVoid data readInt32 fun mode => service (.matvChscan mode)
  | .atvChScanStop, data => serveVoid data noArgs fun _ => service .matvChscanStop
  | .atvGetChTable, data =>
      serveBuffer data readInt32 fun ch len entry => service (.matvGetChtable ch len entry)
  | .atvSetChTable, data =>
      serveBuffer data readInt32 fun ch len entry => service (.matvSetChtable ch len entry)
  | .atvClearChTable, data => serveInt data noArgs fun _ => service .matvClearChtable
  | .atvChangeCh, data => serveVoid data readInt32 fun ch => service (.matvChangeChannel ch)
  | .atvSetCountry, data =>
      serveVoid data readInt32 fun country => service (.matvSetCountry country)
  | .atvSetTparam, data => serveVoid data readInt32 fun mode => service (.matvSetTparam mode)
  | .atvAudioPlay, data => serveVoid data noArgs fun _ => service .matvAudioPlay
  | .atvAudioStop, data => serveVoid data noArgs fun _ => service .matvAudioStop
  | .atvAudioGetFormat, data => serveInt data noArgs fun _ => service .matvAudioGetFormat
  | .atvAudioSetFormat, data =>
      serveVoid data readInt32 fun val => service (.matvAudioSetFormat val)
  | .atvGetSoundSystem, data =>
      serveInt data noArgs fun _ => service .matvAudioGetSoundSystem
  | .atvAdjust, data => serveInt data readTwo fun args => service (.matvAdjust args.1 args.2)
  | .atvGetChipdep, data => serveInt data readInt32 fun item => service (.matvGetChipdep item)
  | .atvSetChipdep, data =>
      serveInt data readTwo fun args => service (.matvSetChipdep args.1 args.2)
  | .atvRegCallback, data => serveVoid data noArgs fun _ => service .matvRegisterCallback
  | .registerClient, data =>
      serveVoid data readStrongBinder fun binder =>
        service (.registerClient (interfaceCast binder))
  | .registerClientFm, data =>
      serveVoid data readStrongBinder fun binder =>
        service (.registerClientFM (interfaceCast binder))
  | .atvCli, data => serveVoid data readInt32 fun input => service (.cli (intToChar input))
  | .fmPowerup, data =>
      serveBuffer data noArgs fun _ len parm => service (.fmPowerup len parm)
  | .fmPowerdown, data => serveInt data noArgs fun _ => service .fmPowerdown
  | .fmGetrssi, data => serveInt data noArgs fun _ => service .fmGetrssi
  | .fmTune, data => serveBuffer data noArgs fun _ len parm => service (.fmTune len parm)
  | .fmSeek, data => serveBuffer data noArgs fun _ len parm => service (.fmSeek len parm)
  | .fmScan, data => serveBuffer data noArgs fun _ len parm => service (.fmScan len parm)
  | .fmMute, data => serveInt data readInt32 fun val => service (.fmMute val)
  | .fmGetchipid, data => serveInt data noArgs fun _ => service .fmGetchipid
  | .fmIsfmpowerup, data => serveInt data noArgs fun _ => service .fmIsFMPowerUp

end Local

/-! ## One family at a time -/

section Families

variable {m : Type → Type} [Monad m] [LawfulMonad m] {Args : Type} {remote : Transact Binder m}
    {code : TransactionCode} {reader : Reader Binder Args} {items : Items Binder} {a : Args}

theorem readRequest_token (hread : reader.run items = some (a, [])) :
    readRequest reader (.token interfaceDescriptor :: items) = some a := by
  simp [readRequest, hread]

theorem callInt_serveInt {method : Args → m Int32} {result : m Int32}
    (hremote : ∀ data, remote code data = serveInt data reader method)
    (hread : reader.run items = some (a, [])) (hresult : method a = result) :
    callInt remote code items = some <$> result := by
  simp [callInt, hremote, serveInt, readRequest_token hread, hresult]

theorem callVoid_serveVoid {method : Args → m Unit} {result : m Unit}
    (hremote : ∀ data, remote code data = serveVoid data reader method)
    (hread : reader.run items = some (a, [])) (hresult : method a = result) :
    callVoid remote code items = some <$> result := by
  simp [callVoid, hremote, serveVoid, readRequest_token hread, hresult]

theorem readReply_ofBuffer (ret : Int32) (len : Len) (entry : LenBuffer len) :
    (readReply len).run [.int32 ret, .ofBuffer entry] =
      some ((ret, entry), ([] : Items Binder)) := by
  simp [readReply]

theorem readLenBuffer_ofBuffer (len : Len) (entry : LenBuffer len) :
    readLenBuffer.run [.int32 len.val, .ofBuffer entry] =
      some (⟨len, entry⟩, ([] : Items Binder)) := by
  simp [readLenBuffer, readLen, len.property]

theorem callBuffer_serveBuffer
    {method : Args → (len : Len) → LenBuffer len → m (Int32 × LenBuffer len)}
    (hremote : ∀ data, remote code data = serveBuffer data reader method)
    {len : Len} {entry : LenBuffer len} {result : m (Int32 × LenBuffer len)}
    (hread : ∀ rest, reader.run (items ++ rest) = some (a, rest))
    (hresult : method a len entry = result) :
    callBuffer remote code items len entry = some <$> result := by
  have hrequest : readRequest
      (do let a ← reader; let block ← readLenBuffer; return (a, block))
      (.token interfaceDescriptor :: (items ++ [.int32 len.val, .ofBuffer entry])) =
        some (a, ⟨len, entry⟩) := by
    apply readRequest_token
    simp [hread, readLenBuffer_ofBuffer]
  rw [callBuffer, hremote, serveBuffer, hrequest, ← hresult]
  simp [readReply_ofBuffer]

end Families

theorem intToChar_charToInt (charSigned : Bool) (c : UInt8) :
    intToChar (charToInt charSigned c) = c := by
  apply UInt8.toBitVec_inj.mp
  cases charSigned with
  | true =>
      show ((c.toBitVec.signExtend 32).setWidth 8) = c.toBitVec
      ext i hi
      rw [BitVec.getElem_setWidth, BitVec.getLsbD_signExtend, BitVec.getLsbD_eq_getElem hi]
      simp [hi, show i < 32 by omega]
  | false =>
      show ((c.toBitVec.setWidth 32).setWidth 8) = c.toBitVec
      exact BitVec.setWidth_setWidth_of_le c.toBitVec (by decide)

/-! ## The proxy is transparent -/

def recording {m : Type → Type} [Monad m] (service : IATVCtrlService Client m) :
    IATVCtrlService Client (StateT (List (ATVCtrlCall Client)) m) :=
  fun call => do
    modify fun calls => calls ++ [call]
    StateT.lift (service call)

section Transparent

variable {m : Type → Type} [Monad m] [LawfulMonad m] {asBinder : Client → Binder}
    {interfaceCast : Binder → Client}

theorem bp_bn (hcast : ∀ client, interfaceCast (asBinder client) = client)
    (charSigned : Bool) (service : IATVCtrlService Client m) (call : ATVCtrlCall Client) :
    bpATVCtrlService (bnOnTransact interfaceCast service) asBinder charSigned call =
      some <$> service call := by
  cases call
  case matvInit | matvShutdown | matvClearChtable | matvAudioGetFormat |
      matvAudioGetSoundSystem | fmPowerdown | fmGetrssi | fmGetchipid | fmIsFMPowerUp =>
    exact callInt_serveInt (fun _ => rfl) rfl rfl
  case matvPsInit | matvSetParameterb | matvSuspend | matvGetChipdep | fmMute =>
    exact callInt_serveInt (fun _ => rfl) rfl rfl
  case matvAdjust | matvSetChipdep =>
    exact callInt_serveInt (fun _ => rfl) rfl rfl
  case matvChscanStop | matvAudioPlay | matvAudioStop | matvRegisterCallback =>
    exact callVoid_serveVoid (fun _ => rfl) rfl rfl
  case matvChscan | matvChangeChannel | matvSetCountry | matvSetTparam |
      matvAudioSetFormat =>
    exact callVoid_serveVoid (fun _ => rfl) rfl rfl
  case matvGetChtable | matvSetChtable =>
    exact callBuffer_serveBuffer (fun _ => rfl) (fun _ => rfl) rfl
  case fmPowerup | fmTune | fmSeek | fmScan =>
    exact callBuffer_serveBuffer (fun _ => rfl) (fun _ => rfl) rfl
  case registerClient client =>
    have hclient : service (.registerClient (interfaceCast (asBinder client))) =
        service (.registerClient client) := by rw [hcast]
    exact callVoid_serveVoid (fun _ => rfl) rfl hclient
  case registerClientFM client =>
    have hclient : service (.registerClientFM (interfaceCast (asBinder client))) =
        service (.registerClientFM client) := by rw [hcast]
    exact callVoid_serveVoid (fun _ => rfl) rfl hclient
  case cli input =>
    have hinput : service (.cli (intToChar (charToInt charSigned input))) =
        service (.cli input) := by rw [intToChar_charToInt]
    exact callVoid_serveVoid (fun _ => rfl) rfl hinput

end Transparent

/-- Whatever the implementation does, a call of the proxy is that call of the
implementation, with its effects, its return value and the buffer as it leaves it;
an implementation that notes its calls notes just this one. -/
theorem atv_proxy_transparent {m : Type → Type} [Monad m] [LawfulMonad m]
    {asBinder : Client → Binder} {interfaceCast : Binder → Client}
    (hcast : ∀ client, interfaceCast (asBinder client) = client) (charSigned : Bool)
    (service : IATVCtrlService Client m) (call : ATVCtrlCall Client) :
    bpATVCtrlService (bnOnTransact interfaceCast service) asBinder charSigned call =
        some <$> service call ∧
      ∀ calls : List (ATVCtrlCall Client),
        (bpATVCtrlService (bnOnTransact interfaceCast (recording service)) asBinder
            charSigned call).run calls =
          (fun result => (some result, calls ++ [call])) <$> service call := by
  constructor
  · exact bp_bn hcast charSigned service call
  · intro calls
    rw [bp_bn hcast charSigned (recording service) call]
    simp [recording]

/-- A service that answers with its first argument and reverses its buffers. -/
def reversingService : IATVCtrlService ℕ Id
  | .matvPsInit n | .matvSetParameterb n | .matvSuspend n | .matvAdjust n _ => n
  | .matvGetChipdep n | .matvSetChipdep n _ | .fmMute n => n
  | .matvInit | .matvShutdown | .matvClearChtable | .matvAudioGetFormat => (0 : Int32)
  | .matvAudioGetSoundSystem | .fmPowerdown | .fmGetrssi => (0 : Int32)
  | .fmGetchipid | .fmIsFMPowerUp => (0 : Int32)
  | .matvChscan _ | .matvChscanStop | .matvChangeChannel _ | .matvSetCountry _ => ()
  | .matvSetTparam _ | .matvAudioPlay | .matvAudioStop | .matvAudioSetFormat _ => ()
  | .matvRegisterCallback | .registerClient _ | .registerClientFM _ | .cli _ => ()
  | .matvGetChtable ch _ entry | .matvSetChtable ch _ entry =>
      (ch, ⟨entry.val.reverse, List.length_reverse.trans entry.property⟩)
  | .fmPowerup len parm | .fmTune len parm | .fmSeek len parm | .fmScan len parm =>
      (len.val, ⟨parm.val.reverse, List.length_reverse.trans parm.property⟩)

theorem atv_proxy_transparent_reversing :
    bpATVCtrlService (m := Id) (bnOnTransact (Option.getD · 0) reversingService) some true
        (.matvGetChtable 7 ⟨3, by decide⟩ ⟨[1, 2, 3], by decide⟩) =
      some ((7 : Int32), ⟨[3, 2, 1], by decide⟩) :=
  (atv_proxy_transparent (fun _ => rfl) true reversingService
    (.matvGetChtable 7 ⟨3, by decide⟩ ⟨[1, 2, 3], by decide⟩)).1

end Atv
end MediatekHardware
