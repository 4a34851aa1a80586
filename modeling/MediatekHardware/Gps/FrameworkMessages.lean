import MediatekHardware.Gps.MessageBuffer
import Mathlib.Tactic

/-!
# Messages of the framework to the GPS daemon

The AGPS functions of the HAL put a command and their arguments into a buffer of
1024 bytes on the stack, and send the whole buffer.  The certificate functions are
given a number of elements and use it as the number of bytes to copy.
-/

namespace MediatekHardware
namespace Gps

open Cursor

/-! ## Arguments -/

def messageSize : ℕ := 1024

/-- An array of `DerEncodedCertificate` or `Sha1CertificateFingerprint`: the bytes of
its elements, all of one size. -/
structure ElementArray where
  size : ℕ
  elements : List (List UInt8)
  size_pos : 0 < size
  sized : ∀ element ∈ elements, element.length = size

def ElementArray.bytes (array : ElementArray) : List UInt8 := array.elements.flatten

def ElementArray.length (array : ElementArray) : ℕ := array.elements.length

theorem ElementArray.length_le (array : ElementArray) : array.length ≤ array.bytes.length := by
  have hsum : array.bytes.length = array.length * array.size := by
    unfold ElementArray.bytes ElementArray.length
    rw [List.length_flatten, List.map_congr_left array.sized]
    simp
  rw [hsum]
  exact Nat.le_mul_of_pos_right _ array.size_pos

def emptyString : CString := ⟨[], by simp⟩

def agpsFrameworkInfoDataConnOpen : ℤ := 125
def agpsFrameworkInfoNiMessage : ℤ := 128
def agpsFrameworkInfoSetSetId : ℤ := 131
def agpsFrameworkInfoSetServer : ℤ := 132
def agpsFrameworkInfoUpdateNetworkState : ℤ := 133
def agpsFrameworkInfoUpdateNetworkAvailability : ℤ := 134
def agpsFrameworkInfoDataConnOpenIpType : ℤ := 135
def agpsFrameworkInfoInstallCertificates : ℤ := 136
def agpsFrameworkInfoRevokeCertificates : ℤ := 137
def mnlCmdGpsNlpLocationReq : ℤ := 0x4A
def nwWifi : ℤ := 1

/-! ## The senders -/

def messageInit : MessageBuffer := blank messageSize 0

/-- What `mtk_daemon_send` is given: the whole buffer. -/
abbrev Datagram := List UInt8

theorem holds_messageInit : Holds messageSize 0 [] messageInit := holds_blank _ _

def agpsDataConnOpen (apn : CString) : Option Datagram := do
  let b ← buffPutInt agpsFrameworkInfoDataConnOpen messageInit
  let b ← buffPutString apn b
  return b.cells

def agpsDataConnOpenWithApnIpType (apn : CString) (apnIpType : ℤ) : Option Datagram := do
  let b ← buffPutInt agpsFrameworkInfoDataConnOpenIpType messageInit
  let b ← buffPutString apn b
  let b ← buffPutInt apnIpType b
  return b.cells

def agpsSetServer (type : ℤ) (hostname : CString) (port : ℤ) : Option Datagram := do
  let b ← buffPutInt agpsFrameworkInfoSetServer messageInit
  let b ← buffPutInt type b
  let b ← buffPutString hostname b
  let b ← buffPutInt port b
  return b.cells

/-- `agps_install_certificates` and `agps_revoke_certificates` differ in the command. -/
def sendElements (command : ℤ) (array : ElementArray) : Option Datagram := do
  let length := toInt array.length
  let b ← buffPutInt command messageInit
  let b ← buffPutInt length b
  let b ← buffPutStruct array.bytes length b
  return b.cells

def agpsInstallCertificates (certificates : ElementArray) : Option Datagram :=
  sendElements agpsFrameworkInfoInstallCertificates certificates

def agpsRevokeCertificates (fingerprints : ElementArray) : Option Datagram :=
  sendElements agpsFrameworkInfoRevokeCertificates fingerprints

def agpsRilSetSetId (type : ℤ) (setid : CString) : Option Datagram := do
  let b ← buffPutInt agpsFrameworkInfoSetSetId messageInit
  let b ← buffPutInt type b
  let b ← buffPutString setid b
  return b.cells

def agpsRilNiMessage (msg : List UInt8) : Option Datagram := do
  let b ← buffPutInt agpsFrameworkInfoNiMessage messageInit
  let b ← buffPutBinary msg (toInt msg.length) b
  return b.cells

def agpsNetworkConnectedWifiTraggerNlp : Option Datagram := do
  let b ← buffPutInt mnlCmdGpsNlpLocationReq messageInit
  return b.cells

/-- The network state alone; `none` as text is the null pointer. -/
def networkState (connected type roaming : ℤ) (extraInfo : Option CString) :
    Option Datagram := do
  let b ← buffPutInt agpsFrameworkInfoUpdateNetworkState messageInit
  let b ← buffPutInt connected b
  let b ← buffPutInt type b
  let b ← buffPutInt roaming b
  let b ← buffPutString (extraInfo.getD emptyString) b
  return b.cells

def agpsRilUpdateNetworkState (nwConnected connected type roaming : ℤ)
    (extraInfo : Option CString) : Option (List Datagram) := do
  let nlp ←
    if nwConnected = 0 ∧ connected = 1 ∧ type = nwWifi then
      agpsNetworkConnectedWifiTraggerNlp.map fun message => [message]
    else some []
  let message ← networkState connected type roaming extraInfo
  return nlp ++ [message]

def agpsRilUpdateNetworkAvailability (avaiable : ℤ) (apn : Option CString) :
    Option Datagram := do
  let b ← buffPutInt agpsFrameworkInfoUpdateNetworkAvailability messageInit
  let b ← buffPutInt avaiable b
  let b ← buffPutString (apn.getD emptyString) b
  return b.cells

inductive FrameworkCall where
  | dataConnOpen (apn : CString)
  | dataConnOpenWithApnIpType (apn : CString) (apnIpType : ℤ)
  | setServer (type : ℤ) (hostname : CString) (port : ℤ)
  | installCertificates (certificates : ElementArray)
  | revokeCertificates (fingerprints : ElementArray)
  | setSetId (type : ℤ) (setid : CString)
  | niMessage (msg : List UInt8)
  | updateNetworkState (connected type roaming : ℤ) (extraInfo : Option CString)
  | updateNetworkAvailability (avaiable : ℤ) (apn : Option CString)

namespace FrameworkCall

/-- The datagrams a call sends; `none` if the buffer overflows. -/
def send (nwConnected : ℤ) : FrameworkCall → Option (List Datagram)
  | .dataConnOpen apn => (agpsDataConnOpen apn).map fun message => [message]
  | .dataConnOpenWithApnIpType apn apnIpType =>
      (agpsDataConnOpenWithApnIpType apn apnIpType).map fun message => [message]
  | .setServer type hostname port =>
      (agpsSetServer type hostname port).map fun message => [message]
  | .installCertificates certificates =>
      (agpsInstallCertificates certificates).map fun message => [message]
  | .revokeCertificates fingerprints =>
      (agpsRevokeCertificates fingerprints).map fun message => [message]
  | .setSetId type setid => (agpsRilSetSetId type setid).map fun message => [message]
  | .niMessage msg => (agpsRilNiMessage msg).map fun message => [message]
  | .updateNetworkState connected type roaming extraInfo =>
      agpsRilUpdateNetworkState nwConnected connected type roaming extraInfo
  | .updateNetworkAvailability avaiable apn =>
      (agpsRilUpdateNetworkAvailability avaiable apn).map fun message => [message]

end FrameworkCall

/-! ## Complete messages -/

inductive Field where
  | int (n : ℤ)
  | string (str : CString)
  | binary (bytes : List UInt8)
  | elements (array : ElementArray)

def Field.encode : Field → List UInt8
  | .int n => intBytes n
  | .string str => intBytes (str.val.length + 1) ++ (str.val ++ [0])
  | .binary bytes => intBytes bytes.length ++ bytes
  | .elements array => intBytes array.length ++ array.bytes

namespace FrameworkCall

/-- The command, and the arguments the call was given. -/
def fields : FrameworkCall → List Field
  | .dataConnOpen apn => [.int agpsFrameworkInfoDataConnOpen, .string apn]
  | .dataConnOpenWithApnIpType apn apnIpType =>
      [.int agpsFrameworkInfoDataConnOpenIpType, .string apn, .int apnIpType]
  | .setServer type hostname port =>
      [.int agpsFrameworkInfoSetServer, .int type, .string hostname, .int port]
  | .installCertificates certificates =>
      [.int agpsFrameworkInfoInstallCertificates, .elements certificates]
  | .revokeCertificates fingerprints =>
      [.int agpsFrameworkInfoRevokeCertificates, .elements fingerprints]
  | .setSetId type setid => [.int agpsFrameworkInfoSetSetId, .int type, .string setid]
  | .niMessage msg => [.int agpsFrameworkInfoNiMessage, .binary msg]
  | .updateNetworkState connected type roaming extraInfo =>
      [.int agpsFrameworkInfoUpdateNetworkState, .int connected, .int type, .int roaming,
        .string (extraInfo.getD emptyString)]
  | .updateNetworkAvailability avaiable apn =>
      [.int agpsFrameworkInfoUpdateNetworkAvailability, .int avaiable,
        .string (apn.getD emptyString)]

def message (call : FrameworkCall) : List UInt8 := call.fields.flatMap Field.encode

/-- No step leaves the buffer, and a datagram holds every field in full. -/
def SentInFull (nwConnected : ℤ) (call : FrameworkCall) : Prop :=
  ∃ datagrams ∈ call.send nwConnected, ∃ datagram ∈ datagrams, call.message <+: datagram

instance (nwConnected : ℤ) (call : FrameworkCall) : Decidable (SentInFull nwConnected call) :=
  inferInstanceAs (Decidable (∃ datagrams ∈ call.send nwConnected, _))

def uncopied : FrameworkCall → List UInt8
  | .installCertificates array => array.bytes.drop array.length
  | .revokeCertificates array => array.bytes.drop array.length
  | _ => []

/-- The message is not longer than the buffer, and what is not copied is zero. -/
structure Fits (call : FrameworkCall) : Prop where
  length_le : call.message.length ≤ messageSize
  uncopied_zero : ∀ byte ∈ call.uncopied, byte = 0

end FrameworkCall

/-! ## The fields in the buffer -/

def Field.put : Field → MessageBuffer → Option MessageBuffer
  | .int n => buffPutInt n
  | .string str => buffPutString str
  | .binary bytes => buffPutBinary bytes (toInt bytes.length)
  | .elements array => fun b =>
      (buffPutInt (toInt array.length) b).bind
        (buffPutStruct array.bytes (toInt array.length))

def Field.written : Field → List UInt8
  | .elements array => intBytes array.length ++ array.bytes.take array.length
  | field => field.encode

def putFields (fields : List Field) (b : MessageBuffer) : Option MessageBuffer :=
  fields.foldlM (fun b field => field.put b) b

section Holds

variable {text : List UInt8} {b c : MessageBuffer}

theorem length_copyIn {input : List UInt8} {len : ℤ} (hcopy : copyIn input len b = some c) :
    c.cells.length = b.cells.length := by
  unfold copyIn at hcopy
  split_ifs at hcopy
  exact length_put hcopy

theorem Field.length_put (field : Field) (hput : field.put b = some c) :
    c.cells.length = b.cells.length := by
  cases field with
  | int n => exact Cursor.length_put hput
  | string str =>
      obtain ⟨d, hint, hcopy⟩ := Option.bind_eq_some_iff.mp hput
      exact (length_copyIn hcopy).trans (Cursor.length_put hint)
  | binary bytes =>
      obtain ⟨d, hint, hcopy⟩ := Option.bind_eq_some_iff.mp hput
      exact (length_copyIn hcopy).trans (Cursor.length_put hint)
  | elements array =>
      obtain ⟨d, hint, hcopy⟩ := Option.bind_eq_some_iff.mp hput
      exact (length_copyIn hcopy).trans (Cursor.length_put hint)

theorem length_putFields {fields : List Field} (hput : putFields fields b = some c) :
    c.cells.length = b.cells.length := by
  induction fields generalizing b with
  | nil =>
      cases hput
      rfl
  | cons field fields ih =>
      obtain ⟨d, hfirst, hrest⟩ := Option.bind_eq_some_iff.mp hput
      exact (ih hrest).trans (field.length_put hfirst)

theorem holds_counted {data : List UInt8} {n : ℕ} (hholds : Holds messageSize 0 text b)
    (hn : n ≤ data.length) (hfits : text.length + (4 + n) ≤ messageSize) :
    ∃ c, (buffPutInt (toInt n) b).bind (copyIn data (toInt n)) = some c ∧
      Holds messageSize 0 (text ++ (intBytes n ++ data.take n)) c := by
  have hsmall : n < 1024 := by
    unfold messageSize at hfits
    omega
  have hint : toInt n = n := toInt_of_lt (by omega) (by omega)
  rw [hint]
  have hroom : text.length + (intBytes n).length ≤ messageSize := by
    rw [length_intBytes]
    omega
  obtain ⟨d, hfirst, hd⟩ := hholds.put hroom
  have hrest : (text ++ intBytes n).length + (data.take n).length ≤ messageSize := by
    rw [List.length_append, length_intBytes, List.length_take_of_le hn]
    omega
  obtain ⟨c, hsecond, hc⟩ := hd.put hrest
  refine ⟨c, ?_, ?_⟩
  · rw [buffPutInt, hfirst, Option.bind_some, copyIn, if_neg (by omega), Int.toNat_natCast]
    exact hsecond
  · rwa [List.append_assoc] at hc

theorem Field.holds_put (field : Field) (hholds : Holds messageSize 0 text b)
    (hfits : text.length + field.written.length ≤ messageSize) :
    ∃ c, field.put b = some c ∧ Holds messageSize 0 (text ++ field.written) c := by
  cases field with
  | int n => exact hholds.put hfits
  | string str =>
      have hlength : (str.val ++ [0]).length = str.val.length + 1 := by simp
      have hput := @holds_counted text b (str.val ++ [0]) (str.val.length + 1) hholds
        hlength.ge (by simpa [Field.written, Field.encode] using hfits)
      rw [← hlength, List.take_length, hlength] at hput
      exact_mod_cast hput
  | binary bytes =>
      have hput := @holds_counted text b bytes bytes.length hholds le_rfl
        (by simpa [Field.written, Field.encode] using hfits)
      rw [List.take_length] at hput
      exact hput
  | elements array =>
      have hle := array.length_le
      apply holds_counted hholds hle
      simpa [Field.written, Nat.min_eq_left hle] using hfits

theorem holds_putFields {fields : List Field} (hholds : Holds messageSize 0 text b)
    (hfits : text.length + (fields.flatMap Field.written).length ≤ messageSize) :
    ∃ c, putFields fields b = some c ∧
      Holds messageSize 0 (text ++ fields.flatMap Field.written) c := by
  induction fields generalizing text b with
  | nil => exact ⟨b, rfl, by simpa using hholds⟩
  | cons field fields ih =>
      rw [List.flatMap_cons, List.length_append] at hfits
      obtain ⟨d, hfirst, hd⟩ := field.holds_put hholds (by omega)
      have hrest : (text ++ field.written).length + (fields.flatMap Field.written).length ≤
          messageSize := by
        rw [List.length_append]
        omega
      obtain ⟨c, hsecond, hc⟩ := ih hd hrest
      refine ⟨c, Option.bind_eq_some_iff.mpr ⟨d, hfirst, hsecond⟩, ?_⟩
      rwa [List.flatMap_cons, ← List.append_assoc]

end Holds

/-! ## The calls -/

namespace FrameworkCall

def written (call : FrameworkCall) : List UInt8 := call.fields.flatMap Field.written

theorem message_eq (call : FrameworkCall) : call.message = call.written ++ call.uncopied := by
  cases call <;>
    simp [message, written, uncopied, fields, Field.written, Field.encode]

theorem exists_traggerNlp :
    ∃ nlp, agpsNetworkConnectedWifiTraggerNlp = some nlp ∧ nlp.length = messageSize := by
  have hroom : ([] : List UInt8).length + (intBytes mnlCmdGpsNlpLocationReq).length ≤
      messageSize := by
    rw [length_intBytes]
    decide
  obtain ⟨b, hput, hb⟩ := holds_messageInit.put hroom
  have hint : buffPutInt mnlCmdGpsNlpLocationReq messageInit = some b := hput
  exact ⟨b.cells, by simp [agpsNetworkConnectedWifiTraggerNlp, hint], hb.length_cells⟩

theorem agpsRilUpdateNetworkState_eq {nwConnected connected type roaming : ℤ}
    {extraInfo : Option CString} {nlp : Datagram}
    (hnlp : agpsNetworkConnectedWifiTraggerNlp = some nlp) :
    agpsRilUpdateNetworkState nwConnected connected type roaming extraInfo =
      (networkState connected type roaming extraInfo).map fun message =>
        (if nwConnected = 0 ∧ connected = 1 ∧ type = nwWifi then [nlp] else []) ++ [message] := by
  unfold agpsRilUpdateNetworkState
  rw [hnlp]
  split_ifs
  · rw [Option.map_some]
    cases networkState connected type roaming extraInfo <;> rfl
  · cases networkState connected type roaming extraInfo <;> rfl

/-- Every sender puts the fields one after another and sends the buffer; the update of
the network state may send a request of its own before. -/
theorem exists_send_eq (nwConnected : ℤ) (call : FrameworkCall) :
    ∃ before : List Datagram,
      call.send nwConnected = (putFields call.fields messageInit).map
        (fun b => before ++ [b.cells]) ∧
      (∀ datagram ∈ before, datagram.length = messageSize) ∧
      (before = [] ∨ call.uncopied = []) := by
  have halone (hsend : call.send nwConnected =
      (putFields call.fields messageInit).map fun b => [b.cells]) :
      ∃ before : List Datagram,
        call.send nwConnected = (putFields call.fields messageInit).map
          (fun b => before ++ [b.cells]) ∧
        (∀ datagram ∈ before, datagram.length = messageSize) ∧
        (before = [] ∨ call.uncopied = []) :=
    ⟨[], by simpa using hsend, by simp, .inl rfl⟩
  cases call with
  | dataConnOpen apn =>
      apply halone
      simp only [send, agpsDataConnOpen]
      generalize messageInit = init
      simp [fields, putFields, Field.put, Option.map_eq_bind, Option.bind_assoc]
  | dataConnOpenWithApnIpType apn apnIpType =>
      apply halone
      simp only [send, agpsDataConnOpenWithApnIpType]
      generalize messageInit = init
      simp [fields, putFields, Field.put, Option.map_eq_bind, Option.bind_assoc]
  | setServer type hostname port =>
      apply halone
      simp only [send, agpsSetServer]
      generalize messageInit = init
      simp [fields, putFields, Field.put, Option.map_eq_bind, Option.bind_assoc]
  | installCertificates certificates =>
      apply halone
      simp only [send, agpsInstallCertificates, sendElements]
      generalize messageInit = init
      simp [fields, putFields, Field.put, Option.map_eq_bind, Option.bind_assoc]
  | revokeCertificates fingerprints =>
      apply halone
      simp only [send, agpsRevokeCertificates, sendElements]
      generalize messageInit = init
      simp [fields, putFields, Field.put, Option.map_eq_bind, Option.bind_assoc]
  | setSetId type setid =>
      apply halone
      simp only [send, agpsRilSetSetId]
      generalize messageInit = init
      simp [fields, putFields, Field.put, Option.map_eq_bind, Option.bind_assoc]
  | niMessage msg =>
      apply halone
      simp only [send, agpsRilNiMessage]
      generalize messageInit = init
      simp [fields, putFields, Field.put, Option.map_eq_bind, Option.bind_assoc]
  | updateNetworkState connected type roaming extraInfo =>
      obtain ⟨nlp, hnlp, hlength⟩ := exists_traggerNlp
      refine ⟨if nwConnected = 0 ∧ connected = 1 ∧ type = nwWifi then [nlp] else [], ?_, ?_,
        .inr rfl⟩
      · rw [send, agpsRilUpdateNetworkState_eq hnlp, networkState]
        generalize messageInit = init
        simp [fields, putFields, Field.put, Option.map_eq_bind, Option.bind_assoc]
      · split_ifs <;> simp [hlength]
  | updateNetworkAvailability avaiable apn =>
      apply halone
      simp only [send, agpsRilUpdateNetworkAvailability]
      generalize messageInit = init
      simp [fields, putFields, Field.put, Option.map_eq_bind, Option.bind_assoc]

/-- A message of which nothing but zeros is left out. -/
theorem message_prefix_iff (call : FrameworkCall)
    (hle : call.message.length ≤ messageSize) :
    call.message <+: call.written ++ List.replicate (messageSize - call.written.length) 0 ↔
      ∀ byte ∈ call.uncopied, byte = 0 := by
  rw [message_eq, List.prefix_append_right_inj]
  rw [message_eq, List.length_append] at hle
  constructor
  · intro hstart byte hbyte
    exact List.eq_of_mem_replicate (hstart.subset hbyte)
  · intro hzero
    rw [List.eq_replicate_of_mem hzero]
    exact List.prefix_replicate_iff.mpr ⟨by simp; omega, by simp⟩

/-- No step of a sender leaves its buffer and the datagram holds every field, exactly
if the message is not longer than the buffer and, of an array of elements, only zeros
stand behind as many bytes as there are elements. -/
theorem framework_message_full_iff (nwConnected : ℤ) (call : FrameworkCall) :
    call.SentInFull nwConnected ↔ call.Fits := by
  obtain ⟨before, hsend, hbefore, hplain⟩ := call.exists_send_eq nwConnected
  have hput (hle : call.message.length ≤ messageSize) :
      ∃ b, putFields call.fields messageInit = some b ∧
        b.cells = call.written ++ List.replicate (messageSize - call.written.length) 0 := by
    rw [message_eq, List.length_append] at hle
    have hroom : ([] : List UInt8).length + (call.fields.flatMap Field.written).length ≤ messageSize := by
      rw [List.length_nil, Nat.zero_add]
      exact (Nat.le_add_right _ _).trans hle
    obtain ⟨b, hb, hfilled⟩ := holds_putFields holds_messageInit hroom
    exact ⟨b, hb, hfilled.cells⟩
  constructor
  · rintro ⟨datagrams, hdatagrams, datagram, hmem, hstart⟩
    rw [hsend] at hdatagrams
    obtain ⟨c, hc, rfl⟩ := Option.map_eq_some_iff.mp hdatagrams
    have hlength : datagram.length = messageSize := by
      rcases List.mem_append.mp hmem with hmem | hmem
      · exact hbefore datagram hmem
      · rw [List.mem_singleton.mp hmem, length_putFields hc]
        exact holds_messageInit.length_cells
    have hle : call.message.length ≤ messageSize := hlength ▸ hstart.length_le
    refine ⟨hle, ?_⟩
    rcases hplain with rfl | hnone
    · obtain ⟨b, hb, hcells⟩ := hput hle
      obtain rfl : b = c := Option.some.inj (hb.symm.trans hc)
      rw [List.nil_append, List.mem_singleton] at hmem
      rw [hmem, hcells] at hstart
      exact (call.message_prefix_iff hle).mp hstart
    · simp [hnone]
  · intro hfits
    obtain ⟨b, hb, hcells⟩ := hput hfits.length_le
    refine ⟨before ++ [b.cells], ?_, b.cells, by simp, ?_⟩
    · rw [hsend, hb]
      rfl
    · rw [hcells]
      exact (call.message_prefix_iff hfits.length_le).mpr hfits.uncopied_zero

/-- An access point name of 1016 characters leaves the buffer; one of 1015 does not. -/
def longApn (length : ℕ) : CString := ⟨List.replicate length 97, by simp⟩

def oneFingerprint : ElementArray where
  size := 20
  elements := [List.replicate 20 7]
  size_pos := by decide
  sized := by simp

theorem framework_message_overflows :
    (dataConnOpen (longApn 1016)).send 0 = none ∧
      ¬ (dataConnOpen (longApn 1016)).SentInFull 0 ∧
      ¬ (revokeCertificates oneFingerprint).SentInFull 0 := by
  decide +kernel

end FrameworkCall

end Gps
end MediatekHardware
