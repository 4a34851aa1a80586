import MediatekHardware.Gps.MnldMessages
import Mathlib.Data.Nat.Digits.Defs

/-!
# Raw measurements

A measurement message has thirty-two records and a clock.  The handler converts
them into a `GpsData`, field by field, and counts the records with a PRN.  The loop
over the records ends after the first one.
-/

namespace MediatekHardware
namespace Gps

/-! ## Records -/

/-- A member of a record, with its size and offset in bytes; the structures are packed to
four bytes.  Floating-point numbers are copied and stay bits. -/
def word (size offset : ℕ) (record : List UInt8) : BitVec (8 * size) :=
  BitVec.ofNat _ (Nat.ofDigits 256 (((record.drop offset).take size).map UInt8.toNat))

structure MtkGpsMeasurement where
  flag : BitVec 32
  prn : BitVec 8
  timeOffsetInNs : BitVec 64
  state : BitVec 16
  reGpsTowInNs : BitVec 64
  reGpsTowUnInNs : BitVec 64
  cn0InDbHz : BitVec 64
  prRateInMeterPreSec : BitVec 64
  prRateUnInMeterPreSec : BitVec 64
  acDRState10 : BitVec 16
  acDRInMeters : BitVec 64
  acDRUnInMeters : BitVec 64
  prInMeters : BitVec 64
  prUnInMeters : BitVec 64
  cpInChips : BitVec 64
  cpUnInChips : BitVec 64
  cfInhZ : BitVec 32
  carrierCycle : BitVec 64
  carrierPhase : BitVec 64
  carrierPhaseUn : BitVec 64
  lossOfLock : BitVec 8
  bitNumber : BitVec 32
  timeFromLastBitInMs : BitVec 16
  dopperShiftInHz : BitVec 64
  dopperShiftUnInHz : BitVec 64
  multipathIndicater : BitVec 8
  snrInDb : BitVec 64
  elInDeg : BitVec 64
  elUnInDeg : BitVec 64
  azInDeg : BitVec 64
  azUnInDeg : BitVec 64
  usedInFix : BitVec 8

def MtkGpsMeasurement.ofBytes (record : List UInt8) : MtkGpsMeasurement where
  flag := word 4 4 record
  prn := word 1 8 record
  timeOffsetInNs := word 8 12 record
  state := word 2 20 record
  reGpsTowInNs := word 8 24 record
  reGpsTowUnInNs := word 8 32 record
  cn0InDbHz := word 8 40 record
  prRateInMeterPreSec := word 8 48 record
  prRateUnInMeterPreSec := word 8 56 record
  acDRState10 := word 2 64 record
  acDRInMeters := word 8 68 record
  acDRUnInMeters := word 8 76 record
  prInMeters := word 8 84 record
  prUnInMeters := word 8 92 record
  cpInChips := word 8 100 record
  cpUnInChips := word 8 108 record
  cfInhZ := word 4 116 record
  carrierCycle := word 8 120 record
  carrierPhase := word 8 128 record
  carrierPhaseUn := word 8 136 record
  lossOfLock := word 1 144 record
  bitNumber := word 4 148 record
  timeFromLastBitInMs := word 2 152 record
  dopperShiftInHz := word 8 156 record
  dopperShiftUnInHz := word 8 164 record
  multipathIndicater := word 1 172 record
  snrInDb := word 8 176 record
  elInDeg := word 8 184 record
  elUnInDeg := word 8 192 record
  azInDeg := word 8 200 record
  azUnInDeg := word 8 208 record
  usedInFix := word 1 216 record

structure GpsMeasurement where
  size : ℕ
  accumulatedDeltaRangeM : BitVec 64
  accumulatedDeltaRangeState : BitVec 16
  accumulatedDeltaRangeUncertaintyM : BitVec 64
  azimuthDeg : BitVec 64
  azimuthUncertaintyDeg : BitVec 64
  bitNumber : BitVec 32
  carrierCycles : BitVec 64
  carrierPhase : BitVec 64
  carrierPhaseUncertainty : BitVec 64
  carrierFrequencyHz : BitVec 32
  cN0Dbhz : BitVec 64
  codePhaseChips : BitVec 64
  codePhaseUncertaintyChips : BitVec 64
  dopplerShiftHz : BitVec 64
  dopplerShiftUncertaintyHz : BitVec 64
  elevationDeg : BitVec 64
  elevationUncertaintyDeg : BitVec 64
  flags : BitVec 32
  lossOfLock : BitVec 8
  multipathIndicator : BitVec 8
  pseudorangeM : BitVec 64
  prn : BitVec 8
  pseudorangeRateMps : BitVec 64
  pseudorangeRateUncertaintyMps : BitVec 64
  pseudorangeUncertaintyM : BitVec 64
  receivedGpsTowNs : BitVec 64
  receivedGpsTowUncertaintyNs : BitVec 64
  snrDb : BitVec 64
  state : BitVec 16
  timeFromLastBitMs : BitVec 16
  timeOffsetNs : BitVec 64
  usedInFix : Bool

def GpsMeasurement.ofMtk (size : ℕ) (m : MtkGpsMeasurement) : GpsMeasurement where
  size := size
  accumulatedDeltaRangeM := m.acDRInMeters
  accumulatedDeltaRangeState := m.acDRState10
  accumulatedDeltaRangeUncertaintyM := m.acDRUnInMeters
  azimuthDeg := m.azInDeg
  azimuthUncertaintyDeg := m.azUnInDeg
  bitNumber := m.bitNumber
  carrierCycles := m.carrierCycle
  carrierPhase := m.carrierPhase
  carrierPhaseUncertainty := m.carrierPhaseUn
  carrierFrequencyHz := m.cfInhZ
  cN0Dbhz := m.cn0InDbHz
  codePhaseChips := m.cpInChips
  codePhaseUncertaintyChips := m.cpUnInChips
  dopplerShiftHz := m.dopperShiftInHz
  dopplerShiftUncertaintyHz := m.dopperShiftUnInHz
  elevationDeg := m.elInDeg
  elevationUncertaintyDeg := m.elUnInDeg
  flags := m.flag
  lossOfLock := m.lossOfLock
  multipathIndicator := m.multipathIndicater
  pseudorangeM := m.prInMeters
  prn := m.prn
  pseudorangeRateMps := m.prRateInMeterPreSec
  pseudorangeRateUncertaintyMps := m.prRateUnInMeterPreSec
  pseudorangeUncertaintyM := m.prUnInMeters
  receivedGpsTowNs := m.reGpsTowInNs
  receivedGpsTowUncertaintyNs := m.reGpsTowUnInNs
  snrDb := m.snrInDb
  state := m.state
  timeFromLastBitMs := m.timeFromLastBitInMs
  timeOffsetNs := m.timeOffsetInNs
  usedInFix := m.usedInFix != 0

def GpsMeasurement.zero : GpsMeasurement where
  size := 0
  accumulatedDeltaRangeM := 0
  accumulatedDeltaRangeState := 0
  accumulatedDeltaRangeUncertaintyM := 0
  azimuthDeg := 0
  azimuthUncertaintyDeg := 0
  bitNumber := 0
  carrierCycles := 0
  carrierPhase := 0
  carrierPhaseUncertainty := 0
  carrierFrequencyHz := 0
  cN0Dbhz := 0
  codePhaseChips := 0
  codePhaseUncertaintyChips := 0
  dopplerShiftHz := 0
  dopplerShiftUncertaintyHz := 0
  elevationDeg := 0
  elevationUncertaintyDeg := 0
  flags := 0
  lossOfLock := 0
  multipathIndicator := 0
  pseudorangeM := 0
  prn := 0
  pseudorangeRateMps := 0
  pseudorangeRateUncertaintyMps := 0
  pseudorangeUncertaintyM := 0
  receivedGpsTowNs := 0
  receivedGpsTowUncertaintyNs := 0
  snrDb := 0
  state := 0
  timeFromLastBitMs := 0
  timeOffsetNs := 0
  usedInFix := false

structure GpsClock where
  size : ℕ
  biasNs : BitVec 64
  biasUncertaintyNs : BitVec 64
  driftNsps : BitVec 64
  flags : BitVec 16
  leapSecond : BitVec 16
  timeNs : BitVec 64
  timeUncertaintyNs : BitVec 64
  type : BitVec 8
  fullBiasNs : BitVec 64
  driftUncertaintyNsps : BitVec 64

/-- From the bytes of an `MTK_GPS_CLOCK`. -/
def GpsClock.ofMtk (size : ℕ) (clock : List UInt8) : GpsClock where
  size := size
  biasNs := word 8 36 clock
  biasUncertaintyNs := word 8 44 clock
  driftNsps := word 8 52 clock
  flags := word 2 4 clock
  leapSecond := word 2 6 clock
  timeNs := word 8 12 clock
  timeUncertaintyNs := word 8 20 clock
  type := word 1 8 clock
  fullBiasNs := word 8 28 clock
  driftUncertaintyNsps := word 8 60 clock

/-- The sizes of the structures of `hardware/gps.h`. -/
structure HeaderSizes where
  gpsMeasurement : ℕ
  gpsClock : ℕ
  gpsData : ℕ

structure GpsData where
  size : ℕ
  measurementCount : ℕ
  measurements : List GpsMeasurement
  clock : GpsClock

/-! ## The message -/

def mtkGpsMeasurements (measurements : List UInt8) : List MtkGpsMeasurement :=
  (List.range 32).map fun i =>
    .ofBytes ((measurements.drop (i * gpsMeasurementSize)).take gpsMeasurementSize)

section Handler

variable (sizes : HeaderSizes)

def fillMeasurement (records : List MtkGpsMeasurement) (gpsdata : GpsData) (i : ℕ) : GpsData :=
  match records[i]? with
  | none => gpsdata
  | some record =>
      let m := GpsMeasurement.ofMtk sizes.gpsMeasurement record
      let gpsdata := { gpsdata with measurements := gpsdata.measurements.set i m }
      if m.prn ≠ 0 then { gpsdata with measurementCount := gpsdata.measurementCount + 1 }
      else gpsdata

/-- The data behind the loop, whose bound is one. -/
def gpsDataOf (records : List MtkGpsMeasurement) (clock : GpsClock) : GpsData :=
  (List.range 1).foldl (fillMeasurement sizes records)
    { size := sizes.gpsData
      measurementCount := 0
      measurements := List.replicate 32 .zero
      clock := clock }

/-- What `measurement_callback` is called with, if it is called. -/
def measurementCallback (measurements clock : List UInt8) : Option GpsData :=
  let gpsdata := gpsDataOf sizes (mtkGpsMeasurements measurements)
    (.ofMtk sizes.gpsClock clock)
  if 0 < gpsdata.measurementCount then some gpsdata else none

def HandlerEffect.delivered : HandlerEffect → Option GpsData
  | .measurement measurements clock => measurementCallback sizes measurements clock
  | _ => none

/-! ## Delivery -/

/-- The records of a message. -/
def messageRecords (datagram : MnldDatagram) : List MtkGpsMeasurement :=
  mtkGpsMeasurements (((mnldBuffer datagram).cells.drop 4).take (32 * gpsMeasurementSize))

def present (records : List MtkGpsMeasurement) : List MtkGpsMeasurement :=
  records.filter fun record => record.prn ≠ 0

/-- What the framework is to be told of a list of records. -/
structure DeliversAll (records : List MtkGpsMeasurement) (delivered : Option GpsData) : Prop where
  count : ∀ gpsdata, delivered = some gpsdata →
    gpsdata.measurementCount = (present records).length
  entries : ∀ gpsdata, delivered = some gpsdata →
    gpsdata.measurements.take gpsdata.measurementCount =
      (present records).map (.ofMtk sizes.gpsMeasurement)
  skipped : delivered = none → present records = []

theorem length_mtkGpsMeasurements (measurements : List UInt8) :
    (mtkGpsMeasurements measurements).length = 32 := by
  simp [mtkGpsMeasurements]

theorem gpsDataOf_cons (record : MtkGpsMeasurement) (records : List MtkGpsMeasurement)
    (clock : GpsClock) :
    gpsDataOf sizes (record :: records) clock =
      { size := sizes.gpsData
        measurementCount := if record.prn = 0 then 0 else 1
        measurements := .ofMtk sizes.gpsMeasurement record :: List.replicate 31 .zero
        clock := clock } := by
  have hprn : (GpsMeasurement.ofMtk sizes.gpsMeasurement record).prn = record.prn := rfl
  simp only [gpsDataOf, List.range_one, List.foldl_cons, List.foldl_nil, fillMeasurement,
    List.getElem?_cons_zero, hprn]
  by_cases hzero : record.prn = 0
  · rw [if_neg (not_not_intro hzero), if_pos hzero]
    rfl
  · rw [if_pos hzero, if_neg hzero]
    rfl

/-- The first record decides alone. -/
theorem measurementCallback_cons {measurements : List UInt8} {record : MtkGpsMeasurement}
    {records : List MtkGpsMeasurement} (clock : List UInt8)
    (hrecords : mtkGpsMeasurements measurements = record :: records) :
    measurementCallback sizes measurements clock =
      if record.prn = 0 then none
      else some
        { size := sizes.gpsData
          measurementCount := 1
          measurements := .ofMtk sizes.gpsMeasurement record :: List.replicate 31 .zero
          clock := .ofMtk sizes.gpsClock clock } := by
  simp only [measurementCallback, hrecords, gpsDataOf_cons]
  by_cases hzero : record.prn = 0
  · simp only [if_pos hzero, lt_irrefl, if_false]
  · simp only [if_neg hzero, Nat.one_pos, if_true]

theorem exists_cons_mtkGpsMeasurements (measurements : List UInt8) :
    ∃ record records, mtkGpsMeasurements measurements = record :: records := by
  apply List.exists_cons_of_ne_nil
  intro hnil
  have hlength := length_mtkGpsMeasurements measurements
  rw [hnil] at hlength
  cases hlength

/-- No more than one measurement is ever passed on. -/
theorem measurementCallback_count {measurements clock : List UInt8} {gpsdata : GpsData}
    (hcalled : measurementCallback sizes measurements clock = some gpsdata) :
    gpsdata.measurementCount = 1 := by
  rcases exists_cons_mtkGpsMeasurements measurements with ⟨record, records, hrecords⟩
  rw [measurementCallback_cons sizes clock hrecords] at hcalled
  split_ifs at hcalled
  rw [← Option.some.inj hcalled]

theorem present_cons (record : MtkGpsMeasurement) (records : List MtkGpsMeasurement) :
    present (record :: records) =
      if record.prn = 0 then present records else record :: present records := by
  unfold present
  by_cases hzero : record.prn = 0
  · rw [if_pos hzero, List.filter_cons_of_neg (by simpa using hzero)]
  · rw [if_neg hzero, List.filter_cons_of_pos (by simpa using hzero)]

theorem present_eq_nil_iff {records : List MtkGpsMeasurement} :
    present records = [] ↔ ∀ record ∈ records, record.prn = 0 := by
  simp [present]

theorem mnldToGpsHandler_measurement {env : HandlerEnv} {datagram : MnldDatagram}
    (hcommand : intAt (mnldBuffer datagram).cells 0 = halCmdMeasurement)
    (hwanted : env.gpsmeasurementInitFlag = true) :
    ∃ clock, mnldToGpsHandler env datagram = some (.measurement
      (((mnldBuffer datagram).cells.drop 4).take (32 * gpsMeasurementSize)) clock) := by
  have hcells : (mnldBuffer datagram).cells.length = mnldBufferSize := by
    have hlength := datagram.2
    simp only [mnldBuffer, List.length_append, List.length_replicate]
    omega
  have hroom : ∀ n ≤ 9000, n ≤ (mnldBuffer datagram).cells.length := by
    intro n hn
    rw [hcells]
    exact hn
  have hint : buffGetInt (mnldBuffer datagram) =
      some (intAt (mnldBuffer datagram).cells 0, ⟨(mnldBuffer datagram).cells, 4⟩) :=
    buffGetInt_eq (hroom 4 (by decide))
  have hcase : handlerCase env halCmdMeasurement ⟨(mnldBuffer datagram).cells, 4⟩ =
      measurement ⟨(mnldBuffer datagram).cells, 4⟩ := by
    unfold handlerCase
    rw [if_neg (by decide), if_neg (by decide), if_neg (by decide), if_neg (by decide),
      if_neg (by decide), if_neg (by decide), if_neg (by decide), if_neg (by decide),
      if_neg (by decide), if_pos rfl, if_pos hwanted]
  rw [mnldToGpsHandler, hint, Option.bind_some, hcommand, hcase, measurement,
    buffGetStruct_eq (hroom (4 + 32 * gpsMeasurementSize) (by decide)), Option.bind_eq_bind,
    Option.bind_some,
    buffGetStruct_eq (hroom (4 + 32 * gpsMeasurementSize + gpsClockSize) (by decide))]
  exact ⟨_, rfl⟩

/-- All records are delivered exactly if none behind the first one has a PRN. -/
theorem measurements_delivered_iff {env : HandlerEnv} {datagram : MnldDatagram}
    (hcommand : intAt (mnldBuffer datagram).cells 0 = halCmdMeasurement)
    (hwanted : env.gpsmeasurementInitFlag = true) :
    (∃ effect, mnldToGpsHandler env datagram = some effect ∧
        DeliversAll sizes (messageRecords datagram) (effect.delivered sizes)) ↔
      ∀ record ∈ (messageRecords datagram).tail, record.prn = 0 := by
  rcases mnldToGpsHandler_measurement hcommand hwanted with ⟨clock, heffect⟩
  rcases exists_cons_mtkGpsMeasurements
    (((mnldBuffer datagram).cells.drop 4).take (32 * gpsMeasurementSize))
    with ⟨record, records, hrecords⟩
  have hcallback := measurementCallback_cons sizes clock hrecords
  have hpresent := present_cons record records
  rw [messageRecords, hrecords, List.tail_cons, ← present_eq_nil_iff]
  simp only [heffect, Option.some.injEq, exists_eq_left', HandlerEffect.delivered, hcallback]
  by_cases hprn : record.prn = 0
  · rw [if_pos hprn] at hpresent ⊢
    constructor
    · intro hall
      rw [← hpresent]
      exact hall.skipped rfl
    · intro hnone
      exact ⟨fun _ h => (by cases h), fun _ h => (by cases h), fun _ => hpresent.trans hnone⟩
  · rw [if_neg hprn] at hpresent ⊢
    constructor
    · intro hall
      have hcount := hall.count _ rfl
      rw [hpresent, List.length_cons] at hcount
      exact List.length_eq_zero_iff.mp (Nat.succ_injective hcount).symm
    · intro hnone
      rw [hnone] at hpresent
      refine ⟨?_, ?_, fun h => (by cases h)⟩
      · rintro _ ⟨⟩
        rw [hpresent]
        rfl
      · rintro _ ⟨⟩
        rw [hpresent]
        rfl

end Handler

/-! ## Two satellites -/

/-- A record that has nothing but a PRN. -/
def recordBytes (prn : UInt8) : List UInt8 :=
  List.replicate 8 0 ++ [prn] ++ List.replicate (gpsMeasurementSize - 9) 0

def measurementDatagram (prns : List UInt8) : List UInt8 :=
  intBytes halCmdMeasurement ++ prns.flatMap recordBytes

def headerSizes : HeaderSizes := ⟨216, 80, 7008⟩

def oneSatellite : MnldDatagram := ⟨measurementDatagram [7], by decide +kernel⟩
def twoSatellites : MnldDatagram := ⟨measurementDatagram [7, 9], by decide +kernel⟩

theorem measurements_delivered_one :
    (∃ effect, mnldToGpsHandler plainEnv oneSatellite = some effect ∧
        DeliversAll headerSizes (messageRecords oneSatellite) (effect.delivered headerSizes)) ↔
      ∀ record ∈ (messageRecords oneSatellite).tail, record.prn = 0 :=
  measurements_delivered_iff headerSizes (by decide +kernel) rfl

/-- The second satellite of a message is not counted. -/
theorem second_measurement_lost :
    ¬ ∃ effect, mnldToGpsHandler plainEnv twoSatellites = some effect ∧
      DeliversAll headerSizes (messageRecords twoSatellites) (effect.delivered headerSizes) := by
  rintro ⟨effect, heffect, hall⟩
  have hfront : (present ((messageRecords twoSatellites).take 2)).length = 2 := by
    decide +kernel
  have htwo : 2 ≤ (present (messageRecords twoSatellites)).length :=
    hfront ▸ ((List.take_sublist 2 _).filter _).length_le
  have hcommand : intAt (mnldBuffer twoSatellites).cells 0 = halCmdMeasurement := by
    decide +kernel
  have hwanted : plainEnv.gpsmeasurementInitFlag = true := rfl
  rcases mnldToGpsHandler_measurement hcommand hwanted with ⟨clock, hhandled⟩
  rw [hhandled] at heffect
  rw [← Option.some.inj heffect] at hall
  rcases hcallback : measurementCallback headerSizes
      (((mnldBuffer twoSatellites).cells.drop 4).take (32 * gpsMeasurementSize)) clock
    with _ | gpsdata
  · rw [hall.skipped hcallback] at htwo
    exact absurd htwo (by decide)
  · rw [← hall.count gpsdata hcallback, measurementCallback_count headerSizes hcallback] at htwo
    exact absurd htwo (by decide)

end Gps
end MediatekHardware
