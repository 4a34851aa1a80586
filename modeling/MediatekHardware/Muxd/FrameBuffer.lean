import MediatekHardware.Lib.RingBuffer
import MediatekHardware.Muxd.Frame
import Mathlib.Tactic

/-!
# The reassembly buffer

`GSM0710_Buffer` with its storage as a parameter: the daemon keeps a ring of
2048 bytes, the decoders are also run on the plain list of the bytes that are
queued.  `adv_data` is the list of the `adv_length` bytes collected so far;
no function reads the array behind them.
-/

namespace MediatekHardware
namespace Muxd

structure Gsm0710Buffer (σ : Type) where
  store : σ
  newdataready : Bool
  inputSleeping : Bool
  flagFound : Bool
  receivedCount : ℕ
  droppedCount : ℕ
  advData : List Byte
  advFoundEsc : Bool
  deriving DecidableEq

abbrev Ring := RingBuffer gsm0710BufferSize Byte

namespace Gsm0710Buffer

variable {σ τ : Type}

def advLength (buf : Gsm0710Buffer σ) : ℕ := buf.advData.length

/-- The same decoder state over another store. -/
def withStore (buf : Gsm0710Buffer σ) (store : τ) : Gsm0710Buffer τ where
  store := store
  newdataready := buf.newdataready
  inputSleeping := buf.inputSleeping
  flagFound := buf.flagFound
  receivedCount := buf.receivedCount
  droppedCount := buf.droppedCount
  advData := buf.advData
  advFoundEsc := buf.advFoundEsc

def map (abs : σ → τ) (buf : Gsm0710Buffer σ) : Gsm0710Buffer τ :=
  buf.withStore (abs buf.store)

@[simp] theorem withStore_withStore (buf : Gsm0710Buffer σ) (first : τ)
    {υ : Type} (second : υ) :
    (buf.withStore first).withStore second = buf.withStore second := rfl

@[simp] theorem withStore_store (buf : Gsm0710Buffer σ) :
    buf.withStore buf.store = buf := rfl

@[simp] theorem store_withStore (buf : Gsm0710Buffer σ) (store : τ) :
    (buf.withStore store).store = store := rfl

variable [Fifo σ Byte]

/-- `gsm0710_buffer_length` -/
def length (buf : Gsm0710Buffer σ) : ℕ := Fifo.count buf.store

/-- `*buf->readp` -/
def peek (buf : Gsm0710Buffer σ) : Byte := Fifo.peek buf.store

/-- `gsm0710_buffer_inc(buf->readp, buf->datacount)` -/
def inc (buf : Gsm0710Buffer σ) : Gsm0710Buffer σ :=
  { buf with store := Fifo.inc buf.store }

end Gsm0710Buffer

/-! ## The daemon's buffer -/

def gsm0710BufferInit : Gsm0710Buffer Ring where
  store := ⟨fun _ => 0, 0, 0, 0⟩
  newdataready := false
  inputSleeping := false
  flagFound := false
  receivedCount := 0
  droppedCount := 0
  advData := []
  advFoundEsc := false

def gsm0710BufferFree (buf : Gsm0710Buffer Ring) : ℕ :=
  gsm0710BufferSize - buf.store.datacount

def gsm0710BufferWrite (buf : Gsm0710Buffer Ring) (input : List Byte) :
    ℕ × Gsm0710Buffer Ring :=
  let length := min input.length (gsm0710BufferFree buf)
  (length,
    { buf with
      store := buf.store.append (input.take length)
      newdataready := true })

theorem gsm0710BufferInit_valid : gsm0710BufferInit.store.Valid := by
  refine ⟨⟨?_, ?_⟩, ?_⟩ <;> simp [gsm0710BufferInit, gsm0710BufferSize]

theorem gsm0710BufferWrite_of_fits {buf : Gsm0710Buffer Ring} {input : List Byte}
    (hfits : input.length ≤ gsm0710BufferFree buf) :
    gsm0710BufferWrite buf input =
      (input.length,
        { buf with store := buf.store.append input, newdataready := true }) := by
  simp [gsm0710BufferWrite, hfits]

theorem gsm0710BufferWrite_valid {buf : Gsm0710Buffer Ring} {input : List Byte}
    (hvalid : buf.store.Valid) (hfits : input.length ≤ gsm0710BufferFree buf) :
    (gsm0710BufferWrite buf input).2.store.Valid := by
  have hle := hvalid.datacount_le
  rw [gsm0710BufferWrite_of_fits hfits]
  unfold gsm0710BufferFree at hfits
  exact RingBuffer.append_valid hvalid (by omega)

theorem gsm0710BufferWrite_map_queued {buf : Gsm0710Buffer Ring}
    {input : List Byte} (hvalid : buf.store.Valid)
    (hfits : input.length ≤ gsm0710BufferFree buf) :
    (gsm0710BufferWrite buf input).2.map RingBuffer.queued =
      { buf.map RingBuffer.queued with
        store := buf.store.queued ++ input
        newdataready := true } := by
  have hle := hvalid.datacount_le
  rw [gsm0710BufferWrite_of_fits hfits]
  unfold gsm0710BufferFree at hfits
  simp only [Gsm0710Buffer.map, Gsm0710Buffer.withStore]
  rw [RingBuffer.queued_append hvalid (by omega)]

/-! ## Feeding a stream

The decoders are called until they return `NULL` after every write; a chunk
fits when it is not longer than the free space it finds. -/

section Feed

variable {σ : Type}
    (getFrame : Gsm0710Buffer σ → Option Gsm0710Frame × Gsm0710Buffer σ)

def framesUntilNull :
    ℕ → Gsm0710Buffer σ → List Gsm0710Frame × Gsm0710Buffer σ
  | 0, buf => ([], buf)
  | fuel + 1, buf =>
      match getFrame buf with
      | (none, rest) => ([], rest)
      | (some frame, rest) =>
          let more := framesUntilNull fuel rest
          (frame :: more.1, more.2)

/-- Every frame takes at least one byte, so one call more than there are
bytes reaches `NULL`. -/
def drain [Fifo σ Byte] (buf : Gsm0710Buffer σ) :
    List Gsm0710Frame × Gsm0710Buffer σ :=
  framesUntilNull getFrame (buf.length + 1) buf

end Feed

section FeedRing

variable
    (getFrame : Gsm0710Buffer Ring → Option Gsm0710Frame × Gsm0710Buffer Ring)

def feedChunks :
    Gsm0710Buffer Ring → List (List Byte) →
      List Gsm0710Frame × Gsm0710Buffer Ring
  | buf, [] => ([], buf)
  | buf, chunk :: chunks =>
      let first := drain getFrame (gsm0710BufferWrite buf chunk).2
      let more := feedChunks first.2 chunks
      (first.1 ++ more.1, more.2)

def ChunksFit : Gsm0710Buffer Ring → List (List Byte) → Prop
  | _, [] => True
  | buf, chunk :: chunks =>
      chunk.length ≤ gsm0710BufferFree buf ∧
        ChunksFit (drain getFrame (gsm0710BufferWrite buf chunk).2).2 chunks

end FeedRing

/-! ## The calls of a run

The buffers that `feedChunks` passes to the decoder, in order. -/

section Calls

variable {σ : Type}
    (getFrame : Gsm0710Buffer σ → Option Gsm0710Frame × Gsm0710Buffer σ)

def callsUntilNull : ℕ → Gsm0710Buffer σ → List (Gsm0710Buffer σ)
  | 0, _ => []
  | fuel + 1, buf =>
      buf ::
        match getFrame buf with
        | (none, _) => []
        | (some _, rest) => callsUntilNull fuel rest

/-- A decoder never lowers `dropped_count`, so neither does a run of calls,
and the count at each call lies between those of the run. -/
theorem callsUntilNull_droppedCount
    (hdropped : ∀ buf, buf.droppedCount ≤ (getFrame buf).2.droppedCount)
    (fuel : ℕ) (buf : Gsm0710Buffer σ) :
    buf.droppedCount ≤ (framesUntilNull getFrame fuel buf).2.droppedCount ∧
      ∀ visited ∈ callsUntilNull getFrame fuel buf,
        buf.droppedCount ≤ visited.droppedCount ∧
          (getFrame visited).2.droppedCount ≤
            (framesUntilNull getFrame fuel buf).2.droppedCount := by
  induction fuel generalizing buf with
  | zero => exact ⟨le_rfl, fun visited hvisited => by cases hvisited⟩
  | succ fuel ih =>
      have hfirst := hdropped buf
      cases hcall : getFrame buf with
      | mk frame rest =>
          rw [hcall] at hfirst
          cases frame with
          | none =>
              simp only [framesUntilNull, callsUntilNull, hcall]
              refine ⟨hfirst, ?_⟩
              intro visited hvisited
              rw [List.mem_singleton] at hvisited
              subst visited
              exact ⟨le_rfl, by rw [hcall]⟩
          | some frame =>
              obtain ⟨hmore, hcalls⟩ := ih rest
              simp only [framesUntilNull, callsUntilNull, hcall]
              refine ⟨hfirst.trans hmore, ?_⟩
              intro visited hvisited
              rcases List.mem_cons.mp hvisited with rfl | hrest
              · exact ⟨le_rfl, by rw [hcall]; exact hmore⟩
              · obtain ⟨hlower, hupper⟩ := hcalls visited hrest
                exact ⟨hfirst.trans hlower, hupper⟩

end Calls

section FeedCalls

variable
    (getFrame : Gsm0710Buffer Ring → Option Gsm0710Frame × Gsm0710Buffer Ring)

def feedCalls :
    Gsm0710Buffer Ring → List (List Byte) → List (Gsm0710Buffer Ring)
  | _, [] => []
  | buf, chunk :: chunks =>
      let written := (gsm0710BufferWrite buf chunk).2
      callsUntilNull getFrame (written.length + 1) written ++
        feedCalls (drain getFrame written).2 chunks

theorem feedCalls_droppedCount
    (hdropped : ∀ buf, buf.droppedCount ≤ (getFrame buf).2.droppedCount)
    (buf : Gsm0710Buffer Ring) (chunks : List (List Byte)) :
    buf.droppedCount ≤ (feedChunks getFrame buf chunks).2.droppedCount ∧
      ∀ visited ∈ feedCalls getFrame buf chunks,
        buf.droppedCount ≤ visited.droppedCount ∧
          (getFrame visited).2.droppedCount ≤
            (feedChunks getFrame buf chunks).2.droppedCount := by
  induction chunks generalizing buf with
  | nil => exact ⟨le_rfl, fun visited hvisited => by cases hvisited⟩
  | cons chunk chunks ih =>
      obtain ⟨hdrain, hcalls⟩ := callsUntilNull_droppedCount getFrame hdropped
        ((gsm0710BufferWrite buf chunk).2.length + 1)
        (gsm0710BufferWrite buf chunk).2
      obtain ⟨hmore, hrest⟩ :=
        ih (drain getFrame (gsm0710BufferWrite buf chunk).2).2
      refine ⟨hdrain.trans hmore, ?_⟩
      intro visited hvisited
      rcases List.mem_append.mp hvisited with hfirst | hlater
      · obtain ⟨hlower, hupper⟩ := hcalls visited hfirst
        exact ⟨hlower, hupper.trans hmore⟩
      · obtain ⟨hlower, hupper⟩ := hrest visited hlater
        exact ⟨hdrain.trans hlower, hupper⟩

end FeedCalls

/-! ## The ring and the list of queued bytes

A configuration of a decoder over a store maps to the one over its
abstraction when the abstract store and the decoder state agree. -/

def MapsTo {σ τ C : Type} (Good : σ → Prop) (abs : σ → τ)
    (s : C × Gsm0710Buffer σ) (s' : C × Gsm0710Buffer τ) : Prop :=
  s'.1 = s.1 ∧ s'.2 = s.2.map abs ∧ Good s.2.store

section Abstraction

variable {σ τ : Type} [Fifo σ Byte] [Fifo τ Byte] {Good : σ → Prop}
    {abs : σ → τ}

omit [Fifo τ Byte] in
theorem Gsm0710Buffer.inc_length_lt (hcounted : Fifo.Counted σ)
    {buf : Gsm0710Buffer σ} (hpos : 0 < buf.length) :
    buf.inc.length < buf.length := by
  have hinc : buf.inc.length = buf.length - 1 := hcounted.inc_count buf.store
  omega

theorem map_peek (hhom : Fifo.Hom Good abs) {buf : Gsm0710Buffer σ}
    (hgood : Good buf.store) (hpos : 0 < buf.length) :
    (buf.map abs).peek = buf.peek :=
  hhom.peek_eq hgood hpos

theorem map_length (hhom : Fifo.Hom Good abs) {buf : Gsm0710Buffer σ}
    (hgood : Good buf.store) : (buf.map abs).length = buf.length :=
  hhom.count_eq hgood

theorem map_inc (hhom : Fifo.Hom Good abs) {buf : Gsm0710Buffer σ}
    (hgood : Good buf.store) (hpos : 0 < buf.length) :
    (buf.map abs).inc = buf.inc.map abs := by
  have hinc : abs (Fifo.inc buf.store) = Fifo.inc (abs buf.store) :=
    hhom.inc_eq hgood hpos
  simp only [Gsm0710Buffer.inc, Gsm0710Buffer.map, Gsm0710Buffer.withStore, hinc]

variable {getFrame : Gsm0710Buffer σ → Option Gsm0710Frame × Gsm0710Buffer σ}
    {getFrame' : Gsm0710Buffer τ → Option Gsm0710Frame × Gsm0710Buffer τ}

omit [Fifo σ Byte] [Fifo τ Byte] in
theorem framesUntilNull_maps
    (hmaps : ∀ {buf}, Good buf.store →
      MapsTo Good abs (getFrame buf) (getFrame' (buf.map abs)))
    (fuel : ℕ) {buf : Gsm0710Buffer σ} (hgood : Good buf.store) :
    MapsTo Good abs (framesUntilNull getFrame fuel buf)
      (framesUntilNull getFrame' fuel (buf.map abs)) := by
  induction fuel generalizing buf with
  | zero => exact ⟨rfl, rfl, hgood⟩
  | succ fuel ih =>
      obtain ⟨hframe, hrest, hnext⟩ := hmaps hgood
      simp only [framesUntilNull]
      cases hresult : getFrame buf with
      | mk frame rest =>
          cases hresult' : getFrame' (buf.map abs) with
          | mk frame' rest' =>
              rw [hresult, hresult'] at hframe hrest
              rw [hresult] at hnext
              dsimp only at hframe hrest hnext
              subst frame' rest'
              cases frame with
              | none => exact ⟨rfl, rfl, hnext⟩
              | some frame =>
                  obtain ⟨hmore, hlast, hdone⟩ := ih hnext
                  exact ⟨by simp only [hmore], hlast, hdone⟩

theorem drain_maps (hhom : Fifo.Hom Good abs)
    (hmaps : ∀ {buf}, Good buf.store →
      MapsTo Good abs (getFrame buf) (getFrame' (buf.map abs)))
    {buf : Gsm0710Buffer σ} (hgood : Good buf.store) :
    MapsTo Good abs (drain getFrame buf) (drain getFrame' (buf.map abs)) := by
  unfold drain
  rw [map_length hhom hgood]
  exact framesUntilNull_maps hmaps _ hgood

end Abstraction

/-! ## Feeding the list of queued bytes -/

section FeedList

variable
    (getFrame : Gsm0710Buffer (List Byte) →
      Option Gsm0710Frame × Gsm0710Buffer (List Byte))

def writeList (buf : Gsm0710Buffer (List Byte)) (chunk : List Byte) :
    Gsm0710Buffer (List Byte) :=
  { buf with
    store := buf.store ++ chunk
    newdataready := true }

def feedList :
    Gsm0710Buffer (List Byte) → List (List Byte) →
      List Gsm0710Frame × Gsm0710Buffer (List Byte)
  | buf, [] => ([], buf)
  | buf, chunk :: chunks =>
      let first := drain getFrame (writeList buf chunk)
      let more := feedList first.2 chunks
      (first.1 ++ more.1, more.2)

def ListsFit : Gsm0710Buffer (List Byte) → List (List Byte) → Prop
  | _, [] => True
  | buf, chunk :: chunks =>
      buf.store.length + chunk.length ≤ gsm0710BufferSize ∧
        ListsFit (drain getFrame (writeList buf chunk)).2 chunks

end FeedList

def singly (bytes : List Byte) : List (List Byte) :=
  bytes.map fun byte => [byte]

theorem singly_flatten (bytes : List Byte) : (singly bytes).flatten = bytes := by
  induction bytes with
  | nil => rfl
  | cons byte bytes ih => exact congrArg (byte :: ·) ih

section FeedMaps

variable
    {getFrame : Gsm0710Buffer Ring → Option Gsm0710Frame × Gsm0710Buffer Ring}
    {getFrame' : Gsm0710Buffer (List Byte) →
      Option Gsm0710Frame × Gsm0710Buffer (List Byte)}
    {buf : Gsm0710Buffer Ring}

theorem chunksFit_iff_listsFit
    (hmaps : ∀ {buf : Gsm0710Buffer Ring}, buf.store.Valid →
      MapsTo RingBuffer.Valid RingBuffer.queued (getFrame buf)
        (getFrame' (buf.map RingBuffer.queued)))
    {chunks : List (List Byte)} (hvalid : buf.store.Valid) :
    ChunksFit getFrame buf chunks ↔
      ListsFit getFrame' (buf.map RingBuffer.queued) chunks := by
  induction chunks generalizing buf with
  | nil => exact Iff.rfl
  | cons chunk chunks ih =>
      have hle := hvalid.datacount_le
      have hfree : chunk.length ≤ gsm0710BufferFree buf ↔
          (buf.map RingBuffer.queued).store.length + chunk.length ≤
            gsm0710BufferSize := by
        change _ ↔ buf.store.queued.length + chunk.length ≤ _
        rw [RingBuffer.queued_length]
        unfold gsm0710BufferFree
        omega
      rw [ChunksFit, ListsFit, hfree]
      refine and_congr_right fun hfits => ?_
      have hdrain := drain_maps RingBuffer.queued_hom_valid hmaps
        (gsm0710BufferWrite_valid hvalid (hfree.mpr hfits))
      rw [gsm0710BufferWrite_map_queued hvalid (hfree.mpr hfits)] at hdrain
      obtain ⟨_, hrest, hdone⟩ := hdrain
      rw [ih hdone, ← hrest]
      rfl

theorem feedChunks_maps
    (hmaps : ∀ {buf : Gsm0710Buffer Ring}, buf.store.Valid →
      MapsTo RingBuffer.Valid RingBuffer.queued (getFrame buf)
        (getFrame' (buf.map RingBuffer.queued)))
    {chunks : List (List Byte)} (hvalid : buf.store.Valid)
    (hfit : ChunksFit getFrame buf chunks) :
    MapsTo RingBuffer.Valid RingBuffer.queued (feedChunks getFrame buf chunks)
      (feedList getFrame' (buf.map RingBuffer.queued) chunks) := by
  induction chunks generalizing buf with
  | nil => exact ⟨rfl, rfl, hvalid⟩
  | cons chunk chunks ih =>
      obtain ⟨hchunk, hmore⟩ := hfit
      have hdrain := drain_maps RingBuffer.queued_hom_valid hmaps
        (gsm0710BufferWrite_valid hvalid hchunk)
      rw [gsm0710BufferWrite_map_queued hvalid hchunk] at hdrain
      obtain ⟨hframes, hrest, hdone⟩ := hdrain
      obtain ⟨hframes', hrest', hdone'⟩ := ih hdone hmore
      rw [← hrest] at hframes' hrest'
      refine ⟨?_, hrest', hdone'⟩
      simp only [feedChunks, feedList]
      rw [← hframes, ← hframes']
      rfl

end FeedMaps

/-! ## Runs that end in `NULL` -/

/-- `frames` are returned by calls until `NULL`, which leave `rest`. -/
inductive Drains {σ : Type}
    (getFrame : Gsm0710Buffer σ → Option Gsm0710Frame × Gsm0710Buffer σ) :
    Gsm0710Buffer σ → List Gsm0710Frame → Gsm0710Buffer σ → Prop
  | null {buf rest : Gsm0710Buffer σ} (hcall : getFrame buf = (none, rest)) :
      Drains getFrame buf [] rest
  | frame {buf next rest : Gsm0710Buffer σ} {frame : Gsm0710Frame}
      {frames : List Gsm0710Frame} (hcall : getFrame buf = (some frame, next))
      (hmore : Drains getFrame next frames rest) :
      Drains getFrame buf (frame :: frames) rest

theorem drains_framesUntilNull {σ : Type} [Fifo σ Byte]
    {getFrame : Gsm0710Buffer σ → Option Gsm0710Frame × Gsm0710Buffer σ}
    (hconsumes : ∀ {buf next frame}, getFrame buf = (some frame, next) →
      next.length < buf.length)
    {fuel : ℕ} {buf : Gsm0710Buffer σ} (hfuel : buf.length < fuel) :
    Drains getFrame buf (framesUntilNull getFrame fuel buf).1
      (framesUntilNull getFrame fuel buf).2 := by
  induction fuel generalizing buf with
  | zero => omega
  | succ fuel ih =>
      cases hcall : getFrame buf with
      | mk frame rest =>
          cases frame with
          | none =>
              simp only [framesUntilNull, hcall]
              exact .null hcall
          | some frame =>
              have hless := hconsumes hcall
              simp only [framesUntilNull, hcall]
              exact .frame hcall (ih (by omega))

theorem Drains.framesUntilNull_eq {σ : Type} [Fifo σ Byte]
    {getFrame : Gsm0710Buffer σ → Option Gsm0710Frame × Gsm0710Buffer σ}
    (hconsumes : ∀ {buf next frame}, getFrame buf = (some frame, next) →
      next.length < buf.length)
    {buf rest : Gsm0710Buffer σ} {frames : List Gsm0710Frame}
    (hdrains : Drains getFrame buf frames rest) {fuel : ℕ}
    (hfuel : buf.length < fuel) :
    framesUntilNull getFrame fuel buf = (frames, rest) := by
  induction hdrains generalizing fuel with
  | null hcall =>
      obtain ⟨fuel, rfl⟩ : ∃ k, fuel = k + 1 := ⟨fuel - 1, by omega⟩
      simp only [framesUntilNull, hcall]
  | frame hcall _ ih =>
      obtain ⟨fuel, rfl⟩ : ∃ k, fuel = k + 1 := ⟨fuel - 1, by omega⟩
      have hless := hconsumes hcall
      simp only [framesUntilNull, hcall]
      rw [ih (by omega)]

theorem Drains.drain_eq {σ : Type} [Fifo σ Byte]
    {getFrame : Gsm0710Buffer σ → Option Gsm0710Frame × Gsm0710Buffer σ}
    (hconsumes : ∀ {buf next frame}, getFrame buf = (some frame, next) →
      next.length < buf.length)
    {buf rest : Gsm0710Buffer σ} {frames : List Gsm0710Frame}
    (hdrains : Drains getFrame buf frames rest) :
    drain getFrame buf = (frames, rest) :=
  hdrains.framesUntilNull_eq hconsumes (Nat.lt_succ_self _)

end Muxd
end MediatekHardware
