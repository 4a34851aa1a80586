import MediatekHardware.Muxd.BaseDecoder
import Mathlib.Tactic

/-!
# Streams through the basic-mode decoder

A call always returns; a call that returns a frame has consumed at least five
bytes; the recursion depth counts the frames that were dropped.  The calls on
the ring of the daemon are the calls on the list of the queued bytes.
-/

namespace MediatekHardware
namespace Muxd

open StepMachine

/-! ## Termination -/

section Termination

variable {σ : Type} [Fifo σ Byte] {negotiatedN1 : ℕ → ℤ}

/-- A local read position is ahead of the shared one. -/
def BaseConfig.Ahead : BaseConfig σ → Prop
  | (.dropping backup localReadp, _, buf) =>
      backup = buf.length ∧ Fifo.Descends buf.store localReadp ∧
        Fifo.count localReadp + 2 ≤ buf.length
  | (.complete _ backup localReadp, _, buf) =>
      backup = buf.length ∧ Fifo.Descends buf.store localReadp ∧
        Fifo.count localReadp + 5 ≤ buf.length
  | _ => True

theorem commit_length (hcounted : Fifo.Counted σ) (buf : Gsm0710Buffer σ)
    (localReadp : σ) (hahead : Fifo.count localReadp ≤ buf.length) :
    Fifo.count (Fifo.commit buf.store buf.length localReadp) =
      Fifo.count localReadp := by
  have hcommit := hcounted.commit_count buf.store localReadp buf.length
  have hlength : Fifo.count buf.store = buf.length := rfl
  omega

/-- What one step does: it goes on below its rank without adding a byte, or
it returns `NULL`, or it returns a frame at the price of five bytes. -/
theorem baseStep_cases (hcounted : Fifo.Counted σ) {s : BaseConfig σ}
    (hahead : BaseConfig.Ahead s) :
    (∃ t, baseStep negotiatedN1 s = .inl t ∧ BaseConfig.Ahead t ∧
      baseRank t < baseRank s ∧ t.2.2.length ≤ s.2.2.length) ∨
    (∃ log buf, baseStep negotiatedN1 s = .inr (none, log, buf)) ∨
    (∃ frame log buf, baseStep negotiatedN1 s = .inr (some frame, log, buf) ∧
      buf.length + 5 ≤ s.2.2.length) := by
  obtain ⟨pc, log, buf⟩ := s
  cases pc with
  | enter =>
      left
      simp only [baseStep]
      split
      · exact ⟨_, rfl, trivial, by simp [baseRank], le_rfl⟩
      · exact ⟨_, rfl, trivial, by simp [baseRank], le_rfl⟩
  | findFlag =>
      left
      by_cases hscan : buf.flagFound = false ∧ 0 < buf.length
      · have hinc := Gsm0710Buffer.inc_length_lt hcounted hscan.2
        simp only [baseStep, if_pos hscan]
        split
        · refine ⟨_, rfl, trivial, ?_, hinc.le⟩
          have hsame : ({ buf with flagFound := true } :
              Gsm0710Buffer σ).inc.length = buf.inc.length := rfl
          simp only [baseRank, hsame]
          omega
        · refine ⟨_, rfl, trivial, ?_, hinc.le⟩
          simp only [baseRank]
          omega
      · simp only [baseStep, if_neg hscan]
        split
        · exact ⟨_, rfl, trivial, by simp [baseRank], le_rfl⟩
        · exact ⟨_, rfl, trivial, by simp [baseRank], le_rfl⟩
  | noFlag => exact .inr (.inl ⟨_, _, rfl⟩)
  | skipFlags =>
      left
      simp only [baseStep]
      split
      next hskip =>
        have hinc := Gsm0710Buffer.inc_length_lt hcounted hskip.1
        refine ⟨_, rfl, trivial, ?_, hinc.le⟩
        simp only [baseRank]
        omega
      · exact ⟨_, rfl, trivial, by simp [baseRank], le_rfl⟩
  | analyse =>
      have hconsumed :=
        baseAnalyse_consumed hcounted negotiatedN1 buf.store
      simp only [baseStep]
      cases hverdict : baseAnalyse negotiatedN1 buf.store with
      | shortHeader => exact .inr (.inl ⟨_, _, rfl⟩)
      | notComplete => exact .inr (.inl ⟨_, _, rfl⟩)
      | dropping localReadp =>
          rw [hverdict] at hconsumed
          obtain ⟨hdesc, hcount⟩ := hconsumed
          refine .inl ⟨_, rfl, ⟨rfl, hdesc, hcount⟩, ?_, le_rfl⟩
          have hlength : ({ buf with
              flagFound := false
              droppedCount := buf.droppedCount + 1 } :
                Gsm0710Buffer σ).length = buf.length := rfl
          have hstore : Fifo.count buf.store = buf.length := rfl
          simp only [baseRank, hlength]
          omega
      | complete frame localReadp =>
          rw [hverdict] at hconsumed
          obtain ⟨hdesc, hcount⟩ := hconsumed
          refine .inl ⟨_, rfl, ⟨rfl, hdesc, hcount⟩, ?_, le_rfl⟩
          have hlength : ({ buf with
              receivedCount := buf.receivedCount + 1 } :
                Gsm0710Buffer σ).length = buf.length := rfl
          simp only [baseRank, hlength]
          omega
  | dropping backup localReadp =>
      obtain ⟨rfl, _, hcount⟩ := hahead
      have hcommit := commit_length hcounted buf localReadp (by omega)
      have hlength : ({ buf with
          store := Fifo.commit buf.store buf.length localReadp } :
            Gsm0710Buffer σ).length = Fifo.count localReadp := hcommit
      refine .inl ⟨_, rfl, trivial, ?_, ?_⟩
      · simp only [baseRank, hlength]
        omega
      · dsimp only
        omega
  | complete frame backup localReadp =>
      obtain ⟨rfl, _, hcount⟩ := hahead
      have hcommit := commit_length hcounted buf localReadp (by omega)
      refine .inr (.inr ⟨_, _, _, rfl, ?_⟩)
      have hlength : ({ buf with
          store := Fifo.commit buf.store buf.length localReadp
          flagFound := false } : Gsm0710Buffer σ).length =
            Fifo.count localReadp := hcommit
      dsimp only
      omega

theorem baseStep_ranked (hcounted : Fifo.Counted σ) (negotiatedN1 : ℕ → ℤ) :
    Ranked (baseStep negotiatedN1) (fun s : BaseConfig σ => s.Ahead)
      baseRank where
  good := by
    intro s t hahead hstep
    rcases baseStep_cases hcounted hahead with
      ⟨next, hnext, hgood, _, _⟩ | ⟨log, buf, hnext⟩ |
        ⟨frame, log, buf, hnext, _⟩
    · rw [hnext, Sum.inl.injEq] at hstep
      exact hstep ▸ hgood
    · rw [hnext] at hstep
      cases hstep
    · rw [hnext] at hstep
      cases hstep
  lower := by
    intro s t hahead hstep
    rcases baseStep_cases hcounted hahead with
      ⟨next, hnext, _, hless, _⟩ | ⟨log, buf, hnext⟩ |
        ⟨frame, log, buf, hnext, _⟩
    · rw [hnext, Sum.inl.injEq] at hstep
      exact hstep ▸ hless
    · rw [hnext] at hstep
      cases hstep
    · rw [hnext] at hstep
      cases hstep

theorem baseBufferGetFrame_returns (hcounted : Fifo.Counted σ)
    (negotiatedN1 : ℕ → ℤ) (buf : Gsm0710Buffer σ) (depthLevel : ℕ) :
    runFuel (baseStep negotiatedN1)
        (baseRank (.enter, BaseLog.entry depthLevel, buf) + 1)
        (.enter, BaseLog.entry depthLevel, buf) =
      some (gsm0710BaseBufferGetFrame negotiatedN1 buf depthLevel) := by
  have hahead : BaseConfig.Ahead
      ((.enter, BaseLog.entry depthLevel, buf) : BaseConfig σ) := trivial
  obtain ⟨value, hvalue⟩ :=
    (baseStep_ranked hcounted negotiatedN1).runFuel_isSome hahead
      (Nat.lt_succ_self _)
  simp only [gsm0710BaseBufferGetFrame, hvalue]
  rfl

theorem runFuel_baseStep_consumes (hcounted : Fifo.Counted σ) {fuel : ℕ}
    {s : BaseConfig σ} {frame : Gsm0710Frame} {log : BaseLog}
    {next : Gsm0710Buffer σ} (hahead : BaseConfig.Ahead s)
    (hrun : runFuel (baseStep negotiatedN1) fuel s =
      some (some frame, log, next)) :
    next.length + 5 ≤ s.2.2.length := by
  induction fuel generalizing s with
  | zero => simp [runFuel] at hrun
  | succ fuel ih =>
      rcases baseStep_cases hcounted hahead with
        ⟨t, hstep, hgood, _, hle⟩ | ⟨log', buf', hstep⟩ |
          ⟨frame', log', buf', hstep, hless⟩
      · rw [runFuel_succ_inl hstep] at hrun
        exact (ih hgood hrun).trans hle
      · simp [runFuel_succ_inr hstep] at hrun
      · rw [runFuel_succ_inr hstep] at hrun
        cases hrun
        exact hless

theorem baseGetFrame_consumes (hcounted : Fifo.Counted σ)
    {buf next : Gsm0710Buffer σ} {frame : Gsm0710Frame}
    (hcall : baseGetFrame negotiatedN1 buf = (some frame, next)) :
    next.length < buf.length := by
  have hreturns := baseBufferGetFrame_returns hcounted negotiatedN1 buf 0
  simp only [baseGetFrame, Prod.mk.injEq] at hcall
  have hresult : gsm0710BaseBufferGetFrame negotiatedN1 buf 0 =
      (some frame, (gsm0710BaseBufferGetFrame negotiatedN1 buf 0).2.1,
        next) := by
    rw [← hcall.1, ← hcall.2]
  rw [hresult] at hreturns
  have hless := runFuel_baseStep_consumes hcounted (by trivial) hreturns
  dsimp only at hless
  omega

end Termination

/-! ## The recursion depth counts dropped frames -/

section Depth

variable {σ : Type} [Fifo σ Byte] {negotiatedN1 : ℕ → ℤ}

/-- Dropped frames whose recursive call has not been made yet. -/
def BasePc.pendingDrops : BasePc σ → ℕ
  | .dropping _ _ => 1
  | _ => 0

theorem baseStep_depth (negotiatedN1 : ℕ → ℤ) (s : BaseConfig σ) :
    (∀ t, baseStep negotiatedN1 s = .inl t →
      t.2.2.droppedCount + s.2.1.depthLevel + s.1.pendingDrops =
        s.2.2.droppedCount + t.2.1.depthLevel + t.1.pendingDrops) ∧
    (∀ r, baseStep negotiatedN1 s = .inr r →
      r.2.2.droppedCount + s.2.1.depthLevel + s.1.pendingDrops =
        s.2.2.droppedCount + r.2.1.depthLevel) := by
  obtain ⟨pc, log, buf⟩ := s
  constructor
  · intro t hstep
    cases pc with
    | analyse =>
        simp only [baseStep] at hstep
        split at hstep
        · cases hstep
        · cases hstep
        · cases hstep
          simp only [BasePc.pendingDrops]
          omega
        · cases hstep
          rfl
    | dropping backup localReadp =>
        simp only [baseStep] at hstep
        cases hstep
        simp only [BasePc.pendingDrops]
        omega
    | findFlag =>
        simp only [baseStep] at hstep
        split_ifs at hstep <;> cases hstep <;> rfl
    | enter =>
        simp only [baseStep] at hstep
        split_ifs at hstep <;> cases hstep <;> rfl
    | noFlag => cases hstep
    | skipFlags =>
        simp only [baseStep] at hstep
        split_ifs at hstep <;> cases hstep <;> rfl
    | complete frame backup localReadp => cases hstep
  · intro r hstep
    cases pc with
    | analyse =>
        simp only [baseStep] at hstep
        split at hstep <;> cases hstep <;> rfl
    | dropping backup localReadp => cases hstep
    | findFlag =>
        simp only [baseStep] at hstep
        split_ifs at hstep
    | enter =>
        simp only [baseStep] at hstep
        split_ifs at hstep
    | noFlag =>
        cases hstep
        rfl
    | skipFlags =>
        simp only [baseStep] at hstep
        split_ifs at hstep
    | complete frame backup localReadp =>
        cases hstep
        rfl

theorem runFuel_baseStep_depth {fuel : ℕ} {s : BaseConfig σ} {r : BaseResult σ}
    (hrun : runFuel (baseStep negotiatedN1) fuel s = some r) :
    r.2.2.droppedCount + s.2.1.depthLevel + s.1.pendingDrops =
      s.2.2.droppedCount + r.2.1.depthLevel := by
  -- The sum over a configuration is the sum at the start, shifted by the depth.
  refine runFuel_invariant
    (fun t => t.2.2.droppedCount + s.2.1.depthLevel + s.1.pendingDrops =
      s.2.2.droppedCount + t.2.1.depthLevel + t.1.pendingDrops)
    (fun r => r.2.2.droppedCount + s.2.1.depthLevel + s.1.pendingDrops =
      s.2.2.droppedCount + r.2.1.depthLevel) ?_ ?_ (by omega) hrun
  · intro t u hbalance hstep
    have hnext := (baseStep_depth negotiatedN1 t).1 u hstep
    omega
  · intro t value hbalance hstep
    have hret := (baseStep_depth negotiatedN1 t).2 value hstep
    omega

/-- Every recursive call of a call is one dropped frame. -/
theorem baseBufferGetFrame_depth (hcounted : Fifo.Counted σ)
    (buf : Gsm0710Buffer σ) (depthLevel : ℕ) :
    (gsm0710BaseBufferGetFrame negotiatedN1 buf
        depthLevel).2.2.droppedCount + depthLevel =
      buf.droppedCount +
        (gsm0710BaseBufferGetFrame negotiatedN1 buf depthLevel).2.1.depthLevel :=
  runFuel_baseStep_depth
    (baseBufferGetFrame_returns hcounted negotiatedN1 buf depthLevel)

end Depth

/-! ## The ring and the list of queued bytes -/

def BaseVerdict.map {σ τ : Type} (abs : σ → τ) : BaseVerdict σ → BaseVerdict τ
  | .shortHeader => .shortHeader
  | .notComplete => .notComplete
  | .dropping localReadp => .dropping (abs localReadp)
  | .complete frame localReadp => .complete frame (abs localReadp)

def BasePc.map {σ τ : Type} (abs : σ → τ) : BasePc σ → BasePc τ
  | .enter => .enter
  | .findFlag => .findFlag
  | .noFlag => .noFlag
  | .skipFlags => .skipFlags
  | .analyse => .analyse
  | .dropping backup localReadp => .dropping backup (abs localReadp)
  | .complete frame backup localReadp =>
      .complete frame backup (abs localReadp)

section Simulation

variable {σ τ : Type} [Fifo σ Byte] [Fifo τ Byte] {Good : σ → Prop}
    {abs : σ → τ} {negotiatedN1 : ℕ → ℤ} {readp : σ}

theorem readLengthField_map (hhom : Fifo.Hom Good abs)
    (hcounted : Fifo.Counted σ) (hgood : Good readp)
    (hcount : 2 ≤ Fifo.count readp) (fcs : Byte) :
    readLengthField (abs readp) fcs =
      ((readLengthField readp fcs).1, abs (readLengthField readp fcs).2.1,
        (readLengthField readp fcs).2.2) := by
  have hinc := hcounted.inc_count readp
  have hpos : 0 < Fifo.count readp := by omega
  have hpeek := hhom.peek_eq (hhom.inc_good hgood hpos) (by omega)
  simp only [readLengthField, hhom.peek_eq hgood hpos]
  split
  · simp only [← hhom.inc_eq hgood hpos, hpeek]
  · rfl

theorem readPayload_map (hhom : Fifo.Hom Good abs) (hgood : Good readp)
    {length : ℕ} (hcount : length ≤ Fifo.count readp) :
    readPayload (abs readp) length =
      ((readPayload readp length).1, abs (readPayload readp length).2) := by
  simp only [readPayload]
  split
  · rw [hhom.copy_eq hgood hcount, hhom.skip_eq hgood hcount]
  · rfl

theorem checkTail_map (hhom : Fifo.Hom Good abs) (hcounted : Fifo.Counted σ)
    (hgood : Good readp) (hcount : 2 ≤ Fifo.count readp)
    (frame : Gsm0710Frame) (fcs : Byte) :
    checkTail frame (abs readp) fcs = (checkTail frame readp fcs).map abs := by
  have hinc := hcounted.inc_count readp
  have hpos : 0 < Fifo.count readp := by omega
  have hpos' : 0 < Fifo.count (Fifo.inc readp) := by omega
  have hgood' := hhom.inc_good hgood hpos
  simp only [checkTail, hhom.peek_eq hgood hpos, ← hhom.inc_eq hgood hpos,
    hhom.peek_eq hgood' hpos']
  split
  · rfl
  · split
    · rfl
    · rw [← hhom.inc_eq hgood' hpos']
      rfl

theorem baseAnalyse_map (hhom : Fifo.Hom Good abs) (hcounted : Fifo.Counted σ)
    (negotiatedN1 : ℕ → ℤ) {store : σ} (hgood : Good store) :
    baseAnalyse negotiatedN1 (abs store) =
      (baseAnalyse negotiatedN1 store).map abs := by
  unfold baseAnalyse
  rw [hhom.count_eq hgood]
  by_cases hshort : Fifo.count store < 5
  · rw [if_pos hshort, if_pos hshort]
    rfl
  · rw [if_neg hshort, if_neg hshort]
    have hcontrol := hcounted.inc_count store
    have hfield := hcounted.inc_count (Fifo.inc store)
    have hpos : 0 < Fifo.count store := by omega
    have hpos' : 0 < Fifo.count (Fifo.inc store) := by omega
    have hgood' := hhom.inc_good hgood hpos
    have hgood'' := hhom.inc_good hgood' hpos'
    have hheader : Fifo.Descends store (Fifo.inc (Fifo.inc store)) :=
      .inc (.inc .refl hpos) hpos'
    have hread := readLengthField_map hhom hcounted hgood'' (by omega)
      (crcStep (crcStep 0xFF (Fifo.peek store)) (Fifo.peek (Fifo.inc store)))
    obtain ⟨hdesc, hlower, hupper⟩ := readLengthField_consumed hcounted
      (crcStep (crcStep 0xFF (Fifo.peek store)) (Fifo.peek (Fifo.inc store)))
      hheader (by omega)
    dsimp only
    rw [hhom.peek_eq hgood hpos, ← hhom.inc_eq hgood hpos,
      hhom.peek_eq hgood' hpos', ← hhom.inc_eq hgood' hpos', hread]
    dsimp only
    generalize readLengthField (Fifo.inc (Fifo.inc store))
      (crcStep (crcStep 0xFF (Fifo.peek store)) (Fifo.peek (Fifo.inc store))) =
        field at hdesc hlower hupper ⊢
    have hgoodField := hhom.descends_good hgood hdesc
    split
    · rfl
    · rw [hhom.count_eq hgoodField]
      split
      · rfl
      next hcomplete =>
        have hfirst := hcounted.inc_count field.2.1
        have hposField : 0 < Fifo.count field.2.1 := by omega
        have hgoodFirst := hhom.inc_good hgoodField hposField
        obtain ⟨hpayload, hcount⟩ := readPayload_consumed hcounted field.1
          (.inc hdesc hposField) (by omega)
        rw [← hhom.inc_eq hgoodField hposField,
          readPayload_map hhom hgoodFirst (by omega)]
        exact checkTail_map hhom hcounted (hhom.descends_good hgood hpayload)
          (by omega) _ _

def BaseMaps (Good : σ → Prop) (abs : σ → τ) (s : BaseConfig σ)
    (s' : BaseConfig τ) : Prop :=
  s' = (s.1.map abs, s.2.1, s.2.2.map abs) ∧ Good s.2.2.store ∧ s.Ahead

def BaseReturns (Good : σ → Prop) (abs : σ → τ) (r : BaseResult σ)
    (r' : BaseResult τ) : Prop :=
  r' = (r.1, r.2.1, r.2.2.map abs) ∧ Good r.2.2.store

theorem baseStep_simulates (hhom : Fifo.Hom Good abs)
    (hcounted : Fifo.Counted σ) :
    Simulates (baseStep negotiatedN1) (baseStep negotiatedN1)
      (BaseMaps Good abs) (BaseReturns Good abs) where
  step := by
    rintro ⟨pc, log, buf⟩ s' ⟨rfl, hgood, hahead⟩
    dsimp only at hgood
    have hlength := map_length hhom hgood
    have hflag : (buf.map abs).flagFound = buf.flagFound := rfl
    cases pc with
    | enter =>
        simp only [BasePc.map, baseStep]
        split
        · exact .inl ⟨_, _, rfl, rfl, rfl, hgood, trivial⟩
        · exact .inl ⟨_, _, rfl, rfl, rfl, hgood, trivial⟩
    | findFlag =>
        simp only [BasePc.map, baseStep, hlength, hflag]
        by_cases hscan : buf.flagFound = false ∧ 0 < buf.length
        · have hinc := map_inc hhom hgood hscan.2
          have hdone : Good buf.inc.store := hhom.inc_good hgood hscan.2
          simp only [if_pos hscan, map_peek hhom hgood hscan.2]
          split
          · refine .inl ⟨_, _, rfl, rfl, ?_, hdone, trivial⟩
            have hfound : ({ buf.map abs with flagFound := true } :
                Gsm0710Buffer τ).inc =
                  { (buf.map abs).inc with flagFound := true } := rfl
            rw [hfound, hinc]
            rfl
          · exact .inl ⟨_, _, rfl, rfl, by rw [hinc]; rfl, hdone, trivial⟩
        · simp only [if_neg hscan]
          split
          · exact .inl ⟨_, _, rfl, rfl, rfl, hgood, trivial⟩
          · exact .inl ⟨_, _, rfl, rfl, rfl, hgood, trivial⟩
    | noFlag => exact .inr ⟨_, _, rfl, rfl, rfl, hgood⟩
    | skipFlags =>
        simp only [BasePc.map, baseStep, hlength]
        by_cases hpos : 0 < buf.length
        · have hinc := map_inc hhom hgood hpos
          have hdone : Good buf.inc.store := hhom.inc_good hgood hpos
          simp only [hpos, true_and, map_peek hhom hgood hpos]
          split
          · exact .inl ⟨_, _, rfl, rfl, by rw [hinc]; rfl, hdone, trivial⟩
          · exact .inl ⟨_, _, rfl, rfl, rfl, hgood, trivial⟩
        · simp only [hpos, false_and, if_false]
          exact .inl ⟨_, _, rfl, rfl, rfl, hgood, trivial⟩
    | analyse =>
        have hanalyse := baseAnalyse_map hhom hcounted negotiatedN1 hgood
        have hconsumed :=
          baseAnalyse_consumed hcounted negotiatedN1 buf.store
        have hstore : (buf.map abs).store = abs buf.store := rfl
        simp only [BasePc.map, baseStep, hstore, hanalyse, hlength]
        have hpeek : baseAnalyse negotiatedN1 buf.store ≠ .shortHeader →
            (buf.map abs).peek = buf.peek := by
          intro hheader
          apply map_peek hhom hgood
          by_contra hempty
          apply hheader
          have hshort : Fifo.count buf.store < 5 := by
            have hcount : Fifo.count buf.store = buf.length := rfl
            omega
          simp only [baseAnalyse, if_pos hshort]
        cases hverdict : baseAnalyse negotiatedN1 buf.store with
        | shortHeader => exact .inr ⟨_, _, rfl, rfl, rfl, hgood⟩
        | notComplete =>
            rw [hpeek (by simp [hverdict])]
            exact .inr ⟨_, _, rfl, rfl, rfl, hgood⟩
        | dropping localReadp =>
            rw [hpeek (by simp [hverdict])]
            rw [hverdict] at hconsumed
            exact .inl ⟨_, _, rfl, rfl, rfl, hgood, rfl, hconsumed⟩
        | complete frame localReadp =>
            rw [hpeek (by simp [hverdict])]
            rw [hverdict] at hconsumed
            exact .inl ⟨_, _, rfl, rfl, rfl, hgood, rfl, hconsumed⟩
    | dropping backup localReadp =>
        obtain ⟨rfl, hdesc, _⟩ := hahead
        have hcommit : abs (Fifo.commit buf.store buf.length localReadp) =
            Fifo.commit (abs buf.store) buf.length (abs localReadp) :=
          hhom.commit_eq hgood hdesc
        refine .inl ⟨_, _, rfl, rfl, ?_, hhom.commit_good hgood hdesc, trivial⟩
        simp only [BasePc.map, Gsm0710Buffer.map, Gsm0710Buffer.withStore,
          hcommit]
    | complete frame backup localReadp =>
        obtain ⟨rfl, hdesc, _⟩ := hahead
        have hcommit : abs (Fifo.commit buf.store buf.length localReadp) =
            Fifo.commit (abs buf.store) buf.length (abs localReadp) :=
          hhom.commit_eq hgood hdesc
        refine .inr ⟨_, _, rfl, rfl, ?_, hhom.commit_good hgood hdesc⟩
        simp only [Gsm0710Buffer.map, Gsm0710Buffer.withStore, hcommit]

theorem baseBufferGetFrame_maps (hhom : Fifo.Hom Good abs)
    (hcounted : Fifo.Counted σ) (negotiatedN1 : ℕ → ℤ)
    {buf : Gsm0710Buffer σ} (hgood : Good buf.store) (depthLevel : ℕ) :
    BaseReturns Good abs (gsm0710BaseBufferGetFrame negotiatedN1 buf depthLevel)
      (gsm0710BaseBufferGetFrame negotiatedN1 (buf.map abs) depthLevel) := by
  have hrun := baseBufferGetFrame_returns hcounted negotiatedN1 buf depthLevel
  have hrel : BaseMaps Good abs (.enter, BaseLog.entry depthLevel, buf)
      (.enter, BaseLog.entry depthLevel, buf.map abs) :=
    ⟨rfl, hgood, trivial⟩
  obtain ⟨value, hvalue, hout⟩ :=
    (baseStep_simulates hhom hcounted).runFuel hrel hrun
  have hcall : gsm0710BaseBufferGetFrame negotiatedN1 (buf.map abs)
      depthLevel = value := by
    simp only [gsm0710BaseBufferGetFrame, baseRank, map_length hhom hgood]
    simp only [baseRank] at hvalue
    rw [hvalue]
    rfl
  rwa [hcall]

theorem baseGetFrame_maps (hhom : Fifo.Hom Good abs)
    (hcounted : Fifo.Counted σ) {buf : Gsm0710Buffer σ}
    (hgood : Good buf.store) :
    MapsTo Good abs (baseGetFrame negotiatedN1 buf)
      (baseGetFrame negotiatedN1 (buf.map abs)) := by
  obtain ⟨hresult, hdone⟩ :=
    baseBufferGetFrame_maps hhom hcounted negotiatedN1 hgood 0
  refine ⟨?_, ?_, hdone⟩
  · simp only [baseGetFrame, hresult]
  · simp only [baseGetFrame, hresult]

end Simulation

end Muxd
end MediatekHardware
