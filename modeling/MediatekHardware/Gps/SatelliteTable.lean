import MediatekHardware.Gps.NmeaParser
import MediatekHardware.Lib.Transition
import Mathlib.Tactic

/-!
# What the status callback is given

`sv_count` is not cleared when `num_svs` takes its entries over: only a sentence with
number 1 clears it.  A last sentence that comes twice, or without its first one,
counts these entries again, and the list then reaches over entries nobody wrote.
-/

namespace MediatekHardware
namespace Gps

open Transition

/-! ## The property -/

section Sound

variable {n : ℕ} {E : Type}

/-- The counted entries are in the list, each is counted once, and each is what a
sentence wrote since the last callback. -/
structure SvStatus.Sound (status : SvStatus n E) : Prop where
  numSvs_le : status.numSvs ≤ n
  counted_once : status.history.counted.Nodup
  written : ∀ (i : ℕ) (hi : i < n), i < status.numSvs →
    (i, status.svList[i]) ∈ status.history.written

/-- `num_svs` is within the list, no entry is counted twice, and what a callback was
given is sound. -/
structure SvReader.TableSound (r : SvReader n E) : Prop where
  numSvs_le : r.sv.numSvs ≤ n
  counted_once : r.sv.history.counted.Nodup
  report : ∀ status ∈ r.report, status.Sound

/-- Entries of the group are counted already. -/
def SvStatus.Stale (sv : SvStatus n E) : Prop :=
  ∃ i ∈ sv.history.group, i ∈ sv.history.counted

/-- The last sentence of a group that is complete: it adds `sv_count` to `num_svs`. -/
def AddsCount (mode : SvMode n E) (r : SvReader n E) (sentence : NmeaSentence) : Prop :=
  let t := tokenizerOf sentence
  let tok := nmeaTokenizerGet t 0
  IsParsed sentence ∧ sentenceKind mode tok = .gsv ∧ gsvSeq t = gsvNum t ∧
    ((gsvStart t r.sv).svCount + (takenIds mode t (isBds tok) r.sv).length : ℕ) ≤ gsvCnt t

/-- A sentence adds `sv_count` to `num_svs`, and one of the entries behind `sv_count`
was added before. -/
def CountsAgain (mode : SvMode n E) (r : SvReader n E) (sentence : NmeaSentence) : Prop :=
  AddsCount mode r sentence ∧ (gsvStart (tokenizerOf sentence) r.sv).Stale

/-- Entries are added to `num_svs`, and no callback follows at once. -/
def LeavesCounted (mode : SvMode n E) (r : SvReader n E) (sentence : NmeaSentence) : Prop :=
  let t := tokenizerOf sentence
  AddsCount mode r sentence ∧ sentence.endTag = false ∧
    0 < (gsvStart t r.sv).svCount + (takenIds mode t (isBds (nmeaTokenizerGet t 0)) r.sv).length

/-- There is no callback, and the sentence neither begins nor ends a group. -/
def KeepsCounted (mode : SvMode n E) (sentence : NmeaSentence) : Prop :=
  let t := tokenizerOf sentence
  IsParsed sentence → sentence.endTag = false ∧
    (sentenceKind mode (nmeaTokenizerGet t 0) = .gsv → gsvSeq t ≠ 1 ∧ gsvSeq t ≠ gsvNum t)

def CountedOnce (env : TimeEnv) (mode : SvMode n E) (init : SvReader n E)
    (sentences : List NmeaSentence) : Prop :=
  runGuarded (total (nmeaReaderParse env mode))
    (fun r sentence => ¬ CountsAgain mode r sentence) init sentences

/-- Between two sentences that add `sv_count` to `num_svs` there is a callback or the
end of an incomplete group, unless the second is the first sentence of its group, or
the first of the two added nothing. -/
def CountsApart (env : TimeEnv) (mode : SvMode n E) (init : SvReader n E)
    (sentences : List NmeaSentence) : Prop :=
  ∀ before first between last, before ++ first :: between ++ [last] <+: sentences →
    LeavesCounted mode (before.foldl (nmeaReaderParse env mode) init) first →
      (∀ sentence ∈ between, KeepsCounted mode sentence) →
        AddsCount mode ((before ++ first :: between).foldl (nmeaReaderParse env mode) init)
            last → gsvSeq (tokenizerOf last) = 1

def SoundAlong (env : TimeEnv) (mode : SvMode n E) (init : SvReader n E)
    (sentences : List NmeaSentence) : Prop :=
  ∀ before, before <+: sentences →
    (before.foldl (nmeaReaderParse env mode) init).TableSound

/-- `nmea_reader_init`, with an entry of zeros. -/
def svReaderInit (zero : E) : SvReader n E where
  time := ⟨⟨-1, -1, -1⟩, 0⟩
  fixMode := 0
  svUsedInFix := fun _ => false
  sv := ⟨0, 0, Vector.replicate n zero, ⟨[], [], []⟩⟩
  report := none

/-! ## The entries behind the counters -/

namespace SvStatus

/-- The entries of the group follow those counted. -/
def Fresh (sv : SvStatus n E) : Prop :=
  sv.history.group = List.range' sv.numSvs sv.svCount ∧ sv.numSvs + sv.svCount ≤ n

structure Invariant (sv : SvStatus n E) : Prop where
  counted : sv.history.counted = List.range sv.numSvs
  numSvs_le : sv.numSvs ≤ n
  group : sv.Fresh ∨ sv.Stale
  written : ∀ (i : ℕ) (hi : i < n), i ∈ sv.history.counted ∨ i ∈ sv.history.group →
    (i, sv.svList[i]) ∈ sv.history.written

variable {sv : SvStatus n E}

theorem Invariant.sound (hsv : sv.Invariant) : sv.Sound where
  numSvs_le := hsv.numSvs_le
  counted_once := by
    rw [hsv.counted]
    exact List.nodup_range
  written i hi hlt := by
    apply hsv.written i hi
    rw [hsv.counted]
    exact .inl (List.mem_range.mpr hlt)

theorem Invariant.restart (hsv : sv.Invariant) : sv.restart.Invariant ∧ sv.restart.Fresh := by
  have hfresh : sv.restart.Fresh := ⟨rfl, hsv.numSvs_le⟩
  refine ⟨⟨hsv.counted, hsv.numSvs_le, .inl hfresh, ?_⟩, hfresh⟩
  intro i hi hmem
  rcases hmem with hcounted | hgroup
  · exact hsv.written i hi (.inl hcounted)
  · cases hgroup

theorem Fresh.write {e : E} (hfresh : sv.Fresh) (hroom : sv.svCount + sv.numSvs < n) :
    (sv.write (sv.svCount + sv.numSvs) e).Fresh := by
  have hnext : sv.numSvs + 1 * sv.svCount = sv.svCount + sv.numSvs := by omega
  constructor
  · change sv.history.group ++ [sv.svCount + sv.numSvs] = List.range' sv.numSvs (sv.svCount + 1)
    rw [hfresh.1, List.range'_concat, hnext]
  · change sv.numSvs + (sv.svCount + 1) ≤ n
    omega

/-- An entry that is written behind those counted counts none of them again. -/
theorem Invariant.stale_write_iff {e : E} (hsv : sv.Invariant) :
    (sv.write (sv.svCount + sv.numSvs) e).Stale ↔ sv.Stale := by
  constructor
  · rintro ⟨i, hgroup, hcounted⟩
    rcases List.mem_append.mp hgroup with hold | hnew
    · exact ⟨i, hold, hcounted⟩
    · rw [List.mem_singleton.mp hnew] at hcounted
      have hbefore : sv.svCount + sv.numSvs ∈ sv.history.counted := hcounted
      rw [hsv.counted, List.mem_range] at hbefore
      omega
  · rintro ⟨i, hgroup, hcounted⟩
    exact ⟨i, List.mem_append_left _ hgroup, hcounted⟩

theorem Invariant.write {e : E} (hsv : sv.Invariant) (hroom : sv.svCount + sv.numSvs < n) :
    (sv.write (sv.svCount + sv.numSvs) e).Invariant where
  counted := hsv.counted
  numSvs_le := hsv.numSvs_le
  group := hsv.group.imp (fun hfresh => hfresh.write hroom) hsv.stale_write_iff.mpr
  written i hi hmem := by
    change (i, (sv.svList.setIfInBounds (sv.svCount + sv.numSvs) e)[i]) ∈
      sv.history.written ++ [(sv.svCount + sv.numSvs, e)]
    by_cases hsame : sv.svCount + sv.numSvs = i
    · subst hsame
      rw [Vector.getElem_setIfInBounds_self]
      exact List.mem_append_right _ (List.mem_singleton_self _)
    · rw [Vector.getElem_setIfInBounds_ne hi hsame]
      apply List.mem_append_left
      apply hsv.written i hi
      rcases hmem with hcounted | hgroup
      · exact .inl hcounted
      · rcases List.mem_append.mp hgroup with hold | hnew
        · exact .inr hold
        · exact absurd (List.mem_singleton.mp hnew).symm hsame

theorem Fresh.stale_count_iff (hfresh : sv.Fresh) : sv.count.Stale ↔ 0 < sv.svCount := by
  constructor
  · rintro ⟨i, hgroup, _⟩
    have hmem : i ∈ List.range' sv.numSvs sv.svCount := hfresh.1 ▸ hgroup
    have hbounds := List.mem_range'_1.mp hmem
    omega
  · intro hpos
    have hgroup : sv.numSvs ∈ sv.history.group := by
      rw [hfresh.1]
      exact List.mem_range'_1.mpr ⟨le_rfl, by omega⟩
    exact ⟨sv.numSvs, hgroup, List.mem_append_right _ hgroup⟩

theorem Invariant.count (hsv : sv.Invariant) (hfresh : sv.Fresh) : sv.count.Invariant := by
  have hcounted : sv.count.history.counted = List.range sv.count.numSvs := by
    change sv.history.counted ++ sv.history.group = List.range (sv.numSvs + sv.svCount)
    have hsplit := @List.range'_append_1 0 sv.numSvs sv.svCount
    rw [Nat.zero_add] at hsplit
    rw [hsv.counted, hfresh.1, List.range_eq_range', List.range_eq_range', hsplit]
  refine ⟨hcounted, hfresh.2, ?_, ?_⟩
  · rcases Nat.eq_zero_or_pos sv.svCount with hzero | hpos
    · left
      constructor
      · change sv.history.group = List.range' (sv.numSvs + sv.svCount) sv.svCount
        rw [hfresh.1, hzero]
        rfl
      · change sv.numSvs + sv.svCount + sv.svCount ≤ n
        have hle := hfresh.2
        omega
    · exact .inr (hfresh.stale_count_iff.mpr hpos)
  · intro i hi hmem
    apply hsv.written i hi
    rcases hmem with hcounted | hgroup
    · exact List.mem_append.mp hcounted
    · exact .inr hgroup

/-- Entries are counted only while `num_svs` is positive. -/
theorem Invariant.numSvs_of_stale (hsv : sv.Invariant) (hstale : sv.Stale) : sv.numSvs ≠ 0 := by
  rcases hstale with ⟨i, _, hcounted⟩
  rw [hsv.counted, List.mem_range] at hcounted
  omega

theorem invariant_of_empty (hcounted : sv.history.counted = []) (hgroup : sv.history.group = [])
    (hnumSvs : sv.numSvs = 0) (hsvCount : sv.svCount = 0) : sv.Invariant where
  counted := by rw [hcounted, hnumSvs]; rfl
  numSvs_le := by omega
  group := by
    refine .inl ⟨?_, by omega⟩
    rw [hgroup, hsvCount]
    rfl
  written i hi hmem := by
    rw [hcounted, hgroup] at hmem
    simp at hmem

end SvStatus

/-! ## One sentence -/

variable {mode : SvMode n E} {used : ℤ → Bool} {t : NmeaTokenizer} {bds : Bool}
  {sv : SvStatus n E}

theorem gsvGroups_rule (P : SvStatus n E → Prop)
    (hwrite : ∀ sv e, P sv → sv.svCount + sv.numSvs < n →
      P (sv.write (sv.svCount + sv.numSvs) e))
    (hstart : P (gsvStart t sv)) : P (gsvGroups mode used t bds sv) := by
  unfold gsvGroups
  generalize gsvStart t sv = start at hstart
  generalize List.range (gsvSvNum t).toNat = indices
  induction indices generalizing start with
  | nil => exact hstart
  | cons idx indices ih =>
      apply ih
      rw [gsvGroup_eq]
      split_ifs with htaken
      · apply hwrite _ _ hstart
        have hroom := htaken.2
        unfold SvStatus.room at hroom
        omega
      · exact hstart

theorem gsvStart_invariant (hsv : sv.Invariant) : (gsvStart t sv).Invariant := by
  unfold gsvStart
  split_ifs
  · exact hsv.restart.1
  · exact hsv

theorem stale_gsvStart_iff : (gsvStart t sv).Stale ↔ gsvSeq t ≠ 1 ∧ sv.Stale := by
  unfold gsvStart
  split_ifs with hfirst
  · refine iff_of_false ?_ fun h => h.1 hfirst
    rintro ⟨i, hgroup, _⟩
    cases hgroup
  · exact (and_iff_right hfirst).symm

theorem gsvGroups_spec (hsv : sv.Invariant) :
    (gsvGroups mode used t bds sv).Invariant ∧
      ((gsvGroups mode used t bds sv).Stale ↔ (gsvStart t sv).Stale) := by
  apply gsvGroups_rule fun after => after.Invariant ∧ (after.Stale ↔ (gsvStart t sv).Stale)
  · rintro after e ⟨hafter, hstale⟩ hroom
    exact ⟨hafter.write hroom, hafter.stale_write_iff.trans hstale⟩
  · exact ⟨gsvStart_invariant hsv, Iff.rfl⟩

/-- Without entries that are counted already, the group is fresh to its end. -/
theorem gsvGroups_fresh (hsv : sv.Invariant) (hnew : ¬ (gsvStart t sv).Stale) :
    (gsvGroups mode used t bds sv).Fresh := by
  have hgroups := @gsvGroups_spec n E mode used t bds sv hsv
  exact hgroups.1.group.resolve_right fun hstale => hnew (hgroups.2.mp hstale)

theorem gsvSentence_invariant (hsv : sv.Invariant)
    (hnew : gsvSeq t = gsvNum t →
      ((gsvGroups mode used t bds sv).svCount : ℤ) ≤ gsvCnt t → ¬ (gsvStart t sv).Stale) :
    (gsvSentence mode used t bds sv).Invariant := by
  unfold gsvSentence
  dsimp only
  split_ifs with hlast hcount
  · exact (gsvGroups_spec hsv).1.count (gsvGroups_fresh hsv (hnew hlast hcount))
  · exact SvStatus.invariant_of_empty rfl rfl rfl rfl
  · exact (gsvGroups_spec hsv).1

theorem not_nodup_gsvSentence (hsv : sv.Invariant) (hlast : gsvSeq t = gsvNum t)
    (hcount : ((gsvGroups mode used t bds sv).svCount : ℤ) ≤ gsvCnt t)
    (hagain : (gsvStart t sv).Stale) :
    ¬ (gsvSentence mode used t bds sv).history.counted.Nodup := by
  obtain ⟨i, hgroup, hcounted⟩ : (gsvGroups mode used t bds sv).Stale :=
    (gsvGroups_spec hsv).2.mpr hagain
  unfold gsvSentence
  dsimp only
  rw [if_pos hlast, if_pos hcount]
  intro hnodup
  exact List.disjoint_of_nodup_append hnodup hcounted hgroup

/-- A group is counted with its last sentence, if it is not empty, and stays so until
the next one begins or is thrown away. -/
theorem stale_gsvSentence_iff (hsv : sv.Invariant)
    (hnew : gsvSeq t = gsvNum t →
      ((gsvGroups mode used t bds sv).svCount : ℤ) ≤ gsvCnt t → ¬ (gsvStart t sv).Stale) :
    (gsvSentence mode used t bds sv).Stale ↔
      gsvSeq t = gsvNum t ∧ ((gsvGroups mode used t bds sv).svCount : ℤ) ≤ gsvCnt t ∧
          0 < (gsvGroups mode used t bds sv).svCount ∨
        sv.Stale ∧ gsvSeq t ≠ 1 ∧ gsvSeq t ≠ gsvNum t := by
  unfold gsvSentence
  dsimp only
  split_ifs with hlast hcount
  · rw [(gsvGroups_fresh hsv (hnew hlast hcount)).stale_count_iff]
    simp [hlast, hcount]
  · refine iff_of_false ?_ ?_
    · rintro ⟨i, hgroup, _⟩
      cases hgroup
    · rintro (⟨_, hle, _⟩ | ⟨_, _, hne⟩)
      · exact hcount hle
      · exact hne hlast
  · rw [(gsvGroups_spec hsv).2, stale_gsvStart_iff]
    simp [hlast, and_comm]

/-! ## Runs -/

theorem rmcSentence_sv (env : TimeEnv) (t : NmeaTokenizer) (r : SvReader n E) :
    (rmcSentence env t r).report = r.report ∧ (rmcSentence env t r).sv = r.sv := by
  unfold rmcSentence
  dsimp only
  split_ifs <;> exact ⟨rfl, rfl⟩

theorem parseSentence_sv (env : TimeEnv) (mode : SvMode n E) (t : NmeaTokenizer)
    (r : SvReader n E) :
    (parseSentence env mode t r).report = r.report ∧
      (parseSentence env mode t r).sv =
        if sentenceKind mode (nmeaTokenizerGet t 0) = .gsv then
          gsvSentence mode r.svUsedInFix t (isBds (nmeaTokenizerGet t 0)) r.sv
        else r.sv := by
  unfold parseSentence
  dsimp only
  cases sentenceKind mode (nmeaTokenizerGet t 0) with
  | gga => exact ⟨rfl, rfl⟩
  | gsa => exact ⟨rfl, rfl⟩
  | rmc => exact rmcSentence_sv env t r
  | gsv => exact ⟨rfl, rfl⟩
  | other => exact ⟨rfl, rfl⟩

/-- The list is in order, and what the last sentence reported was. -/
structure SvReader.Invariant (r : SvReader n E) : Prop where
  sv : r.sv.Invariant
  report : ∀ status ∈ r.report, status.Sound

theorem SvReader.Invariant.tableSound {r : SvReader n E} (hr : r.Invariant) : r.TableSound where
  numSvs_le := hr.sv.numSvs_le
  counted_once := hr.sv.sound.counted_once
  report := hr.report

theorem statusCallback_invariant {r : SvReader n E} (endTag : Bool) (hsv : r.sv.Invariant)
    (hreport : r.report = none) : (statusCallback endTag r).Invariant := by
  unfold statusCallback
  split_ifs
  · refine ⟨SvStatus.invariant_of_empty rfl rfl rfl rfl, ?_⟩
    rintro status ⟨⟩
    exact hsv.sound
  · refine ⟨hsv, ?_⟩
    rw [hreport]
    rintro status ⟨⟩

theorem SvReader.Invariant.parse {env : TimeEnv} {r : SvReader n E} {sentence : NmeaSentence}
    (hr : r.Invariant) (hnew : ¬ CountsAgain mode r sentence) :
    (nmeaReaderParse env mode r sentence).Invariant := by
  unfold nmeaReaderParse
  dsimp only
  split_ifs with hparsed
  · have hframe := parseSentence_sv env mode (tokenizerOf sentence) { r with report := none }
    apply statusCallback_invariant _ _ hframe.1
    rw [hframe.2]
    split_ifs with hgsv
    · apply gsvSentence_invariant hr.sv
      intro hlast hcount hagain
      rw [svCount_gsvGroups] at hcount
      exact hnew ⟨⟨hparsed, hgsv, hlast, hcount⟩, hagain⟩
    · exact hr.sv
  · refine ⟨hr.sv, ?_⟩
    rintro status ⟨⟩

theorem stale_statusCallback_iff {r : SvReader n E} (endTag : Bool) (hsv : r.sv.Invariant) :
    (statusCallback endTag r).sv.Stale ↔ r.sv.Stale ∧ endTag = false := by
  unfold statusCallback
  split_ifs with hreports
  · refine iff_of_false ?_ fun h => Bool.false_ne_true (h.2.symm.trans hreports.2)
    rintro ⟨i, hgroup, _⟩
    cases hgroup
  · refine ⟨fun hstale => ⟨hstale, ?_⟩, And.left⟩
    rw [← Bool.not_eq_true]
    exact fun hend => hreports ⟨hsv.numSvs_of_stale hstale, hend⟩

/-- What one sentence does to the entries that are counted already. -/
theorem stale_parse_iff {env : TimeEnv} {r : SvReader n E} {sentence : NmeaSentence}
    (hr : r.Invariant) (hnew : ¬ CountsAgain mode r sentence) :
    (nmeaReaderParse env mode r sentence).sv.Stale ↔
      LeavesCounted mode r sentence ∨ r.sv.Stale ∧ KeepsCounted mode sentence := by
  by_cases hparsed : IsParsed sentence
  · have hframe := parseSentence_sv env mode (tokenizerOf sentence) { r with report := none }
    have hsv : (parseSentence env mode (tokenizerOf sentence)
        { r with report := none }).sv.Invariant := by
      rw [hframe.2]
      split_ifs with hgsv
      · apply gsvSentence_invariant hr.sv
        intro hlast hcount hagain
        rw [svCount_gsvGroups] at hcount
        exact hnew ⟨⟨hparsed, hgsv, hlast, hcount⟩, hagain⟩
      · exact hr.sv
    unfold nmeaReaderParse
    dsimp only
    rw [if_pos hparsed, stale_statusCallback_iff _ hsv, hframe.2]
    split_ifs with hgsv
    · rw [stale_gsvSentence_iff hr.sv, svCount_gsvGroups]
      · constructor
        · rintro ⟨⟨hlast, hcount, hpos⟩ | ⟨hstale, hfirst, hother⟩, hend⟩
          · exact .inl ⟨⟨hparsed, hgsv, hlast, hcount⟩, hend, hpos⟩
          · exact .inr ⟨hstale, fun _ => ⟨hend, fun _ => ⟨hfirst, hother⟩⟩⟩
        · rintro (⟨⟨_, _, hlast, hcount⟩, hend, hpos⟩ | ⟨hstale, hkeeps⟩)
          · exact ⟨.inl ⟨hlast, hcount, hpos⟩, hend⟩
          · obtain ⟨hend, hgroup⟩ := hkeeps hparsed
            exact ⟨.inr ⟨hstale, hgroup hgsv⟩, hend⟩
      · intro hlast hcount hagain
        rw [svCount_gsvGroups] at hcount
        exact hnew ⟨⟨hparsed, hgsv, hlast, hcount⟩, hagain⟩
    · constructor
      · exact fun ⟨hstale, hend⟩ => .inr ⟨hstale, fun _ => ⟨hend, fun h => absurd h hgsv⟩⟩
      · rintro (⟨⟨_, hother, _⟩, _⟩ | ⟨hstale, hkeeps⟩)
        · exact absurd hother hgsv
        · exact ⟨hstale, (hkeeps hparsed).1⟩
  · unfold nmeaReaderParse
    dsimp only
    rw [if_neg hparsed]
    constructor
    · exact fun hstale => .inr ⟨hstale, fun h => absurd h hparsed⟩
    · rintro (⟨⟨h, _⟩, _⟩ | ⟨hstale, _⟩)
      · exact absurd h hparsed
      · exact hstale

theorem not_tableSound_parse {env : TimeEnv} {r : SvReader n E} {sentence : NmeaSentence}
    (hr : r.Invariant) (hagain : CountsAgain mode r sentence) :
    ¬ (nmeaReaderParse env mode r sentence).TableSound := by
  rcases hagain with ⟨⟨hparsed, hgsv, hlast, hcount⟩, hagain⟩
  have hframe := parseSentence_sv env mode (tokenizerOf sentence) { r with report := none }
  rw [if_pos hgsv] at hframe
  rw [← svCount_gsvGroups mode r.svUsedInFix] at hcount
  have htwice := @not_nodup_gsvSentence n E mode r.svUsedInFix _ _ r.sv hr.sv hlast hcount hagain
  rw [← hframe.2] at htwice
  unfold nmeaReaderParse
  dsimp only
  rw [if_pos hparsed]
  intro hsound
  unfold statusCallback at hsound
  split_ifs at hsound
  · exact htwice (hsound.report _ rfl).counted_once
  · exact htwice hsound.counted_once

theorem svReaderInit_invariant (zero : E) : (svReaderInit zero : SvReader n E).Invariant where
  sv := SvStatus.invariant_of_empty rfl rfl rfl rfl
  report := by rintro status ⟨⟩

theorem invariant_of_reachable {env : TimeEnv} {zero : E} {r : SvReader n E}
    (hreach : Reachable (total (nmeaReaderParse env mode))
      (fun r sentence => ¬ CountsAgain mode r sentence) (svReaderInit zero) r) :
    r.Invariant := by
  apply hreach.invariant SvReader.Invariant (svReaderInit_invariant zero)
  intro r next sentence hr hnew hstep
  cases hstep
  exact hr.parse hnew

/-- The list stays sound along a run exactly if no entry is counted again. -/
theorem soundAlong_iff (env : TimeEnv) (mode : SvMode n E) (zero : E)
    (sentences : List NmeaSentence) :
    SoundAlong env mode (svReaderInit zero) sentences ↔
      CountedOnce env mode (svReaderInit zero) sentences := by
  apply holds_along_total_iff
  · exact fun r hreach => (invariant_of_reachable hreach).tableSound
  · intro r sentence hreach hagain
    exact not_tableSound_parse (invariant_of_reachable hreach) (not_not.mp hagain)

section Apart

variable {env : TimeEnv} {zero : E} {sentences : List NmeaSentence}

/-- `sv_count` counts entries of `num_svs` exactly if a sentence has left it so. -/
theorem stale_along_iff (honce : CountedOnce env mode (svReaderInit zero) sentences) :
    (sentences.foldl (nmeaReaderParse env mode) (svReaderInit zero)).sv.Stale ↔
      ∃ before first between, sentences = before ++ first :: between ∧
        LeavesCounted mode (before.foldl (nmeaReaderParse env mode) (svReaderInit zero)) first ∧
          ∀ sentence ∈ between, KeepsCounted mode sentence := by
  have hguard := (runGuarded_total_iff _ _).mp honce
  apply holds_at_end_iff_set_and_kept (P := fun r : SvReader n E => r.sv.Stale)
  · rintro ⟨i, hgroup, _⟩
    cases hgroup
  · intro before sentence hbefore
    have hearlier : CountedOnce env mode (svReaderInit zero) before :=
      (runGuarded_total_iff _ _).mpr fun earlier label hearlier => hguard earlier label
        (hearlier.trans ((List.prefix_append _ _).trans hbefore))
    have hreach := reachable_of_run .init hearlier (run_total _ before)
    exact stale_parse_iff (invariant_of_reachable hreach) (hguard before sentence hbefore)

theorem countedOnce_iff_countsApart :
    CountedOnce env mode (svReaderInit zero) sentences ↔
      CountsApart env mode (svReaderInit zero) sentences := by
  constructor
  · intro honce before first between last hbegins hleaves hkeeps hadds
    by_contra hseq
    have hguard := (runGuarded_total_iff _ _).mp honce
    have hearlier : CountedOnce env mode (svReaderInit zero) (before ++ first :: between) :=
      (runGuarded_total_iff _ _).mpr fun earlier label hearlier => hguard earlier label
        (hearlier.trans ((List.prefix_append _ _).trans hbegins))
    have hstale := (stale_along_iff hearlier).mpr ⟨before, first, between, rfl, hleaves, hkeeps⟩
    exact hguard _ last hbegins ⟨hadds, stale_gsvStart_iff.mpr ⟨hseq, hstale⟩⟩
  · induction sentences using List.reverseRecOn with
    | nil => exact fun _ => trivial
    | append_singleton sentences last ih =>
        intro hapart
        have honce := ih fun before first between last hbegins =>
          hapart before first between last (hbegins.trans (List.prefix_append _ _))
        refine (runGuarded_concat (run_total _ sentences)).mpr ⟨honce, ?_⟩
        rintro ⟨hadds, hstale⟩
        obtain ⟨hseq, hstale⟩ := stale_gsvStart_iff.mp hstale
        obtain ⟨before, first, between, rfl, hleaves, hkeeps⟩ := (stale_along_iff honce).mp hstale
        exact hseq (hapart before first between last (List.prefix_refl _) hleaves hkeeps hadds)

end Apart

end Sound

def gnssInit : SvReader gnssMaxSvs GnssSvInfo := svReaderInit ⟨0, .unknown, [], 0, 0, false⟩

def gpsInit : SvReader gpsMaxSvs GpsSvInfo := svReaderInit ⟨0, [], 0, 0⟩

theorem satellite_table_sound_iff (env : TimeEnv) (sentences : List NmeaSentence) :
    (SoundAlong env gnssMode gnssInit sentences ↔ CountedOnce env gnssMode gnssInit sentences) ∧
      (SoundAlong env gpsMode gpsInit sentences ↔ CountedOnce env gpsMode gpsInit sentences) ∧
      (CountedOnce env gnssMode gnssInit sentences ↔
        CountsApart env gnssMode gnssInit sentences) ∧
      (CountedOnce env gpsMode gpsInit sentences ↔ CountsApart env gpsMode gpsInit sentences) :=
  ⟨soundAlong_iff env gnssMode _ sentences, soundAlong_iff env gpsMode _ sentences,
    countedOnce_iff_countsApart, countedOnce_iff_countsApart⟩

/-! ## A group without its first sentence -/

/-- A complete group, and the last sentence of one whose first sentence is lost. -/
def lostFirstSentence : List NmeaSentence :=
  [⟨ascii "$GPGSV,1,1,01,05,40,120,35*7A\n", false⟩,
    ⟨ascii "$GLGSV,2,2,05,70,30,200,28*7A\n", true⟩]

/-- Three entries are reported, of which two were written. -/
theorem satellite_table_lost_first_sentence :
    ¬ SoundAlong plainTimeEnv gnssMode gnssInit lostFirstSentence := by
  have hreport : ((lostFirstSentence.foldl (nmeaReaderParse plainTimeEnv gnssMode)
      gnssInit).report.map fun status =>
        (status.numSvs, status.history.written.map Prod.fst)) = some (3, [0, 2]) := by
    decide +kernel
  intro hsound
  rcases Option.map_eq_some_iff.mp hreport with ⟨status, hstatus, heq⟩
  rw [Prod.mk.injEq] at heq
  have hstale := ((hsound _ (List.prefix_refl _)).report status hstatus).written 1 (by decide)
    (by omega)
  have hmem := List.mem_map_of_mem (f := Prod.fst) hstale
  rw [heq.2] at hmem
  simp at hmem

end Gps
end MediatekHardware
