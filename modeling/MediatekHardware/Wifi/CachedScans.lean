import MediatekHardware.Wifi.CommandTables
import Mathlib.Data.List.TakeWhile

/-!
# Cached results as scans

Results that were retrieved together are divided into scans by their timestamps: a
scan goes on as long as results lie less than 1.6 seconds behind its first one.  The
inner loop counts such results and passes over the others, so that the first scan
uses up everything.
-/

namespace MediatekHardware
namespace Wifi

def tdiffMax : ℤ := 1600 * 1000

/-- `abs` of the difference of two timestamps of 64 bits; where there is only the `abs` of
an `int`, it takes 32 of them. -/
def tdiff (wide : Bool) (ts first : ℤ) : ℤ :=
  let difference := Int.bmod (ts - first) (2 ^ 64)
  if wide then |difference| else |Int.bmod difference (2 ^ 32)|

structure CachedScan where
  scanId : ℤ
  flags : ℤ
  numResults : ℕ
  deriving DecidableEq

/-- The inner loop from a result on, with the number of results counted before, and the
results it leaves. -/
def countLoop (wide : Bool) (first : ℤ) : List ℤ → ℕ → ℕ × List ℤ
  | [], numResults => (numResults, [])
  | ts :: results, numResults =>
      countLoop wide first results
        (if tdiff wide ts first < tdiffMax then numResults + 1 else numResults)

/-- The outer loop over the scans that there is room for. -/
def scanLoop (wide : Bool) : ℕ → List ℤ → List CachedScan
  | 0, _ => []
  | _ + 1, [] => []
  | room + 1, ts :: results =>
      let counted := countLoop wide ts (ts :: results) 0
      ⟨0, 0, counted.1⟩ :: scanLoop wide room counted.2

/-- The arguments and what is found: whether `scans` and `num_scans` are set and the
array is allocated, and the timestamps retrieved or the error instead. -/
structure CachedRequest where
  maxScans : ℤ
  pointers : Bool
  allocated : Bool
  retrieved : Except ℤ (List ℤ)

/-- `*num_scans` is not written where there is no number. -/
structure CachedReply where
  result : ℤ
  numScans : Option ℕ
  scans : List CachedScan
  deriving DecidableEq

def wifiGetCachedGscanResults (wide : Bool) (request : CachedRequest) : CachedReply :=
  if request.maxScans < 1 ∨ request.pointers = false then ⟨wifiErrorInvalidArgs, none, []⟩
  else if request.allocated = false then ⟨wifiErrorOutOfMemory, none, []⟩
  else
    match request.retrieved with
    | .error result => ⟨result, some 0, []⟩
    | .ok [] => ⟨wifiSuccess, some 0, []⟩
    | .ok results =>
        let scans := scanLoop wide request.maxScans.toNat results
        ⟨wifiSuccess, some scans.length, scans⟩

/-! ## Runs of results -/

/-- Maximal runs of results that lie within the time of a scan behind their first one. -/
def scanRuns : List ℤ → List (List ℤ)
  | [] => []
  | first :: results =>
      (first :: results.takeWhile fun ts => ts - first < tdiffMax) ::
        scanRuns (results.dropWhile fun ts => ts - first < tdiffMax)
  termination_by results => results.length
  decreasing_by exact Nat.lt_succ_of_le (List.dropWhile_sublist _).length_le

/-- One scan for each run, with as many results. -/
structure Partitioned (results : List ℤ) (reply : CachedReply) : Prop where
  success : reply.result = wifiSuccess
  number : reply.numScans = some (scanRuns results).length
  counts : reply.scans.map CachedScan.numResults = (scanRuns results).map List.length
  total : (reply.scans.map CachedScan.numResults).sum = results.length

theorem flatten_scanRuns (results : List ℤ) : (scanRuns results).flatten = results := by
  induction results using scanRuns.induct with
  | case1 => rw [scanRuns, List.flatten_nil]
  | case2 first results ih =>
      rw [scanRuns, List.flatten_cons, ih, List.cons_append, List.takeWhile_append_dropWhile]

theorem length_scanRuns_le_one_iff (first : ℤ) (results : List ℤ) :
    (scanRuns (first :: results)).length ≤ 1 ↔ ∀ ts ∈ results, ts - first < tdiffMax := by
  rw [scanRuns, List.length_cons]
  have hnone : ∀ rest : List ℤ, (scanRuns rest).length + 1 ≤ 1 ↔ rest = [] := by
    intro rest
    cases rest with
    | nil => simp [scanRuns]
    | cons ts rest => simp [scanRuns]
  rw [hnone, List.dropWhile_eq_nil_iff]
  simp

/-! ## The loops -/

theorem countLoop_eq (wide : Bool) (first : ℤ) (results : List ℤ) (numResults : ℕ) :
    countLoop wide first results numResults =
      (numResults + results.countP fun ts => tdiff wide ts first < tdiffMax, []) := by
  induction results generalizing numResults with
  | nil => rfl
  | cons ts results ih =>
      rw [countLoop, ih, List.countP_cons]
      by_cases hwithin : tdiff wide ts first < tdiffMax
      · simp only [hwithin, if_true, decide_true]
        rw [Nat.add_assoc, Nat.add_comm 1]
      · simp only [hwithin, if_false, decide_false, Bool.false_eq_true, Nat.add_zero]

/-- Nothing is left for a second scan. -/
theorem scanLoop_cons (wide : Bool) (room : ℕ) (first : ℤ) (results : List ℤ) :
    scanLoop wide (room + 1) (first :: results) =
      [⟨0, 0, (first :: results).countP fun ts => tdiff wide ts first < tdiffMax⟩] := by
  rw [scanLoop, countLoop_eq, Nat.zero_add]
  cases room <;> rfl

theorem tdiff_eq (wide : Bool) {ts first : ℤ} (hle : first ≤ ts) (hlt : ts - first < tdiffMax) :
    tdiff wide ts first = ts - first := by
  unfold tdiffMax at hlt
  have hlong : Int.bmod (ts - first) (2 ^ 64) = ts - first :=
    Int.bmod_eq_of_le (by omega) (by omega)
  have hint : Int.bmod (ts - first) (2 ^ 32) = ts - first :=
    Int.bmod_eq_of_le (by omega) (by omega)
  unfold tdiff
  cases wide with
  | true => rw [if_pos rfl, hlong, abs_of_nonneg (by omega)]
  | false =>
      dsimp only
      rw [if_neg (by decide), hlong, hint, abs_of_nonneg (by omega)]

theorem wifiGetCachedGscanResults_cons (wide : Bool) {maxScans : ℤ} (hroom : 1 ≤ maxScans)
    (first : ℤ) (rest : List ℤ) :
    wifiGetCachedGscanResults wide ⟨maxScans, true, true, .ok (first :: rest)⟩ =
      ⟨wifiSuccess, some 1,
        [⟨0, 0, (first :: rest).countP fun ts => tdiff wide ts first < tdiffMax⟩]⟩ := by
  obtain ⟨room, hmax⟩ : ∃ room : ℕ, maxScans.toNat = room + 1 :=
    ⟨maxScans.toNat - 1, by omega⟩
  have haccepted : ¬ (maxScans < 1 ∨ true = false) := by
    simp only [Bool.true_eq_false, or_false]
    omega
  unfold wifiGetCachedGscanResults
  rw [if_neg haccepted, if_neg (by simp)]
  simp only [hmax, scanLoop_cons]
  rfl

theorem scanRuns_of_within {first : ℤ} {rest : List ℤ}
    (hall : ∀ ts ∈ rest, ts - first < tdiffMax) :
    scanRuns (first :: rest) = [first :: rest] := by
  have hone : (scanRuns (first :: rest)).length = 1 := by
    apply Nat.le_antisymm ((length_scanRuns_le_one_iff first rest).mpr hall)
    rw [scanRuns, List.length_cons]
    omega
  obtain ⟨group, hgroup⟩ := List.length_eq_one_iff.mp hone
  have hflat := flatten_scanRuns (first :: rest)
  rw [hgroup, List.flatten_singleton] at hflat
  rw [hgroup, hflat]

/-- All results of one run are counted. -/
theorem countP_of_within (wide : Bool) {first : ℤ} {rest : List ℤ}
    (hsorted : (first :: rest).Pairwise (· ≤ ·)) (hall : ∀ ts ∈ rest, ts - first < tdiffMax) :
    ((first :: rest).countP fun ts => tdiff wide ts first < tdiffMax) =
      (first :: rest).length := by
  rw [List.countP_eq_length]
  intro ts hts
  have hdiff : first ≤ ts ∧ ts - first < tdiffMax := by
    rcases List.mem_cons.mp hts with rfl | hlater
    · exact ⟨le_rfl, by unfold tdiffMax; omega⟩
    · exact ⟨List.rel_of_pairwise_cons hsorted hlater, hall ts hlater⟩
  rw [tdiff_eq wide hdiff.1 hdiff.2]
  exact decide_eq_true hdiff.2

/-- The scans are the runs exactly if there is one run at the most. -/
theorem cached_scans_partitioned_iff (wide : Bool) {results : List ℤ} {maxScans : ℤ}
    (hsorted : results.Pairwise (· ≤ ·)) (hroom : (scanRuns results).length ≤ maxScans) :
    Partitioned results (wifiGetCachedGscanResults wide ⟨maxScans, true, true, .ok results⟩) ↔
      1 ≤ maxScans ∧ ∀ first rest, results = first :: rest → ∀ ts ∈ rest, ts - first < tdiffMax := by
  cases results with
  | nil =>
      unfold wifiGetCachedGscanResults
      by_cases hmax : maxScans < 1
      · rw [if_pos (Or.inl hmax)]
        refine iff_of_false (fun hparts => ?_) (fun hone => by omega)
        exact absurd hparts.success (by decide)
      · rw [if_neg (by simpa using hmax), if_neg (by simp)]
        refine iff_of_true ⟨rfl, ?_, ?_, rfl⟩ ⟨by omega, fun _ _ h => by cases h⟩
        · simp [scanRuns]
        · simp [scanRuns]
  | cons first rest =>
      have hruns : 1 ≤ (scanRuns (first :: rest)).length := by
        rw [scanRuns, List.length_cons]
        omega
      have hmax : 1 ≤ maxScans := by omega
      rw [wifiGetCachedGscanResults_cons wide hmax]
      constructor
      · intro hparts
        refine ⟨hmax, ?_⟩
        rintro _ _ ⟨⟩
        rw [← length_scanRuns_le_one_iff]
        exact (Option.some.inj hparts.number).ge
      · rintro ⟨-, hwithin⟩
        have hall := hwithin first rest rfl
        have hgroup := scanRuns_of_within hall
        have hcount := countP_of_within wide hsorted hall
        refine ⟨rfl, by rw [hgroup]; rfl, ?_, ?_⟩
        · rw [hgroup, List.map_singleton, List.map_singleton, hcount]
        · rw [List.map_singleton, List.sum_singleton, hcount]

theorem cached_scans_partitioned_pair :
    Partitioned [0, 1000] (wifiGetCachedGscanResults true ⟨8, true, true, .ok [0, 1000]⟩) ↔
      1 ≤ (8 : ℤ) ∧ ∀ first rest, [0, 1000] = first :: rest → ∀ ts ∈ rest, ts - first < tdiffMax :=
  cached_scans_partitioned_iff true (by decide) (by simp [scanRuns, tdiffMax])

/-- Two scans ten seconds apart are reported as one, without the second result. -/
theorem second_scan_not_reported :
    [(0 : ℤ), 10000000].Pairwise (· ≤ ·) ∧ ((scanRuns [0, 10000000]).length : ℤ) ≤ 8 ∧
      ∀ wide, ¬ Partitioned [0, 10000000]
        (wifiGetCachedGscanResults wide ⟨8, true, true, .ok [0, 10000000]⟩) := by
  have htwo : (scanRuns [0, 10000000]).length = 2 := by simp [scanRuns, tdiffMax]
  refine ⟨by decide, by rw [htwo]; decide, fun wide hparts => ?_⟩
  have hnumber := hparts.number
  rw [wifiGetCachedGscanResults_cons wide (by decide), htwo] at hnumber
  cases hnumber

end Wifi
end MediatekHardware
