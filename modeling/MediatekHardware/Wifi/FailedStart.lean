import MediatekHardware.Wifi.HandlerOwnership
import Mathlib.Tactic

/-!
# What a failed start leaves behind

Five functions register a command, start it and return the result of the start.
None of them takes the command out of the table or gives its reference back when
the start fails.
-/

namespace MediatekHardware
namespace Wifi

variable {s : HalInfo} {kind : CommandKind} {id : ℤ} {answers : ℕ → ℤ}

/-- A call that returns an error has left both tables as they were and has released
its command, which is the next one to be allocated. -/
def LeavesNoTrace (kind : CommandKind) (s : HalInfo) (id : ℤ) (answers : ℕ → ℤ) : Prop :=
  (HalInfo.startApi kind s id answers).1 ≠ wifiSuccess →
    (HalInfo.startApi kind s id answers).2.eventCb = s.eventCb ∧
      (HalInfo.startApi kind s id answers).2.cmd = s.cmd ∧
      ¬ (HalInfo.startApi kind s id answers).2.Live s.next

/-- The command table has room, every request but the last one is accepted and the
last one succeeds; an RTT request is made without room in the table too. -/
def StartSucceeds (s : HalInfo) (answers : ℕ → ℤ) : CommandKind → Prop
  | .rtt => answers 0 = wifiSuccess ∧ answers 1 = wifiSuccess
  | kind =>
      s.cmd.length < s.allocCmd ∧ ∀ plan ∈ startPlan kind,
        (∀ i ∈ List.range plan.early, plan.accepts (answers i) = true) ∧
          answers plan.early = wifiSuccess

theorem startPlan_accepts {plan : HalInfo.StartPlan} (hplan : plan ∈ startPlan kind) :
    plan.accepts wifiSuccess = true := by
  cases kind with
  | rtt => cases hplan
  | _ =>
      obtain rfl := Option.some.inj hplan
      rfl

theorem startWith_fst (plan : HalInfo.StartPlan)
    (haccepts : plan.accepts wifiSuccess = true) (self : ℕ) (s : HalInfo) :
    (HalInfo.startWith plan answers self s).1 = wifiSuccess ↔
      (∀ i ∈ List.range plan.early, plan.accepts (answers i) = true) ∧
        answers plan.early = wifiSuccess := by
  unfold HalInfo.startWith
  cases hearly : (List.range plan.early).find? fun i => !plan.accepts (answers i) with
  | some i =>
      have hrefused := List.find?_some hearly
      refine iff_of_false ?_ fun hall => ?_
      · intro hsuccess
        rw [show answers i = wifiSuccess from hsuccess, haccepts] at hrefused
        cases hrefused
      · rw [hall.1 i (List.mem_of_find?_eq_some hearly)] at hrefused
        cases hrefused
  | none =>
      refine (and_iff_right ?_).symm
      simpa using hearly

theorem rttStart_fst (self : ℕ) (s : HalInfo) :
    (HalInfo.rttStart answers self s).1 = wifiSuccess ↔
      answers 0 = wifiSuccess ∧ answers 1 = wifiSuccess := by
  unfold HalInfo.rttStart
  by_cases hfirst : answers 0 = wifiSuccess
  · by_cases hsecond : answers 1 = wifiSuccess <;> simp [List.range_succ, hfirst, hsecond]
  · simp [List.range_succ, hfirst]

theorem startApi_fst (id : ℤ) :
    (HalInfo.startApi kind s id answers).1 = wifiSuccess ↔ StartSucceeds s answers kind := by
  cases hplan : startPlan kind with
  | none =>
      obtain rfl : kind = .rtt := by
        cases kind with
        | rtt => rfl
        | _ => cases hplan
      exact rttStart_fst _ _
  | some plan =>
      have hsucceeds : StartSucceeds s answers kind ↔ s.cmd.length < s.allocCmd ∧
          (∀ i ∈ List.range plan.early, plan.accepts (answers i) = true) ∧
            answers plan.early = wifiSuccess := by
        cases kind with
        | rtt => cases hplan
        | _ => simp [StartSucceeds, hplan]
      rw [hsucceeds, ← startWith_fst plan (startPlan_accepts hplan) s.next
        ((s.newCommand kind id).2.wifiRegisterCmd id s.next).2, startApi_eq hplan]
      by_cases hroom : s.cmd.length < s.allocCmd
      · rw [if_pos hroom, and_iff_right hroom]
      · rw [if_neg hroom]
        refine iff_of_false ?_ fun hboth => hroom hboth.1
        dsimp only
        decide

theorem startWith_heap (plan : HalInfo.StartPlan) (self : ℕ) (s : HalInfo) :
    (HalInfo.startWith plan answers self s).2.heap = s.heap := by
  have hregistered := registerVendorHandlers_spec s self plan.handlers
  rcases startWith_snd plan answers self s with ⟨hs, -⟩ | ⟨hs, -⟩ | ⟨hs, -⟩
  · rw [hs]
  · rw [hs]
    exact hregistered.1.heap
  · have hagain :=
      registerVendorHandlers_spec (s.registerVendorHandlers self plan.handlers) self plan.again
    rw [hs]
    exact ((hregistered.1.trans hagain.1).trans
      (unregisterVendorHandlers_frame _ self plan.cleanup).1).heap

theorem startApi_live : (HalInfo.startApi kind s id answers).2.Live s.next := by
  have hnew := newRegistered_heap s id kind
  have hheap : (HalInfo.startApi kind s id answers).2.heap =
      ((s.newCommand kind id).2.wifiRegisterCmd id s.next).2.heap := by
    cases hplan : startPlan kind with
    | none =>
        obtain rfl : kind = .rtt := by
          cases kind with
          | rtt => rfl
          | _ => cases hplan
        change (HalInfo.rttStart answers s.next
          ((s.newCommand .rtt id).2.wifiRegisterCmd id s.next).2).2.heap = _
        unfold HalInfo.rttStart
        split
        · rfl
        · exact (registerVendorHandler_spec _ s.next rttEventComplete).1.heap
    | some plan =>
        rw [startApi_eq hplan]
        split
        · exact startWith_heap plan s.next _
        · rfl
  rw [HalInfo.Live, hheap, hnew]
  exact zero_lt_one

/-- A failed start always leaves its command behind, so a call leaves no trace only if
it does not fail. -/
theorem failed_start_leaves_no_trace_iff :
    LeavesNoTrace kind s id answers ↔ StartSucceeds s answers kind := by
  rw [← startApi_fst id]
  constructor
  · intro htrace
    by_contra hfailed
    exact (htrace hfailed).2.2 startApi_live
  · exact fun hsuccess hfailed => absurd hsuccess hfailed

/-- The first request of a scan is refused: the command stays in the table. -/
theorem failed_scan_stays :
    ¬ ∀ kind s id answers, LeavesNoTrace kind s id answers := by
  intro hall
  have htrace := hall .scan .initial 1 (fun _ => -1) (by decide)
  have hcmd : (HalInfo.startApi .scan .initial 1 fun _ => -1).2.cmd = [⟨1, 0⟩] := by decide
  rw [htrace.2.1] at hcmd
  cases hcmd

end Wifi
end MediatekHardware
