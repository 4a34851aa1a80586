import MediatekHardware.Lib.Transition
import MediatekHardware.Wifi.HandlerOwnership
import Mathlib.Tactic

/-!
# RTT requests and their completions

`wifi_rtt_range_request` sends its configuration on the command socket, waits for the
acknowledgement and then registers the handler; the driver may send events on the
other socket as soon as it has accepted the configuration, and the event thread
looks for the first handler when it takes an event.
-/

namespace MediatekHardware
namespace Wifi

open Transition

/-- Where a call of `wifi_rtt_range_request` is. -/
inductive RequestStage where
  | idle
  | sent
  | accepted
  | refused
  | returned
  | failed
  deriving DecidableEq, Repr

/-- An event on its way, with the request it belongs to and the last completed flag in
it. -/
structure RttEvent where
  request : ℕ
  completed : Option ℕ
  deriving DecidableEq

def RttEvent.isFinal (event : RttEvent) : Bool :=
  match event.completed with
  | some flag => flag != 0
  | none => false

/-- `finished` are the requests whose last event has been sent.  `delivered` and
`reports` are history: the events taken from the socket with the command whose
`handleEvent` has seen them, and the calls of `on_rtt_results`. -/
structure RttState where
  hal : HalInfo
  stage : ℕ → RequestStage
  finished : ℕ → Bool
  inFlight : List RttEvent
  delivered : List (ℕ × Option ℕ)
  reports : List ℕ

def RttState.initial : RttState where
  hal := .initial
  stage := fun _ => .idle
  finished := fun _ => false
  inFlight := []
  delivered := []
  reports := []

inductive RttStep where
  | request (id : ℤ)
  | answer (request : ℕ) (accepted : Bool)
  | acknowledge (request : ℕ)
  | emit (event : RttEvent)
  | dispatch
  deriving DecidableEq

def RttEvent.message (event : RttEvent) : HalInfo.Event :=
  ⟨nl80211CmdVendor, googleOui, rttEventComplete, event.completed⟩

namespace RttState

def setStage (s : RttState) (request : ℕ) (stage : RequestStage) : RttState :=
  { s with stage := Function.update s.stage request stage }

def request (s : RttState) (id : ℤ) : Option RttState :=
  some ({ s with
    hal := ((s.hal.newCommand .rtt id).2.wifiRegisterCmd id s.hal.next).2 }.setStage
      s.hal.next .sent)

def answer (s : RttState) (request : ℕ) (accepted : Bool) : Option RttState :=
  if s.stage request = .sent then
    some (s.setStage request (if accepted then .accepted else .refused))
  else none

/-- `requestResponse` returns with the answer to its own request: the callers share
`cmd_sock`, but answers do not cross. -/
def acknowledge (s : RttState) (request : ℕ) : Option RttState :=
  match s.stage request with
  | .accepted =>
      some ({ s with hal := s.hal.registerVendorHandler request rttEventComplete }.setStage
        request .returned)
  | .refused => some (s.setStage request .failed)
  | _ => none

def emit (s : RttState) (event : RttEvent) : Option RttState :=
  if (s.stage event.request = .accepted ∨ s.stage event.request = .returned) ∧
      s.finished event.request = false then
    some { s with
      inFlight := s.inFlight ++ [event]
      finished := Function.update s.finished event.request event.isFinal }
  else none

/-- The command that sees the next event of the socket: the owner of the first handler,
if it still exists. -/
def receiver (s : RttState) : Option ℕ :=
  match s.hal.firstHandler rttEventComplete with
  | some entry => if 0 < (s.hal.heap entry.cbArg).refs then some entry.cbArg else none
  | none => none

/-- The look-up of the handler and the call are one step. -/
def dispatch (s : RttState) : Option RttState :=
  match s.inFlight with
  | [] => none
  | event :: rest =>
      some { s with
        hal := s.hal.internalValidMessageHandler event.message
        inFlight := rest
        delivered := s.delivered ++ [(event.request, s.receiver)]
        reports := s.reports ++
          (s.receiver.filter fun cmd => completes s.hal cmd event.message).toList }

end RttState

def rttStep (s : RttState) : RttStep → Option RttState
  | .request id => s.request id
  | .answer request accepted => s.answer request accepted
  | .acknowledge request => s.acknowledge request
  | .emit event => s.emit event
  | .dispatch => s.dispatch

/-- The property: every event was seen by the command that made the request, and
`on_rtt_results` has been called once for each request whose last event has been
taken from the socket. -/
structure NoCompletionLost (s : RttState) : Prop where
  delivered : ∀ delivery ∈ s.delivered, delivery.2 = some delivery.1
  reported : ∀ request, s.finished request = true →
    (∀ event ∈ s.inFlight, event.request ≠ request) → s.reports.count request = 1

/-- An event is taken from the socket only while the first RTT handler belongs to the
command that made the request, and this command still exists. -/
def HandlerFirst (s : RttState) : RttStep → Prop
  | .dispatch => ∀ event ∈ s.inFlight.head?, s.receiver = some event.request
  | _ => True

instance (s : RttState) (step : RttStep) : Decidable (HandlerFirst s step) := by
  unfold HandlerFirst
  split <;> infer_instance

/-! ## What dispatching does to the commands -/

section Dispatch

variable {s : HalInfo} {event : HalInfo.Event} {entry : CbInfo}

theorem addToRefs_completed (cmd : ℕ) (n : ℤ) (other : ℕ) :
    ((s.addToRefs cmd n).heap other).completed = (s.heap other).completed := by
  unfold HalInfo.addToRefs
  dsimp only
  rw [Function.update_apply]
  split
  next heq => rw [heq]
  next => rfl

theorem received_completed_other {cmd other : ℕ} (hother : other ≠ cmd) :
    ((received s cmd event).heap other).completed = (s.heap other).completed := by
  unfold received HalInfo.setCompleted
  split
  · dsimp only
    rw [Function.update_of_ne hother]
    exact addToRefs_completed cmd 1 other
  · exact addToRefs_completed cmd 1 other

theorem received_completed_all (hkind : (s.heap entry.cbArg).kind = .rtt) (cmd : ℕ) :
    ((received s entry.cbArg event).heap cmd).completed =
      if cmd = entry.cbArg then completes s entry.cbArg event else (s.heap cmd).completed := by
  split
  next heq => rw [heq, received_completed event hkind]
  next hother => exact received_completed_other hother

/-- Kinds and addresses stay, and an RTT command notes whether it has completed. -/
theorem internalValidMessageHandler_heap
    (hentry : s.eventCb.find? (HalInfo.handles event) = some entry)
    (hkind : (s.heap entry.cbArg).kind = .rtt) :
    (s.internalValidMessageHandler event).next = s.next ∧
      ∀ cmd, ((s.internalValidMessageHandler event).heap cmd).kind = (s.heap cmd).kind ∧
        ((s.internalValidMessageHandler event).heap cmd).completed =
          if cmd = entry.cbArg then completes s entry.cbArg event
          else (s.heap cmd).completed := by
  have hnext := (received_frame (s := s) entry.cbArg event).2.2.1
  have hkinds (cmd : ℕ) := (received_heap (s := s) entry.cbArg event cmd).1
  have hflags (cmd : ℕ) : ((received s entry.cbArg event).heap cmd).completed =
      if cmd = entry.cbArg then completes s entry.cbArg event else (s.heap cmd).completed :=
    received_completed_all hkind cmd
  rw [internalValidMessageHandler_eq hentry, if_pos hkind]
  split
  · dsimp only
    split
    · refine ⟨hnext, fun cmd => ⟨?_, ?_⟩⟩
      · rw [HalInfo.releaseRef, addToRefs_kind, HalInfo.releaseRef, addToRefs_kind]
        exact hkinds cmd
      · rw [HalInfo.releaseRef, addToRefs_completed, HalInfo.releaseRef, addToRefs_completed]
        exact hflags cmd
    · refine ⟨hnext, fun cmd => ⟨?_, ?_⟩⟩
      · rw [HalInfo.releaseRef, addToRefs_kind]
        exact hkinds cmd
      · rw [HalInfo.releaseRef, addToRefs_completed]
        exact hflags cmd
  · refine ⟨hnext, fun cmd => ⟨?_, ?_⟩⟩
    · rw [HalInfo.releaseRef, addToRefs_kind]
      exact hkinds cmd
    · rw [HalInfo.releaseRef, addToRefs_completed]
      exact hflags cmd

/-- The first handler is taken out when the command has completed. -/
theorem internalValidMessageHandler_table
    (hentry : s.eventCb.find? (HalInfo.handles event) = some entry)
    (hkind : (s.heap entry.cbArg).kind = .rtt) :
    (s.internalValidMessageHandler event).allocEventCb = s.allocEventCb ∧
      (s.internalValidMessageHandler event).eventCb =
        if completes s entry.cbArg event = true then
          s.eventCb.eraseP (CbInfo.matches googleOui rttEventComplete)
        else s.eventCb := by
  have htable := (received_frame (s := s) entry.cbArg event).1
  have hroom : (received s entry.cbArg event).allocEventCb = s.allocEventCb := by
    unfold received HalInfo.setCompleted
    split <;> rfl
  rw [internalValidMessageHandler_eq hentry, if_pos hkind]
  split
  · dsimp only
    split
    · exact ⟨hroom, congrArg (List.eraseP _) htable⟩
    · exact ⟨hroom, congrArg (List.eraseP _) htable⟩
  · exact ⟨hroom, htable⟩

theorem internalValidMessageHandler_refs
    (hentry : s.eventCb.find? (HalInfo.handles event) = some entry)
    (hkind : (s.heap entry.cbArg).kind = .rtt) (hgoes : completes s entry.cbArg event = false) :
    ((s.internalValidMessageHandler event).heap entry.cbArg).refs =
      (s.heap entry.cbArg).refs := by
  rw [internalValidMessageHandler_eq hentry, if_pos hkind, if_neg (by rw [hgoes]; decide),
    HalInfo.releaseRef, addToRefs_refs, if_pos rfl, (received_heap entry.cbArg event _).2,
    if_pos rfl]
  omega

end Dispatch

/-! ## Runs in which the handler comes first -/

def finalsOf (request : ℕ) (events : List RttEvent) : ℕ :=
  events.countP fun event => event.request == request && event.isFinal

/-- The invariant: the last event of a finished request is on its way or has been
reported, and nothing of a request follows its last event. -/
structure RttInv (s : RttState) : Prop where
  used : ∀ request, s.stage request ≠ .idle → request < s.hal.next
  finished : ∀ request, s.finished request = true → s.stage request ≠ .idle
  kind : ∀ request, s.stage request ≠ .idle → (s.hal.heap request).kind = .rtt
  flying : ∀ event ∈ s.inFlight, s.stage event.request ≠ .idle
  counted : ∀ request,
    finalsOf request s.inFlight + s.reports.count request = (s.finished request).toNat
  last : s.inFlight.Pairwise fun event later =>
    event.isFinal = true → later.request ≠ event.request
  noted : ∀ request, s.stage request ≠ .idle → (s.hal.heap request).completed = true →
    0 < s.reports.count request
  behind : ∀ event ∈ s.inFlight, s.reports.count event.request = 0
  delivered : ∀ delivery ∈ s.delivered, delivery.2 = some delivery.1

theorem rttInv_initial : RttInv .initial where
  used := fun _ hstage => absurd rfl hstage
  finished := fun _ hfinished => by cases hfinished
  kind := fun _ hstage => absurd rfl hstage
  flying := fun _ hevent => by cases hevent
  counted := fun _ => rfl
  last := List.Pairwise.nil
  noted := fun _ hstage => absurd rfl hstage
  behind := fun _ hevent => by cases hevent
  delivered := fun _ hdelivery => by cases hdelivery

section Steps

variable {s t : RttState}

theorem finalsOf_eq_zero {request : ℕ} {events : List RttEvent} :
    finalsOf request events = 0 ↔
      ∀ event ∈ events, event.request = request → event.isFinal = false := by
  simp [finalsOf, List.countP_eq_zero]

theorem RttInv.noCompletionLost (hinv : RttInv s) : NoCompletionLost s where
  delivered := hinv.delivered
  reported := by
    intro request hfinished hnone
    have hcounted := hinv.counted request
    have hzero : finalsOf request s.inFlight = 0 :=
      finalsOf_eq_zero.mpr fun event hevent heq => absurd heq (hnone event hevent)
    rwa [hfinished, Bool.toNat_true, hzero, Nat.zero_add] at hcounted

theorem RttInv.setStage (hinv : RttInv s) {request : ℕ} {stage : RequestStage}
    (hold : s.stage request ≠ .idle) (hnew : stage ≠ .idle) :
    RttInv (s.setStage request stage) := by
  have hidle (other : ℕ) :
      (s.setStage request stage).stage other ≠ .idle ↔ s.stage other ≠ .idle := by
    unfold RttState.setStage
    dsimp only
    by_cases hother : other = request
    · rw [hother, Function.update_self]
      exact iff_of_true hnew hold
    · rw [Function.update_of_ne hother]
  constructor
  · exact fun other hother => hinv.used other ((hidle other).mp hother)
  · exact fun other hother => (hidle other).mpr (hinv.finished other hother)
  · exact fun other hother => hinv.kind other ((hidle other).mp hother)
  · exact fun event hevent => (hidle _).mpr (hinv.flying event hevent)
  · exact hinv.counted
  · exact hinv.last
  · exact fun other hother => hinv.noted other ((hidle other).mp hother)
  · exact hinv.behind
  · exact hinv.delivered

theorem RttInv.hal (hinv : RttInv s) {hal : HalInfo} (hnext : hal.next = s.hal.next)
    (hheap : hal.heap = s.hal.heap) : RttInv { s with hal := hal } where
  used := hnext ▸ hinv.used
  finished := hinv.finished
  kind := hheap ▸ hinv.kind
  flying := hinv.flying
  counted := hinv.counted
  last := hinv.last
  noted := hheap ▸ hinv.noted
  behind := hinv.behind
  delivered := hinv.delivered

theorem RttInv.request (hinv : RttInv s) {id : ℤ} (hstep : s.request id = some t) :
    RttInv t := by
  obtain rfl := Option.some.inj hstep
  have hidle : s.stage s.hal.next = .idle := by
    by_contra hused
    exact absurd (hinv.used _ hused) (lt_irrefl _)
  have hheap (other : ℕ) (hother : other ≠ s.hal.next) :
      ((s.hal.newCommand .rtt id).2.wifiRegisterCmd id s.hal.next).2.heap other =
        s.hal.heap other := by
    have hsame : ((s.hal.newCommand .rtt id).2.wifiRegisterCmd id s.hal.next).2.heap =
        (s.hal.newCommand .rtt id).2.heap := by
      unfold HalInfo.wifiRegisterCmd
      split <;> rfl
    rw [hsame, newCommand_heap, if_neg hother]
  have hnext : ((s.hal.newCommand .rtt id).2.wifiRegisterCmd id s.hal.next).2.next =
      s.hal.next + 1 := by
    unfold HalInfo.wifiRegisterCmd
    split <;> rfl
  have hstage (other : ℕ) (hother : other ≠ s.hal.next) :
      Function.update s.stage s.hal.next .sent other = s.stage other :=
    Function.update_of_ne hother _ _
  unfold RttState.setStage
  constructor
  · intro other hused
    dsimp only at hused ⊢
    rw [hnext]
    by_cases hother : other = s.hal.next
    · omega
    · rw [hstage other hother] at hused
      have := hinv.used other hused
      omega
  · intro other hfinished
    have hused := hinv.finished other hfinished
    dsimp only
    rwa [hstage other fun heq => hused (heq ▸ hidle)]
  · intro other hused
    dsimp only at hused ⊢
    by_cases hother : other = s.hal.next
    · rw [hother, newRegistered_heap]
    · rw [hstage other hother] at hused
      rw [hheap other hother]
      exact hinv.kind other hused
  · intro event hevent
    have hused := hinv.flying event hevent
    have hother : event.request ≠ s.hal.next := by
      intro heq
      rw [heq] at hused
      exact hused hidle
    dsimp only
    rwa [hstage _ hother]
  · exact hinv.counted
  · exact hinv.last
  · intro other hused hcompleted
    dsimp only at hused hcompleted ⊢
    by_cases hother : other = s.hal.next
    · rw [hother, newRegistered_heap] at hcompleted
      cases hcompleted
    · rw [hstage other hother] at hused
      rw [hheap other hother] at hcompleted
      exact hinv.noted other hused hcompleted
  · exact hinv.behind
  · exact hinv.delivered

theorem RttInv.acknowledge (hinv : RttInv s) {request : ℕ}
    (hstep : s.acknowledge request = some t) : RttInv t := by
  unfold RttState.acknowledge at hstep
  split at hstep
  next hstage =>
    obtain rfl := Option.some.inj hstep
    have hsame := (registerVendorHandler_spec s.hal request rttEventComplete).1
    apply (hinv.hal hsame.next hsame.heap).setStage
    · dsimp only
      rw [hstage]
      decide
    · decide
  next hstage =>
    obtain rfl := Option.some.inj hstep
    apply hinv.setStage
    · rw [hstage]
      decide
    · decide
  next => cases hstep

theorem RttInv.emit (hinv : RttInv s) {event : RttEvent} (hstep : s.emit event = some t) :
    RttInv t := by
  unfold RttState.emit at hstep
  split_ifs at hstep with hready
  obtain rfl := Option.some.inj hstep
  obtain ⟨hstage, hopen⟩ := hready
  have hused : s.stage event.request ≠ .idle := by
    rcases hstage with hstage | hstage <;> rw [hstage] <;> decide
  have hcounted := hinv.counted event.request
  rw [hopen, Bool.toNat_false] at hcounted
  obtain ⟨hfinals, hreports⟩ := Nat.add_eq_zero_iff.mp hcounted
  constructor
  · exact hinv.used
  · intro request hfinished
    by_cases hrequest : request = event.request
    · rwa [hrequest]
    · dsimp only at hfinished
      rw [Function.update_of_ne hrequest] at hfinished
      exact hinv.finished request hfinished
  · exact hinv.kind
  · intro other hother
    rcases List.mem_append.mp hother with hother | hother
    · exact hinv.flying other hother
    · rwa [List.mem_singleton.mp hother]
  · intro request
    dsimp only
    rw [finalsOf, List.countP_append, List.countP_singleton, ← finalsOf]
    by_cases hrequest : request = event.request
    · subst hrequest
      rw [hfinals, hreports, Function.update_self, beq_self_eq_true, Bool.true_and,
        Nat.zero_add, Nat.add_zero]
      cases event.isFinal <;> rfl
    · rw [Function.update_of_ne hrequest, beq_eq_false_iff_ne.mpr (Ne.symm hrequest),
        Bool.false_and, if_neg (by decide), Nat.add_zero]
      exact hinv.counted request
  · refine List.pairwise_append.mpr ⟨hinv.last, List.pairwise_singleton _ _, ?_⟩
    intro earlier hearlier later hlater hfinal heq
    rw [List.mem_singleton.mp hlater] at heq
    rw [finalsOf_eq_zero.mp hfinals earlier hearlier heq.symm] at hfinal
    cases hfinal
  · exact hinv.noted
  · intro other hother
    rcases List.mem_append.mp hother with hother | hother
    · exact hinv.behind other hother
    · rwa [List.mem_singleton.mp hother]
  · exact hinv.delivered

/-- An event that comes to its own command completes it exactly if it is the last one. -/
theorem RttInv.completes_eq (hinv : RttInv s) {event : RttEvent}
    (hevent : event ∈ s.inFlight) :
    completes s.hal event.request event.message = event.isFinal := by
  have hused := hinv.flying event hevent
  unfold completes RttEvent.isFinal RttEvent.message
  rw [hinv.kind _ hused]
  cases event.completed with
  | some flag => rfl
  | none =>
      cases hcompleted : (s.hal.heap event.request).completed with
      | false => rfl
      | true =>
          have hreported := hinv.noted _ hused hcompleted
          rw [hinv.behind event hevent] at hreported
          exact absurd hreported (lt_irrefl 0)

theorem exists_firstHandler_of_receiver {cmd : ℕ} (hreceiver : s.receiver = some cmd) :
    ∃ entry, s.hal.firstHandler rttEventComplete = some entry ∧ entry.cbArg = cmd := by
  unfold RttState.receiver at hreceiver
  split at hreceiver
  next entry hentry =>
    split_ifs at hreceiver
    exact ⟨entry, hentry, Option.some.inj hreceiver⟩
  next => cases hreceiver

theorem count_append_reported (reports : List ℕ) (isFinal : Bool) {cmd request : ℕ} :
    (reports ++ (if isFinal then some cmd else none).toList).count request =
      reports.count request + if cmd = request ∧ isFinal = true then 1 else 0 := by
  rw [List.count_append]
  cases isFinal with
  | false => simp
  | true => by_cases hsame : cmd = request <;> simp [hsame]

theorem RttInv.dispatch (hinv : RttInv s) (hguard : HandlerFirst s .dispatch)
    (hstep : s.dispatch = some t) : RttInv t := by
  unfold RttState.dispatch at hstep
  cases hflight : s.inFlight with
  | nil =>
      rw [hflight] at hstep
      cases hstep
  | cons event rest =>
      have hreceiver : s.receiver = some event.request := hguard event (by rw [hflight]; rfl)
      have hevent : event ∈ s.inFlight := hflight ▸ List.mem_cons_self
      have hcompletes := hinv.completes_eq hevent
      have hused := hinv.flying event hevent
      simp only [hflight, hreceiver] at hstep
      obtain rfl := Option.some.inj hstep
      -- the first handler is that of the request
      obtain ⟨entry, hentry, howner⟩ := exists_firstHandler_of_receiver hreceiver
      have hfound : s.hal.eventCb.find? (HalInfo.handles event.message) = some entry := by
        unfold RttEvent.message
        rw [handles_vendor]
        exact hentry
      obtain ⟨hnext, hheap⟩ := internalValidMessageHandler_heap hfound
        (howner ▸ hinv.kind _ hused)
      rw [howner, hcompletes] at hheap
      have hreports (request : ℕ) : (s.reports ++
          ((some event.request).filter fun cmd =>
            completes s.hal cmd event.message).toList).count request =
          s.reports.count request +
            if event.request = request ∧ event.isFinal = true then 1 else 0 := by
        rw [Option.filter_some, hcompletes]
        exact count_append_reported s.reports event.isFinal
      have hlast := hinv.last
      rw [hflight, List.pairwise_cons] at hlast
      constructor
      · dsimp only
        rw [hnext]
        exact hinv.used
      · exact hinv.finished
      · intro request hstage
        rw [← hinv.kind request hstage]
        exact (hheap request).1
      · exact fun other hother => hinv.flying other (hflight ▸ List.mem_cons_of_mem _ hother)
      · intro request
        have hcounted := hinv.counted request
        rw [hflight, finalsOf, List.countP_cons, ← finalsOf] at hcounted
        dsimp only
        rw [hreports, ← hcounted]
        by_cases hsame : event.request = request
        · cases event.isFinal with
          | false => simp [hsame]
          | true =>
              simp [hsame]
              omega
        · simp [hsame]
      · exact hlast.2
      · intro request hstage hcompleted
        dsimp only at hcompleted ⊢
        rw [(hheap request).2] at hcompleted
        rw [hreports]
        split at hcompleted
        next hsame => simp [hsame, hcompleted]
        next => exact Nat.add_pos_left (hinv.noted request hstage hcompleted) _
      · intro other hother
        dsimp only
        rw [hreports, hinv.behind other (hflight ▸ List.mem_cons_of_mem _ hother), Nat.zero_add]
        refine if_neg fun hboth => ?_
        exact hlast.1 other hother hboth.2 hboth.1.symm
      · intro delivery hdelivery
        rcases List.mem_append.mp hdelivery with hdelivery | hdelivery
        · exact hinv.delivered delivery hdelivery
        · rw [List.mem_singleton.mp hdelivery]

theorem RttInv.step {step : RttStep} (hinv : RttInv s) (hguard : HandlerFirst s step)
    (hstep : rttStep s step = some t) : RttInv t := by
  cases step with
  | request id => exact hinv.request hstep
  | answer request accepted =>
      change s.answer request accepted = some t at hstep
      unfold RttState.answer at hstep
      split at hstep
      next hstage =>
        obtain rfl := Option.some.inj hstep
        apply hinv.setStage
        · rw [hstage]
          decide
        · cases accepted <;> decide
      next => cases hstep
  | acknowledge request => exact hinv.acknowledge hstep
  | emit event => exact hinv.emit hstep
  | dispatch => exact hinv.dispatch hguard hstep

theorem dispatch_lost {step : RttStep} (hguard : ¬ HandlerFirst s step)
    (hstep : rttStep s step = some t) : ¬ NoCompletionLost t := by
  cases step with
  | dispatch =>
      simp only [HandlerFirst, not_forall] at hguard
      obtain ⟨event, hevent, hreceiver⟩ := hguard
      change s.dispatch = some t at hstep
      unfold RttState.dispatch at hstep
      cases hflight : s.inFlight with
      | nil => simp [hflight] at hevent
      | cons first rest =>
          simp only [hflight] at hstep
          obtain rfl := Option.some.inj hstep
          obtain rfl : first = event := by simpa [hflight] using hevent
          intro hgood
          exact hreceiver (hgood.delivered (first.request, s.receiver) (by simp))
  | _ => exact absurd trivial hguard

end Steps

/-- No RTT event is lost or misdelivered, at any time of a run, exactly if every event
that is taken from the socket finds the handler of its own command first. -/
theorem no_completion_lost_iff {steps : List RttStep} {t : RttState}
    (hrun : run rttStep .initial steps = some t) :
    (∀ before, before <+: steps → ∀ s, run rttStep .initial before = some s →
        NoCompletionLost s) ↔
      runGuarded rttStep HandlerFirst .initial steps := by
  apply holds_along_iff _ _ hrun
  · intro s hreach
    exact (hreach.invariant RttInv rttInv_initial RttInv.step).noCompletionLost
  · exact fun {s next label} _ hguard hstep => dispatch_lost hguard hstep

/-! ## One request at a time -/

/-- The call has not failed, and it is in progress or an event of it is still to come. -/
def RttState.Pending (s : RttState) (request : ℕ) : Prop :=
  s.stage request ≠ .idle ∧ s.stage request ≠ .failed ∧
    (s.stage request = .returned → s.finished request = true →
      ∃ event ∈ s.inFlight, event.request = request)

/-- A request is made while none is pending, and an event is taken from the socket when
`wifi_rtt_range_request` has returned. -/
def OneAtATime (s : RttState) : RttStep → Prop
  | .request _ => ∀ request, ¬ s.Pending request
  | .dispatch => ∀ event ∈ s.inFlight.head?, s.stage event.request = .returned
  | _ => True

def rttHandler (request : ℕ) : CbInfo := ⟨nl80211CmdVendor, googleOui, rttEventComplete, request⟩

/-- At most one request is pending, and the table has its handler at most. -/
inductive Served (s : RttState) : Prop
  | none (hnone : ∀ request, ¬ s.Pending request) (htable : s.hal.eventCb = []) : Served s
  | one (request : ℕ) (hpending : s.Pending request)
      (honly : ∀ other, s.Pending other → other = request)
      (hrefs : (s.hal.heap request).refs = 1)
      (htable : s.hal.eventCb =
        if s.stage request = .returned then [rttHandler request] else []) : Served s

structure OneAtATimeInv (s : RttState) : Prop where
  rtt : RttInv s
  room : 0 < s.hal.allocEventCb
  unreported : ∀ request, s.stage request = .sent ∨ s.stage request = .accepted →
    s.reports.count request = 0
  served : Served s

section OneAtATime

variable {s t : RttState}

theorem Served.of_pending {request : ℕ} (hserved : Served s) (hpending : s.Pending request) :
    (∀ other, s.Pending other → other = request) ∧ (s.hal.heap request).refs = 1 ∧
      s.hal.eventCb = if s.stage request = .returned then [rttHandler request] else [] := by
  cases hserved with
  | none hnone => exact absurd hpending (hnone request)
  | one current _ honly hrefs htable =>
      obtain rfl := honly request hpending
      exact ⟨honly, hrefs, htable⟩

theorem pending_of_stage {request : ℕ} {stage : RequestStage} (hstage : s.stage request = stage)
    (hidle : stage ≠ .idle) (hfailed : stage ≠ .failed) (hreturned : stage ≠ .returned) :
    s.Pending request := by
  subst hstage
  exact ⟨hidle, hfailed, fun h => absurd h hreturned⟩

theorem pending_of_flying {event : RttEvent} (hevent : event ∈ s.inFlight)
    (hstage : s.stage event.request = .returned) : s.Pending event.request := by
  refine ⟨?_, ?_, fun _ _ => ⟨event, hevent, rfl⟩⟩
  · rw [hstage]
    decide
  · rw [hstage]
    decide

/-- The handler of the request comes first when its event is taken. -/
theorem OneAtATimeInv.handlerFirst {step : RttStep} (hinv : OneAtATimeInv s)
    (hguard : OneAtATime s step) : HandlerFirst s step := by
  cases step with
  | dispatch =>
      intro event hevent
      have hstage := hguard event hevent
      have hflying : event ∈ s.inFlight := List.mem_of_mem_head? hevent
      obtain ⟨_, hrefs, htable⟩ := hinv.served.of_pending (pending_of_flying hflying hstage)
      rw [if_pos hstage] at htable
      have hfirst : s.hal.firstHandler rttEventComplete = some (rttHandler event.request) := by
        rw [HalInfo.firstHandler, htable]
        simp [rttHandler, CbInfo.matches]
      rw [RttState.receiver, hfirst]
      exact if_pos (by rw [rttHandler, hrefs]; decide)
  | _ => trivial

/-- A step that leaves the other requests alone. -/
theorem pending_setStage_iff {request other : ℕ} {stage : RequestStage}
    (hother : other ≠ request) : (s.setStage request stage).Pending other ↔ s.Pending other := by
  unfold RttState.setStage RttState.Pending
  simp only [Function.update_of_ne hother]

theorem OneAtATimeInv.request {id : ℤ} (hinv : OneAtATimeInv s)
    (hguard : OneAtATime s (.request id)) (hstep : s.request id = some t) :
    OneAtATimeInv t := by
  have hidle : s.stage s.hal.next = .idle := by
    by_contra hused
    exact absurd (hinv.rtt.used _ hused) (lt_irrefl _)
  have htable : s.hal.eventCb = [] := by
    cases hinv.served with
    | none _ htable => exact htable
    | one request hpending => exact absurd hpending (hguard request)
  have hrtt := hinv.rtt.request hstep
  obtain rfl := Option.some.inj hstep
  have hsent : Function.update s.stage s.hal.next .sent s.hal.next = .sent :=
    Function.update_self _ _ _
  refine ⟨hrtt, ?_, ?_, .one s.hal.next ?_ ?_ ?_ ?_⟩
  · have hroom := hinv.room
    unfold RttState.setStage HalInfo.wifiRegisterCmd
    dsimp only
    split
    · exact hroom
    · exact hroom
  · intro request hstage
    by_cases hnew : request = s.hal.next
    · have hcounted := hinv.rtt.counted request
      have hunfinished : s.finished request = false := by
        rw [← Bool.not_eq_true]
        exact fun hfinished => hinv.rtt.finished request hfinished (hnew ▸ hidle)
      rw [hunfinished, Bool.toNat_false] at hcounted
      exact (Nat.add_eq_zero_iff.mp hcounted).2
    · unfold RttState.setStage at hstage
      simp only [Function.update_of_ne hnew] at hstage
      exact hinv.unreported request hstage
  · exact pending_of_stage hsent (by decide) (by decide) (by decide)
  · intro other hpending
    by_contra hother
    exact hguard other ((pending_setStage_iff hother).mp hpending)
  · unfold RttState.setStage
    dsimp only
    rw [newRegistered_heap]
  · unfold RttState.setStage
    dsimp only
    rw [newRegistered_eventCb, htable]
    exact (if_neg (by rw [hsent]; decide)).symm

theorem OneAtATimeInv.answer {request : ℕ} {accepted : Bool} (hinv : OneAtATimeInv s)
    (hrtt : RttInv t) (hstep : s.answer request accepted = some t) : OneAtATimeInv t := by
  obtain ⟨stage, hanswered, hsent, rfl⟩ : ∃ stage : RequestStage,
      (stage ≠ .idle ∧ stage ≠ .failed ∧ stage ≠ .returned) ∧ s.stage request = .sent ∧
        s.setStage request stage = t := by
    unfold RttState.answer at hstep
    split at hstep
    next hsent =>
      refine ⟨_, ?_, hsent, Option.some.inj hstep⟩
      cases accepted <;> decide
    next => cases hstep
  obtain ⟨honly, hrefs, htable⟩ := hinv.served.of_pending
    (pending_of_stage hsent (by decide) (by decide) (by decide))
  have hstage : (s.setStage request stage).stage request = stage := Function.update_self _ _ _
  refine ⟨hrtt, hinv.room, ?_, .one request ?_ ?_ hrefs ?_⟩
  · intro other hother
    by_cases hsame : other = request
    · exact hsame ▸ hinv.unreported request (.inl hsent)
    · unfold RttState.setStage at hother
      simp only [Function.update_of_ne hsame] at hother
      exact hinv.unreported other hother
  · exact pending_of_stage hstage hanswered.1 hanswered.2.1 hanswered.2.2
  · intro other hpending
    by_contra hother
    exact hother (honly other ((pending_setStage_iff hother).mp hpending))
  · rw [if_neg (by rw [hsent]; decide)] at htable
    exact htable.trans (if_neg (by rw [hstage]; exact hanswered.2.2)).symm

/-- An accepted call registers its handler in an empty table. -/
theorem OneAtATimeInv.acknowledge {request : ℕ} (hinv : OneAtATimeInv s) (hrtt : RttInv t)
    (hstep : s.acknowledge request = some t) : OneAtATimeInv t := by
  have hothers {stage : RequestStage} {hal : HalInfo} {other : ℕ} (hother : other ≠ request)
      (hpending : ({ s with hal := hal }.setStage request stage).Pending other) :
      s.Pending other := (pending_setStage_iff (s := { s with hal := hal }) hother).mp hpending
  have hunreported {stage : RequestStage} {hal : HalInfo}
      (hlate : stage ≠ .sent ∧ stage ≠ .accepted) (other : ℕ)
      (hother : ({ s with hal := hal }.setStage request stage).stage other = .sent ∨
        ({ s with hal := hal }.setStage request stage).stage other = .accepted) :
      s.reports.count other = 0 := by
    unfold RttState.setStage at hother
    by_cases hsame : other = request
    · subst hsame
      simp only [Function.update_self] at hother
      exact absurd hother (not_or.mpr hlate)
    · simp only [Function.update_of_ne hsame] at hother
      exact hinv.unreported other hother
  unfold RttState.acknowledge at hstep
  split at hstep
  next haccepted =>
    obtain rfl := Option.some.inj hstep
    obtain ⟨honly, hrefs, htable⟩ := hinv.served.of_pending
      (pending_of_stage haccepted (by decide) (by decide) (by decide))
    rw [if_neg (by rw [haccepted]; decide)] at htable
    have hsame := (registerVendorHandler_spec s.hal request rttEventComplete).1
    have hregistered : (s.hal.registerVendorHandler request rttEventComplete).eventCb =
        [rttHandler request] := by
      unfold HalInfo.registerVendorHandler HalInfo.wifiRegisterVendorHandler
      rw [htable, List.length_nil, if_pos hinv.room]
      rfl
    refine ⟨hrtt, ?_, hunreported (by decide), .one request ?_ ?_ ?_ ?_⟩
    · unfold RttState.setStage HalInfo.registerVendorHandler HalInfo.wifiRegisterVendorHandler
      dsimp only
      split
      · exact hinv.room
      · exact hinv.room
    · have hreturned : Function.update s.stage request .returned request = .returned :=
        Function.update_self _ _ _
      refine ⟨?_, ?_, fun _ hfinished => ?_⟩
      · exact hreturned.trans_ne (by decide)
      · exact hreturned.trans_ne (by decide)
      · have hcounted := hinv.rtt.counted request
        rw [hinv.unreported request (.inr haccepted), show s.finished request = true from hfinished,
          Bool.toNat_true, Nat.add_zero] at hcounted
        have hsome : finalsOf request s.inFlight ≠ 0 := by omega
        simp only [ne_eq, finalsOf_eq_zero, not_forall] at hsome
        obtain ⟨event, hevent, hrequest, _⟩ := hsome
        exact ⟨event, hevent, hrequest⟩
    · intro other hpending
      by_contra hother
      exact hother (honly other (hothers hother hpending))
    · unfold RttState.setStage
      dsimp only
      rw [hsame.heap, hrefs]
    · refine hregistered.trans (if_pos ?_).symm
      exact Function.update_self _ _ _
  next hrefused =>
    obtain rfl := Option.some.inj hstep
    obtain ⟨honly, _, htable⟩ := hinv.served.of_pending
      (pending_of_stage hrefused (by decide) (by decide) (by decide))
    rw [if_neg (by rw [hrefused]; decide)] at htable
    refine ⟨hrtt, hinv.room, @hunreported _ s.hal (by decide), .none ?_ htable⟩
    intro other hpending
    by_cases hsame : other = request
    · subst hsame
      exact hpending.2.1 (Function.update_self _ _ _)
    · exact hsame (honly other (@hothers _ s.hal other hsame hpending))
  next => cases hstep

theorem OneAtATimeInv.emit {event : RttEvent} (hinv : OneAtATimeInv s) (hrtt : RttInv t)
    (hstep : s.emit event = some t) : OneAtATimeInv t := by
  unfold RttState.emit at hstep
  split_ifs at hstep with hready
  obtain rfl := Option.some.inj hstep
  obtain ⟨hstage, hopen⟩ := hready
  have hpending : s.Pending event.request := by
    refine ⟨?_, ?_, fun _ hfinished => ?_⟩
    · rcases hstage with hstage | hstage <;> rw [hstage] <;> decide
    · rcases hstage with hstage | hstage <;> rw [hstage] <;> decide
    · exact absurd (hopen.symm.trans hfinished) Bool.false_ne_true
  obtain ⟨honly, hrefs, htable⟩ := hinv.served.of_pending hpending
  refine ⟨hrtt, hinv.room, hinv.unreported, .one event.request ?_ ?_ hrefs htable⟩
  · exact ⟨hpending.1, hpending.2.1, fun _ _ =>
      ⟨event, List.mem_append_right _ (List.mem_singleton_self _), rfl⟩⟩
  · rintro other ⟨hidle, hfailed, hflying⟩
    by_contra hother
    refine hother (honly other ⟨hidle, hfailed, fun hreturned hfinished => ?_⟩)
    have hbefore : Function.update s.finished event.request event.isFinal other = true := by
      rwa [Function.update_of_ne hother]
    obtain ⟨found, hfound, hrequest⟩ := hflying hreturned hbefore
    rcases List.mem_append.mp hfound with hold | hnew
    · exact ⟨found, hold, hrequest⟩
    · rw [List.mem_singleton.mp hnew] at hrequest
      exact absurd hrequest.symm hother

/-- A last event makes room for the next request. -/
theorem OneAtATimeInv.dispatch (hinv : OneAtATimeInv s) (hguard : OneAtATime s .dispatch)
    (hrtt : RttInv t) (hstep : s.dispatch = some t) : OneAtATimeInv t := by
  have hfirst := hinv.handlerFirst hguard
  unfold RttState.dispatch at hstep
  cases hflight : s.inFlight with
  | nil =>
      rw [hflight] at hstep
      cases hstep
  | cons event rest =>
      have hhead : event ∈ s.inFlight.head? := by rw [hflight]; rfl
      have hevent : event ∈ s.inFlight := List.mem_of_mem_head? hhead
      have hstage := hguard event hhead
      obtain ⟨honly, hrefs, htable⟩ := hinv.served.of_pending (pending_of_flying hevent hstage)
      rw [if_pos hstage] at htable
      have hcompletes := hinv.rtt.completes_eq hevent
      simp only [hflight, hfirst event hhead, Option.filter_some, hcompletes] at hstep
      obtain rfl := Option.some.inj hstep
      have hfound : s.hal.eventCb.find? (HalInfo.handles event.message) =
          some (rttHandler event.request) := by
        unfold RttEvent.message
        rw [handles_vendor, htable]
        simp [rttHandler, CbInfo.matches]
      have hkind := hinv.rtt.kind _ (hinv.rtt.flying event hevent)
      obtain ⟨hroom, hleft⟩ := internalValidMessageHandler_table hfound hkind
      have hcounted := hinv.rtt.counted event.request
      rw [hinv.rtt.behind event hevent, Nat.add_zero] at hcounted
      have hbefore (other : ℕ) (hpending : RttState.Pending
          { s with inFlight := rest } other) : other = event.request := by
        obtain ⟨hidle, hfailed, hflying⟩ := hpending
        refine honly other ⟨hidle, hfailed, fun hreturned hfinished => ?_⟩
        obtain ⟨found, hmem, hrequest⟩ := hflying hreturned hfinished
        exact ⟨found, hflight ▸ List.mem_cons_of_mem _ hmem, hrequest⟩
      refine ⟨hrtt, hroom ▸ hinv.room, fun other hother => ?_, ?_⟩
      · have hne : event.request ≠ other := by
          rintro rfl
          rcases hother with hother | hother
          · exact absurd (hother.symm.trans hstage) (by decide)
          · exact absurd (hother.symm.trans hstage) (by decide)
        dsimp only
        rw [count_append_reported, if_neg fun h => hne h.1, Nat.add_zero]
        exact hinv.unreported other hother
      · rw [rttHandler, hcompletes] at hleft
        cases hfinal : event.isFinal with
        | true =>
            rw [hfinal, if_pos rfl, htable] at hleft
            have hempty : [rttHandler event.request].eraseP
                (CbInfo.matches googleOui rttEventComplete) = [] := by
              simp [rttHandler, CbInfo.matches]
            refine .none (fun other hpending => ?_) (hleft.trans hempty)
            obtain rfl := hbefore other hpending
            have hlast := hinv.rtt.last
            rw [hflight, List.pairwise_cons] at hlast
            have hsome : finalsOf event.request s.inFlight ≠ 0 := fun hzero =>
              Bool.false_ne_true ((finalsOf_eq_zero.mp hzero event hevent rfl).symm.trans hfinal)
            have hfinished : s.finished event.request = true := by
              rw [← Bool.toNat_eq_one]
              have hle := Bool.toNat_le (s.finished event.request)
              omega
            obtain ⟨found, hmem, hrequest⟩ := hpending.2.2 hstage hfinished
            exact hlast.1 found hmem hfinal hrequest
        | false =>
            rw [hfinal, if_neg (by decide), htable] at hleft
            refine .one event.request ⟨?_, ?_, fun _ hfinished => ?_⟩ hbefore ?_ ?_
            · exact hstage.trans_ne (by decide)
            · exact hstage.trans_ne (by decide)
            · rw [show s.finished event.request = true from hfinished, Bool.toNat_true] at hcounted
              have hsome : finalsOf event.request s.inFlight ≠ 0 := by omega
              simp only [ne_eq, finalsOf_eq_zero, not_forall] at hsome
              obtain ⟨found, hmem, hrequest, hlater⟩ := hsome
              rcases List.mem_cons.mp (hflight ▸ hmem) with rfl | hrest
              · exact absurd hfinal hlater
              · exact ⟨found, hrest, hrequest⟩
            · exact (internalValidMessageHandler_refs hfound hkind
                (hcompletes.trans hfinal)).trans hrefs
            · exact hleft.trans (if_pos hstage).symm

theorem OneAtATimeInv.step {step : RttStep} (hinv : OneAtATimeInv s)
    (hguard : OneAtATime s step) (hstep : rttStep s step = some t) : OneAtATimeInv t := by
  have hrtt := hinv.rtt.step (hinv.handlerFirst hguard) hstep
  cases step with
  | request id => exact hinv.request hguard hstep
  | answer request accepted => exact hinv.answer hrtt hstep
  | acknowledge request => exact hinv.acknowledge hrtt hstep
  | emit event => exact hinv.emit hrtt hstep
  | dispatch => exact hinv.dispatch hguard hrtt hstep

/-- Such runs lose no completion, whatever the driver answers and sends. -/
theorem handlerFirst_of_oneAtATime {steps : List RttStep}
    (hguarded : runGuarded rttStep OneAtATime .initial steps) :
    runGuarded rttStep HandlerFirst .initial steps := by
  have hinit : OneAtATimeInv .initial :=
    ⟨rttInv_initial, by decide, fun _ _ => rfl, .none (fun _ h => h.1 rfl) rfl⟩
  exact runGuarded_of_invariant OneAtATimeInv (fun hinv hguard => hinv.handlerFirst hguard)
    (fun hinv hguard hstep => hinv.step hguard hstep) hinit hguarded

end OneAtATime

/-- Two requests, the results of the first of which come before the second. -/
def oneAfterTheOther : List RttStep :=
  [.request 1, .answer 0 true, .acknowledge 0, .emit ⟨0, none⟩, .emit ⟨0, some 1⟩, .dispatch,
    .dispatch, .request 2, .answer 1 true, .acknowledge 1, .emit ⟨1, some 1⟩, .dispatch]

theorem oneAfterTheOther_reported :
    ∃ t, run rttStep .initial oneAfterTheOther = some t ∧ t.reports = [0, 1] ∧
      NoCompletionLost t := by
  have hrun : run rttStep .initial oneAfterTheOther = some _ := rfl
  exact ⟨_, hrun, rfl,
    (no_completion_lost_iff hrun).mpr (by decide) _ (List.prefix_refl _) _ hrun⟩

/-- The results arrive before the handler is registered. -/
theorem early_completion_lost :
    ¬ ∀ steps t, run rttStep .initial steps = some t → NoCompletionLost t := by
  intro hall
  have hgood := hall
    [.request 1, .answer 0 true, .emit ⟨0, some 1⟩, .dispatch, .acknowledge 0] _ rfl
  have hdelivered := hgood.delivered (0, none) (by decide)
  cases hdelivered

end Wifi
end MediatekHardware
