import MediatekHardware.Lib.Transition
import MediatekHardware.Wifi.CommandTables
import Mathlib.Tactic

/-!
# Whose handlers are in the table

A handler is keyed by its event and belongs to a command.  Registering appends,
unregistering takes the first handler of an event out, whoever it belongs to.  The
module says when every handler stays with a live command and is taken out by
its own.
-/

namespace MediatekHardware
namespace Wifi

open FirstMatch Transition

/-! ## Calls and events -/

inductive WifiCall where
  | start (kind : CommandKind) (id : ℤ) (answers : ℕ → ℤ)
  | stopGscan (id : ℤ)
  | resetBssidHotlist (id : ℤ)
  | resetSignificantChangeHandler (id : ℤ)
  | resetPasspointList (id : ℤ)
  | rttRangeCancel (id : ℤ)
  | event (event : HalInfo.Event)

namespace HalInfo

def startApi : CommandKind → HalInfo → ℤ → (ℕ → ℤ) → ℤ × HalInfo
  | .scan => wifiStartGscan
  | .bssidHotlist => wifiSetBssidHotlist
  | .significantWifiChange => wifiSetSignificantChangeHandler
  | .anqpoConfigure => wifiSetPasspointList
  | .rtt => wifiRttRangeRequest

end HalInfo

def wifiStep (s : HalInfo) : WifiCall → Option HalInfo
  | .start kind id answers => some (HalInfo.startApi kind s id answers).2
  | .stopGscan id => some (s.wifiStopGscan id).2
  | .resetBssidHotlist id => some (s.wifiResetBssidHotlist id).2
  | .resetSignificantChangeHandler id => some (s.wifiResetSignificantChangeHandler id).2
  | .resetPasspointList id => some (s.wifiResetPasspointList id).2
  | .rttRangeCancel id => some (s.wifiRttRangeCancel id).2
  | .event event => some (s.internalValidMessageHandler event)

/-- The property: handlers belong to live commands, and have only been taken out by
their own. -/
structure NoDangling (s : HalInfo) : Prop where
  live : ∀ entry ∈ s.eventCb, s.Live entry.cbArg
  own : ∀ removal ∈ s.removals, removal.1 = removal.2

/-! ## The condition -/

namespace HalInfo

def firstHandler (s : HalInfo) (subcmd : ℤ) : Option CbInfo :=
  s.eventCb.find? (CbInfo.matches googleOui subcmd)

def firstCmd (s : HalInfo) (id : ℤ) : Option CmdInfo := s.cmd.find? fun info => info.id == id

def handlersOf (s : HalInfo) (cmd : ℕ) : List ℤ :=
  (s.eventCb.filter fun entry => entry.cbArg == cmd).map CbInfo.vendorSubcmd

def FirstOwn (s : HalInfo) (cmd : ℕ) (subcmds : List ℤ) : Prop :=
  ∀ subcmd ∈ subcmds, ∀ entry ∈ s.firstHandler subcmd, entry.cbArg = cmd

/-- The command may go with these handlers: they come first, and it has no others. -/
def Releasable (s : HalInfo) (cmd : ℕ) (subcmds : List ℤ) : Prop :=
  s.FirstOwn cmd subcmds ∧ (s.handlersOf cmd).Subperm subcmds

def Unattended (s : HalInfo) (subcmds : List ℤ) : Prop :=
  ∀ subcmd ∈ subcmds, s.firstHandler subcmd = none

instance (s : HalInfo) (cmd : ℕ) (subcmds : List ℤ) : Decidable (s.FirstOwn cmd subcmds) :=
  inferInstanceAs
    (Decidable (∀ subcmd ∈ subcmds, ∀ entry ∈ s.firstHandler subcmd, entry.cbArg = cmd))

instance (s : HalInfo) (cmd : ℕ) (subcmds : List ℤ) : Decidable (s.Releasable cmd subcmds) :=
  inferInstanceAs (Decidable (_ ∧ _))

instance (s : HalInfo) (subcmds : List ℤ) : Decidable (s.Unattended subcmds) :=
  inferInstanceAs (Decidable (∀ subcmd ∈ subcmds, s.firstHandler subcmd = none))

end HalInfo

/-- Only the last request fails. -/
def HalInfo.StartPlan.FailsLate (plan : HalInfo.StartPlan) (answers : ℕ → ℤ) : Prop :=
  (∀ i ∈ List.range plan.early, plan.accepts (answers i) = true) ∧
    plan.accepts (answers plan.early) = false

instance (plan : HalInfo.StartPlan) (answers : ℕ → ℤ) : Decidable (plan.FailsLate answers) :=
  inferInstanceAs (Decidable (_ ∧ _))

def startPlan : CommandKind → Option HalInfo.StartPlan
  | .scan => some HalInfo.scanPlan
  | .bssidHotlist => some HalInfo.bssidHotlistPlan
  | .significantWifiChange => some HalInfo.significantWifiChangePlan
  | .anqpoConfigure => some HalInfo.anqpoConfigurePlan
  | .rtt => none

/-- The event makes the command report its results. -/
def completes (s : HalInfo) (cmd : ℕ) (event : HalInfo.Event) : Bool :=
  (s.heap cmd).kind == .rtt &&
    match event.completed with
    | some flag => flag != 0
    | none => (s.heap cmd).completed

/-- A start that fails at its last request finds no handlers for the events of its
clean-up, the stop of all scans finds none for those of a scan, a command is
cancelled while its handlers are the first ones and no others, and when RTT results
are complete the first command with that request id has no further handlers. -/
def HandlersInOrder (s : HalInfo) : WifiCall → Prop
  | .start kind _ answers =>
      s.cmd.length < s.allocCmd → ∀ plan ∈ startPlan kind, plan.FailsLate answers →
        s.Unattended plan.cleanup
  | .stopGscan id =>
      if id = -1 then s.Unattended (HalInfo.cancelled .scan)
      else ∀ info ∈ s.firstCmd id,
        s.Releasable info.cmd (HalInfo.cancelled (s.heap info.cmd).kind)
  | .resetBssidHotlist id | .resetSignificantChangeHandler id | .resetPasspointList id =>
      ∀ info ∈ s.firstCmd id,
        s.Releasable info.cmd (HalInfo.cancelled (s.heap info.cmd).kind)
  | .rttRangeCancel id =>
      ∀ info ∈ s.firstCmd id, s.Releasable info.cmd [rttEventComplete]
  | .event event =>
      ∀ entry ∈ s.eventCb.find? (HalInfo.handles event),
        completes s entry.cbArg event = true →
          ∀ info ∈ s.firstCmd (s.heap entry.cbArg).id,
            (s.handlersOf info.cmd).Subperm
              (if info.cmd = entry.cbArg then [rttEventComplete] else [])

instance (s : HalInfo) (call : WifiCall) : Decidable (HandlersInOrder s call) := by
  unfold HandlersInOrder
  split <;> infer_instance

/-! ## What the operations leave -/

/-- Only the table of handlers and the history may differ. -/
structure SameCommands (s t : HalInfo) : Prop where
  heap : t.heap = s.heap
  cmd : t.cmd = s.cmd
  next : t.next = s.next

theorem SameCommands.refl (s : HalInfo) : SameCommands s s := ⟨rfl, rfl, rfl⟩

theorem SameCommands.trans {s t u : HalInfo} (hst : SameCommands s t)
    (htu : SameCommands t u) : SameCommands s u :=
  ⟨htu.heap.trans hst.heap, htu.cmd.trans hst.cmd, htu.next.trans hst.next⟩

/-- All handlers are those of vendor events of this vendor. -/
def Keyed (entries : List CbInfo) : Prop :=
  ∀ entry ∈ entries, entry.nlCmd = nl80211CmdVendor ∧ entry.vendorId = googleOui

theorem Keyed.matches_iff {entries : List CbInfo} (hkeyed : Keyed entries) {entry : CbInfo}
    (hentry : entry ∈ entries) (subcmd : ℤ) :
    entry.matches googleOui subcmd = (entry.vendorSubcmd == subcmd) := by
  obtain ⟨hcmd, hvendor⟩ := hkeyed entry hentry
  simp [CbInfo.matches, hcmd, hvendor]

theorem matches_disjoint {subcmd other : ℤ} (hne : subcmd ≠ other) (entry : CbInfo)
    (hmatches : entry.matches googleOui subcmd = true) :
    entry.matches googleOui other = false := by
  simp only [CbInfo.matches, Bool.and_eq_true, beq_iff_eq] at hmatches
  simp [CbInfo.matches, hmatches.2, hne]

theorem map_eraseP_matches {entries : List CbInfo} (hkeyed : Keyed entries) (subcmd : ℤ) :
    (entries.eraseP (CbInfo.matches googleOui subcmd)).map CbInfo.vendorSubcmd =
      (entries.map CbInfo.vendorSubcmd).erase subcmd := by
  induction entries with
  | nil => rfl
  | cons entry entries ih =>
      have hmatches := hkeyed.matches_iff List.mem_cons_self subcmd
      by_cases hsubcmd : entry.vendorSubcmd = subcmd
      · rw [List.eraseP_cons_of_pos (by simp [hmatches, hsubcmd]), List.map_cons, hsubcmd,
          List.erase_cons_head]
      · rw [List.eraseP_cons_of_neg (by simp [hmatches, hsubcmd]), List.map_cons, List.map_cons,
          List.erase_cons_tail (by simpa using hsubcmd),
          ih fun e he => hkeyed e (List.mem_cons_of_mem _ he)]

section Handlers

variable {s : HalInfo} {cmd : ℕ}

theorem registerVendorHandlers_cons (s : HalInfo) (cmd : ℕ) (subcmd : ℤ) (subcmds : List ℤ) :
    s.registerVendorHandlers cmd (subcmd :: subcmds) =
      (s.registerVendorHandler cmd subcmd).registerVendorHandlers cmd subcmds := rfl

theorem unregisterVendorHandlers_cons (s : HalInfo) (cmd : ℕ) (subcmd : ℤ)
    (subcmds : List ℤ) :
    s.unregisterVendorHandlers cmd (subcmd :: subcmds) =
      (s.unregisterVendorHandler cmd subcmd).unregisterVendorHandlers cmd subcmds := rfl

theorem registerVendorHandler_spec (s : HalInfo) (cmd : ℕ) (subcmd : ℤ) :
    SameCommands s (s.registerVendorHandler cmd subcmd) ∧
      (s.registerVendorHandler cmd subcmd).removals = s.removals ∧
      ∃ added, (s.registerVendorHandler cmd subcmd).eventCb = s.eventCb ++ added ∧
        ∀ entry ∈ added, entry = ⟨nl80211CmdVendor, googleOui, subcmd, cmd⟩ := by
  unfold HalInfo.registerVendorHandler HalInfo.wifiRegisterVendorHandler
  split
  · exact ⟨⟨rfl, rfl, rfl⟩, rfl, [⟨nl80211CmdVendor, googleOui, subcmd, cmd⟩], rfl, by simp⟩
  · exact ⟨.refl s, rfl, [], (List.append_nil _).symm, by simp⟩

theorem registerVendorHandlers_spec (s : HalInfo) (cmd : ℕ) (subcmds : List ℤ) :
    SameCommands s (s.registerVendorHandlers cmd subcmds) ∧
      (s.registerVendorHandlers cmd subcmds).removals = s.removals ∧
      ∃ added, (s.registerVendorHandlers cmd subcmds).eventCb = s.eventCb ++ added ∧
        ∀ entry ∈ added, ∃ subcmd ∈ subcmds,
          entry = ⟨nl80211CmdVendor, googleOui, subcmd, cmd⟩ := by
  induction subcmds generalizing s with
  | nil => exact ⟨.refl s, rfl, [], (List.append_nil _).symm, by simp⟩
  | cons subcmd subcmds ih =>
      rw [registerVendorHandlers_cons]
      obtain ⟨hsame, hremovals, first, hfirst, hnew⟩ := registerVendorHandler_spec s cmd subcmd
      obtain ⟨hsame', hremovals', rest, hrest, hentries⟩ :=
        ih (s.registerVendorHandler cmd subcmd)
      refine ⟨hsame.trans hsame', hremovals'.trans hremovals, first ++ rest, ?_, ?_⟩
      · rw [hrest, hfirst, List.append_assoc]
      · intro entry hentry
        rcases List.mem_append.mp hentry with hentry | hentry
        · exact ⟨subcmd, List.mem_cons_self, hnew entry hentry⟩
        · obtain ⟨sub, hsub, rfl⟩ := hentries entry hentry
          exact ⟨sub, List.mem_cons_of_mem _ hsub, rfl⟩

theorem registerVendorHandlers_twice (s : HalInfo) (cmd : ℕ) (first second : List ℤ) :
    ∃ added, ((s.registerVendorHandlers cmd first).registerVendorHandlers cmd second).eventCb =
        s.eventCb ++ added ∧ ∀ entry ∈ added, entry.cbArg = cmd := by
  obtain ⟨-, -, added, hadded, hentries⟩ := registerVendorHandlers_spec s cmd (first ++ second)
  refine ⟨added, ?_, ?_⟩
  · rw [← hadded]
    unfold HalInfo.registerVendorHandlers
    rw [List.foldl_append]
  · intro entry hentry
    obtain ⟨_, -, rfl⟩ := hentries entry hentry
    rfl

theorem unregisterVendorHandlers_frame (s : HalInfo) (cmd : ℕ) (subcmds : List ℤ) :
    SameCommands s (s.unregisterVendorHandlers cmd subcmds) ∧
      (s.unregisterVendorHandlers cmd subcmds).eventCb.Sublist s.eventCb ∧
      s.removals <+: (s.unregisterVendorHandlers cmd subcmds).removals := by
  induction subcmds generalizing s with
  | nil => exact ⟨.refl s, List.Sublist.refl _, List.prefix_refl _⟩
  | cons subcmd subcmds ih =>
      rw [unregisterVendorHandlers_cons]
      obtain ⟨hsame, hentries, hremovals⟩ := ih (s.unregisterVendorHandler cmd subcmd)
      have hfirst : SameCommands s (s.unregisterVendorHandler cmd subcmd) := ⟨rfl, rfl, rfl⟩
      refine ⟨hfirst.trans hsame, ?_, ?_⟩
      · exact hentries.trans List.eraseP_sublist
      · exact (List.prefix_append _ _).trans hremovals

theorem firstHandler_unregister (s : HalInfo) (cmd : ℕ) {subcmd other : ℤ}
    (hne : other ≠ subcmd) :
    (s.unregisterVendorHandler cmd subcmd).firstHandler other = s.firstHandler other :=
  find?_eraseP (matches_disjoint hne)

theorem firstOwn_unregister {subcmd : ℤ} {subcmds : List ℤ} (hnew : subcmd ∉ subcmds) :
    (s.unregisterVendorHandler cmd subcmd).FirstOwn cmd subcmds ↔ s.FirstOwn cmd subcmds := by
  unfold HalInfo.FirstOwn
  refine forall₂_congr fun other hother => ?_
  rw [firstHandler_unregister]
  rintro rfl
  exact hnew hother

theorem unregisterVendorHandler_removals {subcmd : ℤ} {removal : ℕ × ℕ} :
    removal ∈ (s.unregisterVendorHandler cmd subcmd).removals ↔
      removal ∈ s.removals ∨
        ∃ entry ∈ s.firstHandler subcmd, removal = (cmd, entry.cbArg) := by
  unfold HalInfo.unregisterVendorHandler HalInfo.firstHandler
  cases s.eventCb.find? (CbInfo.matches googleOui subcmd) <;> simp

theorem handlersOf_unregister (hkeyed : Keyed s.eventCb) {subcmd : ℤ}
    (hfirst : ∀ entry ∈ s.firstHandler subcmd, entry.cbArg = cmd) :
    (s.unregisterVendorHandler cmd subcmd).handlersOf cmd =
      (s.handlersOf cmd).erase subcmd := by
  unfold HalInfo.handlersOf HalInfo.unregisterVendorHandler HalInfo.wifiUnregisterVendorHandler
  dsimp only
  rw [filter_eraseP_of_find?, map_eraseP_matches]
  · intro entry hentry
    exact hkeyed entry (List.mem_of_mem_filter hentry)
  · intro entry hentry
    rw [hfirst entry hentry, beq_self_eq_true]

/-- A command whose handlers come first takes out its own, once for each event. -/
theorem unregisterVendorHandlers_own (hkeyed : Keyed s.eventCb) {subcmds : List ℤ}
    (hnodup : subcmds.Nodup) (hfirst : s.FirstOwn cmd subcmds) :
    (∀ removal ∈ (s.unregisterVendorHandlers cmd subcmds).removals,
        removal ∈ s.removals ∨ removal.1 = removal.2) ∧
      (s.unregisterVendorHandlers cmd subcmds).handlersOf cmd =
        (s.handlersOf cmd).diff subcmds := by
  induction subcmds generalizing s with
  | nil => exact ⟨fun removal hremoval => .inl hremoval, rfl⟩
  | cons subcmd subcmds ih =>
      rw [List.nodup_cons] at hnodup
      have hhead : ∀ entry ∈ s.firstHandler subcmd, entry.cbArg = cmd :=
        hfirst subcmd List.mem_cons_self
      have htail : (s.unregisterVendorHandler cmd subcmd).FirstOwn cmd subcmds :=
        (firstOwn_unregister hnodup.1).mpr fun sub hsub =>
          hfirst sub (List.mem_cons_of_mem _ hsub)
      obtain ⟨hremovals, hhandlers⟩ :=
        ih (fun entry hentry => hkeyed entry (List.mem_of_mem_eraseP hentry)) hnodup.2 htail
      constructor
      · intro removal hremoval
        rcases hremovals removal hremoval with hold | hown
        · rcases unregisterVendorHandler_removals.mp hold with hold | ⟨entry, hentry, rfl⟩
          · exact .inl hold
          · exact .inr (hhead entry hentry).symm
        · exact .inr hown
      · rw [List.diff_cons, ← handlersOf_unregister hkeyed hhead]
        exact hhandlers

/-- A command whose handlers do not come first takes out another one's. -/
theorem unregisterVendorHandlers_stolen {subcmds : List ℤ} (hnodup : subcmds.Nodup)
    (hfirst : ¬ s.FirstOwn cmd subcmds) :
    ∃ removal ∈ (s.unregisterVendorHandlers cmd subcmds).removals,
      removal.1 ≠ removal.2 := by
  induction subcmds generalizing s with
  | nil => exact absurd (fun subcmd hsubcmd => by cases hsubcmd) hfirst
  | cons subcmd subcmds ih =>
      rw [List.nodup_cons] at hnodup
      by_cases hhead : ∀ entry ∈ s.firstHandler subcmd, entry.cbArg = cmd
      · apply ih hnodup.2
        rw [firstOwn_unregister hnodup.1]
        intro htail
        exact hfirst (List.forall_mem_cons.mpr ⟨hhead, htail⟩)
      · simp only [not_forall] at hhead
        obtain ⟨entry, hentry, hother⟩ := hhead
        refine ⟨(cmd, entry.cbArg), ?_, fun heq => hother heq.symm⟩
        have hgrows :=
          (unregisterVendorHandlers_frame (s.unregisterVendorHandler cmd subcmd) cmd subcmds).2.2
        exact hgrows.subset
          (unregisterVendorHandler_removals.mpr (.inr ⟨entry, hentry, rfl⟩))

theorem handlersOf_eq_nil :
    s.handlersOf cmd = [] ↔ ∀ entry ∈ s.eventCb, entry.cbArg ≠ cmd := by
  simp [HalInfo.handlersOf, List.filter_eq_nil_iff]

end Handlers

theorem diff_eq_nil_iff {subcmds others : List ℤ} :
    subcmds.diff others = [] ↔ subcmds.Subperm others := by
  rw [← Multiset.coe_le, ← tsub_eq_zero_iff_le, Multiset.coe_sub, Multiset.coe_eq_zero]

/-! ## The invariant -/

/-- Every handler belongs to a command with one reference and is one of those its
`cancel` takes out; commands in the table have one reference and occur once. -/
structure HandlersOwned (s : HalInfo) : Prop where
  refs : ∀ cmd, (s.heap cmd).refs = 0 ∨ (s.heap cmd).refs = 1
  fresh : ∀ cmd, s.next ≤ cmd → (s.heap cmd).refs = 0
  keyed : Keyed s.eventCb
  live : ∀ entry ∈ s.eventCb, (s.heap entry.cbArg).refs = 1
  kind : ∀ entry ∈ s.eventCb,
    entry.vendorSubcmd ∈ HalInfo.cancelled (s.heap entry.cbArg).kind
  listed : ∀ info ∈ s.cmd, (s.heap info.cmd).refs = 1
  once : (s.cmd.map CmdInfo.cmd).Nodup
  own : ∀ removal ∈ s.removals, removal.1 = removal.2

theorem HandlersOwned.noDangling {s : HalInfo} (hinv : HandlersOwned s) : NoDangling s where
  live := by
    intro entry hentry
    rw [HalInfo.Live, hinv.live entry hentry]
    decide
  own := hinv.own

theorem handlersOwned_initial : HandlersOwned .initial where
  refs := fun _ => .inl rfl
  fresh := fun _ _ => rfl
  keyed := by simp [Keyed, HalInfo.initial]
  live := by simp [HalInfo.initial]
  kind := by simp [HalInfo.initial]
  listed := by simp [HalInfo.initial]
  once := by simp [HalInfo.initial]
  own := by simp [HalInfo.initial]

section Steps

variable {s t : HalInfo} {cmd : ℕ} {id : ℤ} {subcmds : List ℤ}

/-- Commands without handlers may lose their reference, and handlers may go. -/
theorem HandlersOwned.shrink (hinv : HandlersOwned s) (gone : ℕ → Prop)
    (hkind : ∀ cmd, (t.heap cmd).kind = (s.heap cmd).kind)
    (hkept : ∀ cmd, ¬ gone cmd → (t.heap cmd).refs = (s.heap cmd).refs)
    (hgone : ∀ cmd, gone cmd → (t.heap cmd).refs = 0) (hnext : t.next = s.next)
    (hentries : ∀ entry ∈ t.eventCb, entry ∈ s.eventCb ∧ ¬ gone entry.cbArg)
    (hcmd : t.cmd.Sublist s.cmd) (hlisted : ∀ info ∈ t.cmd, ¬ gone info.cmd)
    (hown : ∀ removal ∈ t.removals, removal.1 = removal.2) : HandlersOwned t where
  refs := by
    intro cmd
    by_cases h : gone cmd
    · exact .inl (hgone cmd h)
    · rw [hkept cmd h]
      exact hinv.refs cmd
  fresh := by
    intro cmd hcmd
    by_cases h : gone cmd
    · exact hgone cmd h
    · rw [hkept cmd h]
      exact hinv.fresh cmd (hnext ▸ hcmd)
  keyed := fun entry hentry => hinv.keyed entry (hentries entry hentry).1
  live := by
    intro entry hentry
    obtain ⟨hold, hstays⟩ := hentries entry hentry
    rw [hkept _ hstays]
    exact hinv.live entry hold
  kind := by
    intro entry hentry
    rw [hkind]
    exact hinv.kind entry (hentries entry hentry).1
  listed := by
    intro info hinfo
    rw [hkept _ (hlisted info hinfo)]
    exact hinv.listed info (hcmd.subset hinfo)
  once := hinv.once.sublist (hcmd.map _)
  own := hown

theorem HandlersOwned.dropped (hinv : HandlersOwned s) {info : CmdInfo}
    (hfirst : s.firstCmd id = some info) :
    info ∈ s.cmd ∧ ∀ other ∈ (s.wifiUnregisterCmd id).2.cmd, other.cmd ≠ info.cmd := by
  have hmem : info ∈ s.cmd := List.mem_of_find?_eq_some hfirst
  refine ⟨hmem, ?_⟩
  obtain ⟨found, before, after, hbefore, hmatch, hsplit, herase⟩ :=
    List.exists_of_eraseP hmem (List.find?_some hfirst)
  have hsame : found = info := by
    have hfind := hfirst
    rw [HalInfo.firstCmd, hsplit, List.find?_append, List.find?_eq_none.mpr hbefore,
      Option.none_or, List.find?_cons, hmatch] at hfind
    exact Option.some.inj hfind
  subst hsame
  intro other hother heq
  have honce := hinv.once
  rw [hsplit, List.map_append, List.map_cons, List.nodup_middle, List.nodup_cons,
    ← List.map_append] at honce
  apply honce.1
  rw [← heq]
  exact List.mem_map_of_mem (herase ▸ hother)

theorem cancelCommand_snd (notFound : ℤ) (cancel : HalInfo → ℕ → HalInfo) :
    (HalInfo.cancelCommand notFound cancel s id).2 =
      match s.firstCmd id with
      | some info => (cancel (s.wifiUnregisterCmd id).2 info.cmd).releaseRef info.cmd
      | none => (s.wifiUnregisterCmd id).2 := by
  unfold HalInfo.cancelCommand HalInfo.firstCmd HalInfo.wifiUnregisterCmd
  cases s.cmd.find? fun info => info.id == id <;> rfl

theorem wifiUnregisterCmd_none (hnone : s.firstCmd id = none) :
    (s.wifiUnregisterCmd id).2 = s := by
  unfold HalInfo.wifiUnregisterCmd
  rw [List.eraseP_of_forall_not (List.find?_eq_none.mp hnone)]

theorem addToRefs_refs (n : ℤ) (other : ℕ) :
    ((s.addToRefs cmd n).heap other).refs =
      if other = cmd then (s.heap cmd).refs + n else (s.heap other).refs := by
  unfold HalInfo.addToRefs
  dsimp only
  rw [Function.update_apply]
  split <;> rfl

theorem addToRefs_kind (n : ℤ) (other : ℕ) :
    ((s.addToRefs cmd n).heap other).kind = (s.heap other).kind := by
  unfold HalInfo.addToRefs
  dsimp only
  rw [Function.update_apply]
  split
  next heq => rw [heq]
  next => rfl

/-- A command is taken out of the table, its handlers are taken out, and its
reference is given back. -/
theorem HandlersOwned.cancelled (hinv : HandlersOwned s) (hnodup : subcmds.Nodup)
    {info : CmdInfo} (hfirst : s.firstCmd id = some info)
    (hready : s.Releasable info.cmd subcmds) :
    HandlersOwned (((s.wifiUnregisterCmd id).2.unregisterVendorHandlers info.cmd
      subcmds).releaseRef info.cmd) := by
  obtain ⟨hmem, hdropped⟩ := hinv.dropped hfirst
  obtain ⟨hsame, hsublist, -⟩ :=
    unregisterVendorHandlers_frame (s.wifiUnregisterCmd id).2 info.cmd subcmds
  obtain ⟨hremovals, hhandlers⟩ :=
    unregisterVendorHandlers_own (s := (s.wifiUnregisterCmd id).2) hinv.keyed hnodup hready.1
  have hnone := handlersOf_eq_nil.mp (hhandlers.trans (diff_eq_nil_iff.mpr hready.2))
  have hheap : ((s.wifiUnregisterCmd id).2.unregisterVendorHandlers info.cmd subcmds).heap =
      s.heap := hsame.heap
  apply hinv.shrink (· = info.cmd)
  · intro cmd
    rw [HalInfo.releaseRef, addToRefs_kind, hheap]
  · intro cmd hkept
    rw [HalInfo.releaseRef, addToRefs_refs, if_neg hkept, hheap]
  · rintro cmd rfl
    rw [HalInfo.releaseRef, addToRefs_refs, if_pos rfl, hheap, hinv.listed info hmem]
    rfl
  · exact hsame.next
  · exact fun entry hentry => ⟨hsublist.subset hentry, hnone entry hentry⟩
  · exact hsame.cmd ▸ List.eraseP_sublist
  · exact fun other hother => hdropped other (hsame.cmd ▸ hother)
  · intro removal hremoval
    rcases hremovals removal hremoval with hold | hown
    · exact hinv.own removal hold
    · exact hown

theorem HandlersOwned.not_cancelled (hinv : HandlersOwned s) (hnodup : subcmds.Nodup)
    {info : CmdInfo} (hfirst : s.firstCmd id = some info)
    (hready : ¬ s.Releasable info.cmd subcmds) :
    ¬ NoDangling (((s.wifiUnregisterCmd id).2.unregisterVendorHandlers info.cmd
      subcmds).releaseRef info.cmd) := by
  intro hgood
  by_cases hown : s.FirstOwn info.cmd subcmds
  · obtain ⟨-, hhandlers⟩ :=
      unregisterVendorHandlers_own (s := (s.wifiUnregisterCmd id).2) hinv.keyed hnodup hown
    apply hready
    refine ⟨hown, diff_eq_nil_iff.mp (hhandlers.symm.trans (handlersOf_eq_nil.mpr ?_))⟩
    intro entry hentry hcmd
    have hlive := hgood.live entry hentry
    obtain ⟨hsame, -, -⟩ :=
      unregisterVendorHandlers_frame (s.wifiUnregisterCmd id).2 info.cmd subcmds
    have hheap : ((s.wifiUnregisterCmd id).2.unregisterVendorHandlers info.cmd subcmds).heap =
        s.heap := hsame.heap
    rw [HalInfo.Live, HalInfo.releaseRef, addToRefs_refs, if_pos hcmd, hheap,
      hinv.listed info (hinv.dropped hfirst).1] at hlive
    exact absurd hlive (by decide)
  · obtain ⟨removal, hremoval, hstolen⟩ :=
      unregisterVendorHandlers_stolen (s := (s.wifiUnregisterCmd id).2) hnodup hown
    exact hstolen (hgood.own removal hremoval)

/-! ### Starting a command -/

theorem HandlersOwned.not_fresh (hinv : HandlersOwned s) {other : ℕ}
    (hrefs : (s.heap other).refs = 1) : other ≠ s.next := by
  rintro rfl
  rw [hinv.fresh _ le_rfl] at hrefs
  cases hrefs

theorem newCommand_heap (kind : CommandKind) (other : ℕ) :
    (s.newCommand kind id).2.heap other =
      if other = s.next then ⟨kind, id, 1, false⟩ else s.heap other :=
  Function.update_apply _ _ _ _

theorem HandlersOwned.newCommand (hinv : HandlersOwned s) (kind : CommandKind) (id : ℤ) :
    HandlersOwned (s.newCommand kind id).2 where
  refs := by
    intro cmd
    rw [newCommand_heap]
    split
    · exact .inr rfl
    · exact hinv.refs cmd
  fresh := by
    intro cmd hcmd
    have hbehind : s.next + 1 ≤ cmd := hcmd
    rw [newCommand_heap, if_neg (by omega)]
    exact hinv.fresh cmd (by omega)
  keyed := hinv.keyed
  live := by
    intro entry hentry
    rw [newCommand_heap, if_neg (hinv.not_fresh (hinv.live entry hentry))]
    exact hinv.live entry hentry
  kind := by
    intro entry hentry
    rw [newCommand_heap, if_neg (hinv.not_fresh (hinv.live entry hentry))]
    exact hinv.kind entry hentry
  listed := by
    intro info hinfo
    rw [newCommand_heap, if_neg (hinv.not_fresh (hinv.listed info hinfo))]
    exact hinv.listed info hinfo
  once := hinv.once
  own := hinv.own

theorem HandlersOwned.wifiRegisterCmd (hinv : HandlersOwned s)
    (hlive : (s.heap cmd).refs = 1) (hnew : ∀ info ∈ s.cmd, info.cmd ≠ cmd) :
    HandlersOwned (s.wifiRegisterCmd id cmd).2 := by
  unfold HalInfo.wifiRegisterCmd
  split
  · refine ⟨hinv.refs, hinv.fresh, hinv.keyed, hinv.live, hinv.kind, ?_, ?_, hinv.own⟩
    · intro info hinfo
      rcases List.mem_append.mp hinfo with hinfo | hinfo
      · exact hinv.listed info hinfo
      · rw [List.mem_singleton.mp hinfo]
        exact hlive
    · dsimp only
      rw [List.map_append, List.nodup_append]
      refine ⟨hinv.once, List.nodup_singleton _, ?_⟩
      intro other hother last hlast
      obtain ⟨info, hinfo, rfl⟩ := List.mem_map.mp hother
      rw [List.mem_singleton.mp hlast]
      exact hnew info hinfo
  · exact hinv

theorem HandlersOwned.register (hinv : HandlersOwned s) (hlive : (s.heap cmd).refs = 1)
    (hkind : subcmds ⊆ HalInfo.cancelled (s.heap cmd).kind) :
    HandlersOwned (s.registerVendorHandlers cmd subcmds) := by
  obtain ⟨hsame, hremovals, added, hadded, hnew⟩ := registerVendorHandlers_spec s cmd subcmds
  constructor
  · rw [hsame.heap]
    exact hinv.refs
  · rw [hsame.heap, hsame.next]
    exact hinv.fresh
  · intro entry hentry
    rw [hadded] at hentry
    rcases List.mem_append.mp hentry with hentry | hentry
    · exact hinv.keyed entry hentry
    · obtain ⟨subcmd, -, rfl⟩ := hnew entry hentry
      exact ⟨rfl, rfl⟩
  · intro entry hentry
    rw [hadded] at hentry
    rw [hsame.heap]
    rcases List.mem_append.mp hentry with hentry | hentry
    · exact hinv.live entry hentry
    · obtain ⟨subcmd, -, rfl⟩ := hnew entry hentry
      exact hlive
  · intro entry hentry
    rw [hadded] at hentry
    rw [hsame.heap]
    rcases List.mem_append.mp hentry with hentry | hentry
    · exact hinv.kind entry hentry
    · obtain ⟨subcmd, hsubcmd, rfl⟩ := hnew entry hentry
      exact hkind hsubcmd
  · rw [hsame.cmd, hsame.heap]
    exact hinv.listed
  · rw [hsame.cmd]
    exact hinv.once
  · rw [hremovals]
    exact hinv.own

theorem HandlersOwned.unregister (hinv : HandlersOwned s) (hnodup : subcmds.Nodup)
    (hown : s.FirstOwn cmd subcmds) :
    HandlersOwned (s.unregisterVendorHandlers cmd subcmds) := by
  obtain ⟨hsame, hsublist, -⟩ := unregisterVendorHandlers_frame s cmd subcmds
  obtain ⟨hremovals, -⟩ := unregisterVendorHandlers_own hinv.keyed hnodup hown
  apply hinv.shrink fun _ => False
  · intro cmd
    rw [hsame.heap]
  · intro cmd _
    rw [hsame.heap]
  · exact fun _ => False.elim
  · exact hsame.next
  · exact fun entry hentry => ⟨hsublist.subset hentry, not_false⟩
  · rw [hsame.cmd]
  · exact fun _ _ => not_false
  · intro removal hremoval
    exact (hremovals removal hremoval).elim (hinv.own removal) id

theorem not_noDangling_of_not_firstOwn (hnodup : subcmds.Nodup)
    (hown : ¬ s.FirstOwn cmd subcmds) :
    ¬ NoDangling (s.unregisterVendorHandlers cmd subcmds) := by
  intro hgood
  obtain ⟨removal, hremoval, hstolen⟩ := unregisterVendorHandlers_stolen hnodup hown
  exact hstolen (hgood.own removal hremoval)

/-- For a new command its handlers come first where there are no others. -/
theorem firstOwn_iff_unattended (added : List CbInfo)
    (hentries : t.eventCb = s.eventCb ++ added) (hadded : ∀ entry ∈ added, entry.cbArg = cmd)
    (hnew : ∀ entry ∈ s.eventCb, entry.cbArg ≠ cmd) :
    t.FirstOwn cmd subcmds ↔ s.Unattended subcmds := by
  refine forall₂_congr fun subcmd _ => ?_
  unfold HalInfo.firstHandler
  rw [hentries, List.find?_append]
  cases hfirst : s.eventCb.find? (CbInfo.matches googleOui subcmd) with
  | none =>
      rw [Option.none_or, iff_true_right rfl]
      intro entry hentry
      exact hadded entry (List.mem_of_find?_eq_some hentry)
  | some first =>
      refine iff_of_false ?_ (by simp)
      intro hall
      exact hnew first (List.mem_of_find?_eq_some hfirst) (hall first rfl)

theorem startWith_snd (plan : HalInfo.StartPlan) (answers : ℕ → ℤ) (self : ℕ) (s : HalInfo) :
    (HalInfo.startWith plan answers self s).2 = s ∧ ¬ plan.FailsLate answers ∨
      (HalInfo.startWith plan answers self s).2 = s.registerVendorHandlers self plan.handlers ∧
        ¬ plan.FailsLate answers ∨
      (HalInfo.startWith plan answers self s).2 =
          ((s.registerVendorHandlers self plan.handlers).registerVendorHandlers self
            plan.again).unregisterVendorHandlers self plan.cleanup ∧
        plan.FailsLate answers := by
  unfold HalInfo.startWith HalInfo.StartPlan.FailsLate
  cases hearly : (List.range plan.early).find? fun i => !plan.accepts (answers i) with
  | some i =>
      refine .inl ⟨rfl, fun hlate => ?_⟩
      have hrefused := List.find?_some hearly
      rw [hlate.1 i (List.mem_of_find?_eq_some hearly)] at hrefused
      cases hrefused
  | none =>
      have haccepted : ∀ i ∈ List.range plan.early, plan.accepts (answers i) = true := by
        simpa using hearly
      cases hlast : plan.accepts (answers plan.early) with
      | true => exact .inr (.inl ⟨rfl, by simp⟩)
      | false => exact .inr (.inr ⟨by simp, haccepted, rfl⟩)

/-- What a plan unregisters are different events, and all of them belong to the
command. -/
theorem startPlan_valid {kind : CommandKind} {plan : HalInfo.StartPlan}
    (hplan : plan ∈ startPlan kind) :
    plan.handlers ⊆ HalInfo.cancelled kind ∧ plan.again ⊆ HalInfo.cancelled kind ∧
      plan.cleanup.Nodup := by
  cases kind with
  | rtt => cases hplan
  | _ =>
      obtain rfl := Option.some.inj hplan
      decide

theorem startWith_handlersOwned {kind : CommandKind} {plan : HalInfo.StartPlan}
    (hplan : plan ∈ startPlan kind) {answers : ℕ → ℤ} (hinv : HandlersOwned s)
    (hlive : (s.heap cmd).refs = 1) (hkind : (s.heap cmd).kind = kind)
    (hnew : ∀ entry ∈ s.eventCb, entry.cbArg ≠ cmd) :
    (plan.FailsLate answers → s.Unattended plan.cleanup) →
      HandlersOwned (HalInfo.startWith plan answers cmd s).2 := by
  intro hguard
  obtain ⟨hhandlers, hagain, hnodup⟩ := startPlan_valid hplan
  rw [← hkind] at hhandlers hagain
  have hregistered := hinv.register hlive hhandlers
  rcases startWith_snd plan answers cmd s with ⟨hs, -⟩ | ⟨hs, -⟩ | ⟨hs, hlate⟩
  · rw [hs]
    exact hinv
  · rw [hs]
    exact hregistered
  · have hsame := (registerVendorHandlers_spec s cmd plan.handlers).1
    obtain ⟨added, hadded, howner⟩ :=
      registerVendorHandlers_twice s cmd plan.handlers plan.again
    rw [hs]
    refine (hregistered.register (hsame.heap ▸ hlive) (hsame.heap ▸ hagain)).unregister hnodup ?_
    exact (firstOwn_iff_unattended added hadded howner hnew).mpr (hguard hlate)

theorem startWith_stolen {kind : CommandKind} {plan : HalInfo.StartPlan}
    (hplan : plan ∈ startPlan kind) {answers : ℕ → ℤ}
    (hnew : ∀ entry ∈ s.eventCb, entry.cbArg ≠ cmd) (hlate : plan.FailsLate answers)
    (hattended : ¬ s.Unattended plan.cleanup) :
    ¬ NoDangling (HalInfo.startWith plan answers cmd s).2 := by
  rcases startWith_snd plan answers cmd s with ⟨-, hnot⟩ | ⟨-, hnot⟩ | ⟨hs, -⟩
  · exact absurd hlate hnot
  · exact absurd hlate hnot
  · obtain ⟨added, hadded, howner⟩ :=
      registerVendorHandlers_twice s cmd plan.handlers plan.again
    rw [hs]
    apply not_noDangling_of_not_firstOwn (startPlan_valid hplan).2.2
    rwa [firstOwn_iff_unattended added hadded howner hnew]

/-- A new command that is in the table, if there was room. -/
theorem HandlersOwned.newRegistered (hinv : HandlersOwned s) (kind : CommandKind) (id : ℤ) :
    HandlersOwned ((s.newCommand kind id).2.wifiRegisterCmd id s.next).2 := by
  apply (hinv.newCommand kind id).wifiRegisterCmd
  · rw [newCommand_heap, if_pos rfl]
  · exact fun info hinfo => hinv.not_fresh (hinv.listed info hinfo)

theorem newRegistered_heap (s : HalInfo) (id : ℤ) (kind : CommandKind) :
    ((s.newCommand kind id).2.wifiRegisterCmd id s.next).2.heap s.next =
      ⟨kind, id, 1, false⟩ := by
  have hheap (t : HalInfo) : (t.wifiRegisterCmd id s.next).2.heap = t.heap := by
    unfold HalInfo.wifiRegisterCmd
    split <;> rfl
  rw [hheap, newCommand_heap, if_pos rfl]

theorem newRegistered_eventCb (kind : CommandKind) :
    ((s.newCommand kind id).2.wifiRegisterCmd id s.next).2.eventCb = s.eventCb := by
  unfold HalInfo.wifiRegisterCmd
  split <;> rfl

theorem startApi_eq {kind : CommandKind} {plan : HalInfo.StartPlan}
    (hplan : plan ∈ startPlan kind) (answers : ℕ → ℤ) :
    HalInfo.startApi kind s id answers =
      if s.cmd.length < s.allocCmd then
        HalInfo.startWith plan answers s.next
          ((s.newCommand kind id).2.wifiRegisterCmd id s.next).2
      else
        (wifiErrorOutOfMemory, ((s.newCommand kind id).2.wifiRegisterCmd id s.next).2) := by
  have hapi : HalInfo.startApi kind s id answers =
      HalInfo.startCommand kind s id answers := by
    cases kind with
    | rtt => cases hplan
    | _ => rfl
  have hstart : HalInfo.start kind = HalInfo.startWith plan := by
    cases kind with
    | rtt => cases hplan
    | _ =>
        obtain rfl := Option.some.inj hplan
        rfl
  rw [hapi]
  unfold HalInfo.startCommand
  dsimp only
  rw [hstart]
  by_cases hroom : s.cmd.length < s.allocCmd
  · have hresult : ((s.newCommand kind id).2.wifiRegisterCmd id s.next).1 = wifiSuccess :=
      congrArg Prod.fst (if_pos hroom)
    rw [if_pos hroom]
    exact if_neg (not_not.mpr hresult)
  · have hresult : (s.newCommand kind id).2.wifiRegisterCmd id s.next =
        (wifiErrorOutOfMemory, (s.newCommand kind id).2) := if_neg hroom
    rw [if_neg hroom]
    have hnext : (s.newCommand kind id).1 = s.next := rfl
    have herror : wifiErrorOutOfMemory ≠ wifiSuccess := by decide
    rw [hnext, hresult]
    exact if_pos herror

theorem HandlersOwned.start (hinv : HandlersOwned s) {kind : CommandKind}
    {answers : ℕ → ℤ} (hguard : HandlersInOrder s (.start kind id answers)) :
    HandlersOwned (HalInfo.startApi kind s id answers).2 := by
  have hnew := hinv.newRegistered kind id
  have hheap := newRegistered_heap s id kind
  have hothers : ∀ entry ∈ ((s.newCommand kind id).2.wifiRegisterCmd id s.next).2.eventCb,
      entry.cbArg ≠ s.next := by
    rw [newRegistered_eventCb]
    exact fun entry hentry => hinv.not_fresh (hinv.live entry hentry)
  cases hplan : startPlan kind with
  | some plan =>
      rw [startApi_eq hplan]
      split
      next hroom =>
          refine startWith_handlersOwned hplan hnew (hheap ▸ rfl) (hheap ▸ rfl) hothers
            fun hlate => ?_
          have hunattended := hguard hroom plan hplan hlate
          unfold HalInfo.Unattended HalInfo.firstHandler at hunattended ⊢
          rwa [newRegistered_eventCb]
      next => exact hnew
  | none =>
      obtain rfl : kind = .rtt := by
        cases kind with
        | rtt => rfl
        | _ => cases hplan
      change HandlersOwned (HalInfo.rttStart answers s.next
        ((s.newCommand .rtt id).2.wifiRegisterCmd id s.next).2).2
      unfold HalInfo.rttStart
      split
      · exact hnew
      · have hregistered : HandlersOwned
            (((s.newCommand .rtt id).2.wifiRegisterCmd id s.next).2.registerVendorHandlers
              s.next [rttEventComplete]) := by
          apply hnew.register
          · rw [hheap]
          · rw [hheap]
            exact List.Subset.refl _
        exact hregistered

theorem HandlersOwned.start_stolen (hinv : HandlersOwned s) {kind : CommandKind}
    {answers : ℕ → ℤ} (hguard : ¬ HandlersInOrder s (.start kind id answers)) :
    ¬ NoDangling (HalInfo.startApi kind s id answers).2 := by
  simp only [HandlersInOrder, Classical.not_imp, not_forall] at hguard
  obtain ⟨hroom, plan, hplan, hlate, hattended⟩ := hguard
  rw [startApi_eq hplan, if_pos hroom]
  apply startWith_stolen hplan _ hlate
  · unfold HalInfo.Unattended HalInfo.firstHandler at hattended ⊢
    rwa [newRegistered_eventCb]
  · rw [newRegistered_eventCb]
    exact fun entry hentry => hinv.not_fresh (hinv.live entry hentry)

/-! ### Stopping whatever scan there is -/

theorem unattended_iff_firstOwn (hnew : ∀ entry ∈ s.eventCb, entry.cbArg ≠ cmd) :
    s.FirstOwn cmd subcmds ↔ s.Unattended subcmds :=
  firstOwn_iff_unattended [] (List.append_nil _).symm
    (fun entry hentry => by cases hentry) hnew

theorem HandlersOwned.stopAll (hinv : HandlersOwned s)
    (hunattended : s.Unattended (HalInfo.cancelled .scan)) :
    HandlersOwned (s.wifiStopGscan (-1)).2 := by
  have hothers : ∀ entry ∈ s.eventCb, entry.cbArg ≠ s.next :=
    fun entry hentry => hinv.not_fresh (hinv.live entry hentry)
  have hnew := hinv.newCommand .scan (-1)
  have hkind : ((s.newCommand .scan (-1)).2.heap s.next).kind = .scan := by
    rw [newCommand_heap, if_pos rfl]
  have hcancelled : HandlersOwned ((s.newCommand .scan (-1)).2.cancel s.next) := by
    unfold HalInfo.cancel
    rw [hkind]
    exact hnew.unregister (by decide) ((unattended_iff_firstOwn hothers).mpr hunattended)
  obtain ⟨hsame, hsublist, -⟩ :=
    unregisterVendorHandlers_frame (s.newCommand .scan (-1)).2 s.next
      (HalInfo.cancelled ((s.newCommand .scan (-1)).2.heap s.next).kind)
  change HandlersOwned (((s.newCommand .scan (-1)).2.cancel s.next).releaseRef s.next)
  apply hcancelled.shrink (· = s.next)
  · intro cmd
    rw [HalInfo.releaseRef, addToRefs_kind]
  · intro cmd hkept
    rw [HalInfo.releaseRef, addToRefs_refs, if_neg hkept]
  · rintro cmd rfl
    rw [HalInfo.releaseRef, addToRefs_refs, if_pos rfl, HalInfo.cancel, hsame.heap,
      newCommand_heap, if_pos rfl]
    rfl
  · rfl
  · exact fun entry hentry => ⟨hentry, hothers entry (hsublist.subset hentry)⟩
  · exact List.Sublist.refl _
  · intro info hinfo
    have hlisted : info ∈ s.cmd := hsame.cmd ▸ hinfo
    exact hinv.not_fresh (hinv.listed info hlisted)
  · exact hcancelled.own

theorem HandlersOwned.stopAll_stolen (hinv : HandlersOwned s)
    (hattended : ¬ s.Unattended (HalInfo.cancelled .scan)) :
    ¬ NoDangling (s.wifiStopGscan (-1)).2 := by
  have hothers : ∀ entry ∈ s.eventCb, entry.cbArg ≠ s.next :=
    fun entry hentry => hinv.not_fresh (hinv.live entry hentry)
  have hkind : ((s.newCommand .scan (-1)).2.heap s.next).kind = .scan := by
    rw [newCommand_heap, if_pos rfl]
  intro hgood
  have hown : ¬ (s.newCommand .scan (-1)).2.FirstOwn s.next (HalInfo.cancelled .scan) :=
    mt (unattended_iff_firstOwn hothers).mp hattended
  obtain ⟨removal, hremoval, hstolen⟩ := unregisterVendorHandlers_stolen (by decide) hown
  apply hstolen
  apply hgood.own removal
  change removal ∈ ((s.newCommand .scan (-1)).2.cancel s.next).removals
  unfold HalInfo.cancel
  rwa [hkind]

/-! ### Events -/

theorem setCompleted_refs (s : HalInfo) (cmd : ℕ) (flag : Option ℕ) (other : ℕ) :
    ((s.setCompleted cmd flag).heap other).refs = (s.heap other).refs ∧
      ((s.setCompleted cmd flag).heap other).kind = (s.heap other).kind ∧
      ((s.setCompleted cmd flag).heap other).id = (s.heap other).id := by
  unfold HalInfo.setCompleted
  split
  · dsimp only
    rw [Function.update_apply]
    split
    next heq => exact ⟨heq ▸ rfl, heq ▸ rfl, heq ▸ rfl⟩
    next => exact ⟨rfl, rfl, rfl⟩
  · exact ⟨rfl, rfl, rfl⟩

/-- The state in which `handleEvent` of an RTT command looks at its flag. -/
def received (s : HalInfo) (cmd : ℕ) (event : HalInfo.Event) : HalInfo :=
  (s.addRef cmd).setCompleted cmd event.completed

theorem received_frame (cmd : ℕ) (event : HalInfo.Event) :
    (received s cmd event).eventCb = s.eventCb ∧ (received s cmd event).cmd = s.cmd ∧
      (received s cmd event).next = s.next ∧
      (received s cmd event).removals = s.removals := by
  unfold received HalInfo.setCompleted
  split <;> exact ⟨rfl, rfl, rfl, rfl⟩

theorem received_heap (cmd : ℕ) (event : HalInfo.Event) (other : ℕ) :
    ((received s cmd event).heap other).kind = (s.heap other).kind ∧
      ((received s cmd event).heap other).refs =
        if other = cmd then (s.heap cmd).refs + 1 else (s.heap other).refs := by
  obtain ⟨hrefs, hkind, -⟩ :=
    setCompleted_refs (s.addRef cmd) cmd event.completed other
  refine ⟨hkind.trans (addToRefs_kind _ _), hrefs.trans (addToRefs_refs _ _)⟩

theorem received_id (cmd : ℕ) (event : HalInfo.Event) :
    ((received s cmd event).heap cmd).id = (s.heap cmd).id := by
  obtain ⟨-, -, hid⟩ := setCompleted_refs (s.addRef cmd) cmd event.completed cmd
  rw [received, hid]
  unfold HalInfo.addRef HalInfo.addToRefs
  dsimp only
  rw [Function.update_self]

theorem received_completed (event : HalInfo.Event) (hkind : (s.heap cmd).kind = .rtt) :
    ((received s cmd event).heap cmd).completed = completes s cmd event := by
  unfold received HalInfo.setCompleted completes
  rw [hkind]
  cases event.completed with
  | some flag => simp
  | none => simp [HalInfo.addRef, HalInfo.addToRefs]

theorem internalValidMessageHandler_eq {event : HalInfo.Event} {entry : CbInfo}
    (hentry : s.eventCb.find? (HalInfo.handles event) = some entry) :
    s.internalValidMessageHandler event =
      if (s.heap entry.cbArg).kind = .rtt then
        if completes s entry.cbArg event = true then
          let t := (received s entry.cbArg event).unregisterVendorHandler entry.cbArg
            rttEventComplete
          match s.firstCmd (s.heap entry.cbArg).id with
          | some info =>
              ((t.wifiUnregisterCmd (s.heap entry.cbArg).id).2.releaseRef info.cmd).releaseRef
                entry.cbArg
          | none => t.releaseRef entry.cbArg
        else (received s entry.cbArg event).releaseRef entry.cbArg
      else (s.addRef entry.cbArg).releaseRef entry.cbArg := by
  have hkind : ((s.addRef entry.cbArg).heap entry.cbArg).kind = (s.heap entry.cbArg).kind :=
    addToRefs_kind _ _
  unfold HalInfo.internalValidMessageHandler
  rw [hentry]
  dsimp only
  unfold HalInfo.handleEvent
  rw [hkind]
  cases hrtt : (s.heap entry.cbArg).kind with
  | rtt =>
      rw [if_pos rfl]
      dsimp only
      change ((s.addRef entry.cbArg).rttHandleEvent entry.cbArg event).releaseRef _ = _
      have hid : (((received s entry.cbArg event).unregisterVendorHandler entry.cbArg
          rttEventComplete).heap entry.cbArg).id = (s.heap entry.cbArg).id :=
        received_id entry.cbArg event
      unfold HalInfo.rttHandleEvent
      dsimp only
      rw [← received, received_completed event hrtt, hid]
      split
      · have hcmd := (received_frame (s := s) entry.cbArg event).2.1
        cases hfirst : s.firstCmd (s.heap entry.cbArg).id with
        | some info =>
            unfold HalInfo.wifiUnregisterCmd HalInfo.unregisterVendorHandler
              HalInfo.wifiUnregisterVendorHandler
            dsimp only
            unfold HalInfo.firstCmd at hfirst
            rw [hcmd, hfirst]
            rfl
        | none =>
            unfold HalInfo.firstCmd at hfirst
            have hsame := List.eraseP_of_forall_not (List.find?_eq_none.mp hfirst)
            unfold HalInfo.wifiUnregisterCmd HalInfo.unregisterVendorHandler
              HalInfo.wifiUnregisterVendorHandler
            dsimp only
            rw [hcmd, hfirst, hsame]
            rfl
      · rfl
  | _ => rfl

theorem handles_vendor (subcmd : ℤ) (completed : Option ℕ) :
    HalInfo.handles ⟨nl80211CmdVendor, googleOui, subcmd, completed⟩ =
      CbInfo.matches googleOui subcmd := by
  funext entry
  simp only [HalInfo.handles, CbInfo.matches, beq_self_eq_true, Bool.true_and, Bool.not_or, bne,
    Bool.not_not, BEq.comm (a := entry.nlCmd), BEq.comm (a := entry.vendorId),
    BEq.comm (a := entry.vendorSubcmd), Bool.and_assoc]

theorem handles_eq_matches (hinv : HandlersOwned s) {event : HalInfo.Event}
    {entry : CbInfo} (hentry : s.eventCb.find? (HalInfo.handles event) = some entry)
    (hkind : (s.heap entry.cbArg).kind = .rtt) :
    HalInfo.handles event = CbInfo.matches googleOui rttEventComplete := by
  have hmem := List.mem_of_find?_eq_some hentry
  have hhandles := List.find?_some hentry
  obtain ⟨hcmd, hvendor⟩ := hinv.keyed entry hmem
  have hsubcmd := hinv.kind entry hmem
  rw [hkind] at hsubcmd
  replace hsubcmd := List.mem_singleton.mp hsubcmd
  simp only [HalInfo.handles, hcmd, hvendor, hsubcmd, Bool.and_eq_true, beq_iff_eq,
    Bool.not_eq_true', Bool.and_eq_false_imp, Bool.or_eq_false_iff, bne_eq_false_iff_eq] at hhandles
  obtain ⟨hevent, hkey⟩ := hhandles
  obtain ⟨hid, hsub⟩ := hkey hevent
  rw [← handles_vendor rttEventComplete event.completed, ← hevent, ← hid, ← hsub]

/-- One reference more during the call, one given back behind it, and one of a
command that has reported its results. -/
theorem release_refs {a other : ℕ} (hadded : ∀ other, (t.heap other).refs =
      if other = a then (s.heap a).refs + 1 else (s.heap other).refs) :
    ((t.releaseRef a).heap other).refs = (s.heap other).refs := by
  rw [HalInfo.releaseRef, addToRefs_refs, hadded a, if_pos rfl, hadded]
  split
  next heq => rw [heq]; ring
  next => rfl

theorem release_both_refs {a b : ℕ} (other : ℕ) (hadded : ∀ other, (t.heap other).refs =
      if other = a then (s.heap a).refs + 1 else (s.heap other).refs) :
    (((t.releaseRef b).releaseRef a).heap other).refs =
      if other = b then (s.heap b).refs - 1 else (s.heap other).refs := by
  have hfirst (cmd : ℕ) : ((t.releaseRef b).heap cmd).refs =
      if cmd = b then (t.heap b).refs - 1 else (t.heap cmd).refs := by
    rw [HalInfo.releaseRef, addToRefs_refs]
    rfl
  rw [HalInfo.releaseRef, addToRefs_refs, hfirst, hfirst, hadded a, hadded b, hadded other]
  by_cases hother : other = a
  · subst hother
    by_cases hb : other = b
    · subst hb
      rw [if_pos rfl, if_pos rfl, if_pos rfl, if_pos rfl]
      ring
    · rw [if_pos rfl, if_neg hb, if_pos rfl, if_neg hb]
      ring
  · rw [if_neg hother, if_neg hother]
    by_cases hb : other = b
    · subst hb
      rw [if_pos rfl, if_neg hother, if_pos rfl]
    · rw [if_neg hb, if_neg hb]

theorem HandlersOwned.same (hinv : HandlersOwned s)
    (hkind : ∀ cmd, (t.heap cmd).kind = (s.heap cmd).kind)
    (hrefs : ∀ cmd, (t.heap cmd).refs = (s.heap cmd).refs) (hnext : t.next = s.next)
    (hentries : t.eventCb.Sublist s.eventCb) (hcmd : t.cmd = s.cmd)
    (hown : ∀ removal ∈ t.removals, removal.1 = removal.2) : HandlersOwned t := by
  apply hinv.shrink (fun _ => False) hkind
  · exact fun cmd _ => hrefs cmd
  · exact fun _ => False.elim
  · exact hnext
  · exact fun entry hentry => ⟨hentries.subset hentry, not_false⟩
  · rw [hcmd]
  · exact fun _ _ => not_false
  · exact hown

section Completion

variable {event : HalInfo.Event} {entry : CbInfo}

theorem HandlersOwned.completion (hinv : HandlersOwned s)
    (hentry : s.eventCb.find? (HalInfo.handles event) = some entry)
    (hkind : (s.heap entry.cbArg).kind = .rtt) :
    (∀ removal ∈ ((received s entry.cbArg event).unregisterVendorHandler entry.cbArg
        rttEventComplete).removals, removal.1 = removal.2) ∧
      ∀ cmd, ((received s entry.cbArg event).unregisterVendorHandler entry.cbArg
          rttEventComplete).handlersOf cmd =
        (s.handlersOf cmd).diff (if cmd = entry.cbArg then [rttEventComplete] else []) := by
  obtain ⟨heventCb, -, -, hremovals⟩ := received_frame (s := s) entry.cbArg event
  have hfirst : (received s entry.cbArg event).firstHandler rttEventComplete = some entry := by
    unfold HalInfo.firstHandler
    rw [heventCb, ← handles_eq_matches hinv hentry hkind, hentry]
  have hhandlers (cmd : ℕ) :
      (received s entry.cbArg event).handlersOf cmd = s.handlersOf cmd := by
    unfold HalInfo.handlersOf
    rw [heventCb]
  constructor
  · intro removal hremoval
    rcases unregisterVendorHandler_removals.mp hremoval with hold | ⟨found, hfound, rfl⟩
    · exact hinv.own removal (hremovals ▸ hold)
    · rw [hfirst] at hfound
      rw [Option.some.inj hfound]
  · intro cmd
    split
    next hsame =>
      rw [hsame, List.diff_cons, List.diff_nil, handlersOf_unregister, hhandlers]
      · rw [heventCb]
        exact hinv.keyed
      · intro found hfound
        rw [hfirst] at hfound
        rw [Option.some.inj hfound]
    next hother =>
      rw [List.diff_nil, ← hhandlers]
      unfold HalInfo.handlersOf HalInfo.unregisterVendorHandler
        HalInfo.wifiUnregisterVendorHandler
      dsimp only
      rw [filter_eraseP_of_find?_not]
      intro found hfound
      unfold HalInfo.firstHandler at hfirst
      rw [hfirst] at hfound
      obtain rfl := Option.some.inj hfound
      simpa using Ne.symm hother

/-- Then it takes the first command with its id out of the table. -/
theorem HandlersOwned.taken_out (hinv : HandlersOwned s) {info : CmdInfo}
    (hentry : s.eventCb.find? (HalInfo.handles event) = some entry)
    (hkind : (s.heap entry.cbArg).kind = .rtt)
    (hfirst : s.firstCmd (s.heap entry.cbArg).id = some info)
    (hready : (s.handlersOf info.cmd).Subperm
      (if info.cmd = entry.cbArg then [rttEventComplete] else [])) :
    HandlersOwned ((((((received s entry.cbArg event).unregisterVendorHandler entry.cbArg
      rttEventComplete).wifiUnregisterCmd (s.heap entry.cbArg).id).2).releaseRef
        info.cmd).releaseRef entry.cbArg) := by
  obtain ⟨heventCb, hcmd, hnext, -⟩ := received_frame (s := s) entry.cbArg event
  have hheap := received_heap (s := s) entry.cbArg event
  obtain ⟨hown, hhandlers⟩ := hinv.completion hentry hkind
  obtain ⟨hmem, hdropped⟩ := hinv.dropped hfirst
  have hrefs (other : ℕ) := release_both_refs (s := s) (a := entry.cbArg) (b := info.cmd) other
    (t := (((received s entry.cbArg event).unregisterVendorHandler entry.cbArg
      rttEventComplete).wifiUnregisterCmd (s.heap entry.cbArg).id).2)
    fun other => (hheap other).2
  apply hinv.shrink (· = info.cmd)
  · intro cmd
    rw [HalInfo.releaseRef, addToRefs_kind, HalInfo.releaseRef, addToRefs_kind]
    exact (hheap cmd).1
  · intro cmd hkept
    rw [hrefs, if_neg hkept]
  · rintro cmd rfl
    rw [hrefs, if_pos rfl, hinv.listed info hmem]
    rfl
  · exact hnext
  · intro other hother
    constructor
    · exact heventCb ▸ List.mem_of_mem_eraseP hother
    · have hnone := (hhandlers info.cmd).trans (diff_eq_nil_iff.mpr hready)
      exact handlersOf_eq_nil.mp hnone other hother
  · exact hcmd ▸ List.eraseP_sublist
  · intro other hother
    apply hdropped other
    unfold HalInfo.wifiUnregisterCmd
    rw [← hcmd]
    exact hother
  · exact hown

theorem HandlersOwned.dispatched (hinv : HandlersOwned s)
    (hguard : HandlersInOrder s (.event event)) :
    HandlersOwned (s.internalValidMessageHandler event) := by
  cases hentry : s.eventCb.find? (HalInfo.handles event) with
  | none =>
      unfold HalInfo.internalValidMessageHandler
      rw [hentry]
      exact hinv
  | some entry =>
      obtain ⟨heventCb, hcmd, hnext, hremovals⟩ := received_frame (s := s) entry.cbArg event
      have hheap := received_heap (s := s) entry.cbArg event
      rw [internalValidMessageHandler_eq hentry]
      split
      next hkind =>
        split
        next hcompletes =>
          cases hfirst : s.firstCmd (s.heap entry.cbArg).id with
          | none =>
              dsimp only
              refine hinv.same ?_ ?_ hnext ?_ hcmd (hinv.completion hentry hkind).1
              · intro cmd
                rw [HalInfo.releaseRef, addToRefs_kind]
                exact (hheap cmd).1
              · exact fun cmd => release_refs fun other => (hheap other).2
              · exact heventCb ▸ List.eraseP_sublist
          | some info =>
              exact hinv.taken_out hentry hkind hfirst
                (hguard entry hentry hcompletes info hfirst)
        next =>
          refine hinv.same ?_ ?_ hnext ?_ hcmd ?_
          · intro cmd
            rw [HalInfo.releaseRef, addToRefs_kind]
            exact (hheap cmd).1
          · exact fun cmd => release_refs fun other => (hheap other).2
          · exact heventCb ▸ List.Sublist.refl _
          · exact hremovals ▸ hinv.own
      next =>
        refine hinv.same ?_ ?_ rfl (List.Sublist.refl _) rfl hinv.own
        · intro cmd
          rw [HalInfo.releaseRef, addToRefs_kind, HalInfo.addRef, addToRefs_kind]
        · exact fun cmd => release_refs fun other => addToRefs_refs _ _

theorem HandlersOwned.dispatched_dangling (hinv : HandlersOwned s)
    (hguard : ¬ HandlersInOrder s (.event event)) :
    ¬ NoDangling (s.internalValidMessageHandler event) := by
  simp only [HandlersInOrder, Classical.not_imp, not_forall] at hguard
  obtain ⟨entry, hentry, hcompletes, info, hfirst, hhandlers⟩ := hguard
  have hkind : (s.heap entry.cbArg).kind = .rtt := by
    unfold completes at hcompletes
    simp only [Bool.and_eq_true, beq_iff_eq] at hcompletes
    exact hcompletes.1
  obtain ⟨-, hleft⟩ := hinv.completion hentry hkind
  rw [internalValidMessageHandler_eq hentry, if_pos hkind, if_pos hcompletes, hfirst]
  dsimp only
  intro hgood
  have hremain : ((received s entry.cbArg event).unregisterVendorHandler entry.cbArg
      rttEventComplete).handlersOf info.cmd ≠ [] := by
    rw [hleft]
    exact mt diff_eq_nil_iff.mp hhandlers
  rw [ne_eq, handlersOf_eq_nil] at hremain
  simp only [not_forall, not_not] at hremain
  obtain ⟨other, hother, howner⟩ := hremain
  have hlive := hgood.live other hother
  have hrefs := release_both_refs (s := s) (a := entry.cbArg) (b := info.cmd)
    other.cbArg
    (t := (((received s entry.cbArg event).unregisterVendorHandler entry.cbArg
      rttEventComplete).wifiUnregisterCmd (s.heap entry.cbArg).id).2)
    fun other => (received_heap (s := s) entry.cbArg event other).2
  rw [HalInfo.Live, hrefs, if_pos howner, hinv.listed info (hinv.dropped hfirst).1] at hlive
  exact absurd hlive (by decide)

end Completion

/-! ### Any step -/

theorem resets_snd (cancel : HalInfo → ℕ → HalInfo) (notFound : ℤ) {info : CmdInfo}
    (hfirst : s.firstCmd id = some info) :
    (HalInfo.cancelCommand notFound cancel s id).2 =
      (cancel (s.wifiUnregisterCmd id).2 info.cmd).releaseRef info.cmd := by
  rw [cancelCommand_snd, hfirst]

theorem cancelled_nodup (kind : CommandKind) : (HalInfo.cancelled kind).Nodup := by
  cases kind <;> decide

/-- `cancel` of the command that is found keeps the invariant exactly if it may go. -/
theorem HandlersOwned.cancelCommand (hinv : HandlersOwned s) (notFound : ℤ)
    (hguard : ∀ info ∈ s.firstCmd id,
      s.Releasable info.cmd (HalInfo.cancelled (s.heap info.cmd).kind)) :
    HandlersOwned (HalInfo.cancelCommand notFound HalInfo.cancel s id).2 := by
  rw [cancelCommand_snd]
  cases hfirst : s.firstCmd id with
  | some info => exact hinv.cancelled (cancelled_nodup _) hfirst (hguard info hfirst)
  | none =>
      dsimp only
      rw [wifiUnregisterCmd_none hfirst]
      exact hinv

theorem HandlersOwned.cancelCommand_dangling (hinv : HandlersOwned s) (notFound : ℤ)
    (hguard : ¬ ∀ info ∈ s.firstCmd id,
      s.Releasable info.cmd (HalInfo.cancelled (s.heap info.cmd).kind)) :
    ¬ NoDangling (HalInfo.cancelCommand notFound HalInfo.cancel s id).2 := by
  simp only [not_forall] at hguard
  obtain ⟨info, hfirst, hready⟩ := hguard
  rw [cancelCommand_snd, hfirst]
  exact hinv.not_cancelled (cancelled_nodup _) hfirst hready

theorem HandlersOwned.step {call : WifiCall} (hinv : HandlersOwned s)
    (hguard : HandlersInOrder s call) (hstep : wifiStep s call = some t) :
    HandlersOwned t := by
  cases call with
  | start kind id answers =>
      obtain rfl := Option.some.inj hstep
      exact hinv.start hguard
  | stopGscan id =>
      obtain rfl := Option.some.inj hstep
      by_cases hall : id = -1
      · subst hall
        exact hinv.stopAll hguard
      · rw [HandlersInOrder, if_neg hall] at hguard
        unfold HalInfo.wifiStopGscan
        rw [if_neg hall]
        exact hinv.cancelCommand _ hguard
  | resetBssidHotlist id | resetSignificantChangeHandler id | resetPasspointList id =>
      obtain rfl := Option.some.inj hstep
      exact hinv.cancelCommand _ hguard
  | rttRangeCancel id =>
      obtain rfl := Option.some.inj hstep
      unfold HalInfo.wifiRttRangeCancel
      cases hfirst : s.firstCmd id with
      | some info =>
          rw [resets_snd _ _ hfirst]
          exact hinv.cancelled (List.nodup_singleton _) hfirst (hguard info hfirst)
      | none =>
          rw [cancelCommand_snd, hfirst, wifiUnregisterCmd_none hfirst]
          exact hinv
  | event event =>
      obtain rfl := Option.some.inj hstep
      exact hinv.dispatched hguard

theorem HandlersOwned.step_dangling {call : WifiCall} (hinv : HandlersOwned s)
    (hguard : ¬ HandlersInOrder s call) (hstep : wifiStep s call = some t) :
    ¬ NoDangling t := by
  cases call with
  | start kind id answers =>
      obtain rfl := Option.some.inj hstep
      exact hinv.start_stolen hguard
  | stopGscan id =>
      obtain rfl := Option.some.inj hstep
      by_cases hall : id = -1
      · subst hall
        exact hinv.stopAll_stolen hguard
      · rw [HandlersInOrder, if_neg hall] at hguard
        unfold HalInfo.wifiStopGscan
        rw [if_neg hall]
        exact hinv.cancelCommand_dangling _ hguard
  | resetBssidHotlist id | resetSignificantChangeHandler id | resetPasspointList id =>
      obtain rfl := Option.some.inj hstep
      exact hinv.cancelCommand_dangling _ hguard
  | rttRangeCancel id =>
      obtain rfl := Option.some.inj hstep
      simp only [HandlersInOrder, not_forall] at hguard
      obtain ⟨info, hfirst, hready⟩ := hguard
      unfold HalInfo.wifiRttRangeCancel
      rw [resets_snd _ _ hfirst]
      exact hinv.not_cancelled (List.nodup_singleton _) hfirst hready
  | event event =>
      obtain rfl := Option.some.inj hstep
      exact hinv.dispatched_dangling hguard

end Steps

/-- No handler dangles and none is taken out by another command, at any time of a run,
exactly if every call and event of the run finds the tables in order. -/
theorem no_dangling_handlers_iff {calls : List WifiCall} {t : HalInfo}
    (hrun : run wifiStep .initial calls = some t) :
    (∀ before, before <+: calls → ∀ s, run wifiStep .initial before = some s →
        NoDangling s) ↔
      runGuarded wifiStep HandlersInOrder .initial calls := by
  have hreachable (s : HalInfo) (hreach : Reachable wifiStep HandlersInOrder .initial s) :
      HandlersOwned s :=
    hreach.invariant HandlersOwned handlersOwned_initial HandlersOwned.step
  apply holds_along_iff _ _ hrun
  · exact fun s hreach => (hreachable s hreach).noDangling
  · exact fun {s next label} hreach hguard hstep =>
      (hreachable s hreach).step_dangling hguard hstep

/-- A scan and an RTT request, one of which is cancelled. -/
def scanAndRtt : List WifiCall :=
  [.start .scan 1 (fun _ => 0), .start .rtt 2 (fun _ => 0), .stopGscan 1]

theorem scanAndRtt_no_dangling :
    ∃ t, run wifiStep .initial scanAndRtt = some t ∧ NoDangling t := by
  have hrun : run wifiStep .initial scanAndRtt = some _ := rfl
  exact ⟨_, hrun,
    (no_dangling_handlers_iff hrun).mpr (by decide) _ (List.prefix_refl _) _ hrun⟩

/-- Two scans, of which the second is stopped first: its handlers stay behind. -/
theorem second_scan_dangles :
    ¬ ∀ calls t, run wifiStep .initial calls = some t → NoDangling t := by
  intro hall
  have hgood := hall
    [.start .scan 1 (fun _ => 0), .start .scan 2 (fun _ => 0), .stopGscan 2] _ rfl
  have hlive := hgood.live
    ⟨nl80211CmdVendor, googleOui, gscanEventCompleteScan, 1⟩ (by decide)
  revert hlive
  unfold HalInfo.Live
  decide

end Wifi
end MediatekHardware
