import MediatekHardware.Lib.ArrayTable
import MediatekHardware.Lib.Transition
import MediatekHardware.Wifi.CommandTables

/-!
# The tables of handlers and commands in memory

`event_cb` and `cmd` of `hal_info` are arrays that are allocated once.  Four functions
remove an entry and move those behind it.  For a handler as many entries are moved
as there are; both functions for a command move one entry more, which lies outside
of the array when the table is full.
-/

namespace MediatekHardware
namespace Wifi

open ArrayTable Transition

/-! ## The functions -/

/-- `cb_info`; functions and arguments are addresses. -/
structure CallbackInfo where
  nlCmd : ℤ
  vendorId : ℕ
  vendorSubcmd : ℤ
  cbFunc : ℕ
  cbArg : ℕ
  deriving DecidableEq

structure HalTables where
  eventCb : Table CallbackInfo
  cmd : Table CmdInfo

inductive TableCall where
  | registerHandler (cmd : ℤ) (func arg : ℕ)
  | registerVendorHandler (id : ℕ) (subcmd : ℤ) (func arg : ℕ)
  | unregisterHandler (cmd : ℤ)
  | unregisterVendorHandler (id : ℕ) (subcmd : ℤ)
  | registerCmd (id : ℤ) (cmd : ℕ)
  | unregisterCmd (id : ℤ)
  | unregisterCmdAddress (cmd : ℕ)
  | getCmd (id : ℤ)
  deriving DecidableEq

/-- What is returned: an error code, an address, or nothing. -/
inductive CallResult where
  | error (code : ℤ)
  | command (address : ℕ)
  | done
  deriving DecidableEq

/-- The null address is 0. -/
def CallResult.ofEntry (entry : Option CmdInfo) : CallResult :=
  .command ((entry.map CmdInfo.cmd).getD 0)

def isHandler (cmd : ℤ) (entry : CallbackInfo) : Bool := entry.nlCmd == cmd

def isVendorHandler (id : ℕ) (subcmd : ℤ) (entry : CallbackInfo) : Bool :=
  entry.nlCmd == nl80211CmdVendor && entry.vendorId == id && entry.vendorSubcmd == subcmd

def hasId (id : ℤ) (entry : CmdInfo) : Bool := entry.id == id

def hasAddress (cmd : ℕ) (entry : CmdInfo) : Bool := entry.cmd == cmd

/-- The count of the `memmove` for a handler. -/
def handlersMoved (num i : ℕ) : ℕ := num - i - 1

/-- The count of the `memmove` for a command. -/
def commandsMoved (num i : ℕ) : ℕ := num - i

def registerEntry {α : Type} (entry : α) (t : Table α) : CallResult × Table α :=
  match t.push entry with
  | some t => (.error wifiSuccess, t)
  | none => (.error wifiErrorOutOfMemory, t)

namespace HalTables

/-- After `wifi_initialize`, which leaves in the arrays what was there. -/
def initialized (eventCb : List CallbackInfo) (cmd : List CmdInfo) : HalTables where
  eventCb := ⟨eventCb, 0, Nat.zero_le _⟩
  cmd := ⟨cmd, 0, Nat.zero_le _⟩

def registerEvent (s : HalTables) (entry : CallbackInfo) : Option (CallResult × HalTables) :=
  let (result, eventCb) := registerEntry entry s.eventCb
  some (result, { s with eventCb := eventCb })

def unregisterEvent (s : HalTables) (p : CallbackInfo → Bool) :
    Option (CallResult × HalTables) :=
  (s.eventCb.remove p handlersMoved).map fun r => (.done, { s with eventCb := r.2 })

def wifiRegisterHandler (s : HalTables) (cmd : ℤ) (func arg : ℕ) :
    Option (CallResult × HalTables) :=
  s.registerEvent ⟨cmd, 0, 0, func, arg⟩

def wifiRegisterVendorHandler (s : HalTables) (id : ℕ) (subcmd : ℤ) (func arg : ℕ) :
    Option (CallResult × HalTables) :=
  s.registerEvent ⟨nl80211CmdVendor, id, subcmd, func, arg⟩

def wifiUnregisterHandler (s : HalTables) (cmd : ℤ) : Option (CallResult × HalTables) :=
  if cmd = nl80211CmdVendor then some (.done, s) else s.unregisterEvent (isHandler cmd)

def wifiUnregisterVendorHandler (s : HalTables) (id : ℕ) (subcmd : ℤ) :
    Option (CallResult × HalTables) :=
  s.unregisterEvent (isVendorHandler id subcmd)

def wifiRegisterCmd (s : HalTables) (id : ℤ) (cmd : ℕ) : Option (CallResult × HalTables) :=
  let (result, table) := registerEntry ⟨id, cmd⟩ s.cmd
  some (result, { s with cmd := table })

def wifiUnregisterCmd (s : HalTables) (id : ℤ) : Option (CallResult × HalTables) :=
  (s.cmd.remove (hasId id) commandsMoved).map fun r => (.ofEntry r.1, { s with cmd := r.2 })

/-- The overload for an address returns nothing. -/
def wifiUnregisterCmdAddress (s : HalTables) (cmd : ℕ) : Option (CallResult × HalTables) :=
  (s.cmd.remove (hasAddress cmd) commandsMoved).map fun r => (.done, { s with cmd := r.2 })

def wifiGetCmd (s : HalTables) (id : ℤ) : Option (CallResult × HalTables) :=
  (s.cmd.lookup (hasId id)).map fun entry => (.ofEntry entry, s)

def call (s : HalTables) : TableCall → Option (CallResult × HalTables)
  | .registerHandler cmd func arg => s.wifiRegisterHandler cmd func arg
  | .registerVendorHandler id subcmd func arg => s.wifiRegisterVendorHandler id subcmd func arg
  | .unregisterHandler cmd => s.wifiUnregisterHandler cmd
  | .unregisterVendorHandler id subcmd => s.wifiUnregisterVendorHandler id subcmd
  | .registerCmd id cmd => s.wifiRegisterCmd id cmd
  | .unregisterCmd id => s.wifiUnregisterCmd id
  | .unregisterCmdAddress cmd => s.wifiUnregisterCmdAddress cmd
  | .getCmd id => s.wifiGetCmd id

end HalTables

/-! ## Ordered lists -/

/-- What the tables are for: two lists of bounded length. -/
structure HalLists where
  eventCb : List CallbackInfo
  allocEventCb : ℕ
  cmd : List CmdInfo
  allocCmd : ℕ
  deriving DecidableEq

/-- An entry goes to the end of a list, if there is room. -/
def appended {α : Type} (alloc : ℕ) (entry : α) (entries : List α) : CallResult × List α :=
  if entries.length < alloc then (.error wifiSuccess, entries ++ [entry])
  else (.error wifiErrorOutOfMemory, entries)

namespace HalLists

def addEvent (v : HalLists) (entry : CallbackInfo) : CallResult × HalLists :=
  let (result, eventCb) := appended v.allocEventCb entry v.eventCb
  (result, { v with eventCb := eventCb })

def addCmd (v : HalLists) (entry : CmdInfo) : CallResult × HalLists :=
  let (result, entries) := appended v.allocCmd entry v.cmd
  (result, { v with cmd := entries })

def eraseEvent (v : HalLists) (p : CallbackInfo → Bool) : HalLists :=
  { v with eventCb := v.eventCb.eraseP p }

def eraseCmd (v : HalLists) (p : CmdInfo → Bool) : HalLists := { v with cmd := v.cmd.eraseP p }

def call (v : HalLists) : TableCall → CallResult × HalLists
  | .registerHandler cmd func arg => v.addEvent ⟨cmd, 0, 0, func, arg⟩
  | .registerVendorHandler id subcmd func arg =>
      v.addEvent ⟨nl80211CmdVendor, id, subcmd, func, arg⟩
  | .unregisterHandler cmd =>
      (.done, if cmd = nl80211CmdVendor then v else v.eraseEvent (isHandler cmd))
  | .unregisterVendorHandler id subcmd => (.done, v.eraseEvent (isVendorHandler id subcmd))
  | .registerCmd id cmd => v.addCmd ⟨id, cmd⟩
  | .unregisterCmd id => (.ofEntry (v.cmd.find? (hasId id)), v.eraseCmd (hasId id))
  | .unregisterCmdAddress cmd => (.done, v.eraseCmd (hasAddress cmd))
  | .getCmd id => (.ofEntry (v.cmd.find? (hasId id)), v)

/-- A command is not taken out of a full table. -/
def RoomToMove (v : HalLists) : TableCall → Prop
  | .unregisterCmd id => v.cmd.length = v.allocCmd → ∀ entry ∈ v.cmd, entry.id ≠ id
  | .unregisterCmdAddress cmd => v.cmd.length = v.allocCmd → ∀ entry ∈ v.cmd, entry.cmd ≠ cmd
  | _ => True

end HalLists

def HalTables.view (s : HalTables) : HalLists where
  eventCb := s.eventCb.view
  allocEventCb := s.eventCb.cells.length
  cmd := s.cmd.view
  allocCmd := s.cmd.cells.length

/-! ## One call -/

theorem registerEntry_eq {α : Type} (entry : α) (t : Table α) :
    (registerEntry entry t).1 = (appended t.cells.length entry t.view).1 ∧
      (registerEntry entry t).2.view = (appended t.cells.length entry t.view).2 ∧
      (registerEntry entry t).2.cells.length = t.cells.length := by
  have hle := t.num_le
  have hfull : t.push entry = none ↔ t.num = t.cells.length := t.push_eq_none_iff
  unfold registerEntry appended
  rw [t.length_view]
  cases hpush : t.push entry with
  | none =>
      have hnum : t.num = t.cells.length := hfull.mp hpush
      rw [if_neg (by omega)]
      exact ⟨rfl, rfl, rfl⟩
  | some t' =>
      have hroom : t.num < t.cells.length := by
        have hnot : ¬ t.num = t.cells.length := fun heq => by
          rw [hfull.mpr heq] at hpush
          cases hpush
        omega
      rw [if_pos hroom]
      exact ⟨rfl, Table.view_push hpush⟩

namespace HalTables

variable (s : HalTables)

theorem registerEvent_eq (entry : CallbackInfo) :
    ∃ r, s.registerEvent entry = some r ∧ (r.1, r.2.view) = s.view.addEvent entry := by
  obtain ⟨hresult, hview, hlength⟩ := registerEntry_eq entry s.eventCb
  refine ⟨((registerEntry entry s.eventCb).1,
    { s with eventCb := (registerEntry entry s.eventCb).2 }), rfl, ?_⟩
  simp only [view, HalLists.addEvent, hresult, hview, hlength]

theorem wifiRegisterCmd_eq (id : ℤ) (cmd : ℕ) :
    ∃ r, s.wifiRegisterCmd id cmd = some r ∧ (r.1, r.2.view) = s.view.addCmd ⟨id, cmd⟩ := by
  obtain ⟨hresult, hview, hlength⟩ := registerEntry_eq (⟨id, cmd⟩ : CmdInfo) s.cmd
  refine ⟨((registerEntry (⟨id, cmd⟩ : CmdInfo) s.cmd).1,
    { s with cmd := (registerEntry (⟨id, cmd⟩ : CmdInfo) s.cmd).2 }), rfl, ?_⟩
  simp only [view, HalLists.addCmd, hresult, hview, hlength]

/-- The handlers behind a removed one lie inside of the array. -/
theorem unregisterEvent_eq (p : CallbackInfo → Bool) :
    ∃ r, s.unregisterEvent p = some r ∧ (r.1, r.2.view) = (.done, s.view.eraseEvent p) := by
  have hinside : (s.eventCb.remove p handlersMoved).isSome := by
    rw [Table.remove_isSome_iff]
    intro i hfound
    have hi := s.eventCb.lt_num_of_findIdx? p hfound
    have hle := s.eventCb.num_le
    unfold handlersMoved
    omega
  obtain ⟨⟨found, eventCb⟩, hremove⟩ := Option.isSome_iff_exists.mp hinside
  have hcount : ∀ i < s.eventCb.num, s.eventCb.num ≤ i + 1 + handlersMoved s.eventCb.num i := by
    intro i hi
    unfold handlersMoved
    omega
  obtain ⟨-, hview, hlength⟩ := Table.view_remove p hcount hremove
  refine ⟨(.done, { s with eventCb := eventCb }), ?_, ?_⟩
  · rw [unregisterEvent, hremove]
    rfl
  · simp only [view, HalLists.eraseEvent, hview, hlength]

/-- One command more than there are is moved. -/
theorem remove_cmd_isSome_iff (p : CmdInfo → Bool) :
    (s.cmd.remove p commandsMoved).isSome ↔
      (s.view.cmd.length = s.view.allocCmd → ∀ entry ∈ s.view.cmd, p entry = false) := by
  have hle := s.cmd.num_le
  have hnum : s.view.cmd.length = s.cmd.num := s.cmd.length_view
  have halloc : s.view.allocCmd = s.cmd.cells.length := rfl
  rw [Table.remove_isSome_iff, hnum, halloc, ← List.findIdx?_eq_none_iff]
  constructor
  · intro hinside hfull
    cases hfound : s.cmd.view.findIdx? p with
    | none => exact hfound
    | some i =>
        have hi := s.cmd.lt_num_of_findIdx? p hfound
        have hmoved := hinside i hfound
        unfold commandsMoved at hmoved
        omega
  · intro hnone i hfound
    have hi := s.cmd.lt_num_of_findIdx? p hfound
    have hroom : s.cmd.num ≠ s.cmd.cells.length := by
      intro hfull
      have hempty : s.cmd.view.findIdx? p = none := hnone hfull
      rw [hempty] at hfound
      cases hfound
    unfold commandsMoved
    omega

theorem remove_cmd_eq {p : CmdInfo → Bool} {found : Option CmdInfo} {cmd : Table CmdInfo}
    (hremove : s.cmd.remove p commandsMoved = some (found, cmd)) :
    found = s.view.cmd.find? p ∧ ({ s with cmd := cmd } : HalTables).view = s.view.eraseCmd p := by
  have hcount : ∀ i < s.cmd.num, s.cmd.num ≤ i + 1 + commandsMoved s.cmd.num i := by
    intro i hi
    unfold commandsMoved
    omega
  obtain ⟨hfound, hview, hlength⟩ := Table.view_remove p hcount hremove
  refine ⟨hfound, ?_⟩
  simp only [view, HalLists.eraseCmd, hview, hlength]

theorem call_isSome_iff (c : TableCall) : (s.call c).isSome ↔ s.view.RoomToMove c := by
  cases c with
  | registerHandler cmd func arg => exact iff_of_true rfl trivial
  | registerVendorHandler id subcmd func arg => exact iff_of_true rfl trivial
  | unregisterHandler cmd =>
      obtain ⟨r, hr, -⟩ := s.unregisterEvent_eq (isHandler cmd)
      refine iff_of_true ?_ trivial
      unfold call wifiUnregisterHandler
      dsimp only
      split_ifs
      · rfl
      · rw [hr]
        rfl
  | unregisterVendorHandler id subcmd =>
      obtain ⟨r, hr, -⟩ := s.unregisterEvent_eq (isVendorHandler id subcmd)
      refine iff_of_true ?_ trivial
      rw [call, wifiUnregisterVendorHandler, hr]
      rfl
  | registerCmd id cmd => exact iff_of_true rfl trivial
  | unregisterCmd id =>
      rw [call, wifiUnregisterCmd, Option.isSome_map, remove_cmd_isSome_iff, HalLists.RoomToMove]
      simp only [hasId, beq_eq_false_iff_ne]
  | unregisterCmdAddress cmd =>
      rw [call, wifiUnregisterCmdAddress, Option.isSome_map, remove_cmd_isSome_iff,
        HalLists.RoomToMove]
      simp only [hasAddress, beq_eq_false_iff_ne]
  | getCmd id =>
      refine iff_of_true ?_ trivial
      rw [call, wifiGetCmd, Table.lookup_eq]
      rfl

/-- A call that stays inside of the arrays is the call on the lists. -/
theorem call_eq {s : HalTables} {c : TableCall} {r : CallResult × HalTables}
    (hcall : s.call c = some r) : (r.1, r.2.view) = s.view.call c := by
  have hsame : ∀ {r' : CallResult × HalTables} {v : CallResult × HalLists},
      s.call c = some r' → (r'.1, r'.2.view) = v → (r.1, r.2.view) = v := by
    intro r' v hr' hv
    rw [hcall] at hr'
    rw [Option.some.inj hr']
    exact hv
  cases c with
  | registerHandler cmd func arg =>
      obtain ⟨r', hr', hview⟩ := s.registerEvent_eq ⟨cmd, 0, 0, func, arg⟩
      exact hsame hr' hview
  | registerVendorHandler id subcmd func arg =>
      obtain ⟨r', hr', hview⟩ := s.registerEvent_eq ⟨nl80211CmdVendor, id, subcmd, func, arg⟩
      exact hsame hr' hview
  | unregisterHandler cmd =>
      obtain ⟨r', hr', hview⟩ := s.unregisterEvent_eq (isHandler cmd)
      by_cases hvendor : cmd = nl80211CmdVendor
      · rw [call, wifiUnregisterHandler, if_pos hvendor] at hcall
        rw [← Option.some.inj hcall, HalLists.call, if_pos hvendor]
      · rw [call, wifiUnregisterHandler, if_neg hvendor, hr'] at hcall
        rw [← Option.some.inj hcall, HalLists.call, if_neg hvendor, hview]
  | unregisterVendorHandler id subcmd =>
      obtain ⟨r', hr', hview⟩ := s.unregisterEvent_eq (isVendorHandler id subcmd)
      exact hsame hr' hview
  | registerCmd id cmd =>
      obtain ⟨r', hr', hview⟩ := s.wifiRegisterCmd_eq id cmd
      exact hsame hr' hview
  | unregisterCmd id =>
      rw [call, wifiUnregisterCmd, Option.map_eq_some_iff] at hcall
      obtain ⟨⟨found, cmd⟩, hremove, rfl⟩ := hcall
      obtain ⟨hfound, hview⟩ := s.remove_cmd_eq hremove
      rw [HalLists.call, hview, hfound]
  | unregisterCmdAddress cmd =>
      rw [call, wifiUnregisterCmdAddress, Option.map_eq_some_iff] at hcall
      obtain ⟨⟨found, table⟩, hremove, rfl⟩ := hcall
      obtain ⟨-, hview⟩ := s.remove_cmd_eq hremove
      rw [HalLists.call, hview]
  | getCmd id =>
      rw [call, wifiGetCmd, Table.lookup_eq, Option.map_some] at hcall
      rw [← Option.some.inj hcall]
      rfl

end HalTables

/-! ## Sequences of calls -/

/-- A call on the tables behind the results of the calls before it. -/
def tableStep (s : List CallResult × HalTables) (c : TableCall) :
    Option (List CallResult × HalTables) :=
  (s.2.call c).map fun r => (s.1 ++ [r.1], r.2)

def listStep (v : List CallResult × HalLists) (c : TableCall) : List CallResult × HalLists :=
  (v.1 ++ [(v.2.call c).1], (v.2.call c).2)

/-- The calls stay inside of the arrays, give the results of the calls on lists, and
leave as many entries as there is room for at the most. -/
def BehaveAsLists (s : HalTables) (calls : List TableCall) : Prop :=
  ∃ results t, run tableStep ([], s) calls = some (results, t) ∧
    (results, t.view) = calls.foldl listStep ([], s.view) ∧
    t.view.eventCb.length ≤ t.view.allocEventCb ∧ t.view.cmd.length ≤ t.view.allocCmd

theorem tracks_lists :
    Tracks tableStep (fun s => (s.1, s.2.view)) (fun v => v.2.RoomToMove) listStep
      fun _ => True where
  isSome_iff s c _ := by
    rw [tableStep, Option.isSome_map]
    exact s.2.call_isSome_iff c
  view_eq s c t hstep := by
    rw [tableStep, Option.map_eq_some_iff] at hstep
    obtain ⟨r, hcall, rfl⟩ := hstep
    have heq := HalTables.call_eq hcall
    rw [listStep, ← heq]

/-- The tables are lists exactly as long as no command is taken out of a full table. -/
theorem tables_behave_as_lists_iff (s : HalTables) (calls : List TableCall) :
    BehaveAsLists s calls ↔
      Admits (fun v => v.2.RoomToMove) listStep ([], s.view) calls := by
  have hsome : (run tableStep ([], s) calls).isSome ↔
      Admits (fun v => v.2.RoomToMove) listStep ([], s.view) calls :=
    tracks_lists.isSome_run_iff fun _ _ => trivial
  rw [← hsome]
  constructor
  · rintro ⟨results, t, hrun, -⟩
    rw [hrun]
    rfl
  · intro hruns
    obtain ⟨⟨results, t⟩, hrun⟩ := Option.isSome_iff_exists.mp hruns
    refine ⟨results, t, hrun, ?_, ?_, ?_⟩
    · exact view_run tracks_lists.view_eq hrun
    · exact t.eventCb.length_view.trans_le t.eventCb.num_le
    · exact t.cmd.length_view.trans_le t.cmd.num_le

def zeroedTables : HalTables :=
  .initialized (List.replicate defaultEventCbSize ⟨0, 0, 0, 0, 0⟩)
    (List.replicate defaultCmdSize ⟨0, 0⟩)

/-- With 64 commands registered the removal of the first one reads a 65th entry. -/
theorem full_table_read_outside :
    ¬ BehaveAsLists zeroedTables
      ((List.range 64).map (fun i => .registerCmd i (i + 1)) ++ [.unregisterCmd 0]) := by
  rintro ⟨results, t, hrun, -⟩
  have hnone : run tableStep ([], zeroedTables)
      ((List.range 64).map (fun i => .registerCmd i (i + 1)) ++ [.unregisterCmd 0]) = none := by
    rw [← Option.not_isSome_iff_eq_none]
    decide +kernel
  rw [hnone] at hrun
  cases hrun

end Wifi
end MediatekHardware
