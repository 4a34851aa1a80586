import MediatekHardware.Muxd.ChannelTable
import Mathlib.Tactic

/-!
# Allocating a channel

`c_alloc_channel` looks at the channels of `ch_cfg` first, by DLCI, and then at all
channels, by index.  The second loop finds a free channel and establishes the one the
first loop looked at last, which is open.
-/

namespace MediatekHardware
namespace Muxd
namespace MuxState

/-- The channels of `ch_cfg` that `c_alloc_channel` may establish. -/
def Configured (c : ℕ) : Prop := ∃ entry ∈ chCfg.drop 1, entry.1 = c

def InTable (c : ℕ) : Prop := 1 ≤ c ∧ c < gsm0710MaxChannels

def IsFree (s : MuxState) (c : ℕ) : Prop := (s.channels c).fd < 0

instance (s : MuxState) (c : ℕ) : Decidable (s.IsFree c) := inferInstanceAs (Decidable (_ < _))

/-- `c` was free, it is what gets established, and no other channel changes. -/
structure Establishes (s : MuxState) (result : SetupResult) (c : ℕ) (t : MuxState) : Prop where
  inTable : InTable c
  free : s.IsFree c
  configured : (∃ d, Configured d ∧ s.IsFree d) → Configured c
  establish : t = s.logicalChannelEstablish c result
  others : ∀ d, d ≠ c → t.channels d = s.channels d

/-- An error exactly if no channel is free; else one free channel is established. -/
def AllocatesFree (s : MuxState) (result : SetupResult) : Prop :=
  (s.cAllocChannel result = none ↔ ∀ c, InTable c → ¬ s.IsFree c) ∧
    ∀ t, s.cAllocChannel result = some t → ∃ c, s.Establishes result c t

theorem Configured.inTable {c : ℕ} (hc : Configured c) : InTable c := by
  have hall : ∀ entry ∈ chCfg.drop 1, 1 ≤ entry.1 ∧ entry.1 < gsm0710MaxChannels := by decide
  rcases hc with ⟨entry, hentry, rfl⟩
  exact hall entry hentry

theorem configured_last : Configured 27 := ⟨(27, 512), by decide, rfl⟩

theorem channels_logicalChannelEstablish_of_ne (s : MuxState) (result : SetupResult) {c d : ℕ}
    (hne : d ≠ c) : (s.logicalChannelEstablish c result).channels d = s.channels d := by
  cases result with
  | ok fd => exact Function.update_of_ne hne _ _
  | openFailed => exact Function.update_of_ne hne _ _
  | failed fd => exact Function.update_of_ne hne _ _

theorem logicalChannelEstablish_ne {s : MuxState} {result : SetupResult} {c d : ℕ} (hne : c ≠ d)
    (hc : s.IsFree c) (hd : ¬ s.IsFree d) :
    s.logicalChannelEstablish c result ≠ s.logicalChannelEstablish d result := by
  intro heq
  have hat (e : ℕ) := congrArg (fun t => (t.channels e).fd) heq
  unfold IsFree at hc hd
  cases result with
  | ok fd =>
      have hsent := congrArg sent heq
      have hlast := (List.append_inj' hsent rfl).2
      simp only [List.cons.injEq, Prod.mk.injEq, and_true] at hlast
      exact hne hlast
  | openFailed =>
      have hfd := hat d
      simp only [channels_logicalChannelEstablish_of_ne s _ hne.symm] at hfd
      simp only [logicalChannelEstablish, modify, Function.update_self, setupPtyInterface] at hfd
      omega
  | failed fd =>
      have hfd := hat c
      simp only [channels_logicalChannelEstablish_of_ne s _ hne] at hfd
      simp only [logicalChannelEstablish, modify, Function.update_self, setupPtyInterface] at hfd
      omega

section Target

variable {s : MuxState}

theorem allocTarget_of_configured (hmuxing : s.state = .muxing)
    (hfree : ∃ c, Configured c ∧ s.IsFree c) :
    ∃ c, s.allocTarget = some c ∧ Configured c ∧ s.IsFree c := by
  rcases hfree with ⟨c, ⟨entry, hentry, rfl⟩, hc⟩
  unfold allocTarget
  rw [if_pos hmuxing]
  cases hfind : (chCfg.drop 1).find? fun entry => decide ((s.channels entry.1).fd < 0) with
  | none =>
      have hnot := List.find?_eq_none.mp hfind entry hentry
      exact absurd (decide_eq_true hc) hnot
  | some first =>
      have hfirst : (s.channels first.1).fd < 0 := by simpa using List.find?_some hfind
      exact ⟨first.1, rfl, ⟨first, List.mem_of_find?_eq_some hfind, rfl⟩, hfirst⟩

/-- With all of `ch_cfg` open, a free channel leads to the last of `ch_cfg`. -/
theorem allocTarget_of_not_configured (hmuxing : s.state = .muxing)
    (hopen : ∀ c, Configured c → ¬ s.IsFree c) [Decidable (∃ c, InTable c ∧ s.IsFree c)] :
    s.allocTarget = if ∃ c, InTable c ∧ s.IsFree c then some 27 else none := by
  have hfind : ((chCfg.drop 1).find? fun entry => decide ((s.channels entry.1).fd < 0)) =
      none := by
    apply List.find?_eq_none.mpr
    intro entry hentry hfd
    exact hopen entry.1 ⟨entry, hentry, rfl⟩ (of_decide_eq_true hfd)
  have hany : ((List.range' 1 (gsm0710MaxChannels - 1)).any fun i =>
      decide ((s.channels i).fd < 0)) = true ↔ ∃ c, InTable c ∧ s.IsFree c := by
    rw [List.any_eq_true]
    apply exists_congr
    intro c
    rw [List.mem_range'_1, decide_eq_true_eq]
    have htable : 1 + (gsm0710MaxChannels - 1) = gsm0710MaxChannels := rfl
    rw [htable]
    rfl
  unfold allocTarget
  rw [if_pos hmuxing, hfind]
  dsimp only
  split_ifs with hsome hfree hfree
  · rfl
  · exact absurd (hany.mp hsome) hfree
  · exact absurd (hany.mpr hfree) hsome
  · rfl

theorem cAllocChannel_eq_none_iff (hmuxing : s.state = .muxing) (result : SetupResult) :
    s.cAllocChannel result = none ↔ ∀ c, InTable c → ¬ s.IsFree c := by
  classical
  unfold cAllocChannel
  rw [Option.map_eq_none_iff]
  by_cases hconfigured : ∃ c, Configured c ∧ s.IsFree c
  · rcases allocTarget_of_configured hmuxing hconfigured with ⟨c, htarget, hc, hfree⟩
    rw [htarget]
    refine iff_of_false (fun h => by cases h) ?_
    exact fun hall => hall c hc.inTable hfree
  · rw [allocTarget_of_not_configured hmuxing fun c hc hfree => hconfigured ⟨c, hc, hfree⟩]
    split_ifs with hfree
    · rcases hfree with ⟨c, hc, hfree⟩
      refine iff_of_false (fun h => by cases h) ?_
      exact fun hall => hall c hc hfree
    · exact iff_of_true rfl fun c hc hfree' => hfree ⟨c, hc, hfree'⟩

end Target

/-- Allocation keeps to free channels exactly if a channel of `ch_cfg` is free or no
channel is. -/
theorem allocates_free_iff {s : MuxState} (hmuxing : s.state = .muxing) (result : SetupResult) :
    s.AllocatesFree result ↔
      (∃ c, Configured c ∧ s.IsFree c) ∨ ∀ c, InTable c → ¬ s.IsFree c := by
  classical
  have hnone := cAllocChannel_eq_none_iff hmuxing result
  constructor
  · rintro ⟨_, hsome⟩
    by_contra hneither
    push Not at hneither
    rcases hneither with ⟨hopen, hfree⟩
    have htarget := allocTarget_of_not_configured hmuxing hopen
    rw [if_pos hfree] at htarget
    have halloc : s.cAllocChannel result = some (s.logicalChannelEstablish 27 result) := by
      rw [cAllocChannel, htarget, Option.map_some]
    rcases hsome _ halloc with ⟨c, hc⟩
    have hlast := hopen 27 configured_last
    have hne : c ≠ 27 := by
      rintro rfl
      exact hlast hc.free
    exact logicalChannelEstablish_ne hne hc.free hlast hc.establish.symm
  · intro hcondition
    refine ⟨hnone, ?_⟩
    intro t ht
    rcases hcondition with hconfigured | hall
    · rcases allocTarget_of_configured hmuxing hconfigured with ⟨c, htarget, hc, hfree⟩
      rw [cAllocChannel, htarget, Option.map_some, Option.some.injEq] at ht
      subst ht
      refine ⟨c, hc.inTable, hfree, fun _ => hc, rfl, ?_⟩
      intro d hd
      exact channels_logicalChannelEstablish_of_ne s result hd
    · rw [hnone.mpr hall] at ht
      cases ht

/-! ## All configured channels open -/

/-- The channels of `ch_cfg` with an open pty, the others free. -/
def allConfiguredOpen : MuxState :=
  { openSerialDevice ⟨false, 31⟩ with
    channels := fun c =>
      { zeroChannel with
        id := c
        fd := if chCfg.any fun entry => entry.1 == c then 5 else -1
        opened := chCfg.any fun entry => entry.1 == c } }

/-- Channels 1, 2, 4 and 5 have a pty. -/
def partlyOpen : MuxState :=
  { openSerialDevice ⟨false, 31⟩ with
    channels := fun c =>
      { zeroChannel with
        id := c
        fd := if c ∈ [1, 2, 4, 5] then 6 else -1
        opened := c ∈ [1, 2, 4] } }

theorem allocates_free_partly_open :
    partlyOpen.AllocatesFree (.ok 7) ∧ partlyOpen.allocTarget = some 3 :=
  ⟨(allocates_free_iff rfl (.ok 7)).mpr (.inl ⟨3, ⟨(3, 512), by decide, rfl⟩, by decide⟩),
    by decide⟩

/-- Channel 27 gets a second pty. -/
theorem alloc_disturbs_open_channel : ¬ allConfiguredOpen.AllocatesFree (.ok 7) := by
  rintro ⟨_, hsome⟩
  have halloc : (allConfiguredOpen.cAllocChannel (.ok 7)).map (fun t => (t.channels 27).fd) =
      some 7 := by decide
  rcases Option.map_eq_some_iff.mp halloc with ⟨t, ht, hfd⟩
  rcases hsome t ht with ⟨c, hc⟩
  have hopen : (allConfiguredOpen.channels 27).fd = 5 := by decide
  by_cases heq : 27 = c
  · have hfree := hc.free
    rw [IsFree, ← heq, hopen] at hfree
    omega
  · rw [hc.others 27 heq, hopen] at hfd
    omega

end MuxState
end Muxd
end MediatekHardware
