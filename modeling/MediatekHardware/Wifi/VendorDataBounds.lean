import MediatekHardware.Wifi.VendorData

/-!
# Vendor data within bounds

What a handler reads and writes depends on its attributes and on a few counts that the
attributes before them have left.  Along these counts we say which messages a handler
gets through without leaving the payloads and the arrays of its caller.
-/

namespace MediatekHardware
namespace Wifi

open Netlink Transition

/-- The value of a 32-bit attribute as an `int`. -/
def attrInt (a : Attr) : ℤ := toInt (littleEndian (a.data.take 4))

theorem attrInt_of_readUInt {a : Attr} {n : ℕ} (hread : readUInt 4 a.data = some n) :
    attrInt a = toInt n := by
  rw [attrInt, ← eq_of_readUInt hread]

theorem isSome_bind_some {α β : Type} (x : Option α) (f : α → β) :
    (x.bind fun a => some (f a)).isSome = x.isSome := by
  cases x <;> rfl

theorem isSome_getU32_iff {attr : Option (List UInt8)} :
    (getU32 attr).isSome ↔ ∀ payload, attr = some payload → 4 ≤ payload.length := by
  cases attr with
  | none => simp [getU32]
  | some payload => simp [getU32, isSome_readUInt_iff]

/-! ## Replies -/

/-- The identifiers that are present have four bytes, and the vendor data fits. -/
@[mk_iff] structure ReplyFits (reply : VendorMessage) (absentFits : Prop)
    (fits : List UInt8 → Prop) : Prop where
  vendorId : ∀ payload, reply.vendorId = some payload → 4 ≤ payload.length
  vendorSubcmd : ∀ payload, reply.vendorSubcmd = some payload → 4 ≤ payload.length
  absent : reply.vendorData = none → absentFits
  present : ∀ payload, reply.vendorData = some payload → fits payload

section Replies

variable {S V : Type} {handle : S → VendorMessage → Option (NlAction × S)} {view : S → V}
  {absent : S → Option (NlAction × S)} {body : S → List UInt8 → Option (NlAction × S)}
  {absentFits : Prop} {fits : V → List UInt8 → Prop} {advance : V → List UInt8 → V}

/-- Where a reply leads to when its vendor data leads to `advance`. -/
def replyAdvance (advance : V → List UInt8 → V) (v : V) (reply : VendorMessage) : V :=
  if reply.cmd = nl80211CmdVendor then advance v (reply.vendorData.getD []) else v

theorem isSome_handleVendorData_iff {s : S} {absent : Option (NlAction × S)}
    {body : List UInt8 → Option (NlAction × S)} {fits : List UInt8 → Prop}
    (habsent : absent.isSome ↔ absentFits)
    (hbody : ∀ payload, (body payload).isSome ↔ fits payload) (hfits : fits [])
    (reply : VendorMessage) :
    (handleVendorData s reply absent body).isSome ↔
      (reply.cmd = nl80211CmdVendor → ReplyFits reply absentFits fits) := by
  obtain ⟨cmd, vendorId, vendorSubcmd, vendorData⟩ := reply
  rw [replyFits_iff, ← isSome_getU32_iff, ← isSome_getU32_iff]
  by_cases hcmd : cmd = nl80211CmdVendor
  · subst hcmd
    simp only [handleVendorData, ne_eq, not_true_eq_false, if_false, Option.bind_eq_bind,
      forall_const]
    cases getU32 vendorId with
    | none => simp
    | some id =>
        cases getU32 vendorSubcmd with
        | none => simp
        | some subcmd =>
            cases vendorData with
            | none => simp [habsent]
            | some payload =>
                cases payload with
                | nil => simp [hfits]
                | cons byte rest => simp [hbody]
  · simp [handleVendorData, hcmd]

theorem tracks_handleVendorData
    (hhandle : ∀ s reply, handle s reply = handleVendorData s reply (absent s) (body s))
    (habsent : ∀ s, (absent s).isSome ↔ absentFits)
    (hbody : ∀ s payload, (body s payload).isSome ↔ fits (view s) payload)
    (hfits : ∀ v, fits v [])
    (habsentView : ∀ s action t, absent s = some (action, t) → view t = advance (view s) [])
    (hbodyView : ∀ s payload action t, body s payload = some (action, t) →
      view t = advance (view s) payload)
    (hadvance : ∀ v, advance v [] = v) :
    Tracks (fun s reply => (handle s reply).map Prod.snd) view
      (fun v reply => reply.cmd = nl80211CmdVendor → ReplyFits reply absentFits (fits v))
      (replyAdvance advance) (fun _ => True) where
  isSome_iff := by
    intro s reply _
    rw [Option.isSome_map, hhandle]
    exact isSome_handleVendorData_iff (habsent s) (hbody s) (hfits (view s)) reply
  view_eq := by
    rintro s ⟨cmd, vendorId, vendorSubcmd, vendorData⟩ t ht
    obtain ⟨⟨action, u⟩, hstep, rfl⟩ := Option.map_eq_some_iff.mp ht
    rw [hhandle] at hstep
    by_cases hcmd : cmd = nl80211CmdVendor
    · subst hcmd
      simp only [handleVendorData, ne_eq, not_true_eq_false, if_false] at hstep
      obtain ⟨id, -, hstep⟩ := Option.bind_eq_some_iff.mp hstep
      obtain ⟨subcmd, -, hstep⟩ := Option.bind_eq_some_iff.mp hstep
      simp only [replyAdvance, if_true]
      cases vendorData with
      | none => exact habsentView s action u hstep
      | some payload =>
          by_cases hempty : payload.length = 0
          · simp only [if_pos hempty] at hstep
            cases hstep
            rw [List.eq_nil_of_length_eq_zero hempty, Option.getD_some, hadvance]
          · simp only [if_neg hempty] at hstep
            exact hbodyView s payload action u hstep
    · simp only [handleVendorData, hcmd, ne_eq, not_false_eq_true, if_true] at hstep
      cases hstep
      simp [replyAdvance, hcmd]

theorem isSome_run_replies_iff {fits : List UInt8 → Prop}
    (hhandle : ∀ s reply, handle s reply =
      handleVendorData s reply (some (.skip, s)) (body s))
    (hbody : ∀ s payload, (body s payload).isSome ↔ fits payload) (hfits : fits [])
    (s : S) (replies : List VendorMessage) :
    (run (fun s reply => (handle s reply).map Prod.snd) s replies).isSome ↔
      ∀ reply ∈ replies, reply.cmd = nl80211CmdVendor → ReplyFits reply True fits := by
  apply isSome_run_iff_forall
  intro s reply
  rw [Option.isSome_map, hhandle]
  apply isSome_handleVendorData_iff _ (hbody s) hfits
  exact ⟨fun _ => trivial, fun _ => rfl⟩

end Replies

/-! ## Channel lists -/

namespace ChannelList

variable {layout : Layout} {maxChannels : ℕ}

/-- The loop handles an attribute within bounds when `num` is the count before it. -/
@[mk_iff] structure AttrFits (layout : Layout) (maxChannels : ℕ) (num : ℤ) (a : Attr) :
    Prop where
  count : a.type = gscanAttributeNumChannels → 4 ≤ a.len
  list : a.type = gscanAttributeChannelList → num ≠ 0 →
    layout.channelBytes num ≤ 4 * maxChannels ∧ layout.channelBytes num ≤ a.len

/-- The count after an attribute. -/
def announce (maxChannels : ℕ) (num : ℤ) (a : Attr) : ℤ :=
  if a.type = gscanAttributeNumChannels then min (attrInt a) maxChannels else num

def PayloadFits (layout : Layout) (maxChannels : ℕ) (payload : List UInt8) : Prop :=
  Admits (AttrFits layout maxChannels) (announce maxChannels) 0 (attributes payload)

theorem tracks_visit :
    Tracks (@visit maxChannels layout) Prod.fst (AttrFits layout maxChannels)
      (announce maxChannels) Attr.Whole where
  isSome_iff := by
    intro s a hwhole
    rw [attrFits_iff]
    unfold visit
    split_ifs with hcount hlist
    · simp [hcount, isSome_bind_some, isSome_readUInt_iff, hwhole.symm, gscanAttributeNumChannels,
        gscanAttributeChannelList]
    · simp [hlist, isSome_bind_some, isSome_memcpy_iff, hwhole.symm, gscanAttributeNumChannels,
        gscanAttributeChannelList]
    · simp only [Option.isSome_some, true_iff]
      exact ⟨fun h => absurd h hcount, fun h hnum => absurd ⟨h, hnum⟩ hlist⟩
  view_eq := by
    intro s a t hstep
    unfold visit at hstep
    unfold announce
    split_ifs at hstep ⊢ with hcount hlist
    · obtain ⟨n, hread, hdone⟩ := Option.bind_eq_some_iff.mp hstep
      rw [attrInt_of_readUInt hread, ← Option.some.inj hdone]
    · obtain ⟨channels, -, hdone⟩ := Option.bind_eq_some_iff.mp hstep
      cases hdone
      rfl
    · cases hstep
      rfl

theorem isSome_run_iff (s : ChannelList maxChannels) (replies : List VendorMessage) :
    (run (fun s reply => (handleResponse layout s reply).map Prod.snd) s replies).isSome ↔
      ∀ reply ∈ replies, reply.cmd = nl80211CmdVendor →
        ReplyFits reply True (PayloadFits layout maxChannels) := by
  apply isSome_run_replies_iff (fun _ _ => rfl)
  · intro s payload
    rw [PayloadFits, ← tracks_visit.isSome_run_iff (s := (0, s)) whole_of_mem_attributes]
    cases run (visit layout) (0, s) (attributes payload) <;> rfl
  · rw [PayloadFits, attributes_nil]
    trivial

end ChannelList

/-! ## Feature sets -/

namespace FeatureSet

variable {layout : Layout}

/-- The same with the number of sets stored so far. -/
@[mk_iff] structure AttrFits (setSizeMax : ℕ) (counts : ℤ × ℕ) (a : Attr) : Prop where
  count : a.type = andrWifiAttributeNumFeatureSet → 4 ≤ a.len
  set : a.type = andrWifiAttributeFeatureSet → (counts.2 : ℤ) < counts.1 →
    counts.2 < setSizeMax ∧ 4 ≤ a.len

def announce (setSizeMax : ℕ) (counts : ℤ × ℕ) (a : Attr) : ℤ × ℕ :=
  if a.type = andrWifiAttributeNumFeatureSet then (clamp setSizeMax (attrInt a), counts.2)
  else if a.type = andrWifiAttributeFeatureSet ∧ (counts.2 : ℤ) < counts.1 then
    (counts.1, counts.2 + 1)
  else counts

/-- Only the matrix is read attribute by attribute. -/
def PayloadFits (command : FeatureSetCommand) (payload : List UInt8) : Prop :=
  command.featureType ≠ andrWifiAttributeNumFeatureSet → command.featureMatrix = true →
    command.fmSize = true →
    Admits (AttrFits command.setSizeMax) (announce command.setSizeMax) (0, 0)
      (attributes payload)

theorem tracks_visit {setSizeMax : ℕ} :
    Tracks (@visit layout setSizeMax) Prod.fst (AttrFits setSizeMax) (announce setSizeMax)
      Attr.Whole where
  isSome_iff := by
    intro s a hwhole
    rw [attrFits_iff]
    unfold visit
    split_ifs with hcount hset hroom
    · simp [hcount, isSome_bind_some, isSome_readUInt_iff, hwhole.symm,
        andrWifiAttributeNumFeatureSet, andrWifiAttributeFeatureSet]
    · simp [hset, hroom, isSome_bind_some, isSome_readUInt_iff, hwhole.symm,
        andrWifiAttributeNumFeatureSet, andrWifiAttributeFeatureSet]
    · simp [hset, hroom, andrWifiAttributeNumFeatureSet, andrWifiAttributeFeatureSet]
    · simp only [Option.isSome_some, true_iff]
      exact ⟨fun h => absurd h hcount, fun h hnum => absurd ⟨h, hnum⟩ hset⟩
  view_eq := by
    intro s a t hstep
    unfold visit at hstep
    unfold announce
    split_ifs at hstep ⊢ with hcount hset hroom
    · obtain ⟨n, hread, hdone⟩ := Option.bind_eq_some_iff.mp hstep
      cases hdone
      rw [attrInt_of_readUInt hread]
    · obtain ⟨n, -, hdone⟩ := Option.bind_eq_some_iff.mp hstep
      cases hdone
      rfl
    · obtain ⟨n, -, hdone⟩ := Option.bind_eq_some_iff.mp hstep
      cases hdone
    · cases hstep
      rfl

theorem isSome_run_iff (command : FeatureSetCommand)
    (s : FeatureSet layout command.setSizeMax) (replies : List VendorMessage) :
    (run (fun s reply => (handleResponse command s reply).map Prod.snd) s replies).isSome ↔
      ∀ reply ∈ replies, reply.cmd = nl80211CmdVendor →
        ReplyFits reply True (PayloadFits command) := by
  apply isSome_run_replies_iff (fun _ _ => rfl)
  · intro s payload
    unfold PayloadFits
    split_ifs with htype hfset hpointers
    · simp [htype]
    · have hsome : (memcpy s.fset payload (min payload.length layout.featureSetSize)).isSome :=
        isSome_memcpy_iff.mpr ⟨min_le_right _ _, min_le_left _ _⟩
      obtain ⟨fset, hcopy⟩ := Option.isSome_iff_exists.mp hsome
      simp [htype, hcopy]
    · simp only [Option.isSome_some, true_iff]
      intro _ hmatrix hsize
      simp [hmatrix, hsize] at hpointers
    · have hset : command.featureMatrix = true ∧ command.fmSize = true := by
        simpa using hpointers
      rw [forall_prop_of_true htype, forall_prop_of_true hset.1, forall_prop_of_true hset.2,
        ← tracks_visit.isSome_run_iff (s := ((0, 0), s)) whole_of_mem_attributes]
      cases run visit ((0, 0), s) (attributes payload) <;> rfl
  · intro _ _ _
    rw [attributes_nil]
    trivial

end FeatureSet

/-! ## Scan results -/

namespace ScanResults

variable {layout : Layout} {command : ScanResultsCommand}

/-- `n` results from `data` have room behind the `retrieved` ones, and the name in the
last of them ends before `data` does. -/
def ResultsFit (max : ℕ) (retrieved : ℤ) (data : List UInt8) (n : ℕ) : Prop :=
  n ≠ 0 → 0 ≤ retrieved ∧ retrieved + n ≤ max ∧
    0 ∈ data.drop (gscanResultSize * (n - 1) + gscanResultSsid)

theorem isSome_convertToHalResult {target : ScanResult layout} {source : List UInt8}
    (hlength : gscanResultSize ≤ source.length) :
    (convertToHalResult target source).isSome := by
  rw [gscanResultSize] at hlength
  have hssid : (memcpy target.ssid (source.drop gscanResultSsid) 33).isSome := by
    rw [isSome_memcpy_iff, List.length_drop, gscanResultSsid]
    exact ⟨layout.ssidSize_ge, by omega⟩
  have hbssid : (memcpy target.bssid (source.drop 41) 6).isSome := by
    rw [isSome_memcpy_iff, List.length_drop]
    exact ⟨le_rfl, by omega⟩
  obtain ⟨ssid, hssid⟩ := Option.isSome_iff_exists.mp hssid
  obtain ⟨bssid, hbssid⟩ := Option.isSome_iff_exists.mp hbssid
  have hread (size offset : ℕ) (hend : size + offset ≤ 80) :
      readUInt size (source.drop offset) =
        some (littleEndian ((source.drop offset).take size)) := by
    apply readUInt_of_le
    rw [List.length_drop]
    omega
  have hts : readUInt 8 source = some (littleEndian (source.take 8)) :=
    hread 8 0 (by decide)
  simp [convertToHalResult, hts, hread, hssid, hbssid]

theorem isSome_copyResult_iff {max : ℕ} {data : List UInt8} {retrieved : ℤ} {i : ℕ}
    {results : Fin max → ScanResult layout}
    (hlength : gscanResultSize * (i + 1) ≤ data.length) :
    (copyResult data retrieved i results).isSome ↔
      (0 ≤ retrieved + i ∧ retrieved + i < max) ∧
        0 ∈ data.drop (gscanResultSize * i + gscanResultSsid) := by
  have hrecord : gscanResultSize ≤ (data.drop (gscanResultSize * i)).length := by
    rw [List.length_drop]
    simp only [gscanResultSize] at hlength ⊢
    omega
  have hsome (target : ScanResult layout) :
      (convertToHalResult target (data.drop (gscanResultSize * i))).isSome :=
    isSome_convertToHalResult hrecord
  unfold copyResult
  split_ifs with hroom hname
  · obtain ⟨result, hresult⟩ := Option.isSome_iff_exists.mp
      (hsome (results ⟨(retrieved + i).toNat, by omega⟩))
    simp [hroom, hname, hresult]
  · simp [hname]
  · simp [hroom]

theorem isSome_copyResults_iff {max : ℕ} {data : List UInt8} {retrieved : ℤ} {n : ℕ}
    {results : Fin max → ScanResult layout} (hlength : gscanResultSize * n ≤ data.length) :
    (copyResults data retrieved n results).isSome ↔ ResultsFit max retrieved data n := by
  induction n with
  | zero => simp [copyResults, ResultsFit]
  | succ n ih =>
      have hbefore : (copyResults data retrieved (n + 1) results).isSome ↔
          ResultsFit max retrieved data n ∧
            (0 ≤ retrieved + n ∧ retrieved + n < max) ∧
              0 ∈ data.drop (gscanResultSize * n + gscanResultSsid) := by
        rw [← ih ((Nat.mul_le_mul_left _ n.le_succ).trans hlength), copyResults,
          Option.bind_eq_bind]
        cases copyResults data retrieved n results with
        | none => simp
        | some copied =>
            rw [Option.bind_some, isSome_copyResult_iff hlength]
            simp
      rw [hbefore, ResultsFit, ResultsFit, Nat.add_sub_cancel, Nat.cast_succ]
      constructor
      · rintro ⟨hfirst, ⟨hlow, hhigh⟩, hname⟩ -
        have hretrieved : 0 ≤ retrieved := by
          rcases Nat.eq_zero_or_pos n with rfl | hn
          · simpa using hlow
          · exact (hfirst hn.ne').1
        exact ⟨hretrieved, by omega, hname⟩
      · intro hall
        obtain ⟨hretrieved, hroom, hname⟩ := hall n.succ_ne_zero
        refine ⟨fun hn => ⟨hretrieved, by omega, ?_⟩, ⟨by omega, by omega⟩, hname⟩
        apply List.drop_subset_drop_left data _ hname
        apply Nat.add_le_add_right
        exact Nat.mul_le_mul_left _ (Nat.sub_le n 1)

def counts {max : ℕ} (s : ℤ × ScanResults layout max) : ℤ × ℤ := (s.1, s.2.retrieved)

/-- How many of the results in an attribute are taken. -/
def taken (command : ScanResultsCommand) (retrieved : ℤ) (a : Attr) : ℤ :=
  min (command.num - retrieved) ↑(a.len / gscanResultSize)

/-- The inner loop handles an attribute within bounds, with the count before it and the
number of results retrieved so far. -/
@[mk_iff] structure ScanFits (command : ScanResultsCommand) (counts : ℤ × ℤ) (a : Attr) :
    Prop where
  count : a.type = gscanAttributeNumOfResults → 4 ≤ a.len
  bitmask : a.type = gscanAttributeChBucketBitmask → 4 ≤ a.len
  results : a.type = gscanAttributeScanResults → counts.1 ≠ 0 →
    ResultsFit command.max counts.2 a.data (taken command counts.2 a).toNat

def announceScan (command : ScanResultsCommand) (counts : ℤ × ℤ) (a : Attr) : ℤ × ℤ :=
  if a.type = gscanAttributeNumOfResults then (attrInt a, counts.2)
  else if a.type = gscanAttributeScanResults ∧ counts.1 ≠ 0 then
    (taken command counts.2 a, counts.2 + taken command counts.2 a)
  else counts

theorem isSome_visitScan_iff {outer a : Attr} (houter : 4 ≤ outer.data.length)
    (hwhole : a.Whole) (s : ℤ × ScanResults layout command.max) :
    (visitScan command outer s a).isSome ↔ ScanFits command (counts s) a := by
  rw [scanFits_iff, counts]
  unfold visitScan
  split_ifs with hid hflags hcount hmask hresults
  · simp [hid, isSome_readUInt_iff, houter, gscanAttributeScanId, gscanAttributeNumOfResults,
      gscanAttributeChBucketBitmask, gscanAttributeScanResults]
  · have hone : 1 ≤ outer.data.length := le_trans (by decide) houter
    simp [hflags, isSome_readUInt_iff, hone, gscanAttributeScanFlags,
      gscanAttributeNumOfResults, gscanAttributeChBucketBitmask, gscanAttributeScanResults]
  · simp [hcount, isSome_readUInt_iff, hwhole.symm, gscanAttributeNumOfResults,
      gscanAttributeChBucketBitmask, gscanAttributeScanResults]
  · simp [hmask, isSome_readUInt_iff, hwhole.symm, gscanAttributeNumOfResults,
      gscanAttributeChBucketBitmask, gscanAttributeScanResults]
  · obtain ⟨htype, hnum⟩ := hresults
    have hlength : gscanResultSize * (taken command s.2.retrieved a).toNat ≤ a.data.length := by
      rw [hwhole]
      simp only [taken, gscanResultSize]
      omega
    have hcopied : (copyResults a.data s.2.retrieved (taken command s.2.retrieved a).toNat
        s.2.results).isSome ↔ _ := isSome_copyResults_iff hlength
    simp only [htype, gscanAttributeNumOfResults, gscanAttributeChBucketBitmask,
      gscanAttributeScanResults, Nat.reduceEqDiff, false_imp_iff, true_and,
      forall_prop_of_true hnum, forall_const, ← hcopied]
    change ((copyResults a.data s.2.retrieved (taken command s.2.retrieved a).toNat
      s.2.results).bind _).isSome ↔ _
    cases copyResults a.data s.2.retrieved (taken command s.2.retrieved a).toNat
      s.2.results <;> simp
  · simp only [Option.isSome_some, true_iff]
    exact ⟨fun h => absurd h hcount, fun h => absurd h hmask,
      fun h hnum => absurd ⟨h, hnum⟩ hresults⟩

theorem counts_visitScan {outer a : Attr} {s t : ℤ × ScanResults layout command.max}
    (hstep : visitScan command outer s a = some t) :
    counts t = announceScan command (counts s) a := by
  unfold visitScan at hstep
  unfold counts announceScan
  split_ifs at hstep with hid hflags hcount hmask hresults
  · obtain ⟨n, -, rfl⟩ := Option.map_eq_some_iff.mp hstep
    simp [hid, gscanAttributeScanId, gscanAttributeNumOfResults, gscanAttributeScanResults]
  · obtain ⟨n, -, rfl⟩ := Option.map_eq_some_iff.mp hstep
    simp [hflags, gscanAttributeScanFlags, gscanAttributeNumOfResults,
      gscanAttributeScanResults]
  · obtain ⟨n, hread, rfl⟩ := Option.map_eq_some_iff.mp hstep
    rw [if_pos hcount, attrInt_of_readUInt hread]
  · obtain ⟨n, -, rfl⟩ := Option.map_eq_some_iff.mp hstep
    simp [hmask, gscanAttributeChBucketBitmask, gscanAttributeNumOfResults,
      gscanAttributeScanResults]
  · obtain ⟨results, -, hdone⟩ := Option.bind_eq_some_iff.mp hstep
    cases hdone
    rw [if_neg hcount, if_pos hresults]
    rfl
  · cases hstep
    rw [if_neg hcount, if_neg hresults]

theorem tracks_visitScan {outer : Attr} (houter : 4 ≤ outer.data.length) :
    Tracks (@visitScan layout command.max command outer) counts (ScanFits command)
      (announceScan command) Attr.Whole where
  isSome_iff := fun s _ hwhole => isSome_visitScan_iff houter hwhole s
  view_eq := fun _ _ _ => counts_visitScan

/-- The outer loop handles an attribute within bounds when `retrieved` results have been
retrieved before it. -/
@[mk_iff] structure AttrFits (command : ScanResultsCommand) (retrieved : ℤ) (a : Attr) :
    Prop where
  complete : a.type = gscanAttributeScanResultsComplete → 1 ≤ a.len
  results : a.type = gscanAttributeScanResults ∨ a.type = 0 →
    Admits (ScanFits command) (announceScan command) (0, retrieved) (attributes a.data)

def announce (command : ScanResultsCommand) (retrieved : ℤ) (a : Attr) : ℤ :=
  if a.type = gscanAttributeScanResults ∨ a.type = 0 then
    ((attributes a.data).foldl (announceScan command) (0, retrieved)).2
  else retrieved

def PayloadFits (command : ScanResultsCommand) (retrieved : ℤ) (payload : List UInt8) :
    Prop :=
  Admits (AttrFits command) (announce command) retrieved (attributes payload)

theorem isSome_run_visitScan_iff (outer : Attr) (s : ℤ × ScanResults layout command.max) :
    (run (visitScan command outer) s (attributes outer.data)).isSome ↔
      Admits (ScanFits command) (announceScan command) (counts s) (attributes outer.data) := by
  by_cases houter : 4 ≤ outer.data.length
  · exact (tracks_visitScan houter).isSome_run_iff whole_of_mem_attributes
  · have hnone : attributes outer.data = [] := by
      apply List.eq_nil_iff_forall_not_mem.mpr
      exact fun a ha => houter (attributes_spec a ha).2
    simp [hnone, run, Admits]

theorem tracks_visit :
    Tracks (@visit layout command.max command) retrieved (AttrFits command) (announce command)
      Attr.Whole where
  isSome_iff := by
    intro s a hwhole
    rw [attrFits_iff]
    unfold visit
    split_ifs with hcomplete hresults
    · simp [hcomplete, isSome_readUInt_iff, hwhole.symm, gscanAttributeScanResultsComplete,
        gscanAttributeScanResults]
    · have hrun := isSome_run_visitScan_iff a (0, s)
      rw [counts] at hrun
      rw [forall_prop_of_true hresults, ← hrun]
      simp [hcomplete, isSome_bind_some]
    · simp [hcomplete, hresults]
  view_eq := by
    intro s a t hstep
    unfold visit at hstep
    unfold announce
    split_ifs at hstep with hcomplete hresults
    · obtain ⟨n, -, rfl⟩ := Option.map_eq_some_iff.mp hstep
      simp [hcomplete, gscanAttributeScanResultsComplete, gscanAttributeScanResults]
    · obtain ⟨done, hrun, hdone⟩ := Option.bind_eq_some_iff.mp hstep
      cases hdone
      have hcounts : counts done = (attributes a.data).foldl (announceScan command)
          (0, s.retrieved) := view_run (fun _ _ _ => counts_visitScan) hrun
      rw [if_pos hresults, ← hcounts]
      rfl
    · cases hstep
      rw [if_neg hresults]

theorem tracks_handleResponse :
    Tracks (fun s reply => (@handleResponse layout command s reply).map Prod.snd) retrieved
      (fun retrieved reply => reply.cmd = nl80211CmdVendor →
        ReplyFits reply False (PayloadFits command retrieved))
      (replyAdvance fun retrieved payload =>
        (attributes payload).foldl (announce command) retrieved) (fun _ => True) := by
  apply tracks_handleVendorData (fun _ _ => rfl)
  · simp
  · intro s payload
    rw [PayloadFits, ← tracks_visit.isSome_run_iff whole_of_mem_attributes]
    rw [Option.bind_eq_bind, isSome_bind_some]
  · intro retrieved
    rw [PayloadFits, attributes_nil]
    trivial
  · intro s action t hnone
    cases hnone
  · intro s payload action t hbody
    obtain ⟨done, hrun, hdone⟩ := Option.bind_eq_some_iff.mp hbody
    cases hdone
    exact view_run tracks_visit.view_eq hrun
  · intro retrieved
    rw [attributes_nil]
    rfl

end ScanResults

/-! ## Parsed scan results -/

namespace ScanResult

variable {layout : Layout}

/-- How much of an attribute other than the name is copied. -/
def fieldSize (type : ℕ) : ℕ :=
  if type = gscanAttributeBssid then 6
  else if type = gscanAttributeChannel then 2
  else if type = gscanAttributeRssi then 1
  else if type = gscanAttributeTimestamp ∨ type = gscanAttributeRtt ∨
      type = gscanAttributeRttsd then 8
  else 0

/-- A name ends in what is there, and it fits the field with its terminator. -/
@[mk_iff] structure FieldFits (layout : Layout) (a : Attr) : Prop where
  name : a.type = gscanAttributeSsid →
    (0 ∈ a.data ∨ a.len ≤ a.data.length) ∧ a.len + 1 ≤ layout.ssidSize
  size : fieldSize a.type ≤ a.data.length

def RecordFits (layout : Layout) (data : List UInt8) : Prop :=
  ∃ attrs, fields data = some attrs ∧ ∀ a ∈ attrs, FieldFits layout a

theorem isSome_copyName_iff {size len : ℕ} {dst : Fin size → UInt8} {src : List UInt8} :
    (copyName dst src len).isSome ↔ (0 ∈ src ∨ len ≤ src.length) ∧ len + 1 ≤ size := by
  unfold copyName
  split_ifs with hend
  · have hroom (name : List UInt8) :
        len + 1 ≤ (name ++ List.replicate (len + 1 - name.length) 0).length := by
      rw [List.length_append, List.length_replicate]
      omega
    rw [isSome_memcpy_iff, and_iff_left (hroom _), and_iff_right hend]
  · simp [hend]

theorem isSome_visitField_iff (result : ScanResult layout) (a : Attr) :
    (visitField result a).isSome ↔ FieldFits layout a := by
  rw [fieldFits_iff]
  by_cases hname : a.type = gscanAttributeSsid
  · simp [visitField, fieldSize, hname, isSome_copyName_iff, gscanAttributeSsid,
      gscanAttributeBssid, gscanAttributeChannel, gscanAttributeRssi, gscanAttributeTimestamp,
      gscanAttributeRtt, gscanAttributeRttsd]
  · rw [visitField, if_neg hname, and_iff_right fun h => absurd h hname]
    split_ifs with hbssid htimestamp hchannel hrssi hrtt hrttsd
    · simp [hbssid, fieldSize, isSome_memcpy_iff]
    · simp [htimestamp, fieldSize, isSome_readUInt_iff, gscanAttributeBssid,
        gscanAttributeChannel, gscanAttributeRssi, gscanAttributeTimestamp]
    · simp [hchannel, fieldSize, isSome_readUInt_iff, gscanAttributeBssid,
        gscanAttributeChannel]
    · simp [hrssi, fieldSize, isSome_readUInt_iff, gscanAttributeBssid, gscanAttributeChannel,
        gscanAttributeRssi]
    · simp [hrtt, fieldSize, isSome_readUInt_iff, gscanAttributeBssid, gscanAttributeChannel,
        gscanAttributeRssi, gscanAttributeRtt]
    · simp [hrttsd, fieldSize, isSome_readUInt_iff, gscanAttributeBssid,
        gscanAttributeChannel, gscanAttributeRssi, gscanAttributeRttsd]
    · simp [fieldSize, hbssid, htimestamp, hchannel, hrssi, hrtt, hrttsd]

theorem isSome_parse_iff (data : List UInt8) :
    (parse layout data).isSome ↔ RecordFits layout data := by
  rw [parse, RecordFits]
  cases fields data with
  | none => simp
  | some attrs =>
      simpa using isSome_run_iff_forall isSome_visitField_iff (zero layout) attrs

end ScanResult

theorem isSome_parseScanResults_iff {layout : Layout} (num : ℕ) (payload : List UInt8) :
    (parseScanResults layout num payload).isSome ↔
      ∀ a ∈ (attributes payload).take num, ScanResult.RecordFits layout a.data := by
  rw [parseScanResults, Option.bind_eq_bind, isSome_bind_some]
  induction (attributes payload).take num with
  | nil => simp
  | cons a attrs ih =>
      rw [List.forall_mem_cons, ← ih, ← ScanResult.isSome_parse_iff, List.mapM_cons]
      cases ScanResult.parse layout a.data with
      | none => simp
      | some result => cases attrs.mapM fun a => ScanResult.parse layout a.data <;> simp

/-! ## RTT results -/

section Elements

variable {layout : Layout} {data : List UInt8}

/-- A result reaches up to the last field that is logged, and a measurement request
behind it up to its type. -/
def ResultFits (layout : Layout) (data : List UInt8) : Prop :=
  layout.rttLoggedEnd ≤ data.length ∧
    (data[layout.rttResultSize]? = some dot11MngMeasureRequestId →
      layout.rttResultSize + 4 < data.length)

theorem isSome_requestType_iff {offset : ℕ} :
    (requestType data offset).isSome ↔ offset < data.length ∧
      (data[offset]? = some dot11MngMeasureRequestId → offset + 4 < data.length) := by
  unfold requestType
  by_cases hoffset : offset < data.length
  · rw [List.getElem?_eq_getElem hoffset]
    by_cases hid : data[offset] = dot11MngMeasureRequestId
    · by_cases htype : offset + 4 < data.length <;> simp [hid, hoffset, htype]
    · simp [hid, hoffset]
  · simp [hoffset]

theorem lt_of_requestType {offset : ℕ} {type : UInt8}
    (htype : requestType data offset = some (some type)) : offset + 4 < data.length := by
  obtain ⟨id, -, htype⟩ := Option.bind_eq_some_iff.mp htype
  split_ifs at htype with hid
  · obtain ⟨found, hfound, -⟩ := Option.bind_eq_some_iff.mp htype
    exact (List.getElem?_eq_some_iff.mp hfound).1
  · cases htype

/-- The second element starts far enough before the end because the size of a result has
been taken off twice. -/
theorem isSome_nextElement (other : UInt8) (hfirst : layout.rttResultSize + 4 < data.length) :
    (nextElement layout data other).isSome := by
  have hsize := layout.rttResultSize_ge
  have hlen : layout.rttResultSize + 1 < data.length := by omega
  unfold nextElement
  simp only [List.getElem?_eq_getElem hlen, Option.bind_eq_bind, Option.bind_some]
  split_ifs with hroom
  · rw [isSome_bind_some, isSome_requestType_iff]
    omega
  · rfl

theorem isSome_elements_iff : (elements layout data).isSome ↔
    (data[layout.rttResultSize]? = some dot11MngMeasureRequestId →
      layout.rttResultSize + 4 < data.length) := by
  unfold elements
  split_ifs with hshort
  · simp [hshort]
  · have hbehind : layout.rttResultSize < data.length := by omega
    have hrequest : (requestType data layout.rttResultSize).isSome ↔ _ :=
      isSome_requestType_iff.trans (and_iff_right hbehind)
    rw [← hrequest]
    cases htype : requestType data layout.rttResultSize with
    | none => simp
    | some type =>
        rw [Option.bind_eq_bind, Option.bind_some]
        split_ifs with hlci hlcr
        · rw [hlci] at htype
          rw [Option.bind_eq_bind, isSome_bind_some]
          simp [isSome_nextElement _ (lt_of_requestType htype)]
        · rw [hlcr] at htype
          rw [Option.bind_eq_bind, isSome_bind_some]
          simp [isSome_nextElement _ (lt_of_requestType htype)]
        · simp

end Elements

namespace RttCounters

/-- What storing a result does to the counters. -/
def store (grants : ℕ → Bool) (c : RttCounters) : RttCounters :=
  if hroom : c.currentIdx < maxResults then
    if grants c.mallocs then
      { c with currentIdx := c.currentIdx + 1, currentIdx_le := hroom, mallocs := c.mallocs + 1 }
    else { c with completed := 1, mallocs := c.mallocs + 1, stopped := true }
  else c

/-- The inner loop handles an attribute within bounds: there is a free entry in the table
for a result. -/
@[mk_iff] structure TargetFits (layout : Layout) (grants : ℕ → Bool) (c : RttCounters)
    (a : Attr) : Prop where
  mac : c.stopped = false → a.type = rttAttributeTargetMac → 6 ≤ a.len
  count : c.stopped = false → a.type = rttAttributeResultCnt → 4 ≤ a.len
  result : c.stopped = false → a.type = rttAttributeResult →
    c.currentIdx < maxResults ∧ (grants c.mallocs = true → ResultFits layout a.data)

def announceTarget (grants : ℕ → Bool) (c : RttCounters) (a : Attr) : RttCounters :=
  if c.stopped = false ∧ a.type = rttAttributeResult then c.store grants else c

@[mk_iff] structure AttrFits (layout : Layout) (grants : ℕ → Bool) (c : RttCounters)
    (a : Attr) : Prop where
  complete : a.type = rttAttributeResultsComplete → 4 ≤ a.len
  target : a.type = rttAttributeResultsPerTarget →
    Admits (TargetFits layout grants) (announceTarget grants) { c with stopped := false }
      (attributes a.data)

def announce (grants : ℕ → Bool) (c : RttCounters) (a : Attr) : RttCounters :=
  if a.type = rttAttributeResultsComplete then { c with completed := attrInt a }
  else if a.type = rttAttributeResultsPerTarget then
    (attributes a.data).foldl (announceTarget grants) { c with stopped := false }
  else c

/-- A completed event starts the table anew. -/
def finish (c : RttCounters) : RttCounters :=
  if c.completed ≠ 0 then { c with currentIdx := 0, currentIdx_le := Nat.zero_le _ } else c

/-- An event needs its vendor data. -/
def EventFits (layout : Layout) (grants : ℕ → Bool) (c : RttCounters)
    (event : VendorMessage) : Prop :=
  ∃ payload, event.vendorData = some payload ∧
    Admits (AttrFits layout grants) (announce grants) c (attributes payload)

def announceEvent (grants : ℕ → Bool) (c : RttCounters) (event : VendorMessage) :
    RttCounters :=
  ((attributes (event.vendorData.getD [])).foldl (announce grants) c).finish

end RttCounters

namespace RttTable

variable {layout : Layout} {grants : ℕ → Bool}

theorem isSome_store_iff (s : RttTable) (data : List UInt8) :
    (s.store layout grants data).isSome ↔ s.currentIdx < maxResults ∧
      (grants s.mallocs = true → ResultFits layout data) := by
  unfold store ResultFits
  split_ifs with hroom hgrant hlogged
  · simp [hroom, hgrant, hlogged, isSome_bind_some, isSome_elements_iff]
  · simp [hgrant, hlogged]
  · simp [hroom, hgrant]
  · simp [hroom]

theorem counters_store {s t : RttTable} {data : List UInt8}
    (hstore : s.store layout grants data = some t) :
    t.toRttCounters = s.toRttCounters.store grants := by
  unfold store at hstore
  unfold RttCounters.store
  split_ifs at hstore ⊢ with hroom hgrant hlogged
  · obtain ⟨result, -, hdone⟩ := Option.bind_eq_some_iff.mp hstore
    cases hdone
    rfl
  · obtain ⟨result, -, hdone⟩ := Option.bind_eq_some_iff.mp hstore
    cases hdone
  · cases hstore
    rfl

theorem tracks_visitTarget : Tracks (visitTarget layout grants) toRttCounters
    (RttCounters.TargetFits layout grants) (RttCounters.announceTarget grants) Attr.Whole where
  isSome_iff := by
    intro s a hwhole
    rw [RttCounters.targetFits_iff]
    unfold visitTarget
    split_ifs with hstopped hmac hcount hresult
    · simp [hstopped]
    · simp [hstopped, hmac, isSome_memcpy_iff, hwhole.symm, rttAttributeTargetMac,
        rttAttributeResultCnt, rttAttributeResult]
    · simp [hstopped, hcount, isSome_readUInt_iff, hwhole.symm, rttAttributeTargetMac,
        rttAttributeResultCnt, rttAttributeResult]
    · simp [hstopped, hresult, isSome_store_iff, rttAttributeTargetMac,
        rttAttributeResultCnt, rttAttributeResult]
    · simp [hmac, hcount, hresult]
  view_eq := by
    intro s a t hstep
    unfold visitTarget at hstep
    unfold RttCounters.announceTarget
    split_ifs at hstep with hstopped hmac hcount hresult
    · cases hstep
      simp [hstopped]
    · obtain ⟨n, -, rfl⟩ := Option.map_eq_some_iff.mp hstep
      simp [hmac, rttAttributeTargetMac, rttAttributeResult]
    · obtain ⟨n, -, rfl⟩ := Option.map_eq_some_iff.mp hstep
      simp [hcount, rttAttributeResultCnt, rttAttributeResult]
    · rw [if_pos ⟨by simpa using hstopped, hresult⟩]
      exact counters_store hstep
    · cases hstep
      simp [hresult]

theorem tracks_visit : Tracks (visit layout grants) toRttCounters
    (RttCounters.AttrFits layout grants) (RttCounters.announce grants) Attr.Whole where
  isSome_iff := by
    intro s a hwhole
    rw [RttCounters.attrFits_iff]
    unfold visit
    split_ifs with hcomplete htarget
    · simp [hcomplete, isSome_readUInt_iff, hwhole.symm, rttAttributeResultsComplete,
        rttAttributeResultsPerTarget]
    · rw [tracks_visitTarget.isSome_run_iff whole_of_mem_attributes,
        forall_prop_of_true htarget, and_iff_right fun h => absurd h hcomplete]
    · simp [hcomplete, htarget]
  view_eq := by
    intro s a t hstep
    unfold visit at hstep
    unfold RttCounters.announce
    split_ifs at hstep ⊢ with hcomplete htarget
    · obtain ⟨n, hread, rfl⟩ := Option.map_eq_some_iff.mp hstep
      rw [attrInt_of_readUInt hread]
    · exact view_run tracks_visitTarget.view_eq hstep
    · cases hstep
      rfl

theorem counters_finish (s : RttTable) : s.finish.toRttCounters = s.toRttCounters.finish := by
  unfold finish RttCounters.finish
  split_ifs <;> rfl

theorem tracks_handleEvent : Tracks (handleEvent layout grants) toRttCounters
    (RttCounters.EventFits layout grants) (RttCounters.announceEvent grants)
    (fun _ => True) where
  isSome_iff := by
    intro s event _
    unfold handleEvent RttCounters.EventFits
    cases event.vendorData with
    | none => simp
    | some payload =>
        simpa using tracks_visit.isSome_run_iff whole_of_mem_attributes
  view_eq := by
    intro s event t hstep
    unfold handleEvent at hstep
    unfold RttCounters.announceEvent
    cases hdata : event.vendorData with
    | none => simp [hdata] at hstep
    | some payload =>
        simp only [hdata] at hstep
        obtain ⟨u, hrun, rfl⟩ := Option.map_eq_some_iff.mp hstep
        rw [counters_finish, view_run tracks_visit.view_eq hrun, Option.getD_some]

end RttTable

/-! ## All handlers -/

/-- The replies to one command one after the other, the events of one RTT command, or one
call of `parseScanResults`, with what the caller has set aside. -/
inductive VendorRun (layout : Layout) where
  | channelList {maxChannels : ℕ} (s : ChannelList maxChannels) (replies : List VendorMessage)
  | featureSet (command : FeatureSetCommand) (s : FeatureSet layout command.setSizeMax)
      (replies : List VendorMessage)
  | scanResults (command : ScanResultsCommand) (s : ScanResults layout command.max)
      (replies : List VendorMessage)
  | parseScanResults (num : ℕ) (payload : List UInt8)
  | rttResults (grants : ℕ → Bool) (s : RttTable) (events : List VendorMessage)

/-- No handler reads through a missing attribute or past the end of a payload, and none
writes past the end of an array. -/
def VendorRun.InBounds {layout : Layout} : VendorRun layout → Prop
  | .channelList s replies =>
      (run (fun s reply => (ChannelList.handleResponse layout s reply).map Prod.snd)
        s replies).isSome
  | .featureSet command s replies =>
      (run (fun s reply => (FeatureSet.handleResponse command s reply).map Prod.snd)
        s replies).isSome
  | .scanResults command s replies =>
      (run (fun s reply => (ScanResults.handleResponse command s reply).map Prod.snd)
        s replies).isSome
  | .parseScanResults num payload => (Wifi.parseScanResults layout num payload).isSome
  | .rttResults grants s events =>
      (run (RttTable.handleEvent layout grants) s events).isSome

/-- The counts and sizes in the messages agree with their payloads and with the room
there is. -/
def VendorRun.Fits {layout : Layout} : VendorRun layout → Prop
  | @channelList _ maxChannels _ replies =>
      ∀ reply ∈ replies, reply.cmd = nl80211CmdVendor →
        ReplyFits reply True (ChannelList.PayloadFits layout maxChannels)
  | .featureSet command _ replies =>
      ∀ reply ∈ replies, reply.cmd = nl80211CmdVendor →
        ReplyFits reply True (FeatureSet.PayloadFits command)
  | .scanResults command s replies =>
      Admits (fun retrieved reply => reply.cmd = nl80211CmdVendor →
          ReplyFits reply False (ScanResults.PayloadFits command retrieved))
        (replyAdvance fun retrieved payload =>
          (attributes payload).foldl (ScanResults.announce command) retrieved)
        s.retrieved replies
  | .parseScanResults num payload =>
      ∀ a ∈ (attributes payload).take num, ScanResult.RecordFits layout a.data
  | .rttResults grants s events =>
      Admits (RttCounters.EventFits layout grants) (RttCounters.announceEvent grants)
        s.toRttCounters events

theorem vendor_data_in_bounds_iff {layout : Layout} (vendorRun : VendorRun layout) :
    vendorRun.InBounds ↔ vendorRun.Fits := by
  cases vendorRun with
  | channelList s replies => exact ChannelList.isSome_run_iff s replies
  | featureSet command s replies => exact FeatureSet.isSome_run_iff command s replies
  | scanResults command s replies =>
      exact ScanResults.tracks_handleResponse.isSome_run_iff fun _ _ => trivial
  | parseScanResults num payload => exact isSome_parseScanResults_iff num payload
  | rttResults grants s events =>
      exact RttTable.tracks_handleEvent.isSome_run_iff fun _ _ => trivial

/-- The sizes on a 64-bit device. -/
def layout64 : Layout where
  wordBits := 64
  featureSetSize := 4
  ssidSize := 33
  rttResultSize := 128
  rttLoggedEnd := 112
  ssidSize_ge := by decide
  rttLoggedEnd_le := by decide
  rttResultSize_ge := by decide

/-- A reply to `GetScanResultsCommand` without vendor data is read through `NULL`. -/
theorem absent_vendor_data_read :
    ¬ ∀ vendorRun : VendorRun layout64, vendorRun.InBounds := by
  intro hall
  have hreply := hall (.scanResults ⟨1024, 1024⟩ ⟨0, 0, fun _ => .zero layout64⟩
    [⟨nl80211CmdVendor, none, none, none⟩])
  simp [VendorRun.InBounds, run, ScanResults.handleResponse, handleVendorData, getU32] at hreply

end Wifi
end MediatekHardware
