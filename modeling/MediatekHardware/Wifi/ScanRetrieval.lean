import MediatekHardware.Wifi.VendorDataBounds

/-!
# Retrieval of scan results

`GetScanResultsCommand` sends up to ten requests, and each reply may bring several
nests of attributes with results.  A results attribute is only looked at while the
count variable of its nest is not zero, and the attribute itself overwrites the
variable with the number of results taken from it.
-/

namespace MediatekHardware
namespace Wifi

open Netlink Transition ScanResults

variable {layout : Layout}

/-! ## `execute` -/

/-- What comes of a request: the result of creating it, the replies handled until it is
done, and the result of `requestResponse`. -/
structure RequestOutcome where
  created : ℤ
  replies : List VendorMessage
  result : ℤ

/-- `num` is the value of `*mNum` afterwards. -/
structure Execution (layout : Layout) (max : ℕ) where
  requests : ℕ
  result : ℤ
  num : ℤ
  scan : ScanResults layout max

def handleReplies (command : ScanResultsCommand) (s : ScanResults layout command.max)
    (replies : List VendorMessage) : Option (ScanResults layout command.max) :=
  run (fun s reply => (handleResponse command s reply).map Prod.snd) s replies

/-- The loop with `remaining` turns left, when `i` requests have been sent. -/
def executeLoop (command : ScanResultsCommand) (driver : ℕ → RequestOutcome) :
    ℕ → ℕ → ScanResults layout command.max → Option (Execution layout command.max)
  | 0, i, s => some ⟨i, wifiSuccess, s.retrieved, s⟩
  | remaining + 1, i, s =>
      if s.retrieved < command.max then
        if (driver i).created < 0 then some ⟨i, (driver i).created, command.num, s⟩
        else do
          let s' ← handleReplies command s (driver i).replies
          if (driver i).result ≠ wifiSuccess then
            some ⟨i + 1, (driver i).result, command.num, s'⟩
          else if s'.retrieved = s.retrieved ∨ s'.completed ≠ 0 then
            some ⟨i + 1, wifiSuccess, s'.retrieved, s'⟩
          else executeLoop command driver remaining (i + 1) s'
      else some ⟨i, wifiSuccess, s.retrieved, s⟩

def execute (command : ScanResultsCommand) (driver : ℕ → RequestOutcome)
    (results : Fin command.max → ScanResult layout) : Option (Execution layout command.max) :=
  executeLoop command driver 10 0 ⟨0, 0, results⟩

/-- The replies to requests from the `i`th on. -/
def repliesFrom (driver : ℕ → RequestOutcome) (i n : ℕ) : List VendorMessage :=
  (List.range' i n).flatMap fun i => (driver i).replies

theorem repliesFrom_succ (driver : ℕ → RequestOutcome) (i n : ℕ) :
    repliesFrom driver i (n + 1) = (driver i).replies ++ repliesFrom driver (i + 1) n := by
  rw [repliesFrom, List.range'_succ, List.flatMap_cons]
  rfl

theorem handleReplies_succ {command : ScanResultsCommand} (driver : ℕ → RequestOutcome)
    (s : ScanResults layout command.max) (i n : ℕ) :
    handleReplies command s (repliesFrom driver i (n + 1)) =
      (handleReplies command s (driver i).replies).bind fun s' =>
        handleReplies command s' (repliesFrom driver (i + 1) n) := by
  rw [repliesFrom_succ]
  exact run_append s (driver i).replies (repliesFrom driver (i + 1) n)

theorem executeLoop_spec {command : ScanResultsCommand} {driver : ℕ → RequestOutcome}
    {remaining i : ℕ} {s : ScanResults layout command.max} {e : Execution layout command.max}
    (hexecute : executeLoop command driver remaining i s = some e) :
    i ≤ e.requests ∧ e.requests ≤ i + remaining ∧
      (e.result = wifiSuccess → e.num = e.scan.retrieved ∧
        handleReplies command s (repliesFrom driver i (e.requests - i)) = some e.scan) := by
  have hstay (i : ℕ) (s : ScanResults layout command.max) :
      handleReplies command s (repliesFrom driver i (i - i)) = some s := by
    rw [Nat.sub_self]
    rfl
  have hone {i : ℕ} {s s' : ScanResults layout command.max}
      (hreplies : handleReplies command s (driver i).replies = some s') :
      handleReplies command s (repliesFrom driver i (i + 1 - i)) = some s' := by
    rw [Nat.add_sub_cancel_left, handleReplies_succ, hreplies]
    rfl
  induction remaining generalizing i s with
  | zero =>
      cases hexecute
      exact ⟨le_rfl, le_rfl, fun _ => ⟨rfl, hstay i s⟩⟩
  | succ remaining ih =>
      rw [executeLoop] at hexecute
      by_cases hmore : s.retrieved < command.max
      · rw [if_pos hmore] at hexecute
        by_cases hcreated : (driver i).created < 0
        · rw [if_pos hcreated] at hexecute
          cases hexecute
          refine ⟨le_rfl, Nat.le_add_right _ _, fun hsuccess => ?_⟩
          have hzero : (driver i).created = wifiSuccess := hsuccess
          rw [hzero] at hcreated
          exact absurd hcreated (by decide)
        · rw [if_neg hcreated] at hexecute
          obtain ⟨s', hreplies, hexecute⟩ := Option.bind_eq_some_iff.mp hexecute
          split_ifs at hexecute with hfailed hdone
          · cases hexecute
            exact ⟨Nat.le_succ _, by dsimp only; omega, fun hsuccess => absurd hsuccess hfailed⟩
          · cases hexecute
            exact ⟨Nat.le_succ _, by dsimp only; omega, fun _ => ⟨rfl, hone hreplies⟩⟩
          · obtain ⟨hlow, hhigh, hrest⟩ := ih hexecute
            refine ⟨by omega, by omega, fun hsuccess => ⟨(hrest hsuccess).1, ?_⟩⟩
            rw [show e.requests - i = e.requests - (i + 1) + 1 by omega, handleReplies_succ,
              hreplies]
            exact (hrest hsuccess).2
      · rw [if_neg hmore] at hexecute
        cases hexecute
        exact ⟨le_rfl, Nat.le_add_right _ _, fun _ => ⟨rfl, hstay i s⟩⟩

/-! ## The attributes of the replies in one sequence -/

inductive ScanItem where
  | complete (a : Attr)
  | nest
  | inner (outer a : Attr)

def attrItems (a : Attr) : List ScanItem :=
  if a.type = gscanAttributeScanResultsComplete then [.complete a]
  else if a.type = gscanAttributeScanResults ∨ a.type = 0 then
    .nest :: (attributes a.data).map (.inner a)
  else []

def replyItems (reply : VendorMessage) : List ScanItem :=
  if reply.cmd ≠ nl80211CmdVendor then []
  else
    match reply.vendorData with
    | none => []
    | some payload => (attributes payload).flatMap attrItems

/-- The whole records of a results attribute, each with what is behind it. -/
def wholeRecords (a : Attr) : List (List UInt8) :=
  if a.type = gscanAttributeScanResults then
    (List.range (a.len / gscanResultSize)).map fun i => a.data.drop (gscanResultSize * i)
  else []

/-- The variables of the handlers, with history: the whole records that have arrived, and
which of them the entries of the output come from. -/
structure Retrieval (layout : Layout) (max : ℕ) where
  num : ℤ
  scan : ScanResults layout max
  arrived : List (List UInt8)
  sources : List ℕ

namespace Retrieval

def initial {max : ℕ} (results : Fin max → ScanResult layout) : Retrieval layout max :=
  ⟨0, ⟨0, 0, results⟩, [], []⟩

def visitItem (command : ScanResultsCommand) (r : Retrieval layout command.max) :
    ScanItem → Option (Retrieval layout command.max)
  | .complete a =>
      (readUInt 1 a.data).map fun n => { r with scan := { r.scan with completed := n } }
  | .nest => some { r with num := 0 }
  | .inner outer a =>
      (visitScan command outer (r.num, r.scan) a).map fun s =>
        { num := s.1
          scan := s.2
          arrived := r.arrived ++ wholeRecords a
          sources := r.sources ++
            (List.range (s.2.retrieved - r.scan.retrieved).toNat).map (r.arrived.length + ·) }

def counts {max : ℕ} (r : Retrieval layout max) : ℤ × ℤ := (r.num, r.scan.retrieved)

end Retrieval

/-- The variables after an item, by the item alone. -/
def itemCounts (command : ScanResultsCommand) (counts : ℤ × ℤ) : ScanItem → ℤ × ℤ
  | .complete _ => counts
  | .nest => (0, counts.2)
  | .inner _ a => announceScan command counts a

theorem counts_visitItem {command : ScanResultsCommand} (r : Retrieval layout command.max)
    (item : ScanItem) (t : Retrieval layout command.max)
    (hstep : r.visitItem command item = some t) :
    t.counts = itemCounts command r.counts item := by
  cases item with
  | complete a =>
      obtain ⟨n, -, rfl⟩ := Option.map_eq_some_iff.mp hstep
      rfl
  | nest =>
      cases hstep
      rfl
  | inner outer a =>
      obtain ⟨s, hvisit, rfl⟩ := Option.map_eq_some_iff.mp hstep
      exact counts_visitScan hvisit

/-! ## The handler visits the items -/

section Items

variable {command : ScanResultsCommand}

theorem run_inner {outer : Attr} {attrs : List Attr} {s t : ℤ × ScanResults layout command.max}
    (hrun : run (visitScan command outer) s attrs = some t)
    {r : Retrieval layout command.max} (hr : (r.num, r.scan) = s) :
    ∃ r', run (Retrieval.visitItem command) r (attrs.map (.inner outer)) = some r' ∧
      (r'.num, r'.scan) = t := by
  induction attrs generalizing s r with
  | nil =>
      cases hrun
      exact ⟨r, rfl, hr⟩
  | cons a attrs ih =>
      rw [run] at hrun
      rw [List.map_cons, run]
      cases hvisit : visitScan command outer s a with
      | none => simp [hvisit] at hrun
      | some next =>
          simp only [hvisit] at hrun
          simp only [Retrieval.visitItem, hr, hvisit, Option.map_some]
          exact ih hrun rfl

theorem run_attrItems {a : Attr} {s t : ScanResults layout command.max}
    (hvisit : visit command s a = some t) {r : Retrieval layout command.max} (hr : r.scan = s) :
    ∃ r', run (Retrieval.visitItem command) r (attrItems a) = some r' ∧ r'.scan = t := by
  subst hr
  unfold visit at hvisit
  unfold attrItems
  split_ifs at hvisit ⊢ with hcomplete hresults
  · obtain ⟨n, hread, rfl⟩ := Option.map_eq_some_iff.mp hvisit
    refine ⟨{ r with scan := { r.scan with completed := n } }, ?_, rfl⟩
    simp [run, Retrieval.visitItem, hread]
  · obtain ⟨done, hrun, hdone⟩ := Option.bind_eq_some_iff.mp hvisit
    have hscan : done.2 = t := Option.some.inj hdone
    subst hscan
    obtain ⟨r', hitems, hr'⟩ :=
      run_inner hrun (r := { r with num := 0 }) rfl
    refine ⟨r', ?_, by rw [← hr']⟩
    rw [run]
    exact hitems
  · cases hvisit
    exact ⟨r, rfl, rfl⟩

theorem run_replyItems {reply : VendorMessage} {s t : ScanResults layout command.max}
    (hhandled : (handleResponse command s reply).map Prod.snd = some t)
    {r : Retrieval layout command.max} (hr : r.scan = s) :
    ∃ r', run (Retrieval.visitItem command) r (replyItems reply) = some r' ∧ r'.scan = t := by
  obtain ⟨⟨action, t'⟩, hresponse, rfl⟩ := Option.map_eq_some_iff.mp hhandled
  unfold handleResponse handleVendorData at hresponse
  unfold replyItems
  split_ifs at hresponse ⊢ with hcmd
  · cases hresponse
    exact ⟨r, rfl, hr⟩
  · obtain ⟨_, -, hresponse⟩ := Option.bind_eq_some_iff.mp hresponse
    obtain ⟨_, -, hresponse⟩ := Option.bind_eq_some_iff.mp hresponse
    cases hdata : reply.vendorData with
    | none => simp [hdata] at hresponse
    | some payload =>
        simp only [hdata] at hresponse ⊢
        split_ifs at hresponse with hempty
        · cases hresponse
          rw [List.length_eq_zero_iff.mp hempty, attributes_nil]
          exact ⟨r, rfl, hr⟩
        · obtain ⟨done, hrun, hdone⟩ := Option.bind_eq_some_iff.mp hresponse
          cases hdone
          refine run_flatMap ?_ hrun hr
          intro a s next r hvisit hr
          exact run_attrItems hvisit hr

theorem run_items {replies : List VendorMessage} {s t : ScanResults layout command.max}
    (hhandled : handleReplies command s replies = some t)
    {r : Retrieval layout command.max} (hr : r.scan = s) :
    ∃ r', run (Retrieval.visitItem command) r (replies.flatMap replyItems) = some r' ∧
      r'.scan = t := by
  refine run_flatMap ?_ hhandled hr
  intro reply s next r hreply hr
  exact run_replyItems hreply hr

/-! ## Entries and their sources -/

/-- An entry as `convert_to_hal_result` and the loop around it leave it. -/
def IsConversion (result : ScanResult layout) (source : List UInt8) : Prop :=
  ∃ target converted, convertToHalResult target source = some converted ∧
    result = { converted with ieLength := 0 }

theorem copyResult_spec {max : ℕ} {data : List UInt8} {retrieved : ℤ} {i : ℕ}
    {results results' : Fin max → ScanResult layout}
    (hcopied : copyResult data retrieved i results = some results') :
    (∀ slot : Fin max, (slot : ℤ) ≠ retrieved + i → results' slot = results slot) ∧
      ∀ slot : Fin max, (slot : ℤ) = retrieved + i →
        IsConversion (results' slot) (data.drop (gscanResultSize * i)) := by
  unfold copyResult at hcopied
  by_cases hroom : 0 ≤ retrieved + i ∧ retrieved + i < max
  · rw [dif_pos hroom] at hcopied
    obtain ⟨converted, hconverted, hcopied⟩ := Option.bind_eq_some_iff.mp hcopied
    split_ifs at hcopied
    rw [← Option.some.inj hcopied]
    constructor
    · intro slot hslot
      apply Function.update_of_ne
      rintro rfl
      exact hslot (Int.toNat_of_nonneg hroom.1)
    · intro slot hslot
      have hself : slot = ⟨(retrieved + i).toNat, by omega⟩ := by
        ext
        dsimp only
        omega
      rw [hself, Function.update_self]
      exact ⟨_, converted, hconverted, rfl⟩
  · rw [dif_neg hroom] at hcopied
    cases hcopied

theorem copyResults_spec {max : ℕ} {data : List UInt8} {retrieved : ℤ} {n : ℕ}
    {results results' : Fin max → ScanResult layout}
    (hcopied : copyResults data retrieved n results = some results') :
    (∀ slot : Fin max, (slot : ℤ) < retrieved → results' slot = results slot) ∧
      ∀ slot : Fin max, ∀ i < n, (slot : ℤ) = retrieved + i →
        IsConversion (results' slot) (data.drop (gscanResultSize * i)) := by
  induction n generalizing results' with
  | zero =>
      cases hcopied
      exact ⟨fun _ _ => rfl, fun _ i hi => absurd hi (Nat.not_lt_zero i)⟩
  | succ n ih =>
      obtain ⟨before, hbefore, hlast⟩ := Option.bind_eq_some_iff.mp hcopied
      obtain ⟨hkept, hstored⟩ := ih hbefore
      obtain ⟨hothers, hslot⟩ := copyResult_spec hlast
      constructor
      · intro slot hlt
        rw [hothers slot (by omega)]
        exact hkept slot hlt
      · intro slot i hi hslotted
        rcases Nat.lt_succ_iff_lt_or_eq.mp hi with hearlier | rfl
        · rw [hothers slot (by omega)]
          exact hstored slot i hearlier hslotted
        · exact hslot slot hslotted

/-- An attribute has its results copied, or it leaves the retrieved ones as they are. -/
theorem visitScan_cases {outer a : Attr} {s t : ℤ × ScanResults layout command.max}
    (hvisit : visitScan command outer s a = some t) :
    (a.type = gscanAttributeScanResults ∧ s.1 ≠ 0 ∧
        t.2.retrieved = s.2.retrieved + taken command s.2.retrieved a ∧
        copyResults a.data s.2.retrieved (taken command s.2.retrieved a).toNat s.2.results =
          some t.2.results) ∨
      (t.2 = s.2 ∧ (a.type = gscanAttributeScanResults → s.1 = 0)) := by
  have hother {type : ℕ} (htype : a.type = type) (hne : type ≠ gscanAttributeScanResults) :
      a.type = gscanAttributeScanResults → s.1 = 0 := fun h => absurd (htype.symm.trans h) hne
  unfold visitScan at hvisit
  split_ifs at hvisit with hid hflags hcount hmask hresults
  · obtain ⟨n, -, rfl⟩ := Option.map_eq_some_iff.mp hvisit
    exact Or.inr ⟨rfl, hother hid (by decide)⟩
  · obtain ⟨n, -, rfl⟩ := Option.map_eq_some_iff.mp hvisit
    exact Or.inr ⟨rfl, hother hflags (by decide)⟩
  · obtain ⟨n, -, rfl⟩ := Option.map_eq_some_iff.mp hvisit
    exact Or.inr ⟨rfl, hother hcount (by decide)⟩
  · obtain ⟨n, -, rfl⟩ := Option.map_eq_some_iff.mp hvisit
    exact Or.inr ⟨rfl, hother hmask (by decide)⟩
  · obtain ⟨results, hcopied, hdone⟩ := Option.bind_eq_some_iff.mp hvisit
    cases hdone
    exact Or.inl ⟨hresults.1, hresults.2, rfl, hcopied⟩
  · cases hvisit
    refine Or.inr ⟨rfl, fun htype => ?_⟩
    by_contra hnum
    exact hresults ⟨htype, hnum⟩

namespace Retrieval

/-- Each entry retrieved is the conversion of the record that it is said to come from. -/
structure Sound {max : ℕ} (r : Retrieval layout max) : Prop where
  nonneg : 0 ≤ r.scan.retrieved
  le_max : r.scan.retrieved ≤ max
  length : (r.sources.length : ℤ) = r.scan.retrieved
  entries : ∀ slot : Fin max, (slot : ℤ) < r.scan.retrieved →
    ∃ p source, r.sources[slot.val]? = some p ∧ r.arrived[p]? = some source ∧
      IsConversion (r.scan.results slot) source

theorem sound_initial {max : ℕ} (results : Fin max → ScanResult layout) :
    (initial results).Sound where
  nonneg := le_rfl
  le_max := Int.natCast_nonneg max
  length := rfl
  entries := fun slot hslot => by
    have hnonneg := Int.natCast_nonneg slot.val
    simp only [initial] at hslot
    omega

theorem taken_bounds (hnum : command.num = command.max) {retrieved : ℤ}
    (hle : retrieved ≤ command.max) (a : Attr) :
    0 ≤ taken command retrieved a ∧ retrieved + taken command retrieved a ≤ command.max ∧
      taken command retrieved a ≤ ↑(a.len / gscanResultSize) := by
  unfold taken
  rw [hnum]
  generalize a.len / gscanResultSize = whole
  omega

theorem getElem?_wholeRecords {a : Attr} {i : ℕ} (htype : a.type = gscanAttributeScanResults)
    (hi : i < a.len / gscanResultSize) :
    (wholeRecords a)[i]? = some (a.data.drop (gscanResultSize * i)) := by
  rw [wholeRecords, if_pos htype, List.getElem?_map, List.getElem?_range hi]
  rfl

/-- The entries retrieved so far are not written again. -/
theorem visitItem_keeps {r t : Retrieval layout command.max} {item : ScanItem}
    (hvisit : r.visitItem command item = some t) (slot : Fin command.max)
    (hslot : (slot : ℤ) < r.scan.retrieved) : t.scan.results slot = r.scan.results slot := by
  cases item with
  | complete a =>
      obtain ⟨n, -, rfl⟩ := Option.map_eq_some_iff.mp hvisit
      rfl
  | nest =>
      cases hvisit
      rfl
  | inner outer a =>
      obtain ⟨s, hscan, rfl⟩ := Option.map_eq_some_iff.mp hvisit
      rcases visitScan_cases hscan with ⟨-, -, -, hcopied⟩ | ⟨hsame, -⟩
      · exact (copyResults_spec hcopied).1 slot hslot
      · dsimp only
        rw [hsame]

/-- An entry keeps its source when more records arrive and are retrieved. -/
theorem Sound.earlier_entry {max : ℕ} {r : Retrieval layout max} (hr : r.Sound)
    {results : Fin max → ScanResult layout} (later : List ℕ) (records : List (List UInt8))
    {slot : Fin max} (hslot : (slot : ℤ) < r.scan.retrieved)
    (hkept : results slot = r.scan.results slot) :
    ∃ p source, (r.sources ++ later)[slot.val]? = some p ∧
      (r.arrived ++ records)[p]? = some source ∧ IsConversion (results slot) source := by
  have hlength := hr.length
  rcases hr.entries slot hslot with ⟨p, source, hp, hsource, hconversion⟩
  refine ⟨p, source, ?_, ?_, ?_⟩
  · rw [List.getElem?_append_left (by omega), hp]
  · rw [List.getElem?_append_left (List.getElem?_eq_some_iff.mp hsource).1, hsource]
  · rw [hkept]
    exact hconversion

theorem Sound.visitItem {r t : Retrieval layout command.max} {item : ScanItem}
    (hnum : command.num = command.max) (hr : r.Sound)
    (hvisit : r.visitItem command item = some t) : t.Sound := by
  cases item with
  | complete a =>
      obtain ⟨n, -, rfl⟩ := Option.map_eq_some_iff.mp hvisit
      exact ⟨hr.nonneg, hr.le_max, hr.length, hr.entries⟩
  | nest =>
      cases hvisit
      exact ⟨hr.nonneg, hr.le_max, hr.length, hr.entries⟩
  | inner outer a =>
      have hkeeps := visitItem_keeps hvisit
      obtain ⟨s, hscan, rfl⟩ := Option.map_eq_some_iff.mp hvisit
      have hnonneg := hr.nonneg
      have hlength := hr.length
      rcases visitScan_cases hscan with ⟨htype, -, hretrieved, hcopied⟩ | ⟨hsame, -⟩
      · obtain ⟨htaken, hfits, hwhole⟩ := taken_bounds hnum hr.le_max a
        dsimp only at hretrieved hcopied
        generalize taken command r.scan.retrieved a = n at *
        have hnew : (s.2.retrieved - r.scan.retrieved).toNat = n.toNat := by omega
        refine ⟨by dsimp only; omega, by dsimp only; omega, ?_, fun slot hslot => ?_⟩
        · simp only [List.length_append, List.length_map, List.length_range, hnew]
          omega
        · by_cases hearlier : (slot : ℤ) < r.scan.retrieved
          · exact hr.earlier_entry _ _ hearlier (hkeeps slot hearlier)
          · dsimp only at hslot
            have hi : slot.val - r.sources.length < n.toNat := by omega
            refine ⟨r.arrived.length + (slot.val - r.sources.length),
              a.data.drop (gscanResultSize * (slot.val - r.sources.length)), ?_, ?_, ?_⟩
            · dsimp only
              rw [List.getElem?_append_right (by omega), hnew, List.getElem?_map,
                List.getElem?_range hi]
              rfl
            · dsimp only
              rw [List.getElem?_append_right (Nat.le_add_right _ _), Nat.add_sub_cancel_left,
                getElem?_wholeRecords htype (by omega)]
            · exact (copyResults_spec hcopied).2 slot _ hi (by omega)
      · dsimp only at hsame
        have hnone : (s.2.retrieved - r.scan.retrieved).toNat = 0 := by
          rw [hsame, Int.sub_self]
          rfl
        have hretrieved : s.2.retrieved = r.scan.retrieved := by rw [hsame]
        refine ⟨hretrieved.ge.trans' hnonneg, hretrieved.le.trans hr.le_max, ?_,
          fun slot hslot => ?_⟩
        · dsimp only
          rw [hnone, hretrieved, List.range_zero, List.map_nil, List.append_nil, hlength]
        · have hearlier : (slot : ℤ) < r.scan.retrieved := hslot.trans_eq hretrieved
          exact hr.earlier_entry _ _ hearlier (hkeeps slot hearlier)

/-! ## Order of arrival -/

/-- What becomes of the records: the entries are the first ones, in order, and if there is
room left none has been dropped. -/
structure Ordered {max : ℕ} (r : Retrieval layout max) : Prop where
  sources : r.sources = List.range r.scan.retrieved.toNat
  dropped : r.scan.retrieved < max → (r.arrived.length : ℤ) = r.scan.retrieved

/-- A record that there was room for has arrived and is not among the entries. -/
def Lost {max : ℕ} (r : Retrieval layout max) : Prop :=
  ∃ p < max, p < r.arrived.length ∧ p ∉ r.sources

theorem visitItem_history {r t : Retrieval layout command.max} {item : ScanItem}
    (hvisit : r.visitItem command item = some t) :
    ∃ records n, t.arrived = r.arrived ++ records ∧
      t.sources = r.sources ++ (List.range n).map (r.arrived.length + ·) := by
  cases item with
  | complete a =>
      obtain ⟨n, -, rfl⟩ := Option.map_eq_some_iff.mp hvisit
      exact ⟨[], 0, by simp, by simp⟩
  | nest =>
      cases hvisit
      exact ⟨[], 0, by simp, by simp⟩
  | inner outer a =>
      obtain ⟨s, -, rfl⟩ := Option.map_eq_some_iff.mp hvisit
      exact ⟨wholeRecords a, _, rfl, rfl⟩

theorem Lost.visitItem {r t : Retrieval layout command.max} {item : ScanItem} (hlost : r.Lost)
    (hvisit : r.visitItem command item = some t) : t.Lost := by
  obtain ⟨p, hmax, harrived, hmissing⟩ := hlost
  obtain ⟨records, n, hrecords, hsources⟩ := visitItem_history hvisit
  refine ⟨p, hmax, ?_, ?_⟩
  · rw [hrecords, List.length_append]
    omega
  · rw [hsources, List.mem_append, not_or]
    refine ⟨hmissing, fun hlater => ?_⟩
    obtain ⟨i, -, hi⟩ := List.mem_map.mp hlater
    omega

theorem Lost.not_ordered {max : ℕ} {r : Retrieval layout max} (hlost : r.Lost) : ¬ r.Ordered := by
  rintro ⟨hsources, hdropped⟩
  obtain ⟨p, hmax, harrived, hmissing⟩ := hlost
  rw [hsources, List.mem_range] at hmissing
  have hall := hdropped (by omega)
  omega

end Retrieval

/-- A results attribute with a whole record is looked at, while there is room. -/
def Heeded (command : ScanResultsCommand) (counts : ℤ × ℤ) : ScanItem → Prop
  | .complete _ => True
  | .nest => True
  | .inner _ a =>
      a.type = gscanAttributeScanResults → gscanResultSize ≤ a.len →
        counts.2 < command.max → counts.1 ≠ 0

namespace Retrieval

theorem length_wholeRecords (a : Attr) :
    (wholeRecords a).length =
      if a.type = gscanAttributeScanResults then a.len / gscanResultSize else 0 := by
  unfold wholeRecords
  split_ifs <;> simp

theorem Ordered.visitItem {r t : Retrieval layout command.max} {item : ScanItem}
    (hnum : command.num = command.max) (hr : r.Sound) (hordered : r.Ordered)
    (hheeded : Heeded command r.counts item) (hvisit : r.visitItem command item = some t) :
    t.Ordered := by
  cases item with
  | complete a =>
      obtain ⟨n, -, rfl⟩ := Option.map_eq_some_iff.mp hvisit
      exact ⟨hordered.sources, hordered.dropped⟩
  | nest =>
      cases hvisit
      exact ⟨hordered.sources, hordered.dropped⟩
  | inner outer a =>
      obtain ⟨s, hscan, rfl⟩ := Option.map_eq_some_iff.mp hvisit
      have hnonneg := hr.nonneg
      have hle := hr.le_max
      have hdropped := hordered.dropped
      have hlength := length_wholeRecords a
      rcases visitScan_cases hscan with ⟨htype, -, hretrieved, -⟩ | ⟨hsame, hzero⟩
      · obtain ⟨htaken, hfits, -⟩ := taken_bounds hnum hle a
        have hall : taken command r.scan.retrieved a =
            min (command.max - r.scan.retrieved) ↑(a.len / gscanResultSize) := by
          rw [taken, hnum]
        rw [if_pos htype] at hlength
        dsimp only at hretrieved
        generalize taken command r.scan.retrieved a = n at *
        generalize a.len / gscanResultSize = whole at *
        refine ⟨?_, fun hroom => ?_⟩
        · dsimp only
          rw [hordered.sources, show (s.2.retrieved - r.scan.retrieved).toNat = n.toNat by omega]
          by_cases hroom : r.scan.retrieved < command.max
          · rw [show r.arrived.length = r.scan.retrieved.toNat by have := hdropped hroom; omega,
              ← List.range_add]
            congr 1
            omega
          · rw [show n.toNat = 0 by omega, List.range_zero, List.map_nil, List.append_nil]
            congr 1
            omega
        · dsimp only at hroom ⊢
          rw [List.length_append, hlength]
          have hbefore := hdropped (by omega)
          omega
      · dsimp only at hsame hzero
        refine ⟨?_, fun hroom => ?_⟩
        · dsimp only
          rw [hsame, Int.sub_self, Int.toNat_zero, List.range_zero, List.map_nil, List.append_nil,
            hordered.sources]
        · dsimp only at hroom ⊢
          rw [hsame] at hroom ⊢
          have hnone : (wholeRecords a).length = 0 := by
            rw [hlength]
            split_ifs with htype
            · apply Nat.div_eq_of_lt
              by_contra hwhole
              exact hheeded htype (Nat.le_of_not_lt hwhole) hroom (hzero htype)
            · rfl
          rw [List.length_append, hnone, Nat.add_zero, hdropped hroom]

/-- Nothing is taken from a results attribute that is not looked at. -/
theorem lost_of_not_heeded {r t : Retrieval layout command.max} {item : ScanItem}
    (hordered : r.Ordered) (hheeded : ¬ Heeded command r.counts item)
    (hvisit : r.visitItem command item = some t) : t.Lost := by
  cases item with
  | complete a => exact absurd trivial hheeded
  | nest => exact absurd trivial hheeded
  | inner outer a =>
      simp only [Heeded, Classical.not_imp, not_not] at hheeded
      obtain ⟨htype, hwhole, hroom, hzero⟩ := hheeded
      obtain ⟨s, hscan, rfl⟩ := Option.map_eq_some_iff.mp hvisit
      have hbefore := hordered.dropped hroom
      have hsame : s.2 = r.scan := by
        rcases visitScan_cases hscan with ⟨-, hne, -⟩ | ⟨hsame, -⟩
        · exact absurd hzero hne
        · exact hsame
      have hone : 0 < a.len / gscanResultSize := Nat.div_pos hwhole (by decide)
      have hmax : r.scan.retrieved < command.max := hroom
      refine ⟨r.arrived.length, by omega, ?_, ?_⟩
      · dsimp only
        rw [List.length_append, length_wholeRecords, if_pos htype]
        omega
      · dsimp only
        rw [hsame, Int.sub_self, Int.toNat_zero, List.range_zero, List.map_nil, List.append_nil,
          hordered.sources, List.mem_range]
        omega

/-! ## Runs -/

theorem sound_of_run {r t : Retrieval layout command.max} {items : List ScanItem}
    (hnum : command.num = command.max) (hr : r.Sound)
    (hrun : run (visitItem command) r items = some t) : t.Sound := by
  induction items generalizing r with
  | nil =>
      cases hrun
      exact hr
  | cons item items ih =>
      rw [Transition.run] at hrun
      cases hvisit : r.visitItem command item with
      | none => simp [hvisit] at hrun
      | some next =>
          simp only [hvisit] at hrun
          exact ih (hr.visitItem hnum hvisit) hrun

theorem run_keeps {r t : Retrieval layout command.max} {items : List ScanItem}
    (hnum : command.num = command.max) (hr : r.Sound)
    (hrun : run (visitItem command) r items = some t) (slot : Fin command.max)
    (hslot : (slot : ℤ) < r.scan.retrieved) : t.scan.results slot = r.scan.results slot := by
  induction items generalizing r with
  | nil =>
      cases hrun
      rfl
  | cons item items ih =>
      rw [Transition.run] at hrun
      cases hvisit : r.visitItem command item with
      | none => simp [hvisit] at hrun
      | some next =>
          simp only [hvisit] at hrun
          have hnext := hr.visitItem hnum hvisit
          obtain ⟨records, n, -, hsources⟩ := visitItem_history hvisit
          have hmore : r.scan.retrieved ≤ next.scan.retrieved := by
            rw [← hr.length, ← hnext.length, hsources, List.length_append]
            omega
          rw [ih hnext hrun (by omega)]
          exact visitItem_keeps hvisit slot hslot

/-- The order of arrival is kept exactly as long as every results attribute is heeded. -/
theorem ordered_iff {results : Fin command.max → ScanResult layout}
    {t : Retrieval layout command.max} {items : List ScanItem} (hnum : command.num = command.max)
    (hrun : run (visitItem command) (initial results) items = some t) :
    t.Ordered ↔ Admits (Heeded command) (itemCounts command) (0, 0) items := by
  have hguarded : runGuarded (visitItem command) (fun r => Heeded command r.counts)
      (initial results) items ↔
        Admits (Heeded command) (itemCounts command) (initial results).counts items :=
    runGuarded_view_iff counts_visitItem hrun
  refine Iff.trans ?_ hguarded
  apply holds_at_end_iff (fun r => r.Sound ∧ r.Ordered) Lost
  · rintro r next item ⟨hsound, hordered⟩ hheeded hvisit
    exact ⟨hsound.visitItem hnum hvisit, hordered.visitItem hnum hsound hheeded hvisit⟩
  · rintro r next item ⟨hsound, hordered⟩ hheeded hvisit
    exact lost_of_not_heeded hordered hheeded hvisit
  · intro r next item hlost hvisit
    exact hlost.visitItem hvisit
  · exact fun hinv => hinv.2
  · exact Lost.not_ordered
  · exact ⟨sound_initial results, rfl, fun _ => rfl⟩
  · exact hrun

end Retrieval

/-- What the output is to be after the items of all replies: bounded, the records in
order of arrival, no entry written twice, no record dropped while there is room. -/
structure Delivered (results : Fin command.max → ScanResult layout) (items : List ScanItem)
    (num : ℤ) (r : Retrieval layout command.max) : Prop where
  run_eq : run (Retrieval.visitItem command) (.initial results) items = some r
  nonneg : 0 ≤ num
  le_max : num ≤ command.max
  sources : r.sources = List.range num.toNat
  entries : ∀ slot : Fin command.max, (slot : ℤ) < num →
    ∃ source, r.arrived[slot.val]? = some source ∧ IsConversion (r.scan.results slot) source
  kept : ∀ before later between, items = before ++ later →
    run (Retrieval.visitItem command) (.initial results) before = some between →
      ∀ slot : Fin command.max, (slot : ℤ) < between.scan.retrieved →
        r.scan.results slot = between.scan.results slot
  dropped : num < command.max → (r.arrived.length : ℤ) = num

/-- At most ten requests, and on success the output as it is to be. -/
def RetrievesAll (driver : ℕ → RequestOutcome) (results : Fin command.max → ScanResult layout)
    (e : Execution layout command.max) : Prop :=
  e.requests ≤ 10 ∧ (e.result = wifiSuccess →
    ∃ r, r.scan = e.scan ∧
      Delivered results ((repliesFrom driver 0 e.requests).flatMap replyItems) e.num r)

theorem scan_results_retrieved_iff (hnum : command.num = command.max)
    {driver : ℕ → RequestOutcome} {results : Fin command.max → ScanResult layout}
    {e : Execution layout command.max} (hexecute : execute command driver results = some e) :
    RetrievesAll driver results e ↔
      (e.result = wifiSuccess → Admits (Heeded command) (itemCounts command) (0, 0)
        ((repliesFrom driver 0 e.requests).flatMap replyItems)) := by
  obtain ⟨-, hrequests, hsuccess⟩ := executeLoop_spec hexecute
  rw [Nat.zero_add] at hrequests
  unfold RetrievesAll
  rw [and_iff_right hrequests]
  refine imp_congr_right fun hresult => ?_
  obtain ⟨hretrieved, hreplies⟩ := hsuccess hresult
  rw [Nat.sub_zero] at hreplies
  obtain ⟨r, hrun, hscan⟩ := run_items hreplies (r := .initial results) rfl
  have hsound := Retrieval.sound_of_run hnum (Retrieval.sound_initial results) hrun
  rw [← Retrieval.ordered_iff hnum hrun]
  constructor
  · rintro ⟨r', hscan', hdelivered⟩
    obtain rfl : r = r' := Option.some.inj (hrun.symm.trans hdelivered.run_eq)
    rw [← hscan] at hretrieved
    refine ⟨?_, ?_⟩
    · rw [← hretrieved]
      exact hdelivered.sources
    · rw [← hretrieved]
      exact hdelivered.dropped
  · intro hordered
    rw [← hscan] at hretrieved
    refine ⟨r, hscan, hrun, ?_, ?_, ?_, ?_, ?_, ?_⟩
    · rw [hretrieved]
      exact hsound.nonneg
    · rw [hretrieved]
      exact hsound.le_max
    · rw [hretrieved]
      exact hordered.sources
    · intro slot hslot
      rw [hretrieved] at hslot
      obtain ⟨p, source, hp, hsource, hconversion⟩ := hsound.entries slot hslot
      rw [hordered.sources, List.getElem?_range (by omega)] at hp
      cases hp
      exact ⟨source, hsource, hconversion⟩
    · intro before later between hitems hbefore
      have hfirst := Retrieval.sound_of_run hnum (Retrieval.sound_initial results) hbefore
      rw [hitems, run_append, hbefore, Option.bind_some] at hrun
      exact Retrieval.run_keeps hnum hfirst hrun
    · rw [hretrieved]
      exact hordered.dropped

end Items

/-! ## A results attribute without a record -/

def encodeAttr (type : ℕ) (payload : List UInt8) : List UInt8 :=
  [UInt8.ofNat (payload.length + 4), UInt8.ofNat ((payload.length + 4) / 256),
    UInt8.ofNat type, UInt8.ofNat (type / 256)] ++ payload

/-- A reply with one nest. -/
def nestReply (attrs : List UInt8) : VendorMessage :=
  ⟨nl80211CmdVendor, none, none, some (encodeAttr gscanAttributeScanResults attrs)⟩

def oneCount : List UInt8 := encodeAttr gscanAttributeNumOfResults [1, 0, 0, 0]
def noRecord : List UInt8 := encodeAttr gscanAttributeScanResults []
def oneRecord : List UInt8 := encodeAttr gscanAttributeScanResults (List.replicate 80 0)

def fourResults : ScanResultsCommand := ⟨4, 4⟩

/-- The same reply to every request. -/
def driverOf (attrs : List UInt8) (_ : ℕ) : RequestOutcome := ⟨0, [nestReply attrs], 0⟩

def unset (_ : Fin fourResults.max) : ScanResult layout64 := .zero layout64

theorem execute_oneRecord :
    (execute fourResults (driverOf (oneCount ++ oneRecord)) unset).isSome := by
  decide +kernel

theorem scan_results_retrieved_one :
    RetrievesAll (driverOf (oneCount ++ oneRecord)) unset
        ((execute fourResults (driverOf (oneCount ++ oneRecord)) unset).get execute_oneRecord) ↔
      (((execute fourResults (driverOf (oneCount ++ oneRecord)) unset).get
          execute_oneRecord).result = wifiSuccess →
        Admits (Heeded fourResults) (itemCounts fourResults) (0, 0)
          ((repliesFrom (driverOf (oneCount ++ oneRecord)) 0
            ((execute fourResults (driverOf (oneCount ++ oneRecord)) unset).get
              execute_oneRecord).requests).flatMap replyItems)) :=
  scan_results_retrieved_iff rfl (Option.some_get execute_oneRecord).symm

/-- Behind a results attribute without a record the next one is passed over. -/
theorem record_passed_over :
    (execute fourResults (driverOf (oneCount ++ noRecord ++ oneRecord)) unset).isSome ∧
      ∀ e, execute fourResults (driverOf (oneCount ++ noRecord ++ oneRecord)) unset = some e →
        e.result = wifiSuccess ∧
          ¬ RetrievesAll (driverOf (oneCount ++ noRecord ++ oneRecord)) unset e := by
  have hexecution : (execute fourResults (driverOf (oneCount ++ noRecord ++ oneRecord)) unset).map
      (fun e => (e.requests, e.result, e.num)) = some (1, wifiSuccess, 0) := by
    decide +kernel
  have harrived : (run (Retrieval.visitItem fourResults) (.initial unset)
      ((repliesFrom (driverOf (oneCount ++ noRecord ++ oneRecord)) 0 1).flatMap replyItems)).map
        (fun r => r.arrived.length) = some 1 := by
    decide +kernel
  refine ⟨by decide +kernel, fun e hexecute => ?_⟩
  rw [hexecute, Option.map_some, Option.some.injEq, Prod.mk.injEq, Prod.mk.injEq] at hexecution
  obtain ⟨hrequests, hresult, hnum⟩ := hexecution
  refine ⟨hresult, fun hall => ?_⟩
  obtain ⟨r, -, hdelivered⟩ := hall.2 hresult
  have hdropped := hdelivered.dropped (by rw [hnum]; decide)
  have hrun := hdelivered.run_eq
  rw [hrequests] at hrun
  rw [hrun, Option.map_some, Option.some.injEq] at harrived
  rw [harrived, hnum] at hdropped
  exact absurd hdropped (by decide)

end Wifi
end MediatekHardware
