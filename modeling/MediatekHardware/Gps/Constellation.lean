import MediatekHardware.Gps.SatelliteTable
import Mathlib.Tactic

/-!
# Constellation and id of a satellite

An id is a number from a text that may be empty, moved by 200 in a sentence of BeiDou.
The filter lets 200 through, which belongs to no constellation, and the ids of BeiDou
from any talker.
-/

namespace MediatekHardware
namespace Gps

/-! ## Texts of ids -/

def IsNumeric : List UInt8 → Prop
  | [] => False
  | c :: text =>
      if c = minus then text ≠ [] ∧ ∀ d ∈ text, isDigit d = true
      else ∀ d ∈ c :: text, isDigit d = true

theorem digitLoop_eq_none {text : List UInt8} (hdigits : ¬ ∀ d ∈ text, isDigit d = true)
    (result : ℤ) : digitLoop result text = none := by
  induction text generalizing result with
  | nil => exact absurd (fun d hd => absurd hd List.not_mem_nil) hdigits
  | cons c text ih =>
      rw [digitLoop]
      split_ifs with hc
      · apply ih
        intro hrest
        exact hdigits (List.forall_mem_cons.mpr ⟨hc, hrest⟩)
      · rfl

theorem range_eq_cons_of_ne_nil {array : List UInt8} {p stop : ℕ}
    (hne : range array p stop ≠ []) :
    range array p stop = array.getD p 0 :: range array (p + 1) stop := by
  have hlength : p < (array.take stop).length := by
    by_contra hshort
    exact hne (List.drop_of_length_le (Nat.le_of_not_lt hshort))
  rw [List.length_take] at hlength
  have hstop : range array p stop = range array p (min stop array.length) := by
    unfold range
    rw [List.take_eq_take_min]
  have hstop' : range array (p + 1) stop = range array (p + 1) (min stop array.length) := by
    unfold range
    rw [List.take_eq_take_min]
  rw [hstop, hstop', range_eq_cons hlength (min_le_right _ _)]

theorem Token.int_of_not_isNumeric {tok : Token} (hnot : ¬ IsNumeric tok.text) :
    tok.int = 0 ∨ tok.int = -1 := by
  unfold Token.int str2int
  by_cases hempty : range tok.array tok.p tok.stop = []
  · have hnext : range tok.array (tok.p + 1) tok.stop = [] := by
      rw [← drop_range, hempty, List.drop_nil]
    left
    rw [hempty, hnext]
    split_ifs <;> rfl
  · have hcons := range_eq_cons_of_ne_nil hempty
    have htext : tok.text = range tok.array tok.p tok.stop := rfl
    rw [htext, hcons, IsNumeric] at hnot
    split_ifs at hnot ⊢ with hminus
    · by_cases hrest : range tok.array (tok.p + 1) tok.stop = []
      · left
        rw [hrest]
        rfl
      · right
        rw [digitLoop_eq_none fun hdigits => hnot ⟨hrest, hdigits⟩]
        rfl
    · right
      rw [hcons, digitLoop_eq_none hnot]
      rfl

/-! ## Agreement -/

def EntryAgrees (bds : Bool) (e : GnssSvInfo) : Prop :=
  (1 ≤ e.svid ∧ e.svid ≤ 32 ∧ e.constellation = .gps) ∨
    (65 ≤ e.svid ∧ e.svid ≤ 96 ∧ e.constellation = .glonass) ∨
    (201 ≤ e.svid ∧ e.svid ≤ 232 ∧ e.constellation = .beidou ∧ bds = true)

/-- The fields of a satellite add nothing, or the id is a number and the entry agrees. -/
def GroupAgrees (bds : Bool) (idText : List UInt8)
    (before after : SvStatus gnssMaxSvs GnssSvInfo) : Prop :=
  after = before ∨
    IsNumeric idText ∧
      ∃ e, after = before.write (before.svCount + before.numSvs) e ∧ EntryAgrees bds e

def GroupsAgree (used : ℤ → Bool) (t : NmeaTokenizer) (bds : Bool) :
    List ℕ → SvStatus gnssMaxSvs GnssSvInfo → Prop
  | [], _ => True
  | idx :: indices, sv =>
      GroupAgrees bds (nmeaTokenizerGet t (4 * (idx + 1))).text sv
          (gsvGroup gnssMode used t bds sv idx) ∧
        GroupsAgree used t bds indices (gsvGroup gnssMode used t bds sv idx)

def IsGsv (sentence : NmeaSentence) : Prop :=
  IsParsed sentence ∧
    sentenceKind gnssMode (nmeaTokenizerGet (tokenizerOf sentence) 0) = .gsv

instance (sentence : NmeaSentence) : Decidable (IsGsv sentence) :=
  inferInstanceAs (Decidable (_ ∧ _))

/-- Every satellite of a GSV sentence, in the loop of the parser. -/
def SentenceAgrees (r : SvReader gnssMaxSvs GnssSvInfo) (sentence : NmeaSentence) : Prop :=
  let t := tokenizerOf sentence
  IsGsv sentence →
    GroupsAgree r.svUsedInFix t (isBds (nmeaTokenizerGet t 0)) (List.range (gsvSvNum t).toNat)
      (gsvStart t r.sv)

/-- An id of no constellation, or one of BeiDou from another talker. -/
def Disagrees (bds : Bool) (id : ℤ) : Prop := id = 200 ∨ (201 ≤ id ∧ id ≤ 232 ∧ bds = false)

def IdsAgree (r : SvReader gnssMaxSvs GnssSvInfo) (sentence : NmeaSentence) : Prop :=
  let t := tokenizerOf sentence
  let bds := isBds (nmeaTokenizerGet t 0)
  IsGsv sentence → ∀ id ∈ takenIds gnssMode t bds r.sv, ¬ Disagrees bds id

theorem gnssAccepts_iff (id : ℤ) :
    gnssAccepts id = true ↔
      (1 ≤ id ∧ id ≤ 32) ∨ (65 ≤ id ∧ id ≤ 96) ∨ (200 ≤ id ∧ id ≤ 232) := by
  unfold gnssAccepts gpsMaxSvs
  simp only [Bool.not_eq_true', Bool.or_eq_false_iff, Bool.and_eq_false_iff, decide_eq_false_iff_not]
  omega

theorem entryAgrees_iff {bds : Bool} {e : GnssSvInfo} (haccepts : gnssAccepts e.svid = true)
    (hconstellation : e.constellation = constellationOf e.svid) :
    EntryAgrees bds e ↔ ¬ Disagrees bds e.svid := by
  rw [gnssAccepts_iff] at haccepts
  unfold EntryAgrees Disagrees
  rw [hconstellation, constellationOf]
  rcases haccepts with hgps | hglonass | hbeidou
  · rw [if_pos (by omega)]
    exact iff_of_true (.inl ⟨hgps.1, hgps.2, rfl⟩) (by omega)
  · rw [if_neg (by omega), if_neg (by omega)]
    exact iff_of_true (.inr (.inl ⟨hglonass.1, hglonass.2, rfl⟩)) (by omega)
  · cases bds with
    | true =>
        simp only [Bool.true_eq_false, and_false, or_false, and_true]
        constructor
        · omega
        · intro hne
          rw [if_neg (by omega), if_pos (by omega)]
          exact .inr (.inr ⟨by omega, hbeidou.2, rfl⟩)
    | false =>
        simp only [Bool.false_eq_true, and_false, or_false, and_true]
        omega

theorem isNumeric_of_accepted {bds : Bool} {tok : Token}
    (haccepts : gnssAccepts (svId bds tok) = true) (hagrees : ¬ Disagrees bds (svId bds tok)) :
    IsNumeric tok.text := by
  by_contra hnot
  rw [gnssAccepts_iff] at haccepts
  unfold Disagrees at hagrees
  have hint := Token.int_of_not_isNumeric hnot
  unfold svId at haccepts hagrees
  cases bds with
  | false =>
      simp only [Bool.false_eq_true, if_false] at haccepts
      omega
  | true =>
      simp only [if_true] at haccepts hagrees
      rcases hint with hzero | hfailed
      · rw [hzero] at hagrees
        exact hagrees (.inl rfl)
      · rw [hfailed] at haccepts
        have hmoved : toInt (-1 + 200) = 199 := rfl
        rw [hmoved] at haccepts
        omega

theorem groupAgrees_iff (used : ℤ → Bool) (t : NmeaTokenizer) (bds : Bool)
    (sv : SvStatus gnssMaxSvs GnssSvInfo) (idx : ℕ) :
    GroupAgrees bds (nmeaTokenizerGet t (4 * (idx + 1))).text sv
        (gsvGroup gnssMode used t bds sv idx) ↔
      (gnssMode.accepts (gsvId t bds idx) = true ∧ 0 < sv.room →
        ¬ Disagrees bds (gsvId t bds idx)) := by
  rw [gsvGroup_eq]
  by_cases htaken : gnssMode.accepts (gsvId t bds idx) = true ∧ 0 < sv.room
  · rw [if_pos htaken]
    generalize hinfo : gnssMode.info _ _ _ _ _ = e
    have hsvid : e.svid = gsvId t bds idx := by rw [← hinfo]; rfl
    have hconstellation : e.constellation = constellationOf e.svid := by rw [← hinfo]; rfl
    have hagrees := @entryAgrees_iff bds e (hsvid ▸ htaken.1) hconstellation
    rw [hsvid] at hagrees
    constructor
    · rintro (hsame | ⟨_, e', hwritten, hentry⟩) _
      · have hcount := congrArg SvStatus.svCount hsame
        rw [SvStatus.svCount_write] at hcount
        omega
      · have hlist := congrArg (fun sv => sv.history.written) hwritten
        have hpair := (List.append_inj' hlist rfl).2
        simp only [List.cons.injEq, Prod.mk.injEq, and_true, true_and] at hpair
        rw [hpair] at hagrees
        exact hagrees.mp hentry
    · intro hnot
      exact .inr ⟨isNumeric_of_accepted htaken.1 (hnot htaken), e, rfl, hagrees.mpr (hnot htaken)⟩
  · rw [if_neg htaken]
    exact iff_of_true (.inl rfl) fun h => absurd h htaken

theorem groupsAgree_iff (used : ℤ → Bool) (t : NmeaTokenizer) (bds : Bool) (indices : List ℕ)
    (sv : SvStatus gnssMaxSvs GnssSvInfo) :
    GroupsAgree used t bds indices sv ↔
      ∀ id ∈ takenOf gnssMode t bds indices sv.room, ¬ Disagrees bds id := by
  induction indices generalizing sv with
  | nil => exact iff_of_true trivial fun id hid => by simp [takenOf] at hid
  | cons idx indices ih =>
      rw [GroupsAgree, groupAgrees_iff, ih, gsvGroup_eq]
      by_cases htaken : gnssMode.accepts (gsvId t bds idx) = true ∧ 0 < sv.room
      · rw [if_pos htaken, SvStatus.room_write, takenOf_cons_of_taken htaken.1 htaken.2,
          List.forall_mem_cons]
        simp only [htaken, and_self, forall_const]
      · rw [if_neg htaken, takenOf_cons_of_ignored htaken]
        simp only [htaken, false_imp_iff, true_and]

/-- The entries of a sentence agree exactly if no id that is taken is 200 or, from
another talker, one of BeiDou. -/
theorem constellation_agrees_iff (r : SvReader gnssMaxSvs GnssSvInfo) (sentence : NmeaSentence) :
    SentenceAgrees r sentence ↔ IdsAgree r sentence :=
  imp_congr_right fun _ => groupsAgree_iff _ _ _ _ _

/-! ## An empty id of BeiDou -/

def emptyBeidouId : NmeaSentence := ⟨ascii "$BDGSV,1,1,02,05,40,120,35,,,,*7A\n", true⟩

theorem constellation_empty_beidou_id : ¬ SentenceAgrees gnssInit emptyBeidouId := by
  intro hagrees
  have hgsv : IsGsv emptyBeidouId := by decide +kernel
  have htaken : (200 : ℤ) ∈ takenIds gnssMode (tokenizerOf emptyBeidouId)
      (isBds (nmeaTokenizerGet (tokenizerOf emptyBeidouId) 0)) gnssInit.sv := by
    decide +kernel
  exact (groupsAgree_iff _ _ _ _ _).mp (hagrees hgsv) 200 htaken (.inl rfl)

end Gps
end MediatekHardware
