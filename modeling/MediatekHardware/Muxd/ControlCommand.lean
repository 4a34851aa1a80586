import MediatekHardware.Muxd.LinkControl
import Mathlib.Data.List.GetD
import Mathlib.Data.List.TakeWhile
import Mathlib.Tactic

/-!
# What `handle_command` reads of a control frame

Type and length field end with a byte that has the EA bit.  Both scans stop at
the end of the frame, but the type length counts one byte more than the scan has
seen, and the response to an unknown command copies that many bytes, taken
modulo 128.
-/

namespace MediatekHardware
namespace Muxd

/-! ## Reads and writes -/

def continues (byte : Byte) : Bool := byte &&& gsm0710Ea == 0

/-- The loops over the type and the length field, from index `i` on, where the
given bytes stand: the indices read and the index reached. -/
def scanField : List Byte → ℕ → List ℕ × ℕ
  | [], i => ([], i)
  | byte :: rest, i =>
      if continues byte then
        (i :: (scanField rest (i + 1)).1, (scanField rest (i + 1)).2)
      else ([i], i)

/-- The bytes asked from `malloc`, and what is stored where, in order. -/
structure NscResponse where
  allocated : ℕ
  writes : List (ℕ × Byte)
  deriving DecidableEq, Repr

namespace NscResponse

def bytes (response : NscResponse) : List Byte := response.writes.map Prod.snd

/-- Behind message type and length. -/
def value (response : NscResponse) : List Byte := response.bytes.drop 2

end NscResponse

/-- `type_length` is cut to 7 bits behind the allocation. -/
def nscResponse (data : List Byte) (typeLength : ℕ) : NscResponse where
  allocated := 2 + typeLength
  writes :=
    [(0, gsm0710ControlNsc), (1, gsm0710Ea ||| (UInt8.ofNat (typeLength % 128) <<< 1))] ++
      (List.range (typeLength % 128)).map fun k => (k + 2, data.getD k 0)

structure CommandAccess where
  reads : List ℕ
  response : Option NscResponse
  deriving DecidableEq, Repr

/-- `handle_command` with the indices of `frame->data` that it reads. -/
def commandAccess (data : List Byte) : CommandAccess :=
  match data with
  | [] => ⟨[], none⟩
  | type :: _ =>
      let typeScan := scanField data 0
      let typeLength := typeScan.2 + 1
      if type &&& gsm0710Cr = gsm0710Cr then
        let lengthScan := scanField (data.drop typeLength) typeLength
        let i := lengthScan.2 + 1
        let header := 0 :: (typeScan.1 ++ lengthScan.1)
        if gsm0710CommandIs type gsm0710ControlCld || gsm0710CommandIs type gsm0710ControlPsc ||
            gsm0710CommandIs type gsm0710ControlTest ||
            gsm0710CommandIs type gsm0710ControlPn then
          ⟨header ++ [0], none⟩
        else if gsm0710CommandIs type gsm0710ControlMsc then
          ⟨header ++ (if i + 1 < data.length then [i, i + 1] else []) ++ [0], none⟩
        else
          ⟨header ++ List.range (typeLength % 128), some (nscResponse data typeLength)⟩
      else ⟨0 :: typeScan.1, none⟩

/-! ## What is asked of it -/

/-- The bytes up to the first one that has the EA bit. -/
def typeField (data : List Byte) : List Byte :=
  data.takeWhile continues ++ (data.dropWhile continues).take 1

structure StaysInFrame (data : List Byte) : Prop where
  reads : ∀ k ∈ (commandAccess data).reads, k < data.length
  writes : ∀ response, (commandAccess data).response = some response →
    ∀ write ∈ response.writes, write.1 < response.allocated
  value : ∀ response, (commandAccess data).response = some response →
    response.value = typeField data

/-- The type field of a command ends within the first 127 bytes. -/
def TypeFieldEnds (data : List Byte) : Prop :=
  data.headI &&& gsm0710Cr = gsm0710Cr →
    ∃ byte ∈ data.take 127, continues byte = false

/-! ## The scans -/

section Scan

variable {data : List Byte}

theorem scanField_reads (rest : List Byte) (i : ℕ) :
    ∀ k ∈ (scanField rest i).1, k < i + rest.length := by
  induction rest generalizing i with
  | nil =>
      intro k hk
      cases hk
  | cons byte rest ih =>
      intro k hk
      rw [scanField] at hk
      rw [List.length_cons]
      split at hk
      · rcases List.mem_cons.mp hk with rfl | hrest
        · omega
        · have hlt := ih (i + 1) k hrest
          omega
      · rw [List.mem_singleton.mp hk]
        omega

theorem scanField_index (rest : List Byte) (i : ℕ) :
    (scanField rest i).2 = i + (rest.takeWhile continues).length := by
  induction rest generalizing i with
  | nil => rfl
  | cons byte rest ih =>
      cases hbyte : continues byte with
      | true =>
          rw [scanField, if_pos hbyte, List.takeWhile_cons_of_pos hbyte, List.length_cons,
            ih (i + 1)]
          omega
      | false =>
          have hstop : ¬ continues byte = true := by rw [hbyte]; exact Bool.false_ne_true
          rw [scanField, if_neg hstop, List.takeWhile_cons_of_neg hstop]
          rfl

theorem scanField_drop_reads (i : ℕ) :
    ∀ k ∈ (scanField (data.drop i) i).1, k < data.length := by
  intro k hk
  have hlt := scanField_reads (data.drop i) i k hk
  rw [List.length_drop] at hlt
  by_cases hi : i ≤ data.length
  · omega
  · rw [List.drop_eq_nil_of_le (by omega)] at hk
    cases hk

theorem length_typeField (data : List Byte) :
    (typeField data).length =
      min ((data.takeWhile continues).length + 1) data.length := by
  have hsplit := congrArg List.length
    (List.takeWhile_append_dropWhile (p := continues) (l := data))
  rw [List.length_append] at hsplit
  rw [typeField, List.length_append, List.length_take]
  omega

theorem typeField_eq_take (data : List Byte) :
    typeField data = data.take ((data.takeWhile continues).length + 1) := by
  have hsplit := List.takeWhile_append_dropWhile (p := continues) (l := data)
  have htake := @List.take_length_add_append _ (data.takeWhile continues)
    (data.dropWhile continues) 1
  rw [hsplit] at htake
  rw [typeField, htake]

theorem length_takeWhile_lt {n : ℕ} (hends : ∃ byte ∈ data.take n, continues byte = false) :
    (data.takeWhile continues).length < n ∧
      (data.takeWhile continues).length < data.length := by
  obtain ⟨byte, hmem, hbyte⟩ := hends
  obtain ⟨k, hk, hget⟩ := List.getElem_of_mem hmem
  rw [List.length_take] at hk
  rw [List.getElem_take] at hget
  have hle : (data.takeWhile continues).length ≤ k := by
    by_contra hgt
    rw [Nat.not_le] at hgt
    have hall := List.mem_takeWhile_imp (List.getElem_mem hgt)
    rw [(List.takeWhile_prefix continues).getElem hgt, hget, hbyte] at hall
    cases hall
  omega

theorem le_length_takeWhile {n : ℕ}
    (hends : ¬ ∃ byte ∈ data.take n, continues byte = false) :
    min n data.length ≤ (data.takeWhile continues).length := by
  have hall : ∀ byte ∈ data.take n, continues byte = true := by
    intro byte hmem
    by_contra hbyte
    exact hends ⟨byte, hmem, Bool.eq_false_iff.mpr hbyte⟩
  have hsplit := @List.takeWhile_append_of_pos _ continues (data.take n) (data.drop n) hall
  rw [List.take_append_drop] at hsplit
  rw [hsplit, List.length_append, List.length_take]
  exact Nat.le_add_right _ _

end Scan

/-! ## Unknown commands -/

theorem nscResponse_writes (data : List Byte) (typeLength : ℕ) :
    ∀ write ∈ (nscResponse data typeLength).writes,
      write.1 < (nscResponse data typeLength).allocated := by
  intro write hwrite
  have hcut : typeLength % 128 ≤ typeLength := Nat.mod_le _ _
  show write.1 < 2 + typeLength
  rcases List.mem_append.mp hwrite with hhead | hvalue
  · rcases List.mem_cons.mp hhead with rfl | hsecond
    · show 0 < 2 + typeLength
      omega
    · rw [List.mem_singleton.mp hsecond]
      show 1 < 2 + typeLength
      omega
  · obtain ⟨k, hk, rfl⟩ := List.mem_map.mp hvalue
    rw [List.mem_range] at hk
    show k + 2 < 2 + typeLength
    omega

theorem nscResponse_value (data : List Byte) (typeLength : ℕ) :
    (nscResponse data typeLength).value =
      (List.range (typeLength % 128)).map fun k => data.getD k 0 := by
  simp [NscResponse.value, NscResponse.bytes, nscResponse, Function.comp_def]

theorem range_map_getD {data : List Byte} {n : ℕ} (hn : n ≤ data.length) :
    (List.range n).map (fun k => data.getD k 0) = data.take n := by
  apply List.ext_getElem
  · rw [List.length_map, List.length_range, List.length_take, min_eq_left hn]
  · intro k hk _
    rw [List.length_map, List.length_range] at hk
    rw [List.getElem_map, List.getElem_range, List.getElem_take,
      List.getD_eq_getElem _ _ (by omega)]

/-- Every command with its own branch has the EA bit in its first byte. -/
theorem commandIs_ends {type command : Byte} (hcommand : continues command = false)
    (his : gsm0710CommandIs type command = true) : continues type = false := by
  rw [gsm0710CommandIs, beq_iff_eq] at his
  have hea : type &&& gsm0710Ea = command &&& gsm0710Ea := by
    have hkeep : ~~~gsm0710Cr &&& gsm0710Ea = gsm0710Ea := by decide
    rw [← his, UInt8.and_assoc, hkeep]
  rw [continues, hea]
  exact hcommand

theorem commandAccess_of_continues {type : Byte} {rest : List Byte}
    (hcommand : type &&& gsm0710Cr = gsm0710Cr) (htype : continues type = true) :
    commandAccess (type :: rest) =
      let typeScan := scanField (type :: rest) 0
      let typeLength := typeScan.2 + 1
      let lengthScan := scanField ((type :: rest).drop typeLength) typeLength
      ⟨0 :: (typeScan.1 ++ lengthScan.1) ++ List.range (typeLength % 128),
        some (nscResponse (type :: rest) typeLength)⟩ := by
  have hunknown (command : Byte) (hends : continues command = false) :
      gsm0710CommandIs type command = false := by
    cases his : gsm0710CommandIs type command with
    | false => rfl
    | true => exact absurd (htype.symm.trans (commandIs_ends hends his)) Bool.true_eq_false_eq_False
  simp only [commandAccess, if_pos hcommand, hunknown gsm0710ControlCld rfl,
    hunknown gsm0710ControlPsc rfl, hunknown gsm0710ControlTest rfl,
    hunknown gsm0710ControlPn rfl, hunknown gsm0710ControlMsc rfl, Bool.or_self,
    Bool.false_eq_true, if_false]

/-! ## When it stays in the frame -/

section Stays

variable {type : Byte} {rest : List Byte}

theorem header_reads (type : Byte) (rest : List Byte) (i : ℕ) :
    ∀ k ∈ 0 :: ((scanField (type :: rest) 0).1 ++
      (scanField ((type :: rest).drop i) i).1), k < (type :: rest).length := by
  intro k hk
  rcases List.mem_cons.mp hk with rfl | hscan
  · exact Nat.succ_pos _
  · rcases List.mem_append.mp hscan with htype | hlength
    · have hlt := scanField_reads (type :: rest) 0 k htype
      rwa [Nat.zero_add] at hlt
    · exact scanField_drop_reads i k hlength

/-- Either all reads are in the frame and nothing is built, or the command is
unknown. -/
theorem commandAccess_cases (type : Byte) (rest : List Byte) :
    ((commandAccess (type :: rest)).response = none ∧
      ∀ k ∈ (commandAccess (type :: rest)).reads, k < (type :: rest).length) ∨
    (type &&& gsm0710Cr = gsm0710Cr ∧
      commandAccess (type :: rest) =
        let typeScan := scanField (type :: rest) 0
        let typeLength := typeScan.2 + 1
        let lengthScan := scanField ((type :: rest).drop typeLength) typeLength
        ⟨0 :: (typeScan.1 ++ lengthScan.1) ++ List.range (typeLength % 128),
          some (nscResponse (type :: rest) typeLength)⟩) := by
  let typeLength := (scanField (type :: rest) 0).2 + 1
  have hfirst : 0 < (type :: rest).length := Nat.succ_pos _
  have hheader := header_reads type rest typeLength
  have hanswer {reads : List ℕ} (hreads : ∀ k ∈ reads, k < (type :: rest).length) :
      ∀ k ∈ reads ++ [0], k < (type :: rest).length := by
    intro k hk
    rcases List.mem_append.mp hk with hread | hzero
    · exact hreads k hread
    · exact (List.mem_singleton.mp hzero).symm ▸ hfirst
  unfold commandAccess
  dsimp only
  split_ifs with hcommand hanswered hmsc
  · exact .inl ⟨rfl, hanswer hheader⟩
  · refine .inl ⟨rfl, hanswer ?_⟩
    intro k hk
    rcases List.mem_append.mp hk with hread | hfields
    · exact hheader k hread
    · simp only [List.mem_cons, List.not_mem_nil, or_false] at hfields
      omega
  · rw [List.append_nil]
    exact .inl ⟨rfl, hanswer hheader⟩
  · exact .inr ⟨hcommand, rfl⟩
  · refine .inl ⟨rfl, ?_⟩
    intro k hk
    rcases List.mem_cons.mp hk with rfl | hread
    · exact hfirst
    · exact hheader k (List.mem_cons_of_mem _ (List.mem_append_left _ hread))

theorem staysInFrame_of_ends (hends : TypeFieldEnds (type :: rest)) :
    StaysInFrame (type :: rest) := by
  let typeLength := (scanField (type :: rest) 0).2 + 1
  rcases commandAccess_cases type rest with ⟨hnone, hreads⟩ | ⟨hcommand, haccess⟩
  · have hsome {response : NscResponse}
        (h : (commandAccess (type :: rest)).response = some response) : False := by
      rw [hnone] at h
      cases h
    exact ⟨hreads, fun _ h => (hsome h).elim, fun _ h => (hsome h).elim⟩
  · obtain ⟨hshort, hinside⟩ := length_takeWhile_lt (hends hcommand)
    have hindex := scanField_index (type :: rest) 0
    have hlength : typeLength % 128 = typeLength := Nat.mod_eq_of_lt (by omega)
    have hfits : typeLength ≤ (type :: rest).length := by omega
    have hresponse : (commandAccess (type :: rest)).response =
        some (nscResponse (type :: rest) typeLength) := by rw [haccess]
    constructor
    · intro k hk
      rw [haccess] at hk
      rcases List.mem_append.mp hk with hread | hcopied
      · exact header_reads type rest typeLength k hread
      · rw [List.mem_range] at hcopied
        exact hcopied.trans_le ((Nat.mod_le _ _).trans hfits)
    · intro response h
      rw [hresponse] at h
      obtain rfl := Option.some.inj h
      exact nscResponse_writes (type :: rest) typeLength
    · intro response h
      rw [hresponse] at h
      obtain rfl := Option.some.inj h
      have hcount : typeLength = ((type :: rest).takeWhile continues).length + 1 := by omega
      rw [nscResponse_value, hlength, range_map_getD hfits, typeField_eq_take, hcount]

/-- A type field that does not end in time is read beyond the frame or cut. -/
theorem not_staysInFrame (hcommand : type &&& gsm0710Cr = gsm0710Cr)
    (hends : ¬ ∃ byte ∈ (type :: rest).take 127, continues byte = false) :
    ¬ StaysInFrame (type :: rest) := by
  intro hstays
  have htype : continues type = true := by
    by_contra hstop
    exact hends ⟨type, List.mem_cons_self, Bool.eq_false_iff.mpr hstop⟩
  have haccess := @commandAccess_of_continues type rest hcommand htype
  have hrun := le_length_takeWhile hends
  have hprefix := (List.takeWhile_prefix (l := type :: rest) continues).length_le
  have hindex := scanField_index (type :: rest) 0
  let typeLength := (scanField (type :: rest) 0).2 + 1
  by_cases hlong : 127 ≤ ((type :: rest).takeWhile continues).length
  · have hvalue := congrArg List.length
      (hstays.value (nscResponse (type :: rest) typeLength) (by rw [haccess]))
    rw [nscResponse_value, List.length_map, List.length_range, length_typeField] at hvalue
    omega
  · have hread : typeLength - 1 ∈ (commandAccess (type :: rest)).reads := by
      rw [haccess]
      apply List.mem_append_right
      rw [List.mem_range, Nat.mod_eq_of_lt (by omega)]
      omega
    have hlt := hstays.reads _ hread
    omega

end Stays

/-- `handle_command` stays inside the frame exactly for the payloads that are no
command or whose type field ends within the first 127 bytes. -/
theorem control_command_in_frame_iff (data : List Byte) :
    StaysInFrame data ↔ TypeFieldEnds data := by
  cases data with
  | nil =>
      constructor
      · intro _ hcommand
        cases hcommand
      · intro _
        refine ⟨?_, ?_, ?_⟩
        · intro k hk
          cases hk
        · intro response hresponse
          cases hresponse
        · intro response hresponse
          cases hresponse
  | cons type rest =>
      constructor
      · intro hstays hcommand
        by_contra hends
        exact not_staysInFrame hcommand hends hstays
      · exact staysInFrame_of_ends

/-- One byte with the C/R bit and without the EA bit: the byte behind it is
copied into the response. -/
theorem unterminated_type_read_beyond_frame :
    ¬ StaysInFrame [0x02] := by
  intro hstays
  exact absurd (hstays.reads 1 (by decide)) (by decide)

end Muxd
end MediatekHardware
