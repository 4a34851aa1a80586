import MediatekHardware.Lib.Fifo
import Mathlib.Tactic

/-!
# Ring buffers refine bounded queues

The store is an array of `cap` cells with a read position, a write position
and a count, updated with the wrap-around arithmetic of the usual C code:
one cell at a time by the reader, one or two block copies by the writer.
`queued` reads the count of cells from the read position onwards; the reader
and the writer act on it as on a list.
-/

structure RingBuffer (cap : ℕ) (α : Type*) where
  data : ℕ → α
  readp : ℕ
  writep : ℕ
  datacount : ℕ

namespace RingBuffer

variable {cap : ℕ} {α : Type*}

/-! ## Operations -/

def block (data : ℕ → α) (start length : ℕ) : List α :=
  (List.range length).map fun i => data (start + i)

def place (data : ℕ → α) (start : ℕ) (source : List α) : ℕ → α :=
  fun i =>
    if h : start ≤ i ∧ i - start < source.length then
      source.get ⟨i - start, h.2⟩
    else data i

def inc (ring : RingBuffer cap α) : RingBuffer cap α :=
  { ring with
    readp := if ring.readp + 1 = cap then 0 else ring.readp + 1
    datacount := ring.datacount - 1 }

def copy (ring : RingBuffer cap α) (n : ℕ) : List α :=
  let toEnd := cap - ring.readp
  if n > toEnd then
    block ring.data ring.readp toEnd ++ block ring.data 0 (n - toEnd)
  else block ring.data ring.readp n

def skip (ring : RingBuffer cap α) (n : ℕ) : RingBuffer cap α :=
  let toEnd := cap - ring.readp
  if n > toEnd then
    { ring with readp := n - toEnd, datacount := ring.datacount - n }
  else
    { ring with
      readp := if ring.readp + n = cap then 0 else ring.readp + n
      datacount := ring.datacount - n }

def commit (ring : RingBuffer cap α) (backup : ℕ)
    (cursor : RingBuffer cap α) : RingBuffer cap α :=
  { ring with
    readp := cursor.readp
    datacount := ring.datacount - (backup - cursor.datacount) }

/-- Copy a block to the write position; the count is not touched yet. -/
def copyIn (ring : RingBuffer cap α) (input : List α) : RingBuffer cap α :=
  let toEnd := cap - ring.writep
  if input.length > toEnd then
    { ring with
      data := place (place ring.data ring.writep (input.take toEnd)) 0
        (input.drop toEnd)
      writep := input.length - toEnd }
  else
    { ring with
      data := place ring.data ring.writep input
      writep :=
        if ring.writep + input.length = cap then 0
        else ring.writep + input.length }

def append (ring : RingBuffer cap α) (input : List α) : RingBuffer cap α :=
  let copied := ring.copyIn input
  { copied with datacount := copied.datacount + input.length }

instance : Fifo (RingBuffer cap α) α where
  count := datacount
  peek := fun ring => ring.data ring.readp
  inc := inc
  copy := copy
  skip := skip
  commit := commit

/-- The queued elements, oldest first. -/
def queued (ring : RingBuffer cap α) : List α :=
  (List.range ring.datacount).map fun i => ring.data ((ring.readp + i) % cap)

@[simp] theorem queued_length (ring : RingBuffer cap α) :
    ring.queued.length = ring.datacount := by
  simp [queued]

/-- The read position and the count describe cells of the array. -/
structure Readable (ring : RingBuffer cap α) : Prop where
  readp_lt : ring.readp < cap
  datacount_le : ring.datacount ≤ cap

/-- The write position is where the queued elements end. -/
structure Valid (ring : RingBuffer cap α) : Prop extends ring.Readable where
  writep_eq : ring.writep = (ring.readp + ring.datacount) % cap

/-! ## Positions -/

theorem wrap_eq {start offset : ℕ} (hstart : start < cap) (hoffset : offset ≤ cap) :
    (start + offset) % cap =
      if start + offset < cap then start + offset else start + offset - cap := by
  split
  next hlt => exact Nat.mod_eq_of_lt hlt
  next hge =>
    rw [Nat.mod_eq_sub_mod (by omega)]
    exact Nat.mod_eq_of_lt (by omega)

theorem wrap_wrap {start first second : ℕ} :
    ((start + first) % cap + second) % cap = (start + (first + second)) % cap := by
  rw [Nat.mod_add_mod, Nat.add_assoc]

theorem skip_readp {ring : RingBuffer cap α} {n : ℕ} (hreadable : ring.Readable)
    (hn : n ≤ ring.datacount) :
    (ring.skip n).readp = (ring.readp + n) % cap := by
  have hlt := hreadable.readp_lt
  have hle := hreadable.datacount_le
  rw [wrap_eq hlt (by omega)]
  unfold skip
  by_cases hwrap : n > cap - ring.readp
  · simp only [hwrap, if_true]
    split <;> omega
  · simp only [hwrap, if_false]
    split <;> split <;> omega

@[simp] theorem skip_datacount (ring : RingBuffer cap α) (n : ℕ) :
    (ring.skip n).datacount = ring.datacount - n := by
  simp only [skip]
  split <;> rfl

@[simp] theorem skip_data (ring : RingBuffer cap α) (n : ℕ) :
    (ring.skip n).data = ring.data := by
  simp only [skip]
  split <;> rfl

@[simp] theorem skip_writep (ring : RingBuffer cap α) (n : ℕ) :
    (ring.skip n).writep = ring.writep := by
  simp only [skip]
  split <;> rfl

theorem counted_ring : Fifo.Counted (RingBuffer cap α) where
  inc_count := fun _ => rfl
  skip_count := skip_datacount
  commit_count := fun _ _ _ => rfl

theorem inc_eq_skip {ring : RingBuffer cap α} (hreadable : ring.Readable) :
    ring.inc = ring.skip 1 := by
  have hlt := hreadable.readp_lt
  have hnot : ¬ 1 > cap - ring.readp := by omega
  simp [inc, skip, hnot]

/-! ## The reader acts on the queued list -/

theorem skip_readable {ring : RingBuffer cap α} {n : ℕ}
    (hreadable : ring.Readable) (hn : n ≤ ring.datacount) :
    (ring.skip n).Readable := by
  have hle := hreadable.datacount_le
  constructor
  · rw [skip_readp hreadable hn]
    exact Nat.mod_lt _ (by have := hreadable.readp_lt; omega)
  · rw [skip_datacount]
    omega

theorem queued_skip {ring : RingBuffer cap α} {n : ℕ}
    (hreadable : ring.Readable) (hn : n ≤ ring.datacount) :
    (ring.skip n).queued = ring.queued.drop n := by
  apply List.ext_getElem
  · simp
  · intro i hi _
    simp only [queued, List.getElem_map, List.getElem_range, List.getElem_drop,
      skip_data, skip_readp hreadable hn, wrap_wrap]

theorem peek_eq_getElem {ring : RingBuffer cap α} (hreadable : ring.Readable)
    (hcount : 0 < ring.datacount) :
    ring.queued[0]? = some (ring.data ring.readp) := by
  simp [queued, hcount, Nat.mod_eq_of_lt hreadable.readp_lt]

theorem copy_eq_take {ring : RingBuffer cap α} {n : ℕ}
    (hreadable : ring.Readable) (hn : n ≤ ring.datacount) :
    ring.copy n = ring.queued.take n := by
  have hlt := hreadable.readp_lt
  have hle := hreadable.datacount_le
  unfold copy
  by_cases hwrap : n > cap - ring.readp
  · simp only [hwrap, if_true]
    apply List.ext_getElem
    · simp only [block, List.length_append, List.length_map, List.length_range,
        List.length_take, queued_length]
      omega
    · intro i hi _
      have hi' : i < n := by
        simp only [block, List.length_append, List.length_map,
          List.length_range] at hi
        omega
      simp only [queued, List.getElem_take, List.getElem_map, List.getElem_range,
        wrap_eq hlt (show i ≤ cap by omega)]
      by_cases hfirst : i < cap - ring.readp
      · rw [List.getElem_append_left (by simpa [block] using hfirst)]
        simp only [block, List.getElem_map, List.getElem_range]
        rw [if_pos (by omega)]
      · rw [List.getElem_append_right (by simpa [block] using hfirst)]
        simp only [block, List.length_map, List.length_range, List.getElem_map,
          List.getElem_range]
        rw [if_neg (by omega)]
        congr 1
        omega
  · simp only [hwrap, if_false]
    apply List.ext_getElem
    · simp only [block, List.length_map, List.length_range, List.length_take,
        queued_length]
      omega
    · intro i hi _
      have hi' : i < n := by simpa [block] using hi
      simp only [block, queued, List.getElem_take, List.getElem_map,
        List.getElem_range, wrap_eq hlt (show i ≤ cap by omega)]
      rw [if_pos (by omega)]

theorem commit_eq_skip {ring cursor : RingBuffer cap α} {backup n : ℕ}
    (hreadable : ring.Readable) (hn : n ≤ ring.datacount)
    (hreadp : cursor.readp = (ring.readp + n) % cap)
    (hcount : cursor.datacount + n = backup) :
    ring.commit backup cursor = ring.skip n := by
  have hback : ring.datacount - (backup - cursor.datacount) =
      ring.datacount - n := by omega
  have hskip : (ring.skip n) =
      { ring with
        readp := (ring.skip n).readp
        datacount := (ring.skip n).datacount } := by
    simp only [skip]
    split <;> rfl
  rw [hskip, skip_readp hreadable hn, skip_datacount]
  simp only [commit, hreadp, hback]

/-- A local read position is a number of elements further on in the same
array. -/
theorem descends_cursor {ring cursor : RingBuffer cap α}
    (hreadable : ring.Readable) (hdesc : Fifo.Descends ring cursor) :
    ∃ n, n ≤ ring.datacount ∧ cursor = ring.skip n := by
  have hskip_skip : ∀ first second, first + second ≤ ring.datacount →
      (ring.skip first).skip second = ring.skip (first + second) := by
    intro first second hle
    have hfirst := skip_readable (n := first) hreadable (by omega)
    have hreadp : ((ring.skip first).skip second).readp =
        (ring.skip (first + second)).readp := by
      rw [skip_readp hfirst (by simp; omega), skip_readp hreadable (by omega),
        skip_readp hreadable hle, wrap_wrap]
    have hcount : ((ring.skip first).skip second).datacount =
        (ring.skip (first + second)).datacount := by
      simp only [skip_datacount]
      omega
    have hext : ∀ left right : RingBuffer cap α, left.data = right.data →
        left.readp = right.readp → left.writep = right.writep →
        left.datacount = right.datacount → left = right := by
      rintro ⟨⟩ ⟨⟩ rfl rfl rfl rfl
      rfl
    exact hext _ _ (by simp) hreadp (by simp) hcount
  induction hdesc with
  | refl =>
      refine ⟨0, Nat.zero_le _, ?_⟩
      have hlt := hreadable.readp_lt
      have hne : ring.readp ≠ cap := by omega
      simp [skip, hne]
  | @inc cursor _ hcount ih =>
      obtain ⟨n, hn, rfl⟩ := ih
      have hpos : 0 < (ring.skip n).datacount := hcount
      rw [skip_datacount] at hpos
      refine ⟨n + 1, by omega, ?_⟩
      change (ring.skip n).inc = _
      rw [inc_eq_skip (skip_readable hreadable hn), hskip_skip n 1 (by omega)]
  | @skip cursor _ m hcount ih =>
      obtain ⟨n, hn, rfl⟩ := ih
      have hm : m ≤ (ring.skip n).datacount := hcount
      rw [skip_datacount] at hm
      refine ⟨n + m, by omega, ?_⟩
      change (ring.skip n).skip m = _
      exact hskip_skip n m (by omega)

theorem descends_commit {ring cursor : RingBuffer cap α}
    (hreadable : ring.Readable) (hdesc : Fifo.Descends ring cursor) :
    ring.commit ring.datacount cursor = cursor := by
  obtain ⟨n, hn, rfl⟩ := descends_cursor hreadable hdesc
  exact commit_eq_skip hreadable hn (skip_readp hreadable hn)
    (by rw [skip_datacount]; omega)

/-- A readable ring buffer is the list of its queued elements, for every
operation of a consumer. -/
theorem queued_hom [Inhabited α] :
    Fifo.Hom (Readable : RingBuffer cap α → Prop) queued where
  count_eq := fun _ => queued_length _
  peek_eq := by
    intro ring hgood hcount
    have hpeek := peek_eq_getElem hgood hcount
    cases hqueued : ring.queued with
    | nil => simp [hqueued] at hpeek
    | cons first rest =>
        rw [hqueued, List.getElem?_cons_zero, Option.some.injEq] at hpeek
        rw [Fifo.list_peek_cons, hpeek]
        rfl
  inc_good := by
    intro ring hgood hcount
    change ring.inc.Readable
    rw [inc_eq_skip hgood]
    exact skip_readable hgood hcount
  inc_eq := by
    intro ring hgood hcount
    change ring.inc.queued = ring.queued.tail
    rw [inc_eq_skip hgood, queued_skip hgood hcount, List.drop_one]
  copy_eq := fun hgood hn => (copy_eq_take hgood hn).symm
  skip_good := fun hgood hn => skip_readable hgood hn
  skip_eq := fun hgood hn => queued_skip hgood hn
  commit_good := by
    intro ring cursor hgood hdesc
    change (ring.commit ring.datacount cursor).Readable
    rw [descends_commit hgood hdesc]
    obtain ⟨n, hn, rfl⟩ := descends_cursor hgood hdesc
    exact skip_readable hgood hn
  commit_eq := by
    intro ring cursor hgood hdesc
    change (ring.commit ring.datacount cursor).queued =
      ring.queued.drop (ring.datacount - cursor.queued.length)
    rw [descends_commit hgood hdesc]
    obtain ⟨n, hn, rfl⟩ := descends_cursor hgood hdesc
    have hback : ring.datacount - (ring.datacount - n) = n := by omega
    rw [queued_skip hgood hn]
    simp [hback]

/-! ## The writer appends -/

theorem place_inside (data : ℕ → α) {start k : ℕ} (source : List α)
    (hk : k < source.length) :
    place data start source (start + k) = source[k] := by
  simp [place, hk]

theorem place_outside (data : ℕ → α) {start i : ℕ} (source : List α)
    (hi : ¬ (start ≤ i ∧ i - start < source.length)) :
    place data start source i = data i := by
  simp only [place, dif_neg hi]

@[simp] theorem copyIn_readp (ring : RingBuffer cap α) (input : List α) :
    (ring.copyIn input).readp = ring.readp := by
  simp only [copyIn]
  split <;> rfl

@[simp] theorem copyIn_datacount (ring : RingBuffer cap α) (input : List α) :
    (ring.copyIn input).datacount = ring.datacount := by
  simp only [copyIn]
  split <;> rfl

theorem copyIn_writep {ring : RingBuffer cap α} {input : List α}
    (hwritep : ring.writep < cap) (hlength : input.length ≤ cap) :
    (ring.copyIn input).writep = (ring.writep + input.length) % cap := by
  rw [wrap_eq hwritep hlength]
  unfold copyIn
  by_cases hwrap : input.length > cap - ring.writep
  · simp only [hwrap, if_true]
    split <;> omega
  · simp only [hwrap, if_false]
    split <;> split <;> omega

theorem copyIn_data_inside {ring : RingBuffer cap α} {input : List α} {k : ℕ}
    (hwritep : ring.writep < cap) (hlength : input.length ≤ cap)
    (hk : k < input.length) :
    (ring.copyIn input).data ((ring.writep + k) % cap) = input[k] := by
  rw [wrap_eq hwritep (by omega)]
  unfold copyIn
  by_cases hwrap : input.length > cap - ring.writep
  · simp only [hwrap, if_true]
    by_cases hfirst : ring.writep + k < cap
    · rw [if_pos hfirst, place_outside _ _ (by simp; omega),
        place_inside _ _ (by simp; omega), List.getElem_take]
    · rw [if_neg hfirst]
      have hsplit : ring.writep + k - cap = 0 + (k - (cap - ring.writep)) := by
        omega
      rw [hsplit, place_inside _ _ (by simp; omega), List.getElem_drop]
      congr 1
      omega
  · simp only [hwrap, if_false]
    rw [if_pos (by omega), place_inside _ _ hk]

theorem copyIn_data_outside {ring : RingBuffer cap α} {input : List α} {k : ℕ}
    (hwritep : ring.writep < cap) (hlength : input.length ≤ k) (hk : k < cap) :
    (ring.copyIn input).data ((ring.writep + k) % cap) =
      ring.data ((ring.writep + k) % cap) := by
  rw [wrap_eq hwritep (by omega)]
  unfold copyIn
  by_cases hwrap : input.length > cap - ring.writep
  · simp only [hwrap, if_true]
    rw [if_neg (by omega), place_outside _ _ (by simp; omega),
      place_outside _ _ (by simp; omega)]
  · simp only [hwrap, if_false]
    split
    · rw [place_outside _ _ (by omega)]
    · rw [place_outside _ _ (by omega)]

/-- A cell that is queued is not touched by a copy that fits. -/
theorem copyIn_data_queued {ring : RingBuffer cap α} {input : List α} {i : ℕ}
    (hvalid : ring.Valid) (hfits : ring.datacount + input.length ≤ cap)
    (hi : i < ring.datacount) :
    (ring.copyIn input).data ((ring.readp + i) % cap) =
      ring.data ((ring.readp + i) % cap) := by
  have hlt := hvalid.readp_lt
  have hwritep : ring.writep < cap := by
    rw [hvalid.writep_eq]
    exact Nat.mod_lt _ (by omega)
  have hposition : (ring.readp + i) % cap =
      (ring.writep + (cap - ring.datacount + i)) % cap := by
    rw [hvalid.writep_eq, wrap_wrap,
      show ring.readp + (ring.datacount + (cap - ring.datacount + i)) =
        ring.readp + i + cap by omega, Nat.add_mod_right]
  rw [hposition]
  exact copyIn_data_outside hwritep (by omega) (by omega)

theorem append_valid {ring : RingBuffer cap α} {input : List α}
    (hvalid : ring.Valid) (hfits : ring.datacount + input.length ≤ cap) :
    (ring.append input).Valid := by
  have hlt := hvalid.readp_lt
  have hwritep : ring.writep < cap := by
    rw [hvalid.writep_eq]
    exact Nat.mod_lt _ (by omega)
  have hend : (ring.copyIn input).writep =
      (ring.writep + input.length) % cap :=
    copyIn_writep hwritep (by omega)
  refine ⟨⟨?_, ?_⟩, ?_⟩
  · simpa [append] using hlt
  · simpa [append] using hfits
  · simp only [append, hend, copyIn_readp, copyIn_datacount,
      hvalid.writep_eq, wrap_wrap]

theorem queued_append {ring : RingBuffer cap α} {input : List α}
    (hvalid : ring.Valid) (hfits : ring.datacount + input.length ≤ cap) :
    (ring.append input).queued = ring.queued ++ input := by
  have hlt := hvalid.readp_lt
  have hwritep : ring.writep < cap := by
    rw [hvalid.writep_eq]
    exact Nat.mod_lt _ (by omega)
  apply List.ext_getElem
  · simp [append]
  · intro i hi _
    simp only [append, queued, List.getElem_map, List.getElem_range,
      copyIn_readp]
    by_cases hold : i < ring.datacount
    · rw [List.getElem_append_left (by simpa using hold),
        copyIn_data_queued hvalid hfits hold, List.getElem_map,
        List.getElem_range]
    · have hi' : i < ring.datacount + input.length := by simpa [append] using hi
      rw [List.getElem_append_right (by simpa using hold)]
      have hposition : (ring.readp + i) % cap =
          (ring.writep + (i - ring.datacount)) % cap := by
        rw [hvalid.writep_eq, wrap_wrap]
        congr 1
        omega
      rw [hposition, copyIn_data_inside hwritep (by omega) (by omega)]
      simp

theorem skip_valid {ring : RingBuffer cap α} {n : ℕ} (hvalid : ring.Valid)
    (hn : n ≤ ring.datacount) : (ring.skip n).Valid := by
  refine ⟨skip_readable hvalid.toReadable hn, ?_⟩
  rw [skip_writep, hvalid.writep_eq, skip_readp hvalid.toReadable hn,
    skip_datacount, wrap_wrap]
  congr 1
  omega

/-- The homomorphism keeps the write position as well. -/
theorem queued_hom_valid [Inhabited α] :
    Fifo.Hom (Valid : RingBuffer cap α → Prop) queued where
  count_eq := fun hgood => queued_hom.count_eq hgood.toReadable
  peek_eq := fun hgood => queued_hom.peek_eq hgood.toReadable
  inc_good := by
    intro ring hgood hcount
    change ring.inc.Valid
    rw [inc_eq_skip hgood.toReadable]
    exact skip_valid hgood hcount
  inc_eq := fun hgood => queued_hom.inc_eq hgood.toReadable
  copy_eq := fun hgood => queued_hom.copy_eq hgood.toReadable
  skip_good := fun hgood hn => skip_valid hgood hn
  skip_eq := fun hgood => queued_hom.skip_eq hgood.toReadable
  commit_good := by
    intro ring cursor hgood hdesc
    change (ring.commit ring.datacount cursor).Valid
    rw [descends_commit hgood.toReadable hdesc]
    obtain ⟨n, hn, rfl⟩ := descends_cursor hgood.toReadable hdesc
    exact skip_valid hgood hn
  commit_eq := fun hgood => queued_hom.commit_eq hgood.toReadable

/-! ## The writer in steps

A block reaches the store in up to two copies, then the write position moves,
then the count grows.  Meanwhile the reader may move on: it touches neither the
write position nor any cell. -/

def copyFirst (ring : RingBuffer cap α) (input : List α) : RingBuffer cap α :=
  { ring with
    data := place ring.data ring.writep (input.take (cap - ring.writep)) }

/-- The second copy, of what is left, to the start of the array. -/
def copySecond (ring : RingBuffer cap α) (input : List α) : RingBuffer cap α :=
  { ring with data := place ring.data 0 (input.drop (cap - ring.writep)) }

def advance (ring : RingBuffer cap α) (n : ℕ) : RingBuffer cap α :=
  { ring with
    writep :=
      if n > cap - ring.writep then n - (cap - ring.writep)
      else if ring.writep + n = cap then 0
      else ring.writep + n }

def grow (ring : RingBuffer cap α) (n : ℕ) : RingBuffer cap α :=
  { ring with datacount := ring.datacount + n }

/-- The block stands in the cells behind the queued elements. -/
def Behind (ring : RingBuffer cap α) (input : List α) : Prop :=
  ∀ k (hk : k < input.length),
    ring.data ((ring.readp + ring.datacount + k) % cap) = input[k]

theorem behind_skip {ring : RingBuffer cap α} {input : List α} {n : ℕ}
    (hreadable : ring.Readable) (hn : n ≤ ring.datacount)
    (hbehind : ring.Behind input) : (ring.skip n).Behind input := by
  intro k hk
  rw [skip_data, skip_readp hreadable hn, skip_datacount, ← hbehind k hk, Nat.add_assoc,
    wrap_wrap]
  congr 2
  omega

theorem queued_grow {ring : RingBuffer cap α} {input : List α}
    (hbehind : ring.Behind input) :
    (ring.grow input.length).queued = ring.queued ++ input := by
  apply List.ext_getElem
  · simp [grow]
  · intro i hi _
    simp only [grow, queued, List.getElem_map, List.getElem_range]
    by_cases hold : i < ring.datacount
    · rw [List.getElem_append_left (by simpa using hold), List.getElem_map,
        List.getElem_range]
    · have hi' : i < ring.datacount + input.length := by simpa [grow] using hi
      rw [List.getElem_append_right (by simpa using hold)]
      have hcell := hbehind (i - ring.datacount) (by omega)
      rw [Nat.add_assoc, Nat.add_sub_cancel' (by omega)] at hcell
      simpa using hcell

/-- A block placed beside the cells of the queue leaves the queue as it is. -/
theorem queued_place {ring : RingBuffer cap α} {start : ℕ} {source : List α}
    (hbeside : ∀ i < ring.datacount, ¬ (start ≤ (ring.readp + i) % cap ∧
      (ring.readp + i) % cap - start < source.length)) :
    ({ ring with data := place ring.data start source } : RingBuffer cap α).queued =
      ring.queued := by
  apply List.map_congr_left
  intro i hi
  rw [List.mem_range] at hi
  exact place_outside _ _ (hbeside i hi)

/-- A copy behind the queued elements leaves them as they are. -/
theorem queued_copyFirst {ring : RingBuffer cap α} {input : List α}
    (hvalid : ring.Valid) (hfits : ring.datacount + input.length ≤ cap) :
    (ring.copyFirst input).queued = ring.queued := by
  have hlt := hvalid.readp_lt
  have hwritep := hvalid.writep_eq
  rw [wrap_eq hlt hvalid.datacount_le] at hwritep
  refine queued_place fun i hi => ?_
  rw [wrap_eq hlt (by omega), List.length_take]
  split_ifs at hwritep ⊢ <;> omega

theorem queued_copySecond {ring : RingBuffer cap α} {input : List α}
    (hvalid : ring.Valid) (hfits : ring.datacount + input.length ≤ cap)
    (hwrap : input.length > cap - ring.writep) :
    (ring.copySecond input).queued = ring.queued := by
  have hlt := hvalid.readp_lt
  have hwritep := hvalid.writep_eq
  rw [wrap_eq hlt hvalid.datacount_le] at hwritep
  refine queued_place fun i hi => ?_
  rw [wrap_eq hlt (by omega), List.length_drop]
  split_ifs at hwritep ⊢ <;> omega

theorem behind_iff_writep {ring : RingBuffer cap α} {input : List α}
    (hvalid : ring.Valid) :
    ring.Behind input ↔
      ∀ k (hk : k < input.length),
        ring.data ((ring.writep + k) % cap) = input[k] := by
  simp only [Behind, hvalid.writep_eq, Nat.mod_add_mod]

theorem copyFirst_valid {ring : RingBuffer cap α} (hvalid : ring.Valid)
    (input : List α) : (ring.copyFirst input).Valid :=
  ⟨⟨hvalid.readp_lt, hvalid.datacount_le⟩, hvalid.writep_eq⟩

theorem copySecond_valid {ring : RingBuffer cap α} (hvalid : ring.Valid)
    (input : List α) : (ring.copySecond input).Valid :=
  ⟨⟨hvalid.readp_lt, hvalid.datacount_le⟩, hvalid.writep_eq⟩

theorem writep_lt {ring : RingBuffer cap α} (hvalid : ring.Valid) :
    ring.writep < cap := by
  have hlt := hvalid.readp_lt
  rw [hvalid.writep_eq]
  exact Nat.mod_lt _ (by omega)

theorem behind_copyFirst {ring : RingBuffer cap α} (hvalid : ring.Valid)
    (input : List α) :
    (ring.copyFirst input).Behind (input.take (cap - ring.writep)) := by
  rw [behind_iff_writep (copyFirst_valid hvalid input)]
  intro k hk
  have hk' : k < cap - ring.writep := by
    rw [List.length_take] at hk
    omega
  have hcell : (ring.writep + k) % cap = ring.writep + k :=
    Nat.mod_eq_of_lt (by omega)
  simp only [copyFirst, hcell]
  exact place_inside _ _ hk

theorem behind_copySecond {ring : RingBuffer cap α} {input : List α}
    (hvalid : ring.Valid) (hlength : input.length ≤ cap)
    (hbehind : ring.Behind (input.take (cap - ring.writep))) :
    (ring.copySecond input).Behind input := by
  have hwritep := writep_lt hvalid
  rw [behind_iff_writep hvalid] at hbehind
  rw [behind_iff_writep (copySecond_valid hvalid input)]
  intro k hk
  simp only [copySecond]
  rw [wrap_eq hwritep (by omega)]
  split
  next hfirst =>
    have hold := hbehind k (by rw [List.length_take]; omega)
    rw [Nat.mod_eq_of_lt hfirst, List.getElem_take] at hold
    rw [place_outside _ _ (by rw [List.length_drop]; omega), hold]
  next hsecond =>
    have hsplit : ring.writep + k - cap = 0 + (k - (cap - ring.writep)) := by omega
    rw [hsplit, place_inside _ _ (by rw [List.length_drop]; omega), List.getElem_drop]
    congr 1
    omega

theorem advance_writep {ring : RingBuffer cap α} {n : ℕ} (hvalid : ring.Valid)
    (hn : n ≤ cap) :
    (ring.advance n).writep = (ring.readp + ring.datacount + n) % cap := by
  have hwritep := writep_lt hvalid
  have hend : (ring.writep + n) % cap = (ring.readp + ring.datacount + n) % cap := by
    rw [hvalid.writep_eq, Nat.mod_add_mod]
  rw [← hend, wrap_eq hwritep hn]
  simp only [advance]
  split_ifs <;> omega

end RingBuffer
