import MediatekHardware.Lib.Netlink
import Mathlib.Tactic

/-!
# Building Netlink messages

A message is filled attribute by attribute.  A nested attribute is opened as a bare
header, what is put behind it is its payload, and its length is set when it is closed.
An attribute that does not fit is refused, and a program that builds a message gives up
when it sees a negative result.  The attributes written by such a program form a tree,
and the iterators read the same tree back.
-/

namespace Netlink

/-! ## Trees of attributes -/

/-- The low bytes of a number, least first. -/
def toBytes : ℕ → ℕ → List UInt8
  | 0, _ => []
  | size + 1, n => UInt8.ofNat (n % 256) :: toBytes size (n / 256)

@[simp] theorem length_toBytes (size n : ℕ) : (toBytes size n).length = size := by
  induction size generalizing n with
  | zero => rfl
  | succ size ih => rw [toBytes, List.length_cons, ih]

theorem littleEndian_toBytes (size n : ℕ) : littleEndian (toBytes size n) = n % 256 ^ size := by
  induction size generalizing n with
  | zero => rw [pow_zero, Nat.mod_one]; rfl
  | succ size ih =>
      have hbyte : (UInt8.ofNat (n % 256)).toNat = n % 256 := by
        rw [UInt8.toNat_ofNat']
        exact Nat.mod_mod _ _
      have hrest := ih (n / 256)
      unfold littleEndian at hrest ⊢
      rw [toBytes, List.map_cons, Nat.ofDigits_cons, hrest, hbyte, pow_succ', Nat.mod_mul]

theorem readUInt_toBytes (size n : ℕ) (rest : List UInt8) :
    readUInt size (toBytes size n ++ rest) = some (n % 256 ^ size) := by
  rw [readUInt_of_le (by rw [List.length_append, length_toBytes]; omega),
    List.take_left' (length_toBytes size n), littleEndian_toBytes]

def encodeAttr (type : ℕ) (data : List UInt8) : List UInt8 :=
  toBytes 2 (4 + data.length) ++ toBytes 2 type ++ data ++
    List.replicate (align data.length - data.length) 0

theorem le_align (n : ℕ) : n ≤ align n := by
  unfold align
  omega

theorem align_four_add (n : ℕ) : align (4 + n) = 4 + align n := by
  unfold align
  omega

theorem four_dvd_align (n : ℕ) : 4 ∣ align n := Dvd.intro_left _ rfl

theorem length_encodeAttr (type : ℕ) (data : List UInt8) :
    (encodeAttr type data).length = 4 + align data.length := by
  have hle := le_align data.length
  simp only [encodeAttr, List.length_append, length_toBytes, List.length_replicate]
  omega

/-- `keepsEmpty` says whether a nested attribute without a payload stays in the
message when it is closed. -/
def encodeNest (keepsEmpty : Bool) (type : ℕ) (content : List UInt8) : List UInt8 :=
  if content = [] ∧ keepsEmpty = false then [] else encodeAttr type content

inductive Item where
  | leaf (type : ℕ) (data : List UInt8)
  | nest (type : ℕ) (items : List Item)

mutual

def Item.encode (keepsEmpty : Bool) : Item → List UInt8
  | .leaf type data => encodeAttr type data
  | .nest type items => encodeNest keepsEmpty type (encodeAll keepsEmpty items)

def encodeAll (keepsEmpty : Bool) : List Item → List UInt8
  | [] => []
  | item :: items => item.encode keepsEmpty ++ encodeAll keepsEmpty items

end

section Encode

variable {keepsEmpty : Bool}

@[simp] theorem encodeAll_nil : encodeAll keepsEmpty [] = [] := by rw [encodeAll]

@[simp] theorem encodeAll_cons (item : Item) (items : List Item) :
    encodeAll keepsEmpty (item :: items) =
      item.encode keepsEmpty ++ encodeAll keepsEmpty items := by
  rw [encodeAll]

@[simp] theorem encode_leaf (type : ℕ) (data : List UInt8) :
    (Item.leaf type data).encode keepsEmpty = encodeAttr type data := by
  rw [Item.encode]

@[simp] theorem encode_nest (type : ℕ) (items : List Item) :
    (Item.nest type items).encode keepsEmpty =
      encodeNest keepsEmpty type (encodeAll keepsEmpty items) := by
  rw [Item.encode]

theorem encodeAll_append (items items' : List Item) :
    encodeAll keepsEmpty (items ++ items') =
      encodeAll keepsEmpty items ++ encodeAll keepsEmpty items' := by
  induction items with
  | nil => rw [List.nil_append, encodeAll_nil, List.nil_append]
  | cons item items ih => rw [List.cons_append, encodeAll_cons, encodeAll_cons, ih,
      List.append_assoc]

theorem four_dvd_length_encodeNest (type : ℕ) (content : List UInt8) :
    4 ∣ (encodeNest keepsEmpty type content).length := by
  unfold encodeNest
  split_ifs
  · exact dvd_zero 4
  · rw [length_encodeAttr]
    exact (Nat.dvd_add_right (dvd_refl 4)).mpr (four_dvd_align _)

theorem four_dvd_length_encode (item : Item) : 4 ∣ (item.encode keepsEmpty).length := by
  cases item with
  | leaf type data =>
      rw [encode_leaf, length_encodeAttr]
      exact (Nat.dvd_add_right (dvd_refl 4)).mpr (four_dvd_align _)
  | nest type items =>
      rw [encode_nest]
      exact four_dvd_length_encodeNest type _

theorem four_dvd_length_encodeAll (items : List Item) :
    4 ∣ (encodeAll keepsEmpty items).length := by
  induction items with
  | nil => exact dvd_zero 4
  | cons item items ih =>
      rw [encodeAll_cons, List.length_append]
      exact (Nat.dvd_add_right (four_dvd_length_encode item)).mpr ih

theorem align_of_dvd {n : ℕ} (hdvd : 4 ∣ n) : align n = n := by
  unfold align
  omega

theorem length_encodeNest_le (keepsEmpty : Bool) (type : ℕ) (items : List Item) :
    (encodeNest keepsEmpty type (encodeAll keepsEmpty items)).length ≤
      4 + (encodeAll keepsEmpty items).length := by
  unfold encodeNest
  split_ifs
  · exact Nat.zero_le _
  · rw [length_encodeAttr, align_of_dvd (four_dvd_length_encodeAll items)]

theorem length_encodeNest {type : ℕ} {items : List Item}
    (hne : encodeAll keepsEmpty items ≠ []) :
    (encodeNest keepsEmpty type (encodeAll keepsEmpty items)).length =
      4 + (encodeAll keepsEmpty items).length := by
  rw [encodeNest, if_neg fun h => hne h.1, length_encodeAttr,
    align_of_dvd (four_dvd_length_encodeAll items)]

theorem encodeAll_leaf_ne_nil (type : ℕ) (data : List UInt8) (items : List Item) :
    encodeAll keepsEmpty (.leaf type data :: items) ≠ [] := by
  intro hempty
  have hlength := congrArg List.length hempty
  rw [encodeAll_cons, encode_leaf, List.length_append, length_encodeAttr, List.length_nil]
    at hlength
  omega

end Encode

/-! ## Reading the tree back -/

theorem attributes_encodeAttr {type : ℕ} {data : List UInt8} (rest : List UInt8)
    (hlength : 4 + data.length < 256 ^ 2) :
    attributes (encodeAttr type data ++ rest) =
      ⟨type % 256 ^ 2, data.length, data⟩ :: attributes rest := by
  set padding := List.replicate (align data.length - data.length) (0 : UInt8) with hpadding
  have hbytes : encodeAttr type data ++ rest =
      toBytes 2 (4 + data.length) ++ (toBytes 2 type ++ (data ++ (padding ++ rest))) := by
    rw [encodeAttr, ← hpadding]
    simp only [List.append_assoc]
  have hle := le_align data.length
  have htotal : (encodeAttr type data ++ rest).length = 4 + align data.length + rest.length := by
    rw [List.length_append, length_encodeAttr]
  have hlen : readUInt 2 (encodeAttr type data ++ rest) = some (4 + data.length) := by
    rw [hbytes, readUInt_toBytes, Nat.mod_eq_of_lt hlength]
  have htype : readUInt 2 ((encodeAttr type data ++ rest).drop 2) = some (type % 256 ^ 2) := by
    rw [hbytes, List.drop_left' (length_toBytes _ _), readUInt_toBytes]
  have hdata : ((encodeAttr type data ++ rest).drop 4).take data.length = data := by
    rw [hbytes, ← List.append_assoc,
      List.drop_left' (by rw [List.length_append, length_toBytes, length_toBytes]),
      List.take_left]
  have hnext : (encodeAttr type data ++ rest).drop (4 + align data.length) = rest :=
    List.drop_left' (length_encodeAttr type data)
  have hwalk : walk (encodeAttr type data ++ rest) (encodeAttr type data ++ rest).length =
      some (⟨type % 256 ^ 2, data.length, data⟩ :: attributes rest) := by
    rw [walk]
    split
    next hroom => omega
    next =>
      split
      next hnone =>
        rw [hlen] at hnone
        cases hnone
      next nlaLen hsome =>
        rw [hlen] at hsome
        obtain rfl := Option.some.inj hsome
        have hrem : ((encodeAttr type data ++ rest).length : ℤ) - align (4 + data.length) =
            rest.length := by
          rw [htotal, align_four_add]
          omega
        rw [dif_pos ⟨by omega, by omega⟩, htype, align_four_add, hnext, ← align_four_add, hrem,
          walk_length, Nat.add_sub_cancel_left, hdata]
        rfl
  have hattributes := walk_length (encodeAttr type data ++ rest)
  rw [hwalk] at hattributes
  exact (Option.some.inj hattributes).symm

mutual

/-- An attribute shows what an item holds; a nested one shows it to an iterator over
its payload. -/
def Attr.Shows (keepsEmpty : Bool) (a : Attr) : Item → Prop
  | .leaf type data => a = ⟨type % 256 ^ 2, data.length, data⟩
  | .nest type items =>
      a.type = type % 256 ^ 2 ∧ a.Whole ∧ ShowAll keepsEmpty (attributes a.data) items

/-- The attributes are those of the items that are in the message. -/
def ShowAll (keepsEmpty : Bool) (attrs : List Attr) : List Item → Prop
  | [] => attrs = []
  | item :: items =>
      if item.encode keepsEmpty = [] then ShowAll keepsEmpty attrs items
      else ∃ a rest, attrs = a :: rest ∧ a.Shows keepsEmpty item ∧
        ShowAll keepsEmpty rest items

end

mutual

theorem shows_encode {keepsEmpty : Bool} (item : Item) (rest : List UInt8)
    (hne : item.encode keepsEmpty ≠ [])
    (hlength : (item.encode keepsEmpty).length < 256 ^ 2) :
    ∃ a, attributes (item.encode keepsEmpty ++ rest) = a :: attributes rest ∧
      a.Shows keepsEmpty item := by
  cases item with
  | leaf type data =>
      rw [encode_leaf] at hlength ⊢
      rw [length_encodeAttr] at hlength
      have hle := le_align data.length
      exact ⟨_, attributes_encodeAttr rest (by omega), by rw [Attr.Shows]⟩
  | nest type items =>
      rw [encode_nest] at hne hlength ⊢
      have hkept : encodeNest keepsEmpty type (encodeAll keepsEmpty items) =
          encodeAttr type (encodeAll keepsEmpty items) := by
        unfold encodeNest at hne ⊢
        split_ifs at hne ⊢
        · exact absurd rfl hne
        · rfl
      rw [hkept, length_encodeAttr] at hlength
      have hle := le_align (encodeAll keepsEmpty items).length
      refine ⟨_, by rw [hkept]; exact attributes_encodeAttr rest (by omega), ?_⟩
      rw [Attr.Shows]
      exact ⟨rfl, rfl, showAll_attributes items (by omega)⟩

/-- What is encoded is read back. -/
theorem showAll_attributes {keepsEmpty : Bool} (items : List Item)
    (hlength : (encodeAll keepsEmpty items).length < 256 ^ 2) :
    ShowAll keepsEmpty (attributes (encodeAll keepsEmpty items)) items := by
  cases items with
  | nil =>
      rw [encodeAll_nil, ShowAll]
      exact attributes_nil
  | cons item items =>
      rw [encodeAll_cons] at hlength ⊢
      rw [List.length_append] at hlength
      rw [ShowAll]
      have hitems : ShowAll keepsEmpty (attributes (encodeAll keepsEmpty items)) items :=
        showAll_attributes items (by omega)
      split_ifs with hempty
      · rw [hempty, List.nil_append]
        exact hitems
      · obtain ⟨a, hattributes, hshows⟩ :=
          shows_encode item (encodeAll keepsEmpty items) hempty (by omega)
        exact ⟨a, _, hattributes, hshows, hitems⟩

end

/-! ## Programs that build a message -/

/-- The operations of the library on a message. -/
structure MessageOps (M : Type) where
  nlaPut : M → ℕ → List UInt8 → ℤ × M
  nlaNestStart : M → ℕ → Option ℕ × M
  nlaNestEnd : M → ℕ → M

/-- What the library promises of them: an attribute is put behind the others when the
message has room for it, and refused otherwise; `nlaNestStart` gives the place of the
bare header, and `nlaNestEnd` makes what has been put behind it its payload. -/
structure MessageOps.Documented {M : Type} (ops : MessageOps M) (bytes : M → List UInt8)
    (room : ℕ) (keepsEmpty : Bool) : Prop where
  put_of_le : ∀ m type data, (bytes m).length + (encodeAttr type data).length ≤ room →
    (ops.nlaPut m type data).1 = 0 ∧
      bytes (ops.nlaPut m type data).2 = bytes m ++ encodeAttr type data
  put_of_lt : ∀ m type data, room < (bytes m).length + (encodeAttr type data).length →
    (ops.nlaPut m type data).1 < 0 ∧ bytes (ops.nlaPut m type data).2 = bytes m
  nestStart_of_le : ∀ m type, (bytes m).length + 4 ≤ room →
    (ops.nlaNestStart m type).1 = some (bytes m).length ∧
      bytes (ops.nlaNestStart m type).2 = bytes m ++ encodeAttr type []
  nestStart_of_lt : ∀ m type, room < (bytes m).length + 4 →
    (ops.nlaNestStart m type).1 = none ∧ bytes (ops.nlaNestStart m type).2 = bytes m
  nestEnd : ∀ m type before content, bytes m = before ++ encodeAttr type [] ++ content →
    4 ∣ content.length →
      bytes (ops.nlaNestEnd m before.length) = before ++ encodeNest keepsEmpty type content

/-- How a program ends: at its end, with a result before its end, or by the use of a
null pointer. -/
inductive Outcome (M α : Type) where
  | next (value : α) (message : Option M)
  | stop (result : ℤ) (message : Option M)
  | crash

/-- A program over a pointer to a message. -/
def Build (M α : Type) : Type := Option M → Outcome M α

namespace Build

variable {M α β : Type}

instance : Monad (Build M) where
  pure value := fun message => .next value message
  bind first rest := fun message =>
    match first message with
    | .next value message => rest value message
    | .stop result message => .stop result message
    | .crash => .crash

theorem bind_next {first : Build M α} {message message' : Option M} {value : α}
    (rest : α → Build M β) (hfirst : first message = .next value message') :
    (first >>= rest) message = rest value message' := by
  change (match first message with
    | .next value message => rest value message
    | .stop result message => .stop result message
    | .crash => .crash) = _
  rw [hfirst]

theorem bind_stop {first : Build M α} {message message' : Option M} {result : ℤ}
    (rest : α → Build M β) (hfirst : first message = .stop result message') :
    (first >>= rest) message = .stop result message' := by
  change (match first message with
    | .next value message => rest value message
    | .stop result message => .stop result message
    | .crash => .crash) = _
  rw [hfirst]

theorem bind_congr {first first' : Build M α} {message message' : Option M}
    (rest : α → Build M β) (hsame : first message = first' message') :
    (first >>= rest) message = (first' >>= rest) message' := by
  change (match first message with
    | .next value message => rest value message
    | .stop result message => .stop result message
    | .crash => .crash) = _
  rw [hsame]
  rfl

theorem bind_pure_eq (program : Build M α) : (program >>= pure) = program := by
  funext message
  change (match program message with
    | .next value message => Outcome.next value message
    | .stop result message => Outcome.stop result message
    | .crash => Outcome.crash) = _
  cases program message <;> rfl

/-- `if (result < 0) return result;` -/
def check (result : ℤ) : Build M ℤ := fun message =>
  if result < 0 then .stop result message else .next result message

/-- `return result;` before the end. -/
def abort (result : ℤ) : Build M α := fun message => .stop result message

/-- A function called by another one: its result is a value for the caller. -/
def call (body : Build M ℤ) : Build M ℤ := fun message =>
  match body message with
  | .stop result message => .next result message
  | outcome => outcome

/-- The result of a program and the message it leaves, or nothing if it crashes. -/
def run (program : Build M ℤ) (message : Option M) : Option (ℤ × Option M) :=
  match program message with
  | .next result message => some (result, message)
  | .stop result message => some (result, message)
  | .crash => none

def put (ops : MessageOps M) (type : ℕ) (data : List UInt8) : Build M ℤ
  | none => .crash
  | some m => .next (ops.nlaPut m type data).1 (some (ops.nlaPut m type data).2)

def nestStart (ops : MessageOps M) (type : ℕ) : Build M (Option ℕ)
  | none => .crash
  | some m => .next (ops.nlaNestStart m type).1 (some (ops.nlaNestStart m type).2)

def nestEnd (ops : MessageOps M) (attr : Option ℕ) : Build M Unit
  | none => .crash
  | some m =>
      match attr with
      | none => .crash
      | some place => .next () (some (ops.nlaNestEnd m place))

/-- What is put into a nested attribute, between its start and its end. -/
def nested (ops : MessageOps M) (type : ℕ) (body : Build M α) : Build M α := do
  let attr ← nestStart ops type
  let value ← body
  nestEnd ops attr
  pure value

/-- The same when the start is checked. -/
def nestedOr (ops : MessageOps M) (result : ℤ) (type : ℕ) (body : Build M α) :
    Build M α := do
  let attr ← nestStart ops type
  if attr = none then abort result
  else do
    let value ← body
    nestEnd ops attr
    pure value

/-- A loop over `i < n` that leaves the result of its last turn behind. -/
def loop (n : ℕ) (body : ℕ → Build M ℤ) (result : ℤ) : Build M ℤ :=
  (List.range n).foldlM (fun _ i => body i) result

end Build

/-- The program writes the items and ends with the value, or it ends early with a
negative result because they do not fit; `need` is the room without which it is not safe
to run. -/
def Builds {M α : Type} (bytes : M → List UInt8) (room : ℕ) (keepsEmpty : Bool) (need : ℕ)
    (program : Build M α) (items : List Item) (value : α) : Prop :=
  ∀ m, (bytes m).length + need ≤ room →
    if (bytes m).length + (encodeAll keepsEmpty items).length ≤ room then
      ∃ m', program (some m) = .next value (some m') ∧
        bytes m' = bytes m ++ encodeAll keepsEmpty items
    else ∃ result m', program (some m) = .stop result (some m') ∧ result < 0

section Rules

variable {M α β : Type} {ops : MessageOps M} {bytes : M → List UInt8} {room : ℕ}
  {keepsEmpty : Bool} {need : ℕ} {items items' : List Item} {type : ℕ}

theorem Builds.mono {need' : ℕ} {program : Build M α} {value : α}
    (hbuilds : Builds bytes room keepsEmpty need program items value) (hle : need ≤ need') :
    Builds bytes room keepsEmpty need' program items value :=
  fun m hroom => hbuilds m (by omega)

theorem builds_pure (value : α) :
    Builds bytes room keepsEmpty 0 (pure value : Build M α) [] value := by
  intro m hroom
  rw [encodeAll_nil, List.length_nil, List.append_nil, if_pos hroom]
  exact ⟨m, rfl, rfl⟩

theorem Builds.bind {first : Build M α} {rest : α → Build M β} {value : α} {value' : β}
    {need' : ℕ} (hfirst : Builds bytes room keepsEmpty need first items value)
    (hrest : Builds bytes room keepsEmpty need' (rest value) items' value')
    (hneed : need' ≠ 0 → (encodeAll keepsEmpty items).length + need' ≤ need) :
    Builds bytes room keepsEmpty need (first >>= rest) (items ++ items') value' := by
  intro m hroom
  have hone := hfirst m hroom
  rw [encodeAll_append, List.length_append]
  by_cases hfits : (bytes m).length + (encodeAll keepsEmpty items).length ≤ room
  · rw [if_pos hfits] at hone
    obtain ⟨m', hnext, hbytes⟩ := hone
    have htwo := hrest m' (by
      rw [hbytes, List.length_append]
      rcases Nat.eq_zero_or_pos need' with hzero | hpos
      · omega
      · have := hneed (by omega)
        omega)
    rw [hbytes, List.length_append] at htwo
    rw [Build.bind_next rest hnext, ← Nat.add_assoc, ← List.append_assoc]
    exact htwo
  · rw [if_neg hfits] at hone
    obtain ⟨result, m', hstop, hneg⟩ := hone
    rw [if_neg (by omega)]
    exact ⟨result, m', Build.bind_stop rest hstop, hneg⟩

/-- What running a program on a message without attributes leaves. -/
theorem Builds.run {program : Build M ℤ} {value : ℤ}
    (hbuilds : Builds bytes room keepsEmpty need program items value) {m : M}
    (hempty : bytes m = []) (hroom : need ≤ room) :
    if (encodeAll keepsEmpty items).length ≤ room then
      ∃ m', program.run (some m) = some (value, some m') ∧ bytes m' = encodeAll keepsEmpty items
    else ∃ result m', program.run (some m) = some (result, some m') ∧ result < 0 := by
  have hone := hbuilds m (by rw [hempty, List.length_nil, Nat.zero_add]; exact hroom)
  rw [hempty, List.length_nil, Nat.zero_add, List.nil_append] at hone
  split_ifs at hone ⊢ with hfits
  · obtain ⟨m', hnext, hbytes⟩ := hone
    exact ⟨m', by rw [Build.run, hnext], hbytes⟩
  · obtain ⟨result, m', hstop, hneg⟩ := hone
    exact ⟨result, m', by rw [Build.run, hstop], hneg⟩

theorem Builds.then_pure {program : Build M ℤ}
    (hbuilds : Builds bytes room keepsEmpty need program items 0) (value : β) :
    Builds bytes room keepsEmpty need (do let _ ← program; pure value) items value := by
  rw [← List.append_nil items]
  exact hbuilds.bind (builds_pure value) fun hne => absurd rfl hne

theorem builds_put_check (hdoc : ops.Documented bytes room keepsEmpty) (data : List UInt8) :
    Builds bytes room keepsEmpty 0 (Build.put ops type data >>= Build.check)
      [.leaf type data] 0 := by
  intro m _
  rw [encodeAll_cons, encodeAll_nil, List.append_nil, encode_leaf]
  change if _ then ∃ m', Build.check (ops.nlaPut m type data).1
      (some (ops.nlaPut m type data).2) = _ ∧ _
    else ∃ result m', Build.check (ops.nlaPut m type data).1
      (some (ops.nlaPut m type data).2) = _ ∧ _
  split_ifs with hfits
  · obtain ⟨hzero, hbytes⟩ := hdoc.put_of_le m type data hfits
    rw [hzero]
    exact ⟨_, rfl, hbytes⟩
  · obtain ⟨hneg, _⟩ := hdoc.put_of_lt m type data (by omega)
    exact ⟨_, _, if_pos hneg, hneg⟩

/-- A checked put of a word in front of a program that needs room. -/
theorem Builds.put_word_then (hdoc : ops.Documented bytes room keepsEmpty)
    {data : List UInt8} (hword : data.length ≤ 4) {rest : ℤ → Build M α} {value : α}
    (hrest : Builds bytes room keepsEmpty need (rest 0) items value) :
    Builds bytes room keepsEmpty (8 + need)
      (do rest (← Build.put ops type data >>= Build.check)) (.leaf type data :: items) value := by
  refine ((builds_put_check hdoc data).mono (Nat.zero_le _)).bind hrest fun _ => ?_
  rw [encodeAll_cons, encodeAll_nil, List.append_nil, encode_leaf, length_encodeAttr]
  have halign : align data.length ≤ 4 := by
    unfold align
    omega
  omega

/-- A checked put in front of a program. -/
theorem Builds.put_then (hdoc : ops.Documented bytes room keepsEmpty) (data : List UInt8)
    {rest : ℤ → Build M α} {value : α}
    (hrest : Builds bytes room keepsEmpty 0 (rest 0) items value) :
    Builds bytes room keepsEmpty 0 (do rest (← Build.put ops type data >>= Build.check))
      (.leaf type data :: items) value :=
  (builds_put_check hdoc data).bind hrest fun hne => absurd rfl hne

/-- A put whose result is not looked at. -/
theorem builds_put (hdoc : ops.Documented bytes room keepsEmpty) (data : List UInt8) :
    Builds bytes room keepsEmpty (encodeAttr type data).length (Build.put ops type data)
      [.leaf type data] 0 := by
  intro m hroom
  rw [encodeAll_cons, encodeAll_nil, List.append_nil, encode_leaf, if_pos hroom]
  obtain ⟨hzero, hbytes⟩ := hdoc.put_of_le m type data hroom
  refine ⟨_, ?_, hbytes⟩
  rw [← hzero]
  rfl

/-- The body runs behind the header, and its items are the payload. -/
theorem nested_of_start (hdoc : ops.Documented bytes room keepsEmpty) (type : ℕ)
    {body : Build M α} {value : α} {m : M} (hroom : (bytes m).length + 4 ≤ room)
    (hbody : Builds bytes room keepsEmpty need body items value)
    (hneed : (bytes m).length + 4 + need ≤ room) :
    if (bytes m).length + 4 + (encodeAll keepsEmpty items).length ≤ room then
      ∃ m', Build.nested ops type body (some m) = .next value (some m') ∧
        bytes m' = bytes m ++ encodeNest keepsEmpty type (encodeAll keepsEmpty items)
    else ∃ result m', Build.nested ops type body (some m) = .stop result (some m') ∧
      result < 0 := by
  obtain ⟨hplace, hstart⟩ := hdoc.nestStart_of_le m type hroom
  set m₁ := (ops.nlaNestStart m type).2 with hm₁
  have hlength : (bytes m₁).length = (bytes m).length + 4 := by
    rw [hstart, List.length_append, length_encodeAttr]
    rfl
  have hopen : Build.nestStart ops type (some m) =
      .next (some (bytes m).length) (some m₁) := by
    rw [← hplace]
    rfl
  have hone := hbody m₁ (by omega)
  rw [hlength] at hone
  by_cases hfits : (bytes m).length + 4 + (encodeAll keepsEmpty items).length ≤ room
  · rw [if_pos hfits] at hone ⊢
    obtain ⟨m₂, hnext, hbytes⟩ := hone
    rw [hstart] at hbytes
    refine ⟨ops.nlaNestEnd m₂ (bytes m).length, ?_,
      hdoc.nestEnd m₂ type (bytes m) _ hbytes (four_dvd_length_encodeAll items)⟩
    rw [Build.nested, Build.bind_next _ hopen, Build.bind_next _ hnext]
    rfl
  · rw [if_neg hfits] at hone ⊢
    obtain ⟨result, m₂, hstop, hneg⟩ := hone
    refine ⟨result, m₂, ?_, hneg⟩
    rw [Build.nested, Build.bind_next _ hopen, Build.bind_stop _ hstop]

/-- With room for the header the start cannot fail. -/
theorem Builds.nested (hdoc : ops.Documented bytes room keepsEmpty) {body : Build M α}
    {value : α} (hbody : Builds bytes room keepsEmpty need body items value) :
    Builds bytes room keepsEmpty (4 + need) (Build.nested ops type body)
      [.nest type items] value := by
  intro m hroom
  have hrun := nested_of_start hdoc type (m := m) (by omega) hbody (by omega)
  rw [encodeAll_cons, encodeAll_nil, List.append_nil, encode_nest]
  by_cases hempty : encodeAll keepsEmpty items = []
  · have hlength := length_encodeNest_le keepsEmpty type items
    rw [hempty, List.length_nil] at hlength hrun
    rw [if_pos (by omega)] at hrun
    rw [hempty, if_pos (by omega)]
    exact hrun
  · rw [length_encodeNest hempty, ← Nat.add_assoc]
    exact hrun

/-- The start may fail unnoticed when the body then fails too, because it puts something
larger than the header. -/
theorem Builds.nested_of_ne_nil (hdoc : ops.Documented bytes room keepsEmpty)
    {body : Build M α} {value : α}
    (hbody : Builds bytes room keepsEmpty 0 body items value)
    (hne : encodeAll keepsEmpty items ≠ []) :
    Builds bytes room keepsEmpty 0 (Build.nested ops type body) [.nest type items] value := by
  intro m hroom
  by_cases hstart : (bytes m).length + 4 ≤ room
  · exact hbody.nested hdoc m hstart
  · obtain ⟨hnone, hbytes⟩ := hdoc.nestStart_of_lt m type (by omega)
    have hlength : 4 ≤ (encodeAll keepsEmpty items).length :=
      Nat.le_of_dvd (List.length_pos_iff.mpr hne) (four_dvd_length_encodeAll items)
    have hone := hbody (ops.nlaNestStart m type).2 (by rw [hbytes]; exact hroom)
    rw [hbytes, if_neg (by omega)] at hone
    obtain ⟨result, m', hstop, hneg⟩ := hone
    rw [encodeAll_cons, encodeAll_nil, List.append_nil, encode_nest, length_encodeNest hne,
      if_neg (by omega)]
    refine ⟨result, m', ?_, hneg⟩
    have hopen : Build.nestStart ops type (some m) =
        .next (ops.nlaNestStart m type).1 (some (ops.nlaNestStart m type).2) := rfl
    rw [Build.nested, Build.bind_next _ hopen, Build.bind_stop _ hstop]

theorem Builds.nestedOr (hdoc : ops.Documented bytes room keepsEmpty) {body : Build M α}
    {value : α} {result : ℤ} (hresult : result < 0)
    (hbody : Builds bytes room keepsEmpty 0 body items value)
    (hne : encodeAll keepsEmpty items ≠ []) :
    Builds bytes room keepsEmpty 0 (Build.nestedOr ops result type body) [.nest type items]
      value := by
  intro m hroom
  have hopen : Build.nestStart ops type (some m) =
      .next (ops.nlaNestStart m type).1 (some (ops.nlaNestStart m type).2) := rfl
  by_cases hstart : (bytes m).length + 4 ≤ room
  · obtain ⟨hplace, _⟩ := hdoc.nestStart_of_le m type hstart
    have hsame : Build.nestedOr ops result type body (some m) =
        Build.nested ops type body (some m) := by
      rw [Build.nestedOr, Build.nested, Build.bind_next _ hopen, Build.bind_next _ hopen,
        if_neg (by rw [hplace]; exact Option.some_ne_none _)]
    rw [hsame]
    exact hbody.nested hdoc m hstart
  · obtain ⟨hnone, hbytes⟩ := hdoc.nestStart_of_lt m type (by omega)
    rw [encodeAll_cons, encodeAll_nil, List.append_nil, encode_nest, length_encodeNest hne,
      if_neg (by omega)]
    refine ⟨result, (ops.nlaNestStart m type).2, ?_, hresult⟩
    rw [Build.nestedOr, Build.bind_next _ hopen, if_pos hnone, Build.abort]

theorem Builds.loop {body : ℕ → Build M ℤ} {item : ℕ → Item} {n : ℕ}
    (hbody : ∀ i < n, Builds bytes room keepsEmpty 0 (body i) [item i] 0) :
    Builds bytes room keepsEmpty 0 (Build.loop n body 0) ((List.range n).map item) 0 := by
  have hturns : ∀ turns : List ℕ, (∀ i ∈ turns, i < n) →
      Builds bytes room keepsEmpty 0 (turns.foldlM (fun _ i => body i) (0 : ℤ))
        (turns.map item) 0 := by
    intro turns hlt
    induction turns with
    | nil => exact builds_pure 0
    | cons i turns ih =>
        have hrest := ih fun j hj => hlt j (List.mem_cons_of_mem _ hj)
        exact (hbody i (hlt i List.mem_cons_self)).bind hrest (fun h => absurd rfl h)
  exact hturns _ fun i hi => List.mem_range.mp hi

/-- A checked call of a function is the function itself. -/
theorem Builds.call_check {body : Build M ℤ}
    (hbody : Builds bytes room keepsEmpty need body items 0) :
    Builds bytes room keepsEmpty need (Build.call body >>= Build.check) items 0 := by
  intro m hroom
  have hone := hbody m hroom
  split_ifs at hone ⊢ with hfits
  · obtain ⟨m', hnext, hbytes⟩ := hone
    have hvalue : Build.call body (some m) = .next 0 (some m') := by
      rw [Build.call, hnext]
    exact ⟨m', by rw [Build.bind_next _ hvalue]; rfl, hbytes⟩
  · obtain ⟨result, m', hstop, hneg⟩ := hone
    have hvalue : Build.call body (some m) = .next result (some m') := by
      rw [Build.call, hstop]
    exact ⟨result, m', by rw [Build.bind_next _ hvalue]; exact if_pos hneg, hneg⟩

/-- A call whose result is not looked at, with enough room. -/
theorem Builds.call {body : Build M ℤ}
    (hbody : Builds bytes room keepsEmpty need body items 0)
    (hneed : (encodeAll keepsEmpty items).length ≤ need) :
    Builds bytes room keepsEmpty need (Build.call body) items 0 := by
  intro m hroom
  have hone := hbody m hroom
  rw [if_pos (by omega)] at hone ⊢
  obtain ⟨m', hnext, hbytes⟩ := hone
  exact ⟨m', by rw [Build.call, hnext], hbytes⟩

end Rules

/-! ## Messages that are lists -/

def nestEndBytes (keepsEmpty : Bool) (message : List UInt8) (place : ℕ) : List UInt8 :=
  let content := message.drop (place + 4)
  message.take place ++
    if content = [] ∧ keepsEmpty = false then []
    else toBytes 2 (4 + content.length) ++ (message.drop (place + 2)).take 2 ++ content

def listOps (room : ℕ) (keepsEmpty : Bool) : MessageOps (List UInt8) where
  nlaPut message type data :=
    if message.length + (encodeAttr type data).length ≤ room then
      (0, message ++ encodeAttr type data)
    else (-5, message)
  nlaNestStart message type :=
    if message.length + 4 ≤ room then (some message.length, message ++ encodeAttr type [])
    else (none, message)
  nlaNestEnd := nestEndBytes keepsEmpty

theorem documented_listOps (room : ℕ) (keepsEmpty : Bool) :
    (listOps room keepsEmpty).Documented id room keepsEmpty where
  put_of_le m type data hfits := by
    have hput : (listOps room keepsEmpty).nlaPut m type data =
        (0, m ++ encodeAttr type data) := if_pos hfits
    rw [hput]
    exact ⟨rfl, rfl⟩
  put_of_lt m type data hlarge := by
    have hput : (listOps room keepsEmpty).nlaPut m type data = (-5, m) :=
      if_neg (Nat.not_le.mpr hlarge)
    rw [hput]
    exact ⟨show (-5 : ℤ) < 0 by decide, rfl⟩
  nestStart_of_le m type hfits := by
    have hstart : (listOps room keepsEmpty).nlaNestStart m type =
        (some m.length, m ++ encodeAttr type []) := if_pos hfits
    rw [hstart]
    exact ⟨rfl, rfl⟩
  nestStart_of_lt m type hlarge := by
    have hstart : (listOps room keepsEmpty).nlaNestStart m type = (none, m) :=
      if_neg (Nat.not_le.mpr hlarge)
    rw [hstart]
    exact ⟨rfl, rfl⟩
  nestEnd m type before content hbytes hdvd := by
    have hm : m = before ++ (toBytes 2 4 ++ (toBytes 2 type ++ content)) := by
      rw [id_eq] at hbytes
      rw [hbytes, encodeAttr, List.length_nil]
      simp [align]
    have hcontent : m.drop (before.length + 4) = content := by
      rw [hm, ← List.append_assoc (toBytes 2 4), ← List.append_assoc before]
      exact List.drop_left' (by simp)
    have htype : (m.drop (before.length + 2)).take 2 = toBytes 2 type := by
      rw [hm, ← List.append_assoc before, List.drop_left' (by simp)]
      exact List.take_left' (length_toBytes 2 type)
    have hbefore : m.take before.length = before := by
      rw [hm]
      exact List.take_left
    change nestEndBytes keepsEmpty m before.length = _
    rw [nestEndBytes, hcontent, htype, hbefore, encodeNest, encodeAttr, align_of_dvd hdvd,
      Nat.sub_self, List.replicate_zero, List.append_nil]

end Netlink
