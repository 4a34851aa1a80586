import MediatekHardware.Wifi.VendorDataBounds

/-!
# Location elements of an RTT result

Behind a result there may be a measurement request for an LCI and one for a civic
location.  The length that is left behind the first one is computed with the size of
the result taken off twice, so that the second one is looked at only if it is longer
than a result.
-/

namespace MediatekHardware
namespace Wifi

/-! ## Elements -/

inductive LocationKind where
  | lci
  | civic
  deriving DecidableEq, Repr

def LocationKind.code : LocationKind → UInt8
  | lci => dot11MeasureTypeLci
  | civic => dot11MeasureTypeCivicloc

def LocationKind.other : LocationKind → LocationKind
  | lci => civic
  | civic => lci

/-- A measurement request; its length field counts what is behind it. -/
structure LocationElement where
  kind : LocationKind
  token : UInt8
  mode : UInt8
  request : List UInt8
  fits : request.length + 3 < 256

namespace LocationElement

def bytes (e : LocationElement) : List UInt8 :=
  [dot11MngMeasureRequestId, UInt8.ofNat (e.request.length + 3), e.token, e.mode, e.kind.code] ++
    e.request

/-- The encoded length. -/
def size (e : LocationElement) : ℕ := e.request.length + 5

@[simp] theorem length_bytes (e : LocationElement) : e.bytes.length = e.size := by
  simp [bytes, size]

end LocationElement

/-- Where the element of a kind begins, if there is one. -/
def offsetOf (kind : LocationKind) : ℕ → List LocationElement → Option ℕ
  | _, [] => none
  | offset, e :: elems =>
      if e.kind = kind then some offset else offsetOf kind (offset + e.size) elems

def resultPayload (result : List UInt8) (elems : List LocationElement) : List UInt8 :=
  result ++ (elems.map LocationElement.bytes).flatten

/-- The search stays inside of the payload and finds the elements that are there. -/
def LocationsFound (layout : Layout) (result : List UInt8) (elems : List LocationElement) : Prop :=
  elements layout (resultPayload result elems) =
    some ⟨resultPayload result elems, offsetOf .lci layout.rttResultSize elems,
      offsetOf .civic layout.rttResultSize elems⟩

/-! ## The search -/

theorem getElem?_append_at {before after : List UInt8} {offset : ℕ} (k : ℕ)
    (hoffset : before.length = offset) : (before ++ after)[offset + k]? = after[k]? := by
  rw [List.getElem?_append_right (by omega)]
  congr 1
  omega

theorem requestType_at {before : List UInt8} {offset : ℕ} (e : LocationElement)
    (after : List UInt8) (hoffset : before.length = offset) :
    requestType (before ++ (e.bytes ++ after)) offset = some (some e.kind.code) := by
  have hid : (before ++ (e.bytes ++ after))[offset]? = some dot11MngMeasureRequestId :=
    getElem?_append_at 0 hoffset
  have htype : (before ++ (e.bytes ++ after))[offset + 4]? = some e.kind.code :=
    getElem?_append_at 4 hoffset
  simp only [requestType, hid, htype, Option.bind_eq_bind, Option.bind_some, if_true]

/-- The second element is looked at only behind this many bytes. -/
theorem nextElement_eq {layout : Layout} {result after : List UInt8}
    (hresult : result.length = layout.rttResultSize) (e : LocationElement) (other : UInt8) :
    nextElement layout (result ++ (e.bytes ++ after)) other =
      if layout.rttResultSize < after.length then
        (requestType (result ++ (e.bytes ++ after)) (layout.rttResultSize + e.size)).map
          fun type => if type = some other then some (layout.rttResultSize + e.size) else none
      else some none := by
  have hlen : (result ++ (e.bytes ++ after))[layout.rttResultSize + 1]? =
      some (UInt8.ofNat (e.request.length + 3)) :=
    getElem?_append_at 1 hresult
  have hsize : (UInt8.ofNat (e.request.length + 3)).toNat + 2 = e.size := by
    rw [UInt8.toNat_ofNat_of_lt' e.fits, LocationElement.size]
  have hlength : (result ++ (e.bytes ++ after)).length =
      layout.rttResultSize + e.size + after.length := by
    rw [List.length_append, List.length_append, LocationElement.length_bytes, hresult,
      Nat.add_assoc]
  unfold nextElement
  rw [hlen, Option.bind_eq_bind, Option.bind_some]
  simp only [hsize]
  by_cases hroom : layout.rttResultSize < after.length
  · rw [if_pos (by omega), if_pos hroom, Option.bind_eq_bind, Option.map_eq_bind]
    rfl
  · rw [if_neg (by omega), if_neg hroom]

/-- Behind a first element the other kind is searched for. -/
theorem elements_eq {layout : Layout} {result after : List UInt8}
    (hresult : result.length = layout.rttResultSize) (e : LocationElement) :
    elements layout (result ++ (e.bytes ++ after)) =
      (nextElement layout (result ++ (e.bytes ++ after)) e.kind.other.code).map fun found =>
        ⟨result ++ (e.bytes ++ after),
          if e.kind = .lci then some layout.rttResultSize else found,
          if e.kind = .civic then some layout.rttResultSize else found⟩ := by
  have hlonger : ¬ (result ++ (e.bytes ++ after)).length ≤ layout.rttResultSize := by
    rw [List.length_append, List.length_append, LocationElement.length_bytes, hresult,
      LocationElement.size]
    omega
  unfold elements
  rw [if_neg hlonger, requestType_at e after hresult, Option.bind_eq_bind, Option.bind_some,
    Option.map_eq_bind]
  cases hkind : e.kind with
  | lci =>
      rw [if_pos (show some LocationKind.lci.code = some dot11MeasureTypeLci from rfl)]
      rfl
  | civic =>
      rw [if_neg (by decide),
        if_pos (show some LocationKind.civic.code = some dot11MeasureTypeCivicloc from rfl)]
      rfl

theorem locationsFound_nil {layout : Layout} {result : List UInt8}
    (hresult : result.length = layout.rttResultSize) : LocationsFound layout result [] := by
  unfold LocationsFound elements resultPayload
  rw [List.map_nil, List.flatten_nil, List.append_nil, if_pos hresult.le]
  rfl

theorem locationsFound_one {layout : Layout} {result : List UInt8}
    (hresult : result.length = layout.rttResultSize) (e : LocationElement) :
    LocationsFound layout result [e] := by
  have hnext : nextElement layout (result ++ (e.bytes ++ [])) e.kind.other.code = some none := by
    rw [nextElement_eq hresult, if_neg (by simp)]
  have hpayload : resultPayload result [e] = result ++ (e.bytes ++ []) := by
    simp [resultPayload]
  unfold LocationsFound
  rw [hpayload, elements_eq hresult, hnext, Option.map_some]
  rfl

theorem locationsFound_two_iff {layout : Layout} {result : List UInt8}
    (hresult : result.length = layout.rttResultSize) {first second : LocationElement}
    (hkinds : second.kind = first.kind.other) :
    LocationsFound layout result [first, second] ↔ layout.rttResultSize < second.size := by
  have hbefore : (result ++ first.bytes).length = layout.rttResultSize + first.size := by
    rw [List.length_append, LocationElement.length_bytes, hresult]
  have hsecond : requestType (result ++ (first.bytes ++ second.bytes))
      (layout.rttResultSize + first.size) = some (some first.kind.other.code) := by
    have hfound := requestType_at second [] hbefore
    rwa [List.append_nil, List.append_assoc, hkinds] at hfound
  have hnext : nextElement layout (result ++ (first.bytes ++ second.bytes))
      first.kind.other.code =
        if layout.rttResultSize < second.size then some (some (layout.rttResultSize + first.size))
        else some none := by
    rw [nextElement_eq hresult, hsecond, Option.map_some, if_pos rfl,
      LocationElement.length_bytes]
  have hpayload : resultPayload result [first, second] =
      result ++ (first.bytes ++ second.bytes) := by
    simp [resultPayload]
  unfold LocationsFound
  rw [hpayload, elements_eq hresult, hnext]
  have hdiffer : first.kind ≠ first.kind.other := by
    cases first.kind <;> decide
  by_cases hroom : layout.rttResultSize < second.size
  · refine iff_of_true ?_ hroom
    rw [if_pos hroom, Option.map_some]
    cases hkind : first.kind <;> rw [hkind] at hkinds <;>
      simp [offsetOf, hkind, hkinds, LocationKind.other]
  · refine iff_of_false ?_ hroom
    rw [if_neg hroom, Option.map_some]
    cases hkind : first.kind <;> rw [hkind] at hkinds <;>
      simp [offsetOf, hkind, hkinds, LocationKind.other]

/-- The elements are found exactly if there is no second one of at most the size of a
result. -/
theorem location_elements_found_iff {layout : Layout} {result : List UInt8}
    {elems : List LocationElement} (hresult : result.length = layout.rttResultSize)
    (hkinds : (elems.map LocationElement.kind).Nodup) :
    LocationsFound layout result elems ↔
      ∀ second, elems[1]? = some second → layout.rttResultSize < second.size := by
  rcases elems with _ | ⟨first, _ | ⟨second, _ | ⟨third, rest⟩⟩⟩
  · exact iff_of_true (locationsFound_nil hresult) fun second h => by cases h
  · exact iff_of_true (locationsFound_one hresult first) fun second h => by cases h
  · have hother : second.kind = first.kind.other := by
      have hne : first.kind ≠ second.kind := by simpa using hkinds
      cases hfirst : first.kind <;> cases hsecond : second.kind <;> simp_all [LocationKind.other]
    rw [locationsFound_two_iff hresult hother]
    simp
  · -- there are two kinds only
    exfalso
    simp only [List.map_cons, List.nodup_cons, List.mem_cons, not_or] at hkinds
    cases hfirst : first.kind <;> cases hsecond : second.kind <;> cases hthird : third.kind <;>
      simp_all

/-- An element with sixteen bytes behind its type. -/
def shortElement (kind : LocationKind) : LocationElement :=
  ⟨kind, 1, 0, List.replicate 16 0, by decide⟩

/-- The encoded length is 150. -/
def longElement (kind : LocationKind) : LocationElement :=
  ⟨kind, 2, 0, List.replicate 145 0, by simp⟩

theorem location_elements_found_long :
    LocationsFound layout64 (List.replicate 128 0) [shortElement .lci, longElement .civic] := by
  refine (location_elements_found_iff List.length_replicate (by decide)).mpr ?_
  intro second hsecond
  obtain rfl := Option.some.inj hsecond
  rw [LocationElement.size, longElement, List.length_replicate]
  decide

/-- The civic location behind an LCI is not found. -/
theorem short_civic_element_lost :
    ¬ LocationsFound layout64 (List.replicate 128 0) [shortElement .lci, shortElement .civic] := by
  unfold LocationsFound
  decide +kernel

end Wifi
end MediatekHardware
