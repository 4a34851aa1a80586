import MediatekHardware.Lib.Matcher
import MediatekHardware.Muxd.Frame
import Mathlib.Tactic

/-!
# The AT dialogue

`chat` waits for `OK` or `ERROR` behind a command.  It searches what one `read`
returned, for `OK` first, and keeps nothing of it for the next `read`.  The command has
been written when the loop modelled here begins.
-/

namespace MediatekHardware
namespace Muxd

open Matcher

/-! ## The loop -/

def okText : List Byte := [0x4F, 0x4B]
def errorText : List Byte := [0x45, 0x52, 0x52, 0x4F, 0x52]

/-- `sizeof(buf)` -/
def chatBufSize : ℕ := 1024

/-- Whether `select` is interrupted, fails or finds data, and what `read` returns. -/
inductive SelectEvent where
  | interrupted
  | failed
  | readFailed
  | ready (bytes : List Byte)
  deriving DecidableEq, Repr

/-- The result of `chat`, and whether it is there because time ran out. -/
structure ChatResult where
  rc : ℤ
  timedOut : Bool
  deriving DecidableEq, Repr

def memstr (haystack needle : List Byte) : Bool :=
  if needle = [] then true else search needle 0 haystack

/-- The loop of `chat`; nothing happens for five seconds behind the last event. -/
def chat : List SelectEvent → ChatResult
  | [] => ⟨-1, true⟩
  | .interrupted :: events => chat events
  | .failed :: _ => ⟨-1, false⟩
  | .readFailed :: _ => ⟨-1, false⟩
  | .ready bytes :: events =>
      let buf := bytes.take chatBufSize
      if memstr buf okText then ⟨0, false⟩
      else if memstr buf errorText then ⟨-1, false⟩
      else chat events

/-! ## The reply -/

inductive Reply where
  | ok
  | error
  deriving DecidableEq, Repr

/-- The reply that comes first in a stream. -/
def firstReply : List Byte → Option Reply
  | [] => none
  | c :: stream =>
      if okText <+: c :: stream then some .ok
      else if errorText <+: c :: stream then some .error
      else firstReply stream

/-- What `read` may return at once. -/
abbrev Piece := { bytes : List Byte // bytes ≠ [] ∧ bytes.length ≤ chatBufSize }

def streamOf (pieces : List Piece) : List Byte := (pieces.map Subtype.val).flatten

def eventsOf (pieces : List Piece) : List SelectEvent := pieces.map fun piece => .ready piece.val

/-- The result is that of the stream, however it is cut. -/
structure ChatAgrees (pieces : List Piece) : Prop where
  ok : firstReply (streamOf pieces) = some .ok → (chat (eventsOf pieces)).rc = 0
  error : firstReply (streamOf pieces) = some .error → (chat (eventsOf pieces)).rc = -1
  waits : firstReply (streamOf pieces) = none → chat (eventsOf pieces) = ⟨-1, true⟩

/-! ## What the loop sees -/

/-- The text lies whole between two cuts, and from the first of them on to it there are
failed attempts only. -/
def PieceShows (text : List Byte) (piece : Piece) : Prop := BehindAttempts text piece.val

/-- `OK` comes first in the stream, but in front of every piece that shows an `OK`, if any
does, there is one that shows an `ERROR`. -/
def MissesOk (pieces : List Piece) : Prop :=
  firstReply (streamOf pieces) = some .ok ∧
    ∀ before piece after, pieces = before ++ piece :: after → PieceShows okText piece →
      ∃ earlier ∈ before, PieceShows errorText earlier

/-- `ERROR` comes first in the stream, but some piece shows an `OK`, and none in front of
it shows an `ERROR`. -/
def MissesError (pieces : List Piece) : Prop :=
  firstReply (streamOf pieces) = some .error ∧
    ∃ before piece after, pieces = before ++ piece :: after ∧ PieceShows okText piece ∧
      ∀ earlier ∈ before, ¬ PieceShows errorText earlier

theorem memstr_iff_pieceShows {text : List Byte} (htext : text ≠ []) (piece : Piece) :
    memstr (piece.val.take chatBufSize) text = true ↔ PieceShows text piece := by
  rw [List.take_of_length_le piece.2.2, memstr, if_neg htext]
  exact search_iff_behindAttempts htext

theorem chat_cons (piece : Piece) (pieces : List Piece) :
    chat (eventsOf (piece :: pieces)) =
      if memstr (piece.val.take chatBufSize) okText then ⟨0, false⟩
      else if memstr (piece.val.take chatBufSize) errorText then ⟨-1, false⟩
      else chat (eventsOf pieces) := rfl

/-- An `OK` that is shown behind no `ERROR` is taken. -/
theorem rc_chat_of_shows {before : List Piece} {piece : Piece} (after : List Piece)
    (hok : PieceShows okText piece)
    (hbefore : ∀ earlier ∈ before, ¬ PieceShows errorText earlier) :
    (chat (eventsOf (before ++ piece :: after))).rc = 0 := by
  induction before with
  | nil =>
      rw [List.nil_append, chat_cons,
        if_pos ((memstr_iff_pieceShows (by decide) piece).mpr hok)]
  | cons first before ih =>
      rw [List.forall_mem_cons] at hbefore
      rw [List.cons_append, chat_cons]
      split_ifs with hfirst herror
      · rfl
      · exact absurd ((memstr_iff_pieceShows (by decide) first).mp herror) hbefore.1
      · exact ih hbefore.2

/-- Nothing else is. -/
theorem shows_of_rc_chat {pieces : List Piece} (hrc : (chat (eventsOf pieces)).rc = 0) :
    ∃ before piece after, pieces = before ++ piece :: after ∧ PieceShows okText piece ∧
      ∀ earlier ∈ before, ¬ PieceShows errorText earlier := by
  induction pieces with
  | nil => cases hrc
  | cons piece pieces ih =>
      rw [chat_cons] at hrc
      split_ifs at hrc with hok herror
      · have hshows := (memstr_iff_pieceShows (by decide) piece).mp hok
        exact ⟨[], piece, pieces, rfl, hshows, by simp⟩
      · cases hrc
      · obtain ⟨before, found, after, rfl, hfound, hbefore⟩ := ih hrc
        refine ⟨piece :: before, found, after, rfl, hfound, ?_⟩
        refine List.forall_mem_cons.mpr ⟨fun hshows => herror ?_, hbefore⟩
        exact (memstr_iff_pieceShows (by decide) piece).mpr hshows

theorem rc_chat (pieces : List Piece) :
    (chat (eventsOf pieces)).rc = 0 ∨ (chat (eventsOf pieces)).rc = -1 := by
  induction pieces with
  | nil => exact .inr rfl
  | cons piece pieces ih =>
      rw [chat_cons]
      split_ifs
      · exact .inl rfl
      · exact .inr rfl
      · exact ih

theorem firstReply_ne_none {stream text : List Byte} (htext : text = okText ∨ text = errorText)
    (hwithin : text <:+: stream) : firstReply stream ≠ none := by
  induction stream with
  | nil =>
      have hnil := List.infix_nil.mp hwithin
      rcases htext with rfl | rfl <;> cases hnil
  | cons c stream ih =>
      rw [firstReply]
      split_ifs with hok herror
      · exact fun h => by cases h
      · exact fun h => by cases h
      · apply ih
        rcases List.infix_cons_iff.mp hwithin with hstart | hlater
        · rcases htext with rfl | rfl
          · exact absurd hstart hok
          · exact absurd hstart herror
        · exact hlater

theorem PieceShows.firstReply_ne_none {text : List Byte} {piece : Piece} {pieces : List Piece}
    (htext : text = okText ∨ text = errorText) (hmem : piece ∈ pieces)
    (hshows : PieceShows text piece) : firstReply (streamOf pieces) ≠ none := by
  apply Muxd.firstReply_ne_none htext
  have hpiece : piece.val <:+: streamOf pieces :=
    List.infix_of_mem_flatten (List.mem_map_of_mem hmem)
  exact (BehindAttempts.within hshows).trans hpiece

theorem chat_of_firstReply_eq_none {pieces : List Piece}
    (hnone : firstReply (streamOf pieces) = none) : chat (eventsOf pieces) = ⟨-1, true⟩ := by
  have hblank : ∀ piece ∈ pieces,
      ¬ PieceShows okText piece ∧ ¬ PieceShows errorText piece := by
    intro piece hmem
    constructor
    · exact fun hshows => hshows.firstReply_ne_none (.inl rfl) hmem hnone
    · exact fun hshows => hshows.firstReply_ne_none (.inr rfl) hmem hnone
  clear hnone
  induction pieces with
  | nil => rfl
  | cons piece pieces ih =>
      rw [List.forall_mem_cons] at hblank
      rcases hblank with ⟨⟨hok, herror⟩, hrest⟩
      have hnotOk : ¬ memstr (piece.val.take chatBufSize) okText = true :=
        fun h => hok ((memstr_iff_pieceShows (by decide) piece).mp h)
      have hnotError : ¬ memstr (piece.val.take chatBufSize) errorText = true :=
        fun h => herror ((memstr_iff_pieceShows (by decide) piece).mp h)
      rw [chat_cons, if_neg hnotOk, if_neg hnotError]
      exact ih hrest

/-- The result is that of the stream exactly if the cuts and the failed attempts neither
hide an `OK` that comes first nor show one too early. -/
theorem chat_agrees_iff (pieces : List Piece) :
    ChatAgrees pieces ↔ ¬ MissesOk pieces ∧ ¬ MissesError pieces := by
  constructor
  · intro hagrees
    constructor
    · rintro ⟨hfirst, hmissed⟩
      obtain ⟨before, piece, after, hsplit, hok, hbefore⟩ :=
        shows_of_rc_chat (hagrees.ok hfirst)
      obtain ⟨earlier, hearlier, herror⟩ := hmissed before piece after hsplit hok
      exact hbefore earlier hearlier herror
    · rintro ⟨hfirst, before, piece, after, rfl, hok, hbefore⟩
      have hrc := hagrees.error hfirst
      rw [rc_chat_of_shows after hok hbefore] at hrc
      cases hrc
  · rintro ⟨hok, herror⟩
    refine ⟨fun hfirst => ?_, fun hfirst => ?_, chat_of_firstReply_eq_none⟩
    · by_contra hrc
      refine hok ⟨hfirst, fun before piece after hsplit hshows => ?_⟩
      by_contra hnone
      push Not at hnone
      subst hsplit
      exact hrc (rc_chat_of_shows after hshows hnone)
    · apply (rc_chat pieces).resolve_left
      exact fun hrc => herror ⟨hfirst, shows_of_rc_chat hrc⟩

/-- An `OK` that is cut in two is not seen. -/
theorem chat_cut_ok :
    ¬ ChatAgrees [⟨[0x0D, 0x0A, 0x4F], by decide⟩, ⟨[0x4B, 0x0D, 0x0A], by decide⟩] := by
  intro hagrees
  have hresult := hagrees.ok (by decide)
  revert hresult
  decide

end Muxd
end MediatekHardware
