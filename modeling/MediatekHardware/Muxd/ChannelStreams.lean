import MediatekHardware.Muxd.ReceivedFrames
import MediatekHardware.Muxd.SharedLine
import Mathlib.Tactic

/-!
# The channels on the line

Each channel has a thread that reads the pty and hands what it has read to
`handle_channel_data`; other threads send commands and responses.  All of them
send through `write_frame`.  At the other end of the line a daemon receives with its
two threads.  Whatever the order of all these steps and however the writes end, what
it delivers on each channel is a beginning of the bytes that came from the pty.

`close_devices` is not among these threads: in basic mode it sends a command in a
UIH frame of the channel it closes.
-/

namespace MediatekHardware
namespace Muxd

open StepMachine Transition CriticalSection

/-! ## Threads -/

inductive MuxThread where
  | channel (channel : ℕ)
  | other (index : ℕ)
  deriving DecidableEq, Repr

/-- The variables of `handle_channel_data`. -/
structure ChannelLoop where
  buf : List Byte
  written : ℤ
  i : ℕ
  deriving DecidableEq, Repr

/-- `taken` has all that `read` has returned from the pty; the code has no such
record. -/
inductive ThreadState where
  | channel (id : ℕ) (taken : List Byte) (loop : Option ChannelLoop)
  | other (pending : Option WriteArgs)
  deriving DecidableEq, Repr

inductive ThreadMove where
  | read (bytes : List Byte)
  | finish
  | issue (args : WriteArgs)
  deriving DecidableEq, Repr

namespace ChannelLoop

def Continues (loop : ChannelLoop) : Prop :=
  loop.written ≠ loop.buf.length ∧ loop.i < gsm0710WriteRetries

instance (loop : ChannelLoop) : Decidable loop.Continues :=
  inferInstanceAs (Decidable (_ ∧ _))

def call (loop : ChannelLoop) (id : ℕ) : WriteArgs where
  channel := id
  input := loop.buf.drop loop.written.toNat
  length := loop.buf.length - loop.written
  type := gsm0710TypeUih

def behind (loop : ChannelLoop) (last : ℤ) : ChannelLoop :=
  { loop with
    written := loop.written + last
    i := if last = 0 then loop.i + 1 else loop.i }

/-- What has been read and not yet written. -/
def left (loop : ChannelLoop) : List Byte := loop.buf.drop loop.written.toNat

end ChannelLoop

def unsent : Option ChannelLoop → List Byte
  | none => []
  | some loop => loop.left

/-- `pseudo_device_read` and `handle_channel_data` of the channels; the other
threads call `write_frame` with what they have been given. -/
def muxWriters : Writers ThreadState ThreadMove where
  asks
    | .channel id _ (some loop) => if loop.Continues then some (loop.call id) else none
    | .channel _ _ none => none
    | .other pending => pending
  resume
    | .channel id taken loop, last => .channel id taken (loop.map (·.behind last))
    | .other _, _ => .other none
  own
    | .channel id taken none, .read bytes =>
        some (.channel id (taken ++ bytes) (some ⟨bytes, 0, 0⟩))
    | .channel id taken (some loop), .finish =>
        if loop.Continues then none else some (.channel id taken none)
    | .other none, .issue args => some (.other (some args))
    | _, _ => none

def startThreads : MuxThread → ThreadState
  | .channel channel => .channel channel [] none
  | .other _ => .other none

def takenFrom : ThreadState → List Byte
  | .channel _ taken _ => taken
  | .other _ => []

def loopOf : ThreadState → Option ChannelLoop
  | .channel _ _ loop => loop
  | .other _ => none

/-! ## Calls -/

/-- A call of a thread that serves no channel: no user data, or the control
channel. -/
structure WriteArgs.Ordinary (args : WriteArgs) : Prop where
  channel_lt : args.channel < gsm0710MaxChannels
  type_mem : args.type ∈ frameTypes
  length_nonneg : 0 ≤ args.length
  length_le : args.length ≤ args.input.length
  off_channel : args.channel = 0 ∨ gsm0710FrameIs gsm0710TypeUih args.type = false

structure WriteArgs.Data (channel : ℕ) (args : WriteArgs) : Prop where
  channel_eq : args.channel = channel
  channel_pos : 0 < channel
  channel_lt : channel < gsm0710MaxChannels
  type_eq : args.type = gsm0710TypeUih
  length_nonneg : 0 ≤ args.length
  length_le : args.length ≤ args.input.length

/-- `read` has a buffer of 1024 bytes. -/
def MuxMoves : MuxThread → ThreadMove → Prop
  | .channel channel, .read bytes =>
      0 < channel ∧ channel < gsm0710MaxChannels ∧ bytes.length ≤ 1024
  | .other _, .issue args => args.Ordinary
  | _, _ => True

def CallOf : MuxThread → WriteArgs → Prop
  | .channel channel, args => args.Data channel
  | .other _, args => args.Ordinary

def WriteArgs.toCall (cfg : TxConfig) (pf : Bool) (args : WriteArgs) : WriteCall where
  channel := args.channel
  input := args.input
  length := (args.sentLength cfg).toNat
  type := args.type
  pfReceived := pf

def lineCalls {T : Type*} (cfg : TxConfig) : Bool → List (LineOp T) → List WriteCall
  | _, [] => []
  | pf, .call _ args :: ops => args.toCall cfg pf :: lineCalls cfg (args.pfAfter pf) ops
  | _, .change .pfReceived :: ops => lineCalls cfg true ops

/-- The data of the frames that a receiver takes for user data of a channel. -/
def channelData (channel : ℕ) (frames : List Gsm0710Frame) : List Byte :=
  (frames.filter fun frame =>
    frame.channel == UInt8.ofNat channel && gsm0710FrameIs gsm0710TypeUih frame.control).flatMap
      Gsm0710Frame.data

/-! ## One thread -/

section Threads

variable {cfg : TxConfig} {outcome : ℕ → WriteOutcome}

theorem advanceWriteFrame_length {u v : WriteBody × TxState}
    (hstep : advanceWriteFrame outcome u = .inl v) : v.1.length = u.1.length := by
  obtain ⟨⟨pieces, length⟩, s⟩ := u
  cases pieces with
  | nil => simp [advanceWriteFrame] at hstep
  | cons piece pieces =>
      simp only [advanceWriteFrame] at hstep
      split at hstep
      · cases hstep
      · cases hstep
        rfl

theorem advanceWriteFrame_unlocked {u : WriteBody × TxState} {result : ℤ} {s : TxState}
    (hstep : advanceWriteFrame outcome u = .inr (.unlocked result, s)) :
    result = u.1.length := by
  obtain ⟨⟨pieces, length⟩, s⟩ := u
  cases pieces with
  | nil =>
      simp only [advanceWriteFrame] at hstep
      cases hstep
      rfl
  | cons piece pieces =>
      simp only [advanceWriteFrame] at hstep
      split at hstep
      · cases hstep
      · cases hstep

structure ChannelLoop.Within (channel : ℕ) (loop : ChannelLoop) : Prop where
  channel_pos : 0 < channel
  channel_lt : channel < gsm0710MaxChannels
  written_nonneg : 0 ≤ loop.written
  written_le : loop.written ≤ loop.buf.length
  i_eq : loop.i = 0

variable {channel : ℕ} {loop : ChannelLoop}

theorem ChannelLoop.Within.call_data (hwithin : loop.Within channel) :
    (loop.call channel).Data channel where
  channel_eq := rfl
  channel_pos := hwithin.channel_pos
  channel_lt := hwithin.channel_lt
  type_eq := rfl
  length_nonneg := sub_nonneg.mpr hwithin.written_le
  length_le := by
    have hle := hwithin.written_le
    have hnonneg := hwithin.written_nonneg
    simp only [ChannelLoop.call, List.length_drop]
    omega

/-- A call that gives the lock back has sent something. -/
theorem ChannelLoop.Within.behind (hwithin : loop.Within channel)
    (hn1 : 0 < cfg.negotiatedN1 channel) (hopen : loop.written ≠ loop.buf.length) :
    (loop.behind ((loop.call channel).sentLength cfg)).Within channel ∧
      (loop.call channel).data cfg ++
        (loop.behind ((loop.call channel).sentLength cfg)).left = loop.left := by
  have hle := hwithin.written_le
  have hnonneg := hwithin.written_nonneg
  have hsent : 0 < (loop.call channel).sentLength cfg ∧
      (loop.call channel).sentLength cfg ≤ loop.buf.length - loop.written := by
    simp only [WriteArgs.sentLength, ChannelLoop.call]
    omega
  constructor
  · refine ⟨hwithin.channel_pos, hwithin.channel_lt, ?_, ?_, ?_⟩
    · simp only [ChannelLoop.behind]
      omega
    · simp only [ChannelLoop.behind]
      omega
    · simp only [ChannelLoop.behind, if_neg hsent.1.ne']
      exact hwithin.i_eq
  · have hdrop : (loop.behind ((loop.call channel).sentLength cfg)).left =
        loop.left.drop ((loop.call channel).sentLength cfg).toNat := by
      simp only [ChannelLoop.left, ChannelLoop.behind, List.drop_drop]
      congr 1
      omega
    rw [hdrop]
    exact List.take_append_drop _ _

theorem ChannelLoop.Within.left_eq_nil (hwithin : loop.Within channel)
    (hdone : ¬ loop.Continues) : loop.left = [] := by
  have hwritten : loop.written = loop.buf.length := by
    by_contra hopen
    exact hdone ⟨hopen, by rw [hwithin.i_eq]; decide⟩
  rw [ChannelLoop.left, hwritten, Int.toNat_natCast]
  exact List.drop_eq_nil_of_le le_rfl

/-- Where the thread of a channel is with the bytes it has taken, when the data of
its calls is `sent`. -/
inductive ChannelPlace (cfg : TxConfig) (channel : ℕ) (taken sent : List Byte) :
    Option ChannelLoop → Stage WriteBody WriteArgs → Prop
  | outside {loop : Option ChannelLoop} (htaken : taken = sent ++ unsent loop) :
      ChannelPlace cfg channel taken sent loop .outside
  | waiting {loop : ChannelLoop} (hopen : loop.written ≠ loop.buf.length)
      (htaken : taken = sent ++ loop.left) :
      ChannelPlace cfg channel taken sent (some loop) (.waiting (loop.call channel))
  | inside {loop : ChannelLoop} {rest : WriteBody} (hopen : loop.written ≠ loop.buf.length)
      (hlength : rest.length = (loop.call channel).sentLength cfg)
      (htaken : taken = sent ++ (loop.behind rest.length).left) :
      ChannelPlace cfg channel taken sent (some loop) (.inside (loop.call channel) rest)

def SendsInOrder (cfg : TxConfig) :
    MuxThread → ThreadState → Stage WriteBody WriteArgs → List WriteArgs → Prop
  | .channel channel, state, stage, calls =>
      (∀ args ∈ calls, args.Data channel) ∧ ∃ taken loop,
        state = .channel channel taken loop ∧
        (∀ last, loop = some last → last.Within channel) ∧
        ChannelPlace cfg channel taken (calls.flatMap (WriteArgs.data cfg)) loop stage
  | .other _, state, stage, calls =>
      (∀ args ∈ calls, args.Ordinary) ∧ ∃ pending, state = .other pending ∧
        (∀ args, pending = some args → args.Ordinary) ∧
        ∀ args, stage = .waiting args → args.Ordinary

/-- A thread that came back with the lock has sent a part of what it has taken. -/
def SendsPart (cfg : TxConfig) : MuxThread → ThreadState → List WriteArgs → Prop
  | .channel channel, state, calls =>
      (∀ args ∈ calls, args.Data channel) ∧ ∃ taken loop,
        state = .channel channel taken loop ∧
        calls.flatMap (WriteArgs.data cfg) <+: taken
  | .other _, state, calls =>
      (∀ args ∈ calls, args.Ordinary) ∧ ∃ pending, state = .other pending

theorem mem_calls_concat {p : WriteArgs → Prop} {calls : List WriteArgs} {call : WriteArgs}
    (hcalls : ∀ args ∈ calls, p args) (hcall : p call) : ∀ args ∈ calls ++ [call], p args := by
  intro args hargs
  rcases List.mem_append.mp hargs with hold | hnew
  · exact hcalls args hold
  · rw [List.mem_singleton] at hnew
    exact hnew ▸ hcall

theorem threadRule (hn1 : ∀ channel, 0 < cfg.negotiatedN1 channel) :
    ThreadRule (muxWriters.program cfg outcome) MuxMoves (SendsInOrder cfg)
      (SendsPart cfg) where
  call := by
    rintro (channel | index) state call calls hinv hasks
    · obtain ⟨hcalls, taken, loop, rfl, hwithin, hplace⟩ := hinv
      cases loop with
      | none => cases hasks
      | some loop =>
          simp only [Writers.program, muxWriters] at hasks
          split at hasks
          · rename_i hcontinues
            cases hasks
            cases hplace with
            | outside htaken =>
                exact ⟨hcalls, taken, some loop, rfl, hwithin, .waiting hcontinues.1 htaken⟩
          · cases hasks
    · obtain ⟨hcalls, pending, rfl, hpending, _⟩ := hinv
      refine ⟨hcalls, pending, rfl, hpending, ?_⟩
      intro args hargs
      cases hargs
      exact hpending _ hasks
  lock := by
    rintro (channel | index) state call calls s hinv
    · obtain ⟨hcalls, taken, loop, rfl, hwithin, hplace⟩ := hinv
      cases hplace with
      | waiting hopen htaken =>
          rename_i loop
          have hloop := hwithin loop rfl
          refine ⟨mem_calls_concat hcalls hloop.call_data, taken, some loop, rfl, hwithin,
            .inside hopen rfl ?_⟩
          rw [htaken, List.flatMap_append, List.flatMap_singleton, List.append_assoc]
          congr 1
          exact (hloop.behind (hn1 channel) hopen).2.symm
    · obtain ⟨hcalls, pending, rfl, hpending, hwaiting⟩ := hinv
      exact ⟨mem_calls_concat hcalls (hwaiting call rfl), pending, rfl, hpending, by simp⟩
  goOn := by
    rintro (channel | index) state call calls rest rest' s s' hinv hstep
    · obtain ⟨hcalls, taken, loop, rfl, hwithin, hplace⟩ := hinv
      have hsame : rest'.length = rest.length := advanceWriteFrame_length hstep
      cases hplace with
      | inside hopen hlength htaken =>
          refine ⟨hcalls, taken, _, rfl, hwithin, .inside hopen (hsame.trans hlength) ?_⟩
          rw [hsame]
          exact htaken
    · obtain ⟨hcalls, pending, rfl, hpending, _⟩ := hinv
      exact ⟨hcalls, pending, rfl, hpending, by simp⟩
  unlocked := by
    rintro (channel | index) state call calls rest result s s' hinv hstep
    · obtain ⟨hcalls, taken, loop, rfl, hwithin, hplace⟩ := hinv
      have hresult : result = rest.length := advanceWriteFrame_unlocked hstep
      cases hplace with
      | inside hopen hlength htaken =>
          rename_i loop
          refine ⟨hcalls, taken, some (loop.behind result), rfl, ?_, .outside ?_⟩
          · intro last hlast
            cases hlast
            rw [hresult, hlength]
            exact ((hwithin loop rfl).behind (hn1 channel) hopen).1
          · rw [hresult]
            exact htaken
    · obtain ⟨hcalls, pending, rfl, _, _⟩ := hinv
      exact ⟨hcalls, none, rfl, by simp, by simp⟩
  locked := by
    rintro (channel | index) state call calls rest result s s' hinv hstep
    · obtain ⟨hcalls, taken, loop, rfl, _, hplace⟩ := hinv
      cases hplace with
      | inside hopen hlength htaken =>
          refine ⟨hcalls, taken, _, rfl, ?_⟩
          rw [htaken]
          exact List.prefix_append _ _
    · obtain ⟨hcalls, pending, rfl, _, _⟩ := hinv
      exact ⟨hcalls, none, rfl⟩
  own := by
    rintro (channel | index) state state' move calls hinv hmay hown
    · obtain ⟨hcalls, taken, loop, rfl, hwithin, hplace⟩ := hinv
      cases hplace with
      | outside htaken =>
          cases move with
          | read bytes =>
              cases loop with
              | some loop => cases hown
              | none =>
                  cases hown
                  refine ⟨hcalls, _, _, rfl, ?_, .outside ?_⟩
                  · intro last hlast
                    cases hlast
                    exact ⟨hmay.1, hmay.2.1, le_rfl, Int.natCast_nonneg _, rfl⟩
                  · rw [htaken]
                    simp [unsent, ChannelLoop.left]
          | finish =>
              cases loop with
              | none => cases hown
              | some loop =>
                  simp only [Writers.program, muxWriters] at hown
                  split at hown
                  · cases hown
                  · rename_i hdone
                    cases hown
                    refine ⟨hcalls, taken, none, rfl, by simp, .outside ?_⟩
                    rw [htaken, unsent, unsent, (hwithin loop rfl).left_eq_nil hdone]
          | issue args => cases loop <;> cases hown
    · obtain ⟨hcalls, pending, rfl, hpending, _⟩ := hinv
      cases pending with
      | some args => cases move <;> cases hown
      | none =>
          cases move with
          | issue args =>
              cases hown
              refine ⟨hcalls, some args, rfl, ?_, by simp⟩
              intro call hcall
              cases hcall
              exact hmay
          | read bytes => cases hown
          | finish => cases hown
  kept := by
    rintro (channel | index) state state' move calls hinv hmay hown
    · obtain ⟨hcalls, taken, loop, rfl, hpart⟩ := hinv
      cases loop with
      | none =>
          cases move with
          | read bytes =>
              cases hown
              exact ⟨hcalls, _, _, rfl, hpart.trans (List.prefix_append _ _)⟩
          | finish => cases hown
          | issue args => cases hown
      | some loop =>
          cases move with
          | finish =>
              simp only [Writers.program, muxWriters] at hown
              split at hown
              · cases hown
              · cases hown
                exact ⟨hcalls, taken, none, rfl, hpart⟩
          | read bytes => cases hown
          | issue args => cases hown
    · obtain ⟨hcalls, pending, rfl⟩ := hinv
      cases pending with
      | some args => cases move <;> cases hown
      | none =>
          cases move with
          | issue args =>
              cases hown
              exact ⟨hcalls, some args, rfl⟩
          | read bytes => cases hown
          | finish => cases hown

end Threads

/-! ## The line -/

section Line

variable {cfg : TxConfig} {outcome : ℕ → WriteOutcome}

/-- The calls of a history are calls that their threads make. -/
def CallsOf (ops : List (LineOp MuxThread)) : Prop :=
  ∀ thread, ∀ args ∈ callsBy thread ops, CallOf thread args

theorem CallsOf.tail {op : LineOp MuxThread} {ops : List (LineOp MuxThread)}
    (hcalls : CallsOf (op :: ops)) : CallsOf ops := by
  intro thread args hargs
  refine hcalls thread args ?_
  rw [callsBy, List.mem_filterMap] at hargs ⊢
  obtain ⟨found, hfound, hsome⟩ := hargs
  exact ⟨found, List.mem_cons_of_mem _ hfound, hsome⟩

theorem CallsOf.head {thread : MuxThread} {args : WriteArgs} {ops : List (LineOp MuxThread)}
    (hcalls : CallsOf (.call thread args :: ops)) : CallOf thread args := by
  refine hcalls thread args ?_
  rw [callsBy, List.mem_filterMap]
  exact ⟨_, List.mem_cons_self, if_pos rfl⟩

theorem CallOf.args {thread : MuxThread} {args : WriteArgs} (hcall : CallOf thread args) :
    args.channel < gsm0710MaxChannels ∧ args.type ∈ frameTypes ∧ 0 ≤ args.length ∧
      args.length ≤ args.input.length := by
  cases thread with
  | channel channel =>
      have hdata : args.Data channel := hcall
      refine ⟨?_, ?_, hdata.length_nonneg, hdata.length_le⟩
      · rw [hdata.channel_eq]
        exact hdata.channel_lt
      · rw [hdata.type_eq]
        decide
  | other index =>
      have hordinary : args.Ordinary := hcall
      exact ⟨hordinary.channel_lt, hordinary.type_mem, hordinary.length_nonneg,
        hordinary.length_le⟩

theorem CallOf.toCall {thread : MuxThread} {args : WriteArgs} (hcall : CallOf thread args)
    (hn1 : 0 < cfg.negotiatedN1 args.channel ∧
      cfg.negotiatedN1 args.channel ≤ frameLimit cfg.cmuxMode) (pf : Bool) :
    (args.toCall cfg pf).Sendable cfg.cmuxMode ∧
      (args.toCall cfg pf).pieces cfg.cmuxMode = args.pieces cfg pf := by
  obtain ⟨hchannel, htype, hnonneg, hle⟩ := hcall.args
  have hlength : ((args.sentLength cfg).toNat : ℤ) = args.sentLength cfg := by
    simp only [WriteArgs.sentLength]
    omega
  refine ⟨⟨hchannel, htype, ?_, ?_⟩, ?_⟩
  · simp only [WriteArgs.toCall, WriteArgs.sentLength]
    omega
  · simp only [WriteArgs.toCall, WriteArgs.sentLength]
    omega
  · simp only [WriteCall.pieces, WriteArgs.pieces, WriteArgs.toCall, WriteCall.control,
      WriteCall.frame, WriteArgs.data, hlength]

theorem lineFrames_eq (hn1 : ∀ channel, 0 < cfg.negotiatedN1 channel ∧
      cfg.negotiatedN1 channel ≤ frameLimit cfg.cmuxMode)
    {ops : List (LineOp MuxThread)} (hops : CallsOf ops) (pf : Bool) :
    lineFrames cfg pf ops = sentBytes cfg.cmuxMode (lineCalls cfg pf ops) ∧
      ∀ call ∈ lineCalls cfg pf ops, call.Sendable cfg.cmuxMode := by
  induction ops generalizing pf with
  | nil => exact ⟨rfl, by simp [lineCalls]⟩
  | cons op ops ih =>
      cases op with
      | call thread args =>
          obtain ⟨hsendable, hpieces⟩ := hops.head.toCall (hn1 args.channel) pf
          obtain ⟨hframes, hall⟩ := ih hops.tail (args.pfAfter pf)
          constructor
          · rw [lineFrames, lineCalls, sentBytes_cons, hpieces, hframes]
          · rw [lineCalls, List.forall_mem_cons]
            exact ⟨hsendable, hall⟩
      | change change => exact ih hops.tail true

theorem ofNat_channel_inj {first second : ℕ} (hfirst : first < gsm0710MaxChannels)
    (hsecond : second < gsm0710MaxChannels) :
    UInt8.ofNat first = UInt8.ofNat second ↔ first = second := by
  unfold gsm0710MaxChannels at hfirst hsecond
  constructor
  · intro hsame
    have hnat := congrArg UInt8.toNat hsame
    rw [UInt8.toNat_ofNat', UInt8.toNat_ofNat'] at hnat
    omega
  · exact congrArg UInt8.ofNat

theorem channelData_append (channel : ℕ) (first second : List Gsm0710Frame) :
    channelData channel (first ++ second) =
      channelData channel first ++ channelData channel second := by
  simp only [channelData, List.filter_append, List.flatMap_append]

theorem channelData_prefix_of_prefix (channel : ℕ) {first second : List Gsm0710Frame}
    (hbegin : first <+: second) : channelData channel first <+: channelData channel second := by
  obtain ⟨rest, rfl⟩ := hbegin
  rw [channelData_append]
  exact List.prefix_append _ _

theorem wireControl_uih_iff (type : Byte) (pf : Bool) (input : List Byte) :
    gsm0710FrameIs gsm0710TypeUih (wireControl type pf input) =
      gsm0710FrameIs gsm0710TypeUih type := by
  have hpf : (type ||| gsm0710Pf) &&& ~~~gsm0710Pf = type &&& ~~~gsm0710Pf := by
    apply UInt8.toBitVec_inj.mp
    simp only [UInt8.toBitVec_and, UInt8.toBitVec_or, UInt8.toBitVec_not]
    ext i hi
    simp only [BitVec.getElem_and, BitVec.getElem_or, BitVec.getElem_not]
    cases gsm0710Pf.toBitVec[i] <;> simp
  unfold wireControl
  split
  · simp only [gsm0710FrameIs, hpf]
  · rfl

variable (cfg) in
/-- A frame counts for a channel exactly if the thread of the channel has sent it. -/
theorem channelData_call {thread : MuxThread} {args : WriteArgs} (hcall : CallOf thread args)
    {channel : ℕ} (hpos : 0 < channel) (hlt : channel < gsm0710MaxChannels) (pf : Bool) :
    channelData channel [(args.toCall cfg pf).frame] =
      if thread = .channel channel then args.data cfg else [] := by
  obtain ⟨hchannel, _, _, _⟩ := hcall.args
  have hsame : ((args.toCall cfg pf).frame.channel == UInt8.ofNat channel) =
      decide (args.channel = channel) := by
    rw [beq_eq_decide]
    exact decide_eq_decide.mpr (ofNat_channel_inj hchannel hlt)
  have huih : gsm0710FrameIs gsm0710TypeUih (args.toCall cfg pf).frame.control =
      gsm0710FrameIs gsm0710TypeUih args.type := wireControl_uih_iff _ _ _
  have hframe : channelData channel [(args.toCall cfg pf).frame] =
      if args.channel = channel ∧ gsm0710FrameIs gsm0710TypeUih args.type = true
        then args.data cfg else [] := by
    simp only [channelData, List.filter_singleton, hsame, huih]
    by_cases hboth : args.channel = channel ∧ gsm0710FrameIs gsm0710TypeUih args.type = true
    · rw [if_pos hboth]
      simp [hboth.1, hboth.2, WriteCall.frame, WriteArgs.toCall, WriteArgs.data]
    · rw [if_neg hboth]
      have hfalse : (decide (args.channel = channel) &&
          gsm0710FrameIs gsm0710TypeUih args.type) = false := by
        rw [Bool.eq_false_iff]
        intro htrue
        rw [Bool.and_eq_true, decide_eq_true_eq] at htrue
        exact hboth htrue
      simp [hfalse]
  rw [hframe]
  refine if_congr ?_ rfl rfl
  cases thread with
  | channel own =>
      have hdata : args.Data own := hcall
      rw [hdata.channel_eq, hdata.type_eq, MuxThread.channel.injEq]
      exact and_iff_left (by decide)
  | other index =>
      have hordinary : args.Ordinary := hcall
      simp only [reduceCtorEq, iff_false]
      rintro ⟨rfl, huih⟩
      rcases hordinary.off_channel with hzero | hnot
      · exact absurd hzero hpos.ne'
      · exact absurd huih (by simp [hnot])

variable (cfg) in
theorem channelData_lineCalls {ops : List (LineOp MuxThread)} (hops : CallsOf ops)
    {channel : ℕ} (hpos : 0 < channel) (hlt : channel < gsm0710MaxChannels) (pf : Bool) :
    channelData channel ((lineCalls cfg pf ops).map WriteCall.frame) =
      (callsBy (.channel channel) ops).flatMap (WriteArgs.data cfg) := by
  induction ops generalizing pf with
  | nil => rfl
  | cons op ops ih =>
      cases op with
      | call thread args =>
          have hfirst := channelData_call cfg hops.head hpos hlt pf
          rw [lineCalls, List.map_cons, ← List.singleton_append, channelData_append, hfirst,
            ih hops.tail]
          by_cases hsame : thread = .channel channel
          · rw [if_pos hsame, hsame, callsBy_cons_self, List.flatMap_cons]
          · rw [if_neg hsame, callsBy_cons_of_ne hsame, List.nil_append]
      | change change => exact ih hops.tail true

variable {line : TxState} {t : LineState MuxThread ThreadState}

theorem callsOf_history (hn1 : ∀ channel, 0 < cfg.negotiatedN1 channel)
    (hreach : Reachable (muxWriters.program cfg outcome).step (Permits MuxMoves)
      (.init line startThreads) t) :
    CallsOf t.history ∧ ∀ thread, Keeps (SendsInOrder cfg) (SendsPart cfg) t thread := by
  have hkeeps := keeps_of_reachable (commutes_program muxWriters) (threadRule hn1) (by
    rintro (channel | index)
    · exact ⟨by simp, [], none, rfl, by simp, .outside rfl⟩
    · exact ⟨by simp, none, rfl, by simp, by simp⟩) hreach
  refine ⟨fun thread => ?_, hkeeps⟩
  cases thread with
  | channel channel =>
      cases hkeeps (.channel channel) with
      | unlocks hinv => exact hinv.1
      | holds _ _ hinv => exact hinv.1
  | other index =>
      cases hkeeps (.other index) with
      | unlocks hinv => exact hinv.1
      | holds _ _ hinv => exact hinv.1

theorem wire_prefix_whole (hfree : line.writeFrameLock = false) (hwire : line.wire = [])
    {guard : LineState MuxThread ThreadState → Label MuxThread ThreadMove LineChange → Prop}
    (hreach : Reachable (muxWriters.program cfg outcome).step guard (.init line startThreads) t) :
    t.shared.wire <+: lineFrames cfg line.uihPfBitReceived t.history ∧
      (t.owner = none → t.shared.wire = lineFrames cfg line.uihPfBitReceived t.history) := by
  have hline := wire_of_progress hfree
    (serialized_of_reachable (commutes_program muxWriters) hreach).progress
  rw [HoldsWholeFrames, hwire, List.nil_append] at hline
  cases howner : t.owner with
  | none =>
      rw [howner] at hline
      exact ⟨hline ▸ List.prefix_refl _, fun _ => hline⟩
  | some owner =>
      rw [howner] at hline
      obtain ⟨before, args, later, part, hhistory, hpart, hbytes⟩ := hline
      refine ⟨?_, fun hnone => by cases hnone⟩
      rw [hbytes, List.nil_append, hhistory, lineFrames_append, lineFrames,
        lineFrames_changes, List.append_nil]
      exact (List.prefix_append_right_inj _).mpr hpart

/-- What the other end has delivered on a channel is a beginning of what the thread of
the channel has taken from its pty; when no call is going on and the other end has
consumed all that was written, it is all but what the thread still has to write.  The
sender's array has room for up to `cmux_N1` bytes, see `adv_frame_in_buffer_of_le`. -/
theorem channel_streams
    (hn1 : ∀ channel, 0 < cfg.negotiatedN1 channel ∧
      cfg.negotiatedN1 channel ≤ frameLimit cfg.cmuxMode)
    (hfree : line.writeFrameLock = false) (hwire : line.wire = [])
    (hreach : Reachable (muxWriters.program cfg outcome).step (Permits MuxMoves)
      (.init line startThreads) t)
    {peer : MuxConfig} (hmode : peer.cmuxMode = cfg.cmuxMode) {s : SerialState}
    (hpeer : Reachable (serialStep peer)
      (FramesFit peer (lineCalls cfg line.uihPfBitReceived t.history)) (.init peer) s)
    (hread : s.received <+: t.shared.wire)
    {channel : ℕ} (hpos : 0 < channel) (hlt : channel < gsm0710MaxChannels) :
    let delivered := channelData channel s.frames
    let state := t.thread (.channel channel)
    delivered <+: takenFrom state ∧
      (t.owner = none → s.consumed = t.shared.wire →
        delivered ++ unsent (loopOf state) = takenFrom state) := by
  intro delivered state
  obtain ⟨hcalls, hkeeps⟩ := callsOf_history (fun channel => (hn1 channel).1) hreach
  obtain ⟨hbegin, hwhole⟩ := wire_prefix_whole hfree hwire hreach
  obtain ⟨hbytes, hsendable⟩ := lineFrames_eq hn1 hcalls line.uihPfBitReceived
  rw [← hmode] at hbytes hsendable
  rw [hbytes] at hbegin hwhole
  have hreads := reads_of_reachable hsendable hpeer (hread.trans hbegin)
  have hsent := channelData_lineCalls cfg hcalls hpos hlt line.uihPfBitReceived
  constructor
  · have hdelivered : delivered <+:
        (callsBy (.channel channel) t.history).flatMap (WriteArgs.data cfg) := by
      rw [← hsent]
      exact channelData_prefix_of_prefix channel hreads.frames_prefix_sent
    refine hdelivered.trans ?_
    cases hkeeps (.channel channel) with
    | unlocks hinv =>
        obtain ⟨_, taken, loop, hstate, _, hplace⟩ := hinv
        rw [show takenFrom state = taken by simp only [state, hstate, takenFrom]]
        generalize t.stage (.channel channel) = stage at hplace
        cases hplace with
        | outside htaken => exact htaken ▸ List.prefix_append _ _
        | waiting _ htaken => exact htaken ▸ List.prefix_append _ _
        | inside _ _ htaken => exact htaken ▸ List.prefix_append _ _
    | holds _ _ hinv =>
        obtain ⟨_, taken, loop, hstate, hpart⟩ := hinv
        rw [show takenFrom state = taken by simp only [state, hstate, takenFrom]]
        exact hpart
  · intro howner hconsumed
    have hframes := hreads.frames_eq hsendable (hconsumed.trans (hwhole howner))
    have hequal : delivered =
        (callsBy (.channel channel) t.history).flatMap (WriteArgs.data cfg) := by
      rw [← hsent, ← hframes]
    rw [hequal]
    cases hkeeps (.channel channel) with
    | unlocks hinv =>
        obtain ⟨_, taken, loop, hstate, _, hplace⟩ := hinv
        simp only [state, hstate, takenFrom, loopOf]
        generalize hstage : t.stage (.channel channel) = stage at hplace
        cases hplace with
        | outside htaken => exact htaken.symm
        | waiting _ htaken => exact htaken.symm
        | inside _ _ _ =>
            have howned := (serialized_of_reachable (commutes_program muxWriters) hreach).owned
              _ _ _ hstage
            simp [howner] at howned
    | holds howns _ _ => simp [howner] at howns

/-- A response waits for the lock; the other end has the frame of the channel and the
beginning of that of the response. -/
theorem channel_streams_two :
    let cfg : TxConfig := ⟨true, fun _ => 2⟩
    let line : TxState := ⟨false, false, [], 0⟩
    ∃ (t : LineState MuxThread ThreadState) (s : SerialState),
      run (muxWriters.program cfg fun _ => .full).step (.init line startThreads)
        [.own (.channel 1) (.read [0x41]), .call (.channel 1), .lock (.channel 1),
          .own (.other 0) (.issue ⟨2, [], 0, gsm0710TypeUa ||| gsm0710Pf⟩), .call (.other 0),
          .advance (.channel 1), .advance (.channel 1), .lock (.other 0),
          .advance (.other 0)] = some t ∧
      run (serialStep ⟨true, 1509⟩) (.init ⟨true, 1509⟩) cutFrameRun = some s ∧
      channelData 1 s.frames <+: [0x41] := by
  intro cfg line
  have hrun : (run (muxWriters.program cfg fun _ => .full).step (.init line startThreads)
      [.own (.channel 1) (.read [0x41]), .call (.channel 1), .lock (.channel 1),
        .own (.other 0) (.issue ⟨2, [], 0, gsm0710TypeUa ||| gsm0710Pf⟩), .call (.other 0),
        .advance (.channel 1), .advance (.channel 1), .lock (.other 0),
        .advance (.other 0)]).map (fun t => (takenFrom (t.thread (.channel 1)), t.shared.wire)) =
      some ([0x41], [0x7E, 0x07, 0xEF, 0x41, 0x05, 0x7E, 0x7E, 0x0B, 0x73, 0x6F, 0x7E]) := by
    decide +kernel
  have hpeer : (run (serialStep ⟨true, 1509⟩) (.init ⟨true, 1509⟩) cutFrameRun).map
      SerialState.received = some [0x7E, 0x07, 0xEF, 0x41, 0x05, 0x7E] := by decide +kernel
  obtain ⟨t, ht, hview⟩ := Option.map_eq_some_iff.mp hrun
  obtain ⟨s, hs, hreceived⟩ := Option.map_eq_some_iff.mp hpeer
  obtain ⟨htaken, hwire⟩ := Prod.mk.inj hview
  have hguard (label : Label MuxThread ThreadMove LineChange) (hlabel : label ∈
      [.own (.channel 1) (.read [0x41]), .call (.channel 1), .lock (.channel 1),
        .own (.other 0) (.issue ⟨2, [], 0, gsm0710TypeUa ||| gsm0710Pf⟩), .call (.other 0),
        .advance (.channel 1), .advance (.channel 1), .lock (.other 0), .advance (.other 0)])
      (s : LineState MuxThread ThreadState) : Permits MuxMoves s label := by
    have hordinary : WriteArgs.Ordinary ⟨2, [], 0, gsm0710TypeUa ||| gsm0710Pf⟩ :=
      ⟨by decide, by decide, by decide, by decide, .inr (by decide)⟩
    simp only [List.mem_cons, List.not_mem_nil, or_false] at hlabel
    rcases hlabel with rfl | rfl | rfl | rfl | rfl | rfl | rfl | rfl | rfl
    · exact ⟨by decide, by decide, by decide⟩
    · trivial
    · trivial
    · exact hordinary
    all_goals trivial
  have hfits (event : SerialEvent) (_ : event ∈ cutFrameRun) (s : SerialState) :
      FramesFit ⟨true, 1509⟩ (lineCalls cfg false t.history) s event :=
    framesFit_of_advanced rfl s event
  have hread : s.received <+: t.shared.wire := by
    rw [hwire, hreceived]
    exact ⟨[0x7E, 0x0B, 0x73, 0x6F, 0x7E], rfl⟩
  have hn1 (channel : ℕ) : 0 < cfg.negotiatedN1 channel ∧
      cfg.negotiatedN1 channel ≤ frameLimit cfg.cmuxMode :=
    ⟨show (0 : ℤ) < 2 by decide, show (2 : ℤ) ≤ 2045 by decide⟩
  have hstreams := channel_streams hn1 rfl rfl
    (reachable_of_run .init (runGuarded_of_forall _ hguard) ht) rfl
    (reachable_of_run .init (runGuarded_of_forall _ hfits) hs) hread (show 0 < 1 by decide) (by decide)
  refine ⟨t, s, ht, hs, ?_⟩
  rw [← htaken]
  exact hstreams.1

end Line

end Muxd
end MediatekHardware
