import SmoOnline.Mod.GameModes
import SmoOnline.Mod.Puppets

/-! Hide-and-seek in a player's game: the time a player has been hiding, the role, and the packets
that tell others of both. `F` is what a `float` is, of which nothing but its operations is used.
The gravity of the mode and its layout are left out.
-/

namespace SmoOnline.Mod

open Span

-----------------------------------------------------------------------------------------
-- The timer
-----------------------------------------------------------------------------------------

/-- `struct GameTime` -/
structure GameTime (F : Type) where
  mMilliseconds : F
  mSeconds : Int32 := 0
  mMinutes : Int32 := 0
  mHours : Int32 := 0
  deriving DecidableEq, Repr

/-- The buttons that the timer and the mode ask for: held ones, and ones pressed just now. -/
structure Pad where
  holdL : Bool := false
  holdZL : Bool := false
  holdRight : Bool := false
  triggerUp : Bool := false
  triggerDown : Bool := false
  triggerLeft : Bool := false
  deriving DecidableEq, Repr

/-- `class GameModeTimer` -/
structure GameModeTimer (F : Type) where
  mIsCountUp : Bool := true
  mIsEnabled : Bool := false
  mIsUseControl : Bool := true
  mTime : GameTime F
  deriving DecidableEq, Repr

namespace GameTime

variable {F : Type} (time : GameTime F)

/-- `mSeconds++`, with what it carries over. -/
def secondMore : GameTime F :=
  if time.mSeconds + 1 < 60 then { time with mSeconds := time.mSeconds + 1 }
  else if time.mMinutes + 1 < 60 then
    { time with mSeconds := 0, mMinutes := time.mMinutes + 1 }
  else { time with mSeconds := 0, mMinutes := 0, mHours := time.mHours + 1 }

/-- `mSeconds--`, with what it borrows, and whether there was nothing to borrow from. -/
def secondLess : GameTime F × Bool :=
  if 0 ≤ time.mSeconds - 1 then ({ time with mSeconds := time.mSeconds - 1 }, false)
  else
    let borrowed := { time with mSeconds := 59, mMinutes := time.mMinutes - 1 }
    if 0 ≤ borrowed.mMinutes then (borrowed, false)
    else if 0 < time.mHours then
      ({ borrowed with mMinutes := 59, mHours := time.mHours - 1 }, false)
    else (borrowed, true)

end GameTime

namespace GameModeTimer

variable {F : Type} [Add F] [Sub F] [OfNat F 0] [OfNat F 1] [LE F] [DecidableLE F]
  (timer : GameModeTimer F)

/-- `GameModeTimer()` -/
def new : GameModeTimer F where
  mTime := { mMilliseconds := 0 }

/-- `GameModeTimer(GameTime const& time)` -/
def ofTime (time : GameTime F) : GameModeTimer F where
  mTime := time

def enableTimer : GameModeTimer F := { timer with mIsEnabled := true }

def disableTimer : GameModeTimer F := { timer with mIsEnabled := false }

def toggleTimer : GameModeTimer F := { timer with mIsEnabled := !timer.mIsEnabled }

/-- The time after `timerControl`. -/
def controlled (pad : Pad) (time : GameTime F) : GameTime F :=
  if pad.holdL then
    if pad.triggerDown then { mMilliseconds := 0 } else time
  else
    let more := if pad.holdRight then { time.secondMore with mMilliseconds := 0 } else time
    if pad.triggerLeft then
      let whole := { more with mMilliseconds := 0 }
      if whole.mMinutes ≠ 0 then
        let (less, nothingLeft) := whole.secondLess
        if nothingLeft then { less with mMinutes := 0 } else less
      else whole
    else more

def timerControl (pad : Pad) : GameModeTimer F :=
  { timer with mTime := controlled pad timer.mTime }

/-- The branch of `updateTimer` for a timer that counts up. -/
def countUp (deltaTime : F) (time : GameTime F) : GameTime F :=
  if 1 ≤ time.mMilliseconds + deltaTime then
    { time.secondMore with mMilliseconds := time.mMilliseconds + deltaTime - 1 }
  else { time with mMilliseconds := time.mMilliseconds + deltaTime }

/-- The branch for a timer that counts down, which stops where nothing is left. -/
def countDown (deltaTime : F) : GameModeTimer F :=
  let passed := timer.mTime.mMilliseconds + deltaTime
  if 1 ≤ passed then
    let (less, nothingLeft) := timer.mTime.secondLess
    { timer with
      mTime := { less with mMilliseconds := passed - 1 }
      mIsEnabled := !nothingLeft }
  else { timer with mTime := { timer.mTime with mMilliseconds := passed } }

def updateTimer (pad : Pad) (deltaTime : F) : GameModeTimer F :=
  let timer := if timer.mIsUseControl then timer.timerControl pad else timer
  if timer.mIsEnabled then
    if timer.mIsCountUp then { timer with mTime := countUp deltaTime timer.mTime }
    else timer.countDown deltaTime
  else timer

end GameModeTimer

-----------------------------------------------------------------------------------------
-- Tag packets
-----------------------------------------------------------------------------------------

/-- `enum TagUpdateType` -/
inductive TagUpdateType
  | time
  | state
  deriving DecidableEq, Repr

def TagUpdateType.value : TagUpdateType → UInt32
  | .time => 0
  | .state => 1

/-- `message TagInf` -/
structure TagInf where
  updateType : UInt32
  isIt : Bool
  seconds : UInt32
  minutes : UInt32
  deriving DecidableEq, Repr

/-- What an update is to tell: the role, the time, or both. -/
structure Announced where
  state : Bool
  time : Bool
  deriving DecidableEq, Repr

/-- The flags with which a client announces, one or-ed to the other. -/
def Announced.updateType (announced : Announced) : UInt32 :=
  (if announced.state then TagUpdateType.state.value else 0)
    ||| (if announced.time then TagUpdateType.time.value else 0)

/-- The packet of a client that announces this much of a role and a time. -/
def TagInf.announcing (announced : Announced) (isIt : Bool) (seconds minutes : UInt32)
    : TagInf where
  updateType := announced.updateType
  isIt
  seconds
  minutes

/-- `[Flags] enum TagUpdate` of the server's `TagPacket` -/
def TagUpdateType.tagUpdate : TagUpdateType → UInt32
  | .time => 1
  | .state => 2

/-- The flags with which the server announces. -/
def Announced.tagUpdate (announced : Announced) : UInt32 :=
  (if announced.state then TagUpdateType.state.tagUpdate else 0)
    ||| (if announced.time then TagUpdateType.time.tagUpdate else 0)

/-- Who has built a packet. -/
inductive TagSender
  | client
  | server
  deriving DecidableEq, Repr

/-- The packet that announces this much, with the flags of its sender. -/
def TagInf.sentBy (sender : TagSender) (announced : Announced) (isIt : Bool)
    (seconds minutes : UInt32)
    : TagInf :=
  match sender with
  | .client => .announcing announced isIt seconds minutes
  | .server => { updateType := announced.tagUpdate, isIt, seconds, minutes }

/-- `update_type() & type` is tested for a type this way. -/
def TagInf.has (packet : TagInf) (type : TagUpdateType) : Bool :=
  packet.updateType &&& type.value ≠ 0

/-- The flag of a role is found where it was set. -/
theorem TagInf.has_state (announced : Announced) (isIt : Bool) (seconds minutes : UInt32)
    : (announcing announced isIt seconds minutes).has .state = announced.state := by
  obtain ⟨state, time⟩ := announced
  cases state <;> cases time <;>
    simp [has, announcing, Announced.updateType, TagUpdateType.value]

/-- Whether a role is found: the flag that it is looked for with is the one that the server sets for
a time.
-/
def Announced.foundState (announced : Announced) : TagSender → Bool
  | .client => announced.state
  | .server => announced.time

theorem TagInf.has_state_sentBy (sender : TagSender) (announced : Announced) (isIt : Bool)
    (seconds minutes : UInt32)
    : (sentBy sender announced isIt seconds minutes).has .state = announced.foundState sender := by
  cases sender with
  | client => exact has_state announced isIt seconds minutes
  | server =>
      have found
          : ∀ state time,
              decide ((Announced.mk state time).tagUpdate &&& TagUpdateType.state.value ≠ 0)
                = time := by
        decide
      exact found announced.state announced.time

@[simp]
theorem TagInf.isIt_sentBy (sender : TagSender) (announced : Announced) (isIt : Bool)
    (seconds minutes : UInt32)
    : (sentBy sender announced isIt seconds minutes).isIt = isIt := by
  cases sender <;> rfl

@[simp]
theorem TagInf.seconds_sentBy (sender : TagSender) (announced : Announced) (isIt : Bool)
    (seconds minutes : UInt32)
    : (sentBy sender announced isIt seconds minutes).seconds = seconds := by
  cases sender <;> rfl

@[simp]
theorem TagInf.minutes_sentBy (sender : TagSender) (announced : Announced) (isIt : Bool)
    (seconds minutes : UInt32)
    : (sentBy sender announced isIt seconds minutes).minutes = minutes := by
  cases sender <;> rfl

/-- The flag of a time is zero, and never found. -/
theorem TagInf.has_time (packet : TagInf) : packet.has .time = false := by
  have zero : packet.updateType &&& TagUpdateType.time.value = 0 := UInt32.and_zero
  simp [TagInf.has, zero]

-----------------------------------------------------------------------------------------
-- The mode
-----------------------------------------------------------------------------------------

/-- `struct HideAndSeekInfo` -/
structure HideAndSeekInfo (F : Type) where
  mIsPlayerIt : Bool := false
  mHidingTime : GameTime F
  deriving DecidableEq, Repr

/-- `class HideAndSeekMode`, with the packets it has given to `sendTagInfPacket`. -/
structure HideAndSeekMode (F : Type) where
  mIsActive : Bool := false
  mInvulnTime : F
  mModeTimer : GameModeTimer F
  mInfo : HideAndSeekInfo F
  sent : List TagInf := []
  deriving DecidableEq, Repr

/-- What a frame reads of one puppet: its entry, how near it is to the player in the player's
dimension, and whether the player is dead by then.
-/
structure PuppetSight where
  isConnected : Bool
  isInSameStage : Bool
  isIt : Bool
  isNear : Bool
  isPlayerDead : Bool
  deriving DecidableEq, Repr

/-- What the game tells a frame. -/
structure FrameInputs (F : Type) where
  deltaTime : F
  isYukimaru : Bool := false
  pad : Pad := {}
  puppets : List PuppetSight := []
  deriving DecidableEq, Repr

/-- A seeker who is near tags a living player, and one who is not near a dead one. -/
def PuppetSight.tags (sight : PuppetSight) : Bool :=
  sight.isConnected && sight.isInSameStage && sight.isIt
    && (if sight.isNear then !sight.isPlayerDead else sight.isPlayerDead)

namespace HideAndSeekMode

variable {F : Type} [Add F] [Sub F] [OfNat F 0] [OfNat F 1] [OfNat F 5] [LE F] [DecidableLE F]
  (mode : HideAndSeekMode F)

/-- `HideAndSeekMode::init` of a new mode, with the info of an earlier one if there is one. -/
def init : Option (HideAndSeekInfo F) → HideAndSeekMode F
  | some mInfo =>
      { mInvulnTime := 0
        mModeTimer := (GameModeTimer.ofTime mInfo.mHidingTime).disableTimer
        mInfo }
  | none =>
      { mInvulnTime := 0
        mModeTimer := GameModeTimer.new.disableTimer
        mInfo := { mHidingTime := { mMilliseconds := 0 } } }

def begin : HideAndSeekMode F :=
  { mode with
    mIsActive := true
    mModeTimer :=
      if mode.mInfo.mIsPlayerIt then mode.mModeTimer.disableTimer
      else mode.mModeTimer.enableTimer
    mInvulnTime := 0 }

/-- `HideAndSeekMode::end` -/
def finish : HideAndSeekMode F :=
  { mode with mIsActive := false, mModeTimer := mode.mModeTimer.disableTimer, mInvulnTime := 0 }

def setPlayerTagState (state : Bool) : HideAndSeekMode F :=
  { mode with mInfo := { mode.mInfo with mIsPlayerIt := state } }

/-- `Client::sendTagInfPacket` -/
def tagInfPacket : TagInf where
  updateType := TagUpdateType.state.value ||| TagUpdateType.time.value
  isIt := mode.mInfo.mIsPlayerIt
  seconds := mode.mInfo.mHidingTime.mSeconds.toUInt32
  minutes := mode.mInfo.mHidingTime.mMinutes.toUInt32

def sendTagInfPacket : HideAndSeekMode F :=
  { mode with sent := mode.sent ++ [mode.tagInfPacket] }

/-- The player is it from now on. -/
def becomeIt : HideAndSeekMode F :=
  { mode.setPlayerTagState true with mModeTimer := mode.mModeTimer.disableTimer }.sendTagInfPacket

/-- What the loop over the puppets does for one of them. -/
def checkPuppet (isYukimaru : Bool) (sight : PuppetSight) : HideAndSeekMode F :=
  if sight.tags ∧ ¬isYukimaru then mode.becomeIt else mode

/-- The branch of `update` for a player who is not it. -/
def updateHiding (inputs : FrameInputs F) : HideAndSeekMode F :=
  let mode :=
    if 5 ≤ mode.mInvulnTime then
      inputs.puppets.foldl (fun mode sight => mode.checkPuppet inputs.isYukimaru sight) mode
    else { mode with mInvulnTime := mode.mInvulnTime + inputs.deltaTime }
  { mode with mModeTimer := mode.mModeTimer.updateTimer inputs.pad inputs.deltaTime }

/-- The branch of `update` for the button that changes roles. -/
def toggle : HideAndSeekMode F :=
  let mode :=
    { mode.setPlayerTagState (!mode.mInfo.mIsPlayerIt) with
      mModeTimer := mode.mModeTimer.toggleTimer }
  (if mode.mInfo.mIsPlayerIt then mode else { mode with mInvulnTime := 0 }).sendTagInfPacket

/-- `mInfo->mHidingTime = mModeTimer->getTime()` -/
def keepTime : HideAndSeekMode F :=
  { mode with mInfo := { mode.mInfo with mHidingTime := mode.mModeTimer.mTime } }

def update (inputs : FrameInputs F) : HideAndSeekMode F :=
  let mode := if mode.mInfo.mIsPlayerIt then mode else mode.updateHiding inputs
  let mode := if inputs.pad.triggerUp ∧ ¬inputs.pad.holdZL then mode.toggle else mode
  mode.keepTime

end HideAndSeekMode

namespace HideAndSeekMode

variable {F : Type} (mode : HideAndSeekMode F)

/-- The branch of `Client::updateTagInfo` for a packet about our player. -/
def updateTagInfo (packet : TagInf) : HideAndSeekMode F :=
  let mode := if packet.has .state then mode.setPlayerTagState packet.isIt else mode
  if packet.has .time then
    { mode with
      mInfo :=
        { mode.mInfo with
          mHidingTime :=
            { mode.mInfo.mHidingTime with
              mSeconds := packet.seconds.toInt32
              mMinutes := packet.minutes.toInt32 } } }
  else mode

/-- The role is all that a packet about our player ever changes. -/
theorem updateTagInfo_eq (packet : TagInf)
    : mode.updateTagInfo packet
      = mode.setPlayerTagState
          (if packet.has .state then packet.isIt else mode.mInfo.mIsPlayerIt) := by
  rw [updateTagInfo, TagInf.has_time]
  cases packet.has .state <;> rfl

theorem updateTagInfo_announcing (announced : Announced) (isIt : Bool) (seconds minutes : UInt32)
    : mode.updateTagInfo (.announcing announced isIt seconds minutes)
      = mode.setPlayerTagState (if announced.state then isIt else mode.mInfo.mIsPlayerIt) := by
  rw [updateTagInfo_eq, TagInf.has_state]
  rfl

end HideAndSeekMode

namespace Puppets

variable {puppets : Puppets} {index : Nat} {info : PuppetInfo}

/-- To write to the entry that is there is to replace it. -/
theorem modify_eq (present : puppets.mPuppetInfoArr[index]? = some info)
    (write : PuppetInfo → PuppetInfo)
    : puppets.modify index write = puppets.modify index fun _ => write info := by
  have same
      : puppets.mPuppetInfoArr.modify index write
        = puppets.mPuppetInfoArr.modify index fun _ => write info := by
    apply List.ext_getElem?
    intro other
    rw [List.getElem?_modify, List.getElem?_modify]
    rcases eq_or_ne index other with rfl | elsewhere
    · simp [present]
    · simp [elsewhere]
  simp only [modify, same]

theorem modify_inj (present : puppets.mPuppetInfoArr[index]? = some info)
    {first second : PuppetInfo}
    (same : (puppets.modify index fun _ => first) = puppets.modify index fun _ => second)
    : first = second := by
  have entries := congrArg (fun puppets => puppets.mPuppetInfoArr[index]?) same
  simpa [modify, List.getElem?_modify, present] using entries

end Puppets

-----------------------------------------------------------------------------------------
-- What an update changes
-----------------------------------------------------------------------------------------

/-- What is known of a player's hiding: of the local one in the info of the mode, of another in
an entry.
-/
@[ext] structure TagFields where
  isIt : Bool
  seconds : Int
  minutes : Int
  deriving DecidableEq, Repr

/-- The fields with what is announced changed, and nothing else. -/
def TagFields.after (fields : TagFields) (announced : Announced) (isIt : Bool)
    (seconds minutes : UInt32)
    : TagFields where
  isIt := if announced.state then isIt else fields.isIt
  seconds := if announced.time then seconds.toNat else fields.seconds
  minutes := if announced.time then minutes.toNat else fields.minutes

def HideAndSeekInfo.tagFields {F : Type} (info : HideAndSeekInfo F) : TagFields where
  isIt := info.mIsPlayerIt
  seconds := info.mHidingTime.mSeconds.toInt
  minutes := info.mHidingTime.mMinutes.toInt

def PuppetInfo.tagFields (info : PuppetInfo) : TagFields where
  isIt := info.isIt
  seconds := info.seconds.toNat
  minutes := info.minutes.toNat

/-- Two infos differ in those fields at most. -/
def HideAndSeekInfo.SameRest {F : Type} (info after : HideAndSeekInfo F) : Prop :=
  ∃ isIt seconds minutes,
    after
      = { info with
          mIsPlayerIt := isIt
          mHidingTime := { info.mHidingTime with mSeconds := seconds, mMinutes := minutes } }

def PuppetInfo.SameRest (info after : PuppetInfo) : Prop :=
  ∃ isIt seconds minutes, after = { info with isIt, seconds, minutes }

/-- What `Client` has for Tag packets. -/
structure TagClient (F : Type) where
  puppets : Puppets
  mCurMode : GameMode
  mode : HideAndSeekMode F

namespace TagClient

variable {F : Type} (findStr : Int16 → Bytes) (client : TagClient F)

/-- The packet is for our player, who plays hide-and-seek. -/
def IsOurs (id : Guid) : Prop :=
  id = client.puppets.mUserID ∧ client.mCurMode = .hideAndSeek

instance (id : Guid) : Decidable (client.IsOurs id) := inferInstanceAs (Decidable (_ ∧ _))

/-- `Client::updateTagInfo` -/
def updateTagInfo (id : Guid) (packet : TagInf) : Option (TagClient F) :=
  if client.IsOurs id then some { client with mode := client.mode.updateTagInfo packet }
  else
    (client.puppets.updateFound findStr id
      (.tagInf packet.isIt packet.seconds packet.minutes)).map
      fun puppets => { client with puppets }

/-- The packet is about the player of this entry, another one. -/
def IsAbout (id : Guid) (index : Nat) (info : PuppetInfo) : Prop :=
  ¬client.IsOurs id
    ∧ client.puppets.findPuppetInfo id false = .entry index
    ∧ client.puppets.mPuppetInfoArr[index]? = some info

/-- The update changes what is announced and nothing else, whether it is about our player or about
another's puppet.
-/
def ChangesAnnounced (id : Guid) (sender : TagSender) (announced : Announced) (isIt : Bool)
    (seconds minutes : UInt32)
    : Prop :=
  let packet := TagInf.sentBy sender announced isIt seconds minutes
  (client.IsOurs id
    → ∃ after,
        client.updateTagInfo findStr id packet
          = some { client with mode := { client.mode with mInfo := after } }
        ∧ client.mode.mInfo.SameRest after
        ∧ after.tagFields = client.mode.mInfo.tagFields.after announced isIt seconds minutes)
  ∧ ∀ index info,
      client.IsAbout id index info
      → ∃ after,
          client.updateTagInfo findStr id packet
            = some { client with puppets := client.puppets.modify index fun _ => after }
          ∧ info.SameRest after
          ∧ after.tagFields = info.tagFields.after announced isIt seconds minutes

/-- No time is announced to our player but the one there is, and the server announces no role alone,
and no time alone with a role in the packet, but the one there is.
-/
def HarmlessToUs (sender : TagSender) (announced : Announced) (isIt : Bool)
    (seconds minutes : UInt32)
    : Prop :=
  (sender = .server → announced.state ≠ announced.time → isIt = client.mode.mInfo.mIsPlayerIt)
  ∧ (announced.time = true
    → client.mode.mInfo.tagFields.seconds = seconds.toNat
      ∧ client.mode.mInfo.tagFields.minutes = minutes.toNat)

/-- The packet does our player no harm; what is not announced of another is as the packet has it all
the same, and an announced time fits the entry.
-/
def Harmless (id : Guid) (sender : TagSender) (announced : Announced) (isIt : Bool)
    (seconds minutes : UInt32)
    : Prop :=
  (client.IsOurs id → client.HarmlessToUs sender announced isIt seconds minutes)
  ∧ ∀ index info,
      client.IsAbout id index info
      → (announced.state = false → isIt = info.isIt)
        ∧ (if announced.time then seconds.toNat < 2 ^ 8 ∧ minutes.toNat < 2 ^ 16
          else seconds.toUInt8 = info.seconds ∧ minutes.toUInt16 = info.minutes)

variable {findStr client}

/-- The role is changed as it is found; the time is not. -/
theorem changes_ours_iff {id : Guid} (ours : client.IsOurs id) (sender : TagSender)
    (announced : Announced) (isIt : Bool) (seconds minutes : UInt32)
    : (∃ after,
        client.updateTagInfo findStr id (.sentBy sender announced isIt seconds minutes)
          = some { client with mode := { client.mode with mInfo := after } }
        ∧ client.mode.mInfo.SameRest after
        ∧ after.tagFields = client.mode.mInfo.tagFields.after announced isIt seconds minutes)
      ↔ client.HarmlessToUs sender announced isIt seconds minutes := by
  have updated
      : client.updateTagInfo findStr id (.sentBy sender announced isIt seconds minutes)
        = some { client with
            mode :=
              client.mode.setPlayerTagState
                (if announced.foundState sender then isIt
                  else client.mode.mInfo.mIsPlayerIt) } := by
    rw [updateTagInfo, if_pos ours, HideAndSeekMode.updateTagInfo_eq, TagInf.has_state_sentBy,
      TagInf.isIt_sentBy]
  have role
      : (if announced.foundState sender then isIt else client.mode.mInfo.mIsPlayerIt)
          = (if announced.state then isIt else client.mode.mInfo.mIsPlayerIt)
        ↔ (sender = .server
          → announced.state ≠ announced.time
          → isIt = client.mode.mInfo.mIsPlayerIt) := by
    cases sender with
    | client => exact iff_of_true rfl fun server => by cases server
    | server =>
        simp only [Announced.foundState, forall_const]
        by_cases state : announced.state = true <;> by_cases time : announced.time = true
        · simp [state, time]
        · simpa [state, time] using eq_comm
        · simp [state, time]
        · simp [state, time]
  rw [updated, HarmlessToUs, ← role]
  constructor
  · rintro ⟨after, same, _, told⟩
    simp only [Option.some.injEq, TagClient.mk.injEq, true_and,
      HideAndSeekMode.setPlayerTagState, HideAndSeekMode.mk.injEq] at same
    obtain ⟨rfl, _⟩ := same
    simp only [HideAndSeekInfo.tagFields, TagFields.after, TagFields.mk.injEq] at told
    refine ⟨told.1, fun time => ?_⟩
    rw [time, if_pos rfl, if_pos rfl] at told
    exact ⟨told.2.1, told.2.2⟩
  · rintro ⟨sameRole, unmoved⟩
    refine ⟨_, rfl, ⟨_, _, _, rfl⟩, ?_⟩
    cases told : announced.time with
    | false => simp [TagFields.after, HideAndSeekInfo.tagFields, told, sameRole]
    | true =>
        obtain ⟨sameSeconds, sameMinutes⟩ := unmoved told
        ext
        · exact sameRole
        · simpa [TagFields.after, told] using! sameSeconds
        · simpa [TagFields.after, told] using! sameMinutes

/-- What an entry keeps of a packet is what was announced, if it has room for it and what was not
announced is what the entry had.
-/
theorem kept_eq_after_iff (info : PuppetInfo) (announced : Announced) (isIt : Bool)
    (seconds minutes : UInt32)
    : (⟨isIt, seconds.toUInt8.toNat, minutes.toUInt16.toNat⟩ : TagFields)
        = info.tagFields.after announced isIt seconds minutes
      ↔ (announced.state = false → isIt = info.isIt)
        ∧ (if announced.time then seconds.toNat < 2 ^ 8 ∧ minutes.toNat < 2 ^ 16
          else seconds.toUInt8 = info.seconds ∧ minutes.toUInt16 = info.minutes) := by
  rw [TagFields.after, TagFields.mk.injEq]
  refine and_congr ?_ ?_
  · cases announced.state <;> simp [PuppetInfo.tagFields]
  · cases announced.time with
    | false =>
        simp only [PuppetInfo.tagFields, Bool.false_eq_true, if_false, Int.natCast_inj,
          UInt8.toNat_inj, UInt16.toNat_inj]
    | true =>
        have roomForSeconds : seconds.toNat % 2 ^ 8 = seconds.toNat ↔ seconds.toNat < 2 ^ 8 :=
          Nat.mod_eq_iff_lt (by decide)
        have roomForMinutes : minutes.toNat % 2 ^ 16 = minutes.toNat ↔ minutes.toNat < 2 ^ 16 :=
          Nat.mod_eq_iff_lt (by decide)
        simp only [if_true, UInt32.toNat_toUInt8, UInt32.toNat_toUInt16, Int.natCast_inj,
          roomForSeconds, roomForMinutes]

/-- All three fields are written, whatever is announced. -/
theorem changes_puppet_iff {id : Guid} {index : Nat} {info : PuppetInfo}
    (about : client.IsAbout id index info) (sender : TagSender) (announced : Announced)
    (isIt : Bool) (seconds minutes : UInt32)
    : (∃ after,
        client.updateTagInfo findStr id (.sentBy sender announced isIt seconds minutes)
          = some { client with puppets := client.puppets.modify index fun _ => after }
        ∧ info.SameRest after
        ∧ after.tagFields = info.tagFields.after announced isIt seconds minutes)
      ↔ (announced.state = false → isIt = info.isIt)
        ∧ (if announced.time then seconds.toNat < 2 ^ 8 ∧ minutes.toNat < 2 ^ 16
          else seconds.toUInt8 = info.seconds ∧ minutes.toUInt16 = info.minutes) := by
  obtain ⟨notOurs, found, present⟩ := about
  have updated
      : client.updateTagInfo findStr id (.sentBy sender announced isIt seconds minutes)
        = some { client with
            puppets :=
              client.puppets.modify index fun _ =>
                { info with isIt, seconds := seconds.toUInt8, minutes := minutes.toUInt16 } } := by
    rw [updateTagInfo, if_neg notOurs, Puppets.updateFound, found]
    simp only [Option.map_some, TagInf.isIt_sentBy, TagInf.seconds_sentBy, TagInf.minutes_sentBy]
    rw [Puppets.modify_eq present]
    rfl
  rw [updated, ← kept_eq_after_iff]
  constructor
  · rintro ⟨after, same, _, told⟩
    simp only [Option.some.injEq, TagClient.mk.injEq, and_true] at same
    rw [← Puppets.modify_inj present same] at told
    exact told
  · intro told
    exact ⟨_, rfl, ⟨_, _, _, rfl⟩, told⟩

-----------------------------------------------------------------------------------------
-- Updates that change what they announce
-----------------------------------------------------------------------------------------

/-- An update changes exactly what it announces where it is harmless. -/
theorem changesAnnounced_iff_harmless (findStr : Int16 → Bytes) (client : TagClient F) (id : Guid)
    (sender : TagSender) (announced : Announced) (isIt : Bool) (seconds minutes : UInt32)
    : client.ChangesAnnounced findStr id sender announced isIt seconds minutes
      ↔ client.Harmless id sender announced isIt seconds minutes := by
  refine and_congr (forall_congr' fun ours => ?_) (forall₂_congr fun index info => ?_)
  · exact changes_ours_iff ours sender announced isIt seconds minutes
  · exact forall_congr' fun about => changes_puppet_iff about sender announced isIt seconds minutes

/-- A player who hides, and who knows of one other player. -/
def hidingClient : TagClient Int where
  puppets := (Puppets.initial ⟨1⟩).modify 0 fun info => info.connect ⟨2⟩ []
  mCurMode := .hideAndSeek
  mode := (HideAndSeekMode.init none).begin

/-- A time of five seconds that is announced together with a role does not become our player's, a
role that is announced alone takes the time of the other player along, and of the server neither a
role alone is taken over by our player nor is a time alone without the role.
-/
theorem announced_not_changed
    : ¬hidingClient.ChangesAnnounced (fun _ => []) ⟨1⟩ .client ⟨true, true⟩ false 5 0
      ∧ ¬hidingClient.ChangesAnnounced (fun _ => []) ⟨2⟩ .client ⟨true, false⟩ true 5 0
      ∧ ¬hidingClient.ChangesAnnounced (fun _ => []) ⟨1⟩ .server ⟨true, false⟩ true 0 0
      ∧ ¬hidingClient.ChangesAnnounced (fun _ => []) ⟨1⟩ .server ⟨false, true⟩ true 0 0 := by
  refine ⟨?_, ?_, ?_, ?_⟩
  · rintro ⟨ours, _⟩
    have unmoved :=
      (changes_ours_iff (by decide) .client ⟨true, true⟩ false 5 0).mp (ours (by decide))
    exact absurd (unmoved.2 rfl).1 (by decide)
  · rintro ⟨_, others⟩
    obtain ⟨info, present⟩ : ∃ info, hidingClient.puppets.mPuppetInfoArr[0]? = some info :=
      ⟨_, rfl⟩
    have about : hidingClient.IsAbout ⟨2⟩ 0 info := ⟨by decide, by decide, present⟩
    have kept := (changes_puppet_iff about .client ⟨true, false⟩ true 5 0).mp (others 0 info about)
    obtain rfl := Option.some.inj present
    exact absurd kept.2.1 (by decide)
  · rintro ⟨ours, _⟩
    have kept :=
      (changes_ours_iff (by decide) .server ⟨true, false⟩ true 0 0).mp (ours (by decide))
    exact absurd (kept.1 rfl (by decide)) (by decide)
  · rintro ⟨ours, _⟩
    have kept :=
      (changes_ours_iff (by decide) .server ⟨false, true⟩ true 0 0).mp (ours (by decide))
    exact absurd (kept.1 rfl (by decide)) (by decide)

end TagClient

end SmoOnline.Mod
