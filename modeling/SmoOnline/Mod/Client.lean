import SmoOnline.Server.State

/-! A player's game in Capture the Flag: what each frame and each packet make of it. Where the
player and the flags are and what is pressed come from the console and are inputs.
-/

namespace SmoOnline.Mod

inductive FlagTeam
  | invalid
  | red
  | blue
  deriving DecidableEq, Repr

/-- What a client knows of a flag, next to where it is. -/
structure FlagInfo where
  isHeld : Bool := false
  holderUserId : Option SocketId := none
  deriving DecidableEq, Repr

structure CaptureTheFlagInfo where
  playerTeam : FlagTeam := .invalid
  heldFlag : FlagTeam := .invalid
  winningTeam : FlagTeam := .invalid
  deriving DecidableEq, Repr

/-- The contents of the two packets that the players send. -/
structure FlagHoldState where
  isHeld : Bool := false
  flagTeam : FlagTeam := .invalid
  deriving DecidableEq, Repr

structure Win where
  winningTeam : FlagTeam := .invalid
  deriving DecidableEq, Repr

/-- The packets of a game that has started. -/
inductive CTFPacket
  | flagHoldState (isHeld : Bool) (flagTeam : FlagTeam)
  | flagDroppedPosition (flagTeam : FlagTeam)
  | win (winningTeam : FlagTeam)
  deriving DecidableEq, Repr

/-- A packet with the user of its metadata. -/
structure Packet where
  userId : SocketId
  body : CTFPacket
  deriving DecidableEq, Repr

/-- The packets of which the send queue holds the address. -/
inductive Slot
  | lastFlagHoldStatePacket
  | lastCTFWinPacket
  deriving DecidableEq, Repr

/-- A flag for which there is no actor in the scene has no information. -/
structure Client where
  info : CaptureTheFlagInfo := {}
  /-- `isModeAndActive(GameMode::CAPTURE_THE_FLAG)` -/
  isModeActive : Bool := true
  flagInfos : FlagTeam → Option FlagInfo := fun team => if team = .invalid then none else some {}
  lastFlagHoldStatePacket : FlagHoldState := {}
  lastCTFWinPacket : Win := {}
  sendQueue : List Slot := []

/-- What a frame finds: the buttons, which flags are within reach, the side of the border the
player is on, and whether an opponent is near enough to tag it.
-/
structure Inputs where
  buttonPress : Bool := false
  near : FlagTeam → Bool := fun _ => false
  teamSide : FlagTeam := .invalid
  tagged : Bool := false

def getOpposingTeam : FlagTeam → Option FlagTeam
  | .red => some .blue
  | .blue => some .red
  | .invalid => none

namespace Client

variable (client : Client) (inputs : Inputs)

def setHeldFlag (flag : FlagTeam) : Client :=
  { client with info := { client.info with heldFlag := flag } }

-----------------------------------------------------------------------------------------
-- Sending
-----------------------------------------------------------------------------------------

/-- The packet that is sent is the one that stands in the slot when its turn comes. -/
def slot : Slot → CTFPacket
  | .lastFlagHoldStatePacket =>
      .flagHoldState client.lastFlagHoldStatePacket.isHeld client.lastFlagHoldStatePacket.flagTeam
  | .lastCTFWinPacket => .win client.lastCTFWinPacket.winningTeam

def sendFlagHoldStatePacket (isHeld : Bool) (flagTeam : FlagTeam) : Client :=
  { client with
    lastFlagHoldStatePacket := { isHeld, flagTeam }
    sendQueue := client.sendQueue ++ [.lastFlagHoldStatePacket] }

def sendCTFWinPacket (winningTeam : FlagTeam) : Client :=
  { client with
    lastCTFWinPacket := { winningTeam }
    sendQueue := client.sendQueue ++ [.lastCTFWinPacket] }

-----------------------------------------------------------------------------------------
-- A frame
-----------------------------------------------------------------------------------------

def dropHeldFlag : Client :=
  if client.info.heldFlag = .invalid then client
  else (client.sendFlagHoldStatePacket false client.info.heldFlag).setHeldFlag .invalid

def respawnHeldFlag : Client :=
  if client.info.heldFlag = .invalid then client else client.dropHeldFlag

/-- Both branches ask for the same, and the way home changes nothing here. -/
def processPlayerTagged : Client :=
  if getOpposingTeam client.info.playerTeam = some client.info.heldFlag then client
  else if getOpposingTeam client.info.playerTeam = some client.info.heldFlag then
    client.respawnHeldFlag
  else client

def checkTagged : Client :=
  if inputs.teamSide = client.info.playerTeam then client
  else if inputs.tagged then client.processPlayerTagged
  else client

/-- The flag may be picked up: it is not the player's own, there is one, nobody is known to hold
it, and it is within reach.
-/
def canPickUp (flagTeam : FlagTeam) : Bool :=
  flagTeam != .invalid
    && flagTeam != client.info.playerTeam
    && (client.flagInfos flagTeam).any fun flag => !flag.isHeld && inputs.near flagTeam

/-- The first flag that may be picked up, in the order of the teams. -/
def pickUp : Option FlagTeam :=
  [.invalid, .red, .blue].find? (client.canPickUp inputs)

def checkPickUpOrDropFlag : Client :=
  if !inputs.buttonPress then client
  else if client.info.heldFlag ≠ .invalid then
    if client.info.heldFlag = client.info.playerTeam
        ∧ inputs.teamSide ≠ client.info.playerTeam then client
    else client.dropHeldFlag
  else
    match client.pickUp inputs with
    | none => client
    | some flagTeam => client.setHeldFlag flagTeam

def sendFlagHoldStateUpdateIfHeld : Client :=
  if client.info.heldFlag = .invalid then client
  else client.sendFlagHoldStatePacket true client.info.heldFlag

def checkWin : Client :=
  if client.info.winningTeam ≠ .invalid then client
  else if inputs.teamSide = .invalid then client
  else if inputs.teamSide = client.info.playerTeam
      ∧ getOpposingTeam client.info.playerTeam = some client.info.heldFlag then
    client.sendCTFWinPacket client.info.playerTeam
  else client

/-- One frame with the player in the scene. -/
def update : Client :=
  ((((client.checkTagged inputs).checkPickUpOrDropFlag inputs).sendFlagHoldStateUpdateIfHeld)
    ).checkWin inputs

/-- Being tagged takes no flag from anybody. -/
@[simp] theorem checkTagged_eq : client.checkTagged inputs = client := by
  unfold checkTagged processPlayerTagged
  split_ifs <;> rfl

@[simp] theorem info_sendFlagHoldStateUpdateIfHeld
    : client.sendFlagHoldStateUpdateIfHeld.info = client.info := by
  unfold sendFlagHoldStateUpdateIfHeld
  split_ifs <;> rfl

@[simp] theorem info_checkWin : (client.checkWin inputs).info = client.info := by
  unfold checkWin
  split_ifs <;> rfl

theorem info_update
    : (client.update inputs).info = (client.checkPickUpOrDropFlag inputs).info := by
  simp [update]

-----------------------------------------------------------------------------------------
-- Packets that arrive
-----------------------------------------------------------------------------------------

/-- `setHeldPlayer` and `setIsHeld` of a flag's actor, if there is one. -/
def setFlag (flagTeam : FlagTeam) (isHeld : Bool) (holder : Option SocketId) : Client :=
  match client.flagInfos flagTeam with
  | none => client
  | some _ =>
      { client with
        flagInfos :=
          Function.update client.flagInfos flagTeam (some { isHeld, holderUserId := holder }) }

def updateCTFFlagHoldState (userId : SocketId) (isHeld : Bool) (flagTeam : FlagTeam) : Client :=
  client.setFlag flagTeam isHeld (if isHeld then some userId else none)

def updateCTFFlagDroppedPosition (isFirstFrame : Bool) (flagTeam : FlagTeam) : Client :=
  if !client.isModeActive then client
  else if isFirstFrame then client
  else client.setFlag flagTeam false none

def updateCTFWinState (winningTeam : FlagTeam) : Client :=
  if !client.isModeActive then client
  else { client with info := { client.info with winningTeam } }

def readPacket (isFirstFrame : Bool) (packet : Packet) : Client :=
  match packet.body with
  | .flagHoldState isHeld flagTeam =>
      client.updateCTFFlagHoldState packet.userId isHeld flagTeam
  | .flagDroppedPosition flagTeam => client.updateCTFFlagDroppedPosition isFirstFrame flagTeam
  | .win winningTeam => client.updateCTFWinState winningTeam

/-- The winner that stands when a packet was read. -/
def winnerAfter : CTFPacket → FlagTeam
  | .win winningTeam => if client.isModeActive then winningTeam else client.info.winningTeam
  | _ => client.info.winningTeam

theorem setFlag_eq (flagTeam : FlagTeam) (isHeld : Bool) (holder : Option SocketId)
    : ∃ flagInfos, client.setFlag flagTeam isHeld holder = { client with flagInfos } := by
  unfold setFlag
  split
  · exact ⟨client.flagInfos, rfl⟩
  · exact ⟨_, rfl⟩

/-- A packet that arrives changes what is known of the flags and the winner. -/
theorem readPacket_eq (isFirstFrame : Bool) (packet : Packet)
    : ∃ flagInfos,
        client.readPacket isFirstFrame packet
        = { client with
            flagInfos
            info := { client.info with winningTeam := client.winnerAfter packet.body } } := by
  obtain ⟨userId, body⟩ := packet
  cases body with
  | flagHoldState isHeld flagTeam => exact client.setFlag_eq flagTeam isHeld _
  | flagDroppedPosition flagTeam =>
      simp only [readPacket, updateCTFFlagDroppedPosition]
      split_ifs
      · exact ⟨client.flagInfos, rfl⟩
      · exact ⟨client.flagInfos, rfl⟩
      · exact client.setFlag_eq flagTeam false none
  | win winningTeam =>
      refine ⟨client.flagInfos, ?_⟩
      obtain ⟨info, active⟩ := client
      cases active <;> rfl

end Client

end SmoOnline.Mod
