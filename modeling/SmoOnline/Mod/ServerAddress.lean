import Mathlib.Data.List.TakeWhile
import SmoOnline.Mod.SocketClient

/-! Which server a game connects to: the address that its player sets with the keyboard, what the
save file has of it, and what each connection is made with. The socket points into the hostname but
has a copy of the port, and whether it presents the player for the first time is set by each
keyboard anew.
-/

namespace SmoOnline.Mod

open Span Runs

-----------------------------------------------------------------------------------------
-- Addresses
-----------------------------------------------------------------------------------------

/-- `MAX_HOSTNAME_LENGTH` -/
def maxHostnameLength : Nat := 50

/-- `hostname`: a text that fits its buffer. -/
structure Hostname where
  octets : Bytes
  fits : octets.length ≤ maxHostnameLength
  noNull : (0 : UInt8) ∉ octets

/-- Assigning a text to a `hostname`. -/
def Hostname.copy (text : Bytes) : Hostname where
  octets := (text.takeWhile (· ≠ 0)).take maxHostnameLength
  fits := List.length_take_le _ _
  noNull := fun null => by
    have octet := List.mem_takeWhile_imp (List.mem_of_mem_take null)
    simp at octet

/-- A hostname is copied whole. -/
@[simp]
theorem Hostname.copy_octets (hostname : Hostname) : copy hostname.octets = hostname := by
  obtain ⟨octets, fits, noNull⟩ := hostname
  have whole : octets.takeWhile (· ≠ 0) = octets := by
    rw [List.takeWhile_eq_self_iff]
    intro octet member
    exact decide_eq_true fun null => noNull (null ▸ member)
  simp only [copy, whole, List.take_of_length_le fits]

def isDigit (octet : UInt8) : Bool := 48 ≤ octet && octet ≤ 57

/-- The digits in front, as a number. -/
def decimal (text : Bytes) : Int :=
  (text.takeWhile isDigit).foldl (fun number octet => 10 * number + (octet.toNat - 48)) 0

/-- `::atoi` -/
def atoi (text : Bytes) : Int32 :=
  match text.dropWhile fun octet => octet = 32 || (9 ≤ octet && octet ≤ 13) with
  | [] => 0
  | sign :: rest =>
      if sign = 45 then Int32.ofInt (-decimal rest)
      else if sign = 43 then Int32.ofInt (decimal rest)
      else Int32.ofInt (decimal (sign :: rest))

structure ServerEndpoint where
  mServerIP : Hostname := .copy []
  mServerPort : Int32 := 0

/-- What `SocketClient::init` takes of a port. -/
def ServerEndpoint.port (address : ServerEndpoint) : UInt16 := address.mServerPort.toUInt32.toUInt16

/-- What the save file has of the address. -/
structure SaveFile where
  ServerIP : Option Bytes := none
  ServerPort : Option Int32 := none

/-- `saveReadHook` -/
def SaveFile.address (save : SaveFile) : ServerEndpoint where
  mServerIP :=
    match save.ServerIP with
    | some serverIP => .copy serverIP
    | none => .copy []
  mServerPort := save.ServerPort.getD 0

/-- `saveWriteHook` -/
def SaveFile.write (address : ServerEndpoint) : SaveFile where
  ServerIP := some address.mServerIP.octets
  ServerPort := some address.mServerPort

@[simp]
theorem SaveFile.address_write (address : ServerEndpoint) : (write address).address = address := by
  obtain ⟨mServerIP, mServerPort⟩ := address
  simp only [SaveFile.address, write, Hostname.copy_octets, Option.getD_some]

-----------------------------------------------------------------------------------------
-- The game
-----------------------------------------------------------------------------------------

/-- What a keyboard is opened for, with the value before it. -/
inductive KeyboardFor
  | ip (prevIp : Hostname)
  | port (prevPort : Int32)

/-- Who waits for the keyboard. -/
inductive KeyboardCaller
  | menu
  | startConnection (isOverride : Bool)

/-- A call of `openKeyboardIP` or `openKeyboardPort`. -/
structure KeyboardCall where
  setting : KeyboardFor
  caller : KeyboardCaller
  /-- The keyboard is closed and its result is taken. -/
  closed : Bool := false

/-- What is noted of a process. -/
inductive AddressNote
  | set (address : ServerEndpoint)
  /-- a keyboard that has left another value, or the same -/
  | keyboard (changed : Bool)
  /-- `mSocket->init` with the address that is set -/
  | asked
  /-- `SocketClient::init` has a connection, on which it presents the player. -/
  | connected (serverIP : Hostname) (port : UInt16) (con_type : ConnectionTypes)

structure ServerAddress where
  address : ServerEndpoint := {}
  keyboard : Option KeyboardCall := none
  /-- `startConnection` has come to `mSocket->init`. -/
  starting : Bool := false
  /-- The port of the socket, once it was given one. Its `sock_ip` points into `mServerIP`. -/
  port : Option UInt16 := none
  /-- that of the socket -/
  mIsFirstConnect : Bool := true
  /-- The save file is to be written. -/
  isWriting : Bool := false
  save : SaveFile := {}
  notes : List AddressNote := []

inductive AddressEvent
  /-- A process starts and reads the save file before all else. -/
  | start
  /-- The game writes the save file, as it does at any time. -/
  | saveWriteHook
  | startConnection (isOverride : Bool)
  /-- from the menu -/
  | openKeyboardIP
  | openKeyboardPort
  /-- with the result, unless the keyboard is cancelled -/
  | closeKeyboard (result : Option Bytes)
  /-- The call of the keyboard is left. -/
  | leaveKeyboard
  /-- `mSocket->init` in `startConnection` -/
  | connect (attempt : Attempt)
  | restartConnection (attempt : Attempt)
  /-- on a socket that could be closed, by the threads that send and receive -/
  | tryReconnect (attempt : Attempt)

namespace ServerAddress

variable (game : ServerAddress)

def started (save : SaveFile) : ServerAddress where
  address := save.address
  save := save
  notes := [.set save.address]

def note (note : AddressNote) : ServerAddress := { game with notes := game.notes ++ [note] }

def set (address : ServerEndpoint) : ServerAddress := { game.note (.set address) with address }

def openKeyboardIP (caller : KeyboardCaller) : ServerAddress :=
  { game with keyboard := some { setting := .ip game.address.mServerIP, caller } }

def openKeyboardPort (caller : KeyboardCaller) : ServerAddress :=
  { game with keyboard := some { setting := .port game.address.mServerPort, caller } }

/-- `startSaveDataWrite`, if there is a need. -/
def startSaveDataWrite (isNeedSave : Bool) : ServerAddress :=
  { game with isWriting := game.isWriting || isNeedSave }

/-- `"127.0.0.1"` -/
def localhost : Bytes := [49, 50, 55, 46, 48, 46, 48, 46, 49]

/-- `startConnection` up to the keyboard of the port, or to `mSocket->init`. -/
def askPort (isOverride isNeedSave : Bool) : ServerAddress :=
  if game.address.mServerPort = 0 || isOverride then
    (game.set { game.address with mServerPort := 1027 }).openKeyboardPort
      (.startConnection isOverride)
  else { game with starting := true }.startSaveDataWrite isNeedSave

def startConnection (isOverride : Bool) : ServerAddress :=
  if game.address.mServerIP.octets = [] || isOverride then
    (game.set { game.address with mServerIP := .copy localhost }).openKeyboardIP
      (.startConnection isOverride)
  else game.askPort isOverride false

/-- What the result of a keyboard is set as. -/
def result (setting : KeyboardFor) (text : Bytes) : ServerEndpoint :=
  match setting with
  | .ip _ => { game.address with mServerIP := .copy text }
  | .port _ => { game.address with mServerPort := atoi text }

def closeKeyboard (call : KeyboardCall) (result : Option Bytes) : ServerAddress :=
  let closed :=
    match result with
    | none => game
    | some text => game.set (game.result call.setting text)
  { closed with keyboard := some { call with closed := true } }

/-- `isFirstConnect` in the calls of the keyboard. -/
def isFirstConnect : KeyboardFor → Bool
  | .ip prevIp => prevIp.octets ≠ game.address.mServerIP.octets
  | .port prevPort => prevPort ≠ game.address.mServerPort

/-- A call of the keyboard from `setIsFirstConn` on, with what its caller does then. -/
def leaveKeyboard (call : KeyboardCall) : ServerAddress :=
  let changed := game.isFirstConnect call.setting
  let left :=
    { game.note (.keyboard changed) with
      keyboard := none
      mIsFirstConnect := changed }
  match call.caller, call.setting with
  | .menu, _ => left.startSaveDataWrite changed
  | .startConnection isOverride, .ip _ => left.askPort isOverride true
  | .startConnection _, .port _ => { left with starting := true }.startSaveDataWrite true

/-- `SocketClient::init` -/
def init (port : UInt16) (attempt : Attempt) : ServerAddress :=
  if attempt.succeeds then
    let con_type := if game.mIsFirstConnect then .init else .reconnect
    { game.note (.connected game.address.mServerIP port con_type) with
      port := some port
      mIsFirstConnect := false }
  else { game with port := some port }

/-- `mSocket->init(mServerIP.cstr(), mServerPort)` -/
def ask (attempt : Attempt) : ServerAddress :=
  (game.note .asked).init game.address.port attempt

def step : AddressEvent → Option ServerAddress
  | .start => some (started game.save)
  | .saveWriteHook => some { game with save := .write game.address, isWriting := false }
  | .startConnection isOverride =>
      if game.keyboard.isSome || game.starting then none
      else some (game.startConnection isOverride)
  | .openKeyboardIP => if game.keyboard.isSome then none else some (game.openKeyboardIP .menu)
  | .openKeyboardPort => if game.keyboard.isSome then none else some (game.openKeyboardPort .menu)
  | .closeKeyboard result =>
      match game.keyboard with
      | none => none
      | some call =>
          if call.closed then none else some (game.closeKeyboard call result)
  | .leaveKeyboard =>
      match game.keyboard with
      | none => none
      | some call => if call.closed then some (game.leaveKeyboard call) else none
  | .connect attempt =>
      if game.starting then some ({ game with starting := false }.ask attempt) else none
  | .restartConnection attempt => some (game.ask attempt)
  | .tryReconnect attempt => game.port.map fun port => game.init port attempt

variable {game after : ServerAddress} {port : UInt16} {attempt : Attempt}

@[simp]
theorem isFirstConnect_ip {prevIp : Hostname}
    : game.isFirstConnect (.ip prevIp) = false
      ↔ prevIp.octets = game.address.mServerIP.octets := by
  simp [isFirstConnect]

@[simp]
theorem isFirstConnect_port {prevPort : Int32}
    : game.isFirstConnect (.port prevPort) = false ↔ prevPort = game.address.mServerPort := by
  simp [isFirstConnect]

@[simp]
theorem init_address : (game.init port attempt).address = game.address := by
  unfold init
  split <;> rfl

@[simp]
theorem init_keyboard : (game.init port attempt).keyboard = game.keyboard := by
  unfold init
  split <;> rfl

@[simp]
theorem init_isWriting : (game.init port attempt).isWriting = game.isWriting := by
  unfold init
  split <;> rfl

@[simp]
theorem init_save : (game.init port attempt).save = game.save := by
  unfold init
  split <;> rfl

-----------------------------------------------------------------------------------------
-- What the save file has
-----------------------------------------------------------------------------------------

/-- Nothing is under way that will have the save file written. -/
def Settled (game : ServerAddress) : Prop :=
  game.isWriting = false
  ∧ ∀ call ∈ game.keyboard,
      call.caller = .menu ∧ game.isFirstConnect call.setting = false

/-- As long as a keyboard is open its value stays, and where nothing is under way the save file has
the address.
-/
structure Saved (game : ServerAddress) : Prop where
  typing : ∀ call ∈ game.keyboard, call.closed = false → game.isFirstConnect call.setting = false
  saved : game.Settled → game.save.address = game.address

theorem saved_started (save : SaveFile) : (started save).Saved := ⟨nofun, fun _ => rfl⟩

/-- Only the address, the save file and what is under way matter. -/
theorem Saved.congr (saved : game.Saved) (address : after.address = game.address)
    (keyboard : after.keyboard = game.keyboard) (isWriting : after.isWriting = game.isWriting)
    (save : after.save = game.save)
    : after.Saved := by
  have first (setting : KeyboardFor)
      : after.isFirstConnect setting = game.isFirstConnect setting := by
    cases setting <;> simp only [isFirstConnect, address]
  constructor
  · intro call member typing
    rw [first]
    exact saved.typing call (keyboard ▸ member) typing
  · intro settled
    rw [save, address]
    refine saved.saved ⟨isWriting ▸ settled.1, fun call member => ?_⟩
    rw [← first]
    exact settled.2 call (keyboard ▸ member)

theorem Saved.init (saved : game.Saved) : (game.init port attempt).Saved :=
  saved.congr init_address init_keyboard init_isWriting init_save

theorem Saved.ask (saved : game.Saved) : (game.ask attempt).Saved :=
  Saved.init (saved.congr rfl rfl rfl rfl)

/-- A keyboard that was just opened has the value that there is. -/
theorem saved_openKeyboardIP {caller : KeyboardCaller}
    (saved : caller = .menu → game.isWriting = false → game.save.address = game.address)
    : (game.openKeyboardIP caller).Saved := by
  constructor
  · rintro call ⟨⟩ -
    exact isFirstConnect_ip.mpr rfl
  · intro settled
    exact saved (settled.2 _ rfl).1 settled.1

theorem saved_openKeyboardPort {caller : KeyboardCaller}
    (saved : caller = .menu → game.isWriting = false → game.save.address = game.address)
    : (game.openKeyboardPort caller).Saved := by
  constructor
  · rintro call ⟨⟩ -
    exact isFirstConnect_port.mpr rfl
  · intro settled
    exact saved (settled.2 _ rfl).1 settled.1

/-- Without a keyboard. -/
theorem saved_of_none (none : game.keyboard = none)
    (saved : game.isWriting = false → game.save.address = game.address)
    : game.Saved :=
  ⟨fun call member => absurd (none ▸ member) (by simp), fun settled => saved settled.1⟩

theorem Saved.of_none (saved : game.Saved) (none : game.keyboard = none)
    (idle : game.isWriting = false)
    : game.save.address = game.address :=
  saved.saved ⟨idle, fun call member => absurd (none ▸ member) (by simp)⟩

theorem saved_askPort {isOverride isNeedSave : Bool} (none : game.keyboard = none)
    (saved : isNeedSave = false → game.isWriting = false → game.save.address = game.address)
    : (game.askPort isOverride isNeedSave).Saved := by
  unfold askPort
  split
  · exact saved_openKeyboardPort nofun
  · refine saved_of_none none fun isWriting => ?_
    obtain ⟨idle, needless⟩ := Bool.or_eq_false_iff.mp isWriting
    exact saved needless idle

theorem Saved.startConnection {isOverride : Bool} (saved : game.Saved)
    (none : game.keyboard = none)
    : (game.startConnection isOverride).Saved := by
  unfold ServerAddress.startConnection
  split
  · exact saved_openKeyboardIP nofun
  · exact saved_askPort none fun _ idle => saved.of_none none idle

/-- A value that is set anew as the one before it leaves the address. -/
theorem result_eq {setting : KeyboardFor} {text : Bytes}
    (before : game.isFirstConnect setting = false)
    (same : (game.set (game.result setting text)).isFirstConnect setting = false)
    : game.result setting text = game.address := by
  cases setting with
  | ip prevIp =>
      have copied : Hostname.copy text = game.address.mServerIP := by
        have next : prevIp.octets = (Hostname.copy text).octets := isFirstConnect_ip.mp same
        rw [← Hostname.copy_octets (.copy text), ← next, isFirstConnect_ip.mp before,
          Hostname.copy_octets]
      simp only [result, copied]
  | port prevPort =>
      have prev := isFirstConnect_port.mp before
      have next : prevPort = atoi text := isFirstConnect_port.mp same
      simp only [result, ← next, prev]

theorem Saved.closeKeyboard {call : KeyboardCall} {result : Option Bytes} (saved : game.Saved)
    (opened : game.keyboard = some call) (typing : call.closed = false)
    : (game.closeKeyboard call result).Saved := by
  have before := saved.typing call opened typing
  constructor
  · rintro call' ⟨⟩ closed
    cases closed
  · intro settled
    obtain ⟨fromMenu, same⟩ := settled.2 { call with closed := true } rfl
    have idle : game.isWriting = false → game.save.address = game.address := by
      refine fun idle => saved.saved ⟨idle, fun call' member => ?_⟩
      obtain rfl := Option.some.inj (opened.symm.trans member)
      exact ⟨fromMenu, before⟩
    cases result with
    | none => exact idle settled.1
    | some text => exact (idle settled.1).trans (result_eq before same).symm

theorem Saved.leaveKeyboard {call : KeyboardCall} (saved : game.Saved)
    (opened : game.keyboard = some call)
    : (game.leaveKeyboard call).Saved := by
  unfold ServerAddress.leaveKeyboard
  obtain ⟨setting, caller, closed⟩ := call
  cases caller with
  | menu =>
      refine saved_of_none rfl fun isWriting => ?_
      obtain ⟨idle, same⟩ := Bool.or_eq_false_iff.mp isWriting
      refine saved.saved ⟨idle, fun call member => ?_⟩
      obtain rfl := Option.some.inj (opened.symm.trans member)
      exact ⟨rfl, same⟩
  | startConnection isOverride =>
      cases setting with
      | ip prevIp => exact saved_askPort rfl nofun
      | port prevPort =>
          refine saved_of_none rfl fun isWriting => ?_
          cases (Bool.or_eq_false_iff.mp isWriting).2

theorem startConnection_cases {isOverride : Bool}
    (taken : game.step (.startConnection isOverride) = some after)
    : game.keyboard = none ∧ after = game.startConnection isOverride := by
  simp only [step, Option.ite_none_left_eq_some, Option.some.injEq, Bool.or_eq_true, not_or,
    Bool.not_eq_true, Option.isSome_eq_false_iff, Option.isNone_iff_eq_none] at taken
  exact ⟨taken.1.1, taken.2.symm⟩

theorem openKeyboardIP_cases (taken : game.step .openKeyboardIP = some after)
    : game.keyboard = none ∧ after = game.openKeyboardIP .menu := by
  simp only [step, Option.ite_none_left_eq_some, Option.some.injEq, Bool.not_eq_true,
    Option.isSome_eq_false_iff, Option.isNone_iff_eq_none] at taken
  exact ⟨taken.1, taken.2.symm⟩

theorem openKeyboardPort_cases (taken : game.step .openKeyboardPort = some after)
    : game.keyboard = none ∧ after = game.openKeyboardPort .menu := by
  simp only [step, Option.ite_none_left_eq_some, Option.some.injEq, Bool.not_eq_true,
    Option.isSome_eq_false_iff, Option.isNone_iff_eq_none] at taken
  exact ⟨taken.1, taken.2.symm⟩

theorem closeKeyboard_cases {result : Option Bytes}
    (taken : game.step (.closeKeyboard result) = some after)
    : ∃ call, game.keyboard = some call ∧ call.closed = false
        ∧ after = game.closeKeyboard call result := by
  unfold step at taken
  cases opened : game.keyboard with
  | none =>
      rw [opened] at taken
      cases taken
  | some call =>
      simp only [opened, Option.ite_none_left_eq_some, Option.some.injEq, Bool.not_eq_true] at taken
      exact ⟨call, rfl, taken.1, taken.2.symm⟩

theorem leaveKeyboard_cases (taken : game.step .leaveKeyboard = some after)
    : ∃ call, game.keyboard = some call ∧ after = game.leaveKeyboard call := by
  unfold step at taken
  cases opened : game.keyboard with
  | none =>
      rw [opened] at taken
      cases taken
  | some call =>
      simp only [opened, Option.ite_none_right_eq_some, Option.some.injEq] at taken
      exact ⟨call, rfl, taken.2.symm⟩

theorem connect_cases (taken : game.step (.connect attempt) = some after)
    : after = { game with starting := false }.ask attempt := by
  simp only [step, Option.ite_none_right_eq_some, Option.some.injEq] at taken
  exact taken.2.symm

/-- What every step keeps. -/
theorem Saved.step {event : AddressEvent} (saved : game.Saved)
    (taken : game.step event = some after)
    : after.Saved := by
  cases event with
  | start =>
      obtain rfl := Option.some.inj taken
      exact saved_started _
  | saveWriteHook =>
      obtain rfl := Option.some.inj taken
      exact ⟨saved.typing, fun _ => SaveFile.address_write _⟩
  | startConnection isOverride =>
      obtain ⟨none, rfl⟩ := startConnection_cases taken
      exact saved.startConnection none
  | openKeyboardIP =>
      obtain ⟨none, rfl⟩ := openKeyboardIP_cases taken
      exact saved_openKeyboardIP fun _ idle => saved.of_none none idle
  | openKeyboardPort =>
      obtain ⟨none, rfl⟩ := openKeyboardPort_cases taken
      exact saved_openKeyboardPort fun _ idle => saved.of_none none idle
  | closeKeyboard result =>
      obtain ⟨call, opened, typing, rfl⟩ := closeKeyboard_cases taken
      exact saved.closeKeyboard opened typing
  | leaveKeyboard =>
      obtain ⟨call, opened, rfl⟩ := leaveKeyboard_cases taken
      exact saved.leaveKeyboard opened
  | connect attempt =>
      obtain rfl := connect_cases taken
      exact Saved.ask (saved.congr rfl rfl rfl rfl)
  | restartConnection attempt =>
      obtain rfl := Option.some.inj taken
      exact saved.ask
  | tryReconnect attempt =>
      obtain ⟨port, -, rfl⟩ := Option.map_eq_some_iff.mp taken
      exact saved.init

def typed (text : String) : Bytes := text.toList.map fun char => UInt8.ofNat char.toNat

/-- A connection is made. -/
def succeeding : Attempt where
  socket := 3
  sends := { length := 4, text := 100 }

/-- The first start of a game, for which the port is left as it is. -/
def firstStart : List AddressEvent := [
  .startConnection false, .closeKeyboard (some (typed "one.example")), .leaveKeyboard,
  .closeKeyboard (some (typed "1027")), .leaveKeyboard, .connect succeeding]

/-- Another server, from the menu. -/
def otherServer : List AddressEvent := [
  .openKeyboardIP, .closeKeyboard (some (typed "two.example")), .leaveKeyboard,
  .openKeyboardPort, .closeKeyboard (some (typed "2000")), .leaveKeyboard]

/-- Unless something is under way that will have the save file written, a process that starts has
the address that was set last, whoever set it and however many processes there were.
-/
theorem address_saved {save : SaveFile} {events : List AddressEvent}
    (executed : execute step (started save) events = some game) (settled : game.Settled)
    : (started game.save).address = game.address := by
  have saved : game.Saved :=
    (execute_run executed).invariant (saved_started save) fun saved _ taken => saved.step taken
  exact saved.saved settled

theorem address_saved_one_example
    : ∃ game,
        execute step (started {}) (firstStart ++ [.saveWriteHook]) = some game
        ∧ (started game.save).address = game.address
        ∧ game.address.mServerIP = .copy (typed "one.example") := by
  have executes : (execute step (started {}) (firstStart ++ [.saveWriteHook])).isSome = true := by
    decide +kernel
  have executed := (Option.some_get executes).symm
  refine ⟨_, executed, address_saved executed ⟨rfl, nofun⟩, rfl⟩

end ServerAddress

-----------------------------------------------------------------------------------------
-- What connections are made with
-----------------------------------------------------------------------------------------

def AddressNote.address : AddressNote → Option ServerEndpoint
  | .set address => some address
  | _ => none

/-- The note is of a keyboard or of a connection. -/
def AddressNote.tells : AddressNote → Bool
  | .keyboard _ => true
  | .connected _ _ _ => true
  | _ => false

def lastSet (notes : List AddressNote) : Option ServerEndpoint :=
  (notes.filterMap AddressNote.address).getLast?

/-- The port is that of the address that was set when it was asked for last. -/
def AskedPort (notes : List AddressNote) (port : UInt16) : Prop :=
  ∃ before behind address,
    notes = before ++ .asked :: behind
    ∧ .asked ∉ behind
    ∧ lastSet before = some address
    ∧ address.port = port

/-- No connection was made and no keyboard was left yet, or what was last was a keyboard that has
left another value.
-/
def PresentsFirst (notes : List AddressNote) : Prop :=
  ∀ note, (notes.filter AddressNote.tells).getLast? = some note → note = .keyboard true

section Notes

variable {notes : List AddressNote} {note : AddressNote} {address : ServerEndpoint} {port : UInt16}

@[simp]
theorem lastSet_set : lastSet (notes ++ [.set address]) = some address := by
  simp [lastSet, AddressNote.address]

theorem lastSet_append (other : note.address = none)
    : lastSet (notes ++ [note]) = lastSet notes := by
  simp [lastSet, other]

theorem presentsFirst_of_tells (tells : note.tells = true)
    : PresentsFirst (notes ++ [note]) ↔ note = .keyboard true := by
  simp [PresentsFirst, List.filter_append, tells]

theorem presentsFirst_append (other : note.tells = false)
    : PresentsFirst (notes ++ [note]) ↔ PresentsFirst notes := by
  simp [PresentsFirst, List.filter_append, other]

theorem AskedPort.append (asked : AskedPort notes port) (other : note ≠ .asked)
    : AskedPort (notes ++ [note]) port := by
  obtain ⟨before, behind, address, rfl, none, set, same⟩ := asked
  refine ⟨before, behind ++ [note], address, by simp, ?_, set, same⟩
  simp [none, Ne.symm other]

theorem askedPort_asked (set : lastSet notes = some address)
    : AskedPort (notes ++ [.asked]) address.port :=
  ⟨notes, [], address, rfl, List.not_mem_nil, set, rfl⟩

end Notes

/-- A connection behind what was noted before it. -/
structure Made (earlier : List AddressNote) (serverIP : Hostname) (port : UInt16)
    (con_type : ConnectionTypes)
    : Prop where
  hostname : (lastSet earlier).map ServerEndpoint.mServerIP = some serverIP
  port : AskedPort earlier port
  presented : con_type = .init ↔ PresentsFirst earlier

namespace ServerAddress

variable {game after : ServerAddress} {port : UInt16} {attempt : Attempt}

/-- What the notes say of the address, the socket and the connections. -/
structure Noted (game : ServerAddress) : Prop where
  address : lastSet game.notes = some game.address
  port : ∀ port ∈ game.port, AskedPort game.notes port
  first : game.mIsFirstConnect = true ↔ PresentsFirst game.notes
  made
    : ∀ earlier serverIP port con_type,
        earlier ++ [.connected serverIP port con_type] <+: game.notes
        → Made earlier serverIP port con_type

theorem noted_started (save : SaveFile) : (started save).Noted where
  address := rfl
  port := nofun
  first := iff_of_true rfl nofun
  made earlier serverIP port con_type front := by
    have front : earlier ++ [_] <+: [] ++ [AddressNote.set save.address] := front
    rcases List.prefix_concat_iff.mp front with same | none
    · cases (List.append_inj' same rfl).2
    · simp at none

/-- Only the address, the socket and the notes matter. -/
theorem Noted.congr (noted : game.Noted) (address : after.address = game.address)
    (port : after.port = game.port) (first : after.mIsFirstConnect = game.mIsFirstConnect)
    (notes : after.notes = game.notes)
    : after.Noted where
  address := by rw [notes, address, noted.address]
  port := by
    rw [notes, port]
    exact noted.port
  first := by rw [notes, first, noted.first]
  made := by
    rw [notes]
    exact noted.made

/-- Another note than of a connection. -/
theorem Noted.made_append {note : AddressNote} (noted : game.Noted)
    (other : ∀ serverIP port con_type, note ≠ .connected serverIP port con_type)
    : ∀ earlier serverIP port con_type,
        earlier ++ [.connected serverIP port con_type] <+: game.notes ++ [note]
        → Made earlier serverIP port con_type := by
  intro earlier serverIP port con_type front
  rcases List.prefix_concat_iff.mp front with same | front
  · cases (List.append_inj' same rfl).2
    exact absurd rfl (other _ _ _)
  · exact noted.made _ _ _ _ front

theorem Noted.set (noted : game.Noted) (address : ServerEndpoint) : (game.set address).Noted where
  address := lastSet_set
  port port given := (noted.port port given).append nofun
  first := noted.first.trans (presentsFirst_append rfl).symm
  made := noted.made_append nofun

/-- A keyboard is left. -/
theorem Noted.changed (noted : game.Noted) (changed : Bool)
    : { game.note (.keyboard changed) with
        keyboard := none, mIsFirstConnect := changed }.Noted where
  address := (lastSet_append rfl).trans noted.address
  port port given := (noted.port port given).append nofun
  first := by
    refine Iff.trans ?_ (presentsFirst_of_tells rfl).symm
    simp
  made := noted.made_append nofun

/-- A call of `SocketClient::init` with the port that was asked for last. -/
theorem noted_init (address : lastSet game.notes = some game.address)
    (asked : AskedPort game.notes port)
    (first : game.mIsFirstConnect = true ↔ PresentsFirst game.notes)
    (made
      : ∀ earlier serverIP port con_type,
          earlier ++ [.connected serverIP port con_type] <+: game.notes
          → Made earlier serverIP port con_type)
    : (game.init port attempt).Noted := by
  unfold init
  split
  · refine ⟨(lastSet_append rfl).trans address, ?_, ?_, ?_⟩
    · rintro _ ⟨⟩
      exact asked.append nofun
    · refine Iff.trans ?_ (presentsFirst_of_tells rfl).symm
      simp
    · intro earlier serverIP port' con_type front
      rcases List.prefix_concat_iff.mp front with same | front
      · obtain ⟨rfl, last⟩ := List.append_inj' same rfl
        cases last
        refine ⟨by rw [address]; rfl, asked, ?_⟩
        rw [← first]
        cases game.mIsFirstConnect <;> simp
      · exact made _ _ _ _ front
  · refine ⟨address, ?_, first, made⟩
    rintro _ ⟨⟩
    exact asked

theorem Noted.ask (noted : game.Noted) : (game.ask attempt).Noted :=
  noted_init ((lastSet_append rfl).trans noted.address) (askedPort_asked noted.address)
    (noted.first.trans (presentsFirst_append rfl).symm) (noted.made_append nofun)

theorem Noted.askPort (noted : game.Noted) (isOverride isNeedSave : Bool)
    : (game.askPort isOverride isNeedSave).Noted := by
  unfold ServerAddress.askPort
  split
  · exact (noted.set _).congr rfl rfl rfl rfl
  · exact noted.congr rfl rfl rfl rfl

theorem Noted.leaveKeyboard (noted : game.Noted) (call : KeyboardCall)
    : (game.leaveKeyboard call).Noted := by
  unfold ServerAddress.leaveKeyboard
  have left := noted.changed (game.isFirstConnect call.setting)
  obtain ⟨setting, caller, closed⟩ := call
  cases caller with
  | menu => exact left.congr rfl rfl rfl rfl
  | startConnection isOverride =>
      cases setting with
      | ip prevIp => exact left.askPort isOverride true
      | port prevPort => exact left.congr rfl rfl rfl rfl

/-- What every step keeps. -/
theorem Noted.step {event : AddressEvent} (noted : game.Noted)
    (taken : game.step event = some after)
    : after.Noted := by
  cases event with
  | start =>
      obtain rfl := Option.some.inj taken
      exact noted_started _
  | saveWriteHook =>
      obtain rfl := Option.some.inj taken
      exact noted.congr rfl rfl rfl rfl
  | startConnection isOverride =>
      obtain ⟨-, rfl⟩ := startConnection_cases taken
      unfold ServerAddress.startConnection
      split
      · exact (noted.set _).congr rfl rfl rfl rfl
      · exact noted.askPort isOverride false
  | openKeyboardIP =>
      obtain ⟨-, rfl⟩ := openKeyboardIP_cases taken
      exact noted.congr rfl rfl rfl rfl
  | openKeyboardPort =>
      obtain ⟨-, rfl⟩ := openKeyboardPort_cases taken
      exact noted.congr rfl rfl rfl rfl
  | closeKeyboard result =>
      obtain ⟨call, -, -, rfl⟩ := closeKeyboard_cases taken
      cases result with
      | none => exact noted.congr rfl rfl rfl rfl
      | some text => exact (noted.set _).congr rfl rfl rfl rfl
  | leaveKeyboard =>
      obtain ⟨call, -, rfl⟩ := leaveKeyboard_cases taken
      exact noted.leaveKeyboard call
  | connect attempt =>
      obtain rfl := connect_cases taken
      exact Noted.ask (noted.congr rfl rfl rfl rfl)
  | restartConnection attempt =>
      obtain rfl := Option.some.inj taken
      exact noted.ask
  | tryReconnect attempt =>
      obtain ⟨port, given, rfl⟩ := Option.map_eq_some_iff.mp taken
      exact noted_init noted.address (noted.port port given) noted.first noted.made

theorem made_of_executed {save : SaveFile} {events : List AddressEvent}
    {earlier later : List AddressNote} {serverIP : Hostname} {con_type : ConnectionTypes}
    (executed : execute step (started save) events = some game)
    (noted : game.notes = earlier ++ .connected serverIP port con_type :: later)
    : Made earlier serverIP port con_type := by
  have all : game.Noted :=
    (execute_run executed).invariant (noted_started save) fun noted _ taken => noted.step taken
  exact all.made earlier serverIP port con_type ⟨later, by simp [noted]⟩

/-- A connection goes to the hostname that is set when it is made, but to the port that was set when
one was asked for last; one that is made again on its own, to a new hostname with an old port.
-/
theorem connected_to {save : SaveFile} {events : List AddressEvent}
    {earlier later : List AddressNote} {serverIP : Hostname} {con_type : ConnectionTypes}
    (executed : execute step (started save) events = some game)
    (noted : game.notes = earlier ++ .connected serverIP port con_type :: later)
    : (lastSet earlier).map ServerEndpoint.mServerIP = some serverIP ∧ AskedPort earlier port :=
  have made := made_of_executed executed noted
  ⟨made.hostname, made.port⟩

/-- The player has set another server and has not connected yet. -/
theorem connected_to_two_example
    : ∃ game earlier,
        execute step (started {}) (firstStart ++ otherServer ++ [.tryReconnect succeeding])
          = some game
        ∧ (lastSet earlier).map ServerEndpoint.mServerIP = some (.copy (typed "two.example"))
        ∧ AskedPort earlier 1027 := by
  have executes
      : (execute step (started {})
          (firstStart ++ otherServer ++ [.tryReconnect succeeding])).isSome = true := by
    decide +kernel
  have executed := (Option.some_get executes).symm
  have noted
      : ((execute step (started {}) (firstStart ++ otherServer ++ [.tryReconnect succeeding])).get
            executes).notes
        = ((execute step (started {}) (firstStart ++ otherServer)).getD {}).notes
          ++ [.connected (.copy (typed "two.example")) 1027 .init] :=
    rfl
  exact ⟨_, _, executed, connected_to executed noted⟩

/-- A connection presents the player for the first time exactly if the last keyboard since the
connection before it has left another value, whatever the ones before that keyboard have changed;
or if the process has made no connection and left no keyboard.
-/
theorem presented_first_iff {save : SaveFile} {events : List AddressEvent}
    {earlier later : List AddressNote} {serverIP : Hostname} {con_type : ConnectionTypes}
    (executed : execute step (started save) events = some game)
    (noted : game.notes = earlier ++ .connected serverIP port con_type :: later)
    : con_type = .init ↔ PresentsFirst earlier :=
  (made_of_executed executed noted).presented

/-- A player who leaves the port as it is comes back to a server that has not seen the player. -/
theorem presented_first_iff_one_example
    : ∃ game earlier,
        execute step (started {}) firstStart = some game
        ∧ game.notes = earlier ++ [.connected (.copy (typed "one.example")) 1027 .reconnect]
        ∧ ¬PresentsFirst earlier := by
  have executes : (execute step (started {}) firstStart).isSome = true := by
    decide +kernel
  have executed := (Option.some_get executes).symm
  have noted
      : ((execute step (started {}) firstStart).get executes).notes
        = ((execute step (started {}) firstStart).get executes).notes.dropLast
          ++ [.connected (.copy (typed "one.example")) 1027 .reconnect] :=
    rfl
  refine ⟨_, _, executed, noted, fun first => ?_⟩
  cases (presented_first_iff executed noted).mpr first

end ServerAddress

end SmoOnline.Mod
