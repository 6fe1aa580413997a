import Mathlib.Data.List.Basic
import SmoOnline.Library.Span

/-! The patches that hook the mod into the game. Their files are read line by line, where a line
behind the last one of a block is known by not being indented as the block's first one, and are
written as an IPS32 file.
-/

namespace SmoOnline.Build

open Span

abbrev Text := List Char

-----------------------------------------------------------------------------------------
-- Texts
-----------------------------------------------------------------------------------------

/-- `str.isspace`, and `\s` in a regular expression. -/
def isSpace (char : Char) : Bool :=
  (9 ≤ char.val && char.val ≤ 13) || (28 ≤ char.val && char.val ≤ 32) || char.val = 0x85
    || char.val = 0xa0 || char.val = 0x1680 || (0x2000 ≤ char.val && char.val ≤ 0x200a)
    || char.val = 0x2028 || char.val = 0x2029 || char.val = 0x202f || char.val = 0x205f
    || char.val = 0x3000

/-- `strip()` -/
def strip (text : Text) : Text :=
  ((text.dropWhile isSpace).reverse.dropWhile isSpace).reverse

/-- `split(separator, 1)[0]` -/
def before (separator : Char) (text : Text) : Text := text.takeWhile (· ≠ separator)

/-- `split(separator, 1)[1]`, if there is one. -/
def behind (separator : Char) (text : Text) : Option Text :=
  match text.dropWhile (· ≠ separator) with
  | [] => none
  | _ :: rest => some rest

/-- What a line has in front of a comment: `split('/', 1)[0]`. -/
def uncommented (line : Text) : Text := before '/' line

/-- `re.search(r'\s+', line)` -/
def indent (line : Text) : Option Text :=
  match (line.dropWhile fun char => !isSpace char).takeWhile isSpace with
  | [] => none
  | spaces => some spaces

/-- The group of `re.match(r'\[(.+)\]', line)`: up to the last bracket. -/
def inBrackets : Text → Option Text
  | '[' :: rest =>
      match rest.reverse.dropWhile (· ≠ ']') with
      | _ :: char :: group => some (char :: group).reverse
      | _ => none
  | _ => none

-----------------------------------------------------------------------------------------
-- Symbols and instructions
-----------------------------------------------------------------------------------------

/-- What `getSymAddrFromMap` comes to: an address, `NameError`, or the end of the script, be it that
it exits, throws or never comes back.
-/
inductive Lookup
  | found (addr : Int)
  | nameError
  | exit

/-- What the script is run with and what it calls. -/
structure GenPatch where
  buildVersion : Text
  /-- `patchConfig["nso_load_addr"]` -/
  nsoLoadAddr : List (Text × Text)
  /-- `patchConfig["map_file"]` -/
  mapFile : List (Text × Text)
  /-- `SLMapFile` -/
  slMapFile : Text
  /-- `re.search(regexStr, text)`, with its `span()` -/
  search : Text → Text → Option (Nat × Nat)
  /-- `\w` -/
  isWord : Char → Bool
  /-- `int(text, 16)` -/
  int16 : Text → Option Int
  /-- `bytearray.fromhex` -/
  fromhex : Text → Option Bytes
  /-- if there is a text in quotation marks: that text unescaped, with a zero behind it -/
  stringPatch : Text → Option (Option Bytes)
  /-- `branchNeedResolveMatch` -/
  branch : Text → Option (Text × Text)
  hex : Int → Text
  /-- `ks.asm` -/
  asm : Text → Option Bytes

namespace GenPatch

variable (script : GenPatch)

/-- `int(patchConfig["nso_load_addr"][target], 16)` -/
def loadAddr (target : Text) : Option Int := (script.nsoLoadAddr.lookup target).bind script.int16

/-- `text.rfind('\n', 0, position) + 1` -/
def lineStart (text : Text) (position : Nat) : Nat :=
  (text.take position).length - ((text.take position).reverse.takeWhile (· ≠ '\n')).length

/-- `text.find('\n', position)` -/
def lineEnd (text : Text) (position : Nat) : Int :=
  match (text.drop position).idxOf? '\n' with
  | none => -1
  | some distance => position + distance

/-- `text.replace(word, '')`, in the middle of a word of which some characters are left. -/
def without (word : Text) (left : Nat) : Text → Text
  | [] => []
  | char :: rest =>
      match left with
      | left + 1 => without word left rest
      | 0 =>
          if word.isPrefixOf (char :: rest) then without word (word.length - 1) rest
          else char :: without word 0 rest

/-- `line[:line.find(" ")]`, which is all but the last character where there is no blank. -/
def firstWord (line : Text) : Text := if ' ' ∈ line then before ' ' line else line.dropLast

/-- `getFoundPosAddr`, unless what is on the line is no number. The end of the last line counts as
not found where no line break comes behind it.
-/
def getFoundPosAddr (mapFile regexStr : Text) (start : Nat) : Option (Int × Int) :=
  match script.search regexStr (mapFile.drop start) with
  | none => some (-1, -1)
  | some (first, last) =>
      let foundLinePos := lineStart mapFile (first + start)
      let foundLineEndPos := lineEnd mapFile (last + start)
      let upTo := if foundLineEndPos = -1 then mapFile.length - 1 else foundLineEndPos.toNat
      let foundLine := strip ((mapFile.take upTo).drop foundLinePos)
      (script.int16 (without "00000000:00000071".toList 0 (firstWord foundLine))).map
        fun foundAddr => (foundLineEndPos, foundAddr)

/-- The check of uniqueness from a place on. Each turn comes to a later place or is repeated for
ever, so that there are no more turns than places.
-/
def isUnique (mapFile regexStr : Text) (firstFoundAddr : Int) (foundPos : Int) : Nat → Bool
  | 0 => false
  | turns + 1 =>
      match script.getFoundPosAddr mapFile regexStr foundPos.toNat with
      | none => false
      | some (nextPos, moreFoundAddr) =>
          if nextPos = -1 then true
          else if moreFoundAddr ≠ firstFoundAddr ∨ nextPos = foundPos then false
          else isUnique mapFile regexStr firstFoundAddr nextPos turns

/-- The map that is searched and the adjustment for it. -/
def mapOf (target : Text) : Text × Option Int :=
  match script.mapFile.lookup target with
  | some mapFile => (mapFile, script.loadAddr target)
  | none => (script.slMapFile, script.loadAddr "subsdk1".toList)

def getSymAddrFromMap (target regexStr : Text) : Lookup :=
  match script.mapOf target with
  | (_, none) => .exit
  | (mapFile, some loadAddrAdjustment) =>
      match script.getFoundPosAddr mapFile regexStr 0 with
      | none => .exit
      | some (foundPos, firstFoundAddr) =>
          if foundPos = -1 then .nameError
          else if script.isUnique mapFile regexStr firstFoundAddr foundPos (mapFile.length + 1) then
            -- `ctypes.c_long`
            .found (loadAddrAdjustment + firstFoundAddr.bmod (2 ^ 64))
          else .exit

/-- `re.findall(r'\w+', text)`, behind a word that has begun. -/
def words (begun : Text) : Text → List Text
  | [] => if begun = [] then [] else [begun]
  | char :: rest =>
      if script.isWord char then words (begun ++ [char]) rest
      else if begun = [] then words [] rest
      else begun :: words [] rest

/-- `re.findall(r'(\w+)=(\w+)', text)`, behind a name and, if there was its `=`, a value. -/
def assignments (name : Text) (value : Option Text) : Text → List (Text × Text)
  | [] =>
      match value with
      | some (char :: value) => [(name, char :: value)]
      | _ => []
  | char :: rest =>
      match value with
      | none =>
          if script.isWord char then assignments (name ++ [char]) none rest
          else if char = '=' ∧ name ≠ [] then assignments name (some []) rest
          else assignments [] none rest
      | some value =>
          if script.isWord char then assignments name (some (value ++ [char])) rest
          else if value = [] then assignments [] none rest
          else (name, value) :: assignments [] none rest

/-- The lookups of `resolveAddressAndTarget`, from its last one on. -/
def searchSymbol (target symbolStr : Text) (resolvedAddr : Int) : Option (Text × Int) :=
  match script.getSymAddrFromMap target
    (List.intercalate "\\w*".toList (script.words [] symbolStr)) with
  | .found addr => some (target, resolvedAddr + addr)
  | _ => none

/-- A symbol that may be an address already. -/
def resolveAddress (target symbolStr : Text) (resolvedAddr : Int) : Option (Text × Int) :=
  match script.int16 symbolStr with
  | none => script.searchSymbol target symbolStr resolvedAddr
  | some address =>
      match script.nsoLoadAddr.lookup target with
      | none => none
      | some loadAddr =>
          match script.int16 loadAddr with
          | some loadAddr => some (target, resolvedAddr + address + loadAddr)
          | none => script.searchSymbol target symbolStr (resolvedAddr + address)

/-- Behind the offset. -/
def resolveSymbol (target symbolStr : Text) (resolvedAddr : Int) : Option (Text × Int) :=
  match behind '!' symbolStr with
  | some symbol => script.resolveAddress (before '!' symbolStr) symbol resolvedAddr
  | none =>
      match script.nsoLoadAddr.lookup symbolStr with
      | some loadAddr => (script.int16 loadAddr).map fun addr => (symbolStr, resolvedAddr + addr)
      | none =>
          match script.getSymAddrFromMap "starlight".toList (symbolStr ++ "\\(".toList) with
          | .found addr => some (target, resolvedAddr + addr)
          | .nameError => script.resolveAddress target symbolStr resolvedAddr
          | .exit => none

/-- `resolveAddressAndTarget`, or nothing where the script ends or throws. -/
def resolveAddressAndTarget (target symbolStr : Text) : Option (Text × Int) :=
  match behind '+' symbolStr with
  | none => script.resolveSymbol target symbolStr 0
  | some offset =>
      (script.int16 offset).bind fun offset =>
        script.resolveSymbol target (before '+' symbolStr) offset

def getPatchBin (target : Text) (patchAddress : Int) (patchValueStr : Text) : Option Bytes :=
  match script.fromhex patchValueStr with
  | some patchBin => some patchBin
  | none =>
      match script.stringPatch patchValueStr with
      | some patchBin => patchBin
      | none =>
          match script.branch patchValueStr with
          | none => script.asm patchValueStr
          | some (mnemonic, symbolStr) =>
              (script.resolveAddressAndTarget target symbolStr).bind fun (_, toAddr) =>
                script.asm (mnemonic ++ '#' :: script.hex (toAddr - patchAddress))

end GenPatch

-----------------------------------------------------------------------------------------
-- Files of patches
-----------------------------------------------------------------------------------------

/-- `class Patch`, whose length is that of its content. -/
structure Patch where
  offset : Int
  content : Bytes
  deriving DecidableEq

/-- `patchVars`, of which these two are read. -/
structure PatchVars where
  version : Option Text := none
  target : Text := "main".toList

/-- Where the lines of a file have come to. -/
inductive Place
  | outside
  /-- behind the line that opens a block -/
  | opened (patchTarget : Text) (patchAddress : Int)
  | inside (patchTarget : Text) (patchAddress : Int) (ident : Text) (patchContent : Bytes)

/-- `addPatchFromFile` between two lines, with the patches of `patchList` in their order. -/
structure Reader where
  patchVars : PatchVars := {}
  place : Place := .outside
  patchList : List (Text × Patch) := []

namespace GenPatch

variable (script : GenPatch)

def assign (patchVars : PatchVars) (assignment : Text × Text) : PatchVars :=
  if assignment.1 = "version".toList then { patchVars with version := some assignment.2 }
  else if assignment.1 = "target".toList then { patchVars with target := assignment.2 }
  else patchVars

/-- The variables behind a line that sets some. -/
def assignAll (patchVars : PatchVars) (group : Text) : PatchVars :=
  (script.assignments [] none group).foldl assign patchVars

def isForVersion (patchVars : PatchVars) : Bool :=
  patchVars.version = some script.buildVersion || patchVars.version = some "all".toList

/-- `NSO_HEADER_LEN` -/
def nsoHeaderLen : Int := 0x100

/-- What `addPatchToPatchlist` adds. -/
def patchAt (target : Text) (patchAddress : Int) (patchContent : Bytes) : Option (Text × Patch) :=
  (script.loadAddr target).map fun loadAddr =>
    (target, { offset := patchAddress - loadAddr + nsoHeaderLen, content := patchContent })

def addPatchToPatchlist (reader : Reader) (target : Text) (patchAddress : Int)
    (patchContent : Bytes)
    : Option Reader :=
  (script.patchAt target patchAddress patchContent).map fun patch =>
    { reader with
      place := .outside
      patchList := reader.patchList ++ [patch] }

/-- What is left of a line between patches. -/
inductive LineKind
  | vars (group : Text)
  | nothing
  | block (symbolStr : Text)
  | single (symbolStr patchValueStr : Text)

/-- What a line between patches is, by the version that it is for. -/
def lineKind (patchVars : PatchVars) (line : Text) : LineKind :=
  let line := strip (uncommented line)
  match inBrackets line with
  | some group => .vars group
  | none =>
      if !script.isForVersion patchVars then .nothing
      else if (before ' ' line).getLast? = some ':' then .block (before ' ' line).dropLast
      else
        match behind ' ' line with
        | none => .nothing
        | some patchValueStr => .single (before ' ' line) patchValueStr

/-- A line between patches. -/
def readLine (reader : Reader) (line : Text) : Option Reader :=
  match script.lineKind reader.patchVars line with
  | .vars group => some { reader with patchVars := script.assignAll reader.patchVars group }
  | .nothing => some reader
  | .block symbolStr =>
      (script.resolveAddressAndTarget reader.patchVars.target symbolStr).map
        fun (patchTarget, patchAddress) =>
          { reader with place := .opened patchTarget patchAddress }
  | .single symbolStr patchValueStr =>
      (script.resolveAddressAndTarget reader.patchVars.target symbolStr).bind
        fun (patchTarget, patchAddress) =>
          (script.getPatchBin patchTarget patchAddress patchValueStr).bind
            (script.addPatchToPatchlist reader patchTarget patchAddress)

/-- The line that `fileLinesIter` gives next. A line behind a block is looked at once more. -/
def nextLine (reader : Reader) (line : Text) : Option Reader :=
  match reader.place with
  | .outside => script.readLine reader line
  | .opened patchTarget patchAddress =>
      (indent (uncommented line)).bind fun ident =>
        (script.getPatchBin patchTarget patchAddress (strip (uncommented line))).map
          fun patchContent =>
            { reader with place := .inside patchTarget patchAddress ident patchContent }
  | .inside patchTarget patchAddress ident patchContent =>
      if ident.isPrefixOf (uncommented line) then
        (script.getPatchBin patchTarget (patchAddress + patchContent.length)
          (strip (uncommented line))).map
          fun more =>
            { reader with place := .inside patchTarget patchAddress ident (patchContent ++ more) }
      else
        (script.addPatchToPatchlist reader patchTarget patchAddress patchContent).bind
          fun reader => script.readLine reader line

/-- `StopIteration` -/
def stopIteration (reader : Reader) : Option Reader :=
  match reader.place with
  | .outside => some reader
  | .opened patchTarget patchAddress =>
      script.addPatchToPatchlist reader patchTarget patchAddress []
  | .inside patchTarget patchAddress _ patchContent =>
      script.addPatchToPatchlist reader patchTarget patchAddress patchContent

/-- The lines that are left, up to the end of the file. -/
def readLines (reader : Reader) (lines : List Text) : Option (List (Text × Patch)) :=
  ((lines.foldlM script.nextLine reader).bind script.stopIteration).map Reader.patchList

def addPatchFromFile (patchList : List (Text × Patch)) (lines : List Text)
    : Option (List (Text × Patch)) :=
  script.readLines { patchList } lines

end GenPatch

-----------------------------------------------------------------------------------------
-- What the files say
-----------------------------------------------------------------------------------------

namespace GenPatch

variable (script : GenPatch)

/-- Lines are assembled one behind the other, each for the address where its octets come to lie. -/
inductive Assembled (target : Text) : Int → List Text → Bytes → Prop
  | nil (address : Int) : Assembled target address [] []
  | cons {address : Int} {line : Text} {rest : List Text} {octets later : Bytes}
    (here : script.getPatchBin target address (strip (uncommented line)) = some octets)
    (there : Assembled target (address + octets.length) rest later)
    : Assembled target address (line :: rest) (octets ++ later)

/-- A line of a block behind its first one. -/
def Indented (ident line : Text) : Prop := ident.isPrefixOf (uncommented line) = true

/-- The lines of a block, and what is behind it: the block goes on as long as the lines are indented
as its first one, and has none only at the end of the file.
-/
def IsBody (lines rest : List Text) : Prop :=
  match lines with
  | [] => rest = []
  | first :: more =>
      ∃ ident,
        indent (uncommented first) = some ident
        ∧ (∀ line ∈ more, Indented ident line)
        ∧ ∀ next ∈ rest.head?, ¬Indented ident next

/-- A file says these patches, under the variables that are set before it. -/
inductive Script : PatchVars → List Text → List (Text × Patch) → Prop
  | done (patchVars : PatchVars) : Script patchVars [] []
  | vars {patchVars : PatchVars} {line group : Text} {rest : List Text}
    {patches : List (Text × Patch)} (kind : script.lineKind patchVars line = .vars group)
    (later : Script (script.assignAll patchVars group) rest patches)
    : Script patchVars (line :: rest) patches
  | nothing {patchVars : PatchVars} {line : Text} {rest : List Text}
    {patches : List (Text × Patch)} (kind : script.lineKind patchVars line = .nothing)
    (later : Script patchVars rest patches)
    : Script patchVars (line :: rest) patches
  | single {patchVars : PatchVars} {line symbolStr patchValueStr target : Text} {address : Int}
    {octets : Bytes} {patch : Text × Patch} {rest : List Text} {patches : List (Text × Patch)}
    (kind : script.lineKind patchVars line = .single symbolStr patchValueStr)
    (resolved
      : script.resolveAddressAndTarget patchVars.target symbolStr = some (target, address))
    (value : script.getPatchBin target address patchValueStr = some octets)
    (placed : script.patchAt target address octets = some patch)
    (later : Script patchVars rest patches)
    : Script patchVars (line :: rest) (patch :: patches)
  | block {patchVars : PatchVars} {line symbolStr target : Text} {address : Int} {octets : Bytes}
    {patch : Text × Patch} {lines rest : List Text} {patches : List (Text × Patch)}
    (kind : script.lineKind patchVars line = .block symbolStr)
    (resolved
      : script.resolveAddressAndTarget patchVars.target symbolStr = some (target, address))
    (body : IsBody lines rest) (assembled : script.Assembled target address lines octets)
    (placed : script.patchAt target address octets = some patch)
    (later : Script patchVars rest patches)
    : Script patchVars (line :: (lines ++ rest)) (patch :: patches)

/-- What the lines that are left say, from where the lines have come to. -/
def Finishes (patchVars : PatchVars) (place : Place) (lines : List Text)
    (patches : List (Text × Patch))
    : Prop :=
  match place with
  | .outside => script.Script patchVars lines patches
  | .opened target address =>
      ∃ body rest octets patch later,
        lines = body ++ rest
        ∧ IsBody body rest
        ∧ script.Assembled target address body octets
        ∧ script.patchAt target address octets = some patch
        ∧ script.Script patchVars rest later
        ∧ patches = patch :: later
  | .inside target address ident octets =>
      ∃ more rest added patch later,
        lines = more ++ rest
        ∧ (∀ line ∈ more, Indented ident line)
        ∧ (∀ next ∈ rest.head?, ¬Indented ident next)
        ∧ script.Assembled target (address + octets.length) more added
        ∧ script.patchAt target address (octets ++ added) = some patch
        ∧ script.Script patchVars rest later
        ∧ patches = patch :: later

variable {script} {patchVars : PatchVars} {target : Text} {address : Int} {ident line : Text}
  {octets : Bytes} {rest : List Text} {patches : List (Text × Patch)}

theorem script_nil_iff : script.Script patchVars [] patches ↔ patches = [] := by
  constructor
  · rintro ⟨⟩
    rfl
  · rintro rfl
    exact .done patchVars

theorem finishes_opened_nil_iff
    : script.Finishes patchVars (.opened target address) [] patches
      ↔ ∃ patch, script.patchAt target address [] = some patch ∧ patches = [patch] := by
  constructor
  · rintro ⟨body, rest, octets, patch, later, lines, -, assembled, placed, none, rfl⟩
    obtain ⟨rfl, rfl⟩ := List.append_eq_nil_iff.mp lines.symm
    cases assembled
    obtain rfl := script_nil_iff.mp none
    exact ⟨patch, placed, rfl⟩
  · rintro ⟨patch, placed, rfl⟩
    exact ⟨[], [], [], patch, [], rfl, rfl, .nil address, placed, .done patchVars, rfl⟩

theorem finishes_inside_nil_iff
    : script.Finishes patchVars (.inside target address ident octets) [] patches
      ↔ ∃ patch, script.patchAt target address octets = some patch ∧ patches = [patch] := by
  constructor
  · rintro ⟨more, rest, added, patch, later, lines, -, -, assembled, placed, none, rfl⟩
    obtain ⟨rfl, rfl⟩ := List.append_eq_nil_iff.mp lines.symm
    cases assembled
    obtain rfl := script_nil_iff.mp none
    rw [List.append_nil] at placed
    exact ⟨patch, placed, rfl⟩
  · rintro ⟨patch, placed, rfl⟩
    refine ⟨[], [], [], patch, [], rfl, nofun, nofun, .nil _, ?_, .done patchVars, rfl⟩
    rwa [List.append_nil]

theorem finishes_opened_cons_iff
    : script.Finishes patchVars (.opened target address) (line :: rest) patches
      ↔ ∃ ident octets,
          indent (uncommented line) = some ident
          ∧ script.getPatchBin target address (strip (uncommented line)) = some octets
          ∧ script.Finishes patchVars (.inside target address ident octets) rest patches := by
  constructor
  · rintro ⟨body, behind, octets, patch, later, lines, isBody, assembled, placed, tail, rfl⟩
    cases body with
    | nil =>
        cases (isBody : behind = [])
        cases lines
    | cons first more =>
        obtain ⟨rfl, rfl⟩ := List.cons.inj lines
        obtain ⟨ident, indented, inside, ends⟩ := isBody
        cases assembled with
        | cons here there =>
            exact ⟨ident, _, indented, here, more, behind, _, patch, later, rfl, inside, ends,
              there, placed, tail, rfl⟩
  · rintro ⟨ident, octets, indented, here, more, behind, added, patch, later, rfl, inside, ends,
      assembled, placed, tail, rfl⟩
    exact ⟨line :: more, behind, octets ++ added, patch, later, rfl,
      ⟨ident, indented, inside, ends⟩, .cons here assembled, placed, tail, rfl⟩

theorem finishes_inside_cons_iff (indented : Indented ident line)
    : script.Finishes patchVars (.inside target address ident octets) (line :: rest) patches
      ↔ ∃ more,
          script.getPatchBin target (address + octets.length) (strip (uncommented line)) = some more
          ∧ script.Finishes patchVars (.inside target address ident (octets ++ more)) rest
            patches := by
  constructor
  · rintro ⟨inside, behind, added, patch, later, lines, all, ends, assembled, placed, tail, rfl⟩
    cases inside with
    | nil =>
        cases (lines : line :: rest = behind)
        exact absurd indented (ends line rfl)
    | cons first more =>
        obtain ⟨rfl, rfl⟩ := List.cons.inj lines
        cases assembled with
        | @cons _ _ _ part added here there =>
            refine ⟨part, here, more, behind, added, patch, later, rfl,
              fun line member => all line (List.mem_cons_of_mem _ member), ends, ?_, ?_, tail, rfl⟩
            · rwa [List.length_append, Int.natCast_add, ← Int.add_assoc]
            · rwa [List.append_assoc]
  · rintro ⟨part, here, more, behind, added, patch, later, rfl, all, ends, assembled, placed, tail,
      rfl⟩
    rw [List.length_append, Int.natCast_add, ← Int.add_assoc] at assembled
    rw [List.append_assoc] at placed
    exact ⟨line :: more, behind, part ++ added, patch, later, rfl,
      List.forall_mem_cons.mpr ⟨indented, all⟩, ends, .cons here assembled, placed, tail, rfl⟩

theorem finishes_inside_end_iff (ends : ¬Indented ident line)
    : script.Finishes patchVars (.inside target address ident octets) (line :: rest) patches
      ↔ ∃ patch later,
          script.patchAt target address octets = some patch
          ∧ script.Script patchVars (line :: rest) later
          ∧ patches = patch :: later := by
  constructor
  · rintro ⟨inside, behind, added, patch, later, lines, all, -, assembled, placed, tail, rfl⟩
    cases inside with
    | nil =>
        cases (lines : line :: rest = behind)
        cases assembled
        rw [List.append_nil] at placed
        exact ⟨patch, later, placed, tail, rfl⟩
    | cons first more =>
        obtain ⟨rfl, -⟩ := List.cons.inj lines
        exact absurd (all line List.mem_cons_self) ends
  · rintro ⟨patch, later, placed, tail, rfl⟩
    refine ⟨[], line :: rest, [], patch, later, rfl, nofun, ?_, .nil _, ?_, tail, rfl⟩
    · rintro next ⟨⟩
      exact ends
    · rwa [List.append_nil]

/-- What a file says from a line between patches on. -/
theorem script_cons_iff
    : script.Script patchVars (line :: rest) patches
      ↔ match script.lineKind patchVars line with
        | .vars group => script.Script (script.assignAll patchVars group) rest patches
        | .nothing => script.Script patchVars rest patches
        | .single symbolStr patchValueStr =>
            ∃ target address octets patch later,
              script.resolveAddressAndTarget patchVars.target symbolStr = some (target, address)
              ∧ script.getPatchBin target address patchValueStr = some octets
              ∧ script.patchAt target address octets = some patch
              ∧ script.Script patchVars rest later
              ∧ patches = patch :: later
        | .block symbolStr =>
            ∃ target address,
              script.resolveAddressAndTarget patchVars.target symbolStr = some (target, address)
              ∧ script.Finishes patchVars (.opened target address) rest patches := by
  constructor
  · intro said
    cases said with
    | vars kind later => simpa only [kind] using later
    | nothing kind later => simpa only [kind] using later
    | single kind resolved value placed later =>
        simp only [kind]
        exact ⟨_, _, _, _, _, resolved, value, placed, later, rfl⟩
    | block kind resolved body assembled placed later =>
        simp only [kind]
        exact ⟨_, _, resolved, _, _, _, _, _, rfl, body, assembled, placed, later, rfl⟩
  · intro rest_said
    cases kind : script.lineKind patchVars line with
    | vars group =>
        simp only [kind] at rest_said
        exact .vars kind rest_said
    | nothing =>
        simp only [kind] at rest_said
        exact .nothing kind rest_said
    | single symbolStr patchValueStr =>
        simp only [kind] at rest_said
        obtain ⟨target, address, octets, patch, later, resolved, value, placed, tail, rfl⟩ :=
          rest_said
        exact .single kind resolved value placed tail
    | block symbolStr =>
        simp only [kind] at rest_said
        obtain ⟨target, address, resolved, body, behind, octets, patch, later, rfl, isBody,
          assembled, placed, tail, rfl⟩ := rest_said
        exact .block kind resolved isBody assembled placed tail

variable {reader : Reader} {all : List (Text × Patch)}

theorem readLines_nil_iff
    : script.readLines reader [] = some all
      ↔ ∃ last, script.stopIteration reader = some last ∧ last.patchList = all := by
  simp [readLines]

theorem readLines_cons_iff
    : script.readLines reader (line :: rest) = some all
      ↔ ∃ next, script.nextLine reader line = some next
          ∧ script.readLines next rest = some all := by
  cases taken : script.nextLine reader line <;> simp [readLines, taken]

theorem addPatchToPatchlist_eq_some_iff {next : Reader}
    : script.addPatchToPatchlist reader target address octets = some next
      ↔ ∃ patch, script.patchAt target address octets = some patch
          ∧ { reader with place := .outside, patchList := reader.patchList ++ [patch] } = next :=
  Option.map_eq_some_iff

/-- The last patch of a file. -/
theorem addPatchToPatchlist_last_iff
    : (∃ last, script.addPatchToPatchlist reader target address octets = some last
        ∧ last.patchList = all)
      ↔ ∃ patches, all = reader.patchList ++ patches
          ∧ ∃ patch, script.patchAt target address octets = some patch ∧ patches = [patch] := by
  simp only [addPatchToPatchlist_eq_some_iff]
  constructor
  · rintro ⟨_, ⟨patch, placed, rfl⟩, rfl⟩
    exact ⟨[patch], rfl, patch, placed, rfl⟩
  · rintro ⟨_, rfl, patch, placed, rfl⟩
    exact ⟨_, ⟨patch, placed, rfl⟩, rfl⟩

/-- What `readLines` adds is what the lines say, from every place. -/
def Reads (script : GenPatch) (lines : List Text) : Prop :=
  ∀ patchVars place earlier all,
    script.readLines { patchVars, place, patchList := earlier } lines = some all
    ↔ ∃ patches, all = earlier ++ patches ∧ script.Finishes patchVars place lines patches

theorem reads_nil : Reads script [] := by
  intro patchVars place earlier all
  rw [readLines_nil_iff]
  cases place with
  | outside => simp [stopIteration, Finishes, script_nil_iff, eq_comm]
  | opened target address =>
      simp only [finishes_opened_nil_iff]
      exact addPatchToPatchlist_last_iff
  | inside target address ident octets =>
      simp only [finishes_inside_nil_iff]
      exact addPatchToPatchlist_last_iff

/-- A line between patches. -/
theorem reads_outside (reads : Reads script rest) (patchVars : PatchVars)
    (earlier all : List (Text × Patch))
    : script.readLines { patchVars, patchList := earlier } (line :: rest) = some all
      ↔ ∃ patches, all = earlier ++ patches ∧ script.Script patchVars (line :: rest) patches := by
  simp only [readLines_cons_iff, nextLine, readLine, script_cons_iff]
  cases kind : script.lineKind patchVars line with
  | vars group =>
      simp only [Option.some_inj, exists_eq_left']
      exact reads _ .outside _ _
  | nothing =>
      simp only [Option.some_inj, exists_eq_left']
      exact reads _ .outside _ _
  | block symbolStr =>
      simp only [Option.map_eq_some_iff]
      constructor
      · rintro ⟨_, ⟨⟨target, address⟩, resolved, rfl⟩, said⟩
        obtain ⟨patches, rfl, finishes⟩ := (reads _ _ _ _).mp said
        exact ⟨patches, rfl, target, address, resolved, finishes⟩
      · rintro ⟨patches, rfl, target, address, resolved, finishes⟩
        exact ⟨_, ⟨(target, address), resolved, rfl⟩, (reads _ _ _ _).mpr ⟨patches, rfl, finishes⟩⟩
  | single symbolStr patchValueStr =>
      simp only [Option.bind_eq_some_iff, addPatchToPatchlist_eq_some_iff]
      constructor
      · rintro ⟨_, ⟨⟨target, address⟩, resolved, octets, value, patch, placed, rfl⟩, said⟩
        obtain ⟨patches, rfl, later⟩ := (reads _ _ _ _).mp said
        exact ⟨patch :: patches, by simp, target, address, octets, patch, patches, resolved, value,
          placed, later, rfl⟩
      · rintro ⟨_, rfl, target, address, octets, patch, patches, resolved, value, placed, later,
          rfl⟩
        exact ⟨_, ⟨(target, address), resolved, octets, value, patch, placed, rfl⟩,
          (reads _ .outside _ _).mpr ⟨patches, by simp, later⟩⟩

/-- The first line of a block, or a line behind it. -/
theorem reads_cons (reads : Reads script rest) : Reads script (line :: rest) := by
  intro patchVars place earlier all
  cases place with
  | outside => exact reads_outside reads patchVars earlier all
  | opened target address =>
      simp only [readLines_cons_iff, nextLine, finishes_opened_cons_iff, Option.bind_eq_some_iff,
        Option.map_eq_some_iff]
      constructor
      · rintro ⟨_, ⟨ident, indented, octets, here, rfl⟩, said⟩
        obtain ⟨patches, rfl, finishes⟩ := (reads _ _ _ _).mp said
        exact ⟨patches, rfl, ident, octets, indented, here, finishes⟩
      · rintro ⟨patches, rfl, ident, octets, indented, here, finishes⟩
        exact ⟨_, ⟨ident, indented, octets, here, rfl⟩,
          (reads _ _ _ _).mpr ⟨patches, rfl, finishes⟩⟩
  | inside target address ident octets =>
      by_cases indented : Indented ident line
      · simp only [readLines_cons_iff, nextLine, finishes_inside_cons_iff indented,
          if_pos (show ident.isPrefixOf (uncommented line) = true from indented),
          Option.map_eq_some_iff]
        constructor
        · rintro ⟨_, ⟨more, here, rfl⟩, said⟩
          obtain ⟨patches, rfl, finishes⟩ := (reads _ _ _ _).mp said
          exact ⟨patches, rfl, more, here, finishes⟩
        · rintro ⟨patches, rfl, more, here, finishes⟩
          exact ⟨_, ⟨more, here, rfl⟩, (reads _ _ _ _).mpr ⟨patches, rfl, finishes⟩⟩
      · simp only [readLines_cons_iff, nextLine, finishes_inside_end_iff indented,
          if_neg (show ¬ident.isPrefixOf (uncommented line) = true from indented),
          Option.bind_eq_some_iff, addPatchToPatchlist_eq_some_iff]
        constructor
        · rintro ⟨next, ⟨_, ⟨patch, placed, rfl⟩, taken⟩, said⟩
          obtain ⟨patches, rfl, tail⟩ := (reads_outside reads patchVars _ _).mp
            (readLines_cons_iff.mpr ⟨next, taken, said⟩)
          exact ⟨patch :: patches, by simp, patch, patches, placed, tail, rfl⟩
        · rintro ⟨_, rfl, patch, patches, placed, tail, rfl⟩
          obtain ⟨next, taken, said⟩ := readLines_cons_iff.mp
            ((reads_outside reads patchVars (earlier ++ [patch]) _).mpr ⟨patches, rfl, tail⟩)
          exact ⟨next, ⟨_, ⟨patch, placed, rfl⟩, taken⟩, by simpa using said⟩

theorem reads (script : GenPatch) (lines : List Text) : Reads script lines := by
  induction lines with
  | nil => exact reads_nil
  | cons line rest ih => exact reads_cons ih

/-- A file adds exactly the patches that it says, in their order. -/
theorem addPatchFromFile_eq_some_iff (script : GenPatch) (patchList : List (Text × Patch))
    (lines : List Text) (all : List (Text × Patch))
    : script.addPatchFromFile patchList lines = some all
      ↔ ∃ patches, all = patchList ++ patches ∧ script.Script {} lines patches :=
  reads script lines {} .outside patchList all

end GenPatch

-----------------------------------------------------------------------------------------
-- The file that is written
-----------------------------------------------------------------------------------------

/-- `bytes("IPS32", 'ASCII')` -/
def ipsHeaderMagic : Bytes := [0x49, 0x50, 0x53, 0x33, 0x32]

/-- `bytes("EEOF", 'ASCII')` -/
def ipsEofMagic : Bytes := [0x45, 0x45, 0x4f, 0x46]

/-- `struct.pack`, the highest octet first, of a number that fits. -/
def pack (width : Nat) (number : Int) : Option Bytes :=
  if 0 ≤ number ∧ number.toNat < 256 ^ width then some (leBytes width number.toNat).reverse
  else none

def ipsRecord (patch : Patch) : Option Bytes :=
  (pack 4 patch.offset).bind fun offset =>
    (pack 2 patch.content.length).map fun length => offset ++ length ++ patch.content

/-- What is written behind the header. -/
def ipsRecords : List Patch → Option Bytes
  | [] => some ipsEofMagic
  | patch :: rest =>
      (ipsRecord patch).bind fun octets => (ipsRecords rest).map fun later => octets ++ later

def ipsFile (patches : List Patch) : Option Bytes :=
  (ipsRecords patches).map fun octets => ipsHeaderMagic ++ octets

/-- The keys of `patchList`, in the order in which they came. -/
def nsos (patchList : List (Text × Patch)) : List Text :=
  patchList.foldl (fun nsos patch => if nsos.contains patch.1 then nsos else nsos ++ [patch.1]) []

/-- `patchList[nso]` -/
def patchesOf (patchList : List (Text × Patch)) (nso : Text) : List Patch :=
  (patchList.filter fun patch => patch.1 = nso).map Prod.snd

namespace GenPatch

variable (script : GenPatch)

/-- What stands at `ipsOutPath` in the end, to which all targets are written. -/
def writeFiles (patchList : List (Text × Patch)) : Option (Option Bytes) :=
  (nsos patchList).foldlM (fun _ nso => (ipsFile (patchesOf patchList nso)).map some) none

/-- The script, with the files of its directory in the order in which they are listed. -/
def runScript (files : List (List Text)) : Option (Option Bytes) :=
  (files.foldlM script.addPatchFromFile []).bind writeFiles

end GenPatch

theorem pack_eq_some_iff {width : Nat} {number : Int} {octets : Bytes}
    : pack width number = some octets
      ↔ 0 ≤ number ∧ number.toNat < 256 ^ width
        ∧ (leBytes width number.toNat).reverse = octets := by
  unfold pack
  split
  next fits => simp [fits.1, fits.2]
  next wide => exact iff_of_false nofun fun ⟨nonneg, small, _⟩ => wide ⟨nonneg, small⟩

/-- A number is known by its octets. -/
theorem pack_injective {width : Nat} {first second : Int} {octets : Bytes}
    (first_packed : pack width first = some octets)
    (second_packed : pack width second = some octets)
    : first = second := by
  obtain ⟨first_nonneg, first_small, first_octets⟩ := pack_eq_some_iff.mp first_packed
  obtain ⟨second_nonneg, second_small, second_octets⟩ := pack_eq_some_iff.mp second_packed
  have same := List.reverse_injective (first_octets.trans second_octets.symm)
  have values := congrArg leValue same
  rw [leValue_leBytes_of_lt first_small, leValue_leBytes_of_lt second_small] at values
  omega

theorem length_of_pack {width : Nat} {number : Int} {octets : Bytes}
    (packed : pack width number = some octets)
    : octets.length = width := by
  obtain ⟨-, -, rfl⟩ := pack_eq_some_iff.mp packed
  simp

theorem ipsRecords_cons_eq_some_iff {patch : Patch} {rest : List Patch} {octets : Bytes}
    : ipsRecords (patch :: rest) = some octets
      ↔ ∃ offset length later,
          pack 4 patch.offset = some offset
          ∧ pack 2 patch.content.length = some length
          ∧ ipsRecords rest = some later
          ∧ octets = offset ++ (length ++ (patch.content ++ later)) := by
  simp only [ipsRecords, ipsRecord, Option.bind_eq_some_iff, Option.map_eq_some_iff]
  constructor
  · rintro ⟨_, ⟨offset, packed, length, sized, rfl⟩, later, written, rfl⟩
    exact ⟨offset, length, later, packed, sized, written, by simp⟩
  · rintro ⟨offset, length, later, packed, sized, written, rfl⟩
    exact ⟨_, ⟨offset, packed, length, sized, rfl⟩, later, written, by simp⟩

/-- One record more makes more than the end alone. -/
theorem length_lt_of_record {patch : Patch} {rest : List Patch} {octets : Bytes}
    (written : ipsRecords (patch :: rest) = some octets)
    : ipsEofMagic.length < octets.length := by
  obtain ⟨offset, length, later, packed, sized, -, rfl⟩ := ipsRecords_cons_eq_some_iff.mp written
  have four := length_of_pack packed
  have two := length_of_pack sized
  simp only [List.length_append, ipsEofMagic, List.length_cons, List.length_nil]
  omega

/-- Records are known by what is written of them, by induction on both lists: a record and the end
alone are of different lengths, and of two records the numbers say where they end.
-/
theorem ipsRecords_injective {first second : List Patch} {octets : Bytes}
    (first_written : ipsRecords first = some octets)
    (second_written : ipsRecords second = some octets)
    : first = second := by
  induction first generalizing second octets with
  | nil =>
      cases second with
      | nil => rfl
      | cons patch rest =>
          cases first_written
          exact absurd (length_lt_of_record second_written) (Nat.lt_irrefl _)
  | cons patch rest ih =>
      cases second with
      | nil =>
          cases second_written
          exact absurd (length_lt_of_record first_written) (Nat.lt_irrefl _)
      | cons other others =>
          obtain ⟨offset, length, later, packed, sized, written, rfl⟩ :=
            ipsRecords_cons_eq_some_iff.mp first_written
          obtain ⟨offset', length', later', packed', sized', written', same⟩ :=
            ipsRecords_cons_eq_some_iff.mp second_written
          obtain ⟨offset_same, behind⟩ :=
            List.append_inj same ((length_of_pack packed).trans (length_of_pack packed').symm)
          obtain ⟨length_same, contents⟩ :=
            List.append_inj behind ((length_of_pack sized).trans (length_of_pack sized').symm)
          have lengths : patch.content.length = other.content.length :=
            Int.ofNat_inj.mp (pack_injective sized (length_same ▸ sized'))
          obtain ⟨content, rfl⟩ := List.append_inj contents lengths
          have offsets := pack_injective packed (offset_same ▸ packed')
          rw [ih written written']
          cases patch
          cases other
          cases offsets
          cases content
          rfl

theorem ipsFile_injective {first second : List Patch} {octets : Bytes}
    (first_written : ipsFile first = some octets) (second_written : ipsFile second = some octets)
    : first = second := by
  obtain ⟨records, first_records, rfl⟩ := Option.map_eq_some_iff.mp first_written
  obtain ⟨others, second_records, same⟩ := Option.map_eq_some_iff.mp second_written
  obtain rfl := List.append_cancel_left same
  exact ipsRecords_injective first_records second_records

-----------------------------------------------------------------------------------------
-- The whole script
-----------------------------------------------------------------------------------------

/-- The targets are those of the patches. -/
theorem mem_nsos {patchList : List (Text × Patch)} {nso : Text}
    : nso ∈ nsos patchList ↔ ∃ patch ∈ patchList, patch.1 = nso := by
  have each (nsos : List Text)
      : nso ∈ patchList.foldl
            (fun nsos patch => if nsos.contains patch.1 then nsos else nsos ++ [patch.1]) nsos
        ↔ nso ∈ nsos ∨ ∃ patch ∈ patchList, patch.1 = nso := by
    induction patchList generalizing nsos with
    | nil => simp
    | cons patch rest ih =>
        rw [List.foldl_cons, ih]
        split
        next known =>
          constructor
          · rintro (found | ⟨other, member, same⟩)
            · exact .inl found
            · exact .inr ⟨other, List.mem_cons_of_mem _ member, same⟩
          · rintro (found | ⟨other, member, rfl⟩)
            · exact .inl found
            · rcases List.mem_cons.mp member with rfl | later
              · exact .inl (List.contains_iff_mem.mp known)
              · exact .inr ⟨other, later, rfl⟩
        next => simp [eq_comm, or_assoc]
  exact (each []).trans (by simp)

/-- What was written last stays. -/
theorem writeFiles_eq_some {patchList : List (Text × Patch)} {file : Bytes}
    (written : GenPatch.writeFiles patchList = some (some file))
    : ∃ nso, (nsos patchList).getLast? = some nso
        ∧ ipsFile (patchesOf patchList nso) = some file := by
  rw [GenPatch.writeFiles] at written
  rcases List.eq_nil_or_concat (nsos patchList) with none | ⟨earlier, nso, split⟩
  · rw [none] at written
    cases written
  · rw [split, List.concat_eq_append] at written ⊢
    refine ⟨nso, by simp, ?_⟩
    rw [List.foldlM_append] at written
    obtain ⟨before, -, last⟩ := Option.bind_eq_some_iff.mp written
    simpa using last

/-- The patches of a target are all that there are exactly where there is no other target. -/
theorem patchesOf_eq_iff {patchList : List (Text × Patch)} {nso : Text}
    : patchesOf patchList nso = patchList.map Prod.snd ↔ ∀ patch ∈ patchList, patch.1 = nso := by
  constructor
  · intro same
    have lengths := congrArg List.length same
    rw [patchesOf, List.length_map, List.length_map] at lengths
    have all := List.length_filter_eq_length_iff.mp lengths
    exact fun patch member => of_decide_eq_true (all patch member)
  · intro all
    rw [patchesOf, List.filter_eq_self.mpr fun patch member => decide_eq_true (all patch member)]

namespace GenPatch

variable {script : GenPatch} {files : List (List Text)}

/-- The files are read one behind the other, by induction on them. -/
theorem readFiles_eq_some {patchList all : List (Text × Patch)}
    (read : files.foldlM script.addPatchFromFile patchList = some all)
    : ∃ patches, List.Forall₂ (script.Script {}) files patches
        ∧ all = patchList ++ patches.flatten := by
  induction files generalizing patchList with
  | nil =>
      cases read
      exact ⟨[], .nil, by simp⟩
  | cons file rest ih =>
      rw [List.foldlM_cons] at read
      obtain ⟨next, first, later⟩ := Option.bind_eq_some_iff.mp read
      obtain ⟨said, rfl, script_said⟩ := (reads script file {} .outside _ _).mp first
      obtain ⟨patches, each, rfl⟩ := ih later
      exact ⟨said :: patches, .cons script_said each, by simp⟩

/-- The file that is left holds the patches of one target, in the order in which the files say them,
and those of no other: all that they say if and only if they are all for one target.
-/
theorem runScript_eq_some {file : Bytes} (ran : script.runScript files = some (some file))
    : ∃ patches nso,
        List.Forall₂ (script.Script {}) files patches
        ∧ (∀ held, ipsFile held = some file ↔ held = patchesOf patches.flatten nso)
        ∧ (ipsFile (patches.flatten.map Prod.snd) = some file
          ↔ ∀ first ∈ patches.flatten, ∀ second ∈ patches.flatten, first.1 = second.1) := by
  obtain ⟨all, read, written⟩ := Option.bind_eq_some_iff.mp ran
  obtain ⟨patches, each, rfl⟩ := readFiles_eq_some read
  obtain ⟨nso, last, ips⟩ := writeFiles_eq_some written
  rw [List.nil_append] at last ips
  have held_iff (held : List Patch)
      : ipsFile held = some file ↔ held = patchesOf patches.flatten nso :=
    ⟨fun other => ipsFile_injective other ips, fun same => same ▸ ips⟩
  refine ⟨patches, nso, each, held_iff, ?_⟩
  rw [held_iff, eq_comm, patchesOf_eq_iff]
  constructor
  · intro all first first_member second second_member
    rw [all first first_member, all second second_member]
  · obtain ⟨patch, member, rfl⟩ := mem_nsos.mp (List.mem_of_getLast? last)
    exact fun same other other_member => same other other_member patch member

/-- A number in hexadecimal digits. -/
def hexadecimal (text : Text) : Option Nat :=
  if text = [] then none
  else
    text.foldlM
      (fun number char =>
        if char.isDigit then some (16 * number + (char.toNat - '0'.toNat))
        else if 'A' ≤ char ∧ char ≤ 'F' then some (16 * number + (char.toNat - 'A'.toNat + 10))
        else none)
      0

/-- Octets in pairs of hexadecimal digits. -/
def hexadecimals : Text → Option Bytes
  | high :: low :: rest =>
      (hexadecimal [high, low]).bind fun octet =>
        (hexadecimals rest).map fun octets => UInt8.ofNat octet :: octets
  | [] => some []
  | [_] => none

/-- Where a text is in another one. -/
def position (needle : Text) : Text → Option Nat
  | [] => if needle = [] then some 0 else none
  | char :: rest =>
      if needle.isPrefixOf (char :: rest) then some 0 else (position needle rest).map (· + 1)

/-- A script that knows addresses, octets and one symbol. -/
def numbersOnly : GenPatch where
  buildVersion := "100".toList
  nsoLoadAddr :=
    [("main".toList, "0".toList), ("sdk".toList, "1000".toList), ("subsdk1".toList, "800".toList)]
  mapFile :=
    [("main".toList,
      "Address  Publics by Value\n00000000:0000007100000028  control\n".toList)]
  slMapFile := []
  search regexStr text :=
    (position regexStr text).map fun start => (start, start + regexStr.length)
  isWord := Char.isAlphanum
  int16 text := (hexadecimal text).map Int.ofNat
  fromhex := hexadecimals
  stringPatch _ := none
  branch _ := none
  hex _ := []
  asm _ := none

def patchFiles : List (List Text) := [
  ["[version=100, target=main]\n".toList, "20:\n".toList, "  1F20 // here\n".toList,
    "  03D5\n".toList, "control+4 1F20\n".toList, "[target=sdk]\n".toList,
    "8 C003\n".toList]]

/-- Of two targets the second one's patch is left. -/
theorem runScript_eq_some_two_targets
    : ∃ file patches nso,
        numbersOnly.runScript patchFiles = some (some file)
        ∧ List.Forall₂ (numbersOnly.Script {}) patchFiles patches
        ∧ patchesOf patches.flatten nso = [{ offset := 0x108, content := [0xc0, 0x03] }] := by
  have ran
      : numbersOnly.runScript patchFiles
        = some (ipsFile [{ offset := 0x108, content := [0xc0, 0x03] }]) := by
    decide +kernel
  obtain ⟨patches, nso, each, held_iff, -⟩ := runScript_eq_some ran
  exact ⟨_, patches, nso, ran, each, ((held_iff _).mp rfl).symm⟩

end GenPatch

end SmoOnline.Build
