import SmoOnline.Library.Utf8

/-! `CommandHandler.GetResult`: a line is split at its spaces, and the pieces from one that starts
with a quote up to one that ends with a quote are put together again.
-/

namespace SmoOnline

open Utf8

namespace CommandHandler

/-- What a line is answered with: what a handler returns, or a text of `GetResult` itself. -/
inductive Reply (Response : Type)
  | response (response : Response)
  /-- "No command entered, see help command for valid commands" -/
  | noCommand
  /-- "Unmatching quotes, make sure that whenever quotes are used, another quote is present to
  close it (no action was performed)." -/
  | unmatchingQuotes
  /-- "Invalid command .., see help command for valid commands" -/
  | invalidCommand (name : Text)
  /-- "An error occured while trying to process your command: .." -/
  | errorOccured
  deriving DecidableEq, Repr

/-- The reply to a line, and the name and the arguments of the handler that was called. -/
structure Outcome (Response : Type) where
  reply : Reply Response
  called : Option (Text × List Text) := none
  deriving DecidableEq, Repr

/-- `Handlers`, by their names; a handler may throw. -/
abbrev Handlers (Response : Type) := Text → Option (List Text → Option Response)

def quote : Char := '"'

/-- How the loops over the pieces end. -/
inductive ParseEnd
  | parsed (newArgs : List Text)
  | unmatchingQuotes
  | throws
  deriving DecidableEq, Repr

/-- The string builder of the inner loop, which a piece that starts with a quote begins. -/
def openQuote (piece : Text) : Option Text := if piece.head? = some quote then some [] else none

/-- The loops over the pieces from index `i` on, with the string builder while the inner one runs.
The inner loop appends the piece at `i` before it compares `i` with the number of pieces.
-/
def parseArgs (length : Nat) : Nat → Option Text → List Text → List Text → ParseEnd
  | _, none, newArgs, [] => .parsed newArgs
  -- `args[i]` behind the last piece
  | _, some _, _, [] => .throws
  | i, builder, newArgs, piece :: pieces =>
      match builder <|> openQuote piece with
      | none =>
          parseArgs length (i + 1) none (if piece = [] then newArgs else newArgs ++ [piece]) pieces
      | some sb =>
          let sb := sb ++ piece ++ [' ']
          if length ≤ i then .unmatchingQuotes
          else
            match piece.getLast? with
            -- `args[i][^1]` of an empty piece
            | none => .throws
            | some last =>
                if last ≠ quote then parseArgs length (i + 1) (some sb) newArgs pieces
                -- `sb.ToString(1, sb.Length - 3)` of less than three characters
                else if sb.length < 3 then .throws
                else
                  parseArgs length (i + 1) none
                    (newArgs ++ [(sb.drop 1).take (sb.length - 3)]) pieces

/-- `input.Split(' ')` and the loops. -/
def parse (input : Text) : ParseEnd :=
  match input.splitOn ' ' with
  | [] => .parsed []
  | name :: pieces => parseArgs (pieces.length + 1) 1 none [name] pieces

variable {Response : Type}

/-- `Handlers.TryGetValue` and the call of the handler. -/
def call (handlers : Handlers Response) (name : Text) (args : List Text) : Outcome Response :=
  match handlers name with
  | none => { reply := .invalidCommand name }
  | some handler =>
      {
        reply := (handler args).elim .errorOccured .response
        called := some (name, args)
      }

def getResult (handlers : Handlers Response) (input : Text) : Outcome Response :=
  match parse input with
  | .parsed [] => { reply := .noCommand }
  | .parsed (name :: args) => call handlers name args
  | .unmatchingQuotes => { reply := .unmatchingQuotes }
  | .throws => { reply := .errorOccured }

-----------------------------------------------------------------------------------------
-- Lines with quotes
-----------------------------------------------------------------------------------------

/-- An argument in quotes. -/
def quoted (arg : Text) : Text := quote :: (arg ++ [quote])

/-- The name of a command and its arguments in quotes, with spaces between them. -/
def commandLine (name : Text) (args : List Text) : Text :=
  name ++ args.flatMap fun arg => ' ' :: quoted arg

/-- The line calls the handler of the name with the arguments that were put in quotes. -/
def RoundTrips (handlers : Handlers Response) (name : Text) (args : List Text) : Prop :=
  getResult handlers (commandLine name args) = call handlers name args

/-- No space in front, and no two spaces in a row. -/
def SingleSpaced (arg : Text) : Prop := ¬[' '] <+: arg ∧ ¬[' ', ' '] <:+: arg

/-- Whether a quote is left open behind the pieces: a piece that starts with one opens it, and a
piece that ends with another one closes it.
-/
def leavesOpen : Bool → List Text → Bool
  | inside, [] => inside
  | true, piece :: pieces => leavesOpen (piece.getLast? ≠ some quote) pieces
  | false, piece :: pieces =>
      leavesOpen (piece.head? = some quote
        ∧ ¬(2 ≤ piece.length ∧ piece.getLast? = some quote)) pieces

/-- A quote that opens an argument of the line is not closed. -/
def Unterminated (input : Text) : Prop := leavesOpen false (input.splitOn ' ').tail = true

instance (input : Text) : Decidable (Unterminated input) := inferInstanceAs (Decidable (_ = true))

/-- A line with an unterminated quote is answered with that, and runs no handler. -/
def QuotesAnswered (handlers : Handlers Response) (input : Text) : Prop :=
  Unterminated input → getResult handlers input = { reply := .unmatchingQuotes }

-----------------------------------------------------------------------------------------
-- What the loops do with a piece
-----------------------------------------------------------------------------------------

section Pieces

variable {length i : Nat} {sb piece : Text} {newArgs pieces rest : List Text}

theorem parseArgs_opens (starts : piece.head? = some quote)
    : parseArgs length i none newArgs (piece :: pieces)
      = parseArgs length i (some []) newArgs (piece :: pieces) := by
  simp [parseArgs, openQuote, starts]

/-- The body of the inner loop, at an index that is in bounds. -/
theorem parseArgs_some (inside : i < length)
    : parseArgs length i (some sb) newArgs (piece :: pieces)
      = match piece.getLast? with
        | none => .throws
        | some last =>
            if last ≠ quote then
              parseArgs length (i + 1) (some (sb ++ piece ++ [' '])) newArgs pieces
            else if (sb ++ piece ++ [' ']).length < 3 then .throws
            else
              parseArgs length (i + 1) none
                (newArgs
                  ++ [((sb ++ piece ++ [' ']).drop 1).take ((sb ++ piece ++ [' ']).length - 3)])
                pieces :=
  if_neg (Nat.not_le.mpr inside)

theorem parseArgs_goesOn {last : Char} (inside : i < length) (ends : piece.getLast? = some last)
    (other : last ≠ quote)
    : parseArgs length i (some sb) newArgs (piece :: pieces)
      = parseArgs length (i + 1) (some (sb ++ piece ++ [' '])) newArgs pieces := by
  simp only [parseArgs_some inside, ends]
  rw [if_pos other]

theorem parseArgs_closes (inside : i < length) (begun : 1 ≤ (sb ++ piece).length)
    : parseArgs length i (some sb) newArgs ((piece ++ [quote]) :: pieces)
      = parseArgs length (i + 1) none (newArgs ++ [(sb ++ piece).drop 1]) pieces := by
  have whole : sb ++ (piece ++ [quote]) ++ [' '] = (sb ++ piece) ++ [quote, ' '] := by simp
  have size : ((sb ++ piece) ++ [quote, ' ']).length = (sb ++ piece).length + 2 :=
    List.length_append
  have argument
      : (((sb ++ piece) ++ [quote, ' ']).drop 1).take ((sb ++ piece).length + 2 - 3)
        = (sb ++ piece).drop 1 := by
    rw [List.drop_append_of_le_length begun, List.take_append_of_le_length (by simp),
      List.take_of_length_le (by simp)]
  simp only [parseArgs_some inside, List.getLast?_concat, whole, size]
  rw [if_neg (by simp), if_neg (by omega), argument]

theorem parseArgs_empty (inside : i < length)
    : parseArgs length i (some sb) newArgs ([] :: pieces) = .throws := by
  simp only [parseArgs_some inside, List.getLast?_nil]

/-- A piece that is a quote by itself is taken for one that ends the argument it begins. -/
theorem parseArgs_lone (inside : i < length) (ends : piece.getLast? = some quote)
    (lone : (sb ++ piece).length = 1)
    : parseArgs length i (some sb) newArgs (piece :: pieces) = .throws := by
  simp only [parseArgs_some inside, ends, List.length_append, List.length_append.symm.trans lone]
  rw [if_neg (by simp), if_pos (by decide)]

/-- A piece with a space behind it, inside of an argument: it must not be empty or end with a quote,
be it the one that begins the argument.
-/
theorem parseArgs_front (inside : i < length)
    (lone : piece.getLast? = some quote → (sb ++ piece).length = 1)
    : parseArgs length i (some sb) newArgs (piece :: pieces)
      = if piece = [] ∨ piece.getLast? = some quote then .throws
        else parseArgs length (i + 1) (some (sb ++ piece ++ [' '])) newArgs pieces := by
  cases ends : piece.getLast? with
  | none =>
      obtain rfl := List.getLast?_eq_none_iff.mp ends
      rw [if_pos (.inl rfl)]
      exact parseArgs_empty inside
  | some last =>
      by_cases closing : last = quote
      · subst closing
        rw [if_pos (.inr rfl)]
        exact parseArgs_lone inside ends (lone ends)
      · have some : piece ≠ [] := by
          rintro rfl
          cases ends
        rw [if_neg (by simp [some, closing])]
        exact parseArgs_goesOn inside ends closing

end Pieces

-----------------------------------------------------------------------------------------
-- Arguments in quotes
-----------------------------------------------------------------------------------------

/-- No two spaces in a row, and none in front where a space is before the text. -/
def spacedOut : Bool → Text → Bool
  | _, [] => true
  | behind, char :: text =>
      if char = ' ' then !behind && spacedOut true text else spacedOut false text

theorem spacedOut_iff (text : Text)
    : (spacedOut false text = true ↔ ¬[' ', ' '] <:+: text)
      ∧ (spacedOut true text = true ↔ SingleSpaced text) := by
  induction text with
  | nil => simp [spacedOut, SingleSpaced]
  | cons char text ih =>
      rw [SingleSpaced] at ih ⊢
      simp only [spacedOut, List.infix_cons_iff, List.cons_prefix_cons, List.nil_prefix, and_true]
      by_cases space : char = ' '
      · subst space
        simp only [if_true, ih.2, Bool.not_false, Bool.true_and, Bool.not_true, Bool.false_and,
          true_and, not_or, Bool.false_eq_true, not_true_eq_false, false_and, iff_self]
      · simp [space, ih.1, Ne.symm space]

instance (arg : Text) : Decidable (SingleSpaced arg) := decidable_of_iff _ (spacedOut_iff arg).2

/-- The inner loop on what is left of an argument in quotes, behind a part `front` of the piece it
is at: it puts the argument together, or meets a piece that it throws on. By induction on what is
left; a space ends the piece.
-/
theorem parseArgs_builder {length : Nat} {newArgs rest : List Text} {text : Text}
    (unquoted : quote ∉ text)
    : ∀ {i : Nat} {sb front : Text},
        ' ' ∉ front
        → 1 ≤ (sb ++ front).length
        → (front.getLast? = some quote → (sb ++ front).length = 1)
        → i + ((front ++ (text ++ [quote])).splitOn ' ' ++ rest).length ≤ length
        → ∃ j,
            j + rest.length ≤ length
            ∧ parseArgs length i (some sb) newArgs
                ((front ++ (text ++ [quote])).splitOn ' ' ++ rest)
              = if spacedOut (front = [] ∨ front.getLast? = some quote) text then
                  parseArgs length j none (newArgs ++ [(sb ++ front ++ text).drop 1]) rest
                else .throws := by
  induction text with
  | nil =>
      intro i sb front spaceless begun _ bound
      have piece : (front ++ ([] ++ [quote])).splitOn ' ' = [front ++ [quote]] :=
        List.splitOn_eq_singleton (by simpa [quote] using spaceless)
      rw [piece] at bound ⊢
      simp only [List.singleton_append, List.length_cons] at bound
      refine ⟨i + 1, by omega, ?_⟩
      rw [List.singleton_append, parseArgs_closes (by omega) begun, spacedOut, if_pos rfl,
        List.append_nil]
  | cons char text ih =>
      intro i sb front spaceless begun lone bound
      obtain ⟨other, unquotedText⟩ := not_or.mp (mt List.mem_cons.mpr unquoted)
      by_cases space : char = ' '
      · subst space
        have pieces : (front ++ (' ' :: text ++ [quote])).splitOn ' '
            = front :: ([] ++ (text ++ [quote])).splitOn ' ' := by
          rw [List.cons_append, List.splitOn_append_cons_self, List.splitOn_eq_singleton spaceless]
          rfl
        rw [pieces, List.cons_append, List.length_cons] at bound
        rw [pieces, List.cons_append, spacedOut, if_pos rfl]
        have inside : i < length := by omega
        have fewer : 0 + rest.length ≤ length := by
          rw [List.length_append] at bound
          omega
        rw [parseArgs_front inside lone]
        by_cases stuck : front = [] ∨ front.getLast? = some quote
        · refine ⟨0, fewer, ?_⟩
          simp only [stuck, decide_true, Bool.not_true, Bool.false_and, if_true, Bool.false_eq_true,
            if_false]
        · obtain ⟨j, inBounds, parsed⟩ := @ih unquotedText (i + 1) (sb ++ front ++ [' ']) []
            List.not_mem_nil (by simp; omega) (by simp) (by omega)
          refine ⟨j, inBounds, ?_⟩
          rw [if_neg stuck, parsed]
          simp [stuck]
      · have regroup
            : front ++ (char :: text ++ [quote]) = front ++ [char] ++ (text ++ [quote]) := by
          simp
        rw [regroup] at bound ⊢
        obtain ⟨j, inBounds, parsed⟩ := @ih unquotedText i sb (front ++ [char])
          (by simp [spaceless, Ne.symm space]) (by simp; omega) (by simp [Ne.symm other]) bound
        refine ⟨j, inBounds, ?_⟩
        rw [parsed, spacedOut, if_neg space]
        simp [Ne.symm other]

theorem splitOn_quote (text : Text)
    : ∃ front pieces, (quote :: text).splitOn ' ' = (quote :: front) :: pieces := by
  rw [List.splitOn_cons_eq_if_modifyHead, if_neg (by decide)]
  cases split : text.splitOn ' ' with
  | nil => exact absurd split (List.splitOn_ne_nil _ _)
  | cons front pieces => exact ⟨front, pieces, rfl⟩

/-- The loops over arguments in quotes, by induction on them. -/
theorem parseArgs_quoted {length : Nat} {args : List Text}
    (unquoted : ∀ arg ∈ args, quote ∉ arg)
    : ∀ {i : Nat} {newArgs : List Text},
        i + (args.flatMap fun arg => (quoted arg).splitOn ' ').length ≤ length
        → parseArgs length i none newArgs (args.flatMap fun arg => (quoted arg).splitOn ' ')
          = if ∀ arg ∈ args, SingleSpaced arg then .parsed (newArgs ++ args) else .throws := by
  induction args with
  | nil =>
      intro i newArgs _
      simp [parseArgs]
  | cons arg args ih =>
      intro i newArgs bound
      rw [List.flatMap_cons] at bound ⊢
      obtain ⟨j, inBounds, parsed⟩ := @parseArgs_builder length newArgs
        (args.flatMap fun arg => (quoted arg).splitOn ' ') arg (unquoted arg List.mem_cons_self) i
        [] [quote] (by decide) (by decide) (fun _ => rfl) bound
      have opened
          : parseArgs length i none newArgs
              ((quoted arg).splitOn ' ' ++ args.flatMap fun arg => (quoted arg).splitOn ' ')
            = parseArgs length i (some []) newArgs
                ((quoted arg).splitOn ' ' ++ args.flatMap fun arg => (quoted arg).splitOn ' ') := by
        obtain ⟨front, pieces, split⟩ := splitOn_quote (arg ++ [quote])
        rw [quoted, split]
        exact parseArgs_opens rfl
      have begins : spacedOut (decide ([quote] = [] ∨ [quote].getLast? = some quote)) arg
          = spacedOut true arg := rfl
      rw [opened]
      refine parsed.trans ?_
      rw [begins]
      by_cases single : SingleSpaced arg
      · rw [if_pos ((spacedOut_iff arg).2.mpr single)]
        have remaining := @ih (fun other member => unquoted other (List.mem_cons_of_mem _ member)) j
          (newArgs ++ [([] ++ [quote] ++ arg).drop 1]) inBounds
        rw [remaining]
        simp [single]
      · rw [if_neg (mt (spacedOut_iff arg).2.mp single), if_neg]
        exact fun all => single (all arg List.mem_cons_self)

theorem splitOn_commandLine (args : List Text)
    : ∀ text : Text,
        (commandLine text args).splitOn ' '
        = text.splitOn ' ' ++ args.flatMap fun arg => (quoted arg).splitOn ' ' := by
  induction args with
  | nil =>
      intro text
      simp [commandLine]
  | cons arg args ih =>
      intro text
      rw [commandLine, List.flatMap_cons, List.cons_append, List.splitOn_append_cons_self,
        List.flatMap_cons]
      exact congrArg _ (ih (quoted arg))

/-- What the loops make of a command line. -/
theorem parse_commandLine {name : Text} {args : List Text} (spaceless : ' ' ∉ name)
    (unquoted : ∀ arg ∈ args, quote ∉ arg)
    : parse (commandLine name args)
      = if ∀ arg ∈ args, SingleSpaced arg then .parsed (name :: args) else .throws := by
  rw [parse, splitOn_commandLine, List.splitOn_eq_singleton spaceless]
  exact parseArgs_quoted unquoted (Nat.le_of_eq (Nat.add_comm _ _))

-----------------------------------------------------------------------------------------
-- Lines in general
-----------------------------------------------------------------------------------------

/-- The index is in bounds wherever the inner loop compares it, as it has read the piece there. -/
theorem parseArgs_ne_unmatchingQuotes {length : Nat} {pieces : List Text}
    : ∀ {i : Nat} {builder : Option Text} {newArgs : List Text},
        i + pieces.length ≤ length
        → parseArgs length i builder newArgs pieces ≠ .unmatchingQuotes := by
  induction pieces with
  | nil =>
      intro i builder newArgs _
      cases builder <;> nofun
  | cons piece pieces ih =>
      intro i builder newArgs bound
      rw [List.length_cons] at bound
      have later : ∀ builder newArgs,
          parseArgs length (i + 1) builder newArgs pieces ≠ .unmatchingQuotes :=
        fun _ _ => ih (by omega)
      rw [parseArgs]
      split
      · exact later _ _
      · rw [if_neg (by omega)]
        split
        · nofun
        · split_ifs
          · exact later _ _
          · nofun
          · exact later _ _

theorem parse_ne_unmatchingQuotes (input : Text) : parse input ≠ .unmatchingQuotes := by
  rw [parse]
  split
  · nofun
  · exact parseArgs_ne_unmatchingQuotes (Nat.le_of_eq (Nat.add_comm _ _))

/-- A piece that the inner loop gets past. -/
theorem parseArgs_some_parsed {length i : Nat} {sb piece : Text} {newArgs pieces args : List Text}
    (parsed : parseArgs length i (some sb) newArgs (piece :: pieces) = .parsed args)
    : ∃ last,
        piece.getLast? = some last
        ∧ (last ≠ quote
            ∧ parseArgs length (i + 1) (some (sb ++ piece ++ [' '])) newArgs pieces = .parsed args
          ∨ last = quote
            ∧ 3 ≤ (sb ++ piece ++ [' ']).length
            ∧ ∃ newArgs, parseArgs length (i + 1) none newArgs pieces = .parsed args) := by
  by_cases inside : i < length
  · rw [parseArgs_some inside] at parsed
    cases ends : piece.getLast? with
    | none =>
        rw [ends] at parsed
        cases parsed
    | some last =>
        simp only [ends] at parsed
        refine ⟨last, rfl, ?_⟩
        by_cases closing : last = quote
        · rw [if_neg (not_not.mpr closing)] at parsed
          by_cases short : (sb ++ piece ++ [' ']).length < 3
          · rw [if_pos short] at parsed
            cases parsed
          · rw [if_neg short] at parsed
            exact .inr ⟨closing, Nat.not_lt.mp short, _, parsed⟩
        · rw [if_pos closing] at parsed
          exact .inl ⟨closing, parsed⟩
  · have unmatching : parseArgs length i (some sb) newArgs (piece :: pieces) = .unmatchingQuotes :=
      if_pos (Nat.not_lt.mp inside)
    rw [unmatching] at parsed
    cases parsed

/-- Pieces that are read to their end leave no quote open, by induction on them. -/
theorem leavesOpen_of_parsed {length : Nat} {pieces args : List Text}
    : ∀ {i : Nat} {builder : Option Text} {newArgs : List Text},
        parseArgs length i builder newArgs pieces = .parsed args
        → leavesOpen builder.isSome pieces = false := by
  induction pieces with
  | nil =>
      intro i builder newArgs parsed
      cases builder with
      | none => rfl
      | some sb => cases parsed
  | cons piece pieces ih =>
      intro i builder newArgs parsed
      cases builder with
      | none =>
          rw [Option.isSome_none, leavesOpen]
          by_cases starts : piece.head? = some quote
          · rw [parseArgs_opens starts] at parsed
            obtain ⟨last, ends, ⟨other, parsed⟩ | ⟨closing, long, _, parsed⟩⟩ :=
              parseArgs_some_parsed parsed
            · simpa [starts, ends, other] using ih parsed
            · have two : 2 ≤ piece.length := by simpa using long
              simpa [starts, ends, closing, two] using ih parsed
          · rw [parseArgs, openQuote, if_neg starts] at parsed
            simpa [starts] using ih parsed
      | some sb =>
          rw [Option.isSome_some, leavesOpen]
          obtain ⟨last, ends, ⟨other, parsed⟩ | ⟨closing, _, _, parsed⟩⟩ :=
            parseArgs_some_parsed parsed
          · simpa [ends, other] using ih parsed
          · simpa [ends, closing] using ih parsed

/-- A line with an unterminated quote calls no handler: its loops throw. -/
theorem getResult_of_unterminated (handlers : Handlers Response) {input : Text}
    (unterminated : Unterminated input)
    : getResult handlers input = { reply := .errorOccured } := by
  cases parsed : parse input with
  | throws => rw [getResult, parsed]
  | unmatchingQuotes => exact absurd parsed (parse_ne_unmatchingQuotes input)
  | parsed args =>
      rw [parse] at parsed
      rw [Unterminated] at unterminated
      cases split : input.splitOn ' ' with
      | nil => exact absurd split (List.splitOn_ne_nil _ _)
      | cons name pieces =>
          simp only [split, List.tail_cons] at parsed unterminated
          have closed : leavesOpen false pieces = false := leavesOpen_of_parsed parsed
          rw [closed] at unterminated
          cases unterminated

/-- Arguments in quotes reach the handler of a command as they are exactly where none of them has
a space in front or two spaces in a row, and no line that leaves a quote open is answered with the
text for that.
-/
theorem quoting_round_trips_iff {handlers : Handlers Response} {name : Text}
    {handler : List Text → Option Response} (registered : handlers name = some handler)
    (spaceless : ' ' ∉ name) {args : List Text} (unquoted : ∀ arg ∈ args, quote ∉ arg)
    (input : Text)
    : (RoundTrips handlers name args ↔ ∀ arg ∈ args, SingleSpaced arg)
      ∧ (QuotesAnswered handlers input ↔ ¬Unterminated input) := by
  constructor
  · rw [RoundTrips, getResult, parse_commandLine spaceless unquoted]
    split_ifs with single
    · exact iff_of_true rfl single
    · refine iff_of_false (fun same => ?_) single
      have called := congrArg Outcome.called same
      rw [call, registered] at called
      cases called
  · refine ⟨fun answered unterminated => ?_, fun closed unterminated => ?_⟩
    · have thrown := getResult_of_unterminated handlers unterminated
      cases (answered unterminated).symm.trans thrown
    · exact absurd unterminated closed

/-- A command that answers with its arguments. -/
def echo : Handlers (List Text) := fun name => if name = "echo".toList then some some else none

/-- A quote around a name with a space in it. -/
theorem quoting_round_trips_iff_mario
    : RoundTrips echo "echo".toList ["Super Mario".toList, []]
      ∧ QuotesAnswered echo "echo \"Super Mario\"".toList := by
  obtain ⟨trips, answered⟩ := @quoting_round_trips_iff _ echo "echo".toList some rfl (by decide)
    ["Super Mario".toList, []] (by decide) "echo \"Super Mario\"".toList
  exact ⟨trips.mpr (by decide), answered.mpr (by decide)⟩

/-- A name that starts with a space and one with two spaces are not taken, and a quote that is left
open is answered as an error.
-/
theorem spaces_not_taken
    : ¬RoundTrips echo "echo".toList [" Mario".toList]
      ∧ ¬RoundTrips echo "echo".toList ["Super  Mario".toList]
      ∧ ¬QuotesAnswered echo "echo \"Super Mario".toList := by
  refine ⟨?_, ?_, fun answered => ?_⟩
  · rw [RoundTrips]
    decide
  · rw [RoundTrips]
    decide
  · have unterminated : Unterminated "echo \"Super Mario".toList := by decide
    have answer := answered unterminated
    revert answer
    decide

end CommandHandler

end SmoOnline
