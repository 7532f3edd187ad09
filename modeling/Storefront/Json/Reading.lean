import Storefront.Binary64
import Storefront.Json.Value
import Storefront.Text.Bytes

/-!
# Reading JSON

What a text holds as far as it is JSON. A `Reading` is a JSON value, except that an array, an
object, or the value itself may break off where the text ends early or is malformed, so that a
reader that wants only a part of the value meets the faults of that part and no others. A break
tells what is met there by a reader that wants the content, by one that skips over it, and by one
that wants a choice, that is, a text or an object whose one member names the choice. The three
differ: an unpaired surrogate can be skipped but not read, a number cut short has ended for one
reader and is malformed for another, and a choice is decided by the first character of the value.

The scanner is a machine that takes one character at a time, with the values that are still open as
its stack. It is structural on the characters, needs no bound on the nesting, and `scan` gives the
reading of a whole document together with whether anything but blanks follows the value. Bytes are
scanned as the characters that they encode; a byte that is part of no character can be skipped
inside a text and is malformed anywhere else.
-/

namespace Storefront

/-- How a text fails to be JSON: it ends too early, or it holds something else. -/
inductive Fault where
  | ended
  | malformed
  deriving DecidableEq

/-- What is met at a break: by a reader that wants the content, by one that skips it, and by one
that wants a choice, where `none` stands for content of another type. -/
structure Break where
  read : Fault
  skip : Fault
  choice : Option Fault
  deriving DecidableEq

/-- The same fault for every reader. -/
def Fault.everywhere (fault : Fault) : Break :=
  ⟨fault, fault, some fault⟩

/-- A number literal: an integer that fits in 64 bits with or without sign, another number, or one
beyond the range of floating point numbers. -/
inductive Numeral where
  | int (value : Int)
  | other
  | beyond
  deriving DecidableEq

/-- A JSON value as far as it could be read. A text is `none` when it has an unpaired surrogate or a
byte that is part of no character; `closing` is `none` when the closing bracket is there. -/
inductive Reading where
  | null
  | bool (value : Bool)
  | num (value : Numeral)
  | str (text : Option String)
  | arr (items : List Reading) (closing : Option Break)
  | obj (members : List (Option String × Reading)) (closing : Option Break)
  | broken (fault : Break)

namespace Reading

mutual
/-- The reading of a value that has been written completely. -/
def ofJson : Json → Reading
  | .null => .null
  | .bool b => .bool b
  | .int n => .num (.int n)
  | .str s => .str (some s)
  | .arr items => .arr (ofItems items) none
  | .obj members => .obj (ofMembers members) none

/-- The readings of the items of an array. -/
def ofItems : List Json → List Reading
  | [] => []
  | item :: rest => ofJson item :: ofItems rest

/-- The readings of the members of an object. -/
def ofMembers : List (String × Json) → List (Option String × Reading)
  | [] => []
  | (name, value) :: rest => (some name, ofJson value) :: ofMembers rest
end

mutual
/-- The first fault met when the value is skipped. -/
def skipFault? : Reading → Option Fault
  | .arr items closing => (skipFaultItems? items).or (closing.map Break.skip)
  | .obj members closing => (skipFaultMembers? members).or (closing.map Break.skip)
  | .broken b => some b.skip
  | _ => none

/-- The first fault met when items are skipped. -/
def skipFaultItems? : List Reading → Option Fault
  | [] => none
  | item :: rest => (skipFault? item).or (skipFaultItems? rest)

/-- The first fault met when members are skipped. -/
def skipFaultMembers? : List (Option String × Reading) → Option Fault
  | [] => none
  | (_, value) :: rest => (skipFault? value).or (skipFaultMembers? rest)
end

mutual
/-- The first fault met when the value is read whole while at most `room` further brackets may be
open at a time. A text with an unpaired surrogate, a number beyond all range, and a bracket too deep
are malformed. -/
def readFault? (room : Nat) : Reading → Option Fault
  | .arr items closing =>
      if room = 0 then some .malformed
      else (readFaultItems? (room - 1) items).or (closing.map Break.read)
  | .obj members closing =>
      if room = 0 then some .malformed
      else (readFaultMembers? (room - 1) members).or (closing.map Break.read)
  | .broken b => some b.read
  | .str none => some .malformed
  | .num .beyond => some .malformed
  | _ => none

/-- The first fault met when items are read. -/
def readFaultItems? (room : Nat) : List Reading → Option Fault
  | [] => none
  | item :: rest => (readFault? room item).or (readFaultItems? room rest)

/-- The first fault met when members are read. -/
def readFaultMembers? (room : Nat) : List (Option String × Reading) → Option Fault
  | [] => none
  | (none, _) :: _ => some .malformed
  | (some _, value) :: rest => (readFault? room value).or (readFaultMembers? room rest)
end

end Reading

/-- A document: its value, and whether something other than blanks follows it. -/
structure Document where
  value : Reading
  trailing : Bool

namespace Scanner

/-- An array or object that is still open, with what it holds so far in reverse order. An object
also has the name of the member whose value comes next. -/
inductive Frame where
  | arr (items : List Reading)
  | obj (members : List (Option String × Reading)) (name : Option String)

/-- Where a number literal stands. -/
inductive NumberPlace where
  | minus
  | zero
  | whole
  | point
  | fraction
  | mark
  | markSign
  | exponent
  deriving DecidableEq

/-- A number literal so far: its sign, its leading digits, as many as 64 bits hold, the power of ten
of the last of them, whether a digit of the current part has been left out, its exponent, and
whether it has neither point nor exponent. -/
structure NumberDraft where
  place : NumberPlace
  negative : Bool
  digits : Nat
  scale : Int
  cut : Bool
  exponentNegative : Bool
  exponent : Nat
  plain : Bool

/-- Where a text literal stands: among characters, after a backslash, among the four digits of a
code unit (how many have come, their value, and the leading surrogate before them, if any), among
the bytes that such a unit still needs when one of them is no digit, or after a leading surrogate
without or with a backslash. -/
inductive TextPlace where
  | plain
  | escape
  | unit (count value : Nat) (leading : Option Nat)
  | badUnit (missing : Nat)
  | afterLeading (leading : Nat)
  | afterLeadingEscape (leading : Nat)
  deriving DecidableEq

/-- A text literal so far: whether it is a member name, its characters in reverse order, whether an
unpaired surrogate or a byte of no character has come, and where it stands. -/
structure TextDraft where
  isName : Bool
  chars : List Char
  unpaired : Bool
  place : TextPlace

/-- A token that stands where the first name of an object should: the rest of a word, or a number.
Only a reader of a choice looks at it, since it takes the name for a value of its own. -/
inductive Misnomer where
  | word (rest : List Char)
  | number (draft : NumberDraft)

/-- What the machine is about to read. -/
inductive Mode where
  /-- A value. -/
  | value
  /-- The first item of an array or its end. -/
  | firstItem
  /-- The first name of an object or its end. -/
  | firstName
  /-- A name after a comma. -/
  | name
  /-- The rest of a token in the place of the first name. -/
  | misnomer (token : Misnomer)
  /-- The colon after a name. -/
  | colon
  /-- A comma or the closing bracket. -/
  | next
  /-- The rest of a word, and the value that it stands for. -/
  | word (rest : List Char) (value : Reading)
  | number (draft : NumberDraft)
  | text (draft : TextDraft)
  /-- The document's value is complete. -/
  | finished (value : Reading)

/-- The blanks that JSON allows between tokens. -/
def isSpace (c : Char) : Bool :=
  c = ' ' || c = '\n' || c = '\t' || c = '\r'

/-- One step of the machine: it goes on, or the document is decided. -/
inductive Step where
  | go (mode : Mode) (frames : List Frame)
  | stop (document : Document)

/-- The reading of the document when the innermost open value breaks off. -/
def unwind (b : Break) : Reading → List Frame → Reading
  | inner, [] => inner
  | inner, .arr items :: frames => unwind b (.arr (inner :: items).reverse (some b)) frames
  | inner, .obj members name :: frames =>
      unwind b (.obj ((name, inner) :: members).reverse (some b)) frames

/-- A value breaks off. -/
def breakValue (b : Break) (frames : List Frame) : Document :=
  ⟨unwind b (.broken b) frames, false⟩

/-- The innermost open array or object breaks off between its values. -/
def breakFrame (b : Break) : List Frame → Document
  | [] => ⟨.broken b, false⟩
  | .arr items :: frames => ⟨unwind b (.arr items.reverse (some b)) frames, false⟩
  | .obj members _ :: frames => ⟨unwind b (.obj members.reverse (some b)) frames, false⟩

/-- A value is complete: it goes into the innermost open array or object. -/
def accept (value : Reading) : List Frame → Mode × List Frame
  | [] => (.finished value, [])
  | .arr items :: frames => (.next, .arr (value :: items) :: frames)
  | .obj members name :: frames => (.next, .obj ((name, value) :: members) none :: frames)

/-- Go on after a complete value. -/
def accepted (value : Reading) (frames : List Frame) : Step :=
  let (mode, frames) := accept value frames
  .go mode frames

/-- Close the innermost open array or object with a bracket. -/
def close (c : Char) : List Frame → Step
  | .arr items :: frames =>
      if c = ']' then accepted (.arr items.reverse none) frames
      else .stop (breakFrame Fault.malformed.everywhere (.arr items :: frames))
  | .obj members name :: frames =>
      if c = '\x7d' then accepted (.obj members.reverse none) frames
      else .stop (breakFrame Fault.malformed.everywhere (.obj members name :: frames))
  | [] => .stop (breakFrame Fault.malformed.everywhere [])

/-- After a value: a comma or the closing bracket. -/
def stepNext (frames : List Frame) (c : Char) : Step :=
  if isSpace c then .go .next frames
  else
    match frames, c with
    | .arr items :: rest, ',' => .go .value (.arr items :: rest)
    | .obj members name :: rest, ',' => .go .name (.obj members name :: rest)
    | frames, c => close c frames

/-- The least number that rounds to infinity: halfway between the greatest finite number and the
next one. -/
def overflowBound : Nat := Nat.pow 2 1024 - Nat.pow 2 970

/-- The power of ten with the greatest exponent that is a finite floating point number. -/
def greatestPower : Int := 308

/-- The floating point product of `digits` and `10 ^ exponent`, each rounded first, is infinite. A
number with a negative exponent is a quotient and always finite. -/
def isBeyond (digits : Nat) (exponent : Int) : Bool :=
  if digits = 0 || exponent < 0 then false
  else if greatestPower < exponent then true
  else
    overflowBound ≤ Binary64.nearestNat digits * Binary64.nearestNat (Nat.pow 10 exponent.toNat)

/-- Natural numbers from here on do not fit in 64 bits. -/
def wordBound : Nat := Nat.pow 2 64

/-- The number of a complete literal. Minus zero is not an integer. -/
def NumberDraft.numeral (d : NumberDraft) : Numeral :=
  let exponent : Int := if d.exponentNegative then -d.exponent else d.exponent
  if d.plain && !d.cut && !d.negative then .int d.digits
  else if d.plain && !d.cut && 0 < d.digits && d.digits ≤ Nat.pow 2 63 then .int (-d.digits)
  else if isBeyond d.digits (d.scale + exponent) then .beyond
  else .other

/-- The digits with one more of weight `10 ^ scale`, if the 64 bits hold it and none of its part has
been left out. -/
def NumberDraft.push? (d : NumberDraft) (n : Nat) (scale : Int) : Option NumberDraft :=
  if !d.cut && d.digits * 10 + n < wordBound then
    some { d with digits := d.digits * 10 + n, scale := scale }
  else none

/-- One more digit before the point. A digit that is left out still counts as a place. -/
def NumberDraft.pushWhole (d : NumberDraft) (n : Nat) : NumberDraft :=
  (d.push? n 0).getD { d with cut := true, scale := d.scale + 1 }

/-- One more digit after the point. -/
def NumberDraft.pushFraction (d : NumberDraft) (n : Nat) : NumberDraft :=
  { (d.push? n (d.scale - 1)).getD { d with cut := true } with place := .fraction }

/-- The literal may end here. -/
def NumberPlace.complete : NumberPlace → Bool
  | .zero | .whole | .fraction | .exponent => true
  | .minus | .point | .mark | .markSign => false

/-- One more character of a number literal, or `none` if the character does not continue it. -/
def NumberDraft.extend? (d : NumberDraft) (c : Char) : Option NumberDraft :=
  match d.place, Text.digit? c with
  | .minus, some 0 => some { d with place := .zero }
  | .minus, some n => some { d with place := .whole, digits := n }
  | .whole, some n => some (d.pushWhole n)
  | .point, some n | .fraction, some n => some (d.pushFraction n)
  | .mark, some n | .markSign, some n | .exponent, some n =>
      some { d with place := .exponent, exponent := d.exponent * 10 + n }
  | .zero, none | .whole, none =>
      if c = '.' then some { d with place := .point, cut := false, plain := false }
      else if c = 'e' || c = 'E' then some { d with place := .mark, plain := false }
      else none
  | .fraction, none =>
      if c = 'e' || c = 'E' then some { d with place := .mark } else none
  | .mark, none =>
      if c = '-' then some { d with place := .markSign, exponentNegative := true }
      else if c = '+' then some { d with place := .markSign }
      else none
  | _, _ => none

/-- The literal may end before a character that does not continue it. A digit after a leading zero
is malformed. -/
def NumberDraft.endsBefore (d : NumberDraft) (c : Char) : Bool :=
  d.place.complete && !(d.place = .zero && (Text.digit? c).isSome)

/-- A number literal: the character continues it, or ends it and is what follows the value. -/
def stepNumber (frames : List Frame) (d : NumberDraft) (c : Char) : Step :=
  match d.extend? c with
  | some d => .go (.number d) frames
  | none =>
      if d.endsBefore c then
        match accept (.num d.numeral) frames with
        | (.finished value, frames) =>
            if isSpace c then .go (.finished value) frames else .stop ⟨value, true⟩
        | (_, frames) => stepNext frames c
      else .stop (breakValue Fault.malformed.everywhere frames)

/-- A text literal is complete: it is the name of a member or a value. -/
def acceptText (d : TextDraft) (frames : List Frame) : Step :=
  let content := if d.unpaired then none else some (String.ofList d.chars.reverse)
  if d.isName then
    match frames with
    | .obj members _ :: rest => .go .colon (.obj members content :: rest)
    | frames => .stop (breakFrame Fault.malformed.everywhere frames)
  else accepted (.str content) frames

/-- An object that holds no member yet is innermost. -/
def atFirstName : List Frame → Bool
  | .obj [] _ :: _ => true
  | _ => false

/-- A text literal breaks off. For a choice, a second name is malformed before it is looked at. -/
def breakText (fault : Fault) (d : TextDraft) (frames : List Frame) : Document :=
  let read : Fault := if d.unpaired then .malformed else fault
  if d.isName then
    breakFrame ⟨read, fault, some (if atFirstName frames then read else .malformed)⟩ frames
  else breakValue ⟨read, fault, some read⟩ frames

/-- A word breaks off. No choice begins with it. -/
def breakWord (fault : Fault) (frames : List Frame) : Document :=
  breakValue ⟨fault, fault, some .malformed⟩ frames

/-- An object begins with something other than a name, which is malformed for all readers but that
of a choice. -/
def breakMisnomer (choice : Option Fault) (frames : List Frame) : Document :=
  breakFrame ⟨.malformed, .malformed, choice⟩ frames

/-- The character that a one-letter escape stands for. -/
def simpleEscape? (c : Char) : Option Char :=
  match c with
  | '"' => some '"'
  | '\\' => some '\\'
  | '/' => some '/'
  | 'b' => some (Char.ofNat 8)
  | 'f' => some (Char.ofNat 12)
  | 'n' => some '\n'
  | 'r' => some '\r'
  | 't' => some '\t'
  | _ => none

/-- A character of a text literal that stands for itself, ends the literal, or begins an escape. -/
def stepPlain (frames : List Frame) (d : TextDraft) (c : Char) : Step :=
  if c = '"' then acceptText d frames
  else if c = '\\' then .go (.text { d with place := .escape }) frames
  else if c.toNat < 32 then .stop (breakText .malformed d frames)
  else .go (.text { d with place := .plain, chars := c :: d.chars }) frames

/-- The character after a backslash. -/
def stepEscape (frames : List Frame) (d : TextDraft) (c : Char) : Step :=
  if c = 'u' then .go (.text { d with place := .unit 0 0 none }) frames
  else
    match simpleEscape? c with
    | some e => .go (.text { d with place := .plain, chars := e :: d.chars }) frames
    | none => .stop (breakText .malformed d frames)

/-- A code unit of four digits is complete. A leading surrogate waits for a trailing one, and a
surrogate without its partner leaves the text unpaired. -/
def acceptUnit (d : TextDraft) (unit : Nat) (leading : Option Nat) : TextDraft :=
  match leading with
  | none =>
      if 0xDC00 ≤ unit && unit ≤ 0xDFFF then { d with place := .plain, unpaired := true }
      else if 0xD800 ≤ unit && unit ≤ 0xDBFF then { d with place := .afterLeading unit }
      else { d with place := .plain, chars := Char.ofNat unit :: d.chars }
  | some high =>
      if 0xDC00 ≤ unit && unit ≤ 0xDFFF then
        let code := 0x10000 + (high - 0xD800) * 0x400 + (unit - 0xDC00)
        { d with place := .plain, chars := Char.ofNat code :: d.chars }
      else { d with place := .plain, unpaired := true }

/-- A character of a code unit that is malformed, if the text has the bytes that the unit still
needs. -/
def stepBadUnit (frames : List Frame) (d : TextDraft) (missing : Nat) (c : Char) : Step :=
  if missing ≤ c.utf8Size then .stop (breakText .malformed d frames)
  else .go (.text { d with place := .badUnit (missing - c.utf8Size) }) frames

/-- One character of a text literal. -/
def stepText (frames : List Frame) (d : TextDraft) (c : Char) : Step :=
  match d.place with
  | .plain => stepPlain frames d c
  | .escape => stepEscape frames d c
  | .unit count value leading =>
      match Text.hexDigit? c with
      | none => stepBadUnit frames d (4 - count) c
      | some n =>
          let value := value * 16 + n
          if count = 3 then .go (.text (acceptUnit d value leading)) frames
          else .go (.text { d with place := .unit (count + 1) value leading }) frames
  | .badUnit missing => stepBadUnit frames d missing c
  | .afterLeading leading =>
      if c = '\\' then .go (.text { d with place := .afterLeadingEscape leading }) frames
      else stepPlain frames { d with unpaired := true } c
  | .afterLeadingEscape leading =>
      if c = 'u' then .go (.text { d with place := .unit 0 0 (some leading) }) frames
      else stepEscape frames { d with unpaired := true } c

/-- A text literal that is about to begin. -/
def emptyText (isName : Bool) : TextDraft :=
  ⟨isName, [], false, .plain⟩

/-- A number literal that is about to begin, at a given place. -/
def emptyNumber (place : NumberPlace) (negative : Bool) (digits : Nat) : NumberDraft :=
  ⟨place, negative, digits, 0, false, false, 0, true⟩

/-- The word that a letter begins: its rest and its value. -/
def wordFrom? (c : Char) : Option (List Char × Reading) :=
  match c with
  | 'n' => some (['u', 'l', 'l'], .null)
  | 't' => some (['r', 'u', 'e'], .bool true)
  | 'f' => some (['a', 'l', 's', 'e'], .bool false)
  | _ => none

/-- The number literal that a character begins. -/
def numberFrom? (c : Char) : Option NumberDraft :=
  if c = '-' then some (emptyNumber .minus true 0)
  else
    match Text.digit? c with
    | some 0 => some (emptyNumber .zero false 0)
    | some n => some (emptyNumber .whole false n)
    | none => none

/-- The first character of a value. -/
def stepValue (frames : List Frame) (c : Char) : Step :=
  if c = '"' then .go (.text (emptyText false)) frames
  else if c = '[' then .go .firstItem (.arr [] :: frames)
  else if c = '\x7b' then .go .firstName (.obj [] none :: frames)
  else
    match wordFrom? c, numberFrom? c with
    | some (rest, value), _ => .go (.word rest value) frames
    | none, some draft => .go (.number draft) frames
    | none, none => .stop (breakValue Fault.malformed.everywhere frames)

/-- The first character of what stands in the place of the first name. A bracket is of the wrong
type before anything in it is looked at. -/
def stepFirstName (frames : List Frame) (c : Char) : Step :=
  if c = '"' then .go (.text (emptyText true)) frames
  else if c = '\x7d' then close c frames
  else if c = '[' || c = '\x7b' then .stop (breakMisnomer none frames)
  else
    match wordFrom? c, numberFrom? c with
    | some (rest, _), _ => .go (.misnomer (.word rest)) frames
    | none, some draft => .go (.misnomer (.number draft)) frames
    | none, none => .stop (breakMisnomer (some .malformed) frames)

/-- What a reader of a choice meets when a number stands in the place of the name. -/
def misnumbered (draft : NumberDraft) : Option Fault :=
  if draft.numeral = .beyond then some .malformed else none

/-- One more character of a token in the place of the first name. -/
def stepMisnomer (frames : List Frame) (token : Misnomer) (c : Char) : Step :=
  match token with
  | .word [] => .stop (breakMisnomer none frames)
  | .word (w :: rest) =>
      if c ≠ w then .stop (breakMisnomer (some .malformed) frames)
      else if rest.isEmpty then .stop (breakMisnomer none frames)
      else .go (.misnomer (.word rest)) frames
  | .number draft =>
      match draft.extend? c with
      | some draft => .go (.misnomer (.number draft)) frames
      | none =>
          let choice := if draft.endsBefore c then misnumbered draft else some .malformed
          .stop (breakMisnomer choice frames)

/-- One character. -/
def step (mode : Mode) (frames : List Frame) (c : Char) : Step :=
  match mode with
  | .value => if isSpace c then .go .value frames else stepValue frames c
  | .firstItem =>
      if isSpace c then .go .firstItem frames
      else if c = ']' then close c frames
      else stepValue frames c
  | .firstName =>
      if isSpace c then .go .firstName frames else stepFirstName frames c
  | .name =>
      if isSpace c then .go .name frames
      else if c = '"' then .go (.text (emptyText true)) frames
      else .stop (breakFrame Fault.malformed.everywhere frames)
  | .colon =>
      if isSpace c then .go .colon frames
      else if c = ':' then .go .value frames
      else .stop (breakValue Fault.malformed.everywhere frames)
  | .misnomer token => stepMisnomer frames token c
  | .next => stepNext frames c
  | .word (w :: rest) value =>
      if c ≠ w then .stop (breakWord .malformed frames)
      else if rest.isEmpty then accepted value frames
      else .go (.word rest value) frames
  | .word [] _ => .stop (breakWord .malformed frames)
  | .number draft => stepNumber frames draft c
  | .text draft => stepText frames draft c
  | .finished value => if isSpace c then .go (.finished value) frames else .stop ⟨value, true⟩

/-- A byte that is part of no character. -/
def stepStray (mode : Mode) (frames : List Frame) : Step :=
  match mode with
  | .text d =>
      match d.place with
      | .plain | .afterLeading _ => .go (.text { d with place := .plain, unpaired := true }) frames
      | _ => stepText frames d (Char.ofNat 0)
  | mode => step mode frames (Char.ofNat 0)

/-- The text ends. A number cut short has ended where it is read and is malformed where it is
skipped, and the names after a comma are malformed for a choice. -/
def finish (mode : Mode) (frames : List Frame) : Document :=
  match mode with
  | .finished value => ⟨value, false⟩
  | .number draft =>
      if draft.place.complete then
        match accept (.num draft.numeral) frames with
        | (.finished value, _) => ⟨value, false⟩
        | (_, frames) => breakFrame Fault.ended.everywhere frames
      else breakValue ⟨.ended, .malformed, some .malformed⟩ frames
  | .text draft => breakText .ended draft frames
  | .firstItem | .firstName | .next => breakFrame Fault.ended.everywhere frames
  | .name => breakFrame ⟨.ended, .ended, some .malformed⟩ frames
  | .misnomer (.word _) => breakMisnomer (some .ended) frames
  | .misnomer (.number draft) =>
      breakMisnomer (if draft.place.complete then misnumbered draft else some .ended) frames
  | .word .. => breakWord .ended frames
  | .value | .colon => breakValue Fault.ended.everywhere frames

/-- Run the machine over the characters that remain. -/
def run : Mode → List Frame → List Char → Document
  | mode, frames, [] => finish mode frames
  | mode, frames, c :: rest =>
      match step mode frames c with
      | .go mode frames => run mode frames rest
      | .stop document => document

/-- Run the machine over the characters and stray bytes that remain. -/
def runBytes : Mode → List Frame → List (Option Char) → Document
  | mode, frames, [] => finish mode frames
  | mode, frames, c? :: rest =>
      match c?.elim (stepStray mode frames) (step mode frames) with
      | .go mode frames => runBytes mode frames rest
      | .stop document => document

end Scanner

/-- The document that a text holds. -/
def Document.scan (s : String) : Document :=
  Scanner.run .value [] s.toList

/-- The document that bytes hold. -/
def Document.scanBytes (bytes : List UInt8) : Document :=
  Scanner.runBytes .value [] (Text.characters 0 bytes)

end Storefront
