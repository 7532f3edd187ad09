import Storefront.Json.Reading
import Storefront.Proofs.Text.Numeral

/-!
# Written values are read back

The scanner reads the text of a value as the value, `Document.scan_text`, if its numbers fit in 64
bits. What carries the induction is that the machine, when it is about to read a value, takes
exactly the characters of the value and hands it to the innermost open array or object,
`Scanner.run_render`. A number has no end of its own, so what comes after a value matters:
`Scanner.Follows`. A text and its bytes hold the same document, `Document.scanBytes_utf8`.
-/

namespace Storefront

namespace Json

mutual
/-- Every number in the value fits in 64 bits, with or without a sign. -/
def Fits : Json → Prop
  | .int n => -2 ^ 63 ≤ n ∧ n < 2 ^ 64
  | .arr items => ItemsFit items
  | .obj members => MembersFit members
  | .null | .bool _ | .str _ => True

/-- Every number in the items fits. -/
def ItemsFit : List Json → Prop
  | [] => True
  | item :: rest => item.Fits ∧ ItemsFit rest

/-- Every number in the members fits. -/
def MembersFit : List (String × Json) → Prop
  | [] => True
  | (_, value) :: rest => value.Fits ∧ MembersFit rest
end

end Json

namespace Scanner

variable {frames : List Frame} {rest : List Char}

/-- The machine goes on. -/
theorem run_go {mode mode' : Mode} {frames' : List Frame} {c : Char}
    (h : step mode frames c = .go mode' frames') :
    run mode frames (c :: rest) = run mode' frames' rest := by
  rw [run, h]

/-- Go on with what follows a complete value. -/
def resume (value : Reading) (frames : List Frame) (rest : List Char) : Document :=
  run (accept value frames).1 (accept value frames).2 rest

/-- The machine goes on after a complete value. -/
theorem run_accepted {mode : Mode} {value : Reading} {frames' : List Frame} {c : Char}
    (h : step mode frames c = accepted value frames') :
    run mode frames (c :: rest) = resume value frames' rest := by
  rw [run, h]
  rfl

/-- What may follow a value: nothing after that of the document, and a comma or a closing bracket
in an array or object. -/
def Follows (frames : List Frame) : List Char → Prop
  | [] => frames = []
  | c :: _ => frames ≠ [] ∧ c ∈ [',', ']', '\x7d']

section Text

/-- A text literal among its characters. -/
def plainText (isName : Bool) (chars : List Char) : TextDraft :=
  ⟨isName, chars, false, .plain⟩

/-- A control character is read back from its escape. -/
theorem run_escapeControl (isName : Bool) (chars : List Char) {n : Nat} (h : n < 32) :
    run (.text (plainText isName chars)) frames (Json.escapeChar (Char.ofNat n) ++ rest) =
      run (.text (plainText isName (Char.ofNat n :: chars))) frames rest := by
  interval_cases n <;> rfl

/-- A character is read back from what it is written as. -/
theorem run_escapeChar (isName : Bool) (chars : List Char) (c : Char) :
    run (.text (plainText isName chars)) frames (Json.escapeChar c ++ rest) =
      run (.text (plainText isName (c :: chars))) frames rest := by
  by_cases hcontrol : c.toNat < 32
  · rw [← Char.ofNat_toNat c]
    exact run_escapeControl isName chars hcontrol
  by_cases hquote : c = '"'
  · rw [hquote]
    rfl
  by_cases hslash : c = '\\'
  · rw [hslash]
    rfl
  -- No other character is escaped: those with a letter of their own are controls.
  · have hself : Json.escapeChar c = [c] := by
      have hletter : c ≠ '\n' ∧ c ≠ '\r' ∧ c ≠ '\t' := by
        refine ⟨?_, ?_, ?_⟩ <;> rintro rfl <;> exact hcontrol (by decide)
      have hnumber : c.toNat ≠ 8 ∧ c.toNat ≠ 12 := by omega
      simp [Json.escapeChar, hquote, hslash, hletter, hnumber, hcontrol]
    have hstep : step (.text (plainText isName chars)) frames c =
        .go (.text (plainText isName (c :: chars))) frames := by
      simp [step, stepText, stepPlain, plainText, hquote, hslash, hcontrol]
    rw [hself]
    exact run_go hstep

/-- Characters are read back from what they are written as. -/
theorem run_escape (isName : Bool) (chars cs : List Char) :
    run (.text (plainText isName chars)) frames (cs.flatMap Json.escapeChar ++ rest) =
      run (.text (plainText isName (cs.reverse ++ chars))) frames rest := by
  induction cs generalizing chars with
  | nil => rfl
  | cons c cs ih =>
      rw [List.flatMap_cons, List.append_assoc, run_escapeChar, ih, List.reverse_cons,
        List.append_assoc]
      rfl

/-- The content of a text literal is what has been read of it. -/
theorem acceptText_plainText (s : String) :
    acceptText (plainText false s.toList.reverse) frames = accepted (.str (some s)) frames := by
  simp [acceptText, plainText]

/-- A text is read back. -/
theorem run_renderText (s : String) :
    run .value frames (Json.renderText s ++ rest) = resume (.str (some s)) frames rest := by
  have hquote : run .value frames (Json.renderText s ++ rest) =
      run (.text (plainText false [])) frames
        (s.toList.flatMap Json.escapeChar ++ '"' :: rest) := by
    simp only [Json.renderText, List.cons_append, List.append_assoc, List.nil_append]
    exact run_go rfl
  rw [hquote, run_escape, List.append_nil]
  exact run_accepted (acceptText_plainText s)

/-- The name of a member is read back together with the colon after it. -/
theorem run_renderName {mode : Mode} (members : List (Option String × Reading))
    (hmode : mode = .firstName ∨ mode = .name) (s : String) :
    run mode (.obj members none :: frames) (Json.renderText s ++ ':' :: rest) =
      run .value (.obj members (some s) :: frames) rest := by
  have hquote : run mode (.obj members none :: frames) (Json.renderText s ++ ':' :: rest) =
      run (.text (plainText true [])) (.obj members none :: frames)
        (s.toList.flatMap Json.escapeChar ++ '"' :: ':' :: rest) := by
    simp only [Json.renderText, List.cons_append, List.append_assoc, List.nil_append]
    rcases hmode with rfl | rfl <;> exact run_go rfl
  have hname : step (.text (plainText true (s.toList.reverse ++ []))) (.obj members none :: frames)
      '"' = .go .colon (.obj members (some s) :: frames) := by
    simp [step, stepText, stepPlain, acceptText, plainText]
  rw [hquote, run_escape, run_go hname]
  exact run_go rfl

end Text

section Number

/-- The digits of a number are read as the number, if it fits in 64 bits. -/
theorem run_toDigits {mode : Mode} {negative : Bool}
    (hfirst : ∀ d < 10, 0 < d →
      step mode frames d.digitChar = .go (.number (emptyNumber .whole negative d)) frames)
    {n : Nat} (hpos : 0 < n) (hbound : n < wordBound) :
    run mode frames (Nat.toDigits 10 n ++ rest) =
      run (.number (emptyNumber .whole negative n)) frames rest := by
  induction n using Nat.strong_induction_on generalizing rest with
  | _ n ih =>
      rw [Nat.toDigits_eq_if (by decide)]
      split
      · rename_i hsmall
        exact run_go (hfirst n hsmall hpos)
      -- The last digit is pushed to the quotient, which is smaller and so fits as well.
      · rename_i hlarge
        have hquotient : n / 10 < n := Nat.div_lt_self hpos (by decide)
        have hlast : n % 10 < 10 := Nat.mod_lt n (by decide)
        have hsum : n / 10 * 10 + n % 10 = n := Nat.div_add_mod' n 10
        have hpush : (emptyNumber .whole negative (n / 10)).pushWhole (n % 10) =
            emptyNumber .whole negative n := by
          simp [NumberDraft.pushWhole, NumberDraft.push?, emptyNumber, hsum, hbound]
        have hstep : step (.number (emptyNumber .whole negative (n / 10))) frames
            (n % 10).digitChar = .go (.number (emptyNumber .whole negative n)) frames := by
          rw [← hpush]
          simp only [step, stepNumber, NumberDraft.extend?, emptyNumber,
            Text.digit?_digitChar hlast]
        rw [List.append_assoc, ih _ hquotient (by omega) (by omega)]
        exact run_go hstep

/-- A number literal ends before what may follow a value. -/
theorem run_number {d : NumberDraft} (hplace : d.place = .zero ∨ d.place = .whole)
    (hfollows : Follows frames rest) :
    run (.number d) frames rest = resume (.num d.numeral) frames rest := by
  have hcomplete : d.place.complete = true := by
    rcases hplace with h | h <;> rw [h] <;> rfl
  cases rest with
  | nil =>
      cases hfollows
      simp [run, finish, hcomplete, resume, accept]
  | cons c rest =>
      obtain ⟨hopen, hc⟩ := hfollows
      have hdigit : Text.digit? c = none := by
        have hall : ([',', ']', '\x7d'].all fun c ↦ Text.digit? c = none) = true := by decide
        exact of_decide_eq_true (List.all_eq_true.mp hall c hc)
      have hextend : d.extend? c = none := by
        have hmark : c ≠ '.' ∧ c ≠ 'e' ∧ c ≠ 'E' := by
          have hall : ([',', ']', '\x7d'].all fun c ↦ c ≠ '.' ∧ c ≠ 'e' ∧ c ≠ 'E') = true := by
            decide
          exact of_decide_eq_true (List.all_eq_true.mp hall c hc)
        rcases hplace with h | h <;> simp [NumberDraft.extend?, h, hdigit, hmark]
      have hends : d.endsBefore c = true := by
        simp [NumberDraft.endsBefore, hcomplete, hdigit]
      have hstep : step (.number d) frames c =
          stepNext (accept (.num d.numeral) frames).2 c := by
        cases frames with
        | nil => exact absurd rfl hopen
        | cons frame frames => cases frame <;> simp [step, stepNumber, hextend, hends, accept]
      have hmode : (accept (.num d.numeral) frames).1 = .next := by
        cases frames with
        | nil => exact absurd rfl hopen
        | cons frame frames => cases frame <;> rfl
      rw [resume, hmode, run, hstep]
      rfl

/-- An integer that fits in 64 bits is read back. -/
theorem run_renderInt {n : Int} (hlow : -2 ^ 63 ≤ n) (hhigh : n < 2 ^ 64)
    (hfollows : Follows frames rest) :
    run .value frames (Json.renderInt n ++ rest) = resume (.num (.int n)) frames rest := by
  have hword : wordBound = 2 ^ 64 := rfl
  unfold Json.renderInt
  split
  · rename_i hnegative
    have hfirst : ∀ d < 10, 0 < d →
        step (.number (emptyNumber .minus true 0)) frames d.digitChar =
          .go (.number (emptyNumber .whole true d)) frames := by
      intro d hd hpos
      interval_cases d <;> rfl
    have hnumeral : (emptyNumber .whole true n.natAbs).numeral = .int n := by
      have hpos : 0 < n.natAbs := by omega
      have hbound : n.natAbs ≤ Nat.pow 2 63 := by
        show n.natAbs ≤ 2 ^ 63
        omega
      simp [NumberDraft.numeral, emptyNumber, hpos, hbound, abs_of_neg hnegative]
    have hminus : run .value frames ('-' :: Nat.toDigits 10 n.natAbs ++ rest) =
        run (.number (emptyNumber .minus true 0)) frames (Nat.toDigits 10 n.natAbs ++ rest) :=
      run_go rfl
    rw [hminus, run_toDigits hfirst (by omega) (by omega), run_number (.inr rfl) hfollows, hnumeral]
  · rename_i hnatural
    have hnumeral : ∀ place, (emptyNumber place false n.natAbs).numeral = .int n := by
      intro place
      simp [NumberDraft.numeral, emptyNumber, abs_of_nonneg (Int.not_lt.mp hnatural)]
    by_cases hzero : n = 0
    -- Zero is the one number whose first digit is a zero.
    · rw [hzero] at hnumeral ⊢
      have hdigit : run .value frames (Nat.toDigits 10 (Int.natAbs 0) ++ rest) =
          run (.number (emptyNumber .zero false 0)) frames rest := run_go rfl
      have hread := hnumeral .zero
      rw [hdigit, run_number (.inl rfl) hfollows, ← hread]
      rfl
    · have hfirst : ∀ d < 10, 0 < d →
          step .value frames d.digitChar =
            .go (.number (emptyNumber .whole false d)) frames := by
        intro d hd hpos
        interval_cases d <;> rfl
      rw [run_toDigits hfirst (by omega) (by omega), run_number (.inr rfl) hfollows, hnumeral]

end Number

/-- A value does not begin with a blank or a closing bracket. -/
theorem render_head (j : Json) :
    ∃ c cs, j.render = c :: cs ∧ isSpace c = false ∧ c ≠ ']' := by
  cases j with
  | null => exact ⟨'n', _, rfl, by decide, by decide⟩
  | bool b => cases b <;> exact ⟨_, _, rfl, by decide, by decide⟩
  | str s => exact ⟨'"', _, rfl, by decide, by decide⟩
  | arr items => exact ⟨'[', _, rfl, by decide, by decide⟩
  | obj members => exact ⟨'\x7b', _, rfl, by decide, by decide⟩
  | int n =>
      simp only [Json.render, Json.renderInt]
      split
      · exact ⟨'-', _, rfl, by decide, by decide⟩
      · cases hdigits : Nat.toDigits 10 n.natAbs with
        | nil => exact absurd hdigits Nat.toDigits_ne_nil
        | cons c cs =>
            obtain ⟨d, hd, rfl⟩ := Text.exists_digit_of_mem_toDigits (c := c) (by decide)
              (hdigits ▸ List.mem_cons_self)
            refine ⟨_, cs, rfl, ?_⟩
            interval_cases d <;> decide

/-- A value is read in the same way where the end of an array is possible. -/
theorem run_firstItem (j : Json) :
    run .firstItem frames (j.render ++ rest) = run .value frames (j.render ++ rest) := by
  obtain ⟨c, cs, hrender, hspace, hbracket⟩ := render_head j
  rw [hrender, List.cons_append, run, run]
  simp [step, hspace, hbracket]

/-- More items may follow an item. -/
theorem follows_moreItems (items : List Json) {frame : Frame} :
    Follows (frame :: frames) (Json.renderMoreItems items ++ ']' :: rest) := by
  cases items with
  | nil => exact ⟨nofun, by decide⟩
  | cons => exact ⟨nofun, by decide⟩

/-- More members may follow a member. -/
theorem follows_moreMembers (members : List (String × Json)) {frame : Frame} :
    Follows (frame :: frames) (Json.renderMoreMembers members ++ '\x7d' :: rest) := by
  cases members with
  | nil => exact ⟨nofun, by decide⟩
  | cons => exact ⟨nofun, by decide⟩

mutual

/-- A value is read back. -/
theorem run_render : (j : Json) → j.Fits → {frames : List Frame} → {rest : List Char} →
    Follows frames rest →
    run .value frames (j.render ++ rest) = resume (Reading.ofJson j) frames rest
  | .null, _, _, _, _ => rfl
  | .bool true, _, _, _, _ => rfl
  | .bool false, _, _, _, _ => rfl
  | .int _, hfits, _, _, hfollows => run_renderInt hfits.1 hfits.2 hfollows
  | .str s, _, _, _, _ => run_renderText s
  | .arr [], _, _, _, _ => rfl
  | .arr (item :: items), hfits, frames, rest, _ => by
      have hopen : run .value frames ((Json.arr (item :: items)).render ++ rest) =
          run .firstItem (.arr [] :: frames)
            (item.render ++ (Json.renderMoreItems items ++ ']' :: rest)) := by
        simp only [Json.render, Json.renderItems, List.cons_append, List.append_assoc,
          List.nil_append]
        exact run_go rfl
      rw [hopen, run_firstItem, run_render item hfits.1 (follows_moreItems items)]
      exact run_renderMoreItems items hfits.2 [Reading.ofJson item] frames rest
  | .obj [], _, _, _, _ => rfl
  | .obj ((name, value) :: members), hfits, frames, rest, _ => by
      have hopen : run .value frames ((Json.obj ((name, value) :: members)).render ++ rest) =
          run .firstName (.obj [] none :: frames) (Json.renderText name ++ ':' ::
            (value.render ++ (Json.renderMoreMembers members ++ '\x7d' :: rest))) := by
        simp only [Json.render, Json.renderMembers, List.cons_append, List.append_assoc,
          List.nil_append]
        exact run_go rfl
      rw [hopen, run_renderName _ (.inl rfl),
        run_render value hfits.1 (follows_moreMembers members)]
      exact run_renderMoreMembers members hfits.2 [(some name, Reading.ofJson value)] frames rest

/-- The items after the first are read back, and the array is closed. -/
theorem run_renderMoreItems : (items : List Json) → Json.ItemsFit items →
    (before : List Reading) → (frames : List Frame) → (rest : List Char) →
    run .next (.arr before :: frames) (Json.renderMoreItems items ++ ']' :: rest) =
      resume (.arr (before.reverse ++ Reading.ofItems items) none) frames rest
  | [], _, before, _, _ => by
      rw [Reading.ofItems, List.append_nil]
      exact run_accepted rfl
  | item :: items, hfits, before, frames, rest => by
      have hcomma : run .next (.arr before :: frames)
          (Json.renderMoreItems (item :: items) ++ ']' :: rest) =
          run .value (.arr before :: frames)
            (item.render ++ (Json.renderMoreItems items ++ ']' :: rest)) := by
        simp only [Json.renderMoreItems, List.cons_append, List.append_assoc]
        exact run_go rfl
      have hrest := run_renderMoreItems items hfits.2 (Reading.ofJson item :: before) frames
        rest
      rw [List.reverse_cons, List.append_assoc] at hrest
      rw [hcomma, run_render item hfits.1 (follows_moreItems items)]
      exact hrest

/-- The members after the first are read back, and the object is closed. -/
theorem run_renderMoreMembers : (members : List (String × Json)) → Json.MembersFit members →
    (before : List (Option String × Reading)) → (frames : List Frame) → (rest : List Char) →
    run .next (.obj before none :: frames) (Json.renderMoreMembers members ++ '\x7d' :: rest) =
      resume (.obj (before.reverse ++ Reading.ofMembers members) none) frames rest
  | [], _, before, _, _ => by
      rw [Reading.ofMembers, List.append_nil]
      exact run_accepted rfl
  | (name, value) :: members, hfits, before, frames, rest => by
      have hcomma : run .next (.obj before none :: frames)
          (Json.renderMoreMembers ((name, value) :: members) ++ '\x7d' :: rest) =
          run .name (.obj before none :: frames) (Json.renderText name ++ ':' ::
            (value.render ++ (Json.renderMoreMembers members ++ '\x7d' :: rest))) := by
        simp only [Json.renderMoreMembers, List.cons_append, List.append_assoc]
        exact run_go rfl
      have hrest := run_renderMoreMembers members hfits.2
        ((some name, Reading.ofJson value) :: before) frames rest
      rw [List.reverse_cons, List.append_assoc] at hrest
      rw [hcomma, run_renderName _ (.inr rfl),
        run_render value hfits.1 (follows_moreMembers members)]
      exact hrest

end

end Scanner

/-- The text of a value is read as the value and nothing after it. -/
theorem Document.scan_text {j : Json} (h : j.Fits) :
    Document.scan j.text = ⟨Reading.ofJson j, false⟩ := by
  have hread : Scanner.run .value [] (j.render ++ []) = _ := Scanner.run_render j h rfl
  rw [List.append_nil] at hread
  rw [Document.scan, Json.text, String.toList_ofList, hread]
  rfl

namespace Text

/-- The bytes of a character that has been read are passed over. -/
theorem characters_append {bytes rest : List UInt8} :
    characters bytes.length (bytes ++ rest) = characters 0 rest := by
  induction bytes with
  | nil => rfl
  | cons b bytes ih => exact ih

/-- A character is read from its bytes, whatever follows. -/
theorem characters_utf8EncodeChar (c : Char) (rest : List UInt8) :
    characters 0 (String.utf8EncodeChar c ++ rest) = some c :: characters 0 rest := by
  have hlength : (String.utf8EncodeChar c).length = c.utf8Size := String.length_utf8EncodeChar c
  have hsize : c.utf8Size ≤ 4 := Char.utf8Size_le_four c
  cases hencode : String.utf8EncodeChar c with
  | nil => exact absurd hencode (by simp)
  | cons b bytes =>
      rw [hencode, List.length_cons] at hlength
      have hdecode : (b :: (bytes ++ rest).take 3).toByteArray.utf8DecodeChar? 0 = some c := by
        rw [List.take_append, List.take_of_length_le (by omega), ← List.cons_append, ← hencode,
          List.toByteArray_append]
        exact ByteArray.utf8DecodeChar?_utf8EncodeChar_append
      have hbytes : bytes.length = c.utf8Size - 1 := by omega
      rw [List.cons_append, characters, hdecode]
      dsimp only
      rw [← hbytes, characters_append]

/-- The characters of a text are read from its bytes. -/
theorem characters_utf8 (s : String) : characters 0 (utf8 s) = s.toList.map some := by
  unfold utf8
  induction s.toList with
  | nil => rfl
  | cons c cs ih => rw [List.flatMap_cons, characters_utf8EncodeChar, ih, List.map_cons]

end Text

/-- The bytes of a text hold the document that the text holds. -/
theorem Document.scanBytes_utf8 (s : String) : scanBytes (Text.utf8 s) = scan s := by
  have hrun : ∀ mode frames (cs : List Char),
      Scanner.runBytes mode frames (cs.map some) = Scanner.run mode frames cs := by
    intro mode frames cs
    induction cs generalizing mode frames with
    | nil => rfl
    | cons c cs ih =>
        rw [List.map_cons, Scanner.runBytes, Scanner.run, Option.elim_some]
        cases Scanner.step mode frames c with
        | go mode frames => exact ih mode frames
        | stop document => rfl
  rw [scanBytes, Text.characters_utf8, hrun, scan]

end Storefront
