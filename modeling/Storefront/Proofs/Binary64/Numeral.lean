import Storefront.Proofs.Binary64.Decimal
import Storefront.Proofs.Text.Numeral

/-!
# Numbers from their texts

`Denotes` is the grammar of the texts of numbers, with the exact number that each stands for: a sign
and then the name of what is no number or infinite, or decimal digits with a point and an exponent.
`Binary64.read?` reads exactly the texts of the grammar, and a decimal numeral as the number that is
the nearest one, however many digits it has and however large its exponent is.
-/

namespace Storefront.Binary64

/-- What the text of a number stands for. -/
inductive Quantity where
  | nan
  | infinite (negative : Bool)
  | number (q : ℚ)

/-- `Represents quantity x` says that a number is what a text stands for, rounded if need be. -/
def Quantity.Represents : Quantity → Float → Prop
  | .nan, x => value? x = none
  | .infinite negative, x => value? x = some (if negative then ⊥ else ⊤)
  | .number q, x => IsRounding q x

/-- The signs, which can be left out. -/
inductive IsSign : List Char → Bool → Prop
  | absent : IsSign [] false
  | plus : IsSign ['+'] false
  | minus : IsSign ['-'] true

/-- `Spells cs word` says that characters are those of a word, in any case. -/
def Spells (cs : List Char) (word : String) : Prop :=
  cs.map Char.toLower = word.toList

instance (cs : List Char) (word : String) : Decidable (Spells cs word) :=
  inferInstanceAs (Decidable (_ = _))

/-- An exponent is the letter `e` and an integer, and can be left out. -/
inductive IsExponent : List Char → Int → Prop
  | absent : IsExponent [] 0
  | present {letter : Char} {sign digits : List Char} {negative : Bool} {n : Nat} :
      letter = 'e' ∨ letter = 'E' → IsSign sign negative → Text.IsNumeral digits n →
      IsExponent (letter :: (sign ++ digits)) (signed negative n)

/-- `IsDecimal cs digits exponent` says that characters are the numeral of `digits · 10 ^ exponent`:
digits, with a point among them, before them, or after them, and an exponent. -/
inductive IsDecimal : List Char → Nat → Int → Prop
  | whole {digits rest : List Char} {n : Nat} {exponent : Int} :
      Text.IsNumeral digits n → IsExponent rest exponent → IsDecimal (digits ++ rest) n exponent
  | point {whole fraction rest : List Char} {n : Nat} {exponent : Int} :
      Text.IsNumeral (whole ++ fraction) n → IsExponent rest exponent →
      IsDecimal (whole ++ '.' :: (fraction ++ rest)) n (exponent - fraction.length)

/-- The texts of numbers. -/
inductive Denotes : List Char → Quantity → Prop
  | nan {sign name : List Char} {negative : Bool} :
      IsSign sign negative → Spells name "nan" → Denotes (sign ++ name) .nan
  | infinite {sign name : List Char} {negative : Bool} :
      IsSign sign negative → Spells name "inf" ∨ Spells name "infinity" →
      Denotes (sign ++ name) (.infinite negative)
  | decimal {sign cs : List Char} {negative : Bool} {digits : Nat} {exponent : Int} :
      IsSign sign negative → IsDecimal cs digits exponent →
      Denotes (sign ++ cs) (.number (signed negative digits * 10 ^ exponent))

section

variable {cs sign rest : List Char} {negative : Bool}

/-- What is read as a sign is one. -/
theorem exists_isSign_of_readSign (h : readSign cs = (negative, rest)) :
    ∃ sign, IsSign sign negative ∧ cs = sign ++ rest := by
  unfold readSign at h
  split at h
  · cases h
    exact ⟨_, .minus, rfl⟩
  · cases h
    exact ⟨_, .plus, rfl⟩
  · cases h
    exact ⟨_, .absent, rfl⟩

/-- `HasNoSign cs` says that characters do not begin with a sign. -/
def HasNoSign (cs : List Char) : Prop :=
  cs.head? ≠ some '+' ∧ cs.head? ≠ some '-'

/-- A sign is read up to where it ends. -/
theorem readSign_append (h : IsSign sign negative) (hrest : HasNoSign rest) :
    readSign (sign ++ rest) = (negative, rest) := by
  cases h with
  | plus => rfl
  | minus => rfl
  | absent =>
      rw [List.nil_append, readSign.eq_def]
      split
      · exact absurd rfl hrest.2
      · exact absurd rfl hrest.1
      · rfl

/-- A numeral does not begin with a sign. -/
theorem hasNoSign_of_isNumeral {n : Nat} (h : Text.IsNumeral cs n) : HasNoSign cs :=
  ⟨fun hplus ↦ h.not_mem rfl (List.mem_of_mem_head? hplus),
    fun hminus ↦ h.not_mem rfl (List.mem_of_mem_head? hminus)⟩

/-- An exponent is read as its value, and nothing else is. -/
theorem readExponent?_eq_some_iff {n : Int} : readExponent? cs = some n ↔ IsExponent cs n := by
  constructor
  · intro h
    cases cs with
    | nil =>
        cases h
        exact .absent
    | cons c cs =>
        obtain ⟨⟨negative, digits⟩, hread⟩ : ∃ p, readSign cs = p := ⟨_, rfl⟩
        obtain ⟨sign, hsign, rfl⟩ := exists_isSign_of_readSign hread
        simp only [readExponent?, hread, Bool.or_eq_true, decide_eq_true_eq] at h
        split at h
        · rename_i hletter
          obtain ⟨k, hk, rfl⟩ := Option.map_eq_some_iff.mp h
          exact .present hletter hsign (Text.decimal?_eq_some_iff.mp hk)
        · cases h
  · intro h
    cases h with
    | absent => rfl
    | present hletter hsign hdigits =>
        simp only [readExponent?, Bool.or_eq_true, decide_eq_true_eq]
        rw [if_pos hletter, readSign_append hsign (hasNoSign_of_isNumeral hdigits)]
        simp only [Text.decimal?_eq_some_iff.mpr hdigits, Option.map_some]

/-- An exponent does not begin with a digit or a point. -/
theorem IsExponent.head?_ne {n : Int} (h : IsExponent cs n) {c : Char} (hc : cs.head? = some c) :
    c.isDigit = false ∧ c ≠ '.' := by
  cases h with
  | absent => cases hc
  | present hletter hsign hdigits =>
      obtain rfl := Option.some_inj.mp hc
      rcases hletter with rfl | rfl
      · exact ⟨rfl, by decide⟩
      · exact ⟨rfl, by decide⟩

/-- Digits end where something else follows. -/
theorem span_digits (digits rest : List Char) (hdigits : ∀ c ∈ digits, c.isDigit = true)
    (hrest : ∀ c, rest.head? = some c → c.isDigit = false) :
    (digits ++ rest).takeWhile Char.isDigit = digits ∧
      (digits ++ rest).dropWhile Char.isDigit = rest := by
  rw [List.takeWhile_append_of_pos hdigits, List.dropWhile_append_of_pos hdigits]
  cases rest with
  | nil => simp
  | cons c rest => simp [hrest c rfl]

/-- The digits after a point, if there is one, and what follows them. -/
def readFraction : List Char → List Char × List Char
  | '.' :: more => (more.takeWhile Char.isDigit, more.dropWhile Char.isDigit)
  | more => ([], more)

/-- Without a point there is no fraction. -/
theorem readFraction_of_head?_ne (h : cs.head? ≠ some '.') : readFraction cs = ([], cs) := by
  rw [readFraction.eq_def]
  split
  · exact absurd rfl h
  · rfl

/-- A decimal numeral is read in three pieces: digits, a fraction, and an exponent. -/
theorem readDecimal?_pieces {x : Float} :
    readDecimal? negative cs = some x ↔
      ∃ n, Text.decimal? (cs.takeWhile Char.isDigit ++
          (readFraction (cs.dropWhile Char.isDigit)).1) = some n ∧
        ∃ k, readExponent? (readFraction (cs.dropWhile Char.isDigit)).2 = some k ∧
          ofDecimal negative n (k - (readFraction (cs.dropWhile Char.isDigit)).1.length) = x := by
  have hpieces : readDecimal? negative cs =
      (Text.decimal? (cs.takeWhile Char.isDigit ++
        (readFraction (cs.dropWhile Char.isDigit)).1)).bind fun n ↦
          (readExponent? (readFraction (cs.dropWhile Char.isDigit)).2).bind fun k ↦
            some (ofDecimal negative n
              (k - (readFraction (cs.dropWhile Char.isDigit)).1.length)) := rfl
  rw [hpieces]
  simp only [Option.bind_eq_some_iff, Option.some_inj]

/-- A decimal numeral is read as the number that is nearest to its value, and nothing else is. -/
theorem readDecimal?_eq_some_iff {x : Float} :
    readDecimal? negative cs = some x ↔
      ∃ digits exponent, IsDecimal cs digits exponent ∧ x = ofDecimal negative digits exponent := by
  rw [readDecimal?_pieces]
  constructor
  · rintro ⟨n, hn, k, hk, rfl⟩
    have hsplit : cs = cs.takeWhile Char.isDigit ++ cs.dropWhile Char.isDigit :=
      List.takeWhile_append_dropWhile.symm
    rw [Text.decimal?_eq_some_iff] at hn
    rw [readExponent?_eq_some_iff] at hk
    by_cases hpoint : (cs.dropWhile Char.isDigit).head? = some '.'
    · obtain ⟨more, hmore⟩ := List.head?_eq_some_iff.mp hpoint
      have hfraction : readFraction ('.' :: more) =
          (more.takeWhile Char.isDigit, more.dropWhile Char.isDigit) := rfl
      rw [hmore, ← List.takeWhile_append_dropWhile (p := Char.isDigit) (l := more)] at hsplit
      rw [hmore, hfraction] at hn hk ⊢
      exact ⟨n, _, hsplit ▸ .point hn hk, rfl⟩
    · rw [readFraction_of_head?_ne hpoint] at hn hk ⊢
      refine ⟨n, k, ?_, by simp⟩
      rw [List.append_nil] at hn
      exact hsplit ▸ .whole hn hk
  · rintro ⟨digits, exponent, hdecimal, rfl⟩
    cases hdecimal with
    | whole hdigits hexponent =>
        obtain ⟨htake, hdrop⟩ := span_digits _ _ hdigits.2.1 fun c hc ↦ (hexponent.head?_ne hc).1
        rw [htake, hdrop, readFraction_of_head?_ne fun hpoint ↦ (hexponent.head?_ne hpoint).2 rfl]
        refine ⟨digits, ?_, exponent, readExponent?_eq_some_iff.mpr hexponent, by simp⟩
        rw [List.append_nil]
        exact Text.decimal?_eq_some_iff.mpr hdigits
    | point hdigits hexponent =>
        rename_i whole fraction rest k
        obtain ⟨htake, hdrop⟩ := span_digits whole ('.' :: (fraction ++ rest))
          (fun c hc ↦ hdigits.2.1 c (List.mem_append_left _ hc)) (by simp)
        obtain ⟨htake', hdrop'⟩ := span_digits fraction rest
          (fun c hc ↦ hdigits.2.1 c (List.mem_append_right _ hc))
          fun c hc ↦ (hexponent.head?_ne hc).1
        have hfraction : readFraction ('.' :: (fraction ++ rest)) = (fraction, rest) :=
          Prod.ext htake' hdrop'
        rw [htake, hdrop, hfraction]
        exact ⟨digits, Text.decimal?_eq_some_iff.mpr hdigits, k,
          readExponent?_eq_some_iff.mpr hexponent, rfl⟩

/-- A numeral begins with a digit or a point. -/
theorem IsDecimal.exists_head? {n : Nat} {k : Int} (h : IsDecimal cs n k) :
    ∃ c, cs.head? = some c ∧ (c.isDigit = true ∨ c = '.') := by
  have hdigit : ∀ digits rest : List Char, digits ≠ [] → (∀ c ∈ digits, c.isDigit = true) →
      ∃ c, (digits ++ rest).head? = some c ∧ (c.isDigit = true ∨ c = '.') := by
    intro digits rest hnil hdigits
    cases digits with
    | nil => exact absurd rfl hnil
    | cons c digits => exact ⟨c, rfl, .inl (hdigits c List.mem_cons_self)⟩
  cases h with
  | whole hdigits => exact hdigit _ _ hdigits.1 hdigits.2.1
  | @point whole fraction rest _ _ hdigits =>
      by_cases hwhole : whole = []
      · subst hwhole
        exact ⟨'.', rfl, .inr rfl⟩
      · exact hdigit _ _ hwhole fun c hc ↦ hdigits.2.1 c (List.mem_append_left _ hc)

/-- A word begins with its first letter in some case. -/
theorem Spells.map_head? {word : String} (h : Spells cs word) :
    cs.head?.map Char.toLower = word.toList.head? := by
  rw [← List.head?_map, h]

/-- A word does not begin with a sign if its first letter is none. -/
theorem Spells.hasNoSign {word : String} (h : Spells cs word)
    (hplus : word.toList.head? ≠ some '+') (hminus : word.toList.head? ≠ some '-') :
    HasNoSign cs := by
  refine ⟨fun hhead ↦ hplus ?_, fun hhead ↦ hminus ?_⟩
  · rw [← h.map_head?, hhead]
    rfl
  · rw [← h.map_head?, hhead]
    rfl

/-- Digits have no case. -/
theorem toLower_of_isDigit {c : Char} (h : c.isDigit = true) : c.toLower = c := by
  obtain ⟨d, hd, rfl, -⟩ := Text.exists_digitChar h
  interval_cases d <;> rfl

/-- A numeral is no word. -/
theorem IsDecimal.not_spells {n : Nat} {k : Int} (h : IsDecimal cs n k) {word : String}
    {letter : Char} (hword : word.toList.head? = some letter) (hdigit : letter.isDigit = false)
    (hpoint : letter ≠ '.') : ¬Spells cs word := by
  intro hspells
  obtain ⟨c, hhead, hc⟩ := h.exists_head?
  have hsame := hspells.map_head?
  rw [hhead, hword, Option.map_some, Option.some_inj] at hsame
  rcases hc with hc | rfl
  · rw [toLower_of_isDigit hc] at hsame
    rw [hsame, hdigit] at hc
    cases hc
  · exact hpoint hsame.symm

/-- A numeral does not begin with a sign. -/
theorem IsDecimal.hasNoSign {n : Nat} {k : Int} (h : IsDecimal cs n k) : HasNoSign cs := by
  obtain ⟨c, hhead, hc⟩ := h.exists_head?
  refine ⟨fun hplus ↦ ?_, fun hminus ↦ ?_⟩
  · obtain rfl : c = '+' := Option.some_inj.mp (hhead.symm.trans hplus)
    exact absurd hc (by decide)
  · obtain rfl : c = '-' := Option.some_inj.mp (hhead.symm.trans hminus)
    exact absurd hc (by decide)

/-- After its sign, a text is read by its name or as a numeral. -/
theorem read?_of_readSign {s : String} (h : readSign s.toList = (negative, cs)) :
    read? s =
      if Spells cs "inf" ∨ Spells cs "infinity" then some (withSign negative (2047 * 2 ^ 52))
      else if Spells cs "nan" then some nan
      else readDecimal? negative cs := by
  have hname : ∀ word : String, String.ofList (cs.map Char.toLower) = word ↔ Spells cs word := by
    intro word
    rw [← String.toList_inj, String.toList_ofList, Spells]
  unfold read?
  rw [h]
  simp only [Bool.or_eq_true, decide_eq_true_eq, hname]
  rfl

/-- The one not-a-number has no place. -/
theorem value?_nan : value? nan = none := by
  rw [value?_eq_none_iff]
  rfl

/-- Every text of a number is read as what it stands for. -/
theorem Denotes.exists_read? {s : String} {quantity : Quantity} (h : Denotes s.toList quantity) :
    ∃ x, read? s = some x ∧ quantity.Represents x := by
  generalize hcs : s.toList = cs at h
  cases h with
  | nan hsign hname =>
      have hread := readSign_append hsign (hname.hasNoSign (by decide) (by decide))
      rw [← hcs] at hread
      rw [read?_of_readSign hread, if_neg, if_pos hname]
      · exact ⟨_, rfl, value?_nan⟩
      · rintro (hinf | hinf)
        · exact absurd (hname.symm.trans hinf) (by decide)
        · exact absurd (hname.symm.trans hinf) (by decide)
  | @infinite _ name negative hsign hname =>
      have hfirst : HasNoSign name :=
        hname.elim (fun h ↦ h.hasNoSign (by decide) (by decide))
          fun h ↦ h.hasNoSign (by decide) (by decide)
      have hread := readSign_append hsign hfirst
      rw [← hcs] at hread
      rw [read?_of_readSign hread, if_pos hname]
      refine ⟨_, rfl, ?_⟩
      rw [Quantity.Represents, value?, parts_withSign_infinite, Parts.value?]
  | decimal hsign hdecimal =>
      have hread := readSign_append hsign hdecimal.hasNoSign
      rw [← hcs] at hread
      rw [read?_of_readSign hread, if_neg, if_neg]
      · exact ⟨_, readDecimal?_eq_some_iff.mpr ⟨_, _, hdecimal, rfl⟩, isRounding_ofDecimal _ _ _⟩
      · exact hdecimal.not_spells rfl rfl (by decide)
      · rintro (hinf | hinf)
        · exact hdecimal.not_spells rfl rfl (by decide) hinf
        · exact hdecimal.not_spells rfl rfl (by decide) hinf

/-- What is read is the text of a number. -/
theorem exists_denotes_of_read? {s : String} {x : Float} (h : read? s = some x) :
    ∃ quantity, Denotes s.toList quantity ∧ quantity.Represents x := by
  have hdenotes : ∃ quantity, Denotes s.toList quantity := by
    obtain ⟨⟨negative, cs⟩, hread⟩ : ∃ p, readSign s.toList = p := ⟨_, rfl⟩
    obtain ⟨sign, hsign, hs⟩ := exists_isSign_of_readSign hread
    rw [read?_of_readSign hread] at h
    rw [hs]
    split at h
    · rename_i hname
      exact ⟨_, .infinite hsign hname⟩
    · split at h
      · rename_i hname
        exact ⟨_, .nan hsign hname⟩
      · obtain ⟨digits, exponent, hdecimal, -⟩ := readDecimal?_eq_some_iff.mp h
        exact ⟨_, .decimal hsign hdecimal⟩
  obtain ⟨quantity, hdenotes⟩ := hdenotes
  obtain ⟨y, hy, hrepresents⟩ := hdenotes.exists_read?
  obtain rfl := Option.some_inj.mp (h.symm.trans hy)
  exact ⟨quantity, hdenotes, hrepresents⟩

end

end Storefront.Binary64
