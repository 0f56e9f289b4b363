import Mathlib.Data.List.TakeWhile
import Orazio.Lib.Binary32

/-!
# Text conversions of the C library

What `sprintf`, `sscanf` and `fscanf` do with numbers and words in the "C" locale. Floats are
converted with correct rounding. A number that does not fit into its object, which the standard
leaves undefined, is stored modulo its width by the callers. A scan takes the longest text with which
an item can begin, and fails if that is not an item as a whole.
-/

namespace Stdio

abbrev Text := List Char

def isSpace (c : Char) : Bool :=
  c == ' ' || ('\t' ≤ c && c ≤ '\r')

/-- What `%s` reads: characters that are not white space, one at least. -/
def IsWord (t : Text) : Prop :=
  t ≠ [] ∧ ∀ c ∈ t, isSpace c = false

instance (t : Text) : Decidable (IsWord t) :=
  have := List.decidableBAll (fun c => isSpace c = false) t
  instDecidableAnd

/-- The words that `fscanf` with `%s` reads from a file, one after another. -/
def words (t : Text) : List Text :=
  (t.splitOnP isSpace).filter (· ≠ [])

/-! ### Printing -/

/-- `%u`, also with `h` or `hh`. -/
def printNat (n : Nat) : Text :=
  Nat.toDigits 10 n

def signText (negative : Bool) : Text :=
  if negative then ['-'] else []

/-- `%d`, also with `h` or `hh`. -/
def printInt (z : Int) : Text :=
  signText (decide (z < 0)) ++ printNat z.natAbs

def zeroPad (width : Nat) (t : Text) : Text :=
  List.replicate (width - t.length) '0' ++ t

/-- `%08x`. -/
def printHex (n : Nat) : Text :=
  zeroPad 8 (Nat.toDigits 16 n)

/-- `n` units in the last of `d` decimals. -/
def printDecimal (d n : Nat) : Text :=
  printNat (n / 10 ^ d) ++ '.' :: zeroPad d (printNat (n % 10 ^ d))

/-- `%f` with `d > 0` decimals. -/
def printFixed (d : Nat) (x : Binary32) : Text :=
  signText x.negative ++
    if x.index < Binary32.infinityIndex then printDecimal d (x.inUnits (10 ^ d))
    else if x.index = Binary32.infinityIndex then ['i', 'n', 'f']
    else ['n', 'a', 'n']

/-! ### Scanning -/

def scanSign : Text → Bool × Text
  | '-' :: s => (true, s)
  | '+' :: s => (false, s)
  | s => (false, s)

/-- A sign, if there is one, and digits. -/
def scanDigits (s : Text) : Option Int :=
  let (negative, s) := scanSign s
  let digits := s.takeWhile Char.isDigit
  if digits = [] then none
  else
    let n := Nat.ofDigitChars 10 digits 0
    some (if negative then -n else n)

/-- `%d`, `%u`, also with `h` or `hh`. -/
def scanInt (s : Text) : Option Int :=
  scanDigits (s.dropWhile isSpace)

def hexDigit (c : Char) : Option Nat :=
  if c.isDigit then some (c.toNat - 48)
  else if 'a' ≤ c ∧ c ≤ 'f' then some (c.toNat - 87)
  else if 'A' ≤ c ∧ c ≤ 'F' then some (c.toNat - 55)
  else none

def isHexDigit (c : Char) : Bool :=
  (hexDigit c).isSome

def hexValue (digits : Text) : Nat :=
  (digits.filterMap hexDigit).foldl (fun n d => 16 * n + d) 0

/-- `%x`. -/
def scanHex (s : Text) : Option Int :=
  let (negative, s) := scanSign (s.dropWhile isSpace)
  let s := match s with
    | '0' :: 'x' :: s => s
    | '0' :: 'X' :: s => s
    | s => s
  let digits := s.takeWhile isHexDigit
  if digits = [] then none
  else
    let n := hexValue digits
    some (if negative then -n else n)

/-- The digits behind a point, if there is one, and the rest. -/
def scanFraction (isDigit : Char → Bool) : Text → Text × Text
  | '.' :: s => (s.takeWhile isDigit, s.dropWhile isDigit)
  | s => ([], s)

/-- The exponent of a float behind one of these letters, `none` if its digits are missing. -/
def scanExponent (letters : Text) : Text → Option Int
  | c :: s => if c ∈ letters then scanDigits s else some 0
  | [] => some 0

/-- Digits with a point among them or without, and an exponent. -/
def scanDecimal (negative : Bool) (s : Text) : Option Binary32 :=
  let whole := s.takeWhile Char.isDigit
  let fraction := scanFraction Char.isDigit (s.dropWhile Char.isDigit)
  if whole ++ fraction.1 = [] then none
  else
    match scanExponent ['e', 'E'] fraction.2 with
    | none => none
    | some e =>
      some (.nearest negative (Nat.ofDigitChars 10 (whole ++ fraction.1) 0 * 10 ^ e.toNat)
        (10 ^ (fraction.1.length + (-e).toNat)))

/-- The same behind `0x`, with hexadecimal digits and an exponent of two. -/
def scanHexadecimal (negative : Bool) (s : Text) : Option Binary32 :=
  let whole := s.takeWhile isHexDigit
  let fraction := scanFraction isHexDigit (s.dropWhile isHexDigit)
  if whole ++ fraction.1 = [] then none
  else
    match scanExponent ['p', 'P'] fraction.2 with
    | none => none
    | some e =>
      some (.nearest negative (hexValue (whole ++ fraction.1) * 2 ^ e.toNat)
        (2 ^ (4 * fraction.1.length + (-e).toNat)))

def scanNumber (negative : Bool) : Text → Option Binary32
  | '0' :: 'x' :: s => scanHexadecimal negative s
  | '0' :: 'X' :: s => scanHexadecimal negative s
  | s => scanDecimal negative s

/-- `inf`, `infinity` or `nan` in small letters, as an index. Letters, digits and underscores between
parentheses may follow `nan`; they say nothing. -/
def scanName (small : Text) : Option Nat :=
  if ['i', 'n', 'f', 'i', 'n', 'i', 't', 'y'] <+: small then some Binary32.infinityIndex
  else if ['i', 'n', 'f', 'i'] <+: small then none
  else if ['i', 'n', 'f'] <+: small then some Binary32.infinityIndex
  else if ['n', 'a', 'n', '('] <+: small then
    if ((small.drop 4).dropWhile fun c => c.isAlphanum || c == '_').head? = some ')' then
      some (Binary32.infinityIndex + 2 ^ 22)
    else none
  else if ['n', 'a', 'n'] <+: small then some (Binary32.infinityIndex + 2 ^ 22)
  else none

/-- `%f`. -/
def scanFloat (s : Text) : Option Binary32 :=
  let (negative, s) := scanSign (s.dropWhile isSpace)
  let small := s.map Char.toLower
  if small.head? = some 'i' ∨ small.head? = some 'n' then (scanName small).map (.ofIndex negative)
  else scanNumber negative s

example : scanFloat ['-', '0', 'x', '1', '.', '8', 'p', '1'] = some (.nearest true 3 1) := by
  decide +kernel

example : scanFloat ['i', 'n', 'f', 'i'] = none := by
  decide

/-- What `sscanf` with one conversion returns. -/
def scanned {α : Type} (s : Text) : Option α → Int
  | some _ => 1
  | none => if s.all isSpace then -1 else 0

/-! ### Words -/

lemma isSpace_of_isDigit {c : Char} (hc : c.isDigit) : isSpace c = false := by
  have hdigit : 48 ≤ c.toNat := by
    simp only [Char.isDigit, Bool.and_eq_true, decide_eq_true_eq] at hc
    exact UInt32.le_iff_toNat_le.mp hc.1
  unfold isSpace
  rw [Bool.or_eq_false_iff, Bool.and_eq_false_iff]
  refine ⟨?_, .inr ?_⟩
  · rw [beq_eq_false_iff_ne]
    rintro rfl
    exact absurd hdigit (by decide)
  · rw [decide_eq_false_iff_not]
    intro hle
    have hle' : c.toNat ≤ 13 := UInt32.le_iff_toNat_le.mp hle
    omega

lemma words_nil : words [] = [] := rfl

lemma words_cons {w : Text} (hw : IsWord w) {c : Char} (hc : isSpace c) (t : Text) :
    words (w ++ c :: t) = w :: words t := by
  rw [words, List.splitOnP_append_cons_of_forall_mem hw.2 c hc,
    List.filter_cons_of_pos (by simpa using hw.1)]
  rfl

lemma isWord_append {t u : Text} (ht : ∀ c ∈ t, isSpace c = false) (hu : IsWord u) :
    IsWord (t ++ u) := by
  refine ⟨by simp [hu.1], ?_⟩
  intro c hc
  rcases List.mem_append.mp hc with hc | hc
  · exact ht c hc
  · exact hu.2 c hc

lemma isWord_signText {t : Text} (negative : Bool) (ht : IsWord t) :
    IsWord (signText negative ++ t) := by
  apply isWord_append _ ht
  intro c hc
  cases negative with
  | false => exact absurd hc List.not_mem_nil
  | true =>
    rw [List.mem_singleton.mp hc]
    decide

lemma dropWhile_isSpace {t : Text} (ht : IsWord t) : t.dropWhile isSpace = t := by
  obtain ⟨hne, hall⟩ := ht
  obtain ⟨c, cs, rfl⟩ := List.exists_cons_of_ne_nil hne
  rw [List.dropWhile_cons, hall c List.mem_cons_self]
  rfl

lemma isDigit_of_mem_printNat {n : Nat} {c : Char} (hc : c ∈ printNat n) : c.isDigit :=
  Nat.isDigit_of_mem_toDigits (by decide) (by decide) hc

lemma isWord_printNat (n : Nat) : IsWord (printNat n) :=
  ⟨Nat.toDigits_ne_nil, fun _ hc => isSpace_of_isDigit (isDigit_of_mem_printNat hc)⟩

lemma isWord_printInt (z : Int) : IsWord (printInt z) :=
  isWord_signText _ (isWord_printNat z.natAbs)

lemma isDigit_of_mem_zeroPad {width : Nat} {t : Text} (ht : ∀ c ∈ t, c.isDigit) :
    ∀ c ∈ zeroPad width t, c.isDigit := by
  intro c hc
  rcases List.mem_append.mp hc with hc | hc
  · rw [List.eq_of_mem_replicate hc]
    decide
  · exact ht c hc

/-- Every digit is one of the first sixteen, or the star that stands for a larger one. -/
lemma forall_digitChar {P : Char → Prop} (hsmall : ∀ d < 16, P (Nat.digitChar d)) (hstar : P '*')
    (d : Nat) : P d.digitChar := by
  by_cases hd : d < 16
  · exact hsmall d hd
  · rw [Nat.digitChar_eq_star.mpr (by omega)]
    exact hstar

lemma forall_mem_toDigits {b : Nat} (hb : 1 < b) {P : Char → Prop} (hP : ∀ d : Nat, P d.digitChar)
    (n : Nat) : ∀ c ∈ Nat.toDigits b n, P c := by
  induction n using Nat.strong_induction_on with
  | _ n ih =>
    intro c hc
    rw [Nat.toDigits_eq_if hb] at hc
    split at hc
    · rw [List.mem_singleton.mp hc]
      exact hP n
    · rcases List.mem_append.mp hc with hc | hc
      · exact ih (n / b) (Nat.div_lt_self (by omega) hb) c hc
      · rw [List.mem_singleton.mp hc]
        exact hP (n % b)

lemma isSpace_of_mem_toDigits {b : Nat} (hb : 1 < b) (n : Nat) :
    ∀ c ∈ Nat.toDigits b n, isSpace c = false :=
  forall_mem_toDigits hb (forall_digitChar (P := fun c => isSpace c = false) (by decide) (by decide)) n

lemma isWord_printHex (n : Nat) : IsWord (printHex n) := by
  apply isWord_append _ ⟨Nat.toDigits_ne_nil, isSpace_of_mem_toDigits (by decide) n⟩
  intro c hc
  rw [List.eq_of_mem_replicate hc]
  decide

lemma isWord_printDecimal (d n : Nat) : IsWord (printDecimal d n) := by
  refine ⟨by simp [printDecimal], ?_⟩
  intro c hc
  rcases List.mem_append.mp hc with hc | hc
  · exact (isWord_printNat _).2 c hc
  · rcases List.mem_cons.mp hc with rfl | hc
    · decide
    · exact isSpace_of_isDigit (isDigit_of_mem_zeroPad (fun _ h => isDigit_of_mem_printNat h) c hc)

lemma isWord_printFixed (d : Nat) (x : Binary32) : IsWord (printFixed d x) := by
  apply isWord_signText
  split_ifs
  · exact isWord_printDecimal d _
  · decide
  · decide

/-! ### Reading what was printed -/

lemma takeWhile_printNat (n : Nat) : (printNat n).takeWhile Char.isDigit = printNat n :=
  List.takeWhile_eq_self_iff.mpr fun _ hc => isDigit_of_mem_printNat hc

/-- A text that does not begin with a sign. -/
lemma scanSign_signText (negative : Bool) {c : Char} {cs : Text} (hminus : c ≠ '-') (hplus : c ≠ '+') :
    scanSign (signText negative ++ c :: cs) = (negative, c :: cs) := by
  cases negative with
  | true => rfl
  | false =>
    change scanSign (c :: cs) = _
    unfold scanSign
    split
    · rename_i heq
      cases heq
      exact absurd rfl hminus
    · rename_i heq
      cases heq
      exact absurd rfl hplus
    · rfl

lemma not_sign_of_isDigit {c : Char} (hc : c.isDigit) : c ≠ '-' ∧ c ≠ '+' := by
  constructor
  · rintro rfl
    exact absurd hc (by decide)
  · rintro rfl
    exact absurd hc (by decide)

lemma printNat_eq_cons (n : Nat) : ∃ c cs, printNat n = c :: cs ∧ c.isDigit := by
  obtain ⟨c, cs, heq⟩ := List.exists_cons_of_ne_nil (isWord_printNat n).1
  exact ⟨c, cs, heq, isDigit_of_mem_printNat (heq ▸ List.mem_cons_self)⟩

lemma scanInt_printInt (z : Int) : scanInt (printInt z) = some z := by
  obtain ⟨c, cs, heq, hdigit⟩ := printNat_eq_cons z.natAbs
  obtain ⟨hminus, hplus⟩ := not_sign_of_isDigit hdigit
  rw [scanInt, dropWhile_isSpace (isWord_printInt z), printInt, heq, scanDigits,
    scanSign_signText _ hminus hplus, ← heq]
  dsimp only
  rw [takeWhile_printNat, if_neg (isWord_printNat _).1, printNat, Nat.ofDigitChars_ten_toDigits]
  by_cases hz : z < 0
  · rw [if_pos (decide_eq_true hz)]
    congr 1
    omega
  · rw [if_neg (by simpa using hz)]
    congr 1
    omega

lemma scanInt_printNat (n : Nat) : scanInt (printNat n) = some (n : Int) := by
  have hprint : printNat n = printInt n := by
    simp [printInt, signText]
  rw [hprint, scanInt_printInt]

lemma length_zeroPad {width : Nat} {t : Text} (ht : t.length ≤ width) :
    (zeroPad width t).length = width := by
  rw [zeroPad, List.length_append, List.length_replicate]
  omega

lemma ofDigitChars_zeroPad (width : Nat) (t : Text) (init : Nat) :
    Nat.ofDigitChars 10 (zeroPad width t) init =
      Nat.ofDigitChars 10 t (10 ^ (width - t.length) * init) := by
  rw [zeroPad, Nat.ofDigitChars_append, Nat.ofDigitChars_replicate_zero]

lemma length_printNat_le {n width : Nat} (hwidth : 0 < width) (hn : n < 10 ^ width) :
    (printNat n).length ≤ width :=
  (Nat.length_toDigits_le_iff (by decide) hwidth).mpr hn

/-- The digits of a decimal number without its point. -/
lemma ofDigitChars_decimal {d : Nat} (hd : 0 < d) (n : Nat) :
    Nat.ofDigitChars 10 (printNat (n / 10 ^ d) ++ zeroPad d (printNat (n % 10 ^ d))) 0 = n := by
  have hlen := length_printNat_le hd (Nat.mod_lt n (Nat.pow_pos (n := d) (by decide : 0 < 10)))
  have hpow : 10 ^ (printNat (n % 10 ^ d)).length * 10 ^ (d - (printNat (n % 10 ^ d)).length) =
      10 ^ d := by
    rw [← pow_add, Nat.add_sub_cancel' hlen]
  rw [Nat.ofDigitChars_append, ofDigitChars_zeroPad, Nat.ofDigitChars_eq_ofDigitChars_zero]
  simp only [printNat, Nat.ofDigitChars_ten_toDigits] at hpow ⊢
  rw [← mul_assoc, hpow, Nat.div_add_mod]

lemma toLower_ne_of_isDigit {c : Char} (hc : c.isDigit) {l : Char} (hl : l.isDigit = false) :
    c.toLower ≠ l := by
  have hdigit : c.val ≤ 57 := by
    simp only [Char.isDigit, Bool.and_eq_true, decide_eq_true_eq] at hc
    exact hc.2
  have hsame : c.toLower = c := by
    apply dif_neg
    rintro ⟨hge, -⟩
    exact absurd (UInt32.le_trans hge hdigit) (by decide)
  rintro rfl
  rw [hsame, hc] at hl
  cases hl

lemma scanDecimal_printDecimal {d : Nat} (hd : 0 < d) (negative : Bool) (n : Nat) :
    scanDecimal negative (printDecimal d n) = some (.nearest negative n (10 ^ d)) := by
  have hfraction : ∀ c ∈ zeroPad d (printNat (n % 10 ^ d)), c.isDigit :=
    isDigit_of_mem_zeroPad fun _ h => isDigit_of_mem_printNat h
  have hlen : (zeroPad d (printNat (n % 10 ^ d))).length = d :=
    length_zeroPad (length_printNat_le hd (Nat.mod_lt n (Nat.pow_pos (by decide))))
  have htake : (printDecimal d n).takeWhile Char.isDigit = printNat (n / 10 ^ d) := by
    rw [printDecimal, List.takeWhile_append_of_pos fun _ h => isDigit_of_mem_printNat h]
    simp [Char.isDigit]
  have hdrop : (printDecimal d n).dropWhile Char.isDigit = '.' :: zeroPad d (printNat (n % 10 ^ d)) := by
    rw [printDecimal, List.dropWhile_append_of_pos fun _ h => isDigit_of_mem_printNat h]
    simp [Char.isDigit]
  have hscan : scanFraction Char.isDigit ('.' :: zeroPad d (printNat (n % 10 ^ d))) =
      (zeroPad d (printNat (n % 10 ^ d)), []) := by
    rw [scanFraction, List.takeWhile_eq_self_iff.mpr hfraction, List.dropWhile_eq_nil_iff.mpr hfraction]
  have hne : printNat (n / 10 ^ d) ++ zeroPad d (printNat (n % 10 ^ d)) ≠ [] := by
    simp [(isWord_printNat _).1]
  unfold scanDecimal
  simp only [htake, hdrop, hscan, if_neg hne, scanExponent, ofDigitChars_decimal hd, hlen, Int.toNat_zero,
    pow_zero, mul_one, neg_zero, add_zero]

/-- Only an `x` behind the first digit begins a hexadecimal number. -/
lemma scanNumber_eq_scanDecimal (negative : Bool) {c d : Char} {s : Text} (hd : d ≠ 'x' ∧ d ≠ 'X') :
    scanNumber negative (c :: d :: s) = scanDecimal negative (c :: d :: s) := by
  unfold scanNumber
  split
  · next heq =>
    cases heq
    exact absurd rfl hd.1
  · next heq =>
    cases heq
    exact absurd rfl hd.2
  · rfl

lemma scanNumber_printDecimal {d : Nat} (hd : 0 < d) (negative : Bool) (n : Nat) :
    scanNumber negative (printDecimal d n) = some (.nearest negative n (10 ^ d)) := by
  rw [← scanDecimal_printDecimal hd, printDecimal]
  have hdigits : ∀ c ∈ printNat (n / 10 ^ d), c.isDigit := fun c hc => isDigit_of_mem_printNat hc
  have hne := (isWord_printNat (n / 10 ^ d)).1
  generalize printNat (n / 10 ^ d) = whole at hdigits hne
  match whole with
  | [] => exact absurd rfl hne
  | [c] => exact scanNumber_eq_scanDecimal negative (by decide)
  | c :: c' :: cs =>
    have hdigit : c'.isDigit := hdigits c' (List.mem_cons_of_mem c List.mem_cons_self)
    refine scanNumber_eq_scanDecimal negative ⟨?_, ?_⟩
    · rintro rfl
      exact absurd hdigit (by decide)
    · rintro rfl
      exact absurd hdigit (by decide)

/-- A finite float written with `d` decimals is read as the float nearest to what was written. -/
theorem scanFloat_printFixed {d : Nat} (hd : 0 < d) {x : Binary32} (hx : x.Finite) :
    scanFloat (printFixed d x) =
      some (.nearest x.negative (x.inUnits (10 ^ d)) (10 ^ d)) := by
  have hprint : printFixed d x = signText x.negative ++ printDecimal d (x.inUnits (10 ^ d)) := by
    unfold printFixed
    exact congrArg _ (if_pos hx)
  rw [← scanNumber_printDecimal hd]
  generalize x.inUnits (10 ^ d) = n at hprint ⊢
  obtain ⟨c, cs, heq, hdigit⟩ := printNat_eq_cons (n / 10 ^ d)
  obtain ⟨hminus, hplus⟩ := not_sign_of_isDigit hdigit
  have hdecimal : printDecimal d n = c :: (cs ++ '.' :: zeroPad d (printNat (n % 10 ^ d))) := by
    rw [printDecimal, heq]
    rfl
  have hname : ¬(((printDecimal d n).map Char.toLower).head? = some 'i' ∨
      ((printDecimal d n).map Char.toLower).head? = some 'n') := by
    rw [hdecimal, List.map_cons, List.head?_cons]
    rintro (h | h)
    · exact toLower_ne_of_isDigit hdigit (by decide) (Option.some.inj h)
    · exact toLower_ne_of_isDigit hdigit (by decide) (Option.some.inj h)
  have hsign : scanSign ((printFixed d x).dropWhile isSpace) = (x.negative, printDecimal d n) := by
    rw [dropWhile_isSpace (isWord_printFixed d x), hprint, hdecimal]
    exact scanSign_signText _ hminus hplus
  unfold scanFloat
  simp only [hsign, if_neg hname]

/-! ### Lengths -/

lemma length_signText_le (negative : Bool) : (signText negative).length ≤ 1 := by
  cases negative <;> decide

lemma length_printInt_le {z : Int} {width : Nat} (hwidth : 0 < width) (hz : z.natAbs < 10 ^ width) :
    (printInt z).length ≤ width + 1 := by
  have hsign := length_signText_le (decide (z < 0))
  have hdigits := length_printNat_le hwidth hz
  rw [printInt, List.length_append]
  omega

lemma length_printHex_le {n : Nat} (hn : n < 16 ^ 8) : (printHex n).length ≤ 8 := by
  rw [printHex, length_zeroPad ((Nat.length_toDigits_le_iff (by decide) (by decide)).mpr hn)]

/-- The largest float has 39 digits in front of the point. -/
lemma length_printFixed_le {d : Nat} (hd : 0 < d) (x : Binary32) : (printFixed d x).length ≤ d + 41 := by
  have hsign := length_signText_le x.negative
  rw [printFixed, List.length_append]
  split_ifs with hfinite hinfinity
  · have hunits := Binary32.inUnits_le hfinite (10 ^ d)
    have hwhole : x.inUnits (10 ^ d) / 10 ^ d < 10 ^ 39 := by
      have hquot := Nat.div_le_of_le_mul (hunits.trans (Nat.mul_comm _ _).le)
      exact lt_of_le_of_lt hquot (by decide)
    have hdigits := length_printNat_le (by decide) hwhole
    have hfraction : (zeroPad d (printNat (x.inUnits (10 ^ d) % 10 ^ d))).length = d :=
      length_zeroPad (length_printNat_le hd (Nat.mod_lt _ (Nat.pow_pos (by decide))))
    rw [printDecimal, List.length_append, List.length_cons, hfraction]
    omega
  · simp only [List.length_cons, List.length_nil]
    omega
  · simp only [List.length_cons, List.length_nil]
    omega

end Stdio
