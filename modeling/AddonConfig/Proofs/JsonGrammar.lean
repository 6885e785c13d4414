import AddonConfig.Json.Reader
import AddonConfig.Proofs.Records
import Mathlib

/-!
# The grammar of JSON text

`Spaced` says which lexemes a text consists of, and `Spells` which lexemes a value. Whatever `Json.read`
accepts is spelled by lexemes of its text (`spelled_of_read`), so a claim about another reader of the same
text can be made on lexemes.
-/

namespace AddonConfig.Json

/-! ### Lexemes -/

/-- The brackets of arrays and objects. -/
inductive Bracket where
  | square
  | curly
  deriving DecidableEq

def Bracket.opener : Bracket → Char
  | .square => '['
  | .curly => '\x7b'

def Bracket.closer : Bracket → Char
  | .square => ']'
  | .curly => '\x7d'

/-- What a JSON text consists of, blanks apart. -/
inductive Lexeme where
  | opening (bracket : Bracket)
  | closing (bracket : Bracket)
  | comma
  | colon
  /-- A keyword or a numeral. -/
  | word (chars : List Char)
  | quoted (text : String)
  deriving DecidableEq

/-- The characters of keywords and numerals. -/
def isWordSign (c : Char) : Bool := c.isAlphanum || c = '+' || c = '-' || c = '.'

/-- A keyword or a numeral, by its characters: it begins with a letter or digit, or a hyphen before a
digit. -/
structure IsWord (chars : List Char) : Prop where
  signs : ∀ c ∈ chars, isWordSign c = true
  head : ∃ c rest, chars = c :: rest ∧
    (c.isAlphanum = true ∨ c = '-' ∧ ∃ d digits, rest = d :: digits ∧ d.isDigit = true)

/-- The escapes of one letter. -/
def letterEscapes : List (Char × Char) :=
  [('"', '"'), ('\\', '\\'), ('/', '/'), ('b', '\x08'), ('f', '\x0c'), ('n', '\n'), ('r', '\r'), ('t', '\t')]

/-- What stands after a backslash, and the character it means. -/
inductive Escape : List Char → Char → Prop
  | letter {l c : Char} (h : (l, c) ∈ letterEscapes) : Escape [l] c
  | code {digits : List Char} {code : Nat} (hcount : digits.length = 4) (hcode : ofHexDigits? digits = some code)
      (hhigh : isHighSurrogate code = false) (hlow : isLowSurrogate code = false) :
      Escape ('u' :: digits) (Char.ofNat code)
  /-- Two surrogates make one character. -/
  | pair {digits others : List Char} {first second : Nat} (c : Char) (hcount : digits.length = 4)
      (hfirst : ofHexDigits? digits = some first) (hhigh : isHighSurrogate first = true)
      (hothers : others.length = 4) (hsecond : ofHexDigits? others = some second) :
      Escape ('u' :: digits ++ '\\' :: 'u' :: others) c

/-- The characters between the quotes of a string, and those they mean. -/
inductive Raw : List Char → List Char → Prop
  | nil : Raw [] []
  | char {c : Char} {raw chars : List Char} (hcontrol : 32 ≤ c.toNat) (hquote : c ≠ '"') (hslash : c ≠ '\\')
      (h : Raw raw chars) : Raw (c :: raw) (c :: chars)
  | escape {escape : List Char} {c : Char} {raw chars : List Char} (hescape : Escape escape c)
      (h : Raw raw chars) : Raw ('\\' :: escape ++ raw) (c :: chars)

/-- How a lexeme is written. -/
inductive Spelled : Lexeme → List Char → Prop
  | opening (bracket : Bracket) : Spelled (.opening bracket) [bracket.opener]
  | closing (bracket : Bracket) : Spelled (.closing bracket) [bracket.closer]
  | comma : Spelled .comma [',']
  | colon : Spelled .colon [':']
  | word {chars : List Char} (h : IsWord chars) : Spelled (.word chars) chars
  | quoted {raw chars : List Char} (h : Raw raw chars) :
      Spelled (.quoted (String.ofList chars)) ('"' :: raw ++ ['"'])

/-- The lexemes of a text in order, with blanks anywhere between them. -/
inductive Spaced : List Lexeme → List Char → Prop
  | nil : Spaced [] []
  | blank {c : Char} {lexemes : List Lexeme} {text : List Char} (hblank : isBlank c = true)
      (h : Spaced lexemes text) : Spaced lexemes (c :: text)
  | lexeme {lexeme : Lexeme} {chars : List Char} {lexemes : List Lexeme} {text : List Char}
      (hlexeme : Spelled lexeme chars) (h : Spaced lexemes text) : Spaced (lexeme :: lexemes) (chars ++ text)

/-! ### Values -/

/-- The value of a keyword or a numeral. -/
inductive WordMeans : List Char → Json → Prop
  | null : WordMeans ['n', 'u', 'l', 'l'] .null
  | trueWord : WordMeans ['t', 'r', 'u', 'e'] (.bool true)
  | falseWord : WordMeans ['f', 'a', 'l', 's', 'e'] (.bool false)
  | number {chars : List Char} {n : Number} (hword : IsWord chars) (h : readNumber chars = .ok (n, [])) :
      WordMeans chars (.num n)

/-- What lexemes spell: a value, or what is left of a collection after its bracket. -/
inductive Phrase where
  | value (value : Json)
  | items (items : List Json)
  | members (entries : List (String × Json))

/-- The lexemes of a value, of the items of an array and of the members of an object. -/
inductive Spells : Phrase → List Lexeme → Prop
  | word {chars : List Char} {value : Json} (h : WordMeans chars value) : Spells (.value value) [.word chars]
  | quoted (text : String) : Spells (.value (.str text)) [.quoted text]
  | emptyArray : Spells (.value (.arr [])) [.opening .square, .closing .square]
  | array {items : List Json} {lexemes : List Lexeme} (h : Spells (.items items) lexemes) :
      Spells (.value (.arr items)) (.opening .square :: lexemes)
  | lastItem {item : Json} {lexemes : List Lexeme} (h : Spells (.value item) lexemes) :
      Spells (.items [item]) (lexemes ++ [.closing .square])
  | item {item : Json} {items : List Json} {first lexemes : List Lexeme} (hfirst : Spells (.value item) first)
      (h : Spells (.items items) lexemes) : Spells (.items (item :: items)) (first ++ .comma :: lexemes)
  | emptyObject : Spells (.value (ofMembers [])) [.opening .curly, .closing .curly]
  | object {entries : List (String × Json)} {lexemes : List Lexeme} (h : Spells (.members entries) lexemes) :
      Spells (.value (ofMembers entries)) (.opening .curly :: lexemes)
  | lastMember {name : String} {value : Json} {lexemes : List Lexeme} (h : Spells (.value value) lexemes) :
      Spells (.members [(name, value)]) (.quoted name :: .colon :: lexemes ++ [.closing .curly])
  | member {name : String} {value : Json} {entries : List (String × Json)} {first lexemes : List Lexeme}
      (hfirst : Spells (.value value) first) (h : Spells (.members entries) lexemes) :
      Spells (.members ((name, value) :: entries)) (.quoted name :: .colon :: first ++ .comma :: lexemes)

/-! ### Strings -/

theorem hex4_eq_ok {text rest : List Char} {code : Nat} (h : readHex4 text = .ok (code, rest)) :
    ∃ digits, text = digits ++ rest ∧ digits.length = 4 ∧ ofHexDigits? digits = some code := by
  unfold readHex4 at h
  split at h
  case h_1 a b c d rest =>
    split at h
    case h_1 code hcode =>
      cases h
      exact ⟨[a, b, c, d], rfl, rfl, hcode⟩
    case h_2 => cases h
  case h_2 => cases h

/-- A `\u` escape, with the partner of a surrogate. -/
theorem unicode_eq_ok {text rest : List Char} {c : Char} (h : readUnicode text = .ok (c, rest)) :
    ∃ escape, 'u' :: text = escape ++ rest ∧ Escape escape c := by
  obtain ⟨⟨first, after⟩, hfirst, hread⟩ := bind_ok_inv h
  obtain ⟨digits, rfl, hcount, hcode⟩ := hex4_eq_ok hfirst
  clear h
  cases hlow : isLowSurrogate first with
  | true => simp only [hlow] at hread; cases hread
  | false =>
    cases hhigh : isHighSurrogate first with
    | false =>
      simp only [hlow, hhigh] at hread
      cases hread
      exact ⟨'u' :: digits, rfl, .code hcount hcode hhigh hlow⟩
    | true =>
      simp only [hlow, hhigh, Bool.false_eq_true, if_false, if_true] at hread
      split at hread
      case h_1 after =>
        obtain ⟨⟨second, left⟩, hsecond, hpair⟩ := bind_ok_inv hread
        obtain ⟨others, rfl, hothers, hcode'⟩ := hex4_eq_ok hsecond
        clear hread
        cases hpartner : isLowSurrogate second with
        | false => simp only [hpartner] at hpair; cases hpair
        | true =>
          simp only [hpartner, if_true] at hpair
          obtain ⟨rfl, rfl⟩ := Prod.mk.inj (Except.ok.inj hpair)
          exact ⟨'u' :: digits ++ '\\' :: 'u' :: others, by simp, .pair _ hcount hcode hhigh hothers hcode'⟩
      case h_2 => cases hread

theorem escape_eq_ok {text rest : List Char} {c : Char} (h : readEscape text = .ok (c, rest)) :
    ∃ escape, text = escape ++ rest ∧ Escape escape c := by
  cases text with
  | nil => cases h
  | cons l text =>
    simp only [readEscape] at h
    have hletter : ∀ {meant : Char}, (l, meant) ∈ letterEscapes → (.ok (meant, text) : Except ReadError _) = .ok (c, rest) →
        ∃ escape, l :: text = escape ++ rest ∧ Escape escape c := by
      intro meant hmem heq
      cases heq
      exact ⟨[l], rfl, .letter hmem⟩
    split_ifs at h with hself hb hf hn hr ht hu
    · rcases hself with rfl | rfl | rfl <;> exact hletter (by simp [letterEscapes]) h
    · subst hb; exact hletter (by simp [letterEscapes]) h
    · subst hf; exact hletter (by simp [letterEscapes]) h
    · subst hn; exact hletter (by simp [letterEscapes]) h
    · subst hr; exact hletter (by simp [letterEscapes]) h
    · subst ht; exact hletter (by simp [letterEscapes]) h
    · subst hu; exact unicode_eq_ok h

theorem chars_eq_ok {fuel : Nat} {done text rest : List Char} {s : String}
    (h : readChars fuel done text = .ok (s, rest)) :
    ∃ raw chars, text = raw ++ '"' :: rest ∧ Raw raw chars ∧ s = String.ofList (done.reverse ++ chars) := by
  induction fuel generalizing done text with
  | zero => cases h
  | succ fuel ih =>
    unfold readChars at h
    split at h
    case h_1 => cases h
    case h_2 =>
      cases h
      exact ⟨[], [], rfl, .nil, by simp⟩
    case h_3 left =>
      obtain ⟨⟨c, after⟩, hescape, hread⟩ := bind_ok_inv h
      obtain ⟨raw, chars, rfl, hraw, rfl⟩ := ih hread
      obtain ⟨escape, rfl, hmeans⟩ := escape_eq_ok hescape
      exact ⟨'\\' :: escape ++ raw, c :: chars, by simp, .escape hmeans hraw, by simp⟩
    case h_4 c left hquote hslash =>
      split_ifs at h with hcontrol
      obtain ⟨raw, chars, rfl, hraw, rfl⟩ := ih h
      refine ⟨c :: raw, c :: chars, by simp, .char (by omega) ?_ ?_ hraw, by simp⟩
      · rintro rfl; exact hquote rfl
      · rintro rfl; exact hslash rfl

theorem string_eq_ok {text rest : List Char} {s : String} (h : readString text = .ok (s, rest)) :
    ∃ raw chars, text = raw ++ '"' :: rest ∧ Raw raw chars ∧ s = String.ofList chars :=
  chars_eq_ok h

/-! ### Numerals -/

theorem isWordSign_of_digits {run : List Char} (h : ∀ c ∈ run, c.isDigit = true) : ∀ c ∈ run, isWordSign c = true := by
  intro c hc
  simp [isWordSign, Char.isAlphanum, h c hc]

theorem digits_takeWhile (text : List Char) : ∀ c ∈ text.takeWhile Char.isDigit, c.isDigit = true :=
  fun c hc => List.all_eq_true.1 List.all_takeWhile c hc

/-- A run of digits ends where it did if less follows. -/
theorem span_digits {text pre rest : List Char} (h : text.dropWhile Char.isDigit = pre ++ rest) :
    (text.takeWhile Char.isDigit ++ pre).takeWhile Char.isDigit = text.takeWhile Char.isDigit ∧
      (text.takeWhile Char.isDigit ++ pre).dropWhile Char.isDigit = pre := by
  have hall := digits_takeWhile text
  have hpre : pre.takeWhile Char.isDigit = [] ∧ pre.dropWhile Char.isDigit = pre := by
    cases pre with
    | nil => exact ⟨rfl, rfl⟩
    | cons c pre =>
      have hc : c.isDigit = false := by
        have := List.head?_dropWhile_not Char.isDigit text
        rw [h] at this
        simpa using this
      simp [hc]
  rw [List.takeWhile_append_of_pos hall, List.dropWhile_append_of_pos hall, hpre.1, hpre.2]
  simp

/-- A reader of numbers that looks no further than what it takes, which is part of a numeral. -/
def TakesNumeral (reader : Reader Number) : Prop :=
  ∀ text n rest, reader text = .ok (n, rest) →
    ∃ chars, text = chars ++ rest ∧ reader chars = .ok (n, []) ∧ ∀ c ∈ chars, isWordSign c = true

/-- The sign of an exponent, and the text after it. -/
def splitPower : List Char → Bool × List Char
  | '+' :: rest => (false, rest)
  | '-' :: rest => (true, rest)
  | rest => (false, rest)

/-- The number whose exponent a run of digits writes. -/
def powerOf (negative : Bool) (digits : Nat) (exponent : Int) (down : Bool) (run : List Char) :
    Except ReadError Number :=
  let size := run.foldl (fun n c => if n ≤ exponentLimit then n * 10 + digitValue c else n) 0
  if exponentLimit < size then
    if digits ≠ 0 ∧ down = false then .error .numberOutOfRange else .ok (.float (.zero negative))
  else floatOf negative digits (if down then exponent - size else exponent + size)

/-- An exponent is its sign and a run of digits. -/
theorem readExponent_eq (negative : Bool) (digits : Nat) (exponent : Int) (text : List Char) :
    readExponent negative digits exponent text = (match splitPower text with
    | (down, text) => (do
      let run := text.takeWhile Char.isDigit
      let rest := text.dropWhile Char.isDigit
      if run.isEmpty then
        throw (if rest.isEmpty then .unexpectedEnd else .badNumber)
      let size := run.foldl (fun n c => if n ≤ exponentLimit then n * 10 + digitValue c else n) 0
      if exponentLimit < size then
        if digits ≠ 0 ∧ down = false then throw .numberOutOfRange
        return (.float (.zero negative), rest)
      let number ← floatOf negative digits (if down then exponent - size else exponent + size)
      return (number, rest))) :=
  rfl

theorem readExponent_eq_ok {negative : Bool} {digits : Nat} {exponent : Int} {text rest : List Char} {n : Number} :
    readExponent negative digits exponent text = .ok (n, rest) ↔
      (splitPower text).2.takeWhile Char.isDigit ≠ [] ∧ (splitPower text).2.dropWhile Char.isDigit = rest ∧
        powerOf negative digits exponent (splitPower text).1 ((splitPower text).2.takeWhile Char.isDigit)
          = .ok n := by
  rw [readExponent_eq]
  generalize splitPower text = split
  obtain ⟨down, text⟩ := split
  dsimp only [powerOf]
  by_cases hrun : (text.takeWhile Char.isDigit).isEmpty = true
  · simp [throw, throwThe, MonadExceptOf.throw, bind, Except.bind, List.isEmpty_iff.1 hrun]
  · have hne := mt List.isEmpty_iff.2 hrun
    generalize (text.takeWhile Char.isDigit).foldl _ 0 = size
    by_cases hlarge : exponentLimit < size
    · by_cases hout : digits ≠ 0 ∧ down = false
      · simp [hrun, hlarge, hout, throw, throwThe, MonadExceptOf.throw, bind, Except.bind]
      · simp only [hrun, hlarge, hout, hne, if_true, if_false, Bool.false_eq_true, pure, Except.pure,
          Except.ok.injEq, Prod.mk.injEq, ne_eq, not_false_eq_true, true_and]
        exact and_comm
    · simp only [hrun, hlarge, hne, if_false, Bool.false_eq_true, ne_eq, not_false_eq_true, true_and]
      cases floatOf negative digits _ with
      | error e => simp [bind, Except.bind]
      | ok x =>
        simp only [bind, Except.bind, pure, Except.pure, Except.ok.injEq, Prod.mk.injEq]
        exact and_comm

theorem splitPower_spec (text : List Char) :
    ∃ sign, text = sign ++ (splitPower text).2 ∧ (∀ c ∈ sign, isWordSign c = true) ∧
      ∀ run, run ≠ [] → (∀ c ∈ run, c.isDigit = true) → splitPower (sign ++ run) = ((splitPower text).1, run) := by
  unfold splitPower
  split
  case h_1 => exact ⟨['+'], rfl, by simp [isWordSign], fun _ _ _ => rfl⟩
  case h_2 => exact ⟨['-'], rfl, by simp [isWordSign], fun _ _ _ => rfl⟩
  case h_3 =>
    refine ⟨[], rfl, by simp, fun run _ hdigits => ?_⟩
    rw [List.nil_append]
    split
    · cases hdigits '+' List.mem_cons_self
    · cases hdigits '-' List.mem_cons_self
    · rfl

theorem readExponent_takes (negative : Bool) (digits : Nat) (exponent : Int) :
    TakesNumeral (readExponent negative digits exponent) := by
  intro text n rest h
  obtain ⟨hrun, hrest, hpower⟩ := readExponent_eq_ok.1 h
  obtain ⟨sign, htext, hsigns, hsplit⟩ := splitPower_spec text
  generalize splitPower text = split at *
  obtain ⟨down, after⟩ := split
  have hdigits := digits_takeWhile after
  obtain ⟨htake, hdrop⟩ := span_digits (show after.dropWhile Char.isDigit = [] ++ rest from hrest)
  rw [List.append_nil] at htake hdrop
  refine ⟨sign ++ after.takeWhile Char.isDigit, ?_, ?_, ?_⟩
  · rw [htext, List.append_assoc, ← hrest, List.takeWhile_append_dropWhile]
  · refine readExponent_eq_ok.2 ?_
    rw [hsplit _ hrun hdigits]
    exact ⟨by rw [htake]; exact hrun, hdrop, by rw [htake]; exact hpower⟩
  · intro c hc
    rcases List.mem_append.1 hc with hc | hc
    · exact hsigns c hc
    · exact isWordSign_of_digits hdigits c hc

theorem readScale_takes (negative : Bool) (digits : Nat) (exponent : Int) :
    TakesNumeral (readScale negative digits exponent) := by
  intro text n rest h
  unfold readScale at h
  split at h
  case h_1 after =>
    obtain ⟨chars, rfl, hread, hsigns⟩ := readExponent_takes negative digits exponent _ _ _ h
    exact ⟨'e' :: chars, rfl, hread, by simpa [isWordSign] using hsigns⟩
  case h_2 after =>
    obtain ⟨chars, rfl, hread, hsigns⟩ := readExponent_takes negative digits exponent _ _ _ h
    exact ⟨'E' :: chars, rfl, hread, by simpa [isWordSign] using hsigns⟩
  case h_3 =>
    obtain ⟨x, hx, hread⟩ := bind_ok_inv h
    cases hread
    exact ⟨[], rfl, by simp only [readScale, hx]; rfl, by simp⟩

/-- A run of digits in front of what is taken of a number. -/
theorem run_takes {reader : Reader Number} (hreader : TakesNumeral reader) {text rest : List Char} {n : Number}
    (h : reader (text.dropWhile Char.isDigit) = .ok (n, rest)) :
    ∃ chars, text = chars ++ rest ∧ chars.takeWhile Char.isDigit = text.takeWhile Char.isDigit ∧
      reader (chars.dropWhile Char.isDigit) = .ok (n, []) ∧ ∀ c ∈ chars, isWordSign c = true := by
  obtain ⟨chars, hafter, hread, hsigns⟩ := hreader _ _ _ h
  obtain ⟨htake, hdrop⟩ := span_digits hafter
  refine ⟨text.takeWhile Char.isDigit ++ chars, ?_, htake, by rw [hdrop]; exact hread, ?_⟩
  · rw [List.append_assoc, ← hafter, List.takeWhile_append_dropWhile]
  · intro c hc
    rcases List.mem_append.1 hc with hc | hc
    · exact isWordSign_of_digits (digits_takeWhile text) c hc
    · exact hsigns c hc

theorem readFraction_takes (negative : Bool) (whole : Gathered) : TakesNumeral (readFraction negative whole) := by
  intro text n rest h
  unfold readFraction at h
  split at h
  case h_1 after =>
    dsimp only at h
    by_cases hrun : (after.takeWhile Char.isDigit).isEmpty = true
    · rw [if_pos hrun] at h
      cases h
    · rw [if_neg hrun] at h
      obtain ⟨chars, rfl, htake, hread, hsigns⟩ := run_takes (readScale_takes _ _ _) h
      refine ⟨'.' :: chars, rfl, ?_, by simpa [isWordSign] using hsigns⟩
      simp only [readFraction, htake, hrun]
      exact hread
  case h_2 after =>
    obtain ⟨chars, rfl, hread, hsigns⟩ := readExponent_takes _ _ _ _ _ _ h
    exact ⟨'e' :: chars, rfl, hread, by simpa [isWordSign] using hsigns⟩
  case h_3 after =>
    obtain ⟨chars, rfl, hread, hsigns⟩ := readExponent_takes _ _ _ _ _ _ h
    exact ⟨'E' :: chars, rfl, hread, by simpa [isWordSign] using hsigns⟩
  case h_4 =>
    by_cases hwhole : whole.dropped = 0
    · rw [if_pos hwhole] at h
      cases h
      exact ⟨[], rfl, by simp only [readFraction, if_pos hwhole]; rfl, by simp⟩
    · rw [if_neg hwhole] at h
      obtain ⟨x, hx, hread⟩ := bind_ok_inv h
      cases hread
      exact ⟨[], rfl, by simp only [readFraction, if_neg hwhole, hx]; rfl, by simp⟩

/-- A number whose first digit is not zero. -/
theorem readDigits_run {negative : Bool} {c : Char} {text : List Char} (hzero : c ≠ '0') (hc : c.isDigit = true) :
    readDigits negative (c :: text) =
      readFraction negative (Gathered.run ⟨0, 0, 0⟩ ((c :: text).takeWhile Char.isDigit))
        ((c :: text).dropWhile Char.isDigit) := by
  unfold readDigits
  split
  case h_1 heq => cases heq
  case h_2 heq => exact (hzero (List.cons.inj heq).1).elim
  case h_3 heq =>
    obtain ⟨rfl, rfl⟩ := List.cons.inj heq
    rw [if_pos hc]

/-- No digit stands after a zero. -/
theorem readDigits_zero {negative : Bool} {text rest : List Char} {n : Number} :
    readDigits negative ('0' :: text) = .ok (n, rest) ↔
      (∀ c after, text = c :: after → c.isDigit = false) ∧ readFraction negative ⟨0, 0, 0⟩ text = .ok (n, rest) := by
  cases text with
  | nil => simp [readDigits]
  | cons c text =>
    cases hc : c.isDigit with
    | true => simp [readDigits, hc]
    | false => simp [readDigits, hc]

/-- The digits of a number begin with a digit. -/
theorem readDigits_takes {negative : Bool} {text rest : List Char} {n : Number}
    (h : readDigits negative text = .ok (n, rest)) :
    ∃ d digits, text = d :: digits ++ rest ∧ readDigits negative (d :: digits) = .ok (n, []) ∧ d.isDigit = true ∧
      ∀ c ∈ digits, isWordSign c = true := by
  cases text with
  | nil => cases h
  | cons c text =>
    by_cases hzero : c = '0'
    · subst hzero
      obtain ⟨hnext, hfraction⟩ := readDigits_zero.1 h
      obtain ⟨chars, rfl, hread, hsigns⟩ := readFraction_takes _ _ _ _ _ hfraction
      refine ⟨'0', chars, rfl, readDigits_zero.2 ⟨?_, hread⟩, rfl, hsigns⟩
      rintro c after rfl
      exact hnext c _ rfl
    · cases hc : c.isDigit with
      | false => simp [readDigits, hc] at h
      | true =>
        rw [readDigits_run hzero hc] at h
        obtain ⟨chars, htext, htake, hread, hsigns⟩ := run_takes (readFraction_takes _ _) h
        cases chars with
        | nil => simp [hc] at htake
        | cons d digits =>
          obtain ⟨rfl, rfl⟩ := List.cons.inj htext
          refine ⟨c, digits, rfl, ?_, hc, fun x hx => hsigns x (List.mem_cons_of_mem c hx)⟩
          rw [readDigits_run hzero hc, htake]
          exact hread

theorem isAlphanum_of_digit {c : Char} (h : c.isDigit = true) : c.isAlphanum = true := by
  simp [Char.isAlphanum, h]

/-- What is read of a number is a numeral, and read alone it gives the same number. -/
theorem number_eq_ok {text rest : List Char} {n : Number} (h : readNumber text = .ok (n, rest)) :
    ∃ chars, text = chars ++ rest ∧ IsWord chars ∧ WordMeans chars (.num n) := by
  unfold readNumber at h
  split at h
  case h_1 after =>
    obtain ⟨d, digits, rfl, hread, hd, hsigns⟩ := readDigits_takes h
    have hword : IsWord ('-' :: d :: digits) := by
      refine ⟨?_, '-', d :: digits, rfl, .inr ⟨rfl, d, digits, rfl, hd⟩⟩
      simpa [isWordSign, isAlphanum_of_digit hd] using hsigns
    exact ⟨'-' :: d :: digits, rfl, hword, .number hword hread⟩
  case h_2 hminus =>
    obtain ⟨d, digits, rfl, hread, hd, hsigns⟩ := readDigits_takes h
    have hword : IsWord (d :: digits) := by
      refine ⟨?_, d, digits, rfl, .inl (isAlphanum_of_digit hd)⟩
      simpa [isWordSign, isAlphanum_of_digit hd] using hsigns
    refine ⟨d :: digits, rfl, hword, .number hword ?_⟩
    unfold readNumber
    split
    case h_1 heq =>
      obtain ⟨rfl, -⟩ := List.cons.inj heq
      cases hd
    case h_2 => exact hread

/-! ### Values -/

/-- The lexemes in front of a text of other lexemes. -/
def Leads (lexemes : List Lexeme) (text rest : List Char) : Prop :=
  ∀ others, Spaced others rest → Spaced (lexemes ++ others) text

namespace Leads
variable {lexemes others : List Lexeme} {text middle rest : List Char}

theorem trans (h : Leads lexemes text middle) (h' : Leads others middle rest) :
    Leads (lexemes ++ others) text rest := by
  intro more hmore
  rw [List.append_assoc]
  exact h _ (h' _ hmore)

theorem spelled {lexeme : Lexeme} {chars : List Char} (h : Spelled lexeme chars) (rest : List Char) :
    Leads [lexeme] (chars ++ rest) rest :=
  fun _ hothers => .lexeme h hothers

theorem blanks (h : Leads lexemes (skipBlanks text) rest) : Leads lexemes text rest := by
  intro others hothers
  induction text with
  | nil => exact h others hothers
  | cons c text ih =>
    by_cases hc : isBlank c = true
    · refine .blank hc (ih ?_)
      rwa [skipBlanks, List.dropWhile_cons_of_pos hc] at h
    · rw [skipBlanks, List.dropWhile_cons_of_neg hc] at h
      exact h others hothers

/-- One lexeme more, after blanks. -/
theorem next {lexeme : Lexeme} {chars after : List Char} (hlexeme : Spelled lexeme chars)
    (htext : skipBlanks text = chars ++ after) (h : Leads others after rest) :
    Leads (lexeme :: others) text rest := by
  refine Leads.blanks ?_
  rw [htext]
  exact (Leads.spelled hlexeme after).trans h

/-- The last lexeme, after blanks. -/
theorem last {lexeme : Lexeme} {chars : List Char} (hlexeme : Spelled lexeme chars)
    (htext : skipBlanks text = chars ++ rest) : Leads [lexeme] text rest :=
  Leads.next hlexeme htext fun _ hothers => hothers

end Leads

theorem word_eq_ok {value v : Json} {word text rest : List Char} (h : readWord value word text = .ok (v, rest)) :
    v = value ∧ text = word ++ rest := by
  unfold readWord at h
  split_ifs at h with hword
  cases h
  obtain ⟨rest, rfl⟩ := List.isPrefixOf_iff_prefix.1 hword
  simp

/-- Letters make a word. -/
theorem IsWord.of_letters {first : Char} {letters : List Char}
    (h : ∀ c ∈ first :: letters, c.isAlphanum = true) : IsWord (first :: letters) :=
  ⟨fun c hc => by simp [isWordSign, h c hc], first, letters, rfl, .inl (h first List.mem_cons_self)⟩

/-- A keyword from its first letter on. -/
theorem keyword_leads {value v : Json} {first : Char} {letters text after rest : List Char}
    (hmeans : WordMeans (first :: letters) value) (hword : IsWord (first :: letters))
    (htext : skipBlanks text = first :: after) (h : readWord value letters after = .ok (v, rest)) :
    ∃ lexemes, Spells (.value v) lexemes ∧ Leads lexemes text rest := by
  obtain ⟨rfl, rfl⟩ := word_eq_ok h
  exact ⟨_, .word hmeans, .last (.word hword) htext⟩

/-- What the readers of values, items and members accept at one fuel is spelled by the lexemes that they take. -/
structure ReadersSpell (fuel : Nat) : Prop where
  value : ∀ {depth text value rest}, readValue fuel depth text = .ok (value, rest) →
    ∃ lexemes, Spells (.value value) lexemes ∧ Leads lexemes text rest
  items : ∀ {depth done text items rest}, readItems fuel depth done text = .ok (items, rest) →
    ∃ more lexemes, items = done.reverse ++ more ∧ Spells (.items more) lexemes ∧ Leads lexemes text rest
  members : ∀ {depth done text members rest}, readMembers fuel depth done text = .ok (members, rest) →
    ∃ entries lexemes, members = entries.foldl (fun members entry => Members.insert entry.1 entry.2 members) done ∧
      Spells (.members entries) lexemes ∧ Leads lexemes text rest

namespace ReadersSpell
variable {fuel depth : Nat} {text rest : List Char}

theorem succ_value {value : Json} (ih : ReadersSpell fuel)
    (h : readValue (fuel + 1) depth text = .ok (value, rest)) :
    ∃ lexemes, Spells (.value value) lexemes ∧ Leads lexemes text rest := by
  unfold readValue at h
  split at h
  case h_1 => cases h
  case h_2 after htext => exact keyword_leads .null (.of_letters (by simp)) htext h
  case h_3 after htext => exact keyword_leads .trueWord (.of_letters (by simp)) htext h
  case h_4 after htext => exact keyword_leads .falseWord (.of_letters (by simp)) htext h
  case h_5 after htext =>
    obtain ⟨⟨s, left⟩, hstring, hread⟩ := bind_ok_inv h
    cases hread
    obtain ⟨raw, chars, rfl, hraw, rfl⟩ := string_eq_ok hstring
    exact ⟨_, .quoted _, .last (.quoted hraw) (by rw [htext]; simp)⟩
  case h_6 after htext =>
    split at h
    case h_1 => cases h
    case h_2 =>
      split at h
      case h_1 left hafter =>
        cases h
        exact ⟨_, .emptyArray, .next (.opening .square) htext (.last (.closing .square) hafter)⟩
      case h_2 =>
        obtain ⟨⟨items, left⟩, hitems, hread⟩ := bind_ok_inv h
        cases hread
        obtain ⟨more, lexemes, rfl, hmore, hleads⟩ := ih.items hitems
        exact ⟨_, .array hmore, .next (.opening .square) htext hleads.blanks⟩
  case h_7 after htext =>
    split at h
    case h_1 => cases h
    case h_2 =>
      split at h
      case h_1 left hafter =>
        cases h
        exact ⟨_, .emptyObject, .next (.opening .curly) htext (.last (.closing .curly) hafter)⟩
      case h_2 =>
        obtain ⟨⟨members, left⟩, hmembers, hread⟩ := bind_ok_inv h
        cases hread
        obtain ⟨entries, lexemes, rfl, hentries, hleads⟩ := ih.members hmembers
        exact ⟨_, .object hentries, .next (.opening .curly) htext hleads.blanks⟩
  case h_8 c after _ _ _ _ _ _ htext =>
    split_ifs at h with hc
    obtain ⟨⟨n, left⟩, hnumber, hread⟩ := bind_ok_inv h
    cases hread
    obtain ⟨chars, hchars, hword, hmeans⟩ := number_eq_ok hnumber
    exact ⟨_, .word hmeans, .last (.word hword) (by rw [htext, hchars])⟩

theorem succ_items {done items : List Json} (ih : ReadersSpell fuel)
    (h : readItems (fuel + 1) depth done text = .ok (items, rest)) :
    ∃ more lexemes, items = done.reverse ++ more ∧ Spells (.items more) lexemes ∧ Leads lexemes text rest := by
  unfold readItems at h
  obtain ⟨⟨item, after⟩, hitem, hread⟩ := bind_ok_inv h
  obtain ⟨first, hfirst, hleads⟩ := ih.value hitem
  dsimp only at hread
  split at hread
  case h_1 left hafter =>
    obtain ⟨more, lexemes, rfl, hmore, hrest⟩ := ih.items hread
    refine ⟨item :: more, first ++ .comma :: lexemes, by simp, .item hfirst hmore, hleads.trans ?_⟩
    exact .next .comma hafter hrest
  case h_2 left hafter =>
    cases hread
    refine ⟨[item], first ++ [.closing .square], by simp, .lastItem hfirst, hleads.trans ?_⟩
    exact .last (.closing .square) hafter
  case h_3 => cases hread
  case h_4 => cases hread

/-- A member's name and colon, in front of the lexemes of its value. -/
theorem name_leads {raw chars after left middle : List Char} {lexemes : List Lexeme}
    (htext : skipBlanks text = '"' :: (raw ++ '"' :: after)) (hraw : Raw raw chars)
    (hcolon : skipBlanks after = ':' :: left) (h : Leads lexemes left middle) :
    Leads (.quoted (String.ofList chars) :: .colon :: lexemes) text middle :=
  .next (.quoted hraw) (by rw [htext]; simp) (.next .colon hcolon h)

theorem succ_members {done members : Members} (ih : ReadersSpell fuel)
    (h : readMembers (fuel + 1) depth done text = .ok (members, rest)) :
    ∃ entries lexemes, members = entries.foldl (fun members entry => Members.insert entry.1 entry.2 members) done ∧
      Spells (.members entries) lexemes ∧ Leads lexemes text rest := by
  unfold readMembers at h
  split at h
  case h_1 after htext =>
    obtain ⟨⟨name, afterName⟩, hname, hread⟩ := bind_ok_inv h
    obtain ⟨raw, chars, rfl, hraw, rfl⟩ := string_eq_ok hname
    dsimp only at hread
    split at hread
    case h_1 left hcolon =>
      obtain ⟨⟨value, afterValue⟩, hvalue, hread'⟩ := bind_ok_inv hread
      obtain ⟨first, hfirst, hleads⟩ := ih.value hvalue
      dsimp only at hread'
      split at hread'
      case h_1 last hcomma =>
        obtain ⟨entries, lexemes, rfl, hentries, hrest⟩ := ih.members hread'
        refine ⟨(String.ofList chars, value) :: entries, _, rfl, .member hfirst hentries, ?_⟩
        exact name_leads htext hraw hcolon (hleads.trans (.next .comma hcomma hrest))
      case h_2 last hbrace =>
        cases hread'
        refine ⟨[(String.ofList chars, value)], _, rfl, .lastMember hfirst, ?_⟩
        exact name_leads htext hraw hcolon (hleads.trans (.last (.closing .curly) hbrace))
      case h_3 => cases hread'
      case h_4 => cases hread'
    case h_2 => cases hread
    case h_3 => cases hread
  case h_2 => cases h
  case h_3 => cases h

end ReadersSpell

theorem readersSpell (fuel : Nat) : ReadersSpell fuel := by
  induction fuel with
  | zero =>
    refine ⟨?_, ?_, ?_⟩
    · intro _ _ _ _ h; cases h
    · intro _ _ _ _ _ h; cases h
    · intro _ _ _ _ _ h; cases h
  | succ fuel ih => exact ⟨ih.succ_value, ih.succ_items, ih.succ_members⟩

/-- A text of blanks has no lexemes. -/
theorem spaced_of_blank {text : List Char} (h : (skipBlanks text).isEmpty = true) : Spaced [] text := by
  have hleads : Leads [] text [] := by
    refine Leads.blanks ?_
    rw [List.isEmpty_iff.1 h]
    exact fun _ hothers => hothers
  exact hleads [] .nil

/-- The lexemes of a text that is read as JSON spell the value that is read. -/
theorem spelled_of_read {text : String} {value : Json} (h : read text = .ok value) :
    ∃ lexemes, Spells (.value value) lexemes ∧ Spaced lexemes text.toList := by
  obtain ⟨⟨v, rest⟩, hvalue, hread⟩ := bind_ok_inv h
  dsimp only at hread
  split_ifs at hread with hrest
  cases hread
  obtain ⟨lexemes, hspells, hleads⟩ := (readersSpell _).value hvalue
  have hspaced := hleads [] (spaced_of_blank hrest)
  rw [List.append_nil] at hspaced
  exact ⟨lexemes, hspells, hspaced⟩

end AddonConfig.Json
